import ProxyFleet.Proofs.Caddyfile.Layout
import ProxyFleet.Proofs.Net.AddressText
import ProxyFleet.Proofs.Template.Literal
import ProxyFleet.Workload.Functions

/-!
The targets of a workload as words of a Caddyfile. Whatever addresses a workload has, a template that
asks for them with a port gives one word for each, which is the address, a colon and the port. The
word is an authority exactly if the address is of version 4.
-/

namespace ProxyFleet

namespace Caddyfile

open Text (isBlank)

/-- Words that need no quotes are written with spaces between them. -/
theorem toList_intercalate_space {ws : List String}
    (h : ∀ w ∈ ws, needsQuotes w.toList = false) :
    (String.intercalate " " ws).toList = writtenKeys ws := by
  have hbare : ∀ w ∈ ws, writtenKey w.toList = w.toList := by
    intro w hw
    simp [writtenKey, h w hw]
  clear h
  induction ws with
  | nil => rfl
  | cons w ws ih =>
    obtain ⟨hw, hws⟩ := List.forall_mem_cons.1 hbare
    cases ws with
    | nil => rw [String.intercalate_singleton, writtenKeys, hw]
    | cons v ws =>
      have hwritten : writtenKeys (w :: v :: ws) = w.toList ++ ' ' :: writtenKeys (v :: ws) := by
        rw [writtenKeys, hw]
        exact List.cons_ne_nil v ws
      rw [String.intercalate_cons_cons, String.toList_append, String.toList_append, ih hws,
        hwritten, List.append_assoc]
      rfl

theorem tokens_intercalate_space {ws : List String}
    (h : ∀ w ∈ ws, needsQuotes w.toList = false ∧ w.toList.head? ≠ some '#' ∧
      w.toList.head? ≠ some backtick) :
    (tokens (String.intercalate " " ws)).map (·.text) = ws := by
  have hlegible : ∀ w ∈ ws, Legible w := by
    intro w hw
    obtain ⟨hq, hhash, hbacktick⟩ := h w hw
    rw [legible_iff, Survives, hq]
    exact ⟨hhash, hbacktick⟩
  rw [tokens, toList_intercalate_space fun w hw => (h w hw).1]
  rcases (lays_writtenKeys ws).read 1 with ⟨-, hread⟩ | ⟨pre, key, post, rfl, hkey, -⟩
  · exact hread
  · exact absurd (hlegible key (by simp)) hkey

end Caddyfile

namespace Template

/-- An item is read that begins with a character that is not blank. -/
theorem exists_scan {ch : Char} (hch : Text.isBlank ch = false) {rest : List Char} {i : Item}
    {n : Nat} (hitem : ∀ offset, item false offset ch rest = .ok (i, n)) (offset : Nat) :
    ∃ l stop, scan ⟨ch :: rest, offset⟩ = .ok (l, ⟨rest.drop n, stop⟩) ∧ l.item = i := by
  have hskip : Cursor.skipBlanks ⟨ch :: rest, offset⟩ = ⟨ch :: rest, offset + byteSize []⟩ := by
    simp [Cursor.skipBlanks, Cursor.advance, hch]
  simp only [scan, hskip, Nat.lt_irrefl, decide_false, hitem]
  exact ⟨_, _, rfl, rfl⟩

theorem forall_isDigit_toDigits (n : Nat) : ∀ c ∈ Nat.toDigits 10 n, c.isDigit = true :=
  fun _ hc => Nat.isDigit_of_mem_toDigits (by decide) (Nat.le_refl 10) hc

theorem number?_toDigits {n : Nat} (h : n < 0x8000000000000000) :
    number? (Nat.toDigits 10 n) = some (.int n) := by
  have hdigits := forall_isDigit_toDigits n
  have hvalue : digitsValue (Nat.toDigits 10 n) = n := by
    have hfold := Nat.ofDigitChars_ten_toDigits (n := n)
    simp only [Nat.ofDigitChars, Nat.mul_comm 10] at hfold
    exact hfold
  have hsigned : signed (Nat.toDigits 10 n) = (false, Nat.toDigits 10 n) := by
    unfold signed
    split
    · next rest he => exact absurd (hdigits '-' (by simp [he])) (by decide)
    · next rest he => exact absurd (hdigits '+' (by simp [he])) (by decide)
    · rfl
  have hwhole : wholeNumber? (Nat.toDigits 10 n) = some (n : Int) := by
    have hall : (Nat.toDigits 10 n).all Char.isDigit = true := List.all_eq_true.2 hdigits
    simp [wholeNumber?, hsigned, hall, hvalue, h, Nat.toDigits_ne_nil]
  rw [number?, hwhole]

/-- A number behind a space is read up to a character that cannot be part of it. -/
theorem exists_scan_number {n : Nat} (h : n < 0x8000000000000000) {e : Char}
    (he : isNumberChar e = false) (rest : List Char) (offset : Nat) :
    ∃ l stop, scan ⟨' ' :: (Nat.toDigits 10 n ++ e :: rest), offset⟩ = .ok (l, ⟨e :: rest, stop⟩) ∧
      l.item = .literal (.int n) := by
  have hdigits := forall_isDigit_toDigits n
  have hnumber := number?_toDigits h
  obtain ⟨d, ds, hd⟩ := List.exists_cons_of_ne_nil (Nat.toDigits_ne_nil (n := n) (b := 10))
  rw [hd] at hnumber hdigits ⊢
  obtain ⟨hdigit, hdigits⟩ := List.forall_mem_cons.1 hdigits
  have hmore : (ds ++ e :: rest).takeWhile isNumberChar = ds := by
    have hchars : ∀ c ∈ ds, isNumberChar c = true := by
      intro c hc
      simp [isNumberChar, Char.isAlphanum, hdigits c hc]
    rw [List.takeWhile_append_of_pos hchars, List.takeWhile_cons_of_neg (by simp [he]),
      List.append_nil]
  have hne {c : Char} (hc : c.isDigit = false) : d ≠ c :=
    ne_of_apply_ne Char.isDigit (by simp [hdigit, hc])
  have hitem (offset : Nat) :
      item true offset d (ds ++ e :: rest) = .ok (.literal (.int n), ds.length) := by
    have hspecial : d ≠ '\x7d' ∧ d ≠ '-' ∧ d ≠ '|' ∧ d ≠ '(' ∧ d ≠ ')' ∧ d ≠ '"' ∧ d ≠ backtick ∧
        d ≠ '.' := by
      refine ⟨?_, ?_, ?_, ?_, ?_, ?_, ?_, ?_⟩ <;> exact hne (by decide)
    simp [item, hspecial, hdigit, hmore, hnumber]
  obtain ⟨l, stop, hscan, hl⟩ := exists_scan_space
    (Net.isBlank_of_isAddressChar (Net.isAddressChar_of_isDigit hdigit)) hitem offset
  rw [List.drop_left] at hscan
  exact ⟨l, stop, hscan, hl⟩

/-- An action that is no comment is what its lexemes make up. -/
theorem action_of_read {fs : Functions} {c : Cursor} {ls : Lexemes} {p : Pipeline}
    (hcomment : commentLength c = none) (hread : Lexemes.read c = ls)
    (hassemble : assemble fs [] {} false ls = .ok p) : action fs c = .ok (some p, ls.after) := by
  simp only [action, hcomment, hread, hassemble]

end Template

namespace Workload

open Template (Functions)

theorem exists_scan_upstreams (rest : List Char) (offset : Nat) :
    ∃ l stop, Template.scan ⟨"upstreams".toList ++ ' ' :: rest, offset⟩ =
        .ok (l, ⟨' ' :: rest, stop⟩) ∧
      l.item = .ident "upstreams" := by
  have hitem (offset : Nat) : Template.item false offset 'u' ("pstreams".toList ++ ' ' :: rest) =
      .ok (.ident "upstreams", 8) := by
    have hletters : ∀ c ∈ "pstreams".toList, Template.isIdentChar c = true :=
      List.all_eq_true.1 (by decide)
    have hspace : ¬ Template.isIdentChar ' ' = true := by decide
    have hmore : ("pstreams".toList ++ ' ' :: rest).takeWhile Template.isIdentChar =
        "pstreams".toList := by
      rw [List.takeWhile_append_of_pos hletters, List.takeWhile_cons_of_neg hspace,
        List.append_nil]
    have hletter : Text.isLetter 'u' = true := by decide
    simp only [Template.item, hmore, hletter]
    rfl
  have hblank : Text.isBlank 'u' = false := by decide
  exact Template.exists_scan hblank hitem offset

def portCall (port : Nat) : List Char :=
  "upstreams".toList ++ ' ' :: (Nat.toDigits 10 port ++ ['\x7d', '\x7d'])

variable {fs : Functions} {port : Nat}

theorem exists_action_portCall (hfs : fs.defines "upstreams" = true)
    (hport : port < 0x8000000000000000) (offset : Nat) :
    ∃ stop, Template.action fs ⟨portCall port, offset⟩ =
      .ok (some [[.function "upstreams", .literal (.int port)]], ⟨[], stop⟩) := by
  obtain ⟨name, afterName, hscanName, hname⟩ :=
    exists_scan_upstreams (Nat.toDigits 10 port ++ ['\x7d', '\x7d']) offset
  obtain ⟨number, afterNumber, hscanNumber, hnumber⟩ :=
    Template.exists_scan_number hport (e := '\x7d') (by decide) ['\x7d'] afterName
  have hblank : Text.isBlank '\x7d' = false := by decide
  have hclosing (offset : Nat) : Template.item false offset '\x7d' ['\x7d'] = .ok (.stop, 1) := rfl
  obtain ⟨last, stop, hscanLast, hlast⟩ := Template.exists_scan hblank hclosing afterNumber
  have hread := Template.Lexemes.read_of_ok hscanName
  rw [Template.Lexemes.read_of_ok hscanNumber, Template.Lexemes.read_of_ok hscanLast] at hread
  simp only [hname, hnumber, hlast, Template.Lexemes.isStop, Bool.false_eq_true, if_true,
    if_false] at hread
  refine ⟨stop, Template.action_of_read rfl hread ?_⟩
  simp [Template.assemble, hname, hnumber, hfs, Template.Partial.add, Template.Partial.finish]

theorem parse_upstreams (hfs : fs.defines "upstreams" = true) (hport : port < 0x8000000000000000) :
    Template.parse fs ("\x7b\x7bupstreams " ++ toString port ++ "\x7d\x7d") =
      .ok [.action [[.function "upstreams", .literal (.int port)]]] := by
  have htext : ("\x7b\x7bupstreams " ++ toString port ++ "\x7d\x7d").toList =
      '\x7b' :: '\x7b' :: portCall port := by
    rw [Nat.toString_eq_ofList_toDigits, String.toList_append, String.toList_append,
      String.toList_ofList]
    unfold portCall
    simp
  have henter : Template.Cursor.enter ⟨'\x7b' :: '\x7b' :: portCall port, 0⟩ [] =
      ⟨portCall port, Template.byteSize ['\x7b', '\x7b']⟩ := rfl
  have hcut : Template.cutAtOpen ('\x7b' :: '\x7b' :: portCall port) =
      some ([], portCall port) := rfl
  obtain ⟨stop, haction⟩ := exists_action_portCall hfs hport (Template.byteSize ['\x7b', '\x7b'])
  have hrest : Template.nodes fs ⟨[], stop⟩ = .ok [] := Template.nodes_of_plain rfl
  rw [Template.parse, htext, Template.nodes_of_action hcut, henter, haction]
  simp only [hrest]
  rfl

/-- What the call gives: every target with the port behind it. -/
theorem execute_upstreams (targets : List String) (port : Nat) (localDomain : Option String)
    (data : Json) :
    Template.execute (functions (.ok targets) localDomain) data
        [.action [[.function "upstreams", .literal (.int port)]]] =
      .ok (String.intercalate " " (targets.map (· ++ ":" ++ toString port))) := by
  have hdecorated : decorated [.int port] = fun target => .ok (target ++ ":" ++ toString port) := by
    funext target
    rfl
  have hcall : Template.call (functions (.ok targets) localDomain) "upstreams" [.int port] =
      .ok (.str (String.intercalate " " (targets.map (· ++ ":" ++ toString port)))) := by
    have hmap : targets.mapM (decorated [.int port]) =
        .ok (targets.map (· ++ ":" ++ toString port)) := by
      rw [hdecorated]
      exact List.mapM_pure
    have hfind : (functions (.ok targets) localDomain).find? "upstreams" =
        some (upstreams (.ok targets)) := rfl
    simp only [Template.call, hfind, upstreams, hmap]
    rfl
  simp [Template.execute, Template.evalNode, Template.evalPipeline, Template.evalCommand,
    Template.evalOperands, Template.evalOperand, hcall, Template.valueText, bind, Except.bind]

/-- An address with a port can be written without quotes, and is neither a comment nor quoted. -/
theorem bare_of_isAddressChar {word : String} (hne : word.toList ≠ [])
    (h : ∀ c ∈ word.toList, Net.isAddressChar c = true) :
    Caddyfile.needsQuotes word.toList = false ∧ word.toList.head? ≠ some '#' ∧
      word.toList.head? ≠ some Caddyfile.backtick := by
  have hhead {d : Char} (hd : Net.isAddressChar d = false) : word.toList.head? ≠ some d := by
    intro hword
    exact Net.ne_of_isAddressChar (h d (List.mem_of_mem_head? hword)) hd rfl
  refine ⟨?_, hhead (by decide), hhead (by decide)⟩
  have hplain : ∀ c ∈ word.toList,
      (Text.isBlank c || decide (c = '"') || decide (c = '\'')) = false := by
    intro c hc
    have hblank := Net.isBlank_of_isAddressChar (h c hc)
    have hquote : c ≠ '"' := Net.ne_of_isAddressChar (h c hc) (by decide)
    have hapostrophe : c ≠ '\'' := Net.ne_of_isAddressChar (h c hc) (by decide)
    simp [hblank, hquote, hapostrophe]
  rw [Caddyfile.needsQuotes, Bool.or_eq_false_iff, List.isEmpty_eq_false_iff, List.any_eq_false]
  refine ⟨hne, fun c hc => ?_⟩
  rw [hplain c hc]
  exact Bool.false_ne_true

/-- However many addresses of whatever version a workload has, asking for them with a port gives one
word for each in turn, the address with a colon and the port behind it. These are the authorities
that the addresses have at the port exactly if no address is of version 6. -/
theorem upstreams_with_port {targets : List String}
    (htargets : ∀ t ∈ targets, (Net.Address.parse? t).isSome = true) {port : Nat}
    (hport : port ≤ 65535) (localDomain : Option String) (data : Json) :
    ∃ nodes text,
      Template.parse (functions (.ok targets) localDomain)
          ("\x7b\x7bupstreams " ++ toString port ++ "\x7d\x7d") = .ok nodes ∧
        Template.execute (functions (.ok targets) localDomain) data nodes = .ok text ∧
        (Caddyfile.tokens text).map (·.text) = targets.map (· ++ ":" ++ toString port) ∧
        ((Caddyfile.tokens text).map (·.text) = targets.map (Net.authority · port) ↔
          ∀ t ∈ targets, ∃ bits, Net.Address.parse? t = some (.v4 bits)) := by
  have hwords : ∀ w ∈ targets.map (· ++ ":" ++ toString port),
      Caddyfile.needsQuotes w.toList = false ∧ w.toList.head? ≠ some '#' ∧
        w.toList.head? ≠ some Caddyfile.backtick := by
    intro w hw
    obtain ⟨t, ht, rfl⟩ := List.mem_map.1 hw
    obtain ⟨a, ha⟩ := Option.isSome_iff_exists.1 (htargets t ht)
    have hdigits : ∀ c ∈ (toString port).toList, Net.isAddressChar c = true := by
      intro c hc
      rw [Nat.toString_eq_ofList_toDigits, String.toList_ofList] at hc
      exact Net.isAddressChar_of_isDigit (Template.forall_isDigit_toDigits port c hc)
    refine bare_of_isAddressChar (by simp) ?_
    rw [String.toList_append, String.toList_append]
    exact List.forall_mem_append.2 ⟨List.forall_mem_append.2
      ⟨Net.Address.isAddressChar_of_parse? ha, List.forall_mem_singleton.2 (by decide)⟩, hdigits⟩
  have htokens := Caddyfile.tokens_intercalate_space hwords
  refine ⟨_, _, parse_upstreams rfl (by omega), execute_upstreams targets port localDomain data,
    htokens, ?_⟩
  rw [htokens, List.map_inj_left]
  refine forall₂_congr fun t ht => ?_
  obtain ⟨a, ha⟩ := Option.isSome_iff_exists.1 (htargets t ht)
  rw [eq_comm, Net.authority_eq_iff ha, ha]
  simp only [Option.some.injEq]

theorem upstreams_with_port_mixed :
    ∃ nodes text,
      Template.parse (functions (.ok ["10.0.0.2", "fd00::2"]) none)
          ("\x7b\x7bupstreams " ++ toString 8080 ++ "\x7d\x7d") = .ok nodes ∧
        Template.execute (functions (.ok ["10.0.0.2", "fd00::2"]) none) .null nodes = .ok text ∧
        (Caddyfile.tokens text).map (·.text) = ["10.0.0.2:8080", "fd00::2:8080"] ∧
        (Caddyfile.tokens text).map (·.text) ≠
          ["10.0.0.2", "fd00::2"].map (Net.authority · 8080) := by
  have htargets : ∀ t ∈ ["10.0.0.2", "fd00::2"], (Net.Address.parse? t).isSome = true := by decide
  have hport : 8080 ≤ 65535 := by decide
  obtain ⟨nodes, text, hread, htext, hwords, hiff⟩ := upstreams_with_port htargets hport none .null
  refine ⟨nodes, text, hread, htext, hwords.trans (by decide), fun hall => ?_⟩
  obtain ⟨bits, hbits⟩ := hiff.1 hall "fd00::2" (by decide)
  have hv6 : Net.Address.parse? "fd00::2" = some (.v6 0xfd000000000000000000000000000002#128) := by
    decide
  rw [hv6] at hbits
  cases hbits

/-- An address of version 6 and a port are joined to a text that is another address of version 6. -/
theorem not_authority_of_v6 :
    Template.parse (functions (.ok ["fd00::2"]) none)
          ("\x7b\x7bupstreams " ++ toString 80 ++ "\x7d\x7d") =
        .ok [.action [[.function "upstreams", .literal (.int 80)]]] ∧
      Template.execute (functions (.ok ["fd00::2"]) none) .null
          [.action [[.function "upstreams", .literal (.int 80)]]] = .ok "fd00::2:80" ∧
      (Caddyfile.tokens "fd00::2:80").map (·.text) = ["fd00::2:80"] ∧
      Net.authority "fd00::2" 80 = "[fd00::2]:80" ∧
      (Net.Address.parse? "fd00::2:80").isSome = true := by
  refine ⟨parse_upstreams rfl (by decide), execute_upstreams _ 80 none .null, ?_, ?_, ?_⟩
  · decide +kernel
  · decide +kernel
  · decide +kernel

end Workload

end ProxyFleet
