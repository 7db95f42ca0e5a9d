import ProxyFleet.Proofs.Caddyfile.Merging

/-!
Merging conserves the targets of proxying directives, matcher by matcher, with one exception. A
directive without arguments is for all requests, and what joins it is written right behind its name:
if the first target given to it looks like a matcher, it is read as its matcher from then on.
-/

namespace ProxyFleet.Caddyfile

def IsProxyingName (name : String) : Prop :=
  name = "reverse_proxy" ∨ name = "php_fastcgi"

def isFor (name matcher : String) (b : Block) : Bool :=
  b.firstKey = name && b.matcher = matcher

/-- All targets that the siblings list for the requests of the matcher. -/
def targets (name matcher : String) (tree : List Block) : List String :=
  tree.flatMap fun b => if isFor name matcher b then b.arguments else []

/-- Merging lists the targets of both trees, each as often as it is listed there, and leaves the
matchers of the blocks of the base. -/
structure Conserves (base other : List Block) : Prop where
  perm : ∀ name matcher, IsProxyingName name →
    (targets name matcher (merge base other)).Perm
      (targets name matcher base ++ targets name matcher other)
  matchers : base.map Block.matcher <+: (merge base other).map Block.matcher

/-- The first directive of that name for all requests has no arguments, and the first target that is
merged into it looks like a matcher. -/
def Misread (name : String) (base other : List Block) : Prop :=
  ((base ++ other).find? (isFor name "*")).map Block.keys = some [name] ∧
    ∃ key ∈ (targets name "*" other).head?, isMatcher key = true

theorem isProxying_iff {b : Block} : b.isProxying = true ↔ IsProxyingName b.firstKey := by
  simp [Block.isProxying, IsProxyingName]

theorem isFor_iff {name matcher : String} {b : Block} :
    isFor name matcher b = true ↔ b.firstKey = name ∧ b.matcher = matcher := by
  simp [isFor]

theorem targets_append (name matcher : String) (as bs : List Block) :
    targets name matcher (as ++ bs) = targets name matcher as ++ targets name matcher bs :=
  List.flatMap_append

theorem targets_cons (name matcher : String) (b : Block) (rest : List Block) :
    targets name matcher (b :: rest) = targets name matcher [b] ++ targets name matcher rest :=
  targets_append name matcher [b] rest

theorem targets_of_isFor {name matcher : String} {b : Block} (h : isFor name matcher b = true) :
    targets name matcher [b] = b.arguments := by
  simp [targets, h]

theorem targets_of_not_isFor {name matcher : String} {b : Block}
    (h : isFor name matcher b = false) : targets name matcher [b] = [] := by
  simp [targets, h]

theorem isProxying_of_isFor {name matcher : String} {b : Block} (hname : IsProxyingName name)
    (hb : isFor name matcher b = true) : b.isProxying = true := by
  rw [isProxying_iff, (isFor_iff.1 hb).1]
  exact hname

/-- A proxying directive joins the first one of its name for the same requests. -/
theorem joins_eq_isFor {name matcher : String} {b : Block} (hname : IsProxyingName name)
    (hb : isFor name matcher b = true) : b.joins = isFor name matcher := by
  have hproxying := isProxying_of_isFor hname hb
  obtain ⟨rfl, rfl⟩ := isFor_iff.1 hb
  funext target
  rw [Bool.eq_iff_iff, isFor_iff]
  constructor
  · intro h
    exact ⟨firstKey_of_joins h, matcher_of_joins h⟩
  · rintro ⟨hn, hm⟩
    exact joins_iff.2 ⟨hn, Or.inl ⟨hproxying, hm⟩⟩

theorem isFor_of_joins (name matcher : String) {b target : Block} (hj : b.joins target = true) :
    isFor name matcher target = isFor name matcher b := by
  simp [isFor, firstKey_of_joins hj, matcher_of_joins hj]

/-! One block is merged in. -/

theorem merge_cons (base : List Block) (b : Block) (rest : List Block) :
    merge base (b :: rest) = merge (merge base [b]) rest := by
  simp only [merge, mergeInto]

theorem merge_singleton_cases (base : List Block) (b : Block) :
    base.find? b.joins = none ∧ merge base [b] = base ++ [b] ∨
      ∃ before target after, base = before ++ target :: after ∧ before.find? b.joins = none ∧
        b.joins target = true ∧ merge base [b] = before ++ join b target :: after := by
  simp only [merge, mergeInto, List.find?_eq_none, Bool.not_eq_true]
  exact changeFirst_cases b.joins (join b) b base

theorem find?_of_split {test : Block → Bool} {before after : List Block} {target : Block}
    (hbefore : before.find? test = none) (h : test target = true) :
    (before ++ target :: after).find? test = some target := by
  rw [List.find?_append, hbefore, List.find?_cons_of_pos h]
  rfl

/-- More words behind those of a directive are more arguments to it, unless it has none and the first
of them looks like a matcher. -/
theorem read_append {a b : Block} {more : List String} (hb : b.keys = a.keys ++ more)
    (hname : a.keys ≠ [])
    (h : a.keys = [a.firstKey] → ∀ key ∈ more.head?, isMatcher key = false) :
    b.matcher = a.matcher ∧ b.arguments = a.arguments ++ more := by
  unfold Block.matcher Block.arguments
  unfold Block.firstKey at h
  rw [hb]
  match a.keys, hname, h with
  | _ :: key :: rest, _, _ =>
    by_cases hkey : isMatcher key = true
    · simp [hkey]
    · simp [hkey]
  | [name], _, h =>
    cases more with
    | nil => exact ⟨rfl, rfl⟩
    | cons key rest =>
      have hkey : isMatcher key = false := h rfl key rfl
      simp [hkey]

/-- No target of the block that joins would be taken for a matcher of the directive that is there. -/
def Keeps (b target : Block) : Prop :=
  target.keys = [target.firstKey] → ∀ key ∈ b.arguments.head?, isMatcher key = false

theorem read_join {b target : Block} (hb : b.isProxying = true) (hj : b.joins target = true)
    (h : Keeps b target) :
    (join b target).matcher = target.matcher ∧
      (join b target).arguments = target.arguments ++ b.arguments := by
  refine read_append (keys_join_of_isProxying hb hj) (fun hk => ?_) h
  have hname := isProxying_iff.1 ((isProxying_of_joins hj).trans hb)
  simp [IsProxyingName, Block.firstKey, hk] at hname

theorem isFor_join {name : String} (matcher : String) {b target : Block}
    (hname : IsProxyingName name) (hj : b.joins target = true) (h : b.firstKey = name → Keeps b target) :
    isFor name matcher (join b target) = isFor name matcher b := by
  by_cases hn : b.firstKey = name
  · have hb : b.isProxying = true := isProxying_iff.2 (hn ▸ hname)
    simp [isFor, firstKey_join hj, firstKey_of_joins hj, (read_join hb hj (h hn)).1,
      matcher_of_joins hj]
  · simp [isFor, firstKey_join hj, firstKey_of_joins hj, hn]

/-- The targets of the block that joins are added to those of the same requests, and to no others. -/
theorem targets_join {name : String} (matcher : String) {b target : Block}
    (hname : IsProxyingName name) (hj : b.joins target = true)
    (h : b.firstKey = name → Keeps b target) :
    targets name matcher [join b target] =
      targets name matcher [target] ++ targets name matcher [b] := by
  have hjoin := isFor_join matcher hname hj h
  have htarget := isFor_of_joins name matcher hj
  cases hb : isFor name matcher b with
  | true =>
    have hkeeps := h (isFor_iff.1 hb).1
    rw [targets_of_isFor (hjoin.trans hb), targets_of_isFor (htarget.trans hb),
      targets_of_isFor hb, (read_join (isProxying_of_isFor hname hb) hj hkeeps).2]
  | false =>
    rw [targets_of_not_isFor (hjoin.trans hb), targets_of_not_isFor (htarget.trans hb),
      targets_of_not_isFor hb, List.append_nil]

/-! When a target is misread. -/

theorem isFor_of_misread {name : String} {base : List Block} {b : Block}
    (h : Misread name base [b]) : isFor name "*" b = true := by
  obtain ⟨-, key, hkey, -⟩ := h
  cases hb : isFor name "*" b with
  | true => rfl
  | false =>
    rw [targets_of_not_isFor hb] at hkey
    cases hkey

/-- Only what joins a directive without arguments can be misread. -/
theorem misread_singleton_iff {name : String} {base : List Block} {b : Block} :
    Misread name base [b] ↔ ∃ target, base.find? (isFor name "*") = some target ∧
      target.keys = [name] ∧ isFor name "*" b = true ∧
        ∃ key ∈ b.arguments.head?, isMatcher key = true := by
  constructor
  · intro h
    have hb := isFor_of_misread h
    obtain ⟨hfirst, harg⟩ := h
    rw [targets_of_isFor hb] at harg
    rw [List.find?_append] at hfirst
    cases hfind : base.find? (isFor name "*") with
    | some target =>
      rw [hfind] at hfirst
      exact ⟨target, rfl, by simpa using hfirst, hb, harg⟩
    | none =>
      obtain ⟨key, hkey, -⟩ := harg
      have hkeys : b.keys = [name] := by simpa [hfind, hb] using hfirst
      simp [Block.arguments, hkeys] at hkey
  · rintro ⟨target, hfind, hkeys, hb, harg⟩
    refine ⟨?_, ?_⟩
    · simp [List.find?_append, hfind, hkeys]
    · rw [targets_of_isFor hb]
      exact harg

theorem keeps_of_not_misread {name : String} {base : List Block} {b target : Block}
    (hname : IsProxyingName name) (hn : b.firstKey = name) (hfind : base.find? b.joins = some target)
    (h : ¬ Misread name base [b]) : Keeps b target := by
  intro hkeys key hkey
  have hj := List.find?_some hfind
  have htarget := (firstKey_of_joins hj).trans hn
  -- Without arguments it is for all requests, and so is what joins it.
  have hm : b.matcher = "*" := by
    rw [← matcher_of_joins hj, Block.matcher, hkeys]
  have hb : isFor name "*" b = true := isFor_iff.2 ⟨hn, hm⟩
  rw [joins_eq_isFor hname hb] at hfind
  cases hc : isMatcher key with
  | false => rfl
  | true =>
    have hkeys : target.keys = [name] := htarget ▸ hkeys
    exact absurd (misread_singleton_iff.2 ⟨target, hfind, hkeys, hb, key, hkey, hc⟩) h

/-! Targets are conserved step by step. -/

theorem targets_merge_singleton {name : String} (matcher : String) {base : List Block} {b : Block}
    (hname : IsProxyingName name) (h : ¬ Misread name base [b]) :
    (targets name matcher (merge base [b])).Perm
      (targets name matcher base ++ targets name matcher [b]) := by
  rcases merge_singleton_cases base b with
    ⟨-, he⟩ | ⟨before, target, after, rfl, hbefore, hj, he⟩
  · rw [he, targets_append]
  · have hadd := targets_join matcher hname hj
      fun hn => keeps_of_not_misread hname hn (find?_of_split hbefore hj) h
    rw [he]
    simp only [targets_append, targets_cons name matcher _ after, hadd, List.append_assoc]
    exact (List.perm_append_comm.append_left _).append_left _

theorem matchers_merge_singleton {base : List Block} {b : Block}
    (h : ∀ name, IsProxyingName name → ¬ Misread name base [b]) :
    base.map Block.matcher <+: (merge base [b]).map Block.matcher := by
  rcases merge_singleton_cases base b with
    ⟨-, he⟩ | ⟨before, target, after, rfl, hbefore, hj, he⟩
  · rw [he, List.map_append]
    exact List.prefix_append _ _
  · have hm : (join b target).matcher = target.matcher := by
      cases hb : b.isProxying with
      | false => exact matcher_eq_of_keys (keys_join hb)
      | true =>
        have hname := isProxying_iff.1 hb
        have hkeeps := keeps_of_not_misread hname rfl (find?_of_split hbefore hj) (h _ hname)
        exact (read_join hb hj hkeeps).1
    simp [he, hm]

/-- The first target has become the matcher, whatever that makes of the others. -/
theorem length_targets_join_le {name key : String} {rest : List String} {b target : Block}
    (hb : b.isProxying = true) (hj : b.joins target = true) (hkeys : target.keys = [name])
    (harg : b.arguments = key :: rest) (hkey : isMatcher key = true) :
    (targets name "*" [join b target]).length ≤ rest.length := by
  have hjoin := keys_join_of_isProxying hb hj
  rw [hkeys, harg] at hjoin
  have harguments : (join b target).arguments = rest := by
    unfold Block.arguments
    rw [hjoin]
    simp [hkey]
  cases hfor : isFor name "*" (join b target) with
  | true => simp [targets_of_isFor hfor, harguments]
  | false => simp [targets_of_not_isFor hfor]

theorem length_targets_lt {name : String} {base : List Block} {b : Block}
    (hname : IsProxyingName name) (h : Misread name base [b]) :
    (targets name "*" (merge base [b])).length <
      (targets name "*" base).length + (targets name "*" [b]).length := by
  obtain ⟨target, hfirst, hkeys, hb, key, hkey, hmatcher⟩ := misread_singleton_iff.1 h
  obtain ⟨rest, harg⟩ := List.head?_eq_some_iff.1 hkey
  rw [← joins_eq_isFor hname hb] at hfirst
  rcases merge_singleton_cases base b with ⟨hnone, -⟩ | ⟨before, t, after, rfl, hbefore, hj, he⟩
  · rw [hfirst] at hnone
    cases hnone
  · obtain rfl : t = target := by simpa [find?_of_split hbefore hj] using hfirst
    have hle := length_targets_join_le (isProxying_of_isFor hname hb) hj hkeys harg hmatcher
    have htarget : targets name "*" [t] = [] := by
      simp [targets, Block.arguments, hkeys]
    rw [he, targets_of_isFor hb, harg]
    simp only [targets_append, targets_cons name "*" _ after, htarget, List.length_append,
      List.length_cons, List.length_nil]
    omega

theorem length_targets_le {name : String} (base : List Block) (b : Block)
    (hname : IsProxyingName name) :
    (targets name "*" (merge base [b])).length ≤
      (targets name "*" base).length + (targets name "*" [b]).length := by
  by_cases h : Misread name base [b]
  · exact Nat.le_of_lt (length_targets_lt hname h)
  · have hlen := (targets_merge_singleton "*" hname h).length_eq
    rw [List.length_append] at hlen
    exact Nat.le_of_eq hlen

/-- What is not for all requests leaves the first directive that is. -/
theorem find?_merge_singleton {name : String} {base : List Block} {b : Block}
    (hname : IsProxyingName name) (hb : isFor name "*" b = false) :
    (merge base [b]).find? (isFor name "*") = base.find? (isFor name "*") := by
  rcases merge_singleton_cases base b with ⟨-, he⟩ | ⟨before, target, after, rfl, -, hj, he⟩
  · simp [he, List.find?_append, hb]
  · have hkeeps : b.firstKey = name → Keeps b target := by
      intro hn hkeys
      have hm : b.matcher = "*" := by rw [← matcher_of_joins hj, Block.matcher, hkeys]
      rw [isFor_iff.2 ⟨hn, hm⟩] at hb
      cases hb
    have hjoin := isFor_join "*" hname hj hkeeps
    have htarget := isFor_of_joins name "*" hj
    simp [he, List.find?_append, hjoin, htarget, hb]

/-- What is for all requests is the first such directive or is given to the one that is. -/
theorem keys_find?_merge_singleton {name : String} {base : List Block} {b : Block}
    (hname : IsProxyingName name) (hb : isFor name "*" b = true) (h : ¬ Misread name base [b]) :
    ((merge base [b]).find? (isFor name "*")).map Block.keys =
      some (((base.find? (isFor name "*")).map (·.keys ++ b.arguments)).getD b.keys) := by
  have hjoins := joins_eq_isFor hname hb
  rcases merge_singleton_cases base b with
    ⟨hnone, he⟩ | ⟨before, target, after, rfl, hbefore, hj, he⟩
  · rw [hjoins] at hnone
    simp [he, List.find?_append, hnone, hb]
  · have hjoined := isFor_join "*" hname hj fun hn =>
      keeps_of_not_misread hname hn (find?_of_split hbefore hj) h
    have hkeys := keys_join_of_isProxying (isProxying_of_isFor hname hb) hj
    rw [hjoins] at hbefore hj
    rw [he, find?_of_split hbefore hj, find?_of_split hbefore (hjoined.trans hb)]
    simp [hkeys]

/-- If the first block is not misread, what is misread is so once that block is there. -/
theorem misread_cons {name : String} {base : List Block} {b : Block} (rest : List Block)
    (hname : IsProxyingName name) (h : ¬ Misread name base [b]) :
    Misread name base (b :: rest) ↔ Misread name (merge base [b]) rest := by
  unfold Misread
  rw [targets_cons, List.find?_append, List.find?_append]
  cases hb : isFor name "*" b with
  | false =>
    rw [targets_of_not_isFor hb, find?_merge_singleton hname hb]
    simp [hb]
  | true =>
    have hstep := keys_find?_merge_singleton hname hb h
    rw [targets_of_isFor hb, Option.map_or, Option.map_or, hstep]
    cases hfind : base.find? (isFor name "*") with
    | none =>
      have hkeys : b.keys = [name] → b.arguments = [] := by
        intro hk
        rw [Block.arguments, hk]
      simp +contextual [hb, hkeys]
    | some target =>
      simp only [Option.map_some, Option.some_or, Option.getD_some, Option.some.injEq]
      cases harg : b.arguments with
      | nil => simp
      | cons first more =>
        obtain ⟨htarget, -⟩ := isFor_iff.1 (List.find?_some hfind)
        constructor
        · rintro ⟨hk, key, hkey, hmatcher⟩
          refine absurd (misread_singleton_iff.2 ⟨target, hfind, hk, hb, key, ?_, hmatcher⟩) h
          simpa [harg] using hkey
        · rintro ⟨hk, -⟩
          -- The name of a directive is one of its words.
          cases hkeys : target.keys with
          | nil => simp [IsProxyingName, ← htarget, Block.firstKey, hkeys] at hname
          | cons _ _ => simp [hkeys] at hk

theorem misread_of_singleton {name : String} {base : List Block} {b : Block} (rest : List Block)
    (h : Misread name base [b]) : Misread name base (b :: rest) := by
  obtain ⟨target, hfind, hkeys, hb, key, hkey, hmatcher⟩ := misread_singleton_iff.1 h
  refine ⟨by simp [List.find?_append, hfind, hkeys], key, ?_, hmatcher⟩
  rw [targets_cons, targets_of_isFor hb, List.head?_append, hkey]
  rfl

/-! A whole tree is merged in. -/

theorem conserves_of_not_misread {base other : List Block}
    (h : ∀ name, IsProxyingName name → ¬ Misread name base other) : Conserves base other := by
  induction other generalizing base with
  | nil =>
    refine ⟨fun name matcher _ => ?_, ?_⟩
    · simp [merge, mergeInto, targets]
    · simp [merge, mergeInto]
  | cons b rest ih =>
    have hone : ∀ name, IsProxyingName name → ¬ Misread name base [b] :=
      fun name hname hmis => h name hname (misread_of_singleton rest hmis)
    have hrest := ih fun name hname hmis =>
      h name hname ((misread_cons rest hname (hone name hname)).2 hmis)
    refine ⟨fun name matcher hname => ?_, ?_⟩
    · rw [merge_cons, targets_cons, ← List.append_assoc]
      have hstep := targets_merge_singleton matcher hname (hone name hname)
      exact (hrest.perm name matcher hname).trans (hstep.append_right _)
    · rw [merge_cons]
      exact (matchers_merge_singleton hone).trans hrest.matchers

theorem length_targets_merge_le {name : String} (base other : List Block)
    (hname : IsProxyingName name) :
    (targets name "*" (merge base other)).length ≤
      (targets name "*" base).length + (targets name "*" other).length := by
  induction other generalizing base with
  | nil => simp [merge, mergeInto]
  | cons b rest ih =>
    have hstep := length_targets_le base b hname
    have hrest := ih (merge base [b])
    rw [merge_cons, targets_cons, List.length_append]
    omega

theorem length_targets_lt_of_misread {name : String} {base other : List Block}
    (hname : IsProxyingName name) (h : Misread name base other) :
    (targets name "*" (merge base other)).length <
      (targets name "*" base).length + (targets name "*" other).length := by
  induction other generalizing base with
  | nil =>
    obtain ⟨-, key, hkey, -⟩ := h
    cases hkey
  | cons b rest ih =>
    rw [merge_cons, targets_cons, List.length_append]
    by_cases hone : Misread name base [b]
    · have hstep := length_targets_lt hname hone
      have hrest := length_targets_merge_le (merge base [b]) rest hname
      omega
    · have hstep := length_targets_le base b hname
      have hrest := ih ((misread_cons rest hname hone).1 h)
      omega

/-- Merging conserves the targets of each matcher and the matchers themselves if and only if no target
is misread. -/
theorem conserves_iff (base other : List Block) :
    Conserves base other ↔ ∀ name, IsProxyingName name → ¬ Misread name base other := by
  refine ⟨fun h name hname hmis => ?_, conserves_of_not_misread⟩
  have hlost := length_targets_lt_of_misread hname hmis
  have hkept := (h.perm name "*" hname).length_eq
  rw [List.length_append] at hkept
  omega

/-- The path of a socket, given to a directive without arguments, becomes its matcher. -/
theorem not_conserves_socket :
    ¬ Conserves [⟨["reverse_proxy"], 0, []⟩] [⟨["reverse_proxy", "*", "/sock", "b:80"], 0, []⟩] := by
  intro h
  have hmatchers := h.matchers
  revert hmatchers
  decide +kernel

end ProxyFleet.Caddyfile
