import Mathlib.Data.List.TakeWhile
import ProxyFleet.Proofs.Net.UrlPath

/-!
The port in the text of a URL. A URL to connect to has a port exactly if its text spells one that
the scheme does not imply.
-/

namespace ProxyFleet.Net.Url

/-- All brackets are closed, and no colon stands outside of them. -/
def enclosed (inBrackets : Bool) : List Char → Bool
  | [] => !inBrackets
  | c :: rest =>
    (c ≠ ':' || inBrackets) &&
      enclosed (if c = '[' then true else if c = ']' then false else inBrackets) rest

/-- A URL with a port, in pieces: the scheme in letters of either case, the slashes, what names a
user, the host, the digits of the port and what follows them. -/
structure Ported where
  scheme : String
  name : List Char
  slashes : List Char
  user : List Char
  host : List Char
  digits : List Char
  tail : List Char
  known : scheme = "tcp" ∨ scheme = "http"
  named : name.map Char.toLower = scheme.toList
  slashed : slashes = ['/', '/'] ∨ isWeb scheme = true ∧ ∀ c ∈ slashes, c = '/' ∨ c = '\\'
  within : ∀ c ∈ user ++ host, endsAuthority (isWeb scheme) c = false
  userEnds : user = [] ∨ ∃ front, user = front ++ ['@']
  hostEnds : enclosed false host = true ∧ '@' ∉ host
  numeric : digits ≠ [] ∧ ∀ c ∈ digits, c.isDigit = true
  tailBegins : ∀ c ∈ tail.head?, c = '/' ∨ c = '?' ∨ c = '#' ∨ c = '\\'
  noUser : '@' ∉ tail.takeWhile fun c => !endsAuthority (isWeb scheme) c

namespace Ported

def behind (u : Ported) : List Char := u.user ++ (u.host ++ ':' :: (u.digits ++ u.tail))

def chars (u : Ported) : List Char := u.name ++ ':' :: (u.slashes ++ u.behind)

def front (u : Ported) : List Char := u.tail.takeWhile fun c => !endsAuthority (isWeb u.scheme) c

def port (u : Ported) : Nat := Number.digitsValue 10 u.digits

end Ported

theorem endsAuthority_of_isDigit (web : Bool) {c : Char} (h : c.isDigit = true) :
    endsAuthority web c = false := by
  have hne {d : Char} (hd : d.isDigit = false) : c ≠ d :=
    ne_of_apply_ne Char.isDigit (by simp [h, hd])
  simp [endsAuthority, hne (d := '/') (by decide), hne (d := '?') (by decide),
    hne (d := '#') (by decide), hne (d := '\\') (by decide)]

theorem takeWhile_within {web : Bool} {whole rest : List Char}
    (hwhole : ∀ c ∈ whole, endsAuthority web c = false)
    (hrest : ∀ c ∈ rest.head?, endsAuthority web c = true) :
    (whole ++ rest).takeWhile (fun c => !endsAuthority web c) = whole := by
  have hwithin : ∀ c ∈ whole, (!endsAuthority web c) = true := by
    intro c hc
    rw [hwhole c hc]
    rfl
  have hstop : rest.takeWhile (fun c => !endsAuthority web c) = [] := by
    cases rest with
    | nil => rfl
    | cons c cs => exact List.takeWhile_cons_of_neg (by simp [hrest c rfl])
  rw [List.takeWhile_append_of_pos hwithin, hstop, List.append_nil]

theorem hostPart_of_enclosed {host : List Char} {inBrackets : Bool}
    (h : enclosed inBrackets host = true) (rest : List Char) :
    hostPart inBrackets (host ++ ':' :: rest) = (host, ':' :: rest) := by
  induction host generalizing inBrackets with
  | nil =>
    rw [enclosed, Bool.not_eq_true'] at h
    subst h
    rfl
  | cons c host ih =>
    rw [enclosed, Bool.and_eq_true] at h
    obtain ⟨hcolon, hhost⟩ := h
    have hstays : ¬ (c = ':' && !inBrackets) = true := by
      cases inBrackets with
      | true => simp
      | false => simpa using hcolon
    rw [List.cons_append, hostPart, if_neg hstays, ih hhost]

/-- What names a user ends with the last at sign. -/
theorem userInfo?_append {user place : List Char} (huser : user = [] ∨ ∃ front, user = front ++ ['@'])
    (hplace : '@' ∉ place) : ((userInfo? (user ++ place)).getD ([], user ++ place)).2 = place := by
  rcases huser with rfl | ⟨front, rfl⟩
  · simp [userInfo?, hplace]
  · have hreverse : (front ++ ['@'] ++ place).reverse = place.reverse ++ '@' :: front.reverse := by
      simp
    have hback : (place.reverse ++ '@' :: front.reverse).takeWhile (· ≠ '@') = place.reverse := by
      have hpos : ∀ c ∈ place.reverse, decide (c ≠ '@') = true := by
        intro c hc
        refine decide_eq_true ?_
        rintro rfl
        exact hplace (List.mem_reverse.1 hc)
      rw [List.takeWhile_append_of_pos hpos, List.takeWhile_cons_of_neg (by decide),
        List.append_nil]
    have hcontains : (front ++ ['@'] ++ place).contains '@' = true := by simp
    rw [userInfo?, if_pos hcontains, hreverse, hback, List.reverse_reverse]
    rfl

theorem port?_of_ofAuthority {scheme : String} {cs whole place rest host after : List Char}
    {url : Url} (hauthority : authority (isWeb scheme) cs = (whole, rest))
    (hplace : ((userInfo? whole).getD ([], whole)).2 = place)
    (hhost : hostPart false place = (host, after)) (h : ofAuthority scheme cs = .ok url) :
    url.scheme = scheme ∧
      port? (webPorts.lookup scheme)
        (if isWeb scheme then after else after.takeWhile (· ≠ '\\')) = .ok url.port := by
  simp only [ofAuthority, hauthority, bind, Except.bind] at h
  obtain ⟨user, hsplit⟩ : ∃ user, (userInfo? whole).getD ([], whole) = (user, place) :=
    ⟨_, Prod.ext rfl hplace⟩
  rw [hsplit] at h
  simp only [hhost] at h
  split at h
  · cases h
  · split at h
    · cases h
    · split at h
      · cases h
      · next hport =>
        cases h
        rw [apply_ite Prod.fst] at hport
        exact ⟨rfl, hport⟩

/-- Digits alone are read as their value, unless the scheme implies it. -/
theorem eq_of_port?_digits {implied port : Option Nat} {digits : List Char} (hne : digits ≠ [])
    (hdigits : ∀ c ∈ digits, c.isDigit = true) (h : port? implied (':' :: digits) = .ok port) :
    port = if some (Number.digitsValue 10 digits) = implied then none
      else some (Number.digitsValue 10 digits) := by
  have hend : digits.dropWhile Char.isDigit = [] := List.dropWhile_eq_nil_iff.2 hdigits
  simp only [port?, List.takeWhile_eq_self_iff.2 hdigits, hend, List.isEmpty_eq_false_iff.2 hne,
    Bool.false_or, decide_eq_true_eq] at h
  split at h
  · cases h
  · split at h
    · next himplied =>
      cases h
      rw [if_pos himplied]
    · next himplied =>
      cases h
      rw [if_neg himplied]

namespace Ported

variable (u : Ported)

theorem isAlpha_of_mem_name {c : Char} (hc : c ∈ u.name) : c.isAlpha = true := by
  have hletters : ∀ d ∈ u.scheme.toList, d.isAlpha = true := by
    rcases u.known with h | h <;> rw [h] <;> exact List.all_eq_true.1 (by decide)
  have hlower : c.toLower.isAlpha = true := by
    refine hletters _ ?_
    rw [← u.named]
    exact List.mem_map_of_mem hc
  by_cases hupper : c.isUpper = true
  · exact Bool.or_eq_true_iff.2 (.inl hupper)
  · have hsame : c.toLower = c := dif_neg (mt decide_eq_true hupper)
    rwa [hsame] at hlower

theorem scheme?_chars : scheme? u.chars = some (u.scheme, u.slashes ++ u.behind) := by
  have hname : ∀ c ∈ u.name, isSchemeChar c = true := by
    intro c hc
    simp [isSchemeChar, Char.isAlphanum, u.isAlpha_of_mem_name hc]
  have hlower : String.ofList (u.name.map Char.toLower) = u.scheme := by
    rw [u.named, String.ofList_toList]
  have hcolon : ¬ isSchemeChar ':' = true := by decide
  have htake : u.chars.takeWhile isSchemeChar = u.name := by
    rw [chars, List.takeWhile_append_of_pos hname, List.takeWhile_cons_of_neg hcolon,
      List.append_nil]
  have hdrop : u.chars.dropWhile isSchemeChar = ':' :: (u.slashes ++ u.behind) := by
    rw [chars, List.dropWhile_append_of_pos hname, List.dropWhile_cons_of_neg hcolon]
  have hne : u.name ≠ [] := by
    intro hnil
    have hnamed := u.named
    rw [hnil] at hnamed
    rcases u.known with h | h <;> rw [h] at hnamed <;> exact absurd hnamed (by decide)
  obtain ⟨c, more, hc⟩ := List.exists_cons_of_ne_nil hne
  have halpha : c.isAlpha = true := u.isAlpha_of_mem_name (by rw [hc]; exact List.mem_cons_self)
  rw [hc] at hlower
  simp only [scheme?, htake, hdrop, hc, halpha, if_true, hlower]

/-- For the web any number of slashes and backslashes stands in front of the authority. -/
theorem dropSlashes_eq (hweb : isWeb u.scheme = true) :
    dropSlashes (u.slashes ++ u.behind) = u.behind := by
  have hslashes : ∀ c ∈ u.slashes, (c = '/' || c = '\\') = true := by
    rcases u.slashed with h | ⟨-, h⟩
    · rw [h]
      simp
    · intro c hc
      simpa using h c hc
  have hbehind : u.behind = u.user ++ u.host ++ ':' :: (u.digits ++ u.tail) := by
    simp [behind]
  have hstop : u.behind.dropWhile (fun c => c = '/' || c = '\\') = u.behind := by
    have hwithin := u.within
    rw [hbehind]
    cases hfront : u.user ++ u.host with
    | nil => exact List.dropWhile_cons_of_neg (by decide)
    | cons c rest =>
      rw [hfront, hweb] at hwithin
      have hc : ((c ≠ '/' ∧ c ≠ '?') ∧ c ≠ '#') ∧ c ≠ '\\' := by
        simpa [endsAuthority] using hwithin c List.mem_cons_self
      refine List.dropWhile_cons_of_neg ?_
      simp [hc]
  rw [dropSlashes, List.dropWhile_append_of_pos hslashes, hstop]

/-- The authority ends at a slash, a question mark or a number sign. -/
theorem authority_behind : authority (isWeb u.scheme) u.behind =
    (u.user ++ (u.host ++ ':' :: (u.digits ++ u.front)),
      u.tail.dropWhile fun c => !endsAuthority (isWeb u.scheme) c) := by
  have hwithin : ∀ c ∈ u.user ++ u.host ++ ':' :: u.digits,
      (!endsAuthority (isWeb u.scheme) c) = true := by
    have hcolon : endsAuthority (isWeb u.scheme) ':' = false := by
      cases isWeb u.scheme <;> decide
    intro c hc
    rw [Bool.not_eq_true']
    rcases List.mem_append.1 hc with hc | hc
    · exact u.within c hc
    · obtain rfl | hc := List.mem_cons.1 hc
      · exact hcolon
      · exact endsAuthority_of_isDigit _ (u.numeric.2 c hc)
  have hbehind : u.behind = u.user ++ u.host ++ ':' :: u.digits ++ u.tail := by
    simp [behind]
  rw [authority, hbehind, List.takeWhile_append_of_pos hwithin,
    List.dropWhile_append_of_pos hwithin]
  simp [front]

/-- Behind the digits the authority holds nothing, or a backslash that ends them. -/
theorem front_eq : u.front = [] ∨ isWeb u.scheme = false ∧ u.front.head? = some '\\' := by
  unfold front
  cases htail : u.tail with
  | nil => exact .inl rfl
  | cons c rest =>
    have hbegins := u.tailBegins c (by rw [htail]; rfl)
    cases hends : endsAuthority (isWeb u.scheme) c with
    | true => exact .inl (List.takeWhile_cons_of_neg (by simp [hends]))
    | false =>
      obtain ⟨⟨⟨hslash, hquery⟩, hfragment⟩, hback⟩ : ((c ≠ '/' ∧ c ≠ '?') ∧ c ≠ '#') ∧
          (isWeb u.scheme = true → c ≠ '\\') := by
        simpa [endsAuthority] using hends
      obtain rfl : c = '\\' :=
        ((hbegins.resolve_left hslash).resolve_left hquery).resolve_left hfragment
      rw [List.takeWhile_cons_of_pos (by simp [hends])]
      exact .inr ⟨Bool.eq_false_iff.2 fun hweb => hback hweb rfl, rfl⟩

theorem portText_eq : (if isWeb u.scheme then ':' :: (u.digits ++ u.front)
      else (':' :: (u.digits ++ u.front)).takeWhile (· ≠ '\\')) = ':' :: u.digits := by
  have hdigits : ∀ c ∈ ':' :: u.digits, decide (c ≠ '\\') = true := by
    refine List.forall_mem_cons.2 ⟨by decide, fun c hc => decide_eq_true ?_⟩
    rintro rfl
    exact absurd (u.numeric.2 _ hc) (by decide)
  rcases u.front_eq with hfront | ⟨hweb, hfront⟩
  · rw [hfront, List.append_nil, List.takeWhile_eq_self_iff.2 hdigits, ite_self]
  · obtain ⟨rest, hrest⟩ := List.head?_eq_some_iff.1 hfront
    rw [hweb, if_neg Bool.false_ne_true, hrest, ← List.cons_append,
      List.takeWhile_append_of_pos hdigits, List.takeWhile_cons_of_neg (by decide),
      List.append_nil]

/-- The port of a URL is the one that is spelled, or none if it is the one that the scheme
implies. -/
theorem port_of_parse {text : String} {url : Url} (htext : cleaned text = u.chars)
    (h : parse text = .ok url) :
    url.scheme = u.scheme ∧
      url.port = if some u.port = webPorts.lookup u.scheme then none else some u.port := by
  have hauthority : ofAuthority u.scheme u.behind = .ok url := by
    simp only [parse, htext, u.scheme?_chars] at h
    rcases u.known with hscheme | hscheme
    · have hslashes : u.slashes = ['/', '/'] := u.slashed.resolve_right (by
        rw [hscheme]
        exact fun hweb => absurd hweb.1 (by decide))
      rw [hscheme, hslashes] at h
      rw [hscheme]
      exact h
    · have hweb : isWeb u.scheme = true := by
        rw [hscheme]
        decide
      rw [u.dropSlashes_eq hweb, hscheme] at h
      rw [hscheme]
      exact h
  obtain ⟨henclosed, hat⟩ := u.hostEnds
  have hplace : '@' ∉ u.host ++ ':' :: (u.digits ++ u.front) := by
    have hdigits : '@' ∉ u.digits := fun h => absurd (u.numeric.2 _ h) (by decide)
    simp only [List.mem_append, List.mem_cons, not_or]
    exact ⟨hat, by decide, hdigits, u.noUser⟩
  obtain ⟨hscheme, hport⟩ := port?_of_ofAuthority u.authority_behind
    (userInfo?_append u.userEnds hplace) (hostPart_of_enclosed henclosed _) hauthority
  rw [u.portText_eq] at hport
  exact ⟨hscheme, eq_of_port?_digits u.numeric.1 u.numeric.2 hport⟩

end Ported

/-! Every port that is read is spelled. -/

theorem hostPart_cases {inBrackets : Bool} {place host after : List Char}
    (h : hostPart inBrackets place = (host, after)) :
    place = host ++ after ∧
      (after = [] ∨ enclosed inBrackets host = true ∧ ∃ digits, after = ':' :: digits) := by
  induction place generalizing inBrackets host after with
  | nil =>
    cases h
    exact ⟨rfl, .inl rfl⟩
  | cons c place ih =>
    rw [hostPart] at h
    split at h
    · next hstops =>
      cases h
      obtain ⟨rfl, hout⟩ : c = ':' ∧ inBrackets = false := by simpa using hstops
      exact ⟨rfl, .inr ⟨by rw [enclosed, hout]; rfl, place, rfl⟩⟩
    · next hstays =>
      cases h
      obtain ⟨hplace, hafter⟩ := ih rfl
      refine ⟨congrArg (c :: ·) hplace, hafter.imp_right fun ⟨hhost, hcolon⟩ => ⟨?_, hcolon⟩⟩
      rw [enclosed, hhost, Bool.and_true]
      cases inBrackets with
      | true => simp
      | false => simpa using hstays

theorem userInfo?_cases (whole : List Char) :
    ∃ user place, whole = user ++ place ∧ ((userInfo? whole).getD ([], whole)).2 = place ∧
      (user = [] ∨ ∃ front, user = front ++ ['@']) ∧ '@' ∉ place := by
  by_cases hat : '@' ∈ whole
  · obtain ⟨back, front, hreverse, hback⟩ :=
      List.eq_append_cons_of_mem (List.mem_reverse.2 hat)
    have hwhole : whole = front.reverse ++ ['@'] ++ back.reverse := by
      rw [← List.reverse_reverse whole, hreverse]
      simp
    have hplace : '@' ∉ back.reverse := mt List.mem_reverse.1 hback
    refine ⟨_, _, hwhole, ?_, .inr ⟨_, rfl⟩, hplace⟩
    rw [hwhole]
    exact userInfo?_append (.inr ⟨_, rfl⟩) hplace
  · exact ⟨[], whole, rfl, by simp [userInfo?, hat], .inl rfl, hat⟩

/-- Digits behind a colon are what a port is read from. -/
theorem digits_of_port? {implied : Option Nat} {cs : List Char} {n : Nat}
    (h : port? implied cs = .ok (some n)) :
    ∃ digits, cs = ':' :: digits ∧ digits ≠ [] ∧ ∀ c ∈ digits, c.isDigit = true := by
  unfold port? at h
  split at h
  · next digits =>
    dsimp only at h
    split at h
    · next hend =>
      refine ⟨digits, rfl, ?_, List.dropWhile_eq_nil_iff.1 hend⟩
      rintro rfl
      simp only [List.isEmpty_nil, Bool.true_or, if_true] at h
      split at h <;> cases h
    · cases h
  · cases h

theorem authority_cases (web : Bool) (cs : List Char) :
    ∃ whole rest, authority web cs = (whole, rest) ∧ cs = whole ++ rest ∧
      (∀ c ∈ whole, endsAuthority web c = false) ∧ ∀ c ∈ rest.head?, endsAuthority web c = true := by
  refine ⟨_, _, rfl, List.takeWhile_append_dropWhile.symm, fun c hc => ?_, fun c hc => ?_⟩
  · simpa using List.all_eq_true.1 List.all_takeWhile c hc
  · have hstop := List.head?_dropWhile_not (fun c => !endsAuthority web c) cs
    rw [Option.mem_def.1 hc] at hstop
    simpa using hstop

/-- What stands behind the digits of a port is read as a path only behind a backslash. -/
theorem portText_cases {web : Bool} {after text : List Char}
    (h : (if web then after else after.takeWhile (· ≠ '\\')) = text) :
    ∃ more, after = text ++ more ∧ ∀ c ∈ more.head?, c = '\\' := by
  split at h
  · exact ⟨[], by rw [h, List.append_nil], nofun⟩
  · refine ⟨after.dropWhile (· ≠ '\\'), ?_, fun c hc => ?_⟩
    · rw [← h, List.takeWhile_append_dropWhile]
    · have hstop := List.head?_dropWhile_not (fun d => decide (d ≠ '\\')) after
      rw [Option.mem_def.1 hc] at hstop
      simpa using hstop

/-- A port that an authority gives is spelled in it. -/
theorem exists_ported_of_ofAuthority {scheme : String} {name slashes behind : List Char} {url : Url}
    {n : Nat} (hscheme : scheme = "tcp" ∨ scheme = "http")
    (hname : name.map Char.toLower = scheme.toList)
    (hslashes : slashes = ['/', '/'] ∨ isWeb scheme = true ∧ ∀ c ∈ slashes, c = '/' ∨ c = '\\')
    (h : ofAuthority scheme behind = .ok url) (hport : url.port = some n) :
    ∃ u : Ported, u.chars = name ++ ':' :: (slashes ++ behind) := by
  obtain ⟨whole, rest, hauthority, rfl, hwhole, hrest⟩ := authority_cases (isWeb scheme) behind
  obtain ⟨user, place, rfl, hplace, huser, hat⟩ := userInfo?_cases whole
  obtain ⟨-, hread⟩ := port?_of_ofAuthority hauthority hplace rfl h
  rw [hport] at hread
  obtain ⟨digits, hdigits, hne, hnumeric⟩ := digits_of_port? hread
  obtain ⟨more, hmore, hback⟩ := portText_cases hdigits
  obtain ⟨hparts, hafter⟩ := @hostPart_cases false place _ _ rfl
  generalize (hostPart false place).1 = host at hparts hafter
  obtain ⟨henclosed, -⟩ := hafter.resolve_left (by rw [hmore]; nofun)
  rw [hmore] at hparts
  subst hparts
  have hfront : (more ++ rest).takeWhile (fun c => !endsAuthority (isWeb scheme) c) = more :=
    takeWhile_within (fun c hc => hwhole c (by simp [hc])) hrest
  refine ⟨⟨scheme, name, slashes, user, host, digits, more ++ rest, hscheme, hname, hslashes,
    fun c hc => hwhole c ?_, huser, ⟨henclosed, fun hc => hat ?_⟩, ⟨hne, hnumeric⟩, fun c hc => ?_,
    fun hc => hat ?_⟩, ?_⟩
  · rw [← List.append_assoc]
    exact List.mem_append_left _ hc
  · exact List.mem_append_left _ hc
  · cases more with
    | nil =>
      have hends : ((c = '/' ∨ c = '?') ∨ c = '#') ∨ isWeb scheme = true ∧ c = '\\' := by
        simpa [endsAuthority] using hrest c hc
      rw [or_assoc, or_assoc] at hends
      exact hends.imp_right fun h => h.imp_right fun h => h.imp_right And.right
    | cons d more => exact .inr (.inr (.inr (hback c hc)))
  · rw [hfront] at hc
    simp [hc]
  · simp [Ported.chars, Ported.behind]

theorem scheme_of_ofAuthority {scheme : String} {cs : List Char} {url : Url}
    (h : ofAuthority scheme cs = .ok url) : url.scheme = scheme := by
  obtain ⟨whole, rest, hauthority, -⟩ := authority_cases (isWeb scheme) cs
  exact (port?_of_ofAuthority hauthority rfl rfl h).1

theorem scheme?_cases {cs rest : List Char} {scheme : String}
    (h : scheme? cs = some (scheme, rest)) :
    ∃ name, cs = name ++ ':' :: rest ∧ name.map Char.toLower = scheme.toList := by
  simp only [scheme?] at h
  split at h
  · next c name behind hname hbehind =>
    split at h
    · cases h
      refine ⟨cs.takeWhile isSchemeChar, ?_, String.toList_ofList.symm⟩
      rw [← hbehind, List.takeWhile_append_dropWhile]
    · cases h
  · cases h

theorem port_of_ofFile {cs : List Char} {url : Url} (h : ofFile cs = .ok url) : url.port = none := by
  unfold ofFile at h
  split at h
  · split at h
    · dsimp only at h
      split at h
      · cases h
        rfl
      · generalize Host.ofWeb _ = named at h
        cases named with
        | error e => cases h
        | ok host =>
          cases h
          rfl
    · cases h
      rfl
  · cases h
    rfl

/-- A port of a URL to connect to is spelled in its text. -/
theorem exists_ported_of_parse {text : String} {url : Url} {n : Nat} (h : parse text = .ok url)
    (hscheme : url.scheme = "tcp" ∨ url.scheme = "http") (hport : url.port = some n) :
    ∃ u : Ported, cleaned text = u.chars := by
  unfold parse at h
  split at h
  · cases h
  · next scheme rest hsplit =>
    obtain ⟨name, hcs, hname⟩ := scheme?_cases hsplit
    rw [hcs]
    split at h
    · rw [port_of_ofFile h] at hport
      cases hport
    · split at h
      · next hweb =>
        rw [scheme_of_ofAuthority h] at hscheme
        have hslashes : ∀ c ∈ rest.takeWhile (fun c => c = '/' || c = '\\'), c = '/' ∨ c = '\\' := by
          intro c hc
          simpa using List.all_eq_true.1 List.all_takeWhile c hc
        obtain ⟨u, hu⟩ := exists_ported_of_ofAuthority hscheme hname (.inr ⟨hweb, hslashes⟩) h hport
        refine ⟨u, ?_⟩
        rw [hu, dropSlashes, List.takeWhile_append_dropWhile]
      · split at h
        · next behind =>
          rw [scheme_of_ofAuthority h] at hscheme
          obtain ⟨u, hu⟩ := exists_ported_of_ofAuthority hscheme hname (.inl rfl) h hport
          exact ⟨u, hu.symm⟩
        · cases h
          cases hport
        · cases h
          cases hport

end ProxyFleet.Net.Url
