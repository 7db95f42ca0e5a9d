import ProxyFleet.Text.Blank

/-!
The words of a Caddyfile, each with the line on which it starts. Words are set apart by white space.
A word that starts with a double quote goes to the closing quote, where a backslash escapes only a
quote and a line break; a word that starts with a backtick goes to the next backtick and has no
escapes. A number sign at the start of a word makes a comment of the rest of the line.
-/

namespace ProxyFleet.Caddyfile

structure Token where
  text : String
  /-- Counted from one. -/
  line : Nat
deriving DecidableEq, Repr, Inhabited

def backtick : Char := '\x60'

/-- The text after an opening quote up to the closing one or the end, and what follows it. -/
def quotedText : List Char → List Char × List Char
  | [] => ([], [])
  | ['\\'] => (['\\'], [])
  | '\\' :: c :: rest =>
    let (text, after) := quotedText rest
    (if c = '"' || c = '\n' then c :: text else '\\' :: c :: text, after)
  | c :: rest =>
    if c = '"' then ([], rest)
    else
      let (text, after) := quotedText rest
      (c :: text, after)

/-- The text after an opening backtick up to the next one or the end, and what follows it. -/
def verbatimText (cs : List Char) : List Char × List Char :=
  (cs.takeWhile (· ≠ backtick), (cs.dropWhile (· ≠ backtick)).drop 1)

def bareText (cs : List Char) : List Char × List Char :=
  (cs.takeWhile fun c => !Text.isBlank c, cs.dropWhile fun c => !Text.isBlank c)

/-- The text of the word that starts with `c`, and what follows the word. -/
def word (c : Char) (rest : List Char) : List Char × List Char :=
  if c = '"' then quotedText rest
  else if c = backtick then verbatimText rest
  else
    let (text, after) := bareText rest
    (c :: text, after)

theorem dropWhile_length_le (p : Char → Bool) (cs : List Char) :
    (cs.dropWhile p).length ≤ cs.length := by
  have h := congrArg List.length (List.takeWhile_append_dropWhile (p := p) (l := cs))
  simp only [List.length_append] at h
  omega

theorem quotedText_length_le (cs : List Char) : (quotedText cs).2.length ≤ cs.length := by
  fun_induction quotedText cs <;> simp_all <;> omega

theorem word_length_le (c : Char) (rest : List Char) : (word c rest).2.length ≤ rest.length := by
  simp only [word]
  split
  · exact quotedText_length_le rest
  · split
    · simp only [verbatimText, List.length_drop]
      have := dropWhile_length_le (· ≠ backtick) rest
      omega
    · exact dropWhile_length_le _ rest

/-- The words of `cs`, which starts on `line`. -/
def tokensFrom (line : Nat) : List Char → List Token
  | [] => []
  | c :: rest =>
    if c = '\n' then tokensFrom (line + 1) rest
    else if Text.isBlank c then tokensFrom line rest
    else if c = '#' then tokensFrom line (rest.dropWhile (· ≠ '\n'))
    else
      let text := (word c rest).1
      ⟨String.ofList text, line⟩ :: tokensFrom (line + text.count '\n') (word c rest).2
termination_by cs => cs.length
decreasing_by
  all_goals simp only [List.length_cons]
  · omega
  · omega
  · have := dropWhile_length_le (· ≠ '\n') rest
    omega
  · have := word_length_le c rest
    omega

def tokens (text : String) : List Token := tokensFrom 1 text.toList

end ProxyFleet.Caddyfile
