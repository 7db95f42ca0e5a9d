import ProxyFleet.Caddyfile.Order
import ProxyFleet.Caddyfile.Token

/-!
Writing a Caddyfile: a line for each block, its children between braces and one tab further in. A
key is quoted if it would otherwise not be read as one word.
-/

namespace ProxyFleet.Caddyfile

/-- A key that is empty or holds white space or a quote has to be quoted. -/
def needsQuotes (key : List Char) : Bool :=
  key.isEmpty || key.any fun c => Text.isBlank c || c = '"' || c = '\''

def escapeQuotes (key : List Char) : List Char :=
  key.flatMap fun c => if c = '"' then ['\\', '"'] else [c]

/-- A key as it is written. One with a quote or a backslash goes between backticks, where
everything stands for itself, unless it holds a backtick. -/
def writtenKey (key : List Char) : List Char :=
  if !needsQuotes key then key
  else if (key.any fun c => c = '"' || c = '\\') && !key.contains backtick then
    backtick :: key ++ [backtick]
  else '"' :: escapeQuotes key ++ ['"']

def writtenKeys : List String → List Char
  | [] => []
  | [key] => writtenKey key.toList
  | key :: rest => writtenKey key.toList ++ ' ' :: writtenKeys rest

mutual

/-- A block and everything in it, `level` tabs in. -/
def written (level : Nat) : Block → List Char
  | ⟨keys, _, children⟩ =>
    List.replicate level '\t' ++ writtenKeys keys ++
      (if children.isEmpty then []
        else (if keys.isEmpty then [] else [' ']) ++ '\x7b' :: '\n' ::
          writtenAll (level + 1) children ++ List.replicate level '\t' ++ ['\x7d']) ++ ['\n']

def writtenAll (level : Nat) : List Block → List Char
  | [] => []
  | b :: rest => written level b ++ writtenAll level rest

end

/-! Writing in front of what follows, so that nothing that has been written is copied. -/

mutual

/-- A block as `written`, before `rest`. -/
def writtenBefore (level : Nat) (rest : List Char) : Block → List Char
  | ⟨keys, _, children⟩ =>
    List.replicate level '\t' ++ (writtenKeys keys ++
      (if children.isEmpty then '\n' :: rest
        else (if keys.isEmpty then [] else [' ']) ++ '\x7b' :: '\n' ::
          writtenAllBefore (level + 1) (List.replicate level '\t' ++ '\x7d' :: '\n' :: rest)
            children))

def writtenAllBefore (level : Nat) (rest : List Char) : List Block → List Char
  | [] => rest
  | b :: bs => writtenBefore level (writtenAllBefore level rest bs) b

end

mutual

theorem writtenBefore_eq_append (level : Nat) (rest : List Char) :
    ∀ b : Block, writtenBefore level rest b = written level b ++ rest
  | ⟨keys, _, children⟩ => by
    by_cases h : children.isEmpty
    · simp [writtenBefore, written, h]
    · simp [writtenBefore, written, h, writtenAllBefore_eq_append]

theorem writtenAllBefore_eq_append (level : Nat) (rest : List Char) :
    ∀ bs : List Block, writtenAllBefore level rest bs = writtenAll level bs ++ rest
  | [] => by simp [writtenAllBefore, writtenAll]
  | b :: bs => by
    simp [writtenAllBefore, writtenAll, writtenBefore_eq_append level _ b,
      writtenAllBefore_eq_append level rest bs]

end

/-- The text of a tree in canonical order. -/
def render (blocks : List Block) : String :=
  String.ofList (writtenAllBefore 0 [] (sort blocks))

/-- The text of one block as if it stood alone. -/
def renderBlock (block : Block) : String :=
  String.ofList (writtenBefore 0 [] (sortWithin block))

theorem toList_render (blocks : List Block) :
    (render blocks).toList = writtenAll 0 (sort blocks) := by
  simp [render, writtenAllBefore_eq_append]

theorem toList_renderBlock (block : Block) :
    (renderBlock block).toList = written 0 (sortWithin block) := by
  simp [renderBlock, writtenBefore_eq_append]

end ProxyFleet.Caddyfile
