import ProxyFleet.Proofs.Template.Cuts

/-!
Reading a template by byte positions alone: what is left of it is cut off at the position anew
whenever it is looked at. A cut that cannot be made stops the reading. So does a loop that is still
going after `limit` rounds, or a parenthesis that is within as many others.
-/

namespace ProxyFleet.Template

/-! Items. Each of these gives an item and how many bytes it takes. -/

/-- The rest of a quoted text that starts at `pos`: `i` is where `cs` is in it, and `text` what has
been read so far. -/
def quotedAt (pos : Nat) (text : List Char) : (i : Nat) → List Char → Run (Item × Nat)
  | _, [] => Run.fail .unterminatedQuoted pos
  | _, ['\\'] => Run.fail .unterminatedQuoted pos
  | i, '\\' :: c :: cs =>
    match escape? c with
    | none => Run.fail (.unknownEscape c) (pos + (i + 1))
    | some d => quotedAt pos (text ++ [d]) (i + 1 + c.utf8Size) cs
  | i, c :: cs =>
    if c = '"' then pure (.literal (.str (String.ofList text)), i + 1)
    else if c = '\n' then Run.fail .unterminatedQuoted pos
    else quotedAt pos (text ++ [c]) (i + c.utf8Size) cs

def fieldsAt (rest : List Char) :
    (limit : Nat) → (path : List String) → (len : Nat) → Run (Item × Nat)
  | 0, _, _ => throw .unfinished
  | limit + 1, path, len => do
    let ahead ← sliceFrom rest len
    if ahead.head? = some '.' then
      let name ← sliceFrom rest (len + 1)
      let size := spanSize isIdentChar name
      if size = 0 then pure (.field path, if path.isEmpty then len + 1 else len)
      else
        let first ← sliceTo name size
        fieldsAt rest limit (path ++ [String.ofList first]) (len + 1 + size)
    else pure (.field path, len)

def rawAt (pos : Nat) (rest : List Char) : Run (Item × Nat) := do
  let body ← sliceFrom rest 1
  match findChar (· = backtick) body with
  | none => Run.fail .unterminatedRaw pos
  | some close =>
    let front ← sliceTo rest (close + 1)
    let text ← sliceFrom front 1
    pure (.literal (.str (String.ofList text)), close + 2)

def numberAt (pos : Nat) (rest : List Char) : Run (Item × Nat) := do
  let len := spanSize isNumberChar rest
  let text ← sliceTo rest len
  match number? text with
  | some value => pure (.literal value, len)
  | none => Run.fail (.badNumber (String.ofList text)) pos

def wordAt (rest : List Char) : Run (Item × Nat) := do
  let len := spanSize isIdentChar rest
  let text ← sliceTo rest len
  pure (wordItem text, len)

def itemAt (limit pos : Nat) (rest : List Char) (c : Char) : Run (Item × Nat) :=
  if c = '\x7d' && ['\x7d', '\x7d'].isPrefixOf rest then pure (.stop, 2)
  else if c = '|' then pure (.pipe, 1)
  else if c = '(' then pure (.opening, 1)
  else if c = ')' then pure (.closing, 1)
  else if c = '"' then quotedAt pos [] 1 (rest.drop 1)
  else if c = backtick then rawAt pos rest
  else if c = '.' then fieldsAt rest limit [] 0
  else if c.isDigit || c = '-' || c = '+' then numberAt pos rest
  else if Text.isLetter c || c = '_' then wordAt rest
  else Run.fail (.unexpectedChar c) pos

/-! The parser. Each of these gives the position behind what it reads. -/

/-- A trim marker closes the action if white space stands before it. -/
def trimsRight (spaced : Bool) (cs : List Char) : Run Bool :=
  if spaced then signBefore ['\x7d', '\x7d'].isPrefixOf cs else pure false

def lexemeAt (src : List Char) (limit pos : Nat) : Run (Item × Nat) := do
  let rest ← sliceFrom src pos
  let start := pos + blankSize rest
  let trimmed := Text.trimStart rest
  match trimmed with
  | [] => Run.fail .unclosedAction start
  | c :: _ =>
    if ← trimsRight (byteSize trimmed < byteSize rest) trimmed then
      let behind ← sliceFrom src (start + 3)
      pure (.stop, start + 3 + blankSize behind)
    else
      let (i, len) ← itemAt limit start trimmed c
      pure (i, start + len)

def chainAt (src : List Char) (limit pos : Nat) : Run (List String × Nat) := do
  let rest ← sliceFrom src pos
  if rest.head? = some '.' then
    let (i, next) ← lexemeAt src limit pos
    match i with
    | .field path =>
      if path.isEmpty then Run.fail .chainWithoutField pos else pure (path, next)
    | _ => Run.fail .chainWithoutField pos
  else pure ([], pos)

/-- The rest of a pipeline, which is `nested` within parentheses or fills an action. -/
def pipelineAt (fs : Functions) (src : List Char) :
    (limit : Nat) → (nested : Bool) → (current : Partial) → (pos : Nat) → Run (Pipeline × Nat)
  | 0, _, _, _ => throw .unfinished
  | limit + 1, nested, current, pos => do
    let (i, next) ← lexemeAt src limit pos
    match i with
    | .stop =>
      if nested then Run.fail .unclosedParen pos
      else
        let pipeline ← Run.ofExcept (current.finish next)
        pure (pipeline, next)
    | .closing =>
      if nested then
        let pipeline ← Run.ofExcept (current.finish next)
        pure (pipeline, next)
      else Run.fail .unexpectedParen pos
    | .pipe =>
      if current.operands.isEmpty then Run.fail .missingBeforePipe pos
      else pipelineAt fs src limit nested ⟨current.commands ++ [current.operands], []⟩ next
    | .opening =>
      let (sub, behind) ← pipelineAt fs src limit true {} next
      let (path, behind) ← chainAt src limit behind
      pipelineAt fs src limit nested (current.add (.group sub path)) behind
    | .field path =>
      pipelineAt fs src limit nested (current.add (if path.isEmpty then .dot else .field path)) next
    | .ident name =>
      if fs.defines name then pipelineAt fs src limit nested (current.add (.function name)) next
      else Run.fail (.undefinedFunction name) pos
    | .literal value => pipelineAt fs src limit nested (current.add (.literal value)) next

def actionAt (fs : Functions) (src : List Char) (limit pos : Nat) :
    Run (Option Pipeline × Nat) := do
  let rest ← sliceFrom src pos
  let trimmed := Text.trimStart rest
  if ['/', '*'].isPrefixOf trimmed then
    let start := pos + blankSize rest
    match findText ['*', '/'] trimmed with
    | none => Run.fail .unclosedComment start
    | some close =>
      let (i, next) ← lexemeAt src limit (start + close + 2)
      if Lexemes.isStop i then pure (none, next) else Run.fail .commentTail next
  else
    let (pipeline, next) ← pipelineAt fs src limit false {} pos
    pure (some pipeline, next)

def nodesAt (fs : Functions) (src : List Char) :
    (limit : Nat) → (ns : List Node) → (pos : Nat) → Run (List Node)
  | 0, _, _ => throw .unfinished
  | limit + 1, ns, pos => do
    let rest ← sliceFrom src pos
    match findText ['\x7b', '\x7b'] rest with
    | none => pure (ns ++ textNode rest)
    | some opening =>
      let text ← sliceTo rest opening
      let behind ← sliceFrom src (pos + (opening + 2))
      let marked ← signBefore (fun cs => cs.head?.any Text.isBlank) behind
      let before := textNode (if marked then Text.trimEnd text else text)
      let start := pos + (opening + 2) + (if marked then 1 else 0)
      let (pipeline, next) ← actionAt fs src limit start
      nodesAt fs src limit (ns ++ before ++ (pipeline.map Node.action).toList) next

def parseAt (fs : Functions) (limit : Nat) (text : String) : Run (List Node) :=
  nodesAt fs text.toList limit [] 0

end ProxyFleet.Template
