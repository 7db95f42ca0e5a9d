import ProxyFleet.Engine.Query

/-!
What happens while configuration is made: the questions put to engines, the texts given to the
validator and the notes for the operator. A journaled value carries the journal of its making; what
it is worth does not depend on the journal.
-/

namespace ProxyFleet.Fleet

inductive Level where
  | info
  | warn
  | error
deriving DecidableEq, Repr, Inhabited

def Level.text : Level → String
  | .info => "INFO"
  | .warn => "WARN"
  | .error => "ERROR"

/-- A message and what it is about. -/
structure Note where
  level : Level
  message : String
  about : List (String × String) := []
deriving DecidableEq, Repr, Inhabited

inductive Entry where
  /-- A question to the engine with this number. -/
  | asked (engine : Nat) (query : Engine.Query)
  | validated (text : String)
  | noted (note : Note)
deriving DecidableEq, Repr, Inhabited

def Entry.note? : Entry → Option Note
  | .noted n => some n
  | _ => none

def Entry.asked? : Entry → Option (Nat × Engine.Query)
  | .asked i q => some (i, q)
  | _ => none

def Entry.validated? : Entry → Option String
  | .validated text => some text
  | _ => none

structure Journaled (α : Type) where
  value : α
  journal : List Entry := []

namespace Journaled

variable {α β : Type}

instance : Monad Journaled where
  pure a := ⟨a, []⟩
  bind x f := ⟨(f x.value).value, x.journal ++ (f x.value).journal⟩

instance : LawfulMonad Journaled :=
  .mk' Journaled (fun x => by simp [Functor.map]) (fun a f => by simp [bind, pure])
    (fun x f g => by simp [bind])

@[simp] theorem value_pure (a : α) : (pure a : Journaled α).value = a := rfl

@[simp] theorem value_bind (x : Journaled α) (f : α → Journaled β) :
    (x >>= f).value = (f x.value).value := rfl

@[simp] theorem value_map (f : α → β) (x : Journaled α) : (f <$> x).value = f x.value := rfl

/-- Going through a list is worth what going through it without a journal is worth. -/
theorem value_foldlM (f : β → α → Journaled β) (b : β) (as : List α) :
    (as.foldlM f b).value = as.foldl (fun b a => (f b a).value) b := by
  induction as generalizing b with
  | nil => rfl
  | cons a as ih => simp [ih]

theorem value_mapM (f : α → Journaled β) (as : List α) :
    (as.mapM f).value = as.map fun a => (f a).value := by
  induction as with
  | nil => rfl
  | cons a as ih => simp [ih]

/-- What `f` makes of all elements in turn, up to the first failure. -/
def gather (f : α → Journaled (Except Failure (List β))) :
    List α → Journaled (Except Failure (List β))
  | [] => pure (.ok [])
  | a :: as => do
    match ← f a with
    | .error failure => pure (.error failure)
    | .ok bs =>
      match ← gather f as with
      | .error failure => pure (.error failure)
      | .ok more => pure (.ok (bs ++ more))

end Journaled

def note (level : Level) (message : String) (about : List (String × String) := []) :
    Journaled Unit :=
  ⟨(), [.noted ⟨level, message, about⟩]⟩

/-- Notes a failure; of the failure only its own message is told. -/
def noteFailure (message : String) (failure : Failure) (about : List (String × String) := []) :
    Journaled Unit :=
  note .error message (about ++ [("error", failure.message)])

/-- An engine and its number. -/
abbrev Numbered := Engine.Answers × Nat

def ask (e : Numbered) (q : Engine.Query) : Journaled (Except Failure q.Answer) :=
  ⟨e.1 q, [.asked e.2 q]⟩

@[simp] theorem value_ask (e : Numbered) (q : Engine.Query) : (ask e q).value = e.1 q := rfl

end ProxyFleet.Fleet
