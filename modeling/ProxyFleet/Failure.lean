/-!
Why something outside the library failed: a message, and behind it the messages of what caused it.
-/

namespace ProxyFleet

structure Failure where
  message : String
  causes : List String := []
deriving DecidableEq, Repr, Inhabited

namespace Failure

/-- The message and all its causes, outermost first. -/
def chain (f : Failure) : String :=
  String.intercalate ": " (f.message :: f.causes)

/-- Says what was being done when the failure arose. -/
def context (f : Failure) (doing : String) : Failure :=
  ⟨doing, f.message :: f.causes⟩

@[simp] theorem chain_mk_nil (message : String) : (Failure.mk message []).chain = message := rfl

end Failure

end ProxyFleet
