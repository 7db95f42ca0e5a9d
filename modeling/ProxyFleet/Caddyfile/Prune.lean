import ProxyFleet.Failure
import ProxyFleet.Caddyfile.Parser
import ProxyFleet.Caddyfile.Printer

/-!
Keeping the valid blocks of a Caddyfile. Each top-level block is validated together with the blocks
accepted before it, so that a site may rely on a snippet or a global option that precedes it; a
block that makes the text invalid is dropped and logged.
-/

namespace ProxyFleet.Caddyfile

/-- Accepts a Caddyfile, giving its converted form, or says why not. -/
abbrev Validator (α : Type) := String → Except Failure α

structure Pruned where
  /-- The accepted blocks, in the order of the source. -/
  text : String
  log : String
  /-- Everything the validator was asked, in order. -/
  asked : List String
deriving DecidableEq, Repr, Inhabited

def rejection (failure : Failure) (block : String) : String :=
  "[ERROR] Removing invalid block: " ++ failure.chain ++ "\n" ++ block ++ "\n"

/-- Validates one block behind what has been accepted. -/
def Pruned.offer {α : Type} (validate : Validator α) (p : Pruned) (block : String) : Pruned :=
  let candidate := p.text ++ block
  match validate candidate with
  | .ok _ => ⟨candidate, p.log, p.asked ++ [candidate]⟩
  | .error failure => ⟨p.text, p.log ++ rejection failure block, p.asked ++ [candidate]⟩

def parseFailure (fault : Option Fault) : String :=
  match fault with
  | some fault => "[ERROR] Failed to parse Caddyfile: " ++ fault.message ++ "\n"
  | none => ""

def prune {α : Type} (validate : Validator α) (text : String) : Pruned :=
  let reading := parse text
  (reading.blocks.map renderBlock).foldl (Pruned.offer validate) ⟨"", parseFailure reading.fault, []⟩

end ProxyFleet.Caddyfile
