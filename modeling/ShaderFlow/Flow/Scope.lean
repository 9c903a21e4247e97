import ShaderFlow.Graph.Basic

/-!
# Open scopes

The instruction stream nests scopes without naming their ends. While a scope is open it keeps the
blocks to which its closing instruction and the jumps out of it lead.
-/

namespace ShaderFlow

/-- An open switch. -/
structure SwitchScope where
  /-- The block that selects a case; it is closed when the switch ends. -/
  dispatch : BlockId
  exit : BlockId
  selector : Operand
  /-- The labels seen so far. -/
  cases : IdMap BlockId
  /-- The default label, if seen. -/
  fallback : Option BlockId
  deriving DecidableEq

/-- The target for a value that no case lists: the default label, or the exit if there is none. -/
def SwitchScope.default (s : SwitchScope) : BlockId := s.fallback.getD s.exit

/-- An open scope. -/
inductive Scope where
  /-- An `if`, with the block for a failed test and, after an `else`, the block behind the scope. -/
  | branch (alternative : BlockId) (merge : Option BlockId)
  | loop (entrance exit : BlockId)
  | switch (scope : SwitchScope)
  deriving DecidableEq

namespace Scope

/-- Where a `break` directly in the scope leads. -/
def breakTarget? : Scope → Option BlockId
  | .branch .. => none
  | .loop _ exit => some exit
  | .switch s => some s.exit

/-- Where a `continue` directly in the scope leads. -/
def continueTarget? : Scope → Option BlockId
  | .loop entrance _ => some entrance
  | .branch .. | .switch _ => none

end Scope

end ShaderFlow
