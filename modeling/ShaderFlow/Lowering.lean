import ShaderFlow.Diagnostic
import ShaderFlow.Resource.Basic

/-!
# Lowering

What becomes of an ordinary instruction is not decided here: a `Lowering` turns it into a value of
its own choice, knowing the place of the instruction and the resources declared and used so far. It
may keep a state from one instruction to the next.
-/

namespace ShaderFlow

/-- A way to lower ordinary instructions to values of type `L`, with states of type `σ`. -/
abbrev Lowering (σ L : Type) :=
  Instruction → Location → Resources → StateT σ (Except Diagnostic) L

namespace Lowering

/-- Every instruction stands for itself. -/
def passthrough : Lowering Unit Instruction := fun i _ _ => pure i

/-- An instruction is lowered to its position; the given opcodes are refused. -/
def position (refused : List Opcode) : Lowering Unit Nat := fun i location _ => do
  if i.opcode ∈ refused then
    throw { location, cause := .reported .unsupported s!"cannot lower {i.opcode}" }
  return location.instruction

/-- The sum of the bits of all uses of views. -/
def useBits (r : Resources) : Nat :=
  r.resourceViews.values.foldl (fun n view => n + view.use.bits) 0 +
    r.accessViews.values.foldl (fun n view => n + view.use.bits) 0

/-- An instruction is lowered to a line that counts the resources known at its place. -/
def census : Lowering Unit String := fun i _ r =>
  pure <| s!"{i.opcode} cb{r.constantBuffers.size} s{r.samplers.size} t{r.resourceViews.size} " ++
    s!"u{r.accessViews.size} g{r.sharedMemory.size} use{useBits r}"

end Lowering

end ShaderFlow
