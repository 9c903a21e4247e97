import ShaderFlow.Fault
import ShaderFlow.Interface.Basic
import ShaderFlow.Operand.Mask

/-!
# Effects at entry and exit

Declarations of inputs and outputs do not move data themselves. Each leaves an effect, and a code
generator replays the effects: those at entry before the first block (`Emitter.runEntry`), those at
exit in the block that returns (`Emitter.runExit`).
-/

namespace ShaderFlow

/-- What happens before the first block. -/
inductive EntryEffect where
  /-- Writes the difference of two arguments to an input register: identifiers of vertices and
  instances count from the base of the draw. -/
  | storeRelative (value base : Nat) (register : UInt32) (mask : Mask)
  /-- Writes an argument to an input register. -/
  | initRegister (argument : Nat) (register : UInt32) (mask : Mask)
  /-- Makes an argument available as a thread position. -/
  | bindThread (argument : Nat) (builtin : ThreadBuiltin)
  /-- Makes room for the depth that the program writes. -/
  | allocateDepth
  deriving DecidableEq

/-- What happens in the block that returns. -/
inductive ExitEffect where
  /-- Copies an output register to a member of the returned value. -/
  | popRegister (register : UInt32) (mask : Mask) (member : Nat)
  /-- Copies the depth to a member of the returned value. -/
  | popDepth (member : Nat)
  deriving DecidableEq

/-- Why an effect cannot be replayed. -/
inductive EffectFault where
  | missingArgument (argument : Nat)
  | depthReallocated
  | depthUnallocated
  /-- A member is written though nothing is returned. -/
  | voidReturn
  /-- A fault of the code generator itself. -/
  | context (message : String)
  deriving DecidableEq

/-- The wording of a fault. -/
def EffectFault.message : EffectFault → String
  | .missingArgument argument => s!"function argument {argument} is not defined"
  | .depthReallocated => "depth output slot is allocated twice"
  | .depthUnallocated => "depth output read before its slot was allocated"
  | .voidReturn => "epilogue writes an output of a function that returns nothing"
  | .context message => message

/-- A computation that cannot fail is a step that is never refused. -/
instance instMonadLiftStateM {ε σ : Type} : MonadLift (StateM σ) (EStateM ε σ) where
  monadLift step := fun s =>
    let (a, s) := step s
    .ok a s

/-- What a code generator with states `σ` and values `V` provides for replaying effects. -/
structure Emitter (σ V : Type) where
  argument : Nat → EStateM EffectFault σ V
  subtract : V → V → StateM σ V
  storeInput : UInt32 → Mask → V → StateM σ Unit
  bindThread : ThreadBuiltin → V → StateM σ Unit
  allocateDepth : EStateM EffectFault σ Unit
  loadDepth : EStateM EffectFault σ V
  loadOutput : UInt32 → Mask → StateM σ V
  /-- The aggregate with another value at a position. -/
  insertMember : V → Nat → V → StateM σ V
  /-- The aggregate before any member is written; there is none if nothing is returned. -/
  undefinedReturn : StateM σ (Option V)

namespace Emitter

variable {σ V : Type}

/-- Replays one effect at entry. -/
def enter (e : Emitter σ V) : EntryEffect → EStateM EffectFault σ Unit
  | .storeRelative value base register mask => do
    let value ← e.argument value
    let base ← e.argument base
    let relative ← e.subtract value base
    e.storeInput register mask relative
  | .initRegister argument register mask => do
    let value ← e.argument argument
    e.storeInput register mask value
  | .bindThread argument builtin => do
    let value ← e.argument argument
    e.bindThread builtin value
  | .allocateDepth => e.allocateDepth

/-- Replays the effects at entry in order, up to the first fault. -/
def runEntry (e : Emitter σ V) (effects : List EntryEffect) : EStateM EffectFault σ Unit :=
  effects.forM e.enter

/-- The position that an effect at exit writes, and the value it writes there. -/
def popped (e : Emitter σ V) : ExitEffect → EStateM EffectFault σ (Nat × V)
  | .popRegister register mask member => do
    let value ← e.loadOutput register mask
    return (member, value)
  | .popDepth member => do
    let value ← e.loadDepth
    return (member, value)

/-- Replays one effect at exit on the aggregate so far. -/
def leave (e : Emitter σ V) (aggregate : Option V) (effect : ExitEffect) :
    EStateM EffectFault σ (Option V) := do
  let current ← orFault aggregate .voidReturn
  let (member, value) ← e.popped effect
  let next ← e.insertMember current member value
  return some next

/-- Replays the effects at exit in order and gives the value to return, if any. -/
def runExit (e : Emitter σ V) (effects : List ExitEffect) : EStateM EffectFault σ (Option V) := do
  let aggregate ← e.undefinedReturn
  effects.foldlM e.leave aggregate

end Emitter

end ShaderFlow
