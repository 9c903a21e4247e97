import ShaderFlow.Interface.Effect

/-!
# Recording effects

An emitter whose values are expressions in text and whose state is a log, for looking at effects
without generating code.
-/

namespace ShaderFlow

/-- What has been recorded. -/
structure Recorder where
  /-- Whether there is room for the depth. -/
  hasDepth : Bool := false
  log : List String := []
  deriving DecidableEq

namespace Recorder

/-- Adds a line to the log. -/
def write (line : String) : StateM Recorder Unit :=
  modify fun r => { r with log := r.log ++ [line] }

/-- A recording emitter for a function with a number of arguments. Reading a poisoned argument
fails, whether the function has it or not. -/
def emitter (arguments : Nat) (isVoid : Bool) (poisoned : List Nat) : Emitter Recorder String where
  argument i := do
    require (i ∉ poisoned) (.context s!"argument {i} is poisoned")
    require (i < arguments) (.missingArgument i)
    return s!"arg{i}"
  subtract a b := return s!"({a} - {b})"
  storeInput register mask value := write s!"v{register}.{mask.bits} = {value}"
  bindThread builtin value := write s!"{builtin.name} = {value}"
  allocateDepth := do
    let r ← get
    require (r.hasDepth = false) .depthReallocated
    set { r with hasDepth := true }
    write "alloc depth"
  loadDepth := do
    let r ← get
    require (r.hasDepth = true) .depthUnallocated
    write "load depth"
    return "depth"
  loadOutput register mask := do
    write s!"load o{register}.{mask.bits}"
    return s!"o{register}.{mask.bits}"
  insertMember aggregate member value := do
    write s!"insert {member}"
    return s!"{aggregate}[{member}={value}]"
  undefinedReturn := do
    write "undef"
    return if isVoid then none else some "undef"

end Recorder

end ShaderFlow
