import ShaderFlow.Flow.Builder
import ShaderFlow.Interface.Declare
import ShaderFlow.Lowering
import ShaderFlow.Resource.Declare
import ShaderFlow.Resource.Table
import ShaderFlow.Resource.Usage

/-!
# Compiling programs

`Program.compile` reads a program once. Declarations go to the resources and to the interface,
control flow to the graph builder, and ordinary instructions, after the views they use have been
marked, through the lowering to the current block. The first fault ends the run; so does a return
outside of all scopes, and what follows it is not looked at.
-/

namespace ShaderFlow

/-- Settings of a compilation. -/
structure Options where
  /-- The number of scopes that may be open at once. -/
  maxNesting : Nat := 64
  deriving DecidableEq

/-- Everything that is known about a program while it is read. -/
structure Session (σ L : Type) where
  builder : Builder L
  resources : Resources := {}
  interface : Interface := {}
  /-- State of the lowering. -/
  lowering : σ

/-- The state that a step leaves, or a diagnostic for its refusal. -/
def settle {ε σ : Type} (location : Location) (cause : ε → Cause) :
    EStateM.Result ε σ Unit → Except Diagnostic σ
  | .ok () s => .ok s
  | .error fault _ => .error { location, cause := cause fault }

namespace Session

variable {σ L : Type}

/-- Takes in one instruction. -/
def step (stage : Stage) (signatures : Signatures) (lower : Lowering σ L) (position : Nat)
    (i : Instruction) (s : Session σ L) : Except Diagnostic (Session σ L) :=
  let location := Location.of position i
  match i.opcode with
  | .nop => .ok s
  | .resourceDcl _ | .customData => do
    let resources ← settle location .resource (Resources.declare stage i s.resources)
    return { s with resources }
  | .stageDcl _ => do
    let interface ← settle location .interface (Interface.declare stage signatures i s.interface)
    return { s with interface }
  | .foreignDcl _ | .foreign _ => .error { location, cause := .foreignOpcode i.opcode }
  | .flow _ => do
    let builder ← settle location (.flow i.opcode) (Builder.control stage i s.builder)
    return { s with builder }
  | .unknown raw => .error { location, cause := .undefinedOpcode raw }
  | .sample _ | .view _ | .atomic _ | .plain _ => do
    let resources ← settle location .use (Resources.track i s.resources)
    let (value, lowering) ← lower i location resources s.lowering
    return { s with builder := s.builder.append value, resources, lowering }

/-- Takes in instructions, the first of them at a position, until the function has returned. -/
def run (stage : Stage) (signatures : Signatures) (lower : Lowering σ L) (position : Nat)
    (instructions : List Instruction) (s : Session σ L) : Except Diagnostic (Session σ L) :=
  match instructions with
  | [] => .ok s
  | i :: rest =>
    if s.builder.returned then .ok s
    else do
      let s ← s.step stage signatures lower position i
      s.run stage signatures lower (position + 1) rest

end Session

/-- A compiled program. -/
structure CompiledShader (L : Type) where
  stage : Stage
  model : ShaderModel
  graph : Graph L
  resources : Resources
  entryPoint : EntryPoint
  atEntry : List EntryEffect
  atExit : List ExitEffect
  inputRegisters : Nat
  outputRegisters : Nat
  /-- Size of a thread group of a compute shader. -/
  threadGroup : Option ThreadGroup
  table : BindingTable
  /-- Position of the argument for the binding table, if there is one. -/
  tableArgument : Option Nat
  deriving DecidableEq

namespace CompiledShader

variable {L : Type}

/-- What has to be known to bind the program. -/
def reflection (c : CompiledShader L) : Reflection := c.table.reflection c.threadGroup

end CompiledShader

/-- The thread group of a program; a compute shader has to declare one, and no other can. -/
def Resources.threadGroupFor (r : Resources) (stage : Stage) (atEnd : Location) :
    Except Diagnostic (Option ThreadGroup) :=
  if stage = .compute then do
    let size ← orFault r.threadGroup { location := atEnd, cause := .missingThreadGroup }
    return some size
  else return none

/-- The entry point with the binding table as its last argument, and the position of that argument;
an empty table is not passed. -/
def EntryPoint.withTable (e : EntryPoint) (t : BindingTable) : Option Nat × EntryPoint :=
  match t.bindIndex? with
  | some location =>
    let (position, e) := e.addArgument (.bindingTable location)
    (some position, e)
  | none => (none, e)

/-- Compiles a program and gives the last state of the lowering as well. -/
def Program.compile {σ L : Type} (p : Program) (signatures : Signatures) (lower : Lowering σ L)
    (initial : σ) (options : Options) : Except Diagnostic (CompiledShader L × σ) := do
  require p.stage.isSupported { location := {}, cause := .unsupportedStage p.stage }
  let start : Session σ L := { builder := .start options.maxNesting, lowering := initial }
  let s ← start.run p.stage signatures lower 0 p.instructions
  let atEnd := Location.atEnd p.instructions
  let graph ← orFault s.builder.finish? { location := atEnd, cause := .unexpectedEnd }
  let threadGroup ← s.resources.threadGroupFor p.stage atEnd
  let table := s.resources.bindingTable
  let (tableArgument, entryPoint) := s.interface.entryPoint.withTable table
  return ({
    stage := p.stage
    model := p.model
    graph
    resources := s.resources
    entryPoint
    atEntry := s.interface.atEntry
    atExit := s.interface.atExit
    inputRegisters := s.interface.inputRegisters
    outputRegisters := s.interface.outputRegisters
    threadGroup
    table
    tableArgument }, s.lowering)

end ShaderFlow
