import ShaderFlow.Resource.Basic

/-!
# Using resources

How a view may be accessed by the program that binds it depends on the instructions that use it.
Each instruction marks the views among its operands (`Resources.track`) and may refer only to what
is declared.
-/

namespace ShaderFlow

/-- Whether a sampling instruction compares. -/
def SampleOp.compares : SampleOp → Bool
  | .sampleC | .sampleCLz | .gather4C | .gather4PoC => true
  | _ => false

/-- How a view instruction uses its view. -/
def ViewOp.use : ViewOp → AccessUse
  | .ldUavTyped | .ldRaw | .ldStructured => { read := true }
  | .storeUavTyped | .storeRaw | .storeStructured => { written := true }

namespace Opcode

/-- The use that an instruction makes of its resource views. -/
def resourceUse : Opcode → ResourceUse
  | .sample op => { sampled := true, compared := op.compares }
  | _ => {}

/-- The use that an instruction makes of its access views. -/
def accessUse : Opcode → AccessUse
  | .view op => op.use
  | .atomic _ => { read := true, written := true }
  | _ => {}

end Opcode

namespace Resources

/-- Marks what one operand of an instruction refers to. -/
def trackOperand (op : Opcode) (o : Operand) : EStateM UndeclaredUse Resources Unit := do
  let some id := o.register? | return
  let r ← get
  match o.kind with
  | .resource =>
    require (id ∈ r.resourceViews) ⟨o.kind, id⟩
    set { r with resourceViews := r.resourceViews.modify id fun v =>
      { v with use := v.use.union op.resourceUse } }
  | .unorderedAccessView =>
    require (id ∈ r.accessViews) ⟨o.kind, id⟩
    set { r with accessViews := r.accessViews.modify id fun v =>
      { v with use := v.use.union op.accessUse } }
  | .sampler => require (id ∈ r.samplers) ⟨o.kind, id⟩
  | .threadGroupSharedMemory => require (id ∈ r.sharedMemory) ⟨o.kind, id⟩
  | _ => return

/-- Marks what the operands of an instruction refer to, up to the first undeclared one. -/
def track (i : Instruction) : EStateM UndeclaredUse Resources Unit :=
  i.operands.forM (trackOperand i.opcode)

end Resources

end ShaderFlow
