import ShaderFlow.Resource.Basic

/-!
# Declaring resources

`Resources.declare` records one resource declaration. What can be declared once is refused the
second time; declarations for compute shaders are refused elsewhere.
-/

namespace ShaderFlow

/-- A step that records declarations. -/
abbrev Declare := EStateM ResourceFault Resources

/-- The product of two numbers, if it fits into 32 bits. -/
def product? (a b : UInt32) : Option UInt32 :=
  if a.toNat * b.toNat < UInt32.size then some (a * b) else none

/-- The operand that a declaration declares. -/
def Instruction.declared (i : Instruction) : Except ResourceFault Operand :=
  orFault (i.operand? 0) (.missingOperand i.opcode)

/-- A sampler has one of the modes that the format defines. -/
def checkSamplerMode : SamplerMode → Except ResourceFault SamplerMode
  | .unknown raw => .error (.invalidSamplerMode raw)
  | mode => .ok mode

/-- The range of bindings that a declaration declares. -/
def Instruction.bindingRange (i : Instruction) (legacy : LegacyForm) (space : UInt32) :
    Except ResourceFault BindingRange := do
  let operand ← i.declared
  BindingRange.ofOperand operand legacy space

namespace SharedMemory

/-- Shared memory of a number of bytes. -/
def ofBytes (bytes : UInt32) : Except ResourceFault SharedMemory := do
  require (bytes % 4 = 0) (.sharedSize bytes)
  return { stride := 1, count := bytes, words := bytes / 4, structured := false }

/-- Shared memory for a number of records. -/
def ofRecords (stride count : UInt32) : Except ResourceFault SharedMemory := do
  require (stride % 4 = 0) (.sharedStride stride)
  let words ← orFault (product? (stride / 4) count) (.sharedOverflow stride count)
  return { stride, count, words, structured := true }

end SharedMemory

namespace Resources

/-- Puts a new binding at the end of the order. -/
def addBinding (kind : BindingKind) (id : UInt32) : Declare Unit := do
  let r ← get
  require (r.isDeclared kind id = false) (.bindingTwice kind id)
  set { r with order := r.order ++ [(kind, id)] }

/-- Declares a resource view. -/
def addResourceView (i : Instruction) (space : UInt32) (format : ViewFormat) : Declare Unit := do
  let range ← i.bindingRange .register space
  addBinding .resource range.id
  modify fun r =>
    { r with resourceViews := r.resourceViews.insert range.id { range, format } }

/-- Declares an access view. -/
def addAccessView (i : Instruction) (space flags : UInt32) (format : ViewFormat) :
    Declare Unit := do
  let range ← i.bindingRange .register space
  addBinding .access range.id
  modify fun r =>
    { r with
      accessViews := r.accessViews.insert range.id { range, format, flags := .ofBits flags } }

/-- Declares shared memory. -/
def addSharedMemory (i : Instruction) (memory : SharedMemory) : Declare Unit := do
  let operand ← i.declared
  let id ← orFault operand.register? .sharedWithoutIndex
  let r ← get
  require (id ∉ r.sharedMemory) (.sharedTwice id)
  set { r with sharedMemory := r.sharedMemory.insert id memory }

/-- Records the constants embedded in a program. Only constants that are there can be repeated:
an empty block leaves room for a later one. -/
def addConstants (words : List UInt32) : Declare Unit := do
  require (words.length % 4 = 0) (.constantRows words.length)
  let r ← get
  require (r.immediateConstants = []) .constantsTwice
  set { r with immediateConstants := Quad.rows words }

/-- Records one resource declaration. -/
def declare (stage : Stage) (i : Instruction) : Declare Unit := do
  let payload ← orFault i.declaration (.missingPayload i.opcode)
  match i.opcode, payload with
  | .resourceDcl .constantBuffer, .constantBuffer sizeInVec4 space _ =>
    let range ← i.bindingRange .sized space
    addBinding .constantBuffer range.id
    modify fun r =>
      { r with constantBuffers := r.constantBuffers.insert range.id { range, sizeInVec4 } }
  | .resourceDcl .sampler, .sampler mode space =>
    let mode ← checkSamplerMode mode
    let range ← i.bindingRange .register space
    addBinding .sampler range.id
    modify fun r => { r with samplers := r.samplers.insert range.id { range, mode } }
  | .resourceDcl .resource, .resource dimension returnType _ space =>
    let format ← ViewFormat.typed dimension returnType
    addResourceView i space format
  | .resourceDcl .resourceRaw, .resourceRaw space => addResourceView i space .raw
  | .resourceDcl .resourceStructured, .resourceStructured stride space =>
    addResourceView i space (.structured stride)
  | .resourceDcl .uavTyped, .uavTyped dimension returnType flags space =>
    let format ← ViewFormat.typed dimension returnType
    addAccessView i space flags format
  | .resourceDcl .uavRaw, .uavRaw flags space => addAccessView i space flags .raw
  | .resourceDcl .uavStructured, .uavStructured stride flags space =>
    addAccessView i space flags (.structured stride)
  | .resourceDcl .temps, .temps count => modify fun r => { r with temps := count }
  | .resourceDcl .indexableTemp, .indexableTemp id registerCount mask =>
    let r ← get
    require (id ∉ r.indexableTemps) (.indexableTempTwice id)
    set { r with indexableTemps := r.indexableTemps.insert id { registerCount, mask } }
  | .resourceDcl .threadGroup, .threadGroup x y z =>
    require (stage = .compute) (.outsideCompute i.opcode)
    require (x ≠ 0 ∧ y ≠ 0 ∧ z ≠ 0) (.emptyThreadGroup x y z)
    let r ← get
    require (r.threadGroup = none) .threadGroupTwice
    set { r with threadGroup := some ⟨x, y, z⟩ }
  | .resourceDcl .sharedRaw, .sharedRaw bytes =>
    require (stage = .compute) (.outsideCompute i.opcode)
    let memory ← SharedMemory.ofBytes bytes
    addSharedMemory i memory
  | .resourceDcl .sharedStructured, .sharedStructured stride count =>
    require (stage = .compute) (.outsideCompute i.opcode)
    let memory ← SharedMemory.ofRecords stride count
    addSharedMemory i memory
  | .resourceDcl .globalFlags, .globalFlags _ => pure ()
  | .resourceDcl .indexRange, .indexRange _ => pure ()
  | .customData, .customData dataClass words =>
    if dataClass = .immediateConstantBuffer then addConstants words
  | op, payload => throw (.unexpectedPayload op payload)

end Resources

end ShaderFlow
