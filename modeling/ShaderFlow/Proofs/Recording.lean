import ShaderFlow.Interface.Declare
import ShaderFlow.Proofs.Step

/-!
# What declarations record

`Interface.Records` lists what an interface becomes when it takes in a declaration of an input or
output, with what is then known about the declaration. Whatever is declared, arguments and members
are added together with the effects that use them, so the effects of an interface go through the
arguments and the members in order (`Interface.InStep`).
-/

namespace ShaderFlow

/-! ## Declarations that are accepted -/

namespace StageDeclaration

/-- The arguments that a declaration may write to an input register. -/
inductive Input (d : StageDeclaration) (register : UInt32) (mask : Mask) : Argument → Prop where
  | vertexStageIn {element : SignatureElement} (hs : d.stage = .vertex)
      (he : d.inputElement register mask = .ok element) :
      Input d register mask (.vertexStageIn register
        (.ofComponentType element.componentType) element.fullSemantic)
  | fragmentStageIn {element : SignatureElement} {interpolation : Interpolation}
      (hs : d.stage = .pixel) (hi : d.interpolation = .ok interpolation)
      (he : d.inputElement register mask = .ok element) :
      Input d register mask (.fragmentStageIn element.fullSemantic
        (.ofComponentType element.componentType) interpolation)
  | sampleIndex (hop : d.instruction.opcode = .stageDcl .inputGenerated)
      (hn : d.systemName = .ok .sampleIndex) : Input d register mask .sampleIndex
  | primitiveId (hop : d.instruction.opcode = .stageDcl .inputGenerated)
      (hn : d.systemName = .ok .primitiveId) : Input d register mask .primitiveId
  | frontFacing (hop : d.instruction.opcode = .stageDcl .inputGenerated)
      (hn : d.systemName = .ok .isFrontFace) : Input d register mask .frontFacing
  | interpreted {name : SystemName} {interpolation : Interpolation} {a : Argument}
      (hs : d.stage = .pixel) (hi : d.interpolation = .ok interpolation)
      (hn : d.systemName = .ok name)
      (ha : Interface.interpretedArgument name interpolation = .ok a) : Input d register mask a
  | generated {name : SystemName} {interpolation : Interpolation} {a : Argument}
      (hs : d.stage = .pixel) (hi : d.interpolation = .ok interpolation)
      (hn : d.systemName = .ok name)
      (ha : Interface.generatedArgument name interpolation = .ok a) : Input d register mask a

/-- The identifiers that a declaration may write relative to a base. -/
inductive Relative (d : StageDeclaration) : Argument → Argument → Prop where
  | vertexId (hs : d.stage = .vertex) (hn : d.systemName = .ok .vertexId) :
      Relative d .vertexId .baseVertex
  | instanceId (hs : d.stage = .vertex) (hn : d.systemName = .ok .instanceId) :
      Relative d .instanceId .baseInstance

/-- The members that a declaration may read from an output register. -/
inductive Output (d : StageDeclaration) (register : UInt32) (mask : Mask) : Member → Prop where
  | position (hs : d.stage = .vertex) (hn : d.systemName = .ok .position) :
      Output d register mask .position
  | renderTarget {element : SignatureElement} (hs : d.stage = .pixel)
      (he : d.outputElement register mask = .ok element) :
      Output d register mask (.renderTarget register (.ofComponentType element.componentType))
  | vertex {element : SignatureElement} (hs : d.stage = .vertex)
      (he : d.outputElement register mask = .ok element) :
      Output d register mask
        (.vertex element.fullSemantic (.ofComponentType element.componentType))

/-- A declaration for one stage is accepted in that stage only. -/
theorem requireStage_eq_ok_iff {d : StageDeclaration} {stage : Stage} {u : Unit} :
    d.requireStage stage = .ok u ↔ d.stage = stage :=
  except_require_eq_ok_iff

end StageDeclaration

/-- Each register but the last one has a register behind it. -/
theorem registerEnd_eq_ok_iff {register : UInt32} {n : Nat} :
    registerEnd register = .ok n ↔ register ≠ 0xffffffff ∧ n = register.toNat + 1 := by
  simp only [registerEnd, except_bind_eq_ok_iff, except_require_eq_ok_iff]
  simp [pure, Except.pure, eq_comm]

namespace Interface

variable {d : StageDeclaration} {f f' : Interface} {a value base : Argument} {m : Member}
  {register : UInt32} {mask : Mask} {u : Unit}

/-- The interface with one more argument, which is written to an input register. -/
def withInput (f : Interface) (a : Argument) (register : UInt32) (mask : Mask) : Interface :=
  { f with
    entryPoint := { f.entryPoint with arguments := f.entryPoint.arguments ++ [a] }
    atEntry := f.atEntry ++ [.initRegister f.entryPoint.arguments.length register mask]
    inputRegisters := max f.inputRegisters (register.toNat + 1) }

/-- The interface with two more arguments, whose difference is written to an input register. -/
def withRelative (f : Interface) (value base : Argument) (register : UInt32) (mask : Mask) :
    Interface :=
  { f with
    entryPoint := { f.entryPoint with arguments := f.entryPoint.arguments ++ [value] ++ [base] }
    atEntry := f.atEntry ++ [.storeRelative f.entryPoint.arguments.length
      (f.entryPoint.arguments.length + 1) register mask]
    inputRegisters := max f.inputRegisters (register.toNat + 1) }

/-- The interface with one more argument, which is a thread position. -/
def withThread (f : Interface) (builtin : ThreadBuiltin) : Interface :=
  { f with
    entryPoint := { f.entryPoint with arguments := f.entryPoint.arguments ++ [.thread builtin] }
    atEntry := f.atEntry ++ [.bindThread f.entryPoint.arguments.length builtin] }

/-- The interface with one more member, which is read from an output register. -/
def withOutput (f : Interface) (m : Member) (register : UInt32) (mask : Mask) : Interface :=
  { f with
    entryPoint := { f.entryPoint with members := f.entryPoint.members ++ [m] }
    atExit := f.atExit ++ [.popRegister register mask f.entryPoint.members.length]
    outputRegisters := max f.outputRegisters (register.toNat + 1) }

/-- The interface with the depth as one more member. -/
def withDepth (f : Interface) (bound : DepthBound) : Interface :=
  { f with
    entryPoint := { f.entryPoint with members := f.entryPoint.members ++ [.depth bound] }
    atEntry := f.atEntry ++ [.allocateDepth]
    atExit := f.atExit ++ [.popDepth f.entryPoint.members.length]
    hasDepth := true }

/-- What an interface becomes when it takes in one declaration. -/
inductive Records (d : StageDeclaration) (f : Interface) : Interface → Prop where
  | cycleCounter {o : Operand} (ho : d.operand = .ok o) (hk : o.kind = .cycleCounter) :
      Records d f f
  | thread {o : Operand} {builtin : ThreadBuiltin} (ho : d.operand = .ok o)
      (hk : o.kind.threadBuiltin? = some builtin) (hs : d.stage = .compute) :
      Records d f (f.withThread builtin)
  | input {a : Argument} {register : UInt32} {mask : Mask}
      (hr : d.register = .ok (register, mask)) (hlast : register ≠ 0xffffffff)
      (ha : d.Input register mask a) : Records d f (f.withInput a register mask)
  | relative {value base : Argument} {register : UInt32} {mask : Mask}
      (hr : d.register = .ok (register, mask)) (hlast : register ≠ 0xffffffff)
      (ha : d.Relative value base) : Records d f (f.withRelative value base register mask)
  | output {m : Member} {register : UInt32} {mask : Mask}
      (hr : d.register = .ok (register, mask)) (hlast : register ≠ 0xffffffff)
      (hm : d.Output register mask m) : Records d f (f.withOutput m register mask)
  | depth {o : Operand} {bound : DepthBound} (ho : d.operand = .ok o)
      (hk : o.kind.depthBound? = some bound) (hs : d.stage = .pixel) (hd : f.hasDepth = false) :
      Records d f (f.withDepth bound)

/-! ### Elementary steps -/

/-- An input register is filled with an argument of its own, unless it is the last register there
is. -/
theorem initInput_eq_ok_iff :
    initInput a register mask f = .ok u f' ↔
      register ≠ 0xffffffff ∧ f' = f.withInput a register mask := by
  simp only [initInput, touchInput, bind_eq_ok_iff, lift_eq_ok_iff, registerEnd_eq_ok_iff]
  constructor
  · rintro ⟨_, _, ⟨_, _, ⟨⟨hlast, rfl⟩, rfl⟩, h⟩, _, _, h', h''⟩
    cases h
    cases h'
    cases h''
    exact ⟨hlast, rfl⟩
  · rintro ⟨hlast, rfl⟩
    exact ⟨_, _, ⟨_, _, ⟨⟨hlast, rfl⟩, rfl⟩, rfl⟩, _, _, rfl, rfl⟩

/-- A value that counts from a base takes two arguments for one register. -/
theorem relativeInput_eq_ok_iff :
    relativeInput value base register mask f = .ok u f' ↔
      register ≠ 0xffffffff ∧ f' = f.withRelative value base register mask := by
  have hlength : (f.entryPoint.arguments ++ [value]).length = f.entryPoint.arguments.length + 1 :=
    List.length_append
  simp only [relativeInput, touchInput, bind_eq_ok_iff, lift_eq_ok_iff, registerEnd_eq_ok_iff]
  constructor
  · rintro ⟨_, _, ⟨_, _, ⟨⟨hlast, rfl⟩, rfl⟩, h⟩, _, _, hvalue, _, _, hbase, heffect⟩
    cases h
    cases hvalue
    cases hbase
    cases heffect
    refine ⟨hlast, ?_⟩
    rw [withRelative, ← hlength]
  · rintro ⟨hlast, rfl⟩
    refine ⟨_, _, ⟨_, _, ⟨⟨hlast, rfl⟩, rfl⟩, rfl⟩, _, _, rfl, _, _, rfl, ?_⟩
    rw [withRelative, ← hlength]
    rfl

/-- An output register is returned in a member of its own, unless it is the last register there
is. -/
theorem popOutput_eq_ok_iff :
    popOutput m register mask f = .ok u f' ↔
      register ≠ 0xffffffff ∧ f' = f.withOutput m register mask := by
  simp only [popOutput, bind_eq_ok_iff, lift_eq_ok_iff, registerEnd_eq_ok_iff]
  constructor
  · rintro ⟨_, _, ⟨⟨hlast, rfl⟩, rfl⟩, _, _, hmember, _, _, heffect, h⟩
    cases hmember
    cases heffect
    cases h
    exact ⟨hlast, rfl⟩
  · rintro ⟨hlast, rfl⟩
    exact ⟨_, _, ⟨⟨hlast, rfl⟩, rfl⟩, _, _, rfl, _, _, rfl, rfl⟩

/-! ### Declarations -/

section

variable {name : SystemName} {interpolation : Interpolation}

/-- The system values that are interpreted have three kinds of arguments. -/
theorem cases_of_interpretedArgument (h : interpretedArgument name interpolation = .ok a) :
    a = .position interpolation ∨ a = .renderTargetArrayIndex ∨ a = .viewportArrayIndex := by
  unfold interpretedArgument at h
  split at h
  case h_1 | h_2 | h_3 =>
    obtain ⟨_, -, h⟩ := except_bind_eq_ok_iff.1 h
    cases h
    simp
  case h_4 => cases h

/-- The system values that are generated have two kinds of arguments. -/
theorem cases_of_generatedArgument (h : generatedArgument name interpolation = .ok a) :
    a = .frontFacing ∨ a = .sampleIndex := by
  unfold generatedArgument at h
  split at h
  case h_1 | h_2 =>
    obtain ⟨_, -, h⟩ := except_bind_eq_ok_iff.1 h
    cases h
    simp
  case h_3 => cases h

end

/-- The element of the input signature comes to a vertex shader as stage input. -/
theorem records_of_declareVertexInput (h : declareVertexInput d f = .ok u f') :
    Records d f f' := by
  simp only [declareVertexInput, bind_eq_ok_iff, lift_eq_ok_iff, require_eq_ok_iff,
    initInput_eq_ok_iff] at h
  obtain ⟨⟨register, mask⟩, _, ⟨hr, rfl⟩, _, _, ⟨hs, rfl⟩, element, _, ⟨he, rfl⟩, hlast, rfl⟩ := h
  exact .input hr hlast (.vertexStageIn hs he)

/-- A plain input is about threads, the cycle counter or a register of a vertex shader. -/
theorem records_of_declareInput (h : declareInput d f = .ok u f') : Records d f f' := by
  simp only [declareInput, bind_eq_ok_iff, lift_eq_ok_iff] at h
  obtain ⟨o, _, ⟨ho, rfl⟩, h⟩ := h
  generalize hbuiltin : o.kind.threadBuiltin? = builtin? at h
  generalize hk : o.kind = kind at h
  split at h
  · next builtin =>
    simp only [bind_eq_ok_iff, lift_eq_ok_iff, StageDeclaration.requireStage_eq_ok_iff] at h
    obtain ⟨_, _, ⟨hs, rfl⟩, _, _, hargument, heffect⟩ := h
    cases hargument
    cases heffect
    exact .thread ho hbuiltin hs
  · split at h
    case h_1 => exact records_of_declareVertexInput h
    case h_2 =>
      cases h
      exact .cycleCounter ho hk
    all_goals cases h

/-- A generated input is an identifier that counts from its base, or a value of its own. -/
theorem records_of_declareGeneratedInput
    (hop : d.instruction.opcode = .stageDcl .inputGenerated)
    (h : declareGeneratedInput d f = .ok u f') : Records d f f' := by
  simp only [declareGeneratedInput, bind_eq_ok_iff, lift_eq_ok_iff] at h
  obtain ⟨⟨register, mask⟩, _, ⟨hr, rfl⟩, name, _, ⟨hn, rfl⟩, h⟩ := h
  split at h
  case h_1 =>
    simp only [bind_eq_ok_iff, lift_eq_ok_iff, StageDeclaration.requireStage_eq_ok_iff,
      relativeInput_eq_ok_iff] at h
    obtain ⟨_, _, ⟨hs, rfl⟩, hlast, rfl⟩ := h
    exact .relative hr hlast (.vertexId hs hn)
  case h_2 =>
    simp only [bind_eq_ok_iff, lift_eq_ok_iff, StageDeclaration.requireStage_eq_ok_iff,
      relativeInput_eq_ok_iff] at h
    obtain ⟨_, _, ⟨hs, rfl⟩, hlast, rfl⟩ := h
    exact .relative hr hlast (.instanceId hs hn)
  case h_3 =>
    obtain ⟨hlast, rfl⟩ := initInput_eq_ok_iff.1 h
    exact .input hr hlast (.sampleIndex hop hn)
  case h_4 =>
    obtain ⟨hlast, rfl⟩ := initInput_eq_ok_iff.1 h
    exact .input hr hlast (.primitiveId hop hn)
  case h_5 =>
    obtain ⟨hlast, rfl⟩ := initInput_eq_ok_iff.1 h
    exact .input hr hlast (.frontFacing hop hn)
  case h_6 => cases h

/-- The element of the input signature comes to a pixel shader with its interpolation. -/
theorem records_of_declarePixelInput (h : declarePixelInput d f = .ok u f') : Records d f f' := by
  simp only [declarePixelInput, bind_eq_ok_iff, lift_eq_ok_iff,
    StageDeclaration.requireStage_eq_ok_iff, initInput_eq_ok_iff] at h
  obtain ⟨_, _, ⟨hs, rfl⟩, ⟨register, mask⟩, _, ⟨hr, rfl⟩, interpolation, _, ⟨hi, rfl⟩,
    element, _, ⟨he, rfl⟩, hlast, rfl⟩ := h
  exact .input hr hlast (.fragmentStageIn hs hi he)

/-- The two families of system values of a pixel shader differ in the arguments that they have. -/
theorem records_of_declarePixelSystemInput
    {argument : SystemName → Interpolation → Except InterfaceFault Argument}
    (hinput : ∀ {name interpolation register mask a}, d.stage = .pixel →
      d.interpolation = .ok interpolation → d.systemName = .ok name →
      argument name interpolation = .ok a → d.Input register mask a)
    (h : declarePixelSystemInput d argument f = .ok u f') : Records d f f' := by
  simp only [declarePixelSystemInput, bind_eq_ok_iff, lift_eq_ok_iff,
    StageDeclaration.requireStage_eq_ok_iff, initInput_eq_ok_iff] at h
  obtain ⟨_, _, ⟨hs, rfl⟩, ⟨register, mask⟩, _, ⟨hr, rfl⟩, interpolation, _, ⟨hi, rfl⟩,
    name, _, ⟨hn, rfl⟩, a, _, ⟨ha, rfl⟩, hlast, rfl⟩ := h
  exact .input hr hlast (hinput hs hi hn ha)

/-- The depth has a member, room for the value and an effect at each end. -/
theorem records_of_declareDepth {o : Operand} {bound : DepthBound} (ho : d.operand = .ok o)
    (hk : o.kind.depthBound? = some bound) (h : declareDepth d bound f = .ok u f') :
    Records d f f' := by
  simp only [declareDepth, bind_eq_ok_iff, lift_eq_ok_iff, require_eq_ok_iff,
    StageDeclaration.requireStage_eq_ok_iff] at h
  obtain ⟨_, _, ⟨hs, rfl⟩, _, _, hget, _, _, ⟨hd, rfl⟩, _, _, hset, _, _, hentry, _, _, hmember,
    hexit⟩ := h
  cases hget
  cases hset
  cases hentry
  cases hmember
  cases hexit
  exact .depth ho hk hs hd

/-- An output register has a member that depends on the stage. -/
theorem records_of_declareRegisterOutput (h : declareRegisterOutput d f = .ok u f') :
    Records d f f' := by
  simp only [declareRegisterOutput, bind_eq_ok_iff, lift_eq_ok_iff] at h
  obtain ⟨⟨register, mask⟩, _, ⟨hr, rfl⟩, element, _, ⟨he, rfl⟩, h⟩ := h
  generalize hs : d.stage = stage at h
  split at h
  case h_1 =>
    obtain ⟨hlast, rfl⟩ := popOutput_eq_ok_iff.1 h
    exact .output hr hlast (.renderTarget hs he)
  case h_2 =>
    obtain ⟨hlast, rfl⟩ := popOutput_eq_ok_iff.1 h
    exact .output hr hlast (.vertex hs he)
  case h_3 => cases h

/-- An output is the depth or a register. -/
theorem records_of_declareOutput (h : declareOutput d f = .ok u f') : Records d f f' := by
  simp only [declareOutput, bind_eq_ok_iff, lift_eq_ok_iff] at h
  obtain ⟨o, _, ⟨ho, rfl⟩, h⟩ := h
  generalize hbound : o.kind.depthBound? = bound? at h
  generalize o.kind = kind at h
  split at h
  · exact records_of_declareDepth ho hbound h
  · split at h
    case h_1 => exact records_of_declareRegisterOutput h
    all_goals cases h

/-- The position is the one system value that can be an output, and only a vertex shader has it. -/
theorem records_of_declareInterpretedOutput (h : declareInterpretedOutput d f = .ok u f') :
    Records d f f' := by
  simp only [declareInterpretedOutput, bind_eq_ok_iff, lift_eq_ok_iff] at h
  obtain ⟨⟨register, mask⟩, _, ⟨hr, rfl⟩, name, _, ⟨hn, rfl⟩, h⟩ := h
  split at h
  · simp only [bind_eq_ok_iff, lift_eq_ok_iff, StageDeclaration.requireStage_eq_ok_iff,
      popOutput_eq_ok_iff] at h
    obtain ⟨_, _, ⟨hs, rfl⟩, hlast, rfl⟩ := h
    exact .output hr hlast (.position hs hn)
  · cases h

/-- A declaration that is not refused is one of the listed ones. -/
theorem records_of_declare {stage : Stage} {signatures : Signatures} {i : Instruction}
    (h : declare stage signatures i f = .ok u f') : Records ⟨stage, signatures, i⟩ f f' := by
  cases hop : i.opcode with
  | stageDcl op =>
    cases op <;> simp only [declare, hop] at h
    case input => exact records_of_declareInput h
    case inputGenerated => exact records_of_declareGeneratedInput hop h
    case pixelInput => exact records_of_declarePixelInput h
    case pixelInputInterpreted => exact records_of_declarePixelSystemInput .interpreted h
    case pixelInputGenerated => exact records_of_declarePixelSystemInput .generated h
    case output => exact records_of_declareOutput h
    case outputInterpreted => exact records_of_declareInterpretedOutput h
    case inputInterpreted | outputGenerated => exact absurd h throw_ne_ok
  | _ =>
    simp only [declare, hop] at h
    exact absurd h throw_ne_ok

end Interface

/-! ## Effects in step with the entry point -/

/-- The arguments that an effect at entry reads, in order. -/
def EntryEffect.reads : EntryEffect → List Nat
  | .storeRelative value base _ _ => [value, base]
  | .initRegister argument _ _ | .bindThread argument _ => [argument]
  | .allocateDepth => []

/-- The member that an effect at exit writes. -/
def ExitEffect.member : ExitEffect → Nat
  | .popRegister _ _ member | .popDepth member => member

namespace Interface

variable {d : StageDeclaration} {f f' : Interface}

/-- The effects read each argument and write each member once, in order, and there is room for the
depth if it is an output. -/
structure InStep (f : Interface) : Prop where
  reads : f.atEntry.flatMap EntryEffect.reads = List.range f.entryPoint.arguments.length
  members : f.atExit.map ExitEffect.member = List.range f.entryPoint.members.length
  depth : f.atEntry.count .allocateDepth = f.hasDepth.toNat
  popDepth : ∀ {m}, .popDepth m ∈ f.atExit → f.hasDepth = true

/-- Without declarations there is nothing to read or to write. -/
theorem inStep_empty : InStep {} := ⟨rfl, rfl, rfl, nofun⟩

/-- Arguments are added together with an effect that reads them. -/
theorem InStep.addArguments (h : f.InStep) {as : List Argument} {effect : EntryEffect} {n : Nat}
    (hreads : List.range f.entryPoint.arguments.length ++ effect.reads =
      List.range (f.entryPoint.arguments ++ as).length) (heffect : effect ≠ .allocateDepth) :
    InStep { f with
      entryPoint := { f.entryPoint with arguments := f.entryPoint.arguments ++ as }
      atEntry := f.atEntry ++ [effect]
      inputRegisters := n } where
  reads := by
    rw [List.flatMap_append, h.reads, ← hreads]
    simp
  members := h.members
  depth := by
    rw [List.count_append, h.depth, List.count_singleton, if_neg (by simpa using heffect)]
    rfl
  popDepth := h.popDepth

/-- A declaration keeps effects and entry point in step. -/
theorem Records.inStep (h : Records d f f') (hf : f.InStep) : f'.InStep := by
  cases h with
  | cycleCounter => exact hf
  | thread | input =>
    exact hf.addArguments (by simp [EntryEffect.reads, List.range_succ]) nofun
  | relative =>
    simp only [withRelative, List.append_assoc]
    exact hf.addArguments (by simp [EntryEffect.reads, List.range_succ]) nofun
  | output =>
    refine ⟨hf.reads, ?_, hf.depth, fun hm => hf.popDepth (by simpa [withOutput] using hm)⟩
    simp [withOutput, hf.members, ExitEffect.member, List.range_succ]
  | depth _ _ _ hd =>
    refine ⟨?_, ?_, ?_, fun _ => rfl⟩
    · simp [withDepth, hf.reads, EntryEffect.reads]
    · simp [withDepth, hf.members, ExitEffect.member, List.range_succ]
    · simp [withDepth, hf.depth, hd]

/-- A declaration adds two arguments and one member at most. -/
theorem Records.length_le (h : Records d f f') :
    f'.entryPoint.arguments.length ≤ f.entryPoint.arguments.length + 2 ∧
      f'.entryPoint.members.length ≤ f.entryPoint.members.length + 1 := by
  cases h <;> simp [withThread, withInput, withRelative, withOutput, withDepth]

end Interface

end ShaderFlow
