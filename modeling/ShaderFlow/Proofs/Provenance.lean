import ShaderFlow.Proofs.Streams

/-!
# Where arguments and members come from

Each argument and each member of an entry point comes from a declaration
(`Compilation.History.exists_passes`, `Compilation.History.exists_returns`), the binding table
apart. Most of them belong to one stage (`Argument.stage?`, `Member.stage`), and it is the stage of
the program that declares them, with the exception of three inputs whose declaration does not look
at the stage (`StageDeclaration.Passes.stage?_eq`).
-/

namespace ShaderFlow

/-! ## One declaration -/

namespace StageDeclaration

/-- The arguments that a declaration may add. -/
inductive Passes (d : StageDeclaration) : Argument → Prop where
  | thread {builtin : ThreadBuiltin} (hs : d.stage = .compute) : Passes d (.thread builtin)
  | input {register : UInt32} {mask : Mask} {a : Argument} (ha : d.Input register mask a) :
      Passes d a
  | value {value base : Argument} (ha : d.Relative value base) : Passes d value
  | base {value base : Argument} (ha : d.Relative value base) : Passes d base

/-- The members that a declaration may add. -/
inductive Returns (d : StageDeclaration) : Member → Prop where
  | output {register : UInt32} {mask : Mask} {m : Member} (hm : d.Output register mask m) :
      Returns d m
  | depth {bound : DepthBound} (hs : d.stage = .pixel) : Returns d (.depth bound)

end StageDeclaration

namespace Interface

variable {d : StageDeclaration} {f f' : Interface}

/-- New arguments come last, and they are arguments of the declaration. -/
theorem Records.arguments (h : Records d f f') :
    ∃ new, f'.entryPoint.arguments = f.entryPoint.arguments ++ new ∧ ∀ a ∈ new, d.Passes a := by
  cases h with
  | cycleCounter | output | depth =>
    exact ⟨[], (List.append_nil _).symm, List.forall_mem_nil _⟩
  | thread _ _ hs => exact ⟨_, rfl, List.forall_mem_singleton.2 (.thread hs)⟩
  | input _ _ ha => exact ⟨_, rfl, List.forall_mem_singleton.2 (.input ha)⟩
  | relative _ _ ha =>
    refine ⟨_, List.append_assoc .., List.forall_mem_cons.2 ⟨.value ha, ?_⟩⟩
    exact List.forall_mem_singleton.2 (.base ha)

/-- New members come last, and they are members of the declaration. -/
theorem Records.members (h : Records d f f') :
    ∃ new, f'.entryPoint.members = f.entryPoint.members ++ new ∧ ∀ m ∈ new, d.Returns m := by
  cases h with
  | cycleCounter | thread | input | relative =>
    exact ⟨[], (List.append_nil _).symm, List.forall_mem_nil _⟩
  | output _ _ hm => exact ⟨_, rfl, List.forall_mem_singleton.2 (.output hm)⟩
  | depth _ _ hs => exact ⟨_, rfl, List.forall_mem_singleton.2 (.depth hs)⟩

end Interface

/-! ## Stages -/

/-- The stage that an argument belongs to. The primitive and the binding table belong to every
stage. -/
def Argument.stage? : Argument → Option Stage
  | .vertexId | .baseVertex | .instanceId | .baseInstance | .vertexStageIn .. => some .vertex
  | .fragmentStageIn .. | .position _ | .renderTargetArrayIndex | .viewportArrayIndex
  | .sampleIndex | .frontFacing => some .pixel
  | .thread _ => some .compute
  | .primitiveId | .bindingTable _ => none

/-- The stage that a member belongs to. -/
def Member.stage : Member → Stage
  | .position | .vertex .. => .vertex
  | .renderTarget .. | .depth _ => .pixel

/-- The argument for a generated input that is accepted in every stage. -/
def SystemName.unstaged? : SystemName → Option Argument
  | .sampleIndex => some .sampleIndex
  | .primitiveId => some .primitiveId
  | .isFrontFace => some .frontFacing
  | _ => none

namespace Interface

variable {name : SystemName} {interpolation : Interpolation} {a : Argument}

/-- The system values that are interpreted belong to pixel shaders. -/
theorem stage?_of_interpretedArgument (h : interpretedArgument name interpolation = .ok a) :
    a.stage? = some .pixel := by
  rcases cases_of_interpretedArgument h with rfl | rfl | rfl <;> rfl

/-- The generated system values that are declared with an interpolation belong to pixel shaders. -/
theorem stage?_of_generatedArgument (h : generatedArgument name interpolation = .ok a) :
    a.stage? = some .pixel := by
  rcases cases_of_generatedArgument h with rfl | rfl <;> rfl

end Interface

namespace StageDeclaration

variable {d : StageDeclaration} {a : Argument} {m : Member}

/-- The declaration is one of a generated input whose stage is not looked at. -/
def Unstaged (d : StageDeclaration) (a : Argument) : Prop :=
  d.instruction.opcode = .stageDcl .inputGenerated ∧
    ∃ name, d.systemName = .ok name ∧ name.unstaged? = some a

/-- The argument belongs to the stage of the program, unless the stage is not looked at. -/
theorem Passes.stage?_eq (h : d.Passes a) : a.stage? = some d.stage ∨ d.Unstaged a := by
  cases h with
  | thread hs => exact .inl (congrArg some hs.symm)
  | value ha | base ha =>
    cases ha with
    | vertexId hs | instanceId hs => exact .inl (congrArg some hs.symm)
  | input ha =>
    cases ha with
    | vertexStageIn hs | fragmentStageIn hs => exact .inl (congrArg some hs.symm)
    | sampleIndex hop hn | primitiveId hop hn | frontFacing hop hn =>
      exact .inr ⟨hop, _, hn, rfl⟩
    | interpreted hs _ _ ha =>
      exact .inl ((Interface.stage?_of_interpretedArgument ha).trans (congrArg some hs.symm))
    | generated hs _ _ ha =>
      exact .inl ((Interface.stage?_of_generatedArgument ha).trans (congrArg some hs.symm))

/-- The inputs whose stage is not looked at belong to pixel shaders, or to no stage. -/
theorem Unstaged.stage?_eq (h : d.Unstaged a) {stage : Stage} (hs : a.stage? = some stage) :
    stage = .pixel := by
  obtain ⟨-, name, -, hname⟩ := h
  unfold SystemName.unstaged? at hname
  split at hname <;> cases hname <;> cases hs <;> rfl

/-- A declaration whose stage is not looked at adds its argument. -/
theorem Unstaged.mem_of_declare {f f' : Interface} {u : Unit} (h : d.Unstaged a)
    (hf : Interface.declare d.stage d.signatures d.instruction f = .ok u f') :
    a ∈ f'.entryPoint.arguments := by
  obtain ⟨hop, name, hn, hname⟩ := h
  simp only [Interface.declare, hop, Interface.declareGeneratedInput, bind_eq_ok_iff,
    lift_eq_ok_iff] at hf
  obtain ⟨⟨register, mask⟩, _, ⟨-, rfl⟩, name', _, ⟨hn', rfl⟩, hf⟩ := hf
  cases hn.symm.trans hn'
  unfold SystemName.unstaged? at hname
  split at hname
  case h_4 => cases hname
  all_goals
    cases hname
    obtain ⟨-, rfl⟩ := Interface.initInput_eq_ok_iff.1 hf
    exact List.mem_concat_self

/-- A member belongs to the stage of its declaration. -/
theorem Returns.stage_eq (h : d.Returns m) : m.stage = d.stage := by
  cases h with
  | depth hs => exact hs.symm
  | output hm =>
    cases hm with
    | position hs | renderTarget hs | vertex hs => exact hs.symm

end StageDeclaration

/-! ## All declarations -/

/-- No instruction takes an argument away. -/
theorem Session.Advances.arguments_subset {σ L : Type} {stage : Stage} {signatures : Signatures}
    {lower : Lowering σ L} {position : Nat} {i : Instruction} {s s' : Session σ L}
    (h : Advances stage signatures lower position s i s') :
    s.interface.entryPoint.arguments ⊆ s'.interface.entryPoint.arguments := by
  cases h with
  | neutral | resource | control | ordinary => exact List.Subset.refl _
  | interface _ _ h =>
    obtain ⟨new, heq, -⟩ := (Interface.records_of_declare h).arguments
    rw [heq]
    exact List.subset_append_left _ _

namespace Compilation.History

variable {σ L : Type} {C : Compilation σ L} {H : C.History} {j k : Nat}

/-- What a declaration may add to a list comes from a declaration of the program. -/
theorem exists_of_mem {α : Type} {get : Interface → List α} {R : StageDeclaration → α → Prop}
    (hempty : get {} = [])
    (hgrows : ∀ {d f f'}, Interface.Records d f f' →
      ∃ new, get f' = get f ++ new ∧ ∀ a ∈ new, R d a)
    (hk : k ≤ H.length) {a : α} (ha : a ∈ get (H.session k).interface) :
    ∃ j < k, ∃ i, C.program.instructions[j]? = some i ∧ R ⟨C.program.stage, C.signatures, i⟩ a := by
  refine invariant (P := fun k s => ∀ a ∈ get s.interface, ∃ j < k, ∃ i,
    C.program.instructions[j]? = some i ∧ R ⟨C.program.stage, C.signatures, i⟩ a) ?_ ?_ hk a ha
  · intro a ha
    rw [start, hempty] at ha
    cases ha
  intro k i s s' hi _ hadvances hs a ha
  have hold (ha : a ∈ get s.interface) : ∃ j < k + 1, ∃ i,
      C.program.instructions[j]? = some i ∧ R ⟨C.program.stage, C.signatures, i⟩ a := by
    obtain ⟨j, hj, hR⟩ := hs a ha
    exact ⟨j, Nat.lt_succ_of_lt hj, hR⟩
  cases hadvances with
  | neutral | resource | control | ordinary => exact hold ha
  | interface _ _ h =>
    obtain ⟨new, heq, hnew⟩ := hgrows (Interface.records_of_declare h)
    rw [heq, List.mem_append] at ha
    rcases ha with ha | ha
    · exact hold ha
    · exact ⟨k, Nat.lt_succ_self k, i, hi, hnew a ha⟩

/-- An argument comes from a declaration. -/
theorem exists_passes (hk : k ≤ H.length) {a : Argument}
    (ha : a ∈ (H.session k).interface.entryPoint.arguments) :
    ∃ j < k, ∃ i, C.program.instructions[j]? = some i ∧
      StageDeclaration.Passes ⟨C.program.stage, C.signatures, i⟩ a :=
  exists_of_mem rfl Interface.Records.arguments hk ha

/-- A member comes from a declaration. -/
theorem exists_returns (hk : k ≤ H.length) {m : Member}
    (hm : m ∈ (H.session k).interface.entryPoint.members) :
    ∃ j < k, ∃ i, C.program.instructions[j]? = some i ∧
      StageDeclaration.Returns ⟨C.program.stage, C.signatures, i⟩ m :=
  exists_of_mem rfl Interface.Records.members hk hm

/-- Arguments stay. -/
theorem arguments_subset (hjk : j ≤ k) (hk : k ≤ H.length) :
    (H.session j).interface.entryPoint.arguments ⊆
      (H.session k).interface.entryPoint.arguments := by
  induction hjk with
  | refl => exact List.Subset.refl _
  | @step k _ ih =>
    obtain ⟨i, -, hs⟩ := H.step hk
    have hstep := (Session.step_eq_ok_iff.1 hs).advances.arguments_subset
    exact List.Subset.trans (ih (Nat.le_of_lt hk)) hstep

end Compilation.History

end ShaderFlow
