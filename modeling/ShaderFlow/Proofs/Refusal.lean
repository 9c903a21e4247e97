import ShaderFlow.Interface.Declare
import ShaderFlow.Resource.Declare

/-!
# Refusals

The state of a step survives its refusal, so a step that is refused half way could leave half of its
changes behind. Declarations do not: a declaration makes all its checks before its first change, and
one that is refused leaves the resources and the interface as they were
(`unchanged_of_refusal`).

A step is either of two kinds, or put together from them: it only looks at the state (`Looks`), or
it is never refused (`NeverRefused`). Looking before acting makes a step all or nothing
(`AllOrNothing`), and the rules below say how.
-/

namespace ShaderFlow

section

variable {ε σ α β : Type} {x : EStateM ε σ α} {f : α → EStateM ε σ β}

/-- The step leaves the state as it is, whether or not it is refused. -/
def Looks (x : EStateM ε σ α) : Prop :=
  ∀ s, (∃ a, x s = .ok a s) ∨ ∃ fault, x s = .error fault s

/-- The step succeeds in every state. -/
def NeverRefused (x : EStateM ε σ α) : Prop := ∀ s, ∃ a s', x s = .ok a s'

/-- The step leaves the state as it was if it is refused. -/
def AllOrNothing (x : EStateM ε σ α) : Prop := ∀ {s fault s'}, x s = .error fault s' → s' = s

/-! ## Looking -/

/-- A refusal that is thrown changes nothing. -/
theorem looks_throw {fault : ε} : Looks (throw fault : EStateM ε σ α) :=
  fun _ => .inr ⟨fault, rfl⟩

/-- Reading the state changes nothing. -/
theorem looks_get : Looks (get : EStateM ε σ σ) := fun s => .inl ⟨s, rfl⟩

/-- A check of data alone does not touch the state. -/
theorem looks_lift {check : Except ε α} : Looks (liftM check : EStateM ε σ α) := by
  intro s
  cases check with
  | ok a => exact .inl ⟨a, rfl⟩
  | error fault => exact .inr ⟨fault, rfl⟩

/-- A missing value is refused before anything is done. -/
theorem looks_orFault {value : Option α} {fault : ε} :
    Looks (orFault value fault : EStateM ε σ α) := by
  intro s
  cases value with
  | some a => exact .inl ⟨a, rfl⟩
  | none => exact .inr ⟨fault, rfl⟩

/-- A condition is only looked at. -/
theorem looks_require {p : Prop} [Decidable p] {fault : ε} :
    Looks (require p fault : EStateM ε σ Unit) := by
  intro s
  rw [require_apply]
  split
  · exact .inl ⟨(), rfl⟩
  · exact .inr ⟨fault, rfl⟩

/-- A step that only looks has nothing to leave behind. -/
theorem Looks.allOrNothing (h : Looks x) : AllOrNothing x := by
  intro s fault s' hx
  rcases h s with ⟨a, ha⟩ | ⟨fault', hfault⟩
  · cases hx.symm.trans ha
  · cases hx.symm.trans hfault
    rfl

/-- Looking first does no harm. -/
theorem Looks.bind (h : Looks x) (hf : ∀ a, AllOrNothing (f a)) : AllOrNothing (x >>= f) := by
  intro s fault s' hxf
  rcases h s with ⟨a, ha⟩ | ⟨fault', hfault⟩
  · rw [bind_of_ok ha] at hxf
    exact hf a hxf
  · rw [bind_of_error hfault] at hxf
    cases hxf
    rfl

/-! ## Acting -/

/-- Giving a value is never refused. -/
theorem neverRefused_pure {a : α} : NeverRefused (pure a : EStateM ε σ α) := fun s => ⟨a, s, rfl⟩

/-- Writing the state is never refused. -/
theorem neverRefused_set {s : σ} : NeverRefused (set s : EStateM ε σ PUnit) :=
  fun _ => ⟨⟨⟩, s, rfl⟩

/-- Changing the state is never refused, whatever is read on the way. -/
theorem neverRefused_modifyGet {g : σ → α × σ} : NeverRefused (modifyGet g : EStateM ε σ α) :=
  fun s => ⟨(g s).1, (g s).2, rfl⟩

/-- Changing the state is never refused. -/
theorem neverRefused_modify {g : σ → σ} : NeverRefused (modify g : EStateM ε σ PUnit) :=
  neverRefused_modifyGet

/-- Two steps that are never refused make one. -/
theorem NeverRefused.bind (h : NeverRefused x) (hf : ∀ a, NeverRefused (f a)) :
    NeverRefused (x >>= f) := by
  intro s
  obtain ⟨a, s₁, hx⟩ := h s
  rw [bind_of_ok hx]
  exact hf a s₁

/-- A step that is never refused leaves nothing behind by a refusal. -/
theorem NeverRefused.allOrNothing (h : NeverRefused x) : AllOrNothing x := by
  intro s fault s' hx
  obtain ⟨a, s₁, ha⟩ := h s
  cases hx.symm.trans ha

/-- After the last check it does not matter what is changed. -/
theorem AllOrNothing.bind (h : AllOrNothing x) (hf : ∀ a, NeverRefused (f a)) :
    AllOrNothing (x >>= f) := by
  intro s fault s' hxf
  cases hx : x s with
  | ok a s₁ =>
    rw [bind_of_ok hx] at hxf
    obtain ⟨b, s₂, hb⟩ := hf a s₁
    cases hxf.symm.trans hb
  | error fault' s₁ =>
    rw [bind_of_error hx] at hxf
    cases hxf
    exact h hx

/-! ## Going on after a refusal -/

/-- The state that a step leaves, whether or not it is refused. -/
def attempt (x : EStateM ε σ α) (s : σ) : σ :=
  match x s with
  | .ok _ s' => s'
  | .error _ s' => s'

/-- Where nothing is changed by halves, an attempt is in vain or a success. -/
theorem AllOrNothing.attempt_cases (h : AllOrNothing x) (s : σ) :
    attempt x s = s ∨ ∃ a, x s = .ok a (attempt x s) := by
  unfold attempt
  cases hx : x s with
  | ok a s' => exact .inr ⟨a, rfl⟩
  | error fault s' => exact .inl (h hx)

end

/-! ## Resources -/

namespace Resources

variable {i : Instruction} {space flags : UInt32} {format : ViewFormat}

/-- A binding is entered after it has been looked for. -/
theorem allOrNothing_addBinding {kind : BindingKind} {id : UInt32} :
    AllOrNothing (addBinding kind id) :=
  looks_get.bind fun _ => looks_require.bind fun _ => neverRefused_set.allOrNothing

/-- A resource view needs a range and a binding before it is stored. -/
theorem allOrNothing_addResourceView : AllOrNothing (addResourceView i space format) :=
  looks_lift.bind fun _ => allOrNothing_addBinding.bind fun _ => neverRefused_modify

/-- An access view needs a range and a binding before it is stored. -/
theorem allOrNothing_addAccessView : AllOrNothing (addAccessView i space flags format) :=
  looks_lift.bind fun _ => allOrNothing_addBinding.bind fun _ => neverRefused_modify

/-- Shared memory is stored after its operand and its number have been checked. -/
theorem allOrNothing_addSharedMemory {memory : SharedMemory} :
    AllOrNothing (addSharedMemory i memory) :=
  looks_lift.bind fun _ => looks_orFault.bind fun _ => looks_get.bind fun _ =>
    looks_require.bind fun _ => neverRefused_set.allOrNothing

/-- Constants are stored after their number and the absence of others have been checked. -/
theorem allOrNothing_addConstants {words : List UInt32} : AllOrNothing (addConstants words) :=
  looks_require.bind fun _ => looks_get.bind fun _ => looks_require.bind fun _ =>
    neverRefused_set.allOrNothing

/-- A resource declaration is recorded as a whole or not at all. -/
theorem allOrNothing_declare {stage : Stage} : AllOrNothing (declare stage i) := by
  unfold declare
  refine looks_orFault.bind fun payload => ?_
  split
  case h_1 =>
    exact looks_lift.bind fun _ => allOrNothing_addBinding.bind fun _ => neverRefused_modify
  case h_2 =>
    exact looks_lift.bind fun _ => looks_lift.bind fun _ => allOrNothing_addBinding.bind fun _ =>
      neverRefused_modify
  case h_3 => exact looks_lift.bind fun _ => allOrNothing_addResourceView
  case h_4 | h_5 => exact allOrNothing_addResourceView
  case h_6 => exact looks_lift.bind fun _ => allOrNothing_addAccessView
  case h_7 | h_8 => exact allOrNothing_addAccessView
  case h_9 => exact neverRefused_modify.allOrNothing
  case h_10 =>
    exact looks_get.bind fun _ => looks_require.bind fun _ => neverRefused_set.allOrNothing
  case h_11 =>
    exact looks_require.bind fun _ => looks_require.bind fun _ => looks_get.bind fun _ =>
      looks_require.bind fun _ => neverRefused_set.allOrNothing
  case h_12 | h_13 =>
    exact looks_require.bind fun _ => looks_lift.bind fun _ => allOrNothing_addSharedMemory
  case h_14 | h_15 => exact neverRefused_pure.allOrNothing
  case h_16 =>
    split
    · exact allOrNothing_addConstants
    · exact neverRefused_pure.allOrNothing
  case h_17 => exact looks_throw.allOrNothing

end Resources

/-! ## Inputs and outputs -/

namespace Interface

variable {d : StageDeclaration} {register : UInt32} {mask : Mask}

/-- There is always room for one more argument. -/
theorem neverRefused_addArgument {a : Argument} : NeverRefused (addArgument a) :=
  neverRefused_modifyGet

/-- There is always room for one more member. -/
theorem neverRefused_addMember {m : Member} : NeverRefused (addMember m) :=
  neverRefused_modifyGet

/-- There is always room for one more effect at entry. -/
theorem neverRefused_addEntryEffect {e : EntryEffect} : NeverRefused (addEntryEffect e) :=
  neverRefused_modify

/-- There is always room for one more effect at exit. -/
theorem neverRefused_addExitEffect {e : ExitEffect} : NeverRefused (addExitEffect e) :=
  neverRefused_modify

/-- The only check of an input register is the one on its number, and it comes first. -/
theorem allOrNothing_touchInput : AllOrNothing (touchInput register) :=
  looks_lift.bind fun _ => neverRefused_modify.allOrNothing

/-- An input that is copied is recorded after its register has been checked. -/
theorem allOrNothing_initInput {a : Argument} : AllOrNothing (initInput a register mask) :=
  allOrNothing_touchInput.bind fun _ => neverRefused_addArgument.bind fun _ =>
    neverRefused_addEntryEffect

/-- An input that is relative to a base is recorded after its register has been checked. -/
theorem allOrNothing_relativeInput {value base : Argument} :
    AllOrNothing (relativeInput value base register mask) :=
  allOrNothing_touchInput.bind fun _ => neverRefused_addArgument.bind fun _ =>
    neverRefused_addArgument.bind fun _ => neverRefused_addEntryEffect

/-- An output is recorded after its register has been checked. -/
theorem allOrNothing_popOutput {m : Member} : AllOrNothing (popOutput m register mask) :=
  looks_lift.bind fun _ => (neverRefused_addMember.bind fun _ =>
    neverRefused_addExitEffect.bind fun _ => neverRefused_modify).allOrNothing

/-- The element of a vertex input is looked up before the input is recorded. -/
theorem allOrNothing_declareVertexInput : AllOrNothing (declareVertexInput d) := by
  refine looks_lift.bind ?_
  rintro ⟨register, mask⟩
  exact looks_require.bind fun _ => looks_lift.bind fun _ => allOrNothing_initInput

/-- The kinds of operands for `dcl_input` are told apart before anything is recorded. -/
theorem allOrNothing_declareInput : AllOrNothing (declareInput d) := by
  refine looks_lift.bind fun o => ?_
  split
  · exact looks_lift.bind fun _ => (neverRefused_addArgument.bind fun _ =>
      neverRefused_addEntryEffect).allOrNothing
  · split
    case h_1 => exact allOrNothing_declareVertexInput
    case h_2 => exact neverRefused_pure.allOrNothing
    all_goals exact looks_throw.allOrNothing

/-- A generated input is recorded after its name and its stage have been checked. -/
theorem allOrNothing_declareGeneratedInput : AllOrNothing (declareGeneratedInput d) := by
  refine looks_lift.bind ?_
  rintro ⟨register, mask⟩
  refine looks_lift.bind fun name => ?_
  split
  case h_1 | h_2 => exact looks_lift.bind fun _ => allOrNothing_relativeInput
  case h_3 | h_4 | h_5 => exact allOrNothing_initInput
  case h_6 => exact looks_throw.allOrNothing

/-- An interpolated input is recorded after the stage, the mode and the element have been
checked. -/
theorem allOrNothing_declarePixelInput : AllOrNothing (declarePixelInput d) := by
  refine looks_lift.bind fun _ => looks_lift.bind ?_
  rintro ⟨register, mask⟩
  exact looks_lift.bind fun _ => looks_lift.bind fun _ => allOrNothing_initInput

/-- A system value for pixels is recorded after the stage, the mode and the name have been
checked. -/
theorem allOrNothing_declarePixelSystemInput
    {argument : SystemName → Interpolation → Except InterfaceFault Argument} :
    AllOrNothing (declarePixelSystemInput d argument) := by
  refine looks_lift.bind fun _ => looks_lift.bind ?_
  rintro ⟨register, mask⟩
  exact looks_lift.bind fun _ => looks_lift.bind fun _ => looks_lift.bind fun _ =>
    allOrNothing_initInput

/-- Room for the depth, its member and its effects are recorded together, after a check that there
is no depth yet. -/
theorem allOrNothing_declareDepth {bound : DepthBound} : AllOrNothing (declareDepth d bound) :=
  looks_lift.bind fun _ => looks_get.bind fun _ => looks_require.bind fun _ =>
    (neverRefused_modify.bind fun _ => neverRefused_addEntryEffect.bind fun _ =>
      neverRefused_addMember.bind fun _ => neverRefused_addExitEffect).allOrNothing

/-- The element of an output is looked up before the output is recorded. -/
theorem allOrNothing_declareRegisterOutput : AllOrNothing (declareRegisterOutput d) := by
  refine looks_lift.bind ?_
  rintro ⟨register, mask⟩
  refine looks_lift.bind fun element => ?_
  dsimp only
  split
  case h_1 | h_2 => exact allOrNothing_popOutput
  case h_3 => exact looks_throw.allOrNothing

/-- The kinds of operands for `dcl_output` are told apart before anything is recorded. -/
theorem allOrNothing_declareOutput : AllOrNothing (declareOutput d) := by
  refine looks_lift.bind fun o => ?_
  split
  · exact allOrNothing_declareDepth
  · split
    case h_1 => exact allOrNothing_declareRegisterOutput
    all_goals exact looks_throw.allOrNothing

/-- A system value that is written is recorded after its name and its stage have been checked. -/
theorem allOrNothing_declareInterpretedOutput : AllOrNothing (declareInterpretedOutput d) := by
  refine looks_lift.bind ?_
  rintro ⟨register, mask⟩
  refine looks_lift.bind fun name => ?_
  split
  · exact looks_lift.bind fun _ => allOrNothing_popOutput
  · exact looks_throw.allOrNothing

/-- A declaration of an input or output is recorded as a whole or not at all. -/
theorem allOrNothing_declare {stage : Stage} {signatures : Signatures} {i : Instruction} :
    AllOrNothing (declare stage signatures i) := by
  unfold declare
  dsimp only
  split
  case h_1 => exact allOrNothing_declareInput
  case h_2 => exact allOrNothing_declareGeneratedInput
  case h_4 => exact allOrNothing_declarePixelInput
  case h_5 | h_6 => exact allOrNothing_declarePixelSystemInput
  case h_7 => exact allOrNothing_declareOutput
  case h_8 => exact allOrNothing_declareInterpretedOutput
  case h_3 | h_9 | h_10 => exact looks_throw.allOrNothing

end Interface

/-! ## Declarations that are refused -/

/-- A declaration that is refused leaves the resources, or the interface, exactly as they were,
whatever they were. -/
theorem unchanged_of_refusal :
    (∀ (stage : Stage) (i : Instruction) (r r' : Resources) (fault : ResourceFault),
      Resources.declare stage i r = .error fault r' → r' = r) ∧
    ∀ (stage : Stage) (signatures : Signatures) (i : Instruction) (f f' : Interface)
      (fault : InterfaceFault),
      Interface.declare stage signatures i f = .error fault f' → f' = f :=
  ⟨fun _ _ _ _ _ h => Resources.allOrNothing_declare h,
    fun _ _ _ _ _ _ h => Interface.allOrNothing_declare h⟩

/-- Declares an access view. -/
def viewDeclaration : Instruction where
  opcode := .resourceDcl .uavRaw
  operands := [.register .unorderedAccessView (.d1 3)]
  declaration := some (.uavRaw 0 0)

/-- Declares the depth as an output. -/
def depthDeclaration : Instruction where
  opcode := .stageDcl .output
  operands := [.register .outputDepth .none]
  declaration := some .output

/-- Declared twice, the view and the depth are refused, and what the first declarations recorded is
left alone. -/
theorem unchanged_of_repetition :
    ∃ r f, Resources.declare .pixel viewDeclaration {} = .ok () r ∧
      Resources.declare .pixel viewDeclaration r = .error (.bindingTwice .access 3) r ∧
      Interface.declare .pixel ⟨[], []⟩ depthDeclaration {} = .ok () f ∧
      Interface.declare .pixel ⟨[], []⟩ depthDeclaration f = .error .depthTwice f := by
  -- The second declarations are refused in some state, and it has to be the one they began in.
  have hview : ∃ r r', Resources.declare .pixel viewDeclaration {} = .ok () r ∧
      Resources.declare .pixel viewDeclaration r = .error (.bindingTwice .access 3) r' :=
    ⟨_, _, rfl, rfl⟩
  have hdepth : ∃ f f', Interface.declare .pixel ⟨[], []⟩ depthDeclaration {} = .ok () f ∧
      Interface.declare .pixel ⟨[], []⟩ depthDeclaration f = .error .depthTwice f' :=
    ⟨_, _, rfl, rfl⟩
  obtain ⟨r, r', hr, hr'⟩ := hview
  obtain ⟨f, f', hf, hf'⟩ := hdepth
  cases unchanged_of_refusal.1 _ _ _ _ _ hr'
  cases unchanged_of_refusal.2 _ _ _ _ _ _ hf'
  exact ⟨r, f, hr, hr', hf, hf'⟩

end ShaderFlow
