import Mathlib.Algebra.Group.Nat.Defs
import ShaderFlow.Proofs.Recording
import ShaderFlow.Proofs.Refusal

/-!
# Effects in lockstep with the entry point

The effects of an interface and its entry point are built by the same declarations. Whatever is
declared, and however many declarations are refused on the way, the effects go through the arguments
and the members in order, each refers to something of its own kind, there is room for the depth if
and only if the depth is a member, and the numbers of registers are those of the registers in use
(`Interface.lockstep_attemptAll`).
-/

namespace ShaderFlow

/-! ## What effects refer to -/

/-- The input register that an effect at entry writes. -/
def EntryEffect.register? : EntryEffect → Option UInt32
  | .storeRelative _ _ register _ | .initRegister _ register _ => some register
  | .bindThread .. | .allocateDepth => none

/-- The output register that an effect at exit reads. -/
def ExitEffect.register? : ExitEffect → Option UInt32
  | .popRegister register _ _ => some register
  | .popDepth _ => none

/-- Whether an effect at exit copies the depth. -/
def ExitEffect.isDepth : ExitEffect → Bool
  | .popDepth _ => true
  | .popRegister .. => false

/-- Whether a member is the depth. -/
def Member.isDepth : Member → Bool
  | .depth _ => true
  | _ => false

/-- What an effect at entry reads is of its own kind: an identifier is followed by its base, and a
thread position is the one that is bound. -/
def EntryEffect.Fits (arguments : List Argument) : EntryEffect → Prop
  | .storeRelative value base _ _ => base = value + 1 ∧
    (arguments[value]? = some .vertexId ∧ arguments[base]? = some .baseVertex ∨
      arguments[value]? = some .instanceId ∧ arguments[base]? = some .baseInstance)
  | .bindThread argument builtin => arguments[argument]? = some (.thread builtin)
  | .initRegister .. | .allocateDepth => True

/-- What an effect at exit writes is of its own kind: the depth if it copies the depth, and not the
depth otherwise. -/
def ExitEffect.Fits (members : List Member) (e : ExitEffect) : Prop :=
  ∃ m, members[e.member]? = some m ∧ m.isDepth = e.isDepth

/-- One more than the highest of some registers, and zero if there are none. -/
def registerBound (registers : List UInt32) : Nat :=
  (registers.map fun register => register.toNat + 1).max?.getD 0

/-- One more register raises the bound to hold it. -/
theorem registerBound_concat {registers : List UInt32} {register : UInt32} :
    registerBound (registers ++ [register]) =
      max (registerBound registers) (register.toNat + 1) := by
  unfold registerBound
  cases registers with
  | nil => simp
  | cons first rest =>
    rw [List.cons_append, List.map_cons, List.map_cons, List.max?_cons', List.max?_cons',
      List.map_append, List.foldl_append]
    rfl

/-- What is found in a list is found at the same place when the list grows. -/
theorem getElem?_append_of_eq_some {α : Type} {xs ys : List α} {k : Nat} {a : α}
    (h : xs[k]? = some a) : (xs ++ ys)[k]? = some a := by
  rw [List.getElem?_append_left (List.getElem?_eq_some_iff.1 h).1, h]

/-- More arguments do not matter. -/
theorem EntryEffect.Fits.append {arguments more : List Argument} {e : EntryEffect}
    (h : e.Fits arguments) : e.Fits (arguments ++ more) := by
  cases e with
  | storeRelative =>
    obtain ⟨hbase, ⟨hvalue, hbase'⟩ | ⟨hvalue, hbase'⟩⟩ := h
    · exact ⟨hbase, .inl ⟨getElem?_append_of_eq_some hvalue, getElem?_append_of_eq_some hbase'⟩⟩
    · exact ⟨hbase, .inr ⟨getElem?_append_of_eq_some hvalue, getElem?_append_of_eq_some hbase'⟩⟩
  | bindThread => exact getElem?_append_of_eq_some h
  | initRegister | allocateDepth => trivial

/-- More members do not matter. -/
theorem ExitEffect.Fits.append {members more : List Member} {e : ExitEffect}
    (h : e.Fits members) : e.Fits (members ++ more) := by
  obtain ⟨m, hm, hdepth⟩ := h
  exact ⟨m, getElem?_append_of_eq_some hm, hdepth⟩

namespace StageDeclaration

variable {d : StageDeclaration}

/-- Only the depth is copied from elsewhere than a register. -/
theorem Output.isDepth {register : UInt32} {mask : Mask} {m : Member}
    (h : d.Output register mask m) : m.isDepth = false := by
  cases h <;> rfl

end StageDeclaration

namespace Interface

variable {d : StageDeclaration} {f f' : Interface}

/-! ## One declaration -/

/-- The effects and the entry point are in step, what an effect refers to is of its own kind, the
depth is allocated, copied and returned once or not at all, and the numbers of registers are the
least that hold the registers in use. -/
structure Lockstep (f : Interface) : Prop extends InStep f where
  atEntry : ∀ e ∈ f.atEntry, e.Fits f.entryPoint.arguments
  atExit : ∀ e ∈ f.atExit, e.Fits f.entryPoint.members
  depthCopies : f.atExit.countP ExitEffect.isDepth = f.hasDepth.toNat
  depthMembers : f.entryPoint.members.countP Member.isDepth = f.hasDepth.toNat
  inputRegisters : f.inputRegisters = registerBound (f.atEntry.filterMap EntryEffect.register?)
  outputRegisters : f.outputRegisters = registerBound (f.atExit.filterMap ExitEffect.register?)

/-- Without declarations everything is zero. -/
theorem lockstep_empty : Lockstep {} where
  toInStep := inStep_empty
  atEntry := List.forall_mem_nil _
  atExit := List.forall_mem_nil _
  depthCopies := rfl
  depthMembers := rfl
  inputRegisters := rfl
  outputRegisters := rfl

/-- A declaration keeps the effects at the entry fitted to the arguments. -/
theorem Records.entry_fits (h : Records d f f')
    (hf : ∀ e ∈ f.atEntry, e.Fits f.entryPoint.arguments) :
    ∀ e ∈ f'.atEntry, e.Fits f'.entryPoint.arguments := by
  cases h with
  | cycleCounter | output => exact hf
  | thread =>
    refine List.forall_mem_append.2 ⟨fun e he => (hf e he).append, ?_⟩
    exact List.forall_mem_singleton.2 List.getElem?_concat_length
  | input =>
    exact List.forall_mem_append.2
      ⟨fun e he => (hf e he).append, List.forall_mem_singleton.2 trivial⟩
  | relative _ _ ha =>
    refine List.forall_mem_append.2 ⟨fun e he => (hf e he).append.append, ?_⟩
    refine List.forall_mem_singleton.2 ⟨rfl, ?_⟩
    cases ha with
    | vertexId => exact .inl (by simp [withRelative])
    | instanceId => exact .inr (by simp [withRelative])
  | depth => exact List.forall_mem_append.2 ⟨hf, List.forall_mem_singleton.2 trivial⟩

/-- A declaration keeps the effects at the exit fitted to the members. -/
theorem Records.exit_fits (h : Records d f f') (hf : ∀ e ∈ f.atExit, e.Fits f.entryPoint.members) :
    ∀ e ∈ f'.atExit, e.Fits f'.entryPoint.members := by
  cases h with
  | cycleCounter | thread | input | relative => exact hf
  | output _ _ hm =>
    refine List.forall_mem_append.2 ⟨fun e he => (hf e he).append, ?_⟩
    exact List.forall_mem_singleton.2 ⟨_, List.getElem?_concat_length, hm.isDepth⟩
  | depth =>
    refine List.forall_mem_append.2 ⟨fun e he => (hf e he).append, ?_⟩
    exact List.forall_mem_singleton.2 ⟨_, List.getElem?_concat_length, rfl⟩

/-- A declaration leaves an interface in lockstep. -/
theorem Records.lockstep (h : Records d f f') (hf : f.Lockstep) : f'.Lockstep where
  toInStep := h.inStep hf.toInStep
  atEntry := h.entry_fits hf.atEntry
  atExit := h.exit_fits hf.atExit
  depthCopies := by
    cases h with
    | cycleCounter | thread | input | relative => exact hf.depthCopies
    | output => simp [withOutput, hf.depthCopies, ExitEffect.isDepth]
    | depth _ _ _ hd => simp [withDepth, hf.depthCopies, hd, ExitEffect.isDepth]
  depthMembers := by
    cases h with
    | cycleCounter | thread | input | relative => exact hf.depthMembers
    | output _ _ hm => simp [withOutput, hf.depthMembers, hm.isDepth]
    | depth _ _ _ hd => simp [withDepth, hf.depthMembers, hd, Member.isDepth]
  inputRegisters := by
    cases h with
    | cycleCounter | output => exact hf.inputRegisters
    | thread => simp [withThread, hf.inputRegisters, EntryEffect.register?, List.filterMap_cons]
    | input =>
      simp [withInput, hf.inputRegisters, EntryEffect.register?, registerBound_concat]
    | relative =>
      simp [withRelative, hf.inputRegisters, EntryEffect.register?, registerBound_concat]
    | depth => simp [withDepth, hf.inputRegisters, EntryEffect.register?, List.filterMap_cons]
  outputRegisters := by
    cases h with
    | cycleCounter | thread | input | relative => exact hf.outputRegisters
    | output =>
      simp [withOutput, hf.outputRegisters, ExitEffect.register?, registerBound_concat]
    | depth => simp [withDepth, hf.outputRegisters, ExitEffect.register?, List.filterMap_cons]

/-! ## Any number of declarations -/

variable {stage : Stage} {n : Nat}

/-- Records declarations one after the other, each with the signatures that it is given. What is
refused does not keep the others from being recorded. -/
def attemptAll (stage : Stage) (calls : List (Signatures × Instruction)) (f : Interface) :
    Interface :=
  calls.foldl (fun f call => attempt (declare stage call.1 call.2) f) f

/-- What every declaration preserves, accepted or refused, with the number of declarations so far,
holds of the interface that declarations leave. -/
theorem attemptAll_induction {P : Nat → Interface → Prop}
    (hrefused : ∀ {n f}, P n f → P (n + 1) f)
    (haccepted : ∀ {n d f f'}, P n f → Records d f f' → P (n + 1) f')
    (calls : List (Signatures × Instruction)) (hf : P n f) :
    P (n + calls.length) (attemptAll stage calls f) := by
  induction calls generalizing n f with
  | nil => exact hf
  | cons call calls ih =>
    have hnext : P (n + 1) (attempt (declare stage call.1 call.2) f) := by
      rcases allOrNothing_declare.attempt_cases f with hsame | ⟨_, hdeclare⟩
      · rw [hsame]
        exact hrefused hf
      · exact haccepted hf (records_of_declare hdeclare)
    rw [List.length_cons, Nat.add_comm calls.length, ← Nat.add_assoc]
    exact ih hnext

/-- The positions of arguments and members and the numbers of registers have 32 bits. -/
structure Is32Bit (f : Interface) : Prop where
  arguments : f.entryPoint.arguments.length < 2 ^ 32
  members : f.entryPoint.members.length < 2 ^ 32
  inputRegisters : f.inputRegisters < 2 ^ 32
  outputRegisters : f.outputRegisters < 2 ^ 32

/-- A declaration keeps the numbers of registers within 32 bits, because the last register is
refused. -/
theorem Records.registers_lt (h : Records d f f') (hinput : f.inputRegisters < 2 ^ 32)
    (houtput : f.outputRegisters < 2 ^ 32) :
    f'.inputRegisters < 2 ^ 32 ∧ f'.outputRegisters < 2 ^ 32 := by
  have hnext {register : UInt32} (hlast : register ≠ 0xffffffff) : register.toNat + 1 < 2 ^ 32 := by
    have hlt := register.toNat_lt
    have hne : register.toNat ≠ 2 ^ 32 - 1 := fun heq => hlast (UInt32.toNat.inj heq)
    omega
  cases h with
  | cycleCounter | thread | depth => exact ⟨hinput, houtput⟩
  | input _ hlast | relative _ hlast => exact ⟨Nat.max_lt.2 ⟨hinput, hnext hlast⟩, houtput⟩
  | output _ hlast => exact ⟨hinput, Nat.max_lt.2 ⟨houtput, hnext hlast⟩⟩

/-- An interface in lockstep that so many declarations may lead to: a declaration adds at most two
arguments and one member. -/
structure Within (n : Nat) (f : Interface) : Prop where
  lockstep : f.Lockstep
  arguments : f.entryPoint.arguments.length ≤ 2 * n
  members : f.entryPoint.members.length ≤ n
  registers : f.inputRegisters < 2 ^ 32 ∧ f.outputRegisters < 2 ^ 32

/-- No declarations lead to no arguments and no members. -/
theorem within_empty : Within 0 {} :=
  ⟨lockstep_empty, Nat.le_refl _, Nat.le_refl _, by decide, by decide⟩

/-- A declaration that is refused adds nothing. -/
theorem Within.succ (h : Within n f) : Within (n + 1) f := by
  obtain ⟨hf, harguments, hmembers, hregisters⟩ := h
  exact ⟨hf, by omega, by omega, hregisters⟩

/-- A declaration that is accepted adds no more than it may. -/
theorem Within.records (h : Within n f) (hrecords : Records d f f') : Within (n + 1) f' := by
  obtain ⟨hf, harguments, hmembers, hinput, houtput⟩ := h
  obtain ⟨harguments', hmembers'⟩ := hrecords.length_le
  exact ⟨hrecords.lockstep hf, by omega, by omega, hrecords.registers_lt hinput houtput⟩

/-- Any number of declarations, refused ones among them, leave the effects in lockstep with the
entry point, and with fewer than `2 ^ 31` of them all positions have 32 bits. -/
theorem lockstep_attemptAll {calls : List (Signatures × Instruction)}
    (hsize : calls.length < 2 ^ 31) :
    (attemptAll stage calls {}).Lockstep ∧ (attemptAll stage calls {}).Is32Bit := by
  have hwithin : Within (0 + calls.length) (attemptAll stage calls {}) :=
    attemptAll_induction Within.succ Within.records calls within_empty
  obtain ⟨hf, harguments, hmembers, hinput, houtput⟩ := hwithin
  exact ⟨hf, by omega, by omega, hinput, houtput⟩

/-- Declarations of a vertex shader: two identifiers and the position, and between them the depth
and the last register, which are refused. -/
def vertexCalls : List (Signatures × Instruction) :=
  let generated (name : SystemName) (register : UInt32) : Instruction :=
    { opcode := .stageDcl .inputGenerated, operands := [.register .input (.d1 register)],
      declaration := some (.inputSystemValue name) }
  let depth : Instruction :=
    { opcode := .stageDcl .output, operands := [.register .outputDepth .none],
      declaration := some .output }
  let position : Instruction :=
    { opcode := .stageDcl .outputInterpreted, operands := [.register .output (.d1 2)],
      declaration := some (.outputSystemValue .position) }
  [generated .vertexId 4, depth, generated .primitiveId 0xffffffff, generated .instanceId 1,
    position].map fun i => (⟨[], []⟩, i)

/-- They leave two effects at entry, which read four arguments. -/
theorem lockstep_vertexCalls :
    (attemptAll .vertex vertexCalls {}).entryPoint =
        ⟨[.vertexId, .baseVertex, .instanceId, .baseInstance], [.position]⟩ ∧
      (attemptAll .vertex vertexCalls {}).atEntry.length = 2 ∧
      (attemptAll .vertex vertexCalls {}).inputRegisters = 5 ∧
      (attemptAll .vertex vertexCalls {}).Lockstep :=
  ⟨rfl, rfl, rfl, (lockstep_attemptAll (by decide)).1⟩

end Interface

end ShaderFlow
