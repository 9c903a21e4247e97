import ShaderFlow.Proofs.BindingTable

/-!
# What belongs to one stage

Most inputs, all outputs, the items that discard a pixel, thread groups and shared memory belong to
one stage. A program that compiles has only those of its own stage
(`Compilation.stageDiscipline_of_result`), with one exception: a generated input is accepted for the
index of a sample and for the side of a face whatever the stage, and the program then has the
argument of a pixel shader (`Compilation.not_stageDiscipline_ofSampleProgram`).
-/

namespace ShaderFlow

/-! ## Discards -/

/-- Where an item discards, there is a discard to count. -/
theorem Graph.discards_pos {L : Type} {g : Graph L} {x : BlockId}
    (h : .discard ∈ g.itemsAt x) : 0 < g.discards := by
  have hx : x < g.size := by
    refine Nat.lt_of_not_le fun hle => ?_
    rw [itemsAt_of_size_le hle] at h
    cases h
  refine List.countP_pos_iff.2 ⟨.discard, ?_, rfl⟩
  exact List.mem_flatMap.2 ⟨x, List.mem_range.2 hx, h⟩

/-- A pixel is discarded in a pixel shader only. -/
theorem Builder.Step.stage_of_discard {L : Type} {stage : Stage} {b b' : Builder L}
    {i : Instruction} (h : Step stage b i b') (hop : i.opcode = .flow .discard) :
    stage = .pixel := by
  cases h with
  | discard _ hst => exact hst
  | leave way hop' | leaveIf way hop' => cases way <;> cases hop.symm.trans hop'
  | beginIf hop' | elseArm hop' | endIf hop' | beginLoop hop' | endLoop hop' | beginSwitch hop'
  | caseLabel hop' | defaultLabel hop' | endSwitch hop' | ret hop' =>
    cases hop.symm.trans hop'

/-! ## Compiled programs -/

/-- What belongs to one stage occurs in programs for that stage, some arguments excepted. -/
structure CompiledShader.StageDiscipline {L : Type} (c : CompiledShader L)
    (excepted : Argument → Prop) : Prop where
  arguments : ∀ a ∈ c.entryPoint.arguments, ∀ stage, a.stage? = some stage →
    c.stage = stage ∨ excepted a
  members : ∀ m ∈ c.entryPoint.members, c.stage = m.stage
  discards : ∀ x, .discard ∈ c.graph.itemsAt x → c.stage = .pixel
  sharedMemory : ∀ id ∈ c.resources.sharedMemory, c.stage = .compute
  threadGroup : c.threadGroup = c.resources.threadGroup
  threadGroup_iff : c.threadGroup.isSome = true ↔ c.stage = .compute
  /-- A thread group has threads. -/
  threads : ∀ size, c.threadGroup = some size → size.x ≠ 0 ∧ size.y ≠ 0 ∧ size.z ≠ 0

/-- The exceptions may be others, as far as they concern the arguments of other stages. -/
theorem CompiledShader.StageDiscipline.imp {L : Type} {c : CompiledShader L}
    {p q : Argument → Prop} (h : c.StageDiscipline p)
    (himp : ∀ a stage, a.stage? = some stage → p a → c.stage = stage ∨ q a) :
    c.StageDiscipline q where
  __ := h
  arguments a ha stage hs := (h.arguments a ha stage hs).elim .inl (himp a stage hs)

/-- Of the arguments that belong to one stage, all are declared. -/
theorem Session.mem_arguments_iff {σ L : Type} {s : Session σ L} {p : Program} {a : Argument}
    {stage : Stage} (hs : a.stage? = some stage) :
    a ∈ (s.shader p).entryPoint.arguments ↔ a ∈ s.interface.entryPoint.arguments := by
  refine EntryPoint.mem_withTable_iff ?_
  rintro location rfl
  cases hs

namespace Compilation

variable {σ L : Type} {C : Compilation σ L} {c : CompiledShader L} {final : σ}

/-- A declaration before a position passes the argument, and the stage is not looked at. -/
def PassesUnstaged (C : Compilation σ L) (n : Nat) (a : Argument) : Prop :=
  ∃ j < n, ∃ i, C.program.instructions[j]? = some i ∧
    StageDeclaration.Unstaged ⟨C.program.stage, C.signatures, i⟩ a

/-- What is passed so belongs to pixel shaders, or to no stage. -/
theorem PassesUnstaged.stage?_eq {n : Nat} {a : Argument} (h : C.PassesUnstaged n a)
    {stage : Stage} (hs : a.stage? = some stage) : stage = .pixel := by
  obtain ⟨_, -, _, -, hu⟩ := h
  exact hu.stage?_eq hs

namespace History

variable {H : C.History} {k n : Nat} {a : Argument}

/-- Only pixel shaders discard. -/
theorem discard_mem (hk : k ≤ H.length) {x : BlockId}
    (hx : .discard ∈ (H.builder k).graph.itemsAt x) : C.program.stage = .pixel := by
  -- What is discarded in the graph is counted among the instructions, and so comes from one.
  have hpos := Graph.discards_pos hx
  rw [H.discards_eq hk] at hpos
  obtain ⟨j, hj, hop⟩ := List.countP_pos_iff.1 hpos
  obtain ⟨i, hflow, hstep⟩ :=
    H.control (Nat.lt_of_lt_of_le (List.mem_range.1 hj) hk) (of_decide_eq_true hop)
  exact hstep.stage_of_discard hflow

/-- The last instruction of a history declares nothing. -/
theorem lt_of_unstaged (hn : n + 1 = H.length) {j : Nat} (hj : j < H.length) {i : Instruction}
    (hi : C.program.instructions[j]? = some i)
    (hu : StageDeclaration.Unstaged ⟨C.program.stage, C.signatures, i⟩ a) : j < n := by
  rw [← hn] at hj
  refine Nat.lt_of_le_of_ne (Nat.le_of_lt_succ hj) ?_
  rintro rfl
  obtain ⟨ret, hret, hop⟩ := H.exists_ret hn
  cases hi.symm.trans hret
  cases hop.symm.trans hu.1

/-- An argument belongs to the stage of the program, or its stage is not looked at. -/
theorem stage?_eq (hn : n + 1 = H.length)
    (ha : a ∈ (H.session H.length).interface.entryPoint.arguments) :
    a.stage? = some C.program.stage ∨ C.PassesUnstaged n a := by
  obtain ⟨j, hj, i, hi, hpasses⟩ := exists_passes (Nat.le_refl _) ha
  rcases hpasses.stage?_eq with hs | hu
  · exact .inl hs
  · exact .inr ⟨j, lt_of_unstaged hn hj hi hu, i, hi, hu⟩

/-- Where the stage is not looked at, the argument is passed. -/
theorem mem_of_passesUnstaged (hn : n < H.length) (h : C.PassesUnstaged n a) :
    a ∈ (H.session H.length).interface.entryPoint.arguments := by
  obtain ⟨j, hj, i, hi, hu⟩ := h
  have hlt := Nat.lt_trans hj hn
  obtain ⟨i', hi', hs⟩ := H.step hlt
  cases hi.symm.trans hi'
  have hop : i.opcode = .stageDcl .inputGenerated := hu.1
  have hin : i.isIn .interface = true := by
    simp [Instruction.isIn, Instruction.isNeutral, Opcode.stream, hop]
  have hdeclare := (Session.step_eq_ok_iff.1 hs).advances.declare hin
  exact H.arguments_subset hlt (Nat.le_refl _) (hu.mem_of_declare hdeclare)

/-- Only compute shaders have a thread group, and it has threads. -/
theorem threadGroup (hk : k ≤ H.length) {size : ThreadGroup}
    (hsize : (H.session k).resources.threadGroup = some size) :
    C.program.stage = .compute ∧ size.x ≠ 0 ∧ size.y ≠ 0 ∧ size.z ≠ 0 := by
  obtain ⟨base, hmarked⟩ := H.marked hk
  rw [hmarked.marked, Resources.threadGroup_mark] at hsize
  exact Resources.threadGroup_of_declareAll hmarked.declared hsize

/-- Only compute shaders have shared memory. -/
theorem sharedMemory (hk : k ≤ H.length) {id : UInt32}
    (hid : id ∈ (H.session k).resources.sharedMemory) : C.program.stage = .compute := by
  obtain ⟨base, hmarked⟩ := H.marked hk
  rw [hmarked.marked, Resources.sharedMemory_mark] at hid
  exact (Resources.exists_sharedMemory_of_declareAll hmarked.declared hid).1

/-- The thread group of the result is the one that is declared: where none is looked for, there is
none. -/
theorem threadGroup_shader (hk : k ≤ H.length) :
    ((H.session k).shader C.program).threadGroup = (H.session k).resources.threadGroup := by
  by_cases hs : C.program.stage = .compute
  · exact if_pos hs
  · have hnone : (H.session k).resources.threadGroup = none :=
      Option.eq_none_iff_forall_ne_some.2 fun size hsize => hs (H.threadGroup hk hsize).1
    exact (if_neg hs).trans hnone.symm

/-- The result of a history respects the stage. -/
theorem stageDiscipline (hn : n + 1 = H.length)
    (hcompute : C.program.stage = .compute →
      ((H.session H.length).shader C.program).threadGroup ≠ none) :
    ((H.session H.length).shader C.program).StageDiscipline (C.PassesUnstaged n) := by
  have hgroup := H.threadGroup_shader (Nat.le_refl _)
  have hthreads {size : ThreadGroup}
      (hsize : ((H.session H.length).shader C.program).threadGroup = some size) :=
    H.threadGroup (Nat.le_refl _) (hgroup.symm.trans hsize)
  constructor
  case arguments =>
    intro a ha stage hs
    rcases H.stage?_eq hn ((Session.mem_arguments_iff hs).1 ha) with hs' | hu
    · exact .inl (Option.some.inj (hs'.symm.trans hs))
    · exact .inr hu
  case members =>
    intro m hm
    have hmembers : ((H.session H.length).shader C.program).entryPoint.members =
        (H.session H.length).interface.entryPoint.members := (EntryPoint.of_withTable rfl).1
    rw [hmembers] at hm
    obtain ⟨_, -, _, -, hreturns⟩ := exists_returns (Nat.le_refl _) hm
    exact hreturns.stage_eq.symm
  case discards => exact fun x hx => H.discard_mem (Nat.le_refl _) hx
  case sharedMemory => exact fun id hid => H.sharedMemory (Nat.le_refl _) hid
  case threadGroup => exact hgroup
  case threadGroup_iff =>
    constructor
    · intro hsome
      obtain ⟨size, hsize⟩ := Option.isSome_iff_exists.1 hsome
      exact (hthreads hsize).1
    · exact fun hs => Option.isSome_iff_ne_none.2 (hcompute hs)
  case threads => exact fun size hsize => (hthreads hsize).2

end History

/-- A program that compiles respects its stage up to the arguments whose stage is not looked at. It
does so without exception if and only if it is a pixel shader or passes none of them. -/
theorem stageDiscipline_of_result (h : C.result = .ok (c, final)) :
    ∃ n, C.program.returnAt? = some n ∧ c.StageDiscipline (C.PassesUnstaged n) ∧
      (c.StageDiscipline (fun _ => False) ↔ c.stage = .pixel ∨
        ∀ a stage, a.stage? = some stage → ¬ C.PassesUnstaged n a) := by
  obtain ⟨H, rfl, hcompute⟩ := exists_outcome h
  obtain ⟨n, hn⟩ := H.exists_last
  have hdiscipline := H.stageDiscipline hn hcompute
  refine ⟨n, H.returnAt?_eq hn, hdiscipline, ?_, ?_⟩
  · intro hstrict
    refine or_iff_not_imp_left.2 fun hne a stage hs hu => ?_
    have ha := H.mem_of_passesUnstaged (hn ▸ Nat.lt_succ_self n) hu
    rcases hstrict.arguments a ((Session.mem_arguments_iff hs).2 ha) stage hs with hstage | hfalse
    · exact hne (hstage.trans (hu.stage?_eq hs))
    · exact hfalse
  · rintro (hpixel | hnone)
    · refine hdiscipline.imp fun a stage hs hu => .inl ?_
      rw [hpixel, hu.stage?_eq hs]
    · exact hdiscipline.imp fun a stage hs hu => absurd hu (hnone a stage hs)

/-- A compute shader with a thread group, shared memory and the position of a thread, which also
passes the side of a face. -/
def ofThreadProgram : Compilation Unit Instruction where
  program := {
    stage := .compute
    model := .sm51
    instructions := [
      { opcode := .resourceDcl .threadGroup, declaration := some (.threadGroup 8 4 1) },
      { opcode := .resourceDcl .sharedRaw,
        operands := [.register .threadGroupSharedMemory (.d1 0)],
        declaration := some (.sharedRaw 16) },
      { opcode := .stageDcl .input, operands := [.register .inputThreadId .none] },
      { opcode := .stageDcl .inputGenerated, operands := [.register .input (.d1 0)],
        declaration := some (.inputSystemValue .isFrontFace) },
      { opcode := .flow .ret }] }
  signatures := ⟨[], []⟩
  lower := .passthrough
  initial := ()
  options := {}

/-- It respects its stage up to the argument whose stage is not looked at. -/
theorem stageDiscipline_ofThreadProgram :
    ∃ c, ofThreadProgram.result = .ok (c, ()) ∧ c.threadGroup = some ⟨8, 4, 1⟩ ∧
      c.entryPoint.arguments = [.thread .positionInGrid, .frontFacing] ∧
      c.StageDiscipline (ofThreadProgram.PassesUnstaged 4) := by
  obtain ⟨c, ⟨⟩, hc⟩ := exists_result (C := ofThreadProgram) (by decide +kernel)
  obtain ⟨n, hn, hdiscipline, -⟩ := stageDiscipline_of_result hc
  have hfour : ofThreadProgram.program.returnAt? = some 4 := by decide
  cases hfour.symm.trans hn
  have hparts : ofThreadProgram.result.toOption.map
      (fun r => (r.1.threadGroup, r.1.entryPoint.arguments)) =
        some (some ⟨8, 4, 1⟩, [.thread .positionInGrid, .frontFacing]) := by decide +kernel
  rw [hc] at hparts
  obtain ⟨hgroup, harguments⟩ := Prod.mk.inj (Option.some.inj hparts)
  exact ⟨c, hc, hgroup, harguments, hdiscipline⟩

/-- A vertex shader that declares the index of a sample as a generated input. -/
def ofSampleProgram : Compilation Unit Instruction where
  program := {
    stage := .vertex
    model := .sm51
    instructions := [
      { opcode := .stageDcl .inputGenerated, operands := [.register .input (.d1 0)],
        declaration := some (.inputSystemValue .sampleIndex) },
      { opcode := .flow .ret }] }
  signatures := ⟨[], []⟩
  lower := .passthrough
  initial := ()
  options := {}

/-- It compiles, and its argument belongs to another stage. -/
theorem not_stageDiscipline_ofSampleProgram :
    ∃ c, ofSampleProgram.result = .ok (c, ()) ∧ ¬ c.StageDiscipline (fun _ => False) := by
  obtain ⟨c, ⟨⟩, hc⟩ := exists_result (C := ofSampleProgram) (by decide +kernel)
  refine ⟨c, hc, fun hstrict => ?_⟩
  have hparts : ofSampleProgram.result.toOption.map
      (fun r => (r.1.stage, r.1.entryPoint.arguments)) = some (.vertex, [.sampleIndex]) := by
    decide +kernel
  rw [hc] at hparts
  obtain ⟨hstage, harguments⟩ := Prod.mk.inj (Option.some.inj hparts)
  have hmem : .sampleIndex ∈ c.entryPoint.arguments := by
    rw [harguments]
    exact List.mem_singleton_self _
  rcases hstrict.arguments _ hmem .pixel rfl with hpixel | hfalse
  · cases hstage.symm.trans hpixel
  · exact hfalse

end Compilation

end ShaderFlow
