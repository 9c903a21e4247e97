import ShaderFlow.Proofs.Marking
import ShaderFlow.Proofs.Recording
import ShaderFlow.Proofs.Segments
import ShaderFlow.Proofs.Translation

/-!
# The streams of a program

Apart from instructions that leave no trace (`Instruction.isNeutral`), a program is made of three
streams: declarations of resources, declarations of inputs and outputs, and code. At every position
of a compilation the resources are those of the first stream with the marks of the code
(`Compilation.History.marked`), the interface comes from the second stream alone
(`Compilation.History.declares`) and the builder from the third (`Compilation.History.reads`). The
result of a compilation is put together from the three (`Compilation.exists_outcome`).
-/

namespace ShaderFlow

/-! ## Streams -/

/-- The parts of a program that are read independently of each other. -/
inductive Stream where
  | resources | interface | code
  deriving DecidableEq

/-- The stream that an opcode belongs to. -/
def Opcode.stream : Opcode → Stream
  | .resourceDcl _ | .customData => .resources
  | .stageDcl _ => .interface
  | _ => .code

namespace Opcode

variable {op : Opcode}

/-- Declarations of resources make up the stream of the resources. -/
theorem stream_of_isResourceDeclaration (h : op.isResourceDeclaration = true) :
    op.stream = .resources := by
  cases op with
  | resourceDcl | customData => rfl
  | _ => cases h

/-- Declarations of inputs and outputs make up the stream of the interface. -/
theorem stream_of_isStageDeclaration (h : op.isStageDeclaration = true) :
    op.stream = .interface := by
  cases op with
  | stageDcl => rfl
  | _ => cases h

/-- Control flow belongs to the code. -/
theorem stream_of_isControlFlow (h : op.isControlFlow = true) : op.stream = .code := by
  cases op with
  | flow => rfl
  | _ => cases h

/-- Instructions that are lowered belong to the code. -/
theorem stream_of_isOrdinary (h : op.isOrdinary = true) : op.stream = .code := by
  cases op with
  | sample | view | atomic | plain => rfl
  | _ => cases h

end Opcode

namespace Instruction

variable {i : Instruction}

/-- Whether an instruction leaves no trace: it does nothing, carries data that is not read, or
declares what is not recorded. -/
def isNeutral (i : Instruction) : Bool :=
  match i.opcode, i.declaration with
  | .nop, _ => true
  | .customData, some (.customData dataClass _) => dataClass ≠ .immediateConstantBuffer
  | .resourceDcl .globalFlags, some (.globalFlags _) => true
  | .resourceDcl .indexRange, some (.indexRange _) => true
  | .stageDcl .input, _ => (i.operand? 0).any fun o => o.kind = .cycleCounter
  | _, _ => false

/-- Whether an instruction belongs to a stream. -/
def isIn (st : Stream) (i : Instruction) : Bool := !i.isNeutral && i.opcode.stream = st

/-- Control flow leaves a trace. -/
theorem isNeutral_of_isControlFlow (h : i.opcode.isControlFlow = true) : i.isNeutral = false := by
  cases hop : i.opcode with
  | flow => simp [isNeutral, hop]
  | _ => simp [hop, Opcode.isControlFlow] at h

/-- Instructions that are lowered leave a trace. -/
theorem isNeutral_of_isOrdinary (h : i.opcode.isOrdinary = true) : i.isNeutral = false := by
  cases hop : i.opcode with
  | sample | view | atomic | plain => simp [isNeutral, hop]
  | _ => simp [hop, Opcode.isOrdinary] at h

end Instruction

/-- A resource declaration that is neutral adds nothing. -/
theorem Resources.declare_of_isNeutral {stage : Stage} {i : Instruction} {r : Resources}
    (hop : i.opcode.isResourceDeclaration = true) (hn : i.isNeutral = true) :
    declare stage i r = .ok () r := by
  suffices ha : i.Adds stage .nothing from declare_of_adds ha trivial
  unfold Instruction.isNeutral at hn
  split at hn
  case h_1 h | h_5 h =>
    rw [h] at hop
    cases hop
  case h_2 h hd => exact .data h hd (of_decide_eq_true hn)
  case h_3 h hd => exact .globalFlags h hd
  case h_4 h hd => exact .indexRange h hd
  case h_6 => cases hn

/-- A declaration of an input that is neutral records nothing. -/
theorem Interface.declare_of_isNeutral {stage : Stage} {signatures : Signatures} {i : Instruction}
    {f : Interface} (hop : i.opcode.isStageDeclaration = true) (hn : i.isNeutral = true) :
    declare stage signatures i f = .ok () f := by
  unfold Instruction.isNeutral at hn
  split at hn
  case h_5 h =>
    cases ho : i.operand? 0 with
    | none => simp [ho] at hn
    | some o =>
      have hk : o.kind = .cycleCounter := by simpa [ho] using hn
      simp only [declare, h, declareInput, lift_bind_eq_ok_iff]
      refine ⟨o, except_orFault_eq_ok_iff.2 ho, ?_⟩
      simp only [hk, OperandKind.threadBuiltin?]
      rfl
  case h_6 => cases hn
  case h_1 h | h_2 h _ | h_3 h _ | h_4 h _ =>
    rw [h] at hop
    cases hop

namespace Session

variable {σ L : Type} {stage : Stage} {signatures : Signatures} {lower : Lowering σ L}
  {position : Nat} {i : Instruction} {s s' : Session σ L}

/-- What a session becomes when it takes in one instruction, by the stream of the instruction. -/
inductive Advances (stage : Stage) (signatures : Signatures) (lower : Lowering σ L)
    (position : Nat) (s : Session σ L) (i : Instruction) : Session σ L → Prop where
  | neutral (hin : ∀ st, i.isIn st = false) (hl : i.opcode.isLowered = false) :
      Advances stage signatures lower position s i s
  | resource {resources : Resources} (hin : ∀ st, i.isIn st = decide (st = .resources))
      (hl : i.opcode.isLowered = false)
      (h : Resources.declare stage i s.resources = .ok () resources) :
      Advances stage signatures lower position s i { s with resources }
  | interface {interface : Interface} (hin : ∀ st, i.isIn st = decide (st = .interface))
      (hl : i.opcode.isLowered = false)
      (h : Interface.declare stage signatures i s.interface = .ok () interface) :
      Advances stage signatures lower position s i { s with interface }
  | control {builder : Builder L} (hin : ∀ st, i.isIn st = decide (st = .code))
      (hl : i.opcode.isLowered = false) (h : Builder.control stage i s.builder = .ok () builder) :
      Advances stage signatures lower position s i { s with builder }
  | ordinary {resources : Resources} {value : L} {lowering : σ}
      (hin : ∀ st, i.isIn st = decide (st = .code)) (hl : i.opcode.isLowered = true)
      (hop : i.opcode.isOrdinary = true) (h : Resources.track i s.resources = .ok () resources)
      (hv : lower i (Location.of position i) resources s.lowering = .ok (value, lowering)) :
      Advances stage signatures lower position s i
        { s with builder := s.builder.append value, resources, lowering }

/-- An instruction that is taken in advances its own stream and no other. -/
theorem Takes.advances (h : Takes stage signatures lower position s i s') :
    Advances stage signatures lower position s i s' := by
  have hneutral (hn : i.isNeutral = true) (st : Stream) : i.isIn st = false := by
    simp [Instruction.isIn, hn]
  have hin (hn : i.isNeutral = false) {st₀ : Stream} (hst : i.opcode.stream = st₀) (st : Stream) :
      i.isIn st = decide (st = st₀) := by
    simp [Instruction.isIn, hn, hst, eq_comm]
  cases h with
  | nop hop =>
    refine .neutral (hneutral (by simp [Instruction.isNeutral, hop])) ?_
    rw [hop]
    rfl
  | resource hop h =>
    have hl := Opcode.isLowered_of_isResourceDeclaration hop
    cases hn : i.isNeutral with
    | true =>
      cases h.symm.trans (Resources.declare_of_isNeutral hop hn)
      exact .neutral (hneutral hn) hl
    | false => exact .resource (hin hn (Opcode.stream_of_isResourceDeclaration hop)) hl h
  | interface hop h =>
    have hl := (Opcode.isLowered_of_isStageDeclaration hop).1
    cases hn : i.isNeutral with
    | true =>
      cases h.symm.trans (Interface.declare_of_isNeutral hop hn)
      exact .neutral (hneutral hn) hl
    | false => exact .interface (hin hn (Opcode.stream_of_isStageDeclaration hop)) hl h
  | control hop h =>
    have hn := Instruction.isNeutral_of_isControlFlow hop
    exact .control (hin hn (Opcode.stream_of_isControlFlow hop))
      (Opcode.isLowered_of_isControlFlow hop).1 h
  | ordinary hop h hv =>
    have hn := Instruction.isNeutral_of_isOrdinary hop
    exact .ordinary (hin hn (Opcode.stream_of_isOrdinary hop))
      (Opcode.isLowered_of_isOrdinary hop).1 hop h hv

/-- An instruction that is lowered marks what it uses. -/
theorem Advances.track (h : Advances stage signatures lower position s i s')
    (hl : i.opcode.isLowered = true) :
    Resources.track i s.resources = .ok () s'.resources := by
  cases h with
  | neutral _ hl' | resource _ hl' | interface _ hl' | control _ hl' => cases hl.symm.trans hl'
  | ordinary _ _ _ h => exact h

/-- An instruction of the interface is recorded there. -/
theorem Advances.declare (h : Advances stage signatures lower position s i s')
    (hin : i.isIn .interface = true) :
    Interface.declare stage signatures i s.interface = .ok () s'.interface := by
  cases h with
  | neutral hin' | resource hin' | control hin' | ordinary hin' =>
    cases hin.symm.trans (hin' .interface)
  | interface _ _ h => exact h

end Session

/-! ## Before a position -/

namespace Program

variable {p : Program} {q : Instruction → Bool} {k : Nat} {i : Instruction}

/-- The instructions before a position that satisfy a condition. -/
def select (p : Program) (q : Instruction → Bool) (k : Nat) : List Instruction :=
  (p.instructions.take k).filter q

/-- An instruction that satisfies the condition comes last from the next position on. -/
theorem select_succ_of_true (hi : p.instructions[k]? = some i) (hq : q i = true) :
    p.select q (k + 1) = p.select q k ++ [i] := by
  rw [select, List.take_add_one, hi, List.filter_append]
  simp [select, hq]

/-- An instruction that does not satisfy the condition changes nothing. -/
theorem select_succ_of_false (hi : p.instructions[k]? = some i) (hq : q i = false) :
    p.select q (k + 1) = p.select q k := by
  rw [select, List.take_add_one, hi, List.filter_append]
  simp [select, hq]

/-- What is selected stands before the position and satisfies the condition. -/
theorem mem_select_iff :
    i ∈ p.select q k ↔ (∃ j < k, p.instructions[j]? = some i) ∧ q i = true := by
  rw [select, List.mem_filter]
  refine and_congr_left fun _ => ?_
  simp only [List.mem_iff_getElem?, List.getElem?_take]
  constructor
  · rintro ⟨j, hj⟩
    split at hj
    · next hlt => exact ⟨j, hlt, hj⟩
    · cases hj
  · rintro ⟨j, hlt, hj⟩
    exact ⟨j, by rw [if_pos hlt, hj]⟩

end Program

/-- Records declarations of inputs and outputs in order. -/
def Interface.declareAll (stage : Stage) (signatures : Signatures) (is : List Instruction) :
    DeclareStage Unit := is.forM (declare stage signatures)

namespace Compilation

variable {σ L : Type} {C : Compilation σ L} {c : CompiledShader L} {final : σ}

namespace History

variable {H : C.History} {k n : Nat}

/-- A history is no longer than the program. -/
theorem length_le (H : C.History) : H.length ≤ C.program.instructions.length := by
  obtain ⟨n, hn⟩ := H.exists_last
  obtain ⟨i, hi, -⟩ := takes (H := H) (k := n) (hn ▸ Nat.lt_succ_self n)
  rw [← hn]
  exact (List.getElem?_eq_some_iff.1 hi).1

/-- What every step preserves holds before each position. -/
theorem invariant {P : Nat → Session σ L → Prop} (hstart : P 0 C.start)
    (hstep : ∀ {k i s s'}, C.program.instructions[k]? = some i → s.builder.returned = false →
      Session.Advances C.program.stage C.signatures C.lower k s i s' → P k s → P (k + 1) s')
    (hk : k ≤ H.length) : P k (H.session k) := by
  induction k with
  | zero =>
    rw [H.session_zero]
    exact hstart
  | succ k ih =>
    obtain ⟨i, hi, hs⟩ := H.step hk
    have hadvances := (Session.step_eq_ok_iff.1 hs).advances
    exact hstep hi (H.running hk) hadvances (ih (Nat.le_of_lt hk))

/-- The resources are those of the declarations with the marks of the instructions that are
lowered. -/
theorem marked (hk : k ≤ H.length) :
    ∃ base, Resources.Marked C.program.stage (C.program.select (Instruction.isIn .resources) k)
      (C.program.select (·.opcode.isLowered) k) base (H.session k).resources := by
  refine invariant (P := fun k s => ∃ base, Resources.Marked C.program.stage
    (C.program.select (Instruction.isIn .resources) k)
    (C.program.select (·.opcode.isLowered) k) base s.resources) ⟨_, Resources.marked_empty⟩ ?_ hk
  rintro k i s s' hi - hadvances ⟨base, hs⟩
  cases hadvances with
  | neutral hin hl | interface hin hl | control hin hl =>
    rw [Program.select_succ_of_false hi (by simp [hin]), Program.select_succ_of_false hi hl]
    exact ⟨base, hs⟩
  | resource hin hl h =>
    rw [Program.select_succ_of_true hi (by simp [hin]), Program.select_succ_of_false hi hl]
    exact hs.declare h
  | ordinary hin hl _ h =>
    rw [Program.select_succ_of_false hi (by simp [hin]), Program.select_succ_of_true hi hl]
    exact ⟨base, hs.track h⟩

/-- The interface is that of the declarations of inputs and outputs. -/
theorem declares (hk : k ≤ H.length) :
    Interface.declareAll C.program.stage C.signatures
      (C.program.select (Instruction.isIn .interface) k) {} = .ok () (H.session k).interface := by
  refine invariant (P := fun k s => Interface.declareAll C.program.stage C.signatures
    (C.program.select (Instruction.isIn .interface) k) {} = .ok () s.interface) rfl ?_ hk
  intro k i s s' hi _ hadvances hs
  cases hadvances with
  | neutral hin | resource hin | control hin | ordinary hin =>
    rw [Program.select_succ_of_false hi (by simp [hin])]
    exact hs
  | interface hin _ h =>
    rw [Program.select_succ_of_true hi (by simp [hin])]
    exact forM_concat_eq_ok_iff.2 ⟨s.interface, hs, h⟩

/-- The builder has read the code, with the values that the lowering may give. -/
theorem reads {puts : Placement L} (hl : Session.Lowers C.lower puts) (hk : k ≤ H.length) :
    Builder.Reads C.program.stage puts (.start C.options.maxNesting)
      (C.program.select (Instruction.isIn .code) k) (H.builder k) := by
  -- Only the last builder is known to have ids for all blocks; the earlier ones have no more.
  refine invariant (P := fun k s => s.builder.graph.size ≤ UInt32.size →
    Builder.Reads C.program.stage puts (.start C.options.maxNesting)
      (C.program.select (Instruction.isIn .code) k) s.builder)
    (fun _ => .nil) ?_ hk (H.size_le hk)
  intro k i s s' hi hr hadvances hs hfit
  cases hadvances with
  | neutral hin | resource hin | interface hin =>
    rw [Program.select_succ_of_false hi (by simp [hin])]
    exact hs hfit
  | control hin _ h =>
    rw [Program.select_succ_of_true hi (by simp [hin])]
    have hread := hs (Nat.le_trans (Builder.size_le_of_control h) hfit)
    exact hread.snoc hr (.control (Builder.step_of_control h hfit))
  | ordinary hin _ hop _ hv =>
    rw [Program.select_succ_of_true hi (by simp [hin])]
    rw [Builder.append, Graph.size_push] at hfit
    refine (hs hfit).snoc hr (.put ?_ (hl.ordinary hop hv))
    cases hi' : i.opcode with
    | flow =>
      rw [hi'] at hop
      cases hop
    | _ => rfl

/-- The last instruction is a return. -/
theorem exists_ret (hn : n + 1 = H.length) :
    ∃ i, C.program.instructions[n]? = some i ∧ i.opcode = .flow .ret := by
  obtain ⟨hret, -⟩ := (returns_iff (hn ▸ Nat.lt_succ_self n)).2 hn
  exact Program.flowAt?_eq_some_iff.1 hret

/-- What no return satisfies is selected before the last instruction. -/
theorem select_last {q : Instruction → Bool} (hn : n + 1 = H.length)
    (hq : ∀ i : Instruction, i.opcode = .flow .ret → q i = false) :
    C.program.select q H.length = C.program.select q n := by
  obtain ⟨i, hi, hop⟩ := H.exists_ret hn
  rw [← hn, Program.select_succ_of_false hi (hq i hop)]

end History

end Compilation

/-! ## Results -/

/-- A compute shader has the thread group that it declares, and other programs have none. -/
theorem Resources.eq_of_threadGroupFor {r : Resources} {stage : Stage} {atEnd : Location}
    {group : Option ThreadGroup} (h : r.threadGroupFor stage atEnd = .ok group) :
    group = (if stage = .compute then r.threadGroup else none) ∧
      (stage = .compute → group ≠ none) := by
  unfold threadGroupFor at h
  split at h
  · next hs =>
    obtain ⟨size, hsize, h⟩ := except_bind_eq_ok_iff.1 h
    cases h
    rw [if_pos hs, except_orFault_eq_ok_iff.1 hsize]
    exact ⟨rfl, fun _ => nofun⟩
  · next hs =>
    cases h
    rw [if_neg hs]
    exact ⟨rfl, fun hs' => absurd hs' hs⟩

/-- The compiled program that a session has come to. -/
def Session.shader {σ L : Type} (s : Session σ L) (p : Program) : CompiledShader L where
  stage := p.stage
  model := p.model
  graph := s.builder.graph
  resources := s.resources
  entryPoint := (s.interface.entryPoint.withTable s.resources.bindingTable).2
  atEntry := s.interface.atEntry
  atExit := s.interface.atExit
  inputRegisters := s.interface.inputRegisters
  outputRegisters := s.interface.outputRegisters
  threadGroup := if p.stage = .compute then s.resources.threadGroup else none
  table := s.resources.bindingTable
  tableArgument := (s.interface.entryPoint.withTable s.resources.bindingTable).1

/-- A compilation that succeeds has a history, and its result is put together from the last session.
A compute shader has a thread group. -/
theorem Compilation.exists_outcome {σ L : Type} {C : Compilation σ L} {c : CompiledShader L}
    {final : σ} (h : C.result = .ok (c, final)) :
    ∃ H : C.History, c = (H.session H.length).shader C.program ∧
      (C.program.stage = .compute → c.threadGroup ≠ none) := by
  obtain ⟨H, -⟩ := exists_history h
  have hrun := H.sessionAt_of_length_le H.length_le
  rw [sessionAt, List.take_length] at hrun
  unfold result Program.compile at h
  simp only [except_bind_eq_ok_iff] at h
  obtain ⟨_, -, s, hs, graph, hg, group, hgroup, h⟩ := h
  cases hrun.symm.trans hs
  cases h
  obtain ⟨rfl, hcompute⟩ := Resources.eq_of_threadGroupFor hgroup
  refine ⟨H, ?_, hcompute⟩
  unfold Builder.finish? at hg
  rw [if_pos H.returned] at hg
  cases hg
  rfl

end ShaderFlow
