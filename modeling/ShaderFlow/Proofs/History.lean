import ShaderFlow.Proofs.Frame
import ShaderFlow.Proofs.Nesting

/-!
# Histories of compilations

A `Compilation` is all that a compilation is given. `Compilation.builderAt?` is its builder before
the instruction at a position, and from it one reads which block an instruction ends
(`Compilation.Ends`) and which blocks it allocates (`Compilation.Allocates`).

Proofs look at all positions at once: `Compilation.History` keeps the session before each
instruction up to the return. The main result on histories is `Compilation.History.current_eq_iff`:
a block is current between two control-flow instructions and never again.
-/

namespace ShaderFlow

/-! ## Names of blocks -/

namespace Graph

variable {L : Type} {g : Graph L} {b x : BlockId} {name : String}

/-- The name of the block at a position. -/
def nameAt (g : Graph L) (b : BlockId) : Option String := (g.block? b).map Block.name

/-- Positions behind the last block have no name. -/
theorem nameAt_eq_none_iff : g.nameAt x = none ↔ g.size ≤ x := by
  rw [nameAt, Option.map_eq_none_iff, block?_eq_none_iff]

/-- Where there is a name there is a block. -/
theorem lt_size_of_nameAt (h : g.nameAt x = some name) : x < g.size := by
  refine Nat.lt_of_not_le fun hx => ?_
  rw [nameAt_eq_none_iff.2 hx] at h
  cases h

/-- A new block has the name that it is given. -/
@[simp] theorem nameAt_alloc_self : (g.alloc name).nameAt g.size = some name := by
  rw [nameAt, block?_alloc, if_pos rfl]
  rfl

/-- Blocks that were there keep their names. -/
theorem nameAt_alloc_of_lt (h : x < g.size) : (g.alloc name).nameAt x = g.nameAt x := by
  rw [nameAt, block?_alloc, if_neg (Nat.ne_of_lt h), nameAt]

/-- Closing a block does not rename it. -/
@[simp] theorem nameAt_close {t : Terminator} : (g.close b t).nameAt x = g.nameAt x := by
  unfold nameAt
  rw [block?_close]
  split
  · cases g.block? x <;> rfl
  · rfl

/-- Filling a block does not rename it. -/
@[simp] theorem nameAt_push {item : BlockItem L} : (g.push b item).nameAt x = g.nameAt x := by
  unfold nameAt
  rw [block?_push]
  split
  · cases g.block? x <;> rfl
  · rfl

/-- The second of two new blocks. -/
theorem nameAt_alloc_succ {first : String} :
    ((g.alloc first).alloc name).nameAt (g.size + 1) = some name := by
  rw [← size_alloc first, nameAt_alloc_self]

/-- The first of two new blocks. -/
theorem nameAt_alloc_alloc_self {second : String} :
    ((g.alloc name).alloc second).nameAt g.size = some name := by
  rw [nameAt_alloc_of_lt (by simp), nameAt_alloc_self]

end Graph

/-- Which of the blocks that an instruction allocates code goes on in, unless it goes on behind a
scope. -/
def FlowOp.next : FlowOp → Nat
  | .beginSwitch | .discard => 1
  | _ => 0

namespace Builder

variable {L : Type} {stage : Stage} {puts : Placement L} {b b' : Builder L} {i : Instruction}
  {x : BlockId} {name : String}

/-- The blocks that a step allocates have the names that its opcode stands for. -/
theorem Step.nameAt_of_blocks (h : Step stage b i b') (hr' : b'.returned = false) {op : FlowOp}
    (hop : i.opcode = .flow op) :
    ∀ t, t < op.blocks.length → b'.graph.nameAt (b.graph.size + t) = op.blocks[t]? := by
  have two {n₁ n₂ : String} : ∀ t, t < [n₁, n₂].length →
      ((b.graph.alloc n₁).alloc n₂).nameAt (b.graph.size + t) = [n₁, n₂][t]?
    | 0, _ => Graph.nameAt_alloc_alloc_self
    | 1, _ => Graph.nameAt_alloc_succ
  cases h with
  | beginIf hop' | beginLoop hop' | beginSwitch hop' =>
    cases hop'.symm.trans hop
    simpa [FlowOp.blocks] using two
  | elseArm hop' | caseLabel hop' | defaultLabel hop' =>
    cases hop'.symm.trans hop
    simp [FlowOp.blocks]
  | endIf hop' | endLoop hop' | endSwitch hop' =>
    cases hop'.symm.trans hop
    simp [FlowOp.blocks]
  | @leave way target hop' =>
    have hname : ((b.graph.close b.current (.jump target)).alloc way.name).nameAt b.graph.size =
        some way.name := by
      rw [← Graph.size_close (g := b.graph) (.jump target)]
      exact Graph.nameAt_alloc_self
    cases way <;>
    · cases hop'.symm.trans hop
      simpa [FlowOp.blocks, Leave.op, Leave.name] using hname
  | leaveIf way hop' =>
    cases way <;>
    · cases hop'.symm.trans hop
      simp [FlowOp.blocks, Leave.opIf, Leave.nameIf]
  | ret => cases hr'
  | discard hop' =>
    cases hop'.symm.trans hop
    simpa [FlowOp.blocks, Graph.allocDiscardAs, Graph.pushDiscard] using two

/-- A step leaves the names that were given before. -/
theorem Step.nameAt_of_lt (h : Step stage b i b') (hx : x < b.graph.size) :
    b'.graph.nameAt x = b.graph.nameAt x := by
  have hx' {name : String} : x < (b.graph.alloc name).size := by
    rw [Graph.size_alloc]
    exact Nat.lt_succ_of_lt hx
  cases h with
  | beginIf | beginLoop | beginSwitch | discard =>
    simp [Graph.allocDiscardAs, Graph.pushDiscard, Graph.nameAt_alloc_of_lt hx',
      Graph.nameAt_alloc_of_lt hx]
  | elseArm | caseLabel | defaultLabel | leaveIf => simp [Graph.nameAt_alloc_of_lt hx]
  | @leave way target =>
    have hlt : x < (b.graph.close b.current (.jump target)).size := by
      rw [Graph.size_close]
      exact hx
    simp [Graph.nameAt_alloc_of_lt hlt]
  | endIf | endLoop | endSwitch | ret => simp

/-- An instruction that is no control flow may change the items of the current block only. -/
structure Quiet (b b' : Builder L) : Prop where
  current : b'.current = b.current
  scopes : b'.scopes = b.scopes
  returned : b'.returned = b.returned
  size : b'.graph.size = b.graph.size
  nameAt : ∀ x, b'.graph.nameAt x = b.graph.nameAt x
  terminatorAt : ∀ x, b'.graph.terminatorAt x = b.graph.terminatorAt x

/-- An instruction that is no control flow fills the current block at most. -/
theorem Takes.quiet (h : Takes stage puts b i b') (hi : i.opcode.isControlFlow = false) :
    Quiet b b' := by
  cases h with
  | control h =>
    rw [h.isControlFlow] at hi
    cases hi
  | put => exact ⟨rfl, rfl, rfl, Graph.size_push .., fun _ => Graph.nameAt_push,
      fun _ => Graph.terminatorAt_push⟩
  | skip => exact ⟨rfl, rfl, rfl, rfl, fun _ => rfl, fun _ => rfl⟩

end Builder

/-! ## Segments -/

namespace Program

variable {p : Program} {j k : Nat} {op : FlowOp}

/-- The number of control-flow instructions before a position. Cut at its control flow, a program
falls into segments, and this is the number of the segment that the position lies in. -/
def segment (p : Program) : Nat → Nat
  | 0 => 0
  | k + 1 => p.segment k + if (p.flowAt? k).isSome then 1 else 0

/-- What is no control flow belongs to the segment that it stands in. -/
theorem segment_succ_of_none (h : p.flowAt? k = none) : p.segment (k + 1) = p.segment k := by
  simp [segment, h]

/-- Control flow ends a segment. -/
theorem segment_succ_of_some (h : p.flowAt? k = some op) :
    p.segment (k + 1) = p.segment k + 1 := by
  simp [segment, h]

/-- Segments are numbered in the order of the program. -/
theorem segment_mono (h : j ≤ k) : p.segment j ≤ p.segment k := by
  induction h with
  | refl => exact Nat.le_refl _
  | step _ ih => exact Nat.le_trans ih (Nat.le_add_right ..)

/-- Control flow ends a segment. -/
theorem segment_lt (h : p.flowAt? j = some op) (hjk : j < k) : p.segment j < p.segment k := by
  have hle := p.segment_mono hjk
  rw [segment_succ_of_some h] at hle
  exact hle

end Program

/-! ## Compilations -/

/-- What a compilation is given. -/
structure Compilation (σ L : Type) where
  program : Program
  signatures : Signatures
  lower : Lowering σ L
  /-- The first state of the lowering. -/
  initial : σ
  options : Options

namespace Compilation

variable {σ L : Type}

/-- What the compilation gives. -/
def result (C : Compilation σ L) : Except Diagnostic (CompiledShader L × σ) :=
  C.program.compile C.signatures C.lower C.initial C.options

/-- The session before the first instruction. -/
def start (C : Compilation σ L) : Session σ L where
  builder := .start C.options.maxNesting
  lowering := C.initial

/-- The session that has taken in the first instructions, up to a number of them. -/
def sessionAt (C : Compilation σ L) (k : Nat) : Except Diagnostic (Session σ L) :=
  Session.run C.program.stage C.signatures C.lower 0 (C.program.instructions.take k) C.start

/-- The builder before the instruction at a position, if the compilation comes to it: nothing
before it is refused, and the function has not returned. -/
def builderAt? (C : Compilation σ L) (k : Nat) : Option (Builder L) :=
  match C.sessionAt k with
  | .ok s => if s.builder.returned then none else some s.builder
  | .error _ => none

/-- The block that is being filled before the instruction at a position. -/
def blockAt? (C : Compilation σ L) (k : Nat) : Option BlockId :=
  (C.builderAt? k).map Builder.current

/-- The instruction at a position has one of the opcodes, and it ends a block: the block is the one
that is filled before the instruction. -/
def Ends (C : Compilation σ L) (ops : List FlowOp) (k : Nat) (x : BlockId) : Prop :=
  (∃ op ∈ ops, C.program.flowAt? k = some op) ∧ C.blockAt? k = some x

/-- The instruction at a position allocates a block with a name. -/
def Allocates (C : Compilation σ L) (k : Nat) (name : String) (x : BlockId) : Prop :=
  ∃ b b', C.builderAt? k = some b ∧ C.builderAt? (k + 1) = some b' ∧ b.graph.size ≤ x ∧
    b'.graph.nameAt x = some name

end Compilation

/-! ## Histories -/

namespace Session

variable {σ L : Type} {stage : Stage} {signatures : Signatures} {lower : Lowering σ L}
  {position : Nat} {is js : List Instruction} {s s' : Session σ L}

/-- A session that has returned takes nothing in. -/
theorem run_of_returned (h : s.builder.returned = true) :
    s.run stage signatures lower position is = .ok s := by
  cases is with
  | nil => rfl
  | cons i is => rw [run, if_pos h]

/-- Instructions may be taken in in two parts. -/
theorem run_append :
    s.run stage signatures lower position (is ++ js) =
      s.run stage signatures lower position is >>= fun s' =>
        s'.run stage signatures lower (position + is.length) js := by
  induction is generalizing position s with
  | nil => rfl
  | cons i is ih =>
    by_cases hr : s.builder.returned = true
    · rw [run_of_returned hr, run_of_returned hr]
      exact (run_of_returned hr).symm
    · rw [List.cons_append, run, run, if_neg hr, if_neg hr]
      cases s.step stage signatures lower position i with
      | error e => rfl
      | ok s₁ =>
        rw [List.length_cons, Nat.add_comm is.length, ← Nat.add_assoc]
        exact ih

/-- The sessions between the instructions that a run takes in. -/
theorem exists_states (h : s.run stage signatures lower position is = .ok s') :
    ∃ (n : Nat) (f : Nat → Session σ L), f 0 = s ∧ f n = s' ∧
      ∀ k < n, (f k).builder.returned = false ∧ ∃ i, is[k]? = some i ∧
        (f k).step stage signatures lower (position + k) i = .ok (f (k + 1)) := by
  induction is generalizing position s with
  | nil =>
    cases h
    exact ⟨0, fun _ => s', rfl, rfl, nofun⟩
  | cons i is ih =>
    rw [run] at h
    split at h
    · cases h
      exact ⟨0, fun _ => s', rfl, rfl, nofun⟩
    · next hr =>
      obtain ⟨s₁, hs, h⟩ := except_bind_eq_ok_iff.1 h
      obtain ⟨n, f, hzero, hlast, hstep⟩ := ih h
      refine ⟨n + 1, fun k => k.casesOn s f, rfl, hlast, fun k hk => ?_⟩
      cases k with
      | zero =>
        exact ⟨Bool.eq_false_iff.2 hr, i, rfl, hs.trans (congrArg Except.ok hzero.symm)⟩
      | succ k =>
        obtain ⟨hr, j, hj, hs⟩ := hstep k (Nat.lt_of_succ_lt_succ hk)
        refine ⟨hr, j, hj, ?_⟩
        rw [← hs, Nat.add_assoc, Nat.add_comm 1]

end Session

/-- The sessions of a compilation that comes to a return: one before each instruction that is taken
in, and the one that has returned. -/
structure Compilation.History {σ L : Type} (C : Compilation σ L) where
  /-- The number of instructions that are taken in. -/
  length : Nat
  session : Nat → Session σ L
  session_zero : session 0 = C.start
  running : ∀ {k}, k < length → (session k).builder.returned = false
  step : ∀ {k}, k < length → ∃ i, C.program.instructions[k]? = some i ∧
    (session k).step C.program.stage C.signatures C.lower k i = .ok (session (k + 1))
  returned : (session length).builder.returned = true
  /-- All blocks have ids. -/
  fits : (session length).builder.graph.size ≤ UInt32.size

namespace Compilation

variable {σ L : Type} {C : Compilation σ L}

/-- The session at the next position is the one that a step leads to. -/
theorem sessionAt_succ {k : Nat} {i : Instruction} {s s' : Session σ L}
    (h : C.sessionAt k = .ok s) (hi : C.program.instructions[k]? = some i)
    (hr : s.builder.returned = false)
    (hs : s.step C.program.stage C.signatures C.lower k i = .ok s') :
    C.sessionAt (k + 1) = .ok s' := by
  have hlen : (C.program.instructions.take k).length = k := by
    rw [List.length_take]
    exact Nat.min_eq_left (Nat.le_of_lt (List.getElem?_eq_some_iff.1 hi).1)
  have hone : s.run C.program.stage C.signatures C.lower k [i] = .ok s' := by
    rw [Session.run, if_neg (by simp [hr]), hs]
    rfl
  rw [sessionAt] at h
  rw [sessionAt, List.take_add_one, hi, Session.run_append, h, hlen, Nat.zero_add]
  exact hone

/-- Once the function has returned, the session stays as it is. -/
theorem sessionAt_of_returned {j k : Nat} {s : Session σ L} (h : C.sessionAt j = .ok s)
    (hr : s.builder.returned = true) (hjk : j ≤ k) : C.sessionAt k = .ok s := by
  obtain ⟨n, rfl⟩ := Nat.exists_eq_add_of_le hjk
  rw [sessionAt] at h
  rw [sessionAt, List.take_add, Session.run_append, h]
  exact Session.run_of_returned hr

namespace History

variable (H : C.History) {j k : Nat} {op : FlowOp} {x : BlockId} {name : String}

/-- The builder before the instruction at a position. -/
def builder (k : Nat) : Builder L := (H.session k).builder

/-- The number of blocks before the instruction at a position. -/
def size (k : Nat) : Nat := (H.builder k).graph.size

/-- The block that is filled before the instruction at a position. -/
def current (k : Nat) : BlockId := (H.builder k).current

/-- The finished graph. -/
def graph : Graph L := (H.builder H.length).graph

/-- At the first position nothing is built. -/
theorem builder_zero : H.builder 0 = .start C.options.maxNesting := by
  rw [builder, H.session_zero]
  rfl

/-- There are two blocks to begin with, the entry and the exit. -/
theorem size_zero : H.size 0 = 2 := by
  rw [size, builder_zero]
  rfl

variable {H}

/-- Blocks stay. -/
theorem size_mono (hjk : j ≤ k) (hk : k ≤ H.length) : H.size j ≤ H.size k := by
  induction hjk with
  | refl => exact Nat.le_refl _
  | step _ ih =>
    obtain ⟨i, -, hs⟩ := H.step hk
    exact Nat.le_trans (ih (Nat.le_of_lt hk)) (Session.step_eq_ok_iff.1 hs).size_le

/-- All blocks have ids. -/
theorem size_le (hk : k ≤ H.length) : H.size k ≤ UInt32.size :=
  Nat.le_trans (size_mono hk (Nat.le_refl _)) H.fits

/-- The builder takes in every instruction. -/
theorem takes (hk : k < H.length) :
    ∃ i, C.program.instructions[k]? = some i ∧
      Builder.Takes C.program.stage (fun _ _ => True) (H.builder k) i (H.builder (k + 1)) := by
  obtain ⟨i, hi, hs⟩ := H.step hk
  exact ⟨i, hi, Session.takes_of_step (Session.lowers_any C.lower) hs (size_le hk)⟩

/-- Control flow makes a step. -/
theorem control (hk : k < H.length) (hop : C.program.flowAt? k = some op) :
    ∃ i, i.opcode = .flow op ∧
      Builder.Step C.program.stage (H.builder k) i (H.builder (k + 1)) := by
  obtain ⟨i, hi, ht⟩ := takes hk
  obtain ⟨i', hi', hflow⟩ := Program.flowAt?_eq_some_iff.1 hop
  cases hi.symm.trans hi'
  exact ⟨i, hflow, ht.step (by rw [hflow]; rfl)⟩

/-- What is no control flow leaves all but the items of the current block. -/
theorem quiet (hk : k < H.length) (hop : C.program.flowAt? k = none) :
    Builder.Quiet (H.builder k) (H.builder (k + 1)) := by
  obtain ⟨i, hi, ht⟩ := takes hk
  refine ht.quiet ?_
  rw [Program.flowAt?, hi, Option.bind_some] at hop
  cases hi' : i.opcode with
  | flow op =>
    rw [hi'] at hop
    cases hop
  | _ => rfl

/-- All builders of a history are sound. -/
theorem sound (hk : k ≤ H.length) : (H.builder k).Sound := by
  induction k with
  | zero =>
    rw [builder_zero]
    exact Builder.sound_start _
  | succ k ih =>
    obtain ⟨i, -, ht⟩ := takes hk
    exact ht.sound (H.running hk) (ih (Nat.le_of_lt hk))

/-- Before the last instruction the function has not returned. -/
theorem succ_lt (hk : k < H.length) (hr : (H.builder (k + 1)).returned = false) :
    k + 1 < H.length := by
  refine Nat.lt_of_le_of_ne hk fun heq => ?_
  rw [builder, heq, H.returned] at hr
  cases hr

/-- No control flow but a return is the last instruction. -/
theorem succ_lt_of_ne_ret (hk : k < H.length) (hop : C.program.flowAt? k = some op)
    (hne : op ≠ .ret) : k + 1 < H.length := by
  obtain ⟨i, hi, hstep⟩ := control hk hop
  refine succ_lt hk (Bool.eq_false_iff.2 fun hr => ?_)
  cases (hstep.of_returned (H.running hk) hr).1.symm.trans hi
  exact hne rfl

/-- A history has at least one instruction, because it returns. -/
theorem exists_last (H : C.History) : ∃ n, n + 1 = H.length := by
  have hne : H.length ≠ 0 := by
    intro hzero
    have hr := H.returned
    rw [hzero, H.session_zero] at hr
    cases hr
  exact ⟨H.length - 1, Nat.succ_pred_eq_of_ne_zero hne⟩

/-- When the function returns, all scopes are closed. -/
theorem scopes_length : (H.builder H.length).scopes = [] := by
  obtain ⟨n, hn⟩ := H.exists_last
  have hlt : n < H.length := hn ▸ Nat.lt_succ_self n
  obtain ⟨i, -, ht⟩ := takes hlt
  rw [hn] at ht
  exact ht.scopes_of_returned (H.running hlt) H.returned

/-! ### Blocks by their number -/

/-- What is no control flow allocates no block. -/
theorem size_succ_of_none (hk : k < H.length) (hop : C.program.flowAt? k = none) :
    H.size (k + 1) = H.size k := (quiet hk hop).size

/-- Control flow allocates as many blocks as its opcode says. -/
theorem size_succ_of_some (hk : k + 1 < H.length) (hop : C.program.flowAt? k = some op) :
    H.size (k + 1) = H.size k + op.blocks.length := by
  obtain ⟨i, hi, hstep⟩ := control (Nat.lt_of_succ_lt hk) hop
  exact hstep.size_eq (H.running hk) hi

/-- The entry and the exit are there at every position. -/
theorem two_le_size (hk : k ≤ H.length) : 2 ≤ H.size k := by
  rw [← H.size_zero]
  exact size_mono (Nat.zero_le k) hk

/-- Names stay. -/
theorem nameAt_of_le (hjk : j ≤ k) (hk : k ≤ H.length)
    (hx : (H.builder j).graph.nameAt x = some name) :
    (H.builder k).graph.nameAt x = some name := by
  induction hjk with
  | refl => exact hx
  | @step k _ ih =>
    have hx' := ih (Nat.le_of_lt hk)
    cases hop : C.program.flowAt? k with
    | none => rw [(quiet hk hop).nameAt, hx']
    | some op =>
      obtain ⟨i, -, hstep⟩ := control hk hop
      rw [hstep.nameAt_of_lt (Graph.lt_size_of_nameAt hx'), hx']

/-- The block is number `t` of those that the instruction at a position allocates. -/
structure Allots (H : C.History) (k : Nat) (op : FlowOp) (t : Nat) (x : BlockId) : Prop where
  succ_lt : k + 1 < H.length
  flowAt : C.program.flowAt? k = some op
  lt : t < op.blocks.length
  eq : x = H.size k + t

variable {op' : FlowOp} {t t' : Nat}

/-- A block that an instruction allots is new when the instruction is taken in. -/
theorem Allots.bounds (h : H.Allots k op t x) : H.size k ≤ x ∧ x < H.size (k + 1) := by
  rw [size_succ_of_some h.succ_lt h.flowAt, h.eq]
  exact ⟨Nat.le_add_right .., Nat.add_lt_add_left h.lt _⟩

/-- A block is allocated once. -/
theorem Allots.unique (h : H.Allots j op t x) (h' : H.Allots k op' t' x) :
    j = k ∧ op = op' ∧ t = t' := by
  obtain ⟨hle, hlt⟩ := h.bounds
  obtain ⟨hle', hlt'⟩ := h'.bounds
  have hjk : j = k := by
    rcases Nat.lt_trichotomy j k with hjk | hjk | hjk
    · have hsize := size_mono hjk (Nat.le_of_lt (Nat.lt_of_succ_lt h'.succ_lt))
      exact absurd (Nat.le_trans hsize hle') (Nat.not_le_of_lt hlt)
    · exact hjk
    · have hsize := size_mono hjk (Nat.le_of_lt (Nat.lt_of_succ_lt h.succ_lt))
      exact absurd (Nat.le_trans hsize hle) (Nat.not_le_of_lt hlt')
  subst hjk
  refine ⟨rfl, Option.some.inj (h.flowAt.symm.trans h'.flowAt), ?_⟩
  exact Nat.add_left_cancel (h.eq.symm.trans h'.eq)

/-- The entry and the exit are allotted by no instruction. -/
theorem Allots.two_le (h : H.Allots k op t x) : 2 ≤ x :=
  Nat.le_trans (two_le_size (Nat.le_of_lt (Nat.lt_of_succ_lt h.succ_lt))) h.bounds.1

/-- A block that is allotted has the name that its opcode gives it. -/
theorem Allots.nameAt (h : H.Allots k op t x) :
    (H.builder (k + 1)).graph.nameAt x = op.blocks[t]? := by
  obtain ⟨i, hi, hstep⟩ := control (Nat.lt_of_succ_lt h.succ_lt) h.flowAt
  rw [h.eq]
  exact hstep.nameAt_of_blocks (H.running h.succ_lt) hi t h.lt

/-- Every block but the two of the empty function is allocated by an instruction. -/
theorem exists_allots (hk : k ≤ H.length) (hx : x < H.size k) (htwo : 2 ≤ x) :
    ∃ j op t, H.Allots j op t x := by
  induction k with
  | zero =>
    rw [size_zero] at hx
    exact absurd hx (Nat.not_lt_of_le htwo)
  | succ k ih =>
    by_cases hold : x < H.size k
    · exact ih (Nat.le_of_lt hk) hold
    · have hle := Nat.le_of_not_lt hold
      cases hop : C.program.flowAt? k with
      | none =>
        rw [size_succ_of_none hk hop] at hx
        exact absurd hx hold
      | some op =>
        obtain ⟨i, hi, hstep⟩ := control hk hop
        have hlt : k + 1 < H.length := by
          refine succ_lt hk (Bool.eq_false_iff.2 fun hr => ?_)
          have hsize : H.size (k + 1) = H.size k := (hstep.of_returned (H.running hk) hr).2
          exact hold (hsize ▸ hx)
        obtain ⟨t, rfl⟩ := Nat.exists_eq_add_of_le hle
        rw [size_succ_of_some hlt hop] at hx
        exact ⟨k, op, t, hlt, hop, Nat.lt_of_add_lt_add_left hx, rfl⟩

/-! ### One block for each segment -/

/-- The current block is one of the blocks that are there. -/
theorem current_lt (hk : k < H.length) : H.current k < H.size k :=
  ((sound (Nat.le_of_lt hk)).isOpen_current (H.running hk)).lt_size

/-- New blocks have not been filled before. -/
theorem current_ne_of_size_le (hk : k < H.length) (hx : H.size k ≤ x) (hjk : j ≤ k) :
    H.current j ≠ x := by
  have hlt := current_lt (Nat.lt_of_le_of_lt hjk hk)
  exact Nat.ne_of_lt
    (Nat.lt_of_lt_of_le hlt (Nat.le_trans (size_mono hjk (Nat.le_of_lt hk)) hx))

/-- A block in which code is to go on behind an open scope has not been filled before. The
induction is on the position; a new scope lands in a new block. -/
theorem ne_landing (hk : k < H.length) {s : Scope} (hs : s ∈ (H.builder k).scopes) (hjk : j ≤ k) :
    H.current j ≠ s.landing := by
  induction k generalizing s with
  | zero =>
    rw [builder_zero] at hs
    cases hs
  | succ k ih =>
    have hk' := Nat.lt_of_succ_lt hk
    rcases Nat.lt_or_eq_of_le hjk with hjk | rfl
    · have hjk := Nat.le_of_lt_succ hjk
      cases hop : C.program.flowAt? k with
      | none =>
        rw [(quiet hk' hop).scopes] at hs
        exact ih hk' hs hjk
      | some op =>
        obtain ⟨i, -, hstep⟩ := control hk' hop
        have hmem : s.landing ∈ (H.builder (k + 1)).scopes.map Scope.landing :=
          List.mem_map.2 ⟨s, hs, rfl⟩
        rcases hstep.landings (H.running hk) (List.mem_cons_of_mem _ hmem) with hold | hnew
        · obtain ⟨s', hs', heq⟩ := List.mem_map.1 hold
          rw [← heq]
          exact ih hk' hs' hjk
        · exact current_ne_of_size_le hk' hnew hjk
    · exact ((sound (Nat.le_of_lt hk)).pending (H.running hk) hs s.landing_mem_pending).2.symm

/-- Control flow goes on in a block that has not been filled before. -/
theorem current_ne_succ (hk : k + 1 < H.length) (hop : C.program.flowAt? k = some op)
    (hjk : j ≤ k) : H.current j ≠ H.current (k + 1) := by
  have hk' := Nat.lt_of_succ_lt hk
  obtain ⟨i, -, hstep⟩ := control hk' hop
  rcases hstep.landings (H.running hk) List.mem_cons_self with hold | hnew
  · obtain ⟨s, hs, heq⟩ := List.mem_map.1 hold
    rw [current, current, ← heq]
    exact ne_landing hk' hs hjk
  · exact current_ne_of_size_le hk' hnew hjk

/-- Within a segment the current block stays the same. -/
theorem current_eq_of_segment_eq (hjk : j ≤ k) (hk : k < H.length)
    (h : C.program.segment j = C.program.segment k) : H.current j = H.current k := by
  induction hjk with
  | refl => rfl
  | @step k hjk ih =>
    have hk' := Nat.lt_of_succ_lt hk
    cases hop : C.program.flowAt? k with
    | none =>
      rw [Program.segment_succ_of_none hop] at h
      rw [ih hk' h]
      exact (quiet hk' hop).current.symm
    | some op =>
      have hle := C.program.segment_mono hjk
      rw [Program.segment_succ_of_some hop] at h
      omega

/-- A later segment has another block. -/
theorem current_ne_of_segment_lt (hk : k < H.length)
    (h : C.program.segment j < C.program.segment k) : H.current j ≠ H.current k := by
  induction k with
  | zero => exact absurd h (Nat.not_lt_zero _)
  | succ k ih =>
    have hk' := Nat.lt_of_succ_lt hk
    have hjk : j ≤ k := by
      refine Nat.le_of_lt_succ (Nat.lt_of_not_le fun hle => ?_)
      exact Nat.not_lt_of_le (C.program.segment_mono hle) h
    cases hop : C.program.flowAt? k with
    | none =>
      rw [Program.segment_succ_of_none hop] at h
      rw [current, current, (quiet hk' hop).current]
      exact ih hk' h
    | some op => exact current_ne_succ hk hop hjk

/-- A block is filled in one segment of the program, and one block is filled in each segment. -/
theorem current_eq_iff (hj : j < H.length) (hk : k < H.length) :
    H.current j = H.current k ↔ C.program.segment j = C.program.segment k := by
  constructor
  · intro heq
    rcases Nat.lt_trichotomy (C.program.segment j) (C.program.segment k) with hlt | h | hlt
    · exact absurd heq (current_ne_of_segment_lt hk hlt)
    · exact h
    · exact absurd heq.symm (current_ne_of_segment_lt hj hlt)
  · intro h
    rcases Nat.le_total j k with hjk | hkj
    · exact current_eq_of_segment_eq hjk hk h
    · exact (current_eq_of_segment_eq hkj hj h.symm).symm

/-! ### What the positions of a compilation show -/

/-- The sessions of a history are those that the compilation goes through. -/
theorem sessionAt_eq (hk : k ≤ H.length) : C.sessionAt k = .ok (H.session k) := by
  induction k with
  | zero =>
    rw [H.session_zero]
    rfl
  | succ k ih =>
    obtain ⟨i, hi, hs⟩ := H.step hk
    exact sessionAt_succ (ih (Nat.le_of_lt hk)) hi (H.running hk) hs

/-- Behind the end of a history the last session stays. -/
theorem sessionAt_of_length_le (hk : H.length ≤ k) :
    C.sessionAt k = .ok (H.session H.length) :=
  sessionAt_of_returned (sessionAt_eq (Nat.le_refl _)) H.returned hk

/-- A builder is at work exactly at the positions of the history. -/
theorem builderAt?_eq_some_iff {b : Builder L} :
    C.builderAt? k = some b ↔ k < H.length ∧ b = H.builder k := by
  by_cases hk : k < H.length
  · rw [builderAt?, sessionAt_eq (Nat.le_of_lt hk)]
    simp [H.running hk, hk, builder, eq_comm]
  · rw [builderAt?, sessionAt_of_length_le (Nat.le_of_not_lt hk)]
    simp [H.returned, hk]

/-- The block at a position is the current one of the builder there. -/
theorem blockAt?_eq_some_iff : C.blockAt? k = some x ↔ k < H.length ∧ x = H.current k := by
  rw [blockAt?, Option.map_eq_some_iff]
  constructor
  · rintro ⟨b, hb, rfl⟩
    obtain ⟨hk, rfl⟩ := H.builderAt?_eq_some_iff.1 hb
    exact ⟨hk, rfl⟩
  · rintro ⟨hk, rfl⟩
    exact ⟨_, H.builderAt?_eq_some_iff.2 ⟨hk, rfl⟩, rfl⟩

/-- What the compilation allocates is what its history allots. -/
theorem allocates_iff :
    C.Allocates k name x ↔ ∃ op t, H.Allots k op t x ∧ op.blocks[t]? = some name := by
  constructor
  · rintro ⟨b, b', hb, hb', hle, hname⟩
    obtain ⟨hk, rfl⟩ := H.builderAt?_eq_some_iff.1 hb
    obtain ⟨hk', rfl⟩ := H.builderAt?_eq_some_iff.1 hb'
    have hlt : x < H.size (k + 1) := Graph.lt_size_of_nameAt hname
    cases hop : C.program.flowAt? k with
    | none =>
      rw [size_succ_of_none hk hop] at hlt
      exact absurd hle (Nat.not_le_of_lt hlt)
    | some op =>
      obtain ⟨t, rfl⟩ := Nat.exists_eq_add_of_le hle
      rw [size_succ_of_some hk' hop] at hlt
      have hallots : H.Allots k op t (H.size k + t) :=
        ⟨hk', hop, Nat.lt_of_add_lt_add_left hlt, rfl⟩
      exact ⟨op, t, hallots, hallots.nameAt.symm.trans hname⟩
  · rintro ⟨op, t, h, hname⟩
    refine ⟨H.builder k, H.builder (k + 1), ?_, ?_, h.bounds.1, h.nameAt.trans hname⟩
    · exact H.builderAt?_eq_some_iff.2 ⟨Nat.lt_of_succ_lt h.succ_lt, rfl⟩
    · exact H.builderAt?_eq_some_iff.2 ⟨h.succ_lt, rfl⟩

end History

/-- A compilation that succeeds has a history, which ends with the graph of the result. -/
theorem exists_history {c : CompiledShader L} {final : σ} (h : C.result = .ok (c, final)) :
    ∃ H : C.History, c.graph = H.graph := by
  obtain ⟨s, hs, hr, hg, hfit⟩ := Program.run_of_compile h
  obtain ⟨n, f, hzero, rfl, hstep⟩ := Session.exists_states hs
  refine ⟨⟨n, f, hzero, fun hk => (hstep _ hk).1, fun {k} hk => ?_, hr, hfit⟩, hg⟩
  obtain ⟨-, i, hi, hs⟩ := hstep k hk
  rw [Nat.zero_add] at hs
  exact ⟨i, hi, hs⟩

/-- A result that is no error is a shader with the last state of the lowering. -/
theorem exists_result (h : C.result.isOk = true) : ∃ c final, C.result = .ok (c, final) := by
  cases hc : C.result with
  | ok r => exact ⟨r.1, r.2, rfl⟩
  | error e =>
    rw [hc] at h
    cases h

end Compilation

end ShaderFlow
