import ShaderFlow.Proofs.Intake
import ShaderFlow.Proofs.Tally

/-!
# Reading a program into a builder

Of all that a compilation does, `Builder.Reads` keeps what concerns the graph: control flow is
carried out, and each other instruction puts a value into the current block or leaves the block as
it is. Which values may be put there is a parameter, `puts`. New blocks are referred to by their
indices, as they are in a session whose blocks all have ids (`Session.reads_of_run`). A compilation
that succeeds ends with such a session: it has read a first part of the program, up to the return
outside of all scopes (`Program.reads_of_compile`).
-/

namespace ShaderFlow

/-- Which values the instructions of a program may put into blocks; `none` stands for no value. -/
abbrev Placement (L : Type) := Instruction → Option L → Prop

/-- Each instruction puts the value that a function gives for it. -/
def Placement.of {L : Type} (value : Instruction → Option L) : Placement L :=
  fun i o => o = value i

/-- Ordinary instructions stand for themselves, and no other instruction is put into a block. -/
def Instruction.ordinary? (i : Instruction) : Option Instruction :=
  if i.opcode.isOrdinary then some i else none

/-- The names of the blocks that a control-flow instruction allocates, in this order. A return
outside of all scopes allocates none. -/
def FlowOp.blocks : FlowOp → List String
  | .beginIf => ["if_true", "if_alternative"]
  | .elseArm => ["endif"]
  | .beginLoop => ["loop_entrance", "endloop"]
  | .beginSwitch => ["endswitch", "switch_empty"]
  | .caseLabel => ["switch_case"]
  | .defaultLabel => ["switch_default"]
  | .breakOut => ["after_break"]
  | .breakIf => ["after_breakc"]
  | .continueLoop => ["after_continue"]
  | .continueIf => ["after_continuec"]
  | .ret => ["after_ret"]
  | .retIf => ["after_retc"]
  | .discard => ["discard_fulfilled", "discard_otherwise"]
  | .endIf | .endLoop | .endSwitch => []

/-- The number of blocks that an instruction with an opcode allocates. -/
def Opcode.allocated : Opcode → Nat
  | .flow op => op.blocks.length
  | _ => 0

/-- The number of blocks that instructions allocate. -/
def allocated : List Instruction → Nat
  | [] => 0
  | i :: rest => i.opcode.allocated + allocated rest

/-- An instruction allocates at most two blocks. -/
theorem allocated_le (is : List Instruction) : allocated is ≤ 2 * is.length := by
  induction is with
  | nil => exact Nat.le_refl 0
  | cons i is ih =>
    have hone : i.opcode.allocated ≤ 2 := by
      cases i.opcode with
      | flow op => cases op <;> decide
      | _ => exact Nat.zero_le 2
    rw [allocated, List.length_cons]
    omega

/-- What is no control flow allocates nothing. -/
theorem Opcode.allocated_eq_zero {op : Opcode} (h : op.isControlFlow = false) :
    op.allocated = 0 := by
  cases op with
  | flow => cases h
  | _ => rfl

/-- Without control flow no block is allocated. -/
theorem allocated_eq_zero {is : List Instruction}
    (h : ∀ i ∈ is, i.opcode.isControlFlow = false) : allocated is = 0 := by
  induction is with
  | nil => rfl
  | cons i is ih =>
    obtain ⟨hi, his⟩ := List.forall_mem_cons.1 h
    rw [allocated, Opcode.allocated_eq_zero hi, ih his]

namespace Builder

variable {L : Type} {stage : Stage} {puts : Placement L} {b b' b₁ : Builder L} {i : Instruction}
  {is js : List Instruction}

/-- What a builder becomes when it takes in one instruction. -/
inductive Takes (stage : Stage) (puts : Placement L) (b : Builder L) (i : Instruction) :
    Builder L → Prop where
  | control {b' : Builder L} (h : Step stage b i b') : Takes stage puts b i b'
  | put {value : L} (hi : i.opcode.isControlFlow = false) (hv : puts i (some value)) :
      Takes stage puts b i (b.append value)
  | skip (hi : i.opcode.isControlFlow = false) (hv : puts i none) : Takes stage puts b i b

/-- What a builder becomes when it takes in a list of instructions and returns at the last of them,
if at all. -/
inductive Reads (stage : Stage) (puts : Placement L) :
    Builder L → List Instruction → Builder L → Prop where
  | nil {b : Builder L} : Reads stage puts b [] b
  | cons {b b₁ b' : Builder L} {i : Instruction} {is : List Instruction}
      (hr : b.returned = false) (ht : Takes stage puts b i b₁) (h : Reads stage puts b₁ is b') :
      Reads stage puts b (i :: is) b'

/-- Only control flow makes steps. -/
theorem Step.isControlFlow (h : Step stage b i b') : i.opcode.isControlFlow = true := by
  cases h with
  | leave _ hop | leaveIf _ hop | beginIf hop | elseArm hop | endIf hop | beginLoop hop
  | endLoop hop | beginSwitch hop | caseLabel hop | defaultLabel hop | endSwitch hop | ret hop
  | discard hop =>
    rw [hop]
    rfl

/-- Control flow is taken in by a step. -/
theorem Takes.step (h : Takes stage puts b i b') (hi : i.opcode.isControlFlow = true) :
    Step stage b i b' := by
  cases h with
  | control h => exact h
  | put hi' | skip hi' =>
    rw [hi] at hi'
    cases hi'

/-- A step allocates the blocks that its opcode stands for. -/
theorem StepWith.size_eq {first second : BlockId} (h : StepWith first second stage b i b')
    (hr' : b'.returned = false) {op : FlowOp} (hop : i.opcode = .flow op) :
    b'.graph.size = b.graph.size + op.blocks.length := by
  cases h with
  | leave way hop' =>
    cases way <;>
    · cases hop'.symm.trans hop
      simp [FlowOp.blocks, Leave.op]
  | leaveIf way hop' =>
    cases way <;>
    · cases hop'.symm.trans hop
      simp [FlowOp.blocks, Leave.opIf]
  | ret => cases hr'
  | beginIf hop' | elseArm hop' | endIf hop' | beginLoop hop' | endLoop hop' | beginSwitch hop'
  | caseLabel hop' | defaultLabel hop' | endSwitch hop' | discard hop' =>
    cases hop'.symm.trans hop
    simp [FlowOp.blocks]

/-- A function returns with a `ret`, which then allocates nothing. -/
theorem StepWith.of_returned {first second : BlockId} (h : StepWith first second stage b i b')
    (hr : b.returned = false) (hr' : b'.returned = true) :
    i.opcode = .flow .ret ∧ b'.graph.size = b.graph.size := by
  cases h with
  | ret hop => exact ⟨hop, Graph.size_close _⟩
  | _ => cases hr.symm.trans hr'

/-- An instruction that is taken in allocates the blocks that its opcode stands for. -/
theorem Takes.size_eq (h : Takes stage puts b i b') (hr' : b'.returned = false) :
    b'.graph.size = b.graph.size + i.opcode.allocated := by
  cases h with
  | control h =>
    have hflow := h.isControlFlow
    cases hop : i.opcode with
    | flow op => exact h.size_eq hr' hop
    | _ =>
      rw [hop] at hflow
      cases hflow
  | put hi | skip hi =>
    rw [Opcode.allocated_eq_zero hi]
    simp [Builder.append]

/-- An instruction that is taken in adds at most two blocks. -/
theorem Takes.size_le (h : Takes stage puts b i b') :
    b.graph.size ≤ b'.graph.size ∧ b'.graph.size ≤ b.graph.size + 2 := by
  cases h with
  | control h => exact h.size_le
  | put => simp [Builder.append]
  | skip => exact ⟨Nat.le_refl _, Nat.le_add_right _ 2⟩

namespace Reads

/-- Reading two parts one after the other. -/
theorem append (h : Reads stage puts b is b₁) (h' : Reads stage puts b₁ js b') :
    Reads stage puts b (is ++ js) b' := by
  induction h with
  | nil => exact h'
  | cons hr ht _ ih => exact .cons hr ht (ih h')

/-- Reading stops at no point between two parts of a list. -/
theorem split (h : Reads stage puts b (is ++ js) b') :
    ∃ b₁, Reads stage puts b is b₁ ∧ Reads stage puts b₁ js b' := by
  induction is generalizing b with
  | nil => exact ⟨b, .nil, h⟩
  | cons i is ih =>
    cases h with
    | cons hr ht h =>
      obtain ⟨b₁, h₁, h₂⟩ := ih h
      exact ⟨b₁, .cons hr ht h₁, h₂⟩

/-- A list that ends in an instruction is read up to it, and then the instruction is taken in. -/
theorem snoc_inv (h : Reads stage puts b (is ++ [i]) b') :
    ∃ b₁, Reads stage puts b is b₁ ∧ b₁.returned = false ∧ Takes stage puts b₁ i b' := by
  obtain ⟨b₁, h₁, h₂⟩ := h.split
  cases h₂ with
  | cons hr ht h =>
    cases h
    exact ⟨b₁, h₁, hr, ht⟩

/-- Reading one more instruction at the end. -/
theorem snoc (h : Reads stage puts b is b₁) (hr : b₁.returned = false)
    (ht : Takes stage puts b₁ i b') : Reads stage puts b (is ++ [i]) b' :=
  h.append (.cons hr ht .nil)

/-- What every instruction preserves, reading a list preserves. -/
theorem preserves {P : Builder L → Prop}
    (hP : ∀ {b i b'}, b.returned = false → Takes stage puts b i b' → P b → P b')
    (h : Reads stage puts b is b') : P b → P b' := by
  induction h with
  | nil => exact id
  | cons hr ht _ ih => exact fun hb => ih (hP hr ht hb)

/-- Reading that has not returned has allocated what the instructions stand for. -/
theorem size_eq (h : Reads stage puts b is b') (hr' : b'.returned = false) :
    b'.graph.size = b.graph.size + allocated is := by
  induction h with
  | nil => rfl
  | @cons b b₁ b' i is _ ht h ih =>
    have hr₁ : b₁.returned = false := by
      cases h with
      | nil => exact hr'
      | cons hr₁ => exact hr₁
    rw [ih hr', ht.size_eq hr₁, allocated, Nat.add_assoc]

/-- Each instruction adds at most two blocks. -/
theorem size_le (h : Reads stage puts b is b') :
    b.graph.size ≤ b'.graph.size ∧ b'.graph.size ≤ b.graph.size + 2 * is.length := by
  induction h with
  | nil => exact ⟨Nat.le_refl _, Nat.le_refl _⟩
  | cons hr ht _ ih =>
    have hstep := ht.size_le
    rw [List.length_cons]
    omega

end Reads

end Builder

/-! ## Compilations -/

namespace Session

variable {σ L : Type} {stage : Stage} {signatures : Signatures} {lower : Lowering σ L}
  {puts : Placement L} {position : Nat} {i : Instruction} {is : List Instruction}
  {s s' : Session σ L}

/-- The values that a lowering gives are allowed, and so is no value for the rest. -/
structure Lowers (lower : Lowering σ L) (puts : Placement L) : Prop where
  ordinary : ∀ {i location resources state value state'}, i.opcode.isOrdinary = true →
    lower i location resources state = .ok (value, state') → puts i (some value)
  other : ∀ {i}, i.opcode.isOrdinary = false → puts i none

/-- Instructions that stand for themselves are put into blocks if they are ordinary. -/
theorem lowers_passthrough : Lowers Lowering.passthrough (.of Instruction.ordinary?) where
  ordinary hi h := by
    cases h
    simp [Placement.of, Instruction.ordinary?, hi]
  other hi := by simp [Placement.of, Instruction.ordinary?, hi]

/-- Every lowering puts some values into blocks. -/
theorem lowers_any (lower : Lowering σ L) : Lowers lower fun _ _ => True where
  ordinary _ _ := trivial
  other _ := trivial

/-- A session removes no block. -/
theorem Takes.size_le (h : Takes stage signatures lower position s i s') :
    s.builder.graph.size ≤ s'.builder.graph.size := by
  cases h with
  | nop | resource | interface => exact Nat.le_refl _
  | control _ hc => exact Builder.size_le_of_control hc
  | ordinary => simp [Builder.append]

/-- A session that goes on loses no blocks. -/
theorem size_le_of_run (h : s.run stage signatures lower position is = .ok s') :
    s.builder.graph.size ≤ s'.builder.graph.size := by
  obtain ⟨_, -, hle⟩ := run_induction
    (P := fun _ t => s.builder.graph.size ≤ t.builder.graph.size)
    (fun _ hle ht => Nat.le_trans hle ht.size_le) h (Nat.le_refl _)
  exact hle

/-- The open blocks of a session are counted right. -/
theorem Takes.tallied (h : Takes stage signatures lower position s i s')
    (hr : s.builder.returned = false) (hs : s.builder.Tallied) : s'.builder.Tallied := by
  cases h with
  | nop | resource | interface => exact hs
  | control _ hc => exact hs.control hr hc
  | ordinary => exact hs.append _

/-- A session that has returned has no more blocks than there are ids. -/
theorem size_le_of_returned (h : s.run stage signatures lower position is = .ok s')
    (hs : s.builder.Tallied) (hr : s'.builder.returned = true) :
    s'.builder.graph.size ≤ UInt32.size := by
  obtain ⟨_, -, htallied⟩ := run_induction (P := fun _ t => t.builder.Tallied)
    (fun hr hs ht => ht.tallied hr hs) h hs
  exact htallied.size_le hr

/-- A session that takes in an instruction has its builder take it in. -/
theorem takes_of_step (hl : Lowers lower puts)
    (h : s.step stage signatures lower position i = .ok s')
    (hfit : s'.builder.graph.size ≤ UInt32.size) :
    Builder.Takes stage puts s.builder i s'.builder := by
  cases step_eq_ok_iff.1 h with
  | nop hop => exact .skip (by rw [hop]; rfl) (hl.other (by rw [hop]; rfl))
  | resource hop | interface hop =>
    have hother : i.opcode.isControlFlow = false ∧ i.opcode.isOrdinary = false := by
      cases hi : i.opcode with
      | resourceDcl | customData | stageDcl => exact ⟨rfl, rfl⟩
      | _ =>
        rw [hi] at hop
        cases hop
    exact .skip hother.1 (hl.other hother.2)
  | control _ hc => exact .control (Builder.step_of_control hc hfit)
  | ordinary hop _ hv =>
    have hflow : i.opcode.isControlFlow = false := by
      cases hi : i.opcode with
      | flow =>
        rw [hi] at hop
        cases hop
      | _ => rfl
    exact .put hflow (hl.ordinary hop hv)

/-- A session that takes in instructions, and whose blocks all have ids, has its builder read a
first part of them, which ends with the list or with a return outside of all scopes. -/
theorem reads_of_run (hl : Lowers lower puts)
    (h : s.run stage signatures lower position is = .ok s')
    (hfit : s'.builder.graph.size ≤ UInt32.size) :
    ∃ done rest, is = done ++ rest ∧ Builder.Reads stage puts s.builder done s'.builder ∧
      (s'.builder.returned = true ∨ rest = []) := by
  induction is generalizing position s with
  | nil =>
    cases h
    exact ⟨[], [], rfl, .nil, .inr rfl⟩
  | cons i is ih =>
    rw [run] at h
    split at h
    · next hr =>
      cases h
      exact ⟨[], i :: is, rfl, .nil, .inl hr⟩
    · next hr =>
      obtain ⟨s₁, hs, h⟩ := except_bind_eq_ok_iff.1 h
      obtain ⟨done, rest, rfl, hd, hrest⟩ := ih h
      have hstep := takes_of_step hl hs (Nat.le_trans (size_le_of_run h) hfit)
      exact ⟨i :: done, rest, rfl, .cons (Bool.eq_false_iff.2 hr) hstep hd, hrest⟩

end Session

/-- What a compilation that succeeds did: it took in the program, and its builder has returned with
the graph of the result. All blocks have ids. -/
theorem Program.run_of_compile {σ L : Type} {p : Program} {signatures : Signatures}
    {lower : Lowering σ L} {initial final : σ} {options : Options} {c : CompiledShader L}
    (h : p.compile signatures lower initial options = .ok (c, final)) :
    ∃ s : Session σ L,
      Session.run p.stage signatures lower 0 p.instructions
        { builder := .start options.maxNesting, lowering := initial } = .ok s ∧
      s.builder.returned = true ∧ c.graph = s.builder.graph ∧
      s.builder.graph.size ≤ UInt32.size := by
  unfold Program.compile at h
  simp only [except_bind_eq_ok_iff] at h
  obtain ⟨_, -, s, hs, graph, hg, _, -, h⟩ := h
  cases h
  refine ⟨s, hs, ?_⟩
  unfold Builder.finish? at hg
  split at hg
  · next hr =>
    cases hg
    exact ⟨hr, rfl, Session.size_le_of_returned hs (Builder.tallied_start _) hr⟩
  · cases hg

/-- A compilation that succeeds has read a first part of its program into the graph. -/
theorem Program.reads_of_compile {σ L : Type} {p : Program} {signatures : Signatures}
    {lower : Lowering σ L} {initial final : σ} {options : Options} {c : CompiledShader L}
    {puts : Placement L} (hl : Session.Lowers lower puts)
    (h : p.compile signatures lower initial options = .ok (c, final)) :
    ∃ done rest b, p.instructions = done ++ rest ∧
      Builder.Reads p.stage puts (.start options.maxNesting) done b ∧ b.returned = true ∧
      c.graph = b.graph := by
  obtain ⟨s, hs, hr, hg, hfit⟩ := run_of_compile h
  obtain ⟨done, rest, hi, hd, -⟩ := Session.reads_of_run hl hs hfit
  exact ⟨done, rest, s.builder, hi, hd, hr, hg⟩

end ShaderFlow
