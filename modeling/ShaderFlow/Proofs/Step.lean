import ShaderFlow.Flow.Builder

/-!
# The steps of a builder

`Builder.control` is a program for each of sixteen opcodes. `Builder.StepWith` lists what such a
program leaves behind when it is not refused, together with the conditions under which it is not,
and `control_eq_ok_iff` says that the list is complete. What holds of every step is proved by cases
on the list, without a look at the programs.

A step allocates up to two blocks, and how others refer to them is a parameter of the list. In a
`Builder.Step` they are referred to by their indices, so they are new; it is what an instruction
does as long as the indices have 32 bits (`executes_iff_step`).
-/

namespace ShaderFlow

/-! ## Steps that succeed -/

section

variable {ε σ α β : Type} {s s' : σ}

/-- A sequence succeeds if both of its parts do. -/
theorem bind_eq_ok_iff {x : EStateM ε σ α} {f : α → EStateM ε σ β} {c : β} :
    (x >>= f) s = .ok c s' ↔ ∃ a s₁, x s = .ok a s₁ ∧ f a s₁ = .ok c s' := by
  cases h : x s with
  | ok a s₁ =>
    rw [bind_of_ok h]
    exact ⟨fun hf => ⟨a, s₁, rfl, hf⟩, fun ⟨_, _, ha, hf⟩ => by cases ha; exact hf⟩
  | error e s₁ => simp [bind_of_error h]

/-- A check that a step makes succeeds if the check does. -/
theorem lift_eq_ok_iff {x : Except ε α} {a : α} :
    (liftM x : EStateM ε σ α) s = .ok a s' ↔ x = .ok a ∧ s' = s := by
  cases x with
  | ok _ => simp [eq_comm]
  | error _ => simp

/-- A condition is passed if it holds. -/
theorem require_eq_ok_iff {p : Prop} [Decidable p] {e : ε} {u : Unit} :
    (require p e : EStateM ε σ Unit) s = .ok u s' ↔ p ∧ s' = s := by
  by_cases h : p
  · simp [require_apply, h, eq_comm]
  · simp [require_apply, h]

/-- In `Except`, a sequence succeeds if both of its parts do. -/
theorem except_bind_eq_ok_iff {x : Except ε α} {f : α → Except ε β} {c : β} :
    (x >>= f) = .ok c ↔ ∃ a, x = .ok a ∧ f a = .ok c := by
  cases x with
  | ok a => simp [bind, Except.bind]
  | error e => simp [bind, Except.bind]

/-- In `Except`, a condition is passed if it holds. -/
theorem except_require_eq_ok_iff {p : Prop} [Decidable p] {e : ε} {u : Unit} :
    (require p e : Except ε Unit) = .ok u ↔ p := by
  by_cases h : p
  · simp [require, h, pure, Except.pure]
  · simp [require, h, throw, throwThe, MonadExceptOf.throw]

/-- In `Except`, a value that is there is taken. -/
theorem except_orFault_eq_ok_iff {o : Option α} {e : ε} {a : α} :
    (orFault o e : Except ε α) = .ok a ↔ o = some a := by
  cases o with
  | none => simp [orFault, throw, throwThe, MonadExceptOf.throw]
  | some _ => simp [orFault, pure, Except.pure]

/-- A refusal is no success. -/
theorem throw_ne_ok {e : ε} {a : α} : (throw e : EStateM ε σ α) s ≠ .ok a s' :=
  nofun

variable {f : α → EStateM ε σ β} {k : Unit → EStateM ε σ β} {c : β}

/-- What is read is the state. -/
theorem get_bind {f : σ → EStateM ε σ β} : (get >>= f) s = f s s :=
  rfl

/-- What is changed is there for what follows. -/
theorem modify_bind {h : σ → σ} : ((modify h : EStateM ε σ Unit) >>= k) s = k () (h s) :=
  rfl

/-- A check that succeeds leaves the state to what follows. -/
theorem lift_bind_eq_ok_iff {x : Except ε α} :
    ((liftM x : EStateM ε σ α) >>= f) s = .ok c s' ↔ ∃ a, x = .ok a ∧ f a s = .ok c s' := by
  rw [bind_eq_ok_iff]
  constructor
  · rintro ⟨a, s₁, hx, hf⟩
    obtain ⟨rfl, rfl⟩ := lift_eq_ok_iff.1 hx
    exact ⟨a, rfl, hf⟩
  · rintro ⟨a, rfl, hf⟩
    exact ⟨a, s, rfl, hf⟩

/-- A value that is there is taken, and the state is left to what follows. -/
theorem orFault_bind_eq_ok_iff {o : Option α} {e : ε} :
    ((orFault o e : EStateM ε σ α) >>= f) s = .ok c s' ↔ ∃ a, o = some a ∧ f a s = .ok c s' := by
  cases o with
  | none => simp [bind_of_error (orFault_none (s := s) e)]
  | some a => simp [bind_of_ok (orFault_some (s := s) a e)]

/-- A condition that holds leaves the state to what follows. -/
theorem require_bind_eq_ok_iff {p : Prop} [Decidable p] {e : ε} :
    ((require p e : EStateM ε σ Unit) >>= k) s = .ok c s' ↔ p ∧ k () s = .ok c s' := by
  by_cases hp : p
  · rw [bind_of_ok ((require_eq_ok_iff (e := e) (s := s)).2 ⟨hp, rfl⟩)]
    exact ⟨fun hk => ⟨hp, hk⟩, And.right⟩
  · rw [bind_of_error (by rw [require_apply, if_neg hp])]
    exact ⟨nofun, fun h => absurd h.1 hp⟩

variable {step : α → EStateM ε σ Unit} {a : α} {as : List α} {u : Unit}

/-- No steps change nothing. -/
theorem forM_nil_eq_ok_iff : [].forM step s = .ok u s' ↔ s' = s :=
  ⟨fun h => by cases h; rfl, fun h => by rw [h]; rfl⟩

/-- A list of steps succeeds if the first does and then the rest. -/
theorem forM_cons_eq_ok_iff :
    (a :: as).forM step s = .ok u s' ↔
      ∃ s₁, step a s = .ok () s₁ ∧ as.forM step s₁ = .ok u s' := by
  have hcons : (a :: as).forM step = (step a >>= fun _ => as.forM step) := rfl
  rw [hcons, bind_eq_ok_iff]
  exact ⟨fun ⟨_, s₁, ha, h⟩ => ⟨s₁, ha, h⟩, fun ⟨s₁, ha, h⟩ => ⟨(), s₁, ha, h⟩⟩

/-- A list of steps succeeds if the last does after the others. -/
theorem forM_concat_eq_ok_iff :
    (as ++ [a]).forM step s = .ok u s' ↔
      ∃ s₁, as.forM step s = .ok () s₁ ∧ step a s₁ = .ok u s' := by
  induction as generalizing s with
  | nil =>
    simp only [List.nil_append, forM_cons_eq_ok_iff, forM_nil_eq_ok_iff, exists_eq_right',
      exists_eq_left]
  | cons b as ih =>
    simp only [List.cons_append, forM_cons_eq_ok_iff, ih]
    constructor
    · rintro ⟨s₁, hb, s₂, h, ha⟩
      exact ⟨s₂, ⟨s₁, hb, h⟩, ha⟩
    · rintro ⟨s₂, ⟨s₁, hb, h⟩, ha⟩
      exact ⟨s₁, hb, s₂, h, ha⟩

end

/-! ## Steps that are refused -/

section

variable {ε σ α β : Type} {s s' : σ} {e : ε}

/-- A sequence is refused in its first part or, after that has succeeded, in its second. -/
theorem bind_eq_error_iff {x : EStateM ε σ α} {f : α → EStateM ε σ β} :
    (x >>= f) s = .error e s' ↔
      x s = .error e s' ∨ ∃ a s₁, x s = .ok a s₁ ∧ f a s₁ = .error e s' := by
  cases h : x s with
  | ok a s₁ =>
    rw [bind_of_ok h]
    refine ⟨fun hf => .inr ⟨a, s₁, rfl, hf⟩, ?_⟩
    rintro (hx | ⟨_, _, ha, hf⟩)
    · cases hx
    · cases ha
      exact hf
  | error e s₁ => simp [bind_of_error h]

/-- In `Except`, a sequence fails in its first part or, after that has succeeded, in its second. -/
theorem except_bind_eq_error_iff {x : Except ε α} {f : α → Except ε β} :
    (x >>= f) = .error e ↔ x = .error e ∨ ∃ a, x = .ok a ∧ f a = .error e := by
  cases x with
  | ok a => simp [bind, Except.bind]
  | error e => simp [bind, Except.bind]

variable {f : α → EStateM ε σ β} {k : Unit → EStateM ε σ β}

/-- A check that fails leaves the state as it is. -/
theorem lift_bind_eq_error_iff {x : Except ε α} :
    ((liftM x : EStateM ε σ α) >>= f) s = .error e s' ↔
      (x = .error e ∧ s' = s) ∨ ∃ a, x = .ok a ∧ f a s = .error e s' := by
  cases x with
  | ok a => simp [bind_of_ok (lift_ok (s := s) a)]
  | error e => simp [bind_of_error (lift_error (s := s) e), eq_comm]

/-- A value that is missing leaves the state as it is. -/
theorem orFault_bind_eq_error_iff {o : Option α} {fault : ε} :
    ((orFault o fault : EStateM ε σ α) >>= f) s = .error e s' ↔
      (o = none ∧ e = fault ∧ s' = s) ∨ ∃ a, o = some a ∧ f a s = .error e s' := by
  cases o with
  | none => simp [bind_of_error (orFault_none (s := s) fault), eq_comm]
  | some a => simp [bind_of_ok (orFault_some (s := s) a fault)]

/-- A condition that does not hold leaves the state as it is. -/
theorem require_bind_eq_error_iff {p : Prop} [Decidable p] {fault : ε} :
    ((require p fault : EStateM ε σ Unit) >>= k) s = .error e s' ↔
      (¬ p ∧ e = fault ∧ s' = s) ∨ (p ∧ k () s = .error e s') := by
  by_cases hp : p
  · rw [bind_of_ok (by rw [require_apply, if_pos hp])]
    simp [hp]
  · rw [bind_of_error (by rw [require_apply, if_neg hp])]
    simp [hp, eq_comm]

/-- A condition is refused if it does not hold, and the state stays. -/
theorem require_eq_error_iff {p : Prop} [Decidable p] {fault : ε} :
    (require p fault : EStateM ε σ Unit) s = .error e s' ↔ ¬ p ∧ e = fault ∧ s' = s := by
  by_cases hp : p
  · simp [require_apply, hp]
  · simp [require_apply, hp, eq_comm]

/-- A list of steps is refused at the first or, after that has succeeded, at one of the rest. -/
theorem forM_cons_eq_error_iff {step : α → EStateM ε σ Unit} {a : α} {as : List α} :
    (a :: as).forM step s = .error e s' ↔
      step a s = .error e s' ∨ ∃ s₁, step a s = .ok () s₁ ∧ as.forM step s₁ = .error e s' := by
  have hcons : (a :: as).forM step = (step a >>= fun _ => as.forM step) := rfl
  rw [hcons, bind_eq_error_iff]
  exact or_congr_right ⟨fun ⟨_, s₁, ha, h⟩ => ⟨s₁, ha, h⟩, fun ⟨s₁, ha, h⟩ => ⟨(), s₁, ha, h⟩⟩

/-- A list of steps is refused at one of them, after those in front of it have succeeded. -/
theorem forM_eq_error_iff {step : α → EStateM ε σ Unit} {as : List α} :
    as.forM step s = .error e s' ↔
      ∃ before a after s₁, as = before ++ a :: after ∧ before.forM step s = .ok () s₁ ∧
        step a s₁ = .error e s' := by
  induction as generalizing s with
  | nil =>
    refine iff_of_false (fun h => by cases h) ?_
    rintro ⟨before, a, after, _, heq, -⟩
    simp at heq
  | cons b as ih =>
    simp only [forM_cons_eq_error_iff, ih]
    constructor
    · rintro (hb | ⟨s₁, hb, before, a, after, s₂, rfl, hbefore, ha⟩)
      · exact ⟨[], b, as, s, rfl, rfl, hb⟩
      · exact ⟨b :: before, a, after, s₂, rfl, forM_cons_eq_ok_iff.2 ⟨s₁, hb, hbefore⟩, ha⟩
    · rintro ⟨before, a, after, s₂, heq, hbefore, ha⟩
      rcases List.cons_eq_append_iff.1 heq with ⟨rfl, heq⟩ | ⟨before, rfl, rfl⟩
      · cases heq
        cases hbefore
        exact .inl ha
      · obtain ⟨s₁, hb, hbefore⟩ := forM_cons_eq_ok_iff.1 hbefore
        exact .inr ⟨s₁, hb, before, a, after, s₂, rfl, hbefore, ha⟩

end

/-! ## Graphs that grow -/

namespace Graph

variable {L : Type} {g g' : Graph L} {b c : BlockId}

/-- The graph with one more open block, at the index `g.size`. -/
def alloc (g : Graph L) (name : String) : Graph L := (g.addBlock name).2

/-- The graph in which a block has the given terminator, whatever it had before. -/
def close (g : Graph L) (b : BlockId) (t : Terminator) : Graph L :=
  { g with blocks := g.blocks.modify b fun block => { block with terminator := some t } }

/-- The graph with the two blocks of a `discard` and what is put into the first of them. -/
def pushDiscard (g : Graph L) (first : BlockId) : Graph L :=
  ((g.alloc "discard_fulfilled").alloc "discard_otherwise").push first .discard

/-- The graph with the two blocks of a `discard`, the first of which discards and leads to the
second. -/
def allocDiscardAs (g : Graph L) (first second : BlockId) : Graph L :=
  (g.pushDiscard first).close first (.jump second)

/-- The graph with the two blocks of a `discard`, both referred to by their indices. -/
abbrev allocDiscard (g : Graph L) : Graph L := g.allocDiscardAs g.size (g.size + 1)

/-- A block that is there and has no terminator. -/
def IsOpen (g : Graph L) (b : BlockId) : Prop := ∃ block, g.block? b = some block ∧ block.isOpen

/-- No terminator is in the way of closing a block. -/
def Closable (g : Graph L) (b : BlockId) : Prop := ∀ block, g.block? b = some block → block.isOpen

@[simp] theorem size_alloc (name : String) : (g.alloc name).size = g.size + 1 :=
  size_addBlock g name

@[simp] theorem size_close (t : Terminator) : (g.close b t).size = g.size := by
  simp [close, size]

@[simp] theorem size_pushDiscard : (g.pushDiscard b).size = g.size + 2 := by
  simp [pushDiscard]

@[simp] theorem size_allocDiscardAs : (g.allocDiscardAs b c).size = g.size + 2 := by
  simp [allocDiscardAs]

@[simp] theorem entry_alloc (name : String) : (g.alloc name).entry = g.entry := rfl

@[simp] theorem exit_alloc (name : String) : (g.alloc name).exit = g.exit := rfl

@[simp] theorem entry_close (t : Terminator) : (g.close b t).entry = g.entry := rfl

@[simp] theorem exit_close (t : Terminator) : (g.close b t).exit = g.exit := rfl

@[simp] theorem entry_push (item : BlockItem L) : (g.push b item).entry = g.entry := rfl

@[simp] theorem exit_push (item : BlockItem L) : (g.push b item).exit = g.exit := rfl

@[simp] theorem entry_allocDiscardAs : (g.allocDiscardAs b c).entry = g.entry := rfl

@[simp] theorem exit_allocDiscardAs : (g.allocDiscardAs b c).exit = g.exit := rfl

/-- A new block is the last one, and the others stay. -/
theorem block?_alloc (name : String) (b : BlockId) :
    (g.alloc name).block? b = if b = g.size then some { name } else g.block? b :=
  block?_addBlock g name b

/-- A terminator changes one block only. -/
theorem block?_close (t : Terminator) :
    (g.close b t).block? c =
      if b = c then (g.block? c).map fun block => { block with terminator := some t }
      else g.block? c := by
  simp [close, block?, Array.getElem?_modify]

/-- The blocks of a graph are those below its size. -/
theorem block?_eq_none_iff : g.block? b = none ↔ g.size ≤ b := by
  simp [block?, size]

/-- A block of a graph is below its size. -/
theorem lt_size_of_block? {block : Block L} (h : g.block? b = some block) : b < g.size := by
  refine Nat.lt_of_not_le fun hb => ?_
  rw [block?_eq_none_iff.2 hb] at h
  cases h

/-- An open block is below the size of its graph. -/
theorem IsOpen.lt_size (h : g.IsOpen b) : b < g.size := by
  obtain ⟨block, hb, -⟩ := h
  exact lt_size_of_block? hb

/-- An open block can be closed. -/
theorem IsOpen.closable (h : g.IsOpen b) : g.Closable b := by
  obtain ⟨block, hb, ho⟩ := h
  intro block' hb'
  cases hb.symm.trans hb'
  exact ho

/-- Besides a new block, the same blocks are open. -/
theorem isOpen_alloc {name : String} :
    (g.alloc name).IsOpen b ↔ b = g.size ∨ g.IsOpen b := by
  unfold IsOpen
  rw [block?_alloc]
  by_cases hb : b = g.size
  · simp [hb, Block.isOpen]
  · simp [hb]

/-- A terminator closes its block and no other. -/
theorem isOpen_close {t : Terminator} : (g.close b t).IsOpen c ↔ c ≠ b ∧ g.IsOpen c := by
  unfold IsOpen
  rw [block?_close]
  by_cases hb : b = c
  · simp [hb, Block.isOpen]
  · simp [hb, Ne.symm hb]

/-- Items open and close nothing. -/
theorem isOpen_push {item : BlockItem L} : (g.push b item).IsOpen c ↔ g.IsOpen c := by
  unfold IsOpen
  rw [block?_push]
  by_cases hb : b = c
  · cases g.block? c <;> simp [hb, Block.isOpen]
  · simp [hb]

/-- Until one of them is closed, the two blocks of a `discard` are open. -/
theorem isOpen_pushDiscard :
    (g.pushDiscard c).IsOpen b ↔ b = g.size + 1 ∨ b = g.size ∨ g.IsOpen b := by
  simp only [pushDiscard, isOpen_push, isOpen_alloc, size_alloc]

/-- The first block of a `discard` can be closed if it is new. -/
theorem closable_pushDiscard : (g.pushDiscard g.size).Closable g.size :=
  (isOpen_pushDiscard.2 (.inr (.inl rfl))).closable

/-- Of the two blocks of a `discard` the second is open, if the first is referred to by its
index. -/
theorem isOpen_allocDiscard :
    (g.allocDiscardAs g.size c).IsOpen b ↔ b = g.size + 1 ∨ g.IsOpen b := by
  simp only [allocDiscardAs, isOpen_close, isOpen_pushDiscard]
  constructor
  · rintro ⟨hb, rfl | rfl | ho⟩
    · exact .inl rfl
    · exact absurd rfl hb
    · exact .inr ho
  · rintro (rfl | ho)
    · exact ⟨Nat.succ_ne_self _, .inl rfl⟩
    · exact ⟨Nat.ne_of_lt ho.lt_size, .inr (.inr ho)⟩

/-- A new block is in the way of nothing. -/
@[simp] theorem closable_alloc {name : String} : (g.alloc name).Closable b ↔ g.Closable b := by
  unfold Closable
  rw [block?_alloc]
  by_cases hb : b = g.size
  · simp [hb, Block.isOpen, block?_eq_none_iff.2 (Nat.le_refl g.size)]
  · simp [hb]

/-- A block gets a terminator if none is in the way. -/
theorem terminate_eq_ok_iff {t : Terminator} :
    g.terminate b t = .ok g' ↔ g.Closable b ∧ g' = g.close b t := by
  have hany : (g.block? b).any (·.terminator.isSome) = false ↔ g.Closable b := by
    unfold Closable Block.isOpen
    cases g.block? b <;> simp
  unfold terminate
  split
  · next h =>
    rw [← hany, h]
    simp
  · next h =>
    rw [← hany]
    exact ⟨fun hg => ⟨Bool.eq_false_iff.2 h, (Except.ok.inj hg).symm⟩, fun hg => hg.2 ▸ rfl⟩

end Graph

/-! ## Ways to leave the code at hand -/

/-- Where a jump out of the code at hand leads. -/
inductive Leave where
  /-- Behind the innermost loop or switch. -/
  | breakOut
  /-- To the entrance of the innermost loop. -/
  | continueLoop
  /-- Out of the function. -/
  | ret
  deriving DecidableEq

namespace Leave

/-- The opcode that leaves in any case. -/
def op : Leave → FlowOp
  | .breakOut => .breakOut
  | .continueLoop => .continueLoop
  | .ret => .ret

/-- The opcode that leaves if its condition holds. -/
def opIf : Leave → FlowOp
  | .breakOut => .breakIf
  | .continueLoop => .continueIf
  | .ret => .retIf

/-- The name of the block behind the opcode that leaves in any case. -/
def name : Leave → String
  | .breakOut => "after_break"
  | .continueLoop => "after_continue"
  | .ret => "after_ret"

/-- The name of the block behind the opcode that leaves if its condition holds. -/
def nameIf : Leave → String
  | .breakOut => "after_breakc"
  | .continueLoop => "after_continuec"
  | .ret => "after_retc"

end Leave

namespace Builder

variable {L : Type} {stage : Stage} {b b' : Builder L} {i : Instruction} {u : Unit}

/-- The block to which a jump out of the code at hand leads, if there is one. -/
def target? (b : Builder L) : Leave → Option BlockId
  | .breakOut => b.breakTarget?
  | .continueLoop => b.continueTarget?
  | .ret => some b.graph.exit

/-- What a control-flow instruction leaves behind when it is not refused, where others refer to the
blocks that it allocates by the given ids. -/
inductive StepWith (first second : BlockId) (stage : Stage) (b : Builder L) (i : Instruction) :
    Builder L → Prop where
  | beginIf {c : Condition} (hop : i.opcode = .flow .beginIf) (hc : condition i = .ok c)
      (hd : b.depth < b.maxNesting) (ho : b.graph.Closable b.current) :
      StepWith first second stage b i { b with
        graph := ((b.graph.alloc "if_true").alloc "if_alternative").close b.current
          (.branch c first second)
        current := first
        scopes := .branch second none :: b.scopes }
  | elseArm {alternative : BlockId} {rest : List Scope} (hop : i.opcode = .flow .elseArm)
      (hs : b.scopes = .branch alternative none :: rest) (ho : b.graph.Closable b.current) :
      StepWith first second stage b i { b with
        graph := (b.graph.alloc "endif").close b.current (.jump first)
        current := alternative
        scopes := .branch alternative (some first) :: rest }
  | endIf {alternative : BlockId} {merge : Option BlockId} {rest : List Scope}
      (hop : i.opcode = .flow .endIf) (hs : b.scopes = .branch alternative merge :: rest)
      (ho : b.graph.Closable b.current) :
      StepWith first second stage b i { b with
        graph := b.graph.close b.current (.jump (merge.getD alternative))
        current := merge.getD alternative
        scopes := rest }
  | beginLoop (hop : i.opcode = .flow .beginLoop) (hd : b.depth < b.maxNesting)
      (ho : b.graph.Closable b.current) :
      StepWith first second stage b i { b with
        graph := ((b.graph.alloc "loop_entrance").alloc "endloop").close b.current
          (.jump first)
        current := first
        scopes := .loop first second :: b.scopes }
  | endLoop {entrance exit : BlockId} {rest : List Scope} (hop : i.opcode = .flow .endLoop)
      (hs : b.scopes = .loop entrance exit :: rest) (ho : b.graph.Closable b.current) :
      StepWith first second stage b i { b with
        graph := b.graph.close b.current (.jump entrance)
        current := exit
        scopes := rest }
  | beginSwitch {selector : Operand} (hop : i.opcode = .flow .beginSwitch)
      (hsel : i.operand? 0 = some selector) (hd : b.depth < b.maxNesting) :
      StepWith first second stage b i { b with
        graph := (b.graph.alloc "endswitch").alloc "switch_empty"
        current := second
        scopes := .switch ⟨b.current, first, selector, ∅, none⟩ :: b.scopes }
  | caseLabel {value : UInt32} {s : SwitchScope} {rest : List Scope}
      (hop : i.opcode = .flow .caseLabel) (hv : caseValue i = .ok value)
      (hs : b.scopes = .switch s :: rest) (hnew : value ∉ s.cases)
      (ho : b.graph.Closable b.current) :
      StepWith first second stage b i { b with
        graph := (b.graph.alloc "switch_case").close b.current (.jump first)
        current := first
        scopes := .switch { s with cases := s.cases.insert value first } :: rest }
  | defaultLabel {s : SwitchScope} {rest : List Scope} (hop : i.opcode = .flow .defaultLabel)
      (hs : b.scopes = .switch s :: rest) (hnew : s.fallback = none)
      (ho : b.graph.Closable b.current) :
      StepWith first second stage b i { b with
        graph := (b.graph.alloc "switch_default").close b.current (.jump first)
        current := first
        scopes := .switch { s with fallback := some first } :: rest }
  | endSwitch {s : SwitchScope} {rest : List Scope} (hop : i.opcode = .flow .endSwitch)
      (hs : b.scopes = .switch s :: rest) (ho : b.graph.Closable b.current)
      (hdo : (b.graph.close b.current (.jump s.exit)).Closable s.dispatch) :
      StepWith first second stage b i { b with
        graph := (b.graph.close b.current (.jump s.exit)).close s.dispatch
          (.switch s.selector s.cases s.default)
        current := s.exit
        scopes := rest }
  | leave (way : Leave) {target : BlockId} (hop : i.opcode = .flow way.op)
      (ht : b.target? way = some target) (hin : way = .ret → b.scopes ≠ [])
      (ho : b.graph.Closable b.current) :
      StepWith first second stage b i { b with
        graph := (b.graph.close b.current (.jump target)).alloc way.name
        current := first }
  | leaveIf (way : Leave) {target : BlockId} {c : Condition} (hop : i.opcode = .flow way.opIf)
      (ht : b.target? way = some target) (hc : condition i = .ok c)
      (ho : b.graph.Closable b.current) :
      StepWith first second stage b i { b with
        graph := (b.graph.alloc way.nameIf).close b.current (.branch c target first)
        current := first }
  | ret (hop : i.opcode = .flow .ret) (hs : b.scopes = []) (ho : b.graph.Closable b.current) :
      StepWith first second stage b i { b with
        graph := b.graph.close b.current (.jump b.graph.exit)
        returned := true }
  | discard {c : Condition} (hop : i.opcode = .flow .discard) (hst : stage = .pixel)
      (hc : condition i = .ok c) (hfirst : (b.graph.pushDiscard first).Closable first)
      (ho : (b.graph.allocDiscardAs first second).Closable b.current) :
      StepWith first second stage b i { b with
        graph := (b.graph.allocDiscardAs first second).close b.current (.branch c first second)
        current := second }

/-- What a control-flow instruction leaves behind when it is not refused and others refer to the
blocks that it allocates by their indices. -/
abbrev Step (stage : Stage) (b : Builder L) (i : Instruction) (b' : Builder L) : Prop :=
  StepWith b.graph.size (b.graph.size + 1) stage b i b'

/-- What a control-flow instruction leaves behind when it is not refused: others refer to the blocks
that it allocates by what is kept of their indices. -/
abbrev Executes (stage : Stage) (b : Builder L) (i : Instruction) (b' : Builder L) : Prop :=
  StepWith (.ofIndex b.graph.size) (.ofIndex (b.graph.size + 1)) stage b i b'

/-! ## Reading operands -/

/-- A condition is read off the first operand. -/
theorem condition_eq_ok_iff {c : Condition} :
    condition i = .ok c ↔ ∃ operand, i.operand? 0 = some operand ∧ ⟨operand, i.test⟩ = c := by
  unfold condition
  cases i.operand? 0 with
  | none => simp [orFault, bind, Except.bind, throw, throwThe, MonadExceptOf.throw]
  | some operand => simp [orFault, bind, Except.bind, pure, Except.pure]

/-- The value of a `case` label is read off the first operand, if it is a single immediate. -/
theorem caseValue_eq_ok_iff {value : UInt32} :
    caseValue i = .ok value ↔ ∃ operand, i.operand? 0 = some operand ∧
      (operand.kind = .immediate32 ∧ operand.components = 1) ∧ operand.immediate.x = value := by
  unfold caseValue
  cases i.operand? 0 with
  | none => simp [orFault, bind, Except.bind, throw, throwThe, MonadExceptOf.throw]
  | some operand =>
    simp only [orFault, pure_bind, except_bind_eq_ok_iff, except_require_eq_ok_iff, exists_const,
      Option.some.injEq, exists_eq_left']
    exact and_congr_right fun _ => ⟨Except.ok.inj, congrArg Except.ok⟩

/-! ## The parts of a step -/

section

variable {β : Type} {r : β} {k : Unit → Build L β}

/-- A new block has an id, and the graph has one block more. -/
theorem newBlock_bind {name : String} {f : BlockId → Build L β} :
    (newBlock name >>= f) b =
      f (.ofIndex b.graph.size) { b with graph := b.graph.alloc name } :=
  rfl

/-- What follows finds the other scope in place of the innermost one. -/
theorem replaceTop_bind {scope : Scope} :
    (replaceTop scope >>= k) b = k () { b with scopes := scope :: b.scopes.tail } :=
  rfl

/-- What follows finds the innermost scope gone. -/
theorem leave_bind : (Builder.leave >>= k) b = k () { b with scopes := b.scopes.tail } :=
  rfl

/-- A scope is opened within the limit. -/
theorem enter_bind_eq_ok_iff {scope : Scope} :
    (enter scope >>= k) b = .ok r b' ↔
      b.depth < b.maxNesting ∧ k () { b with scopes := scope :: b.scopes } = .ok r b' := by
  by_cases hd : b.depth < b.maxNesting
  · rw [bind_of_ok (by rw [enter_apply, if_pos hd])]
    exact ⟨fun hk => ⟨hd, hk⟩, And.right⟩
  · rw [bind_of_error (by rw [enter_apply, if_neg hd])]
    exact ⟨nofun, fun h => absurd h.1 hd⟩

/-- A block gets a terminator if none is in the way. -/
theorem terminate_bind_eq_ok_iff {block : BlockId} {t : Terminator} :
    (terminate block t >>= k) b = .ok r b' ↔
      b.graph.Closable block ∧ k () { b with graph := b.graph.close block t } = .ok r b' := by
  cases h : b.graph.terminate block t with
  | ok g =>
    obtain ⟨ho, rfl⟩ := Graph.terminate_eq_ok_iff.1 h
    rw [bind_of_ok (by rw [terminate_apply, h])]
    exact ⟨fun hk => ⟨ho, hk⟩, And.right⟩
  | error e =>
    rw [bind_of_error (by rw [terminate_apply, h])]
    refine ⟨nofun, fun ⟨ho, _⟩ => ?_⟩
    rw [Graph.terminate_eq_ok_iff.2 ⟨ho, rfl⟩] at h
    cases h

/-- The current block is closed if nothing is in the way. -/
theorem close_bind_eq_ok_iff {t : Terminator} :
    (close t >>= k) b = .ok r b' ↔
      b.graph.Closable b.current ∧
        k () { b with graph := b.graph.close b.current t } = .ok r b' :=
  terminate_bind_eq_ok_iff

/-- The current block is closed with a jump if nothing is in the way. -/
theorem jump_bind_eq_ok_iff {target : BlockId} :
    (jump target >>= k) b = .ok r b' ↔
      b.graph.Closable b.current ∧
        k () { b with graph := b.graph.close b.current (.jump target) } = .ok r b' :=
  terminate_bind_eq_ok_iff

end

/-! ## Each step -/

/-- An `if` needs a condition and a scope within the limit. Its arms are the two new blocks. -/
theorem beginIf_eq_ok_iff :
    beginIf i b = .ok u b' ↔ ∃ c, condition i = .ok c ∧ b.depth < b.maxNesting ∧
      b.graph.Closable b.current ∧ { b with
        graph := ((b.graph.alloc "if_true").alloc "if_alternative").close b.current
          (.branch c (.ofIndex b.graph.size) (.ofIndex (b.graph.size + 1)))
        current := .ofIndex b.graph.size
        scopes := .branch (.ofIndex (b.graph.size + 1)) none :: b.scopes } = b' := by
  simp [beginIf, lift_bind_eq_ok_iff, newBlock_bind, enter_bind_eq_ok_iff, close_bind_eq_ok_iff,
    depth]

/-- An `else` needs an `if` without one. The block behind the `if` is new. -/
theorem elseArm_eq_ok_iff :
    elseArm b = .ok u b' ↔ ∃ alternative rest, b.scopes = .branch alternative none :: rest ∧
      b.graph.Closable b.current ∧ { b with
        graph := (b.graph.alloc "endif").close b.current (.jump (.ofIndex b.graph.size))
        current := alternative
        scopes := .branch alternative (some (.ofIndex b.graph.size)) :: rest } = b' := by
  unfold elseArm
  rw [get_bind]
  rcases h : b.scopes with _ | ⟨⟨alternative, _ | merge⟩ | ⟨entrance, exit⟩ | s, rest⟩ <;>
    simp [throw_ne_ok, newBlock_bind, jump_bind_eq_ok_iff, replaceTop_bind, h, and_assoc]

/-- An `endif` needs an `if`, and leads to the block behind it. -/
theorem endIf_eq_ok_iff :
    endIf b = .ok u b' ↔ ∃ alternative merge rest, b.scopes = .branch alternative merge :: rest ∧
      b.graph.Closable b.current ∧ { b with
        graph := b.graph.close b.current (.jump (merge.getD alternative))
        current := merge.getD alternative
        scopes := rest } = b' := by
  unfold endIf
  rw [get_bind]
  rcases h : b.scopes with _ | ⟨⟨alternative, merge⟩ | ⟨entrance, exit⟩ | s, rest⟩ <;>
    simp [throw_ne_ok, jump_bind_eq_ok_iff, leave_bind, h, and_assoc]

/-- A loop needs a scope within the limit. Its entrance and its exit are the two new blocks. -/
theorem beginLoop_eq_ok_iff :
    beginLoop b = .ok u b' ↔ b.depth < b.maxNesting ∧ b.graph.Closable b.current ∧ { b with
        graph := ((b.graph.alloc "loop_entrance").alloc "endloop").close b.current
          (.jump (.ofIndex b.graph.size))
        current := .ofIndex b.graph.size
        scopes :=
          .loop (.ofIndex b.graph.size) (.ofIndex (b.graph.size + 1)) :: b.scopes } = b' := by
  simp [beginLoop, newBlock_bind, enter_bind_eq_ok_iff, jump_bind_eq_ok_iff, depth]

/-- An `endloop` needs a loop, and leads back to its entrance. -/
theorem endLoop_eq_ok_iff :
    endLoop b = .ok u b' ↔ ∃ entrance exit rest, b.scopes = .loop entrance exit :: rest ∧
      b.graph.Closable b.current ∧ { b with
        graph := b.graph.close b.current (.jump entrance)
        current := exit
        scopes := rest } = b' := by
  unfold endLoop
  rw [get_bind]
  rcases h : b.scopes with _ | ⟨⟨alternative, merge⟩ | ⟨entrance, exit⟩ | s, rest⟩ <;>
    simp [throw_ne_ok, jump_bind_eq_ok_iff, leave_bind, h, and_assoc]

/-- A switch needs an operand and a scope within the limit. It closes no block. -/
theorem beginSwitch_eq_ok_iff :
    beginSwitch i b = .ok u b' ↔ ∃ selector, i.operand? 0 = some selector ∧
      b.depth < b.maxNesting ∧ { b with
        graph := (b.graph.alloc "endswitch").alloc "switch_empty"
        current := .ofIndex (b.graph.size + 1)
        scopes := .switch ⟨b.current, .ofIndex b.graph.size, selector, ∅, none⟩ ::
          b.scopes } = b' := by
  simp [beginSwitch, orFault_bind_eq_ok_iff, newBlock_bind, get_bind, enter_bind_eq_ok_iff, depth]

/-- A `case` needs a switch and a value that this does not have yet. -/
theorem caseLabel_eq_ok_iff :
    caseLabel i b = .ok u b' ↔ ∃ value s rest, caseValue i = .ok value ∧
      b.scopes = .switch s :: rest ∧ value ∉ s.cases ∧ b.graph.Closable b.current ∧ { b with
        graph := (b.graph.alloc "switch_case").close b.current (.jump (.ofIndex b.graph.size))
        current := .ofIndex b.graph.size
        scopes := .switch { s with cases := s.cases.insert value (.ofIndex b.graph.size) } ::
          rest } = b' := by
  unfold caseLabel
  rw [lift_bind_eq_ok_iff]
  refine exists_congr fun value => ?_
  rw [get_bind]
  rcases h : b.scopes with _ | ⟨⟨alternative, merge⟩ | ⟨entrance, exit⟩ | s, rest⟩ <;>
    simp [throw_ne_ok, newBlock_bind, replaceTop_bind, require_bind_eq_ok_iff, jump_bind_eq_ok_iff,
      h, and_assoc]

/-- A `default` needs a switch without one. -/
theorem defaultLabel_eq_ok_iff :
    defaultLabel b = .ok u b' ↔ ∃ s rest, b.scopes = .switch s :: rest ∧ s.fallback = none ∧
      b.graph.Closable b.current ∧ { b with
        graph := (b.graph.alloc "switch_default").close b.current (.jump (.ofIndex b.graph.size))
        current := .ofIndex b.graph.size
        scopes := .switch { s with fallback := some (.ofIndex b.graph.size) } :: rest } = b' := by
  unfold defaultLabel
  rw [get_bind]
  rcases h : b.scopes with _ | ⟨⟨alternative, merge⟩ | ⟨entrance, exit⟩ | s, rest⟩ <;>
    simp [throw_ne_ok, require_bind_eq_ok_iff, newBlock_bind, replaceTop_bind, jump_bind_eq_ok_iff,
      h, and_assoc]

/-- An `endswitch` needs a switch, and closes the current block and the one that dispatches. -/
theorem endSwitch_eq_ok_iff :
    endSwitch b = .ok u b' ↔ ∃ s rest, b.scopes = .switch s :: rest ∧
      b.graph.Closable b.current ∧ (b.graph.close b.current (.jump s.exit)).Closable s.dispatch ∧
      { b with
        graph := (b.graph.close b.current (.jump s.exit)).close s.dispatch
          (.switch s.selector s.cases s.default)
        current := s.exit
        scopes := rest } = b' := by
  unfold endSwitch
  rw [get_bind, leave_bind]
  rcases h : b.scopes with _ | ⟨⟨alternative, merge⟩ | ⟨entrance, exit⟩ | s, rest⟩ <;>
    simp [throw_ne_ok, jump_bind_eq_ok_iff, terminate_bind_eq_ok_iff, and_assoc]

/-- A jump out closes the current block and goes on in a new one. -/
theorem jumpOut_eq_ok_iff {target : BlockId} {name : String} :
    jumpOut target name b = .ok u b' ↔ b.graph.Closable b.current ∧ { b with
        graph := (b.graph.close b.current (.jump target)).alloc name
        current := .ofIndex b.graph.size } = b' := by
  simp [jumpOut, jump_bind_eq_ok_iff, newBlock_bind]

/-- A conditional jump out needs a condition, and goes on in the new block if that fails. -/
theorem branchOut_eq_ok_iff {target : BlockId} {name : String} :
    branchOut i target name b = .ok u b' ↔ ∃ c, condition i = .ok c ∧
      b.graph.Closable b.current ∧ { b with
        graph := (b.graph.alloc name).close b.current (.branch c target (.ofIndex b.graph.size))
        current := .ofIndex b.graph.size } = b' := by
  simp [branchOut, lift_bind_eq_ok_iff, newBlock_bind, close_bind_eq_ok_iff]

/-- A return leads to the exit. It ends the function if no scope is open. -/
theorem ret_eq_ok_iff :
    ret b = .ok u b' ↔ b.graph.Closable b.current ∧
      if b.scopes = [] then { b with
        graph := b.graph.close b.current (.jump b.graph.exit)
        returned := true } = b'
      else { b with
        graph := (b.graph.close b.current (.jump b.graph.exit)).alloc "after_ret"
        current := .ofIndex b.graph.size } = b' := by
  unfold ret
  rw [get_bind, jump_bind_eq_ok_iff]
  refine and_congr_right fun _ => ?_
  by_cases h : b.scopes = []
  · simp only [h, List.isEmpty_nil, if_true]
    exact ⟨fun hret => by cases hret; rfl, fun heq => by rw [← heq]; rfl⟩
  · simp [h, newBlock_bind]

/-- A `discard` needs the pixel stage and a condition. The first of its two new blocks is closed at
once, and then the current one. -/
theorem discard_eq_ok_iff :
    Builder.discard stage i b = .ok u b' ↔ stage = .pixel ∧ ∃ c, condition i = .ok c ∧
      (b.graph.pushDiscard (.ofIndex b.graph.size)).Closable (.ofIndex b.graph.size) ∧
      (b.graph.allocDiscardAs (.ofIndex b.graph.size) (.ofIndex (b.graph.size + 1))).Closable
        b.current ∧ { b with
          graph := (b.graph.allocDiscardAs (.ofIndex b.graph.size)
            (.ofIndex (b.graph.size + 1))).close b.current
              (.branch c (.ofIndex b.graph.size) (.ofIndex (b.graph.size + 1)))
          current := .ofIndex (b.graph.size + 1) } = b' := by
  simp [Builder.discard, require_bind_eq_ok_iff, lift_bind_eq_ok_iff, newBlock_bind, modify_bind,
    terminate_bind_eq_ok_iff, close_bind_eq_ok_iff, Graph.allocDiscardAs, Graph.pushDiscard]

/-- An instruction that is not refused makes one of the listed steps. -/
theorem executes_of_control (h : control stage i b = .ok u b') : Executes stage b i b' := by
  rcases hop : i.opcode with op | _ | _ | _ | _ | _ | _ | _ | _ | _ | _ | _
  case flow =>
    cases op <;> simp only [control, hop] at h
    case beginIf =>
      obtain ⟨c, hc, hd, ho, rfl⟩ := beginIf_eq_ok_iff.1 h
      exact .beginIf hop hc hd ho
    case elseArm =>
      obtain ⟨alternative, rest, hs, ho, rfl⟩ := elseArm_eq_ok_iff.1 h
      exact .elseArm hop hs ho
    case endIf =>
      obtain ⟨alternative, merge, rest, hs, ho, rfl⟩ := endIf_eq_ok_iff.1 h
      exact .endIf hop hs ho
    case beginLoop =>
      obtain ⟨hd, ho, rfl⟩ := beginLoop_eq_ok_iff.1 h
      exact .beginLoop hop hd ho
    case endLoop =>
      obtain ⟨entrance, exit, rest, hs, ho, rfl⟩ := endLoop_eq_ok_iff.1 h
      exact .endLoop hop hs ho
    case beginSwitch =>
      obtain ⟨selector, hsel, hd, rfl⟩ := beginSwitch_eq_ok_iff.1 h
      exact .beginSwitch hop hsel hd
    case caseLabel =>
      obtain ⟨value, s, rest, hv, hs, hnew, ho, rfl⟩ := caseLabel_eq_ok_iff.1 h
      exact .caseLabel hop hv hs hnew ho
    case defaultLabel =>
      obtain ⟨s, rest, hs, hnew, ho, rfl⟩ := defaultLabel_eq_ok_iff.1 h
      exact .defaultLabel hop hs hnew ho
    case endSwitch =>
      obtain ⟨s, rest, hs, ho, hdo, rfl⟩ := endSwitch_eq_ok_iff.1 h
      exact .endSwitch hop hs ho hdo
    case breakOut =>
      rw [get_bind, orFault_bind_eq_ok_iff] at h
      obtain ⟨target, ht, h⟩ := h
      obtain ⟨ho, rfl⟩ := jumpOut_eq_ok_iff.1 h
      exact .leave .breakOut hop ht nofun ho
    case breakIf =>
      rw [get_bind, orFault_bind_eq_ok_iff] at h
      obtain ⟨target, ht, h⟩ := h
      obtain ⟨c, hc, ho, rfl⟩ := branchOut_eq_ok_iff.1 h
      exact .leaveIf .breakOut hop ht hc ho
    case continueLoop =>
      rw [get_bind, orFault_bind_eq_ok_iff] at h
      obtain ⟨target, ht, h⟩ := h
      obtain ⟨ho, rfl⟩ := jumpOut_eq_ok_iff.1 h
      exact .leave .continueLoop hop ht nofun ho
    case continueIf =>
      rw [get_bind, orFault_bind_eq_ok_iff] at h
      obtain ⟨target, ht, h⟩ := h
      obtain ⟨c, hc, ho, rfl⟩ := branchOut_eq_ok_iff.1 h
      exact .leaveIf .continueLoop hop ht hc ho
    case ret =>
      obtain ⟨ho, h⟩ := ret_eq_ok_iff.1 h
      split at h
      · next hs => exact h ▸ .ret hop hs ho
      · next hs => exact h ▸ .leave .ret hop rfl (fun _ => hs) ho
    case retIf =>
      rw [get_bind] at h
      obtain ⟨c, hc, ho, rfl⟩ := branchOut_eq_ok_iff.1 h
      exact .leaveIf .ret hop rfl hc ho
    case discard =>
      obtain ⟨hst, c, hc, hfirst, ho, rfl⟩ := discard_eq_ok_iff.1 h
      exact .discard hop hst hc hfirst ho
  all_goals simp [control, hop, throw_ne_ok] at h

/-- None of the listed steps is refused. -/
theorem Executes.control (h : Executes stage b i b') : control stage i b = .ok () b' := by
  cases h with
  | beginIf hop hc hd ho =>
    simp only [control, hop]
    exact beginIf_eq_ok_iff.2 ⟨_, hc, hd, ho, rfl⟩
  | elseArm hop hs ho =>
    simp only [control, hop]
    exact elseArm_eq_ok_iff.2 ⟨_, _, hs, ho, rfl⟩
  | endIf hop hs ho =>
    simp only [control, hop]
    exact endIf_eq_ok_iff.2 ⟨_, _, _, hs, ho, rfl⟩
  | beginLoop hop hd ho =>
    simp only [control, hop]
    exact beginLoop_eq_ok_iff.2 ⟨hd, ho, rfl⟩
  | endLoop hop hs ho =>
    simp only [control, hop]
    exact endLoop_eq_ok_iff.2 ⟨_, _, _, hs, ho, rfl⟩
  | beginSwitch hop hsel hd =>
    simp only [control, hop]
    exact beginSwitch_eq_ok_iff.2 ⟨_, hsel, hd, rfl⟩
  | caseLabel hop hv hs hnew ho =>
    simp only [control, hop]
    exact caseLabel_eq_ok_iff.2 ⟨_, _, _, hv, hs, hnew, ho, rfl⟩
  | defaultLabel hop hs hnew ho =>
    simp only [control, hop]
    exact defaultLabel_eq_ok_iff.2 ⟨_, _, hs, hnew, ho, rfl⟩
  | endSwitch hop hs ho hdo =>
    simp only [control, hop]
    exact endSwitch_eq_ok_iff.2 ⟨_, _, hs, ho, hdo, rfl⟩
  | leave way hop ht hin ho =>
    cases way with
    | breakOut | continueLoop =>
      simp only [control, hop, Leave.op, get_bind]
      exact orFault_bind_eq_ok_iff.2 ⟨_, ht, jumpOut_eq_ok_iff.2 ⟨ho, rfl⟩⟩
    | ret =>
      cases ht
      simp only [control, hop, Leave.op]
      refine ret_eq_ok_iff.2 ⟨ho, ?_⟩
      rw [if_neg (hin rfl)]
      rfl
  | leaveIf way hop ht hc ho =>
    cases way with
    | breakOut | continueLoop =>
      simp only [control, hop, Leave.opIf, get_bind]
      exact orFault_bind_eq_ok_iff.2 ⟨_, ht, branchOut_eq_ok_iff.2 ⟨_, hc, ho, rfl⟩⟩
    | ret =>
      cases ht
      simp only [control, hop, Leave.opIf, get_bind]
      exact branchOut_eq_ok_iff.2 ⟨_, hc, ho, rfl⟩
  | ret hop hs ho =>
    simp only [control, hop]
    refine ret_eq_ok_iff.2 ⟨ho, ?_⟩
    rw [if_pos hs]
  | discard hop hst hc hfirst ho =>
    simp only [control, hop]
    exact discard_eq_ok_iff.2 ⟨hst, _, hc, hfirst, ho, rfl⟩

/-- The listed steps are exactly the control-flow instructions that are not refused. -/
theorem control_eq_ok_iff : Builder.control stage i b = .ok u b' ↔ Executes stage b i b' :=
  ⟨executes_of_control, Executes.control⟩

/-! ## Ids -/

/-- A step adds at most two blocks. -/
theorem StepWith.size_le {first second : BlockId} (h : StepWith first second stage b i b') :
    b.graph.size ≤ b'.graph.size ∧ b'.graph.size ≤ b.graph.size + 2 := by
  cases h <;> simp <;> omega

/-- A step has one outcome: it is known from the opcode, and what else a step reads is the same in
both. -/
theorem StepWith.unique {first second : BlockId} {b₁ b₂ : Builder L}
    (h₁ : StepWith first second stage b i b₁) (h₂ : StepWith first second stage b i b₂) :
    b₁ = b₂ := by
  cases h₁ with
  | leave way =>
    cases way <;> cases h₂ with
    | leave way' => cases way' <;> simp_all [Leave.op, target?]
    | leaveIf way' => cases way' <;> simp_all [Leave.op, Leave.opIf]
    | _ => simp_all [Leave.op]
  | leaveIf way =>
    cases way <;> cases h₂ with
    | leave way' => cases way' <;> simp_all [Leave.op, Leave.opIf]
    | leaveIf way' => cases way' <;> simp_all [Leave.opIf, target?]
    | _ => simp_all [Leave.opIf]
  | _ =>
    cases h₂ with
    | leave way => cases way <;> simp_all [Leave.op]
    | leaveIf way => cases way <;> simp_all [Leave.opIf]
    | _ => simp_all

/-- An id matters only if there is a block for it. -/
theorem StepWith.congr {first second first' second' : BlockId}
    (h : StepWith first second stage b i b')
    (hfirst : b.graph.size < b'.graph.size → first = first')
    (hsecond : b.graph.size + 1 < b'.graph.size → second = second') :
    StepWith first' second' stage b i b' := by
  cases h with
  | beginIf hop hc hd ho =>
    cases hfirst (by simp only [Graph.size_close, Graph.size_alloc]; omega)
    cases hsecond (by simp)
    exact .beginIf hop hc hd ho
  | elseArm hop hs ho =>
    cases hfirst (by simp)
    exact .elseArm hop hs ho
  | endIf hop hs ho => exact .endIf hop hs ho
  | beginLoop hop hd ho =>
    cases hfirst (by simp only [Graph.size_close, Graph.size_alloc]; omega)
    cases hsecond (by simp)
    exact .beginLoop hop hd ho
  | endLoop hop hs ho => exact .endLoop hop hs ho
  | beginSwitch hop hsel hd =>
    cases hfirst (by simp only [Graph.size_alloc]; omega)
    cases hsecond (by simp)
    exact .beginSwitch hop hsel hd
  | caseLabel hop hv hs hnew ho =>
    cases hfirst (by simp)
    exact .caseLabel hop hv hs hnew ho
  | defaultLabel hop hs hnew ho =>
    cases hfirst (by simp)
    exact .defaultLabel hop hs hnew ho
  | endSwitch hop hs ho hdo => exact .endSwitch hop hs ho hdo
  | leave way hop ht hin ho =>
    cases hfirst (by simp)
    exact .leave way hop ht hin ho
  | leaveIf way hop ht hc ho =>
    cases hfirst (by simp)
    exact .leaveIf way hop ht hc ho
  | ret hop hs ho => exact .ret hop hs ho
  | discard hop hst hc hnew ho =>
    cases hfirst (by simp)
    cases hsecond (by simp)
    exact .discard hop hst hc hnew ho

/-- As long as the indices of all blocks have 32 bits, what an instruction allocates is new. -/
theorem executes_iff_step (hfit : b'.graph.size ≤ UInt32.size) :
    Executes stage b i b' ↔ Step stage b i b' := by
  have hfirst (hlt : b.graph.size < b'.graph.size) :
      BlockId.ofIndex b.graph.size = b.graph.size :=
    BlockId.ofIndex_of_lt (Nat.lt_of_lt_of_le hlt hfit)
  have hsecond (hlt : b.graph.size + 1 < b'.graph.size) :
      BlockId.ofIndex (b.graph.size + 1) = b.graph.size + 1 :=
    BlockId.ofIndex_of_lt (Nat.lt_of_lt_of_le hlt hfit)
  exact ⟨fun h => h.congr hfirst hsecond,
    fun h => h.congr (fun hlt => (hfirst hlt).symm) fun hlt => (hsecond hlt).symm⟩

/-- An instruction that is not refused makes a step. -/
theorem step_of_control (h : Builder.control stage i b = .ok u b')
    (hfit : b'.graph.size ≤ UInt32.size) : Step stage b i b' :=
  (executes_iff_step hfit).1 (control_eq_ok_iff.1 h)

/-- A step is not refused. -/
theorem Step.control (h : Step stage b i b') (hfit : b'.graph.size ≤ UInt32.size) :
    Builder.control stage i b = .ok () b' :=
  control_eq_ok_iff.2 ((executes_iff_step hfit).2 h)

end Builder

end ShaderFlow
