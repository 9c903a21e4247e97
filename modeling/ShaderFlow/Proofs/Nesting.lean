import ShaderFlow.Proofs.Syntax

/-!
# Scopes read off a program

`Program.openAt` lists the scopes that are open at a position of a program, by counting the
instructions that open and close them. It knows neither blocks nor whether the program is accepted.
An open scope is named by the position of the instruction that opened it, and what lies around it is
what was open there (`Program.eq_openAt_of_eq_append`).
-/

namespace ShaderFlow

/-- The opcode that opens a scope. -/
def ScopeKind.opening : ScopeKind → FlowOp
  | .branch => .beginIf
  | .loop => .beginLoop
  | .switch => .beginSwitch

/-- The opcode that closes a scope. -/
def ScopeKind.closing : ScopeKind → FlowOp
  | .branch => .endIf
  | .loop => .endLoop
  | .switch => .endSwitch

/-- An open scope: the position of the instruction that opened it, and its kind. -/
structure Opening where
  position : Nat
  kind : ScopeKind
  deriving DecidableEq

/-- The control flow that an opcode stands for, if it does. -/
def Opcode.flow? : Opcode → Option FlowOp
  | .flow op => some op
  | _ => none

namespace Program

/-- The control flow at a position, if there is any. -/
def flowAt? (p : Program) (k : Nat) : Option FlowOp :=
  p.instructions[k]?.bind fun i => i.opcode.flow?

/-- The scopes that are open before the instruction at a position, the innermost first. -/
def openAt (p : Program) : Nat → List Opening
  | 0 => []
  | k + 1 =>
    match p.flowAt? k with
    | some .beginIf => ⟨k, .branch⟩ :: p.openAt k
    | some .beginLoop => ⟨k, .loop⟩ :: p.openAt k
    | some .beginSwitch => ⟨k, .switch⟩ :: p.openAt k
    | some .endIf | some .endLoop | some .endSwitch => (p.openAt k).tail
    | _ => p.openAt k

/-- The innermost scope around a position. -/
def scope? (p : Program) (k : Nat) : Option Opening := (p.openAt k).head?

/-- The innermost loop or switch around a position: what a `break` there leaves. -/
def breakScope? (p : Program) (k : Nat) : Option Opening :=
  (p.openAt k).find? fun o => o.kind ≠ .branch

/-- The innermost loop around a position: what a `continue` there goes on with. -/
def loopScope? (p : Program) (k : Nat) : Option Opening :=
  (p.openAt k).find? fun o => o.kind = .loop

/-- The instruction at a position has the opcode, and it stands directly in the scope. -/
def Marks (p : Program) (o : Opening) (op : FlowOp) (k : Nat) : Prop :=
  p.flowAt? k = some op ∧ p.scope? k = some o

/-- The instruction at a position leaves the code at hand in a given way, in any case or if its
condition holds. -/
def Leaves (p : Program) (way : Leave) (k : Nat) : Prop :=
  p.flowAt? k = some way.op ∨ p.flowAt? k = some way.opIf

variable {p : Program} {k n : Nat} {o o' : Opening}

/-- The control flow at a position is the opcode of the instruction there. -/
theorem flowAt?_eq_some_iff {op : FlowOp} :
    p.flowAt? k = some op ↔ ∃ i, p.instructions[k]? = some i ∧ i.opcode = .flow op := by
  have hflow (i : Instruction) : i.opcode.flow? = some op ↔ i.opcode = .flow op := by
    cases i.opcode <;> simp [Opcode.flow?]
  rw [flowAt?, Option.bind_eq_some_iff]
  simp only [hflow]

/-! ## One position further -/

/-- What an instruction does to the open scopes: it opens one, closes the innermost one, or leaves
them. -/
theorem openAt_succ_cases (p : Program) (k : Nat) :
    (∃ kind : ScopeKind, p.flowAt? k = some kind.opening ∧
      p.openAt (k + 1) = ⟨k, kind⟩ :: p.openAt k) ∨
    (∃ kind : ScopeKind, p.flowAt? k = some kind.closing ∧
      p.openAt (k + 1) = (p.openAt k).tail) ∨
    p.openAt (k + 1) = p.openAt k := by
  rw [openAt]
  split
  · next h => exact .inl ⟨.branch, h, rfl⟩
  · next h => exact .inl ⟨.loop, h, rfl⟩
  · next h => exact .inl ⟨.switch, h, rfl⟩
  · next h => exact .inr (.inl ⟨.branch, h, rfl⟩)
  · next h => exact .inr (.inl ⟨.loop, h, rfl⟩)
  · next h => exact .inr (.inl ⟨.switch, h, rfl⟩)
  · exact .inr (.inr rfl)

/-- Behind an instruction that opens a scope, this scope is the innermost one. -/
theorem openAt_succ_of_opening {kind : ScopeKind} (h : p.flowAt? k = some kind.opening) :
    p.openAt (k + 1) = ⟨k, kind⟩ :: p.openAt k := by
  cases kind <;> rw [openAt, h] <;> rfl

/-- Behind an instruction that ends a scope, the innermost scope is gone. -/
theorem openAt_succ_of_closing {kind : ScopeKind} (h : p.flowAt? k = some kind.closing) :
    p.openAt (k + 1) = (p.openAt k).tail := by
  cases kind <;> rw [openAt, h] <;> rfl

/-- What is no control flow opens and closes no scope. -/
theorem openAt_succ_of_none (h : p.flowAt? k = none) : p.openAt (k + 1) = p.openAt k := by
  rw [openAt, h]

/-- Control flow that neither opens nor closes a scope leaves the scopes. -/
theorem openAt_succ_of_not_mem {op : FlowOp} (h : p.flowAt? k = some op)
    (hop : op ∉ [.beginIf, .beginLoop, .beginSwitch, .endIf, .endLoop, .endSwitch]) :
    p.openAt (k + 1) = p.openAt k := by
  rcases p.openAt_succ_cases k with ⟨kind, hk, -⟩ | ⟨kind, hk, -⟩ | heq
  · cases h.symm.trans hk
    exact absurd (by cases kind <;> decide) hop
  · cases h.symm.trans hk
    exact absurd (by cases kind <;> decide) hop
  · exact heq

/-! ## What lies around a scope -/

/-- Around a scope lie the scopes that were open when it was opened. The induction is on the
position, for every number of scopes inside of the one in question. -/
theorem eq_openAt_of_eq_append {inner outer : List Opening} (h : p.openAt k = inner ++ o :: outer) :
    outer = p.openAt o.position := by
  induction k generalizing inner with
  | zero => simp [openAt] at h
  | succ k ih =>
    rcases p.openAt_succ_cases k with ⟨kind, -, heq⟩ | ⟨kind, -, heq⟩ | heq
    · rw [heq] at h
      cases inner with
      | nil =>
        obtain ⟨rfl, rfl⟩ := List.cons.inj h
        rfl
      | cons o' inner =>
        obtain ⟨-, h⟩ := List.cons.inj h
        exact ih h
    · rw [heq] at h
      cases hk : p.openAt k with
      | nil => simp [hk] at h
      | cons o' rest =>
        have hlonger : p.openAt k = (o' :: inner) ++ o :: outer := by
          rw [hk, List.tail_cons] at h
          rw [hk, h]
          rfl
        exact ih hlonger
    · rw [heq] at h
      exact ih h

/-- An open scope was opened before. -/
theorem lt_of_mem_openAt (h : o ∈ p.openAt k) :
    o.position < k ∧ p.flowAt? o.position = some o.kind.opening := by
  induction k with
  | zero => simp [openAt] at h
  | succ k ih =>
    have hold (hmem : o ∈ p.openAt k) :
        o.position < k + 1 ∧ p.flowAt? o.position = some o.kind.opening :=
      ⟨Nat.lt_succ_of_lt (ih hmem).1, (ih hmem).2⟩
    rcases p.openAt_succ_cases k with ⟨kind, hop, heq⟩ | ⟨kind, -, heq⟩ | heq
    · rw [heq] at h
      rcases List.mem_cons.1 h with rfl | h
      · exact ⟨Nat.lt_succ_self _, hop⟩
      · exact hold h
    · rw [heq] at h
      exact hold (List.mem_of_mem_tail h)
    · rw [heq] at h
      exact hold h

/-- What was open around a scope when it was opened is open as long as the scope is. -/
theorem openAt_position_subset (h : o ∈ p.openAt k) : p.openAt o.position ⊆ p.openAt k := by
  obtain ⟨inner, outer, heq⟩ := List.append_of_mem h
  rw [← eq_openAt_of_eq_append heq, heq]
  exact fun o' h' => List.mem_append_right _ (List.mem_cons_of_mem _ h')

/-- Inside of the innermost scope nothing is open. -/
theorem openAt_of_scope? (h : p.scope? k = some o) : p.openAt k = o :: p.openAt o.position := by
  unfold scope? at h
  cases hk : p.openAt k with
  | nil => simp [hk] at h
  | cons o' outer =>
    rw [hk] at h
    cases h
    have hinnermost : p.openAt k = [] ++ o :: outer := hk
    rw [eq_openAt_of_eq_append hinnermost]

/-- The innermost scope is open. -/
theorem mem_openAt_of_scope? (h : p.scope? k = some o) : o ∈ p.openAt k := List.mem_of_mem_head? h

/-- The scope that a jump breaks out of is open. -/
theorem mem_openAt_of_breakScope? (h : p.breakScope? k = some o) : o ∈ p.openAt k :=
  List.mem_of_find?_eq_some h

/-- The loop that a jump continues is open. -/
theorem mem_openAt_of_loopScope? (h : p.loopScope? k = some o) : o ∈ p.openAt k :=
  List.mem_of_find?_eq_some h

/-- A scope that is open at one position and not at a later one is closed in between, when it is the
innermost one. -/
theorem exists_closing (h : o ∈ p.openAt k) (hkn : k ≤ n) (hn : o ∉ p.openAt n) :
    ∃ (e : Nat) (kind : ScopeKind), k ≤ e ∧ e < n ∧ p.Marks o kind.closing e := by
  induction hkn with
  | refl => exact absurd h hn
  | @step n hkn ih =>
    by_cases hmem : o ∈ p.openAt n
    · rcases p.openAt_succ_cases n with ⟨kind, -, heq⟩ | ⟨kind, hop, heq⟩ | heq
      · rw [heq] at hn
        exact absurd (List.mem_cons_of_mem _ hmem) hn
      · rw [heq] at hn
        refine ⟨n, kind, hkn, Nat.lt_succ_self n, hop, ?_⟩
        cases hlist : p.openAt n with
        | nil => simp [hlist] at hmem
        | cons o' rest =>
          rw [hlist] at hmem hn
          rcases List.mem_cons.1 hmem with rfl | hmem
          · rw [scope?, hlist]
            rfl
          · exact absurd hmem hn
      · rw [heq] at hn
        exact absurd hmem hn
    · obtain ⟨e, kind, hke, hen, hmark⟩ := ih hmem
      exact ⟨e, kind, hke, Nat.lt_succ_of_lt hen, hmark⟩

/-- What lies around a scope was opened before it. -/
theorem position_lt_of_mem_tail {rest : List Opening} (h : p.openAt k = o' :: rest)
    (ho : o ∈ rest) : o.position < o'.position := by
  have hinnermost : p.openAt k = [] ++ o' :: rest := h
  rw [eq_openAt_of_eq_append hinnermost] at ho
  exact (lt_of_mem_openAt ho).1

/-- A scope that has been closed is not opened again. -/
theorem not_mem_openAt_of_le (hlt : o.position < n) (hn : o ∉ p.openAt n) (hnk : n ≤ k) :
    o ∉ p.openAt k := by
  induction hnk with
  | refl => exact hn
  | @step k hnk ih =>
    rcases p.openAt_succ_cases k with ⟨kind, -, heq⟩ | ⟨kind, -, heq⟩ | heq
    · rw [heq]
      intro hmem
      rcases List.mem_cons.1 hmem with rfl | hmem
      · exact absurd hnk (Nat.not_le_of_lt hlt)
      · exact ih hmem
    · rw [heq]
      exact fun hmem => ih (List.mem_of_mem_tail hmem)
    · rw [heq]
      exact ih

/-- A scope is open nowhere behind the instruction that closes it. -/
theorem le_of_closing {kind : ScopeKind} (hk : p.Marks o kind.closing k) (h : o ∈ p.openAt n) :
    n ≤ k := by
  refine Nat.le_of_lt_succ (Nat.lt_of_not_le fun hkn => ?_)
  have hpos := (lt_of_mem_openAt (mem_openAt_of_scope? hk.2)).1
  refine not_mem_openAt_of_le (Nat.lt_succ_of_lt hpos) ?_ hkn h
  rw [openAt_succ_of_closing hk.1, openAt_of_scope? hk.2, List.tail_cons]
  exact fun hmem => Nat.lt_irrefl _ (lt_of_mem_openAt hmem).1

end Program

end ShaderFlow
