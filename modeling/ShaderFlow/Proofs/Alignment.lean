import Mathlib.Data.List.Forall2
import ShaderFlow.Proofs.History

/-!
# Scopes of the builder and of the program

The scopes that a builder keeps are the scopes that are open at the position, one by one
(`Compilation.History.aligned`). What a scope of the builder holds is then known from the program:
the blocks are those that were allocated when the scope was opened, at its `else` or at its labels.
So is where jumps lead (`Compilation.History.breakTarget?_eq`,
`Compilation.History.continueTarget?_eq`).
-/

namespace ShaderFlow

/-- A new key adds its value. -/
theorem IdMap.mem_values_insert {α : Type} {m : IdMap α} {v : UInt32} (hv : v ∉ m) {a c : α} :
    a ∈ (m.insert v c).values ↔ a ∈ m.values ∨ a = c := by
  simp only [mem_values_iff, Std.ExtTreeMap.getElem?_insert]
  constructor
  · rintro ⟨w, hw⟩
    split at hw
    · exact .inr (Option.some.inj hw).symm
    · exact .inl ⟨w, hw⟩
  · rintro (⟨w, hw⟩ | rfl)
    · have hne : v ≠ w := by
        rintro rfl
        exact hv (Std.ExtTreeMap.mem_iff_isSome_getElem?.2 (by simp [hw]))
      exact ⟨w, by simp [hne, hw]⟩
    · exact ⟨v, by simp⟩

/-- The kind of the scopes that an opcode divides or closes. -/
def FlowOp.scopeKind? : FlowOp → Option ScopeKind
  | .elseArm | .endIf => some .branch
  | .endLoop => some .loop
  | .caseLabel | .defaultLabel | .endSwitch => some .switch
  | _ => none

/-- Which of the two blocks that open a scope is the one behind it. -/
def ScopeKind.landing : ScopeKind → Nat
  | .branch | .loop => 1
  | .switch => 0

namespace Compilation.History

variable {σ L : Type} {C : Compilation σ L} {H : C.History} {j k : Nat} {op : FlowOp}
  {o : Opening} {u x : BlockId} {s s' : Scope}

/-- The block is allocated by an instruction with the opcode that stands directly in the scope,
before the given position. -/
def Marked (H : C.History) (k : Nat) (o : Opening) (op : FlowOp) (x : BlockId) : Prop :=
  ∃ e < k, C.program.Marks o op e ∧ x = H.size e

/-- A scope of the builder, before the instruction at a position, is the one that was opened by a
given instruction. -/
def Opens (H : C.History) (k : Nat) (o : Opening) : Scope → Prop
  | .branch alternative merge =>
    o.kind = .branch ∧ alternative = H.size o.position + 1 ∧
      ∀ x, merge = some x ↔ H.Marked k o .elseArm x
  | .loop entrance exit =>
    o.kind = .loop ∧ entrance = H.size o.position ∧ exit = H.size o.position + 1
  | .switch s =>
    o.kind = .switch ∧ s.dispatch = H.current o.position ∧ s.exit = H.size o.position ∧
      (∀ x, x ∈ s.cases.values ↔ H.Marked k o .caseLabel x) ∧
      ∀ x, s.fallback = some x ↔ H.Marked k o .defaultLabel x

/-- The marks before the next position are those before and the one at the position. -/
theorem marked_succ_iff :
    H.Marked (k + 1) o op x ↔ H.Marked k o op x ∨ C.program.Marks o op k ∧ x = H.size k := by
  unfold Marked
  simp only [Nat.lt_succ_iff_lt_or_eq, or_and_right, exists_or, exists_eq_left]

/-- Nothing stands in a scope before it is opened. -/
theorem not_marked_self {kind : ScopeKind} : ¬ H.Marked (k + 1) ⟨k, kind⟩ op x := by
  rintro ⟨e, he, hmark, -⟩
  have hlt := (Program.lt_of_mem_openAt (Program.mem_openAt_of_scope? hmark.2)).1
  exact Nat.not_lt_of_le (Nat.le_of_lt_succ he) hlt

/-- An instruction changes only the scope that it divides. -/
theorem Opens.succ (h : H.Opens k o s)
    (hk : ∀ op ∈ [.elseArm, .caseLabel, .defaultLabel], ¬ C.program.Marks o op k) :
    H.Opens (k + 1) o s := by
  have hsame {op : FlowOp} {x : BlockId} (hop : op ∈ [.elseArm, .caseLabel, .defaultLabel]) :
      H.Marked (k + 1) o op x ↔ H.Marked k o op x := by
    rw [marked_succ_iff]
    exact or_iff_left fun hmark => hk op hop hmark.1
  cases s with
  | branch alternative merge =>
    obtain ⟨hkind, halt, hmerge⟩ := h
    exact ⟨hkind, halt, fun x => (hmerge x).trans (hsame (by simp)).symm⟩
  | loop entrance exit => exact h
  | switch s =>
    obtain ⟨hkind, hdispatch, hexit, hcases, hfallback⟩ := h
    exact ⟨hkind, hdispatch, hexit, fun x => (hcases x).trans (hsame (by simp)).symm,
      fun x => (hfallback x).trans (hsame (by simp)).symm⟩

/-- Scopes that an instruction does not mark are what they were. -/
theorem opens_succ_all {os : List Opening} {ss : List Scope}
    (h : List.Forall₂ (H.Opens k) os ss)
    (hk : ∀ o ∈ os, ∀ op ∈ [.elseArm, .caseLabel, .defaultLabel], ¬ C.program.Marks o op k) :
    List.Forall₂ (H.Opens (k + 1)) os ss := by
  induction h with
  | nil => exact .nil
  | cons hs _ ih =>
    exact .cons (hs.succ (hk _ List.mem_cons_self))
      (ih fun o ho => hk o (List.mem_cons_of_mem _ ho))

/-- Only `else` and the labels divide a scope. -/
theorem opens_succ_of_not_mem (hop : C.program.flowAt? k = some op)
    (hne : op ∉ [.elseArm, .caseLabel, .defaultLabel]) {os : List Opening} {ss : List Scope}
    (h : List.Forall₂ (H.Opens k) os ss) : List.Forall₂ (H.Opens (k + 1)) os ss := by
  refine opens_succ_all h fun o _ op' hop' hmark => hne ?_
  cases hop.symm.trans hmark.1
  exact hop'

/-- Scopes around the innermost one are not divided. -/
theorem opens_succ_outer {os : List Opening} {ss : List Scope}
    (htop : C.program.openAt k = o :: os) (hscope : C.program.scope? k = some o)
    (h : List.Forall₂ (H.Opens k) os ss) : List.Forall₂ (H.Opens (k + 1)) os ss := by
  refine opens_succ_all h fun o' ho' op' _ hmark => ?_
  cases hscope.symm.trans hmark.2
  exact Nat.lt_irrefl _ (Program.position_lt_of_mem_tail htop ho')

/-- The builder's innermost scope is the innermost scope around the position. -/
theorem exists_top {rest : List Scope}
    (h : List.Forall₂ (H.Opens k) (C.program.openAt k) (s :: rest)) :
    ∃ o os, C.program.openAt k = o :: os ∧ C.program.scope? k = some o ∧ H.Opens k o s ∧
      List.Forall₂ (H.Opens k) os rest := by
  obtain ⟨o, os, ho, hos, heq⟩ := List.forall₂_cons_right_iff.1 h
  refine ⟨o, os, heq, ?_, ho, hos⟩
  rw [Program.scope?, heq]
  rfl

/-- A step keeps the builder's scopes in line with those of the program. -/
theorem aligned_step {b' : Builder L} {i : Instruction}
    (h : List.Forall₂ (H.Opens k) (C.program.openAt k) (H.builder k).scopes)
    (hop : C.program.flowAt? k = some op) (hi : i.opcode = .flow op)
    (hstep : Builder.Step C.program.stage (H.builder k) i b') :
    List.Forall₂ (H.Opens (k + 1)) (C.program.openAt (k + 1)) b'.scopes := by
  cases hstep with
  | beginIf hop' =>
    cases hop'.symm.trans hi
    have hopen : C.program.openAt (k + 1) = ⟨k, .branch⟩ :: C.program.openAt k :=
      Program.openAt_succ_of_opening hop
    rw [hopen]
    refine .cons ⟨rfl, rfl, fun x => ⟨nofun, fun hx => absurd hx not_marked_self⟩⟩ ?_
    exact opens_succ_of_not_mem hop (by decide) h
  | beginLoop hop' =>
    cases hop'.symm.trans hi
    have hopen : C.program.openAt (k + 1) = ⟨k, .loop⟩ :: C.program.openAt k :=
      Program.openAt_succ_of_opening hop
    rw [hopen]
    exact .cons ⟨rfl, rfl, rfl⟩ (opens_succ_of_not_mem hop (by decide) h)
  | beginSwitch hop' =>
    cases hop'.symm.trans hi
    have hopen : C.program.openAt (k + 1) = ⟨k, .switch⟩ :: C.program.openAt k :=
      Program.openAt_succ_of_opening hop
    have hempty : ∀ x, x ∉ (∅ : IdMap BlockId).values := by
      intro x hx
      obtain ⟨v, hv⟩ := IdMap.mem_values_iff.1 hx
      simp at hv
    rw [hopen]
    refine .cons ⟨rfl, rfl, rfl, fun x => ?_, fun x => ?_⟩ (opens_succ_of_not_mem hop (by decide) h)
    · exact ⟨fun hx => absurd hx (hempty x), fun hx => absurd hx not_marked_self⟩
    · exact ⟨nofun, fun hx => absurd hx not_marked_self⟩
  | endIf hop' hs | endLoop hop' hs | endSwitch hop' hs =>
    cases hop'.symm.trans hi
    have hopen : C.program.openAt (k + 1) = (C.program.openAt k).tail := by
      rw [Program.openAt, hop]
    rw [hs] at h
    obtain ⟨o, os, htop, -, -, hos⟩ := exists_top h
    rw [hopen, htop]
    exact opens_succ_of_not_mem hop (by decide) hos
  | elseArm hop' hs =>
    cases hop'.symm.trans hi
    rw [hs] at h
    obtain ⟨o, os, htop, hscope, ⟨hkind, halt, hmerge⟩, hos⟩ := exists_top h
    rw [Program.openAt_succ_of_not_mem hop (by decide), htop]
    refine .cons ⟨hkind, halt, fun x => ?_⟩ (opens_succ_outer htop hscope hos)
    rw [marked_succ_iff, ← hmerge]
    simp [Program.Marks, hop, hscope, size, eq_comm]
  | caseLabel hop' hv hs hnew =>
    cases hop'.symm.trans hi
    rw [hs] at h
    obtain ⟨o, os, htop, hscope, ⟨hkind, hdispatch, hexit, hcases, hfallback⟩, hos⟩ := exists_top h
    rw [Program.openAt_succ_of_not_mem hop (by decide), htop]
    refine .cons ⟨hkind, hdispatch, hexit, fun x => ?_, fun x => ?_⟩
      (opens_succ_outer htop hscope hos)
    · rw [marked_succ_iff, ← hcases, IdMap.mem_values_insert hnew]
      simp [Program.Marks, hop, hscope, size]
    · rw [marked_succ_iff, ← hfallback]
      simp [Program.Marks, hop]
  | defaultLabel hop' hs hnew =>
    cases hop'.symm.trans hi
    rw [hs] at h
    obtain ⟨o, os, htop, hscope, ⟨hkind, hdispatch, hexit, hcases, hfallback⟩, hos⟩ := exists_top h
    rw [Program.openAt_succ_of_not_mem hop (by decide), htop]
    refine .cons ⟨hkind, hdispatch, hexit, fun x => ?_, fun x => ?_⟩
      (opens_succ_outer htop hscope hos)
    · rw [marked_succ_iff, ← hcases]
      simp [Program.Marks, hop]
    · rw [marked_succ_iff, ← hfallback, hnew]
      simp [Program.Marks, hop, hscope, size, eq_comm]
  | leave way hop' | leaveIf way hop' =>
    cases way <;>
    · cases hop'.symm.trans hi
      rw [Program.openAt_succ_of_not_mem hop (by decide)]
      exact opens_succ_of_not_mem hop (by decide) h
  | ret hop' | discard hop' =>
    cases hop'.symm.trans hi
    rw [Program.openAt_succ_of_not_mem hop (by decide)]
    exact opens_succ_of_not_mem hop (by decide) h

/-- The builder's scopes are those that are open at the position, one by one. -/
theorem aligned (hk : k ≤ H.length) :
    List.Forall₂ (H.Opens k) (C.program.openAt k) (H.builder k).scopes := by
  induction k with
  | zero =>
    rw [builder_zero]
    exact .nil
  | succ k ih =>
    have hold := ih (Nat.le_of_lt hk)
    cases hop : C.program.flowAt? k with
    | none =>
      rw [Program.openAt_succ_of_none hop, (quiet hk hop).scopes]
      refine opens_succ_all hold fun o _ op _ hmark => ?_
      cases hop.symm.trans hmark.1
    | some op =>
      obtain ⟨i, hi, hstep⟩ := control hk hop
      exact aligned_step hold hop hi hstep

/-- When the function returns, the program has no open scope. -/
theorem openAt_length : C.program.openAt H.length = [] := by
  have h := aligned (H := H) (Nat.le_refl _)
  rw [scopes_length] at h
  exact List.forall₂_nil_right_iff.1 h

/-- An open scope of the program is one of the builder's. -/
theorem exists_opens (hk : k ≤ H.length) (ho : o ∈ C.program.openAt k) :
    ∃ s ∈ (H.builder k).scopes, H.Opens k o s := by
  have h := aligned hk
  generalize C.program.openAt k = os at h ho
  generalize (H.builder k).scopes = ss at h
  induction h with
  | nil => cases ho
  | @cons o' s' os ss hs hrest ih =>
    rcases List.mem_cons.1 ho with rfl | ho
    · exact ⟨s', List.mem_cons_self, hs⟩
    · obtain ⟨s, hmem, hopens⟩ := ih ho
      exact ⟨s, List.mem_cons_of_mem _ hmem, hopens⟩

/-- A scope has the kind of the instruction that opened it. -/
theorem Opens.kind_eq (h : H.Opens k o s) : o.kind = s.kind := by
  cases s <;> exact h.1

/-- Where control goes on behind a scope is decided by the program. -/
theorem Opens.landing_eq (h : H.Opens k o s) (h' : H.Opens k o s') : s.landing = s'.landing := by
  cases s with
  | branch alternative merge =>
    cases s' with
    | branch alternative' merge' =>
      obtain ⟨-, halt, hmerge⟩ := h
      obtain ⟨-, halt', hmerge'⟩ := h'
      have hsame : merge = merge' :=
        Option.ext fun x => (hmerge x).trans (hmerge' x).symm
      rw [halt, halt', hsame]
    | loop | switch => cases h.1.symm.trans h'.1
  | loop entrance exit =>
    cases s' with
    | loop => exact h.2.2.trans h'.2.2.symm
    | branch | switch => cases h.1.symm.trans h'.1
  | switch s =>
    cases s' with
    | switch => exact h.2.2.1.trans h'.2.2.1.symm
    | branch | loop => cases h.1.symm.trans h'.1

/-- An instruction that belongs to a kind of scope stands directly in such a scope. -/
theorem exists_marks {kind : ScopeKind} (hk : k < H.length) (hop : C.program.flowAt? k = some op)
    (hkind : op.scopeKind? = some kind) : ∃ j, C.program.Marks ⟨j, kind⟩ op k := by
  obtain ⟨i, hi, hstep⟩ := control hk hop
  have halign := aligned (Nat.le_of_lt hk)
  have htop {s : Scope} {rest : List Scope} (hs : (H.builder k).scopes = s :: rest) :
      ∃ j, C.program.Marks ⟨j, s.kind⟩ op k := by
    rw [hs] at halign
    obtain ⟨⟨j, kind'⟩, os, -, hscope, hopens, -⟩ := exists_top halign
    cases hopens.kind_eq
    exact ⟨j, hop, hscope⟩
  generalize H.builder (k + 1) = b' at hstep
  cases hstep with
  | elseArm hop' hs | endIf hop' hs | endLoop hop' hs | defaultLabel hop' hs | endSwitch hop' hs =>
    cases hop'.symm.trans hi
    cases hkind
    exact htop hs
  | caseLabel hop' hv hs =>
    cases hop'.symm.trans hi
    cases hkind
    exact htop hs
  | leave way hop' | leaveIf way hop' =>
    cases way <;>
    · cases hop'.symm.trans hi
      cases hkind
  | beginIf hop' | beginLoop hop' | beginSwitch hop' | ret hop' | discard hop' =>
    cases hop'.symm.trans hi
    cases hkind

/-- An instruction that belongs to one kind of scopes marks a scope of that kind. -/
theorem kind_of_marks {kind : ScopeKind} (hk : k < H.length) (h : C.program.Marks o op k)
    (hop : op.scopeKind? = some kind) : o.kind = kind := by
  obtain ⟨j, hmark⟩ := exists_marks hk h.1 hop
  cases h.2.symm.trans hmark.2
  rfl

/-- A scope that is open at a position is closed behind it, by an instruction of its kind. -/
theorem exists_end (hk : k ≤ H.length) (ho : o ∈ C.program.openAt k) :
    ∃ e, k ≤ e ∧ e < H.length ∧ C.program.Marks o o.kind.closing e := by
  have hlast : o ∉ C.program.openAt H.length := by
    rw [openAt_length]
    exact List.not_mem_nil
  obtain ⟨e, kind, hke, he, hmark⟩ := Program.exists_closing ho hk hlast
  have hkind : o.kind = kind := kind_of_marks he hmark (by cases kind <;> rfl)
  exact ⟨e, hke, he, hkind ▸ hmark⟩

/-- The innermost scope around a position is the builder's innermost scope. -/
theorem exists_scopes_eq (hk : k ≤ H.length) (h : C.program.scope? k = some o) :
    ∃ s rest, (H.builder k).scopes = s :: rest ∧ H.Opens k o s := by
  have halign := aligned hk
  rw [Program.openAt_of_scope? h] at halign
  obtain ⟨s, rest, hopens, -, heq⟩ := List.forall₂_cons_left_iff.1 halign
  exact ⟨s, rest, heq, hopens⟩

/-- What stands directly in a scope stands before its end. -/
theorem lt_end {e : Nat} {kind : ScopeKind} (h : C.program.Marks o op e)
    (hend : C.program.Marks o kind.closing k) (hne : op ≠ kind.closing) : e < k := by
  refine Nat.lt_of_le_of_ne (Program.le_of_closing hend (Program.mem_openAt_of_scope? h.2)) ?_
  rintro rfl
  exact hne (Option.some.inj (h.1.symm.trans hend.1))

/-- A switch that is open at a position ends behind it. -/
theorem exists_dispatch (ho : ⟨j, .switch⟩ ∈ C.program.openAt k) (hk : k ≤ H.length) :
    ∃ e s rest, k ≤ e ∧ e < H.length ∧ C.program.Marks ⟨j, .switch⟩ .endSwitch e ∧
      (H.builder e).scopes = .switch s :: rest ∧ H.Opens e ⟨j, .switch⟩ (.switch s) := by
  obtain ⟨e, hke, he, hmark⟩ := exists_end hk ho
  obtain ⟨s, rest, hs, hopens⟩ := exists_scopes_eq (Nat.le_of_lt he) hmark.2
  cases s with
  | switch s => exact ⟨e, s, rest, hke, he, hmark, hs, hopens⟩
  | branch | loop => cases hopens.1

/-! ## Where jumps lead -/

/-- A scope that is open allocated two blocks when it was opened. -/
theorem allots_opening {t : Nat} (hk : k < H.length) (ho : o ∈ C.program.openAt k) (ht : t < 2) :
    H.Allots o.position o.kind.opening t (H.size o.position + t) where
  succ_lt := Nat.lt_of_le_of_lt (Program.lt_of_mem_openAt ho).1 hk
  flowAt := (Program.lt_of_mem_openAt ho).2
  lt := by cases o.kind <;> exact ht
  eq := rfl

/-- The block in which code goes on behind a scope that is open at a position, or behind its arm. -/
def Lands (H : C.History) (k : Nat) (o : Opening) (x : BlockId) : Prop :=
  ∃ s ∈ (H.builder k).scopes, H.Opens k o s ∧ x = s.landing

/-- The block behind a loop or a switch is allocated where the scope is opened. -/
theorem Opens.landing_of_ne (h : H.Opens k o s) (hne : o.kind ≠ .branch) :
    s.landing = H.size o.position + o.kind.landing := by
  cases s with
  | branch => exact absurd h.1 hne
  | loop entrance exit =>
    rw [h.1]
    exact h.2.2
  | switch s =>
    rw [h.1]
    exact h.2.2.1

/-- The same for the scopes that are open at a position. -/
theorem lands_iff_of_ne (hk : k ≤ H.length) (ho : o ∈ C.program.openAt k)
    (hne : o.kind ≠ .branch) : H.Lands k o x ↔ x = H.size o.position + o.kind.landing := by
  constructor
  · rintro ⟨s, -, hopens, rfl⟩
    exact hopens.landing_of_ne hne
  · rintro rfl
    obtain ⟨s, hs, hopens⟩ := exists_opens hk ho
    exact ⟨s, hs, hopens, (hopens.landing_of_ne hne).symm⟩

/-- Behind a scope, code goes on in a block that was allocated when the scope was opened, or at its
`else`. -/
theorem Lands.allots (h : H.Lands k o x) (hk : k < H.length) (ho : o ∈ C.program.openAt k) :
    H.Allots o.position o.kind.opening o.kind.landing x ∨
      o.kind = .branch ∧ ∃ e, C.program.Marks o .elseArm e ∧ H.Allots e .elseArm 0 x := by
  have hopening : H.Allots o.position o.kind.opening o.kind.landing
      (H.size o.position + o.kind.landing) :=
    allots_opening hk ho (by cases o.kind <;> decide)
  obtain ⟨s, -, hopens, rfl⟩ := h
  cases s with
  | branch alternative merge =>
    obtain ⟨hkind, halt, hmerge⟩ := hopens
    cases hm : merge with
    | none =>
      left
      rw [hkind] at hopening ⊢
      rw [halt]
      exact hopening
    | some y =>
      obtain ⟨e, he, hmark, rfl⟩ := (hmerge y).1 hm
      have hlt := succ_lt_of_ne_ret (Nat.lt_trans he hk) hmark.1 nofun
      exact .inr ⟨hkind, e, hmark, hlt, hmark.1, Nat.one_pos, rfl⟩
  | loop | switch =>
    left
    rw [hopens.landing_of_ne (by rw [hopens.1]; nofun)]
    exact hopening

/-- Behind an open scope, code goes on in a block that has not been filled. -/
theorem Lands.unfilled (h : H.Lands k o x) (hk : k < H.length) (hjk : j ≤ k) : H.current j ≠ x := by
  obtain ⟨s, hs, -, rfl⟩ := h
  exact ne_landing hk hs hjk

/-- Control flow goes on in a new block, or behind the scope or the arm that it ends. -/
theorem current_succ_cases (hk : k + 1 < H.length) (hop : C.program.flowAt? k = some op) :
    H.Allots k op op.next (H.current (k + 1)) ∨
      ∃ o, C.program.Marks o op k ∧ op.scopeKind? = some o.kind ∧
        H.Lands k o (H.current (k + 1)) := by
  have hk' := Nat.lt_of_succ_lt hk
  obtain ⟨i, hi, hstep⟩ := control hk' hop
  have hr := H.running hk
  have halign := aligned (Nat.le_of_lt hk')
  have hland {s : Scope} {rest : List Scope} (hs : (H.builder k).scopes = s :: rest)
      (hkind : op.scopeKind? = some s.kind) :
      ∃ o, C.program.Marks o op k ∧ op.scopeKind? = some o.kind ∧ H.Lands k o s.landing := by
    have hmem : s ∈ (H.builder k).scopes := hs ▸ List.mem_cons_self
    rw [hs] at halign
    obtain ⟨o, os, -, hscope, hopens, -⟩ := exists_top halign
    exact ⟨o, ⟨hop, hscope⟩, hopens.kind_eq ▸ hkind, s, hmem, hopens, rfl⟩
  have hnew {x : BlockId} (hx : x = H.size k + op.next) (hlt : op.next < op.blocks.length) :
      H.Allots k op op.next x := ⟨hk, hop, hlt, hx⟩
  change (H.builder (k + 1)).returned = false at hr
  unfold current
  generalize H.builder (k + 1) = b' at hstep hr ⊢
  cases hstep with
  | beginIf hop' | beginLoop hop' | beginSwitch hop' | caseLabel hop' | defaultLabel hop'
  | discard hop' =>
    cases hop'.symm.trans hi
    exact .inl (hnew rfl (by decide))
  | leave way hop' | leaveIf way hop' =>
    left
    cases way <;>
    · cases hop'.symm.trans hi
      exact hnew rfl (by decide)
  | elseArm hop' hs | endIf hop' hs | endLoop hop' hs | endSwitch hop' hs =>
    cases hop'.symm.trans hi
    exact .inr (hland hs rfl)
  | ret => cases hr

/-- A jump that breaks out leads behind the innermost loop or switch of the program. -/
theorem breakTarget?_eq (hk : k ≤ H.length) :
    (H.builder k).breakTarget? =
      (C.program.breakScope? k).map fun o => H.size o.position + o.kind.landing := by
  have h := aligned hk
  unfold Builder.breakTarget? Program.breakScope?
  generalize C.program.openAt k = os at h
  generalize (H.builder k).scopes = ss at h
  induction h with
  | nil => rfl
  | @cons o s os ss hs hrest ih =>
    cases s with
    | branch alternative merge =>
      rw [List.findSome?_cons_of_isNone rfl, List.find?_cons_of_neg (by simp [hs.1]), ih]
    | loop | switch =>
      have hkind : o.kind ≠ .branch := by
        rw [hs.1]
        nofun
      rw [List.find?_cons_of_pos (by simp [hkind]), Option.map_some, ← hs.landing_of_ne hkind]
      rfl

/-- A jump that continues leads to the entrance of the innermost loop of the program. -/
theorem continueTarget?_eq (hk : k ≤ H.length) :
    (H.builder k).continueTarget? = (C.program.loopScope? k).map fun o => H.size o.position := by
  have h := aligned hk
  unfold Builder.continueTarget? Program.loopScope?
  generalize C.program.openAt k = os at h
  generalize (H.builder k).scopes = ss at h
  induction h with
  | nil => rfl
  | @cons o s os ss hs hrest ih =>
    cases s with
    | branch | switch =>
      rw [List.findSome?_cons_of_isNone rfl, List.find?_cons_of_neg (by simp [hs.1]), ih]
    | loop entrance exit =>
      rw [List.find?_cons_of_pos (by simp [hs.1]), Option.map_some, ← hs.2.1]
      rfl

end Compilation.History

end ShaderFlow
