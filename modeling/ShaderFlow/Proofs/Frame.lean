import ShaderFlow.Proofs.Ownership

/-!
# What reading leaves alone

Two readings of a graph, the items and the terminator at a position, tell what an instruction does
to the blocks that were there before. Blocks with a terminator are final (`Builder.Reads.closed`).
Blocks without one keep their items unless they are current, so a block in which the code behind a
scope is to go on is still empty when that code begins (`Builder.Step.vacant`). The dispatching
block of a switch is closed with the labels that were met in the switch (`Builder.Reads.dispatch`).
-/

namespace ShaderFlow

namespace Graph

variable {L : Type} {g : Graph L} {b x : BlockId} {t : Terminator} {name : String}

/-- The items at a position; there are none where there is no block. -/
def itemsAt (g : Graph L) (b : BlockId) : List (BlockItem L) :=
  (g.block? b).elim [] fun block => block.items.toList

/-- The terminator at a position, if there is a block and it has one. -/
def terminatorAt (g : Graph L) (b : BlockId) : Option Terminator :=
  (g.block? b).bind Block.terminator

/-- There is no block behind the last one. -/
theorem block?_of_size_le (h : g.size ≤ x) : g.block? x = none := block?_eq_none_iff.2 h

/-- There are no items behind the last block. -/
theorem itemsAt_of_size_le (h : g.size ≤ x) : g.itemsAt x = [] := by
  rw [itemsAt, block?_of_size_le h]
  rfl

/-- Where there is a terminator there is a block. -/
theorem lt_size_of_terminatorAt (h : g.terminatorAt x = some t) : x < g.size := by
  refine Nat.lt_of_not_le fun hx => ?_
  rw [terminatorAt, block?_of_size_le hx] at h
  cases h

/-- An open block has no terminator. -/
theorem IsOpen.terminatorAt_eq_none (h : g.IsOpen x) : g.terminatorAt x = none := by
  obtain ⟨block, hblock, ho⟩ := h
  rw [terminatorAt, hblock]
  simpa [Block.isOpen] using ho

/-- A block with a terminator is not an open one. -/
theorem IsOpen.ne_of_terminatorAt (h : g.IsOpen b) (hx : g.terminatorAt x = some t) : x ≠ b := by
  rintro rfl
  rw [h.terminatorAt_eq_none] at hx
  cases hx

/-- A new block has no items, like a block that is not there. -/
@[simp] theorem itemsAt_alloc : (g.alloc name).itemsAt x = g.itemsAt x := by
  unfold itemsAt
  rw [block?_alloc]
  split
  · next hx =>
    rw [hx, block?_of_size_le (Nat.le_refl _)]
    rfl
  · rfl

/-- A new block has no terminator, like a block that is not there. -/
@[simp] theorem terminatorAt_alloc : (g.alloc name).terminatorAt x = g.terminatorAt x := by
  unfold terminatorAt
  rw [block?_alloc]
  split
  · next hx =>
    rw [hx, block?_of_size_le (Nat.le_refl _)]
    rfl
  · rfl

/-- A terminator is no item. -/
@[simp] theorem itemsAt_close : (g.close b t).itemsAt x = g.itemsAt x := by
  unfold itemsAt
  rw [block?_close]
  split
  · cases g.block? x <;> rfl
  · rfl

/-- Closing a block gives no other block a terminator. -/
theorem terminatorAt_close_of_ne (h : x ≠ b) :
    (g.close b t).terminatorAt x = g.terminatorAt x := by
  rw [terminatorAt, block?_close, if_neg h.symm, terminatorAt]

/-- A block that is closed has its terminator. -/
theorem terminatorAt_close_self (h : b < g.size) : (g.close b t).terminatorAt b = some t := by
  rw [terminatorAt, block?_close, if_pos rfl]
  cases hb : g.block? b with
  | none => exact absurd (block?_eq_none_iff.1 hb) (Nat.not_le_of_lt h)
  | some block => rfl

/-- Items change no terminator. -/
@[simp] theorem terminatorAt_push {item : BlockItem L} :
    (g.push b item).terminatorAt x = g.terminatorAt x := by
  unfold terminatorAt
  rw [block?_push]
  split
  · cases g.block? x <;> rfl
  · rfl

/-- An item goes to one block only. -/
theorem itemsAt_push_of_ne {item : BlockItem L} (h : x ≠ b) :
    (g.push b item).itemsAt x = g.itemsAt x := by
  rw [itemsAt, block?_push, if_neg h.symm, itemsAt]

/-- An item comes last in its block. -/
theorem itemsAt_push_self {item : BlockItem L} (h : b < g.size) :
    (g.push b item).itemsAt b = g.itemsAt b ++ [item] := by
  unfold itemsAt
  rw [block?_push, if_pos rfl]
  cases hb : g.block? b with
  | none => exact absurd (block?_eq_none_iff.1 hb) (Nat.not_le_of_lt h)
  | some block => simp

/-- Of the two blocks of a `discard`, the first has an item. -/
theorem itemsAt_allocDiscard_of_ne (h : x ≠ g.size) : g.allocDiscard.itemsAt x = g.itemsAt x := by
  simp [allocDiscardAs, pushDiscard, itemsAt_push_of_ne h]

/-- The first block of a `discard` holds the discard. -/
theorem itemsAt_allocDiscard_self : g.allocDiscard.itemsAt g.size = [.discard] := by
  have hlt : g.size < ((g.alloc "discard_fulfilled").alloc "discard_otherwise").size := by
    simp only [size_alloc]
    exact Nat.lt_add_of_pos_right Nat.two_pos
  simp [allocDiscardAs, pushDiscard, itemsAt_push_self hlt, itemsAt_of_size_le (Nat.le_refl g.size)]

/-- A `discard` closes one of its new blocks and no other. -/
theorem terminatorAt_allocDiscard_of_ne (h : x ≠ g.size) :
    g.allocDiscard.terminatorAt x = g.terminatorAt x := by
  simp [allocDiscardAs, pushDiscard, terminatorAt_close_of_ne h]

/-- The first block of a `discard` leads to the second. -/
theorem terminatorAt_allocDiscard_self :
    g.allocDiscard.terminatorAt g.size = some (.jump (g.size + 1)) := by
  refine terminatorAt_close_self ?_
  simp only [pushDiscard, size_push, size_alloc]
  exact Nat.lt_add_of_pos_right Nat.two_pos

end Graph

/-- The block in which the code behind a scope, or behind the arm at hand, is to go on. -/
def Scope.landing : Scope → BlockId
  | .branch alternative merge => merge.getD alternative
  | .loop _ exit => exit
  | .switch s => s.exit

/-- The block behind a scope is one that the scope has still to go on in. -/
theorem Scope.landing_mem_pending (s : Scope) : s.landing ∈ s.pending := by
  cases s <;> simp [landing, pending]

namespace Builder

variable {L : Type} {stage : Stage} {puts : Placement L} {b b' : Builder L} {i : Instruction}
  {is : List Instruction} {x : BlockId} {t : Terminator}

/-! ## Closed blocks -/

/-- A step puts no item into a block that is open behind it. -/
theorem Step.itemsAt_of_isOpen (h : Step stage b i b') (hx : b'.graph.IsOpen x) :
    b'.graph.itemsAt x = b.graph.itemsAt x := by
  cases h with
  | beginIf | elseArm | endIf | beginLoop | endLoop | beginSwitch | caseLabel | defaultLabel
  | endSwitch | leave | leaveIf | ret => simp
  | discard =>
    have hne : x ≠ b.graph.size := by
      rintro rfl
      rcases Graph.isOpen_allocDiscard.1 (Graph.isOpen_close.1 hx).2 with heq | ho
      · exact absurd heq (Nat.ne_of_lt (Nat.lt_succ_self _))
      · exact absurd ho.lt_size (Nat.lt_irrefl _)
    simp [Graph.itemsAt_allocDiscard_of_ne hne]

/-- A step leaves blocks with a terminator as they are. -/
theorem Step.closed (h : Step stage b i b') (hb : b.Sound) (hr : b.returned = false)
    (ht : b.graph.terminatorAt x = some t) :
    b'.graph.terminatorAt x = some t ∧ b'.graph.itemsAt x = b.graph.itemsAt x := by
  have hcur : x ≠ b.current := (hb.isOpen_current hr).ne_of_terminatorAt ht
  have hsize : x ≠ b.graph.size := Nat.ne_of_lt (Graph.lt_size_of_terminatorAt ht)
  cases h with
  | beginIf | elseArm | endIf | beginLoop | endLoop | caseLabel | defaultLabel | leave | leaveIf
  | ret =>
    simp [Graph.terminatorAt_close_of_ne hcur, ht]
  | beginSwitch => simp [ht]
  | @endSwitch s rest hop hs =>
    have hdispatch : x ≠ s.dispatch :=
      (Graph.isOpen_close.1 (hb.isOpen_dispatch hr hs .ret)).2.ne_of_terminatorAt ht
    simp [Graph.terminatorAt_close_of_ne hcur, Graph.terminatorAt_close_of_ne hdispatch, ht]
  | discard =>
    simp [Graph.terminatorAt_close_of_ne hcur, Graph.terminatorAt_allocDiscard_of_ne hsize,
      Graph.itemsAt_allocDiscard_of_ne hsize, ht]

/-- A closed block stays as it is, whatever is taken in. -/
theorem Takes.closed (h : Takes stage puts b i b') (hb : b.Sound) (hr : b.returned = false)
    (ht : b.graph.terminatorAt x = some t) :
    b'.graph.terminatorAt x = some t ∧ b'.graph.itemsAt x = b.graph.itemsAt x := by
  cases h with
  | control h => exact h.closed hb hr ht
  | put =>
    have hcur : x ≠ b.current := (hb.isOpen_current hr).ne_of_terminatorAt ht
    simp [Builder.append, Graph.itemsAt_push_of_ne hcur, ht]
  | skip => exact ⟨ht, rfl⟩

/-- Blocks with a terminator are final. -/
theorem Reads.closed (h : Reads stage puts b is b') (hb : b.Sound)
    (ht : b.graph.terminatorAt x = some t) :
    b'.graph.terminatorAt x = some t ∧ b'.graph.itemsAt x = b.graph.itemsAt x := by
  induction h with
  | nil => exact ⟨ht, rfl⟩
  | cons hr htake _ ih =>
    obtain ⟨ht₁, hi₁⟩ := htake.closed hb hr ht
    obtain ⟨ht₂, hi₂⟩ := ih (htake.sound hr hb) ht₁
    exact ⟨ht₂, hi₂.trans hi₁⟩

/-! ## Blocks to go on in -/

/-- The blocks in which code behind the open scopes is to go on are empty. -/
def Vacant (b : Builder L) : Prop := ∀ s ∈ b.scopes, b.graph.itemsAt s.landing = []

/-- At the start no scope is open. -/
theorem vacant_start (n : Nat) : (Builder.start n : Builder L).Vacant := by
  intro s hs
  cases hs

/-- A function returns outside of all scopes. -/
theorem Takes.scopes_of_returned (h : Takes stage puts b i b') (hr : b.returned = false)
    (hr' : b'.returned = true) : b'.scopes = [] := by
  cases h with
  | control h =>
    cases h with
    | ret hop hs => exact hs
    | beginIf | elseArm | endIf | beginLoop | endLoop | beginSwitch | caseLabel | defaultLabel
    | endSwitch | leave | leaveIf | discard => cases hr.symm.trans hr'
  | put | skip => cases hr.symm.trans hr'

/-- A block that a scope has still to close or to go on in is open, and it is not the current
one. -/
theorem Sound.pending (h : b.Sound) (hr : b.returned = false) {s : Scope} (hs : s ∈ b.scopes)
    (hx : x ∈ s.pending) : b.graph.IsOpen x ∧ x ≠ b.current := by
  have hmem : x ∈ b.scopes.flatMap Scope.pending := List.mem_flatMap.2 ⟨s, hs, hx⟩
  have howns := h.owns
  rw [owned_of_not_returned hr] at howns
  refine ⟨(howns.isOpen_iff _).2 (List.mem_cons_of_mem _ hmem), ?_⟩
  intro heq
  exact (List.nodup_cons.1 howns.nodup).1 (heq ▸ hmem)

/-- Where code goes on after a step was the landing of a scope before, or is a new block. -/
theorem Step.landings (h : Step stage b i b') (hr' : b'.returned = false) {x : BlockId}
    (hx : x ∈ b'.current :: b'.scopes.map Scope.landing) :
    x ∈ b.scopes.map Scope.landing ∨ b.graph.size ≤ x := by
  have hold : ∀ s ∈ b.scopes, s.landing ∈ b.scopes.map Scope.landing :=
    fun s hs => List.mem_map.2 ⟨s, hs, rfl⟩
  have hnew : b.graph.size ≤ b.graph.size + 1 := Nat.le_succ _
  cases h with
  | beginIf | beginLoop | beginSwitch =>
    rcases List.mem_cons.1 hx with rfl | hx
    · exact .inr (by simp)
    · rcases List.mem_cons.1 hx with rfl | hx
      · exact .inr (by simp [Scope.landing])
      · exact .inl hx
  | elseArm hop hs =>
    rw [hs]
    rcases List.mem_cons.1 hx with rfl | hx
    · exact .inl List.mem_cons_self
    · rcases List.mem_cons.1 hx with rfl | hx
      · exact .inr (Nat.le_refl _)
      · exact .inl (List.mem_cons_of_mem _ hx)
  | endIf hop hs | endLoop hop hs | endSwitch hop hs =>
    rw [hs]
    exact .inl hx
  | caseLabel hop hv hs | defaultLabel hop hs =>
    rw [hs]
    rcases List.mem_cons.1 hx with rfl | hx
    · exact .inr (Nat.le_refl _)
    · exact .inl hx
  | leave | leaveIf =>
    rcases List.mem_cons.1 hx with rfl | hx
    · exact .inr (Nat.le_refl _)
    · exact .inl hx
  | discard =>
    rcases List.mem_cons.1 hx with rfl | hx
    · exact .inr hnew
    · exact .inl hx
  | ret => cases hr'

/-- After a step, the current block is empty, and so are those in which code is to go on later. -/
theorem Step.vacant (h : Step stage b i b') (hb : b.Sound) (hr : b.returned = false)
    (hv : b.Vacant) (hr' : b'.returned = false) :
    b'.Vacant ∧ b'.graph.itemsAt b'.current = [] := by
  have ht : Takes stage (fun _ _ => True) b i b' := .control h
  have hb' : b'.Sound := ht.sound hr hb
  have hempty : ∀ x ∈ b'.current :: b'.scopes.map Scope.landing,
      b'.graph.IsOpen x → b'.graph.itemsAt x = [] := by
    intro x hx ho
    rw [h.itemsAt_of_isOpen ho]
    rcases h.landings hr' hx with hold | hnew
    · obtain ⟨s, hs, rfl⟩ := List.mem_map.1 hold
      exact hv s hs
    · exact Graph.itemsAt_of_size_le hnew
  constructor
  · intro s hs
    have hmem : s.landing ∈ b'.scopes.map Scope.landing := List.mem_map.2 ⟨s, hs, rfl⟩
    exact hempty _ (List.mem_cons_of_mem _ hmem) (hb'.pending hr' hs s.landing_mem_pending).1
  · exact hempty _ List.mem_cons_self (hb'.isOpen_current hr')

/-- What is taken in fills no block that a scope has still to go on in. -/
theorem Takes.vacant (h : Takes stage puts b i b') (hb : b.Sound) (hr : b.returned = false)
    (hv : b.Vacant) : b'.Vacant := by
  cases hr' : b'.returned with
  | true =>
    intro s hs
    rw [h.scopes_of_returned hr hr'] at hs
    cases hs
  | false =>
    cases h with
    | control h => exact (h.vacant hb hr hv hr').1
    | put =>
      intro s hs
      rw [Builder.append, Graph.itemsAt_push_of_ne (hb.pending hr hs s.landing_mem_pending).2]
      exact hv s hs
    | skip => exact hv

/-- What every builder that has read from the start satisfies. -/
theorem Reads.vacant (h : Reads stage puts b is b') (hb : b.Sound) (hv : b.Vacant) : b'.Vacant := by
  induction h with
  | nil => exact hv
  | cons hr ht _ ih => exact ih (ht.sound hr hb) (ht.vacant hb hr hv)

end Builder

/-! ## Dispatching blocks -/

/-- A switch has met more labels. -/
structure SwitchScope.Grows (s s' : SwitchScope) : Prop where
  dispatch : s'.dispatch = s.dispatch
  exit : s'.exit = s.exit
  selector : s'.selector = s.selector
  cases : ∀ {v : UInt32} {x : BlockId}, s.cases[v]? = some x → s'.cases[v]? = some x
  fallback : ∀ {x}, s.fallback = some x → s'.fallback = some x

namespace SwitchScope.Grows

variable {s s' s'' : SwitchScope}

/-- A switch grows into itself. -/
theorem refl : s.Grows s := ⟨rfl, rfl, rfl, id, id⟩

/-- A switch that goes on growing has grown. -/
theorem trans (h : s.Grows s') (h' : s'.Grows s'') : s.Grows s'' where
  dispatch := h'.dispatch.trans h.dispatch
  exit := h'.exit.trans h.exit
  selector := h'.selector.trans h.selector
  cases hx := h'.cases (h.cases hx)
  fallback hx := h'.fallback (h.fallback hx)

/-- A new label lets a switch grow. -/
theorem insert {v : UInt32} (hv : v ∉ s.cases) (x : BlockId) :
    s.Grows { s with cases := s.cases.insert v x } where
  dispatch := rfl
  exit := rfl
  selector := rfl
  cases {w y} hy := by
    have hw : w ∈ s.cases := by
      rw [Std.ExtTreeMap.mem_iff_isSome_getElem?, hy]
      rfl
    have hne : v ≠ w := fun he => hv (he ▸ hw)
    simp [Std.ExtTreeMap.getElem?_insert, hne, hy]
  fallback := id

/-- A default lets a switch grow. -/
theorem default (hs : s.fallback = none) (x : BlockId) :
    s.Grows { s with fallback := some x } where
  dispatch := rfl
  exit := rfl
  selector := rfl
  cases := id
  fallback hy := by
    rw [hs] at hy
    cases hy

end SwitchScope.Grows

namespace Builder

variable {L : Type} {stage : Stage} {puts : Placement L} {b b' : Builder L} {i : Instruction}
  {is : List Instruction} {s : SwitchScope}

/-- The block that dispatches is open and is not the current one. -/
theorem Sound.dispatch (h : b.Sound) (hr : b.returned = false) (hs : .switch s ∈ b.scopes) :
    b.graph.IsOpen s.dispatch ∧ s.dispatch ≠ b.current :=
  h.pending hr hs List.mem_cons_self

/-- A step leaves an open switch open, with the labels met before, or closes its dispatching block
with them. -/
theorem Step.switch (h : Step stage b i b') (hb : b.Sound) (hr : b.returned = false)
    (hs : .switch s ∈ b.scopes) :
    (∃ s', .switch s' ∈ b'.scopes ∧ s.Grows s') ∨
      b'.graph.terminatorAt s.dispatch = some (.switch s.selector s.cases s.default) ∧
        b'.graph.itemsAt s.dispatch = b.graph.itemsAt s.dispatch := by
  cases h with
  | beginIf | beginLoop | beginSwitch => exact .inl ⟨s, List.mem_cons_of_mem _ hs, .refl⟩
  | leave | leaveIf | ret | discard => exact .inl ⟨s, hs, .refl⟩
  | elseArm hop hs' =>
    rw [hs'] at hs
    rcases List.mem_cons.1 hs with heq | hs
    · cases heq
    · exact .inl ⟨s, List.mem_cons_of_mem _ hs, .refl⟩
  | endIf hop hs' | endLoop hop hs' =>
    rw [hs'] at hs
    rcases List.mem_cons.1 hs with heq | hs
    · cases heq
    · exact .inl ⟨s, hs, .refl⟩
  | caseLabel hop hv hs' hnew =>
    rw [hs'] at hs
    rcases List.mem_cons.1 hs with heq | hs
    · cases heq
      exact .inl ⟨_, List.mem_cons_self, .insert hnew _⟩
    · exact .inl ⟨s, List.mem_cons_of_mem _ hs, .refl⟩
  | defaultLabel hop hs' hnew =>
    rw [hs'] at hs
    rcases List.mem_cons.1 hs with heq | hs
    · cases heq
      exact .inl ⟨_, List.mem_cons_self, .default hnew _⟩
    · exact .inl ⟨s, List.mem_cons_of_mem _ hs, .refl⟩
  | endSwitch hop hs' =>
    have hlt := (hb.dispatch hr hs).1.lt_size
    rw [hs'] at hs
    rcases List.mem_cons.1 hs with heq | hs
    · cases heq
      refine .inr ⟨Graph.terminatorAt_close_self ?_, by simp⟩
      rw [Graph.size_close]
      exact hlt
    · exact .inl ⟨s, hs, .refl⟩

/-- When the function has returned, the dispatching block of a switch that was open has the items it
had, and a terminator with at least the labels met by then. -/
theorem Reads.dispatch (h : Reads stage puts b is b') (hb : b.Sound) (hr : b.returned = false)
    (hr' : b'.returned = true) (hs : .switch s ∈ b.scopes) :
    ∃ s', s.Grows s' ∧
      b'.graph.terminatorAt s.dispatch = some (.switch s'.selector s'.cases s'.default) ∧
      b'.graph.itemsAt s.dispatch = b.graph.itemsAt s.dispatch := by
  induction h generalizing s with
  | nil => cases hr.symm.trans hr'
  | @cons b b₁ b' i is _ ht h ih =>
    have hb₁ := ht.sound hr hb
    have hopen {s' : SwitchScope} (hs' : .switch s' ∈ b₁.scopes) : b₁.returned = false := by
      refine Bool.eq_false_iff.2 fun hr₁ => ?_
      rw [ht.scopes_of_returned hr hr₁] at hs'
      cases hs'
    cases ht with
    | skip => exact ih hb hr hr' hs
    | put =>
      obtain ⟨s', hg, hterm, hitems⟩ := ih hb₁ hr hr' hs
      refine ⟨s', hg, hterm, hitems.trans ?_⟩
      exact Graph.itemsAt_push_of_ne (hb.dispatch hr hs).2
    | control hstep =>
      rcases hstep.switch hb hr hs with ⟨s₁, hs₁, hg₁⟩ | ⟨hterm, hitems⟩
      · obtain ⟨s', hg, hterm, hitems⟩ := ih hb₁ (hopen hs₁) hr' hs₁
        have hsame := hstep.itemsAt_of_isOpen (hb₁.dispatch (hopen hs₁) hs₁).1
        rw [hg₁.dispatch] at hterm hitems hsame
        exact ⟨s', hg₁.trans hg, hterm, hitems.trans hsame⟩
      · obtain ⟨hterm', hitems'⟩ := h.closed hb₁ hterm
        exact ⟨s, .refl, hterm', hitems'.trans hitems⟩

end Builder

end ShaderFlow
