import ShaderFlow.Proofs.Step

/-!
# Counting the open blocks

While a graph is built, each open block is the current one or a block that an open scope has still
to close or to go on in (`Scope.pending`). Whoever keeps books about these blocks adds an entry for
a new block and strikes out the entry of a block that is closed (`Graph.Books`), and then every step
leaves the books in order (`Builder.StepWith.books`).

Here the entries are counted. There are as many of them as open blocks (`Builder.Tallied`), also
when there are more blocks than ids and the ids of new blocks are not new. Blocks behind the last id
are never closed. So a function that has returned, which has no open block left, has no more blocks
than there are ids (`Builder.Tallied.size_le`).
-/

namespace ShaderFlow

/-! ## Graphs -/

namespace Graph

variable {L : Type} {g : Graph L} {b : BlockId} {t : Terminator} {ids ids' : List BlockId}

/-- The number of open blocks. -/
def openCount (g : Graph L) : Nat := g.blocks.toList.countP Block.isOpen

/-- A new block is open. -/
theorem openCount_alloc {name : String} : (g.alloc name).openCount = g.openCount + 1 := by
  simp [openCount, alloc, addBlock, List.countP_append, Block.isOpen]

/-- Items open and close nothing. -/
theorem openCount_push {item : BlockItem L} : (g.push b item).openCount = g.openCount := by
  unfold openCount push
  rw [Array.toList_modify]
  generalize g.blocks.toList = blocks
  induction blocks generalizing b with
  | nil => cases b <;> rfl
  | cons block blocks ih =>
    cases b with
    | zero => simp [List.countP_cons, Block.isOpen]
    | succ b => simp [List.countP_cons, ih]

/-- Closing an open block leaves one less. -/
theorem openCount_close (h : g.IsOpen b) : (g.close b t).openCount + 1 = g.openCount := by
  obtain ⟨block, hb, ho⟩ := h
  rw [block?, ← Array.getElem?_toList] at hb
  unfold openCount close
  rw [Array.toList_modify]
  generalize g.blocks.toList = blocks at hb
  induction blocks generalizing b with
  | nil => cases hb
  | cons first blocks ih =>
    cases b with
    | zero =>
      cases hb
      rw [List.modify_zero_cons, List.countP_cons_of_pos ho, List.countP_cons_of_neg]
      simp [Block.isOpen]
    | succ b =>
      have hrest := ih hb
      simp only [List.modify_succ_cons, List.countP_cons]
      omega

/-- Where a block is open, the number is not zero. -/
theorem openCount_pos (h : g.IsOpen b) : 0 < g.openCount := by
  obtain ⟨block, hb, ho⟩ := h
  have hmem : block ∈ g.blocks := Array.mem_of_getElem? hb
  exact List.countP_pos_iff.2 ⟨block, Array.mem_toList_iff.2 hmem, ho⟩

/-- Books about the blocks of a graph: each elementary change of the graph adds or removes one
entry. A new block is entered under the id that `ref` gives for its index. -/
structure Books (ref : Nat → BlockId) (holds : Graph L → List BlockId → Prop) : Prop where
  perm : ∀ {g ids ids'}, holds g ids → ids.Perm ids' → holds g ids'
  alloc : ∀ {g ids} (name : String), holds g ids → holds (g.alloc name) (ref g.size :: ids)
  close : ∀ {g b ids} (t : Terminator), holds g (b :: ids) → g.Closable b → holds (g.close b t) ids
  push : ∀ {g ids} (b : BlockId) (item : BlockItem L), holds g ids → holds (g.push b item) ids

/-- The listed ids are as many as the open blocks. They are ids of blocks, and blocks without an id
are open. -/
structure Tallies (g : Graph L) (ids : List BlockId) : Prop where
  openCount_eq : g.openCount = ids.length
  lt : ∀ b ∈ ids, b < g.size ∧ b < UInt32.size
  beyond : ∀ b, UInt32.size ≤ b → b < g.size → g.IsOpen b

namespace Tallies

/-- At the start one of the two blocks is open. -/
theorem initial : (Graph.initial : Graph L).Tallies [0] where
  openCount_eq := rfl
  lt b hb := by
    cases List.mem_singleton.1 hb
    exact ⟨Nat.two_pos, by decide⟩
  beyond b hb hlt := by
    have htwo : b < 2 := hlt
    have hfew : 2 < UInt32.size := by decide
    omega

/-- The order of the entries does not matter. -/
theorem perm (h : g.Tallies ids) (hp : ids.Perm ids') : g.Tallies ids' where
  openCount_eq := h.openCount_eq.trans hp.length_eq
  lt b hb := h.lt b (hp.mem_iff.2 hb)
  beyond := h.beyond

/-- A new block is counted under its id, whether that is new or not. -/
theorem alloc (name : String) (h : g.Tallies ids) :
    (g.alloc name).Tallies (.ofIndex g.size :: ids) where
  openCount_eq := by rw [openCount_alloc, h.openCount_eq, List.length_cons]
  lt := by
    rw [size_alloc]
    refine List.forall_mem_cons.2 ⟨⟨?_, BlockId.ofIndex_lt _⟩, fun b hb => ?_⟩
    · exact Nat.lt_succ_of_le (BlockId.ofIndex_le _)
    · exact ⟨Nat.lt_succ_of_lt (h.lt b hb).1, (h.lt b hb).2⟩
  beyond b hb hlt := by
    rw [size_alloc] at hlt
    rcases Nat.lt_succ_iff_lt_or_eq.1 hlt with hold | heq
    · exact isOpen_alloc.2 (.inr (h.beyond b hb hold))
    · exact isOpen_alloc.2 (.inl heq)

/-- A listed block that can be closed is open. -/
theorem isOpen (h : g.Tallies ids) (hb : b ∈ ids) (ho : g.Closable b) : g.IsOpen b := by
  cases hblock : g.block? b with
  | none => exact absurd (h.lt b hb).1 (Nat.not_lt_of_le (block?_eq_none_iff.1 hblock))
  | some block => exact ⟨block, hblock, ho block hblock⟩

/-- A block that is closed is counted no more. It has an id, so it is none of those behind. -/
theorem close (t : Terminator) (h : g.Tallies (b :: ids)) (ho : g.Closable b) :
    (g.close b t).Tallies ids where
  openCount_eq := by
    have hcount := openCount_close (t := t) (h.isOpen List.mem_cons_self ho)
    rw [h.openCount_eq, List.length_cons] at hcount
    exact Nat.succ.inj hcount
  lt c hc := by
    rw [size_close]
    exact h.lt c (List.mem_cons_of_mem _ hc)
  beyond c hc hlt := by
    rw [size_close] at hlt
    have hb := (h.lt b List.mem_cons_self).2
    exact isOpen_close.2 ⟨Nat.ne_of_gt (Nat.lt_of_lt_of_le hb hc), h.beyond c hc hlt⟩

/-- Items open and close nothing. -/
theorem push (b : BlockId) (item : BlockItem L) (h : g.Tallies ids) :
    (g.push b item).Tallies ids where
  openCount_eq := openCount_push.trans h.openCount_eq
  lt := by
    rw [size_push]
    exact h.lt
  beyond c hc hlt := by
    rw [size_push] at hlt
    exact isOpen_push.2 (h.beyond c hc hlt)

/-- The tally is kept by ids that may come round again. -/
theorem books : Books BlockId.ofIndex (Tallies (L := L)) where
  perm := perm
  alloc := alloc
  close := close
  push := push

end Tallies

end Graph

/-! ## Builders -/

/-- The blocks that a scope has still to close or to go on in. -/
def Scope.pending : Scope → List BlockId
  | .branch alternative merge => [merge.getD alternative]
  | .loop _ exit => [exit]
  | .switch s => [s.dispatch, s.exit]

namespace Builder

variable {L : Type} {stage : Stage} {b b' : Builder L} {i : Instruction}

/-- The blocks that the builder has still to close: none once the function has returned. -/
def owned (b : Builder L) : List BlockId :=
  if b.returned then [] else b.current :: b.scopes.flatMap Scope.pending

/-- Until the function returns, the entries are the current block and those of the open scopes. -/
theorem owned_of_not_returned (hr : b.returned = false) :
    b.owned = b.current :: b.scopes.flatMap Scope.pending := by
  simp [owned, hr]

/-- A step hands the open blocks on: what it closes or goes on in was entered before, and each new
block that stays open is entered. -/
theorem StepWith.books {ref : Nat → BlockId} {holds : Graph L → List BlockId → Prop}
    (B : Graph.Books ref holds) (hr : b.returned = false)
    (h : StepWith (ref b.graph.size) (ref (b.graph.size + 1)) stage b i b')
    (hb : holds b.graph b.owned) : holds b'.graph b'.owned := by
  have running {b : Builder L} (hr : b.returned = false)
      (hb : holds b.graph (b.current :: b.scopes.flatMap Scope.pending)) :
      holds b.graph b.owned := by
    rw [owned_of_not_returned hr]
    exact hb
  rw [owned_of_not_returned hr] at hb
  have two (c d : String) : holds ((b.graph.alloc c).alloc d) (ref (b.graph.size + 1) ::
      ref b.graph.size :: b.current :: b.scopes.flatMap Scope.pending) := by
    rw [← Graph.size_alloc c]
    exact B.alloc d (B.alloc c hb)
  cases h with
  | beginIf _ _ _ ho | beginLoop _ _ ho =>
    refine running hr (B.close _ (B.perm (two _ _) ?_) (by simpa using ho))
    exact (List.reverse_perm [_, _, _]).append_right _
  | elseArm _ hs ho =>
    rw [hs] at hb
    refine running hr (B.close _ (B.perm (B.alloc _ hb) ?_) (by simpa using ho))
    exact (List.Perm.swap ..).trans ((List.Perm.swap ..).cons _)
  | endIf _ hs ho | endLoop _ hs ho =>
    rw [hs] at hb
    exact running hr (B.close _ hb ho)
  | beginSwitch => exact running hr (B.perm (two _ _) ((List.Perm.swap ..).cons _))
  | caseLabel _ _ hs _ ho | defaultLabel _ hs _ ho =>
    rw [hs] at hb
    exact running hr (B.close _ (B.perm (B.alloc _ hb) (List.Perm.swap ..)) (by simpa using ho))
  | endSwitch _ hs ho hdo =>
    rw [hs] at hb
    exact running hr (B.close _ (B.close _ hb ho) hdo)
  | @leave way target _ _ _ ho =>
    have hclosed := B.alloc way.name (B.close (.jump target) hb ho)
    rw [Graph.size_close] at hclosed
    exact running hr hclosed
  | leaveIf _ _ _ _ ho =>
    exact running hr (B.close _ (B.perm (B.alloc _ hb) (List.Perm.swap ..)) (by simpa using ho))
  | ret _ hs ho =>
    rw [hs] at hb
    exact B.close _ hb ho
  | discard _ _ _ hfirst ho =>
    -- The first of the two new blocks is closed at once.
    have hpushed := B.push (ref b.graph.size) .discard (two "discard_fulfilled" "discard_otherwise")
    have hnew :=
      B.close (.jump (ref (b.graph.size + 1))) (B.perm hpushed (List.Perm.swap ..)) hfirst
    exact running hr (B.close _ (B.perm hnew (List.Perm.swap ..)) ho)

/-- The blocks that the builder has still to close are as many as the open blocks. -/
def Tallied (b : Builder L) : Prop := b.graph.Tallies b.owned

/-- The builder at the start is tallied. -/
theorem tallied_start (n : Nat) : (Builder.start n : Builder L).Tallied := Graph.Tallies.initial

namespace Tallied

/-- A value in the current block changes no entry. -/
theorem append (h : b.Tallied) (value : L) : (b.append value).Tallied := Graph.Tallies.push _ _ h

/-- The count is right after every instruction that is not refused. -/
theorem control {u : Unit} (h : b.Tallied) (hr : b.returned = false)
    (hc : Builder.control stage i b = .ok u b') : b'.Tallied :=
  (control_eq_ok_iff.1 hc).books Graph.Tallies.books hr h

/-- A function that has returned has no more blocks than there are ids. -/
theorem size_le (h : b.Tallied) (hr : b.returned = true) : b.graph.size ≤ UInt32.size := by
  refine Nat.le_of_not_lt fun hlt => ?_
  have hopen := h.beyond UInt32.size (Nat.le_refl _) hlt
  have hcount : b.graph.openCount = 0 := by simpa [owned, hr] using h.openCount_eq
  exact absurd (Graph.openCount_pos hopen) (by rw [hcount]; exact Nat.lt_irrefl 0)

end Tallied

/-- Control flow removes no block. -/
theorem size_le_of_control {u : Unit} (hc : control stage i b = .ok u b') :
    b.graph.size ≤ b'.graph.size :=
  (control_eq_ok_iff.1 hc).size_le.1

end Builder

end ShaderFlow
