import Mathlib.Data.List.Basic
import ShaderFlow.Proofs.Reading

/-!
# Who owns the open blocks

While a graph is built, an open block is either the current one or a block that an open scope has
still to close or to go on in, and no block is claimed twice. `Graph.Owns` keeps these books: each
elementary change of a graph adds or removes one owner. With it goes what every graph under
construction satisfies, `Graph.Sound`: edges lead to blocks, and only the exit returns. Both
together are `Builder.Sound`, which every instruction preserves (`Builder.Takes.sound`).
-/

namespace ShaderFlow

/-- The values of a map are those found under its keys. -/
theorem IdMap.mem_values_iff {α : Type} {m : IdMap α} {a : α} :
    a ∈ m.values ↔ ∃ k : UInt32, m[k]? = some a := by
  have hfold : m.values = m.foldr (fun _ v l => v :: l) [] := rfl
  have hmap : ∀ l : List (UInt32 × α), l.foldr (fun p l => p.2 :: l) [] = l.map Prod.snd := by
    intro l
    induction l with
    | nil => rfl
    | cons p l ih => simp [ih]
  rw [hfold, Std.ExtTreeMap.foldr_eq_foldr_toList, hmap]
  simp [Std.ExtTreeMap.mem_toList_iff_getElem?_eq_some]

/-! ## Graphs -/

namespace Graph

variable {L : Type} {g : Graph L} {b : BlockId} {t : Terminator} {ids ids' : List BlockId}

/-- The listed blocks are the open ones, each listed once. -/
structure Owns (g : Graph L) (ids : List BlockId) : Prop where
  nodup : ids.Nodup
  isOpen_iff : ∀ b, g.IsOpen b ↔ b ∈ ids

namespace Owns

/-- At the start only the entry is open. -/
theorem initial : (Graph.initial : Graph L).Owns [0] where
  nodup := by simp
  isOpen_iff b := by
    match b with
    | 0 => exact ⟨fun _ => List.mem_singleton_self 0, fun _ => ⟨_, rfl, rfl⟩⟩
    | 1 => simp [IsOpen, Graph.initial, block?, Block.isOpen]
    | _ + 2 => simp [IsOpen, Graph.initial, block?]

/-- The order of the entries does not matter. -/
theorem perm (h : g.Owns ids) (hp : ids.Perm ids') : g.Owns ids' where
  nodup := hp.nodup_iff.1 h.nodup
  isOpen_iff b := (h.isOpen_iff b).trans hp.mem_iff

/-- A listed block is below the size of the graph. -/
theorem lt_size (h : g.Owns ids) (hb : b ∈ ids) : b < g.size := ((h.isOpen_iff b).2 hb).lt_size

/-- A new block gets an owner. -/
theorem alloc {name : String} (h : g.Owns ids) : (g.alloc name).Owns (g.size :: ids) where
  nodup := by
    refine List.nodup_cons.2 ⟨fun hmem => ?_, h.nodup⟩
    exact absurd (h.lt_size hmem) (Nat.lt_irrefl _)
  isOpen_iff b := by rw [isOpen_alloc, h.isOpen_iff, List.mem_cons]

/-- A block that is closed has an owner no more. -/
theorem close (h : g.Owns (b :: ids)) : (g.close b t).Owns ids where
  nodup := (List.nodup_cons.1 h.nodup).2
  isOpen_iff c := by
    have hb : b ∉ ids := (List.nodup_cons.1 h.nodup).1
    rw [isOpen_close, h.isOpen_iff, List.mem_cons]
    constructor
    · rintro ⟨hc, rfl | hmem⟩
      · exact absurd rfl hc
      · exact hmem
    · intro hmem
      exact ⟨fun hc => hb (hc ▸ hmem), .inr hmem⟩

/-- Items change no owner. -/
theorem push {item : BlockItem L} (h : g.Owns ids) : (g.push b item).Owns ids where
  nodup := h.nodup
  isOpen_iff c := by rw [isOpen_push, h.isOpen_iff]

/-- The owners are books about the open blocks, if these are referred to by their indices. -/
theorem books : Books id (Owns (L := L)) where
  perm := perm
  alloc _ h := h.alloc
  close _ h _ := h.close
  push _ _ h := h.push

end Owns

/-- What holds of a graph from the start: it has an entry and another block to return from, edges
lead to blocks, and only that other block returns. -/
structure Sound (g : Graph L) : Prop where
  entry_eq : g.entry = 0
  exit_eq : g.exit = 1
  exit_lt : g.exit < g.size
  successors_lt : ∀ b, ∀ c ∈ g.successors b, c < g.size
  ret_iff : ∀ {b block}, g.block? b = some block → (block.terminator = some .ret ↔ b = g.exit)

/-- The targets of a block are those of its terminator. -/
theorem mem_successors_iff {c : BlockId} :
    c ∈ g.successors b ↔
      ∃ block t, g.block? b = some block ∧ block.terminator = some t ∧ c ∈ t.successors := by
  unfold successors Block.successors
  cases g.block? b with
  | none => simp
  | some block => cases ht : block.terminator <;> simp [ht]

namespace Sound

/-- The two blocks at the start: nothing leads anywhere yet. -/
theorem initial : (Graph.initial : Graph L).Sound where
  entry_eq := rfl
  exit_eq := rfl
  exit_lt := Nat.lt_succ_self 1
  successors_lt b c hc := by
    obtain ⟨block, t, hb, ht, hc⟩ := mem_successors_iff.1 hc
    match b with
    | 0 => cases hb; cases ht
    | 1 => cases hb; cases ht; cases hc
    | _ + 2 => cases hb
  ret_iff {b block} hb := by
    match b with
    | 0 => cases hb; simp [Graph.initial]
    | 1 => cases hb; simp [Graph.initial]
    | _ + 2 => cases hb

/-- An open block is not the exit. -/
theorem ne_exit (h : g.Sound) (ho : g.IsOpen b) : b ≠ g.exit := by
  obtain ⟨block, hb, ho⟩ := ho
  intro he
  have hret := (h.ret_iff hb).2 he
  simp [Block.isOpen, hret] at ho

/-- A new block has no edges. -/
theorem alloc {name : String} (h : g.Sound) : (g.alloc name).Sound where
  entry_eq := h.entry_eq
  exit_eq := h.exit_eq
  exit_lt := by
    rw [size_alloc]
    exact Nat.lt_succ_of_lt h.exit_lt
  successors_lt b c hc := by
    obtain ⟨block, t, hb, ht, hc⟩ := mem_successors_iff.1 hc
    rw [block?_alloc] at hb
    split at hb
    · cases hb
      cases ht
    · rw [size_alloc]
      exact Nat.lt_succ_of_lt (h.successors_lt b c (mem_successors_iff.2 ⟨block, t, hb, ht, hc⟩))
  ret_iff {b block} hb := by
    rw [block?_alloc] at hb
    split at hb
    · next hb' =>
      cases hb
      have hne : g.size ≠ g.exit := Nat.ne_of_gt h.exit_lt
      simp [hb', hne]
    · exact h.ret_iff hb

/-- Items add no edges. -/
theorem push {item : BlockItem L} (h : g.Sound) : (g.push b item).Sound where
  entry_eq := h.entry_eq
  exit_eq := h.exit_eq
  exit_lt := by
    rw [size_push]
    exact h.exit_lt
  successors_lt c d hd := by
    obtain ⟨block, t, hc, ht, hd⟩ := mem_successors_iff.1 hd
    rw [block?_push] at hc
    rw [size_push]
    split at hc
    · obtain ⟨block', hc', rfl⟩ := Option.map_eq_some_iff.1 hc
      exact h.successors_lt c d (mem_successors_iff.2 ⟨block', t, hc', ht, hd⟩)
    · exact h.successors_lt c d (mem_successors_iff.2 ⟨block, t, hc, ht, hd⟩)
  ret_iff {c block} hc := by
    rw [block?_push] at hc
    split at hc
    · obtain ⟨block', hc', rfl⟩ := Option.map_eq_some_iff.1 hc
      have hret := h.ret_iff hc'
      exact hret
    · exact h.ret_iff hc

/-- An open block may be closed with edges to blocks. -/
theorem close (h : g.Sound) (ho : g.IsOpen b) (hret : t ≠ .ret)
    (ht : ∀ c ∈ t.successors, c < g.size) : (g.close b t).Sound where
  entry_eq := h.entry_eq
  exit_eq := h.exit_eq
  exit_lt := by
    rw [size_close]
    exact h.exit_lt
  successors_lt c d hd := by
    obtain ⟨block, t', hc, ht', hd⟩ := mem_successors_iff.1 hd
    rw [block?_close] at hc
    rw [size_close]
    split at hc
    · obtain ⟨block', -, rfl⟩ := Option.map_eq_some_iff.1 hc
      cases ht'
      exact ht d hd
    · exact h.successors_lt c d (mem_successors_iff.2 ⟨block, t', hc, ht', hd⟩)
  ret_iff {c block} hc := by
    rw [block?_close] at hc
    split at hc
    · next hbc =>
      subst hbc
      obtain ⟨block', -, rfl⟩ := Option.map_eq_some_iff.1 hc
      simp [hret, h.ne_exit ho]
    · exact h.ret_iff hc

/-- The one new edge of a `discard` leads to a block that is there. -/
theorem allocDiscard (h : g.Sound) : g.allocDiscard.Sound := by
  refine (h.alloc.alloc.push).close ?_ (by nofun) (by simp [Terminator.successors])
  exact isOpen_push.2 (isOpen_alloc.2 (.inr (isOpen_alloc.2 (.inl rfl))))

end Sound

end Graph

/-! ## Scopes and builders -/

namespace Scope

/-- The blocks to which a scope may let control go are below a bound. -/
def Within (n : Nat) : Scope → Prop
  | .branch alternative merge => merge.getD alternative < n
  | .loop entrance exit => entrance < n ∧ exit < n
  | .switch s =>
    s.exit < n ∧ (∀ (k : UInt32) (c : BlockId), s.cases[k]? = some c → c < n) ∧
      ∀ c, s.fallback = some c → c < n

/-- Blocks that are there stay there when the graph grows. -/
theorem Within.mono {n m : Nat} {s : Scope} (h : s.Within n) (hnm : n ≤ m) : s.Within m := by
  cases s with
  | branch alternative merge => exact Nat.lt_of_lt_of_le h hnm
  | loop entrance exit => exact ⟨Nat.lt_of_lt_of_le h.1 hnm, Nat.lt_of_lt_of_le h.2 hnm⟩
  | switch s =>
    obtain ⟨he, hc, hf⟩ := h
    exact ⟨Nat.lt_of_lt_of_le he hnm, fun k c hk => Nat.lt_of_lt_of_le (hc k c hk) hnm,
      fun c hk => Nat.lt_of_lt_of_le (hf c hk) hnm⟩

end Scope

namespace Builder

variable {L : Type} {stage : Stage} {puts : Placement L} {b b' : Builder L} {i : Instruction}
  {is : List Instruction}

/-- What holds of a builder at all times. -/
structure Sound (b : Builder L) : Prop where
  graph : b.graph.Sound
  owns : b.graph.Owns b.owned
  scopes : ∀ s ∈ b.scopes, s.Within b.graph.size

/-- The builder at the start is sound. -/
theorem sound_start (n : Nat) : (Builder.start n : Builder L).Sound where
  graph := .initial
  owns := .initial
  scopes s hs := by cases hs

namespace Sound

/-- The current block is open until the function has returned. -/
theorem isOpen_current (h : b.Sound) (hr : b.returned = false) : b.graph.IsOpen b.current := by
  refine (h.owns.isOpen_iff _).2 ?_
  rw [owned_of_not_returned hr]
  exact List.mem_cons_self

/-- Until the function returns, the current block can be closed. -/
theorem closable_current (h : b.Sound) (hr : b.returned = false) : b.graph.Closable b.current :=
  (h.isOpen_current hr).closable

/-- The dispatching block of a switch stays open when the current block is closed. -/
theorem isOpen_dispatch (h : b.Sound) (hr : b.returned = false) {s : SwitchScope}
    {rest : List Scope} (hs : b.scopes = .switch s :: rest) (t : Terminator) :
    (b.graph.close b.current t).IsOpen s.dispatch := by
  have ho := h.owns
  rw [owned_of_not_returned hr, hs] at ho
  exact (ho.close.isOpen_iff _).2 List.mem_cons_self

/-- Jumps out of the code at hand lead to blocks. -/
theorem target_lt (h : b.Sound) {way : Leave} {target : BlockId}
    (ht : b.target? way = some target) : target < b.graph.size := by
  cases way with
  | breakOut =>
    obtain ⟨s, hs, ht⟩ := List.exists_of_findSome?_eq_some ht
    have hw := h.scopes s hs
    cases s with
    | branch => cases ht
    | loop => cases ht; exact hw.2
    | switch => cases ht; exact hw.1
  | continueLoop =>
    obtain ⟨s, hs, ht⟩ := List.exists_of_findSome?_eq_some ht
    have hw := h.scopes s hs
    cases s with
    | branch => cases ht
    | loop => cases ht; exact hw.1
    | switch => cases ht
  | ret =>
    cases ht
    exact h.graph.exit_lt

/-- A sound builder stays sound when the current block is filled. -/
theorem append (h : b.Sound) (value : L) : (b.append value).Sound where
  graph := h.graph.push
  owns := h.owns.push
  scopes s hs := by
    rw [Builder.append, Graph.size_push]
    exact h.scopes s hs

end Sound

/-- A step hands the open blocks on. -/
theorem Step.owns (hr : b.returned = false) (h : Step stage b i b') (hb : b.graph.Owns b.owned) :
    b'.graph.Owns b'.owned :=
  StepWith.books Graph.Owns.books hr h hb

/-- A step adds edges to blocks only, and closes none but open blocks. -/
theorem Step.graph_sound (hr : b.returned = false) (h : Step stage b i b') (hb : b.Sound) :
    b'.graph.Sound := by
  have hopen := hb.isOpen_current hr
  have hg := hb.graph
  have hkept {c d : String} : ((b.graph.alloc c).alloc d).IsOpen b.current :=
    Graph.isOpen_alloc.2 (.inr (Graph.isOpen_alloc.2 (.inr hopen)))
  have hfirst {c d : String} : b.graph.size < ((b.graph.alloc c).alloc d).size := by
    rw [Graph.size_alloc, Graph.size_alloc]
    exact Nat.lt_succ_of_lt (Nat.lt_succ_self _)
  have hsecond {c d : String} : b.graph.size + 1 < ((b.graph.alloc c).alloc d).size := by
    rw [Graph.size_alloc, Graph.size_alloc]
    exact Nat.lt_succ_self _
  cases h with
  | beginIf =>
    refine hg.alloc.alloc.close hkept nofun ?_
    intro c hmem
    simp only [Terminator.successors, List.mem_cons, List.not_mem_nil, or_false] at hmem
    rcases hmem with rfl | rfl
    · exact hfirst
    · exact hsecond
  | elseArm hop hs =>
    refine hg.alloc.close (Graph.isOpen_alloc.2 (.inr hopen)) nofun ?_
    simp [Terminator.successors]
  | endIf hop hs =>
    have hw := hb.scopes _ (hs ▸ List.mem_cons_self)
    refine hg.close hopen nofun ?_
    simpa [Terminator.successors, Scope.Within] using hw
  | beginLoop =>
    refine hg.alloc.alloc.close hkept nofun ?_
    intro c hmem
    cases List.mem_singleton.1 hmem
    exact hfirst
  | endLoop hop hs =>
    have hw := hb.scopes _ (hs ▸ List.mem_cons_self)
    refine hg.close hopen nofun ?_
    simpa [Terminator.successors] using hw.1
  | beginSwitch => exact hg.alloc.alloc
  | caseLabel hop hv hs | defaultLabel hop hs =>
    refine hg.alloc.close (Graph.isOpen_alloc.2 (.inr hopen)) nofun ?_
    simp [Terminator.successors]
  | @endSwitch s rest hop hs =>
    obtain ⟨he, hc, hf⟩ := hb.scopes _ (hs ▸ List.mem_cons_self)
    have hdispatch := hb.isOpen_dispatch hr hs (.jump s.exit)
    refine (hg.close (t := .jump s.exit) hopen nofun ?_).close hdispatch nofun ?_
    · simpa [Terminator.successors] using he
    · intro c hmem
      rw [Graph.size_close]
      simp only [Terminator.successors, List.mem_append, List.mem_singleton,
        IdMap.mem_values_iff] at hmem
      rcases hmem with ⟨k, hk⟩ | rfl
      · exact hc k c hk
      · unfold SwitchScope.default
        cases hfb : s.fallback with
        | none => exact he
        | some c => exact hf c hfb
  | @leave way target hop ht =>
    refine (hg.close (t := .jump target) hopen nofun ?_).alloc
    simpa [Terminator.successors] using hb.target_lt ht
  | leaveIf way hop ht =>
    refine hg.alloc.close (Graph.isOpen_alloc.2 (.inr hopen)) nofun ?_
    intro c hmem
    rw [Graph.size_alloc]
    simp only [Terminator.successors, List.mem_cons, List.not_mem_nil, or_false] at hmem
    rcases hmem with rfl | rfl
    · exact Nat.lt_succ_of_lt (hb.target_lt ht)
    · exact Nat.lt_succ_self _
  | ret =>
    refine hg.close hopen nofun ?_
    simpa [Terminator.successors] using hg.exit_lt
  | discard =>
    refine hg.allocDiscard.close (Graph.isOpen_allocDiscard.2 (.inr hopen)) nofun ?_
    simp [Terminator.successors]

/-- The scopes that are open after a step lead to blocks. -/
theorem Step.scopes_within (h : Step stage b i b') (hb : b.Sound) :
    ∀ s ∈ b'.scopes, s.Within b'.graph.size := by
  have hle := h.size_le.1
  have hold : ∀ s ∈ b.scopes, s.Within b'.graph.size := fun s hs => (hb.scopes s hs).mono hle
  have htail {s : Scope} {rest : List Scope} (hs : b.scopes = s :: rest) :
      ∀ s ∈ rest, s.Within b'.graph.size := fun s hmem => hold s (hs ▸ List.mem_cons_of_mem _ hmem)
  have hlt : b.graph.size < b.graph.size + 1 + 1 := Nat.lt_add_of_pos_right Nat.two_pos
  cases h with
  | beginIf | beginLoop =>
    refine List.forall_mem_cons.2 ⟨?_, hold⟩
    simp [Scope.Within, hlt]
  | elseArm hop hs =>
    refine List.forall_mem_cons.2 ⟨?_, htail hs⟩
    simp [Scope.Within]
  | endIf hop hs | endLoop hop hs | endSwitch hop hs => exact htail hs
  | beginSwitch =>
    refine List.forall_mem_cons.2 ⟨?_, hold⟩
    simp [Scope.Within, hlt]
  | @caseLabel value s rest hop hv hs =>
    obtain ⟨he, hc, hf⟩ := hold _ (hs ▸ List.mem_cons_self)
    refine List.forall_mem_cons.2 ⟨⟨he, fun k c hk => ?_, hf⟩, htail hs⟩
    rw [Std.ExtTreeMap.getElem?_insert] at hk
    split at hk
    · cases hk
      simp
    · exact hc k c hk
  | @defaultLabel s rest hop hs =>
    obtain ⟨he, hc, hf⟩ := hold _ (hs ▸ List.mem_cons_self)
    refine List.forall_mem_cons.2 ⟨⟨he, hc, fun c hk => ?_⟩, htail hs⟩
    cases hk
    simp
  | leave | leaveIf | ret | discard => exact hold

/-- Every instruction that is taken in preserves soundness. -/
theorem Takes.sound (h : Takes stage puts b i b') (hr : b.returned = false) (hb : b.Sound) :
    b'.Sound := by
  cases h with
  | control h => exact ⟨h.graph_sound hr hb, h.owns hr hb.owns, h.scopes_within hb⟩
  | put => exact hb.append _
  | skip => exact hb

/-- What a builder has read leaves it sound. -/
theorem Reads.sound (h : Reads stage puts b is b') (hb : b.Sound) : b'.Sound :=
  h.preserves (fun hr ht => ht.sound hr) hb

end Builder

end ShaderFlow
