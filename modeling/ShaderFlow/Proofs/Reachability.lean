import Mathlib.Algebra.Order.BigOperators.Group.Finset
import ShaderFlow.Graph.Reachable

/-!
# Paths and reachable blocks

A block can be reached if a path along edges leads to it from the entry (`Graph.Path`).
`Graph.reachable` finds these blocks with a worklist. In what order blocks are taken off the
worklist makes no difference, so an `Exploration` leaves it open: what waits is a multiset. Every
exploration ends after one turn for the entry and one for each edge that leaves a reachable block,
and has then met the blocks that can be reached (`Graph.reachable_exact`).
-/

namespace ShaderFlow

/-! ## Paths -/

/-- A way along edges, with the blocks on it from the first to the last. -/
inductive Graph.Path {L : Type} (g : Graph L) : BlockId → BlockId → List BlockId → Prop where
  | refl {u : BlockId} : Path g u u [u]
  | step {u v w : BlockId} {path : List BlockId} (he : v ∈ g.successors u) (h : Path g v w path) :
      Path g u w (u :: path)

namespace Graph.Path

variable {L : Type} {g : Graph L} {u v w : BlockId} {path : List BlockId}

/-- A path begins with its first block. -/
theorem head_mem (h : g.Path u v path) : u ∈ path := by
  cases h <;> exact List.mem_cons_self

/-- A path goes on along an edge that leaves its last block. -/
theorem concat (h : g.Path u v path) (he : w ∈ g.successors v) : g.Path u w (path ++ [w]) := by
  induction h with
  | refl => exact .step he .refl
  | step he' _ ih => exact .step he' (ih he)

/-- A path does not leave blocks that no edge leads away from. -/
theorem stays {P : BlockId → Prop} (h : g.Path u v path)
    (hedges : ∀ b, P b → ∀ c ∈ g.successors b, P c) (hu : P u) : P v := by
  induction h with
  | refl => exact hu
  | step he _ ih => exact ih (hedges _ hu _ he)

end Graph.Path

/-! ## Explorations -/

/-- An exploration under way. -/
structure Exploration where
  /-- The blocks that were met. -/
  met : Finset BlockId
  /-- The blocks still to look at. A block may wait several times, also if it was met. -/
  waiting : Multiset BlockId

namespace Exploration

variable {L : Type} {g : Graph L} {n m : Nat} {s s' : Exploration}

/-- An exploration from the entry of a graph. -/
def start (g : Graph L) : Exploration := ⟨∅, {g.entry}⟩

/-- One turn of an exploration: some block that waits is looked at. If it was not met before, its
targets wait from now on. -/
inductive Turn (g : Graph L) : Exploration → Exploration → Prop where
  | again {b : BlockId} {met : Finset BlockId} {rest : Multiset BlockId} (hb : b ∈ met) :
      Turn g ⟨met, b ::ₘ rest⟩ ⟨met, rest⟩
  | first {b : BlockId} {met : Finset BlockId} {rest : Multiset BlockId} (hb : b ∉ met) :
      Turn g ⟨met, b ::ₘ rest⟩ ⟨insert b met, (g.successors b : Multiset BlockId) + rest⟩

/-- A number of turns. -/
inductive Turns (g : Graph L) : Nat → Exploration → Exploration → Prop where
  | nil {s : Exploration} : Turns g 0 s s
  | cons {n : Nat} {s s₁ s' : Exploration} (ht : Turn g s s₁) (h : Turns g n s₁ s') :
      Turns g (n + 1) s s'

/-- As long as a block waits, there is a turn to take. -/
theorem exists_turn (h : s.waiting ≠ 0) : ∃ s', Turn g s s' := by
  obtain ⟨met, waiting⟩ := s
  obtain ⟨b, hb⟩ := Multiset.exists_mem_of_ne_zero h
  obtain ⟨rest, rfl⟩ := Multiset.exists_cons_of_mem hb
  by_cases hmet : b ∈ met
  · exact ⟨_, .again hmet⟩
  · exact ⟨_, .first hmet⟩

/-- What holds after a number of turns. Each turn looks at one block, and the targets of each block
that was met have waited once. What was met or waits can be reached, and nothing is forgotten: what
an edge from a block that was met leads to was met or waits. -/
structure Sound (g : Graph L) (n : Nat) (s : Exploration) : Prop where
  turns : n + s.waiting.card = 1 + ∑ b ∈ s.met, (g.successors b).length
  met : ∀ b ∈ s.met, ∃ path, g.Path g.entry b path
  waiting : ∀ b ∈ s.waiting, ∃ path, g.Path g.entry b path
  entry : g.entry ∈ s.met ∨ g.entry ∈ s.waiting
  targets : ∀ b ∈ s.met, ∀ c ∈ g.successors b, c ∈ s.met ∨ c ∈ s.waiting

/-- At the start only the entry waits. -/
theorem sound_start : Sound g 0 (start g) where
  turns := by simp [start]
  met b hb := by simp [start] at hb
  waiting b hb := by
    obtain rfl := Multiset.mem_singleton.1 hb
    exact ⟨_, .refl⟩
  entry := .inr (Multiset.mem_singleton_self _)
  targets b hb := by simp [start] at hb

/-- One more turn. -/
theorem Sound.turn (h : Sound g n s) (ht : Turn g s s') : Sound g (n + 1) s' := by
  cases ht with
  | @again b met rest hb =>
    -- The block that is looked at waits no more, but it was met.
    have hkept {c : BlockId} (hc : c ∈ met ∨ c ∈ b ::ₘ rest) : c ∈ met ∨ c ∈ rest := by
      rw [Multiset.mem_cons] at hc
      rcases hc with hc | rfl | hc
      · exact .inl hc
      · exact .inl hb
      · exact .inr hc
    constructor
    case turns =>
      have hturns : n + (b ::ₘ rest).card = 1 + ∑ b ∈ met, (g.successors b).length := h.turns
      rw [Multiset.card_cons] at hturns
      rw [← hturns, Nat.add_right_comm, Nat.add_assoc]
    case met => exact h.met
    case waiting => exact fun c hc => h.waiting c (Multiset.mem_cons_of_mem hc)
    case entry => exact hkept h.entry
    case targets => exact fun c hc d hd => hkept (h.targets c hc d hd)
  | @first b met rest hb =>
    have hreach := h.waiting b (Multiset.mem_cons_self b rest)
    have hkept {c : BlockId} (hc : c ∈ met ∨ c ∈ b ::ₘ rest) :
        c ∈ insert b met ∨ c ∈ (g.successors b : Multiset BlockId) + rest := by
      rw [Finset.mem_insert, Multiset.mem_add]
      rw [Multiset.mem_cons] at hc
      rcases hc with hc | hc | hc
      · exact .inl (.inr hc)
      · exact .inl (.inl hc)
      · exact .inr (.inr hc)
    constructor
    case turns =>
      have hturns : n + (b ::ₘ rest).card = 1 + ∑ b ∈ met, (g.successors b).length := h.turns
      rw [Multiset.card_cons] at hturns
      rw [Finset.sum_insert hb, Multiset.card_add, Multiset.coe_card]
      omega
    case met => exact Finset.forall_mem_insert .. |>.2 ⟨hreach, h.met⟩
    case waiting =>
      intro c hc
      rcases Multiset.mem_add.1 hc with hc | hc
      · obtain ⟨path, hpath⟩ := hreach
        exact ⟨_, hpath.concat (Multiset.mem_coe.1 hc)⟩
      · exact h.waiting c (Multiset.mem_cons_of_mem hc)
    case entry => exact hkept h.entry
    case targets =>
      intro c hc d hd
      rcases Finset.mem_insert.1 hc with rfl | hc
      · exact .inr (Multiset.mem_add.2 (.inl (Multiset.mem_coe.2 hd)))
      · exact hkept (h.targets c hc d hd)

/-- What holds after some turns holds after more of them. -/
theorem Sound.of_turns (h : Sound g m s) (ht : Turns g n s s') : Sound g (m + n) s' := by
  induction ht generalizing m with
  | nil => exact h
  | cons ht _ ih =>
    have hnext := ih (h.turn ht)
    rw [Nat.add_right_comm] at hnext
    exact hnext

/-- It holds after any number of turns from the start. -/
theorem sound_of_turns (h : Turns g n (start g) s) : Sound g n s := by
  have hsound := sound_start.of_turns h
  rwa [Nat.zero_add] at hsound

/-- An exploration that is over has met the blocks that can be reached. -/
theorem Sound.mem_met_iff (h : Sound g n s) (hover : s.waiting = 0) {b : BlockId} :
    b ∈ s.met ↔ ∃ path, g.Path g.entry b path := by
  have hnone {c : BlockId} (hc : c ∈ s.met ∨ c ∈ s.waiting) : c ∈ s.met := by
    rw [hover] at hc
    exact hc.resolve_right (Multiset.notMem_zero c)
  constructor
  · exact h.met b
  · rintro ⟨path, hpath⟩
    exact hpath.stays (fun c hc d hd => hnone (h.targets c hc d hd)) (hnone h.entry)

end Exploration

/-! ## The blocks that are found -/

namespace Graph

variable {L : Type} {g : Graph L} {unseen worklist path : List BlockId} {b : BlockId} {n : Nat}
  {s : Exploration}

/-- The entry is a block, and edges lead to blocks. -/
structure Intact (g : Graph L) : Prop where
  entry_lt : g.entry < g.size
  successors_lt : ∀ b, ∀ c ∈ g.successors b, c < g.size

/-- What can be reached are blocks of the graph. -/
theorem Intact.last_lt (hg : g.Intact) (h : g.Path g.entry b path) : b < g.size :=
  h.stays (fun c _ => hg.successors_lt c) hg.entry_lt

/-- The worklist goes through an exploration in one of the possible orders, and what it leaves are
the blocks that were not met. -/
theorem Intact.exists_turns {met : Finset BlockId} (hg : g.Intact) (hnodup : unseen.Nodup)
    (hunseen : ∀ b, b ∈ unseen ↔ b < g.size ∧ b ∉ met) (hworklist : ∀ b ∈ worklist, b < g.size) :
    ∃ n s, Exploration.Turns g n ⟨met, worklist⟩ s ∧ s.waiting = 0 ∧
      ∀ b, b ∈ g.unmet unseen worklist ↔ b < g.size ∧ b ∉ s.met := by
  induction unseen, worklist using Graph.unmet.induct g generalizing met with
  | case1 unseen =>
    rw [unmet]
    exact ⟨0, _, .nil, rfl, hunseen⟩
  | case2 unseen b rest hb ih =>
    obtain ⟨hlt, hnew⟩ := (hunseen b).1 hb
    have hunseen' (c : BlockId) : c ∈ unseen.erase b ↔ c < g.size ∧ c ∉ insert b met := by
      rw [hnodup.mem_erase_iff, hunseen, Finset.mem_insert]
      tauto
    have hworklist' : ∀ c ∈ g.successors b ++ rest, c < g.size :=
      List.forall_mem_append.2 ⟨hg.successors_lt b, (List.forall_mem_cons.1 hworklist).2⟩
    obtain ⟨n, s, hturns, hover, hs⟩ := ih (hnodup.erase b) hunseen' hworklist'
    rw [← Multiset.coe_add] at hturns
    rw [unmet, if_pos hb, ← Multiset.cons_coe]
    exact ⟨n + 1, s, .cons (.first hnew) hturns, hover, hs⟩
  | case3 unseen b rest hb ih =>
    obtain ⟨hlt, hrest⟩ := List.forall_mem_cons.1 hworklist
    have hmet : b ∈ met := by
      by_contra hnew
      exact hb ((hunseen b).2 ⟨hlt, hnew⟩)
    obtain ⟨n, s, hturns, hover, hs⟩ := ih hnodup hunseen hrest
    rw [unmet, if_neg hb, ← Multiset.cons_coe]
    exact ⟨n + 1, s, .cons (.again hmet) hturns, hover, hs⟩

/-- The exploration from the entry comes to an end, and what it then has met are these blocks. -/
theorem Intact.exists_turns_reachable (hg : g.Intact) :
    ∃ n s, Exploration.Turns g n (.start g) s ∧ s.waiting = 0 ∧ s.met = g.reachable.toFinset := by
  have hall (b : BlockId) : b ∈ List.range g.size ↔ b < g.size ∧ b ∉ (∅ : Finset BlockId) := by
    simp
  obtain ⟨n, s, hturns, hover, hunmet⟩ := hg.exists_turns List.nodup_range hall
    (List.forall_mem_singleton.2 hg.entry_lt)
  refine ⟨n, s, hturns, hover, Finset.ext fun b => ?_⟩
  -- What was met can be reached, so it is a block.
  have hlt (hb : b ∈ s.met) : b < g.size := by
    obtain ⟨path, hpath⟩ := (Exploration.sound_of_turns hturns).met b hb
    exact hg.last_lt hpath
  simp only [reachable, List.mem_toFinset, List.mem_filter, List.mem_range, decide_eq_true_eq,
    hunmet]
  tauto

/-- The blocks that are found are those to which a path leads from the entry. -/
theorem Intact.mem_reachable_iff (hg : g.Intact) :
    b ∈ g.reachable ↔ ∃ path, g.Path g.entry b path := by
  obtain ⟨n, s, hturns, hover, hmet⟩ := hg.exists_turns_reachable
  rw [← List.mem_toFinset, ← hmet]
  exact (Exploration.sound_of_turns hturns).mem_met_iff hover

/-- The number of turns that an exploration takes: one for the entry, and one for each edge that
leaves a block that can be reached. -/
def explorationLength (g : Graph L) : Nat := 1 + ∑ b ∈ g.reachable.toFinset, (g.successors b).length

/-- What has been met so far can be reached, so no more turns than these have been taken. -/
theorem Intact.turns_le (hg : g.Intact) (h : Exploration.Turns g n (.start g) s) :
    n + s.waiting.card ≤ g.explorationLength := by
  have hsound := Exploration.sound_of_turns h
  rw [hsound.turns, explorationLength]
  refine Nat.add_le_add_left (Finset.sum_le_sum_of_subset fun b hb => ?_) 1
  exact List.mem_toFinset.2 (hg.mem_reachable_iff.2 (hsound.met b hb))

/-- When nothing waits any more, the blocks that were met are the reachable ones, whatever the order
was. -/
theorem Intact.met_eq (hg : g.Intact) (h : Exploration.Turns g n (.start g) s)
    (hover : s.waiting = 0) : s.met = g.reachable.toFinset := by
  refine Finset.ext fun b => ?_
  rw [(Exploration.sound_of_turns h).mem_met_iff hover, List.mem_toFinset, hg.mem_reachable_iff]

/-- An exploration is over after these turns and not before. -/
theorem Intact.over_iff (hg : g.Intact) (h : Exploration.Turns g n (.start g) s) :
    s.waiting = 0 ↔ n = g.explorationLength := by
  constructor
  · intro hover
    have hturns := (Exploration.sound_of_turns h).turns
    rw [hg.met_eq h hover, hover] at hturns
    exact hturns
  · rintro rfl
    have hcard := hg.turns_le h
    exact Multiset.card_eq_zero.1 (by omega)

/-- How an exploration goes, whatever the order in which blocks are looked at. -/
structure ExplorationEnds (g : Graph L) : Prop where
  /-- Only blocks of the graph are looked at. -/
  inside : ∀ {n s}, Exploration.Turns g n (.start g) s → ∀ b ∈ s.waiting, b < g.size
  /-- An exploration goes on as long as a block waits. -/
  goesOn : ∀ {n s}, Exploration.Turns g n (.start g) s → s.waiting ≠ 0 →
    ∃ s', Exploration.Turn g s s'
  /-- It comes to an end, -/
  ends : ∃ s, Exploration.Turns g g.explorationLength (.start g) s ∧ s.waiting = 0
  /-- never later than that, -/
  length_le : ∀ {n s}, Exploration.Turns g n (.start g) s → n ≤ g.explorationLength
  /-- and never earlier. -/
  length_eq : ∀ {n s}, Exploration.Turns g n (.start g) s → s.waiting = 0 → n = g.explorationLength
  /-- It has then met the blocks that are found. -/
  met : ∀ {n s}, Exploration.Turns g n (.start g) s → s.waiting = 0 → s.met = g.reachable.toFinset

/-- Where edges lead to blocks, the search for reachable blocks ends, and it finds the blocks to
which a path leads from the entry. -/
theorem reachable_exact (hg : g.Intact) :
    g.ExplorationEnds ∧ ∀ b, b ∈ g.reachable ↔ ∃ path, g.Path g.entry b path := by
  refine ⟨?_, fun b => hg.mem_reachable_iff⟩
  constructor
  case inside =>
    intro n s h b hb
    obtain ⟨path, hpath⟩ := (Exploration.sound_of_turns h).waiting b hb
    exact hg.last_lt hpath
  case goesOn => exact fun _ hwaiting => Exploration.exists_turn hwaiting
  case ends =>
    obtain ⟨n, s, hturns, hover, -⟩ := hg.exists_turns_reachable
    obtain rfl := (hg.over_iff hturns).1 hover
    exact ⟨s, hturns, hover⟩
  case length_le => exact fun h => Nat.le_trans (Nat.le_add_right ..) (hg.turns_le h)
  case length_eq => exact fun h hover => (hg.over_iff h).1 hover
  case met => exact fun h hover => hg.met_eq h hover

/-- A graph with a cycle through the entry, a block that leads to itself, a switch with the same
target twice, an open block, and a block that nothing leads to. -/
def tangled : Graph Nat where
  blocks := #[
    { name := "entrybb", terminator := some (.branch ⟨.register .temp (.d1 0), .zero⟩ 2 3) },
    { name := "returnbb", terminator := some .ret },
    { name := "if_true", terminator := some (.jump 2) },
    { name := "if_alternative",
      terminator := some (.switch (.register .temp (.d1 1))
        ((∅ : IdMap BlockId).insert 5 4 |>.insert 9 4) 0) },
    { name := "switch_case" },
    { name := "after_break", terminator := some (.jump 1) }]
  entry := 0
  exit := 1

/-- All its edges lead to blocks. -/
theorem intact_tangled : tangled.Intact where
  entry_lt := by decide
  successors_lt b c hc := by
    have hinside : ∀ b < tangled.size, ∀ c ∈ tangled.successors b, c < tangled.size := by
      decide +kernel
    by_cases hb : b < tangled.size
    · exact hinside b hb c hc
    · have hnone : tangled.block? b = none := Array.getElem?_eq_none (Nat.le_of_not_lt hb)
      simp [successors, hnone] at hc

/-- The exploration of it takes seven turns and finds four blocks; the exit is not among them. -/
theorem reachable_tangled :
    tangled.Intact ∧ tangled.ExplorationEnds ∧ tangled.explorationLength = 7 ∧
      ∀ b, (∃ path, tangled.Path tangled.entry b path) ↔ b ∈ [0, 2, 3, 4] := by
  obtain ⟨hends, hpath⟩ := reachable_exact intact_tangled
  have h0 : tangled.successors 0 = [2, 3] := rfl
  have h2 : tangled.successors 2 = [2] := rfl
  have h3 : tangled.successors 3 = [4, 4, 0] := by decide +kernel
  have h4 : tangled.successors 4 = [] := rfl
  have hsize : tangled.size = 6 := rfl
  have hentry : tangled.entry = 0 := rfl
  have hfound : tangled.reachable = [0, 2, 3, 4] := by
    simp [reachable, unmet, hsize, hentry, h0, h2, h3, h4, List.range_succ]
  have hlength : tangled.explorationLength = 7 := by
    simp [explorationLength, hfound, h0, h2, h3, h4]
  refine ⟨intact_tangled, hends, hlength, fun b => ?_⟩
  rw [← hpath, hfound]

end Graph

end ShaderFlow
