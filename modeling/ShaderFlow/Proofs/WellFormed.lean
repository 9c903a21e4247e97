import Mathlib.Algebra.Group.Nat.Defs
import ShaderFlow.Proofs.Ownership

/-!
# Finished graphs are well formed

A builder that has returned owns no block any more, so none of its blocks is open, whether it can be
reached or not (`Builder.Sound.wellFormed`). Since an instruction adds at most two blocks, a program
of fewer than `2 ^ 31` instructions keeps the numbers of its blocks within 32 bits.
-/

namespace ShaderFlow

/-- A graph as it is handed out. -/
structure Graph.WellFormed {L : Type} (g : Graph L) : Prop where
  /-- No block is open. -/
  terminated : ∀ b < g.size, ∃ block t, g.block? b = some block ∧ block.terminator = some t
  /-- Every edge leads to a block. -/
  successors_lt : ∀ b, ∀ c ∈ g.successors b, c < g.size
  entry_lt : g.entry < g.size
  exit_lt : g.exit < g.size
  /-- The exit is the one block that returns. -/
  ret_iff : ∀ {b block}, g.block? b = some block → (block.terminator = some .ret ↔ b = g.exit)
  entry_ne_exit : g.entry ≠ g.exit

/-- A block of a graph without open blocks has a terminator. -/
theorem Graph.exists_terminator {L : Type} {g : Graph L} {b : BlockId} (hb : b < g.size)
    (ho : ¬ g.IsOpen b) : ∃ block t, g.block? b = some block ∧ block.terminator = some t := by
  cases hblock : g.block? b with
  | none => exact absurd (block?_eq_none_iff.1 hblock) (Nat.not_le_of_lt hb)
  | some block =>
    cases ht : block.terminator with
    | none => exact absurd ⟨block, hblock, by simp [Block.isOpen, ht]⟩ ho
    | some t => exact ⟨block, t, rfl, ht⟩

/-- A builder that has returned holds a well-formed graph. -/
theorem Builder.Sound.wellFormed {L : Type} {b : Builder L} (h : b.Sound) (hr : b.returned = true) :
    b.graph.WellFormed where
  terminated c hc := by
    refine Graph.exists_terminator hc fun ho => ?_
    have hmem := (h.owns.isOpen_iff c).1 ho
    simp [owned, hr] at hmem
  successors_lt := h.graph.successors_lt
  entry_lt := by
    have := h.graph.exit_lt
    rw [h.graph.exit_eq] at this
    rw [h.graph.entry_eq]
    exact Nat.lt_of_succ_lt this
  exit_lt := h.graph.exit_lt
  ret_iff := h.graph.ret_iff
  entry_ne_exit := by
    rw [h.graph.entry_eq, h.graph.exit_eq]
    exact Nat.zero_ne_one

/-- **Every finished graph is well formed.** Whatever the lowering does, a program that compiles has
a graph without open blocks, whose edges lead to blocks and whose exit alone returns; it has at most
two blocks for each instruction besides the two it starts with, and the number of a block survives
being stored in 32 bits. -/
theorem Program.wellFormed_of_compile {σ L : Type} {p : Program} {signatures : Signatures}
    {lower : Lowering σ L} {initial final : σ} {options : Options} {c : CompiledShader L}
    (hlen : p.instructions.length ≤ 2 ^ 31 - 1)
    (h : p.compile signatures lower initial options = .ok (c, final)) :
    c.graph.WellFormed ∧ c.graph.size ≤ 2 + 2 * p.instructions.length ∧
      ∀ b < c.graph.size, (UInt32.ofNat b).toNat = b := by
  obtain ⟨done, rest, b, hi, hd, hr, hg⟩ := reads_of_compile (Session.lowers_any lower) h
  have hsound : b.Sound := hd.sound (Builder.sound_start _)
  have hsize : c.graph.size ≤ 2 + 2 * p.instructions.length := by
    have hread : b.graph.size ≤ 2 + 2 * done.length := hd.size_le.2
    rw [hg, hi, List.length_append]
    omega
  refine ⟨hg ▸ hsound.wellFormed hr, hsize, fun n hn => ?_⟩
  have hbound : n < 2 ^ 32 := by
    refine Nat.lt_of_lt_of_le hn (Nat.le_trans hsize ?_)
    omega
  rw [UInt32.toNat_ofNat']
  exact Nat.mod_eq_of_lt hbound

/-- A pixel shader with a loop around a switch, a discard and code behind a `continue`. -/
def loopProgram : Program where
  stage := .pixel
  model := .sm51
  instructions := [
    { opcode := .flow .beginLoop },
    { opcode := .flow .beginSwitch, operands := [.register .temp (.d1 0)] },
    { opcode := .flow .caseLabel, operands := [.scalar 3] },
    { opcode := .flow .discard, operands := [.register .temp (.d1 1)] },
    { opcode := .flow .breakOut },
    { opcode := .flow .defaultLabel },
    { opcode := .flow .continueLoop },
    { opcode := .nop },
    { opcode := .flow .endSwitch },
    { opcode := .flow .breakIf, operands := [.register .temp (.d1 0)] },
    { opcode := .flow .endLoop },
    { opcode := .flow .ret }]

/-- The loop program compiles, and its graph is well formed. -/
theorem wellFormed_loopProgram :
    ∃ c, loopProgram.compile ⟨[], []⟩ .passthrough () {} = .ok (c, ()) ∧
      c.graph.WellFormed ∧ c.graph.size ≤ 2 + 2 * loopProgram.instructions.length ∧
      ∀ b < c.graph.size, (UInt32.ofNat b).toNat = b := by
  obtain ⟨c, hc⟩ : ∃ c, loopProgram.compile ⟨[], []⟩ .passthrough () {} = .ok (c, ()) := ⟨_, rfl⟩
  exact ⟨c, hc, Program.wellFormed_of_compile (by decide) hc⟩

end ShaderFlow
