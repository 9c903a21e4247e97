import ShaderFlow.Graph.Basic

/-!
# Reachable blocks

The blocks to which control can come from the entry, found with a worklist. Each step either takes
a block out of those not seen yet or shortens the worklist, so the search ends.
-/

namespace ShaderFlow.Graph

variable {L : Type}

/-- Follows edges from the blocks on the worklist and returns the blocks that were not met. -/
def unmet (g : Graph L) (unseen worklist : List BlockId) : List BlockId :=
  match worklist with
  | [] => unseen
  | b :: rest =>
    if b ∈ unseen then g.unmet (unseen.erase b) (g.successors b ++ rest)
    else g.unmet unseen rest
termination_by (unseen.length, worklist.length)
decreasing_by
  · rename_i h
    have := List.length_pos_of_mem h
    exact Prod.Lex.left _ _ (by rw [List.length_erase_of_mem h]; omega)
  · exact Prod.Lex.right _ (by simp)

/-- The blocks that can be reached from the entry, in ascending order. -/
def reachable (g : Graph L) : List BlockId :=
  let all := List.range g.size
  let rest := g.unmet all [g.entry]
  all.filter (· ∉ rest)

end ShaderFlow.Graph
