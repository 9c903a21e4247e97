import ShaderFlow.Graph.Basic

/-!
# Listings of graphs

The text of a graph: each block with its label and name, its items, and its terminator, one to a
line.
-/

namespace ShaderFlow

/-- One line for a terminator. Branches name the kind of the tested operand only. -/
def Terminator.line : Terminator → String
  | .jump target => "br " ++ target.label
  | .branch condition ifTrue ifFalse =>
    "br_" ++ condition.test.suffix ++ " " ++ toString condition.operand.kind ++ ", " ++
      ifTrue.label ++ ", " ++ ifFalse.label
  | .switch _ cases default =>
    "switch" ++ String.join (cases.toList.map fun (value, b) => s!" {value}:" ++ BlockId.label b) ++
      " default:" ++ default.label
  | .ret => "ret"

/-- One line for an item of a block. -/
def BlockItem.line {L : Type} [Dump L] : BlockItem L → String
  | .lowered value => dump value
  | .discard => "discard"

/-- The last line of a block. -/
def Block.lastLine {L : Type} (b : Block L) : String :=
  match b.terminator with
  | some t => t.line
  | none => "<open>"

/-- The text of a graph. -/
def Graph.listing {L : Type} [Dump L] (g : Graph L) : String :=
  String.join <| g.blocks.toList.mapIdx fun i b =>
    BlockId.label (.ofIndex i) ++ " (" ++ b.name ++ "):\n" ++
      String.join ((b.items.toList.map BlockItem.line ++ [b.lastLine]).map ("  " ++ · ++ "\n"))

end ShaderFlow
