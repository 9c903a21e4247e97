import ShaderFlow.IdMap
import ShaderFlow.Instruction

/-!
# Control-flow graphs

A graph is a growing array of basic blocks. Blocks refer to each other by their position, so edges
back to an earlier block are plain data, and a block once allocated stays, reachable or not. A
block is *open* until it gets a terminator, and it gets one only once (`Graph.terminate`).

A position is kept in 32 bits (`BlockId.ofIndex`). A graph may have more blocks than that, but those
behind the last position cannot be referred to: what is meant for them goes to the first blocks.
-/

namespace ShaderFlow

/-- A block, by its position in the graph. -/
abbrev BlockId := Nat

/-- The block at an index, as others refer to it: only 32 bits of the index are kept. -/
def BlockId.ofIndex (i : Nat) : BlockId := i % UInt32.size

/-- The label of a block. -/
def BlockId.label (b : BlockId) : String := s!"bb{b}"

namespace BlockId

variable {i : Nat}

/-- As long as there are ids, the id of a block is its index. -/
theorem ofIndex_of_lt (h : i < UInt32.size) : ofIndex i = i := Nat.mod_eq_of_lt h

/-- An id has 32 bits. -/
theorem ofIndex_lt (i : Nat) : ofIndex i < UInt32.size := Nat.mod_lt i (by decide)

/-- An id that has come round again is that of an earlier block. -/
theorem ofIndex_le (i : Nat) : ofIndex i ≤ i := Nat.mod_le i _

end BlockId

/-- A branch condition: an operand and the test applied to it. -/
structure Condition where
  operand : Operand
  test : Test
  deriving DecidableEq

/-- How control leaves a block. -/
inductive Terminator where
  | jump (target : BlockId)
  | branch (condition : Condition) (ifTrue ifFalse : BlockId)
  | switch (selector : Operand) (cases : IdMap BlockId) (default : BlockId)
  | ret
  deriving DecidableEq

/-- The targets of a terminator; those of a switch by ascending case value, the default last. -/
def Terminator.successors : Terminator → List BlockId
  | .jump target => [target]
  | .branch _ ifTrue ifFalse => [ifTrue, ifFalse]
  | .switch _ cases default => cases.values ++ [default]
  | .ret => []

/-- What a block executes before its terminator. -/
inductive BlockItem (L : Type) where
  /-- A lowered instruction. -/
  | lowered (value : L)
  /-- Discards the pixel. -/
  | discard
  deriving DecidableEq

/-- A basic block. -/
structure Block (L : Type) where
  /-- The role for which the block was allocated. -/
  name : String
  items : Array (BlockItem L) := #[]
  terminator : Option Terminator := none
  deriving DecidableEq

namespace Block

variable {L : Type}

/-- Whether the block still lacks a terminator. -/
def isOpen (b : Block L) : Bool := b.terminator.isNone

/-- The lowered instructions of a block, without discards. -/
def lowered (b : Block L) : List L :=
  b.items.toList.filterMap fun
    | .lowered value => some value
    | .discard => none

/-- The targets of a block; an open block has none. -/
def successors (b : Block L) : List BlockId :=
  match b.terminator with
  | some t => t.successors
  | none => []

end Block

/-- The control-flow graph of one shader function. -/
structure Graph (L : Type) where
  blocks : Array (Block L)
  /-- Where control enters. -/
  entry : BlockId
  /-- The one block from which control returns. -/
  exit : BlockId
  deriving DecidableEq

/-- The refusal to give a block a second terminator. -/
structure AlreadyTerminated where
  block : BlockId
  deriving DecidableEq

/-- The wording of the refusal. -/
def AlreadyTerminated.message (e : AlreadyTerminated) : String :=
  e.block.label ++ " already has a terminator"

namespace Graph

variable {L : Type}

/-- The graph of an empty function: an open entry block and a block that returns. -/
def initial : Graph L where
  blocks := #[{ name := "entrybb" }, { name := "returnbb", terminator := some .ret }]
  entry := 0
  exit := 1

/-- The number of blocks. -/
def size (g : Graph L) : Nat := g.blocks.size

/-- The block at a position. -/
def block? (g : Graph L) (b : BlockId) : Option (Block L) := g.blocks[b]?

/-- Allocates an open, empty block behind the others. -/
def addBlock (g : Graph L) (name : String) : BlockId × Graph L :=
  (.ofIndex g.size, { g with blocks := g.blocks.push { name } })

/-- Puts an item at the end of a block, open or not. -/
def push (g : Graph L) (b : BlockId) (item : BlockItem L) : Graph L :=
  { g with blocks := g.blocks.modify b fun block => { block with items := block.items.push item } }

/-- Gives a block its terminator, unless it has one. -/
def terminate (g : Graph L) (b : BlockId) (t : Terminator) : Except AlreadyTerminated (Graph L) :=
  if (g.block? b).any (·.terminator.isSome) then .error ⟨b⟩
  else .ok { g with blocks := g.blocks.modify b fun block => { block with terminator := some t } }

/-- The targets of the block at a position. -/
def successors (g : Graph L) (b : BlockId) : List BlockId :=
  match g.block? b with
  | some block => block.successors
  | none => []

/-- The blocks that have a given block among their targets, in order of allocation. -/
def predecessors (g : Graph L) (b : BlockId) : List BlockId :=
  ((List.range g.size).filter fun p => (g.successors p).contains b).map .ofIndex

/-! ## What the operations do to the blocks -/

@[simp] theorem size_initial : (initial : Graph L).size = 2 := rfl

@[simp] theorem size_addBlock (g : Graph L) (name : String) :
    (g.addBlock name).2.size = g.size + 1 := by
  simp [addBlock, size]

@[simp] theorem size_push (g : Graph L) (b : BlockId) (item : BlockItem L) :
    (g.push b item).size = g.size := by
  simp [push, size]

/-- A new block is the last one, and the others stay. -/
theorem block?_addBlock (g : Graph L) (name : String) (b : BlockId) :
    (g.addBlock name).2.block? b = if b = g.size then some { name } else g.block? b := by
  exact Array.getElem?_push

/-- An item changes one block only. -/
theorem block?_push (g : Graph L) (b c : BlockId) (item : BlockItem L) :
    (g.push b item).block? c =
      if b = c then (g.block? c).map fun block => { block with items := block.items.push item }
      else g.block? c := by
  simp [push, block?, Array.getElem?_modify]

/-- A terminator is set exactly on blocks without one. -/
theorem terminate_eq_error_iff {g : Graph L} {b : BlockId} {t : Terminator}
    {e : AlreadyTerminated} :
    g.terminate b t = .error e ↔ e = ⟨b⟩ ∧ ∃ block ∈ g.block? b, block.isOpen = false := by
  unfold terminate
  cases g.block? b with
  | none => simp
  | some block =>
    cases ht : block.terminator with
    | none => simp [Block.isOpen, ht]
    | some _ => simp [Block.isOpen, ht, @eq_comm _ e]

/-- A terminator changes one block only. -/
theorem block?_of_terminate {g g' : Graph L} {b : BlockId} {t : Terminator}
    (h : g.terminate b t = .ok g') (c : BlockId) :
    g'.block? c =
      if b = c then (g.block? c).map fun block => { block with terminator := some t }
      else g.block? c := by
  unfold terminate at h
  split at h
  · cases h
  · cases h
    simp [block?, Array.getElem?_modify]

/-- A terminator adds no block. -/
theorem size_of_terminate {g g' : Graph L} {b : BlockId} {t : Terminator}
    (h : g.terminate b t = .ok g') : g'.size = g.size := by
  unfold terminate at h
  split at h
  · cases h
  · cases h
    simp [size]

end Graph

end ShaderFlow
