import ShaderFlow.Resource.Basic

/-!
# The binding table

A program's bindings reach it through one table, with one entry for each declaration in the order
of the declarations. `Reflection` is what has to be known outside to bind a compiled program.
-/

namespace ShaderFlow

/-- What a program may do with a binding. -/
inductive AccessMode where
  | read | write | readWrite | sample
  deriving DecidableEq

/-- The name of an access mode. -/
def AccessMode.name : AccessMode → String
  | .read => "Read"
  | .write => "Write"
  | .readWrite => "ReadWrite"
  | .sample => "Sample"

/-- The access that a resource view needs. -/
def ResourceUse.access (u : ResourceUse) : AccessMode := if u.sampled then .sample else .read

/-- The access that an access view needs; an unused one can be read. -/
def AccessUse.access (u : AccessUse) : AccessMode :=
  match u.read, u.written with
  | true, true => .readWrite
  | false, true => .write
  | _, false => .read

/-- One binding of a program. -/
structure Binding where
  kind : BindingKind
  id : UInt32
  access : AccessMode
  /-- Type of the elements; samplers have none. -/
  scalar : Option ScalarType
  /-- Dimension of a view. -/
  dimension : Option Dimension
  /-- Whether a view is sampled with a comparison. -/
  compared : Bool
  deriving DecidableEq

/-- The name of a binding. -/
def Binding.name (b : Binding) : String := s!"{b.kind.letters}{b.id}"

/-- A binding at its place in the table. -/
structure TableEntry extends Binding where
  index : Nat
  deriving DecidableEq

/-- The bindings of a program. -/
structure BindingTable where
  entries : List TableEntry
  deriving DecidableEq

namespace BindingTable

/-- The buffer location at which every table is bound. -/
def location : Nat := 30

/-- Bindings laid out in order. -/
def ofBindings (bindings : List Binding) : BindingTable :=
  ⟨bindings.mapIdx fun index b => { b with index }⟩

/-- The first entry for a binding. -/
def find? (t : BindingTable) (kind : BindingKind) (id : UInt32) : Option TableEntry :=
  t.entries.find? fun e => e.kind = kind ∧ e.id = id

/-- The location of the table, unless it is empty. -/
def bindIndex? (t : BindingTable) : Option Nat :=
  if t.entries.isEmpty then none else some location

end BindingTable

namespace Resources

/-- The entry of one declared binding. -/
def binding? (r : Resources) (kind : BindingKind) (id : UInt32) : Option Binding :=
  match kind with
  | .constantBuffer => r.constantBuffers[id]?.map fun _ =>
    { kind, id, access := .read, scalar := some .uint, dimension := none, compared := false }
  | .sampler => r.samplers[id]?.map fun _ =>
    { kind, id, access := .read, scalar := none, dimension := none, compared := false }
  | .resource => r.resourceViews[id]?.map fun v =>
    { kind, id, access := v.use.access, scalar := some v.format.scalar,
      dimension := some v.format.dimension, compared := v.use.compared }
  | .access => r.accessViews[id]?.map fun v =>
    { kind, id, access := v.use.access, scalar := some v.format.scalar,
      dimension := some v.format.dimension, compared := false }

/-- The table of all declared bindings. -/
def bindingTable (r : Resources) : BindingTable :=
  .ofBindings (r.order.filterMap fun (kind, id) => r.binding? kind id)

end Resources

/-- What has to be known to bind a program. -/
structure Reflection where
  /-- Location of the binding table, if the program takes one. -/
  bindIndex : Option Nat
  /-- The entries of the table. -/
  arguments : List (BindingKind × UInt32)
  /-- Size of a thread group of a compute shader. -/
  threadGroup : Option ThreadGroup
  deriving DecidableEq

/-- The reflection of a program with the given table. -/
def BindingTable.reflection (t : BindingTable) (threadGroup : Option ThreadGroup) : Reflection where
  bindIndex := t.bindIndex?
  arguments := t.entries.map fun e => (e.kind, e.id)
  threadGroup

end ShaderFlow
