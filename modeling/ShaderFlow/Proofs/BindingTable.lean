import Mathlib.Algebra.Group.Nat.Defs
import Mathlib.Data.List.Nodup
import ShaderFlow.Proofs.Provenance
import ShaderFlow.Proofs.Replay
import Std.Data.String.ToNat

/-!
# The binding table of a compiled program

The table of a program that compiles lists each declared binding once, in the order of the
declarations, and the order, the reflection and the entry point agree with it
(`Compilation.tabulates_of_result`).
-/

namespace ShaderFlow

/-! ## Names -/

/-- The kind of a binding is seen from the first letter of its name. -/
theorem BindingKind.eq_of_head?_letters {kind kind' : BindingKind}
    (h : kind.letters.toList.head? = kind'.letters.toList.head?) : kind = kind' := by
  revert h
  cases kind <;> cases kind' <;> decide

/-- The letters of a kind are not empty. -/
theorem BindingKind.isSome_head?_letters {kind : BindingKind} :
    kind.letters.toList.head?.isSome = true := by
  cases kind <;> decide

/-- The name of the binding with a kind and a number. -/
def bindingName (key : BindingKind × UInt32) : String := s!"{key.1.letters}{key.2}"

/-- A name begins with the first letter of its kind. -/
theorem head?_bindingName {kind : BindingKind} {id : UInt32} :
    (bindingName (kind, id)).toList.head? = kind.letters.toList.head? := by
  have hname : bindingName (kind, id) = kind.letters ++ id.toNat.repr := rfl
  rw [hname, String.toList_append, List.head?_append]
  exact Option.or_of_isSome BindingKind.isSome_head?_letters

/-- No two bindings have the same name. -/
theorem bindingName_injective : Function.Injective bindingName := by
  rintro ⟨kind, id⟩ ⟨kind', id'⟩ h
  have hhead := congrArg (fun name => name.toList.head?) h
  simp only [head?_bindingName] at hhead
  cases BindingKind.eq_of_head?_letters hhead
  have hid : id.toNat.repr = id'.toNat.repr := (String.append_right_inj _).1 h
  rw [UInt32.toNat_inj.1 (Nat.repr_inj.1 hid)]

/-! ## Tables -/

namespace BindingTable

variable {bs : List Binding} {t : BindingTable} {e : TableEntry} {k : Nat} {kind : BindingKind}
  {id : UInt32}

/-- The entries of a table are numbered by their positions. -/
theorem index_of_ofBindings (h : (ofBindings bs).entries[k]? = some e) : e.index = k := by
  rw [ofBindings, List.getElem?_mapIdx] at h
  obtain ⟨b, -, rfl⟩ := Option.map_eq_some_iff.1 h
  rfl

/-- But for their numbers, the entries of a table are the bindings. -/
theorem map_ofBindings {α : Type} {f : Binding → α} :
    (ofBindings bs).entries.map (fun e => f e.toBinding) = bs.map f := by
  refine List.ext_getElem? fun k => ?_
  simp [ofBindings, Function.comp_def]

/-- What is found in a table is an entry with the kind and the number looked for. -/
theorem mem_of_find? (h : t.find? kind id = some e) :
    e ∈ t.entries ∧ e.kind = kind ∧ e.id = id := by
  unfold find? at h
  exact ⟨List.mem_of_find?_eq_some h, by simpa using List.find?_some h⟩

/-- If no two entries have one kind and number, each entry is found by them. -/
theorem find?_eq_some_iff (h : (t.entries.map fun e => (e.kind, e.id)).Nodup) :
    t.find? kind id = some e ↔ e ∈ t.entries ∧ e.kind = kind ∧ e.id = id := by
  refine ⟨mem_of_find?, ?_⟩
  rintro ⟨hmem, rfl, rfl⟩
  cases hfind : t.find? e.kind e.id with
  | none =>
    unfold find? at hfind
    simpa using List.find?_eq_none.1 hfind e hmem
  | some e' =>
    obtain ⟨hmem', hkind, hid⟩ := mem_of_find? hfind
    have hkey : (e'.kind, e'.id) = (e.kind, e.id) := by rw [hkind, hid]
    rw [List.inj_on_of_nodup_map h hmem' hmem hkey]

end BindingTable

namespace Resources

variable {r : Resources} {kind : BindingKind} {id : UInt32} {b : Binding}

/-- There is a binding for what is declared, and for nothing else. -/
theorem isSome_binding? : (r.binding? kind id).isSome = r.isDeclared kind id := by
  cases kind <;> simp [binding?, isDeclared]

/-- A binding has the kind and the number that it is kept under. -/
theorem key_of_binding? (h : r.binding? kind id = some b) : (b.kind, b.id) = (kind, id) := by
  cases kind <;>
  · obtain ⟨_, -, rfl⟩ := Option.map_eq_some_iff.1 h
    rfl

/-- No binding of the order is missing in the table. -/
theorem Consistent.keys_bindingTable (h : r.Consistent) :
    r.bindingTable.entries.map (fun e => (e.kind, e.id)) = r.order := by
  have hkey : ∀ key ∈ r.order,
      (r.binding? key.1 key.2).map (fun b => (b.kind, b.id)) = some key := by
    rintro ⟨kind, id⟩ hmem
    have hsome : (r.binding? kind id).isSome = true := isSome_binding?.trans (h.mem_order.1 hmem)
    obtain ⟨b, hb⟩ := Option.isSome_iff_exists.1 hsome
    rw [hb, Option.map_some, key_of_binding? hb]
  calc r.bindingTable.entries.map (fun e => (e.kind, e.id))
      = (r.order.filterMap fun key => r.binding? key.1 key.2).map fun b => (b.kind, b.id) :=
        BindingTable.map_ofBindings (f := fun b => (b.kind, b.id))
    _ = r.order.filterMap fun key => (r.binding? key.1 key.2).map fun b => (b.kind, b.id) :=
        List.map_filterMap
    _ = r.order.filterMap some := List.filterMap_congr hkey
    _ = r.order := List.filterMap_some

/-- A binding is found if it is declared. -/
theorem Consistent.isSome_find? (h : r.Consistent) :
    (r.bindingTable.find? kind id).isSome = r.isDeclared kind id := by
  have hnodup := h.nodup
  rw [← h.keys_bindingTable] at hnodup
  rw [Bool.eq_iff_iff, ← h.mem_order, ← h.keys_bindingTable, List.mem_map,
    Option.isSome_iff_exists]
  simp only [BindingTable.find?_eq_some_iff hnodup, Prod.mk.injEq]

end Resources

namespace EntryPoint

variable {e : EntryPoint} {t : BindingTable}

/-- An empty table takes no argument. -/
theorem withTable_of_eq_nil (h : t.entries = []) : e.withTable t = (none, e) := by
  simp [withTable, BindingTable.bindIndex?, h]

/-- A table with entries is the last argument. -/
theorem withTable_of_ne_nil (h : t.entries ≠ []) :
    e.withTable t = (some e.arguments.length,
      { e with arguments := e.arguments ++ [.bindingTable 30] }) := by
  simp [withTable, BindingTable.bindIndex?, h, addArgument, BindingTable.location]

/-- The arguments are those that are declared, and the table. -/
theorem mem_withTable_iff {a : Argument} (ha : ∀ location, a ≠ .bindingTable location) :
    a ∈ (e.withTable t).2.arguments ↔ a ∈ e.arguments := by
  by_cases ht : t.entries = []
  · rw [withTable_of_eq_nil ht]
  · rw [withTable_of_ne_nil ht]
    simp [ha]

/-- If no other argument is a table, the table that is passed is the last argument. -/
theorem last_of_withTable (hno : ∀ location, .bindingTable location ∉ e.arguments)
    {k location : Nat} (h : (e.withTable t).2.arguments[k]? = some (.bindingTable location)) :
    location = 30 ∧ k + 1 = (e.withTable t).2.arguments.length ∧ (e.withTable t).1 = some k := by
  by_cases ht : t.entries = []
  · rw [withTable_of_eq_nil ht] at h
    exact absurd (List.mem_of_getElem? h) (hno location)
  · rw [withTable_of_ne_nil ht] at h ⊢
    rcases Nat.lt_trichotomy k e.arguments.length with hk | rfl | hk
    · rw [List.getElem?_append_left hk] at h
      exact absurd (List.mem_of_getElem? h) (hno location)
    · rw [List.getElem?_concat_length] at h
      cases h
      exact ⟨rfl, by simp, rfl⟩
    · have hlen : (e.arguments ++ [Argument.bindingTable 30]).length ≤ k := by
        rw [List.length_append]
        exact hk
      rw [List.getElem?_eq_none hlen] at h
      cases h

/-- There is an argument for a table exactly if the table has entries. -/
theorem exists_mem_withTable_iff (hno : ∀ location, .bindingTable location ∉ e.arguments) :
    (∃ location, .bindingTable location ∈ (e.withTable t).2.arguments) ↔ t.entries ≠ [] := by
  by_cases ht : t.entries = []
  · rw [withTable_of_eq_nil ht]
    simp [hno, ht]
  · rw [withTable_of_ne_nil ht]
    simp [ht]

end EntryPoint

/-! ## Compiled programs -/

/-- The table of a compiled program and all that has to agree with it, for a program that consists
of the given instructions. -/
structure CompiledShader.Tabulates {L : Type} (c : CompiledShader L) (is : List Instruction) :
    Prop where
  /-- There is one entry for each declaration of a binding, in order. -/
  declared : (is.filter fun i => i.opcode.bindingKind?.isSome).map Instruction.binding? =
    c.table.entries.map fun e => some (e.kind, e.id)
  order : c.resources.order = c.table.entries.map fun e => (e.kind, e.id)
  arguments : c.reflection.arguments = c.table.entries.map fun e => (e.kind, e.id)
  index : ∀ (k : Nat) (e : TableEntry), c.table.entries[k]? = some e → e.index = k
  names : (c.table.entries.map fun e => e.name).Nodup
  isSome_find? : ∀ kind id, (c.table.find? kind id).isSome = c.resources.isDeclared kind id
  find? : ∀ kind id e,
    c.table.find? kind id = some e ↔ e ∈ c.table.entries ∧ e.kind = kind ∧ e.id = id
  tableArgument : c.table.entries ≠ [] ↔ c.tableArgument.isSome = true
  bindIndex : c.table.entries ≠ [] ↔ c.reflection.bindIndex = some 30
  passed : c.table.entries ≠ [] ↔ ∃ location, .bindingTable location ∈ c.entryPoint.arguments
  /-- Only the last argument is a table, and its position is known. -/
  last : ∀ (k location : Nat), c.entryPoint.arguments[k]? = some (.bindingTable location) →
    location = 30 ∧ k + 1 = c.entryPoint.arguments.length ∧ c.tableArgument = some k

/-- The parts of a session agree with its table. -/
theorem Session.tabulates {σ L : Type} {s : Session σ L} (p : Program) {is : List Instruction}
    (hconsistent : s.resources.Consistent)
    (hdeclared : (is.filter fun i => i.opcode.bindingKind?.isSome).map Instruction.binding? =
      s.resources.order.map some)
    (hno : ∀ location, .bindingTable location ∉ s.interface.entryPoint.arguments) :
    (s.shader p).Tabulates is := by
  have hkeys := hconsistent.keys_bindingTable
  have hnodup := hconsistent.nodup
  rw [← hkeys] at hnodup
  constructor
  case declared =>
    rw [hdeclared, ← hkeys, List.map_map]
    rfl
  case order => exact hkeys.symm
  case arguments => rfl
  case index => exact fun k e => BindingTable.index_of_ofBindings
  case names =>
    have hnames := hnodup.map bindingName_injective
    rw [List.map_map] at hnames
    exact hnames
  case isSome_find? => exact fun kind id => hconsistent.isSome_find?
  case find? => exact fun kind id e => BindingTable.find?_eq_some_iff hnodup
  case tableArgument =>
    by_cases ht : s.resources.bindingTable.entries = []
    · simp [shader, EntryPoint.withTable_of_eq_nil ht, ht]
    · simp [shader, EntryPoint.withTable_of_ne_nil ht, ht]
  case bindIndex =>
    simp [shader, CompiledShader.reflection, BindingTable.reflection, BindingTable.bindIndex?,
      BindingTable.location]
  case passed => exact (EntryPoint.exists_mem_withTable_iff hno).symm
  case last => exact fun k location => EntryPoint.last_of_withTable hno

/-- What declares a binding belongs to the stream of the resources. -/
theorem Instruction.isIn_of_isSome_bindingKind? {i : Instruction}
    (h : i.opcode.bindingKind?.isSome = true) : i.isIn .resources = true := by
  unfold Opcode.bindingKind? at h
  split at h
  case h_9 => cases h
  all_goals
    next hop => simp [isIn, isNeutral, hop, Opcode.stream]

namespace Compilation

variable {σ L : Type} {C : Compilation σ L} {c : CompiledShader L} {final : σ}

namespace History

variable {H : C.History} {k n : Nat}

/-- The table is not among the arguments that are declared. -/
theorem bindingTable_not_mem (hk : k ≤ H.length) {location : Nat} :
    .bindingTable location ∉ (H.session k).interface.entryPoint.arguments := by
  intro hmem
  obtain ⟨j, -, i, -, hpasses⟩ := exists_passes hk hmem
  rcases hpasses.stage?_eq with hs | ⟨-, name, -, hname⟩
  · cases hs
  · unfold SystemName.unstaged? at hname
    split at hname <;> cases hname

/-- The order lists the bindings that are declared before the return. -/
theorem order (hn : n + 1 = H.length) :
    (H.session H.length).resources.Consistent ∧
      (C.program.select (·.opcode.bindingKind?.isSome) n).map Instruction.binding? =
        (H.session H.length).resources.order.map some := by
  obtain ⟨base, hmarked⟩ := H.marked (Nat.le_refl _)
  obtain ⟨hconsistent, horder⟩ := Resources.order_of_declareAll hmarked.declared
  -- A declaration of a binding is a resource declaration, and it stands before the return.
  have hselect : (C.program.select (Instruction.isIn .resources) H.length).filter
      (fun i => i.opcode.bindingKind?.isSome) =
        C.program.select (·.opcode.bindingKind?.isSome) n := by
    rw [← H.select_last hn fun i hop => by rw [hop]; rfl, Program.select, Program.select,
      List.filter_filter]
    refine List.filter_congr fun i _ => ?_
    cases hk : i.opcode.bindingKind?.isSome with
    | true => rw [Instruction.isIn_of_isSome_bindingKind? hk, Bool.true_and]
    | false => rw [Bool.false_and]
  rw [hmarked.marked, ← hselect]
  exact ⟨hconsistent.mark, horder⟩

end History

/-- The table of a program that compiles lists the bindings that the program declares before its
return, and positions in it and among the arguments have 32 bits. -/
theorem tabulates_of_result (hsize : C.program.instructions.length < 2 ^ 31)
    (h : C.result = .ok (c, final)) :
    ∃ n, C.program.returnAt? = some n ∧ c.Tabulates (C.program.instructions.take n) ∧
      c.table.entries.length < 2 ^ 32 ∧ c.entryPoint.arguments.length < 2 ^ 32 := by
  obtain ⟨harguments, -⟩ := lengths_of_result hsize h
  obtain ⟨H, rfl, -⟩ := exists_outcome h
  obtain ⟨n, hn⟩ := H.exists_last
  obtain ⟨hconsistent, hdeclared⟩ := H.order hn
  have htabulates := Session.tabulates C.program hconsistent hdeclared fun location =>
    H.bindingTable_not_mem (Nat.le_refl _)
  refine ⟨n, H.returnAt?_eq hn, htabulates, ?_, harguments⟩
  have hlength := congrArg List.length htabulates.declared
  rw [List.length_map, List.length_map] at hlength
  have hfilter := List.length_filter_le (fun i : Instruction => i.opcode.bindingKind?.isSome)
    (C.program.instructions.take n)
  have htake := List.length_take_le' n C.program.instructions
  omega

/-- A pixel shader that declares three bindings before its return, one of them after code, and one
behind it. -/
def ofBindingProgram : Compilation Unit Instruction where
  program := {
    stage := .pixel
    model := .sm51
    instructions := [
      { opcode := .resourceDcl .resourceRaw, operands := [.register .resource (.d1 3)],
        declaration := some (.resourceRaw 0) },
      { opcode := .resourceDcl .sampler, operands := [.register .sampler (.d1 2)],
        declaration := some (.sampler .default 0) },
      { opcode := .sample .lod,
        operands := [.register .resource (.d1 3), .register .sampler (.d1 2)] },
      { opcode := .resourceDcl .uavRaw, operands := [.register .unorderedAccessView (.d1 3)],
        declaration := some (.uavRaw 0 0) },
      { opcode := .flow .ret },
      { opcode := .resourceDcl .resourceRaw, operands := [.register .resource (.d1 9)],
        declaration := some (.resourceRaw 0) }] }
  signatures := ⟨[], []⟩
  lower := .passthrough
  initial := ()
  options := {}

/-- Its table has three entries. -/
theorem tabulates_ofBindingProgram :
    ∃ c, ofBindingProgram.result = .ok (c, ()) ∧
      c.table.entries.map (fun e => (e.kind, e.id)) =
        [(.resource, 3), (.sampler, 2), (.access, 3)] ∧
      c.Tabulates (ofBindingProgram.program.instructions.take 4) := by
  obtain ⟨c, ⟨⟩, hc⟩ := exists_result (C := ofBindingProgram) (by decide +kernel)
  obtain ⟨n, hn, htabulates, -⟩ := tabulates_of_result (by decide) hc
  have hfour : ofBindingProgram.program.returnAt? = some 4 := by decide
  cases hfour.symm.trans hn
  have hkeys : ofBindingProgram.result.toOption.map
      (fun r => r.1.table.entries.map fun e => (e.kind, e.id)) =
        some [(.resource, 3), (.sampler, 2), (.access, 3)] := by decide +kernel
  rw [hc] at hkeys
  exact ⟨c, hc, Option.some.inj hkeys, htabulates⟩

end Compilation

end ShaderFlow
