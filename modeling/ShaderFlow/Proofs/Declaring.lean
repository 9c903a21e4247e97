import ShaderFlow.Proofs.Step
import ShaderFlow.Resource.Declare

/-!
# What resource declarations add

A resource declaration is checked twice. What it adds (`Instruction.Adds`) is settled by the
declaration and the stage alone, and the resources only have to have room for it
(`Resources.Free`). `Resources.declare_eq_ok_iff` says that nothing else matters. So a list of
declarations that is accepted is a list of additions, and what every addition preserves holds of the
resources that it leaves (`Resources.declareAll_induction`); in particular the order of the bindings
lists each declared binding once (`Resources.Consistent`).
-/

namespace ShaderFlow

/-! ## Additions -/

/-- What a resource declaration adds. -/
inductive Addition where
  | constantBuffer (buffer : ConstantBuffer)
  | sampler (sampler : Sampler)
  | resourceView (view : ResourceView)
  | accessView (view : AccessView)
  | sharedMemory (id : UInt32) (memory : SharedMemory)
  | indexableTemp (id : UInt32) (temp : IndexableTemp)
  | temps (count : UInt32)
  | threadGroup (size : ThreadGroup)
  | constants (rows : List (Quad UInt32))
  /-- Some declarations are read and leave no trace. -/
  | nothing

/-- The binding that an addition puts into the order. -/
def Addition.binding? : Addition → Option (BindingKind × UInt32)
  | .constantBuffer buffer => some (.constantBuffer, buffer.range.id)
  | .sampler s => some (.sampler, s.range.id)
  | .resourceView view => some (.resource, view.range.id)
  | .accessView view => some (.access, view.range.id)
  | _ => none

/-- What a declaration adds, if the resources have room for it. -/
inductive Instruction.Adds (stage : Stage) (i : Instruction) : Addition → Prop where
  | constantBuffer {sizeInVec4 space : UInt32} {dynamic : Bool} {range : BindingRange}
      (hop : i.opcode = .resourceDcl .constantBuffer)
      (hd : i.declaration = some (.constantBuffer sizeInVec4 space dynamic))
      (hr : i.bindingRange .sized space = .ok range) :
      Adds stage i (.constantBuffer { range, sizeInVec4 })
  | sampler {mode : SamplerMode} {space : UInt32} {range : BindingRange}
      (hop : i.opcode = .resourceDcl .sampler) (hd : i.declaration = some (.sampler mode space))
      (hm : ∀ raw, mode ≠ .unknown raw) (hr : i.bindingRange .register space = .ok range) :
      Adds stage i (.sampler { range, mode })
  | resource {dimension : Dimension} {returnType : Quad ReturnType} {samples space : UInt32}
      {format : ViewFormat} {range : BindingRange} (hop : i.opcode = .resourceDcl .resource)
      (hd : i.declaration = some (.resource dimension returnType samples space))
      (hf : ViewFormat.typed dimension returnType = .ok format)
      (hr : i.bindingRange .register space = .ok range) :
      Adds stage i (.resourceView { range, format })
  | resourceRaw {space : UInt32} {range : BindingRange}
      (hop : i.opcode = .resourceDcl .resourceRaw) (hd : i.declaration = some (.resourceRaw space))
      (hr : i.bindingRange .register space = .ok range) :
      Adds stage i (.resourceView { range, format := .raw })
  | resourceStructured {stride space : UInt32} {range : BindingRange}
      (hop : i.opcode = .resourceDcl .resourceStructured)
      (hd : i.declaration = some (.resourceStructured stride space))
      (hr : i.bindingRange .register space = .ok range) :
      Adds stage i (.resourceView { range, format := .structured stride })
  | uavTyped {dimension : Dimension} {returnType : Quad ReturnType} {flags space : UInt32}
      {format : ViewFormat} {range : BindingRange} (hop : i.opcode = .resourceDcl .uavTyped)
      (hd : i.declaration = some (.uavTyped dimension returnType flags space))
      (hf : ViewFormat.typed dimension returnType = .ok format)
      (hr : i.bindingRange .register space = .ok range) :
      Adds stage i (.accessView { range, format, flags := .ofBits flags })
  | uavRaw {flags space : UInt32} {range : BindingRange} (hop : i.opcode = .resourceDcl .uavRaw)
      (hd : i.declaration = some (.uavRaw flags space))
      (hr : i.bindingRange .register space = .ok range) :
      Adds stage i (.accessView { range, format := .raw, flags := .ofBits flags })
  | uavStructured {stride flags space : UInt32} {range : BindingRange}
      (hop : i.opcode = .resourceDcl .uavStructured)
      (hd : i.declaration = some (.uavStructured stride flags space))
      (hr : i.bindingRange .register space = .ok range) :
      Adds stage i (.accessView { range, format := .structured stride, flags := .ofBits flags })
  | temps {count : UInt32} (hop : i.opcode = .resourceDcl .temps)
      (hd : i.declaration = some (.temps count)) : Adds stage i (.temps count)
  | indexableTemp {id registerCount : UInt32} {mask : Mask}
      (hop : i.opcode = .resourceDcl .indexableTemp)
      (hd : i.declaration = some (.indexableTemp id registerCount mask)) :
      Adds stage i (.indexableTemp id { registerCount, mask })
  | threadGroup {x y z : UInt32} (hop : i.opcode = .resourceDcl .threadGroup)
      (hd : i.declaration = some (.threadGroup x y z)) (hs : stage = .compute)
      (hne : x ≠ 0 ∧ y ≠ 0 ∧ z ≠ 0) : Adds stage i (.threadGroup ⟨x, y, z⟩)
  | sharedRaw {bytes id : UInt32} {o : Operand} {memory : SharedMemory}
      (hop : i.opcode = .resourceDcl .sharedRaw) (hd : i.declaration = some (.sharedRaw bytes))
      (hs : stage = .compute) (hm : SharedMemory.ofBytes bytes = .ok memory)
      (ho : i.operand? 0 = some o) (hid : o.register? = some id) :
      Adds stage i (.sharedMemory id memory)
  | sharedStructured {stride count id : UInt32} {o : Operand} {memory : SharedMemory}
      (hop : i.opcode = .resourceDcl .sharedStructured)
      (hd : i.declaration = some (.sharedStructured stride count)) (hs : stage = .compute)
      (hm : SharedMemory.ofRecords stride count = .ok memory)
      (ho : i.operand? 0 = some o) (hid : o.register? = some id) :
      Adds stage i (.sharedMemory id memory)
  | globalFlags {flags : UInt32} (hop : i.opcode = .resourceDcl .globalFlags)
      (hd : i.declaration = some (.globalFlags flags)) : Adds stage i .nothing
  | indexRange {count : UInt32} (hop : i.opcode = .resourceDcl .indexRange)
      (hd : i.declaration = some (.indexRange count)) : Adds stage i .nothing
  | constants {words : List UInt32} (hop : i.opcode = .customData)
      (hd : i.declaration = some (.customData .immediateConstantBuffer words))
      (hw : words.length % 4 = 0) : Adds stage i (.constants (Quad.rows words))
  | data {dataClass : DataClass} {words : List UInt32} (hop : i.opcode = .customData)
      (hd : i.declaration = some (.customData dataClass words))
      (hc : dataClass ≠ .immediateConstantBuffer) : Adds stage i .nothing

namespace Resources

/-- Whether there is room for an addition: what can be declared once is not there yet. -/
def Free (r : Resources) : Addition → Prop
  | .constantBuffer buffer => r.isDeclared .constantBuffer buffer.range.id = false
  | .sampler s => r.isDeclared .sampler s.range.id = false
  | .resourceView view => r.isDeclared .resource view.range.id = false
  | .accessView view => r.isDeclared .access view.range.id = false
  | .sharedMemory id _ => id ∉ r.sharedMemory
  | .indexableTemp id _ => id ∉ r.indexableTemps
  | .threadGroup _ => r.threadGroup = none
  | .constants _ => r.immediateConstants = []
  | .temps _ | .nothing => True

/-- The resources with an addition. -/
def add (r : Resources) : Addition → Resources
  | .constantBuffer buffer =>
    { r with
      constantBuffers := r.constantBuffers.insert buffer.range.id buffer
      order := r.order ++ [(.constantBuffer, buffer.range.id)] }
  | .sampler s =>
    { r with
      samplers := r.samplers.insert s.range.id s
      order := r.order ++ [(.sampler, s.range.id)] }
  | .resourceView view =>
    { r with
      resourceViews := r.resourceViews.insert view.range.id view
      order := r.order ++ [(.resource, view.range.id)] }
  | .accessView view =>
    { r with
      accessViews := r.accessViews.insert view.range.id view
      order := r.order ++ [(.access, view.range.id)] }
  | .sharedMemory id memory => { r with sharedMemory := r.sharedMemory.insert id memory }
  | .indexableTemp id temp => { r with indexableTemps := r.indexableTemps.insert id temp }
  | .temps count => { r with temps := count }
  | .threadGroup size => { r with threadGroup := some size }
  | .constants rows => { r with immediateConstants := rows }
  | .nothing => r

end Resources

/-! ## Declarations that are accepted -/

/-- What an instruction declares is named by its first operand. -/
theorem Instruction.declared_eq_ok_iff {i : Instruction} {o : Operand} :
    i.declared = .ok o ↔ i.operand? 0 = some o :=
  except_orFault_eq_ok_iff

/-- The number of a range is the one that the operand gives. -/
theorem BindingRange.id_of_between {id lower upper space : UInt32} {range : BindingRange}
    (h : between id lower upper space = .ok range) : range.id = id := by
  unfold between at h
  split at h
  · cases h
    rfl
  · split at h
    · cases h
    · cases h
      rfl

/-- The number of a declared range is the first index of the declared operand. -/
theorem Instruction.exists_operand {i : Instruction} {legacy : LegacyForm} {space : UInt32}
    {range : BindingRange} (h : i.bindingRange legacy space = .ok range) :
    ∃ o, i.operand? 0 = some o ∧ o.register? = some range.id := by
  simp only [bindingRange, except_bind_eq_ok_iff, declared_eq_ok_iff] at h
  obtain ⟨o, ho, h⟩ := h
  refine ⟨o, ho, ?_⟩
  unfold BindingRange.ofOperand at h
  split at h
  case h_1 hindex | h_2 hindex =>
    cases h
    simp [Operand.register?, hindex, OperandIndex.get?, OperandIndex.toList, BindingRange.single]
  case h_3 hindex =>
    simp [Operand.register?, hindex, OperandIndex.get?, OperandIndex.toList,
      BindingRange.id_of_between h]
  case h_4 => cases h

/-- The modes of samplers that are accepted are those that have a name. -/
theorem checkSamplerMode_eq_ok_iff {mode mode' : SamplerMode} :
    checkSamplerMode mode = .ok mode' ↔ mode' = mode ∧ ∀ raw, mode ≠ .unknown raw := by
  cases mode <;> simp [checkSamplerMode, eq_comm]

namespace Resources

variable {stage : Stage} {i : Instruction} {r r' : Resources} {u : Unit}

/-- A binding needs a number that is free. What follows finds it last in the order. -/
theorem addBinding_bind_eq_ok_iff {kind : BindingKind} {id : UInt32} {β : Type} {c : β}
    {k : Unit → Declare β} :
    (addBinding kind id >>= k) r = .ok c r' ↔
      r.isDeclared kind id = false ∧
        k () { r with order := r.order ++ [(kind, id)] } = .ok c r' := by
  simp only [addBinding, bind_assoc, get_bind, require_bind_eq_ok_iff]
  rfl

/-- A resource view needs a range whose number is free. -/
theorem addResourceView_eq_ok_iff {space : UInt32} {format : ViewFormat} :
    addResourceView i space format r = .ok u r' ↔
      ∃ range, i.bindingRange .register space = .ok range ∧
        r.Free (.resourceView { range, format }) ∧
        r' = r.add (.resourceView { range, format }) := by
  simp only [addResourceView, lift_bind_eq_ok_iff, addBinding_bind_eq_ok_iff]
  refine exists_congr fun range => and_congr_right fun _ => and_congr_right fun _ => ?_
  exact ⟨fun h => by cases h; rfl, fun h => by rw [h]; rfl⟩

/-- An access view needs a range whose number is free. Its settings are read off the token. -/
theorem addAccessView_eq_ok_iff {space flags : UInt32} {format : ViewFormat} :
    addAccessView i space flags format r = .ok u r' ↔
      ∃ range, i.bindingRange .register space = .ok range ∧
        r.Free (.accessView { range, format, flags := .ofBits flags }) ∧
        r' = r.add (.accessView { range, format, flags := .ofBits flags }) := by
  simp only [addAccessView, lift_bind_eq_ok_iff, addBinding_bind_eq_ok_iff]
  refine exists_congr fun range => and_congr_right fun _ => and_congr_right fun _ => ?_
  exact ⟨fun h => by cases h; rfl, fun h => by rw [h]; rfl⟩

/-- Shared memory needs a register that is free. -/
theorem addSharedMemory_eq_ok_iff {memory : SharedMemory} :
    addSharedMemory i memory r = .ok u r' ↔
      ∃ o id, i.operand? 0 = some o ∧ o.register? = some id ∧
        r.Free (.sharedMemory id memory) ∧ r' = r.add (.sharedMemory id memory) := by
  simp only [addSharedMemory, lift_bind_eq_ok_iff, Instruction.declared_eq_ok_iff,
    orFault_bind_eq_ok_iff, get_bind, require_bind_eq_ok_iff]
  constructor
  · rintro ⟨o, ho, id, hid, hfree, h⟩
    cases h
    exact ⟨o, id, ho, hid, hfree, rfl⟩
  · rintro ⟨o, id, ho, hid, hfree, rfl⟩
    exact ⟨o, ho, id, hid, hfree, rfl⟩

/-- A declaration that is accepted adds something for which there is room. -/
theorem exists_adds_of_declare (h : declare stage i r = .ok u r') :
    ∃ a, i.Adds stage a ∧ r.Free a ∧ r' = r.add a := by
  simp only [declare, orFault_bind_eq_ok_iff] at h
  obtain ⟨payload, hd, h⟩ := h
  generalize hop : i.opcode = op at h
  split at h
  case h_1 =>
    simp only [lift_bind_eq_ok_iff, addBinding_bind_eq_ok_iff] at h
    obtain ⟨range, hr, hfree, h⟩ := h
    cases h
    exact ⟨_, .constantBuffer hop hd hr, hfree, rfl⟩
  case h_2 =>
    simp only [lift_bind_eq_ok_iff, addBinding_bind_eq_ok_iff, checkSamplerMode_eq_ok_iff] at h
    obtain ⟨_, ⟨rfl, hm⟩, range, hr, hfree, h⟩ := h
    cases h
    exact ⟨_, .sampler hop hd hm hr, hfree, rfl⟩
  case h_3 =>
    simp only [lift_bind_eq_ok_iff, addResourceView_eq_ok_iff] at h
    obtain ⟨format, hf, range, hr, h⟩ := h
    exact ⟨_, .resource hop hd hf hr, h⟩
  case h_4 =>
    obtain ⟨range, hr, h⟩ := addResourceView_eq_ok_iff.1 h
    exact ⟨_, .resourceRaw hop hd hr, h⟩
  case h_5 =>
    obtain ⟨range, hr, h⟩ := addResourceView_eq_ok_iff.1 h
    exact ⟨_, .resourceStructured hop hd hr, h⟩
  case h_6 =>
    simp only [lift_bind_eq_ok_iff, addAccessView_eq_ok_iff] at h
    obtain ⟨format, hf, range, hr, h⟩ := h
    exact ⟨_, .uavTyped hop hd hf hr, h⟩
  case h_7 =>
    obtain ⟨range, hr, h⟩ := addAccessView_eq_ok_iff.1 h
    exact ⟨_, .uavRaw hop hd hr, h⟩
  case h_8 =>
    obtain ⟨range, hr, h⟩ := addAccessView_eq_ok_iff.1 h
    exact ⟨_, .uavStructured hop hd hr, h⟩
  case h_9 =>
    cases h
    exact ⟨_, .temps hop hd, trivial, rfl⟩
  case h_10 =>
    simp only [get_bind, require_bind_eq_ok_iff] at h
    obtain ⟨hfree, h⟩ := h
    cases h
    exact ⟨_, .indexableTemp hop hd, hfree, rfl⟩
  case h_11 =>
    simp only [get_bind, require_bind_eq_ok_iff] at h
    obtain ⟨hs, hne, hfree, h⟩ := h
    cases h
    exact ⟨_, .threadGroup hop hd hs hne, hfree, rfl⟩
  case h_12 =>
    simp only [require_bind_eq_ok_iff, lift_bind_eq_ok_iff, addSharedMemory_eq_ok_iff] at h
    obtain ⟨hs, memory, hm, o, id, ho, hid, h⟩ := h
    exact ⟨_, .sharedRaw hop hd hs hm ho hid, h⟩
  case h_13 =>
    simp only [require_bind_eq_ok_iff, lift_bind_eq_ok_iff, addSharedMemory_eq_ok_iff] at h
    obtain ⟨hs, memory, hm, o, id, ho, hid, h⟩ := h
    exact ⟨_, .sharedStructured hop hd hs hm ho hid, h⟩
  case h_14 =>
    cases h
    exact ⟨_, .globalFlags hop hd, trivial, rfl⟩
  case h_15 =>
    cases h
    exact ⟨_, .indexRange hop hd, trivial, rfl⟩
  case h_16 =>
    split at h
    · next hc =>
      subst hc
      simp only [addConstants, get_bind, require_bind_eq_ok_iff] at h
      obtain ⟨hw, hfree, h⟩ := h
      cases h
      exact ⟨_, .constants hop hd hw, hfree, rfl⟩
    · next hc =>
      cases h
      exact ⟨_, .data hop hd hc, trivial, rfl⟩
  case h_17 => exact absurd h throw_ne_ok

/-- A declaration is accepted if there is room for what it adds. -/
theorem declare_of_adds {a : Addition} (ha : i.Adds stage a) (hfree : r.Free a) :
    declare stage i r = .ok () (r.add a) := by
  simp only [declare, orFault_bind_eq_ok_iff]
  cases ha with
  | constantBuffer hop hd hr =>
    refine ⟨_, hd, ?_⟩
    simp only [hop, lift_bind_eq_ok_iff, addBinding_bind_eq_ok_iff]
    exact ⟨_, hr, hfree, rfl⟩
  | sampler hop hd hm hr =>
    refine ⟨_, hd, ?_⟩
    simp only [hop, lift_bind_eq_ok_iff, addBinding_bind_eq_ok_iff, checkSamplerMode_eq_ok_iff]
    exact ⟨_, ⟨rfl, hm⟩, _, hr, hfree, rfl⟩
  | resource hop hd hf hr =>
    refine ⟨_, hd, ?_⟩
    simp only [hop, lift_bind_eq_ok_iff, addResourceView_eq_ok_iff]
    exact ⟨_, hf, _, hr, hfree, rfl⟩
  | resourceRaw hop hd hr | resourceStructured hop hd hr =>
    refine ⟨_, hd, ?_⟩
    simp only [hop, addResourceView_eq_ok_iff]
    exact ⟨_, hr, hfree, rfl⟩
  | uavTyped hop hd hf hr =>
    refine ⟨_, hd, ?_⟩
    simp only [hop, lift_bind_eq_ok_iff, addAccessView_eq_ok_iff]
    exact ⟨_, hf, _, hr, hfree, rfl⟩
  | uavRaw hop hd hr | uavStructured hop hd hr =>
    refine ⟨_, hd, ?_⟩
    simp only [hop, addAccessView_eq_ok_iff]
    exact ⟨_, hr, hfree, rfl⟩
  | temps hop hd | globalFlags hop hd | indexRange hop hd =>
    refine ⟨_, hd, ?_⟩
    simp only [hop]
    rfl
  | indexableTemp hop hd =>
    refine ⟨_, hd, ?_⟩
    simp only [hop, get_bind, require_bind_eq_ok_iff]
    exact ⟨hfree, rfl⟩
  | threadGroup hop hd hs hne =>
    refine ⟨_, hd, ?_⟩
    simp only [hop, get_bind, require_bind_eq_ok_iff]
    exact ⟨hs, hne, hfree, rfl⟩
  | sharedRaw hop hd hs hm ho hid | sharedStructured hop hd hs hm ho hid =>
    refine ⟨_, hd, ?_⟩
    simp only [hop, require_bind_eq_ok_iff, lift_bind_eq_ok_iff, addSharedMemory_eq_ok_iff]
    exact ⟨hs, _, hm, _, _, ho, hid, hfree, rfl⟩
  | constants hop hd hw =>
    refine ⟨_, hd, ?_⟩
    simp only [hop, if_true, addConstants, get_bind, require_bind_eq_ok_iff]
    exact ⟨hw, hfree, rfl⟩
  | data hop hd hc =>
    refine ⟨_, hd, ?_⟩
    simp only [hop, if_neg hc]
    rfl

/-- A declaration is accepted exactly if it says what to add and there is room for that. Then that
is added, and nothing else changes. -/
theorem declare_eq_ok_iff :
    declare stage i r = .ok u r' ↔ ∃ a, i.Adds stage a ∧ r.Free a ∧ r' = r.add a := by
  refine ⟨exists_adds_of_declare, ?_⟩
  rintro ⟨a, ha, hfree, rfl⟩
  exact declare_of_adds ha hfree

/-! ### What an addition changes -/

variable {a : Addition} {kind : BindingKind} {id : UInt32}

/-- What is bound comes last in the order. -/
theorem order_add : (r.add a).order = r.order ++ a.binding?.toList := by
  cases a <;> simp [add, Addition.binding?]

/-- After a declaration the binding that it adds is there, and those that were there before. -/
theorem isDeclared_add :
    (r.add a).isDeclared kind id = true ↔
      a.binding? = some (kind, id) ∨ r.isDeclared kind id = true := by
  cases a <;> cases kind <;> simp [add, isDeclared, Addition.binding?]

/-- After a declaration the shared memory that it adds is there, and what was there before. -/
theorem mem_sharedMemory_add :
    id ∈ (r.add a).sharedMemory ↔
      (∃ memory, a = .sharedMemory id memory) ∨ id ∈ r.sharedMemory := by
  cases a <;> simp [add, Std.ExtTreeMap.mem_insert]

/-- The size of the thread group is the one just declared, or else the one declared before. -/
theorem threadGroup_add {size : ThreadGroup} (h : (r.add a).threadGroup = some size) :
    a = .threadGroup size ∨ r.threadGroup = some size := by
  cases a with
  | threadGroup =>
    cases h
    exact .inl rfl
  | _ => exact .inr h

/-- There is no room for a binding that is declared. -/
theorem Free.isDeclared (h : r.Free a) (ha : a.binding? = some (kind, id)) :
    r.isDeclared kind id = false := by
  cases a <;> simp only [Addition.binding?, Option.some.injEq, Prod.mk.injEq, reduceCtorEq] at ha
  all_goals
    obtain ⟨rfl, rfl⟩ := ha
    exact h

/-- The order lists what is declared, each binding once. -/
structure Consistent (r : Resources) : Prop where
  nodup : r.order.Nodup
  mem_order : ∀ {kind id}, (kind, id) ∈ r.order ↔ r.isDeclared kind id = true

/-- Where nothing is declared there is no order. -/
theorem consistent_empty : Consistent {} := by
  refine ⟨List.nodup_nil, fun {kind id} => ?_⟩
  cases kind <;> simp [isDeclared]

/-- A declaration that finds room keeps the order and the maps consistent. -/
theorem Consistent.add (h : r.Consistent) (hfree : r.Free a) : (r.add a).Consistent := by
  refine ⟨?_, fun {kind id} => ?_⟩
  · rw [order_add, List.nodup_append]
    refine ⟨h.nodup, by cases a.binding? <;> simp, ?_⟩
    rintro ⟨kind, id⟩ hold _ hnew rfl
    have hdeclared := h.mem_order.1 hold
    rw [hfree.isDeclared (Option.mem_toList.1 hnew)] at hdeclared
    cases hdeclared
  · rw [order_add, List.mem_append, isDeclared_add, h.mem_order, Option.mem_toList, or_comm]

end Resources

/-! ## Lists of declarations -/

/-- The kind of binding that an opcode declares, if it declares one. -/
def Opcode.bindingKind? : Opcode → Option BindingKind
  | .resourceDcl .constantBuffer => some .constantBuffer
  | .resourceDcl .sampler => some .sampler
  | .resourceDcl .resource | .resourceDcl .resourceRaw | .resourceDcl .resourceStructured =>
    some .resource
  | .resourceDcl .uavTyped | .resourceDcl .uavRaw | .resourceDcl .uavStructured => some .access
  | _ => none

/-- Whether an opcode declares shared memory. -/
def Opcode.isSharedMemory : Opcode → Bool
  | .resourceDcl .sharedRaw | .resourceDcl .sharedStructured => true
  | _ => false

namespace Instruction

variable {stage : Stage} {i : Instruction} {a : Addition}

/-- The first index of the operand that a declaration declares. -/
def declaredIndex? (i : Instruction) : Option UInt32 := (i.operand? 0).bind Operand.register?

/-- The binding that a declaration names. -/
def binding? (i : Instruction) : Option (BindingKind × UInt32) :=
  i.opcode.bindingKind?.bind fun kind => i.declaredIndex?.map fun id => (kind, id)

/-- The number of the shared memory that a declaration names. -/
def sharedMemory? (i : Instruction) : Option UInt32 :=
  if i.opcode.isSharedMemory then i.declaredIndex? else none

/-- A range has the number that the instruction declares. -/
theorem declaredIndex?_of_bindingRange {legacy : LegacyForm} {space : UInt32}
    {range : BindingRange} (h : i.bindingRange legacy space = .ok range) :
    i.declaredIndex? = some range.id := by
  obtain ⟨o, ho, hid⟩ := exists_operand h
  rw [declaredIndex?, ho, Option.bind_some, hid]

/-- What is added is the binding that the declaration names. -/
theorem Adds.binding?_eq (h : i.Adds stage a) : a.binding? = i.binding? := by
  unfold binding?
  cases h with
  | constantBuffer hop hd hr | sampler hop hd _ hr | resource hop hd _ hr | resourceRaw hop hd hr
  | resourceStructured hop hd hr | uavTyped hop hd _ hr | uavRaw hop hd hr
  | uavStructured hop hd hr =>
    rw [hop, declaredIndex?_of_bindingRange hr]
    rfl
  | temps hop | indexableTemp hop | threadGroup hop | sharedRaw hop | sharedStructured hop
  | globalFlags hop | indexRange hop | constants hop | data hop =>
    rw [hop]
    rfl

/-- A declaration of a binding is not accepted unless it names one. -/
theorem Adds.isSome_binding? (h : i.Adds stage a) (hk : i.opcode.bindingKind?.isSome = true) :
    i.binding?.isSome = true := by
  rw [← h.binding?_eq]
  cases h with
  | constantBuffer | sampler | resource | resourceRaw | resourceStructured | uavTyped | uavRaw
  | uavStructured => rfl
  | temps hop | indexableTemp hop | threadGroup hop | sharedRaw hop | sharedStructured hop
  | globalFlags hop | indexRange hop | constants hop | data hop =>
    rw [hop] at hk
    cases hk

/-- Shared memory is added by the declaration that names it, in a compute shader. -/
theorem Adds.sharedMemory?_eq {id : UInt32} {memory : SharedMemory}
    (h : i.Adds stage (.sharedMemory id memory)) :
    i.sharedMemory? = some id ∧ stage = .compute := by
  cases h with
  | sharedRaw hop _ hs _ ho hid | sharedStructured hop _ hs _ ho hid =>
    refine ⟨?_, hs⟩
    rw [sharedMemory?, hop, declaredIndex?, ho, Option.bind_some, hid]
    rfl

end Instruction

namespace Resources

variable {stage : Stage} {i : Instruction} {is : List Instruction} {r r' : Resources} {u : Unit}

/-- Records declarations in order. -/
def declareAll (stage : Stage) (is : List Instruction) : Declare Unit := is.forM (declare stage)

/-- The first declaration is accepted, and then the others are. -/
theorem declareAll_cons_eq_ok_iff :
    declareAll stage (i :: is) r = .ok u r' ↔
      ∃ r₁, declare stage i r = .ok () r₁ ∧ declareAll stage is r₁ = .ok u r' :=
  forM_cons_eq_ok_iff

/-- The last declaration is accepted after the others. -/
theorem declareAll_concat_eq_ok_iff :
    declareAll stage (is ++ [i]) r = .ok u r' ↔
      ∃ r₁, declareAll stage is r = .ok () r₁ ∧ declare stage i r₁ = .ok u r' :=
  forM_concat_eq_ok_iff

/-- What every addition preserves, with the list of the declarations so far, holds of the resources
that declarations leave. -/
theorem declareAll_induction {P : List Instruction → Resources → Prop} (hempty : P [] {})
    (hadd : ∀ {done i a r}, P done r → i.Adds stage a → r.Free a → P (done ++ [i]) (r.add a))
    (h : declareAll stage is {} = .ok u r) : P is r := by
  -- The induction goes through the declarations that are left, whatever came before them.
  suffices hfrom : ∀ {done r₀}, P done r₀ → declareAll stage is r₀ = .ok u r → P (done ++ is) r from
    hfrom hempty h
  clear h
  induction is with
  | nil =>
    intro done r₀ hP h
    cases h
    rw [List.append_nil]
    exact hP
  | cons i is ih =>
    intro done r₀ hP h
    obtain ⟨r₁, hi, h⟩ := declareAll_cons_eq_ok_iff.1 h
    obtain ⟨a, ha, hfree, rfl⟩ := declare_eq_ok_iff.1 hi
    have hlast := ih (hadd hP ha hfree) h
    rw [List.append_assoc] at hlast
    exact hlast

/-- The order lists the bindings that the declarations name, one for each declaration of a
binding. -/
theorem order_of_declareAll (h : declareAll stage is {} = .ok u r) :
    r.Consistent ∧
      (is.filter fun i => i.opcode.bindingKind?.isSome).map Instruction.binding? =
        r.order.map some := by
  refine declareAll_induction (P := fun done r => r.Consistent ∧
    (done.filter fun i => i.opcode.bindingKind?.isSome).map Instruction.binding? =
      r.order.map some) ⟨consistent_empty, rfl⟩ ?_ h
  rintro done i a r ⟨hr, horder⟩ ha hfree
  refine ⟨hr.add hfree, ?_⟩
  rw [List.filter_append, List.map_append, horder, order_add, List.map_append, ha.binding?_eq]
  congr 1
  cases hk : i.opcode.bindingKind?.isSome with
  | true =>
    obtain ⟨b, hb⟩ := Option.isSome_iff_exists.1 (ha.isSome_binding? hk)
    simp [hk, hb]
  | false =>
    rw [Option.isSome_eq_false_iff, Option.isNone_iff_eq_none] at hk
    simp [hk, Instruction.binding?]

/-- A binding is declared because a declaration names it. -/
theorem exists_binding_of_declareAll (h : declareAll stage is {} = .ok u r) {kind : BindingKind}
    {id : UInt32} (hd : r.isDeclared kind id = true) : ∃ i ∈ is, i.binding? = some (kind, id) := by
  obtain ⟨hconsistent, horder⟩ := order_of_declareAll h
  have hmem : some (kind, id) ∈ r.order.map some :=
    List.mem_map.2 ⟨_, hconsistent.mem_order.2 hd, rfl⟩
  rw [← horder] at hmem
  obtain ⟨i, hi, hb⟩ := List.mem_map.1 hmem
  exact ⟨i, (List.mem_filter.1 hi).1, hb⟩

/-- Shared memory is there because a declaration of a compute shader names it. -/
theorem exists_sharedMemory_of_declareAll (h : declareAll stage is {} = .ok u r) {id : UInt32}
    (hid : id ∈ r.sharedMemory) : stage = .compute ∧ ∃ i ∈ is, i.sharedMemory? = some id := by
  refine declareAll_induction (P := fun done r => ∀ id ∈ r.sharedMemory,
    stage = .compute ∧ ∃ i ∈ done, i.sharedMemory? = some id) (by simp) ?_ h id hid
  intro done i a r hr ha _ id hid
  rcases mem_sharedMemory_add.1 hid with ⟨memory, rfl⟩ | hold
  · obtain ⟨hshared, hs⟩ := ha.sharedMemory?_eq
    exact ⟨hs, i, by simp, hshared⟩
  · obtain ⟨hs, j, hj, hshared⟩ := hr id hold
    exact ⟨hs, j, List.mem_append_left _ hj, hshared⟩

/-- A thread group that is declared belongs to a compute shader and is not empty. -/
theorem threadGroup_of_declareAll (h : declareAll stage is {} = .ok u r) {size : ThreadGroup}
    (hsize : r.threadGroup = some size) :
    stage = .compute ∧ size.x ≠ 0 ∧ size.y ≠ 0 ∧ size.z ≠ 0 := by
  refine declareAll_induction (P := fun _ r => ∀ size, r.threadGroup = some size →
    stage = .compute ∧ size.x ≠ 0 ∧ size.y ≠ 0 ∧ size.z ≠ 0) nofun ?_ h size hsize
  intro _ i a r hr ha _ size hsize
  rcases threadGroup_add hsize with rfl | hold
  · cases ha with
    | threadGroup _ _ hs hne => exact ⟨hs, hne⟩
  · exact hr size hold

end Resources

end ShaderFlow
