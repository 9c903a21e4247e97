import ShaderFlow.Proofs.Inventory

/-!
# The sizes that declarations give

Declarations give sizes in numbers of 32 bits: the first and the last register of a range, the bytes
of shared memory or the stride and the number of its records, the words of the constants. What is
recorded is exact, in numbers without bound (`Resources.Exact`), and a size is refused only if it
cannot be recorded so: the records of shared memory have to be whole words, less than 2³² of them,
and a range may not end before it begins (`Resources.exact_of_declare`). The last register 2³² - 1
stands for no bound, wherever the range begins.
-/

namespace ShaderFlow

/-! ## Shared memory -/

/-- A product is given if it fits into 32 bits, and then it is the product of the numbers. -/
theorem product?_eq_some_iff {a b c : UInt32} :
    product? a b = some c ↔ c.toNat = a.toNat * b.toNat := by
  unfold product?
  split
  · next hlt =>
    have hmul : (a * b).toNat = a.toNat * b.toNat := by
      rw [UInt32.toNat_mul, Nat.mod_eq_of_lt hlt]
    rw [Option.some.injEq, ← UInt32.toNat_inj, hmul, eq_comm]
  · next hge =>
    have hc := c.toNat_lt_size
    exact ⟨nofun, fun h => absurd (h ▸ hc) hge⟩

/-- Divisibility by four is the same for 32 bits and for the number that they stand for. -/
theorem toNat_mod_four_eq_zero_iff {a : UInt32} : a % 4 = 0 ↔ a.toNat % 4 = 0 := by
  rw [← UInt32.toNat_inj, UInt32.toNat_mod]
  rfl

namespace SharedMemory

variable {bytes stride count : UInt32} {memory : SharedMemory}

/-- Memory of a number of bytes has a quarter as many words. -/
theorem words_of_ofBytes (h : ofBytes bytes = .ok memory) :
    4 * memory.words.toNat = bytes.toNat := by
  simp only [ofBytes, except_bind_eq_ok_iff, except_require_eq_ok_iff] at h
  obtain ⟨-, hdiv, h⟩ := h
  cases h
  have hzero := toNat_mod_four_eq_zero_iff.1 hdiv
  have hwords : (bytes / 4).toNat = bytes.toNat / 4 := UInt32.toNat_div bytes 4
  show 4 * (bytes / 4).toNat = bytes.toNat
  omega

/-- Records are accepted if they are whole words and the number of the words fits. -/
theorem ofRecords_eq_ok_iff :
    (∃ memory, ofRecords stride count = .ok memory) ↔
      stride.toNat % 4 = 0 ∧ stride.toNat / 4 * count.toNat < UInt32.size := by
  have hquarter : (stride / 4).toNat = stride.toNat / 4 := UInt32.toNat_div stride 4
  simp only [ofRecords, except_bind_eq_ok_iff, except_require_eq_ok_iff, except_orFault_eq_ok_iff,
    product?_eq_some_iff, toNat_mod_four_eq_zero_iff, hquarter]
  constructor
  · rintro ⟨_, -, hdiv, words, hwords, -⟩
    exact ⟨hdiv, hwords ▸ words.toNat_lt_size⟩
  · rintro ⟨hdiv, hlt⟩
    exact ⟨_, (), hdiv, .ofNat _, UInt32.toNat_ofNat_of_lt hlt, rfl⟩

/-- The words of records hold the bytes of all records. -/
theorem words_of_ofRecords (h : ofRecords stride count = .ok memory) :
    4 * memory.words.toNat = stride.toNat * count.toNat := by
  simp only [ofRecords, except_bind_eq_ok_iff, except_require_eq_ok_iff, except_orFault_eq_ok_iff,
    product?_eq_some_iff] at h
  obtain ⟨-, hdiv, words, hwords, h⟩ := h
  cases h
  have hzero := toNat_mod_four_eq_zero_iff.1 hdiv
  have hstride : stride.toNat = 4 * (stride / 4).toNat := by
    have hquarter : (stride / 4).toNat = stride.toNat / 4 := UInt32.toNat_div stride 4
    omega
  show 4 * words.toNat = stride.toNat * count.toNat
  rw [hwords, hstride, Nat.mul_assoc]

end SharedMemory

/-! ## Ranges -/

/-- The indices that each kind of binding has before shader model 5.1. -/
def BindingKind.legacyForm : BindingKind → LegacyForm
  | .constantBuffer => .sized
  | .sampler | .resource | .access => .register

/-- The registers that the indices of an operand span. -/
inductive BindingRange.Spans (space : UInt32) :
    BindingRange → LegacyForm → OperandIndex → Prop where
  | register {id : UInt32} : Spans space ⟨id, id, .bounded 1, 0⟩ .register (.d1 id)
  | sized {id size : UInt32} : Spans space ⟨id, id, .bounded 1, 0⟩ .sized (.d2 id size)
  | unbounded {legacy : LegacyForm} {id lower upper : UInt32}
      (hupper : upper.toNat = UInt32.size - 1) :
      Spans space ⟨id, lower, .unbounded, space⟩ legacy (.d3 id lower upper)
  | bounded {legacy : LegacyForm} {id lower upper count : UInt32}
      (hupper : upper.toNat ≠ UInt32.size - 1) (hpos : 1 ≤ count.toNat)
      (hcount : lower.toNat + count.toNat = upper.toNat + 1) :
      Spans space ⟨id, lower, .bounded count, space⟩ legacy (.d3 id lower upper)

namespace BindingRange

variable {id lower upper space : UInt32} {o : Operand} {legacy : LegacyForm} {range : BindingRange}

/-- The bound that means no bound is the largest one. -/
theorem eq_last_iff : upper = 0xffffffff ↔ upper.toNat = UInt32.size - 1 :=
  UInt32.toNat_inj.symm

/-- The number of registers, which is not rounded because the last number is not among them. -/
theorem toNat_count (hupper : upper.toNat ≠ UInt32.size - 1) (hle : lower ≤ upper) :
    lower.toNat + (upper - lower + 1).toNat = upper.toNat + 1 := by
  have hsize : UInt32.size = 2 ^ 32 := rfl
  have hlt := upper.toNat_lt_size
  have hle' := UInt32.le_iff_toNat_le.1 hle
  have hsub : (upper - lower).toNat = upper.toNat - lower.toNat := UInt32.toNat_sub_of_le _ _ hle
  have hone : (1 : UInt32).toNat = 1 := rfl
  rw [UInt32.toNat_add, hsub, hone]
  omega

/-- The range that is computed from bounds spans the registers between them. -/
theorem spans_of_between (h : between id lower upper space = .ok range) :
    range.Spans space legacy (.d3 id lower upper) := by
  unfold between at h
  split at h
  · next hupper =>
    cases h
    exact .unbounded (eq_last_iff.1 hupper)
  · next hupper =>
    split at h
    · cases h
    · next hle =>
      cases h
      have hcount := toNat_count (mt eq_last_iff.2 hupper) (UInt32.not_lt.1 hle)
      have hle' := UInt32.le_iff_toNat_le.1 (UInt32.not_lt.1 hle)
      exact .bounded (mt eq_last_iff.2 hupper) (by omega) hcount

/-- With the largest upper bound a range has no end. -/
theorem between_of_unbounded (hupper : upper.toNat = UInt32.size - 1) :
    between id lower upper space = .ok ⟨id, lower, .unbounded, space⟩ :=
  if_pos (eq_last_iff.2 hupper)

/-- Otherwise the range has as many registers as there are between the bounds, both included. -/
theorem between_of_bounded {count : UInt32} (hupper : upper.toNat ≠ UInt32.size - 1)
    (hpos : 1 ≤ count.toNat) (hcount : lower.toNat + count.toNat = upper.toNat + 1) :
    between id lower upper space = .ok ⟨id, lower, .bounded count, space⟩ := by
  have hle : lower ≤ upper := UInt32.le_iff_toNat_le.2 (by omega)
  have hsame : upper - lower + 1 = count := by
    have hcount' := toNat_count hupper hle
    exact UInt32.toNat_inj.1 (by omega)
  rw [between, if_neg (mt eq_last_iff.1 hupper), if_neg (UInt32.not_lt.2 hle), hsame]

/-- A range is recorded as the indices span it. -/
theorem ofOperand_eq_ok_iff :
    ofOperand o legacy space = .ok range ↔ range.Spans space legacy o.index := by
  unfold ofOperand
  constructor
  · intro h
    split at h
    case h_1 hindex =>
      cases h
      rw [hindex]
      exact .register
    case h_2 hindex =>
      cases h
      rw [hindex]
      exact .sized
    case h_3 hindex =>
      rw [hindex]
      exact spans_of_between h
    case h_4 => cases h
  · intro h
    generalize hindex : o.index = index at h
    cases h with
    | register | sized => rfl
    | unbounded hupper => exact between_of_unbounded hupper
    | bounded hupper hpos hcount => exact between_of_bounded hupper hpos hcount

/-- A range is refused for its bounds if its end comes before its beginning. -/
theorem ofOperand_eq_invertedRange_iff :
    ofOperand o legacy space = .error (.invertedRange lower upper) ↔
      (∃ id, o.index = .d3 id lower upper) ∧ upper < lower ∧ upper.toNat ≠ UInt32.size - 1 := by
  unfold ofOperand
  constructor
  · intro h
    split at h
    case h_1 | h_2 => cases h
    case h_3 hindex =>
      unfold between at h
      split at h
      · cases h
      · next hupper =>
        split at h
        · next hlt =>
          cases h
          exact ⟨⟨_, hindex⟩, hlt, mt eq_last_iff.2 hupper⟩
        · cases h
    case h_4 => cases h
  · rintro ⟨⟨id, hindex⟩, hlt, hupper⟩
    rw [hindex]
    show between id lower upper space = _
    rw [between, if_neg (mt eq_last_iff.1 hupper), if_pos hlt]

end BindingRange

namespace Instruction

variable {stage : Stage} {i : Instruction} {a : Addition} {kind : BindingKind}
  {legacy : LegacyForm} {space lower upper : UInt32}

/-- A missing operand is no inverted range. -/
theorem declared_ne_invertedRange : i.declared ≠ .error (.invertedRange lower upper) := by
  unfold declared
  cases i.operand? 0 <;> exact nofun

/-- A range is refused as inverted exactly if its upper bound is below its lower bound and is not
the largest one. -/
theorem bindingRange_eq_invertedRange_iff :
    i.bindingRange legacy space = .error (.invertedRange lower upper) ↔
      (∃ o id, i.operand? 0 = some o ∧ o.index = .d3 id lower upper) ∧ upper < lower ∧
        upper.toNat ≠ UInt32.size - 1 := by
  rw [bindingRange, except_bind_eq_error_iff]
  constructor
  · rintro (h | ⟨o, ho, h⟩)
    · exact absurd h declared_ne_invertedRange
    · obtain ⟨⟨id, hindex⟩, hbounds⟩ := BindingRange.ofOperand_eq_invertedRange_iff.1 h
      exact ⟨⟨o, id, declared_eq_ok_iff.1 ho, hindex⟩, hbounds⟩
  · rintro ⟨⟨o, id, ho, hindex⟩, hbounds⟩
    refine .inr ⟨o, declared_eq_ok_iff.2 ho, ?_⟩
    exact BindingRange.ofOperand_eq_invertedRange_iff.2 ⟨⟨id, hindex⟩, hbounds⟩

/-- The instruction declares bindings of a kind in a space, and passes the checks that come before
the one of their range. -/
inductive Binds (i : Instruction) : BindingKind → UInt32 → Prop where
  | constantBuffer {sizeInVec4 space : UInt32} {dynamic : Bool}
      (hop : i.opcode = .resourceDcl .constantBuffer)
      (hd : i.declaration = some (.constantBuffer sizeInVec4 space dynamic)) :
      Binds i .constantBuffer space
  | sampler {mode : SamplerMode} {space : UInt32} (hop : i.opcode = .resourceDcl .sampler)
      (hd : i.declaration = some (.sampler mode space)) (hm : ∀ raw, mode ≠ .unknown raw) :
      Binds i .sampler space
  | resource {dimension : Dimension} {returnType : Quad ReturnType} {samples space : UInt32}
      {format : ViewFormat} (hop : i.opcode = .resourceDcl .resource)
      (hd : i.declaration = some (.resource dimension returnType samples space))
      (hf : ViewFormat.typed dimension returnType = .ok format) : Binds i .resource space
  | resourceRaw {space : UInt32} (hop : i.opcode = .resourceDcl .resourceRaw)
      (hd : i.declaration = some (.resourceRaw space)) : Binds i .resource space
  | resourceStructured {stride space : UInt32} (hop : i.opcode = .resourceDcl .resourceStructured)
      (hd : i.declaration = some (.resourceStructured stride space)) : Binds i .resource space
  | uavTyped {dimension : Dimension} {returnType : Quad ReturnType} {flags space : UInt32}
      {format : ViewFormat} (hop : i.opcode = .resourceDcl .uavTyped)
      (hd : i.declaration = some (.uavTyped dimension returnType flags space))
      (hf : ViewFormat.typed dimension returnType = .ok format) : Binds i .access space
  | uavRaw {flags space : UInt32} (hop : i.opcode = .resourceDcl .uavRaw)
      (hd : i.declaration = some (.uavRaw flags space)) : Binds i .access space
  | uavStructured {stride flags space : UInt32} (hop : i.opcode = .resourceDcl .uavStructured)
      (hd : i.declaration = some (.uavStructured stride flags space)) : Binds i .access space

/-- A declaration of bindings adds one with the range that it declares. -/
theorem Adds.exists_binds (h : i.Adds stage a) (hk : i.opcode.bindingKind? = some kind) :
    ∃ space range, i.Binds kind space ∧ i.bindingRange kind.legacyForm space = .ok range ∧
      a.binding? = some (kind, range.id) ∧ a.range? = some range := by
  cases h with
  | constantBuffer hop hd hr =>
    cases hop ▸ hk
    exact ⟨_, _, .constantBuffer hop hd, hr, rfl, rfl⟩
  | sampler hop hd hm hr =>
    cases hop ▸ hk
    exact ⟨_, _, .sampler hop hd hm, hr, rfl, rfl⟩
  | resource hop hd hf hr =>
    cases hop ▸ hk
    exact ⟨_, _, .resource hop hd hf, hr, rfl, rfl⟩
  | resourceRaw hop hd hr =>
    cases hop ▸ hk
    exact ⟨_, _, .resourceRaw hop hd, hr, rfl, rfl⟩
  | resourceStructured hop hd hr =>
    cases hop ▸ hk
    exact ⟨_, _, .resourceStructured hop hd, hr, rfl, rfl⟩
  | uavTyped hop hd hf hr =>
    cases hop ▸ hk
    exact ⟨_, _, .uavTyped hop hd hf, hr, rfl, rfl⟩
  | uavRaw hop hd hr =>
    cases hop ▸ hk
    exact ⟨_, _, .uavRaw hop hd, hr, rfl, rfl⟩
  | uavStructured hop hd hr =>
    cases hop ▸ hk
    exact ⟨_, _, .uavStructured hop hd, hr, rfl, rfl⟩
  | temps hop | indexableTemp hop | threadGroup hop | sharedRaw hop | sharedStructured hop
  | globalFlags hop | indexRange hop | constants hop | data hop =>
    rw [hop] at hk
    cases hk

end Instruction

/-! ## Declarations -/

namespace Resources

variable {stage : Stage} {i : Instruction} {r r' : Resources} {kind : BindingKind}
  {space lower upper : UInt32} {fault : ResourceFault}

/-- A range that is refused is the reason why the declaration is. -/
theorem declare_of_bindingRange (h : i.Binds kind space)
    (hr : i.bindingRange kind.legacyForm space = .error fault) :
    declare stage i r = .error fault r := by
  simp only [declare, orFault_bind_eq_error_iff]
  right
  cases h with
  | constantBuffer hop hd =>
    refine ⟨_, hd, ?_⟩
    simp only [hop, lift_bind_eq_error_iff]
    exact .inl ⟨hr, trivial⟩
  | sampler hop hd hm =>
    refine ⟨_, hd, ?_⟩
    simp only [hop, lift_bind_eq_error_iff]
    exact .inr ⟨_, checkSamplerMode_eq_ok_iff.2 ⟨rfl, hm⟩, .inl ⟨hr, trivial⟩⟩
  | resource hop hd hf | uavTyped hop hd hf =>
    refine ⟨_, hd, ?_⟩
    simp only [hop, lift_bind_eq_error_iff, addResourceView, addAccessView]
    exact .inr ⟨_, hf, .inl ⟨hr, trivial⟩⟩
  | resourceRaw hop hd | resourceStructured hop hd | uavRaw hop hd | uavStructured hop hd =>
    refine ⟨_, hd, ?_⟩
    simp only [hop, lift_bind_eq_error_iff, addResourceView, addAccessView]
    exact .inl ⟨hr, trivial⟩

/-- Adding a binding is refused for its range or because it is there. -/
theorem bindingRange_of_eq_error {legacy : LegacyForm}
    {record : BindingRange → Resources → Resources}
    (h : (liftM (i.bindingRange legacy space) >>= fun range =>
      addBinding kind range.id >>= fun _ => modify (record range) : Declare Unit) r =
        .error (.invertedRange lower upper) r') :
    i.bindingRange legacy space = .error (.invertedRange lower upper) := by
  simp only [lift_bind_eq_error_iff, addBinding, bind_assoc, get_bind,
    require_bind_eq_error_iff] at h
  rcases h with ⟨hr, -⟩ | ⟨_, -, ⟨-, hfault, -⟩ | ⟨-, h⟩⟩
  · exact hr
  · cases hfault
  · cases h

/-! ### Checks that do not look at a range -/

/-- A sampler is not refused for its mode as an inverted range. -/
theorem checkSamplerMode_ne_invertedRange {mode : SamplerMode} :
    checkSamplerMode mode ≠ .error (.invertedRange lower upper) := by
  cases mode <;> exact nofun

/-- A typed view is not refused for its format as an inverted range. -/
theorem typed_ne_invertedRange {dimension : Dimension} {returnType : Quad ReturnType} :
    ViewFormat.typed dimension returnType ≠ .error (.invertedRange lower upper) := by
  rw [ViewFormat.typed, ne_eq, except_bind_eq_error_iff]
  rintro (h | ⟨_, -, h⟩)
  · cases dimension <;> cases h
  · obtain h | ⟨_, -, h⟩ := except_bind_eq_error_iff.1 h
    · cases hx : returnType.x <;> rw [hx] at h <;> cases h
    · cases h

/-- Raw memory is not refused for its size as an inverted range. -/
theorem ofBytes_ne_invertedRange {bytes : UInt32} :
    SharedMemory.ofBytes bytes ≠ .error (.invertedRange lower upper) := by
  unfold SharedMemory.ofBytes require
  split <;> exact nofun

/-- Structured memory is not refused for its size as an inverted range. -/
theorem ofRecords_ne_invertedRange {stride count : UInt32} :
    SharedMemory.ofRecords stride count ≠ .error (.invertedRange lower upper) := by
  unfold SharedMemory.ofRecords require
  split
  · cases product? (stride / 4) count <;> exact nofun
  · exact nofun

/-- Shared memory has no range that could be inverted. -/
theorem addSharedMemory_ne_invertedRange {memory : SharedMemory} :
    addSharedMemory i memory r ≠ .error (.invertedRange lower upper) r' := by
  simp only [addSharedMemory, ne_eq, lift_bind_eq_error_iff, orFault_bind_eq_error_iff, get_bind,
    require_bind_eq_error_iff]
  rintro (⟨h, -⟩ | ⟨o, -, ⟨-, h, -⟩ | ⟨id, -, ⟨-, h, -⟩ | ⟨-, h⟩⟩⟩)
  · exact Instruction.declared_ne_invertedRange h
  all_goals cases h

/-! ### Bounds that are refused -/

/-- Only a declaration of bindings is refused for the bounds of a range, and it is its own range. -/
theorem exists_binds_of_invertedRange
    (h : declare stage i r = .error (.invertedRange lower upper) r') :
    ∃ kind space, i.Binds kind space ∧
      i.bindingRange kind.legacyForm space = .error (.invertedRange lower upper) := by
  simp only [declare, orFault_bind_eq_error_iff] at h
  obtain ⟨-, hfault, -⟩ | ⟨payload, hd, h⟩ := h
  · cases hfault
  generalize hop : i.opcode = op at h
  split at h
  case h_1 => exact ⟨_, _, .constantBuffer hop hd, bindingRange_of_eq_error h⟩
  case h_2 =>
    obtain ⟨hm, -⟩ | ⟨_, hm, hrest⟩ := lift_bind_eq_error_iff.1 h
    · exact absurd hm checkSamplerMode_ne_invertedRange
    · obtain ⟨-, hm⟩ := checkSamplerMode_eq_ok_iff.1 hm
      exact ⟨_, _, .sampler hop hd hm, bindingRange_of_eq_error hrest⟩
  case h_3 =>
    obtain ⟨hf, -⟩ | ⟨_, hf, hrest⟩ := lift_bind_eq_error_iff.1 h
    · exact absurd hf typed_ne_invertedRange
    · exact ⟨_, _, .resource hop hd hf, bindingRange_of_eq_error hrest⟩
  case h_4 => exact ⟨_, _, .resourceRaw hop hd, bindingRange_of_eq_error h⟩
  case h_5 => exact ⟨_, _, .resourceStructured hop hd, bindingRange_of_eq_error h⟩
  case h_6 =>
    obtain ⟨hf, -⟩ | ⟨_, hf, hrest⟩ := lift_bind_eq_error_iff.1 h
    · exact absurd hf typed_ne_invertedRange
    · exact ⟨_, _, .uavTyped hop hd hf, bindingRange_of_eq_error hrest⟩
  case h_7 => exact ⟨_, _, .uavRaw hop hd, bindingRange_of_eq_error h⟩
  case h_8 => exact ⟨_, _, .uavStructured hop hd, bindingRange_of_eq_error h⟩
  case h_9 | h_14 | h_15 | h_17 => cases h
  case h_10 =>
    simp only [get_bind, require_bind_eq_error_iff] at h
    rcases h with ⟨-, hfault, -⟩ | ⟨-, h⟩
    · cases hfault
    · cases h
  case h_11 =>
    simp only [get_bind, require_bind_eq_error_iff] at h
    rcases h with ⟨-, hfault, -⟩ | ⟨-, ⟨-, hfault, -⟩ | ⟨-, ⟨-, hfault, -⟩ | ⟨-, h⟩⟩⟩
    case inr.inr.inr => cases h
    all_goals cases hfault
  case h_12 =>
    simp only [require_bind_eq_error_iff, lift_bind_eq_error_iff] at h
    rcases h with ⟨-, hfault, -⟩ | ⟨-, ⟨hm, -⟩ | ⟨_, -, h⟩⟩
    · cases hfault
    · exact absurd hm ofBytes_ne_invertedRange
    · exact absurd h addSharedMemory_ne_invertedRange
  case h_13 =>
    simp only [require_bind_eq_error_iff, lift_bind_eq_error_iff] at h
    rcases h with ⟨-, hfault, -⟩ | ⟨-, ⟨hm, -⟩ | ⟨_, -, h⟩⟩
    · cases hfault
    · exact absurd hm ofRecords_ne_invertedRange
    · exact absurd h addSharedMemory_ne_invertedRange
  case h_16 =>
    split at h
    · simp only [addConstants, get_bind, require_bind_eq_error_iff] at h
      rcases h with ⟨-, hfault, -⟩ | ⟨-, ⟨-, hfault, -⟩ | ⟨-, h⟩⟩
      case inr.inr => cases h
      all_goals cases hfault
    · cases h

/-- A declaration is refused for the bounds of its range if the range is inverted and nothing before
it is wrong. -/
theorem exists_invertedRange_iff :
    (∃ r', declare stage i r = .error (.invertedRange lower upper) r') ↔
      (∃ kind space, i.Binds kind space) ∧
      (∃ o id, i.operand? 0 = some o ∧ o.index = .d3 id lower upper) ∧ upper < lower ∧
        upper.toNat ≠ UInt32.size - 1 := by
  constructor
  · rintro ⟨r', h⟩
    obtain ⟨kind, space, hbinds, hr⟩ := exists_binds_of_invertedRange h
    exact ⟨⟨kind, space, hbinds⟩, Instruction.bindingRange_eq_invertedRange_iff.1 hr⟩
  · rintro ⟨⟨kind, space, hbinds⟩, hbounds⟩
    refine ⟨r, declare_of_bindingRange hbinds ?_⟩
    exact Instruction.bindingRange_eq_invertedRange_iff.2 hbounds

/-! ### Sizes that are accepted -/

/-- What a declaration has left in the resources is what it gives, in numbers without bound. -/
structure Exact (r : Resources) (i : Instruction) : Prop where
  /-- A binding has the space of its declaration and the registers that its operand spans. -/
  range : ∀ {kind}, i.opcode.bindingKind? = some kind → ∃ space o range,
    i.Binds kind space ∧ i.operand? 0 = some o ∧ range.Spans space kind.legacyForm o.index ∧
      r.range? kind range.id = some range
  /-- Raw shared memory has four bytes to the word. -/
  sharedRaw : ∀ {bytes}, i.declaration = some (.sharedRaw bytes) → ∃ id memory,
    i.sharedMemory? = some id ∧ r.sharedMemory[id]? = some memory ∧
      4 * memory.words.toNat = bytes.toNat
  /-- Structured shared memory has as many words as its records need. -/
  sharedStructured : ∀ {stride count}, i.declaration = some (.sharedStructured stride count) →
    ∃ id memory, i.sharedMemory? = some id ∧ r.sharedMemory[id]? = some memory ∧
      4 * memory.words.toNat = stride.toNat * count.toNat
  /-- The rows of the constants hold exactly their words. -/
  constants : ∀ {words}, i.declaration = some (.customData .immediateConstantBuffer words) →
    r.immediateConstants.flatMap Quad.toList = words

/-- After a declaration that is accepted, what it gives is there. -/
theorem exact_add {a : Addition} (ha : i.Adds stage a) : (r.add a).Exact i where
  range {kind} hk := by
    obtain ⟨space, range, hbinds, hr, hb, hrange⟩ := ha.exists_binds hk
    simp only [Instruction.bindingRange, except_bind_eq_ok_iff, Instruction.declared_eq_ok_iff,
      BindingRange.ofOperand_eq_ok_iff] at hr
    obtain ⟨o, ho, hspans⟩ := hr
    refine ⟨space, o, range, hbinds, ho, hspans, ?_⟩
    rw [range?_add, if_pos hb, hrange]
  sharedRaw {bytes} hd := by
    cases ha with
    | @sharedRaw _ id _ memory hop hd' hs hm ho hid =>
      cases hd.symm.trans hd'
      have hshared := (Instruction.Adds.sharedRaw hop hd' hs hm ho hid).sharedMemory?_eq.1
      exact ⟨id, memory, hshared, Std.ExtTreeMap.getElem?_insert_self,
        SharedMemory.words_of_ofBytes hm⟩
    | _ => simp_all
  sharedStructured {stride count} hd := by
    cases ha with
    | @sharedStructured _ _ id _ memory hop hd' hs hm ho hid =>
      cases hd.symm.trans hd'
      have hshared := (Instruction.Adds.sharedStructured hop hd' hs hm ho hid).sharedMemory?_eq.1
      exact ⟨id, memory, hshared, Std.ExtTreeMap.getElem?_insert_self,
        SharedMemory.words_of_ofRecords hm⟩
    | _ => simp_all
  constants {words} hd := by
    cases ha with
    | constants _ hd' hw =>
      cases hd.symm.trans hd'
      exact Quad.flatMap_toList_rows words hw
    | _ => simp_all

/-- There is room for shared memory under a new number if its records are whole words and the number
of the words fits. -/
theorem exists_declare_sharedStructured_iff {stride count id : UInt32}
    (hop : i.opcode = .resourceDcl .sharedStructured)
    (hd : i.declaration = some (.sharedStructured stride count))
    (hid : i.sharedMemory? = some id) (hnew : id ∉ r.sharedMemory) :
    (∃ r', declare .compute i r = .ok () r') ↔
      stride.toNat % 4 = 0 ∧ stride.toNat / 4 * count.toNat < UInt32.size := by
  rw [← SharedMemory.ofRecords_eq_ok_iff]
  constructor
  · rintro ⟨r', h⟩
    obtain ⟨a, ha, -, -⟩ := declare_eq_ok_iff.1 h
    cases ha with
    | sharedStructured _ hd' _ hm =>
      cases hd.symm.trans hd'
      exact ⟨_, hm⟩
    | _ => simp_all
  · rintro ⟨memory, hm⟩
    rw [Instruction.sharedMemory?, hop] at hid
    obtain ⟨o, ho, hregister⟩ := Option.bind_eq_some_iff.1 hid
    exact ⟨_, declare_of_adds (.sharedStructured hop hd rfl hm ho hregister) hnew⟩

/-- Sizes are exact over all numbers of 32 bits. What is accepted is recorded as declared; in a
compute shader, shared memory under a new number is accepted if and only if its records are whole
words and the number of the words fits; and a declaration of bindings in which all else is right is
refused for its bounds if and only if its range ends before it begins and has a bound. -/
theorem exact_of_declare :
    (∀ stage i r r', declare stage i r = .ok () r' → r'.Exact i) ∧
    (∀ i r stride count id, i.opcode = .resourceDcl .sharedStructured →
      i.declaration = some (.sharedStructured stride count) → i.sharedMemory? = some id →
      id ∉ r.sharedMemory →
      ((∃ r', declare .compute i r = .ok () r') ↔
        stride.toNat % 4 = 0 ∧ stride.toNat / 4 * count.toNat < UInt32.size)) ∧
    ∀ stage i r lower upper,
      (∃ r', declare stage i r = .error (.invertedRange lower upper) r') ↔
        (∃ kind space, i.Binds kind space) ∧
        (∃ o id, i.operand? 0 = some o ∧ o.index = .d3 id lower upper) ∧ upper < lower ∧
          upper.toNat ≠ UInt32.size - 1 := by
  refine ⟨fun stage i r r' h => ?_, fun i r stride count id hop hd hid hnew => ?_,
    fun stage i r lower upper => exists_invertedRange_iff⟩
  · obtain ⟨a, ha, -, rfl⟩ := declare_eq_ok_iff.1 h
    exact exact_add ha
  · exact exists_declare_sharedStructured_iff hop hd hid hnew

/-- Declares the views from a first to a last register. -/
def viewsDeclaration (lower upper : UInt32) : Instruction where
  opcode := .resourceDcl .resourceRaw
  operands := [.register .resource (.d3 5 lower upper)]
  declaration := some (.resourceRaw 2)

/-- Declares shared memory for records. -/
def recordsDeclaration (stride count : UInt32) : Instruction where
  opcode := .resourceDcl .sharedStructured
  operands := [.register .threadGroupSharedMemory (.d1 0)]
  declaration := some (.sharedStructured stride count)

/-- At the limits: the longest range that has a bound is recorded, the most words that there can be
fit into shared memory and one word more does not, and a range that begins at the last number and
ends before it is refused. -/
theorem exact_of_limits :
    (∃ r', declare .compute (viewsDeclaration 0 0xfffffffe) {} = .ok () r' ∧
      r'.Exact (viewsDeclaration 0 0xfffffffe)) ∧
    (∃ r', declare .compute (recordsDeclaration 4 0xffffffff) {} = .ok () r') ∧
    (¬ ∃ r', declare .compute (recordsDeclaration 8 0x80000000) {} = .ok () r') ∧
    ∃ r', declare .compute (viewsDeclaration 0xffffffff 0xfffffffe) {} =
      .error (.invertedRange 0xffffffff 0xfffffffe) r' := by
  have hviews : ∃ r', declare .compute (viewsDeclaration 0 0xfffffffe) {} = .ok () r' := ⟨_, rfl⟩
  have hnew : (0 : UInt32) ∉ ({} : Resources).sharedMemory := by simp
  obtain ⟨r', hr'⟩ := hviews
  refine ⟨⟨r', hr', exact_of_declare.1 _ _ _ _ hr'⟩, ?_, ?_, ?_⟩
  · exact (exact_of_declare.2.1 _ _ _ _ 0 rfl rfl rfl hnew).2 ⟨rfl, by decide⟩
  · intro h
    exact absurd ((exact_of_declare.2.1 _ _ _ _ 0 rfl rfl rfl hnew).1 h).2 (by decide)
  · refine (exact_of_declare.2.2 _ _ _ _ _).2 ⟨⟨_, _, .resourceRaw rfl rfl⟩, ?_⟩
    exact ⟨⟨_, 5, rfl, rfl⟩, by decide, by decide⟩

end Resources

end ShaderFlow
