import Mathlib.Algebra.Group.Nat.Defs
import Mathlib.Data.Nat.Bitwise
import ShaderFlow.Proofs.Tracking

/-!
# The inventory of a program

`Resources` keeps the bindings of a program twice: each kind in a map of its own, and all of them in
the order of their declarations. Declarations fill both and uses change the maps, and either may be
refused at any time. The two always agree, and what is kept has passed the checks of its declaration
(`Resources.WellFormed`): this holds of all resources that declarations and uses lead to
(`Resources.wellFormed_attemptAll`). The settings of an access view are those bits of the declared
token that are settings (`Resources.FlagsDeclared`).
-/

namespace ShaderFlow

/-! ## What may be added -/

/-- The dimension of a format is one that is defined, and raw and structured buffers have the
dimension and the element type that belong to them. -/
structure ViewFormat.WellFormed (f : ViewFormat) : Prop where
  defined : f.dimension ≠ .undefined
  known : ∀ raw, f.dimension ≠ .unknown raw
  raw : f.layout = .raw → f.dimension = .rawBuffer ∧ f.scalar = .uint
  structured : ∀ stride, f.layout = .structured stride →
    f.dimension = .structuredBuffer ∧ f.scalar = .uint

namespace ViewFormat

/-- The format of raw buffers is well-formed. -/
theorem wellFormed_raw : raw.WellFormed := ⟨nofun, nofun, fun _ => ⟨rfl, rfl⟩, nofun⟩

/-- The format of structured buffers is well-formed for each stride. -/
theorem wellFormed_structured {stride : UInt32} : (structured stride).WellFormed :=
  ⟨nofun, nofun, nofun, fun _ _ => ⟨rfl, rfl⟩⟩

/-- The dimensions that are accepted are those that are defined. -/
theorem checkDimension_eq_ok_iff {dimension dimension' : Dimension} :
    checkDimension dimension = .ok dimension' ↔
      dimension' = dimension ∧ dimension ≠ .undefined ∧ ∀ raw, dimension ≠ .unknown raw := by
  cases dimension <;> simp [checkDimension, eq_comm]

/-- A format of typed views that is accepted is well-formed. -/
theorem wellFormed_of_typed {dimension : Dimension} {returnType : Quad ReturnType}
    {format : ViewFormat} (h : typed dimension returnType = .ok format) : format.WellFormed := by
  simp only [typed, except_bind_eq_ok_iff, checkDimension_eq_ok_iff] at h
  obtain ⟨_, ⟨rfl, hdefined, hknown⟩, scalar, -, h⟩ := h
  cases h
  exact ⟨hdefined, hknown, nofun, nofun⟩

end ViewFormat

namespace AccessFlags

/-- The bits of a token that are settings. -/
def mask : Nat := 0x10000 ||| 0x20000 ||| 0x800000

/-- A bit of a token, put back to its place, is what the token has there. -/
theorem toNat_and_ne_zero (token : UInt32) {bit : UInt32} {k : Nat} (h : bit.toNat = 2 ^ k) :
    (token &&& bit != 0).toNat * 2 ^ k = token.toNat &&& 2 ^ k := by
  have htest : (token &&& bit != 0) = token.toNat.testBit k := by
    rw [Bool.eq_iff_iff, bne_iff_ne, ne_eq, ← UInt32.toNat_inj, UInt32.toNat_and, h,
      Nat.and_two_pow]
    cases token.toNat.testBit k <;> simp
  rw [htest, Nat.and_two_pow]

/-- The settings of a token are its bits at their places; the other bits are dropped. -/
theorem bits_ofBits (token : UInt32) : (ofBits token).bits = token.toNat &&& mask := by
  have hmask : mask = 2 ^ 16 ||| 2 ^ 17 ||| 2 ^ 23 := rfl
  have hcoherent := toNat_and_ne_zero token (show (0x10000 : UInt32).toNat = 2 ^ 16 from rfl)
  have hordered := toNat_and_ne_zero token (show (0x20000 : UInt32).toNat = 2 ^ 17 from rfl)
  have hcounter := toNat_and_ne_zero token (show (0x800000 : UInt32).toNat = 2 ^ 23 from rfl)
  rw [hmask, Nat.and_or_distrib_left, Nat.and_or_distrib_left, ← hcoherent, ← hordered, ← hcounter]
  unfold bits ofBits
  dsimp only
  -- Three different powers of two have the same union as sum, whichever of them are there.
  generalize (token &&& 0x10000 != 0) = coherent
  generalize (token &&& 0x20000 != 0) = ordered
  generalize (token &&& 0x800000 != 0) = counter
  revert coherent ordered counter
  decide

/-- All bits of settings are settings. -/
theorem bits_and_mask (token : UInt32) : (ofBits token).bits &&& mask = (ofBits token).bits := by
  rw [bits_ofBits, Nat.and_assoc, Nat.and_self]

end AccessFlags

/-- The token with the settings of a declared access view. -/
def Instruction.accessToken? (i : Instruction) : Option UInt32 :=
  match i.declaration with
  | some (.uavTyped _ _ flags _) | some (.uavRaw flags _) | some (.uavStructured _ flags _) =>
    some flags
  | _ => none

namespace Addition

/-- The range of a binding that is added. -/
def range? : Addition → Option BindingRange
  | .constantBuffer buffer => some buffer.range
  | .sampler s => some s.range
  | .resourceView view => some view.range
  | .accessView view => some view.range
  | _ => none

/-- What is added has passed the checks of its declaration. -/
def WellFormed : Addition → Prop
  | .sampler s => ∀ raw, s.mode ≠ .unknown raw
  | .resourceView view => view.format.WellFormed
  | .accessView view =>
    view.format.WellFormed ∧ view.flags.bits &&& AccessFlags.mask = view.flags.bits
  | .threadGroup size => size.x ≠ 0 ∧ size.y ≠ 0 ∧ size.z ≠ 0
  | _ => True

/-- A binding is added under the number of its range. -/
theorem id_of_binding? {a : Addition} {kind : BindingKind} {id : UInt32} {range : BindingRange}
    (h : a.binding? = some (kind, id)) (hr : a.range? = some range) : range.id = id := by
  cases a with
  | constantBuffer | sampler | resourceView | accessView =>
    cases h
    cases hr
    rfl
  | _ => cases h

end Addition

/-- What an instruction adds has passed the checks. -/
theorem Instruction.Adds.wellFormed {stage : Stage} {i : Instruction} {a : Addition}
    (h : i.Adds stage a) : a.WellFormed := by
  cases h with
  | sampler _ _ hm => exact hm
  | resource _ _ hf => exact ViewFormat.wellFormed_of_typed hf
  | resourceRaw => exact ViewFormat.wellFormed_raw
  | resourceStructured => exact ViewFormat.wellFormed_structured
  | uavTyped _ _ hf => exact ⟨ViewFormat.wellFormed_of_typed hf, AccessFlags.bits_and_mask _⟩
  | uavRaw => exact ⟨ViewFormat.wellFormed_raw, AccessFlags.bits_and_mask _⟩
  | uavStructured => exact ⟨ViewFormat.wellFormed_structured, AccessFlags.bits_and_mask _⟩
  | threadGroup _ _ _ hne => exact hne
  | constantBuffer | temps | indexableTemp | sharedRaw | sharedStructured | globalFlags
  | indexRange | constants | data => trivial

/-- An access view gets those bits of the declared token that are settings. -/
theorem Instruction.Adds.exists_accessToken {stage : Stage} {i : Instruction} {view : AccessView}
    (h : i.Adds stage (.accessView view)) :
    ∃ token, i.accessToken? = some token ∧
      view.flags.bits = token.toNat &&& AccessFlags.mask := by
  cases h with
  | @uavTyped _ _ flags _ _ _ _ hd | @uavRaw flags _ _ _ hd | @uavStructured _ flags _ _ _ hd =>
    refine ⟨flags, ?_, AccessFlags.bits_ofBits flags⟩
    rw [accessToken?, hd]

/-! ## What is kept -/

/-- What is found after an insertion is what was inserted or was there before. -/
theorem IdMap.eq_or_of_getElem?_insert {α : Type} {m : IdMap α} {key id : UInt32} {v w : α}
    (h : (m.insert key v)[id]? = some w) : (key = id ∧ w = v) ∨ m[id]? = some w := by
  rw [Std.ExtTreeMap.getElem?_insert] at h
  split at h
  · next heq =>
    cases h
    exact .inl ⟨Std.compare_eq_iff_eq.1 heq, rfl⟩
  · exact .inr h

/-- A new key makes a map larger by one. -/
theorem IdMap.size_insert_of_contains_eq_false {α : Type} {m : IdMap α} {key : UInt32} {v : α}
    (h : m.contains key = false) : (m.insert key v).size = m.size + 1 := by
  rw [Std.ExtTreeMap.size_insert, h]
  rfl

namespace Resources

variable {stage : Stage} {i : Instruction} {r r' : Resources} {a : Addition} {u : Usage}
  {kind : BindingKind} {id : UInt32}

/-- The order and the maps list the same bindings, each of them under the number of its range, and
what is kept has passed the checks of its declaration. -/
structure WellFormed (r : Resources) : Prop extends Consistent r where
  bindingCount : r.bindingCount =
    r.constantBuffers.size + r.samplers.size + r.resourceViews.size + r.accessViews.size
  range_id : ∀ {kind id range}, r.range? kind id = some range → range.id = id
  samplers : ∀ {id : UInt32} {s}, r.samplers[id]? = some s → ∀ raw, s.mode ≠ .unknown raw
  resourceViews : ∀ {id : UInt32} {view}, r.resourceViews[id]? = some view →
    view.format.WellFormed
  accessViews : ∀ {id : UInt32} {view}, r.accessViews[id]? = some view →
    view.format.WellFormed ∧ view.flags.bits &&& AccessFlags.mask = view.flags.bits
  threadGroup : ∀ {size}, r.threadGroup = some size → size.x ≠ 0 ∧ size.y ≠ 0 ∧ size.z ≠ 0

/-- Resources without declarations are well-formed. -/
theorem wellFormed_empty : WellFormed {} where
  toConsistent := consistent_empty
  bindingCount := rfl
  range_id {kind} := by cases kind <;> simp [range?]
  samplers h := by simp at h
  resourceViews h := by simp at h
  accessViews h := by simp at h
  threadGroup := nofun

/-- What is declared has a range. -/
theorem isSome_range? : (r.range? kind id).isSome = r.isDeclared kind id := by
  cases kind <;> simp [range?, isDeclared]

/-- After a declaration the binding that it adds has its range, and all others have theirs. -/
theorem range?_add :
    (r.add a).range? kind id =
      if a.binding? = some (kind, id) then a.range? else r.range? kind id := by
  cases a <;> cases kind <;>
    simp [add, range?, Addition.binding?, Addition.range?, Std.ExtTreeMap.getElem?_insert]
  -- Left are the bindings of the kind that is looked for.
  all_goals split <;> rfl

/-- Marks change no range. -/
theorem range?_mark : (r.mark u).range? kind id = r.range? kind id := by
  cases kind <;> simp [mark, range?, Function.comp_def]

/-- A declaration that has passed its checks and finds room leaves the resources well-formed. -/
theorem WellFormed.add (h : r.WellFormed) (hfree : r.Free a) (ha : a.WellFormed) :
    (r.add a).WellFormed where
  toConsistent := h.toConsistent.add hfree
  bindingCount := by
    have hcount := h.bindingCount
    unfold Resources.bindingCount at hcount ⊢
    rw [order_add, List.length_append, hcount]
    cases a with
    | constantBuffer | sampler | resourceView | accessView =>
      simp only [Resources.add, IdMap.size_insert_of_contains_eq_false hfree, Addition.binding?,
        Option.toList_some, List.length_singleton]
      omega
    | _ => rfl
  range_id {kind id range} hr := by
    rw [range?_add] at hr
    split at hr
    · next hb => exact Addition.id_of_binding? hb hr
    · exact h.range_id hr
  samplers {id s} hs := by
    cases a with
    | sampler s' =>
      rcases IdMap.eq_or_of_getElem?_insert hs with ⟨-, rfl⟩ | hold
      · exact ha
      · exact h.samplers hold
    | _ => exact h.samplers hs
  resourceViews {id view} hview := by
    cases a with
    | resourceView view' =>
      rcases IdMap.eq_or_of_getElem?_insert hview with ⟨-, rfl⟩ | hold
      · exact ha
      · exact h.resourceViews hold
    | _ => exact h.resourceViews hview
  accessViews {id view} hview := by
    cases a with
    | accessView view' =>
      rcases IdMap.eq_or_of_getElem?_insert hview with ⟨-, rfl⟩ | hold
      · exact ha
      · exact h.accessViews hold
    | _ => exact h.accessViews hview
  threadGroup hsize := by
    rcases threadGroup_add hsize with rfl | hold
    · exact ha
    · exact h.threadGroup hold

/-- Marks leave the resources well-formed. -/
theorem WellFormed.mark (h : r.WellFormed) : (r.mark u).WellFormed where
  toConsistent := h.toConsistent.mark
  bindingCount := by
    have hcount := h.bindingCount
    simp only [Resources.mark, Std.ExtTreeMap.size_map]
    exact hcount
  range_id hr := h.range_id (range?_mark.symm.trans hr)
  samplers := h.samplers
  resourceViews {id view} hview := by
    rw [getElem?_resourceViews_mark] at hview
    obtain ⟨view', hview', rfl⟩ := Option.map_eq_some_iff.1 hview
    have hformat := h.resourceViews hview'
    exact hformat
  accessViews {id view} hview := by
    rw [getElem?_accessViews_mark] at hview
    obtain ⟨view', hview', rfl⟩ := Option.map_eq_some_iff.1 hview
    have hformat := h.accessViews hview'
    exact hformat
  threadGroup := h.threadGroup

/-! ## Declarations and uses, refused ones among them -/

/-- What an instruction may do to the resources. -/
inductive Call where
  /-- It declares something, in a program for a stage. -/
  | declare (stage : Stage) (i : Instruction)
  /-- It uses what its operands name. -/
  | use (i : Instruction)

/-- The resources after a call, whether or not it is refused. -/
def Call.run (r : Resources) : Call → Resources
  | .declare stage i => attempt (Resources.declare stage i) r
  | .use i => attempt (track i) r

/-- The resources after some calls. What is refused does not keep the others from being made. -/
def attemptAll (calls : List Call) (r : Resources) : Resources := calls.foldl Call.run r

/-- What additions and marks preserve holds after any calls. Additions come from declarations that
are called. -/
theorem attemptAll_induction {P : Resources → Prop} {calls : List Call}
    (hadd : ∀ {stage : Stage} {i : Instruction} {a : Addition} {r : Resources},
      .declare stage i ∈ calls → P r → i.Adds stage a → r.Free a → P (r.add a))
    (hmark : ∀ {u : Usage} {r : Resources}, P r → P (r.mark u)) (hr : P r) :
    P (attemptAll calls r) := by
  induction calls generalizing r with
  | nil => exact hr
  | cons call calls ih =>
    refine ih (r := call.run r) (fun hmem => hadd (List.mem_cons_of_mem _ hmem)) ?_
    cases call with
    | declare stage i =>
      rcases allOrNothing_declare.attempt_cases r with hsame | ⟨_, hdeclare⟩
      · rw [Call.run, hsame]
        exact hr
      · obtain ⟨a, ha, hfree, hnew⟩ := exists_adds_of_declare hdeclare
        rw [Call.run, hnew]
        exact hadd List.mem_cons_self hr ha hfree
    | use i =>
      obtain ⟨known, hmarked⟩ := exists_attempt_track i r
      rw [Call.run, hmarked]
      exact hmark hr

/-- The settings of each access view are those bits of the token in its declaration that are
settings. -/
def FlagsDeclared (calls : List Call) (r : Resources) : Prop :=
  ∀ (id : UInt32) view, r.accessViews[id]? = some view →
    ∃ stage i token, .declare stage i ∈ calls ∧ i.binding? = some (.access, id) ∧
      i.accessToken? = some token ∧ view.flags.bits = token.toNat &&& AccessFlags.mask

/-- One more declaration: the settings of the view that it may add are in its own token. -/
theorem FlagsDeclared.add {calls : List Call} (h : r.FlagsDeclared calls)
    (hcall : .declare stage i ∈ calls) (ha : i.Adds stage a) :
    (r.add a).FlagsDeclared calls := by
  intro id view hview
  cases a with
  | accessView view' =>
    rcases IdMap.eq_or_of_getElem?_insert hview with ⟨rfl, rfl⟩ | hold
    · obtain ⟨token, htoken, hbits⟩ := ha.exists_accessToken
      exact ⟨stage, i, token, hcall, ha.binding?_eq.symm, htoken, hbits⟩
    · exact h id view hold
  | _ => exact h id view hview

/-- Marks change no settings. -/
theorem FlagsDeclared.mark {calls : List Call} (h : r.FlagsDeclared calls) :
    (r.mark u).FlagsDeclared calls := by
  intro id view hview
  rw [getElem?_accessViews_mark] at hview
  obtain ⟨view', hview', rfl⟩ := Option.map_eq_some_iff.1 hview
  exact h id view' hview'

/-- Whatever is declared and used, in any order and with any number of refusals, the order and the
maps agree and what is kept has passed its checks; a binding is in the order if and only if it has a
range, which then has its number. The settings of access views are the declared ones. -/
theorem wellFormed_attemptAll (calls : List Call) :
    (attemptAll calls {}).WellFormed ∧
      (∀ kind id, (∃ range, (attemptAll calls {}).range? kind id = some range ∧ range.id = id) ↔
        (kind, id) ∈ (attemptAll calls {}).order) ∧
      (attemptAll calls {}).FlagsDeclared calls := by
  have hwell : (attemptAll calls {}).WellFormed :=
    attemptAll_induction (P := WellFormed) (fun _ hr ha hfree => hr.add hfree ha.wellFormed)
      WellFormed.mark wellFormed_empty
  have hflags : (attemptAll calls {}).FlagsDeclared calls :=
    attemptAll_induction (P := (FlagsDeclared calls ·)) (fun hcall hr ha _ => hr.add hcall ha)
      FlagsDeclared.mark fun id view hview => by simp at hview
  refine ⟨hwell, fun kind id => ?_, hflags⟩
  rw [hwell.mem_order, ← isSome_range?, Option.isSome_iff_exists]
  refine exists_congr fun range => and_iff_left_of_imp fun hrange => ?_
  exact hwell.range_id hrange

/-- A texture and a coherent buffer are declared, the buffer twice, and a sampler is used that is
not declared. -/
def viewCalls : List Call :=
  let buffer : Instruction := {
    opcode := .resourceDcl .uavStructured
    operands := [.register .unorderedAccessView (.d1 1)]
    declaration := some (.uavStructured 16 0x30010001 0) }
  [.declare .pixel {
      opcode := .resourceDcl .resource
      operands := [.register .resource (.d1 0)]
      declaration := some (.resource .texture2D ⟨.float, .float, .float, .float⟩ 0 0) },
    .declare .pixel buffer, .declare .pixel buffer,
    .use { opcode := .sample .sample, operands := [.register .resource (.d1 0),
      .register .sampler (.d1 0)] }]

/-- Both views are there once, under their numbers. Of the token of the buffer one bit is a setting,
and it is kept. -/
theorem wellFormed_viewCalls :
    (attemptAll viewCalls {}).WellFormed ∧
      (attemptAll viewCalls {}).order = [(.resource, 0), (.access, 1)] ∧
      (attemptAll viewCalls {}).marks .sampled 0 = true ∧
      ∃ view, (attemptAll viewCalls {}).accessViews[(1 : UInt32)]? = some view ∧
        view.flags.bits = 0x10000 := by
  obtain ⟨hwell, -, hflags⟩ := wellFormed_attemptAll viewCalls
  have hsome : (attemptAll viewCalls {}).accessViews[(1 : UInt32)]?.isSome = true := by
    decide +kernel
  obtain ⟨view, hview⟩ := Option.isSome_iff_exists.1 hsome
  obtain ⟨stage, i, token, hcall, -, htoken, hbits⟩ := hflags 1 view hview
  -- The token is that of the only call that declares an access view.
  simp only [viewCalls, List.mem_cons, List.not_mem_nil, or_false, Call.declare.injEq, reduceCtorEq]
    at hcall
  refine ⟨hwell, by decide +kernel, by decide +kernel, view, hview, ?_⟩
  rcases hcall with ⟨-, rfl⟩ | ⟨-, rfl⟩ | ⟨-, rfl⟩
  case inl => cases htoken
  all_goals
    cases htoken
    exact hbits

end Resources

end ShaderFlow
