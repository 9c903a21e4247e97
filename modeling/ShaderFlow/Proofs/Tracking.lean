import ShaderFlow.Compile
import ShaderFlow.Proofs.Marking
import ShaderFlow.Proofs.Refusal

/-!
# What tracking leaves behind

Operands are checked and marked one after the other, so an instruction that is refused may have
marked something already: the views of the operands in front of the one that is to blame. Nothing
else is changed (`Resources.Touched`). Which marks are set is told flag by flag, by the opcodes that
use a view in a way (`ViewUse.opcodes`). `Resources.tracksExactly` says when an instruction is
refused, with what diagnostic, and what the resources are afterwards.
-/

namespace ShaderFlow

namespace Resources

variable {op : Opcode} {o : Operand} {os before : List Operand} {i : Instruction}
  {r r' : Resources} {u : Usage} {use : ViewUse} {id : UInt32} {fault : UndeclaredUse}

/-! ## Marks that are there -/

/-- The marks that the views have. -/
def marks (r : Resources) : Usage
  | .sampled, id => r.resourceViews[id]?.any (·.use.sampled)
  | .compared, id => r.resourceViews[id]?.any (·.use.compared)
  | .read, id => r.accessViews[id]?.any (·.use.read)
  | .written, id => r.accessViews[id]?.any (·.use.written)

/-- The resources without their marks. -/
def unmarked (r : Resources) : Resources :=
  { r with
    resourceViews := r.resourceViews.map fun _ view => { view with use := {} }
    accessViews := r.accessViews.map fun _ view => { view with use := {} } }

/-- A mark is there if it was there before or is put on a view that is declared. -/
theorem marks_mark_iff :
    (r.mark u).marks use id = true ↔
      r.marks use id = true ∨ (u use id = true ∧ r.Holds use.register id) := by
  cases use with
  | sampled | compared =>
    simp only [marks, getElem?_resourceViews_mark, Option.any_map, ViewUse.register, Holds,
      isDeclared, Std.ExtTreeMap.contains_eq_isSome_getElem?]
    cases r.resourceViews[id]? <;> simp [ResourceUse.union]
  | read | written =>
    simp only [marks, getElem?_accessViews_mark, Option.any_map, ViewUse.register, Holds,
      isDeclared, Std.ExtTreeMap.contains_eq_isSome_getElem?]
    cases r.accessViews[id]? <;> simp [AccessUse.union]

/-- Marks change nothing but the marks. -/
theorem unmarked_mark : (r.mark u).unmarked = r.unmarked := by
  simp only [unmarked, mark, Resources.mk.injEq, true_and, and_true]
  constructor
  · refine Std.ExtTreeMap.ext_getElem? fun id => ?_
    simp
  · refine Std.ExtTreeMap.ext_getElem? fun id => ?_
    simp

/-- The same mark twice is one mark. -/
theorem mark_mark_self : (r.mark u).mark u = r.mark u := by
  simp only [mark_mark, Bool.or_self]

/-! ## What is touched -/

/-- The views that operands name are marked with the uses of an opcode, and all else is as it
was. -/
structure Touched (op : Opcode) (os : List Operand) (r r' : Resources) : Prop where
  /-- A mark is there if it was there before, or if the opcode uses views in that way and one of the
  operands names the view. -/
  marks : ∀ use id, r'.marks use id = true ↔ r.marks use id = true ∨
    (op ∈ use.opcodes ∧ ∃ o ∈ os, o.kind = use.register ∧ o.register? = some id)
  /-- What is declared, and how, stays as it was. -/
  others : r'.unmarked = r.unmarked

/-- The uses of known operands are what touches them. -/
theorem touched_mark (hknown : ∀ o ∈ os, r.Knows o) :
    Touched op os r (r.mark (op.usage os)) where
  marks use id := by
    rw [marks_mark_iff, Opcode.usage_eq, Bool.and_eq_true, decide_eq_true_eq, decide_eq_true_eq]
    refine or_congr_right ⟨And.left, fun hnamed => ⟨hnamed, ?_⟩⟩
    obtain ⟨-, o, ho, hkind, hid⟩ := hnamed
    rw [← hkind]
    exact hknown o ho id hid
  others := unmarked_mark

/-! ## The operand to blame -/

/-- The first operand that names something undeclared, after some that do not. -/
structure Blames (r : Resources) (os before : List Operand) (fault : UndeclaredUse) : Prop where
  known : ∀ o ∈ before, r.Knows o
  undeclared : ¬ r.Holds fault.kind fault.id
  operand : ∃ o after, os = before ++ o :: after ∧
    o.kind = fault.kind ∧ o.register? = some fault.id

/-- An operand is not known if it names a register that is not declared. -/
theorem not_knows_iff : ¬ r.Knows o ↔ ∃ id, o.register? = some id ∧ ¬ r.Holds o.kind id := by
  simp [Knows]

/-- An instruction is refused because of an operand, and what was marked before that stays
marked. -/
theorem track_eq_error_iff :
    track i r = .error fault r' ↔
      ∃ before, r.Blames i.operands before fault ∧ r' = r.mark (i.opcode.usage before) := by
  rw [track, forM_trackOperand_eq_error_iff]
  refine exists_congr fun before => ?_
  constructor
  · rintro ⟨o, after, heq, hknown, hnames, hnot, hr⟩
    rw [Operand.names, decide_eq_true_eq] at hnames
    exact ⟨⟨hknown, hnot, o, after, heq, hnames⟩, hr⟩
  · rintro ⟨⟨hknown, hnot, o, after, heq, hnames⟩, hr⟩
    exact ⟨o, after, heq, hknown, decide_eq_true hnames, hnot, hr⟩

/-- Marks blame no other operand. -/
theorem Blames.mark (h : r.Blames os before fault) : (r.mark u).Blames os before fault :=
  ⟨fun o ho => knows_mark_iff.2 (h.known o ho), mt holds_mark_iff.1 h.undeclared, h.operand⟩

/-- Whether or not an instruction is refused, the operands that it gets to leave their marks. -/
theorem exists_attempt_track (i : Instruction) (r : Resources) :
    ∃ os, attempt (track i) r = r.mark (i.opcode.usage os) := by
  unfold attempt
  cases h : track i r with
  | ok t r' =>
    obtain ⟨-, rfl⟩ := track_eq_ok_iff.1 h
    exact ⟨i.operands, rfl⟩
  | error fault r' =>
    obtain ⟨before, -, rfl⟩ := track_eq_error_iff.1 h
    exact ⟨before, rfl⟩

/-- A second attempt ends as the first one did, and leaves what the first one left. -/
theorem track_attempt_track : track i (attempt (track i) r) = track i r := by
  unfold attempt
  cases h : track i r with
  | ok t r' =>
    obtain ⟨hknown, rfl⟩ := track_eq_ok_iff.1 h
    exact track_eq_ok_iff.2 ⟨fun o ho => knows_mark_iff.2 (hknown o ho), mark_mark_self.symm⟩
  | error fault r' =>
    obtain ⟨before, hblames, rfl⟩ := track_eq_error_iff.1 h
    exact track_eq_error_iff.2 ⟨before, hblames.mark, mark_mark_self.symm⟩

/-- How tracking an instruction ends, and what it leaves. -/
structure TracksExactly (i : Instruction) (r : Resources) : Prop where
  /-- It is refused if and only if an operand names something that had to be declared and is not. -/
  refused_iff : (∃ fault r', track i r = .error fault r') ↔
    ∃ o ∈ i.operands, ∃ id, o.register? = some id ∧ ¬ r.Holds o.kind id
  /-- The program is then wrong, and the message names the register of the operand to blame. -/
  diagnostic : ∀ {fault r'}, track i r = .error fault r' → ∀ location,
    ∃ d, settle location .use (track i r) = .error d ∧ d.location = location ∧
      d.cause.kind = .malformed ∧
      d.cause.message = toString fault.kind ++ toString fault.id ++ " is not declared"
  /-- The operands in front of that one have left their marks, -/
  refused : ∀ {fault r'}, track i r = .error fault r' →
    ∃ before, r.Blames i.operands before fault ∧ Touched i.opcode before r r'
  /-- and if none is to blame, all operands have. -/
  taken : ∀ {t r'}, track i r = .ok t r' → Touched i.opcode i.operands r r'
  /-- No mark is taken away. -/
  grows : ∀ use id, r.marks use id = true → (attempt (track i) r).marks use id = true
  /-- A second attempt ends as the first one did, and changes nothing. -/
  again : track i (attempt (track i) r) = track i r

/-- Tracking marks the views that the operands name up to the first operand that is undeclared, and
changes nothing else. -/
theorem tracksExactly (i : Instruction) (r : Resources) : TracksExactly i r where
  refused_iff := by
    have hrefused : (∃ fault r', track i r = .error fault r') ↔ ¬ ∃ t r', track i r = .ok t r' := by
      cases track i r <;> simp
    have htaken : (∃ t r', track i r = .ok t r') ↔ ∀ o ∈ i.operands, r.Knows o := by
      simp [track_eq_ok_iff]
    rw [hrefused, htaken]
    simp only [Classical.not_forall, exists_prop, not_knows_iff]
  diagnostic {fault r'} h location := by
    rw [h]
    exact ⟨⟨location, .use fault⟩, rfl, rfl, rfl, rfl⟩
  refused h := by
    obtain ⟨before, hblames, rfl⟩ := track_eq_error_iff.1 h
    exact ⟨before, hblames, touched_mark hblames.known⟩
  taken h := by
    obtain ⟨hknown, rfl⟩ := track_eq_ok_iff.1 h
    exact touched_mark hknown
  grows use id h := by
    obtain ⟨os, hos⟩ := exists_attempt_track i r
    rw [hos]
    exact marks_mark_iff.2 (.inl h)
  again := track_attempt_track

/-- Compares with a texel of `t0` by the sampler `s7`. -/
def comparison : Instruction where
  opcode := .sample .sampleC
  operands := [.register .temp (.d1 0), .register .temp (.d1 1), .register .resource (.d1 0),
    .register .sampler (.d1 7)]

/-- A texture and no sampler. -/
def oneTexture : Resources where
  resourceViews := (∅ : IdMap ResourceView).insert 0
    { range := ⟨0, 0, .bounded 1, 0⟩, format := ⟨.texture2D, .float, .typed⟩ }

/-- The comparison is refused for its sampler, and then the texture has its marks already. -/
theorem marks_of_comparison :
    ∃ r', track comparison oneTexture = .error ⟨.sampler, 7⟩ r' ∧
      oneTexture.marks .sampled 0 = false ∧ oneTexture.marks .compared 0 = false ∧
      r'.marks .sampled 0 = true ∧ r'.marks .compared 0 = true ∧
      r'.unmarked = oneTexture.unmarked := by
  obtain ⟨r', hrun⟩ : ∃ r', track comparison oneTexture = .error ⟨.sampler, 7⟩ r' := ⟨_, rfl⟩
  obtain ⟨before, hblames, htouched⟩ := (tracksExactly comparison oneTexture).refused hrun
  obtain ⟨o, after, heq, hkind, -⟩ := hblames.operand
  -- No operand in front of the sampler is to blame.
  have hview : .register .resource (.d1 0) ∈ before := by
    simp only [comparison, List.cons_eq_append_iff] at heq
    rcases heq with ⟨-, h⟩ | ⟨_, rfl, ⟨-, h⟩ | ⟨_, rfl, ⟨-, h⟩ | ⟨_, rfl, -⟩⟩⟩
    case inr.inr.inr => simp
    all_goals
      cases h
      cases hkind
  have hmarks (use : ViewUse) (hop : comparison.opcode ∈ use.opcodes)
      (hkind : use.register = .resource) : r'.marks use 0 = true :=
    (htouched.marks use 0).2 (.inr ⟨hop, _, hview, hkind.symm, rfl⟩)
  exact ⟨r', hrun, by decide, by decide, hmarks .sampled (by decide) rfl,
    hmarks .compared (by decide) rfl, htouched.others⟩

end Resources

end ShaderFlow
