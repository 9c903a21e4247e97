import ShaderFlow.Interface.Recorder
import ShaderFlow.Proofs.Recording

/-!
# How replaying ends

An emitter that keeps a log (`Emitter.KeepsLog`) replays effects at entry up to the first one that
reads an argument the function does not have, or that makes room for the depth where there is some
already. The log then has one line for each effect in front of that one. Effects at exit fail if
nothing is returned or if they read a depth that there is no room for, and else insert their values
in order. `Emitter.KeepsLog.endsExactly` says this for every list of effects and every state of the
log, in whatever words the emitter records (`Wording`). It applies to the recording emitter
(`Recorder.keepsLog_emitter`) and to every emitter that logs what is done at entry and nothing else
(`Wording.keepsLog_emitter`), such as `Recorder.entryEmitter`.
-/

namespace ShaderFlow

section

variable {ε σ α : Type} {s s' : σ}

/-- A computation that cannot fail is a step that succeeds. -/
theorem liftState_of_eq {x : StateM σ α} {a : α} (h : x s = (a, s')) :
    (liftM x : EStateM ε σ α) s = .ok a s' := by
  change EStateM.Result.ok (x s).1 (x s).2 = .ok a s'
  rw [h]

end

/-! ## Effects that can be replayed -/

namespace EntryEffect

variable {arguments : Nat} {hasDepth : Bool}

/-- Effects at entry can be replayed if the arguments that they read are there, and if room for the
depth is made once at most, the room that is there already included. -/
def Replayable (arguments : Nat) (hasDepth : Bool) (effects : List EntryEffect) : Prop :=
  (∀ i ∈ effects.flatMap reads, i < arguments) ∧
    effects.count .allocateDepth + hasDepth.toNat ≤ 1

instance (effects : List EntryEffect) : Decidable (Replayable arguments hasDepth effects) :=
  inferInstanceAs (Decidable (_ ∧ _))

/-- The fault of an effect that cannot be replayed. Of two arguments that are missing it is the
first one read. -/
def fault (arguments : Nat) : EntryEffect → EffectFault
  | .storeRelative value base _ _ => .missingArgument (if value < arguments then base else value)
  | .initRegister argument _ _ | .bindThread argument _ => .missingArgument argument
  | .allocateDepth => .depthReallocated

/-- Where there are no effects, nothing stands in the way of a replay. -/
theorem replayable_nil : Replayable arguments hasDepth [] :=
  ⟨List.forall_mem_nil _, by simpa using Bool.toNat_le hasDepth⟩

/-- One effect can be replayed if its arguments are there and it makes no second room for the
depth. -/
theorem replayable_singleton {effect : EntryEffect} :
    Replayable arguments hasDepth [effect] ↔
      (∀ i ∈ effect.reads, i < arguments) ∧ (effect = .allocateDepth → hasDepth = false) := by
  have hle := Bool.toNat_le hasDepth
  by_cases heffect : effect = .allocateDepth
  · subst heffect
    cases hasDepth <;> simp [Replayable, reads]
  · simp [Replayable, heffect, hle]

/-- What comes later finds the room for the depth that was made before. -/
theorem replayable_append {before after : List EntryEffect} :
    Replayable arguments hasDepth (before ++ after) ↔
      Replayable arguments hasDepth before ∧
        Replayable arguments (hasDepth || decide (.allocateDepth ∈ before)) after := by
  have hroom : (before ++ after).count .allocateDepth + hasDepth.toNat ≤ 1 ↔
      before.count .allocateDepth + hasDepth.toNat ≤ 1 ∧
        after.count .allocateDepth + (hasDepth || decide (.allocateDepth ∈ before)).toNat ≤ 1 := by
    rw [List.count_append]
    by_cases hmem : .allocateDepth ∈ before
    · have hpos := List.count_pos_iff.2 hmem
      simp only [hmem, decide_true, Bool.or_true, Bool.toNat_true]
      omega
    · have hzero := List.count_eq_zero.2 hmem
      have hle := Bool.toNat_le hasDepth
      simp only [hmem, decide_false, Bool.or_false]
      omega
  simp only [Replayable, List.flatMap_append, List.forall_mem_append, hroom]
  exact and_and_and_comm

end EntryEffect

/-! ## Emitters that keep a log -/

/-- How an emitter that keeps a log words its values and the lines that it writes at entry. -/
structure Wording (V : Type) where
  argument : Nat → V
  difference : V → V → V
  storeLine : UInt32 → Mask → V → String
  bindLine : ThreadBuiltin → V → String
  depthLine : String
  output : UInt32 → Mask → V
  depth : V
  /-- The aggregate with another value at a position. -/
  insert : V → Nat → V → V
  undefined : V

namespace Wording

variable {V : Type}

/-- The line that an effect at entry writes. -/
def line (w : Wording V) : EntryEffect → String
  | .storeRelative value base register mask =>
    w.storeLine register mask (w.difference (w.argument value) (w.argument base))
  | .initRegister argument register mask => w.storeLine register mask (w.argument argument)
  | .bindThread argument builtin => w.bindLine builtin (w.argument argument)
  | .allocateDepth => w.depthLine

/-- The value that an effect at exit inserts. -/
def value (w : Wording V) : ExitEffect → V
  | .popRegister register mask _ => w.output register mask
  | .popDepth _ => w.depth

/-- The aggregate with the values of effects at exit inserted at their positions, in order. -/
def insertAll (w : Wording V) (aggregate : V) (effects : List ExitEffect) : V :=
  effects.foldl (fun v effect => w.insert v effect.member (w.value effect)) aggregate

end Wording

/-- The recorder after effects at entry, each of which has written its line. -/
def Recorder.entered {V : Type} (r : Recorder) (w : Wording V) (effects : List EntryEffect) :
    Recorder where
  hasDepth := r.hasDepth || decide (.allocateDepth ∈ effects)
  log := r.log ++ effects.map w.line

namespace Recorder

variable {V : Type} {r : Recorder} {w : Wording V}

/-- Without effects the log stays as it is. -/
theorem entered_nil : r.entered w [] = r := by
  simp [entered]

/-- Effects are logged in order. -/
theorem entered_append {before after : List EntryEffect} :
    r.entered w (before ++ after) = (r.entered w before).entered w after := by
  simp [entered, Bool.or_assoc]

/-- An effect that makes no room adds one line. -/
theorem entered_singleton {effect : EntryEffect} (h : effect ≠ .allocateDepth) :
    r.entered w [effect] = { r with log := r.log ++ [w.line effect] } := by
  simp [entered, h.symm]

end Recorder

namespace Emitter

variable {V : Type} {e : Emitter Recorder V} {w : Wording V} {n : Nat} {isVoid : Bool}
  {r r' : Recorder} {fault : EffectFault} {u : Unit}

/-- An emitter keeps a log for a function with a number of arguments. A register that is written, a
thread position that is bound and room that is made for the depth each add one line, and there is
room for one depth at most. What is logged at exit is left open. -/
structure KeepsLog (e : Emitter Recorder V) (w : Wording V) (arguments : Nat) (isVoid : Bool) :
    Prop where
  argument : ∀ {i r}, i < arguments → e.argument i r = .ok (w.argument i) r
  noArgument : ∀ {i r}, arguments ≤ i → e.argument i r = .error (.missingArgument i) r
  subtract : ∀ a b, e.subtract a b = pure (w.difference a b)
  storeInput : ∀ register mask value,
    e.storeInput register mask value = Recorder.write (w.storeLine register mask value)
  bindThread : ∀ builtin value,
    e.bindThread builtin value = Recorder.write (w.bindLine builtin value)
  allocateDepth : ∀ {r}, r.hasDepth = false →
    e.allocateDepth r = .ok () { hasDepth := true, log := r.log ++ [w.depthLine] }
  depthTwice : ∀ {r}, r.hasDepth = true → e.allocateDepth r = .error .depthReallocated r
  loadDepth : ∀ {r}, r.hasDepth = true → ∃ r', e.loadDepth r = .ok w.depth r' ∧ r'.hasDepth = true
  noDepth : ∀ {r}, r.hasDepth = false → ∃ r', e.loadDepth r = .error .depthUnallocated r'
  loadOutput : ∀ register mask r, ∃ r',
    e.loadOutput register mask r = (w.output register mask, r') ∧ r'.hasDepth = r.hasDepth
  insertMember : ∀ aggregate member value r, ∃ r',
    e.insertMember aggregate member value r = (w.insert aggregate member value, r') ∧
      r'.hasDepth = r.hasDepth
  undefinedReturn : ∀ r, ∃ r',
    e.undefinedReturn r = (if isVoid = true then none else some w.undefined, r') ∧
      r'.hasDepth = r.hasDepth

/-! ## Entry -/

/-- An effect at entry that can be replayed writes its line. -/
theorem KeepsLog.enter_of_replayable (he : e.KeepsLog w n isVoid) {effect : EntryEffect}
    (h : EntryEffect.Replayable n r.hasDepth [effect]) :
    e.enter effect r = .ok () (r.entered w [effect]) := by
  rw [EntryEffect.replayable_singleton] at h
  obtain ⟨hreads, hroom⟩ := h
  -- what an effect that reads arguments comes down to
  have hwrite (hne : effect ≠ .allocateDepth) :
      (liftM (Recorder.write (w.line effect)) : EStateM EffectFault Recorder Unit) r =
        .ok () (r.entered w [effect]) := by
    rw [Recorder.entered_singleton hne]
    rfl
  cases effect with
  | storeRelative value base register mask =>
    have hvalue := hreads value (by simp [EntryEffect.reads])
    have hbase := hreads base (by simp [EntryEffect.reads])
    rw [Emitter.enter, bind_of_ok (he.argument hvalue), bind_of_ok (he.argument hbase),
      he.subtract]
    simp only [he.storeInput]
    exact hwrite (by simp)
  | initRegister argument register mask =>
    have hargument := hreads argument (by simp [EntryEffect.reads])
    rw [Emitter.enter, bind_of_ok (he.argument hargument), he.storeInput]
    exact hwrite (by simp)
  | bindThread argument builtin =>
    have hargument := hreads argument (by simp [EntryEffect.reads])
    rw [Emitter.enter, bind_of_ok (he.argument hargument), he.bindThread]
    exact hwrite (by simp)
  | allocateDepth =>
    rw [Emitter.enter, he.allocateDepth (hroom rfl)]
    simp [Recorder.entered, Wording.line]

/-- An effect at entry that cannot be replayed leaves everything as it was. -/
theorem KeepsLog.enter_of_not_replayable (he : e.KeepsLog w n isVoid) {effect : EntryEffect}
    (h : ¬ EntryEffect.Replayable n r.hasDepth [effect]) :
    e.enter effect r = .error (effect.fault n) r := by
  rw [EntryEffect.replayable_singleton] at h
  cases effect with
  | storeRelative value base register mask =>
    by_cases hvalue : value < n
    · have hbase : n ≤ base := by simpa [EntryEffect.reads, hvalue] using h
      rw [Emitter.enter, bind_of_ok (he.argument hvalue), bind_of_error (he.noArgument hbase),
        EntryEffect.fault, if_pos hvalue]
    · rw [Emitter.enter, bind_of_error (he.noArgument (Nat.le_of_not_lt hvalue)),
        EntryEffect.fault, if_neg hvalue]
  | initRegister argument | bindThread argument =>
    have hargument : n ≤ argument := by simpa [EntryEffect.reads] using h
    exact bind_of_error (he.noArgument hargument)
  | allocateDepth =>
    have hroom : r.hasDepth = true := by simpa [EntryEffect.reads] using h
    exact he.depthTwice hroom

/-- An effect is carried out exactly if it can be replayed, and then it is logged. -/
theorem KeepsLog.enter_eq_ok_iff (he : e.KeepsLog w n isVoid) {effect : EntryEffect} :
    e.enter effect r = .ok u r' ↔
      EntryEffect.Replayable n r.hasDepth [effect] ∧ r' = r.entered w [effect] := by
  by_cases h : EntryEffect.Replayable n r.hasDepth [effect]
  · simp [he.enter_of_replayable h, h, eq_comm]
  · simp [he.enter_of_not_replayable h, h]

/-- An effect fails exactly if it cannot be replayed. It fails with its own fault and leaves the log
as it was. -/
theorem KeepsLog.enter_eq_error_iff (he : e.KeepsLog w n isVoid) {effect : EntryEffect} :
    e.enter effect r = .error fault r' ↔
      ¬ EntryEffect.Replayable n r.hasDepth [effect] ∧ fault = effect.fault n ∧ r' = r := by
  by_cases h : EntryEffect.Replayable n r.hasDepth [effect]
  · simp [he.enter_of_replayable h, h]
  · simp [he.enter_of_not_replayable h, h, eq_comm]

/-- Effects at entry that can be replayed write their lines in order. -/
theorem KeepsLog.runEntry_eq_ok_iff (he : e.KeepsLog w n isVoid) {effects : List EntryEffect} :
    e.runEntry effects r = .ok u r' ↔
      EntryEffect.Replayable n r.hasDepth effects ∧ r' = r.entered w effects := by
  unfold Emitter.runEntry
  induction effects generalizing r with
  | nil =>
    rw [forM_nil_eq_ok_iff, Recorder.entered_nil]
    exact (and_iff_right EntryEffect.replayable_nil).symm
  | cons effect effects ih =>
    -- the others find the room that the first effect has made
    rw [← List.singleton_append, EntryEffect.replayable_append, Recorder.entered_append,
      List.singleton_append, forM_cons_eq_ok_iff]
    simp only [he.enter_eq_ok_iff, ih]
    constructor
    · rintro ⟨_, ⟨heffect, rfl⟩, heffects, rfl⟩
      exact ⟨⟨heffect, heffects⟩, rfl⟩
    · rintro ⟨⟨heffect, heffects⟩, rfl⟩
      exact ⟨_, ⟨heffect, rfl⟩, heffects, rfl⟩

/-- Effects at entry fail at the first one that cannot be replayed, and those in front of it have
written their lines. -/
theorem KeepsLog.runEntry_eq_error_iff (he : e.KeepsLog w n isVoid) {effects : List EntryEffect} :
    e.runEntry effects r = .error fault r' ↔
      ∃ before effect after, effects = before ++ effect :: after ∧
        EntryEffect.Replayable n r.hasDepth before ∧
        ¬ EntryEffect.Replayable n r.hasDepth (before ++ [effect]) ∧
        fault = effect.fault n ∧ r' = r.entered w before := by
  rw [Emitter.runEntry, forM_eq_error_iff]
  refine exists_congr fun before => exists_congr fun effect => exists_congr fun after => ?_
  have hbefore {r₁ : Recorder} : before.forM e.enter r = .ok () r₁ ↔ _ := he.runEntry_eq_ok_iff
  simp only [hbefore, he.enter_eq_error_iff, EntryEffect.replayable_append]
  constructor
  · rintro ⟨_, heq, ⟨hreplayable, rfl⟩, hnot, hfault, rfl⟩
    exact ⟨heq, hreplayable, fun h => hnot h.2, hfault, rfl⟩
  · rintro ⟨heq, hreplayable, hnot, hfault, rfl⟩
    exact ⟨_, heq, ⟨hreplayable, rfl⟩, fun h => hnot ⟨hreplayable, h⟩, hfault, rfl⟩

/-! ## Exit -/

/-- An effect at exit gives its value, if there is room for the depth when it reads that. -/
theorem KeepsLog.popped (he : e.KeepsLog w n isVoid) {effect : ExitEffect}
    (hdepth : ∀ m, effect = .popDepth m → r.hasDepth = true) :
    ∃ r', e.popped effect r = .ok (effect.member, w.value effect) r' ∧
      r'.hasDepth = r.hasDepth := by
  cases effect with
  | popRegister register mask member =>
    obtain ⟨r', hload, hr'⟩ := he.loadOutput register mask r
    exact ⟨r', bind_of_ok (liftState_of_eq hload), hr'⟩
  | popDepth member =>
    have hr := hdepth member rfl
    obtain ⟨r', hload, hr'⟩ := he.loadDepth hr
    exact ⟨r', bind_of_ok hload, hr'.trans hr.symm⟩

/-- An effect at exit inserts its value. -/
theorem KeepsLog.leave (he : e.KeepsLog w n isVoid) {effect : ExitEffect}
    (hdepth : ∀ m, effect = .popDepth m → r.hasDepth = true) (v : V) :
    ∃ r', e.leave (some v) effect r = .ok (some (w.insert v effect.member (w.value effect))) r' ∧
      r'.hasDepth = r.hasDepth := by
  obtain ⟨r₁, hpopped, hr₁⟩ := he.popped hdepth
  obtain ⟨r', hinsert, hr'⟩ := he.insertMember v effect.member (w.value effect) r₁
  refine ⟨r', ?_, hr'.trans hr₁⟩
  rw [Emitter.leave, bind_of_ok (orFault_some v _), bind_of_ok hpopped]
  exact bind_of_ok (liftState_of_eq hinsert)

/-- The depth cannot be read if there is no room for it. -/
theorem KeepsLog.leave_popDepth (he : e.KeepsLog w n isVoid) (hr : r.hasDepth = false) (v : V)
    (m : Nat) : ∃ r', e.leave (some v) (.popDepth m) r = .error .depthUnallocated r' := by
  obtain ⟨r', hload⟩ := he.noDepth hr
  refine ⟨r', ?_⟩
  rw [Emitter.leave, bind_of_ok (orFault_some v _)]
  exact bind_of_error (bind_of_error hload)

/-- Effects at exit insert their values in order, if there is room for the depth when it is read. -/
theorem KeepsLog.foldlM_leave (he : e.KeepsLog w n isVoid) {effects : List ExitEffect}
    (hdepth : ∀ m, .popDepth m ∈ effects → r.hasDepth = true) (v : V) :
    ∃ r', effects.foldlM e.leave (some v) r = .ok (some (w.insertAll v effects)) r' := by
  induction effects generalizing v r with
  | nil => exact ⟨r, rfl⟩
  | cons effect effects ih =>
    obtain ⟨r₁, hleave, hr₁⟩ :=
      he.leave (fun m hm => hdepth m (List.mem_cons.2 (.inl hm.symm))) v
    rw [List.foldlM_cons, bind_of_ok hleave]
    exact ih (fun m hm => hr₁.trans (hdepth m (List.mem_cons_of_mem _ hm))) _

/-- Effects at exit fail if one of them reads the depth and there is no room for it. -/
theorem KeepsLog.foldlM_leave_of_popDepth (he : e.KeepsLog w n isVoid) {effects : List ExitEffect}
    {m : Nat} (hm : .popDepth m ∈ effects) (hr : r.hasDepth = false) (v : V) :
    ∃ r', effects.foldlM e.leave (some v) r = .error .depthUnallocated r' := by
  induction effects generalizing v r with
  | nil => cases hm
  | cons effect effects ih =>
    cases effect with
    | popDepth m' =>
      obtain ⟨r', hleave⟩ := he.leave_popDepth hr v m'
      exact ⟨r', by rw [List.foldlM_cons, bind_of_error hleave]⟩
    | popRegister register mask member =>
      -- a register can be read without room for the depth, and does not make any
      have hother : ∀ m, ExitEffect.popRegister register mask member = .popDepth m →
          r.hasDepth = true := fun _ h => by cases h
      obtain ⟨r₁, hleave, hr₁⟩ := he.leave hother v
      rw [List.foldlM_cons, bind_of_ok hleave]
      exact ih (by simpa using hm) (hr₁.trans hr) _

/-- Nothing can be written to what is not returned. -/
theorem foldlM_leave_none {effects : List ExitEffect} (h : effects ≠ []) :
    effects.foldlM e.leave none r = .error .voidReturn r := by
  obtain ⟨effect, effects, rfl⟩ := List.exists_cons_of_ne_nil h
  rw [List.foldlM_cons]
  exact bind_of_error (bind_of_error (orFault_none _))

/-- The three ways in which effects at exit end. -/
theorem KeepsLog.runExit_cases (he : e.KeepsLog w n isVoid) (effects : List ExitEffect)
    (r : Recorder) :
    ((effects ≠ [] ∧ isVoid = true) ∧ ∃ r', e.runExit effects r = .error .voidReturn r') ∨
    (¬ (effects ≠ [] ∧ isVoid = true) ∧ ((∃ m, .popDepth m ∈ effects) ∧ r.hasDepth = false) ∧
      ∃ r', e.runExit effects r = .error .depthUnallocated r') ∨
    (¬ (effects ≠ [] ∧ isVoid = true) ∧ ¬ ((∃ m, .popDepth m ∈ effects) ∧ r.hasDepth = false) ∧
      ∃ r', e.runExit effects r =
        .ok (if isVoid = true then none else some (w.insertAll w.undefined effects)) r') := by
  obtain ⟨r₁, hundefined, hr₁⟩ := he.undefinedReturn r
  have hrun : e.runExit effects r =
      effects.foldlM e.leave (if isVoid = true then none else some w.undefined) r₁ :=
    bind_of_ok (liftState_of_eq hundefined)
  rw [hrun]
  cases isVoid with
  | true =>
    by_cases hempty : effects = []
    · subst hempty
      exact .inr (.inr ⟨by simp, by simp, r₁, rfl⟩)
    · exact .inl ⟨⟨hempty, rfl⟩, r₁, foldlM_leave_none hempty⟩
  | false =>
    by_cases hdepth : (∃ m, .popDepth m ∈ effects) ∧ r.hasDepth = false
    · obtain ⟨⟨m, hm⟩, hr⟩ := hdepth
      have hfold := he.foldlM_leave_of_popDepth hm (hr₁.trans hr) w.undefined
      exact .inr (.inl ⟨by simp, ⟨⟨m, hm⟩, hr⟩, hfold⟩)
    · have hroom : ∀ m, .popDepth m ∈ effects → r₁.hasDepth = true := fun m hm => by
        rw [hr₁, ← Bool.not_eq_false]
        exact fun hr => hdepth ⟨⟨m, hm⟩, hr⟩
      exact .inr (.inr ⟨by simp, hdepth, he.foldlM_leave hroom w.undefined⟩)

/-! ## Entry and exit -/

/-- How replaying ends for a function with a number of arguments, in every state of the log. -/
structure EndsExactly (e : Emitter Recorder V) (w : Wording V) (arguments : Nat) (isVoid : Bool) :
    Prop where
  /-- Effects at entry succeed if and only if they can be replayed, and each has then written its
  line. -/
  entered_iff : ∀ {effects r u r'}, e.runEntry effects r = .ok u r' ↔
    EntryEffect.Replayable arguments r.hasDepth effects ∧ r' = r.entered w effects
  /-- Otherwise they fail at the first one that cannot be replayed, with the lines of those in front
  of it in the log and nothing else. -/
  refused_iff : ∀ {effects r fault r'}, e.runEntry effects r = .error fault r' ↔
    ∃ before effect after, effects = before ++ effect :: after ∧
      EntryEffect.Replayable arguments r.hasDepth before ∧
      ¬ EntryEffect.Replayable arguments r.hasDepth (before ++ [effect]) ∧
      fault = effect.fault arguments ∧ r' = r.entered w before
  /-- Effects at exit fail if there are any though nothing is returned, -/
  voidReturn_iff : ∀ {effects r}, (∃ r', e.runExit effects r = .error .voidReturn r') ↔
    effects ≠ [] ∧ isVoid = true
  /-- otherwise if one of them reads the depth and there is no room for it. -/
  depthUnallocated_iff : ∀ {effects r},
    (∃ r', e.runExit effects r = .error .depthUnallocated r') ↔
      ¬ (effects ≠ [] ∧ isVoid = true) ∧ (∃ m, .popDepth m ∈ effects) ∧ r.hasDepth = false
  /-- In all other cases the result is the undefined aggregate with all values inserted in order. -/
  returned_iff : ∀ {effects r ret}, (∃ r', e.runExit effects r = .ok ret r') ↔
    ¬ (effects ≠ [] ∧ isVoid = true) ∧ ¬ ((∃ m, .popDepth m ∈ effects) ∧ r.hasDepth = false) ∧
      ret = if isVoid = true then none else some (w.insertAll w.undefined effects)

/-- Replaying ends as the effects and the room for the depth say, whichever way that is. -/
theorem KeepsLog.endsExactly (he : e.KeepsLog w n isVoid) : e.EndsExactly w n isVoid where
  entered_iff := he.runEntry_eq_ok_iff
  refused_iff := he.runEntry_eq_error_iff
  voidReturn_iff {effects r} := by
    obtain ⟨hvoid, r', h⟩ | ⟨hvoid, -, r', h⟩ | ⟨hvoid, -, r', h⟩ := he.runExit_cases effects r
    · exact iff_of_true ⟨r', h⟩ hvoid
    · exact iff_of_false (by simp [h]) hvoid
    · exact iff_of_false (by simp [h]) hvoid
  depthUnallocated_iff {effects r} := by
    obtain ⟨hvoid, r', h⟩ | ⟨hvoid, hdepth, r', h⟩ | ⟨hvoid, hdepth, r', h⟩ :=
      he.runExit_cases effects r
    · exact iff_of_false (by simp [h]) fun hnot => hnot.1 hvoid
    · exact iff_of_true ⟨r', h⟩ ⟨hvoid, hdepth⟩
    · exact iff_of_false (by simp [h]) fun hnot => hdepth hnot.2
  returned_iff {effects r ret} := by
    obtain ⟨hvoid, r', h⟩ | ⟨hvoid, hdepth, r', h⟩ | ⟨hvoid, hdepth, r', h⟩ :=
      he.runExit_cases effects r
    · exact iff_of_false (by simp [h]) fun hnot => hnot.1 hvoid
    · exact iff_of_false (by simp [h]) fun hnot => hnot.2.1 hdepth
    · rw [h]
      constructor
      · rintro ⟨_, hret⟩
        cases hret
        exact ⟨hvoid, hdepth, rfl⟩
      · rintro ⟨-, -, rfl⟩
        exact ⟨r', rfl⟩

end Emitter

/-! ## Emitters that log entry only -/

namespace Wording

variable {V : Type}

/-- The emitter for a function with a number of arguments that words its values and lines in a given
way. It logs what is done at entry and nothing else. -/
def emitter (w : Wording V) (arguments : Nat) (isVoid : Bool) : Emitter Recorder V where
  argument i := do
    require (i < arguments) (.missingArgument i)
    return w.argument i
  subtract a b := return w.difference a b
  storeInput register mask value := Recorder.write (w.storeLine register mask value)
  bindThread builtin value := Recorder.write (w.bindLine builtin value)
  allocateDepth := do
    let r ← get
    require (r.hasDepth = false) .depthReallocated
    set { r with hasDepth := true }
    Recorder.write w.depthLine
  loadDepth := do
    let r ← get
    require (r.hasDepth = true) .depthUnallocated
    return w.depth
  loadOutput register mask := return w.output register mask
  insertMember aggregate member value := return w.insert aggregate member value
  undefinedReturn := return if isVoid then none else some w.undefined

/-- In whatever words, such an emitter keeps a log. -/
theorem keepsLog_emitter (w : Wording V) (arguments : Nat) (isVoid : Bool) :
    (w.emitter arguments isVoid).KeepsLog w arguments isVoid where
  argument hi := require_bind_eq_ok_iff.2 ⟨hi, rfl⟩
  noArgument hi := require_bind_eq_error_iff.2 <| .inl ⟨Nat.not_lt.2 hi, rfl, rfl⟩
  subtract _ _ := rfl
  storeInput _ _ _ := rfl
  bindThread _ _ := rfl
  allocateDepth hr := require_bind_eq_ok_iff.2 ⟨hr, rfl⟩
  depthTwice hr := require_bind_eq_error_iff.2 <| .inl ⟨by simp [hr], rfl, rfl⟩
  loadDepth hr := ⟨_, require_bind_eq_ok_iff.2 ⟨hr, rfl⟩, hr⟩
  noDepth hr := ⟨_, require_bind_eq_error_iff.2 <| .inl ⟨by simp [hr], rfl, rfl⟩⟩
  loadOutput _ _ r := ⟨r, rfl, rfl⟩
  insertMember _ _ _ r := ⟨r, rfl, rfl⟩
  undefinedReturn r := ⟨r, rfl, rfl⟩

end Wording

/-! ## The recording emitter -/

namespace Recorder

/-- The wording of the recording emitter. -/
def wording : Wording String where
  argument i := s!"arg{i}"
  difference a b := s!"({a} - {b})"
  storeLine register mask value := s!"v{register}.{mask.bits} = {value}"
  bindLine builtin value := s!"{builtin.name} = {value}"
  depthLine := "alloc depth"
  output register mask := s!"o{register}.{mask.bits}"
  depth := "depth"
  insert aggregate member value := s!"{aggregate}[{member}={value}]"
  undefined := "undef"

/-- Unless arguments are poisoned, the recording emitter keeps a log. -/
theorem keepsLog_emitter (arguments : Nat) (isVoid : Bool) :
    (emitter arguments isVoid []).KeepsLog wording arguments isVoid where
  argument hi := require_bind_eq_ok_iff.2
    ⟨List.not_mem_nil, require_bind_eq_ok_iff.2 ⟨hi, rfl⟩⟩
  noArgument hi := require_bind_eq_error_iff.2 <| .inr
    ⟨List.not_mem_nil, require_bind_eq_error_iff.2 <| .inl ⟨Nat.not_lt.2 hi, rfl, rfl⟩⟩
  subtract _ _ := rfl
  storeInput _ _ _ := rfl
  bindThread _ _ := rfl
  allocateDepth hr := require_bind_eq_ok_iff.2 ⟨hr, rfl⟩
  depthTwice hr := require_bind_eq_error_iff.2 <| .inl ⟨by simp [hr], rfl, rfl⟩
  loadDepth hr := ⟨_, require_bind_eq_ok_iff.2 ⟨hr, rfl⟩, hr⟩
  noDepth hr := ⟨_, require_bind_eq_error_iff.2 <| .inl ⟨by simp [hr], rfl, rfl⟩⟩
  loadOutput _ _ _ := ⟨_, rfl, rfl⟩
  insertMember _ _ _ _ := ⟨_, rfl, rfl⟩
  undefinedReturn _ := ⟨_, rfl, rfl⟩

/-- A wording without masks. -/
def entryWording : Wording String where
  argument i := s!"arg{i}"
  difference a b := s!"({a} - {b})"
  storeLine register _ value := s!"v{register} = {value}"
  bindLine builtin value := s!"{builtin.name} = {value}"
  depthLine := "depth slot"
  output register _ := s!"o{register}"
  depth := "depth"
  insert aggregate member value := s!"{aggregate} | {member}:{value}"
  undefined := "ret"

/-- The emitter that logs entry only, in a wording without masks. -/
def entryEmitter (arguments : Nat) (isVoid : Bool) : Emitter Recorder String :=
  entryWording.emitter arguments isVoid

/-- The base of an identifier is missing: the log has the line of the effect in front, and the room
for the depth that would have been made later is not there at exit. -/
theorem refused_missingBase :
    (emitter 1 false []).KeepsLog wording 1 false ∧
    (emitter 1 false []).runEntry
        [.initRegister 0 0 .xyzw, .storeRelative 0 1 1 .x, .allocateDepth] {} =
      .error (.missingArgument 1) { log := ["v0.15 = arg0"] } ∧
    (∃ r, (emitter 1 false []).runExit [.popRegister 0 .xyzw 0, .popDepth 1]
        { log := ["v0.15 = arg0"] } = .error .depthUnallocated r) ∧
    (entryEmitter 1 false).runEntry
        [.initRegister 0 0 .xyzw, .storeRelative 0 1 1 .x, .allocateDepth] {} =
      .error (.missingArgument 1) { log := ["v0 = arg0"] } := by
  have hkeeps := keepsLog_emitter 1 false
  have hends := hkeeps.endsExactly
  have hentry := (entryWording.keepsLog_emitter 1 false).endsExactly
  refine ⟨hkeeps, hends.refused_iff.2 ?_, hends.depthUnallocated_iff.2 ?_, hentry.refused_iff.2 ?_⟩
  · exact ⟨[.initRegister 0 0 .xyzw], .storeRelative 0 1 1 .x, [.allocateDepth], rfl,
      by decide, by decide, rfl, by decide +kernel⟩
  · exact ⟨by simp, ⟨1, by simp⟩, rfl⟩
  · exact ⟨[.initRegister 0 0 .xyzw], .storeRelative 0 1 1 .x, [.allocateDepth], rfl,
      by decide, by decide, rfl, by decide +kernel⟩

end Recorder

end ShaderFlow
