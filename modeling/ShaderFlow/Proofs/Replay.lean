import Mathlib.Algebra.Group.Nat.Defs
import ShaderFlow.Proofs.History
import ShaderFlow.Proofs.Intake
import ShaderFlow.Proofs.Outcome

/-!
# Replaying effects

The effects of a compiled program can be replayed by every emitter that can read the arguments of
the entry point and keeps room for the depth once it is made (`Emitter.Provides`). Replaying fails
nowhere, the returned value has each member inserted once, and the binding table is not read
(`Compilation.replays_of_result`).
-/

namespace ShaderFlow

namespace Emitter

variable {σ V α β : Type} {e : Emitter σ V} {room : Bool → σ → Prop} {n : Nat} {isVoid b : Bool}
  {s : σ}

/-! ## What an emitter has to provide -/

/-- A step succeeds whether or not there is room for the depth, and does not change that. -/
def Steady (room : Bool → σ → Prop) (x : EStateM EffectFault σ α) : Prop :=
  ∀ b s, room b s → ∃ a s', x s = .ok a s' ∧ room b s'

/-- What an emitter has to provide for a function with a number of arguments. Its states are told
apart by `room`: `room false` holds as long as no room for the depth has been made, and `room true`
from then on. -/
structure Provides (e : Emitter σ V) (arguments : Nat) (isVoid : Bool)
    (room : Bool → σ → Prop) : Prop where
  argument : ∀ {i}, i < arguments → Steady room (e.argument i)
  subtract : ∀ a b, Steady room (liftM (e.subtract a b) : EStateM EffectFault σ V)
  storeInput : ∀ register mask value,
    Steady room (liftM (e.storeInput register mask value) : EStateM EffectFault σ Unit)
  bindThread : ∀ builtin value,
    Steady room (liftM (e.bindThread builtin value) : EStateM EffectFault σ Unit)
  allocateDepth : ∀ {s}, room false s → ∃ s', e.allocateDepth s = .ok () s' ∧ room true s'
  loadDepth : ∀ {s}, room true s → ∃ value s', e.loadDepth s = .ok value s' ∧ room true s'
  loadOutput : ∀ register mask,
    Steady room (liftM (e.loadOutput register mask) : EStateM EffectFault σ V)
  insertMember : ∀ aggregate member value,
    Steady room (liftM (e.insertMember aggregate member value) : EStateM EffectFault σ V)
  undefinedReturn : ∀ {b s}, room b s →
    room b (e.undefinedReturn s).2 ∧ ((e.undefinedReturn s).1 = none ↔ isVoid = true)

/-- An aggregate is obtained from another one by effects at exit, each of which inserts the value
that it pops at its position. The emitter goes from state to state meanwhile. -/
inductive Fills (e : Emitter σ V) : V → σ → List ExitEffect → V → σ → Prop where
  | nil {v : V} {s : σ} : Fills e v s [] v s
  | cons {v v' value : V} {s s₁ s' : σ} {effect : ExitEffect} {effects : List ExitEffect}
      (hpopped : e.popped effect s = .ok (effect.member, value) s₁)
      (hrest : Fills e (e.insertMember v effect.member value s₁).1
        (e.insertMember v effect.member value s₁).2 effects v' s') :
      Fills e v s (effect :: effects) v' s'

/-- The emitter in which an argument is read in another way. -/
def withArgument (e : Emitter σ V) (i : Nat) (read : EStateM EffectFault σ V) : Emitter σ V :=
  { e with argument := fun j => if j = i then read else e.argument j }

/-! ## Entry -/

/-- Two steady steps in a row are steady. -/
theorem Steady.bind {x : EStateM EffectFault σ α} {f : α → EStateM EffectFault σ β}
    (hx : Steady room x) (hf : ∀ a, Steady room (f a)) : Steady room (x >>= f) := by
  intro b s hs
  obtain ⟨a, s₁, hxs, hs₁⟩ := hx b s hs
  rw [bind_of_ok hxs]
  exact hf a b s₁ hs₁

/-- Effects that read arguments that are there are steady, unless they make room for the depth. -/
theorem Provides.enter (he : e.Provides n isVoid room) {effect : EntryEffect}
    (hreads : ∀ i ∈ effect.reads, i < n) (hne : effect ≠ .allocateDepth) :
    Steady room (e.enter effect) := by
  cases effect with
  | storeRelative value base register mask =>
    have hvalue := he.argument (hreads value (by simp [EntryEffect.reads]))
    have hbase := he.argument (hreads base (by simp [EntryEffect.reads]))
    exact hvalue.bind fun _ => hbase.bind fun _ => (he.subtract _ _).bind fun _ =>
      he.storeInput _ _ _
  | initRegister argument register mask =>
    have hargument := he.argument (hreads argument (by simp [EntryEffect.reads]))
    exact hargument.bind fun _ => he.storeInput _ _ _
  | bindThread argument builtin =>
    have hargument := he.argument (hreads argument (by simp [EntryEffect.reads]))
    exact hargument.bind fun _ => he.bindThread _ _
  | allocateDepth => exact absurd rfl hne

/-- Effects at entry are replayed if they read arguments that are there and make room for the depth
once at most. -/
theorem Provides.runEntry (he : e.Provides n isVoid room) {effects : List EntryEffect} {b' : Bool}
    (hreads : ∀ i ∈ effects.flatMap EntryEffect.reads, i < n) (hs : room b s)
    (hdepth : b.toNat + effects.count .allocateDepth = b'.toNat) :
    ∃ s', e.runEntry effects s = .ok () s' ∧ room b' s' := by
  induction effects generalizing b s with
  | nil =>
    obtain rfl : b = b' := by
      revert hdepth
      cases b <;> cases b' <;> decide
    exact ⟨s, rfl, hs⟩
  | cons effect effects ih =>
    have hrest : ∀ i ∈ effects.flatMap EntryEffect.reads, i < n := fun i hi =>
      hreads i (List.mem_append_right _ hi)
    have hrun {s₁ : σ} (h : e.enter effect s = .ok () s₁) :
        e.runEntry (effect :: effects) s = e.runEntry effects s₁ := bind_of_ok h
    by_cases heffect : effect = .allocateDepth
    · subst heffect
      rw [List.count_cons_self] at hdepth
      -- room is made now, so it was not there before and is not made again
      have hle := Bool.toNat_le b'
      obtain rfl : b = false := by
        cases b with
        | false => rfl
        | true => simp only [Bool.toNat_true] at hdepth; omega
      obtain ⟨s₁, hs₁, hroom⟩ := he.allocateDepth hs
      rw [hrun hs₁]
      refine ih hrest hroom ?_
      simp only [Bool.toNat_false, Bool.toNat_true] at hdepth ⊢
      omega
    · rw [List.count_cons_of_ne heffect] at hdepth
      have hsteady := he.enter (fun i hi => hreads i (List.mem_append_left _ hi)) heffect
      obtain ⟨⟨⟩, s₁, hs₁, hroom⟩ := hsteady b s hs
      rw [hrun hs₁]
      exact ih hrest hroom hdepth

/-- An effect that does not read an argument does not depend on how that is read. -/
theorem enter_withArgument {effect : EntryEffect} {i : Nat} {read : EStateM EffectFault σ V}
    (h : i ∉ effect.reads) : (e.withArgument i read).enter effect = e.enter effect := by
  have hread {j : Nat} (hj : j ∈ effect.reads) :
      (e.withArgument i read).argument j = e.argument j :=
    if_neg (by rintro rfl; exact h hj)
  cases effect with
  | storeRelative value base =>
    simp only [enter, hread List.mem_cons_self, hread (List.mem_cons_of_mem _ List.mem_cons_self)]
    rfl
  | initRegister | bindThread =>
    simp only [enter, hread List.mem_cons_self]
    rfl
  | allocateDepth => rfl

/-- An argument that is not read may be anything. -/
theorem runEntry_withArgument {effects : List EntryEffect} {i : Nat}
    {read : EStateM EffectFault σ V} (h : i ∉ effects.flatMap EntryEffect.reads) :
    (e.withArgument i read).runEntry effects = e.runEntry effects := by
  induction effects with
  | nil => rfl
  | cons effect effects ih =>
    rw [List.flatMap_cons, List.mem_append, not_or] at h
    have hcons (e : Emitter σ V) : e.runEntry (effect :: effects) =
        (e.enter effect >>= fun _ => e.runEntry effects) := rfl
    rw [hcons, hcons, enter_withArgument h.1, ih h.2]

/-! ## Exit -/

/-- An effect at exit gives a value for its member, if it does not copy a depth that there is no
room for. -/
theorem Provides.popped (he : e.Provides n isVoid room) {effect : ExitEffect}
    (hdepth : ∀ m, effect = .popDepth m → b = true) (hs : room b s) :
    ∃ value s', e.popped effect s = .ok (effect.member, value) s' ∧ room b s' := by
  cases effect with
  | popRegister register mask member =>
    obtain ⟨value, s', hload, hs'⟩ := he.loadOutput register mask b s hs
    exact ⟨value, s', bind_of_ok hload, hs'⟩
  | popDepth member =>
    obtain rfl := hdepth member rfl
    obtain ⟨value, s', hload, hs'⟩ := he.loadDepth hs
    exact ⟨value, s', bind_of_ok hload, hs'⟩

/-- One effect at exit inserts the value that it pops. -/
theorem Provides.leave (he : e.Provides n isVoid room) {effect : ExitEffect}
    (hdepth : ∀ m, effect = .popDepth m → b = true) (hs : room b s) (v : V) :
    ∃ value s₁, e.popped effect s = .ok (effect.member, value) s₁ ∧
      e.leave (some v) effect s = .ok (some (e.insertMember v effect.member value s₁).1)
        (e.insertMember v effect.member value s₁).2 ∧
      room b (e.insertMember v effect.member value s₁).2 := by
  obtain ⟨value, s₁, hpopped, hs₁⟩ := he.popped hdepth hs
  obtain ⟨v', s', hinsert, hs'⟩ := he.insertMember v effect.member value b s₁ hs₁
  cases hinsert
  refine ⟨value, s₁, hpopped, ?_, hs'⟩
  have hcurrent : (orFault (some v) .voidReturn : EStateM EffectFault σ V) s = .ok v s :=
    orFault_some v _
  rw [Emitter.leave, bind_of_ok hcurrent, bind_of_ok hpopped]
  rfl

/-- Effects at exit insert their members in order, if there is room for the depth when it is
read. -/
theorem Provides.foldlM_leave (he : e.Provides n isVoid room) {effects : List ExitEffect}
    (hdepth : ∀ {m}, .popDepth m ∈ effects → b = true) (hs : room b s) (v : V) :
    ∃ v' s', effects.foldlM e.leave (some v) s = .ok (some v') s' ∧
      e.Fills v s effects v' s' := by
  induction effects generalizing v s with
  | nil => exact ⟨v, s, rfl, .nil⟩
  | cons effect effects ih =>
    obtain ⟨value, s₁, hpopped, hleave, hs₂⟩ :=
      he.leave (fun m hm => hdepth (m := m) (hm ▸ List.mem_cons_self)) hs v
    obtain ⟨v', s', hrest, hfills⟩ := ih (fun hm => hdepth (List.mem_cons_of_mem _ hm)) hs₂
      (e.insertMember v effect.member value s₁).1
    refine ⟨v', s', ?_, .cons hpopped hfills⟩
    rw [List.foldlM_cons, bind_of_ok hleave]
    exact hrest

/-- Effects at exit are replayed if a function that returns nothing has none of them, and if there
is room for the depth when it is read. -/
theorem Provides.runExit (he : e.Provides n isVoid room) {effects : List ExitEffect}
    (hvoid : isVoid = true → effects = []) (hdepth : ∀ {m}, .popDepth m ∈ effects → b = true)
    (hs : room b s) :
    ∃ ret s', e.runExit effects s = .ok ret s' ∧ (ret = none ↔ isVoid = true) ∧
      ∀ v, ret = some v → ∃ u, (e.undefinedReturn s).1 = some u ∧
        e.Fills u (e.undefinedReturn s).2 effects v s' := by
  obtain ⟨hs₁, hnone⟩ := he.undefinedReturn hs
  have hrun : e.runExit effects s =
      effects.foldlM e.leave (e.undefinedReturn s).1 (e.undefinedReturn s).2 := rfl
  rw [hrun]
  cases hu : (e.undefinedReturn s).1 with
  | none =>
    have hempty := hnone.1 hu
    rw [hvoid hempty]
    exact ⟨none, _, rfl, iff_of_true rfl hempty, nofun⟩
  | some u =>
    obtain ⟨v, s', hfold, hfills⟩ := he.foldlM_leave hdepth hs₁ u
    have hsome : isVoid ≠ true := fun h => by
      rw [hnone.2 h] at hu
      cases hu
    refine ⟨some v, s', hfold, iff_of_false nofun hsome, fun v' hv => ⟨u, rfl, ?_⟩⟩
    cases hv
    exact hfills

/-- An emitter that keeps a log provides what is needed, and tells from its state whether there is
room for the depth. -/
theorem KeepsLog.provides {e : Emitter Recorder V} {w : Wording V} (he : e.KeepsLog w n isVoid) :
    e.Provides n isVoid fun b r => r.hasDepth = b where
  argument hi _ r hr := ⟨_, r, he.argument hi, hr⟩
  subtract _ _ _ _ hr := by
    rw [he.subtract]
    exact ⟨_, _, rfl, hr⟩
  storeInput _ _ _ _ _ hr := by
    rw [he.storeInput]
    exact ⟨_, _, rfl, hr⟩
  bindThread _ _ _ _ hr := by
    rw [he.bindThread]
    exact ⟨_, _, rfl, hr⟩
  allocateDepth hr := ⟨_, he.allocateDepth hr, rfl⟩
  loadDepth hr := ⟨_, he.loadDepth hr⟩
  loadOutput register mask _ r hr := by
    obtain ⟨r', hload, hr'⟩ := he.loadOutput register mask r
    exact ⟨_, r', liftState_of_eq hload, hr'.trans hr⟩
  insertMember aggregate member value _ r hr := by
    obtain ⟨r', hinsert, hr'⟩ := he.insertMember aggregate member value r
    exact ⟨_, r', liftState_of_eq hinsert, hr'.trans hr⟩
  undefinedReturn {_ r} hr := by
    obtain ⟨r', hundefined, hr'⟩ := he.undefinedReturn r
    rw [hundefined]
    exact ⟨hr'.trans hr, by cases isVoid <;> simp⟩

end Emitter

/-- The recording emitter provides what is needed. -/
theorem Recorder.provides_emitter (arguments : Nat) (isVoid : Bool) :
    (emitter arguments isVoid []).Provides arguments isVoid fun b r => r.hasDepth = b :=
  (keepsLog_emitter arguments isVoid).provides

/-! ## Compiled programs -/

/-- With a table there is one more argument at most, and if there is one, it is the table. -/
theorem EntryPoint.of_withTable {e e' : EntryPoint} {t : BindingTable} {position : Option Nat}
    (h : e.withTable t = (position, e')) :
    e'.members = e.members ∧ e.arguments.length ≤ e'.arguments.length ∧
      e'.arguments.length ≤ e.arguments.length + 1 ∧
      ∀ i, position = some i → i = e.arguments.length ∧
        ∃ location, e'.arguments[i]? = some (.bindingTable location) := by
  unfold withTable at h
  split at h
  · next location _ =>
    cases h
    simp only [List.length_append]
    refine ⟨trivial, Nat.le_add_right .., Nat.le_refl _, fun i hi => ?_⟩
    cases hi
    exact ⟨rfl, location, List.getElem?_concat_length⟩
  · cases h
    exact ⟨rfl, Nat.le_refl _, Nat.le_succ _, nofun⟩

namespace Session

variable {σ L : Type} {stage : Stage} {signatures : Signatures} {lower : Lowering σ L}

/-- The declarations of a run leave effects in step with the entry point, and an instruction adds
two arguments and one member at most. -/
theorem interface_of_run {is : List Instruction} {s s' : Session σ L}
    (h : s.run stage signatures lower 0 is = .ok s') (hs : s.interface = {}) :
    s'.interface.InStep ∧ s'.interface.entryPoint.arguments.length ≤ 2 * is.length ∧
      s'.interface.entryPoint.members.length ≤ is.length := by
  let P (k : Nat) (s : Session σ L) : Prop :=
    s.interface.InStep ∧ s.interface.entryPoint.arguments.length ≤ 2 * k ∧
      s.interface.entryPoint.members.length ≤ k
  have hstep {k : Nat} {s : Session σ L} {i : Instruction} {s' : Session σ L}
      (_ : s.builder.returned = false) (hP : P k s)
      (ht : Takes stage signatures lower k s i s') : P (k + 1) s' := by
    obtain ⟨hin, harguments, hmembers⟩ := hP
    cases ht with
    | interface _ hdeclare =>
      have hrecords := Interface.records_of_declare hdeclare
      obtain ⟨harguments', hmembers'⟩ := hrecords.length_le
      refine ⟨hrecords.inStep hin, ?_, ?_⟩
      · exact Nat.le_trans harguments' (Nat.add_le_add_right harguments 2)
      · exact Nat.le_trans hmembers' (Nat.add_le_add_right hmembers 1)
    | nop | resource | control | ordinary =>
      refine ⟨hin, Nat.le_trans harguments ?_, Nat.le_succ_of_le hmembers⟩
      exact Nat.mul_le_mul_left 2 (Nat.le_succ k)
  have hstart : P 0 s := by
    refine ⟨?_, ?_, ?_⟩ <;> rw [hs]
    · exact Interface.inStep_empty
    · exact Nat.le_refl 0
    · exact Nat.le_refl 0
  obtain ⟨n, hn, hin, harguments, hmembers⟩ := run_induction hstep h hstart
  rw [Nat.zero_add] at harguments hmembers
  exact ⟨hin, Nat.le_trans harguments (Nat.mul_le_mul_left 2 hn), Nat.le_trans hmembers hn⟩

end Session

/-- What replaying the effects of a compiled program comes to, with an emitter that starts in a
given state. -/
structure CompiledShader.Replays {σ V L : Type} (c : CompiledShader L) (e : Emitter σ V) (s : σ) :
    Prop where
  /-- No effect fails. What is returned, unless it is nothing, is the undefined aggregate with the
  values that the effects at exit pop inserted at their positions. -/
  runs : ∃ s₁ ret s₂, e.runEntry c.atEntry s = .ok () s₁ ∧ e.runExit c.atExit s₁ = .ok ret s₂ ∧
    (ret = none ↔ c.entryPoint.isVoid = true) ∧
    ∀ v, ret = some v → ∃ u, (e.undefinedReturn s₁).1 = some u ∧
      e.Fills u (e.undefinedReturn s₁).2 c.atExit v s₂
  /-- There is one position for each member, in order. -/
  positions : c.atExit.map ExitEffect.member = List.range c.entryPoint.members.length
  /-- No effect reads the binding table: it would make no difference. -/
  table : ∀ i, c.tableArgument = some i →
    (∃ location, c.entryPoint.arguments[i]? = some (.bindingTable location)) ∧
    ∀ read, (e.withArgument i read).runEntry c.atEntry = e.runEntry c.atEntry ∧
      (e.withArgument i read).runExit c.atExit = e.runExit c.atExit

namespace Compilation

variable {σ L τ V : Type} {C : Compilation σ L} {c : CompiledShader L} {final : σ}

/-- The effects of a shader are those of the interface that the program has declared, and its entry
point is that of the interface with the table of the bindings. -/
theorem exists_interface (h : C.result = .ok (c, final)) :
    ∃ s : Session σ L,
      Session.run C.program.stage C.signatures C.lower 0 C.program.instructions C.start = .ok s ∧
      c.atEntry = s.interface.atEntry ∧ c.atExit = s.interface.atExit ∧
      s.interface.entryPoint.withTable s.resources.bindingTable =
        (c.tableArgument, c.entryPoint) := by
  unfold result Program.compile at h
  simp only [except_bind_eq_ok_iff] at h
  obtain ⟨_, -, s, hs, _, -, _, -, h⟩ := h
  cases h
  exact ⟨s, hs, rfl, rfl, rfl⟩

/-- With fewer than `2 ^ 31` instructions the positions of arguments and members have 32 bits. -/
theorem lengths_of_result (hsize : C.program.instructions.length < 2 ^ 31)
    (h : C.result = .ok (c, final)) :
    c.entryPoint.arguments.length < 2 ^ 32 ∧ c.entryPoint.members.length < 2 ^ 32 := by
  obtain ⟨s, hrun, -, -, htable⟩ := exists_interface h
  obtain ⟨-, harguments, hmembers⟩ := Session.interface_of_run hrun rfl
  obtain ⟨hsame, -, hle, -⟩ := EntryPoint.of_withTable htable
  rw [hsame]
  omega

/-- The effects of a program that compiles can be replayed, and the positions of arguments and
members have 32 bits. -/
theorem replays_of_result (hsize : C.program.instructions.length < 2 ^ 31)
    (h : C.result = .ok (c, final)) {e : Emitter τ V} {room : Bool → τ → Prop} {s : τ}
    (he : e.Provides c.entryPoint.arguments.length c.entryPoint.isVoid room)
    (hs : room false s) :
    c.Replays e s ∧ c.entryPoint.arguments.length < 2 ^ 32 ∧
      c.entryPoint.members.length < 2 ^ 32 := by
  refine ⟨?_, lengths_of_result hsize h⟩
  obtain ⟨s', hrun, hentry, hexit, htable⟩ := exists_interface h
  obtain ⟨hin, -, -⟩ := Session.interface_of_run hrun rfl
  obtain ⟨hsame, hle, -, htable⟩ := EntryPoint.of_withTable htable
  have hpositions : c.atExit.map ExitEffect.member =
      List.range c.entryPoint.members.length := by
    rw [hexit, hin.members, hsame]
  generalize s'.interface = f at *
  have hreads {i : Nat} :
      i ∈ c.atEntry.flatMap EntryEffect.reads ↔ i < f.entryPoint.arguments.length := by
    rw [hentry, hin.reads, List.mem_range]
  refine ⟨?_, hpositions, fun i hi => ⟨(htable i hi).2, fun read => ⟨?_, rfl⟩⟩⟩
  · obtain ⟨s₁, hs₁, hroom⟩ := he.runEntry
      (fun i hi => Nat.lt_of_lt_of_le (hreads.1 hi) hle) hs
      (by rw [hentry, hin.depth]; exact Nat.zero_add _)
    have hvoid : c.entryPoint.isVoid = true → c.atExit = [] := by
      intro hempty
      rw [EntryPoint.isVoid, List.isEmpty_iff, hsame] at hempty
      have hnone := hin.members
      rw [hempty] at hnone
      rw [hexit]
      exact List.map_eq_nil_iff.1 hnone
    obtain ⟨ret, s₂, hs₂, hret, hfills⟩ := he.runExit hvoid
      (fun hm => hin.popDepth (hexit ▸ hm)) hroom
    exact ⟨s₁, ret, s₂, hs₁, hs₂, hret, hfills⟩
  · refine Emitter.runEntry_withArgument ?_
    rw [hreads, (htable i hi).1]
    exact Nat.lt_irrefl _

/-- A pixel shader with an input, the depth as its output, and a view in its binding table. -/
def ofDepthProgram : Compilation Unit Instruction where
  program := {
    stage := .pixel
    model := .sm51
    instructions := [
      { opcode := .resourceDcl .resourceRaw, operands := [.register .resource (.d1 0)],
        declaration := some (.resourceRaw 0) },
      { opcode := .stageDcl .pixelInputGenerated, operands := [.register .input (.d1 1)],
        declaration := some (.pixelInputSystemValue .isFrontFace .constant) },
      { opcode := .stageDcl .output, operands := [.register .outputDepth .none],
        declaration := some .output },
      { opcode := .flow .ret }] }
  signatures := ⟨[], []⟩
  lower := .passthrough
  initial := ()
  options := {}

/-- Its effects, among them one that reads the depth, are replayed by the recording emitter, and its
second argument is the table. -/
theorem replays_ofDepthProgram :
    ∃ c, ofDepthProgram.result = .ok (c, ()) ∧ c.tableArgument = some 1 ∧
      c.atExit = [.popDepth 0] ∧
      c.Replays (Recorder.emitter c.entryPoint.arguments.length c.entryPoint.isVoid []) {} := by
  obtain ⟨c, ⟨⟩, hc⟩ := exists_result (C := ofDepthProgram) (by decide +kernel)
  have hshape : ofDepthProgram.result.toOption.map (fun r => (r.1.tableArgument, r.1.atExit)) =
      some (some 1, [.popDepth 0]) := by decide +kernel
  rw [hc] at hshape
  obtain ⟨htable, hexit⟩ := Prod.mk.inj (Option.some.inj hshape)
  have hprovides := Recorder.provides_emitter c.entryPoint.arguments.length c.entryPoint.isVoid
  exact ⟨c, hc, htable, hexit, (replays_of_result (by decide) hc hprovides rfl).1⟩

end Compilation

end ShaderFlow
