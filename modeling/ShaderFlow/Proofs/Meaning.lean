import ShaderFlow.Proofs.Matching
import ShaderFlow.Proofs.WellFormed

/-!
# Graphs mean what instruction streams mean

The interpreter of the stream and the walk through the graph are compared at the places that the
builder passed when it read the stream (`Readout.Meets`): the walk is at the block that was current
there, and the interpreter has executed what the block held by then. Ordinary instructions only fill
the block, so the walk waits. At control flow the block is complete; the walk executes it and goes
to the block that the builder began at the place where the interpreter goes on (`Readout.Follows`).
-/

namespace ShaderFlow

/-! ## Walking -/

namespace Graph

variable {g : Graph Instruction} {oracle : Oracle} {past : List Event} {x : BlockId}

/-- What is seen of the block at a position before its terminator. -/
def eventsAt (g : Graph Instruction) (x : BlockId) : List Event :=
  (g.itemsAt x).map BlockItem.event

/-- A terminator belongs to a block, and so do the events at its position. -/
theorem exists_block_of_terminatorAt {t : Terminator} (h : g.terminatorAt x = some t) :
    ∃ block, g.block? x = some block ∧ block.terminator = some t ∧ block.events = g.eventsAt x := by
  obtain ⟨block, hb, ht⟩ := Option.bind_eq_some_iff.1 h
  refine ⟨block, hb, ht, ?_⟩
  rw [eventsAt, itemsAt, hb]
  rfl

/-- A block with a jump shows its events, and the walk goes on at the target. -/
theorem walk_jump {y : BlockId} (h : g.terminatorAt x = some (.jump y)) :
    g.walk oracle x past = (g.eventsAt x, .running y) := by
  obtain ⟨block, hb, ht, he⟩ := exists_block_of_terminatorAt h
  simp only [walk, hb, ht, he]

/-- A block with a branch shows the test behind its events, and the outcome says where the walk goes
on. -/
theorem walk_branch {c : Condition} {y z : BlockId} (h : g.terminatorAt x = some (.branch c y z)) :
    g.walk oracle x past =
      (g.eventsAt x ++ [.test c (oracle.test (past ++ g.eventsAt x) c)],
        .running (if oracle.test (past ++ g.eventsAt x) c then y else z)) := by
  obtain ⟨block, hb, ht, he⟩ := exists_block_of_terminatorAt h
  simp only [walk, hb, ht, he]

/-- A block with a switch shows the selection behind its events. The walk goes on at the label of
the value, or else at the default. -/
theorem walk_switch {selector : Operand} {cases : IdMap BlockId} {default : BlockId}
    (h : g.terminatorAt x = some (.switch selector cases default)) :
    g.walk oracle x past =
      (g.eventsAt x ++ [.select selector (oracle.select (past ++ g.eventsAt x) selector)],
        .running (cases[oracle.select (past ++ g.eventsAt x) selector]?.getD default)) := by
  obtain ⟨block, hb, ht, he⟩ := exists_block_of_terminatorAt h
  simp only [walk, hb, ht, he]

/-- A block that returns ends the walk. -/
theorem walk_ret (h : g.terminatorAt x = some .ret) :
    g.walk oracle x past = (g.eventsAt x ++ [.ret], .returned) := by
  obtain ⟨block, hb, ht, he⟩ := exists_block_of_terminatorAt h
  simp only [walk, hb, ht, he]

end Graph

/-! ## Places that the builder passed -/

/-- A program that a builder has read up to the return outside of all scopes. -/
structure Readout where
  stage : Stage
  limit : Nat
  instructions : List Instruction
  /-- What stands behind the return. -/
  tail : List Instruction
  fin : Builder Instruction
  reads : Builder.Reads stage (.of Instruction.ordinary?) (.start limit) instructions fin
  returned : fin.returned = true

namespace Readout

open Builder

variable {P : Readout} {oracle : Oracle} {b b' : Builder Instruction} {i : Instruction}
  {before after : List Instruction} {x : BlockId}

/-- The place between two parts of the program, and the builder that has read the first part. -/
structure Passes (P : Readout) (before after : List Instruction) (b : Builder Instruction) :
    Prop where
  before : Reads P.stage (.of Instruction.ordinary?) (.start P.limit) before.reverse b
  after : Reads P.stage (.of Instruction.ordinary?) b after P.fin

/-- The builder at a place of the program is sound. -/
theorem Passes.sound (h : P.Passes before after b) : b.Sound := h.before.sound (sound_start _)

/-- At a place of the program, the blocks that open scopes have still to go on in are empty. -/
theorem Passes.vacant (h : P.Passes before after b) : b.Vacant :=
  h.before.vacant (sound_start _) (vacant_start _)

/-- The builder passes on to the place behind a further instruction. -/
theorem Passes.behind {pre : List Instruction} (h : P.Passes before (pre ++ i :: after) b)
    (hpre : Reads P.stage (.of Instruction.ordinary?) b (pre ++ [i]) b')
    (hafter : Reads P.stage (.of Instruction.ordinary?) b' after P.fin) :
    P.Passes (i :: (pre.reverse ++ before)) after b' where
  before := by
    have hread := h.before.append hpre
    simpa using hread
  after := hafter

/-- The place behind an instruction that the builder takes in. -/
theorem Passes.next (h : P.Passes before (i :: after) b) (hr : b.returned = false)
    (ht : Takes P.stage (.of Instruction.ordinary?) b i b')
    (hafter : Reads P.stage (.of Instruction.ordinary?) b' after P.fin) :
    P.Passes (i :: before) after b' where
  before := by
    have hread := h.before.snoc hr ht
    simpa using hread
  after := hafter

/-- When the program has been read, all scopes are closed. -/
theorem scopes_eq (P : Readout) : P.fin.scopes = [] :=
  P.reads.preserves (P := fun b => b.returned = true → b.scopes = [])
    (fun hr ht _ hr' => ht.scopes_of_returned hr hr') nofun P.returned

/-- The exit returns, and does nothing else. -/
theorem walk_exit (P : Readout) (past : List Event) :
    P.fin.graph.walk oracle 1 past = ([.ret], .returned) := by
  obtain ⟨hterm, hitems⟩ := P.reads.closed (x := 1) (t := .ret) (sound_start _) rfl
  rw [Graph.walk_ret hterm, Graph.eventsAt, hitems]
  rfl

/-- What the interpreter and the walk have in common at a time: either both are at a place that the
builder passed, and the walk has still to show what the current block held by then, or both have
returned. -/
inductive Meets (P : Readout) : Config Cursor → Config BlockId → Prop where
  | running {before after : List Instruction} {b : Builder Instruction} {events : List Event}
      (h : P.Passes before after b) (hr : b.returned = false) :
      Meets P ⟨.running ⟨before, after ++ P.tail⟩, events ++ b.graph.eventsAt b.current⟩
        ⟨.running b.current, events⟩
  | returned {events : List Event} : Meets P ⟨.returned, events⟩ ⟨.returned, events⟩

/-- The interpreter goes on at a place where the builder began a given block. -/
def Arrives (P : Readout) (status : Status Cursor) (x : BlockId) : Prop :=
  ∃ before after b, status = .running ⟨before, after ++ P.tail⟩ ∧ P.Passes before after b ∧
    b.Begins x

/-- The walk comes to meet the interpreter, with the same events. -/
def Reaches (P : Readout) (oracle : Oracle) (s : Config Cursor) (t : Config BlockId) : Prop :=
  ∃ n, P.Meets s (t.run (P.fin.graph.walk oracle) n) ∧
    s.events = (t.run (P.fin.graph.walk oracle) n).events

/-- A walk that meets the interpreter after a step comes to meet it. -/
theorem Reaches.of_step {s : Config Cursor} {t : Config BlockId}
    (h : P.Reaches oracle s (t.step (P.fin.graph.walk oracle))) : P.Reaches oracle s t := by
  obtain ⟨n, hmeets, hevents⟩ := h
  rw [← Config.run_one, ← Config.run_add] at hmeets hevents
  exact ⟨n + 1, hmeets, hevents⟩

/-- A walk that goes on at a given block comes to show what the interpreter does next. -/
def Follows (P : Readout) (oracle : Oracle) (next : List Event × Status Cursor) (x : BlockId) :
    Prop :=
  ∀ past, P.Reaches oracle ⟨next.2, past ++ next.1⟩ ⟨.running x, past⟩

/-- At a block that was just begun, the walk meets the interpreter at once. -/
theorem Arrives.reaches {status : Status Cursor} (h : P.Arrives status x) (past : List Event) :
    P.Reaches oracle ⟨status, past⟩ ⟨.running x, past⟩ := by
  obtain ⟨before, after, b, rfl, hpass, hbegins⟩ := h
  refine ⟨0, ?_, rfl⟩
  have hmeets : P.Meets ⟨_, past ++ _⟩ ⟨_, past⟩ := .running hpass hbegins.returned
  rw [hbegins.current, Graph.eventsAt, hbegins.vacant, List.map_nil, List.append_nil] at hmeets
  exact hmeets

/-- An interpreter that shows nothing and arrives at a block is followed from the block. -/
theorem Arrives.follows {status : Status Cursor} (h : P.Arrives status x) :
    P.Follows oracle ([], status) x := by
  intro past
  rw [List.append_nil]
  exact h.reaches past

/-- A walk that goes on at the exit returns. -/
theorem follows_ret (P : Readout) : P.Follows oracle ([.ret], .returned) 1 := by
  intro past
  refine .of_step ⟨0, ?_, ?_⟩
  · rw [Config.step_running rfl, walk_exit]
    exact .returned
  · rw [Config.step_running rfl, walk_exit]
    rfl

/-! ## Where control goes on -/

/-- Behind what a search finds, the interpreter arrives at the block that the builder began
there. -/
theorem arrives_goBehind {q : Search} {Q : Instruction → Builder Instruction → Prop}
    (h : P.Passes before after b)
    (hfind : Finds P.stage (.of Instruction.ordinary?) q 0 b after P.fin Q)
    (hQ : ∀ {i b'}, Q i b' → b'.Begins x) :
    P.Arrives (Cursor.goBehind q ⟨before, after ++ P.tail⟩) x := by
  obtain ⟨pre, i, rest, b₁, rfl, hpre, hrest, hq, hf⟩ := hfind
  refine ⟨i :: (pre.reverse ++ before), rest, b₁, ?_, h.behind hpre hrest, hQ hq⟩
  simp only [Cursor.goBehind, hf]

/-- A false `if` goes on in its other arm, or behind it. -/
theorem arrives_elseOrEndIf {outer : List Scope} (h : P.Passes before after b)
    (hs : b.scopes = .branch x none :: outer) :
    P.Arrives (Cursor.goBehind .elseOrEndIf ⟨before, after ++ P.tail⟩) x := by
  have hfind := exists_find (fun hb hv hr ht _ => effect_elseOrEndIf hb hv hr ht) h.after
    P.scopes_eq h.sound h.vacant (n := 0) (v := (x, none)) (by rw [hs]; rfl)
  exact arrives_goBehind h hfind fun hbegins => hbegins rfl

/-- The first arm of an `if` goes on behind the second. -/
theorem arrives_endIf {alternative : BlockId} {outer : List Scope} (h : P.Passes before after b)
    (hs : b.scopes = .branch alternative (some x) :: outer) :
    P.Arrives (Cursor.goBehind .endIf ⟨before, after ++ P.tail⟩) x := by
  have hfind := exists_find (fun hb hv hr ht _ => effect_endIf hb hv hr ht) h.after P.scopes_eq
    h.sound h.vacant (n := 0) (v := (alternative, some x)) (by rw [hs]; rfl)
  exact arrives_goBehind h hfind fun hbegins => hbegins x rfl

/-- `break` goes on behind the innermost loop or switch. -/
theorem arrives_break (h : P.Passes before after b) (hx : b.breakTarget? = some x) :
    P.Arrives (Cursor.goBehind .endLoopOrSwitch ⟨before, after ++ P.tail⟩) x := by
  have hfind := exists_find (fun hb hv hr ht _ => effect_endLoopOrSwitch hb hv hr ht) h.after
    P.scopes_eq h.sound h.vacant (n := 0) (v := x)
    (by rw [← List.head?_eq_getElem?, List.head?_filterMap]; exact hx)
  exact arrives_goBehind h hfind id

/-- `continue` goes back to the innermost loop. -/
theorem arrives_continue (h : P.Passes before after b) (hx : b.continueTarget? = some x) :
    P.Arrives (Cursor.goBack ⟨before, after ++ P.tail⟩) x := by
  obtain ⟨pre, mid, b₁, heq, hpre, hmid, hbegins, hf⟩ := exists_find_back (n := 0) (x := x) h.before
    (by rw [← List.head?_eq_getElem?, List.head?_filterMap]; exact hx)
  rw [List.reverse_reverse] at hf
  refine ⟨pre.reverse, mid ++ after, b₁, ?_, ⟨?_, hmid.append h.after⟩, hbegins⟩
  · simp only [Cursor.goBack, hf, List.append_assoc]
  · rw [List.reverse_reverse]
    exact hpre

/-- A switch goes on behind the label that belongs to the value of its selector. -/
theorem arrives_label {s : SwitchScope} {outer : List Scope} {selector : Operand}
    {cases : IdMap BlockId} {default : BlockId} (h : P.Passes before after b)
    (hs : b.scopes = .switch s :: outer) (hcases : s.cases = ∅) (hfallback : s.fallback = none)
    (hterm : P.fin.graph.terminatorAt s.dispatch = some (.switch selector cases default))
    (value : UInt32) :
    P.Arrives (Cursor.goToLabel value ⟨before, after ++ P.tail⟩) (cases[value]?.getD default) := by
  have hfind := exists_find
    (fun hb hv hr ht hread => effect_caseOrEnd value hb hv hr ht hread P.returned) h.after
    P.scopes_eq h.sound h.vacant (n := 0) (v := s) (by rw [hs]; rfl)
  have hdefault := exists_find
    (fun hb hv hr ht hread => effect_defaultOrEnd hb hv hr ht hread P.returned) h.after
    P.scopes_eq h.sound h.vacant (n := 0) (v := s) (by rw [hs]; rfl)
  obtain ⟨pre, i, rest, b₁, rfl, hpre, hrest, hlead, hf⟩ := hfind
  rcases hlead hterm (by simp [hcases]) with ⟨hq, x, hx, hbegins⟩ | ⟨hq, hx⟩
  · rw [hx]
    refine ⟨i :: (pre.reverse ++ before), rest, b₁, ?_, h.behind hpre hrest, hbegins⟩
    simp only [Cursor.goToLabel, hf, hq, if_true]
  · rw [hx]
    have hgo : Cursor.goToLabel value ⟨before, pre ++ i :: rest ++ P.tail⟩ =
        Cursor.goBehind .defaultOrEnd ⟨before, pre ++ i :: rest ++ P.tail⟩ := by
      simp only [Cursor.goToLabel, hf, if_neg hq]
    rw [hgo]
    exact arrives_goBehind h hdefault fun hlead => hlead hterm hfallback

/-! ## The steps -/

/-- The interpreter tests the condition that the builder reads. -/
theorem condition?_of_ok {c : Condition} (h : condition i = .ok c) : i.condition? = some c := by
  obtain ⟨operand, ho, rfl⟩ := condition_eq_ok_iff.1 h
  rw [Instruction.condition?, ho]
  rfl

/-- What the interpreter does when it leaves the code at hand. -/
def leaveBy (way : Leave) (c next : Cursor) : List Event × Status Cursor :=
  match way with
  | .breakOut => ([], next.goBehind .endLoopOrSwitch)
  | .continueLoop => ([], c.goBack)
  | .ret => ([.ret], .returned)

/-- An unconditional jump out leaves the code at hand. -/
theorem interpret_leave {way : Leave} {past : List Event} (h : i.opcode = .flow way.op) :
    Cursor.interpret oracle ⟨before, i :: after⟩ past =
      leaveBy way ⟨before, i :: after⟩ ⟨i :: before, after⟩ := by
  cases way <;> simp only [Leave.op] at h <;> simp only [Cursor.interpret, h, leaveBy]

/-- A conditional jump out leaves the code at hand or goes on behind itself. -/
theorem interpret_leaveIf {way : Leave} {past : List Event} (h : i.opcode = .flow way.opIf) :
    Cursor.interpret oracle ⟨before, i :: after⟩ past =
      Cursor.choose oracle past i (leaveBy way ⟨before, i :: after⟩ ⟨i :: before, after⟩)
        ([], .running ⟨i :: before, after⟩) := by
  cases way <;> simp only [Leave.opIf] at h <;> simp only [Cursor.interpret, h, leaveBy]

/-- Leaving the code at hand leads to the target that the builder has for it. -/
theorem follows_leave {way : Leave} (h : P.Passes before (i :: after) b)
    (hnext : P.Passes (i :: before) after b') (hs : b'.scopes = b.scopes)
    (ht : b.target? way = some x) :
    P.Follows oracle
      (leaveBy way ⟨before, i :: after ++ P.tail⟩ ⟨i :: before, after ++ P.tail⟩) x := by
  cases way with
  | breakOut =>
    refine (arrives_break hnext ?_).follows
    rw [breakTarget?, hs]
    exact ht
  | continueLoop => exact (arrives_continue h ht).follows
  | ret =>
    cases ht
    rw [h.sound.graph.exit_eq]
    exact P.follows_ret

/-- A block that was closed when it was current is walked with the items it had by then. -/
theorem final_current {t : Terminator}
    (hafter : Reads P.stage (.of Instruction.ordinary?) b' after P.fin)
    (hb' : b'.Sound) (hterm : b'.graph.terminatorAt b.current = some t)
    (hitems : b'.graph.itemsAt b.current = b.graph.itemsAt b.current) :
    P.fin.graph.terminatorAt b.current = some t ∧
      P.fin.graph.eventsAt b.current = b.graph.eventsAt b.current := by
  obtain ⟨hterm', hitems'⟩ := hafter.closed hb' hterm
  refine ⟨hterm', ?_⟩
  rw [Graph.eventsAt, Graph.eventsAt, hitems', hitems]

section

variable {events : List Event} {next yes no : List Event × Status Cursor}

/-- The walk through a block with a jump, when the interpreter goes on where the jump leads. -/
theorem reaches_jump (hterm : P.fin.graph.terminatorAt b.current = some (.jump x))
    (hevents : P.fin.graph.eventsAt b.current = b.graph.eventsAt b.current)
    (hnext : P.Follows oracle next x) :
    P.Reaches oracle ⟨next.2, events ++ b.graph.eventsAt b.current ++ next.1⟩
      (Config.step (P.fin.graph.walk oracle) ⟨.running b.current, events⟩) := by
  rw [Config.step_running rfl, Graph.walk_jump hterm, hevents]
  exact hnext _

/-- The walk through a block with a branch, when the interpreter makes the same choice. -/
theorem reaches_branch {c : Condition} {y z : BlockId}
    (hterm : P.fin.graph.terminatorAt b.current = some (.branch c y z))
    (hevents : P.fin.graph.eventsAt b.current = b.graph.eventsAt b.current)
    (hc : i.condition? = some c) (hyes : P.Follows oracle yes y) (hno : P.Follows oracle no z) :
    P.Reaches oracle
      ⟨(Cursor.choose oracle (events ++ b.graph.eventsAt b.current) i yes no).2,
        events ++ b.graph.eventsAt b.current ++
          (Cursor.choose oracle (events ++ b.graph.eventsAt b.current) i yes no).1⟩
      (Config.step (P.fin.graph.walk oracle) ⟨.running b.current, events⟩) := by
  rw [Config.step_running rfl, Graph.walk_branch hterm, hevents]
  simp only [Cursor.choose, hc]
  cases oracle.test (events ++ b.graph.eventsAt b.current) c with
  | true =>
    have h := hyes (events ++ (b.graph.eventsAt b.current ++ [.test c true]))
    simpa using h
  | false =>
    have h := hno (events ++ (b.graph.eventsAt b.current ++ [.test c false]))
    simpa using h

/-- The walk through a block that dispatches, when the interpreter looks for the label of the
value. -/
theorem reaches_switch {selector : Operand} {cases : IdMap BlockId} {default : BlockId}
    {next : Cursor}
    (hterm : P.fin.graph.terminatorAt b.current = some (.switch selector cases default))
    (hevents : P.fin.graph.eventsAt b.current = b.graph.eventsAt b.current)
    (hlabel : ∀ value, P.Arrives (next.goToLabel value) (cases[value]?.getD default)) :
    P.Reaches oracle
      ⟨next.goToLabel (oracle.select (events ++ b.graph.eventsAt b.current) selector),
        events ++ b.graph.eventsAt b.current ++
          [.select selector (oracle.select (events ++ b.graph.eventsAt b.current) selector)]⟩
      (Config.step (P.fin.graph.walk oracle) ⟨.running b.current, events⟩) := by
  rw [Config.step_running rfl, Graph.walk_switch hterm, hevents, List.append_assoc]
  generalize oracle.select (events ++ b.graph.eventsAt b.current) selector = value
  exact (hlabel value).reaches _

end

/-- The block of a `discard` shows it and goes on behind it. -/
theorem follows_discard {status : Status Cursor} {y : BlockId}
    (hterm : P.fin.graph.terminatorAt x = some (.jump y))
    (hitems : P.fin.graph.itemsAt x = [.discard]) (hnext : P.Arrives status y) :
    P.Follows oracle ([.discard], status) x := by
  intro past
  refine .of_step ?_
  rw [Config.step_running rfl, Graph.walk_jump hterm, Graph.eventsAt, hitems]
  exact hnext.reaches _

/-- At control flow, the walk executes the current block and comes to meet the interpreter. -/
theorem reaches_step (h : P.Passes before (i :: after) b) (hr : b.returned = false)
    (hstep : Step P.stage b i b') (events : List Event)
    (hafter : Reads P.stage (.of Instruction.ordinary?) b' after P.fin) :
    P.Reaches oracle
      (Config.step (Cursor.interpret oracle)
        ⟨.running ⟨before, i :: after ++ P.tail⟩, events ++ b.graph.eventsAt b.current⟩)
      (Config.step (P.fin.graph.walk oracle) ⟨.running b.current, events⟩) := by
  have ht : Takes P.stage (.of Instruction.ordinary?) b i b' := .control hstep
  have hb' : b'.Sound := ht.sound hr h.sound
  have hnext : P.Passes (i :: before) after b' := h.next hr ht hafter
  have hgoOn (hr' : b'.returned = false) :
      P.Arrives (.running ⟨i :: before, after ++ P.tail⟩) b'.current :=
    ⟨_, _, b', rfl, hnext, hstep.begins h.sound h.vacant hr hr'⟩
  have hlt : b.current < b.graph.size := (h.sound.isOpen_current hr).lt_size
  have hclose {g : Graph Instruction} {t : Terminator} (hsize : b.graph.size ≤ g.size) :
      (g.close b.current t).terminatorAt b.current = some t :=
    Graph.terminatorAt_close_self (Nat.lt_of_lt_of_le hlt hsize)
  rw [Config.step_running rfl, List.cons_append]
  -- A block that is closed here keeps its terminator. That of a switch comes with its end.
  cases hstep with
  | beginIf hop hc hd ho =>
    obtain ⟨hterm, hevents⟩ := final_current hafter hb' (hclose (by simp [Nat.add_assoc])) (by simp)
    simp only [Cursor.interpret, hop]
    exact reaches_branch hterm hevents (condition?_of_ok hc) (hgoOn hr).follows
      (arrives_elseOrEndIf hnext rfl).follows
  | elseArm hop hs ho =>
    obtain ⟨hterm, hevents⟩ := final_current hafter hb' (hclose (by simp)) (by simp)
    simp only [Cursor.interpret, hop]
    exact reaches_jump hterm hevents (arrives_endIf hnext rfl).follows
  | endIf hop hs ho =>
    obtain ⟨hterm, hevents⟩ := final_current hafter hb' (hclose (Nat.le_refl _)) (by simp)
    simp only [Cursor.interpret, hop]
    exact reaches_jump hterm hevents (hgoOn hr).follows
  | beginLoop hop hd ho =>
    obtain ⟨hterm, hevents⟩ := final_current hafter hb' (hclose (by simp [Nat.add_assoc])) (by simp)
    simp only [Cursor.interpret, hop]
    exact reaches_jump hterm hevents (hgoOn hr).follows
  | endLoop hop hs ho =>
    obtain ⟨hterm, hevents⟩ := final_current hafter hb' (hclose (Nat.le_refl _)) (by simp)
    simp only [Cursor.interpret, hop]
    exact reaches_jump hterm hevents (arrives_continue h (by rw [continueTarget?, hs]; rfl)).follows
  | beginSwitch hop hsel hd =>
    obtain ⟨s', hgrows, hterm, hitems⟩ := hafter.dispatch hb' hr P.returned List.mem_cons_self
    have hevents : P.fin.graph.eventsAt b.current = b.graph.eventsAt b.current := by
      rw [Graph.eventsAt, hitems, Graph.itemsAt_alloc, Graph.itemsAt_alloc, Graph.eventsAt]
    simp only [Cursor.interpret, hop, hsel]
    rw [hgrows.selector] at hterm
    exact reaches_switch hterm hevents (arrives_label hnext rfl rfl rfl hterm)
  | caseLabel hop hv hs hnew ho =>
    obtain ⟨hterm, hevents⟩ := final_current hafter hb' (hclose (by simp)) (by simp)
    simp only [Cursor.interpret, hop]
    exact reaches_jump hterm hevents (hgoOn hr).follows
  | defaultLabel hop hs hnew ho =>
    obtain ⟨hterm, hevents⟩ := final_current hafter hb' (hclose (by simp)) (by simp)
    simp only [Cursor.interpret, hop]
    exact reaches_jump hterm hevents (hgoOn hr).follows
  | endSwitch hop hs ho hdo =>
    have hne := (h.sound.dispatch hr (by rw [hs]; exact List.mem_cons_self)).2
    obtain ⟨hterm, hevents⟩ := final_current hafter hb'
      ((Graph.terminatorAt_close_of_ne hne.symm).trans (hclose (Nat.le_refl _))) (by simp)
    simp only [Cursor.interpret, hop]
    exact reaches_jump hterm hevents (hgoOn hr).follows
  | leave way hop hx hin ho =>
    obtain ⟨hterm, hevents⟩ := final_current hafter hb'
      (by rw [Graph.terminatorAt_alloc]; exact hclose (Nat.le_refl _)) (by simp)
    rw [interpret_leave hop]
    exact reaches_jump hterm hevents (follows_leave h hnext rfl hx)
  | leaveIf way hop hx hc ho =>
    obtain ⟨hterm, hevents⟩ := final_current hafter hb' (hclose (by simp)) (by simp)
    rw [interpret_leaveIf hop]
    exact reaches_branch hterm hevents (condition?_of_ok hc) (follows_leave h hnext rfl hx)
      (hgoOn hr).follows
  | ret hop hs ho =>
    obtain ⟨hterm, hevents⟩ := final_current hafter hb' (hclose (Nat.le_refl _)) (by simp)
    rw [h.sound.graph.exit_eq] at hterm
    simp only [Cursor.interpret, hop]
    exact reaches_jump hterm hevents P.follows_ret
  | discard hop hst hc ho =>
    have hne : b.graph.size ≠ b.current := (Nat.ne_of_lt hlt).symm
    obtain ⟨hterm, hevents⟩ := final_current hafter hb' (hclose (by simp))
      (by rw [Graph.itemsAt_close, Graph.itemsAt_allocDiscard_of_ne hne.symm])
    obtain ⟨hshow, hitems⟩ := hafter.closed hb'
      ((Graph.terminatorAt_close_of_ne hne).trans Graph.terminatorAt_allocDiscard_self)
    rw [Graph.itemsAt_close, Graph.itemsAt_allocDiscard_self] at hitems
    simp only [Cursor.interpret, hop]
    exact reaches_branch hterm hevents (condition?_of_ok hc)
      (follows_discard hshow hitems (hgoOn hr)) (hgoOn hr).follows

/-! ## Meaning -/

/-- Outside of control flow, the interpreter executes what is ordinary and goes on. -/
theorem interpret_of_not_controlFlow {past : List Event} (hi : i.opcode.isControlFlow = false) :
    Cursor.interpret oracle ⟨before, i :: after⟩ past =
      ((i.ordinary?.map Event.exec).toList, .running ⟨i :: before, after⟩) := by
  have hgoOn : Cursor.interpret oracle ⟨before, i :: after⟩ past =
      (if i.opcode.isOrdinary then [.exec i] else [], .running ⟨i :: before, after⟩) := by
    cases hop : i.opcode with
    | flow op =>
      rw [hop] at hi
      cases hi
    | _ => simp only [Cursor.interpret, hop]
  rw [hgoOn, Instruction.ordinary?]
  cases i.opcode.isOrdinary <;> rfl

/-- Outside of control flow, the walk waits: the current block grows by what is executed. -/
theorem meets_of_not_controlFlow {events : List Event} (h : P.Passes before (i :: after) b)
    (hr : b.returned = false) (hi : i.opcode.isControlFlow = false)
    (ht : Takes P.stage (.of Instruction.ordinary?) b i b')
    (hafter : Reads P.stage (.of Instruction.ordinary?) b' after P.fin) :
    P.Meets
      (Config.step (Cursor.interpret oracle)
        ⟨.running ⟨before, i :: after ++ P.tail⟩, events ++ b.graph.eventsAt b.current⟩)
      ⟨.running b.current, events⟩ := by
  have hnext : P.Passes (i :: before) after b' := h.next hr ht hafter
  rw [Config.step_running rfl, List.cons_append, interpret_of_not_controlFlow hi]
  cases ht with
  | control hstep => cases hi.symm.trans hstep.isControlFlow
  | @put value _ hv =>
    have hlt : b.current < b.graph.size := (h.sound.isOpen_current hr).lt_size
    have hmeets : P.Meets ⟨_, events ++ _⟩ _ := .running hnext hr
    have hgrow : (b.append value).graph.eventsAt b.current =
        b.graph.eventsAt b.current ++ [.exec value] := by
      rw [Graph.eventsAt, Graph.eventsAt, Builder.append, Graph.itemsAt_push_self hlt]
      simp [BlockItem.event]
    have hcurrent : (b.append value).current = b.current := rfl
    rw [hcurrent, hgrow, ← List.append_assoc] at hmeets
    rw [← hv]
    exact hmeets
  | skip _ hv =>
    rw [← hv]
    have hmeets : P.Meets ⟨_, events ++ _⟩ _ := .running hnext hr
    simpa using hmeets

/-- The walk follows the interpreter. It waits at ordinary instructions, but never at more of them
than are left in the stream. -/
theorem simulation (P : Readout) (oracle : Oracle) :
    Simulation (Cursor.interpret oracle) (P.fin.graph.walk oracle) P.Meets
      fun c => c.after.length where
  step hmeets hs := by
    cases hmeets with
    | returned => cases hs
    | @running before after b events h hr =>
    cases hs
    cases h.after with
    | nil => cases hr.symm.trans P.returned
    | @cons _ b' _ i after _ ht hafter =>
    cases hi : i.opcode.isControlFlow with
    | false =>
      refine .inl ⟨meets_of_not_controlFlow h hr hi ht hafter, ⟨i :: before, after ++ P.tail⟩,
        ?_, ?_⟩
      · rw [Config.step_running rfl, List.cons_append, interpret_of_not_controlFlow hi]
      · exact Nat.lt_succ_self _
    | true =>
      cases ht with
      | control hstep =>
        have hreaches : P.Reaches oracle _ _ := reaches_step h hr hstep events hafter
        obtain ⟨n, hn⟩ := hreaches
        refine .inr ⟨n, ?_⟩
        rw [Config.run_add, Config.run_one]
        exact hn
      | put hi' | skip hi' => cases hi.symm.trans hi'
  running hmeets hs := by
    cases hmeets with
    | running => exact ⟨⟨_, rfl⟩, List.prefix_append _ _⟩
    | returned => cases hs
  ended hmeets hs := by
    cases hmeets with
    | running => exact absurd rfl (hs _)
    | returned => exact ⟨rfl, rfl, rfl⟩

/-- At the beginning, nothing has been shown and the walk is at the entry. -/
theorem meets_start (P : Readout) :
    P.Meets ⟨.running (.start (P.instructions ++ P.tail)), []⟩
      ⟨.running P.fin.graph.entry, []⟩ := by
  have hpass : P.Passes [] P.instructions (.start P.limit) := ⟨.nil, P.reads⟩
  rw [(P.reads.sound (sound_start _)).graph.entry_eq]
  have hmeets : P.Meets ⟨_, [] ++ _⟩ ⟨_, []⟩ := .running hpass rfl
  exact hmeets

end Readout

/-- **A graph means what its stream means.** Under every oracle, walking the graph of a compiled
program from its entry shows the same events as interpreting its instructions from their beginning,
and returns if and only if the interpreter does. -/
theorem Program.sameTrace_of_compile {p : Program} {signatures : Signatures} {options : Options}
    {c : CompiledShader Instruction}
    (h : p.compile signatures .passthrough () options = .ok (c, ())) (oracle : Oracle) :
    Config.SameTrace (Cursor.interpret oracle) ⟨.running (.start p.instructions), []⟩
      (c.graph.walk oracle) ⟨.running c.graph.entry, []⟩ := by
  obtain ⟨done, rest, b, hi, hreads, hr, hg⟩ := reads_of_compile Session.lowers_passthrough h
  let P : Readout := ⟨p.stage, options.maxNesting, done, rest, b, hreads, hr⟩
  rw [hi, hg]
  exact (P.simulation oracle).sameTrace P.meets_start

/-- The selector is 5 at first and 3 from then on, and tests fail until four events have been seen.
The loop program then continues, breaks out of its switch twice, the second time after a discard,
and leaves its loop. -/
def changingOracle : Oracle where
  test past _ := decide (4 ≤ past.length)
  select past _ := if past.isEmpty then 5 else 3

/-- The loop program compiles, and means what its instructions mean. -/
theorem sameTrace_loopProgram :
    ∃ c, loopProgram.compile ⟨[], []⟩ .passthrough () {} = .ok (c, ()) ∧
      Config.SameTrace (Cursor.interpret changingOracle)
        ⟨.running (.start loopProgram.instructions), []⟩
        (c.graph.walk changingOracle) ⟨.running c.graph.entry, []⟩ := by
  obtain ⟨c, hc⟩ : ∃ c, loopProgram.compile ⟨[], []⟩ .passthrough () {} = .ok (c, ()) := ⟨_, rfl⟩
  exact ⟨c, hc, Program.sameTrace_of_compile hc changingOracle⟩

end ShaderFlow
