import Mathlib.Logic.Function.Iterate
import ShaderFlow.Graph.Basic

/-!
# Events and machines

Graphs and instruction streams are executed by machines that move from point to point and leave a
trace of events. What a program's text does not determine, an `Oracle` decides. Two machines have
the same meaning (`Config.SameTrace`) if each shows, sooner or later, all that the other shows, and
if they return alike. `Simulation.sameTrace` reduces this to a relation that each step of the first
machine preserves: the second waits, which a rank of the first machine limits, or it catches up.
-/

namespace ShaderFlow

/-- What can be seen of an execution. -/
inductive Event where
  /-- An ordinary instruction is executed. -/
  | exec (i : Instruction)
  /-- An operand is tested for zero or for not zero. -/
  | test (condition : Condition) (outcome : Bool)
  /-- A switch dispatches on the value of its selector. -/
  | select (selector : Operand) (value : UInt32)
  /-- The pixel is discarded. -/
  | discard
  /-- The function returns. -/
  | ret
  deriving DecidableEq

/-- The outcomes of tests and the values of selectors. An answer may depend on all that happened
before; so an oracle may, in particular, fix the answer to each question by its number. -/
structure Oracle where
  test : List Event → Condition → Bool
  select : List Event → Operand → UInt32

/-- Where a machine is. -/
inductive Status (P : Type) where
  | running (point : P)
  | returned
  /-- The machine can neither go on nor return. -/
  | stuck
  deriving DecidableEq

/-- A machine in the course of an execution. -/
structure Config (P : Type) where
  status : Status P
  /-- What happened so far, in order. -/
  events : List Event
  deriving DecidableEq

/-- What a machine does at a point, given what happened before: the events that it adds, and where
it is afterwards. -/
abbrev Move (P : Type) := P → List Event → List Event × Status P

namespace Config

variable {P Q : Type} {move : Move P} {move' : Move Q} {s : Config P} {t : Config Q}

/-- One step of a machine; a machine that has come to an end stays as it is. -/
def step (move : Move P) (s : Config P) : Config P :=
  match s.status with
  | .running point =>
    let (events, status) := move point s.events
    { status, events := s.events ++ events }
  | .returned | .stuck => s

/-- A machine after a number of steps. -/
def run (move : Move P) (n : Nat) (s : Config P) : Config P := (step move)^[n] s

/-- A machine that runs adds the events of one move and goes on where that leads. -/
theorem step_running {p : P} (h : s.status = .running p) :
    s.step move = ⟨(move p s.events).2, s.events ++ (move p s.events).1⟩ := by
  unfold step
  rw [h]

/-- Two runs in a row are one run. -/
theorem run_add (m n : Nat) : s.run move (m + n) = (s.run move n).run move m :=
  Function.iterate_add_apply _ m n s

/-- A run of one step. -/
theorem run_one : s.run move 1 = s.step move := rfl

/-- A machine that has come to an end stays as it is. -/
theorem run_of_ended (h : ∀ p, s.status ≠ .running p) (n : Nat) : s.run move n = s := by
  have hstep : s.step move = s := by
    unfold step
    split
    · next hp => exact absurd hp (h _)
    · rfl
    · rfl
  exact Function.iterate_fixed hstep n

/-- A machine that has ended stays as it is. -/
theorem run_of_le_ended {m n : Nat} (h : ∀ p, (s.run move m).status ≠ .running p) (hmn : m ≤ n) :
    s.run move n = s.run move m := by
  obtain ⟨k, rfl⟩ := Nat.exists_eq_add_of_le' hmn
  rw [run_add, run_of_ended h]

/-- What happened, happened. -/
theorem events_step : s.events <+: (s.step move).events := by
  unfold step
  split
  · exact List.prefix_append ..
  · exact List.prefix_rfl
  · exact List.prefix_rfl

/-- A run only adds events. -/
theorem events_run (n : Nat) : s.events <+: (s.run move n).events := by
  induction n with
  | zero => exact List.prefix_rfl
  | succ n ih =>
    rw [Nat.add_comm, run_add, run_one]
    exact ih.trans events_step

/-- A longer run shows what a shorter one shows, and perhaps more. -/
theorem events_run_of_le {m n : Nat} (h : m ≤ n) :
    (s.run move m).events <+: (s.run move n).events := by
  obtain ⟨k, rfl⟩ := Nat.exists_eq_add_of_le' h
  rw [run_add]
  exact events_run k

/-- Two executions mean the same: every trace of one begins a trace of the other, they return alike,
with the same events, and neither gets stuck. -/
structure SameTrace (move : Move P) (s : Config P) (move' : Move Q) (t : Config Q) : Prop where
  prefix_right : ∀ m, ∃ n, (s.run move m).events <+: (t.run move' n).events
  prefix_left : ∀ n, ∃ m, (t.run move' n).events <+: (s.run move m).events
  returned_iff : ∀ events,
    (∃ m, s.run move m = ⟨.returned, events⟩) ↔ ∃ n, t.run move' n = ⟨.returned, events⟩
  not_stuck_left : ∀ m, (s.run move m).status ≠ .stuck
  not_stuck_right : ∀ n, (t.run move' n).status ≠ .stuck

end Config

/-- A relation between two machines of which the first sets the pace. -/
structure Simulation {P Q : Type} (move : Move P) (move' : Move Q)
    (R : Config P → Config Q → Prop) (rank : P → Nat) : Prop where
  /-- When the first machine makes a step, the second waits, and the rank of the first falls, or it
  catches up with the first. -/
  step : ∀ {s t p}, R s t → s.status = .running p →
    (R (s.step move) t ∧ ∃ p', (s.step move).status = .running p' ∧ rank p' < rank p) ∨
      ∃ n, R (s.step move) (t.run move' (n + 1)) ∧
        (s.step move).events = (t.run move' (n + 1)).events
  /-- The second machine is running while the first is, and has shown no more. -/
  running : ∀ {s t p}, R s t → s.status = .running p →
    (∃ q, t.status = .running q) ∧ t.events <+: s.events
  /-- When the first machine has come to an end, both have returned. -/
  ended : ∀ {s t}, R s t → (∀ p, s.status ≠ .running p) → s.status = .returned ∧
    t.status = .returned ∧ s.events = t.events

namespace Simulation

variable {P Q : Type} {move : Move P} {move' : Move Q} {R : Config P → Config Q → Prop}
  {rank : P → Nat} {s : Config P} {t : Config Q}

/-- Whatever the first machine does, the second can follow. -/
theorem follows (h : Simulation move move' R rank) (hR : R s t) (m : Nat) :
    ∃ n, R (s.run move m) (t.run move' n) := by
  induction m with
  | zero => exact ⟨0, hR⟩
  | succ m ih =>
    obtain ⟨n, ih⟩ := ih
    rw [Nat.add_comm, Config.run_add, Config.run_one]
    rcases hs : (s.run move m).status with p | _ | _
    · rcases h.step ih hs with ⟨hk, -⟩ | ⟨k, hk, -⟩
      · exact ⟨n, hk⟩
      · exact ⟨k + 1 + n, by rwa [Config.run_add]⟩
    all_goals
      refine ⟨n, ?_⟩
      rw [← Config.run_one, Config.run_of_ended (by simp [hs])]
      exact ih

/-- The first machine does not run forever without the second catching up. -/
theorem advances (h : Simulation move move' R rank) {p : P} (hR : R s t)
    (hs : s.status = .running p) :
    ∃ m n, R (s.run move m) (t.run move' (n + 1)) ∧
      (s.run move m).events = (t.run move' (n + 1)).events := by
  induction hrank : rank p using Nat.strongRecOn generalizing s p with
  | ind r ih =>
    rcases h.step hR hs with ⟨hR', p', hp', hlt⟩ | ⟨n, hn⟩
    · obtain ⟨m, n, hmn⟩ := ih _ (hrank ▸ hlt) hR' hp' rfl
      exact ⟨m + 1, n, by rwa [Config.run_add, Config.run_one]⟩
    · exact ⟨1, n, hn⟩

/-- However far the second machine gets, the first can catch up. -/
theorem catches_up (h : Simulation move move' R rank) (hR : R s t) (n : Nat) :
    ∃ m n', n ≤ n' ∧ R (s.run move m) (t.run move' n') := by
  induction n with
  | zero => exact ⟨0, 0, Nat.le_refl 0, hR⟩
  | succ n ih =>
    obtain ⟨m, n', hle, ih⟩ := ih
    rcases hs : (s.run move m).status with p | _ | _
    · obtain ⟨k, l, hkl, -⟩ := h.advances ih hs
      refine ⟨k + m, (l + 1) + n', by omega, ?_⟩
      rwa [Config.run_add, Config.run_add]
    all_goals
      obtain ⟨-, ht, -⟩ := h.ended ih (by simp [hs])
      refine ⟨m, n' + 1, by omega, ?_⟩
      rw [Config.run_of_le_ended (by simp [ht]) (Nat.le_succ n')]
      exact ih

/-- When the second machine has come to an end, both have returned with the same events. -/
theorem returned_of_ended (h : Simulation move move' R rank) (hR : R s t) {n : Nat}
    (hn : ∀ q, (t.run move' n).status ≠ .running q) :
    ∃ m, (s.run move m).status = .returned ∧ (t.run move' n).status = .returned ∧
      (s.run move m).events = (t.run move' n).events := by
  obtain ⟨m, n', hle, hR'⟩ := h.catches_up hR n
  rw [Config.run_of_le_ended hn hle] at hR'
  refine ⟨m, h.ended hR' fun p hp => ?_⟩
  obtain ⟨⟨q, hq⟩, -⟩ := h.running hR' hp
  exact hn q hq

/-- Machines that start at related points have the same meaning. -/
theorem sameTrace (h : Simulation move move' R rank) (hR : R s t) :
    Config.SameTrace move s move' t where
  prefix_right m := by
    obtain ⟨n, hR'⟩ := h.follows hR m
    rcases hs : (s.run move m).status with p | _ | _
    · obtain ⟨k, l, -, heq⟩ := h.advances hR' hs
      refine ⟨l + 1 + n, ?_⟩
      rw [Config.run_add, ← heq]
      exact Config.events_run k
    all_goals
      obtain ⟨-, -, heq⟩ := h.ended hR' (by simp [hs])
      exact ⟨n, heq ▸ List.prefix_rfl⟩
  prefix_left n := by
    obtain ⟨m, n', hle, hR'⟩ := h.catches_up hR n
    refine ⟨m, (Config.events_run_of_le hle).trans ?_⟩
    rcases hs : (s.run move m).status with p | _ | _
    · exact (h.running hR' hs).2
    all_goals
      obtain ⟨-, -, heq⟩ := h.ended hR' (by simp [hs])
      exact heq ▸ List.prefix_rfl
  returned_iff events := by
    constructor
    · rintro ⟨m, hm⟩
      obtain ⟨n, hR'⟩ := h.follows hR m
      rw [hm] at hR'
      obtain ⟨-, ht, heq⟩ := h.ended hR' nofun
      exact ⟨n, congr (congrArg Config.mk ht) heq.symm⟩
    · rintro ⟨n, hn⟩
      obtain ⟨m, hs, -, heq⟩ := h.returned_of_ended hR (n := n) (by simp [hn])
      rw [hn] at heq
      exact ⟨m, congr (congrArg Config.mk hs) heq⟩
  not_stuck_left m hm := by
    obtain ⟨n, hR'⟩ := h.follows hR m
    obtain ⟨hs, -, -⟩ := h.ended hR' (by simp [hm])
    cases hm.symm.trans hs
  not_stuck_right n hn := by
    obtain ⟨m, -, ht, -⟩ := h.returned_of_ended hR (n := n) (by simp [hn])
    cases hn.symm.trans ht

end Simulation

end ShaderFlow
