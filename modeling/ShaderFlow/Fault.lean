/-!
# Faults

A program is refused either because it breaks the rules of the format or because it uses a part of
the format that is not handled. Checks that only look at an instruction are values of `Except`;
steps that change a state run in `EStateM`, whose state survives a refusal, and take over the
refusals of the checks they make.
-/

namespace ShaderFlow

/-- Why a program is refused. -/
inductive FaultKind where
  /-- The program breaks the rules of the format. -/
  | malformed
  /-- The program uses a part of the format that is not handled. -/
  | unsupported
  deriving DecidableEq

/-- The name of a kind of fault. -/
def FaultKind.name : FaultKind → String
  | .malformed => "Malformed"
  | .unsupported => "Unsupported"

section

variable {ε α : Type} {m : Type → Type} [Monad m] [MonadExcept ε m]

/-- The value, or the fault if there is none. -/
def orFault (value : Option α) (fault : ε) : m α :=
  match value with
  | some a => pure a
  | none => throw fault

/-- Refuses unless the condition holds. -/
def require (condition : Prop) [Decidable condition] (fault : ε) : m Unit :=
  if condition then pure () else throw fault

end

/-- A check made by a step leaves the state as it is. -/
instance instMonadLiftExcept {ε σ : Type} : MonadLift (Except ε) (EStateM ε σ) where
  monadLift
    | .ok a => pure a
    | .error fault => throw fault

section

variable {ε σ α β : Type} {s s' : σ}

/-- After a step that succeeds, the next one runs in the state it left. -/
theorem bind_of_ok {x : EStateM ε σ α} {f : α → EStateM ε σ β} {a : α} (h : x s = .ok a s') :
    (x >>= f) s = f a s' := by
  simp only [bind, EStateM.bind, h]

/-- After a step that is refused, nothing more happens. -/
theorem bind_of_error {x : EStateM ε σ α} {f : α → EStateM ε σ β} {e : ε}
    (h : x s = .error e s') : (x >>= f) s = .error e s' := by
  simp only [bind, EStateM.bind, h]

/-- A check that succeeds gives its value and leaves the state. -/
@[simp] theorem lift_ok (a : α) : (liftM (Except.ok a : Except ε α) : EStateM ε σ α) s = .ok a s :=
  rfl

/-- A check that fails leaves the state. -/
@[simp] theorem lift_error (e : ε) :
    (liftM (Except.error e : Except ε α) : EStateM ε σ α) s = .error e s :=
  rfl

/-- A condition only decides whether to go on. -/
theorem require_apply (p : Prop) [Decidable p] (e : ε) :
    (require p e : EStateM ε σ Unit) s = if p then .ok () s else .error e s := by
  unfold require
  split <;> rfl

/-- A value that is there is taken. -/
@[simp] theorem orFault_some (a : α) (e : ε) : (orFault (some a) e : EStateM ε σ α) s = .ok a s :=
  rfl

/-- A value that is missing is a fault. -/
@[simp] theorem orFault_none (e : ε) : (orFault none e : EStateM ε σ α) s = .error e s :=
  rfl

end

end ShaderFlow
