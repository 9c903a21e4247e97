import ShaderFlow.Text.Dump

/-!
# Groups of four

Registers have four components, so swizzles, immediates, constant rows and component types come in
groups of four.
-/

namespace ShaderFlow

/-- One value per component of a register. -/
structure Quad (α : Type) where
  x : α
  y : α
  z : α
  w : α
  deriving DecidableEq

namespace Quad

/-- The same value in each component. -/
def all {α : Type} (a : α) : Quad α := ⟨a, a, a, a⟩

/-- The components in order. -/
def toList {α : Type} (q : Quad α) : List α := [q.x, q.y, q.z, q.w]

/-- A list cut into groups of four; one to three values left over at the end are dropped. -/
def rows {α : Type} : List α → List (Quad α)
  | x :: y :: z :: w :: rest => ⟨x, y, z, w⟩ :: rows rest
  | _ => []

/-- The rows of a list that divides into groups of four hold exactly its values. -/
theorem flatMap_toList_rows {α : Type} (as : List α) (h : as.length % 4 = 0) :
    (rows as).flatMap toList = as := by
  fun_induction rows as with
  | case1 x y z w rest ih =>
    have hrest : rest.length % 4 = 0 := by
      simp only [List.length_cons] at h
      omega
    simp [toList, ih hrest]
  | case2 as hshort =>
    match as, h, hshort with
    | [], _, _ => rfl
    | x :: y :: z :: w :: rest, _, hshort => exact absurd rfl (hshort x y z w rest)

instance {α : Type} [Dump α] : Dump (Quad α) := ⟨fun q => dump q.toList⟩

end Quad

end ShaderFlow
