import Std.Data.ExtTreeMap

/-!
# Maps keyed by register numbers

Registers, ranges and case labels are 32-bit numbers. A map from them lists its entries by
ascending number, and two maps with the same entries are equal.
-/

namespace ShaderFlow

/-- A finite map from 32-bit numbers, in ascending order of the number. -/
abbrev IdMap (α : Type) := Std.ExtTreeMap UInt32 α

end ShaderFlow
