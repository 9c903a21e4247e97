import ShaderFlow.Text.Unassigned

/-!
# Printable characters

A character is printable if it shows something of its own. Controls, format characters, characters
for private use, separators and fillers do not, and neither do code points without a character; of
the separators only the plain blank counts as printable. The tables follow Unicode 17.0.
-/

namespace ShaderFlow

/-- Control characters: the general category `Cc`. -/
def controls : CharTable := [(0x0, 0x1f), (0x7f, 0x9f)]

/-- Characters that only direct the layout: the general category `Cf`. -/
def formats : CharTable :=
  [(0xad, 0xad), (0x600, 0x605), (0x61c, 0x61c), (0x6dd, 0x6dd), (0x70f, 0x70f), (0x890, 0x891),
   (0x8e2, 0x8e2), (0x180e, 0x180e), (0x200b, 0x200f), (0x202a, 0x202e), (0x2060, 0x2064),
   (0x2066, 0x206f), (0xfeff, 0xfeff), (0xfff9, 0xfffb), (0x110bd, 0x110bd), (0x110cd, 0x110cd),
   (0x13430, 0x1343f), (0x1bca0, 0x1bca3), (0x1d173, 0x1d17a), (0xe0001, 0xe0001),
   (0xe0020, 0xe007f)]

/-- Characters for private use: the general category `Co`. -/
def privateUse : CharTable := [(0xe000, 0xf8ff), (0xf0000, 0xffffd), (0x100000, 0x10fffd)]

/-- Separators other than the plain blank: the general categories `Zs`, `Zl` and `Zp`. -/
def separators : CharTable :=
  [(0xa0, 0xa0), (0x1680, 0x1680), (0x2000, 0x200a), (0x2028, 0x2029), (0x202f, 0x202f),
   (0x205f, 0x205f), (0x3000, 0x3000)]

/-- Letters that stand for a missing part of a syllable and are not drawn: the letters with the
property `Default_Ignorable_Code_Point`. -/
def fillers : CharTable := [(0x115f, 0x1160), (0x3164, 0x3164), (0xffa0, 0xffa0)]

/-- Whether a character shows something of its own. -/
def isPrintable (c : Char) : Bool :=
  !(controls.contains c || formats.contains c || privateUse.contains c || separators.contains c ||
    fillers.contains c || unassigned.contains c)

end ShaderFlow
