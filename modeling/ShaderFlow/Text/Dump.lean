import ShaderFlow.Text.GraphemeExtend
import ShaderFlow.Text.Printable

/-!
# Structural text

A dump writes a value as the expression that would build it: `Name`, `Name(a, b)`,
`Name { field: value }`, `[a, b]`, quoted strings and decimal numbers.
-/

namespace ShaderFlow

/-- Types whose values have a structural text. -/
class Dump (α : Type) where
  /-- The structural text of a value. -/
  dump : α → String

export Dump (dump)

namespace Dump

/-- Texts in brackets, with a comma and a blank between them. -/
def list (items : List String) : String :=
  "[" ++ ", ".intercalate items ++ "]"

/-- A constructor with positional arguments. -/
def tuple (name : String) (args : List String) : String :=
  name ++ "(" ++ ", ".intercalate args ++ ")"

/-- A constructor with named fields. -/
def record (name : String) (fields : List (String × String)) : String :=
  let body := ", ".intercalate (fields.map fun (field, value) => field ++ ": " ++ value)
  name ++ " \x7b " ++ body ++ " \x7d"

/-- A number in lower-case hexadecimal, without padding. -/
def hex (n : Nat) : String := String.ofList (Nat.toDigits 16 n)

/-- A character by its code point. -/
def codePoint (c : Char) : String := "\\u\x7b" ++ hex c.toNat ++ "\x7d"

/-- One character inside double quotes. Quotes, backslashes and the common controls have short
escapes. A character that would not be seen, or would be drawn on the one before it, is given by its
code point; every other character stands for itself. -/
def quotedChar (c : Char) : String :=
  if c = '"' then "\\\""
  else if c = '\\' then "\\\\"
  else if c = '\n' then "\\n"
  else if c = '\r' then "\\r"
  else if c = '\t' then "\\t"
  else if c = '\x00' then "\\0"
  else if isCombining c || !isPrintable c then codePoint c
  else String.singleton c

/-- A string in double quotes. -/
def quoted (s : String) : String :=
  "\"" ++ String.join (s.toList.map quotedChar) ++ "\""

instance : Dump Nat := ⟨toString⟩

instance : Dump UInt8 := ⟨toString⟩

instance : Dump UInt32 := ⟨toString⟩

instance : Dump Bool := ⟨fun b => if b then "true" else "false"⟩

instance : Dump String := ⟨quoted⟩

instance {α : Type} [Dump α] : Dump (List α) := ⟨fun as => list (as.map dump)⟩

instance {α : Type} [Dump α] : Dump (Option α) :=
  ⟨fun
    | none => "None"
    | some a => tuple "Some" [dump a]⟩

end Dump

end ShaderFlow
