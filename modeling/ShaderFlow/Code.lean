/-!
# Numeric codes

Opcodes, register files, system values and the other enumerations of the token format are stored as
32-bit numbers. A type of such codes lists the numbers it knows and keeps every other number as an
unlisted value, so reading a number never fails and never forgets it (`Coded.raw_ofRaw`).
-/

namespace ShaderFlow

/-- The ways in which one value of an enumeration is written. -/
structure Code where
  /-- Number in the token format. -/
  raw : UInt32
  /-- Assembly name; every unlisted value has the same one. -/
  name : String
  /-- Text in messages, which tells unlisted values apart. -/
  text : String
  /-- Identifier in structural dumps. -/
  ident : String

/-- The code of a listed value: messages use the assembly name. -/
def Code.listed (raw : UInt32) (name ident : String) : Code :=
  { raw, name, text := name, ident }

/-- The code of a number that the enumeration does not list. -/
def Code.unlisted (raw : UInt32) : Code :=
  { raw, name := "unknown", text := s!"unknown({raw})", ident := s!"Unknown({raw})" }

/-- An enumeration of the token format. -/
class Coded (α : Type) where
  /-- The values that have a number of their own. -/
  listed : List α
  /-- The value that stands for a number outside the list. -/
  unlisted : UInt32 → α
  /-- How a value is written. -/
  code : α → Code
  /-- An unlisted value keeps its number. -/
  raw_unlisted : ∀ raw, (code (unlisted raw)).raw = raw := by intro _; rfl

namespace Coded

variable {α : Type} [Coded α]

/-- The value with a given number: the listed one if there is one, else the unlisted value. -/
def ofRaw (raw : UInt32) : α :=
  ((listed : List α).find? fun a => (code a).raw == raw).getD (unlisted raw)

/-- The number of a value. -/
def raw (a : α) : UInt32 := (code a).raw

/-- The assembly name of a value. -/
def name (a : α) : String := (code a).name

/-- The text of a value in messages. -/
def text (a : α) : String := (code a).text

/-- The identifier of a value in structural dumps. -/
def ident (a : α) : String := (code a).ident

/-- Reading a number and writing it again gives the same number, listed or not. -/
theorem raw_ofRaw (n : UInt32) : raw (ofRaw n : α) = n := by
  unfold raw ofRaw
  cases h : (listed : List α).find? fun a => (code a).raw == n with
  | none => exact raw_unlisted n
  | some a =>
    have hraw := List.find?_some h
    exact beq_iff_eq.1 hraw

end Coded

end ShaderFlow
