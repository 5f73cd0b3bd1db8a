import Chip8.Numeral

/-!
# Scalars

What the characters of an unquoted scalar stand for: nothing, a truth value, an integer, or any
other text.
-/

namespace Chip8.Document.Scalar

/-- Whether the scalar is empty or one of the spellings of nothing. -/
def isNull (text : String) : Bool := text ∈ ["", "~", "null", "Null", "NULL"]

/-- The truth value that the scalar spells. -/
def bool? (text : String) : Option Bool :=
  if text ∈ ["true", "True", "TRUE"] then some true
  else if text ∈ ["false", "False", "FALSE"] then some false
  else none

/-- The number of digits with a base mark, or of decimal digits without a leading zero. -/
def magnitude? : List Char → Option Nat
  | '0' :: 'x' :: digits => Numeral.ofDigits? 16 digits
  | '0' :: 'o' :: digits => Numeral.ofDigits? 8 digits
  | '0' :: 'b' :: digits => Numeral.ofDigits? 2 digits
  | ['0'] => some 0
  | '0' :: _ => none
  | digits => Numeral.ofDigits? 10 digits

/-- The integer that the scalar spells, with an optional sign. -/
def int? (text : String) : Option Int :=
  match text.toList with
  | '+' :: digits => (magnitude? digits).map Int.ofNat
  | '-' :: digits => (magnitude? digits).map fun value => -Int.ofNat value
  | digits => (magnitude? digits).map Int.ofNat

/-- Whether the scalar spells an integer of more than 64 bits, but of no more than 128. -/
def isWide (text : String) : Bool :=
  match int? text with
  | some (.ofNat value) => Numeral.span64 ≤ value && value < Numeral.span128
  | some (.negSucc value) => Numeral.span64 / 2 ≤ value && value < Numeral.span128 / 2
  | none => false

end Chip8.Document.Scalar
