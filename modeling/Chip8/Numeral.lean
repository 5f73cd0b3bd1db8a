/-!
# Numerals

The number forms of messages, listings and command lines: hexadecimal numerals of a least width,
and decimal numerals up to a limit.
-/

namespace Chip8.Numeral

/-- The value of a digit in the given base, for bases up to sixteen. -/
def digit? (base : Nat) (char : Char) : Option Nat :=
  let value? :=
    if '0' ≤ char ∧ char ≤ '9' then some (char.toNat - '0'.toNat)
    else if 'a' ≤ char ∧ char ≤ 'f' then some (char.toNat - 'a'.toNat + 10)
    else if 'A' ≤ char ∧ char ≤ 'F' then some (char.toNat - 'A'.toNat + 10)
    else none
  value?.filter (· < base)

/-- The number written by digits of the given base, most significant first; at least one digit. -/
def ofDigits? (base : Nat) : List Char → Option Nat
  | [] => none
  | digits => digits.foldlM (fun value char => (digit? base char).map (value * base + ·)) 0

/-- The number of 32-bit words. -/
def span32 : Nat := 0x100000000

/-- The number of 64-bit words. -/
def span64 : Nat := 0x10000000000000000

/-- The number of 128-bit words. -/
def span128 : Nat := 0x100000000000000000000000000000000

/-- The largest value of a 64-bit word. -/
def wordLimit : Nat := span64 - 1

/-- Reads an optional plus sign and decimal digits, up to the limit of a 64-bit word. -/
def decimal? (text : String) : Option Nat :=
  let digits :=
    match text.toList with
    | '+' :: digits => digits
    | digits => digits
  (ofDigits? 10 digits).filter (· ≤ wordLimit)

/-- The digits with zeros in front, up to the given width. -/
def padded (width : Nat) (digits : List Char) : String :=
  String.ofList (digits.leftpad width '0')

/-- The upper case hexadecimal numeral of at least the given width. -/
def hex (width value : Nat) : String :=
  padded width ((Nat.toDigits 16 value).map Char.toUpper)

/-- The lower case hexadecimal numeral of at least the given width. -/
def lowerHex (width value : Nat) : String :=
  padded width (Nat.toDigits 16 value)

end Chip8.Numeral
