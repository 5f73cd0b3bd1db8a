import Chip8.Fault

/-!
# Keypad

The sixteen keys of the hexadecimal keypad and the set of those that are held down, kept as one bit
for each key.
-/

namespace Chip8

/-- A key of the keypad, by its index. -/
abbrev Key := Fin 16

namespace Key

/-- The key with an index, which must be below sixteen. -/
def ofIndex (index : Nat) : Except Fault Key :=
  if h : index < 16 then .ok ⟨index, h⟩ else .error (.invalidKey index)

/-- Every key, by index. -/
def all : List Key := List.finRange 16

/-- The short name, such as `ka`. -/
def name (key : Key) : String := "k" ++ Numeral.lowerHex 1 key.val

/-- The diagnostic form, such as `KeyA`. -/
def diagnostic (key : Key) : String := "Key" ++ Numeral.hex 1 key.val

end Key

/-- The set of held keys: bit `k` is set while key `k` is down. -/
structure Keypad where
  bits : BitVec 16
  deriving DecidableEq

namespace Keypad

/-- No key is held. -/
def released : Keypad := ⟨0⟩

instance : Inhabited Keypad := ⟨released⟩

/-- The bit of one key. -/
def bit (key : Key) : BitVec 16 := 1#16 <<< key.val

/-- Holds a key down. -/
def press (keypad : Keypad) (key : Key) : Keypad := ⟨keypad.bits ||| bit key⟩

/-- Lets a key go. -/
def release (keypad : Keypad) (key : Key) : Keypad := ⟨keypad.bits &&& ~~~bit key⟩

/-- Sets whether a key is held. -/
def set (keypad : Keypad) (key : Key) (pressed : Bool) : Keypad :=
  if pressed then keypad.press key else keypad.release key

/-- Whether the key with an index is held; indices above fifteen never are. -/
def isPressed (keypad : Keypad) (index : Nat) : Bool :=
  if h : index < 16 then keypad.bits &&& bit ⟨index, h⟩ != 0 else false

/-- Whether any key is held. -/
def any (keypad : Keypad) : Bool := keypad.bits != 0

/-- The held key of lowest index. -/
def first? (keypad : Keypad) : Option Key :=
  if keypad.any then Key.all.find? (fun key => keypad.isPressed key.val) else none

end Keypad

end Chip8
