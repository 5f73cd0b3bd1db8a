import Chip8.Numeral
import Chip8.Text.Hidden

/-!
# Text

Quoted text as it stands in diagnostic output, trimming of blank characters, and text by its lines.
-/

namespace Chip8.Text

/-- The characters of the Unicode property `White_Space`. -/
def isBlank (char : Char) : Bool :=
  let code := char.toNat
  (0x09 ≤ code && code ≤ 0x0D) || code == 0x20 || code == 0x85 || code == 0xA0 || code == 0x1680
    || (0x2000 ≤ code && code ≤ 0x200A) || code == 0x2028 || code == 0x2029 || code == 0x202F
    || code == 0x205F || code == 0x3000

/-- The text without blank characters at either end. -/
def trim (text : String) : String :=
  String.ofList ((text.toList.dropWhile isBlank).reverse.dropWhile isBlank).reverse

/-- Lines of text, each with its line end. -/
def lines (lines : List String) : String := String.join (lines.map (· ++ "\n"))

/-- One character of quoted text. -/
def escape (char : Char) : List Char :=
  match char with
  | '"' => ['\\', '"']
  | '\\' => ['\\', '\\']
  | '\n' => ['\\', 'n']
  | '\r' => ['\\', 'r']
  | '\t' => ['\\', 't']
  | '\x00' => ['\\', '0']
  | char =>
    if isHidden char then
      ['\\', 'u', '\x7b'] ++ (Numeral.lowerHex 1 char.toNat).toList ++ ['\x7d']
    else [char]

/-- The text between double quotes, with quotes, backslashes and hidden characters escaped. -/
def quoted (text : String) : String :=
  String.ofList (['"'] ++ text.toList.flatMap escape ++ ['"'])

end Chip8.Text
