import Chip8.Document.Grammar
import Chip8.Document.Lexer

/-!
# Reading documents

Reads one YAML document: block and flow collections, comments, and plain, single quoted and double
quoted scalars. `read?` refuses every text that is not a well formed document of this kind.
-/

namespace Chip8.Document

/-- The characters that a document may hold. -/
def isAllowed (char : Char) : Bool :=
  let code := char.toNat
  code == 0x09 || code == 0x0A || code == 0x0D || (0x20 ≤ code && code ≤ 0x7E) || code == 0x85
    || (0xA0 ≤ code && code ≤ 0xFFFD) || 0x10000 ≤ code

/-- The content of a text that is one document. -/
def read? (text : String) : Option Node := do
  guard (text.toList.all isAllowed)
  Node.ofTokens? (← Token.listOfText? (normalized text.toList))

end Chip8.Document
