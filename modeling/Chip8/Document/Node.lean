import Chip8.Document.Scalar

/-!
# Document nodes

The content of a structured document: scalars, lists and mappings, and how typed values are taken
from them.
-/

namespace Chip8.Document

/-- A part of a document. -/
inductive Node where
  /-- A scalar without quotes, which may stand for a value of any type or for its own text. -/
  | plain (text : String)
  /-- A scalar in quotes, which is always text. -/
  | quoted (text : String)
  /-- A scalar of a notation in which text is always quoted, so it is never text. -/
  | literal (text : String)
  | list (items : List Node)
  | mapping (entries : List (Node × Node))
  deriving Inhabited

namespace Node

/-- The node of a place where nothing is written. -/
def absent : Node := .plain ""

/-- Whether the node stands for nothing. -/
def isNull : Node → Bool
  | .plain text => Scalar.isNull text
  | .literal text => Scalar.isNull text
  | _ => false

/-- The characters of a scalar that may be text. -/
def text? : Node → Option String
  | .plain text => some text
  | .quoted text => some text
  | _ => none

/-- The integer of a scalar without quotes. -/
def int? : Node → Option Int
  | .plain text => Scalar.int? text
  | .literal text => Scalar.int? text
  | _ => none

/-- The integer of a scalar without quotes, if it is a 64-bit word. -/
def word? (node : Node) : Option Nat := do
  match ← node.int? with
  | .ofNat value => if value ≤ Numeral.wordLimit then some value else none
  | .negSucc _ => none

/-- The 64-bit word of a scalar that has no minus sign, not even before a zero. -/
def unsigned? : Node → Option Nat
  | .plain text => if text.toList.head? = some '-' then none else (Node.plain text).word?
  | .literal text => if text.toList.head? = some '-' then none else (Node.literal text).word?
  | _ => none

/-- A value that may be left out. -/
def optional? {α : Type} (read : Node → Option α) (node : Node) : Option (Option α) :=
  if node.isNull then some none else (read node).map some

/-- The items of a list; nothing at all is the empty list. -/
def items? : Node → Option (List Node)
  | .list items => some items
  | .plain text => if text.isEmpty then some [] else none
  | _ => none

/-- The named fields of a mapping whose keys are scalars; nothing at all is the empty mapping. -/
def fields? : Node → Option (List (String × Node))
  | .mapping entries => entries.mapM fun entry => entry.1.text?.map fun name => (name, entry.2)
  | .plain text => if text.isEmpty then some [] else none
  | _ => none

/-- Whether the node can be kept without knowing its type: its collections are nested no deeper
than the bound, and the integers among its scalars without quotes are not wide. -/
def isBounded : Nat → Node → Bool
  | _, .plain text => !Scalar.isWide text
  | depth + 1, .list items => items.all (isBounded depth)
  | depth + 1, .mapping entries =>
    entries.all fun entry => isBounded depth entry.1 && isBounded depth entry.2
  | 0, .list _ => false
  | 0, .mapping _ => false
  | _, _ => true

end Node

/-- The field with a name, or the default if there is none; a field given twice is refused. -/
def field? {α : Type} (fields : List (String × Node)) (name : String) (read : Node → Option α)
    (default : α) : Option α :=
  match fields.filter (·.1 == name) with
  | [] => some default
  | [found] => read found.2
  | _ => none

end Chip8.Document
