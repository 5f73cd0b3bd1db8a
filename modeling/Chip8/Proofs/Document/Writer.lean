import Chip8.Document.Node
import Chip8.Document.Token

/-!
# Writing documents

A spelling of nodes in flow style: texts stand in double quotes, with escapes for all characters
but those of words, and every key of a mapping has a mark. Scalars without quotes are words.
-/

namespace Chip8.Document

/-- The characters of which words are made. -/
def isWordChar (char : Char) : Bool := char.isAlphanum || char == '_'

/-- Whether a text can stand without quotes everywhere. -/
def isWord (text : String) : Bool := !text.toList.isEmpty && text.toList.all isWordChar

/-- A character within quotes: itself in words, else an escape by its code. -/
def escape (char : Char) : List Char :=
  if isWordChar char then [char] else '\\' :: 'U' :: (Numeral.lowerHex 8 char.toNat).toList

/-- A reader goes on behind a condition that holds. -/
theorem guard_bind {α : Type} {condition : Prop} [Decidable condition] (holds : condition)
    (next : Unit → Option α) : Option.bind (guard condition) next = next () := by
  have granted : (guard condition : Option Unit) = some () := if_pos holds
  rw [granted, Option.bind_some]

/-! ## Nodes that have a spelling -/

mutual

/-- Whether the scalars without quotes in a node are words. -/
def Node.isWritable : Node → Bool
  | .plain text => isWord text
  | .quoted _ => true
  | .literal _ => false
  | .list items => areWritable items
  | .mapping entries => areWritableEntries entries

def areWritable : List Node → Bool
  | [] => true
  | item :: rest => item.isWritable && areWritable rest

def areWritableEntries : List (Node × Node) → Bool
  | [] => true
  | (key, value) :: rest => key.isWritable && value.isWritable && areWritableEntries rest

end

theorem areWritable_map {α : Type} {write : α → Node} (values : List α)
    (writable : ∀ value, (write value).isWritable = true) :
    areWritable (values.map write) = true := by
  induction values with
  | nil => rfl
  | cons value values ih =>
    rw [List.map_cons, areWritable, writable, ih]
    rfl

/-! ## Spelling -/

mutual

/-- The tokens of a node. -/
def Node.tokens : Node → List Token
  | .plain text => [.plain text]
  | .quoted text => [.quoted text]
  | .literal text => [.plain text]
  | .list items => .flowListStart :: itemTokens items ++ [.flowListEnd]
  | .mapping entries => .flowMappingStart :: entryTokens entries ++ [.flowMappingEnd]

def itemTokens : List Node → List Token
  | [] => []
  | item :: rest => item.tokens ++ .separator :: itemTokens rest

def entryTokens : List (Node × Node) → List Token
  | [] => []
  | (key, value) :: rest =>
    .key :: (key.tokens ++ .value :: (value.tokens ++ .separator :: entryTokens rest))

end

mutual

/-- The characters of a node. -/
def Node.chars : Node → List Char
  | .plain text => text.toList
  | .quoted text => '"' :: (text.toList.flatMap escape ++ ['"'])
  | .literal text => text.toList
  | .list items => '[' :: (itemChars items ++ [']'])
  | .mapping entries => '\x7b' :: (entryChars entries ++ ['\x7d'])

def itemChars : List Node → List Char
  | [] => []
  | item :: rest => ' ' :: (item.chars ++ ',' :: itemChars rest)

def entryChars : List (Node × Node) → List Char
  | [] => []
  | (key, value) :: rest =>
    ' ' :: '?' :: ' ' :: (key.chars ++ ':' :: ' ' :: (value.chars ++ ',' :: entryChars rest))

end

/-- The text of a node. -/
def Node.document (node : Node) : String := String.ofList node.chars

end Chip8.Document
