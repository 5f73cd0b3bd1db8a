import Chip8.Document.Node
import Chip8.Document.Token

/-!
# Nodes of tokens

Builds the content of a document from its tokens. What a collection may hold depends on the place
of a node: block collections stand only in block collections, and a list may stand in the column of
the mapping that it belongs to.

The functions carry a bound on their recursion, which the number of tokens never exhausts.
-/

namespace Chip8.Document

/-- Where a node stands. -/
inductive Place where
  /-- In a flow collection. -/
  | flow
  /-- In a block list, or at the top of a document. -/
  | item
  /-- In a block mapping. -/
  | entry
  deriving DecidableEq, Repr

/-- Whether a node starts with the first of the tokens. -/
def startsNode (place : Place) : List Token → Bool
  | .plain _ :: _ => true
  | .quoted _ :: _ => true
  | .flowListStart :: _ => true
  | .flowMappingStart :: _ => true
  | .listStart :: _ => place != .flow
  | .mappingStart :: _ => place != .flow
  | .item :: _ => place == .entry
  | _ => false

mutual

/-- Reads a node. -/
def node? : Nat → Place → List Token → Option (Node × List Token)
  | 0, _, _ => none
  | fuel + 1, place, tokens =>
    if !startsNode place tokens then none
    else
      match tokens with
      | .plain text :: rest => some (.plain text, rest)
      | .quoted text :: rest => some (.quoted text, rest)
      | .flowListStart :: rest => flowItems? fuel [] rest
      | .flowMappingStart :: rest => flowEntries? fuel [] rest
      | .listStart :: rest => items? fuel false [] rest
      | .mappingStart :: rest => entries? fuel [] rest
      | .item :: _ => items? fuel true [] tokens
      | _ => none

/-- Reads a node that may be left out. -/
def nodeOrAbsent? : Nat → Place → List Token → Option (Node × List Token)
  | 0, _, _ => none
  | fuel + 1, place, tokens =>
    if startsNode place tokens then node? fuel place tokens else some (.absent, tokens)

/-- Reads what belongs to a key: a value that follows a colon, or nothing. -/
def value? : Nat → Place → List Token → Option (Node × List Token)
  | 0, _, _ => none
  | fuel + 1, place, tokens =>
    match tokens with
    | .value :: rest => nodeOrAbsent? fuel place rest
    | _ => some (.absent, tokens)

/-- Reads the rest of a block list. A list in the column of the mapping that it belongs to has no
end of its own. -/
def items? : Nat → (inEntry : Bool) → List Node → List Token → Option (Node × List Token)
  | 0, _, _, _ => none
  | fuel + 1, inEntry, items, tokens =>
    match tokens with
    | .item :: rest => do
      let (item, rest) ← nodeOrAbsent? fuel .item rest
      items? fuel inEntry (item :: items) rest
    | .blockEnd :: rest =>
      some (.list items.reverse, if inEntry then tokens else rest)
    | _ => if inEntry then some (.list items.reverse, tokens) else none

/-- Reads the rest of a block mapping. -/
def entries? : Nat → List (Node × Node) → List Token → Option (Node × List Token)
  | 0, _, _ => none
  | fuel + 1, entries, tokens =>
    match tokens with
    | .key :: rest => do
      let (key, rest) ← nodeOrAbsent? fuel .entry rest
      let (value, rest) ← value? fuel .entry rest
      entries? fuel ((key, value) :: entries) rest
    | .blockEnd :: rest => some (.mapping entries.reverse, rest)
    | _ => none

/-- Reads the rest of a flow list. An item with a key is a mapping of one entry; if the key is left
out, the token that stands in its place is passed over. -/
def flowItems? : Nat → List Node → List Token → Option (Node × List Token)
  | 0, _, _ => none
  | fuel + 1, items, tokens => do
    if let .flowListEnd :: rest := tokens then return (.list items.reverse, rest)
    let (item, rest) ←
      match tokens with
      | .key :: inner => do
        let (key, rest) ←
          match inner with
          | .value :: rest => some (.absent, rest)
          | .separator :: rest => some (.absent, rest)
          | .flowListEnd :: rest => some (.absent, rest)
          | _ => node? fuel .flow inner
        let (value, rest) ← value? fuel .flow rest
        some (.mapping [(key, value)], rest)
      | _ => node? fuel .flow tokens
    match rest with
    | .separator :: rest => flowItems? fuel (item :: items) rest
    | .flowListEnd :: rest => return (.list (item :: items).reverse, rest)
    | _ => none

/-- Reads the rest of a flow mapping. An entry without a colon has no value. -/
def flowEntries? : Nat → List (Node × Node) → List Token → Option (Node × List Token)
  | 0, _, _ => none
  | fuel + 1, entries, tokens => do
    if let .flowMappingEnd :: rest := tokens then return (.mapping entries.reverse, rest)
    let (entry, rest) ←
      match tokens with
      | .key :: inner => do
        let (key, rest) ← nodeOrAbsent? fuel .flow inner
        let (value, rest) ← value? fuel .flow rest
        some ((key, value), rest)
      | _ => (node? fuel .flow tokens).map fun found => ((found.1, .absent), found.2)
    match rest with
    | .separator :: rest => flowEntries? fuel (entry :: entries) rest
    | .flowMappingEnd :: rest => return (.mapping (entry :: entries).reverse, rest)
    | _ => none

end

/-- The content of a document that is the only one among the tokens. -/
def Node.ofTokens? (tokens : List Token) : Option Node := do
  let fuel := 4 * tokens.length + 4
  let (node, rest) ←
    match tokens with
    | [] => some (.absent, [])
    | .documentStart :: rest => nodeOrAbsent? fuel .item rest
    | _ => node? fuel .item tokens
  if rest.all (· == .documentEnd) then some node else none

end Chip8.Document
