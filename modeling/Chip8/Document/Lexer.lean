import Chip8.Document.Token

/-!
# Token lists

Divides the text of a document into tokens. Block collections are given by columns: a collection
starts with the first token that stands further right than the collections around it, and ends
before the first one that stands further left. A key is told from other content by the colon behind
it, so the tokens that start a mapping and a key are put in front of what was read before the colon.
-/

namespace Chip8.Document

/-- The farthest that a colon may stand behind the start of its key, in bytes. -/
def keyReach : Nat := 1024

/-- The place of a scalar or flow collection that is a key if a colon follows it. -/
structure Candidate where
  /-- The number of tokens before it. -/
  index : Nat
  start : Cursor
  /-- Whether nothing but a key may stand there. -/
  required : Bool

namespace Candidate

/-- Whether a colon at a cursor is too far away, or on another line. -/
def isStale (candidate : Candidate) (cursor : Cursor) : Bool :=
  candidate.start.line < cursor.line || candidate.start.offset + keyReach < cursor.offset

/-- The candidate if it may still be a key at a cursor; a required key that may not is refused. -/
def kept? (cursor : Cursor) : Option Candidate → Option (Option Candidate)
  | none => some none
  | some candidate =>
    if !candidate.isStale cursor then some (some candidate)
    else if candidate.required then none
    else some none

end Candidate

/-- The state of reading tokens. -/
structure Lexer where
  cursor : Cursor
  /-- The tokens that were read, the most recent first. -/
  tokens : List Token := []
  /-- Whether a key or an item may start at the cursor. -/
  keyAllowed : Bool := true
  candidate? : Option Candidate := none
  /-- The candidates outside of each open flow collection, the innermost first. -/
  outer : List (Option Candidate) := []
  /-- The columns of the open block collections, the innermost first. -/
  columns : List Nat := []

namespace Lexer

/-- Whether a flow collection is open. -/
def inFlow (lexer : Lexer) : Bool := !lexer.outer.isEmpty

/-- The least column further right than the innermost block collection. -/
def floor (lexer : Lexer) : Nat :=
  match lexer.columns with
  | [] => 0
  | column :: _ => column + 1

/-! ## Changes of the token list -/

/-- Passes characters that are a token. -/
def pass (lexer : Lexer) (count : Nat) (token : Token) (keyAllowed : Bool) : Lexer :=
  { lexer with
    cursor := lexer.cursor.drop count
    tokens := token :: lexer.tokens
    keyAllowed }

/-- Puts a token behind the first ones, as many as the index says. -/
def insert (lexer : Lexer) (index : Nat) (token : Token) : Lexer :=
  let later := lexer.tokens.length - index
  { lexer with tokens := lexer.tokens.take later ++ token :: lexer.tokens.drop later }

/-- Opens a block collection in a column, unless one that is open reaches as far. -/
def openBlock (lexer : Lexer) (column index : Nat) (token : Token) : Lexer :=
  if lexer.inFlow || column < lexer.floor then lexer
  else { lexer.insert index token with columns := column :: lexer.columns }

/-- Opens a block collection at the cursor. -/
def openBlockHere (lexer : Lexer) (token : Token) : Lexer :=
  lexer.openBlock lexer.cursor.column lexer.tokens.length token

/-- Closes block collections from the innermost on, as long as their columns are as asked for. -/
def closeBlocks (lexer : Lexer) (closes : Nat → Bool) : Lexer :=
  if lexer.inFlow then lexer
  else
    let closed := lexer.columns.takeWhile closes
    { lexer with
      tokens := closed.map (fun _ => .blockEnd) ++ lexer.tokens
      columns := lexer.columns.dropWhile closes }

/-- Gives up the candidate, which must not be required. -/
def withoutCandidate? (lexer : Lexer) : Option Lexer :=
  if lexer.candidate?.any (·.required) then none else some { lexer with candidate? := none }

/-- Makes what starts at the cursor the candidate, if a key may start there. -/
def withCandidate? (lexer : Lexer) : Option Lexer :=
  if lexer.keyAllowed then
    let required := !lexer.inFlow && lexer.columns.head? == some lexer.cursor.column
    let candidate : Candidate := ⟨lexer.tokens.length, lexer.cursor, required⟩
    lexer.withoutCandidate?.map ({ · with candidate? := some candidate })
  else some lexer

/-! ## Blanks -/

/-- Whether a character in front of a token is passed over; a comment reaches to the end of its
line. Tabs are blank in flow collections and where no key may start, but they do not indent. A byte
order mark may start a line. -/
def isSkipped (lexer : Lexer) (inComment : Bool) (char : Char) : Bool :=
  inComment || char == ' ' || (char == '\t' && (lexer.inFlow || !lexer.keyAllowed))
    || (char == '\uFEFF' && lexer.cursor.column == 0)

/-- Passes blanks, comments and ends of lines up to the next token. -/
def skip : List Char → (inComment : Bool) → Lexer → Lexer
  | [], _, lexer => lexer
  | char :: rest, inComment, lexer =>
    let passed := { lexer with cursor := lexer.cursor.tail }
    if isBreak char then
      skip rest false { passed with keyAllowed := lexer.keyAllowed || !lexer.inFlow }
    else if lexer.isSkipped inComment char then skip rest inComment passed
    else if char == '#' then skip rest true passed
    else lexer

/-- Goes to the next token, and closes the block collections that it does not belong to. -/
def advance? (lexer : Lexer) : Option Lexer := do
  let lexer := skip lexer.cursor.rest false lexer
  let candidate? ← Candidate.kept? lexer.cursor lexer.candidate?
  let outer ← lexer.outer.mapM (Candidate.kept? lexer.cursor)
  return { lexer with candidate?, outer }.closeBlocks (lexer.cursor.column < ·)

/-! ## Tokens -/

/-- Reads the mark that starts or ends a document. -/
def boundary? (lexer : Lexer) (token : Token) : Option Lexer :=
  (lexer.closeBlocks fun _ => true).withoutCandidate?.map (·.pass 3 token false)

/-- Reads the bracket that opens a flow collection. -/
def openFlow? (lexer : Lexer) (token : Token) : Option Lexer := do
  let lexer ← lexer.withCandidate?
  return { lexer.pass 1 token true with
    candidate? := none, outer := lexer.candidate? :: lexer.outer }

/-- Reads the bracket that closes a flow collection. -/
def closeFlow? (lexer : Lexer) (token : Token) : Option Lexer := do
  let lexer := (← lexer.withoutCandidate?).pass 1 token false
  match lexer.outer with
  | [] => return lexer
  | candidate? :: outer => return { lexer with candidate?, outer }

/-- Reads the separator of a flow collection. -/
def separator? (lexer : Lexer) : Option Lexer :=
  lexer.withoutCandidate?.map (·.pass 1 .separator true)

/-- Reads the mark of an item. -/
def item? (lexer : Lexer) : Option Lexer := do
  guard (lexer.inFlow || lexer.keyAllowed)
  return (← (lexer.openBlockHere .listStart).withoutCandidate?).pass 1 .item true

/-- Reads the mark of a key. -/
def key? (lexer : Lexer) : Option Lexer := do
  guard (lexer.inFlow || lexer.keyAllowed)
  return (← (lexer.openBlockHere .mappingStart).withoutCandidate?).pass 1 .key !lexer.inFlow

/-- Reads the colon in front of a value. The candidate before it becomes a key; without one, the
key has its own mark or is left out. -/
def value? (lexer : Lexer) : Option Lexer :=
  match lexer.candidate? with
  | some candidate =>
    let marked := (lexer.insert candidate.index .key).openBlock
      candidate.start.column candidate.index .mappingStart
    some ({ marked with candidate? := none }.pass 1 .value false)
  | none => do
    guard (lexer.inFlow || lexer.keyAllowed)
    return (lexer.openBlockHere .mappingStart).pass 1 .value !lexer.inFlow

/-- Reads a scalar. Behind blanks that reach a later line, a key may start again. -/
def scalar? (lexer : Lexer) (token : String → Token) (read : Cursor → Option Lexeme) :
    Option Lexer := do
  let lexer ← lexer.withCandidate?
  let lexeme ← read lexer.cursor
  return { lexer with
    cursor := lexeme.next
    tokens := token (String.ofList lexeme.text) :: lexer.tokens
    keyAllowed := lexeme.broken }

/-- Reads a plain scalar. -/
def plainScalar? (lexer : Lexer) : Option Lexer :=
  lexer.scalar? .plain (plain? lexer.inFlow lexer.floor)

/-- Reads the token at the cursor. -/
def next? (lexer : Lexer) : Option Lexer :=
  let size := lexer.cursor.rest.length
  if lexer.cursor.atMarker '-' then lexer.boundary? .documentStart
  else if lexer.cursor.atMarker '.' then lexer.boundary? .documentEnd
  else
    match lexer.cursor.rest with
    | '[' :: _ => lexer.openFlow? .flowListStart
    | '\x7b' :: _ => lexer.openFlow? .flowMappingStart
    | ']' :: _ => lexer.closeFlow? .flowListEnd
    | '\x7d' :: _ => lexer.closeFlow? .flowMappingEnd
    | ',' :: _ => lexer.separator?
    | '-' :: rest => if endsWord rest then lexer.item? else lexer.plainScalar?
    | '?' :: rest => if lexer.inFlow || endsWord rest then lexer.key? else lexer.plainScalar?
    | ':' :: rest => if lexer.inFlow || endsWord rest then lexer.value? else lexer.plainScalar?
    | '\'' :: _ => lexer.scalar? .quoted fun cursor => singleQuoted? size [] cursor.tail
    | '"' :: _ => lexer.scalar? .quoted fun cursor => doubleQuoted? size [] cursor.tail
    | _ => lexer.plainScalar?

/-- Reads all tokens that are left. -/
def run? : Nat → Lexer → Option (List Token)
  | 0, _ => none
  | fuel + 1, lexer => do
    let lexer ← lexer.advance?
    if lexer.cursor.rest.isEmpty then
      return (← (lexer.closeBlocks fun _ => true).withoutCandidate?).tokens.reverse
    run? fuel (← lexer.next?)

end Lexer

/-- The tokens of a text, each of which takes at least one character. -/
def Token.listOfText? (text : List Char) : Option (List Token) :=
  Lexer.run? (text.length + 1) { cursor := .start text }

end Chip8.Document
