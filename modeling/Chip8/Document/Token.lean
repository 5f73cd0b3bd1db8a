import Chip8.Document.Cursor
import Chip8.Numeral

/-!
# Tokens

The tokens of a document, and how those are read that stand for scalars: plain, single quoted and
double quoted.
-/

namespace Chip8.Document

/-- A token of a document. -/
inductive Token where
  | documentStart
  | documentEnd
  /-- The start of a block list, given by a column. -/
  | listStart
  /-- The start of a block mapping, given by a column. -/
  | mappingStart
  /-- The end of a block list or block mapping. -/
  | blockEnd
  /-- The mark of an item of a block list. -/
  | item
  /-- What follows is a key. -/
  | key
  /-- What follows is the value of a key. -/
  | value
  | flowListStart
  | flowListEnd
  | flowMappingStart
  | flowMappingEnd
  /-- The separator of entries of a flow collection. -/
  | separator
  | plain (text : String)
  | quoted (text : String)
  deriving DecidableEq, Repr

/-! ## Plain scalars -/

/-- Characters that delimit flow collections. -/
def isFlowIndicator (char : Char) : Bool := char ∈ [',', '[', ']', '\x7b', '\x7d']

/-- Characters with a meaning of their own at the start of a token. -/
def isIndicator (char : Char) : Bool :=
  isFlowIndicator char || char ∈ ['#', '&', '*', '!', '|', '>', '\'', '"', '%', '@', '\x60']

/-- Text of a scalar, whether blanks behind it reach a later line, and what follows. -/
structure Lexeme where
  text : List Char
  broken : Bool
  next : Cursor

/-- The characters of a plain scalar up to a blank or a mark that ends it. In flow collections a
colon directly before such a mark is refused. -/
def plainWord? (inFlow : Bool) : List Char → Option (List Char)
  | [] => some []
  | char :: rest =>
    let atMark := rest.head?.any fun next => isFlowIndicator next || next == '?'
    if endsWord (char :: rest) || (char == ':' && endsWord rest) then some []
    else if inFlow && char == ':' && atMark then none
    else if inFlow && isFlowIndicator char then some []
    else (plainWord? inFlow rest).map (char :: ·)

/-- Reads a plain scalar on from the end of a word; the text so far is given backwards. Later lines
stand no further left than the column `floor`, except in flow collections. -/
def plainTail? (inFlow : Bool) (floor : Nat) : Nat → List Char → Cursor → Option Lexeme
  | 0, _, _ => none
  | fuel + 1, text, cursor => do
    let gap ← Gap.at? floor cursor
    let ended := gap.isEmpty || (!inFlow && gap.next.column < floor) || gap.next.atBoundary
      || gap.next.rest.head? == some '#'
    let word ← if ended then some [] else plainWord? inFlow gap.next.rest
    if word.isEmpty then
      return ⟨text.reverse, !gap.breaks.isEmpty, gap.next⟩
    else
      plainTail? inFlow floor fuel ((gap.folded ++ word).reverse ++ text)
        (gap.next.drop word.length)

/-- Reads a plain scalar. -/
def plain? (inFlow : Bool) (floor : Nat) (cursor : Cursor) : Option Lexeme := do
  guard (!cursor.rest.head?.any isIndicator)
  let word ← plainWord? inFlow cursor.rest
  guard (!word.isEmpty)
  plainTail? inFlow floor (cursor.rest.length + 1) word.reverse (cursor.drop word.length)

/-! ## Quoted scalars -/

/-- The character that a one-letter escape stands for. -/
def escaped? : Char → Option Char
  | '0' => some '\x00'
  | 'a' => some '\x07'
  | 'b' => some '\x08'
  | 't' => some '\t'
  | '\t' => some '\t'
  | 'n' => some '\n'
  | 'v' => some '\x0b'
  | 'f' => some '\x0c'
  | 'r' => some '\r'
  | 'e' => some '\x1b'
  | ' ' => some ' '
  | '"' => some '"'
  | '/' => some '/'
  | '\\' => some '\\'
  | 'N' => some '\u0085'
  | '_' => some '\u00a0'
  | 'L' => some '\u2028'
  | 'P' => some '\u2029'
  | _ => none

/-- The number of hexadecimal digits that an escape by code takes. -/
def codeLength? : Char → Option Nat
  | 'x' => some 2
  | 'u' => some 4
  | 'U' => some 8
  | _ => none

/-- The character with a code, if there is one. -/
def charOfCode? (code : Nat) : Option Char :=
  if code.isValidChar then some (Char.ofNat code) else none

/-- Reads a single quoted scalar on from within; the text so far is given backwards. A doubled quote
is a quote. -/
def singleQuoted? : Nat → List Char → Cursor → Option Lexeme
  | 0, _, _ => none
  | fuel + 1, text, cursor =>
    match cursor.rest with
    | [] => none
    | '\'' :: '\'' :: _ => singleQuoted? fuel ('\'' :: text) (cursor.drop 2)
    | '\'' :: _ => some ⟨text.reverse, false, cursor.tail⟩
    | char :: _ =>
      if cursor.atBoundary then none
      else if endsWord cursor.rest then do
        let gap ← Gap.at? 0 cursor
        singleQuoted? fuel (gap.folded.reverse ++ text) gap.next
      else singleQuoted? fuel (char :: text) cursor.tail

/-- Reads a double quoted scalar on from within; the text so far is given backwards. The end of a
line behind a backslash is dropped with the blanks of the next line. -/
def doubleQuoted? : Nat → List Char → Cursor → Option Lexeme
  | 0, _, _ => none
  | fuel + 1, text, cursor =>
    match cursor.rest with
    | [] => none
    | '"' :: _ => some ⟨text.reverse, false, cursor.tail⟩
    | '\\' :: kind :: digits => do
      if isBreak kind then
        let gap ← Gap.extend? 0 digits ⟨[], [kind], cursor.drop 2⟩
        doubleQuoted? fuel ((gap.breaks.drop 1).reverse ++ text) gap.next
      else
        match codeLength? kind with
        | some length =>
          let code ← Numeral.ofDigits? 16 (digits.take length)
          guard ((digits.take length).length == length)
          doubleQuoted? fuel ((← charOfCode? code) :: text) (cursor.drop (2 + length))
        | none => doubleQuoted? fuel ((← escaped? kind) :: text) (cursor.drop 2)
    | char :: _ =>
      if cursor.atBoundary then none
      else if endsWord cursor.rest then do
        let gap ← Gap.at? 0 cursor
        doubleQuoted? fuel (gap.folded.reverse ++ text) gap.next
      else doubleQuoted? fuel (char :: text) cursor.tail

end Chip8.Document
