/-!
# Cursors

The characters that divide a document, the position of what is left of it, and the blanks within a
scalar.
-/

namespace Chip8.Document

/-! ## Characters -/

/-- Writes the ends of lines as line feeds, except for line and paragraph separators. -/
def normalized : List Char → List Char
  | [] => []
  | '\r' :: '\n' :: rest => '\n' :: normalized rest
  | char :: rest => (if char ∈ ['\r', '\u0085'] then '\n' else char) :: normalized rest

/-- Whether a line of a text with normalized ends of lines ends with the character. -/
def isBreak (char : Char) : Bool := char ∈ ['\n', '\u2028', '\u2029']

/-- Whether the character separates words of one line. -/
def isBlank (char : Char) : Bool := char == ' ' || char == '\t'

/-- Whether nothing follows, or a blank or the end of a line. -/
def endsWord : List Char → Bool
  | [] => true
  | char :: _ => isBlank char || isBreak char

/-! ## Cursors -/

/-- The rest of a text, with the position at which it starts. -/
structure Cursor where
  rest : List Char
  line : Nat
  column : Nat
  /-- The size of what was passed, in bytes. -/
  offset : Nat

namespace Cursor

/-- The start of a text. -/
def start (text : List Char) : Cursor := ⟨text, 0, 0, 0⟩

/-- Passes one character. -/
def tail (cursor : Cursor) : Cursor :=
  match cursor.rest with
  | [] => cursor
  | char :: rest =>
    let offset := cursor.offset + char.utf8Size
    if isBreak char then ⟨rest, cursor.line + 1, 0, offset⟩
    else ⟨rest, cursor.line, cursor.column + 1, offset⟩

/-- Passes a number of characters. -/
def drop (cursor : Cursor) : Nat → Cursor
  | 0 => cursor
  | count + 1 => cursor.tail.drop count

/-- Whether a line of three equal marks starts here, possibly with more behind a blank. -/
def atMarker (cursor : Cursor) (mark : Char) : Bool :=
  cursor.column == 0 && cursor.rest.take 3 == [mark, mark, mark] && endsWord (cursor.rest.drop 3)

/-- Whether a line stands here that starts or ends a document. -/
def atBoundary (cursor : Cursor) : Bool := cursor.atMarker '-' || cursor.atMarker '.'

end Cursor

/-! ## Gaps -/

/-- Blanks within a scalar: those of the first line, the ends of lines, and what follows. -/
structure Gap where
  blanks : List Char
  breaks : List Char
  next : Cursor

namespace Gap

/-- Lengthens a gap by the blanks among the characters that follow it. A tab in front of a line
that is not indented as far as the column `floor` is refused. -/
def extend? (floor : Nat) : List Char → Gap → Option Gap
  | [], gap => some gap
  | char :: rest, gap =>
    if isBreak char then
      extend? floor rest { gap with breaks := gap.breaks ++ [char], next := gap.next.tail }
    else if isBlank char then
      if gap.breaks.isEmpty then
        extend? floor rest { gap with blanks := gap.blanks ++ [char], next := gap.next.tail }
      else if char == '\t' && gap.next.column < floor then none
      else extend? floor rest { gap with next := gap.next.tail }
    else some gap

/-- The gap that starts at a cursor. -/
def at? (floor : Nat) (cursor : Cursor) : Option Gap := extend? floor cursor.rest ⟨[], [], cursor⟩

/-- Whether there is no gap. -/
def isEmpty (gap : Gap) : Bool := gap.blanks.isEmpty && gap.breaks.isEmpty

/-- The text of a gap: blanks within a line stay. A line feed that stands alone is a space, and one
with others behind it is dropped; line separators and all later ends of lines stay. -/
def folded (gap : Gap) : List Char :=
  match gap.breaks with
  | [] => gap.blanks
  | ['\n'] => [' ']
  | '\n' :: later => later
  | breaks => breaks

end Gap

end Chip8.Document
