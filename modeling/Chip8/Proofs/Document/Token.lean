import Mathlib.Data.Option.Basic
import Chip8.Proofs.Document.Writer
import Chip8.Proofs.Numerals

/-!
# Written scalars

A text in quotes is read from its escapes (`doubleQuoted?_escaped`), and a word is read without
quotes wherever what follows ends it (`plain?_append`).
-/

namespace Chip8.Document

/-! ## Cursors -/

namespace Cursor

@[simp]
theorem rest_tail (cursor : Cursor) : cursor.tail.rest = cursor.rest.tail := by
  obtain ⟨rest, line, column, offset⟩ := cursor
  cases rest with
  | nil => rfl
  | cons char rest => simp only [tail]; split <;> rfl

@[simp]
theorem rest_drop (cursor : Cursor) (count : Nat) :
    (cursor.drop count).rest = cursor.rest.drop count := by
  induction count generalizing cursor with
  | zero => rfl
  | succ count ih => rw [drop, ih, rest_tail, List.drop_tail]

variable {cursor : Cursor} {char : Char} {rest : List Char}

theorem atMarker_eq_false {mark : Char} (start : cursor.rest = char :: rest)
    (other : char ≠ mark) : cursor.atMarker mark = false := by
  simp [atMarker, start, other]

theorem atBoundary_eq_false (start : cursor.rest = char :: rest) (dash : char ≠ '-')
    (dot : char ≠ '.') : cursor.atBoundary = false := by
  rw [atBoundary, atMarker_eq_false start dash, atMarker_eq_false start dot, Bool.or_false]

end Cursor

/-! ## Characters of words -/

/-- A mark is no character of a word. -/
theorem ne_of_isWordChar {char mark : Char} (inWord : isWordChar char = true)
    (foreign : isWordChar mark = false) : char ≠ mark := by
  rintro rfl
  exact Bool.false_ne_true (foreign.symm.trans inWord)

theorem not_mem_of_isWordChar {char : Char} {marks : List Char} (inWord : isWordChar char = true)
    (foreign : marks.all (!isWordChar ·)) : char ∉ marks := by
  intro mem
  have other := List.all_eq_true.mp foreign char mem
  rw [inWord] at other
  cases other

theorem endsWord_eq_false {char : Char} {rest : List Char} (inWord : isWordChar char = true) :
    endsWord (char :: rest) = false := by
  have blanks : char ∉ [' ', '\t'] := not_mem_of_isWordChar inWord (by decide)
  have breaks : char ∉ ['\n', '\u2028', '\u2029'] := not_mem_of_isWordChar inWord (by decide)
  simp_all [endsWord, isBlank, isBreak]

theorem exists_cons_of_isWord {text : String} (word : isWord text = true) :
    ∃ char more, text.toList = char :: more ∧ isWordChar char = true := by
  rw [isWord, Bool.and_eq_true, Bool.not_eq_true', List.isEmpty_eq_false_iff] at word
  obtain ⟨char, more, toList⟩ := List.exists_cons_of_ne_nil word.1
  refine ⟨char, more, toList, List.all_eq_true.mp word.2 char ?_⟩
  rw [toList]
  exact List.mem_cons_self

/-! ## Quoted scalars -/

theorem length_toDigits_toNat_le (char : Char) : (Nat.toDigits 16 char.toNat).length ≤ 8 := by
  have valid : char.toNat.isValidChar := char.valid
  rw [Nat.isValidChar] at valid
  rw [Nat.length_toDigits_le_iff (by decide) (by decide)]
  omega

theorem charOfCode?_toNat (char : Char) : charOfCode? char.toNat = some char := by
  rw [charOfCode?, if_pos (show char.toNat.isValidChar from char.valid), Char.ofNat_toNat]

/-- Reads one character of a quoted scalar. -/
theorem doubleQuoted?_escape (fuel : Nat) (text : List Char) {cursor : Cursor} {char : Char}
    {rest : List Char} (start : cursor.rest = escape char ++ rest) :
    ∃ next : Cursor, next.rest = rest ∧
      doubleQuoted? (fuel + 1) text cursor = doubleQuoted? fuel (char :: text) next := by
  by_cases inWord : isWordChar char = true
  · rw [escape, if_pos inWord, List.singleton_append] at start
    have boundary : cursor.atBoundary = false :=
      Cursor.atBoundary_eq_false start (ne_of_isWordChar inWord rfl) (ne_of_isWordChar inWord rfl)
    refine ⟨cursor.tail, by rw [Cursor.rest_tail, start, List.tail_cons], ?_⟩
    rw [doubleQuoted?]
    split
    case h_1 empty => simp [start] at empty
    case h_2 quote =>
      rw [start, List.cons.injEq] at quote
      exact absurd quote.1 (ne_of_isWordChar inWord rfl)
    case h_3 backslash =>
      rw [start, List.cons.injEq] at backslash
      exact absurd backslash.1 (ne_of_isWordChar inWord rfl)
    case h_4 word =>
      rw [start, List.cons.injEq] at word
      rw [boundary, start, endsWord_eq_false inWord, word.1]
      rfl
  · rw [escape, if_neg inWord, List.cons_append, List.cons_append] at start
    have length := Numeral.length_lowerHex (length_toDigits_toNat_le char)
    have digits : ((Numeral.lowerHex 8 char.toNat).toList ++ rest).take 8 =
        (Numeral.lowerHex 8 char.toNat).toList := List.take_left' length
    refine ⟨cursor.drop 10, by simp [start, length], ?_⟩
    rw [doubleQuoted?, start]
    refine (if_neg (by decide)).trans ?_
    rw [show codeLength? 'U' = some 8 from rfl]
    dsimp only
    rw [digits, Numeral.ofDigits?_lowerHex, Option.bind_eq_bind, Option.bind_some, length]
    refine (guard_bind rfl _).trans ?_
    rw [charOfCode?_toNat]
    rfl

/-- Reads the rest of a quoted scalar. -/
theorem doubleQuoted?_escaped (chars text : List Char) {cursor : Cursor} {rest : List Char}
    (start : cursor.rest = chars.flatMap escape ++ '"' :: rest) {fuel : Nat}
    (enough : chars.length < fuel) :
    ∃ next : Cursor, next.rest = rest ∧
      doubleQuoted? fuel text cursor = some ⟨text.reverse ++ chars, false, next⟩ := by
  obtain ⟨fuel, rfl⟩ := Nat.exists_eq_add_one_of_ne_zero (Nat.ne_zero_of_lt enough)
  induction chars generalizing cursor fuel text with
  | nil =>
    rw [List.flatMap_nil, List.nil_append] at start
    refine ⟨cursor.tail, by rw [Cursor.rest_tail, start, List.tail_cons], ?_⟩
    rw [doubleQuoted?, start, List.append_nil]
    rfl
  | cons char chars ih =>
    rw [List.flatMap_cons, List.append_assoc] at start
    rw [List.length_cons] at enough
    obtain ⟨next, after, passed⟩ := doubleQuoted?_escape fuel text start
    obtain ⟨fuel, rfl⟩ := Nat.exists_eq_add_one_of_ne_zero (show fuel ≠ 0 by omega)
    obtain ⟨last, behind, read⟩ := ih (char :: text) after fuel (by omega)
    refine ⟨last, behind, ?_⟩
    rw [passed, read, List.reverse_cons, List.append_assoc, List.singleton_append]

theorem length_le_flatMap_escape (chars : List Char) :
    chars.length ≤ (chars.flatMap escape).length := by
  induction chars with
  | nil => exact Nat.le_refl 0
  | cons char chars ih =>
    have positive : 1 ≤ (escape char).length := by
      rw [escape]
      split
      · exact Nat.le_refl 1
      · exact Nat.succ_le_of_lt (Nat.zero_lt_succ _)
    rw [List.flatMap_cons, List.length_append, List.length_cons]
    omega

/-! ## Plain scalars -/

/-- What follows a word that stands without quotes: nothing, a comma in a flow collection, or a
colon with a space behind it. -/
def Ends (inFlow : Bool) (rest : List Char) : Prop :=
  rest = [] ∨ (inFlow = true ∧ ∃ more, rest = ',' :: more) ∨ ∃ more, rest = ':' :: ' ' :: more

theorem plainWord?_of_ends {inFlow : Bool} {rest : List Char} (ends : Ends inFlow rest) :
    plainWord? inFlow rest = some [] := by
  rcases ends with rfl | ⟨rfl, more, rfl⟩ | ⟨more, rfl⟩
  · rfl
  · simp [plainWord?, isFlowIndicator]
  · simp [plainWord?, endsWord, isBlank]

theorem plainWord?_append {inFlow : Bool} {word rest : List Char} (inWord : word.all isWordChar)
    (ends : Ends inFlow rest) : plainWord? inFlow (word ++ rest) = some word := by
  induction word with
  | nil => exact plainWord?_of_ends ends
  | cons char word ih =>
    rw [List.all_cons, Bool.and_eq_true] at inWord
    have indicator : isFlowIndicator char = false :=
      decide_eq_false (not_mem_of_isWordChar inWord.1 (by decide))
    have colon : char ≠ ':' := ne_of_isWordChar inWord.1 rfl
    simp [plainWord?, endsWord_eq_false inWord.1, indicator, colon, ih inWord.2]

/-- No blank stands behind a word. -/
theorem Gap.at?_of_ends {inFlow : Bool} {cursor : Cursor} (ends : Ends inFlow cursor.rest)
    (floor : Nat) : Gap.at? floor cursor = some ⟨[], [], cursor⟩ := by
  rw [Gap.at?]
  rcases ends with start | ⟨-, more, start⟩ | ⟨more, start⟩ <;> rw [start]
  · rfl
  · rw [Gap.extend?]
    rfl
  · rw [Gap.extend?]
    rfl

/-- Reads a word without quotes. -/
theorem plain?_append {inFlow : Bool} {word rest : List Char} (present : word ≠ [])
    (inWord : word.all isWordChar) (ends : Ends inFlow rest) (floor : Nat) {cursor : Cursor}
    (start : cursor.rest = word ++ rest) :
    ∃ next : Cursor, next.rest = rest ∧
      plain? inFlow floor cursor = some ⟨word, false, next⟩ := by
  have after : (cursor.drop word.length).rest = rest := by
    rw [Cursor.rest_drop, start, List.drop_left]
  have gap : Gap.at? floor (cursor.drop word.length) = some ⟨[], [], cursor.drop word.length⟩ := by
    apply Gap.at?_of_ends
    rwa [after]
  refine ⟨cursor.drop word.length, after, ?_⟩
  have unmarked : cursor.rest.head?.any isIndicator = false := by
    obtain ⟨char, later, rfl⟩ := List.exists_cons_of_ne_nil present
    rw [List.all_cons, Bool.and_eq_true] at inWord
    have flow : isFlowIndicator char = false :=
      decide_eq_false (not_mem_of_isWordChar inWord.1 (by decide))
    have other : char ∉ ['#', '&', '*', '!', '|', '>', '\'', '"', '%', '@', '\x60'] :=
      not_mem_of_isWordChar inWord.1 (by decide)
    rw [start, List.cons_append, List.head?_cons, Option.any_some, isIndicator, flow,
      decide_eq_false other]
    rfl
  have first : (!cursor.rest.head?.any isIndicator) = true := by rw [unmarked]; rfl
  have second : (!word.isEmpty) = true := by simp [present]
  rw [plain?]
  refine (guard_bind first _).trans ?_
  rw [start, plainWord?_append inWord ends]
  refine (guard_bind second _).trans ?_
  simp [plainTail?, gap, Gap.isEmpty]

end Chip8.Document
