import Chip8.Document.Reader
import Chip8.Proofs.Document.Grammar
import Chip8.Proofs.Document.Lexer

/-!
# Written documents

Every node that can be written is read back from its text (`read?_document`).
-/

namespace Chip8.Document

/-! ## Characters of a document -/

/-- The characters that every text can hold and that end no line. -/
def isPrintable (char : Char) : Bool := 0x20 ≤ char.toNat && char.toNat ≤ 0x7E

theorem isAllowed_of_isPrintable {char : Char} (printable : isPrintable char = true) :
    isAllowed char = true := by
  simp only [isPrintable, Bool.and_eq_true, decide_eq_true_eq] at printable
  simp [isAllowed, printable]

theorem normalized_of_isPrintable {text : List Char} (printable : text.all isPrintable = true) :
    normalized text = text := by
  induction text with
  | nil => rfl
  | cons char rest ih =>
    rw [List.all_cons, Bool.and_eq_true] at printable
    have cr : char ≠ '\r' := by rintro rfl; cases printable.1
    have nel : char ≠ '\u0085' := by rintro rfl; cases printable.1
    rw [normalized, ih printable.2]
    · simp [cr, nel]
    · simp [cr]

theorem isPrintable_of_between {low high char : Char} (above : low ≤ char) (below : char ≤ high)
    (least : 0x20 ≤ low.toNat) (most : high.toNat ≤ 0x7E) : isPrintable char = true := by
  have lower : low.toNat ≤ char.toNat := above
  have upper : char.toNat ≤ high.toNat := below
  rw [isPrintable, Bool.and_eq_true, decide_eq_true_eq, decide_eq_true_eq]
  omega

theorem isPrintable_of_isWordChar {char : Char} (inWord : isWordChar char = true) :
    isPrintable char = true := by
  have either : char.isUpper || char.isLower || char.isDigit || char == '_' := inWord
  rw [Bool.or_eq_true, Bool.or_eq_true, Bool.or_eq_true, beq_iff_eq] at either
  rcases either with ((upper | lower) | digit) | rfl
  · have bounds : 'A' ≤ char ∧ char ≤ 'Z' := of_decide_eq_true upper
    exact isPrintable_of_between bounds.1 bounds.2 (by decide) (by decide)
  · have bounds : 'a' ≤ char ∧ char ≤ 'z' :=
      (Bool.and_eq_true_iff.mp lower).imp of_decide_eq_true of_decide_eq_true
    exact isPrintable_of_between bounds.1 bounds.2 (by decide) (by decide)
  · have bounds : '0' ≤ char ∧ char ≤ '9' :=
      (Bool.and_eq_true_iff.mp digit).imp of_decide_eq_true of_decide_eq_true
    exact isPrintable_of_between bounds.1 bounds.2 (by decide) (by decide)
  · rfl

theorem isPrintable_of_isSome_digit? {base : Nat} {char : Char}
    (digit : (Numeral.digit? base char).isSome = true) : isPrintable char = true := by
  rw [Numeral.digit?] at digit
  split at digit
  · rename_i bounds
    exact isPrintable_of_between bounds.1 bounds.2 (by decide) (by decide)
  · split at digit
    · rename_i bounds
      exact isPrintable_of_between bounds.1 bounds.2 (by decide) (by decide)
    · split at digit
      · rename_i bounds
        exact isPrintable_of_between bounds.1 bounds.2 (by decide) (by decide)
      · cases digit

theorem all_isPrintable_escape (char : Char) : (escape char).all isPrintable = true := by
  rw [escape]
  split
  · rename_i inWord
    rw [List.all_cons, isPrintable_of_isWordChar inWord]
    rfl
  · rw [List.all_cons, List.all_cons]
    refine Bool.and_eq_true_iff.mpr ⟨rfl, Bool.and_eq_true_iff.mpr ⟨rfl, ?_⟩⟩
    rw [List.all_eq_true]
    intro digit mem
    apply isPrintable_of_isSome_digit?
    by_contra foreign
    rw [Option.not_isSome_iff_eq_none] at foreign
    exact Numeral.not_mem_of_digit? (Numeral.ofDigits?_lowerHex 8 char.toNat) foreign mem

mutual

theorem all_isPrintable_chars (node : Node) (writable : node.isWritable = true) :
    node.chars.all isPrintable = true := by
  match node with
  | .plain text =>
    rw [Node.isWritable, isWord, Bool.and_eq_true] at writable
    rw [Node.chars, List.all_eq_true]
    intro char mem
    exact isPrintable_of_isWordChar (List.all_eq_true.mp writable.2 char mem)
  | .quoted text =>
    have inside : (text.toList.flatMap escape).all isPrintable = true := by
      rw [List.all_flatMap, List.all_eq_true]
      exact fun char _ => all_isPrintable_escape char
    rw [Node.chars, List.all_cons, List.all_append, inside]
    rfl
  | .list items =>
    rw [Node.chars, List.all_cons, List.all_append, all_isPrintable_itemChars items writable]
    rfl
  | .mapping entries =>
    rw [Node.chars, List.all_cons, List.all_append, all_isPrintable_entryChars entries writable]
    rfl

theorem all_isPrintable_itemChars (items : List Node) (writable : areWritable items = true) :
    (itemChars items).all isPrintable = true := by
  match items with
  | [] => rfl
  | item :: rest =>
    rw [areWritable, Bool.and_eq_true] at writable
    rw [itemChars, List.all_cons, List.all_append, List.all_cons,
      all_isPrintable_chars item writable.1, all_isPrintable_itemChars rest writable.2]
    rfl

theorem all_isPrintable_entryChars (entries : List (Node × Node))
    (writable : areWritableEntries entries = true) :
    (entryChars entries).all isPrintable = true := by
  match entries with
  | [] => rfl
  | (key, value) :: rest =>
    rw [areWritableEntries, Bool.and_eq_true, Bool.and_eq_true] at writable
    simp only [entryChars, List.all_cons, List.all_append, all_isPrintable_chars key writable.1.1,
      all_isPrintable_chars value writable.1.2, all_isPrintable_entryChars rest writable.2]
    rfl

end

/-- Every node that can be written is read back from its text. -/
theorem read?_document {node : Node} (writable : node.isWritable = true) :
    read? node.document = some node := by
  have printable := all_isPrintable_chars node writable
  have allowed : node.chars.all isAllowed = true := by
    rw [List.all_eq_true] at printable ⊢
    exact fun char mem => isAllowed_of_isPrintable (printable char mem)
  rw [read?, Node.document, String.toList_ofList, allowed, normalized_of_isPrintable printable,
    Token.listOfText?_chars writable]
  exact Node.ofTokens?_tokens writable

end Chip8.Document
