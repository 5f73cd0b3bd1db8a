import Chip8.Record
import Chip8.Proofs.Decoding
import Chip8.Proofs.Numerals

/-!
# Reading listings back

A mnemonic is a name with operands, and splitting it at its blanks and commas gives them back: no
name and no operand shows such a mark (`Unmarked`). So an instruction reads back from its mnemonic
(`Instruction.ofWords?_mnemonic`) and from the record that traces it (`Record.fetched_inj`). With
the words of decoded instructions (`Instruction.encode_decode`) this says what decoding forgets and
that the texts forget nothing more (`Instruction.decode_retains_used_bits`).
-/

namespace Chip8

/-- The value as a number below a bound, if it is one. -/
def below? (bound value : Nat) : Option (Fin bound) :=
  if inside : value < bound then some ⟨value, inside⟩ else none

theorem below?_val {bound : Nat} (value : Fin bound) : below? bound value.val = some value := by
  rw [below?, dif_pos value.isLt]

/-- An operand as a mnemonic shows it. -/
inductive Operand where
  | register (x : Register)
  | number (value : Nat)
  | address (target : AddressOperand)
  /-- The index register. -/
  | index
  /-- The memory that the index register points at. -/
  | block
  | delay
  | sound
  | key
  | glyph
  | decimal
  deriving DecidableEq, Repr

namespace Operand

/-- The text of an operand. -/
def text : Operand → String
  | .register x => Instruction.registerName x
  | .number value => toString value
  | .address target => Instruction.addressText target
  | .index => "I"
  | .block => "[I]"
  | .delay => "DT"
  | .sound => "ST"
  | .key => "K"
  | .glyph => "F"
  | .decimal => "B"

/-- Reads an operand that is not a decimal number. -/
def ofSymbol? : List Char → Option Operand
  | 'v' :: digits => ((Numeral.ofDigits? 16 digits).bind (below? 16)).map .register
  | '0' :: 'x' :: digits => ((Numeral.ofDigits? 16 digits).bind (below? 4096)).map .address
  | ['I'] => some .index
  | ['[', 'I', ']'] => some .block
  | ['D', 'T'] => some .delay
  | ['S', 'T'] => some .sound
  | ['K'] => some .key
  | ['F'] => some .glyph
  | ['B'] => some .decimal
  | _ => none

/-- Reads an operand. -/
def ofText? (text : List Char) : Option Operand :=
  (Numeral.ofDigits? 10 text).map .number <|> ofSymbol? text

/-- Operands read back. No symbol starts with a decimal numeral, which the reader tries first. -/
theorem ofText?_text (operand : Operand) : ofText? operand.text.toList = some operand := by
  cases operand with
  | number value =>
    rw [ofText?, text, Numeral.ofDigits?_toString]
    rfl
  | register x =>
    have isSymbol : Numeral.ofDigits? 10 ('v' :: (Numeral.hex 1 x.val).toList) = none := rfl
    simp [ofText?, ofSymbol?, text, Instruction.registerName, isSymbol, Numeral.ofDigits?_hex,
      below?_val]
  | address target =>
    have isSymbol : Numeral.ofDigits? 10 ('0' :: 'x' :: (Numeral.hex 3 target.val).toList) =
        none := rfl
    simp [ofText?, ofSymbol?, text, Instruction.addressText, isSymbol, Numeral.ofDigits?_hex,
      below?_val]
  | _ => rfl

end Operand

/-- The word shows no blank and no comma, which stand between the words of a listing. -/
def Unmarked (word : String) : Prop := ' ' ∉ word.toList ∧ ',' ∉ word.toList

instance : DecidablePred Unmarked := fun word =>
  inferInstanceAs (Decidable (' ' ∉ word.toList ∧ ',' ∉ word.toList))

theorem unmarked_append {first second : String} (unmarked : Unmarked first)
    (unmarked' : Unmarked second) : Unmarked (first ++ second) := by
  simp only [Unmarked, String.toList_append, List.mem_append, not_or]
  exact ⟨⟨unmarked.1, unmarked'.1⟩, unmarked.2, unmarked'.2⟩

theorem unmarked_of_ofDigits? {base value : Nat} {word : String}
    (read : Numeral.ofDigits? base word.toList = some value) : Unmarked word :=
  ⟨Numeral.not_mem_of_digit? read rfl, Numeral.not_mem_of_digit? read rfl⟩

theorem unmarked_hex (width value : Nat) : Unmarked (Numeral.hex width value) :=
  unmarked_of_ofDigits? (Numeral.ofDigits?_hex width value)

theorem Operand.unmarked_text (operand : Operand) : Unmarked operand.text := by
  cases operand with
  | number value => exact unmarked_of_ofDigits? (Numeral.ofDigits?_toString value)
  | register x => exact unmarked_append (by decide) (unmarked_hex 1 x.val)
  | address target => exact unmarked_append (by decide) (unmarked_hex 3 target.val)
  | _ => decide

/-- A name with operands. -/
structure Listing where
  name : String
  operands : List Operand
  deriving DecidableEq, Repr

namespace Listing

/-- Operands with commas between them. -/
def operandsText : List Operand → String
  | [] => ""
  | [last] => last.text
  | first :: second :: rest => first.text ++ ", " ++ operandsText (second :: rest)

/-- The text of a listing. -/
def text : Listing → String
  | ⟨name, []⟩ => name
  | ⟨name, operands⟩ => name ++ " " ++ operandsText operands

/-- The words of a text, without the blanks and commas between them. -/
def wordsOf (text : String) : List (List Char) :=
  (text.toList.filter (· != ',')).splitOnP (· == ' ')

/-- Reads a listing from its words. -/
def ofWords? : List (List Char) → Option Listing
  | [] => none
  | name :: operands => (operands.mapM Operand.ofText?).map (⟨String.ofList name, ·⟩)

/-! ## The words of a listing -/

section

variable {word : String} (unmarked : Unmarked word)

include unmarked

theorem filter_of_unmarked : word.toList.filter (· != ',') = word.toList := by
  rw [List.filter_eq_self]
  intro char mem
  simpa using ne_of_mem_of_not_mem mem unmarked.2

theorem not_blank_of_unmarked : ∀ char ∈ word.toList, (char == ' ') = false := by
  intro char mem
  simpa using ne_of_mem_of_not_mem mem unmarked.1

theorem wordsOf_of_unmarked : wordsOf word = [word.toList] := by
  rw [wordsOf, filter_of_unmarked unmarked,
    List.splitOnP_eq_singleton (not_blank_of_unmarked unmarked)]

theorem wordsOf_append {gap : String} (isGap : gap.toList.filter (· != ',') = [' '])
    (text : String) : wordsOf (word ++ gap ++ text) = word.toList :: wordsOf text := by
  rw [wordsOf, String.toList_append, String.toList_append, List.filter_append, List.filter_append,
    filter_of_unmarked unmarked, isGap, List.append_assoc, List.singleton_append,
    List.splitOnP_append_cons_of_forall_mem (not_blank_of_unmarked unmarked) ' ' rfl, wordsOf]

end

theorem wordsOf_operandsText (first : Operand) (rest : List Operand) :
    wordsOf (operandsText (first :: rest)) = (first :: rest).map (·.text.toList) := by
  induction rest generalizing first with
  | nil => exact wordsOf_of_unmarked first.unmarked_text
  | cons second rest ih =>
    rw [operandsText, wordsOf_append first.unmarked_text (by decide), ih second]
    rfl

theorem wordsOf_text (listing : Listing) (unmarked : Unmarked listing.name) :
    wordsOf listing.text = listing.name.toList :: listing.operands.map (·.text.toList) := by
  obtain ⟨name, operands⟩ := listing
  cases operands with
  | nil => exact wordsOf_of_unmarked unmarked
  | cons first rest =>
    rw [text, wordsOf_append unmarked (by decide), wordsOf_operandsText]
    exact List.cons_ne_nil first rest

/-- A listing reads back from its text. -/
theorem ofWords?_wordsOf_text (listing : Listing) (unmarked : Unmarked listing.name) :
    ofWords? (wordsOf listing.text) = some listing := by
  have operands : (listing.operands.map (·.text.toList)).mapM Operand.ofText? =
      some listing.operands := by
    rw [List.mapM_map]
    have each : Operand.ofText? ∘ (·.text.toList) = fun operand => pure (id operand) :=
      funext Operand.ofText?_text
    rw [each, List.mapM_pure, List.map_id]
    rfl
  rw [wordsOf_text listing unmarked, ofWords?, operands]
  simp

end Listing

namespace Instruction

/-- The name and the operands that the mnemonic of an instruction shows. -/
def listing : Instruction → Listing
  | .clearScreen => ⟨"CLS", []⟩
  | .ret => ⟨"RET", []⟩
  | .jump address => ⟨"JP", [.address address]⟩
  | .call address => ⟨"CALL", [.address address]⟩
  | .skipIfByte x byte => ⟨"SE", [.register x, .number byte.toNat]⟩
  | .skipUnlessByte x byte => ⟨"SNE", [.register x, .number byte.toNat]⟩
  | .skipIfEqual x y => ⟨"SE", [.register x, .register y]⟩
  | .loadByte x byte => ⟨"LD", [.register x, .number byte.toNat]⟩
  | .addByte x byte => ⟨"ADD", [.register x, .number byte.toNat]⟩
  | .move x y => ⟨"LD", [.register x, .register y]⟩
  | .or x y => ⟨"OR", [.register x, .register y]⟩
  | .and x y => ⟨"AND", [.register x, .register y]⟩
  | .xor x y => ⟨"XOR", [.register x, .register y]⟩
  | .add x y => ⟨"ADD", [.register x, .register y]⟩
  | .sub x y => ⟨"SUB", [.register x, .register y]⟩
  | .shiftRight x => ⟨"SHR", [.register x]⟩
  | .subReverse x y => ⟨"SUBN", [.register x, .register y]⟩
  | .shiftLeft x => ⟨"SHL", [.register x]⟩
  | .skipUnlessEqual x y => ⟨"SNE", [.register x, .register y]⟩
  | .loadIndex address => ⟨"LD", [.index, .address address]⟩
  | .jumpOffset address => ⟨"JP", [.register offsetRegister, .address address]⟩
  | .random x mask => ⟨"RND", [.register x, .number mask.toNat]⟩
  | .draw x y height => ⟨"DRW", [.register x, .register y, .number height.val]⟩
  | .skipIfPressed x => ⟨"SKP", [.register x]⟩
  | .skipUnlessPressed x => ⟨"SKNP", [.register x]⟩
  | .loadDelay x => ⟨"LD", [.register x, .delay]⟩
  | .awaitKey x => ⟨"LD", [.register x, .key]⟩
  | .setDelay x => ⟨"LD", [.delay, .register x]⟩
  | .setSound x => ⟨"LD", [.sound, .register x]⟩
  | .addIndex x => ⟨"ADD", [.index, .register x]⟩
  | .glyph x => ⟨"LD", [.glyph, .register x]⟩
  | .decimal x => ⟨"LD", [.decimal, .register x]⟩
  | .store x => ⟨"LD", [.block, .register x]⟩
  | .load x => ⟨"LD", [.register x, .block]⟩
  | .unknown word => ⟨"0x" ++ Numeral.hex 4 word.toNat, []⟩

/-- The instruction of a bare name. -/
def ofName? (name : String) : Option Instruction :=
  match name.toList with
  | '0' :: 'x' :: digits =>
    (Numeral.ofDigits? 16 digits).map fun value => .unknown (UInt16.ofNat value)
  | ['C', 'L', 'S'] => some .clearScreen
  | ['R', 'E', 'T'] => some .ret
  | _ => none

/-- The instruction of a listing. The kinds of the operands decide first: the mnemonics share names,
and no two with operands of the same kinds share one. -/
def ofListing? : Listing → Option Instruction
  | ⟨name, []⟩ => ofName? name
  | ⟨name, [.address address]⟩ =>
    match name with
    | "JP" => some (.jump address)
    | "CALL" => some (.call address)
    | _ => none
  | ⟨name, [.register x]⟩ =>
    match name with
    | "SHR" => some (.shiftRight x)
    | "SHL" => some (.shiftLeft x)
    | "SKP" => some (.skipIfPressed x)
    | "SKNP" => some (.skipUnlessPressed x)
    | _ => none
  | ⟨name, [.register x, .number value]⟩ =>
    match name with
    | "SE" => some (.skipIfByte x (UInt8.ofNat value))
    | "SNE" => some (.skipUnlessByte x (UInt8.ofNat value))
    | "LD" => some (.loadByte x (UInt8.ofNat value))
    | "ADD" => some (.addByte x (UInt8.ofNat value))
    | "RND" => some (.random x (UInt8.ofNat value))
    | _ => none
  | ⟨name, [.register x, .register y]⟩ =>
    match name with
    | "SE" => some (.skipIfEqual x y)
    | "SNE" => some (.skipUnlessEqual x y)
    | "LD" => some (.move x y)
    | "OR" => some (.or x y)
    | "AND" => some (.and x y)
    | "XOR" => some (.xor x y)
    | "ADD" => some (.add x y)
    | "SUB" => some (.sub x y)
    | "SUBN" => some (.subReverse x y)
    | _ => none
  | ⟨"DRW", [.register x, .register y, .number height]⟩ => (below? 16 height).map (.draw x y)
  | ⟨"LD", [.index, .address address]⟩ => some (.loadIndex address)
  | ⟨"JP", [.register x, .address address]⟩ =>
    if x = offsetRegister then some (.jumpOffset address) else none
  | ⟨"ADD", [.index, .register x]⟩ => some (.addIndex x)
  | ⟨"LD", [.register x, .delay]⟩ => some (.loadDelay x)
  | ⟨"LD", [.register x, .key]⟩ => some (.awaitKey x)
  | ⟨"LD", [.register x, .block]⟩ => some (.load x)
  | ⟨"LD", [.delay, .register x]⟩ => some (.setDelay x)
  | ⟨"LD", [.sound, .register x]⟩ => some (.setSound x)
  | ⟨"LD", [.glyph, .register x]⟩ => some (.glyph x)
  | ⟨"LD", [.decimal, .register x]⟩ => some (.decimal x)
  | ⟨"LD", [.block, .register x]⟩ => some (.store x)
  | _ => none

theorem ofListing?_listing (instruction : Instruction) :
    ofListing? instruction.listing = some instruction := by
  cases instruction with
  | unknown word =>
    simp [listing, ofListing?, ofName?, Numeral.ofDigits?_hex]
  | _ => simp [listing, ofListing?, ofName?, below?_val]

theorem text_listing (instruction : Instruction) :
    instruction.listing.text = instruction.mnemonic := by
  cases instruction with
  | draw =>
    -- The third operand is appended to the text of the others.
    simp only [listing, Listing.text, Listing.operandsText, mnemonic, listed, String.append_assoc]
    rfl
  | _ => rfl

theorem unmarked_name (instruction : Instruction) : Unmarked instruction.listing.name := by
  cases instruction with
  | unknown word => exact unmarked_append (by decide) (unmarked_hex 4 word.toNat)
  | _ => simp [Unmarked, listing]

/-- Reads an instruction from the words of its mnemonic. -/
def ofWords? (words : List (List Char)) : Option Instruction :=
  (Listing.ofWords? words).bind ofListing?

/-- An instruction reads back from its mnemonic. -/
theorem ofWords?_mnemonic (instruction : Instruction) :
    ofWords? (Listing.wordsOf instruction.mnemonic) = some instruction := by
  rw [ofWords?, ← text_listing, Listing.ofWords?_wordsOf_text _ instruction.unmarked_name,
    Option.bind_some, ofListing?_listing]

theorem eq_of_words {first second : Instruction}
    (same : Listing.wordsOf first.mnemonic = Listing.wordsOf second.mnemonic) :
    first = second := by
  have read := first.ofWords?_mnemonic
  rw [same, ofWords?_mnemonic] at read
  exact (Option.some.inj read).symm

end Instruction

namespace Record

/-- The words of the record of a fetched instruction. -/
theorem wordsOf_fetched (pc word : UInt16) (instruction : Instruction) :
    Listing.wordsOf (Record.fetched pc word instruction).text =
      (Numeral.hex 4 pc.toNat ++ ":").toList :: (Numeral.hex 4 word.toNat).toList ::
        Listing.wordsOf instruction.mnemonic := by
  have place : Unmarked (Numeral.hex 4 pc.toNat ++ ":") :=
    unmarked_append (unmarked_hex 4 pc.toNat) (by decide)
  have parts : (Record.fetched pc word instruction).text =
      (Numeral.hex 4 pc.toNat ++ ":") ++ " " ++
        (Numeral.hex 4 word.toNat ++ " " ++ instruction.mnemonic) := by
    have colon : ": " = ":" ++ " " := by decide
    change Numeral.hex 4 pc.toNat ++ ": " ++ Numeral.hex 4 word.toNat ++ " " ++ _ = _
    simp only [colon, String.append_assoc]
  rw [parts, Listing.wordsOf_append place (by decide),
    Listing.wordsOf_append (unmarked_hex 4 word.toNat) (by decide)]

/-- The record of a fetched instruction tells where and which it is. -/
theorem fetched_inj {pc pc' word word' : UInt16} {instruction instruction' : Instruction}
    (same : (fetched pc word instruction).text = (fetched pc' word' instruction').text) :
    pc = pc' ∧ word = word' ∧ instruction = instruction' := by
  have words := congrArg Listing.wordsOf same
  rw [wordsOf_fetched, wordsOf_fetched, List.cons.injEq, List.cons.injEq] at words
  obtain ⟨places, values, mnemonics⟩ := words
  refine ⟨?_, ?_, ?_⟩
  · rw [String.toList_append, String.toList_append] at places
    exact UInt16.toNat_inj.mp
      (Numeral.hex_inj (String.toList_inj.mp (List.append_cancel_right places)))
  · exact UInt16.toNat_inj.mp (Numeral.hex_inj (String.toList_inj.mp values))
  · exact Instruction.eq_of_words mnemonics

end Record

namespace Instruction

/-- Decoding forgets the unused bits of a word and nothing else: an instruction encodes to the
decoded word without them, and words with the same other bits decode alike. Neither the mnemonic of
an instruction nor the record that traces it forgets anything more. -/
theorem decode_retains_used_bits :
    (∀ word, encode (decode word) = Word.canonical word ∧
      decode (Word.canonical word) = decode word) ∧
    (∀ first second,
      (decode first = decode second ↔ Word.canonical first = Word.canonical second) ∧
      (Word.canonical first = Word.canonical second ↔
        (decode first).mnemonic = (decode second).mnemonic)) ∧
    ∀ pc pc' word word' instruction instruction',
      (Record.fetched pc word instruction).text = (Record.fetched pc' word' instruction').text ↔
        pc = pc' ∧ word = word' ∧ instruction = instruction' := by
  refine ⟨fun word => ⟨encode_decode word, decode_canonical word⟩, fun first second => ?_, ?_⟩
  · refine ⟨decode_inj first second, fun same => ?_, fun same => ?_⟩
    · rw [(decode_inj first second).mpr same]
    · exact (decode_inj first second).mp (eq_of_words (congrArg Listing.wordsOf same))
  · intro pc pc' word word' instruction instruction'
    refine ⟨Record.fetched_inj, ?_⟩
    rintro ⟨rfl, rfl, rfl⟩
    rfl

end Instruction

end Chip8
