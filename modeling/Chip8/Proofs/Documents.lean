import Chip8.Proofs.Document.Reader
import Chip8.Yaml

/-!
# Settings and layouts as documents

There is a document for all settings of 64-bit words (`Yaml.settings_basic_document`) and for every
list of definitions of a layout (`Yaml.definitions_basic_document`), so none is out of reach of the
application.
-/

namespace Chip8

open Document

namespace Document

/-- Decimal numerals are integers. -/
theorem Scalar.int?_toString (value : Nat) : Scalar.int? (toString value) = some (value : Int) := by
  rcases Nat.eq_zero_or_pos value with rfl | positive
  · rfl
  obtain ⟨first, rest, digits, isDigit, other⟩ := Numeral.exists_toDigits_eq_cons positive
  have toList : (toString value).toList = first :: rest := by
    rw [Nat.toString_eq_repr, Nat.toList_repr, digits]
  have read := Numeral.ofDigits?_toString value
  rw [toList] at read
  have magnitude : Scalar.magnitude? (first :: rest) = some value := by
    rw [Scalar.magnitude?]
    · exact read
    all_goals simp [other]
  have unsigned : first ≠ '+' ∧ first ≠ '-' := by
    constructor <;> (rintro rfl; cases isDigit)
  rw [Scalar.int?, toList]
  split
  · simp_all
  · simp_all
  · rw [magnitude]
    rfl

/-- Among texts that are no integers there is no decimal numeral. -/
theorem Scalar.toString_not_mem {texts : List String}
    (others : ∀ text ∈ texts, Scalar.int? text = none) (value : Nat) :
    toString value ∉ texts := by
  intro mem
  have none := others _ mem
  rw [Scalar.int?_toString] at none
  cases none

/-- Decimal numerals are no truth values. -/
theorem Scalar.bool?_toString (value : Nat) : Scalar.bool? (toString value) = none := by
  rw [Scalar.bool?, if_neg (Scalar.toString_not_mem (by decide) value),
    if_neg (Scalar.toString_not_mem (by decide) value)]

namespace Node

/-- A number as a scalar. -/
def ofNat (value : Nat) : Node := .plain (toString value)

/-- A value that may be left out. -/
def ofOption {α : Type} (write : α → Node) : Option α → Node
  | none => .plain "null"
  | some value => write value

/-- Fields with names as a mapping. -/
def ofFields (fields : List (String × Node)) : Node :=
  .mapping (fields.map fun field => (.plain field.1, field.2))

variable {value : Nat}

theorem isNull_ofNat (value : Nat) : (ofNat value).isNull = false :=
  decide_eq_false (Scalar.toString_not_mem (by decide) value)

theorem int?_ofNat (value : Nat) : (ofNat value).int? = some (value : Int) :=
  Scalar.int?_toString value

theorem word?_ofNat (word : value ≤ Numeral.wordLimit) : (ofNat value).word? = some value := by
  simp [word?, int?_ofNat, word]

theorem unsigned?_ofNat (word : value ≤ Numeral.wordLimit) :
    (ofNat value).unsigned? = some value := by
  have unsigned : '-' ∉ (toString value).toList :=
    Numeral.not_mem_of_digit? (Numeral.ofDigits?_toString value) rfl
  rw [ofNat, unsigned?, if_neg fun first => unsigned (List.mem_of_head? first)]
  exact word?_ofNat word

theorem isBounded_ofNat (word : value ≤ Numeral.wordLimit) (depth : Nat) :
    isBounded depth (ofNat value) = true := by
  have below : value < Numeral.span64 := Nat.lt_of_le_of_lt word (by decide)
  rw [ofNat, isBounded, Scalar.isWide, Scalar.int?_toString]
  simp [Nat.not_le_of_lt below]

theorem isWritable_ofNat (value : Nat) : (ofNat value).isWritable = true := by
  have digits : (toString value).toList = Nat.toDigits 10 value := by
    rw [Nat.toString_eq_repr, Nat.toList_repr]
  rw [ofNat, isWritable, isWord, digits, Bool.and_eq_true, Bool.not_eq_true',
    List.isEmpty_eq_false_iff, List.all_eq_true]
  refine ⟨Nat.toDigits_ne_nil, fun char mem => ?_⟩
  have isDigit : char.isDigit = true := Nat.isDigit_of_mem_toDigits (by decide) (by decide) mem
  rw [isWordChar, Char.isAlphanum, isDigit, Bool.or_true, Bool.true_or]

theorem isWritable_ofOption {α : Type} {write : α → Node} {value? : Option α}
    (writable : ∀ value ∈ value?, (write value).isWritable = true) :
    (ofOption write value?).isWritable = true := by
  cases value? with
  | none => rfl
  | some value => exact writable value rfl

theorem optional?_ofOption {α : Type} {write : α → Node} {read : Node → Option α}
    {value? : Option α}
    (back : ∀ value ∈ value?, (write value).isNull = false ∧ read (write value) = some value) :
    optional? read (ofOption write value?) = some value? := by
  cases value? with
  | none => rfl
  | some value =>
    obtain ⟨present, same⟩ := back value rfl
    simp [optional?, ofOption, present, same]

theorem fields?_ofFields (fields : List (String × Node)) :
    (ofFields fields).fields? = some fields := by
  rw [ofFields, fields?]
  induction fields with
  | nil => rfl
  | cons field fields ih =>
    rw [List.map_cons, List.mapM_cons, ih]
    rfl

theorem isWritable_ofFields {fields : List (String × Node)}
    (writable : ∀ field ∈ fields, isWord field.1 = true ∧ field.2.isWritable = true) :
    (ofFields fields).isWritable = true := by
  rw [ofFields, isWritable]
  induction fields with
  | nil => rfl
  | cons field fields ih =>
    rw [List.forall_mem_cons] at writable
    rw [List.map_cons, areWritableEntries, isWritable, writable.1.1, writable.1.2, ih writable.2]
    rfl

end Node

/-- What is written value by value is read back value by value. -/
theorem mapM_map_of_back {α : Type} {write : α → Node} {read : Node → Option α}
    (back : ∀ value, read (write value) = some value) (values : List α) :
    (values.map write).mapM read = some values := by
  induction values with
  | nil => rfl
  | cons value values ih =>
    rw [List.map_cons, List.mapM_cons, back, ih]
    rfl

end Document

namespace Settings

/-- The numbers of the settings are 64-bit words. -/
structure AreWords (settings : Settings) : Prop where
  scale : settings.scale ≤ Numeral.wordLimit
  instructionRate : settings.config.instructionRate.perSecond ≤ Numeral.wordLimit
  timerRate : settings.config.timerRate.perSecond ≤ Numeral.wordLimit
  seed : ∀ seed ∈ settings.config.seed?, seed ≤ Numeral.wordLimit

/-- All fields of settings. -/
def fields (settings : Settings) : List (String × Node) := [
  ("rom", .ofOption .quoted settings.rom?),
  ("input_map", .ofOption .quoted settings.inputMap?),
  ("scale", .ofNat settings.scale),
  ("instructions_per_second", .ofNat settings.config.instructionRate.perSecond),
  ("timer_frequency", .ofNat settings.config.timerRate.perSecond),
  ("rng_seed", .ofOption .ofNat settings.config.seed?)]

theorem ofNode?_fields {settings : Settings} (words : settings.AreWords) :
    ofNode? (.ofFields settings.fields) = some settings := by
  have rom : Node.optional? Node.text? (.ofOption .quoted settings.rom?) = some settings.rom? :=
    Node.optional?_ofOption fun _ _ => ⟨rfl, rfl⟩
  have inputMap : Node.optional? Node.text? (.ofOption .quoted settings.inputMap?) =
      some settings.inputMap? := Node.optional?_ofOption fun _ _ => ⟨rfl, rfl⟩
  have seed : Node.optional? Node.word? (.ofOption .ofNat settings.config.seed?) =
      some settings.config.seed? :=
    Node.optional?_ofOption fun seed held =>
      ⟨Node.isNull_ofNat seed, Node.word?_ofNat (words.seed seed held)⟩
  have bounded : Node.isBounded depthLimit (.ofOption .ofNat settings.config.seed?) = true := by
    cases held : settings.config.seed? with
    | none => rfl
    | some seed => exact Node.isBounded_ofNat (words.seed seed held) depthLimit
  have kept : (settings.fields.all fun field =>
      field.1 ∈ ownFields || field.2.isBounded depthLimit) = true := by
    simp [fields, ownFields, bounded, Node.isBounded_ofNat words.instructionRate,
      Node.isBounded_ofNat words.timerRate]
  rw [ofNode?, Node.fields?_ofFields]
  refine (guard_bind kept _).trans ?_
  simp [fields, field?, Config.ofFields?, rom, inputMap, seed, Node.unsigned?_ofNat words.scale,
    Node.word?_ofNat words.instructionRate, Node.word?_ofNat words.timerRate]

theorem isWritable_fields (settings : Settings) :
    (Node.ofFields settings.fields).isWritable = true := by
  have text (value? : Option String) : (Node.ofOption .quoted value?).isWritable = true :=
    Node.isWritable_ofOption fun _ _ => rfl
  have number (value? : Option Nat) : (Node.ofOption .ofNat value?).isWritable = true :=
    Node.isWritable_ofOption fun value _ => Node.isWritable_ofNat value
  apply Node.isWritable_ofFields
  simp only [fields, List.forall_mem_cons, text, number, Node.isWritable_ofNat]
  decide

end Settings

namespace Definition

/-- All fields of a definition. -/
def fields (definition : Definition) : List (String × Node) := [
  ("chip8", .ofOption (fun key => .ofNat key.val) definition.key?),
  ("action", .ofOption .quoted definition.action?),
  ("keyboard_keys", .ofOption (fun keys => .list (keys.map (.quoted ·.name)))
    definition.hostKeys)]

theorem keyOfNode_ofNat (key : Key) : InputMap.keyOfNode (.ofNat key.val) = .ok key := by
  have known : InputMap.keyOfInt? key.val = some key := dif_pos key.isLt
  have notNull : Scalar.isNull (toString key.val) = false := Node.isNull_ofNat key.val
  rw [Node.ofNat, InputMap.keyOfNode]
  simp only [notNull, Bool.false_eq_true, ↓reduceIte, Scalar.bool?_toString, Scalar.int?_toString,
    known]

theorem definitionOfNode?_fields (definition : Definition) :
    InputMap.definitionOfNode? (.ofFields definition.fields) = some definition := by
  have key : Node.optional? (fun node => (InputMap.keyOfNode node).toOption)
      (.ofOption (fun key => .ofNat key.val) definition.key?) = some definition.key? :=
    Node.optional?_ofOption fun key _ =>
      ⟨Node.isNull_ofNat key.val, by rw [keyOfNode_ofNat]; rfl⟩
  have action : Node.optional? Node.text? (.ofOption .quoted definition.action?) =
      some definition.action? := Node.optional?_ofOption fun _ _ => ⟨rfl, rfl⟩
  have items (keys : List HostKey) :
      (keys.map (Node.quoted ·.name)).mapM (fun item => item.text?.bind HostKey.ofName?) =
        some keys :=
    mapM_map_of_back (fun key => dif_pos key.known) keys
  have hostKeys : Node.optional?
      (fun node => node.items?.bind fun items =>
        items.mapM fun item => item.text?.bind HostKey.ofName?)
      (.ofOption (fun keys => .list (keys.map (.quoted ·.name))) definition.hostKeys) =
        some definition.hostKeys :=
    Node.optional?_ofOption fun keys _ => ⟨rfl, items keys⟩
  rw [InputMap.definitionOfNode?, Node.fields?_ofFields]
  simp [fields, field?, key, action, hostKeys]

theorem isWritable_fields (definition : Definition) :
    (Node.ofFields definition.fields).isWritable = true := by
  have key : (Node.ofOption (fun key : Key => .ofNat key.val) definition.key?).isWritable = true :=
    Node.isWritable_ofOption fun key _ => Node.isWritable_ofNat key.val
  have action : (Node.ofOption .quoted definition.action?).isWritable = true :=
    Node.isWritable_ofOption fun _ _ => rfl
  have hostKeys : (Node.ofOption (fun keys : List HostKey => .list (keys.map (.quoted ·.name)))
      definition.hostKeys).isWritable = true :=
    Node.isWritable_ofOption fun keys _ => areWritable_map keys fun _ => rfl
  apply Node.isWritable_ofFields
  simp only [fields, List.forall_mem_cons, key, action, hostKeys]
  decide

end Definition

namespace Yaml

/-- All settings of words can be written in a settings file. -/
theorem settings_basic_document {settings : Settings} (words : settings.AreWords) :
    basic.settings (Node.ofFields settings.fields).document = .ok settings := by
  rw [basic, described_eq_ok_iff, read?_document settings.isWritable_fields]
  exact Settings.ofNode?_fields words

/-- All lists of definitions can be written in a layout file. -/
theorem definitions_basic_document (definitions : List Definition) :
    basic.definitions (Node.list (definitions.map (.ofFields ·.fields))).document =
      .ok definitions := by
  have writable : (Node.list (definitions.map (.ofFields ·.fields))).isWritable = true :=
    areWritable_map definitions Definition.isWritable_fields
  rw [basic, described_eq_ok_iff, read?_document writable]
  exact mapM_map_of_back Definition.definitionOfNode?_fields definitions

end Yaml

end Chip8
