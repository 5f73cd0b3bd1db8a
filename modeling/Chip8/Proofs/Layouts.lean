import Chip8.Yaml

/-!
# Layouts and their definitions

A layout is made only of definitions that name either a key or an action, and the first definition
that does not is the one at fault (`InputMap.exists_blamed`). What the definitions do and the host
keys that they list stand in two tables; a host key is looked up in one and leads into the other by
an index that is always in range (`KeyTable.Describes.inRange`). The lookup finds the first
definition that lists the key (`InputMap.first_definition_wins`).
-/

namespace Chip8

namespace Definition

/-- A definition names a key or an action, but not both. -/
def IsValid (definition : Definition) : Prop :=
  definition.key?.isSome ≠ definition.action?.isSome

instance : DecidablePred IsValid := fun definition =>
  inferInstanceAs (Decidable (definition.key?.isSome ≠ definition.action?.isSome))

/-- A definition names a key, or an action by its name. -/
def Names (definition : Definition) : Binding → Prop
  | .key key => definition.key? = some key
  | .action name => definition.action? = some name

/-- Whether a host key is among those that a definition is for. -/
def lists (definition : Definition) (key : HostKey) : Bool :=
  (definition.hostKeys.getD []).contains key

/-- A fault blames the definition at an index for the key and action that it names, or for naming
neither. -/
def IsBlamed (definition : Definition) (index : Nat) : InputFault → Prop
  | .both blamed key action =>
    blamed = index ∧ definition.key? = some key ∧ definition.action? = some action
  | .neither blamed => blamed = index ∧ definition.key? = none ∧ definition.action? = none
  | .other _ => False

variable {definition : Definition}

theorem binding_of_isValid (valid : definition.IsValid) (index : Nat) :
    ∃ binding, definition.binding index = .ok binding ∧ definition.Names binding := by
  obtain ⟨key?, action?, hostKeys⟩ := definition
  cases key? with
  | none =>
    cases action? with
    | none => exact absurd rfl valid
    | some action => exact ⟨.action action, rfl, rfl⟩
  | some key =>
    cases action? with
    | none => exact ⟨.key key, rfl, rfl⟩
    | some action => exact absurd rfl valid

theorem binding_of_not_isValid (invalid : ¬ definition.IsValid) (index : Nat) :
    ∃ fault, definition.binding index = .error fault ∧ definition.IsBlamed index fault := by
  obtain ⟨key?, action?, hostKeys⟩ := definition
  cases key? with
  | none =>
    cases action? with
    | none => exact ⟨.neither index, rfl, rfl, rfl, rfl⟩
    | some action => exact absurd Bool.false_ne_true invalid
  | some key =>
    cases action? with
    | none => exact absurd Bool.false_ne_true.symm invalid
    | some action => exact ⟨.both index key action, rfl, rfl, rfl, rfl⟩

/-- A valid definition names one thing. -/
theorem Names.eq {binding other : Binding} (names : definition.Names binding)
    (names' : definition.Names other) (valid : definition.IsValid) : binding = other := by
  cases binding <;> cases other <;> simp_all [Names, IsValid]

/-- The message of a fault starts with the index of the definition that it blames. -/
theorem IsBlamed.message_eq {index : Nat} {fault : InputFault}
    (blamed : definition.IsBlamed index fault) :
    ∃ problem, fault.message = s!"definition {index}: " ++ problem := by
  cases fault with
  | both own key action =>
    obtain ⟨rfl, -⟩ := blamed
    refine ⟨key.name ++ (" is also mapped to action '" ++
      (action ++ "', expected one of chip8 or action")), ?_⟩
    change s!"definition {own}: " ++ key.name ++ " is also mapped to action '" ++ action ++ _ = _
    rw [String.append_assoc, String.append_assoc, String.append_assoc]
  | neither own =>
    obtain ⟨rfl, -⟩ := blamed
    have marked : ": expected one of chip8 or action" = ": " ++ "expected one of chip8 or action" :=
      by decide
    refine ⟨"expected one of chip8 or action", ?_⟩
    change "definition " ++ toString own ++ ": expected one of chip8 or action" = _
    rw [marked]
    exact String.append_assoc.symm
  | other => exact blamed.elim

end Definition

namespace KeyTable

/-! ## The table of bindings -/

theorem bindingsFrom_cons (start : Nat) (first : Definition) (rest : List Definition) :
    bindingsFrom start (first :: rest) = do
      let binding ← first.binding start
      let later ← bindingsFrom (start + 1) rest
      return binding :: later := by
  rw [bindingsFrom, List.zipIdx_cons, List.mapM_cons]
  rfl

/-- Valid definitions have their bindings at their own places. -/
theorem bindingsFrom_of_valid {definitions : List Definition}
    (valid : ∀ definition ∈ definitions, definition.IsValid) (start : Nat) :
    ∃ bindings, bindingsFrom start definitions = .ok bindings ∧
      bindings.length = definitions.length ∧
      ∀ (index : Nat) (definition : Definition), definitions[index]? = some definition →
        ∃ binding, bindings[index]? = some binding ∧ definition.Names binding := by
  induction definitions generalizing start with
  | nil => exact ⟨[], rfl, rfl, nofun⟩
  | cons first rest ih =>
    rw [List.forall_mem_cons] at valid
    obtain ⟨binding, own, names⟩ := Definition.binding_of_isValid valid.1 start
    obtain ⟨later, others, length, placed⟩ := ih valid.2 (start + 1)
    refine ⟨binding :: later, ?_, congrArg (· + 1) length, ?_⟩
    · rw [bindingsFrom_cons, own, others]
      rfl
    · rintro (_ | index) definition found
      · cases found
        exact ⟨binding, rfl, names⟩
      · exact placed index definition found

/-- The first definition that is not valid is at fault. -/
theorem bindingsFrom_of_invalid {before : List Definition}
    (valid : ∀ definition ∈ before, definition.IsValid) {definition : Definition}
    (invalid : ¬ definition.IsValid) (after : List Definition) (start : Nat) :
    ∃ fault, bindingsFrom start (before ++ definition :: after) = .error fault ∧
      definition.IsBlamed (start + before.length) fault := by
  -- The index of the definition at fault stays the same while those before it are passed.
  induction before generalizing start with
  | nil =>
    obtain ⟨fault, own, blamed⟩ := Definition.binding_of_not_isValid invalid start
    refine ⟨fault, ?_, blamed⟩
    rw [List.nil_append, bindingsFrom_cons, own]
    rfl
  | cons first rest ih =>
    rw [List.forall_mem_cons] at valid
    obtain ⟨binding, own, -⟩ := Definition.binding_of_isValid valid.1 start
    obtain ⟨fault, later, blamed⟩ := ih valid.2 (start + 1)
    refine ⟨fault, ?_, ?_⟩
    · rw [List.cons_append, bindingsFrom_cons, own, later]
      rfl
    · rwa [List.length_cons, ← Nat.add_assoc, Nat.add_right_comm]

/-! ## The table of host keys -/

variable (key : HostKey)

theorem keysFrom_cons (start : Nat) (first : Definition) (rest : List Definition) :
    keysFrom start (first :: rest) =
      (first.hostKeys.getD []).map (fun key => (key, start)) ++ keysFrom (start + 1) rest := by
  cases listed : first.hostKeys with
  | none => simp [keysFrom, List.zipIdx_cons, listed]
  | some keys => simp [keysFrom, List.zipIdx_cons, listed]

theorem find?_beq (keys : List HostKey) :
    keys.find? (· == key) = if keys.contains key then some key else none := by
  induction keys with
  | nil => rfl
  | cons first rest ih =>
    by_cases same : first = key
    · simp [same]
    · have other : (first == key) = false := beq_eq_false_iff_ne.mpr same
      have other' : (key == first) = false := beq_eq_false_iff_ne.mpr (Ne.symm same)
      rw [List.find?_cons, List.contains_cons, other, other', ih, Bool.false_or]

/-- The first entry of a host key points at the first definition that lists it. -/
theorem find?_keysFrom (start : Nat) (definitions : List Definition) :
    (keysFrom start definitions).find? (fun entry => entry.1 == key) =
      (definitions.findIdx? (·.lists key)).map fun index => (key, start + index) := by
  induction definitions generalizing start with
  | nil => rfl
  | cons first rest ih =>
    have own : ((first.hostKeys.getD []).map fun key => (key, start)).find?
        (fun entry => entry.1 == key) = if first.lists key then some (key, start) else none := by
      rw [List.find?_map, Function.comp_def, find?_beq, ← Definition.lists]
      cases first.lists key <;> rfl
    -- A definition without a list adds no entries, like one whose list does not have the key.
    rw [keysFrom_cons, List.find?_append, own, ih, List.findIdx?_cons]
    cases first.lists key with
    | true => rfl
    | false => simp [Function.comp_def, Nat.add_comm, Nat.add_left_comm]

theorem index_lt_of_mem_keysFrom {start : Nat} {definitions : List Definition}
    {entry : HostKey × Nat} (mem : entry ∈ keysFrom start definitions) :
    entry.2 < start + definitions.length := by
  induction definitions generalizing start with
  | nil => cases mem
  | cons first rest ih =>
    rw [keysFrom_cons, List.mem_append, List.mem_map] at mem
    rw [List.length_cons]
    rcases mem with ⟨key, -, rfl⟩ | later
    · omega
    · have := ih later
      omega

/-- Every index leads into the table of bindings. -/
def InRange (table : KeyTable) : Prop := ∀ entry ∈ table.keys, entry.2 < table.bindings.length

theorem binding?_resolve {table : KeyTable} (inRange : table.InRange) :
    table.resolve.binding? key = table.binding? key := by
  obtain ⟨bindings, keys⟩ := table
  unfold InRange at inRange
  simp only [resolve, InputMap.binding?, binding?]
  induction keys with
  | nil => rfl
  | cons entry rest ih =>
    rw [List.forall_mem_cons] at inRange
    have found : bindings[entry.2]? = some bindings[entry.2] := List.getElem?_eq_getElem inRange.1
    rw [List.filterMap_cons, found, Option.map_some, List.lookup_cons, List.find?_cons,
      BEq.comm, ih inRange.2]
    cases entry.1 == key with
    | false => rfl
    | true => exact found.symm

/-! ## Both tables -/

variable {definitions : List Definition} {table : KeyTable}

/-- The tables of valid definitions: the bindings at the places of the definitions, and the first
entry of a host key at the first definition that lists it. -/
structure Describes (table : KeyTable) (definitions : List Definition) : Prop where
  length_eq : table.bindings.length = definitions.length
  named : ∀ (index : Nat) (definition : Definition), definitions[index]? = some definition →
    ∃ binding, table.bindings[index]? = some binding ∧ definition.Names binding
  keys_eq : table.keys = keysFrom 0 definitions

theorem Describes.inRange (describes : table.Describes definitions) : table.InRange := by
  intro entry mem
  rw [describes.keys_eq] at mem
  rw [describes.length_eq]
  simpa using index_lt_of_mem_keysFrom mem

theorem exists_describes (valid : ∀ definition ∈ definitions, definition.IsValid) :
    ∃ table, ofDefinitions definitions = .ok table ∧ table.Describes definitions := by
  obtain ⟨bindings, made, length, named⟩ := bindingsFrom_of_valid valid 0
  refine ⟨⟨bindings, keysFrom 0 definitions⟩, ?_, length, named, rfl⟩
  rw [ofDefinitions, made]
  rfl

theorem Describes.binding?_eq (describes : table.Describes definitions) (key : HostKey) :
    table.binding? key = (definitions.findIdx? (·.lists key)).bind (table.bindings[·]?) := by
  rw [binding?, describes.keys_eq, find?_keysFrom]
  cases definitions.findIdx? (·.lists key) with
  | none => rfl
  | some index =>
    rw [Option.map_some, Nat.zero_add]
    rfl

end KeyTable

namespace InputMap

variable {definitions : List Definition}

/-- A host key does what the first definition names that lists it. -/
structure Follows (inputMap : InputMap) (definitions : List Definition) : Prop where
  unbound : ∀ key, definitions.find? (·.lists key) = none → inputMap.binding? key = none
  bound : ∀ key definition, definitions.find? (·.lists key) = some definition →
    ∃ binding, inputMap.binding? key = some binding ∧ definition.Names binding

theorem follows_resolve {table : KeyTable} (describes : table.Describes definitions) :
    table.resolve.Follows definitions := by
  constructor
  case unbound =>
    intro key none
    rw [KeyTable.binding?_resolve key describes.inRange, describes.binding?_eq,
      List.findIdx?_eq_none_iff.mpr (by simpa using none)]
    rfl
  case bound =>
    intro key definition found
    rw [List.find?_eq_bind_findIdx?_getElem?] at found
    obtain ⟨index, first, place⟩ := Option.bind_eq_some_iff.mp found
    rw [KeyTable.binding?_resolve key describes.inRange, describes.binding?_eq, first]
    exact describes.named index definition place

/-- A list of valid definitions makes a layout. -/
theorem exists_layout (valid : ∀ definition ∈ definitions, definition.IsValid) :
    ∃ table, KeyTable.ofDefinitions definitions = .ok table ∧ table.Describes definitions ∧
      ofDefinitions definitions = .ok table.resolve := by
  obtain ⟨table, made, describes⟩ := KeyTable.exists_describes valid
  exact ⟨table, made, describes, by rw [ofDefinitions, made]; rfl⟩

/-- The fault blames the first definition that is not valid. -/
structure BlamesFirst (definitions : List Definition) (fault : InputFault) (index : Nat)
    (definition : Definition) : Prop where
  found : definitions[index]? = some definition
  invalid : ¬ definition.IsValid
  first : ∀ earlier ∈ definitions.take index, earlier.IsValid
  blamed : definition.IsBlamed index fault
  message : ∃ problem, fault.message = s!"definition {index}: " ++ problem

theorem exists_blamed (invalid : ¬ ∀ definition ∈ definitions, definition.IsValid) :
    ∃ fault index definition, BlamesFirst definitions fault index definition ∧
      KeyTable.ofDefinitions definitions = .error fault ∧
      ofDefinitions definitions = .error fault := by
  obtain ⟨definition, found⟩ : ∃ definition,
      definitions.find? (fun definition => ¬ definition.IsValid) = some definition := by
    rw [← Option.isSome_iff_exists, List.find?_isSome]
    simpa using invalid
  obtain ⟨faulty, before, after, rfl, valid⟩ := List.find?_eq_some_iff_append.mp found
  have faulty : ¬ definition.IsValid := of_decide_eq_true faulty
  have valid : ∀ earlier ∈ before, earlier.IsValid := by simpa using valid
  obtain ⟨fault, made, blamed⟩ := KeyTable.bindingsFrom_of_invalid valid faulty after 0
  rw [Nat.zero_add] at blamed
  have failed : KeyTable.ofDefinitions (before ++ definition :: after) = .error fault := by
    rw [KeyTable.ofDefinitions, made]
    rfl
  refine ⟨fault, before.length, definition, ⟨?_, faulty, ?_, blamed, blamed.message_eq⟩,
    failed, ?_⟩
  · rw [List.getElem?_append_right (Nat.le_refl _), Nat.sub_self]
    rfl
  · rwa [List.take_left]
  · rw [ofDefinitions, failed]
    rfl

variable {inputMap : InputMap} {key : HostKey} {pressed : Bool}

theorem event?_eq_none_iff (follows : inputMap.Follows definitions) :
    inputMap.event? key pressed = none ↔
      ∀ definition ∈ definitions, definition.lists key = false := by
  have listed : definitions.find? (·.lists key) = none ↔
      ∀ definition ∈ definitions, definition.lists key = false := by
    simp
  rw [event?, Option.map_eq_none_iff, ← listed]
  constructor
  · intro unbound
    cases found : definitions.find? (·.lists key) with
    | none => rfl
    | some definition =>
      obtain ⟨binding, bound, -⟩ := follows.bound key definition found
      rw [unbound] at bound
      cases bound
  · exact follows.unbound key

theorem event?_eq_some_iff (valid : ∀ definition ∈ definitions, definition.IsValid)
    (follows : inputMap.Follows definitions) {event : InputEvent} :
    inputMap.event? key pressed = some event ↔
      event.pressed = pressed ∧ ∃ definition,
        definitions.find? (·.lists key) = some definition ∧ definition.Names event.binding := by
  rw [event?, Option.map_eq_some_iff]
  constructor
  · rintro ⟨binding, bound, rfl⟩
    cases found : definitions.find? (·.lists key) with
    | none =>
      rw [follows.unbound key found] at bound
      cases bound
    | some definition =>
      obtain ⟨own, bound', names⟩ := follows.bound key definition found
      rw [bound] at bound'
      cases bound'
      exact ⟨rfl, definition, rfl, names⟩
  · rintro ⟨rfl, definition, found, names⟩
    obtain ⟨binding, bound, names'⟩ := follows.bound key definition found
    obtain rfl := names.eq names' (valid definition (List.mem_of_find?_eq_some found))
    exact ⟨event.binding, bound, rfl⟩

/-- Reading a text makes the layout of the definitions that it parses as, or fails with the fault in
them; a text that does not parse is refused for that. A list of definitions makes a layout unless
one of them names both a key and an action or neither, and then the first such definition is at
fault. In a layout, pressing or releasing a host key means what the first definition names that
lists the key, and nothing if none does; the tables behind it hold no index out of range. -/
theorem first_definition_wins (parse : String → Except String (List Definition))
    (definitions : List Definition) :
    (∀ text, parse text = .ok definitions →
      ofText parse text = (ofDefinitions definitions).mapError Failure.input) ∧
    (∀ text description, parse text = .error description →
      ofText parse text = .error (.document description)) ∧
    ((∃ fault, ofDefinitions definitions = .error fault) ↔
      ∃ definition ∈ definitions, ¬ definition.IsValid) ∧
    (∀ fault, ofDefinitions definitions = .error fault →
      ∃ index definition, BlamesFirst definitions fault index definition) ∧
    (∀ inputMap, ofDefinitions definitions = .ok inputMap → ∀ key pressed,
      (inputMap.event? key pressed = none ↔
        ∀ definition ∈ definitions, definition.lists key = false) ∧
      ∀ event, inputMap.event? key pressed = some event ↔
        event.pressed = pressed ∧ ∃ definition,
          definitions.find? (·.lists key) = some definition ∧ definition.Names event.binding) ∧
    ∀ table, KeyTable.ofDefinitions definitions = .ok table →
      ∀ entry ∈ table.keys, entry.2 < table.bindings.length := by
  refine ⟨fun text parsed => by rw [ofText, parsed], fun text description refused => by
    rw [ofText, refused], ?_⟩
  by_cases valid : ∀ definition ∈ definitions, definition.IsValid
  case pos =>
    obtain ⟨table, tabulated, describes, made⟩ := exists_layout valid
    have follows := follows_resolve describes
    rw [tabulated, made]
    refine ⟨⟨nofun, ?_⟩, nofun, ?_, ?_⟩
    · rintro ⟨definition, mem, invalid⟩
      exact absurd (valid definition mem) invalid
    · rintro inputMap ⟨⟩ key pressed
      exact ⟨event?_eq_none_iff follows, fun event => event?_eq_some_iff valid follows⟩
    · rintro table ⟨⟩
      exact describes.inRange
  case neg =>
    obtain ⟨fault, index, definition, blames, untabulated, failed⟩ := exists_blamed valid
    rw [untabulated, failed]
    refine ⟨⟨fun _ => ?_, fun _ => ⟨fault, rfl⟩⟩, ?_, nofun, nofun⟩
    · exact ⟨definition, List.mem_of_getElem? blames.found, blames.invalid⟩
    · rintro fault ⟨⟩
      exact ⟨index, definition, blames⟩

/-- One key is listed three times and another one after a definition without a list. A definition at
the end that names nothing is at fault. -/
theorem first_of_repeated_keys :
    let up : HostKey := ⟨"Up", by decide⟩
    let w : HostKey := ⟨"W", by decide⟩
    let q : HostKey := ⟨"Q", by decide⟩
    let text :=
      "- chip8: 5\n  keyboard_keys: [Up, Up]\n- action: pause\n" ++
      "- chip8: 6\n  keyboard_keys: [Up, W]\n"
    let definitions : List Definition :=
      [{ key? := some 5, hostKeys := some [up, up] }, { action? := some "pause" },
        { key? := some 6, hostKeys := some [up, w] }]
    let faulty : List Definition := definitions ++ [{ hostKeys := some [q] }]
    (∃ inputMap, Yaml.basic.definitions text = .ok definitions ∧
      ofText Yaml.basic.definitions text = .ok inputMap ∧
      inputMap.event? up true = some ⟨.key 5, true⟩ ∧
      inputMap.event? w false = some ⟨.key 6, false⟩ ∧ inputMap.event? q true = none) ∧
    ∃ fault definition, ofDefinitions faulty = .error fault ∧
      BlamesFirst faulty fault 3 definition := by
  intro up w q text definitions faulty
  obtain ⟨reads, -, -, -, resolves, -⟩ := first_definition_wins Yaml.basic.definitions definitions
  obtain ⟨-, -, -, blames, -⟩ := first_definition_wins Yaml.basic.definitions faulty
  have parsed : Yaml.basic.definitions text = .ok definitions :=
    Yaml.described_eq_ok_iff.mpr (by decide +kernel)
  refine ⟨⟨_, parsed, reads text parsed, ?_, ?_, ?_⟩, ?_⟩
  · exact ((resolves _ rfl up true).2 _).mpr ⟨rfl, _, rfl, rfl⟩
  · exact ((resolves _ rfl w false).2 _).mpr ⟨rfl, _, rfl, rfl⟩
  · exact (resolves _ rfl q true).1.mpr (by decide)
  · obtain ⟨index, definition, blamed⟩ := blames _ rfl
    obtain rfl : index = 3 := blamed.blamed.1.symm
    exact ⟨_, definition, rfl, blamed⟩

end InputMap

end Chip8
