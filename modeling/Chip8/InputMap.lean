import Chip8.Document.Node
import Chip8.Failure
import Chip8.HostKey

/-!
# Keyboard layouts

What the keys of the host keyboard do: press keys of the keypad, or trigger named actions of the
application. A layout is a list of definitions, and each host key does what the first definition
that lists it says. What a library makes of the text of a layout is given.
-/

namespace Chip8

open Document

/-- What a host key does. -/
inductive Binding where
  /-- Triggers a named action. -/
  | action (name : String)
  /-- Presses a key of the keypad. -/
  | key (key : Key)
  deriving DecidableEq, Repr

namespace Binding

/-- The key of the keypad, if the binding is one. -/
def key? : Binding → Option Key
  | .key pressed => some pressed
  | .action _ => none

/-- Whether the binding is the action with a name; blanks around that name do not count. -/
def isAction (binding : Binding) (name : String) : Bool :=
  match binding with
  | .action own => own == Text.trim name
  | .key _ => false

end Binding

/-- A definition of a layout, as it is written. -/
structure Definition where
  key? : Option Key := none
  action? : Option String := none
  /-- The host keys it is for, if it has a list of them. -/
  hostKeys : Option (List HostKey) := none
  deriving DecidableEq

namespace Definition

/-- What the host keys of a definition do; it must name exactly one of a key and an action. -/
def binding (definition : Definition) (index : Nat) : Except InputFault Binding :=
  match definition.key?, definition.action? with
  | some key, none => .ok (.key key)
  | none, some action => .ok (.action action)
  | some key, some action => .error (.both index key action)
  | none, none => .error (.neither index)

end Definition

/-- A host key that was pressed or released, by what it does. -/
structure InputEvent where
  binding : Binding
  pressed : Bool
  deriving DecidableEq, Repr

/-- A keyboard layout: host keys with what they do, those that come first winning. -/
structure InputMap where
  bindings : List (HostKey × Binding)

/-- The tables of a layout under construction: what each definition does, and the host keys with the
index of their definition there. -/
structure KeyTable where
  bindings : List Binding
  keys : List (HostKey × Nat)

namespace KeyTable

/-- What the definitions do that start at an index. -/
def bindingsFrom (start : Nat) (definitions : List Definition) :
    Except InputFault (List Binding) :=
  (definitions.zipIdx start).mapM fun entry => entry.1.binding entry.2

/-- The host keys of the definitions that start at an index; those without a list are left out. -/
def keysFrom (start : Nat) (definitions : List Definition) : List (HostKey × Nat) :=
  let lists := (definitions.zipIdx start).filterMap fun entry =>
    entry.1.hostKeys.map fun keys => (entry.2, keys)
  lists.flatMap fun entry => entry.2.map fun key => (key, entry.1)

/-- The tables of a list of definitions. -/
def ofDefinitions (definitions : List Definition) : Except InputFault KeyTable := do
  let bindings ← bindingsFrom 0 definitions
  return { bindings, keys := keysFrom 0 definitions }

/-- What a host key does: the binding that its first entry points at. -/
def binding? (table : KeyTable) (key : HostKey) : Option Binding := do
  let entry ← table.keys.find? fun entry => entry.1 == key
  table.bindings[entry.2]?

/-- The layout of the tables. -/
def resolve (table : KeyTable) : InputMap where
  bindings := table.keys.filterMap fun entry =>
    table.bindings[entry.2]?.map fun binding => (entry.1, binding)

end KeyTable

namespace InputMap

/-- The layout of a list of definitions. -/
def ofDefinitions (definitions : List Definition) : Except InputFault InputMap :=
  (KeyTable.ofDefinitions definitions).map KeyTable.resolve

/-- What a host key does, if it is bound. -/
def binding? (inputMap : InputMap) (key : HostKey) : Option Binding :=
  inputMap.bindings.lookup key

/-- The event of pressing or releasing a host key; there is none for a key without a binding. -/
def event? (inputMap : InputMap) (key : HostKey) (pressed : Bool) : Option InputEvent :=
  (inputMap.binding? key).map fun binding => ⟨binding, pressed⟩

/-! ## Layouts in documents -/

/-- The key of the keypad with an integer as its index. -/
def keyOfInt? : Int → Option Key
  | .ofNat index => if h : index < 16 then some ⟨index, h⟩ else none
  | .negSucc _ => none

/-- The key that a document names by its index, or what is wrong there. -/
def keyOfNode (node : Node) : Except String Key :=
  let expected := ", expected a keypad index between 0 and 15"
  let wrongType (found : String) : Except String Key :=
    .error ("invalid type: " ++ found ++ expected)
  match node with
  | .list _ => wrongType "sequence"
  | .mapping _ => wrongType "map"
  | .quoted text => wrongType ("string " ++ Text.quoted text)
  | .plain text | .literal text =>
    if Scalar.isNull text then wrongType "null"
    else
      match Scalar.bool? text, Scalar.int? text with
      | some value, _ => wrongType s!"boolean `{value}`"
      | none, some value =>
        match keyOfInt? value with
        | some key => .ok key
        | none => .error (s!"invalid value: integer `{value}`" ++ expected)
      | none, none => wrongType ("string " ++ Text.quoted text)

/-- A definition in a document. -/
def definitionOfNode? (node : Node) : Option Definition := do
  let fields ← node.fields?
  let key? ← field? fields "chip8" (Node.optional? fun node => (keyOfNode node).toOption) none
  let action? ← field? fields "action" (Node.optional? Node.text?) none
  let hostKeys (node : Node) : Option (List HostKey) := do
    (← node.items?).mapM fun item => item.text?.bind HostKey.ofName?
  let hostKeys? ← field? fields "keyboard_keys" (Node.optional? hostKeys) none
  return { key?, action?, hostKeys := hostKeys? }

/-- Reads a layout, given what a text parses as. -/
def ofText (parse : String → Except String (List Definition)) (text : String) :
    Except Failure InputMap :=
  match parse text with
  | .error description => .error (.document description)
  | .ok definitions => (ofDefinitions definitions).mapError .input

/-- Reads the layout of a file, given what reading the file yields. -/
def ofFile (parse : String → Except String (List Definition))
    (contents : Except IoFault (List UInt8)) : Except Failure InputMap :=
  match contents.bind Text.ofBytes with
  | .ok text => ofText parse text
  | .error cause => .error (.io cause)

/-! ## The built-in layout -/

/-- The name of the action that ends the application. -/
def exitAction : String := "exit"

/-- The document of the built-in layout. -/
def defaultDocument : String := Text.lines [
  "# Keyboard layout for the hexadecimal keypad.",
  "#",
  "#   Q S D F      0 1 2 3",
  "#   W X C V  ->  4 5 6 7",
  "#   A Z E R      8 9 A B",
  "#   U I O P      C D E F",
  "- chip8: 0",
  "  keyboard_keys: [Q]",
  "- chip8: 1",
  "  keyboard_keys: [S]",
  "- chip8: 2",
  "  keyboard_keys: [D]",
  "- chip8: 3",
  "  keyboard_keys: [F]",
  "- chip8: 4",
  "  keyboard_keys: [W]",
  "- chip8: 5",
  "  keyboard_keys: [X]",
  "- chip8: 6",
  "  keyboard_keys: [C]",
  "- chip8: 7",
  "  keyboard_keys: [V]",
  "- chip8: 8",
  "  keyboard_keys: [A]",
  "- chip8: 9",
  "  keyboard_keys: [Z]",
  "- chip8: 10",
  "  keyboard_keys: [E]",
  "- chip8: 11",
  "  keyboard_keys: [R]",
  "- chip8: 12",
  "  keyboard_keys: [U]",
  "- chip8: 13",
  "  keyboard_keys: [I]",
  "- chip8: 14",
  "  keyboard_keys: [O]",
  "- chip8: 15",
  "  keyboard_keys: [P]",
  "",
  "- action: exit",
  "  keyboard_keys: [Escape]"]

/-- The layout that is used when the settings name none. -/
def defaultLayout (parse : String → Except String (List Definition)) : Except Failure InputMap :=
  ofText parse defaultDocument

end InputMap

end Chip8
