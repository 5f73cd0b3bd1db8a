import Chip8.Document.Reader
import Chip8.InputMap
import Chip8.Settings

/-!
# The YAML library

Settings and keyboard layouts are written in YAML. The library that parses their texts is not part
of the application, which can do with any; `Yaml.basic` is one for documents without anchors, tags,
block scalars and directives.
-/

namespace Chip8

/-- A library, by what it makes of texts: a value, or a description of why there is none. -/
structure Yaml where
  settings : String → Except String Settings
  definitions : String → Except String (List Definition)

namespace Yaml

/-- The value in a document, or else a description that fits every document. -/
def described {α : Type} (value? : Option α) : Except String α :=
  match value? with
  | some value => .ok value
  | none => .error "malformed document"

theorem described_eq_ok_iff {α : Type} {value? : Option α} {value : α} :
    described value? = .ok value ↔ value? = some value := by
  cases value? with
  | none => exact iff_of_false nofun nofun
  | some other => rw [described, Except.ok.injEq, Option.some.injEq]

/-- The library for the documents that `Document.read?` reads. -/
def basic : Yaml where
  settings text := described ((Document.read? text).bind Settings.ofNode?)
  definitions text := described <|
    ((Document.read? text).bind Document.Node.items?).bind (List.mapM InputMap.definitionOfNode?)

end Yaml

end Chip8
