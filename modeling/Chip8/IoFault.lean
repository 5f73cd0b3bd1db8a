import Chip8.Text

/-!
# Input and output faults

The failures of reading and writing files and devices, with their messages and diagnostic forms.
-/

namespace Chip8

/-- Failures of reading or writing outside of the machine. -/
inductive IoFault where
  /-- The operating system refused, with its error number, kind and description. -/
  | system (number : Nat) (kind description : String)
  /-- Bytes that should be text are not UTF-8. -/
  | notText
  /-- A file name holds the character that ends names for the operating system. -/
  | invalidName
  /-- Any other failure, by its description. -/
  | other (description : String)
  deriving DecidableEq, Repr

namespace IoFault

/-- The named file does not exist. -/
def missing : IoFault := .system 2 "NotFound" "No such file or directory"

/-- A name within a path is not a directory, although more names follow. -/
def notDirectory : IoFault := .system 20 "NotADirectory" "Not a directory"

/-- The path is that of a directory. -/
def isDirectory : IoFault := .system 21 "IsADirectory" "Is a directory"

/-- A path, or a name within it, has too many bytes. -/
def nameTooLong : IoFault := .system 36 "InvalidFilename" "File name too long"

/-- The device that is written to is full. -/
def deviceFull : IoFault := .system 28 "StorageFull" "No space left on device"

/-- The failure in words. -/
def message : IoFault → String
  | .system number _ description => s!"{description} (os error {number})"
  | .notText => "stream did not contain valid UTF-8"
  | .invalidName => "file name contained an unexpected NUL byte"
  | .other description => description

/-- The diagnostic form. -/
def diagnostic : IoFault → String
  | .system number kind description =>
    s!"Os \x7b code: {number}, kind: {kind}, message: " ++ Text.quoted description ++ " \x7d"
  | .notText =>
    "Error \x7b kind: InvalidData, message: "
      ++ Text.quoted "stream did not contain valid UTF-8" ++ " \x7d"
  | .invalidName =>
    "Error \x7b kind: InvalidInput, message: "
      ++ Text.quoted "file name contained an unexpected NUL byte" ++ " \x7d"
  | .other description =>
    "Custom \x7b kind: Other, error: " ++ Text.quoted description ++ " \x7d"

end IoFault

/-- The text that bytes encode. -/
def Text.ofBytes (bytes : List UInt8) : Except IoFault String :=
  match String.fromUTF8? ⟨bytes.toArray⟩ with
  | some text => .ok text
  | none => .error .notText

end Chip8
