import Chip8.IoFault

/-!
# Files

The files that a program can see. A path is followed name by name, from the directory that holds the
files; whatever else there is in other directories cannot be read.
-/

namespace Chip8

/-- The files that a program can see. -/
structure Files where
  read : String → Except IoFault (List UInt8)
  contains : String → Bool

namespace Files

/-- The most bytes of a path. -/
def pathLimit : Nat := 4095

/-- The most bytes of a name within a path. -/
def nameLimit : Nat := 255

/-- The reason why a path names nothing, whatever files there are. -/
def pathFault? (path : String) : Option IoFault :=
  if path.toList.contains '\x00' then some .invalidName
  else if path.isEmpty then some .missing
  else if pathLimit < path.utf8ByteSize then some .nameTooLong
  else none

/-- The names within a path, which slashes part. -/
def names : List Char → List (List Char)
  | [] => [[]]
  | char :: rest =>
    if char == '/' then [] :: names rest
    else
      match names rest with
      | [] => [[char]]
      | first :: later => (char :: first) :: later

/-- Follows names from a directory, which is the one of the files or one outside of it. -/
def follow (entries : List (String × List UInt8)) :
    (inside : Bool) → List String → Except IoFault (List UInt8)
  | _, [] => .error .isDirectory
  | inside, name :: later =>
    if name.isEmpty || name == "." then follow entries inside later
    else if name == ".." then follow entries false later
    else if nameLimit < name.utf8ByteSize then .error .nameTooLong
    else
      match if inside then entries.lookup name else none with
      | none => .error .missing
      | some contents => if later.isEmpty then .ok contents else .error .notDirectory

/-- What reading a path yields; a path that starts with a slash starts outside. -/
def find (entries : List (String × List UInt8)) (path : String) : Except IoFault (List UInt8) :=
  match pathFault? path with
  | some fault => .error fault
  | none => follow entries (path.toList.head? != some '/') ((names path.toList).map String.ofList)

/-- The files of a directory, by their names. -/
def ofEntries (entries : List (String × List UInt8)) : Files where
  read := find entries
  contains := fun path => (find entries path).isOk

end Files

end Chip8
