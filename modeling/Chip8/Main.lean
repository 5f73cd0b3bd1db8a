import Chip8.CommandLine
import Chip8.Files

/-!
# The program

The command as a program: it reads the file that the arguments name, measures the time, and prints.
-/

namespace Chip8.Program

open CommandLine

/-- The fault behind a failure to read a file. -/
def ioFault : IO.Error → IoFault
  | .noFileOrDirectory .. => .missing
  | .permissionDenied .. => .system 13 "PermissionDenied" "Permission denied"
  | .inappropriateType .. => .isDirectory
  | error => .other (toString error)

/-- Reads a file. -/
def readFile (path : String) : IO (Except IoFault (List UInt8)) := do
  if let some fault := Files.pathFault? path then return .error fault
  try
    return .ok (← IO.FS.readBinFile path).toList
  catch error => return .error (ioFault error)

/-- A secret from the operating system's random numbers. -/
def freshSecret : IO Secret := do
  let bytes ← IO.getRandomBytes 32
  let word (index : Fin 8) : UInt32 :=
    (List.range 4).foldl
      (fun word offset => word * 256 + (bytes.data[4 * index.val + offset]?.getD 0).toUInt32) 0
  return Vector.ofFn word

/-- A number of nanoseconds in milliseconds, with as many decimals as it needs. -/
def milliseconds (nanoseconds : Nat) : String :=
  let decimals := Numeral.padded 6 (Nat.toDigits 10 (nanoseconds % 1000000))
  let needed := (decimals.toList.reverse.dropWhile (· == '0')).reverse
  toString (nanoseconds / 1000000)
    ++ (if needed.isEmpty then "" else "." ++ String.ofList needed)

/-- What reading the file that the arguments name yields. -/
def readRom (arguments : List String) : IO (Except IoFault (List UInt8)) :=
  match romOf? arguments with
  | some rom => readFile rom
  | none => return .error .missing

end Chip8.Program

def main (arguments : List String) : IO UInt32 := do
  let contents ← Chip8.Program.readRom arguments
  let entropy ← Chip8.Program.freshSecret
  let start ← IO.monoNanosNow
  let response := Chip8.CommandLine.respond arguments (fun _ => contents) entropy
  if response.status = 0 then
    let stop ← IO.monoNanosNow
    IO.println ("time taken: " ++ Chip8.Program.milliseconds (stop - start) ++ "ms")
  IO.print response.output
  unless response.errors.isEmpty do IO.eprintln response.errors
  return UInt32.ofNat response.status
