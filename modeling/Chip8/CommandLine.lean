import Chip8.Machine.Run

/-!
# Command line

The headless command: it runs a program for a number of frames and prints the display. It stops
early when the program waits for a key, since no key will ever be pressed.
-/

namespace Chip8

/-- What a command prints and the status it ends with. -/
structure Response where
  status : Nat
  output : String
  errors : String
  deriving DecidableEq, Repr

namespace CommandLine

/-- A command with its arguments. -/
inductive Command where
  /-- Run a program file for a number of frames. -/
  | run (rom : String) (frames : Nat)
  deriving DecidableEq, Repr

/-- Frames that are run when the arguments give no number. -/
def defaultFrames : Nat := 60

/-- The version of the interpreter. -/
def version : String := "0.3.0"

/-- How the command is used. -/
def usage : String := "
usage: eightchip run ROM [FRAMES]

commands:
    run     Run the target ROM file headless for a number of
            timer frames (default 60), then print the display

examples:
    eightchip run maze.ch8
    eightchip run breakout.ch8 600
"

/-- Status of a command that is used wrongly. -/
def usageStatus : Nat := 64

/-- The command in the arguments; further arguments are ignored. -/
def parse? : List String → Option Command
  | "run" :: rom :: frames :: _ => (Numeral.decimal? frames).map (.run rom)
  | ["run", rom] => some (.run rom defaultFrames)
  | _ => none

/-- The program file that the arguments name. -/
def romOf? (arguments : List String) : Option String :=
  (parse? arguments).map fun (.run rom _) => rom

/-- Runs frames until one fails or waits for a key. -/
def playFrames : Nat → Machine → Except Fault Machine
  | 0, machine => .ok machine
  | count + 1, machine =>
    let report := (machine.runFrame (Beeper.silent Unit) ()).1
    match report.result with
    | .error fault => .error fault
    | .ok .keyWait => .ok report.machine
    | .ok _ => playFrames count report.machine

/-- The display after running the program of a file, given what reading the file yields. -/
def play (contents : Except IoFault (List UInt8)) (frames : Nat) (entropy : Secret) :
    Except Fault Display := do
  let loaded := (Machine.create {} entropy).loadFile contents
  loaded.result
  return (← playFrames frames loaded.machine).core.display

/-- What the run of a program prints. -/
def played : Except Fault Display → Response
  | .ok display => ⟨0, display.text ++ "\n", ""⟩
  | .error fault => ⟨1, "", "Error: " ++ fault.diagnostic⟩

/-- What a wrong use prints. -/
def misused : Response :=
  ⟨usageStatus, "EightChip v" ++ version ++ "\n" ++ usage ++ "\n", ""⟩

/-- What the command prints for its arguments, given what reading each file yields. -/
def respond (arguments : List String) (read : String → Except IoFault (List UInt8))
    (entropy : Secret) : Response :=
  match parse? arguments with
  | none => misused
  | some (.run rom frames) => played (play (read rom) frames entropy)

/-- No file but the one that the arguments name matters. -/
theorem respond_eq {arguments : List String} {rom : String} (named : romOf? arguments = some rom)
    (read : String → Except IoFault (List UInt8)) (entropy : Secret) :
    respond arguments read entropy = respond arguments (fun _ => read rom) entropy := by
  obtain ⟨⟨own, frames⟩, parsed, rfl⟩ := Option.map_eq_some_iff.mp named
  rw [respond, respond, parsed]

end CommandLine

end Chip8
