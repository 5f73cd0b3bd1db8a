import Chip8.Config
import Chip8.Core.Arithmetic
import Chip8.Core.Transfer
import Chip8.RandomStream

/-!
# Machine

The machine and the effect of each of its instructions. An instruction yields a `Flow` that tells
its host what happened, or a fault; in both cases it leaves a machine behind.
-/

namespace Chip8

/-- What an instruction did that a host may want to act on. -/
inductive Flow where
  | ok
  /-- The program counter was set by a jump, a call or a return. -/
  | jump
  /-- The display may have changed. -/
  | draw
  /-- The sound timer was written. -/
  | sound
  /-- Execution waits for a key. -/
  | keyWait
  deriving DecidableEq, Repr

/-- A core with its random numbers and its configuration. -/
structure Machine where
  core : Core
  random : RandomStream
  config : Config

namespace Machine

/-- A machine without a program. A seed in the configuration fixes its random numbers, otherwise
they come from the given secret. -/
def create (config : Config) (entropy : Secret) : Machine where
  core := .initial
  random := .start <|
    match config.seed? with
    | some seed => RandomStream.secretOfSeed seed
    | none => entropy
  config := config

/-- Changes the core. -/
def withCore (machine : Machine) (core : Core) : Machine := { machine with core }

/-- Clears everything that a program can change; the random numbers go on. -/
def reset (machine : Machine) : Machine := machine.withCore machine.core.reset

theorem reset_eq (machine : Machine) : machine.reset = machine.withCore .initial :=
  congrArg machine.withCore machine.core.reset_eq_initial

/-- Writes glyphs to where the built-in ones are kept. -/
def loadFont (machine : Machine) (glyphs : List UInt8) : Except Fault Machine := do
  return machine.withCore (← machine.core.writeBlock fontStart glyphs)

/-- Clears the machine and copies the built-in glyphs and a program to memory. -/
def install (program : List UInt8) : Action Machine Unit := do
  modify reset
  if maxProgramSize < program.length then throw (.largeProgram program.length)
  Action.update fun machine => machine.loadFont font
  Action.update fun machine => do
    return machine.withCore (← machine.core.writeBlock programStart program)

/-! ## Effects of instructions -/

/-- The outcome of an instruction that changes the core alone and does not fail. -/
def yields (machine : Machine) (flow : Flow) (core : Core) : Except Fault Flow × Machine :=
  (.ok flow, machine.withCore core)

/-- The outcome of an instruction that acts on the core alone and may fail. -/
def attempts (machine : Machine) (flow : Flow) (action : Action Core Unit) :
    Except Fault Flow × Machine :=
  let done := action.outcome machine.core
  (done.1.map fun _ => flow, machine.withCore done.2)

/-- Where the glyph of a digit is kept, in the memory of the built-in glyphs or behind them. -/
def glyphAddress (digit : UInt8) : UInt16 :=
  UInt16.ofNat (fontStart + digit.toNat * glyphHeight)

/-- Executes an instruction, with the program counter already past it. -/
def exec (machine : Machine) (instruction : Instruction) : Except Fault Flow × Machine :=
  let core := machine.core
  match instruction with
  | .clearScreen => machine.yields .draw { core with display := .blank }
  | .ret => machine.attempts .jump Core.returnToCaller
  | .jump address => machine.yields .jump { core with pc := UInt16.ofNat address.val }
  | .call address => machine.attempts .jump (Core.call address)
  | .skipIfByte x byte => machine.yields .ok (core.skipIf (core.get x == byte))
  | .skipUnlessByte x byte => machine.yields .ok (core.skipIf (core.get x != byte))
  | .skipIfEqual x y => machine.yields .ok (core.skipIf (core.get x == core.get y))
  | .loadByte x byte => machine.yields .ok (core.set x byte)
  | .addByte x byte => machine.yields .ok (core.set x (core.get x + byte))
  | .move x y => machine.yields .ok (core.set x (core.get y))
  | .or x y => machine.yields .ok (core.set x (core.get x ||| core.get y))
  | .and x y => machine.yields .ok (core.set x (core.get x &&& core.get y))
  | .xor x y => machine.yields .ok (core.set x (core.get x ^^^ core.get y))
  | .add x y => machine.yields .ok (core.add x y)
  | .sub x y => machine.yields .ok (core.sub x y)
  | .shiftRight x => machine.yields .ok (core.shiftRight x)
  | .subReverse x y => machine.yields .ok (core.subReverse x y)
  | .shiftLeft x => machine.yields .ok (core.shiftLeft x)
  | .skipUnlessEqual x y => machine.yields .ok (core.skipIf (core.get x != core.get y))
  | .loadIndex address => machine.yields .ok { core with i := UInt16.ofNat address.val }
  | .jumpOffset address =>
    let offset := (core.get offsetRegister).toNat
    machine.yields .jump { core with pc := UInt16.ofNat (offset + address.val) }
  | .random x mask =>
    let drawn := machine.random.next
    (.ok .ok, { machine with core := core.set x (drawn.1 &&& mask), random := drawn.2 })
  | .draw x y height => machine.attempts .draw (Core.drawSprite x y height.val)
  | .skipIfPressed x => machine.yields .ok (core.skipIf (core.isPressed (core.get x)))
  | .skipUnlessPressed x => machine.yields .ok (core.skipIf (!core.isPressed (core.get x)))
  | .loadDelay x => machine.yields .ok (core.set x core.delay)
  | .awaitKey x =>
    match core.keys.first? with
    | some key => machine.yields .ok (core.set x (UInt8.ofNat key.val))
    | none => machine.yields .keyWait { core with keyWait := some x }
  | .setDelay x => machine.yields .ok { core with delay := core.get x }
  | .setSound x => machine.yields .sound { core with sound := core.get x }
  | .addIndex x => machine.yields .ok { core with i := core.i + (core.get x).toUInt16 }
  | .glyph x => machine.yields .ok { core with i := glyphAddress (core.get x) }
  | .decimal x => machine.attempts .ok (Core.storeDecimal x)
  | .store x => machine.attempts .ok (Core.storeRegisters x)
  | .load x => machine.attempts .ok (Core.loadRegisters x)
  | .unknown _ => machine.yields .ok core

end Machine

end Chip8
