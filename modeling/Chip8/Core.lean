import Chip8.Action
import Chip8.Display
import Chip8.Instruction
import Chip8.Keypad
import Chip8.Memory

/-!
# Core

The state that programs act on: registers, timers, keypad, memory, call stack and display, with the
operations that read and change one part of it.
-/

namespace Chip8

/-- The state of the processor and everything attached to it. -/
structure Core where
  /-- Address of the next instruction to fetch. -/
  pc : UInt16
  /-- The general registers. -/
  v : Vector UInt8 16
  /-- The index register, which points into memory. -/
  i : UInt16
  /-- The delay timer, which counts down to zero. -/
  delay : UInt8
  /-- The sound timer, which counts down to zero; a tone plays while it does. -/
  sound : UInt8
  /-- The register that receives the next pressed key, while execution waits for one. -/
  keyWait : Option Register
  /-- The keys held down. -/
  keys : Keypad
  memory : Memory
  /-- Return addresses, the most recent first. -/
  stack : List UInt16
  display : Display
  deriving DecidableEq

namespace Core

/-- The state before any program is loaded. -/
def initial : Core where
  pc := UInt16.ofNat programStart
  v := Vector.replicate 16 0
  i := 0
  delay := 0
  sound := 0
  keyWait := none
  keys := .released
  memory := .zero
  stack := []
  display := .blank

instance : Inhabited Core := ⟨initial⟩

/-- Zeroes memory, registers, timers, keys and stack, clears the display and points the program
counter at the program start. -/
def reset (core : Core) : Core :=
  { core with
    pc := UInt16.ofNat programStart
    v := Vector.replicate 16 0
    i := 0
    delay := 0
    sound := 0
    keyWait := none
    keys := .released
    memory := .zero
    stack := []
    display := .blank }

/-- Nothing survives a reset. -/
@[simp] theorem reset_eq_initial (core : Core) : core.reset = initial := rfl

/-! ## Registers -/

/-- The value of a general register. -/
def get (core : Core) (x : Register) : UInt8 := core.v[x]

/-- Sets a general register. -/
def set (core : Core) (x : Register) (value : UInt8) : Core := { core with v := core.v.set x value }

/-- Sets the flag register to one or zero. -/
def setFlag (core : Core) (flag : Bool) : Core := core.set flagRegister (if flag then 1 else 0)

/-- The register with an index, which must be below sixteen. -/
def register (index : Nat) : Except Fault Register :=
  if h : index < 16 then .ok ⟨index, h⟩ else .error (.invalidRegister index)

/-- The values of `V0` to `Vx`. -/
def firstRegisters (core : Core) (x : Register) : List UInt8 := core.v.toList.take (x.val + 1)

/-- Sets registers from `V0` on to the given values; the others keep theirs. -/
def setFirstRegisters (core : Core) (values : List UInt8) : Core :=
  { core with v := Vector.ofFn fun x : Register => values[x.val]?.getD (core.get x) }

/-! ## Memory -/

/-- Writes a block of memory. -/
def writeBlock (core : Core) (address : Nat) (block : List UInt8) : Except Fault Core := do
  let memory ← core.memory.writeBlock address block
  return { core with memory }

/-- Reads the instruction word at the program counter, high byte first, and moves past it. -/
def fetch (core : Core) : Except Fault (UInt16 × Core) := do
  let high ← core.memory.read core.pc.toNat
  let low ← core.memory.read (core.pc.toNat + 1)
  return (UInt16.ofNat (high.toNat * 256 + low.toNat), { core with pc := core.pc + 2 })

/-- Fetches the next instruction word. -/
def fetchNext : Action Core UInt16 := do
  let (word, core) ← (← Action.state).fetch
  Action.replace core
  return word

/-! ## Stack -/

/-- Pushes a return address. -/
def push (core : Core) (address : UInt16) : Except Fault Core :=
  if stackLimit ≤ core.stack.length then .error (.stackOverflow core.pc)
  else .ok { core with stack := address :: core.stack }

/-- Takes the most recent return address. -/
def pop? (core : Core) : Option (UInt16 × Core) :=
  match core.stack with
  | [] => none
  | address :: stack => some (address, { core with stack })

/-- Jumps to a subroutine and pushes the address of the next instruction. -/
def call (address : AddressOperand) : Action Core Unit := do
  Action.update fun core => core.push core.pc
  modify fun core => { core with pc := UInt16.ofNat address.val }

/-- Returns from a subroutine to the most recent return address. -/
def returnToCaller : Action Core Unit := do
  let core ← Action.state
  match core.pop? with
  | none => throw (.stackUnderflow core.pc)
  | some (address, core) => Action.replace { core with pc := address }

/-! ## Timers and keys -/

/-- Counts both timers down by one, and tells whether a tone plays for this tick: it does if the
sound timer was not zero. -/
def countDown (core : Core) : Bool × Core :=
  (core.sound != 0,
    { core with
      delay := if core.delay = 0 then 0 else core.delay - 1
      sound := if core.sound = 0 then 0 else core.sound - 1 })

/-- Whether the key that a register value names is held. -/
def isPressed (core : Core) (index : UInt8) : Bool := core.keys.isPressed index.toNat

/-- Sets whether a key is held. -/
def setKey (core : Core) (key : Key) (pressed : Bool) : Core :=
  { core with keys := core.keys.set key pressed }

/-- Lets all keys go. -/
def clearKeys (core : Core) : Core := { core with keys := .released }

/-- Whether execution waits for a key. -/
def isAwaitingKey (core : Core) : Bool := core.keyWait.isSome

/-- Moves past the next instruction if the condition holds. -/
def skipIf (core : Core) (condition : Bool) : Core :=
  if condition then { core with pc := core.pc + 2 } else core

end Core

end Chip8
