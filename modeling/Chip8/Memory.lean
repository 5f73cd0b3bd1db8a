import Chip8.Fault

/-!
# Memory

Byte and block access to the machine's memory. Every access is checked as a whole before any byte
moves, so a failing access leaves the memory as it was.
-/

namespace Chip8

/-- The bytes of memory, by address. -/
structure Memory where
  bytes : Vector UInt8 memorySize
  deriving DecidableEq

namespace Memory

/-- Memory of zero bytes. -/
def zero : Memory := ⟨Vector.replicate memorySize 0⟩

instance : Inhabited Memory := ⟨zero⟩

/-- The byte at an address, zero outside of memory. -/
def byteAt (memory : Memory) (address : Nat) : UInt8 :=
  memory.bytes[address]?.getD 0

/-- Reads one byte. -/
def read (memory : Memory) (address : Nat) : Except Fault UInt8 :=
  if h : address < memorySize then .ok memory.bytes[address]
  else .error (.memoryOutOfBounds address)

/-- Writes one byte. -/
def write (memory : Memory) (address : Nat) (value : UInt8) : Except Fault Memory :=
  if h : address < memorySize then .ok ⟨memory.bytes.set address value⟩
  else .error (.memoryOutOfBounds address)

/-- One past the last address of a block; address sums stop at the largest 64-bit word. -/
def blockEnd (address length : Nat) : Nat :=
  min (address + length) Numeral.wordLimit

/-- The fault of a block that does not lie in memory: it names the last address of the block, or
the first if the block is empty. -/
def blockFault (address length : Nat) : Fault :=
  .memoryOutOfBounds (max (blockEnd address length - 1) address)

/-- Reads a block of bytes. -/
def readBlock (memory : Memory) (address length : Nat) : Except Fault (List UInt8) :=
  if blockEnd address length ≤ memorySize then
    .ok ((List.range length).map fun offset => memory.byteAt (address + offset))
  else .error (blockFault address length)

/-- Stores bytes at successive addresses; those outside of memory are dropped. -/
def store (memory : Memory) (address : Nat) : List UInt8 → Memory
  | [] => memory
  | byte :: rest => store ⟨memory.bytes.setIfInBounds address byte⟩ (address + 1) rest

/-- Writes a block of bytes. -/
def writeBlock (memory : Memory) (address : Nat) (block : List UInt8) : Except Fault Memory :=
  if blockEnd address block.length ≤ memorySize then .ok (memory.store address block)
  else .error (blockFault address block.length)

end Memory

end Chip8
