import Chip8.Numeral

/-!
# Random stream

Random bytes as positions of a fixed stream: a secret of eight words determines every byte, and a
stream is that secret with the number of bytes drawn so far. The bytes are the low bytes of the
words of a ChaCha key stream of twelve rounds.
-/

namespace Chip8

/-- The words that determine a random stream. -/
abbrev Secret := Vector UInt32 8

/-- A random stream and the number of bytes already drawn from it. -/
structure RandomStream where
  secret : Secret
  position : Nat
  deriving DecidableEq

namespace RandomStream

/-- Rotates a word to the left. -/
def rotateLeft (word amount : UInt32) : UInt32 :=
  (word <<< amount) ||| (word >>> (32 - amount))

/-- Rotates a word to the right. -/
def rotateRight (word amount : UInt32) : UInt32 :=
  (word >>> amount) ||| (word <<< (32 - amount))

/-! ## Secrets from seeds -/

/-- The congruential step between the states from which the words of a secret are taken. -/
def nextState (state : UInt64) : UInt64 :=
  state * 6364136223846793005 + 11634580027462260723

/-- The word taken from a state: its high bits folded together and rotated by its highest bits. -/
def stateWord (state : UInt64) : UInt32 :=
  rotateRight (((state >>> 18) ^^^ state) >>> 27).toUInt32 (state >>> 59).toUInt32

/-- Successive states, starting after the given one. -/
def statesAfter (state : UInt64) : Nat → List UInt64
  | 0 => []
  | count + 1 => nextState state :: statesAfter (nextState state) count

/-- The secret that a 64-bit seed stands for. -/
def secretOfSeed (seed : Nat) : Secret :=
  let words := (statesAfter (UInt64.ofNat seed) 8).map stateWord
  Vector.ofFn fun index => words[index.val]?.getD 0

/-! ## Blocks of the key stream -/

/-- The sixteen words that are mixed into a block. -/
abbrev BlockState := Vector UInt32 16

/-- Mixes four words of the state. -/
def quarterRound (state : BlockState) (a b c d : Fin 16) : BlockState :=
  let state := state.set a (state[a] + state[b])
  let state := state.set d (rotateLeft (state[d] ^^^ state[a]) 16)
  let state := state.set c (state[c] + state[d])
  let state := state.set b (rotateLeft (state[b] ^^^ state[c]) 12)
  let state := state.set a (state[a] + state[b])
  let state := state.set d (rotateLeft (state[d] ^^^ state[a]) 8)
  let state := state.set c (state[c] + state[d])
  state.set b (rotateLeft (state[b] ^^^ state[c]) 7)

/-- The place of a word in the state, seen as four rows of four words. -/
def place (row column : Nat) : Fin 16 := ⟨4 * (row % 4) + column % 4, by omega⟩

/-- Mixes, for each word of the first row, that word with one of each other row; the slant is the
number of columns from one row to the next. -/
def slantedRound (state : BlockState) (slant : Nat) : BlockState :=
  (List.range 4).foldl
    (fun state column =>
      quarterRound state (place 0 column) (place 1 (column + slant)) (place 2 (column + 2 * slant))
        (place 3 (column + 3 * slant)))
    state

/-- Mixes the columns of the state, then its diagonals. -/
def doubleRound (state : BlockState) : BlockState := slantedRound (slantedRound state 0) 1

/-- Repeats the double round. -/
def rounds : Nat → BlockState → BlockState
  | 0, state => state
  | count + 1, state => rounds count (doubleRound state)

/-- The state a block starts from: four constants, the secret, and the number of the block. -/
def initialState (secret : Secret) (number : Nat) : BlockState :=
  #v[0x61707865, 0x3320646e, 0x79622d32, 0x6b206574,
    secret[0], secret[1], secret[2], secret[3], secret[4], secret[5], secret[6], secret[7],
    UInt32.ofNat number, UInt32.ofNat (number / Numeral.span32), 0, 0]

/-- A block of the key stream. -/
def block (secret : Secret) (number : Nat) : BlockState :=
  let initial := initialState secret number
  Vector.zipWith (· + ·) (rounds 6 initial) initial

/-- The byte at a position of the stream of a secret. -/
def byteAt (secret : Secret) (position : Nat) : UInt8 :=
  ((block secret (position / 16)).get ⟨position % 16, Nat.mod_lt position (by decide)⟩).toUInt8

/-- A stream from its start. -/
def start (secret : Secret) : RandomStream := ⟨secret, 0⟩

/-- Draws the next byte. -/
def next (stream : RandomStream) : UInt8 × RandomStream :=
  (byteAt stream.secret stream.position, { stream with position := stream.position + 1 })

end RandomStream

end Chip8
