import Chip8.Proofs.Step

/-!
# Loading programs

What is left after loading a program, whatever the machine was before: the machine is reset, and if
the program fits, memory holds the built-in glyphs, the program at its start, and zeros.
-/

namespace Chip8

namespace Memory

/-- The memory after loading: the built-in glyphs, and a program at its start. -/
def image (program : List UInt8) : Memory :=
  (zero.store fontStart font).store programStart program

private theorem getElem?_font_eq_none {address : Nat} (past : 80 ≤ address) :
    font[address]? = none :=
  List.getElem?_eq_none past

theorem byteAt_image {program : List UInt8} (fits : program.length ≤ maxProgramSize)
    (address : Nat) :
    (image program).byteAt address =
      if address < 80 then font[address]?.getD 0
      else if address < 512 then 0
      else program[address - 512]?.getD 0 := by
  have fits : program.length ≤ 0xFFF - 0x200 := fits
  simp only [image, byteAt_store, byteAt_zero, fontStart, programStart]
  by_cases low : address < 80
  · have below : ¬ 0x200 ≤ address := by omega
    have inside : address < memorySize := Nat.lt_trans low (by decide)
    simp [low, below, inside]
  · have past := getElem?_font_eq_none (Nat.le_of_not_lt low)
    by_cases middle : address < 512
    · have below : ¬ 0x200 ≤ address := by omega
      simp [low, middle, below, past]
    · have above : 0x200 ≤ address := by omega
      by_cases inside : address < memorySize
      · simp [low, middle, above, inside, past]
      · have outside : 0xFFF ≤ address := Nat.le_of_not_lt inside
        have far : program.length ≤ address - 0x200 :=
          Nat.le_trans fits (Nat.sub_le_sub_right outside 0x200)
        have behind : program[address - 0x200]? = none := List.getElem?_eq_none far
        simp only [low, middle, inside, behind, and_false, ↓reduceIte, Option.getD_none]

end Memory

namespace Machine

theorem installed_eq (machine : Machine) (program : List UInt8) :
    (install program).outcome machine =
      if program.length ≤ maxProgramSize then
        (.ok (), machine.withCore { Core.initial with memory := .image program })
      else (.error (.largeProgram program.length), machine.reset) := by
  simp only [install, Action.outcome_bind, Action.outcome_modify]
  by_cases fits : program.length ≤ maxProgramSize
  · have fontFits : fontStart + font.length ≤ memorySize := by decide
    have programFits : programStart + program.length ≤ memorySize := by
      have below : program.length ≤ 0xFFF - 0x200 := fits
      change 0x200 + program.length ≤ 0xFFF
      omega
    simp only [Nat.not_lt_of_le fits, fits, ↓reduceIte, Action.outcome_bind, Action.outcome_update,
      loadFont_eq_map, writeBlock_eq_map, Memory.writeBlock_eq, fontFits,
      programFits]
    rfl
  · simp only [Nat.lt_of_not_le fits, fits, ↓reduceIte, Action.outcome_throw, Action.outcome_bind]

/-- A program that fits is loaded behind the glyphs, and one that does not leaves the machine
reset. -/
theorem load_eq (machine : Machine) (program : List UInt8) :
    machine.load program =
      if program.length ≤ maxProgramSize then
        ⟨.ok (), machine.withCore { Core.initial with memory := .image program },
          #[.loaded program.length]⟩
      else ⟨.error (.largeProgram program.length), machine.reset, #[]⟩ := by
  rw [load, installed_eq]
  by_cases fits : program.length ≤ maxProgramSize
  · simp only [fits, ↓reduceIte]
  · simp only [fits, ↓reduceIte]

/-- Loading does not look at the core. -/
theorem load_withCore (machine : Machine) (core : Core) (program : List UInt8) :
    (machine.withCore core).load program = machine.load program := by
  rw [load_eq, load_eq]
  split <;> rfl

theorem loadFile_withCore (machine : Machine) (core : Core)
    (contents : Except IoFault (List UInt8)) :
    (machine.withCore core).loadFile contents = machine.loadFile contents := by
  cases contents with
  | ok program => exact load_withCore machine core program
  | error cause => rfl

/-- Whether or not it fails, loading leaves a machine that is reset but for its memory. -/
theorem load_machine (machine : Machine) (program : List UInt8) :
    ∃ memory, (machine.load program).machine = machine.withCore { Core.initial with memory } := by
  rw [load_eq]
  split
  · exact ⟨_, rfl⟩
  · exact ⟨.zero, rfl⟩

end Machine

end Chip8
