import Chip8.Numeral

/-!
# Reading numerals back

The digits of a number, in any spelling that the reader knows, read as that number
(`Numeral.ofDigits?_toDigits`). So the hexadecimal numerals of every width and the decimal numerals
read back, and no two numbers share one.
-/

namespace Chip8.Numeral

variable {base value digit : Nat} {char : Char} {digits : List Char}

theorem ofDigits?_singleton (read : digit? base char = some digit) :
    ofDigits? base [char] = some digit := by
  simp [ofDigits?, read]

theorem ofDigits?_snoc (before : ofDigits? base digits = some value)
    (read : digit? base char = some digit) :
    ofDigits? base (digits ++ [char]) = some (value * base + digit) := by
  cases digits with
  | nil => cases before
  | cons first rest =>
    simp only [ofDigits?, List.cons_append] at before ⊢
    rw [← List.cons_append, List.foldlM_append, before]
    simp [read]

theorem ofDigits?_zero_cons (large : 0 < base) (present : digits ≠ []) :
    ofDigits? base ('0' :: digits) = ofDigits? base digits := by
  have zero : digit? base '0' = some 0 := by simp [digit?, large]
  cases digits with
  | nil => exact absurd rfl present
  | cons first rest => simp [ofDigits?, zero]

theorem isSome_digit?_of_foldlM {start : Nat} (mem : char ∈ digits)
    (read : (digits.foldlM (fun value char => (digit? base char).map (value * base + ·))
      start).isSome) : (digit? base char).isSome := by
  induction digits generalizing start with
  | nil => cases mem
  | cons first rest ih =>
    rw [List.foldlM_cons] at read
    cases found : digit? base first with
    | none => simp [found] at read
    | some digit =>
      rw [found] at read
      rcases List.mem_cons.mp mem with rfl | later
      · rw [found]
        rfl
      · exact ih later read

/-- Only digits occur in a numeral. -/
theorem not_mem_of_digit? (read : ofDigits? base digits = some value)
    (foreign : digit? base char = none) : char ∉ digits := by
  intro mem
  have isDigit : (digit? base char).isSome := by
    cases digits with
    | nil => cases mem
    | cons first rest => exact isSome_digit?_of_foldlM mem (Option.isSome_of_eq_some read)
  rw [foreign] at isDigit
  cases isDigit

theorem ofDigits?_padded (large : 0 < base) (width : Nat) (present : digits ≠ []) :
    ofDigits? base (padded width digits).toList = ofDigits? base digits := by
  rw [padded, String.toList_ofList, List.leftpad]
  generalize width - digits.length = zeros
  induction zeros with
  | zero => rfl
  | succ zeros ih =>
    rw [List.replicate_succ, List.cons_append, ofDigits?_zero_cons large (by simp [present]), ih]

/-- The digits of a number read as it, whatever spelling of digits the reader knows. -/
theorem ofDigits?_toDigits {spelling : Char → Char} (large : 1 < base)
    (spelled : ∀ digit < base, digit? base (spelling digit.digitChar) = some digit)
    (value : Nat) : ofDigits? base ((Nat.toDigits base value).map spelling) = some value := by
  induction value using Nat.strongRecOn with
  | ind value ih =>
    by_cases small : value < base
    · rw [Nat.toDigits_of_lt_base small]
      exact ofDigits?_singleton (spelled value small)
    · have shorter : value / base < value := Nat.div_lt_self (by omega) large
      rw [Nat.toDigits_of_base_le large (by omega), List.map_append,
        List.map_singleton, ofDigits?_snoc (ih _ shorter) (spelled _ (Nat.mod_lt _ (by omega)))]
      rw [Nat.mul_comm, Nat.div_add_mod]

/-- Hexadecimal numerals read back. -/
theorem ofDigits?_hex (width value : Nat) : ofDigits? 16 (hex width value).toList = some value := by
  rw [hex, ofDigits?_padded (by decide) width (by simp [Nat.toDigits_ne_nil])]
  exact ofDigits?_toDigits (by decide) (by decide) value

theorem ofDigits?_lowerHex (width value : Nat) :
    ofDigits? 16 (lowerHex width value).toList = some value := by
  rw [lowerHex, ofDigits?_padded (by decide) width (by simp [Nat.toDigits_ne_nil]),
    ← List.map_id (Nat.toDigits 16 value)]
  exact ofDigits?_toDigits (by decide) (by decide) value

/-- A hexadecimal numeral has exactly the given width if its digits fit. -/
theorem length_lowerHex {width value : Nat} (short : (Nat.toDigits 16 value).length ≤ width) :
    (lowerHex width value).toList.length = width := by
  rw [lowerHex, padded, String.toList_ofList, List.leftpad, List.length_append,
    List.length_replicate]
  omega

/-- Decimal numerals read back. -/
theorem ofDigits?_toString (value : Nat) : ofDigits? 10 (toString value).toList = some value := by
  rw [Nat.toString_eq_repr, Nat.toList_repr, ← List.map_id (Nat.toDigits 10 value)]
  exact ofDigits?_toDigits (by decide) (by decide) value

/-- The decimal numeral of a positive number starts with a digit that is not zero. -/
theorem exists_toDigits_eq_cons {value : Nat} (positive : 0 < value) :
    ∃ first rest, Nat.toDigits 10 value = first :: rest ∧ first.isDigit = true ∧ first ≠ '0' := by
  induction value using Nat.strongRecOn with
  | ind value ih =>
    by_cases small : value < 10
    · have digit : ∀ value < 10, 0 < value →
          value.digitChar.isDigit = true ∧ value.digitChar ≠ '0' := by decide
      exact ⟨value.digitChar, [], Nat.toDigits_of_lt_base small, digit value small positive⟩
    · obtain ⟨first, rest, digits, isDigit, other⟩ :=
        ih (value / 10) (Nat.div_lt_self positive (by decide)) (by omega)
      refine ⟨first, rest ++ [(value % 10).digitChar], ?_, isDigit, other⟩
      rw [Nat.toDigits_of_base_le (by decide) (by omega), digits, List.cons_append]

theorem hex_inj {width first second : Nat} (same : hex width first = hex width second) :
    first = second := by
  have read := ofDigits?_hex width first
  rw [same, ofDigits?_hex] at read
  exact (Option.some.inj read).symm

end Chip8.Numeral
