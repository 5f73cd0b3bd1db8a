import Chip8.Keypad

/-!
# Held keys

The keypad as a set of keys: what is held after a key is pressed or let go, and the key of lowest
index among those held.
-/

namespace Chip8.Keypad

theorem bit_ne_zero (key : Key) : bit key ≠ 0 := by
  revert key
  decide

theorem isPressed_eq (keypad : Keypad) (key : Key) :
    keypad.isPressed key.val = keypad.bits.getLsbD key.val := by
  have masked : keypad.bits &&& bit key = if keypad.bits.getLsbD key.val then bit key else 0 :=
    BitVec.and_twoPow keypad.bits key.val
  rw [isPressed, dif_pos key.isLt, masked]
  cases keypad.bits.getLsbD key.val with
  | false => rfl
  | true => exact bne_iff_ne.mpr (bit_ne_zero key)

theorem isPressed_released (key : Key) : released.isPressed key.val = false := by
  rw [isPressed_eq]
  exact BitVec.getLsbD_zero

/-- No key beyond the keypad is held. -/
theorem isPressed_iff {keypad : Keypad} {index : Nat} :
    keypad.isPressed index = true ↔
      ∃ key : Key, key.val = index ∧ keypad.isPressed key.val = true := by
  constructor
  · intro pressed
    have below : index < 16 := by
      refine Decidable.byContradiction fun beyond => ?_
      rw [isPressed, dif_neg beyond] at pressed
      cases pressed
    exact ⟨⟨index, below⟩, rfl, pressed⟩
  · rintro ⟨key, rfl, pressed⟩
    exact pressed

theorem getLsbD_bit (key other : Key) : (bit key).getLsbD other.val = decide (other = key) := by
  revert key other
  decide

theorem isPressed_press (keypad : Keypad) (key other : Key) :
    (keypad.press key).isPressed other.val = true ↔
      keypad.isPressed other.val = true ∨ other = key := by
  rw [isPressed_eq, isPressed_eq, press, BitVec.getLsbD_or, getLsbD_bit, Bool.or_eq_true,
    decide_eq_true_eq]

theorem isPressed_release (keypad : Keypad) (key other : Key) :
    (keypad.release key).isPressed other.val = true ↔
      keypad.isPressed other.val = true ∧ other ≠ key := by
  rw [isPressed_eq, isPressed_eq, release, BitVec.getLsbD_and, BitVec.getLsbD_not, getLsbD_bit,
    Bool.and_eq_true, decide_eq_true other.isLt, Bool.true_and, Bool.not_eq_true',
    decide_eq_false_iff_not]

theorem isPressed_set (keypad : Keypad) (key other : Key) (pressed : Bool) :
    (keypad.set key pressed).isPressed other.val =
      if other = key then pressed else keypad.isPressed other.val := by
  rw [Bool.eq_iff_iff, set]
  by_cases same : other = key
  · cases pressed <;> simp [same, isPressed_press, isPressed_release]
  · cases pressed <;> simp [same, isPressed_press, isPressed_release]

theorem release_released (key : Key) : released.release key = released := by
  simp only [release, released]
  exact congrArg Keypad.mk BitVec.zero_and

/-- A keypad is the set of its held keys. -/
theorem eq_of_isPressed {first second : Keypad}
    (same : ∀ key : Key, first.isPressed key.val = second.isPressed key.val) : first = second := by
  obtain ⟨firstBits⟩ := first
  obtain ⟨secondBits⟩ := second
  refine congrArg Keypad.mk (BitVec.eq_of_getLsbD_eq fun index below => ?_)
  have bit := same ⟨index, below⟩
  rwa [isPressed_eq, isPressed_eq] at bit

theorem set_comm {first second : Key} (other : first ≠ second) (keypad : Keypad)
    (pressed pressedToo : Bool) :
    (keypad.set first pressed).set second pressedToo =
      (keypad.set second pressedToo).set first pressed := by
  apply eq_of_isPressed
  intro key
  simp only [isPressed_set]
  by_cases isFirst : key = first
  · subst isFirst
    rw [if_neg other, if_pos rfl, if_pos rfl]
  · rw [if_neg isFirst, if_neg isFirst]

theorem set_set (keypad : Keypad) (key : Key) (pressed : Bool) :
    (keypad.set key pressed).set key pressed = keypad.set key pressed := by
  apply eq_of_isPressed
  intro other
  rw [isPressed_set, isPressed_set]
  split <;> rfl

theorem any_iff {keypad : Keypad} :
    keypad.any = true ↔ ∃ key : Key, keypad.isPressed key.val = true := by
  rw [any, bne_iff_ne]
  constructor
  · intro nonzero
    refine Classical.byContradiction fun none => nonzero ?_
    have empty : keypad = released := by
      apply eq_of_isPressed
      intro key
      rw [isPressed_released, ← Bool.not_eq_true]
      exact fun pressed => none ⟨key, pressed⟩
    exact congrArg bits empty
  · rintro ⟨key, pressed⟩ zero
    rw [isPressed_eq, zero] at pressed
    cases pressed.symm.trans BitVec.getLsbD_zero

/-! ## The key found first -/

theorem first?_eq_find? (keypad : Keypad) :
    keypad.first? = Key.all.find? fun key => keypad.isPressed key.val := by
  unfold first?
  split
  next => rfl
  next nothing =>
    have none : ∀ key ∈ Key.all, ¬ keypad.isPressed key.val = true := by
      intro key _ pressed
      exact nothing (any_iff.mpr ⟨key, pressed⟩)
    exact (List.find?_eq_none.mpr none).symm

theorem first?_eq_none_iff {keypad : Keypad} :
    keypad.first? = none ↔ ∀ key : Key, keypad.isPressed key.val = false := by
  rw [first?_eq_find?, List.find?_eq_none]
  simp only [Key.all, List.mem_finRange, Bool.not_eq_true, forall_const]

theorem first?_eq_none_iff_any {keypad : Keypad} :
    keypad.first? = none ↔ keypad.any = false := by
  rw [first?_eq_none_iff, ← Bool.not_eq_true, any_iff, not_exists]
  simp only [Bool.not_eq_true]

theorem first?_released : released.first? = none :=
  first?_eq_none_iff.mpr isPressed_released

/-- The key found first is the one of lowest index among the held keys. -/
theorem first?_eq_some_iff {keypad : Keypad} {key : Key} :
    keypad.first? = some key ↔
      keypad.isPressed key.val = true ∧
        ∀ other : Key, keypad.isPressed other.val = true → key ≤ other := by
  rw [first?_eq_find?, List.find?_eq_some_iff_getElem]
  constructor
  · rintro ⟨pressed, index, below, rfl, before⟩
    refine ⟨pressed, ?_⟩
    intro other otherPressed
    refine Nat.le_of_not_lt fun less => ?_
    have early : other.val < index := by simpa [Key.all] using less
    have skipped := before other.val early
    simp [Key.all, otherPressed] at skipped
  · rintro ⟨pressed, least⟩
    refine ⟨pressed, key.val, by simp [Key.all], by simp [Key.all], ?_⟩
    intro index below
    have early : index < 16 := by omega
    simp only [Key.all, List.getElem_finRange, Fin.cast_mk, Bool.not_eq_true', Bool.eq_false_iff]
    intro earlyPressed
    have := least ⟨index, early⟩ earlyPressed
    exact absurd below (Nat.not_lt_of_le this)

/-! ## Several keys -/

/-- Holds down the keys of a list. -/
def pressAll (keypad : Keypad) (keys : List Key) : Keypad := keys.foldl press keypad

theorem isPressed_pressAll (keypad : Keypad) (keys : List Key) (other : Key) :
    (keypad.pressAll keys).isPressed other.val = true ↔
      keypad.isPressed other.val = true ∨ other ∈ keys := by
  induction keys generalizing keypad with
  | nil => simp [pressAll]
  | cons key keys ih =>
      have tail := ih (keypad.press key)
      rw [isPressed_press, or_assoc, ← List.mem_cons] at tail
      exact tail

/-- Once some keys are pressed, the least of them is found first. -/
theorem exists_first?_pressAll {keys : List Key} (pressed : keys ≠ []) :
    ∃ least ∈ keys, (∀ other ∈ keys, least ≤ other) ∧
      (released.pressAll keys).first? = some least := by
  have held : ∀ other : Key,
      (released.pressAll keys).isPressed other.val = true ↔ other ∈ keys := by
    intro other
    rw [isPressed_pressAll, isPressed_released]
    simp only [Bool.false_eq_true, false_or]
  cases found : (released.pressAll keys).first? with
  | none =>
      obtain ⟨key, member⟩ := List.exists_mem_of_ne_nil keys pressed
      have free := first?_eq_none_iff.mp found key
      rw [(held key).mpr member] at free
      cases free
  | some least =>
      obtain ⟨isHeld, below⟩ := first?_eq_some_iff.mp found
      refine ⟨least, (held least).mp isHeld, ?_, rfl⟩
      intro other member
      exact below other ((held other).mpr member)

end Chip8.Keypad
