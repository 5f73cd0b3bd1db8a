import Chip8.Proofs.Footprint
import Chip8.Proofs.Keypad
import Chip8.Proofs.Loading
import Chip8.Proofs.Runs
import Mathlib.Data.List.Induction

/-!
# Keys over a run

Which keys are held after a run is up to what the host has asked last about each of them; no program
has a part in it. So over any run the bits of the keypad stand for a set of keys, and the search
finds the least of them (`Console.run_keys`).
-/

namespace Chip8

/-- If the last of some items tells nothing, it is as told before. -/
theorem getLast?_filterMap_concat {α β : Type} (told? : α → Option β) (items : List α) (last : α) :
    ((items ++ [last]).filterMap told?).getLast? =
      (told? last).or (items.filterMap told?).getLast? := by
  rw [List.filterMap_append, List.getLast?_append]
  cases told : told? last with
  | none => rw [List.filterMap_cons_none told, List.filterMap_nil, List.getLast?_nil]
  | some value => rw [List.filterMap_cons_some told, List.filterMap_nil, List.getLast?_singleton]

namespace Machine

theorem step_keys (machine : Machine) : machine.step.machine.core.keys = machine.core.keys := by
  refine machine.step_frame .keys fun written => ?_
  rcases mem_stepWrites written with fetched | ⟨instruction, -, writes⟩
  · simp at fetched
  · cases instruction <;> simp [Instruction.writes] at writes

theorem runSteps_keys (machine : Machine) (count : Nat) :
    (machine.runSteps count).machine.core.keys = machine.core.keys := by
  have kept (before : Machine) (same : before.core.keys = machine.core.keys) :
      before.step.machine.core.keys = machine.core.keys := before.step_keys.trans same
  exact continueRun_keeps _ kept count _ rfl

theorem runFrame_keys {σ : Type} (machine : Machine) (beeper : Beeper σ) (state : σ) :
    (machine.runFrame beeper state).1.machine.core.keys = machine.core.keys := by
  rw [(machine.runFrame_eq_runSteps beeper state).2]
  exact runSteps_keys _ _

theorem load_keys (machine : Machine) (program : List UInt8) :
    (machine.load program).machine.core.keys = .released := by
  obtain ⟨memory, loaded⟩ := load_machine machine program
  exact congrArg (·.core.keys) loaded

theorem loadFile_keys (machine : Machine) (contents : Except IoFault (List UInt8)) :
    (machine.loadFile contents).machine.core.keys = .released := by
  cases contents with
  | ok program => exact machine.load_keys program
  | error cause => rfl

end Machine

/-! ## Requests about keys -/

namespace Request

/-- The keypad that a request leaves. -/
def keysAfter (keypad : Keypad) : Request → Keypad
  | .setKey key pressed => keypad.set key pressed
  | .clearKeys | .reset | .load _ | .loadFile _ => .released
  | _ => keypad

/-- What a request tells about the key with an index: that it is held from now on, or that it is
not. -/
def verdict? (index : Nat) : Request → Option Bool
  | .setKey key pressed => if key.val = index then some pressed else none
  | .clearKeys | .reset | .load _ | .loadFile _ => some false
  | _ => none

/-- What the last request that tells about a key tells about it. -/
def lastVerdict? (requests : List Request) (index : Nat) : Option Bool :=
  (requests.filterMap (verdict? index)).getLast?

/-- The requests that do nothing but set which keys are held, and a reset. -/
def isAboutKeys : Request → Bool
  | .setKey .. | .clearKeys | .reset => true
  | _ => false

theorem isPressed_keysAfter (request : Request) (keypad : Keypad) (key : Key) :
    (request.keysAfter keypad).isPressed key.val =
      (request.verdict? key.val).getD (keypad.isPressed key.val) := by
  cases request with
  | setKey changed pressed =>
      rw [keysAfter, verdict?, Keypad.isPressed_set]
      by_cases same : key = changed
      · rw [if_pos same, if_pos (congrArg Fin.val same.symm), Option.getD_some]
      · rw [if_neg same, if_neg fun equal => same (Fin.ext equal.symm), Option.getD_none]
  | clearKeys | reset | load | loadFile => exact Keypad.isPressed_released key
  | _ => rfl

end Request

/-! ## Indices in registers -/

namespace Core

variable {core : Core}

private theorem toNat_ofNat_key (key : Key) : (UInt8.ofNat key.val).toNat = key.val :=
  UInt8.toNat_ofNat_of_lt' (Nat.lt_trans key.isLt (by decide))

theorem any_keys_iff :
    core.keys.any = true ↔ ∃ index : UInt8, core.isPressed index = true := by
  rw [Keypad.any_iff]
  constructor
  · rintro ⟨key, pressed⟩
    refine ⟨UInt8.ofNat key.val, ?_⟩
    rwa [isPressed, toNat_ofNat_key]
  · rintro ⟨index, pressed⟩
    obtain ⟨key, -, pressed⟩ := Keypad.isPressed_iff.mp pressed
    exact ⟨key, pressed⟩

theorem first?_keys_eq_some_iff {key : Key} :
    core.keys.first? = some key ↔
      core.keys.isPressed key.val = true ∧
        ∀ index : UInt8, core.isPressed index = true → key.val ≤ index.toNat := by
  rw [Keypad.first?_eq_some_iff]
  refine and_congr_right fun _ => ⟨?_, ?_⟩
  · intro least index pressed
    obtain ⟨other, same, pressed⟩ := Keypad.isPressed_iff.mp pressed
    rw [← same]
    exact least other pressed
  · intro least other pressed
    have below := least (UInt8.ofNat other.val)
    rw [isPressed, toNat_ofNat_key] at below
    exact below pressed

end Core

/-! ## Runs -/

namespace Console

variable {σ : Type} (beeper : Beeper σ)

theorem attempt_map_keys {α : Type} {console : Console σ} {result : Except Fault α}
    {next : α → Machine} (keeps : ∀ value, (next value).core.keys = console.machine.core.keys) :
    (console.attempt (result.map next)).2.machine.core.keys = console.machine.core.keys :=
  attempt_map_keeps (fun machine => machine.core.keys = console.machine.core.keys) rfl keeps

theorem serve_keys (console : Console σ) (request : Request) :
    (console.serve beeper request).2.machine.core.keys =
      request.keysAfter console.machine.core.keys := by
  cases request with
  | load program => exact Machine.load_keys _ program
  | loadFile contents => exact Machine.loadFile_keys _ contents
  | loadFont glyphs =>
      simp only [serve, Machine.loadFont_eq_map]
      exact attempt_map_keys fun memory => rfl
  | step => exact Machine.step_keys _
  | run count => exact Machine.runSteps_keys _ count
  | frame => exact Machine.runFrame_keys _ beeper console.bell
  | tick => exact congrArg (·.core.keys) (Machine.tick_machine _ beeper console.bell)
  | setRegister index value => exact attempt_map_keys fun x => rfl
  | write address value => exact attempt_map_keys fun memory => rfl
  | writeBlock address block =>
      simp only [serve, Machine.writeBlock_eq_map]
      cases console.machine.core.memory.writeBlock address block <;> rfl
  | push address =>
      simp only [serve, Core.push]
      split <;> rfl
  | pop =>
      simp only [serve, Core.pop?]
      cases console.machine.core.stack <;> rfl
  | fetch =>
      simp only [serve, change, Core.outcome_fetchNext]
      split <;> rfl
  | _ => rfl

/-- A key is held after a run if the last request about it says so, or if it was held before and no
request is about it. -/
theorem isPressed_run (console : Console σ) (requests : List Request) (key : Key) :
    (console.run beeper requests).machine.core.keys.isPressed key.val =
      (Request.lastVerdict? requests key.val).getD
        (console.machine.core.keys.isPressed key.val) := by
  induction requests using List.reverseRecOn with
  | nil => rfl
  | append_singleton requests request ih =>
      rw [run_append, run_cons, run_nil, serve_keys, Request.isPressed_keysAfter, ih,
        Request.lastVerdict?, Request.lastVerdict?, getLast?_filterMap_concat, Option.getD_or]

theorem run_setKey_comm (console : Console σ) {first second : Key} (other : first ≠ second)
    (pressed pressedToo : Bool) :
    console.run beeper [.setKey first pressed, .setKey second pressedToo] =
      console.run beeper [.setKey second pressedToo, .setKey first pressed] := by
  have keys := Keypad.set_comm other console.machine.core.keys pressed pressedToo
  exact congrArg (fun keys => console.withMachine
    (console.machine.withCore { console.machine.core with keys })) keys

theorem run_twice (console : Console σ) {request : Request} (aboutKeys : request.isAboutKeys) :
    console.run beeper [request, request] = console.run beeper [request] := by
  cases request with
  | setKey key pressed =>
      have keys := Keypad.set_set console.machine.core.keys key pressed
      exact congrArg (fun keys => console.withMachine
        (console.machine.withCore { console.machine.core with keys })) keys
  | clearKeys | reset => rfl
  | _ => cases aboutKeys

/-- **The keypad is a set of keys.** After any run from a new machine, an index is that of a held
key exactly if it is below sixteen and the last request about that key was to press it. Some key is
held exactly if the bits are not all zero, and exactly then the search finds one, the least that is
held. At any time requests for two keys commute, and a request about keys that is made twice does
what it does once. -/
theorem run_keys (bell : σ) (config : Config) (entropy : Secret) (requests : List Request) :
    let console : Console σ := ⟨.create config entropy, bell⟩
    let core := (console.run beeper requests).machine.core
    (∀ index : UInt8, core.isPressed index = true ↔
      index.toNat < 16 ∧ Request.lastVerdict? requests index.toNat = some true) ∧
    (core.keys.any = true ↔ ∃ index : UInt8, core.isPressed index = true) ∧
    (∀ key : Key, core.keys.first? = some key ↔
      core.keys.isPressed key.val = true ∧
        ∀ index : UInt8, core.isPressed index = true → key.val ≤ index.toNat) ∧
    (core.keys.first? = none ↔ core.keys.any = false) ∧
    (core.keys.any = true →
      ∃ key, Key.all.find? (fun key => core.keys.isPressed key.val) = some key) ∧
    (∀ (now : Console σ) (first second : Key) (pressed pressedToo : Bool), first ≠ second →
      now.run beeper [.setKey first pressed, .setKey second pressedToo] =
        now.run beeper [.setKey second pressedToo, .setKey first pressed]) ∧
    ∀ (now : Console σ) (request : Request), request.isAboutKeys = true →
      now.run beeper [request, request] = now.run beeper [request] := by
  intro console core
  have follows (key : Key) : core.keys.isPressed key.val = true ↔
      Request.lastVerdict? requests key.val = some true := by
    have free : console.machine.core.keys.isPressed key.val = false :=
      Keypad.isPressed_released key
    rw [isPressed_run beeper console requests key, free, Option.getD_eq_iff]
    simp only [Bool.false_eq_true, and_false, or_false]
  refine ⟨?_, Core.any_keys_iff, fun key => Core.first?_keys_eq_some_iff,
    Keypad.first?_eq_none_iff_any, ?_,
    fun now first second pressed pressedToo other =>
      run_setKey_comm beeper now other pressed pressedToo,
    fun now request aboutKeys => run_twice beeper now aboutKeys⟩
  · intro index
    rw [Core.isPressed, Keypad.isPressed_iff]
    constructor
    · rintro ⟨key, same, pressed⟩
      rw [← same]
      exact ⟨key.isLt, (follows key).mp pressed⟩
    · rintro ⟨below, pressed⟩
      exact ⟨⟨index.toNat, below⟩, rfl, (follows ⟨index.toNat, below⟩).mpr pressed⟩
  · intro held
    rw [← Keypad.first?_eq_find?, ← Option.isSome_iff_exists, ← Option.ne_none_iff_isSome]
    intro missing
    rw [Keypad.first?_eq_none_iff_any.mp missing] at held
    cases held

end Console

end Chip8
