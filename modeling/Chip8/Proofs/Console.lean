import Chip8.Proofs.Step

/-!
# Consoles

A machine with its beeper, and what a host can ask of them. A run is a list of requests; after a
failed request the host goes on with the console as the failure left it. What every request keeps,
every run keeps (`Console.run_keeps`).
-/

namespace Chip8

/-- What a host can ask of a machine. -/
inductive Request where
  | load (program : List UInt8)
  /-- Load the program of a file, given what reading the file yields. -/
  | loadFile (contents : Except IoFault (List UInt8))
  | loadFont (glyphs : List UInt8)
  | reset
  | step
  | run (count : Nat)
  | frame
  | tick
  | setKey (key : Key) (pressed : Bool)
  | clearKeys
  | setRegister (index : Nat) (value : UInt8)
  | setIndex (value : UInt16)
  | setDelay (value : UInt8)
  | setSound (value : UInt8)
  | write (address : Nat) (value : UInt8)
  | writeBlock (address : Nat) (block : List UInt8)
  | push (address : UInt16)
  | pop
  | setPc (address : UInt16)
  /-- Move past the next instruction without executing it. -/
  | fetch
  | clearDisplay
  | setCell (x y : Nat) (value : UInt8)
  | toggle (x y : Nat)
  | drawRow (x y : Nat) (row : UInt8)

/-- Whether a request is for a single step. -/
def Request.isStep : Request → Bool
  | .step => true
  | _ => false

/-- What a host is told. -/
inductive Answer where
  | done (result : Except Fault Unit)
  | flow (result : Except Fault Flow)
  | word (result : Except Fault UInt16)
  | address (top? : Option UInt16)
  | tone (plays : Bool)
  | collision (erased : Bool)

/-- A machine and the state of its beeper. -/
structure Console (σ : Type) where
  machine : Machine
  bell : σ

namespace Console

variable {σ : Type} (beeper : Beeper σ)

/-- Changes the machine. -/
def withMachine (console : Console σ) (machine : Machine) : Console σ := { console with machine }

/-- The end of a request that changes the core. -/
def change (console : Console σ) (core : Core) (answer : Answer := .done (.ok ())) :
    Answer × Console σ :=
  (answer, console.withMachine (console.machine.withCore core))

/-- The end of a request that changes the machine unless it fails. -/
def attempt (console : Console σ) (result : Except Fault Machine) : Answer × Console σ :=
  match result with
  | .ok machine => (.done (.ok ()), console.withMachine machine)
  | .error fault => (.done (.error fault), console)

/-- What a request is answered, and the console that it leaves. -/
def serve (console : Console σ) (request : Request) : Answer × Console σ :=
  let machine := console.machine
  let core := machine.core
  match request with
  | .load program =>
    let report := machine.load program
    (.done report.result, console.withMachine report.machine)
  | .loadFile contents =>
    let report := machine.loadFile contents
    (.done report.result, console.withMachine report.machine)
  | .loadFont glyphs => console.attempt (machine.loadFont glyphs)
  | .reset => (.done (.ok ()), console.withMachine machine.reset)
  | .step => (.flow machine.step.result, console.withMachine machine.step.machine)
  | .run count =>
    let report := machine.runSteps count
    (.flow report.result, console.withMachine report.machine)
  | .frame =>
    let frame := machine.runFrame beeper console.bell
    (.flow frame.1.result, ⟨frame.1.machine, frame.2⟩)
  | .tick =>
    let ticked := machine.tick beeper console.bell
    (.tone ticked.tone, ⟨ticked.machine, ticked.beeper⟩)
  | .setKey key pressed => console.change (core.setKey key pressed)
  | .clearKeys => console.change core.clearKeys
  | .setRegister index value =>
    console.attempt ((Core.register index).map fun x => machine.withCore (core.set x value))
  | .setIndex value => console.change { core with i := value }
  | .setDelay value => console.change { core with delay := value }
  | .setSound value => console.change { core with sound := value }
  | .write address value =>
    console.attempt ((core.memory.write address value).map fun memory =>
      machine.withCore { core with memory })
  | .writeBlock address block =>
    console.attempt ((core.writeBlock address block).map machine.withCore)
  | .push address => console.attempt ((core.push address).map machine.withCore)
  | .pop =>
    match core.pop? with
    | none => (.address none, console)
    | some (address, core) => console.change core (.address (some address))
  | .setPc address => console.change { core with pc := address }
  | .fetch =>
    let fetched := Core.fetchNext.outcome core
    console.change fetched.2 (.word fetched.1)
  | .clearDisplay => console.change { core with display := .blank }
  | .setCell x y value => console.change { core with display := core.display.setCell x y value }
  | .toggle x y =>
    let toggled := core.display.toggle x y
    console.change { core with display := toggled.1 } (.collision toggled.2)
  | .drawRow x y row =>
    let drawn := core.display.drawRow x y row
    console.change { core with display := drawn.1 } (.collision drawn.2)

/-- The console after a run. -/
def run (console : Console σ) (requests : List Request) : Console σ :=
  requests.foldl (fun console request => (console.serve beeper request).2) console

/-- What the requests of a run are answered. -/
def answers (console : Console σ) : List Request → List Answer
  | [] => []
  | request :: requests =>
    let served := console.serve beeper request
    served.1 :: answers served.2 requests

@[simp] theorem run_nil (console : Console σ) : console.run beeper [] = console := rfl

@[simp] theorem run_cons (console : Console σ) (request : Request) (requests : List Request) :
    console.run beeper (request :: requests) =
      (console.serve beeper request).2.run beeper requests := rfl

theorem run_append (console : Console σ) (first second : List Request) :
    console.run beeper (first ++ second) = (console.run beeper first).run beeper second :=
  List.foldl_append

theorem answers_append (console : Console σ) (first second : List Request) :
    console.answers beeper (first ++ second) =
      console.answers beeper first ++ (console.run beeper first).answers beeper second := by
  induction first generalizing console with
  | nil => rfl
  | cons request first ih => exact congrArg (_ :: ·) (ih _)

/-- A failed attempt changes nothing. -/
theorem attempt_map_keeps (kept : Machine → Prop) {α : Type} {console : Console σ}
    {result : Except Fault α} {next : α → Machine} (start : kept console.machine)
    (keeps : ∀ value, kept (next value)) : kept (console.attempt (result.map next)).2.machine := by
  cases result with
  | ok value => exact keeps value
  | error fault => exact start

/-- What every request of a kind keeps, every run of such requests keeps. -/
theorem run_keeps (kept : Console σ → Prop) (allowed : Request → Prop)
    (keeps : ∀ console request, allowed request → kept console →
      kept (console.serve beeper request).2)
    (requests : List Request) (console : Console σ)
    (all : ∀ request ∈ requests, allowed request) (start : kept console) :
    kept (console.run beeper requests) := by
  induction requests generalizing console with
  | nil => exact start
  | cons request requests ih =>
      rw [run_cons]
      apply ih
      · intro later member
        exact all later (.tail request member)
      · exact keeps console request (all request (.head requests)) start

end Console

end Chip8
