import Chip8.Desktop.Launch
import Chip8.Proofs.Desktop.Building
import Chip8.Proofs.Desktop.LoopCalls
import Chip8.Proofs.Desktop.Setup
import Chip8.Proofs.Loading

/-!
# The course of a launch

The windowed program from its arguments to its end, phase by phase: what each phase checks and which
calls it makes is read off what the launch is given (`Situation.course`), and every launch follows
this course (`Situation.ending_follows`).
-/

namespace Chip8

namespace Halt

def failure? : Halt → Option Failure
  | .failed failure => some failure
  | .panicked _ => none

def panic? : Halt → Option String
  | .failed _ => none
  | .panicked message => some message

end Halt

namespace Desktop

open Staged

/-- What a launch is given, with what happens around the application once it has started. -/
structure Situation where
  yaml : Yaml
  files : Files
  arguments : List Argument
  entropy : Secret
  now : Nat
  stage : Stage
  cues : List Host.Cue

namespace Argument

def text? : Argument → Option String
  | .text content => some content
  | .unreadable _ => none

def panic? : Argument → Option Halt
  | .text _ => none
  | .unreadable message => some (.panicked message)

end Argument

/-- Why a program cannot be loaded: its file cannot be read, or it is too large. -/
def romFailure? : Except IoFault (List UInt8) → Option Failure
  | .error cause => some (.machine (.io cause))
  | .ok program =>
    if maxProgramSize < program.length then some (.machine (.largeProgram program.length)) else none

/-- Loading a named program logs its path and, once it is loaded, its size. -/
theorem Host.outcome_loadRom {settings : Settings} {path : String}
    (read : String → Except IoFault (List UInt8)) (entropy : Secret) (session : Session)
    (named : settings.rom? = some path) :
    ∃ (result : Except Halt Machine) (sizes : List Nat),
      outcome (loadRom settings read entropy) session =
        (result, session.recordAll <|
          .log (.loadingRom path) :: sizes.map fun size => .log (.machine (.loaded size))) ∧
      failureOf result = (romFailure? (read path)).map .failed := by
  unfold loadRom
  rw [named]
  dsimp only
  cases contents : read path with
  | error cause => exact ⟨.error (.failed (.machine (.io cause))), [], rfl, rfl⟩
  | ok program =>
      let machine := Machine.create settings.config entropy
      by_cases fits : program.length ≤ maxProgramSize
      · refine ⟨.ok (machine.withCore { Core.initial with memory := .image program }),
          [program.length], ?_, ?_⟩
        · simp only [Machine.loadFile, Machine.load_eq, if_pos fits]
          rfl
        · rw [romFailure?, if_neg (Nat.not_lt_of_le fits)]
          rfl
      · refine ⟨.error (.failed (.machine (.largeProgram program.length))), [], ?_, ?_⟩
        · simp only [Machine.loadFile, Machine.load_eq, if_neg fits]
          rfl
        · rw [romFailure?, if_pos (Nat.lt_of_not_le fits)]
          rfl

/-- The commands that delete the objects of a renderer. -/
def Renderer.deleting (renderer : Renderer) : List Command :=
  [.deleteProgram renderer.program, .deleteVertexArray renderer.vertexArray,
    .deleteTexture renderer.texture]

/-- The notice with which a program ends, given what stops it, if anything does; there is none of a
panic. -/
def closing : Option Halt → Option Notice
  | none => some .finished
  | some (.failed failure) => some (.failed failure)
  | some (.panicked _) => none

/-- The status of a program, given what stops it, if anything does. -/
def exitStatus : Option Halt → Nat
  | none => 0
  | some (.failed _) => 1
  | some (.panicked _) => 101

/-- How a program ends after calls, given what stops it, if anything does. -/
structure Ending.Closes (ending : Ending) (made : List Call) (halt? : Option Halt) : Prop where
  calls : ending.calls.toList = made ++ ((closing halt?).map Call.log).toList
  status : ending.status = exitStatus halt?
  showsUsage : ending.showsUsage = (halt?.bind Halt.failure?).isSome
  panic? : ending.panic? = halt?.bind Halt.panic?

namespace Situation

variable (given : Situation)

def ending : Ending :=
  Launch.run given.yaml given.files given.arguments given.entropy given.now given.stage given.cues

/-- The text of an argument, if it has one. -/
def argument? (index : Nat) : Option String := given.arguments[index]?.bind Argument.text?

/-- The file that the arguments name, or else the default one if it exists. -/
def settingsFile? : Option String :=
  (given.argument? 0).or <|
    if given.files.contains Settings.defaultFile then some Settings.defaultFile else none

/-- The settings of the settings file, or else the default ones. -/
def found : Except Failure Settings :=
  match given.settingsFile? with
  | some path => Settings.ofFile given.yaml.settings (given.files.read path)
  | none => .ok {}

/-- These settings, but with the program that the arguments name, if they name one. -/
def settings : Except Failure Settings :=
  given.found.map fun settings => { settings with rom? := (given.argument? 1).or settings.rom? }

def settings? : Option Settings := given.settings.toOption

/-- The keyboard layout of the file that the settings name, or else the built-in one. -/
def layout (settings : Settings) : Except Failure InputMap :=
  match settings.inputMap? with
  | some path => InputMap.ofFile given.yaml.definitions (given.files.read path)
  | none => InputMap.defaultLayout given.yaml.definitions

/-- The session in which the start begins. -/
def session : Session := (Session.start given.stage).record (.log .starting)

def started : Except Halt Host × Session :=
  outcome (Launch.start given.yaml given.files given.arguments given.entropy given.now)
    given.session

/-- The application once its events are over, if it starts. -/
def last? : Option Host :=
  given.started.1.toOption.map fun host => host.run given.now given.cues

/-- Why a phase fails, if it does. Reading arguments and creating the event loop panic; all other
phases but that of the window only fail. -/
def failure? : Phase → Option Halt
  | .arguments =>
    (given.arguments[0]?.bind Argument.panic?).or (given.arguments[1]?.bind Argument.panic?)
  | .settings => (failureOf given.settings).map .failed
  | .inputMap =>
    (given.settings?.bind fun settings => failureOf (given.layout settings)).map .failed
  | .eventLoop => given.stage.refusal? .eventLoop .panicked
  | .validation =>
    (given.settings?.bind fun settings => failureOf settings.validate).map
      fun cause => .failed (.settings cause)
  | .romNamed =>
    given.settings?.bind fun settings =>
      if settings.rom? = none then some (.failed (.settings .noRom)) else none
  | .romLoaded =>
    (given.settings?.bind fun settings =>
      settings.rom?.bind fun rom => romFailure? (given.files.read rom)).map .failed
  | .window => given.stage.windowFailure?
  | .renderer => given.stage.rendererFailure?.map .failed
  | .events => (given.last?.bind Host.failure?).map .failed

/-- The calls that a phase makes. Those of the events are the reactions to them and what closes the
application. -/
def makes (phase : Phase) (calls : List Call) : Prop :=
  match phase with
  | .settings => calls = (given.settingsFile?.map fun path => .log (.loadingSettings path)).toList
  | .inputMap =>
    let path? := given.settings?.bind Settings.inputMap?
    calls = (path?.map fun path => .log (.loadingInputMap path)).toList
  | .eventLoop => calls = [.createEventLoop]
  | .arguments | .validation | .romNamed => calls = []
  | .romLoaded =>
    ∃ (rom : String) (sizes : List Nat), given.settings?.bind Settings.rom? = some rom ∧
      calls = .log (.loadingRom rom) :: sizes.map fun size => .log (.machine (.loaded size))
  | .window => ∀ call ∈ calls, phase ∈ call.phases
  | .renderer =>
    ∃ width height, calls = (Renderer.building given.stage width height).map .graphics ++
      if given.stage.rendererFailure? = none then [.log (.rendererCreated given.stage.info)]
      else [.releaseContext]
  | .events =>
    ∃ width height reactions beeps, let renderer := Renderer.first width height
      let played := if given.failure? .events = none then [.log (.played beeps)] else []
      (∀ call ∈ reactions, renderer.LoopCall call) ∧
        calls = reactions ++ played ++ .releaseContext :: renderer.deleting.map .graphics

def course : Course := ⟨given.failure?, given.makes⟩

variable {given}

/-! ## Before the window -/

theorem outcome_ofExcept {α : Type} (result : Except Failure α) (session : Session) :
    outcome (Launch.ofExcept result) session = (result.mapError .failed, session) := by
  cases result <;> rfl

theorem outcome_readArgument (argument? : Option Argument) (session : Session) :
    outcome (Launch.readArgument argument?) session =
      (match argument?.bind Argument.panic? with
        | some halt => .error halt
        | none => .ok (argument?.bind Argument.text?), session) := by
  rcases argument? with - | text | message <;> rfl

section

variable {session : Session}

theorem outcome_readArguments :
    outcome (Launch.readArguments given.arguments) session =
      (match given.failure? .arguments with
        | some halt => .error halt
        | none => .ok (given.argument? 0, given.argument? 1), session) := by
  rw [Launch.readArguments, outcome_bind, outcome_readArgument, failure?]
  cases given.arguments[0]?.bind Argument.panic? with
  | some halt => rfl
  | none =>
      dsimp only
      rw [outcome_bind, outcome_readArgument, Option.none_or]
      cases given.arguments[1]?.bind Argument.panic? <;> rfl

theorem arguments_of_readArguments {names : Option String × Option String} {after : Session}
    (done : outcome (Launch.readArguments given.arguments) session = (.ok names, after)) :
    names = (given.argument? 0, given.argument? 1) := by
  rw [outcome_readArguments] at done
  cases failed : given.failure? .arguments with
  | some halt =>
      rw [failed] at done
      cases done
  | none =>
      rw [failed] at done
      cases done
      rfl

theorem readArguments_follows :
    Follows given.course [.arguments] (Launch.readArguments given.arguments) session := by
  refine .of_silent outcome_readArguments rfl ?_
  change _ = given.failure? .arguments
  cases given.failure? .arguments <;> rfl

theorem outcome_findSettings :
    outcome (Launch.findSettings given.yaml given.files (given.argument? 0)) session =
      (given.found.mapError .failed, session.recordAll
        (given.settingsFile?.map fun path => .log (.loadingSettings path)).toList) := by
  have loads (path : String) :
      outcome (Launch.loadSettings given.yaml given.files path) session =
        ((Settings.ofFile given.yaml.settings (given.files.read path)).mapError .failed,
          session.record (.log (.loadingSettings path))) := outcome_ofExcept ..
  unfold found settingsFile? Launch.findSettings
  cases given.argument? 0 with
  | some path => exact loads path
  | none =>
      cases given.files.contains Settings.defaultFile with
      | true => exact loads Settings.defaultFile
      | false => rfl

theorem prepare_unfolded :
    Launch.prepare given.yaml given.files (given.argument? 0) (given.argument? 1) = do
      let found ← Launch.findSettings given.yaml given.files (given.argument? 0)
      let settings := { found with rom? := (given.argument? 1).or found.rom? }
      return (settings, ← Launch.findInputMap given.yaml given.files settings) := by
  unfold Launch.prepare
  cases given.argument? 1 <;> rfl

theorem settings_of_found {found : Settings} {after : Session}
    (done : outcome (Launch.findSettings given.yaml given.files (given.argument? 0)) session =
      (.ok found, after)) :
    given.settings = .ok { found with rom? := (given.argument? 1).or found.rom? } := by
  rw [outcome_findSettings] at done
  have same : given.found.mapError Halt.failed = .ok found := (Prod.mk.inj done).1
  rw [settings]
  cases own : given.found with
  | error failure =>
      rw [own] at same
      cases same
  | ok value =>
      rw [own] at same
      cases same
      rfl

/-- The preparation yields the settings. -/
theorem settings_of_prepare {prepared : Settings × InputMap} {after : Session}
    (done : outcome (Launch.prepare given.yaml given.files (given.argument? 0) (given.argument? 1))
      session = (.ok prepared, after)) :
    given.settings = .ok prepared.1 := by
  rw [prepare_unfolded] at done
  obtain ⟨found, middle, ran, done⟩ := exists_of_outcome_bind done
  obtain ⟨inputMap, last, -, done⟩ := exists_of_outcome_bind done
  cases done
  exact settings_of_found ran

theorem findSettings_follows :
    Follows given.course [.settings]
      (Launch.findSettings given.yaml given.files (given.argument? 0)) session := by
  refine .of_recorded outcome_findSettings rfl ?_
  change _ = (failureOf given.settings).map Halt.failed
  rw [failureOf_mapError, settings]
  cases given.found <;> rfl

section

variable {settings : Settings} (known : given.settings = .ok settings)

include known

/-- What depends on the settings depends on these. -/
theorem bind_settings? {α : Type} (next : Settings → Option α) :
    given.settings?.bind next = next settings := by
  rw [settings?, known]
  rfl

theorem findInputMap_follows :
    Follows given.course [.inputMap] (Launch.findInputMap given.yaml given.files settings)
      session := by
  have done : outcome (Launch.findInputMap given.yaml given.files settings) session =
      ((given.layout settings).mapError Halt.failed, session.recordAll
        (settings.inputMap?.map fun path => .log (.loadingInputMap path)).toList) := by
    unfold layout Launch.findInputMap
    cases settings.inputMap? with
    | some path => exact outcome_ofExcept ..
    | none => exact outcome_ofExcept ..
  have failed : given.course.failure? .inputMap =
      (failureOf (given.layout settings)).map .failed :=
    congrArg (Option.map Halt.failed) (bind_settings? known _)
  refine .of_recorded done ?_ ((failureOf_mapError _ _).trans failed.symm)
  change _ = ((given.settings?.bind Settings.inputMap?).map _).toList
  rw [bind_settings? known]

theorem loadRom_follows :
    Follows given.course [.romNamed, .romLoaded]
      (Host.loadRom settings given.files.read given.entropy) session := by
  have named : given.course.failure? .romNamed =
      if settings.rom? = none then some (.failed (.settings .noRom)) else none :=
    bind_settings? known _
  have loaded : given.course.failure? .romLoaded =
      (settings.rom?.bind fun rom => romFailure? (given.files.read rom)).map .failed :=
    congrArg (Option.map Halt.failed) (bind_settings? known _)
  cases rom : settings.rom? with
  | none =>
      rw [rom, if_pos rfl] at named
      have refuses : outcome (Host.loadRom settings given.files.read given.entropy) session =
          (.error (.failed (.settings .noRom)), session) := by
        unfold Host.loadRom
        rw [rom]
        rfl
      have failed : given.course.failureIn? [.romNamed] = some (.failed (.settings .noRom)) := by
        rw [Course.failureIn?, List.findSome?_singleton, named]
      have follows : Follows given.course [.romNamed]
          (Host.loadRom settings given.files.read given.entropy) session :=
        .of_silent refuses rfl named.symm
      exact follows.append_of_fails failed
  | some path =>
      rw [rom, if_neg (Option.some_ne_none _)] at named
      rw [rom, Option.bind_some] at loaded
      obtain ⟨result, sizes, done, failed⟩ :=
        Host.outcome_loadRom given.files.read given.entropy session rom
      refine .cons_of_passes named rfl ?_
      exact .of_recorded done ⟨path, sizes, (bind_settings? known _).trans rom, rfl⟩
        (failed.trans loaded.symm)

omit known in
theorem attach_follows (stage : session.stage = given.stage) (fresh : session.created = 0)
    (width height : Nat) :
    Follows given.course [.renderer] (raise (Host.attach width height)) session := by
  obtain ⟨created, attached⟩ := Host.outcome_attach fresh width height
  rw [stage] at attached
  let built := session.issued created (Renderer.building given.stage width height)
  have sameStage : built.stage = session.stage := Session.stage_issued ..
  have made (last : Call) :
      (built.record last).calls.toList = session.calls.toList ++
        ((Renderer.building given.stage width height).map .graphics ++ [last]) := by
    rw [Session.record, Array.toList_push, Session.calls_issued, List.append_assoc]
  have fails : given.course.failure? .renderer = given.stage.rendererFailure?.map .failed := rfl
  cases failed : given.stage.rendererFailure? with
  | some failure =>
      rw [failed] at attached fails
      have raised : outcome (raise (Host.attach width height)) session =
          (.error (.failed failure), built.record .releaseContext) := by
        rw [outcome_raise, attached]
        rfl
      refine .of_outcome raised sameStage (absurd rfl) (made _) ⟨width, height, ?_⟩ fails.symm
      rw [failed, if_neg (Option.some_ne_none _)]
  | none =>
      rw [failed] at attached fails
      have raised : outcome (raise (Host.attach width height)) session =
          (.ok (.first width height), built.record (.log (.rendererCreated given.stage.info))) := by
        rw [outcome_raise, attached]
        rfl
      refine .of_outcome raised sameStage (absurd rfl) (made _) ⟨width, height, ?_⟩ fails.symm
      rw [if_pos failed]

omit known in
theorem window_follows (stage : session.stage = given.stage) (request : WindowRequest) :
    Follows given.course [.window] (Window.create request) session := by
  refine .of_does ?_ fun _ own => own
  rw [stage]
  exact Window.does_create request

omit known in
theorem createWindow_follows (stage : session.stage = given.stage) (fresh : session.created = 0)
    (width height : Nat) :
    Follows given.course [.window, .renderer] (Host.createWindow width height) session := by
  unfold Host.createWindow
  apply (window_follows stage _).bind
  intro _ after _ sameStage sameCreated
  exact attach_follows (sameStage.trans stage) ((sameCreated (by decide)).trans fresh) width height

theorem create_follows (stage : session.stage = given.stage) (fresh : session.created = 0)
    (inputMap : InputMap) :
    Follows given.course [.validation, .romNamed, .romLoaded, .window, .renderer]
      (Host.create settings inputMap given.files.read given.entropy given.now) session := by
  have validation : given.course.failure? .validation =
      (failureOf settings.validate).map fun cause => .failed (.settings cause) :=
    congrArg (Option.map fun cause => Halt.failed (.settings cause)) (bind_settings? known _)
  unfold Host.create
  dsimp only
  cases valid : settings.validate with
  | error cause =>
      rw [valid] at validation
      have refuses : Follows given.course [.validation]
          (throw (.failed (.settings cause)) : Starting Host) session :=
        .of_silent rfl rfl validation.symm
      exact refuses.append_of_fails (refuses.result.symm)
  | ok value =>
      rw [valid] at validation
      apply Follows.cons_of_passes validation rfl
      have loads : Follows given.course [.romNamed, .romLoaded]
          (Host.loadRom settings given.files.read given.entropy) session := loadRom_follows known
      apply loads.bind
      intro machine after _ sameStage sameCreated
      have window : Follows given.course [.window, .renderer]
          (Host.createWindow settings.windowSize.1 settings.windowSize.2) after :=
        createWindow_follows (sameStage.trans stage) ((sameCreated (by decide)).trans fresh) ..
      exact window.bind_silent fun _ _ => rfl

end

theorem prepare_follows :
    Follows given.course [.settings, .inputMap]
      (Launch.prepare given.yaml given.files (given.argument? 0) (given.argument? 1)) session := by
  rw [prepare_unfolded]
  apply findSettings_follows.bind
  intro found after ran _ _
  exact (findInputMap_follows (settings_of_found ran)).bind_silent fun _ _ => rfl

theorem createEventLoop_follows (stage : session.stage = given.stage) :
    Follows given.course [.eventLoop] (attempt .eventLoop .createEventLoop Halt.panicked)
      session := by
  have made : outcome (attempt .eventLoop .createEventLoop Halt.panicked) session =
      (if session.stage.refuses .eventLoop then .error (.panicked Operation.eventLoop.refusal)
        else .ok (), session.recordAll [.createEventLoop]) := outcome_attempt ..
  refine .of_recorded made rfl ?_
  change _ = given.stage.refusal? .eventLoop Halt.panicked
  rw [stage, Stage.refusal?]
  cases given.stage.refuses .eventLoop <;> rfl

end

theorem start_follows :
    Follows given.course Phase.events.before
      (Launch.start given.yaml given.files given.arguments given.entropy given.now)
      given.session := by
  rw [show Phase.events.before = [.arguments] ++ ([.settings, .inputMap] ++ ([.eventLoop] ++
    [.validation, .romNamed, .romLoaded, .window, .renderer])) from rfl]
  apply readArguments_follows.bind
  intro names first read sameStage sameCreated
  have stage : first.stage = given.stage := sameStage
  have fresh : first.created = 0 := sameCreated (by decide)
  rw [arguments_of_readArguments read]
  apply prepare_follows.bind
  intro prepared second ran sameStage sameCreated
  have stage : second.stage = given.stage := sameStage.trans stage
  have fresh : second.created = 0 := (sameCreated (by decide)).trans fresh
  apply (createEventLoop_follows stage).bind
  intro _ third _ sameStage sameCreated
  exact create_follows (settings_of_prepare ran) (sameStage.trans stage)
    ((sameCreated (by decide)).trans fresh) prepared.2

/-! ## The started application -/

theorem renderer_of_createWindow {session : Session} {width height : Nat} {renderer : Renderer}
    {after : Session} (stage : session.stage = given.stage) (fresh : session.created = 0)
    (done : outcome (Host.createWindow width height) session = (.ok renderer, after)) :
    renderer = .first width height := by
  unfold Host.createWindow at done
  obtain ⟨⟨⟩, middle, opens, done⟩ := exists_of_outcome_bind done
  have fresh : middle.created = 0 :=
    (((window_follows stage _).keeps opens).2 (by decide)).trans fresh
  have done := outcome_of_raise done
  obtain ⟨created, attached⟩ := Host.outcome_attach fresh width height
  rw [attached] at done
  cases failed : middle.stage.rendererFailure? with
  | some failure =>
      rw [failed] at done
      cases done
  | none =>
      rw [failed] at done
      cases done
      rfl

/-- A start that succeeds prepares settings and a layout, and creates the application from these. -/
theorem exists_of_started {host : Host} {after : Session}
    (done : given.started = (.ok host, after)) :
    ∃ settings inputMap session, given.settings = .ok settings ∧ session.stage = given.stage ∧
      session.created = 0 ∧
      outcome (Host.create settings inputMap given.files.read given.entropy given.now) session =
        (.ok host, after) := by
  unfold started Launch.start at done
  obtain ⟨names, first, reads, done⟩ := exists_of_outcome_bind done
  obtain ⟨readStage, readCreated⟩ := readArguments_follows.keeps reads
  rw [arguments_of_readArguments reads] at done
  obtain ⟨prepared, second, prepares, done⟩ := exists_of_outcome_bind done
  obtain ⟨prepareStage, prepareCreated⟩ := prepare_follows.keeps prepares
  have stage : second.stage = given.stage := prepareStage.trans readStage
  have fresh : second.created = 0 := (prepareCreated (by decide)).trans (readCreated (by decide))
  obtain ⟨⟨⟩, third, creates, done⟩ := exists_of_outcome_bind done
  obtain ⟨sameStage, sameCreated⟩ := (createEventLoop_follows stage).keeps creates
  exact ⟨prepared.1, prepared.2, third, settings_of_prepare prepares, sameStage.trans stage,
    (sameCreated (by decide)).trans fresh, done⟩

/-- An application that starts takes the session over, with the first objects in it. -/
theorem started_eq {host : Host} {after : Session} (done : given.started = (.ok host, after)) :
    host.session = after ∧ ∃ width height, host.renderer = .first width height := by
  obtain ⟨settings, inputMap, session, known, stage, fresh, done⟩ := exists_of_started done
  unfold Host.create at done
  dsimp only at done
  cases valid : settings.validate with
  | error cause =>
      rw [valid] at done
      cases done
  | ok value =>
      rw [valid] at done
      obtain ⟨machine, first, loads, done⟩ := exists_of_outcome_bind done
      obtain ⟨loadStage, loadCreated⟩ := (loadRom_follows known).keeps loads
      obtain ⟨renderer, second, shows, done⟩ := exists_of_outcome_bind done
      cases done
      exact ⟨rfl, _, _, renderer_of_createWindow (loadStage.trans stage)
        ((loadCreated (by decide)).trans fresh) shows⟩

/-! ## The end -/

theorem calls_close (host : Host) :
    host.close.calls.toList =
      host.session.calls.toList ++ .releaseContext :: host.renderer.deleting.map .graphics := by
  have closed : host.close = host.session.recordAll
      (.releaseContext :: host.renderer.deleting.map .graphics) := rfl
  rw [closed, Session.calls_recordAll]

theorem ending_eq :
    given.ending =
      match given.started with
      | (.error halt, session) => Launch.halted session halt
      | (.ok host, _) => Launch.finished (host.run given.now given.cues) := rfl

theorem closes_failed (session : Session) (failure : Failure) (bells : Nat) :
    (Launch.failed session failure bells).Closes session.calls.toList (some (.failed failure)) where
  calls := Array.toList_push
  status := rfl
  showsUsage := rfl
  panic? := rfl

theorem closes_halted (session : Session) (halt : Halt) :
    (Launch.halted session halt).Closes session.calls.toList (some halt) := by
  cases halt with
  | failed failure => exact closes_failed session failure 0
  | panicked message => exact ⟨(List.append_nil _).symm, rfl, rfl, rfl⟩

theorem closes_finished (host : Host) :
    (Launch.finished host).Closes
      (host.session.calls.toList ++
        ((if host.failure? = none then [.log (.played host.bell.beeps)] else []) ++
          .releaseContext :: host.renderer.deleting.map .graphics))
      (host.failure?.map .failed) := by
  unfold Launch.finished
  cases host.failure? with
  | some failure =>
      have closes := closes_failed host.close failure host.bell.rung
      rw [calls_close] at closes
      exact closes
  | none =>
      refine ⟨?_, rfl, rfl, rfl⟩
      change ((host.call (.log (.played host.bell.beeps))).close.calls.push _).toList = _
      rw [Array.toList_push, calls_close, Host.call, Session.record, Array.toList_push,
        List.append_assoc host.session.calls.toList]
      rfl

/-- A launch goes through its phases and ends as the first of them that fails, or well. -/
theorem ending_follows :
    ∃ made, Passage given.course Phase.all made ∧
      given.ending.Closes (.log .starting :: made) (given.course.failureIn? Phase.all) := by
  have parts : Phase.all = Phase.events.before ++ [.events] := rfl
  have start : Follows given.course Phase.events.before
      (Launch.start given.yaml given.files given.arguments given.entropy given.now)
      given.session := start_follows
  obtain ⟨-, -, ⟨calls, made, passage⟩, result⟩ := start
  have ran : outcome
      (Launch.start given.yaml given.files given.arguments given.entropy given.now)
      given.session = given.started := rfl
  rw [ran] at made result
  have made : given.started.2.calls.toList = .log .starting :: calls := made
  rw [ending_eq, parts]
  rcases start : given.started with ⟨halt | host, after⟩
  · rw [start] at made result
    rw [Course.failureIn?_append_of_fails result.symm]
    refine ⟨calls, passage.append_of_fails result.symm, ?_⟩
    rw [← made]
    exact closes_halted after halt
  · rw [start] at made result
    let last := host.run given.now given.cues
    have failure : given.course.failure? .events = last.failure?.map .failed := by
      change (given.last?.bind Host.failure?).map _ = _
      rw [last?, start]
      rfl
    obtain ⟨taken, width, height, renderer⟩ := started_eq start
    obtain ⟨reactions, reacted, own⟩ := host.run_extends given.now given.cues
    have kept : last.renderer = .first width height := (host.renderer_run _ _).1.trans renderer
    have finished := closes_finished last
    rw [Course.failureIn?_append_of_passes result.symm, Course.failureIn?,
      List.findSome?_singleton, failure]
    refine ⟨_, passage.append_of_passes result.symm (.single ⟨width, height, reactions,
      last.bell.beeps, ?_, rfl⟩), ?_⟩
    · rw [← renderer]
      exact own
    · have played : (if given.failure? .events = none then [.log (.played last.bell.beeps)]
          else []) =
          if last.failure? = none then [Call.log (.played last.bell.beeps)] else [] := by
        rw [show given.failure? .events = last.failure?.map .failed from failure]
        cases last.failure? <;> rfl
      rw [reacted, taken, made, kept, List.cons_append, List.cons_append, List.append_assoc]
        at finished
      rw [played, List.append_assoc reactions]
      exact finished

end Situation

end Desktop

end Chip8
