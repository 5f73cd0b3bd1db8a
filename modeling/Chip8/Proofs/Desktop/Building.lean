import Chip8.Desktop.Host
import Chip8.Proofs.Desktop.Phases

/-!
# Building the renderer

The renderer is built by a script of graphics commands, between which the stage may refuse an
operation. The failure and the commands up to it are read off the script (`Script.failure?`,
`Script.commands`), and so a renderer fails as the first operation that is refused
(`Stage.rendererFailure?`) and gives the commands before it (`Renderer.building`).
-/

namespace Chip8.Desktop

open Staged

/-! ## Scripts -/

/-- A step of a script. -/
inductive BuildStep where
  | give (command : Command)
  /-- An operation that ends the script with a failure if the stage refuses it, after the commands
  of that refusal. -/
  | attempt (operation : Operation) (failure : Failure) (refused : List Command)

/-- The commands of a refusal. -/
def BuildStep.refusal : BuildStep → List Command
  | .give _ => []
  | .attempt _ _ refused => refused

/-- Commands with the operations between them that can be refused. -/
abbrev Script := List BuildStep

namespace Script

/-- The commands of a script of which nothing is refused. -/
def granted : Script → List Command
  | [] => []
  | .give command :: script => command :: granted script
  | .attempt _ _ _ :: script => granted script

variable (stage : Stage)

/-- The failure of the first operation that is refused. -/
def failure? : Script → Option Failure
  | [] => none
  | .give _ :: script => failure? script
  | .attempt operation failure _ :: script =>
    (if stage.refuses operation then some failure else none).or (failure? script)

/-- The commands up to the first operation that is refused. -/
def commands : Script → List Command
  | [] => []
  | .give command :: script => command :: commands script
  | .attempt operation _ refused :: script =>
    if stage.refuses operation then refused else commands script

variable {stage} (first second : Script)

theorem failure?_append :
    failure? stage (first ++ second) = (failure? stage first).or (failure? stage second) := by
  induction first with
  | nil => rfl
  | cons step first ih =>
      cases step with
      | give command => exact ih
      | attempt operation failure refused =>
          rw [List.cons_append, failure?, failure?, ih, Option.or_assoc]

/-- A script that follows another one is only reached if that one passes. -/
theorem commands_append :
    commands stage (first ++ second) = commands stage first ++
      if failure? stage first = none then commands stage second else [] := by
  induction first with
  | nil => rfl
  | cons step first ih =>
      cases step with
      | give command => exact congrArg (command :: ·) ih
      | attempt operation own refused =>
          rw [List.cons_append, commands, commands, failure?]
          cases stage.refuses operation with
          | true => exact (List.append_nil refused).symm
          | false => exact ih

variable {first}

theorem commands_append_of_fails {failure : Failure}
    (failed : failure? stage first = some failure) :
    commands stage (first ++ second) = commands stage first := by
  rw [commands_append, failed, if_neg (Option.some_ne_none failure), List.append_nil]

theorem commands_append_of_passes (passed : failure? stage first = none) :
    commands stage (first ++ second) = commands stage first ++ commands stage second := by
  rw [commands_append, if_pos passed]

theorem commands_of_passes (passed : failure? stage first = none) :
    commands stage first = granted first := by
  induction first with
  | nil => rfl
  | cons step first ih =>
      cases step with
      | give command => exact congrArg (command :: ·) (ih passed)
      | attempt operation own refused =>
          rw [failure?] at passed
          rw [commands, granted]
          cases allowed : stage.refuses operation with
          | true =>
              rw [allowed] at passed
              cases passed
          | false =>
              rw [allowed] at passed
              exact ih passed

theorem granted_append : granted (first ++ second) = granted first ++ granted second := by
  induction first with
  | nil => rfl
  | cons step first ih =>
      cases step with
      | give command => exact congrArg (command :: ·) ih
      | attempt operation failure refused => exact ih

/-- A script that fails has given the commands up to the refusal, and those of the refusal. -/
theorem exists_of_fails {failure : Failure} (failed : failure? stage first = some failure) :
    ∃ before step after, first = before ++ step :: after ∧
      commands stage first = granted before ++ step.refusal := by
  induction first with
  | nil => cases failed
  | cons step first ih =>
      cases step with
      | give command =>
          obtain ⟨before, step, after, rfl, gave⟩ := ih failed
          exact ⟨.give command :: before, step, after, rfl, congrArg (command :: ·) gave⟩
      | attempt operation own refused =>
          rw [failure?] at failed
          rw [commands]
          cases allowed : stage.refuses operation with
          | true => exact ⟨[], _, first, rfl, rfl⟩
          | false =>
              rw [allowed] at failed
              obtain ⟨before, step, after, rfl, gave⟩ := ih failed
              exact ⟨.attempt operation own refused :: before, step, after, rfl, gave⟩

theorem failure?_give (given : List Command) : failure? stage (given.map .give) = none := by
  induction given with
  | nil => rfl
  | cons command given ih => exact ih

theorem commands_give (given : List Command) : commands stage (given.map .give) = given := by
  induction given with
  | nil => rfl
  | cons command given ih => exact congrArg (command :: ·) ih

end Script

/-- The session after graphics commands, some of which create objects. -/
def Session.issued (session : Session) (created : Nat) (commands : List Command) : Session :=
  { session.recordAll (commands.map .graphics) with created := session.created + created }

namespace Session

variable (session : Session) (created : Nat) (commands : List Command)

@[simp] theorem stage_issued : (session.issued created commands).stage = session.stage :=
  stage_recordAll ..

@[simp] theorem created_issued :
    (session.issued created commands).created = session.created + created := rfl

@[simp] theorem calls_issued :
    (session.issued created commands).calls.toList =
      session.calls.toList ++ commands.map .graphics := calls_recordAll ..

@[simp] theorem issued_issued (later : Nat) (more : List Command) :
    (session.issued created commands).issued later more =
      session.issued (created + later) (commands ++ more) := by
  have recorded (calls : List Call) (session : Session) (created : Nat) :
      { session with created }.recordAll calls = { session.recordAll calls with created } := by
    induction calls generalizing session with
    | nil => rfl
    | cons call calls ih => exact ih (session.record call)
  rw [issued, issued, issued, recorded, List.map_append, recordAll_append, Nat.add_assoc]

end Session

namespace Staged

variable {α β : Type}

/-- In a session on a stage, with a number of objects so far, an action fails as a script does and
gives its commands; if nothing is refused it yields a value and leaves a number of objects. -/
def Builds (stage : Stage) (before : Nat) (action : Staged α) (script : Script) (value : α)
    (after : Nat) : Prop :=
  ∀ session : Session, session.stage = stage → session.created = before →
    ∃ created, outcome action session =
        (match script.failure? stage with
          | some failure => .error failure
          | none => .ok value,
        session.issued created (script.commands stage)) ∧
      (script.failure? stage = none → before + created = after)

namespace Builds

variable {stage : Stage} {before middle after : Nat} {action : Staged α} {next : α → Staged β}
  {first second : Script} {value : α} {last : β}

theorem of_outcome (given : List Command)
    (done : ∀ session, outcome action session = (.ok value, session.issued 0 given)) :
    Builds stage before action (given.map .give) value before := by
  intro session same fresh
  refine ⟨0, ?_, fun _ => rfl⟩
  rw [done, Script.failure?_give, Script.commands_give]

theorem pure : Builds stage before (pure value) [] value before := of_outcome [] fun _ => rfl

theorem newObject : Builds stage before newObject [] (before + 1) (before + 1) := by
  intro session same fresh
  subst fresh
  exact ⟨1, rfl, fun _ => rfl⟩

theorem bind (own : Builds stage before action first value middle)
    (others : Builds stage middle (next value) second last after) :
    Builds stage before (action >>= next) (first ++ second) last after := by
  intro session same fresh
  obtain ⟨created, done, count⟩ := own session same fresh
  rw [outcome_bind, done, Script.failure?_append]
  cases failed : first.failure? stage with
  | some failure =>
      refine ⟨created, ?_, nofun⟩
      rw [Script.commands_append_of_fails second failed]
      rfl
  | none =>
      obtain ⟨more, later, further⟩ := others (session.issued created (first.commands stage))
        ((Session.stage_issued ..).trans same) ((congrArg (· + created) fresh).trans (count failed))
      refine ⟨created + more, ?_, fun passed => ?_⟩
      · dsimp only
        rw [later, Session.issued_issued, Script.commands_append_of_passes second failed]
        rfl
      · rw [← Nat.add_assoc, count failed]
        exact further passed

theorem command_bind {given : Command} {next : Unit → Staged β}
    (others : Builds stage before (next ()) second last after) :
    Builds stage before (command given >>= next) (.give given :: second) last after :=
  bind (of_outcome [given] fun _ => rfl) others

theorem get_bind {next : Session → Staged β}
    (reads : ∀ session : Session, session.stage = stage →
      Builds stage before (next session) second last after) :
    Builds stage before (get >>= next) second last after := by
  intro session same fresh
  rw [outcome_bind]
  exact reads session same session same fresh

/-- What follows an operation depends on whether the stage refuses it. -/
theorem fails_bind {operation : Operation} {next : Bool → Staged β} {failure : Failure}
    {refused : List Command}
    (stops : ∀ session : Session, session.stage = stage →
      outcome (next true) session = (.error failure, session.issued 0 refused))
    (goesOn : Builds stage before (next false) second last after) :
    Builds stage before (fails operation >>= next) (.attempt operation failure refused :: second)
      last after := by
  intro session same fresh
  rw [outcome_bind, outcome_fails, same, Script.failure?, Script.commands]
  cases stage.refuses operation with
  | true => exact ⟨0, stops session same, nofun⟩
  | false => exact goesOn session same fresh

end Builds

end Staged

/-! ## The renderer -/

/-- Why the program of both shaders cannot be built, as the first objects of a session: the first
reason that applies. -/
def Stage.programFailure? (stage : Stage) : Option Failure :=
  (stage.refusal? .createProgram .graphics).or <|
  (stage.refusal? .createVertex .graphics).or <|
  (if stage.refuses .compileVertex then some (.graphics (stage.shaderLog 2)) else none).or <|
  (stage.refusal? .createFragment .graphics).or <|
  (if stage.refuses .compileFragment then some (.graphics (stage.shaderLog 3)) else none).or <|
  if stage.refuses .link then some (.graphics stage.programLog) else none

/-- Why a renderer cannot be created as the first one of a session. -/
def Stage.rendererFailure? (stage : Stage) : Option Failure :=
  stage.programFailure?.or <|
  (stage.refusal? .createVertexArray .graphics).or <|
  stage.refusal? .createTexture .graphics

namespace Renderer

def objectScript (operation : Operation) (creation : ObjectName → Command) (object : ObjectName) :
    Script :=
  [.attempt operation (.graphics operation.refusal) [creation 0], .give (creation object)]

def shaderScript (stage : Stage) (program : ObjectName) (kind : ShaderKind) (shader : ObjectName)
    (source : String) : Script :=
  objectScript (creating kind) (.createShader kind) shader ++
    [.give (.shaderSource shader (shaderHeader stage.info ++ "\n" ++ source)),
      .give (.compileShader shader),
      .attempt (compiling kind) (.graphics (stage.shaderLog shader)) [],
      .give (.attachShader program shader)]

/-- The script of the program of both shaders, up to its link. -/
def programScript (stage : Stage) : Script :=
  objectScript .createProgram .createProgram 1 ++
    (shaderScript stage 1 .vertex 2 vertexShader ++
    (shaderScript stage 1 .fragment 3 fragmentShader ++
    [.give (.linkProgram 1), .attempt .link (.graphics stage.programLog) []]))

/-- The commands that take the shaders off the program and delete them. -/
def removing : List Command :=
  [.detachShader 1 2, .deleteShader 2, .detachShader 1 3, .deleteShader 3]

/-- The commands for a new texture. -/
def texturing (texture : ObjectName) (width height : Nat) : List Command :=
  [.bindTexture texture] ++
  Command.samplingParameters.map (fun parameter => .textureParameter parameter.1 parameter.2) ++
  [.packRows, .defineTexture width height, .bindTexture 0]

def textureScript (texture : ObjectName) (width height : Nat) : Script :=
  objectScript .createTexture .createTexture texture ++
    (texturing texture width height).map .give

/-- The script behind the program. -/
def completingScript (width height : Nat) : Script :=
  objectScript .createVertexArray .createVertexArray 4 ++
    (textureScript 5 width height ++ [.give (.viewport width height)])

/-- The script that creates a renderer. -/
def script (stage : Stage) (width height : Nat) : Script :=
  programScript stage ++ (removing.map .give ++ completingScript width height)

/-- The commands that create a renderer on a stage, up to the first one that is refused. -/
def building (stage : Stage) (width height : Nat) : List Command :=
  (script stage width height).commands stage

/-- The renderer for a size, with the names that the first objects of a session get. -/
def first (width height : Nat) : Renderer where
  program := 1
  vertexArray := 4
  texture := 5
  width := width
  height := height

variable {stage : Stage} {before : Nat}

theorem failure?_programScript : (programScript stage).failure? stage = stage.programFailure? := by
  simp only [programScript, shaderScript, objectScript, List.cons_append, List.nil_append,
    Script.failure?, Stage.programFailure?, Stage.refusal?, creating, compiling, Option.or_none]

theorem failure?_script (width height : Nat) :
    (script stage width height).failure? stage = stage.rendererFailure? := by
  have completing : (completingScript width height).failure? stage =
      (stage.refusal? .createVertexArray .graphics).or
        (stage.refusal? .createTexture .graphics) := by
    simp only [completingScript, textureScript, objectScript, Script.failure?_append,
      Script.failure?_give, Script.failure?, Stage.refusal?, Option.or_none]
  rw [script, Script.failure?_append, Script.failure?_append, failure?_programScript,
    Script.failure?_give, Option.none_or, completing, Stage.rendererFailure?]

theorem createObject_builds (operation : Operation) (creation : ObjectName → Command) :
    Builds stage before (createObject operation creation)
      (objectScript operation creation (before + 1)) (before + 1) (before + 1) :=
  .fails_bind (fun _ _ => rfl) <| .bind .newObject <| .command_bind .pure

theorem addShader_builds (program : ObjectName) (kind : ShaderKind) (source : String) :
    Builds stage before (addShader program kind source)
      (shaderScript stage program kind (before + 1) source) (before + 1) (before + 1) := by
  apply Builds.get_bind
  intro session same
  rw [same]
  refine .bind (createObject_builds _ _) ?_
  refine .command_bind (.command_bind ?_)
  exact .fails_bind (fun _ _ => rfl) (.command_bind .pure)

theorem createProgram_builds :
    Builds stage 0 createProgram (programScript stage ++ removing.map .give) 1 3 := by
  rw [programScript, List.append_assoc, List.append_assoc, List.append_assoc]
  refine .bind (createObject_builds _ _) ?_
  refine .bind (addShader_builds 1 .vertex vertexShader) ?_
  refine .bind (addShader_builds 1 .fragment fragmentShader) ?_
  refine .command_bind (.fails_bind ?_ (.of_outcome removing fun _ => rfl))
  rintro session rfl
  rfl

theorem createTexture_builds (width height : Nat) :
    Builds stage before (createTexture width height) (textureScript (before + 1) width height)
      (before + 1) (before + 1) :=
  .bind (createObject_builds _ _) (.of_outcome _ fun _ => rfl)

theorem create_builds (width height : Nat) :
    Builds stage 0 (create width height) (script stage width height) (first width height) 5 := by
  rw [script, completingScript, ← List.append_assoc]
  refine .bind createProgram_builds ?_
  refine .bind (createObject_builds _ _) ?_
  refine .bind (createTexture_builds width height) ?_
  exact .command_bind .pure

theorem outcome_create {session : Session} (fresh : session.created = 0) (width height : Nat) :
    ∃ created, outcome (create width height) session =
      (match session.stage.rendererFailure? with
        | some failure => .error failure
        | none => .ok (first width height),
      session.issued created (building session.stage width height)) := by
  obtain ⟨created, done, -⟩ := create_builds width height session rfl fresh
  rw [failure?_script] at done
  exact ⟨created, done⟩

end Renderer

theorem Host.outcome_attach {session : Session} (fresh : session.created = 0)
    (width height : Nat) :
    ∃ created, outcome (Host.attach width height) session =
      let built := session.issued created (Renderer.building session.stage width height)
      match session.stage.rendererFailure? with
      | some failure => (.error failure, built.record .releaseContext)
      | none =>
        (.ok (.first width height), built.record (.log (.rendererCreated session.stage.info))) := by
  obtain ⟨created, built⟩ := Renderer.outcome_create fresh width height
  refine ⟨created, ?_⟩
  unfold Host.attach
  rw [outcome_bind, outcome_tryCatch, built]
  cases session.stage.rendererFailure? with
  | some failure => rfl
  | none =>
      dsimp only
      rw [outcome_bind, outcome_get]
      dsimp only
      rw [Session.stage_issued]
      rfl

end Chip8.Desktop
