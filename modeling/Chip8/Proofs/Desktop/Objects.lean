import Chip8.Proofs.Desktop.Launching

/-!
# Graphics objects

What becomes of the graphics objects of a launch, from the commands in which they occur. An object
is never used after it was deleted. But a renderer that cannot be completed leaves behind what it
has created, the shaders of a linked program apart, and the objects of one that can are deleted when
their context is gone (`Situation.objects_of_launch`).
-/

namespace Chip8.Desktop

/-- What can happen to graphics objects. -/
inductive ObjectEvent where
  | created (object : ObjectName)
  | used (object : ObjectName)
  | deleted (object : ObjectName)
  /-- The context in which all objects exist ceases to exist. -/
  | contextLost
  deriving DecidableEq

namespace ObjectEvent

def deletes : ObjectEvent → Bool
  | .deleted _ => true
  | .created _ | .used _ | .contextLost => false

/-- An object that was deleted is not used any more. -/
def KeepsDeleted (earlier later : ObjectEvent) : Prop :=
  match earlier with
  | .deleted object => later ≠ .used object
  | .created _ | .used _ | .contextLost => True

/-- Nothing is deleted once the context is lost. -/
def KeepsContext (earlier later : ObjectEvent) : Prop :=
  earlier = .contextLost → later.deletes = false

instance (earlier later : ObjectEvent) : Decidable (earlier.KeepsDeleted later) :=
  match earlier with
  | .deleted object => inferInstanceAs (Decidable (later ≠ .used object))
  | .created _ | .used _ | .contextLost => isTrue trivial

instance (earlier later : ObjectEvent) : Decidable (earlier.KeepsContext later) :=
  inferInstanceAs (Decidable (earlier = .contextLost → later.deletes = false))

end ObjectEvent

/-- The objects in a list but for zero, which is none. -/
def ObjectEvent.uses (objects : List ObjectName) : List ObjectEvent :=
  (objects.filter (· != 0)).map .used

/-- The creation of an object, unless it is refused and gives none. -/
def ObjectEvent.creation (object : ObjectName) : List ObjectEvent :=
  if object = 0 then [] else [.created object]

/-- What a command does to objects. -/
def Command.objectEvents : Command → List ObjectEvent
  | .createProgram object | .createShader _ object | .createVertexArray object
  | .createTexture object => ObjectEvent.creation object
  | .shaderSource object _ | .compileShader object | .linkProgram object | .bindTexture object
  | .useProgram object | .bindVertexArray object => ObjectEvent.uses [object]
  | .attachShader program shader | .detachShader program shader =>
    ObjectEvent.uses [program, shader]
  | .deleteShader object | .deleteProgram object | .deleteVertexArray object
  | .deleteTexture object => [.deleted object]
  | .textureParameter _ _ | .packRows | .defineTexture _ _ | .uploadTexture _ _ _ | .viewport _ _
  | .clearColor | .clear | .activateTexture | .drawQuad => []

def Call.objectEvents : Call → List ObjectEvent
  | .graphics command => command.objectEvents
  | .releaseContext => [.contextLost]
  | _ => []

/-- What happens to objects in the course of calls. -/
def history (calls : List Call) : List ObjectEvent := calls.flatMap Call.objectEvents

/-- The objects of a history are released: each is deleted once, not used after that, and deleted
while its context exists. -/
structure Released (history : List ObjectEvent) : Prop where
  once : ∀ object, .created object ∈ history → history.count (.deleted object) = 1
  unused : history.Pairwise ObjectEvent.KeepsDeleted
  inContext : history.Pairwise ObjectEvent.KeepsContext

theorem history_append (first second : List Call) :
    history (first ++ second) = history first ++ history second := List.flatMap_append

theorem history_graphics (commands : List Command) :
    history (commands.map .graphics) = commands.flatMap Command.objectEvents :=
  List.flatMap_map ..

/-- Before the renderer nothing happens to objects. -/
theorem history_eq_nil {calls : List Call}
    (silent : ∀ call ∈ calls, ∃ phase ∈ call.phases, phase ∉ [Phase.renderer, .events]) :
    history calls = [] := by
  rw [history, List.flatMap_eq_nil_iff]
  intro call member
  obtain ⟨phase, own, early⟩ := silent call member
  cases call with
  | graphics command => exact absurd own early
  | releaseContext => exact absurd own early
  | _ => rfl

namespace Renderer

variable {stage : Stage} (width height : Nat)

/-- What happens to objects while the program is built, up to its link. -/
def linking : List ObjectEvent :=
  [.created 1, .created 2, .used 2, .used 2, .used 1, .used 2, .created 3, .used 3, .used 3,
    .used 1, .used 3, .used 1]

/-- What happens to objects while the shaders of a linked program are removed. -/
def unloading : List ObjectEvent :=
  [.used 1, .used 2, .deleted 2, .used 1, .used 3, .deleted 3]

/-- What happens to objects behind the program. -/
def completing : List ObjectEvent := [.created 4, .created 5, .used 5]

/-- What happens to objects while a renderer is created. -/
def settingUp : List ObjectEvent := linking ++ unloading ++ completing

/-- What happens to objects when the application closes. -/
def tearingDown : List ObjectEvent := [.contextLost, .deleted 1, .deleted 4, .deleted 5]

variable (stage) in
/-- What becomes of objects as a renderer is created, up to the first command that is refused. -/
def attempted : List ObjectEvent :=
  (building stage width height).flatMap Command.objectEvents

theorem attempted_of_passes (created : stage.rendererFailure? = none) :
    attempted stage width height = settingUp := by
  rw [attempted, building, Script.commands_of_passes ((failure?_script width height).trans created)]
  rfl

theorem allowed_of_passes (created : stage.rendererFailure? = none) :
    stage.refuses .createProgram = false := by
  cases refused : stage.refuses .createProgram with
  | false => rfl
  | true =>
      rw [Stage.rendererFailure?, Stage.programFailure?, Stage.refusal?, refused] at created
      cases created

/-- There is an object as soon as there is a program. -/
theorem attempted_cases :
    (stage.refuses .createProgram = true ∧ attempted stage width height = []) ∨
      (stage.refuses .createProgram = false ∧ .created 1 ∈ attempted stage width height) := by
  cases refused : stage.refuses .createProgram with
  | true =>
      have only : building stage width height = [.createProgram 0] := if_pos refused
      rw [attempted, only]
      exact .inl ⟨rfl, rfl⟩
  | false =>
      have first : ∃ rest, building stage width height = .createProgram 1 :: rest :=
        ⟨_, if_neg (Bool.eq_false_iff.mp refused)⟩
      obtain ⟨rest, first⟩ := first
      rw [attempted, first]
      exact .inr ⟨rfl, List.mem_cons_self⟩

/-- A script that fails does a first part of what it would do to objects, if no refusal does
anything to them. -/
theorem objectEvents_of_fails {script : Script} {failure : Failure}
    (failed : script.failure? stage = some failure)
    (silent : (script.flatMap BuildStep.refusal).flatMap Command.objectEvents = []) :
    (script.commands stage).flatMap Command.objectEvents <+:
      script.granted.flatMap Command.objectEvents := by
  obtain ⟨before, step, after, rfl, gave⟩ := Script.exists_of_fails failed
  have quiet : step.refusal.flatMap Command.objectEvents = [] := by
    rw [List.flatMap_append, List.flatMap_cons, List.flatMap_append, List.flatMap_append] at silent
    exact (List.append_eq_nil_iff.mp (List.append_eq_nil_iff.mp silent).2).1
  rw [gave, List.flatMap_append, quiet, List.append_nil, Script.granted_append,
    List.flatMap_append]
  exact List.prefix_append ..

/-- A renderer that cannot be created gets no further than its program, or no further than the
objects behind it. -/
theorem attempted_of_fails {failure : Failure} (failed : stage.rendererFailure? = some failure) :
    (stage.programFailure? ≠ none ∧ attempted stage width height <+: linking) ∨
      (stage.programFailure? = none ∧
        ∃ more, more <+: completing ∧
          attempted stage width height = linking ++ unloading ++ more) := by
  cases program : stage.programFailure? with
  | some own =>
      left
      have fails := failure?_programScript.trans program
      have stops : building stage width height = (programScript stage).commands stage :=
        Script.commands_append_of_fails _ fails
      refine ⟨Option.some_ne_none own, ?_⟩
      rw [attempted, stops]
      exact objectEvents_of_fails fails rfl
  | none =>
      right
      have passes := failure?_programScript.trans program
      have fails : (completingScript width height).failure? stage = some failure := by
        rw [← failure?_script width height, script, Script.failure?_append, passes,
          Script.failure?_append, Script.failure?_give] at failed
        exact failed
      have goesOn : building stage width height = (programScript stage).granted ++
          (removing ++ (completingScript width height).commands stage) := by
        rw [building, script, Script.commands_append_of_passes _ passes,
          Script.commands_of_passes passes,
          Script.commands_append_of_passes _ (Script.failure?_give removing),
          Script.commands_give]
      have part : ((completingScript width height).commands stage).flatMap Command.objectEvents <+:
          completing := objectEvents_of_fails fails rfl
      refine ⟨rfl, _, part, ?_⟩
      rw [attempted, goesOn, List.flatMap_append, List.flatMap_append, ← List.append_assoc]
      rfl

/-- The event loop uses the objects that the renderer keeps. -/
theorem LoopCall.objectEvents {width height : Nat} {call : Call}
    (made : (first width height).LoopCall call) :
    ∀ event ∈ call.objectEvents, event ∈ ObjectEvent.uses [1, 4, 5] := by
  cases made with
  | @present pixels command given =>
      let commands := (first width height).uploading pixels ++ clearing ++
        (first width height).drawing
      have all : commands.flatMap Command.objectEvents = ObjectEvent.uses [5, 1, 4, 5] := rfl
      have kept : ∀ event ∈ ObjectEvent.uses [5, 1, 4, 5], event ∈ ObjectEvent.uses [1, 4, 5] := by
        decide
      intro event member
      have used : event ∈ commands.flatMap Command.objectEvents :=
        List.mem_flatMap.mpr ⟨command, given, member⟩
      rw [all] at used
      exact kept event used
  | _ => exact List.forall_mem_nil _

end Renderer

namespace Situation

variable (given : Situation)

def history : List ObjectEvent := Desktop.history given.ending.calls.toList

variable {given}

theorem history_of_unreached {made : List Call} (passage : Passage given.course Phase.all made)
    (unreached : ¬ given.Reaches .renderer) : Desktop.history made = [] := by
  refine history_eq_nil fun call member => ?_
  obtain ⟨phase, own, -, -, makes, reached⟩ := exists_reached passage member
  refine ⟨phase, makes, ?_⟩
  rintro (_ | ⟨_, _ | ⟨_, ⟨⟩⟩⟩)
  · exact unreached reached
  · exact unreached fun earlier before =>
      reached earlier (List.mem_append_left [Phase.renderer] before)

theorem history_of_reached {made : List Call} (passage : Passage given.course Phase.all made)
    (reached : given.Reaches .renderer) :
    ∃ rest, Desktop.history made = Desktop.history rest ∧
      Passage given.course [.renderer, .events] rest := by
  have passed : given.course.failureIn? Phase.renderer.before = none :=
    Course.failureIn?_eq_none_iff.mpr reached
  have whole : Passage given.course (Phase.renderer.before ++ [.renderer, .events]) made := passage
  obtain ⟨before, rest, rfl, early, late⟩ := whole.split_of_passes passed
  refine ⟨rest, ?_, late⟩
  rw [history_append, history_eq_nil, List.nil_append]
  intro call member
  obtain ⟨others, phase, later, own, parts, makes, mem, -⟩ := early.exists_of_mem member
  refine ⟨phase, mem_phases_of_makes makes call mem, ?_⟩
  have absent : ∀ phase ∈ Phase.renderer.before, phase ∉ [Phase.renderer, .events] := by decide
  apply absent
  rw [parts]
  exact List.mem_append_right others List.mem_cons_self

theorem history_of_events {calls : List Call} (makes : given.makes .events calls) :
    ∃ used, (∀ event ∈ used, event ∈ ObjectEvent.uses [1, 4, 5]) ∧
      Desktop.history calls = used ++ Renderer.tearingDown := by
  obtain ⟨width, height, reactions, beeps, own, rfl⟩ := makes
  refine ⟨Desktop.history reactions, ?_, ?_⟩
  · intro event member
    obtain ⟨call, mem, occurs⟩ := List.mem_flatMap.mp member
    exact (own call mem).objectEvents event occurs
  · have played : Desktop.history
        (if given.failure? .events = none then [.log (.played beeps)] else []) = [] := by
      split <;> rfl
    rw [history_append, history_append, played, List.append_nil]
    rfl

theorem history_eq {made : List Call} {halt? : Option Halt}
    (closes : given.ending.Closes (.log .starting :: made) halt?) :
    given.history = Desktop.history made := by
  have silent : Desktop.history ((closing halt?).map Call.log).toList = [] := by
    rcases halt? with _ | failure | message <;> rfl
  rw [history, closes.calls, history_append, silent, List.append_nil]
  rfl

theorem history_cases (given : Situation) :
    (¬ given.Reaches .renderer ∧ given.history = []) ∨
    (given.Reaches .renderer ∧ given.failure? .renderer ≠ none ∧
      ∃ width height,
        given.history = Renderer.attempted given.stage width height ++ [.contextLost]) ∨
    given.Reaches .renderer ∧ given.failure? .renderer = none ∧
      ∃ used, (∀ event ∈ used, event ∈ ObjectEvent.uses [1, 4, 5]) ∧
        given.history = Renderer.settingUp ++ used ++ Renderer.tearingDown := by
  obtain ⟨made, passage, closes⟩ := given.ending_follows
  rw [history_eq closes]
  by_cases reached : given.Reaches .renderer
  · right
    obtain ⟨rest, same, late⟩ := history_of_reached passage reached
    rw [same]
    cases late with
    | @fails _ _ _ halt failed makes =>
        left
        have failed : given.failure? .renderer = some halt := failed
        have stops : given.failure? .renderer ≠ none := by
          rw [failed]
          exact Option.some_ne_none halt
        obtain ⟨width, height, rfl⟩ := makes
        refine ⟨reached, stops, width, height, ?_⟩
        have fails : given.stage.rendererFailure? ≠ none := fun passed =>
          stops (Option.map_eq_none_iff.mpr passed)
        rw [history_append, history_graphics, if_neg fails]
        rfl
    | passes passed makes others =>
        right
        have passed : given.failure? .renderer = none := passed
        have created : given.stage.rendererFailure? = none := Option.map_eq_none_iff.mp passed
        obtain ⟨width, height, rfl⟩ := makes
        obtain ⟨used, uses, events⟩ := history_of_events others.makes_of_single
        refine ⟨reached, passed, used, uses, ?_⟩
        have built := Renderer.attempted_of_passes width height created
        rw [Renderer.attempted] at built
        rw [history_append, history_append, history_graphics, built, if_pos created, events,
          List.append_assoc, List.append_assoc]
        rfl
  · exact .inl ⟨reached, history_of_unreached passage reached⟩

/-! ## Launches -/

section

variable {used : List ObjectEvent} (own : ∀ event ∈ used, event ∈ ObjectEvent.uses [1, 4, 5])

include own

theorem keepsDeleted_of_used :
    (Renderer.settingUp ++ used ++ Renderer.tearingDown).Pairwise ObjectEvent.KeepsDeleted := by
  have early : ∀ earlier ∈ Renderer.settingUp ++ ObjectEvent.uses [1, 4, 5],
      ∀ later ∈ ObjectEvent.uses [1, 4, 5] ++ Renderer.tearingDown,
        earlier.KeepsDeleted later := by decide
  have kept : ∀ event ∈ Renderer.settingUp ++ used,
      event ∈ Renderer.settingUp ++ ObjectEvent.uses [1, 4, 5] := by
    intro event member
    rcases List.mem_append.mp member with built | drawn
    · exact List.mem_append_left _ built
    · exact List.mem_append_right _ (own event drawn)
  -- The objects in use are none of the shaders, which alone are deleted before the end.
  refine List.pairwise_append.mpr ⟨List.pairwise_append.mpr ⟨by decide, ?_, ?_⟩, by decide, ?_⟩
  · exact List.pairwise_of_forall_mem_list fun earlier before later after =>
      early earlier (List.mem_append_right _ (own earlier before)) later
        (List.mem_append_left _ (own later after))
  · exact fun earlier before later after =>
      early earlier (List.mem_append_left _ before) later (List.mem_append_left _ (own later after))
  · exact fun earlier before later after =>
      early earlier (kept earlier before) later (List.mem_append_right _ after)

theorem eq_used_of_mem {event : ObjectEvent} (member : event ∈ used) :
    ∃ object, .used object = event := by
  obtain ⟨object, -, same⟩ := List.mem_map.mp (own event member)
  exact ⟨object, same⟩

theorem deleted_once {object : ObjectName}
    (created : .created object ∈ Renderer.settingUp ++ used ++ Renderer.tearingDown) :
    (Renderer.settingUp ++ used ++ Renderer.tearingDown).count (.deleted object) = 1 := by
  have once : ∀ object ∈ [1, 2, 3, 4, 5], Renderer.settingUp.count (.deleted object) +
      Renderer.tearingDown.count (.deleted object) = 1 := by decide
  have among : object ∈ [1, 2, 3, 4, 5] := by
    rcases List.mem_append.mp created with earlier | closing
    · rcases List.mem_append.mp earlier with built | drawn
      · simpa [Renderer.settingUp, Renderer.linking, Renderer.unloading, Renderer.completing]
        using built
      · obtain ⟨other, ⟨⟩⟩ := eq_used_of_mem own drawn
    · simp [Renderer.tearingDown] at closing
  have kept : used.count (.deleted object) = 0 := by
    refine List.count_eq_zero_of_not_mem fun member => ?_
    obtain ⟨other, ⟨⟩⟩ := eq_used_of_mem own member
  rw [List.count_append, List.count_append, kept, Nat.add_zero]
  exact once object among

end

section

variable {stage : Stage} {failure : Failure} (failed : stage.rendererFailure? = some failure)
  (width height : Nat)

include failed

/-- A renderer that fails deletes the shaders if their program was linked, and nothing else. -/
theorem count_deleted_of_fails (object : ObjectName) :
    (Renderer.attempted stage width height ++ [ObjectEvent.contextLost]).count (.deleted object) =
      if stage.programFailure? = none ∧ object ∈ [2, 3] then 1 else 0 := by
  have nothing {events whole : List ObjectEvent} (part : events <+: whole)
      (keeps : ∀ event ∈ whole, event.deletes = false) : events.count (.deleted object) = 0 := by
    refine List.count_eq_zero_of_not_mem fun member => ?_
    cases keeps _ (part.subset member)
  have lost : [ObjectEvent.contextLost].count (.deleted object) = 0 := rfl
  rw [List.count_append, lost, Nat.add_zero]
  rcases Renderer.attempted_of_fails width height failed with
    ⟨unlinked, part⟩ | ⟨linked, more, part, whole⟩
  · rw [nothing part (by decide), if_neg fun own => unlinked own.1]
  · have shaders : Renderer.unloading.count (.deleted object) =
        if object ∈ [2, 3] then 1 else 0 := by
      by_cases vertex : object = 2
      · rw [vertex]
        rfl
      · by_cases fragment : object = 3
        · rw [fragment]
          rfl
        · have other : object ∉ [2, 3] := by simp [vertex, fragment]
          rw [if_neg other]
          refine List.count_eq_zero_of_not_mem fun member => ?_
          simp [Renderer.unloading, vertex, fragment] at member
    rw [whole, List.count_append, List.count_append, nothing (List.prefix_refl _) (by decide),
      nothing part (by decide), Nat.zero_add, Nat.add_zero, shaders]
    simp only [linked, true_and]

theorem keepsDeleted_of_fails :
    (Renderer.attempted stage width height ++ [ObjectEvent.contextLost]).Pairwise
      ObjectEvent.KeepsDeleted := by
  have part : Renderer.attempted stage width height <+: Renderer.settingUp := by
    rcases Renderer.attempted_of_fails width height failed with
      ⟨-, part⟩ | ⟨-, more, part, whole⟩
    · exact part.trans ⟨_, (List.append_assoc ..).symm⟩
    · rw [whole]
      exact (List.prefix_append_right_inj _).mpr part
  have whole : (Renderer.settingUp ++ [ObjectEvent.contextLost]).Pairwise
      ObjectEvent.KeepsDeleted := by decide
  exact whole.sublist (part.sublist.append (.refl _))

end

/-- **What becomes of the graphics objects of a launch.** No object is used after it was deleted,
and there are none unless the launch gets past its window. From then on it never releases its
objects as it should, unless not even a program can be created. If the renderer cannot be completed
nothing is deleted but the shaders of a linked program. If it can, each object is deleted once; but
the program, the vertex array and the texture, which the renderer keeps, are deleted when the window
is closed and their context lost. -/
theorem objects_of_launch (given : Situation) :
    let history := given.history
    history.Pairwise ObjectEvent.KeepsDeleted ∧
    (¬ given.Reaches .renderer → history = []) ∧
    (given.Reaches .renderer → given.failure? .renderer ≠ none →
      (.created 1 ∈ history ↔ given.stage.refuses .createProgram = false) ∧
      ∀ object, history.count (.deleted object) =
        if given.stage.programFailure? = none ∧ object ∈ [2, 3] then 1 else 0) ∧
    (given.Reaches .renderer → given.failure? .renderer = none →
      (∀ object, .created object ∈ history → history.count (.deleted object) = 1) ∧
      ∃ before, history = before ++ [.contextLost, .deleted 1, .deleted 4, .deleted 5] ∧
        ∀ object ∈ [1, 4, 5], .created object ∈ before) ∧
    (Released history ↔
      ¬ given.Reaches .renderer ∨ given.stage.refuses .createProgram = true) := by
  intro history
  rcases given.history_cases with ⟨unreached, nothing⟩ |
    ⟨reached, stops, width, height, left⟩ | ⟨reached, passed, used, own, whole⟩
  · have nothing : history = [] := nothing
    have released : Released history := by
      rw [nothing]
      exact ⟨fun _ created => absurd created List.not_mem_nil, .nil, .nil⟩
    exact ⟨released.unused, fun _ => nothing, fun reached => absurd reached unreached,
      fun reached => absurd reached unreached, fun _ => .inl unreached, fun _ => released⟩
  · have left : history = _ := left
    obtain ⟨failure, failed⟩ : ∃ failure, given.stage.rendererFailure? = some failure := by
      refine Option.ne_none_iff_exists'.mp fun passed => stops ?_
      exact Option.map_eq_none_iff.mpr passed
    have unused := keepsDeleted_of_fails failed width height
    have deleted := count_deleted_of_fails failed width height
    rw [← left] at unused deleted
    have lost : ObjectEvent.created 1 ∉ [ObjectEvent.contextLost] := by decide
    refine ⟨unused, fun unreached => absurd reached unreached, fun _ _ => ⟨?_, deleted⟩,
      fun _ passed => absurd passed stops, ?_⟩
    · rw [left, List.mem_append, or_iff_left lost]
      rcases Renderer.attempted_cases width height with ⟨refused, nothing⟩ | ⟨allowed, built⟩
      · rw [nothing, refused]
        exact iff_of_false List.not_mem_nil nofun
      · exact iff_of_true built allowed
    · rcases Renderer.attempted_cases width height with ⟨refused, nothing⟩ | ⟨allowed, built⟩
      · rw [nothing] at left
        have released : Released history := by
          rw [left]
          exact ⟨fun object created => absurd created (by simp), by decide, by decide⟩
        exact iff_of_true released (.inr refused)
      · refine iff_of_false (fun released => ?_) ?_
        · have once := released.once 1 (left ▸ List.mem_append_left _ built)
          rw [deleted, if_neg fun own => absurd own.2 (by decide)] at once
          cases once
        · rw [allowed]
          exact not_or.mpr ⟨not_not.mpr reached, nofun⟩
  · have whole : history = Renderer.settingUp ++ used ++ Renderer.tearingDown := whole
    refine ⟨?_, fun unreached => absurd reached unreached, fun _ failed => absurd passed failed,
      fun _ _ => ⟨?_, _, whole, ?_⟩, ?_⟩
    · rw [whole]
      exact keepsDeleted_of_used own
    · rw [whole]
      exact fun object created => deleted_once own created
    · intro object among
      have built : ∀ object ∈ [1, 4, 5], .created object ∈ Renderer.settingUp := by decide
      exact List.mem_append_left _ (built object among)
    · have late : ¬ Renderer.tearingDown.Pairwise ObjectEvent.KeepsContext := by decide
      refine iff_of_false (fun released => ?_) ?_
      · have inContext := released.inContext
        rw [whole] at inContext
        exact absurd (List.pairwise_append.mp inContext).2.1 late
      · rw [Renderer.allowed_of_passes (Option.map_eq_none_iff.mp passed)]
        exact not_or.mpr ⟨not_not.mpr reached, nofun⟩

instance (given : Situation) (phase : Phase) : Decidable (given.Reaches phase) :=
  inferInstanceAs (Decidable (∀ earlier ∈ phase.before, given.failure? earlier = none))

/-- A shader that does not compile is never deleted, nor is its program; and when a window is closed
its renderer is deleted too late. -/
theorem launch_not_released :
    let files := Files.ofEntries
      [("settings.yaml", "rom: a\ninput_map: k\n".toUTF8.toList), ("k", "[]".toUTF8.toList),
        ("a", [0x12, 0x00])]
    let launch (failing : List Operation) : Situation :=
      { yaml := .basic, files, arguments := [], entropy := Vector.replicate 8 0, now := 0,
        stage := { Stage.willing with failing },
        cues := [.event (.window mainWindow .closeRequested)] }
    let refused := launch [.compileFragment]
    let closed := launch []
    (refused.Reaches .renderer ∧ .created 1 ∈ refused.history ∧ .created 3 ∈ refused.history ∧
      .deleted 1 ∉ refused.history ∧ .deleted 3 ∉ refused.history) ∧
    (closed.Reaches .renderer ∧ ¬ closed.history.Pairwise ObjectEvent.KeepsContext) ∧
    ¬ ∀ given : Situation, given.Reaches .renderer → Released given.history := by
  intro files launch refused closed
  have leaks : refused.Reaches .renderer ∧ .created 1 ∈ refused.history ∧
      .created 3 ∈ refused.history ∧ .deleted 1 ∉ refused.history ∧
      .deleted 3 ∉ refused.history := by decide +kernel
  have late : closed.Reaches .renderer ∧
      ¬ closed.history.Pairwise ObjectEvent.KeepsContext := by decide +kernel
  exact ⟨leaks, late, fun released => late.2 (released closed late.1).inContext⟩

end Situation

end Chip8.Desktop
