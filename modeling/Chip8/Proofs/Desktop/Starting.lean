import Chip8.Desktop.Host
import Chip8.Proofs.Desktop.Session

/-!
# Starting the application

An application that starts was given settings that pass their check and a program that loads, and
its renderer has the size of the window (`Host.isFresh_of_create`).
-/

namespace Chip8

/-- Settings are accepted exactly if the cell size is in range and both rates are positive. -/
theorem Settings.validate_eq_ok_iff {settings : Settings} :
    settings.validate = .ok () ↔
      (0 < settings.scale ∧ settings.scale ≤ maxScale) ∧
        settings.config.instructionRate.perSecond ≠ 0 ∧
        settings.config.timerRate.perSecond ≠ 0 := by
  unfold validate
  dsimp only
  split
  next outside =>
    refine iff_of_false nofun ?_
    rintro ⟨⟨positive, bounded⟩, -⟩
    omega
  next inside =>
    split
    next idle => exact iff_of_false nofun fun valid => valid.2.1 idle
    next busy =>
      split
      next stopped => exact iff_of_false nofun fun valid => valid.2.2 stopped
      next running => exact iff_of_true rfl ⟨by omega, busy, running⟩

/-- The window of accepted settings is as large as the scaled display. -/
theorem Settings.windowSize_eq {settings : Settings} (valid : settings.validate = .ok ()) :
    settings.windowSize = (displayWidth * settings.scale, displayHeight * settings.scale) := by
  have bounded : settings.scale ≤ 64 := (validate_eq_ok_iff.mp valid).1.2
  have width : displayWidth * settings.scale < Numeral.span32 := by
    simp only [displayWidth, Numeral.span32]
    omega
  have height : displayHeight * settings.scale < Numeral.span32 := by
    simp only [displayHeight, Numeral.span32]
    omega
  rw [windowSize, Nat.mod_eq_of_lt width, Nat.mod_eq_of_lt height]

namespace Desktop

/-- A stage that offers one graphics configuration and refuses nothing. -/
def Stage.willing : Stage where
  samples := [0]
  lateWindow := false
  info := ⟨"3.3.0", "renderer", "vendor", "3.30"⟩
  shaderLog := fun _ => ""
  programLog := ""
  failing := []

open Staged

theorem Renderer.size_of_create {width height : Nat} {renderer : Renderer} {before after : Session}
    (created : outcome (Renderer.create width height) before = (.ok renderer, after)) :
    renderer.width = width ∧ renderer.height = height := by
  unfold Renderer.create at created
  obtain ⟨program, first, -, created⟩ := exists_of_outcome_bind created
  obtain ⟨vertexArray, second, -, created⟩ := exists_of_outcome_bind created
  obtain ⟨texture, third, -, created⟩ := exists_of_outcome_bind created
  obtain ⟨⟨⟩, fourth, -, created⟩ := exists_of_outcome_bind created
  cases created
  exact ⟨rfl, rfl⟩

namespace Host

theorem size_of_attach {width height : Nat} {renderer : Renderer} {before after : Session}
    (created : outcome (attach width height) before = (.ok renderer, after)) :
    renderer.width = width ∧ renderer.height = height := by
  unfold attach at created
  obtain ⟨other, first, made, created⟩ := exists_of_outcome_bind created
  obtain ⟨session, second, -, created⟩ := exists_of_outcome_bind created
  obtain ⟨⟨⟩, third, -, created⟩ := exists_of_outcome_bind created
  cases created
  rw [outcome_tryCatch] at made
  rcases tried : outcome (Renderer.create width height) before with ⟨failure | value, session⟩
  · rw [tried] at made
    cases made
  · rw [tried] at made
    cases made
    exact Renderer.size_of_create tried

theorem size_of_createWindow {width height : Nat} {renderer : Renderer} {before after : Session}
    (created : outcome (createWindow width height) before = (.ok renderer, after)) :
    renderer.width = width ∧ renderer.height = height := by
  unfold createWindow at created
  obtain ⟨⟨⟩, first, -, created⟩ := exists_of_outcome_bind created
  exact size_of_attach (outcome_of_raise created)

variable {settings : Settings} {inputMap : InputMap}
  {read : String → Except IoFault (List UInt8)} {entropy : Secret} {now : Nat}

theorem loaded_of_loadRom {machine : Machine} {before after : Session}
    (done : outcome (loadRom settings read entropy) before = (.ok machine, after)) :
    ∃ rom, settings.rom? = some rom ∧
      let loaded := (Machine.create settings.config entropy).loadFile (read rom)
      loaded.result = .ok () ∧ loaded.machine = machine := by
  unfold loadRom at done
  cases named : settings.rom? with
  | none =>
      rw [named] at done
      cases done
  | some rom =>
      rw [named] at done
      obtain ⟨⟨⟩, first, -, done⟩ := exists_of_outcome_bind done
      obtain ⟨⟨⟩, second, -, done⟩ := exists_of_outcome_bind done
      cases result : ((Machine.create settings.config entropy).loadFile (read rom)).result with
      | error fault =>
          rw [result] at done
          cases done
      | ok value =>
          rw [result] at done
          cases done
          exact ⟨rom, rfl, result, rfl⟩

/-- An application that has started and not done anything yet. -/
structure IsFresh (host : Host) (settings : Settings) (inputMap : InputMap) (machine : Machine)
    (now : Nat) : Prop where
  inputMap : host.inputMap = inputMap
  machine : host.machine = machine
  scale : host.scale = settings.scale
  width : host.renderer.width = settings.windowSize.1
  height : host.renderer.height = settings.windowSize.2
  bell : host.bell = {}
  clock : host.clock = ⟨now, settings.config.timerRate.interval⟩
  control : host.control = .poll
  failure? : host.failure? = none

theorem isFresh_of_create {host : Host} {before after : Session}
    (created : outcome (create settings inputMap read entropy now) before = (.ok host, after)) :
    settings.validate = .ok () ∧ ∃ rom, settings.rom? = some rom ∧
      let loaded := (Machine.create settings.config entropy).loadFile (read rom)
      loaded.result = .ok () ∧ host.IsFresh settings inputMap loaded.machine now := by
  unfold create at created
  dsimp only at created
  cases valid : settings.validate with
  | error cause =>
      rw [valid] at created
      cases created
  | ok value =>
      rw [valid] at created
      obtain ⟨machine, first, loaded, created⟩ := exists_of_outcome_bind created
      obtain ⟨renderer, second, window, created⟩ := exists_of_outcome_bind created
      cases created
      obtain ⟨rom, named, loads, rfl⟩ := loaded_of_loadRom loaded
      obtain ⟨width, height⟩ := size_of_createWindow window
      exact ⟨rfl, rom, named, loads, ⟨rfl, rfl, rfl, width, height, rfl, rfl, rfl, rfl⟩⟩

end Host

end Desktop

end Chip8
