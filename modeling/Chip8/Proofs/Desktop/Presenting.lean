import Chip8.Proofs.Desktop.EventLoop
import Chip8.Proofs.Upscaling

/-!
# Redraws

The renderer keeps the size that it was created with, and the bitmap of a display is always of that
size. So a redraw shows the display that the machine has at that time, unless the graphics context
cannot be made current (`Host.run_redraw`).
-/

namespace Chip8.Desktop.Host

open Staged

theorem renderer_follow (host : Host) (cue : Cue) :
    (host.follow cue).renderer = host.renderer ∧ (host.follow cue).scale = host.scale := by
  cases cue with
  | fail operation | mend operation => exact ⟨rfl, rfl⟩
  | event event =>
      cases ended : host.isEnded with
      | true =>
          obtain ⟨stage, same⟩ := follow_of_isEnded ended (.event event)
          rw [same]
          exact ⟨rfl, rfl⟩
      | false =>
          have reacts := handle_reacts ended event
          exact ⟨reacts.renderer, reacts.scale⟩

theorem renderer_run (host : Host) (now : Nat) (cues : List Cue) :
    (host.run now cues).renderer = host.renderer ∧ (host.run now cues).scale = host.scale := by
  induction cues using List.reverseRecOn with
  | nil => exact ⟨rfl, rfl⟩
  | append_singleton cues cue ih =>
      obtain ⟨renderer, scale⟩ := renderer_follow (host.run now cues) cue
      rw [run_concat]
      exact ⟨renderer.trans ih.1, scale.trans ih.2⟩

theorem calls_handle_redraw {host : Host} (running : host.isEnded = false) :
    (host.handle .redraw).session.calls.toList =
      host.session.calls.toList ++ host.redrawCalls := by
  rw [handle_redraw running, ← Session.calls_recordAll]
  cases host.redrawFailure? <;> rfl

/-- **A redraw shows the display.** The settings of an application that starts have a window size
that fits a 32-bit word, and the renderer has this size for as long as the application goes on. A
redraw then makes the graphics context current, and does nothing else if that fails. Otherwise it
uploads a bitmap of exactly the size of the texture, in which the three bytes of each pixel are the
value of the cell that it belongs to, clears the window, draws the texture and swaps the buffers. -/
theorem run_redraw {settings : Settings} {inputMap : InputMap}
    {read : String → Except IoFault (List UInt8)} {entropy : Secret} {start : Nat} {host : Host}
    {before after : Session}
    (created : outcome (create settings inputMap read entropy start) before = (.ok host, after))
    (now : Nat) {cues : List Cue} (running : (host.run now cues).isEnded = false) :
    let reached := host.run now cues
    let redrawn := host.run now (cues ++ [.event .redraw])
    let scale := settings.scale
    let width := displayWidth * scale
    let height := displayHeight * scale
    let display := reached.machine.core.display
    let pixels := display.upscale scale
    let upload : List Command :=
      [.bindTexture reached.renderer.texture, .uploadTexture width height pixels, .bindTexture 0]
    let commands := upload ++ Renderer.clearing ++ reached.renderer.drawing
    (settings.windowSize = (width, height) ∧ reached.renderer = host.renderer ∧
      reached.renderer.width = width ∧ reached.renderer.height = height) ∧
    pixels.size = width * height * 3 ∧
    (∀ px py, px < width → py < height →
      ∃ value, display.cell? (px / scale) (py / scale) = some value ∧
        ∀ channel, channel < 3 → pixels[(py * width + px) * 3 + channel]? = some value) ∧
    redrawn.session.calls.toList = reached.session.calls.toList ++
      if reached.session.stage.refuses .current then [.makeCurrent]
      else [.makeCurrent] ++ commands.map .graphics ++ [.swapBuffers] := by
  intro reached redrawn scale width height display pixels upload commands
  obtain ⟨valid, rom, -, -, fresh⟩ := isFresh_of_create created
  obtain ⟨renderer, sameScale⟩ := renderer_run host now cues
  have window := Settings.windowSize_eq valid
  have bitmap : reached.bitmap = pixels := by
    rw [Host.bitmap, show reached.scale = scale from sameScale.trans fresh.scale]
  have reachedWidth : reached.renderer.width = width := by
    rw [renderer, fresh.width, window]
  have reachedHeight : reached.renderer.height = height := by
    rw [renderer, fresh.height, window]
  have size : pixels.size = width * height * 3 := Display.size_upscale display scale
  have fits : reached.renderer.Fits reached.bitmap := by
    rw [bitmap, Renderer.Fits, reachedWidth, reachedHeight, size]
  have calls : redrawn.session.calls.toList =
      reached.session.calls.toList ++ reached.redrawCalls := by
    rw [← calls_handle_redraw running]
    exact congrArg (·.session.calls.toList) (run_concat host now cues (.event .redraw))
  refine ⟨⟨window, renderer, reachedWidth, reachedHeight⟩, size, ?_, ?_⟩
  · intro px py column line
    have inside := Display.onGrid_of_pixel column line
    refine ⟨_, dif_pos inside, fun channel within => ?_⟩
    rw [Display.getElem?_upscale display column line within]
    exact dif_pos inside
  · have uploading : reached.renderer.uploading pixels = upload := by
      rw [Renderer.uploading, reachedWidth, reachedHeight]
    rw [calls, redrawCalls, if_pos fits, bitmap, uploading]

/-- The digit that a program has drawn is shown at three pixels for each cell, also after the window
was resized. -/
theorem run_redraw_of_digit :
    let settings : Settings :=
      { rom? := some "digit.ch8", scale := 3,
        config := { timerRate := ⟨2000000000⟩, seed? := some 0 } }
    let read : String → Except IoFault (List UInt8) := fun _ => .ok [0xD0, 0x05]
    let entropy : Secret := Vector.replicate 8 0
    let cues : List Cue := [.event (.cleared 7 7), .event (.window mainWindow (.resized 640 480)),
      .event (.window mainWindow (.resized 0 480))]
    ∃ host after,
      outcome (create settings ⟨[]⟩ read entropy 0) (.start .willing) = (.ok host, after) ∧
        let reached := host.run 5 cues
        let pixels := reached.machine.core.display.upscale 3
        let upload : List Command :=
          [.bindTexture reached.renderer.texture, .uploadTexture 192 96 pixels, .bindTexture 0]
        let commands := upload ++ Renderer.clearing ++ reached.renderer.drawing
        reached.isEnded = false ∧
          pixels[(2 * 192 + 2) * 3 + 1]? = some Display.drawnValue ∧
          pixels[(3 * 192 + 3) * 3 + 1]? = some Display.clearValue ∧
          (host.run 5 (cues ++ [.event .redraw])).session.calls.toList =
            reached.session.calls.toList ++
              ([.makeCurrent] ++ commands.map .graphics ++ [.swapBuffers]) := by
  intro settings read entropy cues
  have passes : (outcome (create settings ⟨[]⟩ read entropy 0) (.start .willing)).1.toOption.any
      (fun host =>
        let reached := host.run 5 cues
        !reached.isEnded && !reached.session.stage.refuses .current &&
          reached.machine.core.display.cell? 0 0 == some Display.drawnValue &&
          reached.machine.core.display.cell? 1 1 == some Display.clearValue) = true := by
    decide +kernel
  obtain ⟨host, after, created, runs⟩ := exists_of_passes passes
  simp only [Bool.and_eq_true, Bool.not_eq_true', beq_iff_eq] at runs
  obtain ⟨⟨⟨running, current⟩, drawn⟩, clear⟩ := runs
  obtain ⟨-, -, pixel, calls⟩ := run_redraw created 5 running
  obtain ⟨dark, darkCell, darkBytes⟩ := pixel 2 2 (by decide) (by decide)
  obtain ⟨light, lightCell, lightBytes⟩ := pixel 3 3 (by decide) (by decide)
  have scale : settings.scale = 3 := rfl
  rw [scale] at darkCell lightCell
  have darkValue : some dark = some Display.drawnValue := darkCell.symm.trans drawn
  have lightValue : some light = some Display.clearValue := lightCell.symm.trans clear
  rw [current] at calls
  refine ⟨host, after, created, running, ?_, ?_, calls⟩
  · exact (darkBytes 1 (by decide)).trans darkValue
  · exact (lightBytes 1 (by decide)).trans lightValue

end Chip8.Desktop.Host
