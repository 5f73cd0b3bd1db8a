import Chip8.Proofs.Desktop.Presenting
import Chip8.Proofs.Desktop.Stopping

/-!
# Calls of the event loop

Whatever happens to a running application, all it does with its window and its log is to make calls
of a few kinds, and graphics commands only with the objects of its renderer (`Host.run_extends`).
-/

namespace Chip8.Desktop

/-- The calls of an application that reacts to events. -/
inductive Renderer.LoopCall (renderer : Renderer) : Call → Prop where
  | machine (record : Record) : LoopCall renderer (.log (.machine record))
  | keypad (key : Key) (pressed : Bool) : LoopCall renderer (.log (.keypad key pressed))
  | unbound (key : HostKey) : LoopCall renderer (.log (.unbound key))
  | exit : LoopCall renderer (.log .exit)
  | requestRedraw : LoopCall renderer .requestRedraw
  | resizeSurface (width height : Nat) : LoopCall renderer (.resizeSurface width height)
  | viewport (width height : Nat) : LoopCall renderer (.graphics (.viewport width height))
  | makeCurrent : LoopCall renderer .makeCurrent
  | present (pixels : Array UInt8) {command : Command}
      (given : command ∈ renderer.uploading pixels ++ Renderer.clearing ++ renderer.drawing) :
      LoopCall renderer (.graphics command)
  | swapBuffers : LoopCall renderer .swapBuffers

namespace Host

/-- The application has made further calls of the event loop. -/
def Extends (before after : Host) : Prop :=
  ∃ made, after.session.calls.toList = before.session.calls.toList ++ made ∧
    ∀ call ∈ made, before.renderer.LoopCall call

theorem Extends.of_same {before after : Host} (same : after.session.calls = before.session.calls) :
    before.Extends after :=
  ⟨[], by rw [same, List.append_nil], List.forall_mem_nil _⟩

theorem Extends.of_one {before after : Host} {call : Call}
    (made : after.session.calls = before.session.calls.push call)
    (own : before.renderer.LoopCall call) : before.Extends after :=
  ⟨[call], by rw [made, Array.toList_push], List.forall_mem_singleton.mpr own⟩

theorem Extends.of_all {before after : Host} {calls : List Call}
    (made : after.session = before.session.recordAll calls)
    (own : ∀ call ∈ calls, before.renderer.LoopCall call) : before.Extends after :=
  ⟨calls, by rw [made, Session.calls_recordAll], own⟩

theorem Extends.trans {first second third : Host} (before : first.Extends second)
    (renderer : second.renderer = first.renderer) (after : second.Extends third) :
    first.Extends third := by
  obtain ⟨made, extended, own⟩ := before
  obtain ⟨more, further, others⟩ := after
  refine ⟨made ++ more, by rw [further, extended, List.append_assoc], ?_⟩
  intro call member
  rcases List.mem_append.mp member with here | later
  · exact own call here
  · rw [← renderer]
    exact others call later

variable {host : Host}

theorem redrawCalls_loop : ∀ call ∈ host.redrawCalls, host.renderer.LoopCall call := by
  have current : ∀ call ∈ [Call.makeCurrent], host.renderer.LoopCall call :=
    List.forall_mem_singleton.mpr .makeCurrent
  unfold redrawCalls
  split
  · exact current
  · split
    · intro call member
      rcases List.mem_append.mp member with drawn | swapped
      · rcases List.mem_append.mp drawn with made | shown
        · exact current call made
        · obtain ⟨command, given, rfl⟩ := List.mem_map.mp shown
          exact .present host.bitmap given
      · cases List.mem_singleton.mp swapped
        exact .swapBuffers
    · exact current

theorem onKey_extends (key : HostKey) (pressed : Bool) : host.Extends (host.onKey key pressed) := by
  rw [onKey_eq]
  rcases host.inputMap.binding? key with _ | ⟨name⟩ | ⟨bound⟩
  · exact .of_one rfl (.unbound key)
  · by_cases exits : pressed = true ∧ name = InputMap.exitAction
    · simp only [if_pos exits]
      exact .of_one rfl .exit
    · simp only [if_neg exits]
      exact .of_same rfl
  · exact .of_one rfl (.keypad bound pressed)

theorem onResized_extends (width height : Nat) : host.Extends (host.onResized width height) := by
  rw [onResized_eq]
  split
  · exact .of_same rfl
  · apply Extends.of_all rfl
    rintro call (_ | ⟨_, _ | ⟨_, ⟨⟩⟩⟩)
    · exact .resizeSurface width height
    · exact .viewport width height

theorem handle_extends (running : host.isEnded = false) (event : Event) :
    host.Extends (host.handle event) := by
  cases event with
  | cleared check restart =>
      obtain ⟨records, made⟩ := calls_handle_cleared running check restart
      rw [List.append_assoc] at made
      refine ⟨_, made, fun call member => ?_⟩
      rcases List.mem_append.mp member with logged | asked
      · obtain ⟨record, -, rfl⟩ := List.mem_map.mp logged
        exact .machine record
      · split at asked
        · cases List.mem_singleton.mp asked
          exact .requestRedraw
        · cases asked
  | redraw => exact ⟨_, calls_handle_redraw running, redrawCalls_loop⟩
  | other =>
      rw [handle_other running]
      exact .of_same rfl
  | window id event =>
      rw [handle_window running]
      split
      · cases event with
        | resized width height => exact onResized_extends width height
        | key key? pressed =>
            cases key? with
            | none => exact .of_same rfl
            | some key => exact onKey_extends key pressed
        | focused gained => cases gained <;> exact .of_same rfl
        | closeRequested | other => exact .of_same rfl
      · exact .of_same rfl

theorem follow_extends (cue : Cue) : host.Extends (host.follow cue) := by
  cases cue with
  | fail operation | mend operation => exact .of_same rfl
  | event event =>
      cases ended : host.isEnded with
      | true =>
          obtain ⟨stage, same⟩ := follow_of_isEnded ended (.event event)
          rw [same]
          exact .of_same rfl
      | false => exact handle_extends ended event

theorem run_extends (now : Nat) (cues : List Cue) : host.Extends (host.run now cues) := by
  induction cues using List.reverseRecOn with
  | nil => exact .of_same rfl
  | append_singleton cues cue ih =>
      rw [run_concat]
      exact ih.trans (renderer_run host now cues).1 (follow_extends cue)

end Host

end Chip8.Desktop
