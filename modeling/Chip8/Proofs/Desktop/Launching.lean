import Chip8.Proofs.Desktop.Course
import Chip8.Proofs.Desktop.EventLoop
import Chip8.Proofs.Layouts

/-!
# Failures at the start

A launch ends as the first of its phases that fails, and shows nothing unless the phases before the
window passed (`Situation.launch_in_phases`).
-/

namespace Chip8

namespace InputMap

variable {parse : String → Except String (List Definition)} {inputMap : InputMap}

end InputMap

namespace Desktop

open Staged

theorem Renderer.LoopCall.events_mem {renderer : Renderer} {call : Call}
    (made : renderer.LoopCall call) : .events ∈ call.phases := by
  cases made with
  | machine record =>
      cases record with
      | loaded size => exact List.mem_cons_of_mem _ List.mem_cons_self
      | _ => exact List.mem_cons_self
  | viewport _ _ | present _ _ => exact List.mem_cons_of_mem _ List.mem_cons_self
  | keypad _ _ | unbound _ | exit | requestRedraw | resizeSurface _ _ | makeCurrent | swapBuffers =>
      exact List.mem_cons_self

namespace Situation

variable {given : Situation} {phase : Phase} {calls : List Call}

theorem mem_phases_of_makes (made : given.makes phase calls) :
    ∀ call ∈ calls, phase ∈ call.phases := by
  cases phase with
  | settings =>
      change calls = (given.settingsFile?.map _).toList at made
      subst made
      cases given.settingsFile? with
      | none => exact List.forall_mem_nil _
      | some path => exact List.forall_mem_singleton.mpr List.mem_cons_self
  | inputMap =>
      change calls = ((given.settings?.bind Settings.inputMap?).map _).toList at made
      subst made
      cases given.settings?.bind Settings.inputMap? with
      | none => exact List.forall_mem_nil _
      | some path => exact List.forall_mem_singleton.mpr List.mem_cons_self
  | eventLoop =>
      rw [show calls = [.createEventLoop] from made]
      exact List.forall_mem_singleton.mpr List.mem_cons_self
  | arguments | validation | romNamed =>
      rw [show calls = [] from made]
      exact List.forall_mem_nil _
  | romLoaded =>
      obtain ⟨rom, sizes, -, rfl⟩ := made
      rintro call (_ | ⟨_, loaded⟩)
      · exact List.mem_cons_self
      · obtain ⟨size, -, rfl⟩ := List.mem_map.mp loaded
        exact List.mem_cons_self
  | window => exact made
  | renderer =>
      obtain ⟨width, height, rfl⟩ := made
      intro call member
      rcases List.mem_append.mp member with drawn | last
      · obtain ⟨command, -, rfl⟩ := List.mem_map.mp drawn
        exact List.mem_cons_self
      · split at last
        · cases List.mem_singleton.mp last
          exact List.mem_cons_self
        · cases List.mem_singleton.mp last
          exact List.mem_cons_self
  | events =>
      obtain ⟨width, height, reactions, beeps, own, rfl⟩ := made
      intro call member
      rcases List.mem_append.mp member with reacted | closed
      · rcases List.mem_append.mp reacted with reaction | played
        · exact (own call reaction).events_mem
        · split at played
          · cases List.mem_singleton.mp played
            exact List.mem_cons_self
          · cases played
      · rcases closed with _ | ⟨_, deleted⟩
        · exact List.mem_cons_of_mem _ List.mem_cons_self
        · obtain ⟨command, -, rfl⟩ := List.mem_map.mp deleted
          exact List.mem_cons_of_mem _ List.mem_cons_self

/-! ## Before the window -/

variable (given)

/-- All phases before a phase pass. -/
def Reaches (phase : Phase) : Prop := ∀ earlier ∈ phase.before, given.failure? earlier = none

variable {given}

/-- A call is made by a phase that the launch reaches. -/
theorem exists_reached {made : List Call} (passage : Passage given.course Phase.all made)
    {call : Call} (mem : call ∈ made) :
    ∃ phase own, given.makes phase own ∧ call ∈ own ∧ phase ∈ call.phases ∧
      given.Reaches phase := by
  obtain ⟨first, phase, last, own, split, makes, member, passed⟩ := passage.exists_of_mem mem
  refine ⟨phase, own, makes, member, mem_phases_of_makes makes call member, ?_⟩
  rw [Reaches, Phase.before_of_split split]
  exact Course.failureIn?_eq_none_iff.mp passed

end Situation

end Desktop

end Chip8
