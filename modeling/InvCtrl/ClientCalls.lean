import InvCtrl.Host

/-! The three client calls behind every host function, under every outcome of each.
Initializing and opening are answered by their code alone; an invocation that fails
returns the operation as the host had set it up. -/
namespace InvCtrl
open Interaction

def TeecOutcome.code : TeecOutcome → UInt32
  | .completed => teecSuccess
  | .refused code _ | .lost code _ => code

@[simp] theorem TeecOutcome.code_success_iff (outcome : TeecOutcome) :
    outcome.code = teecSuccess ↔ outcome = .completed := by
  cases outcome with
  | completed => exact ⟨fun _ => rfl, fun _ => rfl⟩
  | refused code failed => exact ⟨fun same => absurd same failed, nofun⟩
  | lost code failed => exact ⟨fun same => absurd same failed, nofun⟩

namespace Platform
variable (platform : Platform)

/-- The client call of this number returns success. -/
def Completes (call : Nat) : Prop := (platform.outcome call).code = teecSuccess

instance (call : Nat) : Decidable (platform.Completes call) :=
  inferInstanceAs (Decidable (_ = _))

/-- The code with which the opening from this call on ends. -/
def openingCode (call : Nat) : UInt32 :=
  if platform.Completes call then (platform.outcome (call + 1)).code
  else (platform.outcome call).code

/-- Context and session are there. -/
def Opens (call : Nat) : Prop := platform.openingCode call = teecSuccess

instance (call : Nat) : Decidable (platform.Opens call) := inferInstanceAs (Decidable (_ = _))

theorem opens_iff (call : Nat) :
    platform.Opens call ↔ platform.Completes call ∧ platform.Completes (call + 1) := by
  unfold Opens openingCode
  split
  · next first => exact ⟨fun second => ⟨first, second⟩, And.right⟩
  · next failed => exact ⟨fun same => absurd same failed, fun both => absurd both.1 failed⟩

theorem connect_eq (w : World) :
    platform.connect w = ((platform.outcome w.calls).code, { w with calls := w.calls + 1 }) := by
  unfold connect
  cases platform.outcome w.calls <;> rfl

end Platform

section Skeleton
variable {platform : Platform} {w : World}

theorem openedSession_opened (opens : platform.Opens w.calls) (failed : UInt32 → α)
    (body : HostProgram α) :
    (openedSession failed body).run platform.handler w =
      body.run platform.handler { w with calls := w.calls + 2 } := by
  obtain ⟨first, second⟩ := (platform.opens_iff w.calls).mp opens
  rw [Platform.Completes] at first second
  simp only [openedSession, Program.run_bind, Program.run_perform, Platform.handler,
    Platform.connect_eq, first, second, ne_eq, not_true_eq_false, ↓reduceIte]

theorem openedSession_unopened (unopened : ¬ platform.Opens w.calls) (failed : UInt32 → α)
    (body : HostProgram α) :
    ((openedSession failed body).run platform.handler w).1 =
      failed (platform.openingCode w.calls) := by
  simp only [openedSession, Program.run_bind, Program.run_perform, Platform.handler,
    Platform.connect_eq]
  by_cases first : platform.Completes w.calls
  · have second : (platform.outcome (w.calls + 1)).code ≠ teecSuccess := fun second =>
      unopened ((platform.opens_iff w.calls).mpr ⟨first, second⟩)
    rw [Platform.openingCode, if_pos first]
    rw [Platform.Completes] at first
    simp [first, second, Platform.handler, Platform.connect_eq]
  · rw [Platform.openingCode, if_neg first]
    rw [Platform.Completes] at first
    simp [first]

theorem invokedOnce_completed (completes : platform.Completes w.calls) (commandID : UInt32)
    (op : TeecParams) :
    let request := platform.request commandID op.paramTypes op w
    let r := platform.env.invoke platform.seed request w.tee
    (invokedOnce commandID op).run platform.handler w =
      (platform.link.copyBackAll op r.1.2 r.2.memory, ⟨r.2, w.calls + 3⟩) := by
  have completed := (TeecOutcome.code_success_iff _).mp completes
  simp only [invokedOnce, Program.run_bind, Program.run_perform, Program.run_pure,
    Platform.handler, Platform.invokeCommand, completed]

/-- Whether the application ran or not, its outputs do not come back. -/
theorem invokedOnce_failed (fails : ¬ platform.Completes w.calls) (commandID : UInt32)
    (op : TeecParams) :
    ((invokedOnce commandID op).run platform.handler w).1 = op := by
  have failed : platform.outcome w.calls ≠ .completed := fun completed =>
    fails ((TeecOutcome.code_success_iff _).mpr completed)
  simp only [invokedOnce, Program.run_bind, Program.run_perform, Program.run_pure,
    Platform.handler, Platform.invokeCommand]
  cases outcome : platform.outcome w.calls with
  | completed => exact absurd outcome failed
  | refused code nonzero => rfl
  | lost code nonzero => rfl

end Skeleton

end InvCtrl
