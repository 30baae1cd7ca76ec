import InvCtrl.Interaction

/-! Programs run piece by piece. A program is settled when its next call is one that a
scheduler decides about; the calls before it are made at once. Running the pieces one
after another is running the program. -/
namespace Interaction.Program
variable {Call : Type} {Reply : Call → Type} {S α β : Type}

/-- The calls up to the first one that stops, and what is left then. -/
def settle (stops : Call → Prop) [DecidablePred stops] (handler : Handler Call Reply S) :
    Program Call Reply α → S → Program Call Reply α × S
  | .done value, s => (.done value, s)
  | .call request next, s =>
    if stops request then (.call request next, s)
    else settle stops handler (next (handler request s).1) (handler request s).2

/-- Every result the program can have, under any replies, has the property. -/
def Always (property : α → Prop) : Program Call Reply α → Prop
  | .done value => property value
  | .call _ next => ∀ reply, (next reply).Always property

section Settle
variable (stops : Call → Prop) [DecidablePred stops] (handler : Handler Call Reply S)
  {p : Program Call Reply α}

theorem settle_stopped {request : Call} (stopping : stops request)
    (next : Reply request → Program Call Reply α) (s : S) :
    settle stops handler (.call request next) s = (.call request next, s) := by
  rw [settle, if_pos stopping]

theorem run_settle (p : Program Call Reply α) (s : S) :
    (settle stops handler p s).1.run handler (settle stops handler p s).2 = p.run handler s := by
  induction p generalizing s with
  | done value => rfl
  | call request next ih =>
    unfold settle
    split
    · rfl
    · exact ih _ _

/-- A part that never stops is run as a whole. -/
theorem settle_bind (goes : p.Uses fun request => ¬ stops request)
    (next : α → Program Call Reply β) (s : S) :
    settle stops handler (p >>= next) s =
      settle stops handler (next (p.run handler s).1) (p.run handler s).2 := by
  induction p generalizing s with
  | done value => rfl
  | call request tail ih =>
    have whole : (.call request tail : Program Call Reply α) >>= next =
        .call request fun reply => tail reply >>= next := rfl
    rw [whole, settle, if_neg goes.1]
    exact ih _ (goes.2 _) _

variable {allowed : Call → Prop}

theorem Uses.settle (uses : p.Uses allowed) (s : S) :
    (Program.settle stops handler p s).1.Uses allowed := by
  induction p generalizing s with
  | done value => trivial
  | call request next ih =>
    unfold Program.settle
    split
    · exact uses
    · exact ih _ (uses.2 _) _

theorem settle_frame (view : S → β)
    (frame : ∀ request s, allowed request → view (handler request s).2 = view s)
    (uses : p.Uses allowed) (s : S) : view (Program.settle stops handler p s).2 = view s := by
  induction p generalizing s with
  | done value => rfl
  | call request next ih =>
    unfold Program.settle
    split
    · rfl
    · exact (ih _ (uses.2 _) _).trans (frame request s uses.1)

end Settle

theorem Always.run {property : α → Prop} {p : Program Call Reply α} (always : p.Always property)
    (handler : Handler Call Reply S) (s : S) : property (p.run handler s).1 := by
  induction p generalizing s with
  | done value => exact always
  | call request next ih => exact ih _ (always _) _

end Interaction.Program
