import InvCtrl.Interleaving

/-! Programs whose stopping calls alternate with steps of somebody else. Before a
stopping call the state may have moved as the others are relied on to move it, and the
call may be answered in more than one way; the calls between two of them run at once. -/
namespace Interaction.Program
variable {Call : Type} {Reply : Call → Type} {S α β : Type}

/-- The program has its result, or a stopping call is next. -/
def Stopped (stops : Call → Prop) : Program Call Reply α → Prop
  | .done _ => True
  | .call request _ => stops request

/-- What no call changes that goes on, settling does not change. -/
theorem settle_keeps {stops : Call → Prop} [DecidablePred stops] (handler : Handler Call Reply S)
    (view : S → β) (keeps : ∀ request s, ¬ stops request → view (handler request s).2 = view s)
    (p : Program Call Reply α) (s : S) : view (p.settle stops handler s).2 = view s := by
  induction p generalizing s with
  | done value => rfl
  | call request next ih =>
    by_cases stopping : stops request
    · rw [settle_stopped stops handler stopping]
    · rw [settle, if_neg stopping]
      exact (ih _ _).trans (keeps request s stopping)

section Counting
variable (stops : Call → Prop) [DecidablePred stops]

theorem stopped_settle (handler : Handler Call Reply S) (p : Program Call Reply α) (s : S) :
    Stopped stops (p.settle stops handler s).1 := by
  induction p generalizing s with
  | done value => trivial
  | call request next ih =>
    by_cases stopping : stops request
    · rwa [settle_stopped stops handler stopping]
    · rw [settle, if_neg stopping]
      exact ih _ _

/-- How many stopping calls the program makes before its result, whatever is replied. -/
def Takes : Program Call Reply α → (Nat → Prop) → Prop
  | .done _, counts => counts 0
  | .call request next, counts =>
    ∀ reply, (next reply).Takes (if stops request then fun more => counts (more + 1) else counts)

variable {stops} {p : Program Call Reply α} {counts : Nat → Prop}

@[simp] theorem takes_pure (value : α) :
    Takes stops (pure value : Program Call Reply α) counts ↔ counts 0 := Iff.rfl

theorem takes_stopping {request : Call} (stopping : stops request)
    (next : Reply request → Program Call Reply α) :
    Takes stops (.call request next) counts ↔
      ∀ reply, (next reply).Takes stops fun more => counts (more + 1) := by
  rw [Takes, if_pos stopping]

theorem takes_going {request : Call} (going : ¬ stops request)
    (next : Reply request → Program Call Reply α) :
    Takes stops (.call request next) counts ↔ ∀ reply, (next reply).Takes stops counts := by
  rw [Takes, if_neg going]

@[simp] theorem takes_perform_bind (request : Call) (next : Reply request → Program Call Reply α) :
    Takes stops (perform request >>= next) counts ↔
      ∀ reply, (next reply).Takes stops
        (if stops request then fun more => counts (more + 1) else counts) := Iff.rfl

@[simp] theorem takes_perform (request : Call) :
    Takes stops (perform request : Program Call Reply _) counts ↔
      ∀ _ : Reply request, if stops request then counts 1 else counts 0 := by
  refine forall_congr' fun reply => ?_
  split <;> rfl

@[simp] theorem takes_map (f : α → β) : Takes stops (f <$> p) counts ↔ Takes stops p counts := by
  induction p generalizing counts with
  | done value => rfl
  | call request tail ih => exact forall_congr' fun reply => ih reply

theorem Takes.mono {other : Nat → Prop} (takes : p.Takes stops counts)
    (weaker : ∀ count, counts count → other count) : p.Takes stops other := by
  induction p generalizing counts other with
  | done value => exact weaker 0 takes
  | call request next ih =>
    by_cases stopping : stops request
    · rw [takes_stopping stopping] at takes ⊢
      exact fun reply => ih reply (takes reply) fun count => weaker (count + 1)
    · rw [takes_going stopping] at takes ⊢
      exact fun reply => ih reply (takes reply) weaker

/-- The counts of two programs, one after the other, add up. -/
theorem Takes.bind {first : Nat → Prop} {next : α → Program Call Reply β}
    (before : p.Takes stops first)
    (after : ∀ value count, first count → (next value).Takes stops fun more => counts (count + more)) :
    (p >>= next).Takes stops counts := by
  induction p generalizing first counts with
  | done value =>
    exact (after value 0 before).mono fun count held => by rwa [Nat.zero_add] at held
  | call request tail ih =>
    by_cases stopping : stops request
    · refine (takes_stopping stopping _).mpr fun reply => ?_
      apply ih reply ((takes_stopping stopping tail).mp before reply)
      intro value count held
      apply (after value (count + 1) held).mono
      intro more counted
      rwa [Nat.add_right_comm] at counted
    · refine (takes_going stopping _).mpr fun reply => ?_
      exact ih reply ((takes_going stopping tail).mp before reply) after

theorem Takes.after_going {next : α → Program Call Reply β}
    (goes : p.Uses fun request => ¬ stops request)
    (rest : ∀ value, (next value).Takes stops counts) : (p >>= next).Takes stops counts := by
  induction p with
  | done value => exact rest value
  | call request tail ih =>
    exact (takes_going goes.1 _).mpr fun reply => ih reply (goes.2 reply)

theorem Takes.settle (takes : p.Takes stops counts) (handler : Handler Call Reply S) (s : S) :
    (Program.settle stops handler p s).1.Takes stops counts := by
  induction p generalizing s with
  | done value => exact takes
  | call request next ih =>
    by_cases stopping : stops request
    · rwa [settle_stopped stops handler stopping]
    · rw [Program.settle, if_neg stopping]
      exact ih _ ((takes_going stopping next).mp takes _) _

theorem Takes.some_count [∀ request, Nonempty (Reply request)] (takes : p.Takes stops counts) :
    ∃ count, counts count := by
  induction p generalizing counts with
  | done value => exact ⟨0, takes⟩
  | call request next ih =>
    obtain ⟨reply⟩ := ‹∀ request, Nonempty (Reply request)› request
    by_cases stopping : stops request
    · obtain ⟨count, held⟩ := ih reply ((takes_stopping stopping next).mp takes reply)
      exact ⟨count + 1, held⟩
    · exact ih reply ((takes_going stopping next).mp takes reply)

end Counting

section Safety
variable (stops : Call → Prop) [DecidablePred stops] (handler : Handler Call Reply S)
  (answers : (request : Call) → S → Reply request × S → Prop) (rely guarantee : S → S → Prop)

/-- As long as the others move the state as relied on, every stopping call moves it as
guaranteed, and the result comes with what is promised of it. -/
def Safe (ends : α → S → Prop) : Program Call Reply α → S → Prop
  | .done value, s => ends value s
  | .call request next, s =>
    if stops request then
      ∀ t, rely s t → ∀ a, answers request t a → guarantee t a.2 ∧ Safe ends (next a.1) a.2
    else Safe ends (next (handler request s).1) (handler request s).2

variable {stops handler answers rely guarantee} {p : Program Call Reply α}
  {ends : α → S → Prop} {s : S}

theorem safe_done (value : α) (done : ends value s) :
    Safe stops handler answers rely guarantee ends (.done value) s := done

theorem Safe.ended {value : α}
    (safe : Safe stops handler answers rely guarantee ends (.done value) s) : ends value s := safe

theorem safe_stopping {request : Call} (stopping : stops request)
    (next : Reply request → Program Call Reply α) :
    Safe stops handler answers rely guarantee ends (.call request next) s ↔
      ∀ t, rely s t → ∀ a, answers request t a →
        guarantee t a.2 ∧ Safe stops handler answers rely guarantee ends (next a.1) a.2 := by
  rw [Safe, if_pos stopping]

theorem safe_going {request : Call} (going : ¬ stops request)
    (next : Reply request → Program Call Reply α) :
    Safe stops handler answers rely guarantee ends (.call request next) s ↔
      Safe stops handler answers rely guarantee ends (next (handler request s).1)
        (handler request s).2 := by
  rw [Safe, if_neg going]

/-- The sequencing rule: what the first part promises is what the second may assume. -/
theorem Safe.bind {between : α → S → Prop} {next : α → Program Call Reply β}
    {ends : β → S → Prop} (first : Safe stops handler answers rely guarantee between p s)
    (rest : ∀ value t, between value t →
      Safe stops handler answers rely guarantee ends (next value) t) :
    Safe stops handler answers rely guarantee ends (p >>= next) s := by
  induction p generalizing s with
  | done value => exact rest value s first
  | call request tail ih =>
    by_cases stopping : stops request
    · refine (safe_stopping stopping _).mpr fun t moved a answered => ?_
      obtain ⟨held, safe⟩ := (safe_stopping stopping tail).mp first t moved a answered
      exact ⟨held, ih a.1 safe⟩
    · exact (safe_going stopping _).mpr (ih _ ((safe_going stopping tail).mp first))

/-- A part that never stops is run as a whole, with nobody in between. -/
theorem safe_going_bind (goes : p.Uses fun request => ¬ stops request)
    {next : α → Program Call Reply β} {ends : β → S → Prop} :
    Safe stops handler answers rely guarantee ends (p >>= next) s ↔
      Safe stops handler answers rely guarantee ends (next (p.run handler s).1)
        (p.run handler s).2 := by
  induction p generalizing s with
  | done value => rfl
  | call request tail ih => exact (safe_going goes.1 _).trans (ih _ (goes.2 _))

theorem safe_settle : Safe stops handler answers rely guarantee ends (p.settle stops handler s).1
    (p.settle stops handler s).2 ↔ Safe stops handler answers rely guarantee ends p s := by
  induction p generalizing s with
  | done value => rfl
  | call request next ih =>
    by_cases stopping : stops request
    · rw [settle_stopped stops handler stopping]
    · rw [settle, if_neg stopping, ih, safe_going stopping]

-- From here on safety is shown by its rules; unfolding it would run the program.
attribute [irreducible] Safe

variable {G : Type}

/-- The handler beside something that it neither sees nor changes. -/
def carrying (handler : Handler Call Reply S) : Handler Call Reply (S × G) := fun request s =>
  ((handler request s.1).1, (handler request s.1).2, s.2)

theorem run_carrying (p : Program Call Reply α) (s : S) (beside : G) :
    p.run (carrying handler) (s, beside) = ((p.run handler s).1, (p.run handler s).2, beside) := by
  induction p generalizing s with
  | done value => rfl
  | call request next ih => exact ih _ _

theorem settle_carrying (p : Program Call Reply α) (s : S) (beside : G) :
    p.settle stops (carrying handler) (s, beside) =
      ((p.settle stops handler s).1, (p.settle stops handler s).2, beside) := by
  induction p generalizing s with
  | done value => rfl
  | call request next ih =>
    by_cases stopping : stops request
    · rw [settle_stopped stops _ stopping, settle_stopped stops _ stopping]
    · rw [settle, settle, if_neg stopping, if_neg stopping]
      exact ih _ _

end Safety

end Interaction.Program
