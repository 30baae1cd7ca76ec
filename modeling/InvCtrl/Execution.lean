import Mathlib.Data.List.Basic

/-! Runs of a machine whose inputs are chosen by somebody else. A run records every
input with the answer it got, so that what happened before a moment is a fact
about the recorded history and not only about the state. -/
namespace Execution

structure Machine (State Input Output : Type) where
  step : State → Input → Output × State
  /-- The inputs that whoever drives the machine is able to choose. -/
  admissible : State → Input → Prop

/-- The same machine, driven by somebody who keeps to a condition. -/
def Machine.within {State Input Output : Type} (M : Machine State Input Output)
    (condition : State → Input → Prop) : Machine State Input Output where
  step := M.step
  admissible s input := M.admissible s input ∧ condition s input

abbrev History (Input Output : Type) := List (Input × Output)

section Driven
variable {State Input Output : Type} (M : Machine State Input Output)

/-- What is recorded when these inputs are put in one after the other. -/
def Machine.recorded : State → List Input → History Input Output
  | _, [] => []
  | s, input :: rest => (input, (M.step s input).1) :: Machine.recorded (M.step s input).2 rest

def Machine.reached (s : State) (inputs : List Input) : State :=
  inputs.foldl (fun s input => (M.step s input).2) s

/-- They can all be put in. -/
def Machine.Admits : State → List Input → Prop
  | _, [] => True
  | s, input :: rest => M.admissible s input ∧ Machine.Admits (M.step s input).2 rest

instance Machine.decidableAdmits [∀ s input, Decidable (M.admissible s input)] :
    (s : State) → (inputs : List Input) → Decidable (M.Admits s inputs)
  | _, [] => .isTrue trivial
  | s, input :: rest =>
    have := Machine.decidableAdmits (M.step s input).2 rest
    inferInstanceAs (Decidable (_ ∧ _))

theorem Machine.recorded_inputs (s : State) (inputs : List Input) :
    (M.recorded s inputs).map Prod.fst = inputs := by
  induction inputs generalizing s with
  | nil => rfl
  | cons input rest ih => exact congrArg (List.cons input) (ih _)

end Driven

inductive Run {State Input Output : Type} (M : Machine State Input Output) (start : State) :
    History Input Output → State → Prop where
  | nil : Run M start [] start
  | snoc {history : History Input Output} {s : State} (run : Run M start history s) (input : Input)
      (allowed : M.admissible s input) :
      Run M start (history ++ [(input, (M.step s input).1)]) (M.step s input).2

namespace Run
variable {State Input Output : Type} {M : Machine State Input Output} {start s t : State}
  {history before after : History Input Output}

/-- What holds initially and is kept by every admissible step holds at the end of
every run; the invariant may speak about the history. -/
theorem invariant (run : Run M start history s) (property : History Input Output → State → Prop)
    (initial : property [] start)
    (preserved : ∀ history s input, Run M start history s → property history s →
      M.admissible s input →
        property (history ++ [(input, (M.step s input).1)]) (M.step s input).2) :
    property history s := by
  induction run with
  | nil => exact initial
  | snoc prior input allowed ih => exact preserved _ _ input prior ih allowed

theorem state_invariant (run : Run M start history s) (property : State → Prop)
    (initial : property start)
    (preserved : ∀ s input, property s → M.admissible s input → property (M.step s input).2) :
    property s :=
  run.invariant (fun _ => property) initial fun _ s input _ held allowed =>
    preserved s input held allowed

theorem append (first : Run M start before s) (second : Run M s after t) :
    Run M start (before ++ after) t := by
  induction second with
  | nil => rwa [List.append_nil]
  | snoc prior input allowed ih =>
    rw [← List.append_assoc]
    exact ih.snoc input allowed

theorem deterministic (first : Run M start history s) (second : Run M start history t) : s = t := by
  induction first generalizing t with
  | nil =>
    generalize whole : ([] : History Input Output) = history at second
    cases second with
    | nil => rfl
    | snoc => exact absurd whole (by simp)
  | @snoc before s prior input allowed ih =>
    generalize whole : before ++ [(input, (M.step s input).1)] = history at second
    cases second with
    | nil => exact absurd whole (by simp)
    | snoc other =>
      obtain ⟨rfl, last⟩ := List.append_inj' whole rfl
      cases ih other
      cases last
      rfl

theorem single (s : State) (input : Input) (allowed : M.admissible s input) {output : Output}
    (shown : (M.step s input).1 = output) : Run M s [(input, output)] (M.step s input).2 :=
  shown ▸ Run.nil.snoc input allowed

theorem recorded (s : State) (inputs : List Input) (admits : M.Admits s inputs) :
    Run M s (M.recorded s inputs) (M.reached s inputs) := by
  induction inputs generalizing s with
  | nil => exact .nil
  | cons input rest ih => exact (Run.single s input admits.1 rfl).append (ih _ admits.2)

/-- Every prefix of a history is the history of a run, and the rest continues it. -/
theorem split (run : Run M start (before ++ after) t) :
    ∃ s, Run M start before s ∧ Run M s after t := by
  generalize whole : before ++ after = history at run
  induction run generalizing after with
  | nil =>
    obtain ⟨rfl, rfl⟩ := List.append_eq_nil_iff.mp whole
    exact ⟨start, .nil, .nil⟩
  | @snoc history s prior input allowed ih =>
    rcases List.eq_nil_or_concat after with rfl | ⟨init, last, rfl⟩
    · rw [List.append_nil] at whole
      exact ⟨_, whole ▸ prior.snoc input allowed, .nil⟩
    · rw [List.concat_eq_append, ← List.append_assoc] at whole
      obtain ⟨front, back⟩ := List.append_inj' whole rfl
      obtain ⟨middle, first, second⟩ := ih front
      cases back
      exact ⟨middle, first, List.concat_eq_append ▸ second.snoc input allowed⟩

theorem split_at {event : Input × Output} (run : Run M start (before ++ event :: after) t) :
    ∃ s, Run M start before s ∧ M.admissible s event.1 ∧ event.2 = (M.step s event.1).1 ∧
      Run M (M.step s event.1).2 after t := by
  rw [List.append_cons] at run
  obtain ⟨middle, first, second⟩ := run.split
  generalize whole : before ++ [event] = history at first
  cases first with
  | nil => exact absurd whole (by simp)
  | snoc prior input allowed =>
    obtain ⟨rfl, last⟩ := List.append_inj' whole rfl
    cases last
    exact ⟨_, prior, allowed, rfl, second⟩

theorem origin (run : Run M start history t) (property : State → Prop)
    (absent : ¬ property start) (present : property t) :
    ∃ before input output after s, history = before ++ (input, output) :: after ∧
      Run M start before s ∧ M.admissible s input ∧ output = (M.step s input).1 ∧
      ¬ property s ∧ property (M.step s input).2 := by
  induction run with
  | nil => exact absurd present absent
  | @snoc history s prior input allowed ih =>
    by_cases already : property s
    · obtain ⟨before, first, output, after, middle, rfl, rest⟩ := ih already
      exact ⟨before, first, output, after ++ [(input, (M.step s input).1)], middle, by simp, rest⟩
    · exact ⟨history, input, _, [], s, rfl, prior, allowed, rfl, already, present⟩

/-- A relation to an abstract state that moves with the recorded events. -/
theorem refines {Abstract : Type} (run : Run M start history s)
    (related : State → Abstract → Prop) (move : Abstract → Input × Output → Abstract) (a : Abstract)
    (initial : related start a)
    (simulated : ∀ s a input, related s a → M.admissible s input →
      related (M.step s input).2 (move a (input, (M.step s input).1))) :
    related s (history.foldl move a) := by
  induction run with
  | nil => exact initial
  | snoc prior input allowed ih =>
    rw [List.foldl_append]
    exact simulated _ _ _ ih allowed

/-- Forward simulation: a machine that answers each step of the first one, renamed, has a
run with the renamed history. -/
theorem simulated {State' Input' Output' : Type} {N : Machine State' Input' Output'} {start' : State'}
    (run : Run M start history s) (related : State → State' → Prop)
    (rename : Input × Output → Input' × Output') (initial : related start start')
    (answered : ∀ s t input, related s t → M.admissible s input →
      ∃ input', N.admissible t input' ∧
        rename (input, (M.step s input).1) = (input', (N.step t input').1) ∧
        related (M.step s input).2 (N.step t input').2) :
    ∃ t, Run N start' (history.map rename) t ∧ related s t := by
  induction run with
  | nil => exact ⟨start', .nil, initial⟩
  | @snoc history s prior input allowed ih =>
    obtain ⟨t, run, held⟩ := ih
    obtain ⟨input', admissible, renamed, after⟩ := answered s t input held allowed
    refine ⟨_, ?_, after⟩
    rw [List.map_append, List.map_singleton, renamed]
    exact run.snoc input' admissible

/-- The other way round: a machine that can produce each step of the first one, up to the
renaming of its own events, has a run that the renaming takes to the whole history. -/
theorem lifted {State' Input' Output' : Type} {N : Machine State' Input' Output'} {start' : State'}
    (run : Run M start history s) (related : State → State' → Prop)
    (rename : Input' × Output' → Input × Output) (initial : related start start')
    (produced : ∀ s t input, related s t → M.admissible s input →
      ∃ input', N.admissible t input' ∧
        rename (input', (N.step t input').1) = (input, (M.step s input).1) ∧
        related (M.step s input).2 (N.step t input').2) :
    ∃ events t, Run N start' events t ∧ events.map rename = history ∧ related s t := by
  induction run with
  | nil => exact ⟨[], start', .nil, rfl, initial⟩
  | @snoc history s prior input allowed ih =>
    obtain ⟨events, t, run, renamed, held⟩ := ih
    obtain ⟨input', admissible, named, after⟩ := produced s t input held allowed
    refine ⟨_, _, run.snoc input' admissible, ?_, after⟩
    rw [List.map_append, List.map_singleton, renamed, named]

/-- Steps that each change a view as their event says or leave it alone: the view after a
run is what some of the recorded events make of the first one, the settled ones among
them and none but possible ones. -/
theorem taken {View : Type} (run : Run M start history s) (view : State → View)
    (put : View → Input × Output → View) (settled possible : Input × Output → Bool)
    (decided : ∀ s input, M.admissible s input → let event := (input, (M.step s input).1)
      (possible event = true ∧ view (M.step s input).2 = put (view s) event) ∨
        (settled event = false ∧ view (M.step s input).2 = view s)) :
    ∃ executed, (history.filter settled).Sublist executed ∧
      executed.Sublist (history.filter possible) ∧ view s = executed.foldl put (view start) := by
  induction run with
  | nil => exact ⟨[], .slnil, .slnil, rfl⟩
  | @snoc history s prior input allowed ih =>
    obtain ⟨executed, confirmed, permitted, held⟩ := ih
    rw [List.filter_append, List.filter_append]
    rcases decided s input allowed with ⟨can, changed⟩ | ⟨unsettled, same⟩
    · refine ⟨executed ++ [(input, (M.step s input).1)], ?_, ?_, ?_⟩
      · exact confirmed.append List.filter_sublist
      · rw [List.filter_singleton, can, cond_true]
        exact permitted.append (List.Sublist.refl _)
      · rw [List.foldl_append, ← held]
        exact changed
    · refine ⟨executed, ?_, ?_, same.trans held⟩
      · rw [List.filter_singleton, unsettled, cond_false, List.append_nil]
        exact confirmed
      · exact permitted.trans (List.sublist_append_left _ _)

end Run

end Execution
