import Mathlib.Data.List.Nodup

/-! Linearizability of histories. An object serves one request after another; a history
shows when each operation was invoked and when it was answered. The history is
linearizable if some order of the operations explains every answer and the final
state, and never puts an operation before one that was answered before its invocation.

An order grows with the history: an operation is committed at some moment after its
invocation and before its answer, and each of the three moves keeps what was shown. -/
namespace Linearization
variable {State Request Answer : Type}

/-- Every operation has its own ticket. -/
inductive Event (Request Answer : Type) where
  | invoke (ticket : Nat) (request : Request)
  | respond (ticket : Nat) (answer : Answer)

structure Commit (Request Answer : Type) where
  ticket : Nat
  request : Request
  answer : Answer

/-- Served one after another, the operations give these answers and end in this state. -/
def Explains (serve : State → Request → Answer × State) :
    State → List (Commit Request Answer) → State → Prop
  | s, [], t => t = s
  | s, commit :: rest, t =>
    commit.answer = (serve s commit.request).1 ∧ Explains serve (serve s commit.request).2 rest t

structure Linearizes (serve : State → Request → Answer × State) (start : State)
    (history : List (Event Request Answer)) (order : List (Commit Request Answer))
    (final : State) : Prop where
  explains : Explains serve start order final
  distinct : (order.map (·.ticket)).Nodup
  invoked : ∀ commit ∈ order, .invoke commit.ticket commit.request ∈ history
  answered : ∀ ticket answer, .respond ticket answer ∈ history →
    ∃ commit ∈ order, commit.ticket = ticket ∧ commit.answer = answer
  /-- An operation invoked after an answer comes after the answered operation. -/
  ordered : ∀ early answer late request before between after,
    history = before ++ .respond early answer :: between ++ .invoke late request :: after →
      ∀ first commit rest, order = first ++ commit :: rest → commit.ticket = late →
        ∃ previous ∈ first, previous.ticket = early

def Linearizable (serve : State → Request → Answer × State) (start : State)
    (history : List (Event Request Answer)) (final : State) : Prop :=
  ∃ order, Linearizes serve start history order final

section Moves
variable {serve : State → Request → Answer × State} {start s t : State}
  {history : List (Event Request Answer)} {order : List (Commit Request Answer)}

theorem Explains.snoc (explains : Explains serve start order s) (ticket : Nat) (request : Request) :
    Explains serve start (order ++ [⟨ticket, request, (serve s request).1⟩])
      (serve s request).2 := by
  induction order generalizing start with
  | nil =>
    obtain rfl : s = start := explains
    exact ⟨rfl, rfl⟩
  | cons commit rest ih => exact ⟨explains.1, ih explains.2⟩

/-- What every request keeps is kept by the whole order. -/
theorem Explains.invariant (explains : Explains serve start order t) (property : State → Prop)
    (preserved : ∀ commit ∈ order, ∀ s, property s → property (serve s commit.request).2)
    (initial : property start) : property t := by
  induction order generalizing start with
  | nil =>
    obtain rfl : t = start := explains
    exact initial
  | cons commit rest ih =>
    exact ih explains.2 (fun other member => preserved other (List.mem_cons_of_mem _ member))
      (preserved commit List.mem_cons_self _ initial)

/-- What one operation of the order brings about and every other keeps holds at the end. -/
theorem Explains.established (explains : Explains serve start order t) (property : State → Prop)
    (preserved : ∀ commit ∈ order, ∀ s, property s → property (serve s commit.request).2)
    {commit : Commit Request Answer} (member : commit ∈ order)
    (establishes : ∀ s, property (serve s commit.request).2) : property t := by
  induction order generalizing start with
  | nil => exact absurd member List.not_mem_nil
  | cons head rest ih =>
    have kept : ∀ other ∈ rest, ∀ s, property s → property (serve s other.request).2 :=
      fun other inside => preserved other (List.mem_cons_of_mem _ inside)
    rcases List.mem_cons.mp member with rfl | later
    · exact explains.2.invariant property kept (establishes start)
    · exact ih explains.2 kept later

theorem linearizes_nil : Linearizes serve start [] [] start where
  explains := rfl
  distinct := List.nodup_nil
  invoked _ member := absurd member List.not_mem_nil
  answered _ _ member := absurd member List.not_mem_nil
  ordered _ _ _ _ _ _ _ split := absurd split (by simp)

namespace Linearizes
variable (linear : Linearizes serve start history order s)
include linear

theorem invoke {ticket : Nat} (fresh : ∀ commit ∈ order, commit.ticket ≠ ticket)
    (request : Request) : Linearizes serve start (history ++ [.invoke ticket request]) order s where
  explains := linear.explains
  distinct := linear.distinct
  invoked commit member := List.mem_append_left _ (linear.invoked commit member)
  answered other answer member := by
    rcases List.mem_append.mp member with before | last
    · exact linear.answered other answer before
    · cases List.mem_singleton.mp last
  ordered early answer late other before between after split first commit rest whole same := by
    rcases List.eq_nil_or_concat after with rfl | ⟨init, last, rfl⟩
    · rw [List.append_assoc] at split
      have inside : commit ∈ order := by
        rw [whole]
        exact List.mem_append_right _ List.mem_cons_self
      rw [← List.append_assoc] at split
      obtain ⟨_, equal⟩ := List.append_inj' split rfl
      cases equal
      exact absurd same (fresh commit inside)
    · rw [List.concat_eq_append, ← List.cons_append, ← List.append_assoc] at split
      obtain ⟨front, _⟩ := List.append_inj' split rfl
      exact linear.ordered early answer late other before between init front first commit rest
        whole same

theorem respond {commit : Commit Request Answer} (member : commit ∈ order) :
    Linearizes serve start (history ++ [.respond commit.ticket commit.answer]) order s where
  explains := linear.explains
  distinct := linear.distinct
  invoked other inside := List.mem_append_left _ (linear.invoked other inside)
  answered ticket answer shown := by
    rcases List.mem_append.mp shown with before | last
    · exact linear.answered ticket answer before
    · cases List.mem_singleton.mp last
      exact ⟨commit, member, rfl, rfl⟩
  ordered early answer late other before between after split first found rest whole same := by
    rcases List.eq_nil_or_concat after with rfl | ⟨init, last, rfl⟩
    · obtain ⟨_, equal⟩ := List.append_inj' split rfl
      cases equal
    · rw [List.concat_eq_append, ← List.cons_append, ← List.append_assoc] at split
      obtain ⟨front, _⟩ := List.append_inj' split rfl
      exact linear.ordered early answer late other before between init front first found rest whole
        same

/-- An invoked operation is committed once, after everything answered so far. -/
theorem commit {ticket : Nat} {request : Request} (invoked : .invoke ticket request ∈ history)
    (fresh : ∀ commit ∈ order, commit.ticket ≠ ticket) :
    Linearizes serve start history (order ++ [⟨ticket, request, (serve s request).1⟩])
      (serve s request).2 where
  explains := linear.explains.snoc ticket request
  distinct := by
    rw [List.map_append, List.nodup_append]
    refine ⟨linear.distinct, List.nodup_singleton _, ?_⟩
    intro left member right last
    obtain ⟨found, inside, rfl⟩ := List.mem_map.mp member
    obtain rfl := List.mem_singleton.mp last
    exact fresh found inside
  invoked other inside := by
    rcases List.mem_append.mp inside with before | last
    · exact linear.invoked other before
    · obtain rfl := List.mem_singleton.mp last
      exact invoked
  answered other answer shown := by
    obtain ⟨found, inside, same⟩ := linear.answered other answer shown
    exact ⟨found, List.mem_append_left _ inside, same⟩
  ordered early answer late other before between after split first found rest whole same := by
    rcases List.eq_nil_or_concat rest with rfl | ⟨init, last, rfl⟩
    · -- the operation is the last one, and every answered one is before it
      obtain ⟨rfl, _⟩ := List.append_inj' whole rfl
      have shown : .respond early answer ∈ history := by
        rw [split]
        simp
      obtain ⟨previous, inside, equal, _⟩ := linear.answered early answer shown
      exact ⟨previous, inside, equal⟩
    · rw [List.concat_eq_append, ← List.cons_append, ← List.append_assoc] at whole
      obtain ⟨front, _⟩ := List.append_inj' whole rfl
      exact linear.ordered early answer late other before between after split first found init front
        same

end Linearizes

end Moves

end Linearization
