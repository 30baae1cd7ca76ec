import Mathlib.Logic.Basic

/-! Programs that act only through calls, and handlers that answer the calls over
a state. The program text fixes which calls are made; the handler alone decides
what they do, so one program runs under every environment. -/
namespace Interaction

inductive Program (Call : Type) (Reply : Call → Type) (α : Type) where
  | done (value : α)
  | call (request : Call) (next : Reply request → Program Call Reply α)

/-- A handler answers a call and moves the state; it sees nothing of the program. -/
abbrev Handler (Call : Type) (Reply : Call → Type) (S : Type) :=
  (request : Call) → S → Reply request × S

namespace Program
variable {Call : Type} {Reply : Call → Type} {S α β : Type}

def bind : Program Call Reply α → (α → Program Call Reply β) → Program Call Reply β
  | .done value, next => next value
  | .call request rest, next => .call request fun reply => (rest reply).bind next

instance : Monad (Program Call Reply) where
  pure := .done
  bind := bind

theorem bind_bind {γ : Type} (p : Program Call Reply α) (f : α → Program Call Reply β)
    (g : β → Program Call Reply γ) : (p.bind f).bind g = p.bind fun value => (f value).bind g := by
  induction p with
  | done value => rfl
  | call request rest ih => simp only [bind, ih]

theorem bind_done (p : Program Call Reply α) : p.bind .done = p := by
  induction p with
  | done value => rfl
  | call request rest ih => exact congrArg (Program.call request) (funext ih)

instance : LawfulMonad (Program Call Reply) :=
  LawfulMonad.mk' _ bind_done (fun _ _ => rfl) bind_bind

/-- One call, whose reply is the result. -/
def perform (request : Call) : Program Call Reply (Reply request) := .call request .done

def run (handler : Handler Call Reply S) : Program Call Reply α → S → α × S
  | .done value, s => (value, s)
  | .call request next, s => run handler (next (handler request s).1) (handler request s).2

@[simp] theorem run_pure (handler : Handler Call Reply S) (value : α) (s : S) :
    run handler (pure value) s = (value, s) := rfl

@[simp] theorem run_perform (handler : Handler Call Reply S) (request : Call) (s : S) :
    run handler (perform request) s = handler request s := rfl

@[simp] theorem run_bind (handler : Handler Call Reply S) (p : Program Call Reply α)
    (next : α → Program Call Reply β) (s : S) :
    run handler (p >>= next) s = run handler (next (run handler p s).1) (run handler p s).2 := by
  induction p generalizing s with
  | done value => rfl
  | call request rest ih => exact ih _ _

@[simp] theorem run_map (handler : Handler Call Reply S) (p : Program Call Reply α) (f : α → β)
    (s : S) : run handler (f <$> p) s = (f (run handler p s).1, (run handler p s).2) := by
  rw [map_eq_pure_bind, run_bind, run_pure]

/-- Every call the program can make, under any replies, is allowed. -/
def Uses (allowed : Call → Prop) : Program Call Reply α → Prop
  | .done _ => True
  | .call request next => allowed request ∧ ∀ reply, (next reply).Uses allowed

variable {allowed : Call → Prop} {p : Program Call Reply α}

@[simp] theorem uses_pure (value : α) : Uses allowed (pure value : Program Call Reply α) := trivial

@[simp] theorem uses_perform_bind (request : Call) (next : Reply request → Program Call Reply α) :
    Uses allowed (perform request >>= next) ↔ allowed request ∧ ∀ reply, (next reply).Uses allowed :=
  Iff.rfl

@[simp] theorem uses_perform (request : Call) :
    Uses allowed (perform request : Program Call Reply _) ↔ allowed request :=
  ⟨And.left, fun permitted => ⟨permitted, fun _ => trivial⟩⟩

@[simp] theorem uses_map (f : α → β) : Uses allowed (f <$> p) ↔ Uses allowed p := by
  induction p with
  | done value => rfl
  | call request tail ih => exact and_congr_right fun _ => forall_congr' ih

theorem Uses.mono {other : Call → Prop} (uses : p.Uses allowed)
    (weaker : ∀ request, allowed request → other request) : p.Uses other := by
  induction p with
  | done value => trivial
  | call request tail ih => exact ⟨weaker _ uses.1, fun reply => ih reply (uses.2 reply)⟩

theorem Uses.bind {next : α → Program Call Reply β} (first : p.Uses allowed)
    (rest : ∀ value, (next value).Uses allowed) : (p >>= next).Uses allowed := by
  induction p with
  | done value => exact rest value
  | call request tail ih => exact ⟨first.1, fun reply => ih reply (first.2 reply)⟩

/-- A property that every allowed call keeps is kept by the whole run. -/
theorem run_invariant (handler : Handler Call Reply S) (property : S → Prop)
    (preserved : ∀ request s, allowed request → property s → property (handler request s).2)
    (uses : p.Uses allowed) (s : S) (initial : property s) : property (run handler p s).2 := by
  induction p generalizing s with
  | done value => exact initial
  | call request tail ih =>
    exact ih _ (uses.2 _) _ (preserved _ _ uses.1 initial)

/-- The frame rule: what no allowed call changes, the run does not change. -/
theorem run_frame (handler : Handler Call Reply S) (view : S → β)
    (frame : ∀ request s, allowed request → view (handler request s).2 = view s)
    (uses : p.Uses allowed) (s : S) : view (run handler p s).2 = view s :=
  run_invariant handler (fun t => view t = view s)
    (fun request t permitted same => (frame request t permitted).trans same) uses s rfl

/-- A call with the reply it got. -/
structure Event (Call : Type) (Reply : Call → Type) where
  request : Call
  reply : Reply request

/-- The calls of a run, in order. -/
def trace (handler : Handler Call Reply S) : Program Call Reply α → S → List (Event Call Reply)
  | .done _, _ => []
  | .call request next, s =>
    ⟨request, (handler request s).1⟩ ::
      trace handler (next (handler request s).1) (handler request s).2

@[simp] theorem trace_pure (handler : Handler Call Reply S) (value : α) (s : S) :
    trace handler (pure value) s = [] := rfl

@[simp] theorem trace_perform (handler : Handler Call Reply S) (request : Call) (s : S) :
    trace handler (perform request) s = [⟨request, (handler request s).1⟩] := rfl

@[simp] theorem trace_bind (handler : Handler Call Reply S) (p : Program Call Reply α)
    (next : α → Program Call Reply β) (s : S) :
    trace handler (p >>= next) s =
      trace handler p s ++ trace handler (next (run handler p s).1) (run handler p s).2 := by
  induction p generalizing s with
  | done value => rfl
  | call request rest ih => exact congrArg (List.cons _) (ih _ _)

@[simp] theorem trace_map (handler : Handler Call Reply S) (p : Program Call Reply α) (f : α → β)
    (s : S) : trace handler (f <$> p) s = trace handler p s := by
  rw [map_eq_pure_bind, trace_bind, trace_pure, List.append_nil]

theorem Uses.trace {event : Event Call Reply} (uses : p.Uses allowed)
    (handler : Handler Call Reply S) (s : S) (made : event ∈ p.trace handler s) :
    allowed event.request := by
  induction p generalizing s with
  | done value => exact absurd made List.not_mem_nil
  | call request tail ih =>
    rcases List.mem_cons.mp made with rfl | later
    · exact uses.1
    · exact ih _ (uses.2 _) _ later

end Program

/-- Each event is in order in the account that the events before it have led to. -/
def Checked {Event Account : Type} (move : Account → Event → Account)
    (ok : Account → Event → Prop) : Account → List Event → Prop
  | _, [] => True
  | account, event :: rest => ok account event ∧ Checked move ok (move account event) rest

section Checked
variable {Event Account : Type} {move : Account → Event → Account} {ok : Account → Event → Prop}

@[simp] theorem checked_nil (account : Account) : Checked move ok account [] := trivial

@[simp] theorem checked_cons (account : Account) (event : Event) (rest : List Event) :
    Checked move ok account (event :: rest) ↔
      ok account event ∧ Checked move ok (move account event) rest := Iff.rfl

@[simp] theorem checked_append (account : Account) (before after : List Event) :
    Checked move ok account (before ++ after) ↔
      Checked move ok account before ∧ Checked move ok (before.foldl move account) after := by
  induction before generalizing account with
  | nil => simp
  | cons event rest ih => simp [ih, and_assoc]

/-- What checking means for one event among the others. -/
theorem checked_iff (account : Account) (events : List Event) :
    Checked move ok account events ↔
      ∀ before event after, events = before ++ event :: after →
        ok (before.foldl move account) event := by
  constructor
  · rintro checked before event after rfl
    exact ((checked_append _ _ _).mp checked).2.1
  · intro each
    induction events generalizing account with
    | nil => trivial
    | cons event rest ih =>
      refine ⟨each [] event rest rfl, ih _ fun before later after split => ?_⟩
      exact each (event :: before) later after (by rw [split]; rfl)

end Checked

namespace Program
variable {Call : Type} {Reply : Call → Type} {S α β Account : Type}
  {move : Account → Event Call Reply → Account} {ok : Account → Event Call Reply → Prop}
  {account : Account} {p : Program Call Reply α}

/-- Under any replies, each call is in order in the account that the calls before it
have led to, and the account at the end is as it should be for the result. -/
def Obeys (move : Account → Event Call Reply → Account) (ok : Account → Event Call Reply → Prop)
    (post : α → Account → Prop) : Account → Program Call Reply α → Prop
  | account, .done value => post value account
  | account, .call request next => ∀ reply,
      ok account ⟨request, reply⟩ ∧ Obeys move ok post (move account ⟨request, reply⟩) (next reply)

theorem obeys_pure {post : α → Account → Prop} {value : α} (held : post value account) :
    Obeys move ok post account (pure value : Program Call Reply α) := held

theorem obeys_call {post : α → Account → Prop} {request : Call}
    {next : Reply request → Program Call Reply α}
    (each : ∀ reply, ok account ⟨request, reply⟩ ∧
      Obeys move ok post (move account ⟨request, reply⟩) (next reply)) :
    Obeys move ok post account (perform request >>= next) := each

/-- The rule for a sequence. -/
theorem Obeys.bind {post : β → Account → Prop} {next : α → Program Call Reply β}
    (first : Obeys move ok (fun value account => Obeys move ok post account (next value)) account p) :
    Obeys move ok post account (p >>= next) := by
  induction p generalizing account with
  | done value => exact first
  | call request rest ih => exact fun reply => ⟨(first reply).1, ih reply (first reply).2⟩

theorem Obeys.mono {post weaker : α → Account → Prop} (obeys : Obeys move ok post account p)
    (implied : ∀ value account, post value account → weaker value account) :
    Obeys move ok weaker account p := by
  induction p generalizing account with
  | done value => exact implied _ _ obeys
  | call request rest ih => exact fun reply => ⟨(obeys reply).1, ih reply (obeys reply).2⟩

/-- A rule about the requests alone. -/
theorem Obeys.uses [∀ request, Nonempty (Reply request)] {post : α → Account → Prop}
    {allowed : Call → Prop} (obeys : Obeys move ok post account p)
    (permitted : ∀ account request reply, ok account ⟨request, reply⟩ → allowed request) :
    p.Uses allowed := by
  induction p generalizing account with
  | done value => trivial
  | call request rest ih =>
    have some : Nonempty (Reply request) := inferInstance
    obtain ⟨reply⟩ := some
    exact ⟨permitted _ _ _ (obeys reply).1, fun reply => ih reply (obeys reply).2⟩

theorem Obeys.trace {post : α → Account → Prop} (obeys : Obeys move ok post account p)
    (handler : Handler Call Reply S) (s : S) :
    Checked move ok account (p.trace handler s) ∧
      post (p.run handler s).1 ((p.trace handler s).foldl move account) := by
  induction p generalizing account s with
  | done value => exact ⟨trivial, obeys⟩
  | call request rest ih =>
    obtain ⟨allowed, after⟩ := obeys (handler request s).1
    obtain ⟨checked, held⟩ := ih _ after (handler request s).2
    exact ⟨⟨allowed, checked⟩, held⟩

end Program

end Interaction
