import BusRelay.Proofs.Handling.Settlement
import BusRelay.Proofs.List
/-!
# Dispatches are complete

For every event the sink is called once, in the place of the event, whatever it answered to those before
(`exchanged_dispatch`). What it refused, and only that, is in the batch, under the event's own name; and a sink
that answers to the event alone refuses the same another time (`dispatch_complete`).
-/

namespace BusRelay

/-- What is sent for an event: the event if it is valid, and else what one repair makes of it. -/
inductive Event.SentAs (e : Event) : Event → Prop where
  | valid (valid : e.validate = .ok ()) : SentAs e e
  | repaired {v : Violations} (refused : e.validate = .error v) : SentAs e (e.repair v).1

theorem Event.sentAs_prepare (e : Event) : e.SentAs e.prepare.1 := by
  unfold prepare
  cases checked : e.validate with
  | ok => exact .valid checked
  | error v => exact .repaired checked

section

variable {σ : Type} (sink : Sink σ)

namespace Sink

/-- Every answer is that of the sink as it was left by the events before. -/
def Answers (state : σ) (sent : Exchange) : Prop :=
  ∀ earlier p later, sent = earlier ++ p :: later →
    p.2 = (sink (after sink state (Exchange.events earlier)) p.1).1

theorem answers_nil (state : σ) : Answers sink state [] := by
  intro earlier p later split
  exact absurd (congrArg List.length split) (by simp)

/-- The first answer is that of the sink as it is, the others those of the sink as it is left. -/
theorem answers_cons {state : σ} {e : Event} {rest : Exchange} (more : Answers sink (sink state e).2 rest) :
    Answers sink state ((e, (sink state e).1) :: rest) := by
  intro earlier p later split
  cases earlier with
  | nil =>
    obtain ⟨rfl, -⟩ := List.cons.inj split
    rfl
  | cons first earlier =>
    obtain ⟨rfl, behind⟩ := List.cons.inj split
    exact more earlier p later behind

theorem answers_exchange (state : σ) (events : List Event) :
    Answers sink state (exchange sink state events).prepared := by
  induction events generalizing state with
  | nil => exact answers_nil sink state
  | cons e rest ih => exact answers_cons sink (ih (sink state e.prepare.1).2)

/-- A sink that answers to the event alone answers the same in every state. -/
theorem exchange_of_fixed {answer : Event → SendAnswer} (fixed : ∀ state e, (sink state e).1 = answer e)
    (state : σ) (events : List Event) :
    exchange sink state events = events.map fun e => (e, answer e.prepare.1) := by
  induction events generalizing state with
  | nil => rfl
  | cons e rest ih => rw [exchange, ih, fixed, List.map_cons]

end Sink

/-- What the sink was called with, and what it answered. -/
def Dispatched.exchanged (d : Dispatched σ) : Exchange :=
  (Action.calls d.actions).filterMap Action.exchanged?

variable (state : σ) (events : List Event)

/-- Nobody but the sink is called. -/
theorem calls_dispatch :
    Action.calls (dispatch sink state events).actions = (Sink.exchange sink state events).sends := by
  rw [dispatch_eq]
  exact Action.calls_exchange _

theorem exchanged_dispatch :
    (dispatch sink state events).exchanged = (Sink.exchange sink state events).prepared := by
  rw [Dispatched.exchanged, calls_dispatch, Exchange.sends, List.filterMap_map]
  exact List.filterMap_some

/-- An event with its answer is in the exchange in the place that it has in the list. -/
theorem exchange_eq_zip : Sink.exchange sink state events =
    events.zip (Sink.exchange sink state events).answers := by
  induction events generalizing state with
  | nil => rfl
  | cons e rest ih =>
    have later := ih (sink state e.prepare.1).2
    rw [Sink.exchange, Exchange.answers, List.map_cons, List.zip_cons_cons, ← Exchange.answers, ← later]

theorem sentAs_exchange : List.Forall₂ (fun e p => e.SentAs p.1) events
    (Sink.exchange sink state events).prepared := by
  induction events generalizing state with
  | nil => exact .nil
  | cons e rest ih => exact .cons e.sentAs_prepare (ih (sink state e.prepare.1).2)

/-- **A dispatch is complete.** Whatever state the sink keeps, it is called for every event of a list once, in
order, with the event itself if it is valid and else with what one repair makes of it; nobody else is called,
and the sink is left as these calls leave it. The batch has the events that were refused, in order, each under
its own name and with the fault that the sink gave; it is empty just if all were taken. If the sink answers
to the event alone, another dispatch of the same list has the same batch. -/
theorem dispatch_complete :
    Action.calls (dispatch sink state events).actions =
      (dispatch sink state events).exchanged.map (fun p => .sent p.1 p.2) ∧
    let done := dispatch sink state events
    List.Forall₂ (fun e p => e.SentAs p.1) events done.exchanged ∧
    Sink.Answers sink state done.exchanged ∧
    done.state = Sink.after sink state done.exchanged.events ∧
    (done.batch = (events.zip done.exchanged.answers).filterMap fun p =>
      match p.2 with
      | .ok () => none
      | .error fault => some ⟨p.1.id, fault⟩) ∧
    (done.batch = [] ↔ ∀ p ∈ done.exchanged, p.2 = .ok ()) ∧
    ∀ answer : Event → SendAnswer, (∀ state e, (sink state e).1 = answer e) →
      ∀ later, (dispatch sink later events).batch = done.batch := by
  have exchanged := exchanged_dispatch sink state events
  have batch (state : σ) : (dispatch sink state events).batch = (Sink.exchange sink state events).failures := by
    rw [dispatch_eq]
  have refused : (fun p : Event × SendAnswer => p.1.undelivered? p.2) = fun p =>
      match p.2 with
      | .ok () => none
      | .error fault => some ⟨p.1.id, fault⟩ := by
    funext ⟨e, answer⟩
    cases answer <;> rfl
  dsimp only
  rw [exchanged]
  refine ⟨?_, sentAs_exchange sink state events, Sink.answers_exchange sink state events, ?_, ?_, ?_, ?_⟩
  · exact calls_dispatch sink state events
  · rw [Exchange.events, Exchange.fst_prepared, Sink.events_exchange]
    exact congrArg Dispatched.state (dispatch_eq sink state events)
  · rw [Exchange.answers_prepared, ← exchange_eq_zip, ← refused]
    exact batch state
  · rw [batch state, Exchange.failures_eq_nil_iff, Exchange.allTaken_iff, Exchange.prepared, List.forall_mem_map]
  · intro answer fixed later
    rw [batch later, batch state, Sink.exchange_of_fixed sink fixed, Sink.exchange_of_fixed sink fixed]

namespace Sample

/-- A sink that counts its calls. It does not take the events called `b`. -/
def picky : Sink Nat := fun calls e => (if e.id = "b" then .error .timeout else .ok (), calls + 1)

/-- Two events of one name that is not taken, and one between them with a schema that is none. -/
def mixed : List Event :=
  [{ id := "b", source := "queue", kind := "created", time := .epoch },
    { id := "a", source := "queue", kind := "created", time := .epoch, schema := some "#" },
    { id := "b", source := "", kind := "created", time := .epoch }]

end Sample

/-- Of three events the one in the middle is repaired and taken. The two others are in the batch, both under
the name that they share, and another dispatch has the same batch however often the sink was called before. -/
theorem dispatch_complete_repeated :
    ((dispatch Sample.picky 0 Sample.mixed).exchanged.map fun p => (p.1.id, p.1.schema, p.2)) =
      [("b", none, .error .timeout), ("a", none, .ok ()), ("b", none, .error .timeout)] ∧
    ∀ calls, (dispatch Sample.picky calls Sample.mixed).batch = [⟨"b", .timeout⟩, ⟨"b", .timeout⟩] := by
  have batch : (dispatch Sample.picky 0 Sample.mixed).batch = [⟨"b", .timeout⟩, ⟨"b", .timeout⟩] := by
    decide +kernel
  obtain ⟨-, -, -, -, -, -, again⟩ := dispatch_complete Sample.picky 0 Sample.mixed
  refine ⟨by rfl, fun calls => ?_⟩
  rw [← batch]
  exact again (fun e => if e.id = "b" then .error .timeout else .ok ()) (fun _ _ => rfl) calls

end

end BusRelay
