import BusRelay.Handling.Handle
/-!
# The exchange with the sink

What passes between the dispatch of events and the sink: the events, each with the answer that it got.
`dispatch_eq` reads everything that comes of a dispatch off its exchange, and `exchange_replay` says
that the answers alone determine it, whatever state the sink keeps.
-/

namespace BusRelay

/-- Events in the order in which they were sent, each with the sink's answer. -/
abbrev Exchange := List (Event × SendAnswer)

namespace Exchange

def events (x : Exchange) : List Event := x.map Prod.fst

def answers (x : Exchange) : List SendAnswer := x.map Prod.snd

/-- The events that the sink did not take, with their faults. -/
def failures (x : Exchange) : List Undelivered := x.filterMap fun p => p.1.undelivered? p.2

/-- Whether the sink took every event. -/
def allTaken (x : Exchange) : Bool := x.all fun p => p.2.isOk

/-- The exchange as the sink saw it. -/
def prepared (x : Exchange) : Exchange := x.map fun p => (p.1.prepare.1, p.2)

/-- The calls of the sink. -/
def sends (x : Exchange) : List Action := x.prepared.map fun p => .sent p.1 p.2

/-- What is done for one event. -/
def actionsOf (p : Event × SendAnswer) : List Action :=
  p.1.prepare.2.map .logged ++ .sent p.1.prepare.1 p.2 ::
    (p.1.undelivered? p.2).toList.map (.logged ·.record)

@[simp] theorem failures_append (x y : Exchange) :
    failures (x ++ y) = x.failures ++ y.failures := List.filterMap_append

theorem failures_cons (p : Event × SendAnswer) (x : Exchange) :
    failures (p :: x) = (p.1.undelivered? p.2).toList ++ x.failures := by
  cases h : p.1.undelivered? p.2 <;> simp [failures, h]

theorem allTaken_iff {x : Exchange} : x.allTaken = true ↔ ∀ p ∈ x, p.2 = .ok () := by
  have answered (a : SendAnswer) : a.isOk = true ↔ a = .ok () := by
    cases a <;> simp [Except.isOk, Except.toBool]
  simp only [allTaken, List.all_eq_true, answered]

/-- A batch is empty just when every event was taken. -/
theorem failures_eq_nil_iff {x : Exchange} : x.failures = [] ↔ x.allTaken = true := by
  have taken (p : Event × SendAnswer) : p.1.undelivered? p.2 = none ↔ p.2 = .ok () := by
    obtain ⟨e, _ | _⟩ := p <;> simp [Event.undelivered?]
  simp only [failures, List.filterMap_eq_nil_iff, taken, allTaken_iff]

/-- If the sink took every event, it saw all of them, prepared, and found no fault. -/
theorem prepared_of_allTaken {x : Exchange} (h : x.allTaken = true) :
    x.prepared = x.events.map fun e => (e.prepare.1, .ok ()) := by
  simp only [prepared, events, List.map_map]
  refine List.map_congr_left fun p hp => ?_
  simp [allTaken_iff.1 h p hp]

theorem fst_prepared (x : Exchange) : x.prepared.map Prod.fst = x.events.map (·.prepare.1) := by
  simp [prepared, events]

@[simp] theorem answers_prepared (x : Exchange) : x.prepared.answers = x.answers := by
  simp [prepared, answers]

end Exchange

namespace Sink

variable {σ : Type}

/-- What a sink answers to the events of a message, which reach it as they were prepared. -/
def exchange (sink : Sink σ) : σ → List Event → Exchange
  | _, [] => []
  | state, e :: rest =>
    (e, (sink state e.prepare.1).1) :: exchange sink (sink state e.prepare.1).2 rest

/-- The state of a sink after it was sent some events. -/
def after (sink : Sink σ) (state : σ) (sent : List Event) : σ :=
  sent.foldl (fun state e => (sink state e).2) state

/-- A sink that gives prepared answers, one after the other. -/
def replay : Sink (List SendAnswer)
  | [], _ => (.ok (), [])
  | answer :: rest, _ => (answer, rest)

@[simp] theorem events_exchange (sink : Sink σ) (state : σ) (events : List Event) :
    (exchange sink state events).events = events := by
  induction events generalizing state with
  | nil => rfl
  | cons e rest ih => simpa [exchange, Exchange.events] using ih (sink state e.prepare.1).2

theorem after_append (sink : Sink σ) (state : σ) (first rest : List Event) :
    after sink state (first ++ rest) = after sink (after sink state first) rest :=
  List.foldl_append

/-- Any exchange is that of a sink which gives its answers. -/
theorem exchange_replay (x : Exchange) : exchange replay x.answers x.events = x := by
  induction x with
  | nil => rfl
  | cons p rest ih =>
    simpa [exchange, replay, Exchange.answers, Exchange.events] using ih

end Sink

variable {σ : Type}

/-- The batch, the actions and the state of a dispatch are those of its exchange. -/
theorem dispatch_eq (sink : Sink σ) (state : σ) (events : List Event) :
    dispatch sink state events =
      { batch := (Sink.exchange sink state events).failures
        actions := (Sink.exchange sink state events).flatMap Exchange.actionsOf
        state := Sink.after sink state (events.map (·.prepare.1)) } := by
  induction events generalizing state with
  | nil => rfl
  | cons e rest ih =>
    simp [dispatch, ih, Sink.exchange, Sink.after, Exchange.failures_cons, Exchange.actionsOf]

end BusRelay
