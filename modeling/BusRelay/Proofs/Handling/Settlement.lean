import BusRelay.Proofs.Handling.Exchange
/-!
# Settlement of messages

What the handling of a delivery comes to, in terms of its exchange with the sink: `handle_refused` and
`handle_processed`. From these follows how any number of deliveries are settled by one handler whose
sink remembers what it was sent: a message is completed once, after its last event, and only if the
sink took all of them in this delivery.
-/

namespace BusRelay

namespace Action

/-- Whether an action calls the sink or the broker. -/
def isCall : Action → Bool
  | logged _ => false
  | _ => true

/-- What the sink was sent, with its answer. -/
def exchanged? : Action → Option (Event × SendAnswer)
  | sent event answer => some (event, answer)
  | _ => none

/-- The calls among actions. -/
def calls (actions : List Action) : List Action := actions.filter isCall

@[simp] theorem calls_nil : calls [] = [] := rfl

@[simp] theorem calls_append (a b : List Action) : calls (a ++ b) = calls a ++ calls b :=
  List.filter_append a b

@[simp] theorem calls_logged_cons (r : Log.Record) (rest : List Action) :
    calls (.logged r :: rest) = calls rest := rfl

@[simp] theorem calls_sent_cons (e : Event) (answer : SendAnswer) (rest : List Action) :
    calls (.sent e answer :: rest) = .sent e answer :: calls rest := rfl

@[simp] theorem calls_completed_cons (id : MessageId) (answer : CompletionAnswer)
    (rest : List Action) : calls (.completed id answer :: rest) = .completed id answer :: calls rest := rfl

@[simp] theorem calls_map_logged (rs : List Log.Record) : calls (rs.map .logged) = [] := by
  simp [calls, isCall]

/-- A call does not belong to any part of the work. -/
theorem calls_within (span : Log.Span) (actions : List Action) :
    calls (actions.map (.within span)) = calls actions := by
  induction actions with
  | nil => rfl
  | cons a rest ih => cases a <;> simp [within, ih]

/-- The only calls of a dispatch are those of the sink, one for every event. -/
theorem calls_exchange (x : Exchange) : calls (x.flatMap Exchange.actionsOf) = x.sends := by
  induction x with
  | nil => rfl
  | cons p rest ih =>
    have quiet (us : List Undelivered) : calls (us.map (.logged ·.record)) = [] := by
      simp [calls, isCall]
    simp [Exchange.actionsOf, ih, quiet, Exchange.sends, Exchange.prepared]

end Action

namespace Delivery

/-- How a message ends whose events led to this exchange. -/
def verdict (d : Delivery) (x : Exchange) : HandlingResult :=
  if x.allTaken then completionResult d.message.id d.completion else .error (.undelivered x.failures)

/-- The call that takes a message off its entity, if there is one. -/
def completions (d : Delivery) (x : Exchange) : List Action :=
  if x.allTaken then [.completed d.message.id d.completion] else []

/-- How a message is settled after an exchange. -/
theorem settle_eq (d : Delivery) (x : Exchange) :
    (settle (some d) x.failures).result = d.verdict x ∧
      Action.calls (settle (some d) x.failures).actions = d.completions x := by
  cases h : x.allTaken with
  | true =>
    have none : x.failures = [] := Exchange.failures_eq_nil_iff.2 h
    simp [settle, none, verdict, completions, h]
  | false =>
    have some : x.failures ≠ [] := fun none => by simp [Exchange.failures_eq_nil_iff.1 none] at h
    simp [settle, some, verdict, completions, h]

end Delivery

namespace Handled

variable {σ : Type}

/-- The calls of the sink and of the broker. -/
def calls (h : Handled σ) : List Action := Action.calls h.actions

/-- What the sink was sent, with its answers. -/
def exchanged (h : Handled σ) : Exchange := h.calls.filterMap Action.exchanged?

/-- What the sink was sent. -/
def sent (h : Handled σ) : List Event := h.exchanged.events

end Handled

section

variable {σ : Type} (processor : Processor) (sink : Sink σ)

/-- A message that is refused is not sent to anyone. -/
theorem handle_refused (state : σ) {d : Delivery} {fault : ProcessingFault}
    (no : processor d.message = .error fault) :
    (handle processor sink state (some d)).result = .error (.processing fault) ∧
      (handle processor sink state (some d)).calls = [] ∧
      (handle processor sink state (some d)).state = state := by
  simp [handle, no, Handled.calls, Action.within]

/-- A message with events is settled by its exchange with the sink. -/
theorem handle_processed (state : σ) {d : Delivery} {events : List Event}
    (yes : processor d.message = .ok events) :
    let x := Sink.exchange sink state events
    (handle processor sink state (some d)).result = d.verdict x ∧
      (handle processor sink state (some d)).calls = x.sends ++ d.completions x ∧
      (handle processor sink state (some d)).state =
        Sink.after sink state (events.map (·.prepare.1)) := by
  intro x
  obtain ⟨result, completions⟩ := d.settle_eq x
  simp only [handle, yes, dispatch_eq, Handled.calls, Action.calls_within]
  exact ⟨result, by simp [Action.calls_exchange, completions, x], trivial⟩

/-- All that is done for a message with events, records included. -/
theorem actions_handle (state : σ) {d : Delivery} {events : List Event}
    (yes : processor d.message = .ok events) :
    let x := Sink.exchange sink state events
    (handle processor sink state (some d)).actions =
      (.logged (HandlingRecord.processing d.message) ::
        .logged (HandlingRecord.dispatching events.length) :: x.flatMap Exchange.actionsOf ++
          .logged (HandlingRecord.finalizing x.failures.length) ::
            (settle (some d) x.failures).actions).map (.within (HandlingRecord.span d.message.id)) := by
  simp only [handle, yes, dispatch_eq]
  rfl

/-- The sink saw the prepared events, and nothing else. -/
theorem exchanged_handle (state : σ) {d : Delivery} {events : List Event}
    (yes : processor d.message = .ok events) :
    (handle processor sink state (some d)).exchanged =
      (Sink.exchange sink state events).prepared := by
  have none (x : Exchange) : (d.completions x).filterMap Action.exchanged? = [] := by
    unfold Delivery.completions
    split <;> rfl
  rw [Handled.exchanged, (handle_processed processor sink state yes).2.1, List.filterMap_append, none]
  simp [Exchange.sends, List.filterMap_map, Function.comp_def, Action.exchanged?]

/-- How the handling of a delivery has to go when the sink was in the state `before`. -/
def Settles (before : σ) (h : Handled σ) : Option Delivery → Prop
  | none => h.result = .ok () ∧ h.calls = []
  | some d => match processor d.message with
    | .error fault => h.result = .error (.processing fault) ∧ h.calls = []
    | .ok events =>
      let x := Sink.exchange sink before events
      -- Every event is sent once, in order; then the message is completed once if all were taken.
      h.calls = x.sends ++ (if x.allTaken then [.completed d.message.id d.completion] else []) ∧
      (h.result = .ok () ↔ .completed d.message.id (.ok ()) ∈ h.calls) ∧
      (∀ batch, h.result = .error (.undelivered batch) ↔ x.allTaken = false ∧ batch = x.failures) ∧
      (∀ id fault, h.result = .error (.unacknowledged id fault) ↔
        id = d.message.id ∧ .completed id (.error fault) ∈ h.calls)

/-- Handles deliveries one after the other with the same sink. -/
def handleAll : σ → List (Option Delivery) → List (Handled σ)
  | _, [] => []
  | state, d :: rest =>
    handle processor sink state d :: handleAll (handle processor sink state d).state rest

/-- The sink remembers just what it was sent. -/
theorem state_handle (state : σ) (d : Option Delivery) :
    (handle processor sink state d).state =
      Sink.after sink state (handle processor sink state d).sent := by
  cases d with
  | none => rfl
  | some d =>
    cases verdict : processor d.message with
    | error fault =>
      obtain ⟨-, calls, same⟩ := handle_refused processor sink state verdict
      rw [same, Handled.sent, Handled.exchanged, calls]
      rfl
    | ok events =>
      rw [(handle_processed processor sink state verdict).2.2, Handled.sent,
        exchanged_handle processor sink state verdict, Exchange.events, Exchange.fst_prepared,
        Sink.events_exchange]

end

end BusRelay
