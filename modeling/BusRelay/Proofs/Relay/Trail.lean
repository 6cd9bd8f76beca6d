import BusRelay.Proofs.Handling.Settlement
import BusRelay.Relay.Handler
/-!
# The trail of a handler

What a handler has done when it stands at a given work: `Trail` lists it, record by record and call by
call. A handler that goes on, or is aborted, stays on its trail. From the trail follow when the broker
is called, what is reported, and that a handler which reports has done what handling alone does
(`Trail.handle_eq`).
-/

namespace BusRelay.Relay

/-! ## Deeds -/

namespace Deed

def action? : Deed → Option Action
  | acted action => some action
  | _ => none

/-- What the sink was sent, with its answer. -/
def exchanged? : Deed → Option (Event × SendAnswer)
  | acted action => action.exchanged?
  | _ => none

def ending? : Deed → Option Ending
  | ended how => some how
  | _ => none

/-- Whether a deed is a record or has to do with the sink. -/
def isPlain : Deed → Bool
  | acted (.completed ..) | completing | ended _ => false
  | _ => true

end Deed

/-- How a handler has ended, if it has. -/
def Work.ending? : Work → Option Ending
  | ended how => some how
  | _ => none

/-- What an end tells the observer. -/
def Ending.result? : Ending → Option HandlingResult
  | reported result => some result
  | crashed | aborted => none

/-- An end that tells the observer nothing. -/
def Ending.isCut (how : Ending) : Bool := how.result?.isNone

def actionsOf (deeds : List Deed) : List Action := deeds.filterMap Deed.action?

def exchangedOf (deeds : List Deed) : Exchange := deeds.filterMap Deed.exchanged?

def endingsOf (deeds : List Deed) : List Ending := deeds.filterMap Deed.ending?

@[simp] theorem actionsOf_nil : actionsOf [] = [] := rfl

@[simp] theorem exchangedOf_nil : exchangedOf [] = [] := rfl

@[simp] theorem actionsOf_append (a b : List Deed) : actionsOf (a ++ b) = actionsOf a ++ actionsOf b :=
  List.filterMap_append

@[simp] theorem exchangedOf_append (a b : List Deed) :
    exchangedOf (a ++ b) = exchangedOf a ++ exchangedOf b := List.filterMap_append

@[simp] theorem endingsOf_append (a b : List Deed) : endingsOf (a ++ b) = endingsOf a ++ endingsOf b :=
  List.filterMap_append

theorem mem_endingsOf {deeds : List Deed} {how : Ending} : how ∈ endingsOf deeds ↔ .ended how ∈ deeds := by
  constructor
  · intro mem
    obtain ⟨deed, mem, ends⟩ := List.mem_filterMap.1 mem
    cases deed <;> cases ends
    exact mem
  · exact fun mem => List.mem_filterMap.2 ⟨_, mem, rfl⟩

theorem actionsOf_cons (d : Deed) (rest : List Deed) :
    actionsOf (d :: rest) = d.action?.toList ++ actionsOf rest := by
  cases h : d.action? <;> simp [actionsOf, h]

theorem exchangedOf_cons (d : Deed) (rest : List Deed) :
    exchangedOf (d :: rest) = d.exchanged?.toList ++ exchangedOf rest := by
  cases h : d.exchanged? <;> simp [exchangedOf, h]

section

variable (id : MessageId)

/-- What is done for an event until the sink is called. -/
def callDeeds (e : Event) : List Deed := recordDeeds id e.prepare.2 ++ [.called e.prepare.1]

/-- What is done for an event when the sink has answered. -/
def answerDeeds (p : Event × SendAnswer) : List Deed :=
  .acted (.sent p.1.prepare.1 p.2) ::
    recordDeeds id ((p.1.undelivered? p.2).toList.map Undelivered.record)

/-- What is done for events and their answers. -/
def exchangeDeeds (x : Exchange) : List Deed := x.flatMap fun p => callDeeds id p.1 ++ answerDeeds id p

end

namespace Handout

/-- What is done before the first event. -/
def opening (h : Handout) (events : Nat) : List Deed :=
  recordDeeds h.id [HandlingRecord.processing h.delivery.message] ++
    recordDeeds h.id [HandlingRecord.dispatching events]

/-- What is done until the message is settled. -/
def dispatched (h : Handout) (x : Exchange) : List Deed :=
  h.opening x.length ++ exchangeDeeds h.id x ++
    recordDeeds h.id [HandlingRecord.finalizing x.failures.length]

end Handout

/-- What the handler of a handout has done when it stands at a work. -/
inductive Trail (processor : Processor) (h : Handout) : Work → List Deed → Prop where
  | queued : Trail processor h .queued []
  | refused {fault : ProcessingFault} (no : processor h.delivery.message = .error fault) :
      Trail processor h (.ended (.reported (.error (.processing fault))))
        (recordDeeds h.id [HandlingRecord.processing h.delivery.message] ++
          [.ended (.reported (.error (.processing fault)))])
  | sending {x : Exchange} {event : Event} {rest : List Event}
      (yes : processor h.delivery.message = .ok (x.events ++ event :: rest)) (due : Option Nat)
      (answer : Option SendAnswer) :
      Trail processor h (.sending event rest x.failures due answer)
        (h.opening (x.length + rest.length + 1) ++ exchangeDeeds h.id x ++ callDeeds h.id event)
  | undelivered {x : Exchange} (yes : processor h.delivery.message = .ok x.events)
      (some : x.allTaken = false) :
      Trail processor h (.ended (.reported (.error (.undelivered x.failures))))
        (h.dispatched x ++ recordDeeds h.id [unsettledRecord h.id x.failures.length] ++
          [.ended (.reported (.error (.undelivered x.failures)))])
  | completing {x : Exchange} (yes : processor h.delivery.message = .ok x.events)
      (all : x.allTaken = true) (due : Option Nat) :
      Trail processor h (.completing due) (h.dispatched x ++ [.completing])
  | completed {x : Exchange} (yes : processor h.delivery.message = .ok x.events)
      (all : x.allTaken = true) :
      Trail processor h (.ended (.reported (completionResult h.id h.delivery.completion)))
        (h.dispatched x ++ .completing :: .acted (.completed h.id h.delivery.completion) ::
          recordDeeds h.id (completionRecords h.id h.delivery.completion) ++
            [.ended (.reported (completionResult h.id h.delivery.completion))])
  | cut {work : Work} {deeds : List Deed} {how : Ending} (trail : Trail processor h work deeds)
      (live : work.isEnded = false) (cut : how.isCut = true) :
      Trail processor h (.ended how) (deeds ++ [.ended how])

/-! ## Staying on the trail -/

section

variable {σ : Type} {processor : Processor} {h : Handout} (sink : TimedSink σ) (now : Nat) (state : σ)

/-- After the exchange so far, the next event is sent or the message is settled. -/
theorem Trail.next (x : Exchange) (pending : List Event) (before deeds : List Deed)
    (yes : processor h.delivery.message = .ok (x.events ++ pending))
    (done : before ++ deeds = h.opening (x.length + pending.length) ++ exchangeDeeds h.id x) :
    Trail processor h (Relay.next sink now h state x.failures deeds pending).work
      (before ++ (Relay.next sink now h state x.failures deeds pending).deeds) := by
  cases pending with
  | cons event rest =>
    have trail := Trail.sending yes (dueAfter now (sink state event.prepare.1).1.delay)
      (sink state event.prepare.1).1.answer
    have same : before ++ (deeds ++ recordDeeds h.id event.prepare.2 ++ [.called event.prepare.1]) =
        h.opening (x.length + rest.length + 1) ++ exchangeDeeds h.id x ++ callDeeds h.id event := by
      rw [← List.append_assoc, ← List.append_assoc, done, callDeeds, List.append_assoc]
      rfl
    rw [← same] at trail
    exact trail
  | nil =>
    rw [List.append_nil] at yes
    have settled : before ++ (deeds ++ recordDeeds h.id [HandlingRecord.finalizing x.failures.length]) =
        h.dispatched x := by
      rw [← List.append_assoc, done]
      rfl
    cases all : x.allTaken with
    | true =>
      have trail := Trail.completing yes all (dueAfter now h.delay)
      have none : x.failures.isEmpty = true := List.isEmpty_iff.2 (Exchange.failures_eq_nil_iff.2 all)
      rw [← settled, List.append_assoc] at trail
      simpa [Relay.next, none] using trail
    | false =>
      have trail := Trail.undelivered yes all
      have some : x.failures.isEmpty = false := by
        cases none : x.failures.isEmpty with
        | false => rfl
        | true => simp [Exchange.failures_eq_nil_iff.1 (List.isEmpty_iff.1 none)] at all
      rw [← settled, List.append_assoc] at trail
      simpa [Relay.next, some, report] using trail

/-- A handler that goes on stays on its trail. -/
theorem Trail.proceed {work : Work} {deeds : List Deed} (trail : Trail processor h work deeds)
    (live : work.isEnded = false) :
    Trail processor h (Relay.proceed processor sink now h state work).work
      (deeds ++ (Relay.proceed processor sink now h state work).deeds) := by
  cases trail with
  | queued =>
    cases verdict : processor h.delivery.message with
    | error fault =>
      have trail := Trail.refused verdict
      simpa [Relay.proceed, verdict, report] using trail
    | ok events =>
      have trail := Trail.next sink now state [] events [] (h.opening events.length) verdict
        (by simp [exchangeDeeds])
      simpa [Relay.proceed, verdict, Handout.opening] using! trail
  | @sending x event rest yes due answer =>
    cases answer with
    | none =>
      exact .cut (.sending yes due none) live rfl
    | some answer =>
      have events : (x ++ [(event, answer)]).events ++ rest = x.events ++ event :: rest := by
        simp [Exchange.events]
      have failures : Exchange.failures (x ++ [(event, answer)]) =
          x.failures ++ (event.undelivered? answer).toList := by
        rw [Exchange.failures_append, Exchange.failures_cons]
        simp [Exchange.failures]
      have trail := Trail.next sink now state (x ++ [(event, answer)]) rest
        (h.opening (x.length + rest.length + 1) ++ exchangeDeeds h.id x ++ callDeeds h.id event)
        (answerDeeds h.id (event, answer)) (by rw [events]; exact yes)
        (by simp [exchangeDeeds, Nat.add_right_comm])
      rw [failures] at trail
      exact trail
  | completing yes all due =>
    cases crashes : h.crashes with
    | true =>
      have trail : Trail processor h (.ended .crashed) _ := .cut (.completing yes all due) live rfl
      simpa [Relay.proceed, crashes, crash] using! trail
    | false => simpa [Relay.proceed, crashes, report] using! Trail.completed yes all
  | refused | undelivered | completed | cut => cases live

end

/-- A handler that is aborted, or crashes, leaves its trail as it is. -/
theorem Trail.abort {processor : Processor} {h : Handout} {work : Work} {deeds : List Deed}
    (trail : Trail processor h work deeds) (live : work.isEnded = false) :
    Trail processor h (.ended .aborted) (deeds ++ [.ended .aborted]) := .cut trail live rfl

/-! ## Reading a trail -/

section

variable (id : MessageId) (records : List Log.Record) (x : Exchange)

theorem plain_recordDeeds : ∀ d ∈ recordDeeds id records, d.isPlain = true := by
  simp [recordDeeds, Deed.isPlain]

/-- Where every deed is plain, nothing else is done. -/
theorem not_mem_of_plain {deeds : List Deed} (plain : ∀ d ∈ deeds, d.isPlain = true) {d : Deed}
    (special : d.isPlain = false) : d ∉ deeds :=
  fun mem => Bool.false_ne_true (special.symm.trans (plain d mem))

theorem plain_exchangeDeeds : ∀ d ∈ exchangeDeeds id x, d.isPlain = true := by
  intro d mem
  obtain ⟨p, -, mem⟩ := List.mem_flatMap.1 mem
  simp only [callDeeds, answerDeeds, List.mem_append, List.mem_cons, List.not_mem_nil, or_false] at mem
  rcases mem with (recorded | rfl) | rfl | recorded
  · exact plain_recordDeeds id _ d recorded
  · rfl
  · rfl
  · exact plain_recordDeeds id _ d recorded

@[simp] theorem exchangedOf_recordDeeds : exchangedOf (recordDeeds id records) = [] := by
  simp [exchangedOf, recordDeeds, Deed.exchanged?, Action.exchanged?]

@[simp] theorem exchangedOf_exchangeDeeds : exchangedOf (exchangeDeeds id x) = x.prepared := by
  induction x with
  | nil => rfl
  | cons p rest ih =>
    have first : exchangedOf (callDeeds id p.1 ++ answerDeeds id p) = [(p.1.prepare.1, p.2)] := by
      simp [callDeeds, answerDeeds, exchangedOf_cons, Deed.exchanged?, Action.exchanged?]
    rw [exchangeDeeds, List.flatMap_cons, exchangedOf_append, first, ← exchangeDeeds, ih]
    rfl

@[simp] theorem actionsOf_recordDeeds :
    actionsOf (recordDeeds id records) =
      (records.map Action.logged).map (.within (HandlingRecord.span id)) := by
  simp [actionsOf, recordDeeds, Deed.action?, Action.within, Function.comp_def]

@[simp] theorem actionsOf_exchangeDeeds :
    actionsOf (exchangeDeeds id x) =
      (x.flatMap Exchange.actionsOf).map (.within (HandlingRecord.span id)) := by
  induction x with
  | nil => rfl
  | cons p rest ih =>
    have first : actionsOf (callDeeds id p.1 ++ answerDeeds id p) =
        (Exchange.actionsOf p).map (.within (HandlingRecord.span id)) := by
      simp [callDeeds, answerDeeds, actionsOf_cons, Deed.action?, Exchange.actionsOf, Action.within]
    rw [exchangeDeeds, List.flatMap_cons, actionsOf_append, first, ← exchangeDeeds, ih,
      List.flatMap_cons, List.map_append]

end

section

variable {processor : Processor} {h : Handout} {work : Work} {deeds : List Deed}

theorem plain_dispatched (h : Handout) (x : Exchange) : ∀ d ∈ h.dispatched x, d.isPlain = true := by
  intro d mem
  simp only [Handout.dispatched, Handout.opening, List.mem_append] at mem
  rcases mem with ((recorded | recorded) | exchanged) | recorded
  · exact plain_recordDeeds h.id _ d recorded
  · exact plain_recordDeeds h.id _ d recorded
  · exact plain_exchangeDeeds h.id x d exchanged
  · exact plain_recordDeeds h.id _ d recorded

theorem exchangedOf_dispatched (h : Handout) (x : Exchange) : exchangedOf (h.dispatched x) = x.prepared := by
  simp [Handout.dispatched, Handout.opening]

/-- A live handler has not ended, and the broker has not answered. -/
theorem Trail.plain_of_live (trail : Trail processor h work deeds) (live : work.isEnded = false) :
    ∀ d ∈ deeds, d.isPlain = true ∨ d = .completing := by
  cases trail with
  | queued => simp
  | @sending x event rest yes due answer =>
    intro d mem
    simp only [Handout.opening, callDeeds, List.mem_append, List.mem_singleton] at mem
    left
    rcases mem with ((recorded | recorded) | exchanged) | recorded | rfl
    · exact plain_recordDeeds h.id _ d recorded
    · exact plain_recordDeeds h.id _ d recorded
    · exact plain_exchangeDeeds h.id x d exchanged
    · exact plain_recordDeeds h.id _ d recorded
    · rfl
  | @completing x yes all due =>
    intro d mem
    rcases List.mem_append.1 mem with dispatched | called
    · exact .inl (plain_dispatched h x d dispatched)
    · exact .inr (List.mem_singleton.1 called)
  | refused | undelivered | completed | cut => cases live

theorem endingsOf_of_open (still : ∀ d ∈ deeds, d.isPlain = true ∨ d = .completing) :
    endingsOf deeds = [] := by
  refine List.filterMap_eq_nil_iff.2 fun d mem => ?_
  rcases still d mem with plain | rfl
  · cases d <;> first | rfl | cases plain
  · rfl

/-- The broker is not called, or it is called once, after the sink has taken every event. -/
theorem Trail.completing_cases (trail : Trail processor h work deeds) :
    .completing ∉ deeds ∨ ∃ x rest, processor h.delivery.message = .ok (Exchange.events x) ∧
      x.allTaken = true ∧ deeds = h.dispatched x ++ .completing :: rest ∧ .completing ∉ rest := by
  have recorded (records : List Log.Record) : Deed.completing ∉ recordDeeds h.id records :=
    not_mem_of_plain (plain_recordDeeds h.id records) rfl
  have dispatched (x : Exchange) : Deed.completing ∉ h.dispatched x :=
    not_mem_of_plain (plain_dispatched h x) rfl
  induction trail with
  | queued => exact .inl (by simp)
  | refused no => exact .inl (by simp [recorded])
  | @sending x event rest yes due answer =>
    have exchanged : Deed.completing ∉ exchangeDeeds h.id x :=
      not_mem_of_plain (plain_exchangeDeeds h.id x) rfl
    exact .inl (by simp [Handout.opening, callDeeds, recorded, exchanged])
  | undelivered yes some => exact .inl (by simp [dispatched, recorded])
  | completing yes all due => exact .inr ⟨_, [], yes, all, rfl, by simp⟩
  | @completed x yes all => exact .inr ⟨x, _, yes, all, List.append_assoc .., by simp [recorded]⟩
  | cut trail live cut ih =>
    rcases ih with none | ⟨x, rest, yes, all, rfl, none⟩
    · exact .inl (by simp [none])
    · exact .inr ⟨x, rest ++ [.ended _], yes, all, List.append_assoc .., by simp [none]⟩

theorem completionResult_injective (id : MessageId) {a b : CompletionAnswer}
    (same : completionResult id a = completionResult id b) : a = b := by
  cases a <;> cases b <;> simp_all [completionResult]

/-- The broker has answered just when the handler has reported so. -/
theorem Trail.completed_iff (trail : Trail processor h work deeds) {id : MessageId}
    {answer : CompletionAnswer} : .acted (.completed id answer) ∈ deeds ↔
      id = h.id ∧ work = .ended (.reported (completionResult h.id answer)) := by
  have recorded (records : List Log.Record) : .acted (.completed id answer) ∉ recordDeeds h.id records :=
    not_mem_of_plain (plain_recordDeeds h.id records) rfl
  have dispatched (x : Exchange) : .acted (.completed id answer) ∉ h.dispatched x :=
    not_mem_of_plain (plain_dispatched h x) rfl
  have unanswered {work : Work} {deeds : List Deed} (trail : Trail processor h work deeds)
      (live : work.isEnded = false) : .acted (.completed id answer) ∉ deeds := by
    intro mem
    rcases trail.plain_of_live live _ mem with plain | same
    · cases plain
    · cases same
  cases trail with
  | queued => simp
  | sending yes due answer' => simpa using unanswered (.sending yes due answer') rfl
  | completing yes all due => simpa using unanswered (.completing yes all due) rfl
  | refused no =>
    refine iff_of_false (by simp [recorded]) ?_
    rintro ⟨-, same⟩
    cases answer <;> cases same
  | undelivered yes some =>
    refine iff_of_false (by simp [dispatched, recorded]) ?_
    rintro ⟨-, same⟩
    cases answer <;> cases same
  | completed yes all =>
    constructor
    · intro mem
      have same : id = h.id ∧ answer = h.delivery.completion := by
        simpa [dispatched, recorded] using mem
      exact ⟨same.1, by rw [same.2]⟩
    · rintro ⟨rfl, same⟩
      have same := completionResult_injective h.id (Ending.reported.inj (Work.ended.inj same))
      simp [same]
  | @cut _ deeds how trail live cut =>
    refine iff_of_false (by simp [unanswered trail live]) ?_
    rintro ⟨-, same⟩
    rw [Work.ended.inj same] at cut
    cases cut

/-- A handler ends once, in the way that its work tells. -/
theorem Trail.endings (trail : Trail processor h work deeds) : endingsOf deeds = work.ending?.toList := by
  have plain (x : Exchange) : endingsOf (h.dispatched x) = [] :=
    endingsOf_of_open fun d mem => .inl (plain_dispatched h x d mem)
  have recorded (records : List Log.Record) : endingsOf (recordDeeds h.id records) = [] :=
    endingsOf_of_open fun d mem => .inl (plain_recordDeeds h.id records d mem)
  cases trail with
  | queued => rfl
  | sending yes due answer => exact endingsOf_of_open (Trail.sending yes due answer |>.plain_of_live rfl)
  | completing yes all due => exact endingsOf_of_open (Trail.completing yes all due |>.plain_of_live rfl)
  | refused no =>
    rw [endingsOf_append, recorded]
    rfl
  | undelivered yes some =>
    rw [endingsOf_append, endingsOf_append, plain, recorded]
    rfl
  | completed yes all =>
    rw [endingsOf_append, endingsOf_append, plain]
    change [] ++ endingsOf (recordDeeds h.id _) ++ _ = _
    rw [recorded]
    rfl
  | cut trail live cut =>
    rw [endingsOf_append, endingsOf_of_open (trail.plain_of_live live)]
    rfl

theorem actionsOf_dispatched (h : Handout) (x : Exchange) :
    actionsOf (h.dispatched x) =
      (Action.logged (HandlingRecord.processing h.delivery.message) ::
        .logged (HandlingRecord.dispatching x.events.length) :: x.flatMap Exchange.actionsOf ++
          [Action.logged (HandlingRecord.finalizing x.failures.length)]).map
        (.within (HandlingRecord.span h.id)) := by
  simp [Handout.dispatched, Handout.opening, Exchange.events]

/-- A handler that settles as it should after an exchange does what handling alone does when the sink
gives the same answers. -/
theorem handle_of_dispatched {x : Exchange} (rest : List Deed)
    (yes : processor h.delivery.message = .ok x.events) (quiet : exchangedOf rest = [])
    (settled : actionsOf rest =
      (settle (some h.delivery) x.failures).actions.map (.within (HandlingRecord.span h.id))) :
    let alone := handle processor Sink.replay (exchangedOf (h.dispatched x ++ rest)).answers
      (some h.delivery)
    alone.result = h.delivery.verdict x ∧ alone.actions = actionsOf (h.dispatched x ++ rest) := by
  have answers : (exchangedOf (h.dispatched x ++ rest)).answers = x.answers := by
    rw [exchangedOf_append, quiet, List.append_nil, exchangedOf_dispatched, Exchange.answers_prepared]
  have verdict := (handle_processed processor Sink.replay x.answers yes).1
  have actions := actions_handle processor Sink.replay x.answers yes
  simp only [Sink.exchange_replay] at verdict actions
  simp only [answers, verdict, actions, actionsOf_append, actionsOf_dispatched, settled]
  simp [Handout.id]

/-- A handler that reports has done what handling alone does when the sink gives the same answers. -/
theorem Trail.handle_eq {result : HandlingResult}
    (trail : Trail processor h (.ended (.reported result)) deeds) :
    let alone := handle processor Sink.replay (exchangedOf deeds).answers (some h.delivery)
    alone.result = result ∧ alone.actions = actionsOf deeds := by
  cases trail with
  | refused no => simp [handle, no, actionsOf_cons, Deed.action?, Handout.id]
  | @undelivered x yes some =>
    have failed : x.failures ≠ [] := fun none => by simp [Exchange.failures_eq_nil_iff.1 none] at some
    have alone := handle_of_dispatched
      (recordDeeds h.id [unsettledRecord h.id x.failures.length] ++
        [.ended (.reported (.error (.undelivered x.failures)))]) yes
      (by simp [exchangedOf_cons, Deed.exchanged?])
      (by simp [actionsOf_cons, Deed.action?, settle, failed, Handout.id])
    rw [Delivery.verdict, some] at alone
    simpa using! alone
  | @completed x yes all =>
    have none : x.failures = [] := Exchange.failures_eq_nil_iff.2 all
    have alone := handle_of_dispatched
      (.completing :: .acted (.completed h.id h.delivery.completion) ::
        recordDeeds h.id (completionRecords h.id h.delivery.completion) ++
          [.ended (.reported (completionResult h.id h.delivery.completion))]) yes
      (by simp [exchangedOf_cons, Deed.exchanged?, Action.exchanged?])
      (by simp [actionsOf_cons, Deed.action?, settle, none, Handout.id, Action.within])
    rw [Delivery.verdict, all] at alone
    simpa using! alone
  | cut trail live cut => cases cut

end

end BusRelay.Relay
