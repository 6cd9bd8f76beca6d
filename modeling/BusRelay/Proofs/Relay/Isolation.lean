import BusRelay.Proofs.Relay.Completion
import BusRelay.Proofs.Relay.Conduct
/-!
# Handlers do not meddle with each other

If the sink answers to an event whatever it was sent before, then every handler that reports has done
what handling its delivery alone does, and every handler has sent a prefix of what this sends, however
handlers and loop take turns (`handled_as_alone`). What is kept of a handler is that the sink has
answered to it as it answers to the event alone (`Honest`); its trail does the rest.
-/

namespace BusRelay

/-- A sink whose answer to an event does not depend on anything else. -/
def Sink.fixed (answer : Event → SendAnswer) : Sink Unit := fun _ e => (answer e, ())

/-- An exchange in which every event got its answer is the one with the sink that gives these. -/
theorem Sink.exchange_fixed (answer : Event → SendAnswer) {x : Exchange}
    (honest : ∀ p ∈ x.prepared, p.2 = answer p.1) : Sink.exchange (Sink.fixed answer) () x.events = x := by
  induction x with
  | nil => rfl
  | cons p rest ih =>
    have rest := ih fun p mem => honest p (List.mem_cons_of_mem _ mem)
    have first : p.2 = answer p.1.prepare.1 := honest _ List.mem_cons_self
    simp only [Exchange.events, List.map_cons, Sink.exchange, Sink.fixed, ← first] at rest ⊢
    rw [rest]

/-- The events that the sink is called with when a delivery is handled, if nothing comes in between. -/
def Delivery.outgoing (processor : Processor) (d : Delivery) : List Event :=
  match processor d.message with
  | .ok events => events.map (·.prepare.1)
  | .error _ => []

section

variable {σ τ : Type} (processor : Processor) (sink : Sink σ) (state : σ)

theorem sent_handle (d : Delivery) :
    (handle processor sink state (some d)).sent = d.outgoing processor := by
  cases verdict : processor d.message with
  | error fault =>
    simp [Handled.sent, Handled.exchanged, (handle_refused processor sink state verdict).2.1,
      Delivery.outgoing, verdict, Exchange.events]
  | ok events =>
    rw [Handled.sent, exchanged_handle processor sink state verdict, Exchange.events,
      Exchange.fst_prepared, Sink.events_exchange]
    simp [Delivery.outgoing, verdict]

/-- What handling a delivery comes to depends on nothing but its exchange with the sink. -/
theorem handle_congr (d : Delivery) (other : Sink τ) (state' : τ)
    (same : ∀ events, processor d.message = .ok events →
      Sink.exchange sink state events = Sink.exchange other state' events) :
    (handle processor sink state (some d)).result = (handle processor other state' (some d)).result ∧
      (handle processor sink state (some d)).actions = (handle processor other state' (some d)).actions := by
  cases verdict : processor d.message with
  | error fault => simp [handle, verdict]
  | ok events =>
    constructor
    · rw [(handle_processed processor sink state verdict).1,
        (handle_processed processor other state' verdict).1, same events verdict]
    · rw [actions_handle processor sink state verdict, actions_handle processor other state' verdict,
        same events verdict]

end

namespace Relay

variable {σ : Type}

/-! ## What the sink has answered -/

/-- What the sink is about to answer, and to which event. -/
def Work.pending? : Work → Option (Event × SendAnswer)
  | sending event _ _ _ (some answer) => some (event.prepare.1, answer)
  | _ => none

section

variable (sink : TimedSink σ) (now : Nat) (h : Handout) (state : σ)

theorem exchangedOf_next (batch : List Undelivered) (deeds : List Deed) (events : List Event) :
    exchangedOf (next sink now h state batch deeds events).deeds = exchangedOf deeds := by
  cases events with
  | cons event rest => simp [next, exchangedOf_cons, Deed.exchanged?]
  | nil =>
    simp only [next]
    split <;> simp [report, exchangedOf_cons, Deed.exchanged?]

/-- A handler that goes on gets the answer that was pending, and no other. -/
theorem exchangedOf_proceed (processor : Processor) (work : Work) :
    exchangedOf (proceed processor sink now h state work).deeds = work.pending?.toList := by
  cases work with
  | queued =>
    cases verdict : processor h.delivery.message with
    | error fault => simp [proceed, verdict, report, exchangedOf_cons, Deed.exchanged?, Work.pending?]
    | ok events => simp [proceed, verdict, exchangedOf_next, Work.pending?]
  | sending event rest batch due answer =>
    cases answer with
    | none => rfl
    | some answer =>
      simp [proceed, exchangedOf_next, exchangedOf_cons, Deed.exchanged?, Action.exchanged?, Work.pending?]
  | completing due =>
    simp only [proceed]
    split
    · rfl
    · simp [report, exchangedOf_cons, Deed.exchanged?, Action.exchanged?, Work.pending?]
  | ended how => rfl

variable {answer : Event → SendAnswer}
  (fixed : ∀ state e given, (sink state e).1.answer = some given → given = answer e)

include fixed

theorem pending_next (batch : List Undelivered) (deeds : List Deed) (events : List Event) :
    ∀ p ∈ (next sink now h state batch deeds events).work.pending?, p.2 = answer p.1 := by
  intro p pending
  cases events with
  | cons event rest =>
    simp only [next] at pending
    generalize replied : sink state event.prepare.1 = reply at pending
    cases given : reply.1.answer with
    | none => simp [given, Work.pending?] at pending
    | some answered =>
      simp only [given, Work.pending?, Option.mem_def, Option.some.injEq] at pending
      subst pending
      exact fixed state event.prepare.1 answered (by rw [replied, given])
  | nil =>
    simp only [next] at pending
    split at pending <;> cases pending

theorem pending_proceed (processor : Processor) (work : Work) :
    ∀ p ∈ (proceed processor sink now h state work).work.pending?, p.2 = answer p.1 := by
  intro p pending
  cases work with
  | queued =>
    cases verdict : processor h.delivery.message with
    | error fault => simp [proceed, verdict, report, Work.pending?] at pending
    | ok events =>
      simp only [proceed, verdict] at pending
      exact pending_next sink now h state fixed _ _ events p pending
  | sending event rest batch due answered =>
    cases answered with
    | none => cases pending
    | some answered => exact pending_next sink now h state fixed _ _ rest p pending
  | completing due =>
    simp only [proceed] at pending
    split at pending <;> cases pending
  | ended how => cases pending

end

/-- The sink has answered, and is about to answer, as it does to the event alone. -/
def Honest (answer : Event → SendAnswer) (work : Work) (deeds : List Deed) : Prop :=
  (∀ p ∈ exchangedOf deeds, p.2 = answer p.1) ∧ ∀ p ∈ work.pending?, p.2 = answer p.1

theorem Reachable.honest {w : World σ} {sink : σ} {s : State σ} {answer : Event → SendAnswer}
    (fixed : ∀ state e given, (w.sink state e).1.answer = some given → given = answer e)
    (reach : Reachable w sink s) {i : Nat} {t : Task} (found : s.tasks[i]? = some t) :
    Honest answer t.work (s.deeds i) := by
  refine Reachable.each (P := fun _ work deeds => Honest answer work deeds) ?_ ?_ ?_ reach found
  · exact fun _ => ⟨by simp, by simp [Work.pending?]⟩
  · intro h work deeds now state honest live
    refine ⟨?_, pending_proceed w.sink now h state fixed w.processor work⟩
    intro p mem
    rw [exchangedOf_append, exchangedOf_proceed, List.mem_append, Option.mem_toList] at mem
    exact mem.elim (honest.1 p) (honest.2 p)
  · intro h work deeds honest live
    refine ⟨?_, by simp [Work.pending?]⟩
    simpa [exchangedOf_cons, Deed.exchanged?] using honest.1

/-! ## What a trail sends -/

section

variable {processor : Processor} {h : Handout} {work : Work} {deeds : List Deed} {result : HandlingResult}

/-- However far a handler is, it has sent the events of its message in their order. -/
theorem Trail.calledOf_prefix (trail : Trail processor h work deeds) :
    calledOf deeds <+: h.delivery.outgoing processor := by
  induction trail with
  | queued => exact List.nil_prefix
  | refused no => simp [calledOf_cons, Deed.called?]
  | @sending x event rest yes due answer =>
    have outgoing : h.delivery.outgoing processor =
        x.events.map (·.prepare.1) ++ [event.prepare.1] ++ rest.map (·.prepare.1) := by
      simp [Delivery.outgoing, yes]
    rw [outgoing]
    simp
  | undelivered yes some => simp [Delivery.outgoing, yes, calledOf_cons, Deed.called?]
  | completing yes all due => simp [Delivery.outgoing, yes, calledOf_cons, Deed.called?]
  | completed yes all => simp [Delivery.outgoing, yes, calledOf_cons, Deed.called?]
  | cut trail live cut ih => simpa [calledOf_cons, Deed.called?] using ih

/-- A handler that reports has sent all events of its message. -/
theorem Trail.calledOf_reported (trail : Trail processor h (.ended (.reported result)) deeds) :
    calledOf deeds = h.delivery.outgoing processor := by
  cases trail with
  | refused no => simp [Delivery.outgoing, no, calledOf_cons, Deed.called?]
  | undelivered yes some => simp [Delivery.outgoing, yes, calledOf_cons, Deed.called?]
  | completed yes all => simp [Delivery.outgoing, yes, calledOf_cons, Deed.called?]
  | cut trail live cut => cases cut

/-- A handler that reports has got an answer to each of them. -/
theorem Trail.exchangedOf_reported (trail : Trail processor h (.ended (.reported result)) deeds)
    {events : List Event} (yes : processor h.delivery.message = .ok events) :
    ∃ x, events = Exchange.events x ∧ exchangedOf deeds = x.prepared := by
  cases trail with
  | refused no =>
    rw [yes] at no
    cases no
  | undelivered made some =>
    refine ⟨_, Except.ok.inj (yes.symm.trans made), ?_⟩
    simp [exchangedOf_dispatched, exchangedOf_cons, Deed.exchanged?]
  | completed made all =>
    refine ⟨_, Except.ok.inj (yes.symm.trans made), ?_⟩
    simp [exchangedOf_dispatched, exchangedOf_cons, Deed.exchanged?, Action.exchanged?]
  | cut trail live cut => cases cut

theorem countP_isCompletion_of_plain (plain : ∀ d ∈ deeds, d.isPlain = true) :
    (actionsOf deeds).countP Action.isCompletion = 0 := by
  refine List.countP_eq_zero.2 fun action mem => ?_
  obtain ⟨d, done, acts⟩ := List.mem_filterMap.1 mem
  have plain := plain d done
  cases d <;> cases acts
  cases action <;> simp_all [Deed.isPlain, Action.isCompletion]

/-- A handler that reports has got an answer from the broker whenever it has called it. -/
theorem Trail.completions_reported (trail : Trail processor h (.ended (.reported result)) deeds) :
    deeds.countP Deed.isCompleting = (actionsOf deeds).countP Action.isCompletion := by
  have plain {deeds : List Deed} (plain : ∀ d ∈ deeds, d.isPlain = true) :
      deeds.countP Deed.isCompleting = (actionsOf deeds).countP Action.isCompletion := by
    rw [countP_isCompletion_of_plain plain]
    exact countP_completing (not_mem_of_plain plain rfl)
  have dispatched (x : Exchange) := plain (plain_dispatched h x)
  have recorded (records : List Log.Record) := plain (plain_recordDeeds h.id records)
  cases trail with
  | refused no =>
    rw [List.countP_append, actionsOf_append, List.countP_append, recorded]
    rfl
  | @undelivered x yes some =>
    rw [List.countP_append, actionsOf_append, List.countP_append, List.countP_append, actionsOf_append,
      List.countP_append, dispatched, recorded]
    rfl
  | @completed x yes all =>
    rw [List.append_assoc, List.countP_append, actionsOf_append, List.countP_append, dispatched]
    simp only [List.cons_append, actionsOf_cons, actionsOf_append, List.countP_append, List.countP_cons,
      recorded]
    simp [Deed.action?, Deed.isCompleting, Action.isCompletion, Nat.add_comm]
  | cut trail live cut => cases cut

/-- A handler that reports has done what handling its delivery alone does, if it got the same answers. -/
theorem Trail.handle_fixed (trail : Trail processor h (.ended (.reported result)) deeds)
    {answer : Event → SendAnswer} (honest : ∀ p ∈ exchangedOf deeds, p.2 = answer p.1) :
    let alone := handle processor (Sink.fixed answer) () (some h.delivery)
    result = alone.result ∧ actionsOf deeds = alone.actions := by
  obtain ⟨reported, acted⟩ := trail.handle_eq
  have same := handle_congr processor Sink.replay (exchangedOf deeds).answers h.delivery
    (Sink.fixed answer) () fun events yes => by
      obtain ⟨x, rfl, exchanged⟩ := trail.exchangedOf_reported yes
      rw [exchanged] at honest ⊢
      rw [Exchange.answers_prepared, Sink.exchange_replay, Sink.exchange_fixed answer honest]
  exact ⟨reported.symm.trans same.1, acted.symm.trans same.2⟩

end

/-- **Isolation.** Let the sink answer to an event whatever it was sent before, if it answers at all. Then
in every run, however the loop and the handlers take turns and whenever the relay is cancelled and gives
up on handlers: what is told of a delivery is the result of handling it alone, and its handler has sent
the same events in the same order, has called the broker as often, and has done and recorded the same,
answers included. Any other handler, one that has crashed or was aborted as well, has sent a prefix of
what handling its delivery alone sends. -/
theorem handled_as_alone (w : World σ) (sink : σ) (answer : Event → SendAnswer)
    (fixed : ∀ state e given, (w.sink state e).1.answer = some given → given = answer e)
    (s : State σ) (reach : Reachable w sink s) (i : Nat) (h : Handout) (given : s.received[i]? = some h) :
    let alone := handle w.processor (Sink.fixed answer) () (some h.delivery)
    (∀ id result, (i, id, result) ∈ s.told →
      id = some h.id ∧ result = alone.result ∧ calledOf (s.deeds i) = alone.sent ∧
        (s.deeds i).countP Deed.isCompleting = alone.actions.countP Action.isCompletion ∧
        actionsOf (s.deeds i) = alone.actions) ∧
      calledOf (s.deeds i) <+: alone.sent := by
  obtain ⟨t, found, rfl, trail⟩ := reach.manned.trail given
  intro alone
  have sent : alone.sent = t.handout.delivery.outgoing w.processor := sent_handle ..
  refine ⟨fun id result told => ?_, sent ▸ trail.calledOf_prefix⟩
  obtain ⟨ended, named⟩ := State.mem_told.1 told
  have reported : t.work = .ended (.reported result) := by
    have ends := mem_endingsOf.2 ended
    rw [trail.endings, Option.mem_toList] at ends
    cases work : t.work <;> simp_all [Work.ending?]
  rw [reported] at trail
  obtain ⟨same, acted⟩ := trail.handle_fixed (reach.honest fixed found).1
  refine ⟨by simpa [found] using named, same, trail.calledOf_reported.trans sent.symm, ?_, acted⟩
  rw [trail.completions_reported, acted]

/-- Of three deliveries the first is completed as if it were alone; the handlers of the others, one that
crashes and one that is aborted, have sent what handling these alone sends first. -/
theorem handled_as_alone_three :
    let alone (h : Handout) := handle Sample.world.processor (Sink.fixed fun _ => .ok ()) () (some h.delivery)
    Reachable Sample.world 0 (Sample.last true) ∧
      (0, some Sample.first.id, .ok ()) ∈ (Sample.last true).told ∧
      actionsOf ((Sample.last true).deeds 0) = (alone Sample.first).actions ∧
      .ended .crashed ∈ (Sample.last true).deeds 1 ∧
      calledOf ((Sample.last true).deeds 1) <+: (alone Sample.second).sent ∧
      .ended .aborted ∈ (Sample.last true).deeds 2 ∧
      calledOf ((Sample.last true).deeds 2) <+: (alone Sample.third).sent := by
  intro alone
  have reach := Sample.reachable_last true
  have fixed : ∀ state e given, (Sample.world.sink state e).1.answer = some given → given = .ok () := by
    intro state e given answers
    match state with
    | 0 => exact (Option.some.inj answers).symm
    | 1 | state + 2 => cases answers
  have isolated := handled_as_alone Sample.world 0 (fun _ => .ok ()) fixed (Sample.last true) reach
  have told : (0, some Sample.first.id, .ok ()) ∈ (Sample.last true).told := .head _
  have first := (isolated 0 Sample.first rfl).1 _ _ told
  exact ⟨reach, told, first.2.2.2.2, List.mem_of_getElem? (i := 3) rfl, (isolated 1 Sample.second rfl).2,
    List.mem_of_getElem? (i := 3) rfl, (isolated 2 Sample.third rfl).2⟩

end Relay

end BusRelay
