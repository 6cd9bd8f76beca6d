import BusRelay.Proofs.Relay.Crew
/-!
# The conduct of one handler

What a step of the relay does to one of its handlers: this rests while others go on, or it goes on
itself, or it is aborted (`Step.conduct`). What is kept whenever a handler goes on or is aborted, whatever
state the sink is in, therefore holds of every handler of every run (`Reachable.each`).
-/

namespace BusRelay.Relay

variable {σ : Type}

/-! ## Calls of the sink -/

/-- What the sink is called with. -/
def Deed.called? : Deed → Option Event
  | called event => some event
  | _ => none

/-- The events that the sink was called with, answered or not. -/
def calledOf (deeds : List Deed) : List Event := deeds.filterMap Deed.called?

@[simp] theorem calledOf_nil : calledOf [] = [] := rfl

@[simp] theorem calledOf_append (a b : List Deed) : calledOf (a ++ b) = calledOf a ++ calledOf b :=
  List.filterMap_append

theorem calledOf_cons (d : Deed) (rest : List Deed) :
    calledOf (d :: rest) = d.called?.toList ++ calledOf rest := by
  cases h : d.called? <;> simp [calledOf, h]

@[simp] theorem calledOf_recordDeeds (id : MessageId) (records : List Log.Record) :
    calledOf (recordDeeds id records) = [] := by
  simp [calledOf, recordDeeds, Deed.called?]

@[simp] theorem calledOf_callDeeds (id : MessageId) (e : Event) :
    calledOf (callDeeds id e) = [e.prepare.1] := by
  rw [callDeeds, calledOf_append, calledOf_recordDeeds]
  rfl

@[simp] theorem calledOf_answerDeeds (id : MessageId) (p : Event × SendAnswer) :
    calledOf (answerDeeds id p) = [] :=
  calledOf_recordDeeds id _

@[simp] theorem calledOf_exchangeDeeds (id : MessageId) (x : Exchange) :
    calledOf (exchangeDeeds id x) = x.events.map (·.prepare.1) := by
  induction x with
  | nil => rfl
  | cons p rest ih =>
    rw [exchangeDeeds, List.flatMap_cons, calledOf_append, ← exchangeDeeds, ih]
    simp [Exchange.events]

@[simp] theorem calledOf_opening (h : Handout) (events : Nat) : calledOf (h.opening events) = [] := by
  simp [Handout.opening]

@[simp] theorem calledOf_dispatched (h : Handout) (x : Exchange) :
    calledOf (h.dispatched x) = x.events.map (·.prepare.1) := by
  simp [Handout.dispatched]

/-! ## One step -/

/-- What a step does to a handler, and what this handler does in it. -/
inductive Conduct (w : World σ) (s : State σ) (i : Nat) (t : Task) : Move → Task → List Deed → Prop where
  /-- The loop or another handler goes on. The handler may be joined. -/
  | rests {move : Move} {t' : Task} (idle : move ≠ .proceed i) (handout : t'.handout = t.handout)
      (work : t'.work = t.work) : Conduct w s i t move t' []
  | proceeds (ready : t.work.isReady s.now = true) :
      Conduct w s i t (.proceed i)
        { t with work := (proceed w.processor w.sink s.now t.handout s.sink t.work).work }
        (proceed w.processor w.sink s.now t.handout s.sink t.work).deeds
  | aborted {outcome : Outcome} (aborting : s.phase = .aborting outcome) (live : t.isLive = true) :
      Conduct w s i t (.abort i) { t with work := .ended .aborted } [.ended .aborted]

section

variable {w : World σ} {s s' : State σ} {move : Move} {i : Nat} {t : Task}

/-- The handler has fared in this way, and has done this and nothing else. -/
def Fared (w : World σ) (s : State σ) (i : Nat) (t : Task) (move : Move) (s' : State σ) : Prop :=
  ∃ (t' : Task) (did : List Deed) (hs : List Happening), s'.tasks[i]? = some t' ∧ Conduct w s i t move t' did ∧
    s'.history = s.history ++ hs.map (s.now, ·) ∧ hs.filterMap (Happening.deed? i) = did

/-- Nothing is done to handlers. -/
theorem Fared.still (found : s.tasks[i]? = some t) (tasks : s'.tasks = s.tasks) (hs : List Happening)
    (more : s'.history = s.history ++ hs.map (s.now, ·)) (idle : move ≠ .proceed i)
    (none : ∀ happening ∈ hs, happening.deed? i = none) : Fared w s i t move s' :=
  ⟨t, [], hs, tasks ▸ found, .rests idle rfl rfl, more, List.filterMap_eq_nil_iff.2 none⟩

/-- The handlers that have ended are joined. -/
theorem Fared.join (found : s.tasks[i]? = some t) (tasks : s'.tasks = s.tasks.map Task.join)
    (said : List Happening)
    (more : s'.history = s.history ++ (State.joinings 0 s.tasks ++ said).map (s.now, ·))
    (idle : move ≠ .proceed i) (none : ∀ happening ∈ said, happening.deed? i = none) :
    Fared w s i t move s' := by
  refine ⟨t.join, [], _, ?_, .rests idle rfl rfl, more, List.filterMap_eq_nil_iff.2 ?_⟩
  · rw [tasks, List.getElem?_map, found]
    rfl
  · intro happening mem
    rcases List.mem_append.1 mem with joined | said
    · obtain ⟨handler, how, rfl⟩ := State.joinings_cases s.tasks 0 happening joined
      rfl
    · exact none happening said

/-- A handler does something. -/
theorem Fared.work (found : s.tasks[i]? = some t) {handler : Nat} {work : Work} (deeds : List Deed)
    (tasks : s'.tasks = s.tasks.modify handler fun t => { t with work })
    (more : s'.history = s.history ++ (deeds.map (.did handler)).map (s.now, ·))
    (own : handler = i → Conduct w s i t move { t with work } deeds)
    (idle : handler ≠ i → move ≠ .proceed i) : Fared w s i t move s' := by
  by_cases same : handler = i
  · refine ⟨{ t with work }, deeds, _, ?_, own same, more, ?_⟩
    · rw [tasks, List.getElem?_modify, found, same]
      simp
    · rw [Happening.deeds_did, if_pos same]
  · refine ⟨t, [], _, ?_, .rests (idle same) rfl rfl, more, ?_⟩
    · rw [tasks, List.getElem?_modify, found]
      simp [same]
    · rw [Happening.deeds_did, if_neg same]

/-- What a step does to a handler. -/
theorem Step.conduct (h : Step w s move s') (found : s.tasks[i]? = some t) : Fared w s i t move s' := by
  cases h with
  | start | overflow => exact .still found rfl [.published .listening] rfl (by simp) (by simp [Happening.deed?])
  | cancel => exact .still found rfl [.cancelled] rfl (by simp) (by simp [Happening.deed?])
  | join | joinSome => exact .join found rfl [] (by simp [State.joinEnded]) (by simp) (by simp)
  | joinLast | expireLast =>
    exact .join found rfl [.published .stopped] (by simp [State.stop, State.joinEnded]) (by simp)
      (by simp [Happening.deed?])
  | acquire | wait => exact .still found rfl [] (by simp) (by simp) (by simp)
  | call => exact .still found rfl [.called] rfl (by simp) (by simp [Happening.deed?])
  | nothing receiving on cancels | transient receiving on reason cancels =>
    refine .still found (by simp [State.again]) _ (State.answered_history s _ cancels) (by simp) ?_
    cases cancels <;> simp [Happening.deed?]
  | handout receiving on h cancels =>
    refine ⟨t, [], _, ?_, .rests (by simp) rfl rfl, State.answered_history s _ cancels, ?_⟩
    · exact (List.getElem?_append_left (List.getElem?_eq_some_iff.1 found).1).trans found
    · cases cancels <;> rfl
  | fatal receiving on reason cancels =>
    refine .still found (by simp [State.leave]) ((if cancels then [.cancelled] else []) ++
      [.received (.fault (.fatal reason))] ++
        if s.unjoined.length = 0 then [] else [.waiting s.unjoined.length]) (by simp) (by simp) ?_
    cases cancels <;> split <;> simp [Happening.deed?]
  | resume => exact .still found rfl [] (by simp [State.again]) (by simp) (by simp)
  | interrupt =>
    refine .still found rfl _ rfl (by simp) ?_
    split <;> simp [Happening.deed?]
  | giveUp =>
    exact .join found rfl [.gaveUp s.joinEnded.unjoined.length] (by simp [State.joinEnded]) (by simp)
      (by simp [Happening.deed?])
  | @proceed handler actor acts ready =>
    refine .work found _ rfl rfl ?_ (by simp)
    rintro rfl
    obtain rfl : actor = t := Option.some.inj (acts.symm.trans found)
    exact .proceeds ready
  | @abort handler actor outcome aborting acts live =>
    refine .work found [.ended .aborted] rfl rfl ?_ (by simp)
    rintro rfl
    obtain rfl : actor = t := Option.some.inj (acts.symm.trans found)
    exact .aborted aborting live

/-- A handler that is new has not started. -/
theorem Step.fresh (h : Step w s move s') (none : s.tasks[i]? = none) (found : s'.tasks[i]? = some t) :
    t.work = .queued := by
  have absurd {α : Sort _} (tasks : s'.tasks.length = s.tasks.length) : α := by
    have less := (List.getElem?_eq_some_iff.1 found).1
    have beyond := List.getElem?_eq_none_iff.1 none
    omega
  cases h with
  | handout receiving on h cancels =>
    have last : t ∈ [({ handout := h } : Task)] := by
      rw [List.getElem?_append_right (List.getElem?_eq_none_iff.1 none)] at found
      exact List.mem_of_getElem? found
    rw [List.mem_singleton.1 last]
  | nothing | transient => exact absurd (by simp [State.again])
  | _ => exact absurd (by simp [State.joinEnded, State.stop, State.again, State.leave, State.setWork,
      State.advance, State.cut])

end

/-! ## Every handler of every run -/

section

variable {P : Handout → Work → List Deed → Prop} {w : World σ} {s s' : State σ} {move : Move}
  (queued : ∀ h, P h .queued [])
  (proceeds : ∀ (h : Handout) (work : Work) (deeds : List Deed) (now : Nat) (state : σ),
    P h work deeds → work.isEnded = false →
      P h (Relay.proceed w.processor w.sink now h state work).work
        (deeds ++ (Relay.proceed w.processor w.sink now h state work).deeds))
  (aborted : ∀ (h : Handout) (work : Work) (deeds : List Deed), P h work deeds → work.isEnded = false →
    P h (.ended .aborted) (deeds ++ [.ended .aborted]))

include queued proceeds aborted

theorem Step.each (m : Manned w.processor s) (each : ∀ i t, s.tasks[i]? = some t → P t.handout t.work (s.deeds i))
    (h : Step w s move s') : ∀ i t, s'.tasks[i]? = some t → P t.handout t.work (s'.deeds i) := by
  intro i t now
  cases was : s.tasks[i]? with
  | none =>
    have trail := ((m.step h).account i t now).trail
    rw [h.fresh was now] at trail ⊢
    generalize s'.deeds i = deeds at trail ⊢
    cases trail
    exact queued t.handout
  | some before =>
    have kept := each i before was
    obtain ⟨after, did, hs, found, conduct, more, rfl⟩ := h.conduct was
    obtain rfl : after = t := Option.some.inj (found.symm.trans now)
    rw [State.deeds, State.pick_of_more more]
    generalize hs.filterMap (Happening.deed? i) = did at conduct
    cases conduct with
    | rests idle handout work =>
      rw [handout, work, List.append_nil]
      exact kept
    | proceeds ready =>
      have live := Task.isLive_of_isReady ready
      exact proceeds _ _ _ _ _ kept (by simpa [Task.isLive] using live)
    | aborted aborting live => exact aborted _ _ _ kept (by simpa [Task.isLive] using live)

/-- What holds of a handler that has not started, and is kept when it goes on or is aborted, holds of
every handler of every run. -/
theorem Reachable.each {sink : σ} (reach : Reachable w sink s) {i : Nat} {t : Task}
    (found : s.tasks[i]? = some t) : P t.handout t.work (s.deeds i) := by
  have all : Manned w.processor s ∧ ∀ i t, s.tasks[i]? = some t → P t.handout t.work (s.deeds i) := by
    refine Leads.induction (w := w) (P := fun s => Manned w.processor s ∧
      ∀ i t, s.tasks[i]? = some t → P t.handout t.work (s.deeds i)) ?_ ?_ reach
    · exact ⟨.initial w.processor sink, by simp [State.initial]⟩
    · intro s s' move before h
      exact ⟨before.1.step h, h.each queued proceeds aborted before.1 before.2⟩
  exact all.2 i t found

end

end BusRelay.Relay
