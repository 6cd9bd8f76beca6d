import BusRelay.Proofs.Relay.Step
/-!
# Giving up

A handler is aborted only after the loop has ended, has waited the whole time for the handlers that
were left, and has given up on them. `Reachable.patient` reads this off the history of every run.
-/

namespace BusRelay.Relay

variable {σ : Type}

/-- Whether a handler was aborted. -/
def Happening.isAbort : Happening → Bool
  | did _ (.ended .aborted) => true
  | _ => false

/-! ## What a handler does by itself -/

section

variable (sink : TimedSink σ) (now : Nat) (h : Handout) (state : σ)

theorem aborted_not_mem_recordDeeds (records : List Log.Record) :
    .ended .aborted ∉ recordDeeds h.id records := by
  simp [recordDeeds]

theorem aborted_not_mem_next (batch : List Undelivered) {deeds : List Deed} (events : List Event)
    (none : .ended .aborted ∉ deeds) :
    .ended .aborted ∉ (next sink now h state batch deeds events).deeds := by
  cases events with
  | cons event rest => simp [next, none, aborted_not_mem_recordDeeds]
  | nil => cases batch <;> simp [next, report, none, aborted_not_mem_recordDeeds]

/-- No handler aborts itself. -/
theorem aborted_not_mem_proceed (processor : Processor) (work : Work) :
    .ended .aborted ∉ (proceed processor sink now h state work).deeds := by
  cases work with
  | queued =>
    cases verdict : processor h.delivery.message with
    | error fault => simp [proceed, verdict, report, aborted_not_mem_recordDeeds]
    | ok events =>
      simp only [proceed, verdict]
      exact aborted_not_mem_next _ _ _ _ _ _ (by simp [aborted_not_mem_recordDeeds])
  | sending event rest batch due answer =>
    cases answer with
    | none => simp [proceed, crash]
    | some answer =>
      exact aborted_not_mem_next _ _ _ _ _ _ (by simp [aborted_not_mem_recordDeeds])
  | completing due =>
    cases crashes : h.crashes <;>
      simp [proceed, crashes, crash, report, aborted_not_mem_recordDeeds]
  | ended how => simp [proceed]

end

/-! ## One step -/

section

variable {w : World σ} {s s' : State σ} {move : Move}

theorem isAbort_joinings (tasks : List Task) (first : Nat) :
    (State.joinings first tasks).all (!·.isAbort) = true := by
  refine List.all_eq_true.2 fun happening mem => ?_
  obtain ⟨handler, how, rfl⟩ := State.joinings_cases tasks first happening mem
  rfl

theorem isAbort_did {handler : Nat} {deeds : List Deed} (none : .ended .aborted ∉ deeds) :
    (deeds.map (Happening.did handler)).all (!·.isAbort) = true := by
  refine List.all_eq_true.2 fun happening mem => ?_
  obtain ⟨deed, mem, rfl⟩ := List.mem_map.1 mem
  rw [Bool.not_eq_true']
  unfold Happening.isAbort
  split
  · simp_all
  · rfl

/-- The history only grows, and a handler is aborted only while the loop aborts. -/
theorem Step.more (h : Step w s move s') : ∃ hs : List Happening,
    s'.history = s.history ++ hs.map (s.now, ·) ∧
      (hs.all (!·.isAbort) = true ∨ ∃ outcome, s.phase = .aborting outcome) := by
  have left (n : Nat) : (if n = 0 then [] else [Happening.waiting n]).all (!·.isAbort) = true := by
    split <;> rfl
  cases h with
  | start | overflow => exact ⟨[.published .listening], rfl, .inl rfl⟩
  | cancel => exact ⟨[.cancelled], rfl, .inl rfl⟩
  | join | joinSome => exact ⟨_, rfl, .inl (isAbort_joinings s.tasks 0)⟩
  | joinLast | expireLast =>
    refine ⟨State.joinings 0 s.tasks ++ [.published .stopped], by simp [State.stop, State.joinEnded],
      .inl ?_⟩
    rw [List.all_append, isAbort_joinings]
    rfl
  | acquire | resume | wait => exact ⟨[], by simp [State.again], .inl rfl⟩
  | call => exact ⟨[.called], rfl, .inl rfl⟩
  | nothing receiving on cancels | handout receiving on h cancels
    | transient receiving on reason cancels =>
    exact ⟨_, State.answered_history s _ cancels, .inl (by cases cancels <;> rfl)⟩
  | fatal receiving on reason cancels =>
    refine ⟨(if cancels then [Happening.cancelled] else []) ++ [.received (.fault (.fatal reason))] ++
      if s.unjoined.length = 0 then [] else [.waiting s.unjoined.length], by simp, .inl ?_⟩
    rw [List.all_append, left, Bool.and_true]
    cases cancels <;> rfl
  | interrupt => exact ⟨_, rfl, .inl (left _)⟩
  | giveUp =>
    refine ⟨State.joinings 0 s.tasks ++ [.gaveUp s.joinEnded.unjoined.length], by simp [State.joinEnded],
      .inl ?_⟩
    rw [List.all_append, isAbort_joinings]
    rfl
  | @proceed handler t found ready =>
    exact ⟨_, rfl, .inl (isAbort_did (aborted_not_mem_proceed _ _ _ _ _ _))⟩
  | abort aborting found live => exact ⟨[_], rfl, .inr ⟨_, aborting⟩⟩

/-- How the loop comes to wait for handlers until a deadline. -/
theorem Step.draining (h : Step w s move s') {deadline : Nat} {outcome : Outcome}
    (now : s'.phase = .draining deadline outcome) :
    (s.phase = .draining deadline outcome ∧ (s.unjoined = [] → s'.unjoined = [])) ∨
      deadline = s.now + w.settings.drain ∧
        (s'.unjoined = [] ∨ ∃ left, (s.now, .waiting left) ∈ s'.history) := by
  have leaves {s : State σ} {o : Outcome} (now : (s.leave w o).phase = .draining deadline outcome) :
      deadline = s.now + w.settings.drain ∧
        ((s.leave w o).unjoined = [] ∨ ∃ left, (s.now, .waiting left) ∈ (s.leave w o).history) := by
    cases now
    refine ⟨rfl, ?_⟩
    by_cases left : s.unjoined.length = 0
    · exact .inl (List.length_eq_zero_iff.1 left)
    · exact .inr ⟨s.unjoined.length, by simp [left]⟩
  cases h with
  | cancel | wait => exact .inl ⟨now, id⟩
  | joinSome ending left => exact .inl ⟨now, State.unjoined_joinEnded⟩
  | proceed found ready | abort aborting found live =>
    exact .inl ⟨now, fun none => State.unjoined_setWork _ _ none⟩
  | fatal receiving on reason cancels => simpa using Or.inr (leaves now)
  | interrupt waiting off => exact .inr (leaves now)
  | _ => cases now

/-- How the loop comes to abort handlers. -/
theorem Step.aborting (h : Step w s move s') {outcome : Outcome} (now : s'.phase = .aborting outcome) :
    s.phase = .aborting outcome ∨ ∃ deadline said given, s.phase = .draining deadline outcome ∧
      deadline ≤ s.now ∧ s.unjoined ≠ [] ∧ s'.history = s.history ++ said ∧
        (s.now, .gaveUp given) ∈ said := by
  cases h with
  | cancel | wait => exact .inl now
  | joinSome ending left => exact .inl now
  | proceed found ready | abort aborting found live => exact .inl now
  | giveUp draining passed left =>
    cases now
    have said : ({ s.joinEnded with phase := .aborting outcome }.add
          [.gaveUp s.joinEnded.unjoined.length]).history = s.history ++
        ((State.joinings 0 s.tasks).map (s.now, ·) ++ [(s.now, .gaveUp s.joinEnded.unjoined.length)]) :=
      List.append_assoc ..
    exact .inr ⟨_, _, _, draining, passed, mt State.unjoined_joinEnded left, said,
      List.mem_append_right _ (List.mem_singleton.2 rfl)⟩
  | _ => cases now

end

/-! ## The invariant -/

/-- The loop has said that it waits and, after the whole time that handlers have to end, that it has
given up. -/
def GaveUp (w : World σ) (history : List (Nat × Happening)) : Prop :=
  ∃ since left till given, [(since, .waiting left), (till, .gaveUp given)].Sublist history ∧
    since + w.settings.drain ≤ till

/-- The loop waits for handlers as long as it should before it gives up, and a handler is aborted only
then. -/
structure Patient (w : World σ) (s : State σ) : Prop where
  draining : ∀ deadline outcome, s.phase = .draining deadline outcome → s.unjoined = [] ∨
    ∃ since left, (since, .waiting left) ∈ s.history ∧ deadline = since + w.settings.drain
  aborting : ∀ outcome, s.phase = .aborting outcome → GaveUp w s.history
  aborted : ∀ before time happening after, s.history = before ++ (time, happening) :: after →
    happening.isAbort = true → GaveUp w before

theorem GaveUp.more {w : World σ} {history : List (Nat × Happening)} (g : GaveUp w history)
    (rest : List (Nat × Happening)) : GaveUp w (history ++ rest) := by
  obtain ⟨since, left, till, given, said, enough⟩ := g
  exact ⟨since, left, till, given, said.trans (List.sublist_append_left history rest), enough⟩

namespace Patient

variable {w : World σ} {s s' : State σ} {move : Move}

theorem initial (w : World σ) (sink : σ) : Patient w (State.initial sink) := by
  refine ⟨nofun, nofun, ?_⟩
  intro before time happening after split
  cases before <;> cases split

theorem step (p : Patient w s) (h : Step w s move s') : Patient w s' := by
  obtain ⟨hs, more, calm⟩ := h.more
  refine ⟨?_, ?_, ?_⟩
  · intro deadline outcome now
    rcases h.draining now with ⟨was, kept⟩ | ⟨rfl, waits⟩
    · rcases p.draining deadline outcome was with none | ⟨since, left, said, rfl⟩
      · exact .inl (kept none)
      · exact .inr ⟨since, left, by rw [more]; exact List.mem_append_left _ said, rfl⟩
    · rcases waits with none | ⟨left, said⟩
      · exact .inl none
      · exact .inr ⟨s.now, left, said, rfl⟩
  · intro outcome now
    rcases h.aborting now with was | ⟨deadline, said, given, draining, passed, left, added, gaveUp⟩
    · rw [more]
      exact (p.aborting outcome was).more _
    · obtain ⟨since, waiting, announced, rfl⟩ := (p.draining deadline outcome draining).resolve_left left
      rw [added]
      exact ⟨since, waiting, s.now, given,
        (List.singleton_sublist.2 announced).append (List.singleton_sublist.2 gaveUp), passed⟩
  · intro before time happening after split abort
    have fresh (mem : (time, happening) ∈ hs.map (s.now, ·)) : GaveUp w s.history := by
      obtain ⟨here, added, same⟩ := List.mem_map.1 mem
      obtain rfl : here = happening := congrArg Prod.snd same
      rcases calm with none | ⟨outcome, aborting⟩
      · have none := List.all_eq_true.1 none here added
        simp [abort] at none
      · exact p.aborting outcome aborting
    rw [more] at split
    rcases List.append_eq_append_iff.1 split with ⟨old, rfl, new⟩ | ⟨new, old, rest⟩
    · exact (fresh (by simp [new])).more old
    · cases new with
      | nil =>
        rw [old, List.append_nil] at fresh
        rw [List.nil_append] at rest
        exact fresh (rest ▸ List.mem_cons_self)
      | cons first new =>
        obtain ⟨rfl, -⟩ := List.cons.inj rest
        exact p.aborted before time happening new old abort

end Patient

/-- A handler that was aborted was given up before. -/
theorem Reachable.patient {w : World σ} {sink : σ} {s : State σ} (reach : Reachable w sink s) :
    Patient w s :=
  Leads.induction (.initial w sink) Patient.step reach

end BusRelay.Relay
