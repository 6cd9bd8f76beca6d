import BusRelay.Relay.Machine
/-!
# Steps of the relay

`Step` says once what each move can do and when it can be made, and `step_iff` that the machine does
just this. An invariant of the relay is proved by cases on `Step`, and `Reachable.induction` carries it
over every run.
-/

namespace BusRelay.Relay

variable {σ : Type}

/-- The loop waits for something and looks at cancellation first. -/
def Phase.isWaiting : Phase → Bool
  | acquiring | ready | receiving | pausing _ => true
  | _ => false

/-- What the loop has ended with, while it waits for handlers. -/
def Phase.ending? : Phase → Option Outcome
  | draining _ outcome | aborting outcome => some outcome
  | _ => none

theorem Phase.started_of_isWaiting {p : Phase} (h : p.isWaiting = true) :
    p ≠ .idle ∧ p ≠ .crashed := by
  cases p <;> simp_all [isWaiting]

/-- A loop that has ended has started, and it has no permit. -/
theorem Phase.started_of_ending {p : Phase} {outcome : Outcome} (h : p.ending? = some outcome) :
    (p ≠ .idle ∧ p ≠ .crashed) ∧ p.held = 0 := by
  cases p <;> simp_all [ending?, held]

/-- What stands in a history that has grown stood there before, or was added at the time of growth. -/
theorem mem_of_more {history history' : List (Nat × Happening)} {now : Nat} {hs : List Happening}
    (more : history' = history ++ hs.map (now, ·)) {time : Nat} {happening : Happening} :
    (time, happening) ∈ history' ↔ (time, happening) ∈ history ∨ time = now ∧ happening ∈ hs := by
  simp only [more, List.mem_append, List.mem_map, Prod.mk.injEq]
  refine or_congr_right ⟨?_, ?_⟩
  · rintro ⟨_, mem, rfl, rfl⟩
    exact ⟨rfl, mem⟩
  · rintro ⟨rfl, mem⟩
    exact ⟨happening, mem, rfl, rfl⟩

/-- A handler that goes on keeps all but its work. -/
theorem map_modify_work {α : Type} (f : Task → α) (same : ∀ t work, f { t with work } = f t) (tasks : List Task)
    (handler : Nat) (work : Work) : (tasks.modify handler fun t => { t with work }).map f = tasks.map f := by
  refine List.ext_getElem? fun i => ?_
  rw [List.getElem?_map, List.getElem?_map, List.getElem?_modify]
  cases tasks[i]? <;> simp [apply_ite, same]

namespace State

@[simp] theorem add_phase (s : State σ) (hs : List Happening) : (s.add hs).phase = s.phase := rfl

@[simp] theorem add_free (s : State σ) (hs : List Happening) : (s.add hs).free = s.free := rfl

@[simp] theorem add_tasks (s : State σ) (hs : List Happening) : (s.add hs).tasks = s.tasks := rfl

@[simp] theorem add_now (s : State σ) (hs : List Happening) : (s.add hs).now = s.now := rfl

@[simp] theorem add_history (s : State σ) (hs : List Happening) :
    (s.add hs).history = s.history ++ hs.map (s.now, ·) := rfl

@[simp] theorem joinEnded_phase (s : State σ) : s.joinEnded.phase = s.phase := rfl

@[simp] theorem joinEnded_free (s : State σ) : s.joinEnded.free = s.free := rfl

@[simp] theorem joinEnded_now (s : State σ) : s.joinEnded.now = s.now := rfl

/-- The broker has answered, and the relay may have been cancelled just before. -/
def answered (s : State σ) (receipt : Receipt) (cancels : Bool) : State σ :=
  (if cancels then { s with cancelled := true }.add [.cancelled] else s).add [.received receipt]

section

variable (s : State σ) (receipt : Receipt) (cancels : Bool)

@[simp] theorem answered_phase : (s.answered receipt cancels).phase = s.phase := by
  cases cancels <;> rfl

@[simp] theorem answered_free : (s.answered receipt cancels).free = s.free := by
  cases cancels <;> rfl

@[simp] theorem answered_tasks : (s.answered receipt cancels).tasks = s.tasks := by
  cases cancels <;> rfl

@[simp] theorem answered_unjoined : (s.answered receipt cancels).unjoined = s.unjoined := by
  cases cancels <;> rfl

@[simp] theorem answered_now : (s.answered receipt cancels).now = s.now := by
  cases cancels <;> rfl

@[simp] theorem answered_history : (s.answered receipt cancels).history =
    s.history ++ ((if cancels then [Happening.cancelled] else []) ++
      [Happening.received receipt]).map (s.now, ·) := by
  cases cancels <;> simp [answered]

end

/-- What the loop says when it ends. -/
@[simp] theorem leave_history (w : World σ) (outcome : Outcome) (s : State σ) :
    (s.leave w outcome).history = s.history ++
      (if s.unjoined.length = 0 then [] else [Happening.waiting s.unjoined.length]).map (s.now, ·) := rfl

section

variable {s : State σ}

/-- Joining handlers, and what they do, leaves nothing to join if there was nothing. -/
theorem unjoined_joinEnded (none : s.unjoined = []) : s.joinEnded.unjoined = [] := by
  simp only [State.unjoined, List.filter_eq_nil_iff, Bool.not_eq_true', Bool.not_eq_false] at none ⊢
  intro t mem
  obtain ⟨before, was, rfl⟩ := List.mem_map.1 mem
  simp [Task.join, none before was]

theorem unjoined_setWork (handler : Nat) (work : Work) (none : s.unjoined = []) :
    (s.setWork handler work).unjoined = [] := by
  simp only [State.unjoined, List.filter_eq_nil_iff, Bool.not_eq_true', Bool.not_eq_false] at none ⊢
  intro t mem
  obtain ⟨i, found⟩ := List.mem_iff_getElem?.1 mem
  simp only [State.setWork, List.getElem?_modify] at found
  obtain ⟨before, was, rfl⟩ := Option.map_eq_some_iff.1 found
  have joined := none before (List.mem_of_getElem? was)
  split <;> exact joined

end

/-- Joining tells of the handlers that are joined, and of nothing else. -/
theorem joinings_cases (tasks : List Task) (first : Nat) :
    ∀ happening ∈ joinings first tasks, ∃ handler how, happening = .joined handler how := by
  induction tasks generalizing first with
  | nil => simp [joinings]
  | cons t rest ih =>
    cases work : t.work with
    | ended how =>
      cases done : t.joined
      · simpa [joinings, work, done] using ih (first + 1)
      · simpa [joinings, work, done] using ih (first + 1)
    | _ => simpa [joinings, work] using ih (first + 1)

/-- A handler has gone on. -/
def advance (w : World σ) (s : State σ) (handler : Nat) (t : Task) : State σ :=
  let after := Relay.proceed w.processor w.sink s.now t.handout s.sink t.work
  ({ s with sink := after.sink }.setWork handler after.work).add (after.deeds.map (.did handler))

/-- A handler was aborted. -/
def cut (s : State σ) (handler : Nat) : State σ :=
  (s.setWork handler (.ended .aborted)).add [.did handler (.ended .aborted)]

end State

/-- The moves of the relay, each with the state that it is possible in and the state that it leads to. -/
inductive Step (w : World σ) (s : State σ) : Move → State σ → Prop where
  | start (idle : s.phase = .idle) (fits : w.settings.permits ≤ maxPermits) :
      Step w s .start
        { s.add [.published .listening] with phase := .joining, free := w.settings.permits }
  | overflow (idle : s.phase = .idle) (exceeds : maxPermits < w.settings.permits) :
      Step w s .start { s.add [.published .listening] with phase := .crashed }
  | cancel : Step w s .cancel ({ s with cancelled := true }.add [.cancelled])
  | join (joining : s.phase = .joining) :
      Step w s .join { s.joinEnded with phase := .acquiring }
  | joinSome {outcome : Outcome} (ending : s.phase.ending? = some outcome)
      (left : s.joinEnded.unjoined ≠ []) : Step w s .join s.joinEnded
  | joinLast {outcome : Outcome} (ending : s.phase.ending? = some outcome)
      (none : s.joinEnded.unjoined = []) : Step w s .join (s.joinEnded.stop outcome)
  | acquire (acquiring : s.phase = .acquiring) (on : s.cancelled = false) (free : s.free ≠ 0) :
      Step w s .acquire { s with phase := .ready, free := s.free - 1 }
  | call (ready : s.phase = .ready) (on : s.cancelled = false) :
      Step w s .call ({ s with phase := .receiving }.add [.called])
  | nothing (receiving : s.phase = .receiving) (on : s.cancelled = false) (cancels : Bool) :
      Step w s (.receive .nothing cancels) (s.answered .nothing cancels).again
  | handout (receiving : s.phase = .receiving) (on : s.cancelled = false) (h : Handout)
      (cancels : Bool) :
      Step w s (.receive (.handout h) cancels)
        { s.answered (.handout h) cancels with
          phase := .joining, tasks := s.tasks ++ [{ handout := h }] }
  | fatal (receiving : s.phase = .receiving) (on : s.cancelled = false) (reason : String)
      (cancels : Bool) :
      Step w s (.receive (.fault (.fatal reason)) cancels)
        ((s.answered (.fault (.fatal reason)) cancels).leave w (.error (.fatal reason)))
  | transient (receiving : s.phase = .receiving) (on : s.cancelled = false) (reason : String)
      (cancels : Bool) :
      Step w s (.receive (.fault (.transient reason)) cancels)
        { s.answered (.fault (.transient reason)) cancels with
          phase := .pausing (s.now + w.settings.pause) }
  | resume {till : Nat} (pausing : s.phase = .pausing till) (on : s.cancelled = false)
      (passed : till ≤ s.now) : Step w s .resume s.again
  | interrupt (waiting : s.phase.isWaiting = true) (off : s.cancelled = true) :
      Step w s .interrupt (s.leave w (.ok ()))
  | expireLast {deadline : Nat} {outcome : Outcome} (draining : s.phase = .draining deadline outcome)
      (passed : deadline ≤ s.now) (none : s.joinEnded.unjoined = []) :
      Step w s .expire (s.joinEnded.stop outcome)
  | giveUp {deadline : Nat} {outcome : Outcome} (draining : s.phase = .draining deadline outcome)
      (passed : deadline ≤ s.now) (left : s.joinEnded.unjoined ≠ []) :
      Step w s .expire ({ s.joinEnded with phase := .aborting outcome }.add
        [.gaveUp s.joinEnded.unjoined.length])
  | proceed {handler : Nat} {t : Task} (found : s.tasks[handler]? = some t)
      (ready : t.work.isReady s.now = true) : Step w s (.proceed handler) (s.advance w handler t)
  | abort {handler : Nat} {t : Task} {outcome : Outcome} (aborting : s.phase = .aborting outcome)
      (found : s.tasks[handler]? = some t) (live : t.isLive = true) :
      Step w s (.abort handler) (s.cut handler)
  | wait {till : Nat} (later : s.now ≤ till) : Step w s (.wait till) { s with now := till }

namespace State

variable {w : World σ} {s s' : State σ} {move : Move}

theorem step_cases (h : s.step w move = some s') : Step w s move s' := by
  cases move with
  | start =>
    simp only [step] at h
    split at h
    · split at h
      · cases h; exact .start ‹_› ‹_›
      · cases h; exact .overflow ‹_› (Nat.lt_of_not_le ‹_›)
    · cases h
  | cancel => cases h; exact .cancel
  | join =>
    have ends {outcome : Outcome} (ending : s.phase.ending? = some outcome) :
        Step w s .join
          (if s.joinEnded.unjoined.isEmpty then s.joinEnded.stop outcome else s.joinEnded) := by
      split
      · exact .joinLast ending (List.isEmpty_iff.1 ‹_›)
      · exact .joinSome ending fun none => ‹¬_› (List.isEmpty_iff.2 none)
    simp only [step] at h
    split at h
    · cases h; exact .join ‹_›
    · cases h; exact ends (by simp [Phase.ending?, *])
    · cases h; exact ends (by simp [Phase.ending?, *])
    · cases h
  | acquire =>
    simp only [step] at h
    split at h
    · split at h
      · cases h
      · cases h; exact .acquire ‹_› (by simp_all) (by simp_all)
    · cases h
  | call =>
    simp only [step] at h
    split at h
    · split at h
      · cases h
      · cases h; exact .call ‹_› (by simp_all)
    · cases h
  | receive receipt cancels =>
    simp only [step] at h
    split at h
    · split at h
      · cases h
      · have on : s.cancelled = false := by simp_all
        have receiving := ‹s.phase = .receiving›
        have same : (s.answered receipt cancels).receive w receipt = s' := Option.some.inj h
        rw [← same]
        match receipt with
        | .nothing => exact .nothing receiving on cancels
        | .handout given => cases cancels <;> exact .handout receiving on given _
        | .fault (.fatal reason) => exact .fatal receiving on reason cancels
        | .fault (.transient reason) => cases cancels <;> exact .transient receiving on reason _
    · cases h
  | resume =>
    simp only [step] at h
    split at h
    · split at h
      · cases h
      · cases h; exact .resume ‹_› (by simp_all) (by simp_all)
    · cases h
  | interrupt =>
    simp only [step] at h
    split at h
    all_goals first
      | (split at h
         · cases h; exact .interrupt (by simp [Phase.isWaiting, *]) ‹_›
         · cases h)
      | cases h
  | expire =>
    simp only [step] at h
    split at h
    · split at h
      · cases h
      · cases h
        have left := List.length_eq_zero_iff (l := s.joinEnded.unjoined)
        split
        · exact .expireLast ‹_› (by omega) (left.1 ‹_›)
        · exact .giveUp ‹_› (by omega) (mt left.2 ‹_›)
    · cases h
  | proceed handler =>
    simp only [step] at h
    split at h
    · split at h
      · cases h; exact .proceed ‹_› ‹_›
      · cases h
    · cases h
  | abort handler =>
    simp only [step] at h
    split at h
    · split at h
      · cases h; exact .abort ‹_› ‹_› ‹_›
      · cases h
    · cases h
  | wait till =>
    simp only [step] at h
    split at h
    · cases h; exact .wait ‹_›
    · cases h

/-- What is possible is what `Step` tells. -/
theorem step_iff : s.step w move = some s' ↔ Step w s move s' := by
  refine ⟨step_cases, fun h => ?_⟩
  cases h with
  | start idle fits => simp [step, idle, fits, add]
  | overflow idle exceeds => simp [step, idle, Nat.not_le.2 exceeds, add]
  | cancel => rfl
  | join joining => simp [step, joining]
  | joinSome ending left | joinLast ending none =>
    cases phase : s.phase <;> simp_all [step, Phase.ending?]
  | acquire acquiring on free => simp [step, acquiring, on, free]
  | call ready on => simp [step, ready, on]
  | nothing receiving on cancels => simp [step, receiving, on, answered, receive]
  | handout receiving on h cancels => cases cancels <;> simp [step, receiving, on, answered, receive, add]
  | fatal receiving on reason cancels => simp [step, receiving, on, answered, receive]
  | transient receiving on reason cancels =>
    cases cancels <;> simp [step, receiving, on, answered, receive, add]
  | resume pausing on passed => simp [step, pausing, on, Nat.not_lt.2 passed]
  | interrupt waiting off => cases phase : s.phase <;> simp_all [step, Phase.isWaiting]
  | expireLast draining passed none => simp [step, draining, Nat.not_lt.2 passed, none]
  | giveUp draining passed left => simp [step, draining, Nat.not_lt.2 passed, left]
  | proceed found ready => simp [step, found, ready, advance]
  | abort aborting found live => simp [step, aborting, found, live, cut]
  | wait later => simp [step, later]

theorem run_cons {mid : State σ} {moves : List Move} (first : Step w s move mid)
    (rest : mid.run w moves = some s') : s.run w (move :: moves) = some s' := by
  rw [run, step_iff.2 first]
  exact rest

theorem run_append (first rest : List Move) (s : State σ) :
    s.run w (first ++ rest) = (s.run w first).bind (·.run w rest) := by
  induction first generalizing s with
  | nil => rfl
  | cons move more ih => simp [run, ih, Option.bind_assoc]

end State

/-- A task that can go on is live. -/
theorem Task.isLive_of_isReady {t : Task} {now : Nat} (h : t.work.isReady now = true) :
    t.isLive = true := by
  unfold isLive
  cases work : t.work <;> simp_all [Work.isReady, Work.isEnded]

/-- Some moves lead from one state to another. -/
def Leads (w : World σ) (s s' : State σ) : Prop := ∃ moves, s.run w moves = some s'

namespace Leads

variable {w : World σ} {s s' s'' : State σ} {move : Move}

theorem refl (s : State σ) : Leads w s s := ⟨[], rfl⟩

theorem trans (h : Leads w s s') (h' : Leads w s' s'') : Leads w s s'' := by
  obtain ⟨first, h⟩ := h
  obtain ⟨rest, h'⟩ := h'
  exact ⟨first ++ rest, by rw [State.run_append, h]; exact h'⟩

theorem single (h : Step w s move s') : Leads w s s' := ⟨[move], State.run_cons h rfl⟩

/-- What every step keeps holds of every state that the moves lead to. -/
theorem induction {P : State σ → Prop} (start : P s)
    (step : ∀ {s s' : State σ} {move : Move}, P s → Step w s move s' → P s') (h : Leads w s s') :
    P s' := by
  obtain ⟨moves, h⟩ := h
  induction moves generalizing s with
  | nil =>
    cases h
    exact start
  | cons move rest ih =>
    obtain ⟨next, first, h⟩ := Option.bind_eq_some_iff.1 h
    exact ih (step start (State.step_cases first)) h

end Leads

/-- The states of all runs of a relay whose sink begins in a given state. -/
def Reachable (w : World σ) (sink : σ) (s : State σ) : Prop := Leads w (State.initial sink) s

end BusRelay.Relay
