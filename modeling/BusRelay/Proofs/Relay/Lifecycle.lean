import BusRelay.Proofs.Relay.Crew
import BusRelay.Proofs.Relay.Scripted
/-!
# The life of the relay

From when to when the relay receives, and what it ends with. `ends_only_when_told` reads off the history
of every run that the relay listens once and stops once, that it calls the broker only while it is
neither cancelled nor refused and not before a pause is over, and that nothing else ends its loop,
whatever becomes of the messages.
-/

namespace BusRelay.Relay

variable {σ : Type}

/-! ## What the loop leaves behind -/

namespace Happening

def stage? : Happening → Option Stage
  | published stage => some stage
  | _ => none

def isCancellation : Happening → Bool
  | cancelled => true
  | _ => false

/-- The answer of a broker that will not have the relay any more. -/
def refusal? : Happening → Option BrokerFault
  | received (.fault (.fatal reason)) => some (.fatal reason)
  | _ => none

/-- Whether the loop has to pause. -/
def isSetback : Happening → Bool
  | received (.fault (.transient _)) => true
  | _ => false

/-- Whether a happening has to do with handlers only. -/
def isInner : Happening → Bool
  | did .. | waiting _ | gaveUp _ | joined .. => true
  | _ => false

section

variable {happening : Happening} (inner : happening.isInner = true)

include inner

theorem stage?_of_inner : happening.stage? = none := by
  cases happening <;> first | rfl | cases inner

theorem isCancellation_of_inner : happening.isCancellation = false := by
  cases happening <;> first | rfl | cases inner

theorem refusal?_of_inner : happening.refusal? = none := by
  cases happening <;> first | rfl | cases inner

theorem isSetback_of_inner : happening.isSetback = false := by
  cases happening <;> first | rfl | cases inner

end

theorem refusal?_eq_some {happening : Happening} {fault : BrokerFault} :
    happening.refusal? = some fault ↔
      ∃ reason, fault = .fatal reason ∧ happening = .received (.fault (.fatal reason)) := by
  constructor
  · intro refused
    cases happening with
    | received receipt =>
      cases receipt with
      | fault f =>
        cases f with
        | fatal reason => exact ⟨reason, (Option.some.inj refused).symm, rfl⟩
        | transient reason => cases refused
      | _ => cases refused
    | _ => cases refused
  · rintro ⟨reason, rfl, rfl⟩
    rfl

end Happening

namespace Phase

/-- What was published when the loop stands here, after the relay was idle. -/
def published : Phase → List Stage
  | idle => []
  | stopped _ => [.listening, .stopped]
  | _ => [.listening]

/-- What the loop has ended with, if it has. -/
def outcome? : Phase → Option Outcome
  | draining _ outcome | aborting outcome | stopped outcome => some outcome
  | _ => none

/-- The refusals that the loop has met with: it ends at the first. -/
def refusals (p : Phase) : List BrokerFault :=
  match p.outcome? with
  | some (.error fault) => [fault]
  | _ => []

/-- From when on the loop may call the broker, if it still receives. -/
def callsFrom? (now : Nat) : Phase → Option Nat
  | idle | joining | acquiring | ready | receiving => some now
  | pausing till => some till
  | _ => none

/-- While time goes by, a loop may call no earlier. -/
theorem callsFrom?_later {p : Phase} {now later time : Nat} (passes : now ≤ later)
    (calling : p.callsFrom? later = some time) : ∃ earlier ≤ time, p.callsFrom? now = some earlier := by
  cases p with
  | pausing till => exact ⟨till, Nat.le_of_eq (Option.some.inj calling), rfl⟩
  | idle | joining | acquiring | ready | receiving =>
    exact ⟨now, Option.some.inj calling ▸ passes, rfl⟩
  | draining | aborting | stopped | crashed => cases calling

theorem outcome?_of_ending {p : Phase} {outcome : Outcome} (h : p.ending? = some outcome) :
    p.outcome? = some outcome ∧ p.published = [.listening] := by
  cases p <;> simp_all [ending?, outcome?, published]

/-- The relay has started and receives. -/
def isOpen : Phase → Bool
  | joining | acquiring | ready | receiving | pausing _ => true
  | _ => false

theorem isOpen_of_isWaiting {p : Phase} (h : p.isWaiting = true) : p.isOpen = true := by
  cases p <;> first | rfl | cases h

theorem of_isOpen {p : Phase} (h : p.isOpen = true) :
    p.outcome? = none ∧ p.refusals = [] ∧ p.published = [.listening] := by
  cases p <;> first | exact ⟨rfl, rfl, rfl⟩ | cases h

end Phase

/-- All that was published so far. -/
def State.stages (s : State σ) : List Stage := .idle :: s.pick Happening.stage?

/-! ## The order of what happens -/

/-- Every entry fits what stands before it. -/
def Chronicle {α : Type} (fits : List α → α → Prop) (entries : List α) : Prop :=
  ∀ before entry after, entries = before ++ entry :: after → fits before entry

namespace Chronicle

variable {α : Type} {fits : List α → α → Prop} {entries more : List α} {entry : α}

theorem nil : Chronicle fits [] := by
  intro before entry after split
  cases before <;> cases split

theorem snoc (c : Chronicle fits entries) (last : fits entries entry) :
    Chronicle fits (entries ++ [entry]) := by
  intro before here after split
  rcases List.append_eq_append_iff.1 split with ⟨old, rfl, new⟩ | ⟨new, rfl, rest⟩
  · cases old with
    | nil =>
      obtain ⟨rfl, -⟩ := List.cons.inj new
      rwa [List.append_nil]
    | cons first old => simp at new
  · cases new with
    | nil =>
      obtain ⟨rfl, -⟩ := List.cons.inj rest
      rwa [List.append_nil] at last
    | cons first new =>
      obtain ⟨rfl, -⟩ := List.cons.inj rest
      exact c before here new rfl

/-- What fits anywhere may be added. -/
theorem append (c : Chronicle fits entries) (anywhere : ∀ entry ∈ more, ∀ before, fits before entry) :
    Chronicle fits (entries ++ more) := by
  induction more generalizing entries with
  | nil => rwa [List.append_nil]
  | cons first rest ih =>
    rw [List.append_cons]
    exact ih (c.snoc (anywhere first List.mem_cons_self entries)) fun entry mem =>
      anywhere entry (List.mem_cons_of_mem _ mem)

end Chronicle

/-- The relay was neither cancelled nor refused. -/
def GoesOn (history : List (Nat × Happening)) : Prop :=
  ∀ entry ∈ history, entry.2.isCancellation = false ∧ entry.2.refusal? = none

/-- Every pause that was due is over at a time. -/
def Paused (w : World σ) (history : List (Nat × Happening)) (time : Nat) : Prop :=
  ∀ entry ∈ history, entry.2.isSetback = true → entry.1 + w.settings.pause ≤ time

theorem Paused.nil (w : World σ) (time : Nat) : Paused w [] time := fun _ mem => absurd mem List.not_mem_nil

/-- Nothing but a setback calls for another pause. -/
theorem Paused.more {w : World σ} {history : List (Nat × Happening)} {earlier time : Nat}
    (p : Paused w history earlier) (later : earlier ≤ time) (now : Nat) (hs : List Happening)
    (calm : ∀ happening ∈ hs, happening.isSetback = true → now + w.settings.pause ≤ time) :
    Paused w (history ++ hs.map (now, ·)) time := by
  intro entry mem setback
  rcases (mem_of_more rfl).1 mem with old | ⟨same, added⟩
  · exact Nat.le_trans (p entry old setback) later
  · exact same ▸ calm entry.2 added setback

/-- The relay calls the broker while it goes on and has paused. The broker's answer counts unless the
relay was cancelled before it was looked at; it may be cancelled by the answer. -/
def Fitting (w : World σ) (before : List (Nat × Happening)) : Nat × Happening → Prop
  | (time, .called) => GoesOn before ∧ Paused w before time
  | (time, .received _) => ∃ earlier, ∃ cancels : Bool, GoesOn earlier ∧
      before = earlier ++ if cancels then [(time, .cancelled)] else []
  | _ => True

theorem Fitting.of_inner (w : World σ) (before : List (Nat × Happening)) {time : Nat}
    {happening : Happening} (inner : happening.isInner = true) : Fitting w before (time, happening) := by
  cases happening <;> trivial

/-! ## The invariant -/

/-- What the loop has published and what it has ended with are as its phase tells, everything that has
happened was in place, and the loop keeps to its pauses. -/
structure Course (w : World σ) (s : State σ) : Prop where
  stages : s.pick Happening.stage? = s.phase.published
  cancelled : s.cancelled = s.history.any (·.2.isCancellation)
  refused : s.pick Happening.refusal? = s.phase.refusals
  ended : s.phase.outcome? = some (.ok ()) → s.cancelled = true
  chronicle : Chronicle (Fitting w) s.history
  paused : ∀ time, s.phase.callsFrom? s.now = some time → Paused w s.history time

namespace Course

variable {w : World σ} {s s' : State σ} {move : Move}

theorem initial (w : World σ) (sink : σ) : Course w (State.initial sink) :=
  ⟨rfl, rfl, rfl, nofun, .nil, fun time _ => .nil w time⟩

/-- A relay that still receives and is not cancelled goes on. -/
theorem goesOn (c : Course w s) (on : s.cancelled = false) (receives : s.phase.outcome? = none) :
    GoesOn s.history := by
  intro entry mem
  constructor
  · have none := c.cancelled
    rw [on, eq_comm, List.any_eq_false] at none
    simpa using none entry mem
  · have none := c.refused
    rw [Phase.refusals, receives, State.pick, List.filterMap_eq_nil_iff] at none
    exact none entry mem

/-- What is added to the history, part by part. -/
theorem grow (c : Course w s) (hs : List Happening)
    (more : s'.history = s.history ++ hs.map (s.now, ·))
    (stages : s.phase.published ++ hs.filterMap Happening.stage? = s'.phase.published)
    (cancelled : s'.cancelled = (s.cancelled || hs.any Happening.isCancellation))
    (refused : s.phase.refusals ++ hs.filterMap Happening.refusal? = s'.phase.refusals)
    (ended : s'.phase.outcome? = some (.ok ()) → s'.cancelled = true)
    (chronicle : Chronicle (Fitting w) (s.history ++ hs.map (s.now, ·)))
    (paused : ∀ time, s'.phase.callsFrom? s'.now = some time →
      Paused w (s.history ++ hs.map (s.now, ·)) time) : Course w s' := by
  refine ⟨?_, ?_, ?_, ended, more ▸ chronicle, more ▸ paused⟩
  · rw [State.pick_of_more more, c.stages, stages]
  · rw [cancelled, c.cancelled, more, List.any_append, List.any_map]
    rfl
  · rw [State.pick_of_more more, c.refused, refused]

/-- What has to do with handlers only is no matter. -/
theorem inner (c : Course w s) (hs : List Happening)
    (more : s'.history = s.history ++ hs.map (s.now, ·))
    (inner : ∀ happening ∈ hs, happening.isInner = true)
    (published : s'.phase.published = s.phase.published)
    (cancelled : s'.cancelled = s.cancelled) (refusals : s'.phase.refusals = s.phase.refusals)
    (ended : s'.phase.outcome? = some (.ok ()) → s'.cancelled = true)
    (calls : ∀ time, s'.phase.callsFrom? s'.now = some time →
      ∃ earlier ≤ time, s.phase.callsFrom? s.now = some earlier) : Course w s' := by
  have anywhere : ∀ entry ∈ hs.map (s.now, ·), entry.2.isInner = true := by
    intro entry mem
    obtain ⟨happening, added, rfl⟩ := List.mem_map.1 mem
    exact inner happening added
  refine c.grow hs more ?_ ?_ ?_ ended ?_ ?_
  · rw [published, List.filterMap_eq_nil_iff.2 fun h mem => Happening.stage?_of_inner (inner h mem),
      List.append_nil]
  · have none : hs.any Happening.isCancellation = false := List.any_eq_false.2 fun h mem => by
      simp [Happening.isCancellation_of_inner (inner h mem)]
    rw [cancelled, none, Bool.or_false]
  · rw [refusals, List.filterMap_eq_nil_iff.2 fun h mem => Happening.refusal?_of_inner (inner h mem),
      List.append_nil]
  · exact c.chronicle.append fun entry mem before => Fitting.of_inner w before (anywhere entry mem)
  · intro time calling
    obtain ⟨earlier, before, called⟩ := calls time calling
    refine (c.paused earlier called).more before s.now hs fun happening mem setback => ?_
    rw [Happening.isSetback_of_inner (inner happening mem)] at setback
    cases setback

/-- An answer of the broker is in place if the relay was not cancelled before. -/
theorem chronicle_answered (c : Course w s) (receiving : s.phase = .receiving)
    (on : s.cancelled = false) (receipt : Receipt) (cancels : Bool) :
    Chronicle (Fitting w) (s.answered receipt cancels).history := by
  have goesOn := c.goesOn on (by rw [receiving]; rfl)
  rw [State.answered_history, List.map_append, ← List.append_assoc]
  refine Chronicle.snoc ?_ ⟨s.history, cancels, goesOn, by cases cancels <;> rfl⟩
  refine c.chronicle.append fun entry mem before => ?_
  cases cancels with
  | true =>
    obtain rfl := List.mem_singleton.1 mem
    trivial
  | false => cases mem

/-- The broker has answered, and the loop does what the answer asks for. -/
theorem answered (c : Course w s) (receiving : s.phase = .receiving) (on : s.cancelled = false)
    (receipt : Receipt) (cancels : Bool) (more : s'.history = (s.answered receipt cancels).history)
    (cancelled : s'.cancelled = (s.answered receipt cancels).cancelled)
    (published : s'.phase.published = [.listening])
    (refused : s'.phase.refusals = (Happening.received receipt).refusal?.toList)
    (ended : s'.phase.outcome? ≠ some (.ok ()))
    (paused : ∀ time, s'.phase.callsFrom? s'.now = some time → s.now ≤ time ∧
      ((Happening.received receipt).isSetback = true → s.now + w.settings.pause ≤ time)) :
    Course w s' := by
  have chronicle := c.chronicle_answered receiving on receipt cancels
  rw [State.answered_history] at more chronicle
  refine c.grow _ more ?_ ?_ ?_ (fun ok => absurd ok ended) chronicle ?_
  · rw [receiving, published]
    cases cancels <;> rfl
  · rw [cancelled, on]
    cases cancels <;> simp [State.answered, State.add, on, Happening.isCancellation]
  · rw [receiving, refused]
    rcases receipt with _ | _ | _ | _ <;> cases cancels <;> rfl
  · intro time calling
    obtain ⟨later, pause⟩ := paused time calling
    refine (c.paused s.now (by rw [receiving]; rfl)).more later s.now _ fun happening mem setback => ?_
    rcases List.mem_append.1 mem with cancelled | received
    · cases cancels with
      | true =>
        obtain rfl := List.mem_singleton.1 cancelled
        cases setback
      | false => cases cancelled
    · obtain rfl := List.mem_singleton.1 received
      exact pause setback

theorem inner_joinings (tasks : List Task) :
    ∀ happening ∈ State.joinings 0 tasks, happening.isInner = true := by
  intro happening mem
  obtain ⟨handler, how, rfl⟩ := State.joinings_cases tasks 0 happening mem
  rfl

theorem inner_waiting (left : Nat) :
    ∀ happening ∈ if left = 0 then [] else [Happening.waiting left], happening.isInner = true := by
  intro happening mem
  split at mem
  · cases mem
  · rw [List.mem_singleton.1 mem]
    rfl

theorem joinEnded (c : Course w s) : Course w s.joinEnded :=
  c.inner (State.joinings 0 s.tasks) rfl (inner_joinings s.tasks) rfl rfl rfl c.ended
    fun time calling => ⟨time, Nat.le_refl time, calling⟩

theorem stop (c : Course w s) {outcome : Outcome} (ends : s.phase.outcome? = some outcome)
    (listening : s.phase.published = [.listening]) : Course w (s.stop outcome) := by
  refine c.grow [.published .stopped] rfl ?_ ?_ ?_ ?_ ?_ nofun
  · rw [listening]
    rfl
  · exact (Bool.or_false _).symm
  · have same : (s.stop outcome).phase.outcome? = s.phase.outcome? := ends.symm
    rw [Phase.refusals, Phase.refusals, same]
    exact List.append_nil _
  · intro ok
    exact c.ended (ends.trans ok)
  · exact c.chronicle.snoc trivial

/-- The loop goes on. -/
theorem within (c : Course w s) (hs : List Happening)
    (more : s'.history = s.history ++ hs.map (s.now, ·))
    (inner : ∀ happening ∈ hs, happening.isInner = true) (was : s.phase.isOpen = true)
    (still : s'.phase.isOpen = true) (cancelled : s'.cancelled = s.cancelled)
    (calls : ∀ time, s'.phase.callsFrom? s'.now = some time →
      ∃ earlier ≤ time, s.phase.callsFrom? s.now = some earlier) : Course w s' := by
  obtain ⟨-, before, listening⟩ := Phase.of_isOpen was
  obtain ⟨outcome, after, listens⟩ := Phase.of_isOpen still
  refine c.inner hs more inner ?_ cancelled ?_ ?_ calls
  · rw [listening, listens]
  · rw [before, after]
  · rw [outcome]
    nofun

theorem step (c : Course w s) (h : Step w s move s') : Course w s' := by
  cases h with
  | start idle fits =>
    refine c.grow [.published .listening] rfl (by rw [idle]; rfl) (Bool.or_false _).symm (by rw [idle]; rfl)
      (by simp [Phase.outcome?]) (c.chronicle.snoc trivial) fun time calling => ?_
    exact (c.paused time (by rw [idle]; exact calling)).more (Nat.le_refl time) s.now _ (by simp [Happening.isSetback])
  | overflow idle exceeds =>
    exact c.grow [.published .listening] rfl (by rw [idle]; rfl) (Bool.or_false _).symm (by rw [idle]; rfl)
      (by simp [Phase.outcome?]) (c.chronicle.snoc trivial) (by simp [Phase.callsFrom?])
  | cancel =>
    refine c.grow [.cancelled] rfl (List.append_nil _) (Bool.or_true _).symm (List.append_nil _)
      (fun _ => rfl) (c.chronicle.snoc trivial) fun time calling => ?_
    exact (c.paused time calling).more (Nat.le_refl time) s.now _ (by simp [Happening.isSetback])
  | join joining =>
    exact c.joinEnded.within [] (by simp) (by simp) (by simp [joining, Phase.isOpen]) rfl rfl
      (by simp [joining, Phase.callsFrom?])
  | joinSome ending left => exact c.joinEnded
  | joinLast ending none =>
    obtain ⟨ends, listening⟩ := Phase.outcome?_of_ending ending
    exact c.joinEnded.stop ends listening
  | acquire acquiring on free =>
    exact c.within [] (by simp) (by simp) (by simp [acquiring, Phase.isOpen]) rfl rfl
      (by simp [acquiring, Phase.callsFrom?])
  | call ready on =>
    have paused := c.paused s.now (by rw [ready]; rfl)
    have goesOn := c.goesOn on (by rw [ready]; rfl)
    refine c.grow [.called] rfl (by rw [ready]; rfl) (Bool.or_false _).symm (by rw [ready]; rfl)
      (by simp [Phase.outcome?]) (c.chronicle.snoc ⟨goesOn, paused⟩) fun time calling => ?_
    cases calling
    exact paused.more (Nat.le_refl _) s.now _ (by simp [Happening.isSetback])
  | nothing receiving on cancels =>
    exact c.answered receiving on .nothing cancels rfl rfl rfl rfl (by simp [Phase.outcome?, State.again])
      (by simp [State.again, Phase.callsFrom?, Happening.isSetback])
  | handout receiving on h cancels =>
    exact c.answered receiving on (.handout h) cancels rfl rfl rfl rfl (by simp [Phase.outcome?])
      (by simp [Phase.callsFrom?, Happening.isSetback])
  | fatal receiving on reason cancels =>
    have refused : Course w { s.answered (.fault (.fatal reason)) cancels with
        phase := .draining (s.now + w.settings.drain) (.error (.fatal reason)) } :=
      c.answered receiving on _ cancels rfl rfl rfl rfl (by simp [Phase.outcome?]) (by simp [Phase.callsFrom?])
    exact refused.inner _ rfl (inner_waiting _) rfl rfl rfl (by simp [Phase.outcome?, State.leave])
      (by simp [Phase.callsFrom?, State.leave])
  | transient receiving on reason cancels =>
    exact c.answered receiving on (.fault (.transient reason)) cancels rfl rfl rfl rfl (by simp [Phase.outcome?])
      (by simp [Phase.callsFrom?])
  | resume pausing on passed =>
    exact c.within [] (by simp [State.again]) (by simp) (by simp [pausing, Phase.isOpen]) rfl rfl
      (by simp [pausing, Phase.callsFrom?, State.again, passed])
  | interrupt waiting off =>
    obtain ⟨-, refusals, listening⟩ := Phase.of_isOpen (Phase.isOpen_of_isWaiting waiting)
    exact c.inner _ rfl (inner_waiting _) listening.symm rfl refusals.symm (fun _ => off)
      (by simp [Phase.callsFrom?, State.leave])
  | expireLast draining passed none =>
    exact c.joinEnded.stop (by simp [draining, Phase.outcome?]) (by simp [draining, Phase.published])
  | giveUp draining passed left =>
    refine c.joinEnded.inner [.gaveUp _] rfl (by simp [Happening.isInner]) ?_ rfl ?_ ?_
      (by simp [Phase.callsFrom?])
    · simp [draining, Phase.published, State.add]
    · simp [draining, Phase.refusals, Phase.outcome?]
    · intro ok
      exact c.ended (by simpa [draining, Phase.outcome?] using ok)
  | @proceed handler t found ready =>
    exact c.inner _ rfl (by simp [Happening.isInner]) rfl rfl rfl c.ended fun time calling =>
      ⟨time, Nat.le_refl time, calling⟩
  | @abort handler t outcome aborting found live =>
    exact c.inner [_] rfl (by simp [Happening.isInner]) rfl rfl rfl c.ended fun time calling =>
      ⟨time, Nat.le_refl time, calling⟩
  | @wait till later =>
    exact c.inner [] (by simp) (by simp) rfl rfl rfl c.ended fun time => Phase.callsFrom?_later later

end Course

/-- In every run the loop keeps to its course. -/
theorem Reachable.course {w : World σ} {sink : σ} {s : State σ} (reach : Reachable w sink s) :
    Course w s :=
  Leads.induction (.initial w sink) Course.step reach

/-! ## Reading the course -/

/-- The broker refused the relay, and this was looked at before the relay was cancelled by anything but
the answer itself. -/
def State.RefusedWith (s : State σ) (reason : String) : Prop :=
  ∃ earlier time after, ∃ cancels : Bool, GoesOn earlier ∧
    s.history = earlier ++ (if cancels then [(time, .cancelled)] else []) ++
      (time, .received (.fault (.fatal reason))) :: after

section

variable {w : World σ} {s s' : State σ} {move : Move}

namespace Course

theorem stages_prefix (c : Course w s) : s.stages <+: [.idle, .listening, .stopped] := by
  rw [State.stages, c.stages]
  cases s.phase <;> exact ⟨_, rfl⟩

theorem stopped_mem_stages_iff (c : Course w s) :
    .stopped ∈ s.stages ↔ ∃ outcome, s.phase = .stopped outcome := by
  rw [State.stages, c.stages]
  cases s.phase <;> simp [Phase.published]

/-- A relay that has ended was refused just if it has ended so. -/
theorem refused_iff (c : Course w s) {outcome : Outcome} (ends : s.phase.outcome? = some outcome)
    (fault : BrokerFault) :
    outcome = .error fault ↔ ∃ reason, fault = .fatal reason ∧ s.RefusedWith reason := by
  have refusals : fault ∈ s.pick Happening.refusal? ↔ outcome = .error fault := by
    rw [c.refused, Phase.refusals, ends]
    cases outcome <;> simp [eq_comm]
  rw [← refusals, State.mem_pick]
  constructor
  · rintro ⟨time, happening, mem, refusal⟩
    obtain ⟨reason, rfl, rfl⟩ := Happening.refusal?_eq_some.1 refusal
    obtain ⟨before, after, split⟩ := List.append_of_mem mem
    obtain ⟨earlier, cancels, goesOn, rfl⟩ := c.chronicle before _ after split
    exact ⟨reason, rfl, earlier, time, after, cancels, goesOn, split⟩
  · rintro ⟨reason, rfl, earlier, time, after, cancels, -, split⟩
    exact ⟨time, .received (.fault (.fatal reason)), by simp [split], rfl⟩

theorem cancelled_of_ok (c : Course w s) (ends : s.phase.outcome? = some (.ok ())) :
    ∃ time, (time, .cancelled) ∈ s.history := by
  have cancelled := c.ended ends
  rw [c.cancelled, List.any_eq_true] at cancelled
  obtain ⟨⟨time, happening⟩, mem, cancels⟩ := cancelled
  cases happening with
  | cancelled => exact ⟨time, mem⟩
  | _ => cases cancels

end Course

/-- The loop is ended by a cancellation that it finds, or by a broker that refuses it. -/
theorem Step.ends (h : Step w s move s') (receives : s.phase.outcome? = none) {outcome : Outcome}
    (ends : s'.phase.outcome? = some outcome) :
    (move = .interrupt ∧ s.cancelled = true ∧ outcome = .ok ()) ∨
      ∃ reason cancels, move = .receive (.fault (.fatal reason)) cancels ∧ s.cancelled = false ∧
        outcome = .error (.fatal reason) := by
  have still {p : Phase} (same : p = s.phase) (ends : p.outcome? = some outcome) : False := by
    rw [same, receives] at ends
    cases ends
  cases h with
  | interrupt waiting off =>
    cases ends
    exact .inl ⟨rfl, off, rfl⟩
  | fatal receiving on reason cancels =>
    cases ends
    exact .inr ⟨reason, cancels, rfl, on, rfl⟩
  | joinLast ending none =>
    rw [(Phase.outcome?_of_ending ending).1] at receives
    cases receives
  | expireLast draining passed none | giveUp draining passed left =>
    rw [draining] at receives
    cases receives
  | cancel | joinSome ending left | proceed found ready | abort aborting found live | wait later =>
    exact (still rfl ends).elim
  | _ => cases ends

end

/-- **The life of the relay.** It is idle, then it listens, then it stops, each once, and it has stopped
just when it has published so. It calls the broker only while it was neither cancelled nor refused and
after every pause that was due. It ends with a fault just if the broker has refused it so before it was
cancelled, and in peace only if it was cancelled. Whatever handlers do, crash with or are told by the
sink and the broker, and whatever else the broker answers, the loop goes on: only a cancellation that it
finds or a refusal ends it. -/
theorem ends_only_when_told (w : World σ) (sink : σ) (s : State σ) (reach : Reachable w sink s) :
    s.stages <+: [.idle, .listening, .stopped] ∧
      (.stopped ∈ s.stages ↔ ∃ outcome, s.phase = .stopped outcome) ∧
      (∀ before time after, s.history = before ++ (time, .called) :: after →
        GoesOn before ∧ Paused w before time) ∧
      (∀ outcome, s.phase = .stopped outcome →
        (∀ fault, outcome = .error fault ↔ ∃ reason, fault = .fatal reason ∧ s.RefusedWith reason) ∧
          (outcome = .ok () → ∃ time, (time, .cancelled) ∈ s.history)) ∧
      ∀ move s', s.step w move = some s' → s.phase.outcome? = none →
        ∀ outcome, s'.phase.outcome? = some outcome →
          (move = .interrupt ∧ s.cancelled = true ∧ outcome = .ok ()) ∨
            ∃ reason cancels, move = .receive (.fault (.fatal reason)) cancels ∧ s.cancelled = false ∧
              outcome = .error (.fatal reason) := by
  have c := reach.course
  refine ⟨c.stages_prefix, c.stopped_mem_stages_iff, ?_, ?_, ?_⟩
  · intro before time after split
    exact c.chronicle before (time, .called) after split
  · intro outcome stopped
    have ends : s.phase.outcome? = some outcome := by rw [stopped]; rfl
    refine ⟨c.refused_iff ends, ?_⟩
    rintro rfl
    exact c.cancelled_of_ok ends
  · intro move s' made receives outcome ends
    exact (State.step_cases made).ends receives ends

namespace Sample

/-- The broker is busy, hands out two messages, has no more, and in the end refuses the relay. -/
def troubles : Script where
  items := [{ receipt := .fault (.transient "busy") }, { receipt := .handout first },
    { receipt := .handout second }, { delay := 5 }, { delay := 5, receipt := .fault (.fatal "gone") }]

/-- How the relay ends when it is refused. The handling of the second message has crashed. -/
def refused : State Nat := runScript world troubles 0

end Sample

/-- A relay that is refused ends so, and it has paused before it called again. -/
theorem ends_only_when_told_refused : Reachable Sample.world 0 Sample.refused ∧
    Sample.refused.phase = .stopped (.error (.fatal "gone")) ∧ .stopped ∈ Sample.refused.stages ∧
    Sample.refused.RefusedWith "gone" ∧ ∃ before after,
      Sample.refused.history = before ++ (1000, .called) :: after ∧ Paused Sample.world before 1000 := by
  have reach : Reachable Sample.world 0 Sample.refused := runScript_reachable ..
  have stopped : Sample.refused.phase = .stopped (.error (.fatal "gone")) := rfl
  obtain ⟨-, published, calls, ends, -⟩ := ends_only_when_told Sample.world 0 Sample.refused reach
  obtain ⟨reason, same, refused⟩ := ((ends _ stopped).1 (.fatal "gone")).1 rfl
  cases same
  have called : (1000, Happening.called) ∈ Sample.refused.history := List.mem_of_getElem? (i := 3) rfl
  obtain ⟨before, after, again⟩ := List.append_of_mem called
  exact ⟨reach, stopped, published.2 ⟨_, stopped⟩, refused, before, after, again, (calls _ _ _ again).2⟩

end BusRelay.Relay
