import BusRelay.Proofs.Relay.Step
import BusRelay.Proofs.Relay.Trail
/-!
# The crew

What the history tells of the handlers. `Manned` says that there is one handler for every delivery,
that each has left its trail in the history, and that it is joined once, as it has ended. Every run
keeps it (`Reachable.manned`).
-/

namespace BusRelay.Relay

variable {σ : Type}

/-! ## Reading the history -/

namespace Happening

def handout? : Happening → Option Handout
  | received (.handout h) => some h
  | _ => none

/-- What this handler has done. -/
def deed? (handler : Nat) : Happening → Option Deed
  | did number deed => if number = handler then some deed else none
  | _ => none

/-- How this handler was found when it was joined. -/
def joined? (handler : Nat) : Happening → Option Ending
  | joined number how => if number = handler then some how else none
  | _ => none

/-- Who reports to the observer, and what. -/
def report? : Happening → Option (Nat × HandlingResult)
  | did handler (.ended (.reported result)) => some (handler, result)
  | _ => none

/-- Whether a happening is about no handler. -/
def isAside : Happening → Bool
  | received (.handout _) | did .. | joined .. => false
  | _ => true

section

variable {happening : Happening} (aside : happening.isAside = true)

include aside

theorem handout?_of_aside : happening.handout? = none := by
  cases happening with
  | received receipt => cases receipt <;> first | rfl | cases aside
  | _ => rfl

theorem deed?_of_aside (handler : Nat) : happening.deed? handler = none := by
  cases happening <;> first | rfl | cases aside

theorem joined?_of_aside (handler : Nat) : happening.joined? handler = none := by
  cases happening <;> first | rfl | cases aside

end

/-- What one handler does, another does not. -/
theorem deeds_did (handler number : Nat) (deeds : List Deed) :
    (deeds.map (did number)).filterMap (deed? handler) = if number = handler then deeds else [] := by
  split
  · simp [List.filterMap_map, Function.comp_def, deed?, *]
  · simp [List.filterMap_map, Function.comp_def, deed?, *]

end Happening

namespace State

/-- What the history holds of one kind. -/
def pick {α : Type} (s : State σ) (kind : Happening → Option α) : List α :=
  s.history.filterMap fun (_, happening) => kind happening

/-- What was received, in this order. -/
def received (s : State σ) : List Handout := s.pick Happening.handout?

/-- What a handler has done so far. -/
def deeds (s : State σ) (handler : Nat) : List Deed := s.pick (Happening.deed? handler)

/-- How a handler has ended, each time that it was joined. -/
def joins (s : State σ) (handler : Nat) : List Ending := s.pick (Happening.joined? handler)

theorem mem_pick {α : Type} {s : State σ} {kind : Happening → Option α} {a : α} :
    a ∈ s.pick kind ↔ ∃ time happening, (time, happening) ∈ s.history ∧ kind happening = some a := by
  simp [pick]

theorem mem_deeds {s : State σ} {handler : Nat} {deed : Deed} :
    deed ∈ s.deeds handler ↔ ∃ time, (time, .did handler deed) ∈ s.history := by
  rw [deeds, mem_pick]
  constructor
  · rintro ⟨time, happening, told, same⟩
    cases happening with
    | did number other =>
      obtain ⟨rfl, rfl⟩ : number = handler ∧ other = deed := by simpa [Happening.deed?] using same
      exact ⟨time, told⟩
    | _ => cases same
  · rintro ⟨time, told⟩
    exact ⟨time, _, told, by simp [Happening.deed?]⟩

theorem mem_joins {s : State σ} {handler : Nat} {how : Ending} :
    how ∈ s.joins handler ↔ ∃ time, (time, .joined handler how) ∈ s.history := by
  rw [joins, mem_pick]
  constructor
  · rintro ⟨time, happening, told, same⟩
    cases happening with
    | joined number other =>
      obtain ⟨rfl, rfl⟩ : number = handler ∧ other = how := by simpa [Happening.joined?] using same
      exact ⟨time, told⟩
    | _ => cases same
  · rintro ⟨time, told⟩
    exact ⟨time, _, told, by simp [Happening.joined?]⟩

/-- What the observer is told: by which handler, the id of its message, and the result. -/
def told (s : State σ) : List (Nat × Option MessageId × HandlingResult) :=
  (s.pick Happening.report?).map fun (handler, result) =>
    (handler, s.tasks[handler]?.map (·.handout.id), result)

/-- What a handler reports is what it ends with. -/
theorem told_of (s : State σ) (handler : Nat) : s.told.filter (·.1 = handler) =
    ((endingsOf (s.deeds handler)).filterMap Ending.result?).map
      fun result => (handler, s.tasks[handler]?.map (·.handout.id), result) := by
  simp only [told, deeds, pick, endingsOf, List.filter_filterMap, List.filterMap_filterMap,
    List.map_filterMap]
  refine congrArg (List.filterMap · s.history) (funext fun (time, happening) => ?_)
  cases happening with
  | did number deed =>
    cases deed with
    | ended how => cases how <;> by_cases same : number = handler <;>
        simp [Happening.report?, Happening.deed?, Deed.ending?, Ending.result?, same, Option.filter]
    | _ => by_cases same : number = handler <;>
        simp [Happening.report?, Happening.deed?, Deed.ending?, same]
  | _ => rfl

theorem mem_told {s : State σ} {handler : Nat} {id : Option MessageId} {result : HandlingResult} :
    (handler, id, result) ∈ s.told ↔ .ended (.reported result) ∈ s.deeds handler ∧
      id = s.tasks[handler]?.map (·.handout.id) := by
  have own : (handler, id, result) ∈ s.told ↔
      (handler, id, result) ∈ s.told.filter (·.1 = handler) := by simp
  rw [own, told_of, List.mem_map]
  constructor
  · rintro ⟨reported, mem, same⟩
    obtain ⟨how, mem, reports⟩ := List.mem_filterMap.1 mem
    cases how with
    | reported result' =>
      cases reports
      cases same
      exact ⟨mem_endingsOf.1 mem, rfl⟩
    | _ => cases reports
  · rintro ⟨mem, rfl⟩
    exact ⟨result, List.mem_filterMap.2 ⟨_, mem_endingsOf.2 mem, rfl⟩, rfl⟩

section

variable {α : Type} {s s' : State σ} {hs : List Happening}
  (more : s'.history = s.history ++ hs.map (s.now, ·)) (kind : Happening → Option α)

include more

/-- What is added to the history adds to what it holds of one kind. -/
theorem pick_of_more : s'.pick kind = s.pick kind ++ hs.filterMap kind := by
  rw [pick, more, List.filterMap_append, List.filterMap_map]
  rfl

theorem pick_of_none (none : ∀ happening ∈ hs, kind happening = none) : s'.pick kind = s.pick kind := by
  rw [pick_of_more more, List.filterMap_eq_nil_iff.2 none, List.append_nil]

end

/-- How a task ends that is joined now. -/
def joining? (t : Task) : Option Ending := if t.joined then none else t.work.ending?

theorem joins_joinings (tasks : List Task) (first handler : Nat) :
    (joinings first tasks).filterMap (Happening.joined? handler) =
      if first ≤ handler then (tasks[handler - first]?.bind joining?).toList else [] := by
  induction tasks generalizing first with
  | nil => simp [joinings]
  | cons t rest ih =>
    have head : (joinings first (t :: rest)).filterMap (Happening.joined? handler) =
        (if first = handler then (joining? t).toList else []) ++
          (joinings (first + 1) rest).filterMap (Happening.joined? handler) := by
      cases work : t.work with
      | ended how =>
        cases done : t.joined <;> by_cases same : first = handler <;>
          simp [joinings, joining?, Work.ending?, Happening.joined?, work, done, same]
      | _ => simp [joinings, joining?, Work.ending?, work]
    rw [head, ih]
    rcases Nat.lt_trichotomy first handler with less | rfl | more
    · obtain ⟨distance, rfl⟩ := Nat.exists_eq_add_of_lt less
      have one : first + distance + 1 - first = distance + 1 := by omega
      have two : first + distance + 1 - (first + 1) = distance := by omega
      have apart : first ≠ first + distance + 1 := by omega
      have later : first + 1 ≤ first + distance + 1 := by omega
      rw [one, two, if_neg apart, if_pos later, if_pos (Nat.le_of_lt less)]
      rfl
    · have passed : ¬first + 1 ≤ first := by omega
      simp [passed]
    · have apart : first ≠ handler := by omega
      have later : ¬first + 1 ≤ handler := by omega
      rw [if_neg apart, if_neg later, if_neg (Nat.not_le.2 more)]
      rfl

end State

/-! ## The invariant -/

/-- What a handler has left behind: its trail, and how it has ended once it is joined. -/
structure Account (processor : Processor) (t : Task) (deeds : List Deed) (joins : List Ending) : Prop where
  trail : Trail processor t.handout t.work deeds
  joins : joins = if t.joined then t.work.ending?.toList else []
  ended : t.joined = true → t.isLive = false

/-- There is a handler for every delivery that was received, and the history tells of each what it has
done. When the relay has stopped, all are joined. -/
structure Manned (processor : Processor) (s : State σ) : Prop where
  received : s.received = s.tasks.map (·.handout)
  account : ∀ i t, s.tasks[i]? = some t → Account processor t (s.deeds i) (s.joins i)
  absent : ∀ i, s.tasks[i]? = none → s.deeds i = [] ∧ s.joins i = []
  stopped : ∀ outcome, s.phase = .stopped outcome → s.unjoined = []

theorem Account.queued (processor : Processor) (h : Handout) :
    Account processor { handout := h } [] [] := ⟨.queued, rfl, nofun⟩

/-- A handler that has ended is joined as it has ended. -/
theorem Account.join {processor : Processor} {t : Task} {deeds : List Deed} {joins : List Ending}
    (a : Account processor t deeds joins) :
    Account processor t.join deeds (joins ++ (State.joining? t).toList) := by
  have same : t.join.work = t.work := rfl
  cases done : t.joined with
  | true =>
    refine ⟨a.trail, ?_, fun _ => a.ended done⟩
    simp [a.joins, Task.join, State.joining?, done]
  | false =>
    refine ⟨a.trail, ?_, ?_⟩
    · cases work : t.work <;>
        simp [a.joins, Task.join, State.joining?, Task.isLive, Work.isEnded, Work.ending?, done, work]
    · intro joined
      have ends : t.isLive = false := by simpa [Task.join, done] using joined
      exact ends

/-- A live handler goes on along its trail. -/
theorem Account.work {processor : Processor} {t : Task} {deeds more : List Deed} {joins : List Ending}
    {work : Work} (a : Account processor t deeds joins) (live : t.isLive = true)
    (trail : Trail processor t.handout work (deeds ++ more)) :
    Account processor { t with work } (deeds ++ more) joins := by
  have unjoined : t.joined = false := by
    cases done : t.joined with
    | false => rfl
    | true => simp [a.ended done] at live
  refine ⟨trail, ?_, ?_⟩
  · simp [a.joins, unjoined]
  · simp [unjoined]

namespace Manned

variable {processor : Processor} {w : World σ} {s s' : State σ} {move : Move}

theorem initial (processor : Processor) (sink : σ) : Manned processor (State.initial sink) :=
  ⟨rfl, by simp [State.initial], fun _ _ => ⟨rfl, rfl⟩, by simp [State.initial]⟩

/-- What is about no handler does not matter. -/
theorem aside (m : Manned processor s) (hs : List Happening) (tasks : s'.tasks = s.tasks)
    (more : s'.history = s.history ++ hs.map (s.now, ·)) (aside : hs.all Happening.isAside = true)
    (stopped : ∀ outcome, s'.phase = .stopped outcome → s'.unjoined = []) : Manned processor s' := by
  have aside := List.all_eq_true.1 aside
  have deeds (i : Nat) : s'.deeds i = s.deeds i :=
    State.pick_of_none more _ fun _ mem => Happening.deed?_of_aside (aside _ mem) i
  have joins (i : Nat) : s'.joins i = s.joins i :=
    State.pick_of_none more _ fun _ mem => Happening.joined?_of_aside (aside _ mem) i
  have received : s'.received = s.received :=
    State.pick_of_none more _ fun _ mem => Happening.handout?_of_aside (aside _ mem)
  refine ⟨?_, ?_, ?_, stopped⟩
  · rw [received, tasks]
    exact m.received
  · intro i t found
    rw [tasks] at found
    rw [deeds, joins]
    exact m.account i t found
  · intro i none
    rw [tasks] at none
    rw [deeds, joins]
    exact m.absent i none

/-- The loop ends and does not look for handlers yet. -/
theorem leave (m : Manned processor s) (outcome : Outcome) : Manned processor (s.leave w outcome) := by
  refine m.aside (if s.unjoined.length = 0 then [] else [.waiting s.unjoined.length]) rfl rfl ?_ nofun
  split <;> rfl

/-- A delivery gets a handler of its own. -/
theorem taken (m : Manned processor s) (h : Handout) (cancels : Bool)
    (tasks : s'.tasks = s.tasks ++ [{ handout := h }])
    (more : s'.history = (s.answered (.handout h) cancels).history)
    (going : ∀ outcome, s'.phase ≠ .stopped outcome) : Manned processor s' := by
  rw [State.answered_history] at more
  have deeds (i : Nat) : s'.deeds i = s.deeds i :=
    State.pick_of_none more _ (by cases cancels <;> simp [Happening.deed?])
  have joins (i : Nat) : s'.joins i = s.joins i :=
    State.pick_of_none more _ (by cases cancels <;> simp [Happening.joined?])
  have received : s'.received = s.received ++ [h] := by
    rw [State.received, State.pick_of_more more]
    cases cancels <;> rfl
  refine ⟨?_, ?_, ?_, fun outcome stopped => absurd stopped (going outcome)⟩
  · rw [received, tasks, m.received, List.map_append]
    rfl
  · intro i t found
    rw [deeds, joins]
    rw [tasks] at found
    rcases Nat.lt_trichotomy i s.tasks.length with less | rfl | more
    · rw [List.getElem?_append_left less] at found
      exact m.account i t found
    · obtain ⟨noDeeds, noJoins⟩ := m.absent s.tasks.length (by simp)
      rw [noDeeds, noJoins]
      obtain rfl : { handout := h } = t := by simpa using found
      exact .queued processor h
    · have none : (s.tasks ++ [{ handout := h }])[i]? = none := by simp; omega
      rw [none] at found
      cases found
  · intro i none
    rw [deeds, joins]
    rw [tasks] at none
    have beyond : s.tasks.length ≤ i := by
      simp at none
      omega
    exact m.absent i (List.getElem?_eq_none beyond)

/-- What is joined now was not joined before. -/
theorem joinEnded (m : Manned processor s) : Manned processor s.joinEnded := by
  have more : s.joinEnded.history = s.history ++ (State.joinings 0 s.tasks).map (s.now, ·) := rfl
  have joinings := State.joinings_cases s.tasks 0
  have tasks (i : Nat) : s.joinEnded.tasks[i]? = s.tasks[i]?.map Task.join := List.getElem?_map
  have deeds (i : Nat) : s.joinEnded.deeds i = s.deeds i := by
    refine State.pick_of_none more _ fun happening mem => ?_
    obtain ⟨number, how, rfl⟩ := joinings happening mem
    rfl
  have received : s.joinEnded.received = s.received := by
    refine State.pick_of_none more _ fun happening mem => ?_
    obtain ⟨number, how, rfl⟩ := joinings happening mem
    rfl
  have joins (i : Nat) :
      s.joinEnded.joins i = s.joins i ++ (s.tasks[i]?.bind State.joining?).toList := by
    rw [State.joins, State.pick_of_more more, State.joins_joinings]
    simp [State.joins]
  refine ⟨?_, ?_, ?_, ?_⟩
  · rw [received, m.received]
    simp [State.joinEnded, Task.join]
  · intro i t found
    rw [tasks] at found
    obtain ⟨before, was, rfl⟩ := Option.map_eq_some_iff.1 found
    rw [deeds, joins, was]
    exact (m.account i before was).join
  · intro i none
    rw [tasks] at none
    have none := Option.map_eq_none_iff.1 none
    rw [deeds, joins, none, Option.bind_none, Option.toList_none, List.append_nil]
    exact m.absent i none
  · exact fun outcome stopped => State.unjoined_joinEnded (m.stopped outcome stopped)

/-- A live handler does something, and nobody else. -/
theorem work (m : Manned processor s) {handler : Nat} {t : Task} {work : Work} (did : List Deed)
    (found : s.tasks[handler]? = some t) (live : t.isLive = true)
    (tasks : s'.tasks = s.tasks.modify handler fun t => { t with work })
    (more : s'.history = s.history ++ (did.map (.did handler)).map (s.now, ·))
    (phase : s'.phase = s.phase)
    (trail : ∀ {deeds}, Trail processor t.handout t.work deeds →
      Trail processor t.handout work (deeds ++ did)) : Manned processor s' := by
  have deeds (i : Nat) : s'.deeds i = s.deeds i ++ if handler = i then did else [] := by
    rw [State.deeds, State.pick_of_more more, Happening.deeds_did]
    rfl
  have joins (i : Nat) : s'.joins i = s.joins i :=
    State.pick_of_none more _ (by simp [Happening.joined?])
  have received : s'.received = s.received :=
    State.pick_of_none more _ (by simp [Happening.handout?])
  refine ⟨?_, ?_, ?_, ?_⟩
  · rw [received, m.received, tasks, map_modify_work _ fun _ _ => rfl]
  · intro i after now
    rw [tasks, List.getElem?_modify] at now
    rw [deeds, joins]
    by_cases same : handler = i
    · subst same
      obtain rfl : { t with work } = after := by simpa [found] using now
      have account := m.account handler t found
      rw [if_pos rfl]
      exact account.work live (trail account.trail)
    · rw [if_neg same, List.append_nil]
      exact m.account i after (by simpa [same] using now)
  · intro i nobody
    have missing : s.tasks[i]? = none := by
      rw [tasks] at nobody
      simpa using nobody
    have apart : handler ≠ i := by
      rintro rfl
      rw [found] at missing
      cases missing
    rw [deeds, joins, if_neg apart, List.append_nil]
    exact m.absent i missing
  · intro outcome stopped
    have none := m.stopped outcome (phase ▸ stopped)
    have all := List.filter_eq_nil_iff.1 none t (List.mem_of_getElem? found)
    have joined : t.joined = true := by simpa using all
    rw [(m.account handler t found).ended joined] at live
    cases live

theorem step (m : Manned w.processor s) (h : Step w s move s') : Manned w.processor s' := by
  cases h with
  | start idle fits => exact m.aside [.published .listening] rfl rfl rfl nofun
  | overflow idle exceeds => exact m.aside [.published .listening] rfl rfl rfl nofun
  | cancel => exact m.aside [.cancelled] rfl rfl rfl m.stopped
  | join joining => exact m.joinEnded.aside [] rfl (by simp) rfl nofun
  | joinSome ending left => exact m.joinEnded
  | joinLast ending none => exact m.joinEnded.aside [.published .stopped] rfl rfl rfl fun _ _ => none
  | acquire acquiring on free => exact m.aside [] rfl (by simp) rfl nofun
  | call ready on => exact m.aside [.called] rfl rfl rfl nofun
  | nothing receiving on cancels =>
    refine m.aside _ (by simp [State.again]) (State.answered_history s .nothing cancels) ?_ nofun
    cases cancels <;> rfl
  | handout receiving on h cancels => exact m.taken h cancels rfl rfl nofun
  | fatal receiving on reason cancels =>
    have answered : Manned w.processor (s.answered (.fault (.fatal reason)) cancels) := by
      refine m.aside _ (by simp) (State.answered_history s _ cancels) ?_ (by simp [receiving])
      cases cancels <;> rfl
    exact answered.leave _
  | transient receiving on reason cancels =>
    refine m.aside _ (by simp) (State.answered_history s (.fault (.transient reason)) cancels) ?_ nofun
    cases cancels <;> rfl
  | resume pausing on passed => exact m.aside [] rfl (by simp [State.again]) rfl nofun
  | interrupt waiting off => exact m.leave _
  | expireLast draining passed none =>
    exact m.joinEnded.aside [.published .stopped] rfl rfl rfl fun _ _ => none
  | giveUp draining passed left => exact m.joinEnded.aside [.gaveUp _] rfl rfl rfl nofun
  | @proceed handler t found ready =>
    have live := Task.isLive_of_isReady ready
    have working : t.work.isEnded = false := by simpa [Task.isLive] using live
    exact m.work _ found live rfl rfl rfl fun trail => trail.proceed w.sink s.now s.sink working
  | @abort handler t outcome aborting found live =>
    have working : t.work.isEnded = false := by simpa [Task.isLive] using live
    exact m.work [.ended .aborted] found live rfl rfl rfl fun trail => trail.abort working
  | wait later => exact m.aside [] rfl (by simp) rfl m.stopped

section

variable (m : Manned processor s) {i : Nat}

include m

/-- The handler of a delivery is on its trail. -/
theorem trail {h : Handout} (given : s.received[i]? = some h) :
    ∃ t, s.tasks[i]? = some t ∧ t.handout = h ∧ Trail processor h t.work (s.deeds i) := by
  rw [m.received, List.getElem?_map] at given
  obtain ⟨t, found, rfl⟩ := Option.map_eq_some_iff.1 given
  exact ⟨t, found, rfl, (m.account i t found).trail⟩

/-- Nobody does anything for a delivery that was not received. -/
theorem deeds_none (nothing : s.received[i]? = none) : s.deeds i = [] := by
  rw [m.received, List.getElem?_map] at nothing
  exact (m.absent i (Option.map_eq_none_iff.1 nothing)).1

/-- When the relay has stopped, each handler has ended and is joined. -/
theorem ended_of_stopped {outcome : Outcome} (stopped : s.phase = .stopped outcome) {t : Task}
    (found : s.tasks[i]? = some t) : ∃ how, t.work = .ended how ∧ endingsOf (s.deeds i) = [how] ∧
      s.joins i = [how] := by
  have account := m.account i t found
  have joined : t.joined = true := by
    have all := List.filter_eq_nil_iff.1 (m.stopped outcome stopped) t (List.mem_of_getElem? found)
    simpa using all
  have ended := account.ended joined
  cases work : t.work with
  | ended how =>
    refine ⟨how, rfl, ?_, ?_⟩
    · rw [account.trail.endings, work]
      rfl
    · rw [account.joins, joined, work]
      rfl
  | _ => simp [Task.isLive, Work.isEnded, work] at ended

end

end Manned

/-- In every state of every run the history tells of each handler what it has done. -/
theorem Reachable.manned {w : World σ} {sink : σ} {s : State σ} (reach : Reachable w sink s) :
    Manned w.processor s :=
  Leads.induction (.initial w.processor sink) Manned.step reach

end BusRelay.Relay
