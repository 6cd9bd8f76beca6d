import BusRelay.Proofs.Relay.Winding
/-!
# What becomes of a handler

In a prompt run a handler goes on whenever it can. Given what the sink has in store for it, it therefore
ends when and how it would if it were left to itself, unless it is aborted, and this is not before its
time is up (`Winding.upshot`).
-/

namespace BusRelay.Relay

variable {σ : Type}

/-! ## Staying ended -/

section

variable {w : World σ} {s s' : State σ} {i : Nat} {t : Task}

theorem Leads.history (h : Leads w s s') : s.history <+: s'.history := by
  refine Leads.induction (P := fun s' => s.history <+: s'.history) (List.prefix_refl _) ?_ h
  intro mid next move before step
  obtain ⟨hs, more, -⟩ := step.more
  exact before.trans (more ▸ List.prefix_append _ _)

/-- The history tells of the past. -/
theorem Leads.past (h : Leads w s s') (past : ∀ entry ∈ s.history, entry.1 ≤ s.now) :
    ∀ entry ∈ s'.history, entry.1 ≤ s'.now := by
  refine Leads.induction (P := fun s => ∀ entry ∈ s.history, entry.1 ≤ s.now) past ?_ h
  intro mid next move before step entry mem
  have later : mid.now ≤ next.now := by
    rw [step.now]
    cases step with
    | wait later => exact later
    | _ => exact Nat.le_refl _
  obtain ⟨hs, more, -⟩ := step.more
  rcases (mem_of_more more).1 mem with old | ⟨same, -⟩
  · exact Nat.le_trans (before entry old) later
  · exact same ▸ later

/-- A handler that has ended stays as it is. -/
theorem Leads.ended (h : Leads w s s') (found : s.tasks[i]? = some t) {how : Ending}
    (ended : t.work = .ended how) :
    ∃ t', s'.tasks[i]? = some t' ∧ t'.handout = t.handout ∧ t'.work = .ended how := by
  refine Leads.induction (w := w) (P := fun s' =>
    ∃ t', s'.tasks[i]? = some t' ∧ t'.handout = t.handout ∧ t'.work = .ended how) ⟨t, found, rfl, ended⟩ ?_ h
  rintro mid next move ⟨t', found, handout, ended⟩ step
  obtain ⟨after, did, hs, now, conduct, -, -⟩ := step.conduct found
  cases conduct with
  | rests idle same work => exact ⟨after, now, same.trans handout, work.trans ended⟩
  | proceeds ready =>
    rw [ended] at ready
    cases ready
  | aborted aborting live => simp [Task.isLive, ended, Work.isEnded] at live

/-- A handler that ends when it goes on says so, and was not aborted. -/
theorem Trail.ends_itself {processor : Processor} {h : Handout} {work : Work} {deeds : List Deed}
    {sink : TimedSink σ} {now : Nat} {state : σ} {how : Ending} (trail : Trail processor h work deeds)
    (live : work.isEnded = false)
    (ended : (Relay.proceed processor sink now h state work).work = .ended how) :
    how ≠ .aborted ∧ .ended how ∈ (Relay.proceed processor sink now h state work).deeds := by
  have after := (trail.proceed sink now state live).endings
  rw [endingsOf_append, endingsOf_of_open (trail.plain_of_live live), ended] at after
  have last : .ended how ∈ (Relay.proceed processor sink now h state work).deeds := by
    rw [← mem_endingsOf, ← List.nil_append (endingsOf _), after]
    exact List.mem_singleton_self how
  refine ⟨?_, last⟩
  rintro rfl
  exact aborted_not_mem_proceed sink now h state processor work last

end

/-! ## Replies -/

namespace State

/-- What the sink replies to a handler in a move. -/
def replies (w : World σ) (handler : Nat) (s : State σ) : Move → List (Reply SendAnswer)
  | .proceed actor => match s.tasks[actor]? with
    | some t =>
      if actor = handler then
        repliesOf w.sink s.sink (Relay.proceed w.processor w.sink s.now t.handout s.sink t.work).deeds
      else []
    | none => []
  | _ => []

/-- What the sink replies to a handler in a run. -/
def repliesTo (w : World σ) (handler : Nat) : State σ → List Move → List (Reply SendAnswer)
  | _, [] => []
  | s, move :: rest => s.replies w handler move ++ match s.step w move with
    | some s' => repliesTo w handler s' rest
    | none => []

variable {w : World σ} {s s' : State σ} {move : Move} {handler : Nat}

theorem repliesTo_cons (step : Step w s move s') (rest : List Move) :
    s.repliesTo w handler (move :: rest) = s.replies w handler move ++ s'.repliesTo w handler rest := by
  rw [repliesTo, step_iff.2 step]

/-- A handler that does not go on gets no reply. -/
theorem replies_of_idle (idle : move ≠ .proceed handler) : s.replies w handler move = [] := by
  cases move with
  | proceed actor =>
    have other : actor ≠ handler := fun same => idle (same ▸ rfl)
    simp only [replies, if_neg other]
    split <;> rfl
  | _ => rfl

theorem replies_proceed {t : Task} (found : s.tasks[handler]? = some t) :
    s.replies w handler (.proceed handler) = repliesOf w.sink s.sink
      (Relay.proceed w.processor w.sink s.now t.handout s.sink t.work).deeds := by
  simp [replies, found]

end State

/-! ## The upshot -/

/-- What has become of a handler by the time of a state, if from `now` on these replies are in store for it:
it goes on, or it has ended as it would if it were left to itself, or it was aborted at the deadline. -/
inductive Upshot (processor : Processor) (h : Handout) (deadline : Nat) (s' : State σ) (i now : Nat)
    (plan : List (Reply SendAnswer)) (work : Work) : Prop where
  | goesOn {t : Task} (found : s'.tasks[i]? = some t) (live : t.isLive = true)
  | ended {t : Task} {late : Nat} {how : Ending} (found : s'.tasks[i]? = some t)
      (handout : t.handout = h) (ended : t.work = .ended how) (itself : how ≠ .aborted)
      (told : (late, .did i (.ended how)) ∈ s'.history) (ends : EndsAt processor h now plan work late how)
  | aborted {t : Task} (found : s'.tasks[i]? = some t) (ended : t.work = .ended .aborted)
      (late : ∀ late how, EndsAt processor h now plan work late how → deadline ≤ late)

section

variable {processor : Processor} {h : Handout} {deadline : Nat} {s' : State σ} {i now now' : Nat}
  {plan plan' : List (Reply SendAnswer)} {work work' : Work}

/-- If a handler ends in the same way from another time on, the same becomes of it. -/
theorem Upshot.congr (upshot : Upshot processor h deadline s' i now' plan' work')
    (same : ∀ late how, EndsAt processor h now plan work late how ↔
      EndsAt processor h now' plan' work' late how) :
    Upshot processor h deadline s' i now plan work := by
  cases upshot with
  | goesOn found live => exact .goesOn found live
  | ended found handout ended itself told ends =>
    exact .ended found handout ended itself told ((same _ _).2 ends)
  | aborted found ended late =>
    exact .aborted found ended fun time how ends => late time how ((same _ _).1 ends)

end

section

variable {w : World σ} {s s' : State σ} {i : Nat} {t : Task}

theorem State.isReady_of_isQuiet (quiet : s.isQuiet = true) (found : s.tasks[i]? = some t) :
    t.work.isReady s.now = false := by
  simp only [State.isQuiet, Bool.and_eq_true, List.all_eq_true, Bool.not_eq_true'] at quiet
  exact quiet.1 t (List.mem_of_getElem? found)

/-- What a handler does in a step stands in the history. -/
theorem mem_history_of_did {hs : List Happening} {now : Nat} {deed : Deed}
    (more : s'.history = s.history ++ hs.map (now, ·)) (did : deed ∈ hs.filterMap (Happening.deed? i)) :
    (now, .did i deed) ∈ s'.history := by
  obtain ⟨happening, mem, acts⟩ := List.mem_filterMap.1 did
  have same : happening = .did i deed := by
    cases happening with
    | did actor act =>
      simp only [Happening.deed?, Option.ite_none_right_eq_some, Option.some.injEq] at acts
      rw [acts.1, acts.2]
    | _ => cases acts
  exact (mem_of_more more).2 (.inr ⟨rfl, same ▸ mem⟩)

/-- In a prompt run a handler ends as it would if it were left to itself, or it is aborted while
the loop aborts, which is at the deadline. -/
theorem Winding.upshot {deadline : Nat} {outcome : Outcome} {moves : List Move}
    {plan : List (Reply SendAnswer)} (c : Winding w deadline outcome s) (found : s.tasks[i]? = some t)
    (live : t.isLive = true) (run : s.runPromptly w moves = some s') (replies : s.repliesTo w i moves <+: plan) :
    Upshot w.processor t.handout deadline s' i s.now plan t.work := by
  induction moves generalizing s t plan with
  | nil =>
    cases run
    exact .goesOn found live
  | cons move rest ih =>
    obtain ⟨timely, mid, made, onward⟩ := State.runPromptly_cons run
    rw [State.repliesTo_cons made] at replies
    have after := c.step timely made
    obtain ⟨t', did, hs, found', conduct, more, acts⟩ := made.conduct found
    cases conduct with
    | rests idle handout work =>
      rw [State.replies_of_idle idle, List.nil_append] at replies
      have upshot := ih after found' (by rw [Task.isLive, work]; exact live) onward replies
      rw [handout, work] at upshot
      refine upshot.congr fun late how => ?_
      by_cases fresh : t.work = .queued
      · -- The clock does not go on before the handler was started.
        have same : mid.now = s.now := by
          cases move with
          | wait till =>
            simp only [State.isTimely, Bool.and_eq_true] at timely
            have resting := State.isReady_of_isQuiet timely.1.1 found
            rw [fresh] at resting
            cases resting
          | _ => exact made.now
        rw [same]
      · exact EndsAt.congr_now fresh
    | proceeds ready =>
      obtain ⟨unused, rfl⟩ := replies
      rw [State.replies_proceed found, List.append_assoc]
      have due := c.punctual i t found
      have working : t.work.isEnded = false := by simpa [Task.isLive] using live
      cases work : (proceed w.processor w.sink s.now t.handout s.sink t.work).work with
      | ended how =>
        have leads := State.leads_of_runPromptly onward
        obtain ⟨itself, last⟩ := (c.manned.account i t found).trail.ends_itself working work
        obtain ⟨t', found', handout, stays⟩ := leads.ended found' work
        exact .ended found' handout stays itself
          (leads.history.subset (mem_history_of_did more (acts ▸ last))) (.proceed_last ready due work)
      | _ =>
        have goesOn : (proceed w.processor w.sink s.now t.handout s.sink t.work).work.isEnded = false := by
          rw [work]
          rfl
        have upshot := ih after found' (by rw [Task.isLive, goesOn]; rfl) onward (List.prefix_append _ unused)
        refine upshot.congr fun late how => ?_
        rw [EndsAt.proceed_iff ready due goesOn, made.now]
        rfl
    | aborted abort live =>
      obtain ⟨t', found', -, stays⟩ := (State.leads_of_runPromptly onward).ended found' rfl
      refine .aborted found' stays fun late how ends => ?_
      have winds := c.phase
      rw [abort] at winds
      rw [← winds.2]
      exact ends.le (c.punctual i t found)

end

end BusRelay.Relay
