import BusRelay.Proofs.Relay.Crew
import BusRelay.Proofs.Relay.Permits
/-!
# Handlers that are not joined

A handler that has ended stays with the loop until it is joined, and the loop joins once in each round, while handlers
may end whenever they like. Still only so many are kept: when the loop has joined, what is left is live, thus has a
permit, and it takes one delivery at most before it joins again. So however many messages come, there is never more
than one handler above the number of permits that is not joined yet (`unjoined_bounded`).
-/

namespace BusRelay.Relay

variable {σ : Type}

namespace State

/-- The handlers that have ended and are not joined yet. -/
def lingering (s : State σ) : List Task := s.unjoined.filter (!·.isLive)

variable (s : State σ)

/-- What is kept depends on who is joined, and not on what the handlers do. -/
theorem length_unjoined : s.unjoined.length = (s.tasks.map (·.joined)).count false := by
  rw [unjoined, ← List.countP_eq_length_filter, List.count, List.countP_map]
  refine List.countP_congr fun t _ => ?_
  cases joined : t.joined <;> simp [joined]

theorem length_unjoined_setWork (handler : Nat) (work : Work) :
    (s.setWork handler work).unjoined.length = s.unjoined.length := by
  have same : (s.setWork handler work).tasks.map (·.joined) = s.tasks.map (·.joined) :=
    map_modify_work _ (fun _ _ => rfl) s.tasks handler work
  rw [length_unjoined, length_unjoined, same]

/-- Joining leaves the handlers that are live. -/
theorem unjoined_joinEnded_eq : s.joinEnded.unjoined = (s.unjoined.filter Task.isLive).map Task.join := by
  change (s.tasks.map Task.join).filter (!·.joined) = _
  rw [List.filter_map, unjoined, List.filter_filter]
  refine congrArg (List.map Task.join) (List.filter_congr fun t _ => ?_)
  have same : t.join.joined = (t.joined || !t.isLive) := rfl
  rw [Function.comp_apply, same, Bool.not_or, Bool.not_not, Bool.and_comm]

theorem length_unjoined_joinEnded_le : s.joinEnded.unjoined.length ≤ s.unjoined.length := by
  rw [unjoined_joinEnded_eq, List.length_map]
  exact List.length_filter_le _ _

theorem length_unjoined_joinEnded_le_live : s.joinEnded.unjoined.length ≤ s.live.length := by
  rw [unjoined_joinEnded_eq, List.length_map]
  exact (List.filter_sublist.filter _).length_le

end State

/-! ## The bound -/

/-- How many handlers above the number of permits are kept where the loop stands: one before it joins, else none. -/
def Phase.spare : Phase → Nat
  | joining => 1
  | _ => 0

section

variable {w : World σ} {s s' : State σ} {move : Move}

/-- A loop that waits has nothing to spare. -/
theorem Phase.spare_of_isWaiting {p : Phase} (waiting : p.isWaiting = true) : p.spare = 0 := by
  cases p <;> first | rfl | cases waiting

/-- No step makes the loop keep more than it may. -/
theorem Step.unjoined_le (h : Step w s move s') (c : Conserved w s)
    (bound : s.unjoined.length ≤ w.settings.permits + s.phase.spare) :
    s'.unjoined.length ≤ w.settings.permits + s'.phase.spare := by
  have fewer := s.length_unjoined_joinEnded_le
  cases h with
  | start idle | overflow idle =>
    rw [idle] at bound
    exact Nat.le_trans bound (Nat.add_le_add_left (Nat.zero_le _) _)
  | cancel | wait => exact bound
  | join joining =>
    have total := c.total (by simp [joining]) (by simp [joining])
    have live : s.joinEnded.unjoined.length ≤ s.live.length := s.length_unjoined_joinEnded_le_live
    change s.joinEnded.unjoined.length ≤ w.settings.permits
    omega
  | joinSome ending left => exact Nat.le_trans fewer bound
  | joinLast ending none | expireLast draining passed none =>
    change s.joinEnded.unjoined.length ≤ _
    rw [none]
    exact Nat.zero_le _
  | acquire phase | call phase | resume phase =>
    rw [phase] at bound
    exact Nat.le_trans bound (Nat.add_le_add_left (Nat.zero_le _) _)
  | nothing receiving on cancels =>
    rw [receiving] at bound
    change ((s.answered .nothing cancels).unjoined).length ≤ _
    rw [State.answered_unjoined]
    exact Nat.le_trans bound (Nat.add_le_add_left (Nat.zero_le _) _)
  | transient receiving on reason cancels =>
    rw [receiving] at bound
    change ((s.answered (.fault (.transient reason)) cancels).unjoined).length ≤ _
    rw [State.answered_unjoined]
    exact bound
  | fatal receiving on reason cancels =>
    rw [receiving] at bound
    have same := congrArg List.length (State.answered_unjoined s (.fault (.fatal reason)) cancels)
    exact Nat.le_trans (Nat.le_of_eq same) bound
  | handout receiving on h cancels =>
    rw [receiving] at bound
    have added : (s.tasks ++ [({ handout := h } : Task)]).filter (!·.joined) = s.unjoined ++ [{ handout := h }] := by
      simp [State.unjoined]
    change ((s.tasks ++ [({ handout := h } : Task)]).filter (!·.joined)).length ≤ w.settings.permits + 1
    rw [added, List.length_append, List.length_singleton]
    exact Nat.succ_le_succ bound
  | interrupt waiting off =>
    rw [Phase.spare_of_isWaiting waiting] at bound
    exact bound
  | giveUp draining passed left =>
    rw [draining] at bound
    exact Nat.le_trans fewer bound
  | proceed | abort =>
    refine Nat.le_trans (Nat.le_of_eq ?_) bound
    exact State.length_unjoined_setWork _ _ _

end

/-- In every state of every run the loop keeps no more handlers than it may. -/
theorem Reachable.unjoined_le {w : World σ} {sink : σ} {s : State σ} (reach : Reachable w sink s) :
    s.unjoined.length ≤ w.settings.permits + s.phase.spare := by
  have kept : Conserved w s ∧ s.unjoined.length ≤ w.settings.permits + s.phase.spare := by
    refine Leads.induction (P := fun s => Conserved w s ∧ s.unjoined.length ≤ w.settings.permits + s.phase.spare)
      ⟨.initial w sink, Nat.zero_le _⟩ ?_ reach
    exact fun kept h => ⟨kept.1.step h, h.unjoined_le kept.1 kept.2⟩
  exact kept.2

/-- **Ended handlers do not pile up.** Whatever the broker hands out, and whenever handlers end, the handlers that are
not joined are never more than the permits and one, those that have ended included. Only between a delivery and the
next time that the loop joins can it be that one; everywhere else they are as many as the permits at most. -/
theorem unjoined_bounded (w : World σ) (sink : σ) (s : State σ) (reach : Reachable w sink s) :
    s.unjoined.length ≤ max 1 w.settings.concurrency + 1 ∧
      (s.unjoined.length ≤ max 1 w.settings.concurrency ∨ s.phase = .joining) := by
  have bound := reach.unjoined_le
  simp only [Settings.permits] at bound
  have one : s.phase.spare ≤ 1 := by cases s.phase <;> simp [Phase.spare]
  refine ⟨by omega, ?_⟩
  cases phase : s.phase with
  | joining => exact .inr rfl
  | _ =>
    rw [phase] at bound
    exact .inl bound

namespace Sample

/-- Handles one message at a time, and makes no events of any. -/
def refusing : World Nat where
  processor := fun m => .error ⟨m.id, "no"⟩
  sink := sink

/-- The first handler ends while the loop waits for its permit, and the second delivery comes before it is joined. -/
def crowding : List Move :=
  [.start, .join, .acquire, .call, .receive (.handout first) false, .join, .proceed 0, .acquire, .call,
    .receive (.handout second) false]

def crowded : State Nat := ((State.initial 0).run refusing crowding).getD (State.initial 0)

end Sample

/-- With one permit there can be two handlers that are not joined, one of which has ended. -/
theorem unjoined_bounded_crowded : Reachable Sample.refusing 0 Sample.crowded ∧
    Sample.crowded.unjoined.length = max 1 Sample.refusing.settings.concurrency + 1 ∧
    Sample.crowded.lingering.length = 1 ∧ Sample.crowded.phase = .joining := by
  have reach : Reachable Sample.refusing 0 Sample.crowded := ⟨Sample.crowding, rfl⟩
  have full : Sample.crowded.unjoined.length = 2 := rfl
  obtain ⟨-, few | joining⟩ := unjoined_bounded Sample.refusing 0 Sample.crowded reach
  · rw [full] at few
    exact absurd few (by decide)
  · exact ⟨reach, rfl, rfl, joining⟩

end BusRelay.Relay
