import BusRelay.Broker.Directory
import BusRelay.Proofs.Http.Redirect
/-!
# Tokens, demand by demand

Demands for tokens are met one after another, each with what the one before it has left (`meet`). What is kept
then is always the newest token that came, and this alone says whether the directory is asked (`Served`,
`meet_served`): it is just if there is none or its time to be renewed has come. So no header is older than it
may be, and after a demand that failed there is only what came later (`tokens_renewed`).
-/

namespace BusRelay.Directory

open Http (Peer)

/-- A demand for a token: when it is taken up, and when what it asks for has come. -/
structure Demand where
  now : Duration
  arrived : Duration

/-- Demands that are taken up one after another. -/
structure Chronological (demands : List Demand) : Prop where
  each : ∀ a ∈ demands, a.now.nanoseconds ≤ a.arrived.nanoseconds
  order : demands.Pairwise fun a b => a.arrived.nanoseconds ≤ b.now.nanoseconds

/-- A demand, what there was when it was taken up, and what it came to. -/
structure Met (σ : Type) where
  demand : Demand
  kept : Option Kept
  state : σ
  granted : Granted σ

/-- A token and when it came. -/
structure Arrival where
  issued : Issued
  arrived : Duration
  deriving DecidableEq

namespace Arrival

/-- When another token is asked for: some time before the end of this one, but not before it came. -/
def renewal (a : Arrival) : Duration :=
  ⟨a.arrived.nanoseconds + (Duration.ofSeconds (a.issued.lifetime - margin)).nanoseconds⟩

/-- What is kept of it. -/
def kept (a : Arrival) : Kept := ⟨a.issued.token, a.renewal⟩

end Arrival

/-- There is no token at a time, or it is to be renewed. -/
def IsDue (newest : Option Arrival) (now : Duration) : Prop :=
  ∀ a, newest = some a → a.renewal.nanoseconds ≤ now.nanoseconds

/-- No token is kept that may still be handed out at this time. -/
def IsSpent (kept : Option Kept) (now : Duration) : Prop :=
  ∀ k, kept = some k → k.refreshAt.nanoseconds ≤ now.nanoseconds

theorem IsDue.spent {newest : Option Arrival} {now : Duration} (due : IsDue newest now) :
    IsSpent (newest.map Arrival.kept) now := by
  intro k is
  obtain ⟨a, last, rfl⟩ := Option.map_eq_some_iff.1 is
  exact due a last

section

variable {σ : Type} (d : Directory) (peer : Peer σ)

/-- What comes of asking, if tokens are kept for so long. -/
def outcome (exchange : Http.Exchange σ) (kept : Option Kept) (renewal? : Nat → Option Duration) : Granted σ :=
  match issued exchange.result with
  | .error fault => ⟨.fault fault, kept, exchange.sent, [], exchange.state⟩
  | .ok token => match renewal? token.lifetime with
    | none => ⟨.beyondClock, kept, exchange.sent, [acquiredRecord token], exchange.state⟩
    | some refreshAt =>
      ⟨.header (bearer token.token), some ⟨token.token, refreshAt⟩, exchange.sent, [acquiredRecord token],
        exchange.state⟩

/-- Meets demands one after another. -/
def meet : Option Kept → σ → List Demand → List (Met σ)
  | _, _, [] => []
  | kept, state, demand :: rest =>
    let granted := d.authorize peer demand.now demand.arrived kept state
    ⟨demand, kept, state, granted⟩ :: meet granted.kept granted.peer rest

namespace Met

variable (m : Met σ)

/-- One request for a token, carried out when the demand is taken up. -/
def exchange : Http.Exchange σ := Http.carryOut? peer m.state d.request?

/-- What that request gives. -/
def answer : Except BrokerFault Issued := issued (m.exchange d peer).result

/-- The directory was asked, by one request. -/
structure Asked : Prop where
  sent : m.granted.sent = (m.exchange d peer).sent
  peer : m.granted.peer = (m.exchange d peer).state

/-- The directory was asked nothing. -/
structure Unasked : Prop where
  sent : m.granted.sent = []
  peer : m.granted.peer = m.state

/-- The token that came of what was sent. -/
def brought? : Option Arrival :=
  if m.granted.sent.isEmpty then none
  else (m.answer d peer).toOption.map fun issued => ⟨issued, m.demand.arrived⟩

end Met

/-- The last token that came. -/
def newest (met : List (Met σ)) : Option Arrival := met.reverse.findSome? (Met.brought? d peer)

/-- How a demand is met when a token, or none, is the newest one. -/
inductive Served (newest : Option Arrival) (m : Met σ) : Prop where
  | new {issued : Issued} (due : IsDue newest m.demand.now) (asked : m.Asked d peer)
      (came : m.answer d peer = .ok issued)
      (grant : m.granted.grant = .header (bearer issued.token))
      (keeps : m.granted.kept = some (Arrival.kept ⟨issued, m.demand.arrived⟩))
  | refused {fault : BrokerFault} (due : IsDue newest m.demand.now) (asked : m.Asked d peer)
      (failed : m.answer d peer = .error fault)
      (grant : m.granted.grant = .fault fault)
      (keeps : m.granted.kept = m.kept)
  | again {a : Arrival} (last : newest = some a)
      (early : m.demand.now.nanoseconds < a.renewal.nanoseconds) (unasked : m.Unasked)
      (grant : m.granted.grant = .header (bearer a.issued.token))
      (keeps : m.granted.kept = m.kept)

variable {d peer} {m : Met σ}

/-! ## One demand -/

/-- A token comes of something that was sent. -/
theorem Met.exchange_sent {issued : Issued} (came : m.answer d peer = .ok issued) :
    (m.exchange d peer).sent ≠ [] := by
  cases result : (m.exchange d peer).result with
  | error fault =>
    rw [Met.answer, result] at came
    cases came
  | ok response =>
    unfold Met.exchange at result ⊢
    cases made : d.request? with
    | none =>
      rw [made] at result
      cases result
    | some request =>
      rw [made] at result
      obtain ⟨-, hops, last, -, sent, -, -⟩ := Http.carryOut_ok peer result
      intro nothing
      rw [Http.carryOut?, sent] at nothing
      exact List.append_ne_nil_of_right_ne_nil hops (List.cons_ne_nil _ _) nothing

theorem Met.brought?_unasked (unasked : m.Unasked) : m.brought? d peer = none := by
  rw [Met.brought?, unasked.sent]
  rfl

theorem Met.brought?_failed {fault : BrokerFault} (failed : m.answer d peer = .error fault) :
    m.brought? d peer = none := by
  rw [Met.brought?, failed]
  exact ite_self none

theorem Met.brought?_came {issued : Issued} (asked : m.Asked d peer) (came : m.answer d peer = .ok issued) :
    m.brought? d peer = some ⟨issued, m.demand.arrived⟩ := by
  have sent : ¬ m.granted.sent.isEmpty = true := by
    rw [List.isEmpty_iff, asked.sent]
    exact Met.exchange_sent came
  rw [Met.brought?, if_neg sent, came]
  rfl

theorem Met.arrived_of_brought? {a : Arrival} (brought : m.brought? d peer = some a) :
    a.arrived = m.demand.arrived := by
  unfold Met.brought? at brought
  split at brought
  · cases brought
  · obtain ⟨issued, -, rfl⟩ := Option.map_eq_some_iff.1 brought
    rfl

/-- A token that is early enough is handed out again. -/
theorem authorize_early {k : Kept} {now : Duration} (early : now.nanoseconds < k.refreshAt.nanoseconds)
    (arrived : Duration) (state : σ) :
    d.authorize peer now arrived (some k) state = ⟨.header (bearer k.token), some k, [], [], state⟩ := by
  have stays : (some k).filter (fun k => now.nanoseconds < k.refreshAt.nanoseconds) = some k := by
    rw [Option.filter_some, if_pos]
    exact decide_eq_true early
  rw [authorize, stays]

/-- When no token may be handed out again, the directory is asked. -/
theorem authorize_spent {kept : Option Kept} {now : Duration} (spent : IsSpent kept now) (arrived : Duration)
    (state : σ) : d.authorize peer now arrived kept state =
      outcome (Http.carryOut? peer state d.request?) kept (refreshAt? arrived) := by
  have gone : kept.filter (fun k => now.nanoseconds < k.refreshAt.nanoseconds) = none := by
    cases kept with
    | none => rfl
    | some k =>
      rw [Option.filter_some, if_neg]
      rw [decide_eq_true_iff]
      exact Nat.not_lt.2 (spent k rfl)
  rw [authorize, gone]
  -- the exchange and the time of renewal are nothing to compute with
  generalize Http.carryOut? peer state d.request? = exchange
  generalize refreshAt? arrived = renewal?
  rfl

section

variable {exchange : Http.Exchange σ} (kept : Option Kept) {renewal? : Nat → Option Duration}

theorem outcome_asks : (outcome exchange kept renewal?).sent = exchange.sent ∧
    (outcome exchange kept renewal?).peer = exchange.state := by
  fun_cases outcome exchange kept renewal? <;> exact ⟨rfl, rfl⟩

theorem outcome_error {fault : BrokerFault} (failed : issued exchange.result = .error fault) :
    outcome exchange kept renewal? = ⟨.fault fault, kept, exchange.sent, [], exchange.state⟩ := by
  rw [outcome, failed]

theorem outcome_ok {token : Issued} (came : issued exchange.result = .ok token) {time : Duration}
    (shown : renewal? token.lifetime = some time) : outcome exchange kept renewal? =
      ⟨.header (bearer token.token), some ⟨token.token, time⟩, exchange.sent, [acquiredRecord token],
        exchange.state⟩ := by
  rw [outcome, came]
  dsimp only
  rw [shown]

end

/-- With a time that the clock can show, a demand is met in one of three ways. -/
theorem authorize_served {newest : Option Arrival} (taken : m.kept = newest.map Arrival.kept)
    (met : m.granted = d.authorize peer m.demand.now m.demand.arrived m.kept m.state)
    (clocked : m.Asked d peer → ∀ issued, m.answer d peer = .ok issued →
      (Arrival.renewal ⟨issued, m.demand.arrived⟩).seconds < clockLimit) :
    Served d peer newest m := by
  rw [taken] at met
  by_cases due : IsDue newest m.demand.now
  · replace met : m.granted =
        outcome (m.exchange d peer) (newest.map Arrival.kept) (refreshAt? m.demand.arrived) :=
      met.trans (authorize_spent due.spent _ _)
    have asked : m.Asked d peer := by
      constructor
      · rw [met]
        exact (outcome_asks _).1
      · rw [met]
        exact (outcome_asks _).2
    cases answer : m.answer d peer with
    | error fault =>
      rw [outcome_error _ answer] at met
      refine .refused due asked answer ?_ ?_
      · rw [met]
      · rw [met]
        exact taken.symm
    | ok token =>
      have shown : refreshAt? m.demand.arrived token.lifetime =
          some (Arrival.renewal ⟨token, m.demand.arrived⟩) := by
        rw [refreshAt?]
        exact if_pos (clocked asked token answer)
      rw [outcome_ok _ answer shown] at met
      refine .new due asked answer ?_ ?_
      · rw [met]
      · rw [met]
        rfl
  · unfold IsDue at due
    simp only [Classical.not_forall, Nat.not_le] at due
    obtain ⟨a, rfl, early⟩ := due
    have young : m.demand.now.nanoseconds < a.kept.refreshAt.nanoseconds := early
    rw [Option.map_some, authorize_early young] at met
    refine .again rfl early ?_ ?_ ?_
    · constructor <;> rw [met]
    · rw [met]
      rfl
    · rw [met]
      exact taken.symm

namespace Served

variable {last : Option Arrival}

/-- What is kept after a demand is the newest token again. -/
theorem kept (served : Served d peer last m) (before : m.kept = last.map Arrival.kept) :
    m.granted.kept = ((m.brought? d peer).or last).map Arrival.kept := by
  cases served with
  | new due asked came grant keeps =>
    rw [Met.brought?_came asked came]
    exact keeps
  | refused due asked failed grant keeps =>
    rw [Met.brought?_failed failed, keeps]
    exact before
  | again is early unasked grant keeps =>
    rw [Met.brought?_unasked unasked, keeps]
    exact before

/-- Every header is the one of the newest token. -/
theorem header (served : Served d peer last m) {value : String} (grant : m.granted.grant = .header value) :
    ∃ a, (m.brought? d peer).or last = some a ∧ value = bearer a.issued.token := by
  cases served with
  | @new issued due asked came given keeps =>
    rw [given] at grant
    cases grant
    exact ⟨⟨issued, m.demand.arrived⟩, by rw [Met.brought?_came asked came]; rfl, rfl⟩
  | refused due asked failed given keeps =>
    rw [given] at grant
    cases grant
  | @again a is early unasked given keeps =>
    rw [given] at grant
    cases grant
    exact ⟨a, by rw [Met.brought?_unasked unasked]; exact is, rfl⟩

/-- A header for which nothing came is the one of a token that is not to be renewed yet. -/
theorem early (served : Served d peer last m) {value : String} (grant : m.granted.grant = .header value)
    (nothing : m.brought? d peer = none) :
    ∃ a, last = some a ∧ m.demand.now.nanoseconds < a.renewal.nanoseconds := by
  cases served with
  | new due asked came given keeps =>
    rw [Met.brought?_came asked came] at nothing
    cases nothing
  | refused due asked failed given keeps =>
    rw [given] at grant
    cases grant
  | again is early unasked given keeps => exact ⟨_, is, early⟩

/-- Only a demand that is due fails. -/
theorem due_of_fault (served : Served d peer last m) {fault : BrokerFault}
    (grant : m.granted.grant = .fault fault) : IsDue last m.demand.now ∧ m.brought? d peer = none := by
  cases served with
  | new due asked came given keeps =>
    rw [given] at grant
    cases grant
  | refused due asked failed given keeps => exact ⟨due, Met.brought?_failed failed⟩
  | again is early unasked given keeps =>
    rw [given] at grant
    cases grant

/-- The directory gets a request just if the demand is due, if one can be made at all. -/
theorem sends_iff (served : Served d peer last m) {request first : Http.Request}
    (made : d.request? = some request) (prepared : Http.prepare request = .ok first) :
    (∃ reply more, m.granted.sent = (first, reply) :: more) ↔ IsDue last m.demand.now := by
  have sends (asked : m.Asked d peer) : ∃ reply more, m.granted.sent = (first, reply) :: more := by
    rw [asked.sent, Met.exchange, made]
    exact Http.carryOut_first peer m.state prepared
  cases served with
  | new due asked came given keeps => exact ⟨fun _ => due, fun _ => sends asked⟩
  | refused due asked failed given keeps => exact ⟨fun _ => due, fun _ => sends asked⟩
  | again is early unasked given keeps =>
    constructor
    · rintro ⟨reply, more, sent⟩
      rw [unasked.sent] at sent
      cases sent
    · intro due
      exact absurd early (Nat.not_lt.2 (due _ is))

end Served

/-! ## Demand after demand -/

theorem newest_concat (met : List (Met σ)) (m : Met σ) :
    newest d peer (met ++ [m]) = (m.brought? d peer).or (newest d peer met) := by
  unfold newest
  rw [List.reverse_concat, List.findSome?_cons]
  cases m.brought? d peer <;> rfl

/-- Of several demands, the newest token is one that a later of them brought, or the one from before. -/
theorem newest_append {front back : List (Met σ)} {a : Arrival} (is : newest d peer (front ++ back) = some a) :
    (∃ m ∈ back, m.brought? d peer = some a) ∨
      ((∀ m ∈ back, m.brought? d peer = none) ∧ newest d peer front = some a) := by
  unfold newest at is
  rw [List.reverse_append, List.findSome?_append, Option.or_eq_some_iff] at is
  rcases is with later | ⟨nothing, before⟩
  · obtain ⟨m, mem, brought⟩ := List.exists_of_findSome?_eq_some later
    exact .inl ⟨m, List.mem_reverse.1 mem, brought⟩
  · refine .inr ⟨?_, before⟩
    intro m mem
    exact List.findSome?_eq_none_iff.1 nothing m (List.mem_reverse.2 mem)

theorem meet_demands (d : Directory) (peer : Peer σ) (kept : Option Kept) (state : σ) (demands : List Demand) :
    (d.meet peer kept state demands).map Met.demand = demands := by
  induction demands generalizing kept state with
  | nil => rfl
  | cons demand rest ih => exact congrArg (demand :: ·) (ih _ _)

theorem meet_cons (d : Directory) (peer : Peer σ) (kept : Option Kept) (state : σ) (demand : Demand)
    (rest : List Demand) :
    ∃ m, m = ⟨demand, kept, state, d.authorize peer demand.now demand.arrived kept state⟩ ∧
      d.meet peer kept state (demand :: rest) = m :: d.meet peer m.granted.kept m.granted.peer rest :=
  ⟨_, rfl, rfl⟩

/-- Every demand is met with the newest token of those before it. -/
theorem meet_served (past : List (Met σ)) {demands : List Demand} {kept : Option Kept} {state : σ}
    {earlier later : List (Met σ)}
    (clocked : ∀ m ∈ d.meet peer kept state demands, m.Asked d peer → ∀ issued,
      m.answer d peer = .ok issued → (Arrival.renewal ⟨issued, m.demand.arrived⟩).seconds < clockLimit)
    (start : kept = (newest d peer past).map Arrival.kept)
    (split : d.meet peer kept state demands = earlier ++ m :: later) :
    m.kept = (newest d peer (past ++ earlier)).map Arrival.kept ∧
      Served d peer (newest d peer (past ++ earlier)) m := by
  -- `past` grows by the demands that were met already
  induction demands generalizing kept state past earlier with
  | nil => exact absurd split.symm (List.append_ne_nil_of_right_ne_nil _ (List.cons_ne_nil _ _))
  | cons demand rest ih =>
    obtain ⟨first, is, met⟩ := meet_cons d peer kept state demand rest
    rw [met] at clocked split
    have taken : first.kept = (newest d peer past).map Arrival.kept := by
      rw [is]
      exact start
    have served : Served d peer (newest d peer past) first :=
      authorize_served taken (by rw [is]) (clocked first List.mem_cons_self)
    cases earlier with
    | nil =>
      obtain ⟨rfl, -⟩ := List.cons.inj split
      rw [List.append_nil]
      exact ⟨taken, served⟩
    | cons e earlier =>
      obtain ⟨rfl, tail⟩ := List.cons.inj split
      have after := served.kept taken
      rw [← newest_concat] at after
      have later := ih _ (fun m mem => clocked m (List.mem_cons_of_mem _ mem)) after tail
      rw [List.append_assoc] at later
      exact later

/-! ## All demands -/

/-- A demand is taken up when what those before it asked for has come. -/
theorem met_order {demands : List Demand} (chronological : Chronological demands) (d : Directory) (peer : Peer σ)
    (kept : Option Kept) (state : σ) :
    (d.meet peer kept state demands).Pairwise fun a b =>
      a.demand.arrived.nanoseconds ≤ b.demand.now.nanoseconds := by
  have order := chronological.order
  rw [← meet_demands d peer kept state demands, List.pairwise_map] at order
  exact order

theorem met_each {demands : List Demand} (chronological : Chronological demands) (d : Directory) (peer : Peer σ)
    (kept : Option Kept) (state : σ) :
    ∀ m ∈ d.meet peer kept state demands, m.demand.now.nanoseconds ≤ m.demand.arrived.nanoseconds := by
  intro m mem
  apply chronological.each
  rw [← meet_demands d peer kept state demands]
  exact List.mem_map_of_mem mem

/-- After a demand that was due and brought nothing, the newest token is one that came later, or it is still to
be renewed. -/
theorem newest_since {front back : List (Met σ)} {f : Met σ} {a : Arrival}
    (due : IsDue (newest d peer front) f.demand.now) (nothing : f.brought? d peer = none)
    (is : newest d peer (front ++ f :: back) = some a) :
    (∃ e ∈ back, a.arrived = e.demand.arrived) ∨
      (∀ e ∈ back, e.brought? d peer = none) ∧ a.renewal.nanoseconds ≤ f.demand.now.nanoseconds := by
  rcases newest_append is with ⟨e, mem, brought⟩ | ⟨none, old⟩
  · left
    rcases List.mem_cons.1 mem with rfl | mem
    · rw [nothing] at brought
      cases brought
    · exact ⟨e, mem, Met.arrived_of_brought? brought⟩
  · right
    exact ⟨fun e mem => none e (List.mem_cons_of_mem _ mem), due a old⟩

/-- What is known of a demand after those before it. -/
structure Renewed (d : Directory) (peer : Peer σ) (earlier : List (Met σ)) (m : Met σ) : Prop where
  /-- The newest token is what is kept. -/
  kept : m.kept = (newest d peer earlier).map Arrival.kept
  served : Served d peer (newest d peer earlier) m
  /-- The directory gets a request just if the demand is due, if one can be made at all. -/
  sends : ∀ request first, d.request? = some request → Http.prepare request = .ok first →
    ((∃ reply more, m.granted.sent = (first, reply) :: more) ↔ IsDue (newest d peer earlier) m.demand.now)
  /-- Every header is the one of the newest token, be it one that came just now. -/
  header : ∀ value, m.granted.grant = .header value →
    ∃ a, newest d peer (earlier ++ [m]) = some a ∧ value = bearer a.issued.token
  /-- A token that is handed out again is younger than it may become. -/
  young : ∀ value, m.granted.grant = .header value → m.Unasked → ∃ a, newest d peer earlier = some a ∧
    a.arrived.nanoseconds ≤ m.demand.now.nanoseconds ∧
      m.demand.now.nanoseconds - a.arrived.nanoseconds <
        (Duration.ofSeconds (a.issued.lifetime - margin)).nanoseconds
  /-- A token that is good for no longer than the margin is not handed out again. -/
  brief : ∀ a, newest d peer earlier = some a → a.issued.lifetime ≤ margin →
    IsDue (newest d peer earlier) m.demand.now
  /-- After a demand that failed, every header is the one of a token that came later. -/
  afresh : ∀ front f between fault, earlier = front ++ f :: between → f.granted.grant = .fault fault →
    ∀ value, m.granted.grant = .header value → ∃ a, newest d peer (earlier ++ [m]) = some a ∧
      value = bearer a.issued.token ∧ f.demand.arrived.nanoseconds ≤ a.arrived.nanoseconds

section

variable {demands : List Demand} (chronological : Chronological demands) {state : σ}
  (clocked : ∀ m ∈ d.meet peer none state demands, m.Asked d peer → ∀ issued, m.answer d peer = .ok issued →
    (Arrival.renewal ⟨issued, m.demand.arrived⟩).seconds < clockLimit)

include chronological

/-- The newest token came before the next demand is taken up. -/
theorem newest_arrived {earlier later : List (Met σ)}
    (split : d.meet peer none state demands = earlier ++ m :: later) {a : Arrival}
    (is : newest d peer earlier = some a) : a.arrived.nanoseconds ≤ m.demand.now.nanoseconds := by
  obtain ⟨e, mem, brought⟩ := List.exists_of_findSome?_eq_some is
  have order := met_order chronological d peer none state
  rw [split] at order
  rw [Met.arrived_of_brought? brought]
  exact (List.pairwise_append.1 order).2.2 e (List.mem_reverse.1 mem) m List.mem_cons_self

include clocked

/-- What is handed out after a demand that failed came after it. -/
theorem arrived_since {front between later : List (Met σ)} {f : Met σ}
    (split : d.meet peer none state demands = front ++ f :: (between ++ m :: later)) {fault : BrokerFault}
    (failed : f.granted.grant = .fault fault) {value : String} (grant : m.granted.grant = .header value)
    {a : Arrival} (is : newest d peer (front ++ f :: between ++ [m]) = some a) :
    f.demand.arrived.nanoseconds ≤ a.arrived.nanoseconds := by
  obtain ⟨-, refused⟩ := meet_served [] clocked rfl split
  obtain ⟨due, nothing⟩ := refused.due_of_fault failed
  have order := met_order chronological d peer none state
  have each := met_each chronological d peer none state
  rw [split, List.append_cons between] at order each
  have follows : ∀ e ∈ between ++ [m], f.demand.arrived.nanoseconds ≤ e.demand.now.nanoseconds := by
    intro e mem
    apply (List.pairwise_cons.1 (List.pairwise_append.1 order).2.1).1
    exact List.mem_append_left later mem
  have last := is
  rw [List.append_assoc, List.cons_append] at last
  rcases newest_since due nothing last with ⟨e, mem, arrived⟩ | ⟨none, old⟩
  · rw [arrived]
    apply Nat.le_trans (follows e mem)
    apply each
    exact List.mem_append_right _ (List.mem_cons_of_mem _ (List.mem_append_left later mem))
  · -- a token that is still to be renewed is not handed out again
    exfalso
    rw [← List.cons_append, ← List.append_assoc] at split
    obtain ⟨-, served⟩ := meet_served [] clocked rfl split
    have quiet := none m List.mem_concat_self
    obtain ⟨b, newest, early⟩ := served.early grant quiet
    rw [newest_concat, quiet] at is
    obtain rfl : b = a := Option.some.inj (newest.symm.trans is)
    have taken := follows m List.mem_concat_self
    have spent := each f (List.mem_append_right _ List.mem_cons_self)
    omega

/-- **Tokens are renewed in time**, whatever the directory answers and whenever they are demanded, as long as the
clock can show when they are to be renewed. -/
theorem tokens_renewed {earlier later : List (Met σ)}
    (split : d.meet peer none state demands = earlier ++ m :: later) : Renewed d peer earlier m := by
  obtain ⟨kept, served⟩ := meet_served [] clocked rfl split
  rw [List.nil_append] at kept served
  constructor
  case kept => exact kept
  case served => exact served
  case sends =>
    intro request first made prepared
    exact served.sends_iff made prepared
  case header =>
    intro value grant
    rw [newest_concat]
    exact served.header grant
  case young =>
    intro value grant unasked
    obtain ⟨a, is, early⟩ := served.early grant (Met.brought?_unasked unasked)
    have came := newest_arrived chronological split is
    replace early : m.demand.now.nanoseconds <
        a.arrived.nanoseconds + (Duration.ofSeconds (a.issued.lifetime - margin)).nanoseconds := early
    refine ⟨a, is, came, ?_⟩
    omega
  case brief =>
    intro a is short b same
    obtain rfl : a = b := Option.some.inj (is.symm.trans same)
    unfold Arrival.renewal Duration.ofSeconds
    rw [Nat.sub_eq_zero_of_le short, Nat.zero_mul]
    exact newest_arrived chronological split is
  case afresh =>
    intro front f between fault is failed value grant
    obtain ⟨a, newest, rfl⟩ := served.header grant
    rw [← newest_concat] at newest
    subst is
    rw [List.append_assoc, List.cons_append] at split
    exact ⟨a, newest, rfl, arrived_since chronological clocked split failed grant newest⟩

end

end

/-- A directory that gives a token, is out of order once, gives one for a short time and then another one. -/
def fitful : Peer Nat := fun n _ =>
  let text := match n with
    | 0 => "\x7b\"access_token\":\"a\",\"expires_in\":600\x7d"
    | 1 => ""
    | 2 => "[\"b\",300]"
    | _ => "[\"c\",3600]"
  (.response { status := if n = 1 then 503 else 200, body := Utf8.bytes text }, n + 1)

/-- After the directory was out of order, only what it gives next is handed out. -/
theorem tokens_renewed_fitful :
    let d : Directory := ⟨"http://aad", ⟨"t", "c", "s"⟩⟩
    let demands := [(0, 1), (2, 2), (301, 302), (302, 303), (304, 305)].map fun (now, arrived) =>
      (⟨.ofSeconds now, .ofSeconds arrived⟩ : Demand)
    let met := d.meet fitful none 0 demands
    Chronological demands ∧
      (∀ m ∈ met, m.Asked d fitful → ∀ issued, m.answer d fitful = .ok issued →
        (Arrival.renewal ⟨issued, m.demand.arrived⟩).seconds < clockLimit) ∧
      met.map (·.granted.grant) = [.header "Bearer a", .header "Bearer a",
        .fault (.transient "AAD token endpoint responded with status 503 Service Unavailable"),
        .header "Bearer b", .header "Bearer c"] ∧
      ∃ earlier m later, met = earlier ++ m :: later ∧ earlier.length = 3 ∧ Renewed d fitful earlier m := by
  intro d demands met
  have chronological : Chronological demands := by constructor <;> decide
  have clocked : ∀ m ∈ met, m.Asked d fitful → ∀ issued, m.answer d fitful = .ok issued →
      (Arrival.renewal ⟨issued, m.demand.arrived⟩).seconds < clockLimit := by
    have all : (met.all fun m => match m.answer d fitful with
        | .ok issued => decide ((Arrival.renewal ⟨issued, m.demand.arrived⟩).seconds < clockLimit)
        | .error _ => true) = true := by decide +kernel
    intro m mem asked issued came
    have shown := List.all_eq_true.1 all m mem
    rw [came] at shown
    exact of_decide_eq_true shown
  have many : 3 < met.length := by decide +kernel
  have split : met = met.take 3 ++ met[3] :: met.drop 4 := by
    rw [← List.drop_eq_getElem_cons many, List.take_append_drop]
  refine ⟨chronological, clocked, by decide +kernel, _, _, _, split, ?_, ?_⟩
  · exact List.length_take_of_le (Nat.le_of_lt many)
  · exact tokens_renewed chronological clocked split

end BusRelay.Directory
