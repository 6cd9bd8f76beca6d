import BusRelay.Proofs.Broker.Deletion
import BusRelay.Proofs.Broker.LockToken
/-!
# What becomes of a receipt

The response to the request for a message comes to one of five things (`received_receipt`): no message, a
message in hand, a message that is spoiled, a refusal or a failure. Only a refusal is for good, and that
depends on nothing but the status. A message in hand has a name, its whole body, a time and a count
(`receive_classifies`).
-/

namespace BusRelay

open Http (Peer Response)

namespace Identifier

variable {naming : Naming} {s : String}

theorem ofText?_some {id : Identifier naming} (made : ofText? s = some id) : id.text = s := by
  unfold ofText? at made
  split at made
  · cases made
    rfl
  · cases made

theorem ofText?_none_iff : (ofText? s : Option (Identifier naming)) = none ↔ s = "" := by
  unfold ofText?
  split
  · rename_i nonempty
    constructor
    · intro none
      cases none
    · intro empty
      exact absurd empty nonempty
  · rename_i empty
    exact ⟨fun _ => not_not.1 empty, fun _ => rfl⟩

end Identifier

namespace BrokerProperties

/-- The lock of the message has this token. -/
def Locks (p : BrokerProperties) (token : LockToken) : Prop :=
  ∃ text, p.lockToken = some text ∧ LockToken.parse? text = some token

/-- What the message is called: by a name of its own, or by the token of its lock if it has none. -/
inductive Names (p : BrokerProperties) (id : MessageId) : Prop where
  | own (given : p.messageId = some id.text)
  | lock {token : LockToken} (unnamed : ∀ text, p.messageId = some text → text = "") (locks : p.Locks token)
      (canonical : token.Canonical) (same : id.text = token.text)

variable {p : BrokerProperties}

theorem locks_iff {token : LockToken} : p.Locks token ↔ p.lockToken.bind LockToken.parse? = some token :=
  Option.bind_eq_some_iff.symm

end BrokerProperties

namespace Receiver

/-! ## What a response tells of its message -/

/-- A response tells nothing of its message, or what its header is read as. -/
inductive Tells (response : Response) : BrokerProperties → Prop where
  | nothing (absent : response.header? "brokerproperties" = none) : Tells response {}
  | header {value : Utf8.Bytes} {p : BrokerProperties} (given : response.header? "brokerproperties" = some value)
      (read : BrokerProperties.decode value = .ok p) : Tells response p

theorem tells_iff {response : Response} {p : BrokerProperties} :
    Tells response p ↔ brokerProperties response = .ok p := by
  constructor
  · intro tells
    unfold brokerProperties
    cases tells with
    | nothing absent => rw [absent]
    | header given read => simp only [given, read]
  · intro ok
    unfold brokerProperties at ok
    split at ok
    · rename_i absent
      cases ok
      exact .nothing absent
    · rename_i value given
      split at ok
      · rename_i read
        cases ok
        exact .header given read
      · cases ok

/-- What other members write need not even be a value that can be read. -/
example : Tells { status := 201, headers := [("brokerproperties",
    Utf8.bytes "\x7b\"TimeToLive\": 1e999, \"ReplyTo\": \"\\ud800\", \"MessageId\": \"m1\"\x7d")] }
    { messageId := some "m1" } :=
  .header rfl rfl

/-- A header that is not read is no reason to stop. -/
theorem brokerProperties_error {response : Response} {fault : BrokerFault}
    (error : brokerProperties response = .error fault) : ∃ reason, fault = .transient reason := by
  unfold brokerProperties at error
  split at error
  · cases error
  · split at error
    · cases error
    · cases error
      exact ⟨_, rfl⟩

/-- A message can be told from others: it has a name of its own, or a token of its lock. -/
def Named (p : BrokerProperties) : Prop :=
  (∃ text, p.messageId = some text ∧ text ≠ "") ∨ ∃ token, p.Locks token

/-- The place of a lock is given, or follows from its token. -/
def Placed (response : Response) (p : BrokerProperties) : Prop :=
  (∃ place, headerText? response "location" = some place) ∨ ∃ token, p.Locks token

theorem messageId?_some {p : BrokerProperties} {id : MessageId}
    (named : messageId? p (p.lockToken.bind LockToken.parse?) = some id) : p.Names id ∧ Named p := by
  unfold messageId? at named
  rcases Option.or_eq_some_iff.1 named with own | ⟨none, lock⟩
  · obtain ⟨text, given, made⟩ := Option.bind_eq_some_iff.1 own
    obtain rfl := Identifier.ofText?_some made
    exact ⟨.own given, .inl ⟨id.text, given, id.nonempty⟩⟩
  · obtain ⟨token, found, made⟩ := Option.bind_eq_some_iff.1 lock
    have locks : p.Locks token := BrokerProperties.locks_iff.2 found
    have ⟨text, _, parsed⟩ := locks
    have canonical : token.Canonical := LockToken.parse?_canonical parsed
    refine ⟨.lock ?_ locks canonical (Identifier.ofText?_some made), .inr ⟨token, locks⟩⟩
    intro text given
    exact Identifier.ofText?_none_iff.1 (Option.bind_eq_none_iff.1 none text given)

theorem messageId?_none {p : BrokerProperties}
    (unnamed : messageId? p (p.lockToken.bind LockToken.parse?) = none) : ¬Named p := by
  unfold messageId? at unnamed
  obtain ⟨own, lock⟩ := Option.or_eq_none_iff.1 unnamed
  rintro (⟨text, given, nonempty⟩ | ⟨token, locks⟩)
  · exact nonempty (Identifier.ofText?_none_iff.1 (Option.bind_eq_none_iff.1 own text given))
  · have found := BrokerProperties.locks_iff.1 locks
    exact token.text_ne_empty (Identifier.ofText?_none_iff.1 (Option.bind_eq_none_iff.1 lock token found))

/-- A message as it is handed out with a response that tells this of it. -/
structure Handed (response : Response) (p : BrokerProperties) (now : Instant) (m : Message) : Prop where
  name : p.Names m.id
  body : m.body = response.body
  time : ∃ time, m.enqueuedTime = some time ∧
    (time = now ∨ ∃ text, p.enqueuedTime = some text ∧ Rfc2822.read text = .ok time)
  count : m.deliveryCount = p.deliveryCount.getD 1

/-- The time that is told of a message, if it can be read, and else that of its receipt. -/
theorem time_cases (p : BrokerProperties) (now : Instant) :
    let time := (p.enqueuedTime.bind fun text => (Rfc2822.read text).toOption).getD now
    time = now ∨ ∃ text, p.enqueuedTime = some text ∧ Rfc2822.read text = .ok time := by
  cases told : p.enqueuedTime with
  | none => exact .inl rfl
  | some text =>
    cases read : Rfc2822.read text with
    | error fault =>
      refine .inl ?_
      rw [Option.bind_some, read]
      rfl
    | ok time =>
      refine .inr ⟨text, rfl, ?_⟩
      rw [Option.bind_some, read]
      rfl

section

variable (uri : String) (now : Instant) {response : Response} {p : BrokerProperties}
  (told : brokerProperties response = .ok p)

include told

theorem locked_unnamed (unnamed : messageId? p (p.lockToken.bind LockToken.parse?) = none) :
    ∃ reason, locked uri now response = .error (.transient reason) := by
  unfold locked
  rw [told]
  dsimp only [bind, Except.bind]
  rw [unnamed]
  exact ⟨_, rfl⟩

variable {id : MessageId} (named : messageId? p (p.lockToken.bind LockToken.parse?) = some id)

include named

theorem locked_unplaced (nowhere : headerText? response "location" = none)
    (loose : p.lockToken.bind LockToken.parse? = none) :
    ∃ reason, locked uri now response = .error (.transient reason) := by
  rw [loose] at named
  unfold locked
  rw [told]
  dsimp only [bind, Except.bind]
  rw [loose, nowhere, named]
  exact ⟨_, rfl⟩

theorem locked_handed (placed : Placed response p) :
    ∃ l, locked uri now response = .ok l ∧ Handed response p now l.message := by
  have name := (messageId?_some named).1
  have time := time_cases p now
  unfold locked
  rw [told]
  dsimp only [bind, Except.bind]
  rw [named]
  cases given : headerText? response "location" with
  | some place => exact ⟨_, rfl, name, rfl, ⟨_, rfl, time⟩, rfl⟩
  | none =>
    rcases placed with ⟨place, other⟩ | ⟨token, locks⟩
    · rw [given] at other
      cases other
    · have found := BrokerProperties.locks_iff.1 locks
      rw [found]
      exact ⟨_, rfl, name, rfl, ⟨_, rfl, time⟩, rfl⟩

end

/-- A message is in hand if the response tells enough of it, and else it is tried again. -/
theorem locked_cases (uri : String) (now : Instant) (response : Response) :
    (∃ p l, Tells response p ∧ Named p ∧ Placed response p ∧ Handed response p now l.message ∧
      locked uri now response = .ok l) ∨
    (¬∃ p, Tells response p ∧ Named p ∧ Placed response p) ∧
      ∃ reason, locked uri now response = .error (.transient reason) := by
  cases told : brokerProperties response with
  | error fault =>
    obtain ⟨reason, rfl⟩ := brokerProperties_error told
    refine .inr ⟨?_, reason, ?_⟩
    · rintro ⟨p, tells, -⟩
      rw [tells_iff, told] at tells
      cases tells
    · unfold locked
      rw [told]
      rfl
  | ok p =>
    have tells : Tells response p := tells_iff.2 told
    have only {q : BrokerProperties} (other : Tells response q) : q = p :=
      Except.ok.inj ((tells_iff.1 other).symm.trans told)
    cases named : messageId? p (p.lockToken.bind LockToken.parse?) with
    | none =>
      refine .inr ⟨?_, locked_unnamed uri now told named⟩
      rintro ⟨q, other, name, -⟩
      obtain rfl := only other
      exact messageId?_none named name
    | some id =>
      by_cases placed : Placed response p
      · obtain ⟨l, made, handed⟩ := locked_handed uri now told named placed
        exact .inl ⟨p, l, tells, (messageId?_some named).2, placed, handed, made⟩
      · refine .inr ⟨?_, ?_⟩
        · rintro ⟨q, other, -, place⟩
          obtain rfl := only other
          exact placed place
        · obtain ⟨nowhere, loose⟩ := not_or.1 placed
          refine locked_unplaced uri now told named ?_ ?_
          · exact Option.eq_none_iff_forall_ne_some.2 fun place given => nowhere ⟨place, given⟩
          · exact Option.eq_none_iff_forall_ne_some.2 fun token found =>
              loose ⟨token, BrokerProperties.locks_iff.2 found⟩

/-! ## What the response comes to -/

/-- A response has a message that can be handed out: its body is whole, what is told of the message can be
read, and this has a name and a lock. -/
structure Deliverable (response : Response) (p : BrokerProperties) : Prop where
  complete : response.isComplete = true
  tells : Tells response p
  named : Named p
  placed : Placed response p

/-- What the response to the request for a message comes to. The statuses of the five cases exclude each other,
but for a message in hand and a spoiled one, which differ in what can be handed out. -/
inductive Receipt (now : Instant) (response : Response) : Except BrokerFault (Option Locked) → Prop where
  | empty (status : response.status = 204) : Receipt now response (.ok none)
  | handed {p : BrokerProperties} {l : Locked} (status : response.status ∈ [200, 201])
      (deliverable : Deliverable response p) (handed : Handed response p now l.message) :
      Receipt now response (.ok (some l))
  | spoiled {reason : String} (status : response.status ∈ [200, 201])
      (spoiled : ¬∃ p, Deliverable response p) : Receipt now response (.error (.transient reason))
  | refused {reason : String} (status : response.status ∈ [401, 403, 404]) :
      Receipt now response (.error (.fatal reason))
  | failed {reason : String} (status : response.status ∉ [200, 201, 204, 401, 403, 404]) :
      Receipt now response (.error (.transient reason))

theorem received_receipt (uri : String) (now : Instant) (response : Response) :
    Receipt now response (received uri now (.ok response)) := by
  unfold received
  dsimp only
  split
  · rename_i status
    exact .empty status
  · rename_i some
    split
    · rename_i success
      have status : response.status ∈ [200, 201] := by
        rcases success with success | success <;> simp [success]
      split
      · rename_i complete
        rcases locked_cases uri now response with
          ⟨p, l, tells, named, placed, handed, made⟩ | ⟨lacks, reason, made⟩
        · rw [made]
          exact .handed status ⟨complete, tells, named, placed⟩ handed
        · rw [made]
          refine .spoiled status ?_
          rintro ⟨p, deliverable⟩
          exact lacks ⟨p, deliverable.tells, deliverable.named, deliverable.placed⟩
      · rename_i broken
        refine .spoiled status ?_
        rintro ⟨p, deliverable⟩
        exact broken deliverable.complete
    · rename_i other
      unfold statusFault
      dsimp only
      split
      · rename_i final
        exact .refused (by simpa using final)
      · rename_i passing
        refine .failed ?_
        simp only [List.mem_cons, List.not_mem_nil, or_false]
        omega

namespace Receipt

variable {now : Instant} {response : Response} {outcome : Except BrokerFault (Option Locked)}
  (receipt : Receipt now response outcome)

include receipt

theorem empty_iff : outcome = .ok none ↔ response.status = 204 := by
  cases receipt <;> grind

theorem fatal_iff : (∃ reason, outcome = .error (.fatal reason)) ↔ response.status ∈ [401, 403, 404] := by
  cases receipt <;> grind

theorem transient_iff : (∃ reason, outcome = .error (.transient reason)) ↔
    response.status ∉ [200, 201, 204, 401, 403, 404] ∨
      response.status ∈ [200, 201] ∧ ¬∃ p, Deliverable response p := by
  cases receipt <;> grind

theorem handed_iff : (∃ l, outcome = .ok (some l)) ↔
    response.status ∈ [200, 201] ∧ ∃ p, Deliverable response p := by
  cases receipt <;> grind

/-- No message is in hand but a whole one. -/
theorem whole : ∀ l, outcome = .ok (some l) →
    l.message.id.text ≠ "" ∧ ∃ p, Deliverable response p ∧ Handed response p now l.message := by
  cases receipt with
  | @handed p l _ deliverable handed =>
    intro m same
    cases same
    exact ⟨l.message.id.nonempty, p, deliverable, handed⟩
  | empty | spoiled | refused | failed =>
    intro m same
    cases same

end Receipt

section

variable {τ σ : Type} (r : Receiver) (tokens : Tokens τ) (peer : Peer σ) (now : Instant) (state : τ × σ)

theorem receive_granted {token : String} (granted : (tokens state.1 r.entityUri).1 = .ok token) :
    (r.receive tokens peer now state).result =
      received r.entityUri now (Http.carryOut? peer state.2 (r.receiveRequest? token)).result := by
  refine (ask_granted peer r.receiveRequest? _ granted).1.trans ?_
  generalize received r.entityUri now _ = outcome
  rcases outcome with fault | _ | l <;> rfl

/-- **What becomes of a receipt.** Without a token the receipt fails with the reason for it, and nothing is
sent. With one, an exchange that fails is tried again. What else becomes of it is told by the response: there
is no message just if the status is 204; there is no other try just if it is 401, 403 or 404; and a message
is in hand just if it is 200 or 201, the body is whole, and the response tells a name and a lock. In all other
cases there is another try. A message in hand has a name that is not empty, the body of the response, a time,
and the count that it was told, or else one. -/
theorem receive_classifies :
    (∀ fault, (tokens state.1 r.entityUri).1 = .error fault →
      (r.receive tokens peer now state).result = .error fault ∧ (r.receive tokens peer now state).sent = [] ∧
        (r.receive tokens peer now state).peer = state.2) ∧
    ∀ token, (tokens state.1 r.entityUri).1 = .ok token →
      let asked := r.receive tokens peer now state
      let answer := (Http.carryOut? peer state.2 (r.receiveRequest? token)).result
      (∀ fault, answer = .error fault → ∃ reason, asked.result = .error (.transient reason)) ∧
      ∀ response, answer = .ok response →
        (asked.result = .ok none ↔ response.status = 204) ∧
        ((∃ reason, asked.result = .error (.fatal reason)) ↔ response.status ∈ [401, 403, 404]) ∧
        ((∃ reason, asked.result = .error (.transient reason)) ↔
          response.status ∉ [200, 201, 204, 401, 403, 404] ∨
            response.status ∈ [200, 201] ∧ ¬∃ p, Deliverable response p) ∧
        ((∃ l, asked.result = .ok (some l)) ↔ response.status ∈ [200, 201] ∧ ∃ p, Deliverable response p) ∧
        ∀ l, asked.result = .ok (some l) →
          l.message.id.text ≠ "" ∧ ∃ p, Deliverable response p ∧ Handed response p now l.message := by
  constructor
  · intro fault refused
    exact ask_refused peer r.receiveRequest? _ refused
  · intro token granted asked answer
    have result : asked.result = received r.entityUri now answer :=
      receive_granted r tokens peer now state granted
    constructor
    · intro fault failed
      rw [failed] at result
      exact ⟨_, result⟩
    · intro response answered
      rw [answered] at result
      have receipt := received_receipt r.entityUri now response
      rw [← result] at receipt
      exact ⟨receipt.empty_iff, receipt.fatal_iff, receipt.transient_iff, receipt.handed_iff, receipt.whole⟩

end

/-- Nothing is sent without a token. With one, a message without a name is in hand under that of its lock. -/
theorem receive_classifies_unnamed :
    (Sample.receiver.receive Sample.refusal (Sample.broker "" 200) .epoch ((), 0)).sent = [] ∧
    ∃ l response p, (Sample.received "" 200).result = .ok (some l) ∧ Deliverable response p ∧
      Handed response p .epoch l.message ∧
      l.message.id.text = "7f5c3a1e-2b4d-4c6e-8f90-123456789abc" := by
  have told : (Sample.received "" 200).result.toOption.map (Option.map fun l => l.message.id.text) =
      some (some "7f5c3a1e-2b4d-4c6e-8f90-123456789abc") := by decide +kernel
  obtain ⟨l, given, name⟩ := received_some told
  obtain ⟨-, quiet, -⟩ := (receive_classifies Sample.receiver Sample.refusal (Sample.broker "" 200) .epoch
    ((), 0)).1 (.transient "no token") rfl
  obtain ⟨failed, responded⟩ := (receive_classifies Sample.receiver Sample.tokens (Sample.broker "" 200) .epoch
    ((), 0)).2 "token" rfl
  cases answered : (Http.carryOut? (Sample.broker "" 200) ((), 0).2
      (Sample.receiver.receiveRequest? "token")).result with
  | error fault =>
    obtain ⟨reason, error⟩ := failed fault answered
    have result : Except.ok (some l) = .error (BrokerFault.transient reason) := given.symm.trans error
    cases result
  | ok response =>
    obtain ⟨-, -, -, -, whole⟩ := responded response answered
    obtain ⟨-, p, deliverable, handed⟩ := whole l given
    exact ⟨quiet, l, response, p, given, deliverable, handed, name⟩

end Receiver

end BusRelay
