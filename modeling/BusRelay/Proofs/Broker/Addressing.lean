import BusRelay.Proofs.Broker.Deletion
import BusRelay.Proofs.Broker.LockToken
import BusRelay.Proofs.Http.Preparation
import BusRelay.Proofs.Url.Encoding
/-!
# Where locks are deleted

A lock without a place of its own is below the entity: behind `messages`, the name of the message and the
token of the lock (`locked_ok`). So if that name is one segment of a path and has no escapes, the deletion is
sent to the entity's host, three segments below the entity (`deleted_below_entity`). The name is not escaped,
though: a slash in it makes two segments of it (`deleted_elsewhere`).
-/

namespace BusRelay

open Http (Peer Request Reply Response Hops)

namespace Receiver

/-! ## Receiving -/

theorem received_ok {uri : String} {now : Instant} {answer : Except Http.ClientFault Response} {l : Locked}
    (ok : received uri now answer = .ok (some l)) :
    ∃ response, answer = .ok response ∧ locked uri now response = .ok l := by
  cases answer with
  | error fault => cases ok
  | ok response =>
    refine ⟨response, rfl, ?_⟩
    simp only [received] at ok
    split at ok
    · cases ok
    · split at ok
      · split at ok
        · obtain ⟨found, made, same⟩ := map_ok ok
          cases same
          exact made
        · cases ok
      · cases ok

section

variable {τ σ : Type} {r : Receiver} {tokens : Tokens τ} {peer : Peer σ} {now : Instant} {state : τ × σ}
variable {l : Locked}

/-- A message in hand was in the response to the last request that followed from asking for it. -/
theorem receive_ok (ok : (r.receive tokens peer now state).result = .ok (some l)) :
    ∃ token request first hops last response, r.receiveRequest? token = some request ∧
      Http.prepare request = .ok first ∧
      (r.receive tokens peer now state).sent = hops ++ [(last, .response response)] ∧
      locked r.entityUri now response = .ok l := by
  obtain ⟨token, granted, meant, sent⟩ := ask_ok ok
  have means : received r.entityUri now (Http.carryOut? peer state.2 (r.receiveRequest? token)).result =
      .ok (some l) := by
    generalize received r.entityUri now (Http.carryOut? peer state.2 (r.receiveRequest? token)).result =
      result at meant
    rcases result with fault | _ | found
    · cases meant
    · cases meant
    · exact meant
  obtain ⟨response, answered, made⟩ := received_ok means
  obtain ⟨request, first, hops, last, asked, prepared, split, -, -⟩ := answered_last answered
  exact ⟨token, request, first, hops, last, response, asked, prepared, sent.trans split, made⟩

end

/-- A lock without a place of its own is named after the message and the token. -/
theorem locked_ok {uri : String} {now : Instant} {response : Response} {l : Locked}
    (ok : locked uri now response = .ok l) (placeless : response.header? "location" = none) :
    ∃ p token, brokerProperties response = .ok p ∧ p.lockToken.bind LockToken.parse? = some token ∧
      messageId? p (some token) = some l.message.id ∧
      l.lock = uri ++ "/messages/" ++ l.message.id.text ++ "/" ++ token.text := by
  obtain ⟨p, read, ok⟩ := bind_ok ok
  have nowhere : headerText? response "location" = none := by
    unfold headerText?
    rw [placeless]
    rfl
  dsimp only at ok
  cases named : messageId? p (p.lockToken.bind LockToken.parse?) with
  | none =>
    rw [named] at ok
    cases ok
  | some id =>
    rw [named, nowhere] at ok
    cases given : p.lockToken.bind LockToken.parse? with
    | none =>
      rw [given] at ok
      cases ok
    | some token =>
      rw [given] at ok named
      cases ok
      exact ⟨p, token, read, given, named, by simp [toString]⟩

/-! ## Addresses -/

/-- A name that stands in a path as one segment: it has no slashes, no marks that end the path and no line
ends or tabs, it is no step within the path, and no escapes are in it. -/
structure Addressable (name : String) : Prop where
  segment : Url.IsSegment name.toList
  kept : ∀ c ∈ name.toList, c ≠ '\t' ∧ c ≠ '\n' ∧ c ≠ '\r'
  inside : ∀ c ∈ name.toList, c ≠ '?' ∧ c ≠ '#'
  literal : Percent.decode (Utf8.bytes name) = Utf8.bytes name

/-- What stands below the entity in the place of a lock. -/
def lockBelow (id : String) (token : LockToken) : List Char :=
  "messages".toList ++ '/' :: (id.toList ++ '/' :: token.text.toList)

theorem fits_lockBelow {id : String} (addressable : Addressable id) {token : LockToken}
    (canonical : token.Canonical) : Url.Fits (lockBelow id token) :=
  have digits : Url.Fits token.text.toList := Url.fits_word (LockToken.text_word canonical)
  have named : Url.Fits (id.toList ++ '/' :: token.text.toList) :=
    .append addressable.kept digits.slash (List.cons_ne_nil _ _)
  .append (forall_mem_of_all (by decide)) named.slash (List.cons_ne_nil _ _)

/-- Nothing in the place of a lock ends the path. -/
theorem splitPath_lockBelow {id : String} (addressable : Addressable id) {token : LockToken}
    (canonical : token.Canonical) : Url.splitPath (lockBelow id token) = (lockBelow id token, []) := by
  have inside : ∀ c ∈ lockBelow id token, (!(c = '?' || c = '#')) = true := by
    intro c mem
    have plain : c ≠ '?' ∧ c ≠ '#' := by
      rcases List.mem_append.1 mem with front | back
      · have all : ∀ c ∈ "messages".toList, c ≠ '?' ∧ c ≠ '#' := forall_mem_of_all (by decide)
        exact all c front
      · rcases List.mem_cons.1 back with rfl | back
        · decide
        · rcases List.mem_append.1 back with name | back
          · exact addressable.inside c name
          · rcases List.mem_cons.1 back with rfl | digit
            · decide
            · have word := LockToken.text_word canonical c digit
              constructor <;> (rintro rfl; cases word)
    simp [plain.1, plain.2]
  have whole := Url.splitPath_below inside []
  rw [List.append_nil] at whole
  rw [whole]
  change (lockBelow id token ++ [], []) = _
  rw [List.append_nil]

theorem segments_text (uri a b c : String) : uri ++ ("/" ++ a ++ "/") ++ b ++ "/" ++ c =
    uri ++ "/" ++ String.ofList (a.toList ++ '/' :: (b.toList ++ '/' :: c.toList)) := by
  have slash : "/".toList = ['/'] := rfl
  refine String.toList_inj.1 ?_
  simp only [String.toList_append, String.toList_ofList, slash, List.append_assoc, List.cons_append,
    List.nil_append]

/-- The request to delete what is at a place, as it is sent. A user of the place is told besides the token. -/
def deletion (place : Url) (token : String) : Request where
  method := .delete
  url := place.withoutUser
  headers := Dict.ofList [("authorization", token)]
  credentials := Http.userCredentials? place

/-- The name of a message as a segment of a path. -/
def lockSegment (id : String) : String := Url.encoded Url.encodedInPath id.toList

/-- The place of the lock of a message below an entity. -/
def lockPlace (entity : Url) (base : List String) (id : String) (token : LockToken) : Url :=
  { entity with path := .segments (base ++ ["messages", lockSegment id, token.text]) }

/-- A name without escapes is what its segment decodes to. -/
theorem decode_lockSegment {id : String} (addressable : Addressable id) :
    Percent.decode (Utf8.bytes (lockSegment id)) = Utf8.bytes id := by
  rw [lockSegment, Url.decode_encoded Url.harmless_path]
  exact addressable.literal

/-- The place of a lock is three segments below the entity. -/
theorem parse_lock {uri : String} {entity : Url} (read : Url.parse (uri ++ "/") = .ok entity)
    (web : entity.scheme = "http" ∨ entity.scheme = "https") (query : entity.query = none)
    (fragment : entity.fragment = none) :
    ∃ base, entity.path = .segments (base ++ [""]) ∧
      ∀ id, Addressable id → ∀ token : LockToken, token.Canonical →
        Url.parse (uri ++ "/messages/" ++ id ++ "/" ++ token.text) =
          .ok (lockPlace entity base id token) := by
  have special : Url.isSpecial entity.scheme = true := by
    rcases web with web | web <;> rw [web] <;> decide
  have noFile : entity.scheme ≠ "file" := by
    rcases web with web | web <;> rw [web] <;> decide
  obtain ⟨onto, path, below⟩ := Url.parse_below read special noFile query fragment
  refine ⟨onto.reverse.map String.ofList, path, fun id addressable token canonical => ?_⟩
  have middle : "/messages/" = "/" ++ "messages" ++ "/" := by decide
  have text : uri ++ "/messages/" ++ id ++ "/" ++ token.text =
      uri ++ "/" ++ String.ofList (lockBelow id token) := by
    rw [middle]
    exact segments_text uri "messages" id token.text
  have messages : ∀ c ∈ "messages".toList, Url.isWordChar c = true := forall_mem_of_all (by decide)
  have digits := LockToken.text_word canonical
  have placed : Url.pathOf entity.scheme onto (lockBelow id token) = onto.reverse.map String.ofList ++
      ["messages", lockSegment id, token.text] := by
    unfold lockBelow
    rw [(Url.isSegment_word messages).pathOf_slash noFile, addressable.segment.pathOf_slash noFile,
      (Url.isSegment_word digits).pathOf_last noFile, Url.encodeSet_word messages, Url.encoded,
      Url.encodeSet_word digits]
    simp [lockSegment, Url.encoded, String.ofList_toList]
  rw [text, below _ (fits_lockBelow addressable canonical), splitPath_lockBelow addressable canonical]
  dsimp only
  rw [placed]
  simp [lockPlace, Url.withEnd, Url.readQueryAndFragment, query, fragment]

/-! ## Deleting at the entity -/

theorem receiveUrl_eq (r : Receiver) : r.receiveUrl =
    r.entityUri ++ "/" ++ String.ofList ("messages/head?timeout=".toList ++ Nat.toDigits 10 r.timeout.seconds) := by
  have front : "/messages/head?timeout=".toList = '/' :: "messages/head?timeout=".toList := by decide
  have slash : "/".toList = ['/'] := rfl
  have written : r.receiveUrl = r.entityUri ++ "/messages/head?timeout=" ++ r.timeout.seconds.repr := rfl
  rw [written]
  refine String.toList_inj.1 ?_
  simp only [String.toList_append, String.toList_ofList, front, slash, Nat.toList_repr, List.append_assoc,
    List.cons_append, List.nil_append]

theorem fits_receive (seconds : Nat) :
    Url.Fits ("messages/head?timeout=".toList ++ Nat.toDigits 10 seconds) := by
  have digits : ∀ c ∈ Nat.toDigits 10 seconds, Url.isWordChar c = true := by
    intro c mem
    have digit : c.isDigit = true := Nat.isDigit_of_mem_toDigits (by decide) (by decide) mem
    simp [Url.isWordChar, Char.isAlphanum, digit]
  exact .append (forall_mem_of_all (by decide)) (Url.fits_word digits) Nat.toDigits_ne_nil

section

variable {τ σ : Type} {r : Receiver} {tokens : Tokens τ} {peer : Peer σ} {now : Instant} {state : τ × σ}
variable {l : Locked} {entity : Url}

/-- A message in hand comes from a host that requests can be made to. -/
theorem receive_place {token : String} {request first : Request}
    (asked : r.receiveRequest? token = some request) (prepared : Http.prepare request = .ok first)
    (directory : Url.parse (r.entityUri ++ "/") = .ok entity) (query : entity.query = none)
    (fragment : entity.fragment = none) :
    (entity.scheme = "http" ∨ entity.scheme = "https") ∧ first.url.scheme = entity.scheme ∧
      first.url.host = entity.host ∧ Http.isRequestable first.url = true := by
  obtain ⟨read, -⟩ := Http.Request.ofText?_some asked
  rw [receiveUrl_eq] at read
  obtain ⟨place, requestable⟩ := Http.prepare_place prepared
  have fits := fits_receive r.timeout.seconds
  have scheme : first.url.scheme = entity.scheme := by
    rw [place]
    change request.url.scheme = entity.scheme
    exact Url.scheme_below directory fits read
  have web : entity.scheme = "http" ∨ entity.scheme = "https" := by
    rw [← scheme]
    exact Http.isRequestable_scheme requestable
  have special : Url.isSpecial entity.scheme = true := by
    rcases web with web | web <;> rw [web] <;> decide
  have noFile : entity.scheme ≠ "file" := by
    rcases web with web | web <;> rw [web] <;> decide
  obtain ⟨onto, -, below⟩ := Url.parse_below directory special noFile query fragment
  have same := Except.ok.inj ((below _ fits).symm.trans read)
  refine ⟨web, scheme, ?_, requestable⟩
  rw [place, ← same]
  rfl

/-- The request to delete a lock goes to the place of the lock, with the token. -/
theorem complete_first (peer : Peer σ) {lock token : String} {place : Url}
    (granted : (tokens state.1 r.entityUri).1 = .ok token) (value : Http.isHeaderValue token = true)
    (read : Url.parse lock = .ok place) (requestable : Http.isRequestable place.withoutUser = true) :
    ∃ reply more, (r.complete tokens peer lock state).sent = (deletion place token, reply) :: more := by
  let request : Request :=
    { method := .delete, url := place, headers := Dict.ofList [("authorization", token)], body := [] }
  have made : completeRequest? lock token = some request := by
    unfold completeRequest? Request.ofText?
    rw [read]
  have values : ∀ header ∈ request.headers.entries, Http.isHeaderValue header.2 = true := by
    intro header mem
    obtain rfl := List.mem_singleton.1 mem
    exact value
  have prepared : Http.prepare request = .ok (deletion place token) := Http.prepare_fit values requestable
  obtain ⟨reply, more, sent⟩ := Http.carryOut_first peer state.2 prepared
  have carried := (ask_granted peer (completeRequest? lock) (completed lock) granted).2
  rw [made] at carried
  exact ⟨reply, more, carried.trans sent⟩

/-- **Where a lock is deleted.** Let a message in hand come with a response that names no place for its lock,
from an entity whose address ends with its path, and let the name of the message be one segment of a path.
Then completing it with a token sends a deletion first, and this goes to the entity's scheme, host and port,
three segments below the entity: `messages`, one that decodes to the name of the message, and the token of
the lock. -/
theorem deleted_below_entity {earlier : List (Request × Reply)} {last : Request} {response : Response}
    (given : (r.receive tokens peer now state).result = .ok (some l))
    (sent : (r.receive tokens peer now state).sent = earlier ++ [(last, .response response)])
    (placeless : response.header? "location" = none)
    (directory : Url.parse (r.entityUri ++ "/") = .ok entity) (query : entity.query = none)
    (fragment : entity.fragment = none) (addressable : Addressable l.message.id.text) :
    ∃ p token base, brokerProperties response = .ok p ∧
      p.lockToken.bind LockToken.parse? = some token ∧ token.Canonical ∧
      messageId? p (some token) = some l.message.id ∧
      Percent.decode (Utf8.bytes (lockSegment l.message.id.text)) = Utf8.bytes l.message.id.text ∧
      entity.path = .segments (base ++ [""]) ∧
      ∀ (later : τ × σ) (credentials : String), (tokens later.1 r.entityUri).1 = .ok credentials →
        Http.isHeaderValue credentials = true →
        (Utf8.bytes (lockPlace entity.withoutUser base l.message.id.text token).text).length ≤
          Http.maxUrlLength →
        ∃ reply more, (r.complete tokens peer l.lock later).sent =
          (deletion (lockPlace entity base l.message.id.text token) credentials, reply) :: more := by
  obtain ⟨credentials, request, first, hops, final, answer, asked, prepared, split, made⟩ := receive_ok given
  obtain rfl : answer = response := by
    have lists := List.append_inj_right' (split.symm.trans sent) rfl
    cases lists
    rfl
  obtain ⟨web, scheme, host, requestable⟩ := receive_place asked prepared directory query fragment
  obtain ⟨p, token, read, found, named, lock⟩ := locked_ok made placeless
  have canonical : token.Canonical := by
    obtain ⟨text, -, parsed⟩ := Option.bind_eq_some_iff.1 found
    exact LockToken.parse?_canonical parsed
  obtain ⟨base, path, places⟩ := parse_lock directory web query fragment
  refine ⟨p, token, base, read, found, canonical, named, decode_lockSegment addressable, path,
    fun later credentials granted value short => ?_⟩
  have place := places l.message.id.text addressable token canonical
  rw [← lock] at place
  refine complete_first peer granted value place ?_
  exact Http.isRequestable_of_same requestable scheme.symm host.symm short

end

namespace Sample

/-- The entity of the sample, with a slash behind it. -/
def directory : Url := { endpoint with path := .segments ["q1", ""] }

def token : LockToken := ⟨"7f5c3a1e2b4d4c6e8f90123456789abc".toList⟩

/-- A response that speaks of the lock of the sample and names no place for it. -/
def speaksOfLock : Reply → Bool
  | .response response => (response.header? "location").isNone &&
    ((brokerProperties response).toOption.bind fun p => p.lockToken.bind LockToken.parse?) = some token
  | _ => false

/-- The place of the lock of the message `orders/1`. -/
def ordersLock : String :=
  "http://ns1.servicebus.windows.net/q1/messages/orders/1/7f5c3a1e-2b4d-4c6e-8f90-123456789abc"

/-- The name has a blank, a letter beyond ASCII and a percent sign. -/
theorem addressable : Addressable "ü 100%" where
  segment := ⟨forall_mem_of_all (by decide), by decide, by decide⟩
  kept := forall_mem_of_all (by decide)
  inside := forall_mem_of_all (by decide)
  literal := by decide +kernel

end Sample

/-- A name with a blank, a letter beyond ASCII and a percent sign is escaped, and the lock is deleted. -/
theorem deleted_below_entity_quoted :
    ∃ l, (Sample.received "ü 100%" 200).result = .ok (some l) ∧ l.message.id.text = "ü 100%" ∧
      Percent.decode (Utf8.bytes (lockSegment "ü 100%")) = Utf8.bytes "ü 100%" ∧
      ∃ reply more, (Sample.completion "ü 100%" 200 l.lock).sent =
        (deletion (lockPlace Sample.endpoint ["q1"] "ü 100%" Sample.token) "token", reply) :: more := by
  have ⟨name, spoken⟩ : (Sample.received "ü 100%" 200).result.toOption.map
        (Option.map fun l => l.message.id.text) = some (some "ü 100%") ∧
      (Sample.received "ü 100%" 200).sent.all (fun exchange => Sample.speaksOfLock exchange.2) = true := by
    decide +kernel
  obtain ⟨l, given, named⟩ := received_some name
  obtain ⟨credentials, request, first, hops, last, response, -, -, sent, -⟩ := receive_ok given
  have spoken : Sample.speaksOfLock (.response response) = true := by
    refine List.all_eq_true.1 spoken (last, .response response) ?_
    rw [Sample.received, sent]
    exact List.mem_append_right hops List.mem_cons_self
  simp only [Sample.speaksOfLock, Bool.and_eq_true, Option.isNone_iff_eq_none, decide_eq_true_eq] at spoken
  have directory : Url.parse (Sample.receiver.entityUri ++ "/") = .ok Sample.directory := by
    decide +kernel
  obtain ⟨p, token, base, read, found, canonical, -, decoded, path, deletes⟩ :=
    deleted_below_entity given sent spoken.1 directory rfl rfl (by rw [named]; exact Sample.addressable)
  rw [named] at decoded deletes
  obtain rfl : token = Sample.token := by
    have same := spoken.2
    rw [read] at same
    exact Option.some.inj (found.symm.trans same)
  obtain rfl : base = ["q1"] := by
    have lists : ["q1"] ++ [""] = base ++ [""] := UrlPath.segments.inj path
    exact (List.append_cancel_right lists).symm
  have short : (Utf8.bytes (lockPlace Sample.directory.withoutUser ["q1"] "ü 100%" Sample.token).text).length ≤
      Http.maxUrlLength := by
    decide +kernel
  have value : Http.isHeaderValue "token" = true := by
    decide +kernel
  exact ⟨l, given, named, decoded, deletes ((), (Sample.received "ü 100%" 200).peer) "token" rfl value short⟩

/-- A slash in the name of a message makes two segments of it, and the lock is not deleted. -/
theorem deleted_elsewhere :
    ∃ l, (Sample.received "orders/1" 200).result = .ok (some l) ∧ l.message.id.text = "orders/1" ∧
      (Sample.completion "orders/1" 200 l.lock).sent.map (fun exchange => exchange.1.method) = [.delete] ∧
      ∀ exchange ∈ (Sample.completion "orders/1" 200 l.lock).sent, ∀ segment,
        exchange.1.url.path ≠ .segments ["q1", "messages", segment, Sample.token.text] := by
  have ⟨told, requests⟩ : (Sample.received "orders/1" 200).result.toOption.map
        (Option.map fun l => (l.message.id.text, l.lock)) = some (some ("orders/1", Sample.ordersLock)) ∧
      (Sample.completion "orders/1" 200 Sample.ordersLock).sent.map
          (fun exchange => (exchange.1.method, exchange.1.url.path)) =
        [(.delete, .segments ["q1", "messages", "orders", "1", Sample.token.text])] := by
    decide +kernel
  obtain ⟨l, given, same⟩ := received_some told
  obtain ⟨name, lock⟩ := Prod.mk.inj same
  refine ⟨l, given, name, ?_, ?_⟩
  · rw [lock]
    have methods := congrArg (List.map Prod.fst) requests
    rw [List.map_map] at methods
    exact methods
  · intro exchange mem segment other
    rw [lock] at mem
    have among := List.mem_map_of_mem (f := fun exchange => (exchange.1.method, exchange.1.url.path)) mem
    rw [requests] at among
    have path := (Prod.mk.inj (List.mem_singleton.1 among)).2
    have lengths := congrArg List.length (UrlPath.segments.inj (path.symm.trans other))
    simp only [List.length_cons, List.length_nil] at lengths
    omega

end Receiver

end BusRelay
