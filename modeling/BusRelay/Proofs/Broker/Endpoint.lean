import BusRelay.Proofs.Broker.Addressing
import BusRelay.Proofs.Broker.ConnectionString
import BusRelay.Proofs.Broker.Precedence
import BusRelay.Proofs.Url.Site
/-!
# Where messages are asked for

A binding is to the root of the entity's namespace (`bind_endpoint`), and messages are asked for two segments
below the entity there (`receives_at_entity`), if the namespace stands for a host as it is and what a key
brings into the connection string says nothing of an endpoint. The texts are not escaped, though: a key with a
semicolon in it may name another endpoint (`receives_elsewhere`).
-/

namespace BusRelay

open Http (Peer Request)

namespace Entity

/-- The host of the namespace of an entity. -/
def hostName (e : Entity) : List Char := e.space.toList ++ '.' :: ConnectionString.domain.toList

/-- The root of the namespace of an entity. -/
def root (e : Entity) : Url := Url.site "https" (.name (String.ofList (e.hostName.map Char.toLower)))

/-- The segments of the path of an entity. -/
def segments (e : Entity) : List String := (Fields.split '/' e.path.text.toList).map String.ofList

end Entity

/-! ## The root of a namespace -/

namespace ConnectionString

/-- The host of a namespace. -/
def hostOf (space : String) : List Char := space.toList ++ '.' :: domain.toList

/-- The root of a namespace. -/
def siteOf (space : String) : Url := Url.site "https" (.name (String.ofList ((hostOf space).map Char.toLower)))

theorem isHostName_hostOf {space : String} (name : Url.IsHostName space.toList) : Url.IsHostName (hostOf space) :=
  name.append ⟨by decide, forall_mem_of_all (by decide)⟩

theorem hostOf_ne_nil (space : String) : hostOf space ≠ [] :=
  List.append_ne_nil_of_right_ne_nil _ (List.cons_ne_nil _ _)

/-- The host of a namespace is a name, since its last label is one. -/
theorem endsInNumber_hostOf (space : String) : Address.endsInNumber ((hostOf space).map Char.toLower) = false := by
  have lower : domain.toList.map Char.toLower = "servicebus.windows".toList ++ '.' :: "net".toList := by decide
  have last : (hostOf space).map Char.toLower =
      (space.toList.map Char.toLower ++ '.' :: "servicebus.windows".toList) ++ '.' :: "net".toList := by
    rw [hostOf, List.map_append, List.map_cons, lower, List.append_assoc, List.cons_append]
    rfl
  rw [last]
  exact Url.endsInNumber_append (by decide) (by decide) (by decide) _

/-- The text of the root. -/
theorem text_siteOf (space : String) :
    (siteOf space).text = "https://" ++ String.ofList ((hostOf space).map Char.toLower) ++ "/" := by
  have front : "https" ++ ":" ++ "//" = "https://" := by decide
  have path : String.join ["/" ++ ""] = "/" := by decide
  have written : (siteOf space).text = "https" ++ ":" ++ "//" ++
      ("" ++ String.ofList ((hostOf space).map Char.toLower) ++ "") ++ String.join ["/" ++ ""] ++ "" ++ "" := rfl
  rw [written, front, path]
  simp only [String.append_empty, String.empty_append]

end ConnectionString

/-- The URL of a host of the web. -/
theorem parse_web {name : List Char} (host : Url.IsHostName name) (more : name ≠ [])
    (noNumber : Address.endsInNumber (name.map Char.toLower) = false) :
    Url.parse ("https://" ++ String.ofList name ++ "/") =
      .ok (Url.site "https" (.name (String.ofList (name.map Char.toLower)))) := by
  rw [Url.parse_web (host.isAuthority more), host.readDomain more noNumber]
  rfl

namespace ConnectionString

theorem ofList_hostOf (space : String) : String.ofList (hostOf space) = space ++ "." ++ domain := by
  have dot : ".".toList = ['.'] := rfl
  apply String.toList_inj.1
  simp only [hostOf, String.toList_append, String.toList_ofList, dot, List.append_assoc, List.cons_append,
    List.nil_append]

/-- The root of a namespace is read from its text. -/
theorem parse_site {space : String} (name : Url.IsHostName space.toList) :
    Url.parse ("https://" ++ space ++ "." ++ domain ++ "/") = .ok (siteOf space) := by
  have text : "https://" ++ space ++ "." ++ domain ++ "/" = "https://" ++ String.ofList (hostOf space) ++ "/" := by
    rw [ofList_hostOf]
    simp only [String.append_assoc]
  rw [text]
  exact parse_web (isHostName_hostOf name) (hostOf_ne_nil space) (endsInNumber_hostOf space)

/-- The endpoint that is put together for a key is at the root of the namespace. -/
theorem rootOf_endpointText {space : String} (name : Url.IsHostName space.toList) :
    rootOf (String.ofList (endpointText space)) = .ok (siteOf space) := by
  have host := isHostName_hostOf name
  have front : "sb://".toList = "sb".toList ++ [':', '/', '/'] := by decide
  have text : endpointText space =
      "sb".toList ++ ':' :: '/' :: '/' :: (hostOf space ++ ['/']) := by
    unfold endpointText hostOf
    simp only [front, List.append_assoc, List.cons_append, List.nil_append]
  have small : ∀ c ∈ "sb".toList, c.isLower = true := forall_mem_of_all (by decide)
  have other : Url.readHost (String.ofList "sb".toList) (hostOf space) =
      .ok (.name (String.ofList (hostOf space))) := by
    rw [Url.readHost, if_neg (by decide), host.readOtherHost]
  have read : Url.parse (String.ofList ("sb".toList ++ ':' :: '/' :: '/' :: (hostOf space ++ ['/']))) =
      .ok (Url.site (String.ofList "sb".toList) (.name (String.ofList (hostOf space)))) := by
    rw [Url.parse_site small (by decide) (by decide) (host.isAuthority (hostOf_ne_nil space)), other]
    rfl
  have filled : String.ofList (hostOf space) ≠ "" := fun empty =>
    hostOf_ne_nil space (by simpa using congrArg String.toList empty)
  have named : (Url.site (String.ofList "sb".toList) (.name (String.ofList (hostOf space)))).hostText? =
      some (String.ofList (hostOf space)) := by
    unfold Url.hostText? Url.site
    dsimp only
    split
    · rename_i empty
      exact absurd (Host.name.inj (Option.some.inj empty)) filled
    · rename_i host _ same
      cases same
      rfl
    · rename_i none
      cases none
  unfold rootOf
  rw [text, read]
  dsimp only
  rw [named]
  dsimp only
  rw [parse_web host (hostOf_ne_nil space) (endsInNumber_hostOf space)]
  rfl

end ConnectionString

theorem parse_rootText (e : Entity) (space : Url.IsHostName e.space.toList) :
    Url.parse (Binding.rootText e) = .ok e.root :=
  ConnectionString.parse_site space

/-! ## Endpoints of bindings -/

namespace ConnectionString

/-- What a text brings into a connection string says nothing of an endpoint. -/
def Quiet (s : String) : Prop :=
  ∀ piece ∈ behind s.toList, ∀ a, assignment piece = .ok a → a.1 ≠ "endpoint"

theorem quiet_of_not_mem {s : String} (whole : ';' ∉ s.toList) : Quiet s := by
  intro piece mem
  rw [behind_of_not_mem whole] at mem
  exact absurd mem List.not_mem_nil

theorem IsLabel.quiet {label : List Char} (h : IsLabel label)
    (other : String.ofList (label.map Char.toLower) ≠ "endpoint") {value : List Char} {a : Assignment}
    (one : ConnectionString.assignment (label ++ '=' :: value) = .ok a) : a.1 ≠ "endpoint" := by
  rw [h.assignment] at one
  cases one
  exact other

theorem endpointText_whole {space : String} (whole : ';' ∉ space.toList) : ';' ∉ endpointText space := by
  have front : ';' ∉ "sb://".toList := by decide
  have back : ';' ∉ '.' :: (domain.toList ++ ['/']) := by decide
  intro mem
  rcases List.mem_append.1 mem with scheme | host
  · exact front scheme
  · rcases List.mem_append.1 host with name | rest
    · exact whole name
    · exact back rest

theorem endpointText_closed (space : String) : ∀ c ∈ (endpointText space).getLast?, Blank.isBlank c = false := by
  have last : endpointText space = ("sb://".toList ++ (space.toList ++ '.' :: domain.toList)) ++ ['/'] := by
    unfold endpointText
    simp only [List.append_assoc, List.cons_append]
  rw [last, List.getLast?_concat]
  rintro c ⟨⟩
  decide

theorem lead_endpointText {space : String} (whole : ';' ∉ space.toList) :
    lead (endpointText space) = endpointText space := by
  unfold lead
  rw [Fields.split_of_not_mem (endpointText_whole whole)]
  exact Blank.trimEnd_eq (endpointText_closed space)

/-- The connection string of a key has the endpoint of the namespace, unless something else is assigned to it. -/
theorem endpoint_compose {space path keyName key : String} (whole : ';' ∉ space.toList) (name : Quiet keyName)
    (value : Quiet key) (place : Quiet path) {s : ConnectionString}
    (read : parse (compose space path keyName key) = .ok s) :
    rootOf (String.ofList (endpointText space)) = .ok s.endpoint := by
  have label : String.ofList ("Endpoint".toList.map Char.toLower) = "endpoint" := by decide
  have more : String.ofList (endpointText space) ≠ "" := by
    intro empty
    have none : endpointText space = [] := by simpa using congrArg String.toList empty
    cases none
  rw [parse_compose, pieces_compose, behind_of_not_mem (endpointText_whole whole), lead_endpointText whole,
    List.nil_append, List.mapM_cons] at read
  obtain ⟨all, made, assigned⟩ := bind_ok read
  obtain ⟨first, one, made⟩ := bind_ok made
  obtain ⟨others, rest, made⟩ := bind_ok made
  cases made
  rw [isLabel_endpoint.assignment, label] at one
  cases one
  have apart : ∀ a ∈ others, a.1 ≠ "endpoint" := by
    intro a mem
    obtain ⟨piece, among, assigns⟩ := mem_mapM_ok rest a mem
    simp only [List.mem_cons, List.mem_append] at among
    rcases among with rfl | ofName | rfl | ofKey | rfl | ofPath
    · exact isLabel_keyName.quiet (by decide) assigns
    · exact name piece ofName a assigns
    · exact isLabel_key.quiet (by decide) assigns
    · exact value piece ofKey a assigns
    · exact isLabel_path.quiet (by decide) assigns
    · exact place piece ofPath a assigns
  obtain ⟨text, last, rooted⟩ := ofAssignments_ok assigned
  rw [lastValue_only more apart] at last
  cases last
  exact rooted

end ConnectionString

namespace Binding

variable {e : Entity} {c : Credentials} {b : Binding}

/-- Credentials that say nothing of an endpoint, neither with a connection string nor with a key. -/
structure Silent (e : Entity) (c : Credentials) : Prop where
  stringless : ¬ c.Keyed → c.connectionString.getD "" = ""
  space : c.Keyed → ';' ∉ e.space.toList
  keyName : ConnectionString.Quiet (c.keyName.getD "")
  keyValue : ConnectionString.Quiet (c.keyValue.getD "")
  path : c.Keyed → ConnectionString.Quiet e.path.text

/-- A binding is to the root of the entity's namespace. -/
theorem bind_endpoint (space : Url.IsHostName e.space.toList) (silent : Silent e c) (bound : bind e c = .ok b) :
    b.endpoint = e.root := by
  rcases bind_ok_iff.1 bound with ⟨uses, read⟩ | ⟨-, -, -, -, read⟩
  · rcases uses with keyed | ⟨keyless, configured, more⟩
    · have rooted := ConnectionString.endpoint_compose (silent.space keyed) silent.keyName silent.keyValue
        (silent.path keyed) read
      exact Except.ok.inj (rooted.symm.trans (ConnectionString.rootOf_endpointText space))
    · have empty := silent.stringless keyless
      rw [configured] at empty
      exact absurd empty more
  · exact Except.ok.inj (read.symm.trans (parse_rootText e space))

end Binding

/-! ## Receiving at the entity -/

namespace Receiver

/-- A URL is below an entity, at the root of its namespace: the segments of its path are those of the entity
and these behind them. -/
structure Below (e : Entity) (behind : List String) (url : Url) : Prop where
  scheme : url.scheme = "https"
  host : url.host = some (.name (String.ofList (e.hostName.map Char.toLower)))
  port : url.port = none
  path : ∃ segments, url.path = .segments segments ∧
    segments.map (fun segment => Percent.decode (Utf8.bytes segment)) = (e.segments ++ behind).map Utf8.bytes

theorem withoutSlashes_eq {s : List Char} (closed : ∀ c ∈ s.getLast?, c ≠ '/') :
    withoutSlashes (String.ofList (s ++ ['/'])) = String.ofList s := by
  have back : (s ++ ['/']).reverse.dropWhile (· = '/') = s.reverse := by
    rw [List.reverse_append]
    cases rest : s.reverse with
    | nil => rfl
    | cons c more =>
      have last : s.getLast? = some c := by
        rw [List.getLast?_eq_head?_reverse, rest]
        rfl
      have solid := closed c last
      change (c :: more).dropWhile (· = '/') = c :: more
      exact List.dropWhile_cons_of_neg (by simpa using solid)
  rw [withoutSlashes, String.toList_ofList, back, List.reverse_reverse]

/-- The host of an entity, as it is written in a URL. -/
def webHost (e : Entity) : String := "https://" ++ String.ofList (e.hostName.map Char.toLower)

theorem text_root (e : Entity) : e.root.text = webHost e ++ "/" := ConnectionString.text_siteOf e.space

theorem withoutSlashes_root (e : Entity) : withoutSlashes e.root.text = webHost e := by
  have slash : "/".toList = ['/'] := rfl
  have text : e.root.text = String.ofList ((webHost e).toList ++ ['/']) := by
    rw [text_root]
    apply String.toList_inj.1
    simp only [String.toList_append, String.toList_ofList, slash]
  have closed : ∀ c ∈ (webHost e).toList.getLast?, c ≠ '/' := by
    have domain : ConnectionString.domain.toList.map Char.toLower = "servicebus.windows.ne".toList ++ ['t'] := by
      decide
    have last : (webHost e).toList = ("https://".toList ++ (e.space.toList.map Char.toLower ++
        '.' :: "servicebus.windows.ne".toList)) ++ ['t'] := by
      have dot : Char.toLower '.' = '.' := by decide
      simp only [webHost, Entity.hostName, String.toList_append, String.toList_ofList, List.map_append,
        List.map_cons, domain, dot, List.append_assoc, List.cons_append]
    rw [last, List.getLast?_concat]
    rintro c ⟨⟩
    decide
  rw [text, withoutSlashes_eq closed, String.ofList_toList]

theorem parse_webHost {e : Entity} (space : Url.IsHostName e.space.toList) :
    Url.parse (webHost e ++ "/") = .ok e.root := by
  have host : e.hostName = ConnectionString.hostOf e.space := rfl
  have more : (ConnectionString.hostOf e.space).map Char.toLower ≠ [] := by
    simpa using ConnectionString.hostOf_ne_nil e.space
  have number := ConnectionString.endsInNumber_hostOf e.space
  rw [← Url.map_toLower_map_toLower] at number
  rw [webHost, host, parse_web (ConnectionString.isHostName_hostOf space).lower more number,
    Url.map_toLower_map_toLower]
  rfl

/-- What is asked for below an entity. -/
def headBelow (e : Entity) (seconds : Nat) : List Char :=
  e.path.text.toList ++ '/' :: ("messages/head?timeout=".toList ++ Nat.toDigits 10 seconds)

section

variable {e : Entity} (addressable : ∀ s ∈ e.segments, Addressable s)

include addressable

/-- What holds of the characters of every segment holds of those of the path. -/
theorem forall_path {p : Char → Prop} (slash : p '/') (each : ∀ s, Addressable s → ∀ c ∈ s.toList, p c) :
    ∀ c ∈ e.path.text.toList, p c := by
  intro c mem
  rcases Fields.mem_of_mem_fields '/' mem with rfl | ⟨field, among, inside⟩
  · exact slash
  · have segment := addressable (String.ofList field) (List.mem_map_of_mem among)
    exact each _ segment c (by rwa [String.toList_ofList])

theorem fits_head (seconds : Nat) : Url.Fits (headBelow e seconds) :=
  .append (forall_path addressable (by decide) fun _ segment => segment.kept) (fits_receive seconds).slash
    (List.cons_ne_nil _ _)

theorem splitPath_head (seconds : Nat) : Url.splitPath (headBelow e seconds) =
    (e.path.text.toList ++ '/' :: "messages/head".toList, "?timeout=".toList ++ Nat.toDigits 10 seconds) := by
  have closed : ∀ c ∈ e.path.text.toList ++ '/' :: "messages/head".toList, (!(c = '?' || c = '#')) = true := by
    intro c mem
    have plain : c ≠ '?' ∧ c ≠ '#' := by
      rcases List.mem_append.1 mem with path | rest
      · exact forall_path addressable (p := fun c => c ≠ '?' ∧ c ≠ '#') (by decide)
          (fun _ segment => segment.inside) c path
      · have all : ∀ c ∈ '/' :: "messages/head".toList, c ≠ '?' ∧ c ≠ '#' := forall_mem_of_all (by decide)
        exact all c rest
    simp [plain.1, plain.2]
  have text : headBelow e seconds = (e.path.text.toList ++ '/' :: "messages/head".toList) ++
      ("?timeout=".toList ++ Nat.toDigits 10 seconds) := by
    have middle : "messages/head?timeout=".toList = "messages/head".toList ++ "?timeout=".toList := by decide
    rw [headBelow, middle, List.append_assoc, List.append_assoc, List.cons_append]
  have query : Url.splitPath ("?timeout=".toList ++ Nat.toDigits 10 seconds) =
      ([], "?timeout=".toList ++ Nat.toDigits 10 seconds) := rfl
  rw [text, Url.splitPath_below closed, query, List.append_nil]

/-- The segments of the entity and those of what is asked for there. -/
theorem pathOf_head : Url.pathOf "https" [] (e.path.text.toList ++ '/' :: "messages/head".toList) =
    e.segments.map (fun s => Url.encoded Url.encodedInPath s.toList) ++ ["messages", "head"] := by
  have noFile : "https" ≠ "file" := by decide
  have each : ∀ field ∈ Fields.split '/' e.path.text.toList, Url.IsSegment field := by
    intro field among
    have segment := (addressable (String.ofList field) (List.mem_map_of_mem among)).segment
    rwa [String.toList_ofList] at segment
  have messages : ∀ c ∈ "messages".toList, Url.isWordChar c = true := forall_mem_of_all (by decide)
  have head : ∀ c ∈ "head".toList, Url.isWordChar c = true := forall_mem_of_all (by decide)
  have behind : "messages/head".toList = "messages".toList ++ '/' :: "head".toList := by decide
  have joined : e.path.text.toList = Fields.join '/' (Fields.split '/' e.path.text.toList) :=
    (Fields.join_split '/' e.path.text.toList).symm
  rw [joined, Url.IsSegment.pathOf_join noFile each (Fields.split_ne_nil _ _), behind,
    (Url.isSegment_word messages).pathOf_slash noFile, (Url.isSegment_word head).pathOf_last noFile,
    Url.encodeSet_word messages, Url.encoded, Url.encodeSet_word head]
  simp [Entity.segments, Url.encoded]

theorem parse_head (space : Url.IsHostName e.space.toList) (seconds : Nat) : ∃ url,
    Url.parse (webHost e ++ "/" ++ String.ofList (headBelow e seconds)) = .ok url ∧
      Below e ["messages", "head"] url := by
  have scheme : e.root.scheme = "https" := rfl
  obtain ⟨onto, path, below⟩ := Url.parse_below (parse_webHost space) (by rw [scheme]; decide)
    (by rw [scheme]; decide) rfl rfl
  obtain rfl : onto = [] := by
    have lists : [""] = onto.reverse.map String.ofList ++ [""] := UrlPath.segments.inj path
    simpa using lists
  refine ⟨_, below _ (fits_head addressable seconds), ?_⟩
  rw [splitPath_head addressable]
  dsimp only
  rw [scheme, pathOf_head addressable]
  refine ⟨rfl, rfl, rfl, _, rfl, ?_⟩
  have named : ∀ s ∈ e.segments,
      Percent.decode (Utf8.bytes (Url.encoded Url.encodedInPath s.toList)) = Utf8.bytes s := by
    intro s mem
    rw [Url.decode_encoded Url.harmless_path]
    exact (addressable s mem).literal
  have words : ["messages", "head"].map (fun s => Percent.decode (Utf8.bytes s)) =
      ["messages", "head"].map Utf8.bytes := by
    decide
  rw [List.map_append, List.map_append, List.map_map, words]
  exact congrArg (· ++ _) (List.map_congr_left named)

end

/-- The receiver of a binding. -/
def ofBinding (e : Entity) (b : Binding) (timeout : Duration) : Receiver := ⟨b.endpoint, e.path, timeout⟩

theorem Below.withoutUser {e : Entity} {behind : List String} {url : Url} (h : Below e behind url) :
    Below e behind url.withoutUser := ⟨h.scheme, h.host, h.port, h.path⟩

section

variable {e : Entity} {c : Credentials} {b : Binding} (bound : Binding.bind e c = .ok b)
variable (silent : Binding.Silent e c) (space : Url.IsHostName e.space.toList)
variable (addressable : ∀ s ∈ e.segments, Addressable s) (timeout : Duration)

include bound silent space addressable

theorem receiveRequest_below (token : String) :
    ∃ request, (ofBinding e b timeout).receiveRequest? token = some request ∧
      Below e ["messages", "head"] request.url := by
  obtain ⟨url, read, below⟩ := parse_head addressable space timeout.seconds
  have uri : (ofBinding e b timeout).entityUri = webHost e ++ "/" ++ e.path.text := by
    rw [entityUri, ofBinding, Binding.bind_endpoint space silent bound, withoutSlashes_root]
  have text : (ofBinding e b timeout).receiveUrl =
      webHost e ++ "/" ++ String.ofList (headBelow e timeout.seconds) := by
    have slash : "/".toList = ['/'] := rfl
    have seconds : (ofBinding e b timeout).timeout.seconds = timeout.seconds := rfl
    rw [receiveUrl_eq, uri, seconds]
    apply String.toList_inj.1
    simp only [headBelow, String.toList_append, String.toList_ofList, slash, List.append_assoc, List.cons_append,
      List.nil_append]
  unfold receiveRequest? Request.ofText?
  rw [text, read]
  exact ⟨_, rfl, below⟩

/-- What is sent goes there, unless a response redirects it. -/
theorem receive_below {τ σ : Type} (tokens : Tokens τ) (peer : Peer σ) (now : Instant) (state : τ × σ) :
    ∀ exchange ∈ ((ofBinding e b timeout).receive tokens peer now state).sent,
      Below e ["messages", "head"] exchange.1.url ∨
        Http.RedirectedIn ((ofBinding e b timeout).receive tokens peer now state).sent exchange.1 := by
  intro exchange mem
  unfold receive at mem ⊢
  cases granted : (tokens state.1 (ofBinding e b timeout).entityUri).1 with
  | error fault =>
    rw [(ask_refused _ _ _ granted).2.1] at mem
    cases mem
  | ok token =>
    obtain ⟨request, asked, below⟩ := receiveRequest_below bound silent space addressable timeout token
    rw [(ask_granted _ _ _ granted).2, asked, Http.carryOut?, Http.carryOut] at mem ⊢
    cases prepared : Http.prepare request with
    | error fault =>
      rw [prepared] at mem
      cases mem
    | ok first =>
      rw [prepared] at mem
      refine (Http.follow_redirected peer exchange mem).imp_left fun same => ?_
      rw [same, (Http.prepare_place prepared).1]
      exact below.withoutUser

/-- **Where messages are asked for.** Let the namespace stand for a host as it is, let the credentials say
nothing of an endpoint, and let the segments of the entity's path stand in a URL. Then a binding is to the
root of the namespace, and every token makes a request to its host, for the segments of the entity and two
more, `messages` and `head`. Whatever is sent goes there, unless a response of the broker redirects it. -/
theorem receives_at_entity :
    b.endpoint = e.root ∧
    (∀ token, ∃ request, (ofBinding e b timeout).receiveRequest? token = some request ∧
      Below e ["messages", "head"] request.url) ∧
    ∀ {τ σ : Type} (tokens : Tokens τ) (peer : Peer σ) (now : Instant) (state : τ × σ),
      ∀ exchange ∈ ((ofBinding e b timeout).receive tokens peer now state).sent,
        Below e ["messages", "head"] exchange.1.url ∨
          Http.RedirectedIn ((ofBinding e b timeout).receive tokens peer now state).sent exchange.1 :=
  ⟨Binding.bind_endpoint space silent bound,
    receiveRequest_below bound silent space addressable timeout,
    receive_below bound silent space addressable timeout⟩

end

namespace Sample

open Binding.Sample (entity credentials)

theorem isHostName_space : Url.IsHostName entity.space.toList :=
  ⟨by decide, forall_mem_of_all (by decide)⟩

theorem silent : Binding.Silent entity credentials where
  stringless := fun keyless => absurd (.inl (by decide)) keyless
  space := fun _ => by decide
  keyName := ConnectionString.quiet_of_not_mem (by decide)
  keyValue := ConnectionString.quiet_of_not_mem (by decide)
  path := fun _ => ConnectionString.quiet_of_not_mem (by decide)

theorem addressable_segments : ∀ s ∈ entity.segments, Addressable s := by
  have segments : entity.segments = ["q1"] := by decide
  rw [segments]
  intro s mem
  obtain rfl := List.mem_singleton.1 mem
  exact ⟨⟨forall_mem_of_all (by decide), by decide, by decide⟩, forall_mem_of_all (by decide),
    forall_mem_of_all (by decide), by decide⟩

/-- A key that names another endpoint behind a semicolon. -/
def straying : Credentials where
  keyName := some "Root"
  keyValue := some "abc;Endpoint=sb://other.example"

end Sample

/-- A key of the queue `q1` asks for its messages, whatever connection string is beside it. -/
theorem receives_at_entity_queue :
    ∃ b, Binding.bind Binding.Sample.entity Binding.Sample.credentials = .ok b ∧
      b.endpoint = Binding.Sample.entity.root ∧
      ∀ token, ∃ request, (ofBinding Binding.Sample.entity b (.ofSeconds 60)).receiveRequest? token = some request ∧
        Below Binding.Sample.entity ["messages", "head"] request.url := by
  have made : (Binding.bind Binding.Sample.entity Binding.Sample.credentials).toOption.isSome = true := by
    decide +kernel
  obtain ⟨b, found⟩ := Option.isSome_iff_exists.1 made
  have bound := toOption_eq_some.1 found
  obtain ⟨endpoint, requests, -⟩ := receives_at_entity bound Sample.silent Sample.isHostName_space
    Sample.addressable_segments (.ofSeconds 60)
  exact ⟨b, bound, endpoint, requests⟩

/-- A key that brings an endpoint of its own takes the receiver there. -/
theorem receives_elsewhere :
    ∃ b, Binding.bind Binding.Sample.entity Sample.straying = .ok b ∧
      ∃ request, (ofBinding Binding.Sample.entity b (.ofSeconds 60)).receiveRequest? "token" = some request ∧
        request.url.host = some (.name "other.example") := by
  have asked : (Binding.bind Binding.Sample.entity Sample.straying).toOption.map (fun b =>
        ((ofBinding Binding.Sample.entity b (.ofSeconds 60)).receiveRequest? "token").map fun r => r.url.host) =
      some (some (some (.name "other.example"))) := by
    decide +kernel
  obtain ⟨b, found, asked⟩ := Option.map_eq_some_iff.1 asked
  obtain ⟨request, made, host⟩ := Option.map_eq_some_iff.1 asked
  exact ⟨b, toOption_eq_some.1 found, request, made, host⟩

end Receiver

end BusRelay
