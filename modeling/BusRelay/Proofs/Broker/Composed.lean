import BusRelay.Proofs.Broker.Endpoint
import BusRelay.Proofs.Broker.Layout
import BusRelay.Proofs.Broker.SharedKey
import BusRelay.Session
/-!
# Composed connection strings

What a connection string is composed of is read from it again, as long as no text has a semicolon in it or ends in
white space: a piece ends at a semicolon and has no white space around it, while equals signs and inner blanks belong
to its value. So a key that is configured signs under its own name, and tokens are signed with nothing else
(`parse_composed`) and say what they are for (`bind_key_says`).
-/

namespace BusRelay.ConnectionString

/-! ## Namespaces -/

/-- The name of a namespace: small letters, digits and hyphens, and no Punycode. -/
structure IsSpaceName (space : String) : Prop where
  more : space ≠ ""
  plain : ∀ c ∈ space.toList, c.isLower = true ∨ c.isDigit = true ∨ c = '-'
  decoded : ¬ "xn--".toList <+: space.toList

theorem spaceName_char {c : Char} (plain : c.isLower = true ∨ c.isDigit = true ∨ c = '-') :
    c.toNat < 128 ∧ c.toLower = c ∧ c ≠ '.' ∧ c ≠ ';' ∧ Url.isForbiddenInDomain c = false := by
  have ascii : c.toNat < 128 := by
    rcases plain with small | digit | rfl
    · exact ascii_of_isAlpha (isAlpha_of_isLower small)
    · have := bounds_of_isDigit digit
      omega
    · decide
  exact ⟨ascii, forall_ascii (p := fun c => c.isLower = true ∨ c.isDigit = true ∨ c = '-' →
    c.toLower = c ∧ c ≠ '.' ∧ c ≠ ';' ∧ Url.isForbiddenInDomain c = false) (by decide +kernel) ascii plain⟩

theorem host_text (space : String) :
    "https://" ++ space ++ ".servicebus.windows.net/" = "https://" ++ space ++ "." ++ domain ++ "/" := by
  have host : ".servicebus.windows.net/" = "." ++ domain ++ "/" := by decide
  rw [host]
  simp only [String.append_assoc]

namespace IsSpaceName

variable {space : String} (h : IsSpaceName space)

include h

theorem whole : ';' ∉ space.toList := fun mem => (spaceName_char (h.plain ';' mem)).2.2.2.1 rfl

theorem lower : space.toList.map Char.toLower = space.toList :=
  (List.map_congr_left fun c mem => (spaceName_char (h.plain c mem)).2.1).trans (List.map_id' _)

/-- A namespace stands for a host as it is. Its name is a single label. -/
theorem isHostName : Url.IsHostName space.toList where
  plain := by
    have label : space.toList.splitOn '.' = [space.toList] :=
      List.splitOnP_eq_singleton fun c mem => beq_eq_false_iff_ne.2 (spaceName_char (h.plain c mem)).2.2.1
    have start : Idna.aceStart = "xn--".toList := by decide
    refine Url.isPlain_iff.2 ⟨fun c mem => (spaceName_char (h.plain c mem)).1, ?_⟩
    rw [label, List.forall_mem_singleton, h.lower, start, Bool.eq_false_iff]
    exact fun coded => h.decoded (List.isPrefixOf_iff_prefix.1 coded)
  allowed := fun c mem => (spaceName_char (h.plain c mem)).2.2.2.2

/-- The root of a namespace is written with the name as it is. -/
theorem text_site : (siteOf space).text = "https://" ++ space ++ ".servicebus.windows.net/" := by
  have small : (hostOf space).map Char.toLower = hostOf space := by
    have lower : domain.toList.map Char.toLower = domain.toList := by decide
    rw [hostOf, List.map_append, List.map_cons, h.lower, lower]
    rfl
  rw [text_siteOf, small, ofList_hostOf, host_text]
  simp only [String.append_assoc]

theorem parse_site : Url.parse ("https://" ++ space ++ ".servicebus.windows.net/") = .ok (siteOf space) := by
  rw [host_text]
  exact ConnectionString.parse_site h.isHostName

end IsSpaceName

/-! ## Texts in pieces -/

/-- A text that is the value of a piece as it is. -/
structure IsCarried (s : String) : Prop where
  more : s ≠ ""
  whole : ';' ∉ s.toList
  closed : ∀ c ∈ s.toList.getLast?, Blank.isBlank c = false

instance : DecidablePred IsCarried := fun s =>
  decidable_of_iff (s ≠ "" ∧ ';' ∉ s.toList ∧ (s.toList.getLast?.all fun c => !Blank.isBlank c) = true) <| by
    simp only [Option.all_eq_true, Bool.not_eq_true']
    exact ⟨fun h => ⟨h.1, h.2.1, h.2.2⟩, fun h => ⟨h.more, h.whole, h.closed⟩⟩

/-- The endpoint of a connection string that is composed. -/
theorem isCarried_endpoint {space : String} (whole : ';' ∉ space.toList) :
    IsCarried (String.ofList (endpointText space)) where
  more := by
    intro empty
    have none : endpointText space = [] := by simpa using congrArg String.toList empty
    cases none
  whole := by
    rw [String.toList_ofList]
    exact endpointText_whole whole
  closed := by
    rw [String.toList_ofList]
    exact endpointText_closed space

namespace IsCarried

variable {name : List Char} {s : String}

/-- The part that assigns a text to a name. -/
def part (h : IsCarried s) (label : IsLabel name) : Part := ⟨name, s.toList, label, h.whole⟩

theorem assigned (h : IsCarried s) (label : IsLabel name) :
    (h.part label).assigned = (String.ofList (name.map Char.toLower), s) := by
  unfold Part.assigned Part.key part
  dsimp only
  rw [Blank.trimEnd_eq h.closed, String.ofList_toList]

end IsCarried

/-! ## Reading what is composed -/

variable {space path keyName key : String}

/-- The assignments of four parts. -/
def fourParts (endpoint keyName key path : String) : List Assignment :=
  [("endpoint", endpoint), ("sharedaccesskeyname", keyName), ("sharedaccesskey", key), ("entitypath", path)]

/-- A composed connection string consists of four parts. -/
theorem parse_parts (named : ';' ∉ space.toList) (place : IsCarried path) (name : IsCarried keyName)
    (value : IsCarried key) : parse (compose space path keyName key) =
      ofAssignments (fourParts (String.ofList (endpointText space)) keyName key path) := by
  have endpoint := isCarried_endpoint named
  have parts : (compose space path keyName key).toList = Fields.join ';'
      ([endpoint.part isLabel_endpoint, name.part isLabel_keyName, value.part isLabel_key,
        place.part isLabel_path].map Part.text) := by
    refine (toList_compose space path keyName key).trans ?_
    simp only [List.map_cons, List.map_nil, Fields.join, Part.text, IsCarried.part, String.toList_ofList]
  have labels : String.ofList ("Endpoint".toList.map Char.toLower) = "endpoint" ∧
      String.ofList ("SharedAccessKeyName".toList.map Char.toLower) = "sharedaccesskeyname" ∧
      String.ofList ("SharedAccessKey".toList.map Char.toLower) = "sharedaccesskey" ∧
      String.ofList ("EntityPath".toList.map Char.toLower) = "entitypath" := by
    decide
  rw [← String.ofList_toList (s := compose space path keyName key), parts,
    parse_laid (laid_text _) (List.cons_ne_nil _ _)]
  simp only [List.map_cons, List.map_nil, IsCarried.assigned, labels, fourParts]

/-- Each of the four is read from its own part, and there is no signature. -/
theorem ofAssignments_parts {endpoint : String} {root : Url} (more : endpoint ≠ "")
    (rooted : rootOf endpoint = .ok root) (place : IsCarried path) (name : IsCarried keyName)
    (value : IsCarried key) : ofAssignments (fourParts endpoint keyName key path) = .ok
      { endpoint := root, keyName := some keyName, key := some key, signature := none,
        entityPath := some path } := by
  have given : lastValue "endpoint" (fourParts endpoint keyName key path) = some endpoint :=
    lastValue_only more (by simp)
  rw [ofAssignments_rooted given rooted]
  simp [fourParts, lastValue, name.more, value.more, place.more]

theorem parse_compose_ok (named : IsSpaceName space) (place : IsCarried path) (name : IsCarried keyName)
    (value : IsCarried key) : parse (compose space path keyName key) = .ok
      { endpoint := siteOf space, keyName := some keyName, key := some key, signature := none,
        entityPath := some path } := by
  rw [parse_parts named.whole place name value]
  have endpoint := isCarried_endpoint named.whole
  exact ofAssignments_parts endpoint.more (rootOf_endpointText named.isHostName) place name value

/-- The binding of a key that is configured. -/
theorem bind_key {e : Entity} {c : Credentials} (named : IsSpaceName e.space) (place : IsCarried e.path.text)
    (name : IsCarried keyName) (value : IsCarried key) (given : c.keyName = some keyName)
    (secret : c.keyValue = some key) :
    Binding.bind e c = .ok ⟨.sharedAccess, siteOf e.space, .key ⟨keyName, key⟩⟩ := by
  have keyed : c.Keyed := .inl (by rw [given]; exact name.more)
  have read := parse_compose_ok named place name value
  have uses := Binding.Uses.key (e := e) keyed
  rw [given, secret] at uses
  exact Binding.bind_byKey (.mk uses read)

/-- What the tokens of a binding by key say, if there is no ampersand in the name of the key. -/
theorem bind_key_says {e : Entity} {c : Credentials} (named : IsSpaceName e.space) (place : IsCarried e.path.text)
    (name : IsCarried keyName) (value : IsCarried key) (given : c.keyName = some keyName)
    (secret : c.keyValue = some key) (cut : '&' ∉ keyName.toList) (second : Int) (uri : String) :
    ∃ b token, Binding.bind e c = .ok b ∧ (b.tokens.offline second () uri).1 = .ok token ∧
      SharedKey.Says ⟨keyName, key⟩ uri (second + 3600) token :=
  ⟨_, _, bind_key named place name value given secret, rfl, SharedKey.authorize_says ⟨keyName, key⟩ cut uri second⟩

/-- **A composed connection string is read back.** The texts are not empty, have no semicolon in them and do not end in
white space; the namespace is made of small letters, digits and hyphens. Then the endpoint is the root of the
namespace, and the name, the key and the path are those that were given. A binding to the entity by this name and key
signs with them. -/
theorem parse_composed (named : IsSpaceName space) (place : IsCarried path) (name : IsCarried keyName)
    (value : IsCarried key) : ∃ root : Url,
      root.text = "https://" ++ space ++ ".servicebus.windows.net/" ∧
      Url.parse ("https://" ++ space ++ ".servicebus.windows.net/") = .ok root ∧
      parse (compose space path keyName key) = .ok
        { endpoint := root, keyName := some keyName, key := some key, signature := none, entityPath := some path } ∧
      ∀ (e : Entity) (c : Credentials), e.space = space → e.path.text = path → c.keyName = some keyName →
        c.keyValue = some key → ∃ b, Binding.bind e c = .ok b ∧ b.method = .sharedAccess ∧ b.endpoint = root ∧
          b.tokens = .key ⟨keyName, key⟩ ∧ ∀ second uri,
            (b.tokens.offline second () uri).1 = .ok (SharedKey.authorize ⟨keyName, key⟩ uri second) := by
  refine ⟨siteOf space, named.text_site, named.parse_site, parse_compose_ok named place name value, ?_⟩
  rintro e c rfl rfl given secret
  exact ⟨_, bind_key named place name value given secret, rfl, rfl, rfl, fun _ _ => rfl⟩

namespace Sample

theorem isSpaceName : IsSpaceName "1-orders-" where
  more := by decide
  plain := forall_mem_of_all (by decide)
  decoded := by decide

/-- A name with an equals sign and inner blanks. -/
theorem isCarried_name : IsCarried "Root = 1" := by decide

/-- A key that ends in equals signs. -/
theorem isCarried_key : IsCarried "c2Vj cmV0==" := by decide

theorem path_filled : "t=1/Subscriptions/s 1" ≠ "" := by decide

/-- A subscription of whose topic the name has an equals sign in it. -/
def entity : Entity where
  raw := "/subscriptions/s/resourceGroups/rg/providers/Microsoft.ServiceBus/namespaces/1-orders-/topics/t=1/" ++
    "subscriptions/s 1"
  resource := ⟨"s", "rg", "Microsoft.ServiceBus", "1-orders-", "topics", "t=1", some ("subscriptions", "s 1")⟩
  kind := .subscription "t=1" "s 1"
  path := ⟨"t=1/Subscriptions/s 1", path_filled⟩
  path_eq := rfl

theorem isCarried_path : IsCarried entity.path.text := by decide

end Sample

/-- A padded key is read back whole, and the subscription is bound with it. -/
theorem parse_composed_padded :
    IsSpaceName Sample.entity.space ∧ IsCarried Sample.entity.path.text ∧ IsCarried "Root = 1" ∧
      IsCarried "c2Vj cmV0==" ∧ ∃ root : Url, root.text = "https://1-orders-.servicebus.windows.net/" ∧
        parse (compose "1-orders-" "t=1/Subscriptions/s 1" "Root = 1" "c2Vj cmV0==") = .ok
          { endpoint := root, keyName := some "Root = 1", key := some "c2Vj cmV0==", signature := none,
            entityPath := some "t=1/Subscriptions/s 1" } ∧
        ∃ b, Binding.bind Sample.entity { keyName := some "Root = 1", keyValue := some "c2Vj cmV0==" } = .ok b ∧
          b.endpoint = root ∧ b.tokens = .key ⟨"Root = 1", "c2Vj cmV0=="⟩ := by
  have host : "https://" ++ "1-orders-" ++ ".servicebus.windows.net/" =
      "https://1-orders-.servicebus.windows.net/" := by decide
  obtain ⟨root, text, -, read, bound⟩ := parse_composed Sample.isSpaceName Sample.isCarried_path Sample.isCarried_name
    Sample.isCarried_key
  obtain ⟨b, made, -, endpoint, tokens, -⟩ :=
    bound Sample.entity { keyName := some "Root = 1", keyValue := some "c2Vj cmV0==" } rfl rfl rfl rfl
  exact ⟨Sample.isSpaceName, Sample.isCarried_path, Sample.isCarried_name, Sample.isCarried_key, root,
    text.trans host, read, b, made, endpoint, tokens⟩

end BusRelay.ConnectionString
