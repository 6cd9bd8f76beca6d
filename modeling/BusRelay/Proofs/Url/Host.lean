import BusRelay.Proofs.Url.Encoding
import BusRelay.Proofs.Url.Site
/-!
# The hosts of URLs

Whatever the text of a URL is, its host is written with characters that stand for a host in any other URL, an
address in brackets included (`Host.Stands`, `stands_of_parse`). So the host of a URL with the scheme of the web in
front of it is read as a host and nothing else, if it is read at all (`isAuthority_of_hostText?`, `parse_web`). A URL
of a special scheme other than that of files has a host (`exists_hostText?`).
-/

namespace BusRelay

/-- A host that is empty or is written as it can stand in any URL. -/
def Host.Stands (host : Host) : Prop := host = .name "" ∨ Url.IsAuthority host.text.toList

namespace Url

variable {host : Host} {s : List Char}

/-! ## Addresses -/

/-- Digits of a base are the characters of numbers below it. -/
theorem exists_digitChar {base n : Nat} (large : 1 < base) {c : Char} (mem : c ∈ Nat.toDigits base n) :
    ∃ d < base, c = d.digitChar := by
  induction n using Nat.strongRecOn with
  | ind n ih =>
    rw [Nat.toDigits_eq_if large] at mem
    split at mem
    · rename_i small
      exact ⟨n, small, List.mem_singleton.1 mem⟩
    · rename_i more
      rcases List.mem_append.1 mem with front | last
      · have less : n / base < n := Nat.div_lt_self (by omega) large
        exact ih (n / base) less front
      · exact ⟨n % base, Nat.mod_lt n (by omega), List.mem_singleton.1 last⟩

/-- A digit may stand in any host. -/
theorem allowed_digit {base n : Nat} (large : 1 < base) (small : base ≤ 16) {c : Char}
    (mem : c ∈ Nat.toDigits base n) : 0x20 < c.toNat ∧ isForbiddenInHost c = false := by
  obtain ⟨d, less, rfl⟩ := exists_digitChar large mem
  have all : ∀ d < 16, 0x20 < d.digitChar.toNat ∧ isForbiddenInHost d.digitChar = false := by decide
  exact all d (by omega)

theorem isAuthority_ipv4 (address : Nat) : IsAuthority (Address.ipv4Text address).toList := by
  have written : (Address.ipv4Text address).toList = Nat.toDigits 10 (address / 16777216) ++ '.' ::
      (Nat.toDigits 10 (address / 65536 % 256) ++ '.' :: (Nat.toDigits 10 (address / 256 % 256) ++ '.' ::
        Nat.toDigits 10 (address % 256))) := by
    have dot : (toString ".").toList = ['.'] := rfl
    simp only [Address.ipv4Text, String.toList_append, Nat.toString_eq_repr, Nat.toList_repr, dot, List.append_assoc,
      List.cons_append, List.nil_append]
  rw [written]
  apply isAuthority_of_allowed (List.append_ne_nil_of_left_ne_nil Nat.toDigits_ne_nil _)
  intro c mem
  have digit {n : Nat} (mem : c ∈ Nat.toDigits 10 n) : 0x20 < c.toNat ∧ isForbiddenInHost c = false :=
    allowed_digit (by decide) (by decide) mem
  simp only [List.mem_append, List.mem_cons] at mem
  rcases mem with first | rfl | second | rfl | third | rfl | fourth
  · exact digit first
  · decide
  · exact digit second
  · decide
  · exact digit third
  · decide
  · exact digit fourth

/-- What the groups of an address are written with. -/
theorem mem_ipv6Text {groups : List Nat} {c : Char} (mem : c ∈ (Address.ipv6Text groups).toList) :
    c = ':' ∨ 0x20 < c.toNat ∧ isForbiddenInHost c = false := by
  have joined {part : List Nat} (mem : c ∈ (":".intercalate (part.map Address.hexText)).toList) :
      c = ':' ∨ 0x20 < c.toNat ∧ isForbiddenInHost c = false := by
    rw [String.toList_intercalate] at mem
    rcases mem_of_mem_intercalate mem with colon | ⟨text, among, inside⟩
    · exact .inl (List.mem_singleton.1 colon)
    · rw [List.map_map] at among
      obtain ⟨n, -, rfl⟩ := List.mem_map.1 among
      rw [Function.comp_apply, Address.hexText, String.toList_ofList] at inside
      exact .inr (allowed_digit (by decide) (by decide) inside)
  unfold Address.ipv6Text at mem
  generalize Address.longestZeros groups = zeros at mem
  obtain ⟨start, length⟩ := zeros
  dsimp only at mem
  split at mem
  · exact joined mem
  · rw [String.toList_append, String.toList_append, List.append_assoc] at mem
    rcases List.mem_append.1 mem with front | mem
    · exact joined front
    · rcases List.mem_append.1 mem with gap | back
      · left
        revert gap
        simp
      · exact joined back

/-- What stands in brackets has no port. -/
theorem splitHost_brackets {inner : List Char} (plain : ∀ c ∈ inner, c ≠ ']') :
    splitHost false ('[' :: (inner ++ [']'])) = ('[' :: (inner ++ [']']), []) := by
  have inside : splitHost true (inner ++ [']']) = (inner ++ [']'], []) := by
    induction inner with
    | nil => rfl
    | cons c inner ih =>
      obtain ⟨closing, others⟩ := List.forall_mem_cons.1 plain
      have still : (if c = '[' then true else if c = ']' then false else true) = true := by simp [closing]
      rw [List.cons_append, splitHost, if_neg (by simp), still, ih others]
  rw [splitHost, if_neg (by decide), if_pos rfl, inside]

theorem isAuthority_ipv6 (groups : List Nat) : IsAuthority (Host.ipv6 groups).text.toList := by
  have written : (Host.ipv6 groups).text.toList = '[' :: ((Address.ipv6Text groups).toList ++ [']']) := by
    rw [Host.text, String.toList_append, String.toList_append]
    rfl
  have ne {c d : Char} (mem : c ∈ (Address.ipv6Text groups).toList) (colon : d ≠ ':')
      (forbidden : isForbiddenInHost d = true) : c ≠ d := by
    rintro rfl
    rcases mem_ipv6Text mem with same | ⟨-, allowed⟩
    · exact colon same
    · rw [allowed] at forbidden
      cases forbidden
  rw [written]
  constructor
  case more => exact List.cons_ne_nil _ _
  case plain =>
    intro c mem
    rcases List.mem_cons.1 mem with rfl | mem
    · decide
    · rcases List.mem_append.1 mem with inside | last
      · refine ⟨?_, ne inside (by decide) (by decide), ne inside (by decide) (by decide),
          ne inside (by decide) (by decide), ne inside (by decide) (by decide), ne inside (by decide) (by decide)⟩
        rcases mem_ipv6Text inside with rfl | ⟨solid, -⟩
        · decide
        · exact solid
      · obtain rfl := List.mem_singleton.1 last
        decide
  case portless => exact splitHost_brackets fun c mem => ne mem (by decide) (by decide)

/-! ## Hosts that are read -/

theorem readBracketed_ok (read : readBracketed s = .ok host) : ∃ groups, host = .ipv6 groups := by
  unfold readBracketed at read
  split at read
  · obtain ⟨groups, -, rfl⟩ := map_ok read
    exact ⟨groups, rfl⟩
  · cases read

/-- A domain name or an address can stand in any URL. -/
theorem isAuthority_of_readDomain (read : readDomain s = .ok host) : IsAuthority host.text.toList := by
  unfold readDomain at read
  split at read
  · obtain ⟨groups, rfl⟩ := readBracketed_ok read
    exact isAuthority_ipv6 groups
  · split at read
    · cases read
    · split at read
      · cases read
      · rename_i ascii mapped
        split at read
        · cases read
        · rename_i clean
          split at read
          · cases read
          · rename_i more
            split at read
            · obtain ⟨address, -, rfl⟩ := map_ok read
              exact isAuthority_ipv4 address
            · cases read
              rw [Bool.not_eq_true, List.any_eq_false] at clean
              rw [Host.text, String.toList_ofList]
              exact isAuthority_of_allowed more fun c mem => allowed_in_host (Bool.eq_false_iff.2 (clean c mem))

/-- Without control characters, what any other host holds stands as it is or in escapes. -/
theorem allowed_encodeSet (clean : s.any isForbiddenInHost = false) {c : Char} (mem : c ∈ encodeSet isControl s) :
    0x20 < c.toNat ∧ isForbiddenInHost c = false := by
  obtain ⟨a, inside, mem⟩ := List.mem_flatMap.1 mem
  have allowed : isForbiddenInHost a = false := Bool.eq_false_iff.2 (List.any_eq_false.1 clean a inside)
  split at mem
  · obtain ⟨b, -, mem⟩ := List.mem_flatMap.1 mem
    have digit (n : Nat) (small : n < 16) :
        0x20 < (Percent.hexDigit n).toNat ∧ isForbiddenInHost (Percent.hexDigit n) = false := by
      revert n
      decide
    have := b.toNat_lt
    simp only [Percent.escape, List.mem_cons, List.not_mem_nil, or_false] at mem
    rcases mem with rfl | rfl | rfl
    · decide
    · exact digit _ (by omega)
    · exact digit _ (by omega)
  · rename_i plain
    obtain rfl := List.mem_singleton.1 mem
    refine ⟨?_, allowed⟩
    have space : c ≠ ' ' := by
      rintro rfl
      exact absurd allowed (by decide)
    have notSpace : c.toNat ≠ 0x20 := fun same => space (Char.ext (UInt32.toNat_inj.1 same))
    simp only [isControl, Bool.or_eq_true, decide_eq_true_eq, not_or] at plain
    omega

theorem stands_of_readOtherHost (read : readOtherHost s = .ok host) : host.Stands := by
  unfold readOtherHost at read
  split at read
  · obtain ⟨groups, rfl⟩ := readBracketed_ok read
    exact .inr (isAuthority_ipv6 groups)
  · split at read
    · cases read
    · rename_i clean
      cases read
      by_cases empty : encodeSet isControl s = []
      · left
        rw [encoded, empty]
      · right
        rw [Host.text, encoded, String.toList_ofList]
        exact isAuthority_of_allowed empty fun c mem => allowed_encodeSet (Bool.eq_false_iff.2 clean) mem

theorem stands_of_readHost {scheme : String} (read : readHost scheme s = .ok host) : host.Stands := by
  unfold readHost at read
  split at read
  · exact .inr (isAuthority_of_readDomain read)
  · exact stands_of_readOtherHost read

/-! ## Whole URLs -/

/-- The host of an authority is read by the rules of the scheme. -/
theorem host_of_readAuthority {scheme : String} {atEnd : Bool} {authority : Authority}
    (read : readAuthority scheme s atEnd = .ok authority) :
    ∃ hostChars, readHost scheme hostChars = .ok authority.host := by
  unfold readAuthority at read
  extract_lets special back user hasUser rest behindUser at read
  split at read
  · cases read
  · unfold behindUser at read
    generalize (if hasUser then readUser user else ("", none)) = name at read
    generalize splitHost false rest = cut at read
    obtain ⟨username, password⟩ := name
    obtain ⟨hostChars, portChars⟩ := cut
    dsimp -zeta only at read
    extract_lets withHost filled at read
    split at read
    · cases read
    · unfold filled at read
      -- none of the checks that follow changes the host
      have kept (host : Host) (made : withHost host = .ok authority) : authority.host = host := by
        unfold withHost at made
        extract_lets withPort at made
        split at made
        · cases made
        · obtain ⟨⟨port, after⟩, -, made⟩ := bind_ok made
          dsimp only at made
          split at made
          · cases made
          · cases made
            rfl
      refine ⟨hostChars, ?_⟩
      unfold readHost
      split at read
      · rename_i isSpecial
        obtain ⟨host, domain, made⟩ := bind_ok read
        rw [if_pos isSpecial, kept host made]
        exact domain
      · rename_i isOther
        obtain ⟨host, other, made⟩ := bind_ok read
        rw [if_neg isOther, kept host made]
        exact other

theorem stands_of_readAfterSlashes {scheme : String} {url : Url} (read : readAfterSlashes scheme s = .ok url) :
    ∀ host ∈ url.host, host.Stands := by
  obtain ⟨authority, made, read⟩ := bind_ok read
  obtain ⟨hostChars, read'⟩ := host_of_readAuthority made
  cases read
  rintro host ⟨rfl⟩
  exact stands_of_readHost read'

/-- A file has no name for its host, or that of a domain. -/
theorem stands_of_readFile {url : Url} (read : readFile s = .ok url) : ∀ host ∈ url.host, host.Stands := by
  unfold readFile at read
  extract_lets bareFile file at read
  have named {host : Host} (stands : host.Stands) (s : List Char) (path : List Char → List String) :
      ∀ h ∈ (file host s path).host, h.Stands := by
    rintro h ⟨rfl⟩
    exact stands
  have nameless : (Host.name "").Stands := .inl rfl
  split at read
  · split at read
    · extract_lets hostChars rest first withHost at read
      split at read
      · cases read
        exact named nameless _ _
      · have kept {host : Host} (stands : host.Stands) (made : withHost host = .ok url) :
            ∀ h ∈ url.host, h.Stands := by
          cases made
          refine named ?_ _ _
          split
          · exact nameless
          · split
            · exact nameless
            · exact stands
        split at read
        · exact kept nameless read
        · obtain ⟨host, domain, made⟩ := bind_ok read
          exact kept (.inr (isAuthority_of_readDomain domain)) made
    · cases read
      exact named nameless _ _
  · cases read
    exact named nameless _ _

/-- The host of a URL, if it has one, can stand in any other. -/
theorem stands_of_parse {text : String} {url : Url} (read : parse text = .ok url) :
    ∀ host ∈ url.host, host.Stands := by
  unfold parse at read
  split at read
  · cases read
  · unfold readWithScheme at read
    split at read
    · exact stands_of_readFile read
    · split at read
      · exact stands_of_readAfterSlashes read
      · split at read
        · exact stands_of_readAfterSlashes read
        · cases read
          intro host mem
          cases mem

/-- What is named as the host of a URL is not empty and can stand in any other. -/
theorem isAuthority_of_hostText? {text host : String} {url : Url} (read : parse text = .ok url)
    (named : url.hostText? = some host) : IsAuthority host.toList := by
  have stands := stands_of_parse read
  unfold hostText? at named
  split at named
  · cases named
  · rename_i h unnamed is
    cases named
    rcases stands h is with rfl | authority
    · exact absurd rfl unnamed
    · exact authority
  · cases named

/-- A URL of a special scheme that is no file names a host. -/
theorem exists_hostText? {text : String} {url : Url} (read : parse text = .ok url)
    (special : isSpecial url.scheme = true) (noFile : url.scheme ≠ "file") : ∃ host, url.hostText? = some host := by
  obtain ⟨rest, -, made⟩ := parse_scheme read
  unfold readWithScheme at made
  rw [if_neg noFile, if_pos special] at made
  generalize url.scheme = scheme at special made
  obtain ⟨authority, read, made⟩ := bind_ok made
  obtain ⟨hostChars, domain⟩ := host_of_readAuthority read
  rw [readHost, if_pos special] at domain
  have more : authority.host.text.toList ≠ [] := (isAuthority_of_readDomain domain).more
  have host : url.host = some authority.host := by
    cases made
    rfl
  unfold hostText?
  rw [host]
  split
  · rename_i nameless
    rw [Option.some.inj nameless] at more
    exact absurd rfl more
  · exact ⟨_, rfl⟩
  · rename_i none
    cases none

end Url

end BusRelay
