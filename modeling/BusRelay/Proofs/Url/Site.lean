import BusRelay.Proofs.Codec.Percent
import BusRelay.Proofs.Text.Ascii
import BusRelay.Proofs.Url.Directory
/-!
# URLs of nothing but a host

A host name of ASCII that is not in Punycode and has none of the characters that no domain holds stands in a
URL as it is, but for letter case (`IsHostName.readDomain`). So the URL of a scheme and such a name has this
host and nothing else (`parse_site`).
-/

namespace BusRelay.Url

/-! ## Characters of host names -/

/-- A name that stands for a host as it is. -/
structure IsHostName (name : List Char) : Prop where
  plain : Idna.isPlain name = true
  allowed : ∀ c ∈ name, isForbiddenInDomain c = false

theorem ne_of_allowed {c d : Char} (allowed : isForbiddenInDomain c = false)
    (forbidden : isForbiddenInDomain d = true) : c ≠ d := by
  rintro rfl
  rw [allowed] at forbidden
  cases forbidden

theorem solid_of_allowed {c : Char} (allowed : isForbiddenInDomain c = false) : 0x20 < c.toNat := by
  simp only [isForbiddenInDomain, Bool.or_eq_false_iff, decide_eq_false_iff_not] at allowed
  exact Nat.not_le.1 allowed.1.1

/-- Of ASCII, no other host has more of the characters than a domain has. -/
theorem allowed_elsewhere {c : Char} (ascii : c.toNat < 128) (allowed : isForbiddenInDomain c = false) :
    isForbiddenInHost c = false ∧ isControl c = false :=
  forall_ascii (p := fun c => isForbiddenInDomain c = false → isForbiddenInHost c = false ∧ isControl c = false)
    (by decide +kernel) ascii allowed

/-- What letter case makes of the characters of ASCII. -/
theorem toLower_ascii {c : Char} (ascii : c.toNat < 128) :
    c.toLower.toNat < 128 ∧ c.toLower.toLower = c.toLower ∧ (c.toLower == '.') = (c == '.') ∧
      isForbiddenInDomain c.toLower = isForbiddenInDomain c :=
  forall_ascii (p := fun c => c.toLower.toNat < 128 ∧ c.toLower.toLower = c.toLower ∧
    (c.toLower == '.') = (c == '.') ∧ isForbiddenInDomain c.toLower = isForbiddenInDomain c)
    (by decide +kernel) ascii

theorem toLower_toLower (c : Char) : c.toLower.toLower = c.toLower := by
  by_cases ascii : c.toNat < 128
  · exact (toLower_ascii ascii).2.1
  · have other : c.toLower = c := toLower_outside (.inr (by omega))
    rw [other, other]

theorem map_toLower_map_toLower (s : List Char) : (s.map Char.toLower).map Char.toLower = s.map Char.toLower := by
  rw [List.map_map]
  exact List.map_congr_left fun c _ => toLower_toLower c

/-! ## Labels -/

/-- Changing characters that do not separate does not change where a text is split. -/
theorem splitOnP_map {α : Type} {p : α → Bool} {f : α → α} {s : List α} (same : ∀ a ∈ s, p (f a) = p a) :
    (s.map f).splitOnP p = (s.splitOnP p).map (List.map f) := by
  induction s with
  | nil => simp
  | cons a s ih =>
    obtain ⟨first, others⟩ := List.forall_mem_cons.1 same
    rw [List.map_cons, List.splitOnP_cons_eq_if_modifyHead, List.splitOnP_cons_eq_if_modifyHead, first, ih others]
    split
    · rfl
    · cases List.splitOnP p s <;> rfl

/-- A name is plain if all its characters are of ASCII and none of its labels is in Punycode. -/
theorem isPlain_iff {name : List Char} : Idna.isPlain name = true ↔
    (∀ c ∈ name, c.toNat < 128) ∧
      ∀ label ∈ name.splitOn '.', Idna.aceStart.isPrefixOf (label.map Char.toLower) = false := by
  simp only [Idna.isPlain, Bool.and_eq_true, List.all_eq_true, decide_eq_true_eq, Bool.not_eq_true']

theorem splitOn_append (front back : List Char) :
    (front ++ '.' :: back).splitOn '.' = front.splitOn '.' ++ back.splitOn '.' :=
  List.splitOnP_append_cons front back (by decide)

theorem isPlain_append {front back : List Char} (first : Idna.isPlain front = true)
    (second : Idna.isPlain back = true) : Idna.isPlain (front ++ '.' :: back) = true := by
  obtain ⟨ascii, labels⟩ := isPlain_iff.1 first
  obtain ⟨ascii', labels'⟩ := isPlain_iff.1 second
  refine isPlain_iff.2 ⟨fun c mem => ?_, fun label mem => ?_⟩
  · rcases List.mem_append.1 mem with before | after
    · exact ascii c before
    · rcases List.mem_cons.1 after with rfl | after
      · decide
      · exact ascii' c after
  · rw [splitOn_append] at mem
    rcases List.mem_append.1 mem with before | after
    · exact labels label before
    · exact labels' label after

namespace IsHostName

variable {name : List Char}

theorem ascii (h : IsHostName name) : ∀ c ∈ name, c.toNat < 128 := (isPlain_iff.1 h.plain).1

theorem append {back : List Char} (first : IsHostName name) (second : IsHostName back) :
    IsHostName (name ++ '.' :: back) where
  plain := isPlain_append first.plain second.plain
  allowed := by
    intro c mem
    rcases List.mem_append.1 mem with before | after
    · exact first.allowed c before
    · rcases List.mem_cons.1 after with rfl | after
      · decide
      · exact second.allowed c after

/-- Letter case makes no difference to a host name. -/
theorem lower (h : IsHostName name) : IsHostName (name.map Char.toLower) where
  plain := by
    obtain ⟨ascii, labels⟩ := isPlain_iff.1 h.plain
    refine isPlain_iff.2 ⟨fun c mem => ?_, fun label mem => ?_⟩
    · obtain ⟨c, inside, rfl⟩ := List.mem_map.1 mem
      exact (toLower_ascii (ascii c inside)).1
    · have split : (name.map Char.toLower).splitOn '.' = (name.splitOn '.').map (List.map Char.toLower) :=
        splitOnP_map fun c mem => (toLower_ascii (ascii c mem)).2.2.1
      rw [split] at mem
      obtain ⟨label, inside, rfl⟩ := List.mem_map.1 mem
      rw [map_toLower_map_toLower]
      exact labels label inside
  allowed := by
    intro c mem
    obtain ⟨c, inside, rfl⟩ := List.mem_map.1 mem
    rw [(toLower_ascii (h.ascii c inside)).2.2.2]
    exact h.allowed c inside

end IsHostName

/-! ## Reading hosts -/

/-- Octets without percent signs stand for themselves. -/
theorem decode_of_plain {bs : Utf8.Bytes} (plain : ∀ b ∈ bs, b ≠ 37) : Percent.decode bs = bs := by
  induction bs with
  | nil => rfl
  | cons b bs ih =>
    obtain ⟨first, others⟩ := List.forall_mem_cons.1 plain
    rw [Percent.decode_cons first, ih others]

/-- A name whose last label has something other than digits is no address. -/
theorem endsInNumber_append {label : List Char} (whole : '.' ∉ label) (word : label.all (·.isDigit) = false)
    (nothing : Address.part? label = none) (front : List Char) :
    Address.endsInNumber (front ++ '.' :: label) = false := by
  have more : label ≠ [] := by
    rintro rfl
    cases word
  have last : (front ++ '.' :: label).splitOn '.' = front.splitOn '.' ++ [label] := by
    have single : label.splitOn '.' = [label] :=
      List.splitOnP_eq_singleton fun c mem => beq_eq_false_iff_ne.2 fun dot => whole (dot ▸ mem)
    rw [splitOn_append, single]
  have parts : (Address.parts (front ++ '.' :: label)).getLast? = some label := by
    unfold Address.parts
    dsimp only
    rw [last, List.getLast?_append_of_ne_nil _ (List.cons_ne_nil _ _), if_neg, List.getLast?_append_of_ne_nil _
      (List.cons_ne_nil _ _)]
    · rfl
    · rintro ⟨-, none⟩
      exact more (Option.some.inj none)
  unfold Address.endsInNumber
  rw [parts]
  simp [word, nothing]

namespace IsHostName

variable {name : List Char}

theorem readDomain (h : IsHostName name) (more : name ≠ [])
    (noNumber : Address.endsInNumber (name.map Char.toLower) = false) :
    readDomain name = .ok (.name (String.ofList (name.map Char.toLower))) := by
  have decoded : Percent.decode (Utf8.bytes (String.ofList name)) = Utf8.bytes (String.ofList name) := by
    refine decode_of_plain fun b mem => ?_
    rw [Utf8.bytes_ascii h.ascii] at mem
    obtain ⟨c, inside, rfl⟩ := List.mem_map.1 mem
    intro percent
    have value := congrArg UInt8.toNat percent
    have := h.ascii c inside
    rw [Utf8.toNat_toUInt8 (by omega)] at value
    exact ne_of_allowed (h.allowed c inside) (d := '%') (by decide) (Char.ext (UInt32.toNat_inj.1 value))
  have ascii : Idna.toAscii? name = some (name.map Char.toLower) := by
    unfold Idna.toAscii?
    rw [if_pos h.plain]
  have clean : (name.map Char.toLower).any isForbiddenInDomain = false :=
    List.any_eq_false.2 fun c mem => by rw [h.lower.allowed c mem]; exact Bool.false_ne_true
  unfold Url.readDomain
  split
  · exact absurd rfl (ne_of_allowed (h.allowed '[' List.mem_cons_self) (by decide))
  · rw [decoded, Utf8.text?_bytes]
    dsimp only
    rw [String.toList_ofList, ascii]
    dsimp only
    rw [clean, noNumber]
    simp [more]

theorem readOtherHost (h : IsHostName name) : readOtherHost name = .ok (.name (String.ofList name)) := by
  have elsewhere := fun c mem => allowed_elsewhere (h.ascii c mem) (h.allowed c mem)
  have clean : name.any isForbiddenInHost = false :=
    List.any_eq_false.2 fun c mem => by rw [(elsewhere c mem).1]; exact Bool.false_ne_true
  have kept : encodeSet isControl name = name := encodeSet_of_none fun c mem => (elsewhere c mem).2
  unfold Url.readOtherHost
  split
  · exact absurd rfl (ne_of_allowed (h.allowed '[' List.mem_cons_self) (by decide))
  · rw [clean, encoded, kept]
    rfl

end IsHostName

/-! ## Whole URLs -/

/-- A text without colons and brackets has no port. -/
theorem splitHost_whole {s : List Char} (plain : ∀ c ∈ s, c ≠ ':' ∧ c ≠ '[' ∧ c ≠ ']') :
    splitHost false s = (s, []) := by
  induction s with
  | nil => rfl
  | cons c s ih =>
    obtain ⟨⟨colon, opening, closing⟩, others⟩ := List.forall_mem_cons.1 plain
    rw [splitHost, if_neg (by simp [colon]), if_neg opening, if_neg closing, ih others]

/-- A scheme and a host. -/
def site (scheme : String) (host : Host) : Url :=
  { bare scheme with host := some host, path := .segments [""] }

/-- A text that is the host between the slashes of a URL: nothing in it ends it, and nothing in it is a user or a
port. -/
structure IsAuthority (s : List Char) : Prop where
  more : s ≠ []
  plain : ∀ c ∈ s, 0x20 < c.toNat ∧ c ≠ '/' ∧ c ≠ '\\' ∧ c ≠ '?' ∧ c ≠ '#' ∧ c ≠ '@'
  portless : splitHost false s = (s, [])

/-- Characters that any host may hold make up an authority. -/
theorem isAuthority_of_allowed {s : List Char} (more : s ≠ [])
    (allowed : ∀ c ∈ s, 0x20 < c.toNat ∧ isForbiddenInHost c = false) : IsAuthority s := by
  have ne {c d : Char} (mem : c ∈ s) (forbidden : isForbiddenInHost d = true) : c ≠ d := by
    rintro rfl
    rw [(allowed c mem).2] at forbidden
    cases forbidden
  constructor
  case more => exact more
  case plain =>
    intro c mem
    exact ⟨(allowed c mem).1, ne mem (by decide), ne mem (by decide), ne mem (by decide), ne mem (by decide),
      ne mem (by decide)⟩
  case portless =>
    apply splitHost_whole
    intro c mem
    exact ⟨ne mem (by decide), ne mem (by decide), ne mem (by decide)⟩

/-- What no domain holds includes what no other host holds. -/
theorem allowed_in_host {c : Char} (allowed : isForbiddenInDomain c = false) :
    0x20 < c.toNat ∧ isForbiddenInHost c = false := by
  have ne {d : Char} (forbidden : isForbiddenInDomain d = true) : c ≠ d := ne_of_allowed allowed forbidden
  refine ⟨solid_of_allowed allowed, ?_⟩
  rw [Bool.eq_false_iff]
  intro forbidden
  simp only [isForbiddenInHost, Bool.or_eq_true, decide_eq_true_eq, List.contains_iff_mem] at forbidden
  have all : ∀ d ∈ " #/:<>?@[\\]^|".toList, isForbiddenInDomain d = true := forall_mem_of_all (by decide)
  rcases forbidden with (((same | same) | same) | same) | mem
  · exact ne (by decide) same
  · exact ne (by decide) same
  · exact ne (by decide) same
  · exact ne (by decide) same
  · exact ne (all c mem) rfl

theorem IsHostName.isAuthority {name : List Char} (h : IsHostName name) (more : name ≠ []) : IsAuthority name :=
  isAuthority_of_allowed more fun c mem => allowed_in_host (h.allowed c mem)

/-- A host, by the rules of the scheme. -/
def readHost (scheme : String) (s : List Char) : Except UrlFault Host :=
  if isSpecial scheme then readDomain s else readOtherHost s

theorem ofAuthority_site (scheme : String) (noFile : scheme ≠ "file") (host : Host) :
    ofAuthority scheme ⟨"", none, host, none, []⟩ ['/'] = site scheme host := by
  have split : splitPath ['/'] = (['/'], []) := by decide
  have path : pathAfterHost scheme ['/'] = [""] := by
    have root : pathAfterHost scheme ['/'] = pathOf scheme [] [] := by simp [pathAfterHost]
    rw [root, pathOf_nil noFile]
    rfl
  unfold ofAuthority
  rw [List.nil_append, split]
  dsimp only
  rw [path]
  rfl

namespace IsAuthority

variable {scheme : String} {s : List Char}

theorem readAuthority (h : IsAuthority s) (scheme : String) : readAuthority scheme s false =
    (fun host => ⟨"", none, host, none, []⟩) <$> readHost scheme s := by
  have noUser : s.contains '@' = false := by
    rw [Bool.eq_false_iff, ne_eq, List.contains_iff_mem]
    intro mem
    exact (h.plain '@' mem).2.2.2.2.2 rfl
  unfold Url.readAuthority readHost
  dsimp only
  rw [noUser]
  cases special : isSpecial scheme with
  | true =>
    cases read : readDomain s <;> simp [h.portless, h.more, read] <;> rfl
  | false =>
    cases read : readOtherHost s <;> simp [h.portless, h.more, read] <;> rfl

/-- With a slash behind it, it is the URL of the host. -/
theorem readAfterSlashes (h : IsAuthority s) (noFile : scheme ≠ "file") :
    readAfterSlashes scheme (s ++ ['/']) = site scheme <$> readHost scheme s := by
  have inside : ∀ c ∈ s, (!endsAuthority (isSpecial scheme) c) = true := by
    intro c mem
    obtain ⟨-, slash, backslash, question, hash, -⟩ := h.plain c mem
    simp [endsAuthority, slash, question, hash, backslash]
  have front : s.takeWhile (!endsAuthority (isSpecial scheme) ·) = s := List.takeWhile_eq_self_iff.2 inside
  have back : s.dropWhile (!endsAuthority (isSpecial scheme) ·) = [] := List.dropWhile_eq_nil_iff.2 inside
  rw [readAfterSlashes_eq, front, back, h.readAuthority, List.nil_append, ← comp_map]
  congr 1
  funext host
  exact ofAuthority_site scheme noFile host

/-- What follows a scheme of the web, or any other that is not special, and two slashes. -/
theorem readWithScheme (h : IsAuthority s) (noFile : scheme ≠ "file") :
    readWithScheme scheme ('/' :: '/' :: (s ++ ['/'])) = site scheme <$> readHost scheme s := by
  have made := h.readAfterSlashes noFile
  unfold Url.readWithScheme
  rw [if_neg noFile]
  split
  · obtain ⟨c, rest, rfl⟩ := List.exists_cons_of_ne_nil h.more
    have first : isSlash c = false := by
      obtain ⟨-, slash, backslash, -⟩ := h.plain c List.mem_cons_self
      simp [isSlash, slash, backslash]
    have slashes : ('/' :: '/' :: ((c :: rest) ++ ['/'])).dropWhile isSlash = (c :: rest) ++ ['/'] := by
      rw [List.dropWhile_cons_of_pos (by decide), List.dropWhile_cons_of_pos (by decide), List.cons_append,
        List.dropWhile_cons_of_neg (by rw [first]; exact Bool.false_ne_true)]
    rw [slashes, made]
  · exact made

end IsAuthority

/-- A text without blanks and control characters is left as it is. -/
theorem cleaned_solid {s : String} (solid : ∀ c ∈ s.toList, 0x20 < c.toNat) : cleaned s = s.toList := by
  have kept {l : List Char} (solid : ∀ c ∈ l, 0x20 < c.toNat) : l.dropWhile (fun c => c.toNat ≤ 0x20) = l := by
    cases l with
    | nil => rfl
    | cons c l =>
      have first := solid c List.mem_cons_self
      exact List.dropWhile_cons_of_neg (by simpa using first)
  unfold cleaned
  dsimp only
  rw [kept solid, kept (fun c mem => solid c (List.mem_reverse.1 mem)), List.reverse_reverse]
  refine List.filter_eq_self.2 fun c mem => ?_
  have large := solid c mem
  have ne {d : Char} (small : d.toNat ≤ 0x20) : c ≠ d := by
    rintro rfl
    omega
  have tab : c ≠ '\t' := ne (by decide)
  have feed : c ≠ '\n' := ne (by decide)
  have line : c ≠ '\r' := ne (by decide)
  simp [tab, feed, line]

/-- Small letters before a colon are a scheme. -/
theorem scheme?_letters {letters : List Char} (small : ∀ c ∈ letters, c.isLower = true) (more : letters ≠ [])
    (rest : List Char) : scheme? (letters ++ ':' :: rest) = some (String.ofList letters, rest) := by
  have inside : ∀ c ∈ letters, isSchemeChar c = true := by
    intro c mem
    have alphanumeric : c.isAlphanum = true := Bool.or_eq_true_iff.2 (.inl (isAlpha_of_isLower (small c mem)))
    simp [isSchemeChar, alphanumeric]
  have front : (letters ++ ':' :: rest).takeWhile isSchemeChar = letters := by
    rw [takeWhile_stop isSchemeChar (by decide), List.takeWhile_eq_self_iff.2 inside]
  have back : (letters ++ ':' :: rest).dropWhile isSchemeChar = ':' :: rest := by
    rw [dropWhile_stop isSchemeChar (by decide), List.dropWhile_eq_nil_iff.2 inside, List.nil_append]
  have lower : letters.map Char.toLower = letters :=
    (List.map_congr_left fun c mem => toLower_outside (.inr (by
      have := bounds_of_isLower (small c mem)
      omega))).trans (List.map_id' letters)
  obtain ⟨a, others, rfl⟩ := List.exists_cons_of_ne_nil more
  have letter : a.isAlpha = true := isAlpha_of_isLower (small a List.mem_cons_self)
  unfold scheme?
  rw [List.cons_append] at front back ⊢
  dsimp only
  rw [letter, front, back, lower]
  rfl

/-- **A scheme and a host** with a slash behind it are the URL of the host. -/
theorem parse_site {letters s : List Char} (small : ∀ c ∈ letters, c.isLower = true) (named : letters ≠ [])
    (noFile : String.ofList letters ≠ "file") (h : IsAuthority s) :
    parse (String.ofList (letters ++ ':' :: '/' :: '/' :: (s ++ ['/']))) =
      site (String.ofList letters) <$> readHost (String.ofList letters) s := by
  have solid : ∀ c ∈ letters ++ ':' :: '/' :: '/' :: (s ++ ['/']), 0x20 < c.toNat := by
    intro c mem
    simp only [List.mem_append, List.mem_cons, List.not_mem_nil, or_false] at mem
    rcases mem with letter | rfl | rfl | rfl | inside | rfl
    · have := bounds_of_isLower (small c letter)
      omega
    · decide
    · decide
    · decide
    · exact (h.plain c inside).1
    · decide
  unfold parse
  rw [cleaned_solid (by rwa [String.toList_ofList]), String.toList_ofList, scheme?_letters small named]
  exact h.readWithScheme noFile

/-- The URL of a host of the web. -/
theorem parse_web {s : List Char} (h : IsAuthority s) :
    parse ("https://" ++ String.ofList s ++ "/") = site "https" <$> readDomain s := by
  have front : "https://".toList = "https".toList ++ [':', '/', '/'] := by decide
  have slash : "/".toList = ['/'] := rfl
  have text : "https://" ++ String.ofList s ++ "/" =
      String.ofList ("https".toList ++ ':' :: '/' :: '/' :: (s ++ ['/'])) := by
    apply String.toList_inj.1
    simp only [String.toList_append, String.toList_ofList, front, slash, List.append_assoc, List.cons_append,
      List.nil_append]
  have scheme : String.ofList "https".toList = "https" := String.ofList_toList
  have small : ∀ c ∈ "https".toList, c.isLower = true := forall_mem_of_all (by decide)
  have made := parse_site small (by decide) (by decide) h
  rwa [scheme, ← text] at made

end BusRelay.Url
