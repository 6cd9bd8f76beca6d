import BusRelay.Proofs.Except
import BusRelay.Proofs.List
import BusRelay.Proofs.Text.Ascii
import BusRelay.Text.Fields
import BusRelay.Url.Parser
import Mathlib.Data.List.Basic
import Mathlib.Data.List.TakeWhile
/-!
# URLs below a directory

What stands behind a directory and a slash is read apart from the directory: it has the scheme, the user,
the host and the port of the directory, and its segments go on top of those of the directory (`parse_below`).
A text without slashes that is no step within the path is one segment of it, percent-encoded where it has to
be (`IsSegment.pathOf_slash`, `IsSegment.pathOf_last`); letters, digits and hyphens stay as they are.
-/

namespace BusRelay.Url

/-- A text that stays as it is at the end of a URL: no line ends and tabs are in it, and it does not end in
blanks. -/
structure Fits (below : List Char) : Prop where
  kept : ∀ c ∈ below, c ≠ '\t' ∧ c ≠ '\n' ∧ c ≠ '\r'
  closed : ∀ c ∈ below.getLast?, 0x20 < c.toNat

theorem fits_nil : Fits [] where
  kept := fun _ mem => absurd mem List.not_mem_nil
  closed := fun _ mem => by cases mem

/-- What is left out of a directory does not depend on what follows it. -/
theorem cleaned_below (directory : String) :
    ∃ front, ∀ below, Fits below →
      cleaned (directory ++ "/" ++ String.ofList below) = front ++ '/' :: below := by
  refine ⟨(directory.toList.dropWhile fun c => c.toNat ≤ 0x20).filter
    fun c => !(c = '\t' || c = '\n' || c = '\r'), fun below fits => ?_⟩
  have whole : (directory ++ "/" ++ String.ofList below).toList = directory.toList ++ '/' :: below := by
    simp [String.toList_append]
  have start : (directory.toList ++ '/' :: below).dropWhile (fun c => c.toNat ≤ 0x20) =
      directory.toList.dropWhile (fun c => c.toNat ≤ 0x20) ++ '/' :: below :=
    dropWhile_stop _ (by decide) _ _
  -- The last character is the slash or the last one below it, and neither is left out.
  have close : ∀ front : List Char, (front ++ '/' :: below).reverse.dropWhile (fun c => c.toNat ≤ 0x20) =
      (front ++ '/' :: below).reverse := by
    intro front
    rw [List.reverse_append, List.reverse_cons]
    cases back : below.reverse with
    | nil => exact List.dropWhile_cons_of_neg (by decide)
    | cons c more =>
      have last : below.getLast? = some c := by
        rw [List.getLast?_eq_head?_reverse, back]
        rfl
      have large : 0x20 < c.toNat := fits.closed c last
      exact List.dropWhile_cons_of_neg (by simpa using large)
  have inner : below.filter (fun c => !(c = '\t' || c = '\n' || c = '\r')) = below := by
    refine List.filter_eq_self.2 fun c mem => ?_
    obtain ⟨tab, feed, line⟩ := fits.kept c mem
    simp [tab, feed, line]
  unfold cleaned
  simp only
  rw [whole, start, close, List.reverse_reverse, List.filter_append, List.filter_cons_of_pos (by decide), inner]

/-- What stands in front of a text that fits may end in anything. -/
theorem Fits.append {front back : List Char} (kept : ∀ c ∈ front, c ≠ '\t' ∧ c ≠ '\n' ∧ c ≠ '\r')
    (fits : Fits back) (more : back ≠ []) : Fits (front ++ back) where
  kept := by
    intro c mem
    rcases List.mem_append.1 mem with before | after
    · exact kept c before
    · exact fits.kept c after
  closed := by
    intro c last
    rw [List.getLast?_append_of_ne_nil front more] at last
    exact fits.closed c last

theorem Fits.slash {back : List Char} (fits : Fits back) : Fits ('/' :: back) := by
  have kept : ∀ c ∈ ['/'], c ≠ '\t' ∧ c ≠ '\n' ∧ c ≠ '\r' := forall_mem_of_all (by decide)
  cases back with
  | nil =>
    refine ⟨kept, fun c last => ?_⟩
    obtain rfl := Option.some.inj last
    decide
  | cons b back => exact .append kept fits (List.cons_ne_nil b back)

/-! ## Scheme -/

/-- The scheme that these characters name, if a colon follows, and what is behind the colon. -/
def named? (name : List Char) : List Char → Option (String × List Char)
  | ':' :: rest => some (String.ofList (name.map Char.toLower), rest)
  | _ => none

theorem named?_cons {name behind rest : List Char} {c : Char} {scheme : String}
    (read : named? name (c :: behind) = some (scheme, rest)) :
    c = ':' ∧ scheme = String.ofList (name.map Char.toLower) ∧ rest = behind := by
  unfold named? at read
  split at read
  · rename_i rest' same
    obtain ⟨rfl, rfl⟩ := List.cons.inj same
    cases read
    exact ⟨rfl, rfl, rfl⟩
  · cases read

theorem scheme?_below {front rest : List Char} {scheme : String}
    (read : scheme? (front ++ ['/']) = some (scheme, rest)) :
    ∃ back, rest = back ++ ['/'] ∧
      ∀ below, scheme? (front ++ '/' :: below) = some (scheme, back ++ '/' :: below) := by
  cases front with
  | nil => cases read
  | cons a front =>
    have split : ∀ below, ((a :: front) ++ '/' :: below).dropWhile isSchemeChar =
        (a :: front).dropWhile isSchemeChar ++ '/' :: below :=
      dropWhile_stop isSchemeChar (by decide) _
    have name : ∀ below, ((a :: front) ++ '/' :: below).takeWhile isSchemeChar =
        (a :: front).takeWhile isSchemeChar :=
      takeWhile_stop isSchemeChar (by decide) _
    have letter : a.isAlpha = true := by
      by_contra other
      have none : scheme? ((a :: front) ++ ['/']) = none := by
        simp [scheme?, other]
      rw [none] at read
      cases read
    have general : ∀ below, scheme? ((a :: front) ++ '/' :: below) =
        named? ((a :: front).takeWhile isSchemeChar)
          ((a :: front).dropWhile isSchemeChar ++ '/' :: below) := by
      intro below
      rw [← split, ← name below, List.cons_append, scheme?, letter]
      rfl
    rw [general] at read
    cases behind : (a :: front).dropWhile isSchemeChar with
    | nil =>
      rw [behind] at read
      cases read
    | cons colon back =>
      rw [behind] at read
      obtain ⟨rfl, rfl, rfl⟩ := named?_cons read
      refine ⟨back, rfl, fun below => ?_⟩
      rw [general, behind]
      rfl

/-! ## Path -/

/-- The segments before the last ones go on the path one after the other, each with a slash behind it. -/
theorem pushSegments_append (file : Bool) (path : List (List Char)) (front : List (List Char))
    {back : List (List Char)} (more : back ≠ []) :
    pushSegments file path (front ++ back) =
      pushSegments file (front.foldl (pushSegment file true) path) back := by
  induction front generalizing path with
  | nil => rfl
  | cons segment front ih =>
    obtain ⟨next, rest, split⟩ : ∃ next rest, front ++ back = next :: rest :=
      List.exists_cons_of_ne_nil (by simp [more])
    rw [List.cons_append, split, pushSegments, ← split, ih, List.foldl_cons]
    simp

section

variable {scheme : String} (noFile : scheme ≠ "file")

include noFile

theorem pathOf_eq (onto : List (List Char)) (s : List Char) :
    pathOf scheme onto s =
      (pushSegments false onto (splitSegments (isSpecial scheme) s)).reverse.map String.ofList := by
  simp [pathOf, noFile]

/-- What stands behind a slash goes on top of what stands before it. -/
theorem pathOf_below (onto : List (List Char)) (front : List Char) :
    ∃ top, ∀ back, pathOf scheme onto (front ++ '/' :: back) = pathOf scheme top back := by
  refine ⟨(splitSegments (isSpecial scheme) front).foldl (pushSegment false true) onto, fun back => ?_⟩
  have more : splitSegments (isSpecial scheme) back ≠ [] := List.splitOnP_ne_nil _ _
  have split : splitSegments (isSpecial scheme) (front ++ '/' :: back) =
      splitSegments (isSpecial scheme) front ++ splitSegments (isSpecial scheme) back :=
    List.splitOnP_append_cons _ _ (by simp)
  rw [pathOf_eq noFile, pathOf_eq noFile, split, pushSegments_append false onto _ more]

/-- A path that ends in a slash ends in an empty segment. -/
theorem pathOf_nil (onto : List (List Char)) :
    pathOf scheme onto [] = onto.reverse.map String.ofList ++ [""] := by
  have single : splitSegments (isSpecial scheme) [] = [[]] := List.splitOnP_eq_singleton (by simp)
  rw [pathOf_eq noFile, single]
  change ([] :: onto).reverse.map String.ofList = _
  rw [List.reverse_cons, List.map_append]
  rfl

/-- What stands behind a slash of the path goes on top of the segments before it. -/
theorem pathAfterHost_below (front : List Char) :
    ∃ onto, ∀ back, pathAfterHost scheme (front ++ '/' :: back) = pathOf scheme onto back := by
  cases front with
  | nil => exact ⟨[], fun back => by simp [pathAfterHost]⟩
  | cons c front =>
    by_cases slash : (c = '/' || (isSpecial scheme && c = '\\')) = true
    · obtain ⟨onto, below⟩ := pathOf_below noFile [] front
      refine ⟨onto, fun back => ?_⟩
      rw [← below back]
      exact if_pos slash
    · obtain ⟨onto, below⟩ := pathOf_below noFile [] (c :: front)
      refine ⟨onto, fun back => ?_⟩
      rw [← below back]
      exact if_neg slash

end

/-! ## Segments -/

/-- Characters outside a set stand as they are. -/
theorem encodeSet_of_none {set : Char → Bool} {s : List Char} (none : ∀ c ∈ s, set c = false) :
    encodeSet set s = s := by
  have same : ∀ c ∈ s, (if set c then (Utf8.charBytes c).flatMap Percent.escape else [c]) = [c] := by
    intro c mem
    rw [none c mem]
    rfl
  rw [encodeSet, List.flatMap_congr same, List.flatMap_singleton']

/-- A text that is one segment of a path, and no step within the path. -/
structure IsSegment (s : List Char) : Prop where
  separate : ∀ c ∈ s, c ≠ '/' ∧ c ≠ '\\'
  single : isSingleDot s = false
  double : isDoubleDot s = false

namespace IsSegment

variable {s : List Char}

theorem push (h : IsSegment s) (more : Bool) (path : List (List Char)) :
    pushSegment false more path s = encodeSet encodedInPath s :: path := by
  unfold pushSegment
  rw [if_neg (by rw [h.double]; exact Bool.false_ne_true), if_neg (by rw [h.single]; exact Bool.false_ne_true)]
  -- Drive letters only matter in files.
  dsimp only
  split <;> rfl

theorem no_separator (h : IsSegment s) (special : Bool) :
    ∀ c ∈ s, (c = '/' || (special && c = '\\')) = false := by
  intro c mem
  obtain ⟨slash, backslash⟩ := h.separate c mem
  simp [slash, backslash]

variable {scheme : String} (noFile : scheme ≠ "file")

include noFile

/-- A segment with a slash behind it goes on the path as one segment. -/
theorem pathOf_slash (h : IsSegment s) (onto : List (List Char)) (back : List Char) :
    pathOf scheme onto (s ++ '/' :: back) = pathOf scheme (encodeSet encodedInPath s :: onto) back := by
  have split : splitSegments (isSpecial scheme) (s ++ '/' :: back) =
      [s] ++ splitSegments (isSpecial scheme) back :=
    List.splitOnP_append_cons_of_forall_mem (h.no_separator _) '/' (by simp) back
  have more : splitSegments (isSpecial scheme) back ≠ [] := List.splitOnP_ne_nil _ _
  rw [pathOf_eq noFile, pathOf_eq noFile, split, pushSegments_append false onto _ more, List.foldl_cons,
    List.foldl_nil, h.push]

/-- A segment at the end is the last one of the path. -/
theorem pathOf_last (h : IsSegment s) (onto : List (List Char)) :
    pathOf scheme onto s = onto.reverse.map String.ofList ++ [encoded encodedInPath s] := by
  have single : splitSegments (isSpecial scheme) s = [s] := List.splitOnP_eq_singleton (h.no_separator _)
  rw [pathOf_eq noFile, single, pushSegments, h.push, List.reverse_cons, List.map_append]
  rfl

/-- Segments with a slash behind each go on the path one after the other. -/
theorem pathOf_join {segments : List (List Char)} (each : ∀ s ∈ segments, IsSegment s) (some : segments ≠ [])
    (onto : List (List Char)) (back : List Char) :
    pathOf scheme onto (Fields.join '/' segments ++ '/' :: back) =
      pathOf scheme ((segments.map (encodeSet encodedInPath)).reverse ++ onto) back := by
  induction segments generalizing onto with
  | nil => exact absurd rfl some
  | cons s segments ih =>
    obtain ⟨first, others⟩ := List.forall_mem_cons.1 each
    cases segments with
    | nil => exact first.pathOf_slash noFile onto back
    | cons next segments =>
      have whole : (s :: next :: segments).map (encodeSet encodedInPath) =
          encodeSet encodedInPath s :: (next :: segments).map (encodeSet encodedInPath) := rfl
      have joined : Fields.join '/' (s :: next :: segments) = s ++ '/' :: Fields.join '/' (next :: segments) := rfl
      rw [joined, List.append_assoc, List.cons_append, first.pathOf_slash noFile,
        ih others (List.cons_ne_nil next segments), whole, List.reverse_cons, List.append_assoc,
        List.singleton_append]

end IsSegment

/-! ## Words -/

/-- A letter, a digit or a hyphen. -/
def isWordChar (c : Char) : Bool := c.isAlphanum || c = '-'

theorem word_ascii {c : Char} (word : isWordChar c = true) : c.toNat < 128 := by
  rcases Bool.or_eq_true_iff.1 word with alphanumeric | hyphen
  · rcases Bool.or_eq_true_iff.1 alphanumeric with letter | digit
    · exact ascii_of_isAlpha letter
    · have := bounds_of_isDigit digit
      omega
  · rw [of_decide_eq_true hyphen]
    decide

/-- What the characters of words are not. -/
theorem word_plain {c : Char} (word : isWordChar c = true) :
    0x20 < c.toNat ∧ encodedInPath c = false ∧ c ≠ '/' ∧ c ≠ '\\' ∧ c.toLower ≠ '.' ∧ c.toLower ≠ '%' :=
  forall_ascii (p := fun c => isWordChar c = true → 0x20 < c.toNat ∧ encodedInPath c = false ∧ c ≠ '/' ∧
    c ≠ '\\' ∧ c.toLower ≠ '.' ∧ c.toLower ≠ '%') (by decide +kernel) (word_ascii word) word

section

variable {s : List Char} (word : ∀ c ∈ s, isWordChar c = true)

include word

theorem fits_word : Fits s where
  kept := fun c mem => by
    refine ⟨?_, ?_, ?_⟩ <;>
      (rintro rfl; exact absurd (word _ mem) (by decide))
  closed := fun c mem => (word_plain (word c (List.mem_of_getLast? mem))).1

theorem encodeSet_word : encodeSet encodedInPath s = s :=
  encodeSet_of_none fun c mem => (word_plain (word c mem)).2.1

theorem isSegment_word : IsSegment s where
  separate := fun c mem => ⟨(word_plain (word c mem)).2.2.1, (word_plain (word c mem)).2.2.2.1⟩
  single := by
    cases s with
    | nil => rfl
    | cons c rest =>
      have plain := word_plain (word c List.mem_cons_self)
      have dot : c ≠ '.' := by
        rintro rfl
        exact absurd (word _ List.mem_cons_self) (by decide)
      simp [isSingleDot, dot, plain.2.2.2.2.2]
  double := by
    cases s with
    | nil => rfl
    | cons c rest =>
      have plain := word_plain (word c List.mem_cons_self)
      simp [isDoubleDot, plain.2.2.2.2.1, plain.2.2.2.2.2]

end

/-! ## Query and fragment -/

/-- A URL without query and fragment ends with its path. -/
theorem splitPath_closed {scheme : String} {s : List Char}
    (query : (readQueryAndFragment scheme (splitPath s).2).1 = none)
    (fragment : (readQueryAndFragment scheme (splitPath s).2).2 = none) :
    ∀ c ∈ s, (!(c = '?' || c = '#')) = true := by
  intro c mem
  by_contra ends
  cases behind : (splitPath s).2 with
  | nil =>
    have all : s.dropWhile (fun c => !(c = '?' || c = '#')) = [] := behind
    exact ends (List.dropWhile_eq_nil_iff.1 all c mem)
  | cons mark rest =>
    rw [behind] at query fragment
    have nonempty : s.dropWhile (fun c => !(c = '?' || c = '#')) ≠ [] := by
      change (splitPath s).2 ≠ []
      rw [behind]
      exact List.cons_ne_nil _ _
    have stops := List.head_dropWhile_not _ nonempty
    have first : (s.dropWhile (fun c => !(c = '?' || c = '#'))).head nonempty = mark := by
      have same : s.dropWhile (fun c => !(c = '?' || c = '#')) = mark :: rest := behind
      simp only [same, List.head_cons]
    rw [first] at stops
    simp only [Bool.not_eq_false', Bool.or_eq_true, decide_eq_true_eq] at stops
    rcases stops with rfl | rfl
    · cases query
    · cases fragment

/-- What stands behind a path without query and fragment may bring them. -/
theorem splitPath_below {front : List Char} (closed : ∀ c ∈ front, (!(c = '?' || c = '#')) = true)
    (below : List Char) :
    splitPath (front ++ below) = (front ++ (splitPath below).1, (splitPath below).2) := by
  unfold splitPath
  simp only
  rw [List.takeWhile_append_of_pos closed, List.dropWhile_append_of_pos closed]

/-! ## Authority -/

/-- The URL of an authority and of what stands behind it. -/
def ofAuthority (scheme : String) (authority : Authority) (after : List Char) : Url :=
  let s := splitPath (authority.rest ++ after)
  withEnd { bare scheme with
    username := authority.username, password := authority.password
    host := some authority.host, port := authority.port
    path := .segments (pathAfterHost scheme s.1) } s.2

/-- The authority ends before the first slash. -/
theorem readAfterSlashes_eq (scheme : String) (front below : List Char) :
    readAfterSlashes scheme (front ++ '/' :: below) =
      (ofAuthority scheme · (front.dropWhile (!endsAuthority (isSpecial scheme) ·) ++ '/' :: below)) <$>
        readAuthority scheme (front.takeWhile (!endsAuthority (isSpecial scheme) ·)) false := by
  have before : (front ++ '/' :: below).takeWhile (!endsAuthority (isSpecial scheme) ·) =
      front.takeWhile (!endsAuthority (isSpecial scheme) ·) := takeWhile_stop _ rfl _ _
  have after : (front ++ '/' :: below).dropWhile (!endsAuthority (isSpecial scheme) ·) =
      front.dropWhile (!endsAuthority (isSpecial scheme) ·) ++ '/' :: below := dropWhile_stop _ rfl _ _
  have more : decide (front.dropWhile (!endsAuthority (isSpecial scheme) ·) ++ '/' :: below = []) = false := by
    simp
  unfold readAfterSlashes
  simp only
  rw [before, after, more]
  cases readAuthority scheme (front.takeWhile (!endsAuthority (isSpecial scheme) ·)) false <;> rfl

/-- What stands behind a slash after the authority is left for the path. -/
theorem ofAuthority_below {scheme : String} (noFile : scheme ≠ "file") (authority : Authority)
    (front : List Char) (query : (ofAuthority scheme authority (front ++ ['/'])).query = none)
    (fragment : (ofAuthority scheme authority (front ++ ['/'])).fragment = none) :
    ∃ onto, (ofAuthority scheme authority (front ++ ['/'])).path =
        .segments (onto.reverse.map String.ofList ++ [""]) ∧
      ∀ below, ofAuthority scheme authority (front ++ '/' :: below) =
        withEnd { ofAuthority scheme authority (front ++ ['/']) with
          path := .segments (pathOf scheme onto (splitPath below).1) } (splitPath below).2 := by
  have closed : ∀ c ∈ authority.rest ++ (front ++ ['/']), (!(c = '?' || c = '#')) = true :=
    splitPath_closed query fragment
  obtain ⟨onto, path⟩ := pathAfterHost_below noFile (authority.rest ++ front)
  have split : ∀ below, splitPath (authority.rest ++ (front ++ '/' :: below)) =
      ((authority.rest ++ front) ++ '/' :: (splitPath below).1, (splitPath below).2) := by
    intro below
    have whole := splitPath_below closed below
    simpa using whole
  have made : ∀ below, ofAuthority scheme authority (front ++ '/' :: below) =
      withEnd { bare scheme with
        username := authority.username, password := authority.password
        host := some authority.host, port := authority.port
        path := .segments (pathOf scheme onto (splitPath below).1) } (splitPath below).2 := by
    intro below
    unfold ofAuthority
    simp only
    rw [split, path]
  refine ⟨onto, ?_, fun below => ?_⟩
  · rw [made, ← pathOf_nil noFile]
    rfl
  · rw [made, made]
    rfl

/-! ## Whole URLs -/

/-- A URL of a file has the scheme of files. -/
theorem readFile_scheme {s : List Char} {u : Url} (read : readFile s = .ok u) : u.scheme = "file" := by
  unfold readFile at read
  split at read
  · split at read
    · dsimp only at read
      split at read
      · cases read
        rfl
      · split at read
        · cases read
          rfl
        · obtain ⟨host, -, made⟩ := bind_ok read
          cases made
          rfl
    · cases read
      rfl
  · cases read
    rfl

theorem readAfterSlashes_scheme {scheme : String} {s : List Char} {u : Url}
    (read : readAfterSlashes scheme s = .ok u) : u.scheme = scheme := by
  obtain ⟨authority, -, made⟩ := bind_ok read
  cases made
  rfl

/-- A URL has the scheme that it is read with. -/
theorem readWithScheme_scheme {scheme : String} {s : List Char} {u : Url}
    (read : readWithScheme scheme s = .ok u) : u.scheme = scheme := by
  unfold readWithScheme at read
  split at read
  · rename_i file
    rw [file]
    exact readFile_scheme read
  · split at read
    · exact readAfterSlashes_scheme read
    · split at read
      · exact readAfterSlashes_scheme read
      · cases read
        rfl

theorem parse_scheme {s : String} {u : Url} (read : parse s = .ok u) :
    ∃ rest, scheme? (cleaned s) = some (u.scheme, rest) ∧ readWithScheme u.scheme rest = .ok u := by
  unfold parse at read
  split at read
  · cases read
  · rename_i scheme rest found
    obtain rfl := readWithScheme_scheme read
    exact ⟨rest, found, read⟩

/-- What follows the scheme of a directory is followed by the slash and what stands behind it. -/
theorem parse_directory {directory : String} {base : Url} (read : parse (directory ++ "/") = .ok base) :
    ∃ back, readWithScheme base.scheme (back ++ ['/']) = .ok base ∧
      ∀ below, Fits below →
        parse (directory ++ "/" ++ String.ofList below) = readWithScheme base.scheme (back ++ '/' :: below) := by
  obtain ⟨front, clean⟩ := cleaned_below directory
  have bare : cleaned (directory ++ "/") = front ++ ['/'] := by
    rw [← clean [] fits_nil]
    simp
  obtain ⟨rest, found, made⟩ := parse_scheme read
  rw [bare] at found
  obtain ⟨back, rfl, general⟩ := scheme?_below found
  refine ⟨back, made, fun below fits => ?_⟩
  unfold parse
  rw [clean below fits, general below]

/-- What stands below a directory is read with its scheme. -/
theorem scheme_below {directory : String} {base u : Url} (read : parse (directory ++ "/") = .ok base)
    {below : List Char} (fits : Fits below) (inside : parse (directory ++ "/" ++ String.ofList below) = .ok u) :
    u.scheme = base.scheme := by
  obtain ⟨back, -, general⟩ := parse_directory read
  rw [general below fits] at inside
  exact readWithScheme_scheme inside

/-- No host is left if nothing but slashes follows the scheme. -/
theorem readAfterSlashes_nil {scheme : String} (special : isSpecial scheme = true) :
    readAfterSlashes scheme [] = .error .emptyHost := by
  simp [readAfterSlashes, readAuthority, special, splitHost]
  rfl

/-- **What stands below a directory of the web is read apart from it.** The directory ends in an empty
segment, and instead of this the segments of the rest go on top of its path. -/
theorem parse_below {directory : String} {base : Url} (read : parse (directory ++ "/") = .ok base)
    (special : isSpecial base.scheme = true) (noFile : base.scheme ≠ "file")
    (query : base.query = none) (fragment : base.fragment = none) :
    ∃ onto, base.path = .segments (onto.reverse.map String.ofList ++ [""]) ∧
      ∀ below, Fits below → parse (directory ++ "/" ++ String.ofList below) =
        .ok (withEnd { base with path := .segments (pathOf base.scheme onto (splitPath below).1) }
          (splitPath below).2) := by
  obtain ⟨back, made, general⟩ := parse_directory read
  have slashes : ∀ s, readWithScheme base.scheme s = readAfterSlashes base.scheme (s.dropWhile isSlash) := by
    intro s
    unfold readWithScheme
    rw [if_neg noFile, if_pos special]
  rw [slashes] at made
  cases names : back.dropWhile isSlash with
  | nil =>
    have nothing : (back ++ ['/']).dropWhile isSlash = [] := by
      rw [List.dropWhile_append, names]
      rfl
    rw [nothing, readAfterSlashes_nil special] at made
    cases made
  | cons c front =>
    have kept : ∀ below, (back ++ '/' :: below).dropWhile isSlash = (c :: front) ++ '/' :: below := by
      intro below
      rw [List.dropWhile_append, names]
      rfl
    rw [kept, readAfterSlashes_eq] at made
    obtain ⟨authority, given, same⟩ := map_ok made
    rw [← same] at query fragment
    obtain ⟨onto, path, below⟩ := ofAuthority_below noFile authority _ query fragment
    rw [same] at path below
    refine ⟨onto, path, fun rest fits => ?_⟩
    rw [general rest fits, slashes, kept, readAfterSlashes_eq, given]
    exact congrArg Except.ok (below rest)

end BusRelay.Url
