import BusRelay.Proofs.Except
import BusRelay.Proofs.Json.Numeral
import BusRelay.Proofs.List
/-!
# Texts of the grammar

What is read of a text depends on what stands between its quotes alone (`readText_gives`), and nothing else
is read as a text (`content_of_readText`). An escape may be half a surrogate pair, so what an escape stands
for depends on what comes next; that is why a content is settled together with what it is behind the first
half of a pair (`settled`).
-/

namespace BusRelay.Json

open Utf8 (Bytes)

/-! ## Escapes -/

/-- What an escape of one letter stands for. -/
def unescaped : Char → Char
  | 'b' => '\x08'
  | 'f' => '\x0c'
  | 'n' => '\n'
  | 'r' => '\r'
  | 't' => '\t'
  | c => c

theorem readEscape_letter {c : Char} (mem : c ∈ escapeLetters) (text : Bytes) (offset : Nat) :
    readEscape ⟨octet c :: text, offset⟩ = .ok (unescaped c, ⟨text, offset + 1⟩) := by
  simp only [escapeLetters, List.mem_cons, List.not_mem_nil, or_false] at mem
  rcases mem with rfl | rfl | rfl | rfl | rfl | rfl | rfl | rfl <;> rfl

/-- The number that four hexadecimal digits write. -/
def IsHex4 (n : Nat) (digits : Bytes) : Prop :=
  ∀ text offset, readHex4 ⟨digits ++ text, offset⟩ = .ok (n, ⟨text, offset + 4⟩)

theorem exists_isHex4 {h i j k : UInt8} (digits : ∀ b ∈ [h, i, j, k], (hexValue? b).isSome = true) :
    ∃ n, IsHex4 n [h, i, j, k] := by
  simp only [List.forall_mem_cons, Option.isSome_iff_exists] at digits
  obtain ⟨⟨a, first⟩, ⟨b, second⟩, ⟨c, third⟩, ⟨d, fourth⟩, -⟩ := digits
  refine ⟨((a * 16 + b) * 16 + c) * 16 + d, fun text offset => ?_⟩
  simp only [readHex4, List.cons_append, List.nil_append, first, second, third, fourth]

/-- The second half of a surrogate pair. -/
def readSecondHalf (n : Nat) (c : Cursor) : Except Fault (Char × Cursor) := do
  let c ← readPairOctet '\\' c
  let c ← readPairOctet 'u' c
  let (low, c) ← readHex4 c
  if low < 0xDC00 || 0xDFFF < low then throw (c.fault .loneSurrogate)
  return (Char.ofNat (0x10000 + (n - 0xD800) * 0x400 + (low - 0xDC00)), c)

theorem readUnicode_eq {n : Nat} {c c' : Cursor} (read : readHex4 c = .ok (n, c')) : readUnicode c =
    if 0xDC00 ≤ n ∧ n ≤ 0xDFFF then .error (c'.fault .loneSurrogate)
    else if n < 0xD800 ∨ 0xDBFF < n then .ok (Char.ofNat n, c')
    else readSecondHalf n c' := by
  rw [readUnicode, read]
  change (if (decide (0xDC00 ≤ n) && decide (n ≤ 0xDFFF)) = true then _ else _) = _
  by_cases low : 0xDC00 ≤ n ∧ n ≤ 0xDFFF
  · rw [if_pos (by simpa using low), if_pos low]
    rfl
  · rw [if_neg (by simpa using low), if_neg low]
    by_cases single : n < 0xD800 ∨ 0xDBFF < n
    · rw [if_pos (by simpa using single), if_pos single]
      rfl
    · rw [if_neg (by simpa using single), if_neg single]
      rfl

theorem readSecondHalf_eq {n low : Nat} {digits : Bytes} (hex : IsHex4 low digits) (text : Bytes) (offset : Nat) :
    readSecondHalf n ⟨octet '\\' :: octet 'u' :: (digits ++ text), offset⟩ =
      if low < 0xDC00 ∨ 0xDFFF < low then .error ⟨.loneSurrogate, some (offset + 1 + 1 + 4)⟩
      else .ok (Char.ofNat (0x10000 + (n - 0xD800) * 0x400 + (low - 0xDC00)), ⟨text, offset + 1 + 1 + 4⟩) := by
  have read := hex text (offset + 1 + 1)
  have same : readSecondHalf n ⟨octet '\\' :: octet 'u' :: (digits ++ text), offset⟩ =
      (readHex4 ⟨digits ++ text, offset + 1 + 1⟩ >>= fun (low, c) =>
        if low < 0xDC00 || 0xDFFF < low then .error (c.fault .loneSurrogate)
        else .ok (Char.ofNat (0x10000 + (n - 0xD800) * 0x400 + (low - 0xDC00)), c)) := rfl
  rw [same, read]
  change (if (decide (low < 0xDC00) || decide (0xDFFF < low)) = true then _ else _) = _
  by_cases other : low < 0xDC00 ∨ 0xDFFF < low
  · rw [if_pos (by simpa using other), if_pos other]
    rfl
  · rw [if_neg (by simpa using other), if_neg other]

theorem readSecondHalf_other {n : Nat} {b : UInt8} (other : b ≠ octet '\\') (text : Bytes) (offset : Nat) :
    ∃ fault, readSecondHalf n ⟨b :: text, offset⟩ = .error fault := by
  have read : readPairOctet '\\' ⟨b :: text, offset⟩ = .error ⟨.endOfHexEscape, some (offset + 1)⟩ := by
    rw [readPairOctet]
    exact if_neg other
  exact ⟨_, by rw [readSecondHalf, read]; rfl⟩

theorem readSecondHalf_letter {n : Nat} {c : Char} (mem : c ∈ escapeLetters) (text : Bytes) (offset : Nat) :
    ∃ fault, readSecondHalf n ⟨octet '\\' :: octet c :: text, offset⟩ = .error fault := by
  have others : ∀ c ∈ escapeLetters, octet c ≠ octet 'u' := forall_mem_of_all (by decide)
  have other := others c mem
  have read : readPairOctet 'u' ⟨octet c :: text, offset + 1⟩ =
      .error ⟨.endOfHexEscape, some (offset + 1 + 1)⟩ := by
    rw [readPairOctet]
    exact if_neg other
  have same : readSecondHalf n ⟨octet '\\' :: octet c :: text, offset⟩ =
      (readPairOctet 'u' ⟨octet c :: text, offset + 1⟩ >>= fun c => readHex4 c >>= fun (low, c) =>
        if low < 0xDC00 || 0xDFFF < low then .error (c.fault .loneSurrogate)
        else .ok (Char.ofNat (0x10000 + (n - 0xD800) * 0x400 + (low - 0xDC00)), c)) := rfl
  exact ⟨_, by rw [same, read]; rfl⟩

/-! ## Contents -/

/-- A content stands for these octets, or for none if it is refused, wherever it stands and whatever follows
its quote. -/
def StandsFor (content : Bytes) (octets? : Option Bytes) : Prop :=
  ∀ fuel last rest offset, content.length < fuel →
    Gives rest (readTextOctets fuel last ⟨content ++ octet '"' :: rest, offset⟩)
      (octets?.map fun octets => octets.reverse ++ last)

namespace StandsFor

variable {content : Bytes} {octets? : Option Bytes}

theorem nil : StandsFor [] (some []) := by
  intro fuel last rest offset enough
  obtain ⟨fuel, rfl⟩ := Nat.exists_eq_add_of_lt enough
  rw [List.nil_append, readTextOctets]
  exact .read last (offset + 1)

/-- An octet that is neither a quote nor a backslash nor a control character stands for itself. -/
theorem plain {b : UInt8} (quote : b ≠ octet '"') (backslash : b ≠ octet '\\') (visible : ¬ b < 0x20)
    (more : StandsFor content octets?) : StandsFor (b :: content) (octets?.map (b :: ·)) := by
  intro fuel last rest offset enough
  cases fuel with
  | zero => cases enough
  | succ fuel =>
    have tail := more fuel (b :: last) rest (offset + 1) (Nat.lt_of_succ_lt_succ enough)
    rw [List.cons_append, readTextOctets]
    simp only [if_neg quote, if_neg backslash, if_neg visible]
    rw [Option.map_map]
    simpa [Function.comp_def] using tail

theorem plains {bs : Bytes} (all : ∀ b ∈ bs, b ≠ octet '"' ∧ b ≠ octet '\\' ∧ ¬ b < 0x20)
    (more : StandsFor content octets?) : StandsFor (bs ++ content) (octets?.map (bs ++ ·)) := by
  induction bs with
  | nil => simpa using more
  | cons b bs ih =>
    obtain ⟨⟨quote, backslash, visible⟩, all⟩ := List.forall_mem_cons.1 all
    have tail := plain quote backslash visible (ih all)
    rw [Option.map_map] at tail
    exact tail

/-- An escape stands for its character. -/
theorem escape (escaped : Bytes) {c : Char}
    (reads : ∀ text offset, ∃ stop, readEscape ⟨escaped ++ text, offset⟩ = .ok (c, ⟨text, stop⟩))
    (more : StandsFor content octets?) :
    StandsFor (octet '\\' :: (escaped ++ content)) (octets?.map (Utf8.charBytes c ++ ·)) := by
  intro fuel last rest offset enough
  cases fuel with
  | zero => cases enough
  | succ fuel =>
    obtain ⟨stop, read⟩ := reads (content ++ octet '"' :: rest) (offset + 1)
    simp only [List.length_cons, List.length_append] at enough
    have tail := more fuel ((Utf8.charBytes c).reverse ++ last) rest stop (by omega)
    rw [List.cons_append, List.append_assoc, readTextOctets]
    simp only [if_neg (by decide : octet '\\' ≠ octet '"'), if_true, read]
    rw [Option.map_map]
    simpa [Function.comp_def] using tail

/-- An escape that is refused whatever follows its text. -/
theorem refused (refuses : ∀ rest offset, ∃ fault,
    readEscape ⟨content ++ octet '"' :: rest, offset⟩ = .error fault) : StandsFor (octet '\\' :: content) none := by
  intro fuel last rest offset enough
  cases fuel with
  | zero => cases enough
  | succ fuel =>
    obtain ⟨fault, read⟩ := refuses rest (offset + 1)
    rw [List.cons_append, readTextOctets]
    simp only [if_neg (by decide : octet '\\' ≠ octet '"'), if_true, read]
    exact .refused fault

theorem letter {c : Char} (mem : c ∈ escapeLetters) (more : StandsFor content octets?) :
    StandsFor (octet '\\' :: octet c :: content) (octets?.map (Utf8.charBytes (unescaped c) ++ ·)) :=
  escape [octet c] (fun text offset => ⟨offset + 1, readEscape_letter mem text offset⟩) more

theorem readEscape_unicode (text : Bytes) (offset : Nat) :
    readEscape ⟨octet 'u' :: text, offset⟩ = readUnicode ⟨text, offset + 1⟩ := rfl

/-- An escape that is no half of a surrogate pair stands for the character of its number. -/
theorem unicode {n : Nat} {digits : Bytes} (hex : IsHex4 n digits) (whole : n < 0xD800 ∨ 0xDFFF < n)
    (more : StandsFor content octets?) : StandsFor (octet '\\' :: octet 'u' :: (digits ++ content))
      (octets?.map (Utf8.charBytes (Char.ofNat n) ++ ·)) := by
  refine escape (octet 'u' :: digits) (fun text offset => ⟨offset + 1 + 4, ?_⟩) more
  rw [List.cons_append, readEscape_unicode, readUnicode_eq (hex _ _), if_neg (by omega), if_pos (by omega)]

end StandsFor

/-- What a content stands for is settled. -/
def Settled (content : Bytes) : Prop := ∃ octets?, StandsFor content octets?

namespace Settled

open StandsFor (readEscape_unicode)

variable {content : Bytes} {n low : Nat} {first digits : Bytes}

/-- An escape that is not the first half of a surrogate pair is alone. -/
theorem single (hex : IsHex4 n digits) (alone : n < 0xD800 ∨ 0xDBFF < n) (more : Settled content) :
    Settled (octet '\\' :: octet 'u' :: (digits ++ content)) := by
  by_cases second : 0xDC00 ≤ n ∧ n ≤ 0xDFFF
  · refine ⟨none, .refused fun rest offset => ⟨⟨.loneSurrogate, some (offset + 1 + 4)⟩, ?_⟩⟩
    rw [List.cons_append, List.append_assoc]
    exact (readUnicode_eq (hex _ _)).trans (if_pos second)
  · obtain ⟨octets?, stands⟩ := more
    exact ⟨_, stands.unicode hex (by omega)⟩

/-- The first half of a surrogate pair waits for the second. -/
theorem readEscape_first (above : 0xD800 ≤ n) (below : n ≤ 0xDBFF) (hex : IsHex4 n first) (text : Bytes)
    (offset : Nat) :
    readEscape ⟨octet 'u' :: (first ++ text), offset⟩ = readSecondHalf n ⟨text, offset + 1 + 4⟩ := by
  rw [readEscape_unicode, readUnicode_eq (hex _ _), if_neg (by omega), if_neg (by omega)]

/-- Two escapes in a row, the first of them the first half of a pair. -/
theorem pair (above : 0xD800 ≤ n) (below : n ≤ 0xDBFF) (hexFirst : IsHex4 n first) (hex : IsHex4 low digits)
    (more : Settled content) :
    Settled (octet '\\' :: octet 'u' :: (first ++ octet '\\' :: octet 'u' :: (digits ++ content))) := by
  have read (text : Bytes) (offset : Nat) :
      readEscape ⟨octet 'u' :: (first ++ octet '\\' :: octet 'u' :: (digits ++ text)), offset⟩ = _ :=
    (readEscape_first above below hexFirst _ offset).trans (readSecondHalf_eq hex text (offset + 1 + 4))
  by_cases other : low < 0xDC00 ∨ 0xDFFF < low
  · refine ⟨none, .refused fun rest offset => ⟨⟨.loneSurrogate, some (offset + 1 + 4 + 1 + 1 + 4)⟩, ?_⟩⟩
    rw [List.cons_append, List.append_assoc, List.cons_append, List.cons_append, List.append_assoc]
    exact (read _ offset).trans (if_pos other)
  · have all : octet 'u' :: (first ++ octet '\\' :: octet 'u' :: (digits ++ content)) =
        octet 'u' :: (first ++ octet '\\' :: octet 'u' :: digits) ++ content := by
      rw [List.cons_append, List.append_assoc]
      rfl
    obtain ⟨octets?, stands⟩ := more
    rw [all]
    refine ⟨_, stands.escape (octet 'u' :: (first ++ octet '\\' :: octet 'u' :: digits))
      (c := Char.ofNat (0x10000 + (n - 0xD800) * 0x400 + (low - 0xDC00)))
      fun text offset => ⟨offset + 1 + 4 + 1 + 1 + 4, ?_⟩⟩
    rw [List.cons_append, List.append_assoc]
    exact (read text offset).trans (if_neg other)

/-- Behind the first half of a pair only the second half is not refused. -/
theorem half (above : 0xD800 ≤ n) (below : n ≤ 0xDBFF) (hex : IsHex4 n first) (refuses : ∀ rest offset, ∃ fault,
    readSecondHalf n ⟨content ++ octet '"' :: rest, offset⟩ = .error fault) :
    Settled (octet '\\' :: octet 'u' :: (first ++ content)) := by
  refine ⟨none, .refused fun rest offset => ?_⟩
  rw [List.cons_append, List.append_assoc, readEscape_first above below hex]
  exact refuses rest _

end Settled

/-- An octet of a character that is not escaped stands for itself. -/
theorem plain_of_mem_charBytes {c : Char} (quote : c ≠ '"') (backslash : c ≠ '\\') (visible : ¬ c.toNat < 0x20)
    {b : UInt8} (mem : b ∈ Utf8.charBytes c) : b ≠ octet '"' ∧ b ≠ octet '\\' ∧ ¬ b < 0x20 := by
  rw [UInt8.lt_iff_toNat_lt]
  by_cases ascii : c.toNat < 128
  · rw [Utf8.charBytes_ascii ascii, List.mem_singleton] at mem
    subst mem
    refine ⟨fun same => quote (octet_injective ascii (by decide) same),
      fun same => backslash (octet_injective ascii (by decide) same), ?_⟩
    rw [Utf8.toNat_toUInt8 (by omega)]
    exact visible
  · have large := Utf8.le_of_mem_charBytes (Nat.not_lt.1 ascii) mem
    refine ⟨?_, ?_, ?_⟩
    · rintro rfl
      exact absurd large (by decide)
    · rintro rfl
      exact absurd large (by decide)
    · exact Nat.not_lt.2 (Nat.le_trans (by decide) large)

/-- A content, with the first half of a surrogate pair before it or without one. -/
theorem settled {content : Bytes} (inside : IsContent content) : Settled content ∧
    ∀ {n : Nat} {first : Bytes}, 0xD800 ≤ n → n ≤ 0xDBFF → IsHex4 n first →
      Settled (octet '\\' :: octet 'u' :: (first ++ content)) := by
  -- An escape may be the second half of a pair that began before it, so the induction carries both.
  induction inside with
  | nil =>
    refine ⟨⟨_, .nil⟩, fun above below hex => .half above below hex fun rest offset => ?_⟩
    exact readSecondHalf_other (by decide) rest offset
  | @character c more quote backslash visible _ ih =>
    have all := fun b => plain_of_mem_charBytes quote backslash visible (b := b)
    obtain ⟨⟨octets?, stands⟩, -⟩ := ih
    refine ⟨⟨_, stands.plains all⟩, fun above below hex => .half above below hex fun rest offset => ?_⟩
    obtain ⟨b, tail, same, -, -⟩ := Utf8.exists_charBytes c
    have other := (all b (by rw [same]; exact List.mem_cons_self)).2.1
    rw [same, List.cons_append, List.cons_append]
    exact readSecondHalf_other other _ _
  | @letter c more mem _ ih =>
    obtain ⟨⟨octets?, stands⟩, -⟩ := ih
    refine ⟨⟨_, stands.letter mem⟩, fun above below hex => .half above below hex fun rest offset => ?_⟩
    exact readSecondHalf_letter mem _ _
  | @unicode h i j k more digits _ ih =>
    obtain ⟨m, hex⟩ := exists_isHex4 digits
    refine ⟨?_, fun above below hexFirst => .pair above below hexFirst hex ih.1⟩
    by_cases alone : m < 0xD800 ∨ 0xDBFF < m
    · exact .single hex alone ih.1
    · exact ih.2 (by omega) (by omega) hex

/-- A text is what its content stands for, if this is UTF-8. -/
theorem StandsFor.readText {content : Bytes} {octets? : Option Bytes} (stands : StandsFor content octets?)
    (rest : Bytes) (offset : Nat) :
    Gives rest (Json.readText ⟨content ++ octet '"' :: rest, offset⟩) (octets?.bind Utf8.text?) := by
  have enough : content.length < (content ++ octet '"' :: rest).length + 1 := by
    rw [List.length_append]
    omega
  have here := stands _ [] rest offset enough
  rw [Json.readText]
  generalize readTextOctets _ [] _ = result at here ⊢
  cases octets? with
  | none =>
    cases here with
    | refused fault => exact .refused fault
  | some octets =>
    rw [Option.map_some, List.append_nil] at here
    cases here with
    | read _ stop =>
      rw [Option.bind_some]
      dsimp only
      rw [List.reverse_reverse]
      cases Utf8.text? octets with
      | none => exact .refused _
      | some text => exact .read text stop

/-- A text is read, or refused, wherever it stands and whatever follows its quote. -/
theorem readText_gives {content : Bytes} (inside : IsContent content) : ∃ text?, ∀ rest offset,
    Gives rest (readText ⟨content ++ octet '"' :: rest, offset⟩) text? := by
  obtain ⟨octets?, stands⟩ := (settled inside).1
  exact ⟨_, stands.readText⟩

/-! ## Nothing else is a text -/

/-- The text may stand behind a backslash, before any content. -/
def IsEscaped (escaped : Bytes) : Prop :=
  ∀ content, IsContent content → IsContent (octet '\\' :: (escaped ++ content))

theorem isEscaped_letter {c : Char} (mem : c ∈ escapeLetters) : IsEscaped [octet c] :=
  fun _ inside => .letter mem inside

section

variable {c after : Cursor}

theorem rest_of_readHex4 {n : Nat} (read : readHex4 c = .ok (n, after)) : ∃ h i j k,
    (∀ b ∈ [h, i, j, k], (hexValue? b).isSome = true) ∧ c.rest = h :: i :: j :: k :: after.rest := by
  rw [readHex4] at read
  split at read
  · rename_i h i j k rest start
    dsimp only at read
    split at read
    · rename_i first second third fourth
      cases read
      refine ⟨h, i, j, k, ?_, start⟩
      simp [first, second, third, fourth]
    · cases read
  · cases read

theorem rest_of_readPairOctet {expected : Char} (read : readPairOctet expected c = .ok after) :
    c.rest = octet expected :: after.rest := by
  rw [readPairOctet] at read
  split at read
  · cases read
  · rename_i b rest start
    split at read
    · rename_i same
      cases read
      rw [start, same]
    · cases read

theorem rest_of_readSecondHalf {n : Nat} {character : Char}
    (read : readSecondHalf n c = .ok (character, after)) : ∃ h i j k,
    (∀ b ∈ [h, i, j, k], (hexValue? b).isSome = true) ∧
      c.rest = octet '\\' :: octet 'u' :: h :: i :: j :: k :: after.rest := by
  rw [readSecondHalf] at read
  obtain ⟨marked, backslash, read⟩ := bind_ok read
  obtain ⟨written, mark, read⟩ := bind_ok read
  obtain ⟨⟨low, next⟩, hex, read⟩ := bind_ok read
  obtain ⟨h, i, j, k, digits, left⟩ := rest_of_readHex4 hex
  have same : next = after := by
    dsimp only at read
    split at read
    · cases read
    · exact congrArg Prod.snd (Except.ok.inj read)
  refine ⟨h, i, j, k, digits, ?_⟩
  rw [rest_of_readPairOctet backslash, rest_of_readPairOctet mark, left, same]

theorem rest_of_readUnicode {character : Char} (read : readUnicode c = .ok (character, after)) :
    ∃ escaped, IsEscaped (octet 'u' :: escaped) ∧ c.rest = escaped ++ after.rest := by
  obtain ⟨⟨n, next⟩, hex, -⟩ := bind_ok (show readHex4 c >>= _ = _ from read)
  obtain ⟨h, i, j, k, digits, left⟩ := rest_of_readHex4 hex
  rw [readUnicode_eq hex] at read
  split at read
  · cases read
  · split at read
    · cases read
      exact ⟨[h, i, j, k], fun _ inside => .unicode digits inside, left⟩
    · obtain ⟨h', i', j', k', digits', left'⟩ := rest_of_readSecondHalf read
      refine ⟨h :: i :: j :: k :: octet '\\' :: octet 'u' :: [h', i', j', k'],
        fun _ inside => .unicode digits (.unicode digits' inside), ?_⟩
      rw [left, left']
      rfl

theorem rest_of_readEscape {character : Char} (read : readEscape c = .ok (character, after)) :
    ∃ escaped, IsEscaped escaped ∧ c.rest = escaped ++ after.rest := by
  have letter {b : UInt8} {rest : Bytes} (start : c.rest = b :: rest) {e : Char} (mem : e ∈ escapeLetters)
      (same : b = octet e) (left : after.rest = rest) :
      ∃ escaped, IsEscaped escaped ∧ c.rest = escaped ++ after.rest :=
    ⟨[octet e], isEscaped_letter mem, by rw [start, same, left]; rfl⟩
  rw [readEscape] at read
  split at read
  · cases read
  rename_i b rest start
  dsimp only at read
  -- Eight escapes are one letter.
  iterate 8
    split at read
    · rename_i same
      cases read
      exact letter start (by decide) same rfl
  split at read
  · rename_i same
    obtain ⟨escaped, isEscaped, left⟩ := rest_of_readUnicode read
    exact ⟨octet 'u' :: escaped, isEscaped, by rw [start, same, List.cons_append, ← left]⟩
  · cases read

end

/-- The octets that a content stands for, escape by escape. -/
inductive Unescaped : (content octets : Bytes) → Prop where
  | nil : Unescaped [] []
  | plain {b : UInt8} {content octets : Bytes} (quote : b ≠ octet '"') (backslash : b ≠ octet '\\')
      (visible : ¬ b < 0x20) (more : Unescaped content octets) : Unescaped (b :: content) (b :: octets)
  | escape {escaped : Bytes} {c : Char} {content octets : Bytes} (isEscaped : IsEscaped escaped)
      (more : Unescaped content octets) :
      Unescaped (octet '\\' :: (escaped ++ content)) (Utf8.charBytes c ++ octets)

theorem rest_of_readTextOctets {fuel : Nat} {last result : Bytes} {c after : Cursor}
    (read : readTextOctets fuel last c = .ok (result, after)) : ∃ content octets, Unescaped content octets ∧
      c.rest = content ++ octet '"' :: after.rest ∧ result = octets.reverse ++ last := by
  induction fuel generalizing last c with
  | zero => cases read
  | succ fuel ih =>
    rw [readTextOctets] at read
    split at read
    · cases read
    rename_i b rest start
    dsimp only at read
    split at read
    · rename_i quote
      cases read
      exact ⟨[], [], .nil, by rw [start, quote]; rfl, rfl⟩
    rename_i quote
    split at read
    · rename_i backslash
      split at read
      · cases read
      · rename_i character next escape
        obtain ⟨escaped, isEscaped, left⟩ := rest_of_readEscape escape
        obtain ⟨content, octets, unescaped, more, same⟩ := ih read
        refine ⟨octet '\\' :: (escaped ++ content), _, .escape (c := character) isEscaped unescaped, ?_, ?_⟩
        · rw [start, backslash, List.cons_append, List.append_assoc, ← more, ← left]
        · rw [same, List.reverse_append, List.append_assoc]
    · rename_i backslash
      split at read
      · cases read
      · rename_i visible
        obtain ⟨content, octets, unescaped, more, same⟩ := ih read
        refine ⟨b :: content, b :: octets, .plain quote backslash visible unescaped, ?_, ?_⟩
        · rw [start, List.cons_append, ← more]
        · rw [same, List.reverse_cons, List.append_assoc]
          rfl

/-- Octets that start no character stand for themselves. -/
theorem Unescaped.inner {tail content octets : Bytes} (inner : ∀ t ∈ tail, ¬ t.IsUTF8FirstByte)
    (unescaped : Unescaped content (tail ++ octets)) : ∃ more, content = tail ++ more ∧ Unescaped more octets := by
  induction tail generalizing content with
  | nil => exact ⟨content, rfl, unescaped⟩
  | cons t tail ih =>
    obtain ⟨notFirst, inner⟩ := List.forall_mem_cons.1 inner
    generalize written : t :: tail ++ octets = all at unescaped
    cases unescaped with
    | nil => cases written
    | plain _ _ _ more =>
      cases written
      obtain ⟨left, rfl, unescaped⟩ := ih inner more
      exact ⟨left, rfl, unescaped⟩
    | @escape _ c _ _ _ more =>
      obtain ⟨b, others, start, first, -⟩ := Utf8.exists_charBytes c
      rw [start] at written
      obtain ⟨rfl, -⟩ := List.cons.inj written
      exact absurd first notFirst

/-- A content that stands for characters is one of the grammar: between escapes, the octets of a character
stay together. -/
theorem Unescaped.content {cs : List Char} {content : Bytes} (unescaped : Unescaped content (Utf8.ofChars cs)) :
    IsContent content := by
  induction cs generalizing content with
  | nil =>
    generalize written : Utf8.ofChars [] = octets at unescaped
    cases unescaped with
    | nil => exact .nil
    | plain => cases written
    | @escape _ c =>
      obtain ⟨b, others, start, -⟩ := Utf8.exists_charBytes c
      rw [start] at written
      cases written
  | cons c cs ih =>
    generalize written : Utf8.ofChars (c :: cs) = octets at unescaped
    rw [Utf8.ofChars_cons] at written
    cases unescaped with
    | nil =>
      obtain ⟨b, others, start, -⟩ := Utf8.exists_charBytes c
      rw [start] at written
      cases written
    | @escape _ d _ _ isEscaped more =>
      obtain ⟨-, rfl⟩ := Utf8.charBytes_append_inj written
      exact isEscaped _ (ih more)
    | @plain b content octets quote backslash visible more =>
      obtain ⟨first, tail, start, -, inner⟩ := Utf8.exists_charBytes c
      rw [start] at written
      obtain ⟨rfl, rfl⟩ := List.cons.inj written
      -- No escape stands between the octets of a character.
      obtain ⟨left, rfl, unescaped⟩ := more.inner inner
      have character : IsContent (Utf8.charBytes c ++ left) := by
        refine .character ?_ ?_ ?_ (ih unescaped)
        · rintro rfl
          exact quote (List.cons.inj start).1.symm
        · rintro rfl
          exact backslash (List.cons.inj start).1.symm
        · intro control
          rw [Utf8.charBytes_ascii (by omega)] at start
          obtain ⟨rfl, -⟩ := List.cons.inj start
          refine visible (UInt8.lt_iff_toNat_lt.2 ?_)
          rw [Utf8.toNat_toUInt8 (by omega)]
          exact control
      rw [start] at character
      exact character

/-- What is read as a text stands between quotes as the grammar has it. -/
theorem content_of_readText {s : String} {c after : Cursor} (read : readText c = .ok (s, after)) :
    ∃ content, IsContent content ∧ c.rest = content ++ octet '"' :: after.rest := by
  rw [readText] at read
  split at read
  · cases read
  rename_i last next octets
  obtain ⟨content, octets, unescaped, left, rfl⟩ := rest_of_readTextOctets octets
  split at read
  · rename_i text whole
    cases read
    rw [List.append_nil, List.reverse_reverse, Utf8.text?_eq_some_iff, Utf8.bytes_eq] at whole
    rw [whole] at unescaped
    exact ⟨content, unescaped.content, left⟩
  · cases read

end BusRelay.Json
