import BusRelay.Proofs.Json.Settled
/-!
# Every value is skipped

Whatever the grammar has as a value is passed over, wherever it stands and however deep it is nested
(`skipped`). The grammar says nothing of the range of a number or of what escapes stand for, so there is
no value of an unknown member that refuses an object.
-/

namespace BusRelay.Json

open Utf8 (Bytes)

/-- The text is passed over if this is what follows, wherever it stands. -/
def Passes (skip : Cursor → Except Fault Cursor) (text rest : Bytes) : Prop :=
  ∀ offset, ∃ stop, skip ⟨text ++ rest, offset⟩ = .ok ⟨rest, stop⟩

/-! ## Numbers -/

variable {rest : Bytes}

theorem skipPower_passes {positive : Bool} {sign : Bytes} (signed : IsSign positive sign) {d : UInt8} {more : Bytes}
    (written : IsDigits (d :: more)) (ends : EndsDigits rest) : Passes skipPower (sign ++ d :: more) rest := by
  obtain ⟨digit, digits⟩ := List.forall_mem_cons.1 written
  have skips (offset : Nat) := skipDigits_digits digits ends 0 (offset + 1)
  have other {c : Char} (mark : isDigit (octet c) = false) : d ≠ octet c := by
    rintro rfl
    rw [mark] at digit
    cases digit
  intro offset
  cases signed with
  | none =>
    refine ⟨offset + 1 + more.length, ?_⟩
    simp [skipPower, other (c := '+') (by decide), other (c := '-') (by decide), digit, skips]
  | plus =>
    refine ⟨offset + 1 + 1 + more.length, ?_⟩
    simp [skipPower, digit, skips]
  | minus =>
    refine ⟨offset + 1 + 1 + more.length, ?_⟩
    simp [skipPower, digit, skips]

theorem skipPowerOrEnd_passes {text : Bytes} (scale : IsPower text) (ends : EndsNumber rest) :
    Passes skipPowerOrEnd text rest := by
  intro offset
  cases scale with
  | none =>
    refine ⟨offset, ?_⟩
    cases rest with
    | nil => rfl
    | cons b rest =>
      obtain ⟨-, -, small, large⟩ := ends b rfl
      simp [skipPowerOrEnd, small, large]
  | @mark e positive sign d more mark signed written =>
    obtain ⟨stop, skips⟩ := skipPower_passes signed written ends.endsDigits (offset + 1)
    refine ⟨stop, ?_⟩
    rw [← skips]
    rcases mark with rfl | rfl <;> rfl

theorem skipNumberTail_passes {fraction power : Bytes} (part : IsFraction fraction) (scale : IsPower power)
    (ends : EndsNumber rest) : Passes skipNumberTail (fraction ++ power) rest := by
  intro offset
  rw [List.append_assoc]
  cases part with
  | @point d more written =>
    obtain ⟨stop, skips⟩ := skipPowerOrEnd_passes scale ends (offset + 1 + (d :: more).length)
    have digits := skipDigits_digits written (endsDigits_power scale ends) 0 (offset + 1)
    refine ⟨stop, ?_⟩
    change skipFraction ⟨d :: more ++ (power ++ rest), offset + 1⟩ = _
    rw [skipFraction, digits, List.length_cons, Nat.zero_add, ← skips]
    rfl
  | none =>
    obtain ⟨stop, skips⟩ := skipPowerOrEnd_passes scale ends offset
    refine ⟨stop, ?_⟩
    rw [List.nil_append, ← skips]
    -- No point comes next, whether a power of ten does or not.
    have none_ : ∀ b ∈ (power ++ rest).head?, b ≠ octet '.' := by
      intro b mem
      cases scale with
      | none => exact (ends b mem).2.1
      | mark mark =>
        obtain rfl := Option.some.inj mem
        rcases mark with rfl | rfl <;> decide
    generalize power ++ rest = tail at none_
    cases tail with
    | nil => rfl
    | cons b tail => exact if_neg (none_ b rfl)

theorem skipNumber_passes {text : Bytes} (magnitude : IsMagnitude text) (ends : EndsNumber rest) :
    Passes skipNumber text rest := by
  intro offset
  obtain @⟨whole, fraction, power, start, part, scale⟩ := magnitude
  have other := endsDigits_fraction part scale ends
  have tail (offset : Nat) := skipNumberTail_passes part scale ends offset
  simp only [List.append_assoc] at tail ⊢
  cases start with
  | zero =>
    obtain ⟨stop, skips⟩ := tail (offset + 1)
    refine ⟨stop, ?_⟩
    rw [← skips]
    generalize fraction ++ (power ++ rest) = after at other
    cases after with
    | nil => rfl
    | cons b after =>
      simp only [List.cons_append, List.nil_append, skipNumber, if_true, other b rfl, Bool.false_eq_true, if_false]
  | @digits d more nonzero written =>
    obtain ⟨digit, digits⟩ := List.forall_mem_cons.1 written
    obtain ⟨stop, skips⟩ := tail (offset + 1 + more.length)
    refine ⟨stop, ?_⟩
    simp only [List.cons_append, skipNumber, if_neg nonzero, digit, if_true, skipDigits_digits digits other]
    exact skips

/-! ## Texts -/

theorem skipEscape_letter {c : Char} (mem : c ∈ escapeLetters) (text : Bytes) (offset : Nat) :
    skipEscape ⟨octet c :: text, offset⟩ = .ok ⟨text, offset + 1⟩ := by
  rw [skipEscape]
  exact if_pos (List.mem_map_of_mem mem)

theorem skipEscape_unicode {n : Nat} {digits : Bytes} (hex : IsHex4 n digits) (text : Bytes) (offset : Nat) :
    skipEscape ⟨octet 'u' :: (digits ++ text), offset⟩ = .ok ⟨text, offset + 1 + 4⟩ := by
  have letter : octet 'u' ∉ escapeLetters.map octet := by decide
  rw [skipEscape]
  simp only [if_neg letter, if_true, hex text]
  rfl

/-- The octets of a text are passed over up to its quote. -/
theorem skipTextOctets_content {content : Bytes} (inside : IsContent content) (fuel : Nat)
    (enough : content.length < fuel) : Passes (skipTextOctets fuel) (content ++ [octet '"']) rest := by
  induction inside generalizing fuel with
  | nil =>
    obtain ⟨fuel, rfl⟩ := exists_less enough
    exact fun offset => ⟨offset + 1, rfl⟩
  | @character c more quote backslash visible _ ih =>
    have all := fun b => plain_of_mem_charBytes quote backslash visible (b := b)
    generalize Utf8.charBytes c = octets at all enough ⊢
    induction octets generalizing fuel with
    | nil => exact ih fuel enough
    | cons b octets inner =>
      obtain ⟨fuel, rfl⟩ := exists_less enough
      obtain ⟨⟨quote, backslash, visible⟩, all⟩ := List.forall_mem_cons.1 all
      intro offset
      obtain ⟨stop, skips⟩ := inner fuel all (by simpa using enough) (offset + 1)
      refine ⟨stop, ?_⟩
      simp only [List.cons_append, skipTextOctets, if_neg quote, if_neg backslash, if_neg visible]
      exact skips
  | @letter c more mem _ ih =>
    obtain ⟨fuel, rfl⟩ := exists_less enough
    simp only [List.length_cons] at enough
    intro offset
    obtain ⟨stop, skips⟩ := ih fuel (by omega) (offset + 1 + 1)
    refine ⟨stop, ?_⟩
    simp only [List.cons_append, skipTextOctets, if_neg (show octet '\\' ≠ octet '"' by decide), if_true,
      skipEscape_letter mem]
    exact skips
  | @unicode h i j k more digits _ ih =>
    obtain ⟨fuel, rfl⟩ := exists_less enough
    simp only [List.length_cons] at enough
    obtain ⟨n, hex⟩ := exists_isHex4 digits
    intro offset
    obtain ⟨stop, skips⟩ := ih fuel (by omega) (offset + 1 + 1 + 4)
    refine ⟨stop, ?_⟩
    have escape := skipEscape_unicode hex (more ++ [octet '"'] ++ rest) (offset + 1)
    simp only [List.cons_append, List.nil_append] at escape
    simp only [List.cons_append, skipTextOctets, if_neg (show octet '\\' ≠ octet '"' by decide), if_true, escape]
    exact skips

theorem skipText_passes {content : Bytes} (inside : IsContent content) :
    Passes skipText (content ++ [octet '"']) rest := by
  intro offset
  have enough : content.length < (content ++ [octet '"'] ++ rest).length + 1 := by
    rw [List.length_append, List.length_append]
    omega
  exact skipTextOctets_content inside _ enough offset

/-! ## Values -/

/-- The text is passed over as a value, with any more fuel than it needs. -/
structure Skipped (text : Bytes) : Prop where
  starts : ∃ b more, text = b :: more ∧ StartsValue b
  passes : ∀ {fuel : Nat} {rest : Bytes}, text.length ≤ fuel → EndsNumber rest → Passes (skipValue fuel) text rest

/-- Blanks before a value do not matter. -/
theorem skipValue_blanks {before : Bytes} (blank : IsBlanks before) (fuel : Nat) (rest : Bytes) (offset : Nat) :
    skipValue (fuel + 1) ⟨before ++ rest, offset⟩ = skipValue (fuel + 1) ⟨rest, offset + before.length⟩ := by
  rw [skipValue, skipValue, blanks_append blank]

theorem skipValue_digit (fuel : Nat) {b : UInt8} (digit : isDigit b = true) (text : Bytes) (offset : Nat) :
    skipValue (fuel + 1) ⟨b :: text, offset⟩ = skipNumber ⟨b :: text, offset⟩ := by
  have other {c : Char} (letter : isDigit (octet c) = false) : b ≠ octet c := by
    rintro rfl
    rw [letter] at digit
    cases digit
  rw [skipValue, (startsValue_digit digit).blanks]
  simp only [if_neg (other (c := 'n') (by decide)), if_neg (other (c := 't') (by decide)),
    if_neg (other (c := 'f') (by decide)), if_neg (other (c := '-') (by decide)), if_pos digit]

/-- A word that is passed over wherever it stands. -/
theorem skipped_word {b : UInt8} {word : Bytes} (starts : StartsValue b)
    (skips : ∀ fuel rest offset, skipValue (fuel + 1) ⟨b :: word ++ rest, offset⟩ =
      .ok ⟨rest, offset + (b :: word).length⟩) : Skipped (b :: word) := by
  refine ⟨⟨b, word, rfl, starts⟩, fun enough _ offset => ?_⟩
  obtain ⟨fuel, rfl⟩ := exists_less enough
  exact ⟨_, skips fuel _ offset⟩

theorem skipped_number {text : Bytes} (magnitude : IsMagnitude text) : Skipped text := by
  obtain ⟨d, more, rfl, digit⟩ := exists_digit magnitude
  refine ⟨⟨d, more, rfl, startsValue_digit digit⟩, fun enough ends offset => ?_⟩
  obtain ⟨fuel, rfl⟩ := exists_less enough
  rw [List.cons_append, skipValue_digit _ digit]
  exact skipNumber_passes magnitude ends offset

theorem skipped_negative {text : Bytes} (magnitude : IsMagnitude text) : Skipped (octet '-' :: text) := by
  refine ⟨⟨_, text, rfl, by decide⟩, fun {fuel rest} enough ends offset => ?_⟩
  obtain ⟨fuel, rfl⟩ := exists_less enough
  have same : skipValue (fuel + 1) ⟨octet '-' :: (text ++ rest), offset⟩ = skipNumber ⟨text ++ rest, offset + 1⟩ := by
    rw [skipValue, StartsValue.blanks (by decide)]
    rfl
  rw [List.cons_append, same]
  exact skipNumber_passes magnitude ends (offset + 1)

theorem skipped_string {content : Bytes} (inside : IsContent content) :
    Skipped (octet '"' :: (content ++ [octet '"'])) := by
  refine ⟨⟨_, _, rfl, by decide⟩, fun {fuel rest} enough _ offset => ?_⟩
  obtain ⟨fuel, rfl⟩ := exists_less enough
  have same : skipValue (fuel + 1) ⟨octet '"' :: (content ++ [octet '"'] ++ rest), offset⟩ =
      skipText ⟨content ++ [octet '"'] ++ rest, offset + 1⟩ := by
    rw [skipValue, StartsValue.blanks (by decide)]
    rfl
  rw [List.cons_append, same]
  exact skipText_passes inside (offset + 1)

/-! ## Lists and objects -/

theorem Frame.close_eq (f : Frame) : f.close = octet ']' ∨ f.close = octet '}' := by
  cases f with
  | list => exact .inl rfl
  | object => exact .inr rfl

/-- An item of a list or a member of an object is passed over up to the blanks behind its value. -/
structure PartSkipped (f : Frame) (part : Bytes) : Prop where
  splits : ∃ before b more after, part = before ++ (b :: more ++ after) ∧ IsBlanks before ∧ IsBlanks after ∧
    isBlank b = false ∧ b ≠ f.close ∧ ∀ {fuel : Nat} {rest : Bytes}, part.length ≤ fuel → EndsNumber rest →
      Passes (fun c => f.lead c >>= skipValue fuel) (b :: more) rest

theorem PartSkipped.length_pos {f : Frame} {part : Bytes} (skipped : PartSkipped f part) : 0 < part.length := by
  obtain ⟨before, b, more, after, rfl, -⟩ := skipped.splits
  simp only [List.length_append, List.length_cons]
  omega

/-- Blanks before a part do not matter. -/
theorem lead_blanks (f : Frame) {before : Bytes} (blank : IsBlanks before) (fuel : Nat) (rest : Bytes) (offset : Nat) :
    (f.lead ⟨before ++ rest, offset⟩ >>= skipValue (fuel + 1)) =
      (f.lead ⟨rest, offset + before.length⟩ >>= skipValue (fuel + 1)) := by
  cases f with
  | list => exact skipValue_blanks blank fuel rest offset
  | object => rw [Frame.lead, Frame.lead, blanks_append blank]

theorem next_close (f : Frame) (first : Bool) {blanks : Bytes} (blank : IsBlanks blanks) (rest : Bytes) (offset : Nat) :
    f.next first ⟨blanks ++ f.close :: rest, offset⟩ = .ok (true, ⟨rest, offset + blanks.length + 1⟩) := by
  have visible : isBlank f.close = false := by
    rcases f.close_eq with same | same <;> rw [same] <;> decide
  rw [Frame.next, blanks_append blank]
  simp [Cursor.blanks, skipBlanks, visible]

theorem next_part (f : Frame) (first : Bool) {blanks before : Bytes} (blank : IsBlanks blanks)
    (blank_before : IsBlanks before) {b : UInt8} (visible : isBlank b = false) (other : b ≠ f.close) (text : Bytes)
    (offset : Nat) : ∃ left start, IsBlanks left ∧
      f.next first ⟨blanks ++ (comma first ++ (before ++ b :: text)), offset⟩ =
        .ok (false, ⟨left ++ b :: text, start⟩) := by
  cases first with
  | true =>
    refine ⟨[], offset + blanks.length + before.length, .nil, ?_⟩
    change f.next true ⟨blanks ++ (before ++ b :: text), offset⟩ = _
    rw [Frame.next, blanks_append blank, blanks_append blank_before]
    simp [Cursor.blanks, skipBlanks, visible, other]
  | false =>
    refine ⟨before, offset + blanks.length + 1, blank_before, ?_⟩
    change f.next false ⟨blanks ++ octet ',' :: (before ++ b :: text), offset⟩ = _
    have comma : octet ',' ≠ f.close := by
      rcases f.close_eq with same | same <;> rw [same] <;> decide
    rw [Frame.next, blanks_append blank, StartsValue.blanks (by decide)]
    simp only [if_neg comma, Bool.false_eq_true, if_false, if_true]

/-- A part is passed over in one step, up to the blanks behind it. -/
theorem skipInside_part (f : Frame) (first : Bool) {part : Bytes} (skipped : PartSkipped f part) {blanks : Bytes}
    (blank : IsBlanks blanks) {fuel : Nat} (enough : part.length ≤ fuel) {tail : Bytes}
    (ends : ∀ after, IsBlanks after → EndsNumber (after ++ tail)) (offset : Nat) :
    ∃ after stop, IsBlanks after ∧ skipInside f first (fuel + 1) ⟨blanks ++ (comma first ++ (part ++ tail)), offset⟩ =
      skipInside f false fuel ⟨after ++ tail, stop⟩ := by
  obtain ⟨less, rfl⟩ : ∃ less, fuel = less + 1 := exists_less (Nat.lt_of_lt_of_le skipped.length_pos enough)
  obtain ⟨before, b, more, after, same, blank_before, blank_after, visible, other, passes⟩ := skipped.splits
  have text : part ++ tail = before ++ b :: (more ++ (after ++ tail)) := by
    rw [same]
    simp only [List.append_assoc, List.cons_append]
  obtain ⟨left, start, blank_left, next⟩ :=
    next_part f first blank blank_before visible other (more ++ (after ++ tail)) offset
  obtain ⟨stop, value⟩ := passes enough (ends after blank_after) (start + left.length)
  have passed := (lead_blanks f blank_left less (b :: more ++ (after ++ tail)) start).trans value
  refine ⟨after, stop, blank_after, ?_⟩
  rw [text, skipInside, next]
  change (f.lead ⟨left ++ (b :: more ++ (after ++ tail)), start⟩ >>= fun c => skipValue (less + 1) c >>=
    skipInside f false (less + 1)) = _
  rw [← bind_assoc, passed]
  rfl

/-- The parts of a list or an object are passed over one by one. -/
theorem skipInside_passes (f : Frame) {parts : List Bytes} (each : ∀ part ∈ parts, PartSkipped f part) (first : Bool)
    {blanks rest : Bytes} (blank : IsBlanks blanks) {fuel : Nat} (enough : (following first parts).length < fuel) :
    Passes (skipInside f first fuel) (blanks ++ (following first parts ++ [f.close])) rest := by
  induction parts generalizing first blanks fuel with
  | nil =>
    intro offset
    obtain ⟨fuel, rfl⟩ := exists_less enough
    refine ⟨offset + blanks.length + 1, ?_⟩
    rw [following_nil, List.nil_append, List.append_assoc, skipInside, List.singleton_append, next_close f first blank]
    rfl
  | cons part parts ih =>
    intro offset
    obtain ⟨fuel, rfl⟩ := exists_less enough
    obtain ⟨one, others⟩ := List.forall_mem_cons.1 each
    have size := one.length_pos
    rw [following_cons, List.length_append, List.length_append] at enough
    have ends (after : Bytes) (blank_after : IsBlanks after) :=
      endsNumber_following blank_after parts f.close_eq rest
    obtain ⟨after, stop, blank_after, step⟩ :=
      skipInside_part f first one blank (show part.length ≤ fuel by omega) ends offset
    obtain ⟨final, done⟩ := ih others false blank_after (show _ < fuel by omega) stop
    refine ⟨final, ?_⟩
    rw [following_cons]
    simp only [List.append_assoc, List.singleton_append] at step done ⊢
    exact step.trans done

/-- A value is passed over with the blanks before it. -/
theorem Skipped.passes_padded {value : Bytes} (skipped : Skipped value) {before : Bytes} (blank : IsBlanks before)
    {fuel : Nat} (enough : value.length ≤ fuel) {rest : Bytes} (ends : EndsNumber rest) :
    Passes (skipValue fuel) (before ++ value) rest := by
  intro offset
  obtain ⟨b, more, start, -⟩ := skipped.starts
  obtain ⟨less, rfl⟩ : ∃ less, fuel = less + 1 := exists_less (n := 0) (by
    rw [start] at enough
    exact Nat.lt_of_lt_of_le (Nat.succ_pos _) enough)
  rw [List.append_assoc, skipValue_blanks blank]
  exact skipped.passes enough ends _

theorem partSkipped_item {p : Padded} (skipped : Skipped p.value) : PartSkipped .list p.text := by
  obtain ⟨b, more, start, visible, other⟩ := skipped.starts
  refine ⟨⟨p.before, b, more, p.after, by rw [Padded.text, start], p.blank_before, p.blank_after, visible, other, ?_⟩⟩
  intro fuel rest enough ends
  rw [← start]
  have size : p.value.length ≤ p.text.length := by
    simp only [Padded.text, List.length_append]
    omega
  exact skipped.passes (Nat.le_trans size enough) ends

theorem partSkipped_member {m : Member} (skipped : Skipped m.value.value) : PartSkipped .object m.text := by
  refine ⟨⟨m.before, octet '"', m.name ++ octet '"' :: (m.between ++ octet ':' :: (m.value.before ++ m.value.value)),
    m.value.after, ?_, m.blank_before, m.value.blank_after, by decide, by decide, ?_⟩⟩
  · rw [Member.text, Padded.text]
    simp only [List.append_assoc, List.cons_append]
  · intro fuel rest enough ends offset
    have size : m.value.value.length ≤ fuel := by
      simp only [Member.text, Padded.text, List.length_append, List.length_cons] at enough
      omega
    have content : Passes skipText (m.name ++ [octet '"'])
      (m.between ++ octet ':' :: (m.value.before ++ m.value.value ++ rest)) := skipText_passes m.content
    obtain ⟨named, name⟩ := content (offset + 1)
    obtain ⟨stop, value⟩ := skipped.passes_padded m.value.blank_before size ends (named + m.between.length + 1)
    refine ⟨stop, ?_⟩
    have lead : Frame.object.lead ⟨octet '"' :: (m.name ++ [octet '"'] ++ (m.between ++ octet ':' ::
        (m.value.before ++ m.value.value ++ rest))), offset⟩ =
          .ok ⟨m.value.before ++ m.value.value ++ rest, named + m.between.length + 1⟩ := by
      rw [Frame.lead, StartsValue.blanks (by decide)]
      change (skipText _ >>= readColon) = _
      rw [name]
      exact readColon_padded m.blank_between _ _
    simp only [List.append_assoc, List.cons_append, List.nil_append] at lead value ⊢
    rw [lead]
    exact value

theorem skipped_array {blanks : Bytes} (blank : IsBlanks blanks) {items : List Padded}
    (each : ∀ item ∈ items, Skipped item.value) : Skipped (bracketed blanks (items.map Padded.text)) := by
  refine ⟨⟨_, _, rfl, by decide⟩, fun {fuel rest} enough _ offset => ?_⟩
  rw [bracketed, List.length_cons] at enough
  obtain ⟨fuel, rfl⟩ := exists_less enough
  have parts : ∀ part ∈ items.map Padded.text, PartSkipped .list part :=
    List.forall_mem_map.2 fun item mem => partSkipped_item (each item mem)
  have enough : (following true (items.map Padded.text)).length < fuel := by
    simp only [List.length_append, List.length_singleton] at enough
    rw [following, if_pos rfl]
    omega
  rw [bracketed, List.cons_append, skipValue, StartsValue.blanks (by decide)]
  exact skipInside_passes .list parts true blank enough (offset + 1)

theorem skipped_object {blanks : Bytes} (blank : IsBlanks blanks) {members : List Member}
    (each : ∀ m ∈ members, Skipped m.value.value) : Skipped (braced blanks (members.map Member.text)) := by
  refine ⟨⟨_, _, rfl, by decide⟩, fun {fuel rest} enough _ offset => ?_⟩
  rw [braced, List.length_cons] at enough
  obtain ⟨fuel, rfl⟩ := exists_less enough
  have parts : ∀ part ∈ members.map Member.text, PartSkipped .object part :=
    List.forall_mem_map.2 fun m mem => partSkipped_member (each m mem)
  have enough : (following true (members.map Member.text)).length < fuel := by
    simp only [List.length_append, List.length_singleton] at enough
    rw [following, if_pos rfl]
    omega
  rw [braced, List.cons_append, skipValue, StartsValue.blanks (by decide)]
  exact skipInside_passes .object parts true blank enough (offset + 1)

/-! ## All values -/

/-- Every value of the grammar is passed over, whatever it is worth and however deep it is nested. -/
theorem skipped {depth : Nat} {text : Bytes} (value : IsValue depth text) : Skipped text := by
  induction value with
  | null => exact skipped_word (by decide) fun _ _ _ => rfl
  | true => exact skipped_word (by decide) fun _ _ _ => rfl
  | false => exact skipped_word (by decide) fun _ _ _ => rfl
  | number _ magnitude => exact skipped_number magnitude
  | negative _ magnitude => exact skipped_negative magnitude
  | string _ inside => exact skipped_string inside
  | array blank _ ih => exact skipped_array blank ih
  | object blank _ ih => exact skipped_object blank ih

/-- A number out of range and half a surrogate pair are passed over, and neither can be read. -/
example : (skipValue 40 (.ofBytes (Utf8.bytes "[-1e999, \"\\ud800\"]"))).isOk = true ∧
    (readTree (Utf8.bytes "-1e999")).2.isOk = false ∧ (readTree (Utf8.bytes "\"\\ud800\"")).2.isOk = false := by
  decide +kernel

end BusRelay.Json
