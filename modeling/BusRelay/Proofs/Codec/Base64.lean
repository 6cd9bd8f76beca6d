import BusRelay.Codec.Base64
import BusRelay.Proofs.Except
import BusRelay.Proofs.Text.Utf8
/-!
# Base64 is written and read one way

Reading gives back the octets that were written (`decode_encode`), and it accepts nothing but what writing
produces (`encode_of_decode`). So a text that is read has just one octet sequence, and no two octet sequences
share a text.
-/

namespace BusRelay.Base64

open Utf8 (Bytes)

/-! ## The alphabet -/

/-- The octet of the character of a value. -/
def letter (n : Nat) : UInt8 := (symbol n).toNat.toUInt8

theorem symbol_ascii {n : Nat} (small : n < 64) : (symbol n).toNat < 128 := by
  revert n
  decide

theorem value?_letter {n : Nat} (small : n < 64) : value? (letter n) = some n := by
  revert n
  decide

theorem letter_ne_pad {n : Nat} (small : n < 64) : letter n ≠ pad := by
  revert n
  decide

theorem letter_of_value? {b : UInt8} {n : Nat} (value : value? b = some n) : n < 64 ∧ letter n = b := by
  have all : ∀ k < 256, ∀ n ∈ value? (UInt8.ofNat k), n < 64 ∧ letter n = UInt8.ofNat k := by
    decide +kernel
  have here := all b.toNat b.toNat_lt
  rw [UInt8.ofNat_toNat] at here
  exact here n value

theorem ascii_encodeChars (bs : Bytes) : ∀ c ∈ encodeChars bs, c.toNat < 128 := by
  fun_induction encodeChars bs with
  | case1 => simp
  | case2 a n =>
    have := a.toNat_lt
    simp only [List.forall_mem_cons]
    exact ⟨symbol_ascii (by omega), symbol_ascii (by omega), by decide, by decide, nofun⟩
  | case3 a b n =>
    have := a.toNat_lt
    have := b.toNat_lt
    simp only [List.forall_mem_cons]
    exact ⟨symbol_ascii (by omega), symbol_ascii (by omega), symbol_ascii (by omega), by decide, nofun⟩
  | case4 a b c rest n ih =>
    have := a.toNat_lt
    have := b.toNat_lt
    have := c.toNat_lt
    simp only [List.forall_mem_cons]
    exact ⟨symbol_ascii (by omega), symbol_ascii (by omega), symbol_ascii (by omega), symbol_ascii (by omega),
      ih⟩

/-- The octets of the text of an octet sequence. -/
def encodeOctets (bs : Bytes) : Bytes := (encodeChars bs).map fun c => c.toNat.toUInt8

theorem bytes_encode (bs : Bytes) : Utf8.bytes (encode bs) = encodeOctets bs :=
  Utf8.bytes_ascii (ascii_encodeChars bs)

theorem toUInt8_eq {n : Nat} {b : UInt8} (same : n = b.toNat) : n.toUInt8 = b := by
  subst same
  exact UInt8.ofNat_toNat

theorem encodeOctets_length (bs : Bytes) : (encodeOctets bs).length % 4 = 0 := by
  unfold encodeOctets
  fun_induction encodeChars bs with
  | case4 a b c rest n ih =>
    rw [List.length_map] at ih
    simp only [List.map_cons, List.length_cons, List.length_map]
    omega
  | case1 | case2 | case3 => simp

/-! ## Reading what was written -/

theorem decodeGroup_letters {offset a b c d : Nat} (ha : a < 64) (hb : b < 64) (hc : c < 64) (hd : d < 64) :
    decodeGroup offset (letter a) (letter b) (letter c) (letter d) =
      .ok (threeOctets (((a * 64 + b) * 64 + c) * 64 + d)) := by
  simp only [decodeGroup, value?_letter, ha, hb, hc, hd]

theorem decodeTail_two {offset a b : Nat} (ha : a < 64) (hb : b < 64) (whole : b % 16 = 0) :
    decodeTail offset [letter a, letter b, pad, pad] = .ok [((a * 64 + b) / 16).toUInt8] := by
  have zero : (a * 64 + b) % 16 = 0 := by omega
  simp [decodeTail, readTail, letter_ne_pad, value?_letter, ha, hb, zero, bind, Except.bind, pure, Except.pure]

theorem decodeTail_three {offset a b c : Nat} (ha : a < 64) (hb : b < 64) (hc : c < 64) (whole : c % 4 = 0) :
    decodeTail offset [letter a, letter b, letter c, pad] =
      .ok [(((a * 64 + b) * 64 + c) / 1024).toUInt8, (((a * 64 + b) * 64 + c) / 4 % 256).toUInt8] := by
  have zero : ((a * 64 + b) * 64 + c) % 4 = 0 := by omega
  simp [decodeTail, readTail, letter_ne_pad, value?_letter, ha, hb, hc, zero, bind, Except.bind, pure, Except.pure]

theorem decodeTail_four {offset a b c d : Nat} (ha : a < 64) (hb : b < 64) (hc : c < 64) (hd : d < 64) :
    decodeTail offset [letter a, letter b, letter c, letter d] =
      .ok (threeOctets (((a * 64 + b) * 64 + c) * 64 + d)) := by
  simp [decodeTail, readTail, letter_ne_pad, value?_letter, ha, hb, hc, hd, bind, Except.bind, pure, Except.pure]

theorem threeOctets_toNat (a b c : UInt8) :
    threeOctets ((a.toNat * 256 + b.toNat) * 256 + c.toNat) = [a, b, c] := by
  have := a.toNat_lt
  have := b.toNat_lt
  have := c.toNat_lt
  rw [threeOctets, toUInt8_eq (b := a) (by omega), toUInt8_eq (b := b) (by omega), toUInt8_eq (b := c) (by omega)]

/-- A group of letters is read before whatever is read after it. -/
theorem decodeFrom_letters {offset a b c d : Nat} (ha : a < 64) (hb : b < 64) (hc : c < 64) (hd : d < 64)
    {more rest : Bytes} (read : decodeFrom (offset + 4) more = .ok rest) :
    decodeFrom offset (letter a :: letter b :: letter c :: letter d :: more) =
      .ok (threeOctets (((a * 64 + b) * 64 + c) * 64 + d) ++ rest) := by
  cases more with
  | nil =>
    cases read
    rw [List.append_nil]
    exact decodeTail_four ha hb hc hd
  | cons e more =>
    rw [decodeFrom, decodeGroup_letters ha hb hc hd, read]
    rfl

theorem decodeFrom_encodeOctets (bs : Bytes) (offset : Nat) : decodeFrom offset (encodeOctets bs) = .ok bs := by
  unfold encodeOctets
  fun_induction encodeChars bs generalizing offset with
  | case1 => rfl
  | case2 a n =>
    have := a.toNat_lt
    change decodeTail offset [letter (n / 64), letter (n % 64), pad, pad] = _
    rw [decodeTail_two (by omega) (by omega) (by omega), toUInt8_eq (b := a) (by omega)]
  | case3 a b n =>
    have := a.toNat_lt
    have := b.toNat_lt
    change decodeTail offset [letter (n / 4096), letter (n / 64 % 64), letter (n % 64), pad] = _
    rw [decodeTail_three (by omega) (by omega) (by omega) (by omega), toUInt8_eq (b := a) (by omega),
      toUInt8_eq (b := b) (by omega)]
  | case4 a b c rest n ih =>
    have := a.toNat_lt
    have := b.toNat_lt
    have := c.toNat_lt
    have whole : ((n / 262144 * 64 + n / 4096 % 64) * 64 + n / 64 % 64) * 64 + n % 64 = n := by omega
    have read := decodeFrom_letters (a := n / 262144) (b := n / 4096 % 64) (c := n / 64 % 64) (d := n % 64)
      (by omega) (by omega) (by omega) (by omega) (ih (offset + 4))
    rw [whole, threeOctets_toNat] at read
    exact read

/-- Reading gives back the octets that were written. -/
theorem decode_encode (bs : Bytes) : decode (Utf8.bytes (encode bs)) = .ok bs := by
  have length := encodeOctets_length bs
  have read := decodeFrom_encodeOctets bs 0
  rw [bytes_encode, decode]
  split
  · rw [if_neg (by omega), read]
  · rename_i empty
    rw [List.getLast?_eq_none_iff.1 empty] at read
    exact read

/-! ## Writing what was read -/

/-- After padding there is only more of it. -/
theorem readTail_padded {offset index first : Nat} {tail last : Tail} {group : Bytes}
    (padded : tail.firstPad = some first) (read : readTail offset index tail group = .ok last) :
    ∃ pads, group = List.replicate pads pad ∧ last.values = tail.values ∧ last.pads = tail.pads + pads := by
  induction group generalizing index tail with
  | nil =>
    cases read
    exact ⟨0, rfl, rfl, rfl⟩
  | cons b rest ih =>
    rw [readTail] at read
    split at read
    · rename_i same
      split at read
      · cases read
      · obtain ⟨pads, rfl, values, count⟩ := ih (by simp [padded]) read
        exact ⟨pads + 1, by rw [same]; rfl, values, count.trans (Nat.succ_add_eq_add_succ tail.pads pads)⟩
    · simp [padded] at read

/-- The last group has letters and then padding. -/
theorem readTail_ok {offset index : Nat} {tail last : Tail} {group : Bytes}
    (plain : tail.firstPad = none) (read : readTail offset index tail group = .ok last) :
    ∃ (values : List Nat) (pads : Nat), group = values.map letter ++ List.replicate pads pad ∧
      (∀ v ∈ values, v < 64) ∧ last.values = values.reverse ++ tail.values ∧
      last.pads = tail.pads + pads := by
  induction group generalizing index tail with
  | nil =>
    cases read
    exact ⟨[], 0, rfl, nofun, rfl, rfl⟩
  | cons b rest ih =>
    rw [readTail] at read
    split at read
    · rename_i same
      split at read
      · cases read
      · obtain ⟨pads, rfl, values, count⟩ := readTail_padded (by simp [plain]; rfl) read
        exact ⟨[], pads + 1, by rw [same]; rfl, nofun, values,
          count.trans (Nat.succ_add_eq_add_succ tail.pads pads)⟩
    · simp only [plain] at read
      split at read
      · contradiction
      · cases read
      · rename_i v _ value
        obtain ⟨small, rfl⟩ := letter_of_value? value
        obtain ⟨values, pads, rfl, all, total, count⟩ := ih rfl read
        refine ⟨v :: values, pads, rfl, ?_, ?_, count⟩
        · simpa [small] using all
        · simp [total]

theorem encodeOctets_one {a b : Nat} (ha : a < 64) (hb : b < 64) (zero : (a * 64 + b) % 16 = 0) :
    encodeOctets [((a * 64 + b) / 16).toUInt8] = [letter a, letter b, pad, pad] := by
  change [letter _, letter _, pad, pad] = _
  rw [Utf8.toNat_toUInt8 (by omega)]
  congr 3 <;> omega

theorem encodeOctets_two {a b c : Nat} (ha : a < 64) (hb : b < 64) (hc : c < 64)
    (zero : ((a * 64 + b) * 64 + c) % 4 = 0) :
    encodeOctets [(((a * 64 + b) * 64 + c) / 1024).toUInt8, (((a * 64 + b) * 64 + c) / 4 % 256).toUInt8] =
      [letter a, letter b, letter c, pad] := by
  change [letter _, letter _, letter _, pad] = _
  rw [Utf8.toNat_toUInt8 (by omega), Utf8.toNat_toUInt8 (by omega)]
  congr 4 <;> omega

theorem encodeOctets_three {a b c d : Nat} (ha : a < 64) (hb : b < 64) (hc : c < 64) (hd : d < 64) (rest : Bytes) :
    encodeOctets (threeOctets (((a * 64 + b) * 64 + c) * 64 + d) ++ rest) =
      letter a :: letter b :: letter c :: letter d :: encodeOctets rest := by
  change letter _ :: letter _ :: letter _ :: letter _ :: encodeOctets rest = _
  rw [Utf8.toNat_toUInt8 (by omega), Utf8.toNat_toUInt8 (by omega), Utf8.toNat_toUInt8 (by omega)]
  congr 5 <;> omega

/-- The last group is what its octets are written as. -/
theorem encodeOctets_of_decodeTail {offset : Nat} {group bs : Bytes} (short : group.length ≤ 4)
    (read : decodeTail offset group = .ok bs) : encodeOctets bs = group := by
  obtain ⟨tail, letters, written⟩ := bind_ok read
  obtain ⟨values, pads, rfl, small, total, count⟩ := readTail_ok rfl letters
  rw [List.append_nil] at total
  rw [Nat.zero_add] at count
  simp only [total, count, List.length_reverse, List.foldr_reverse] at written
  split at written
  · cases written
  rename_i filled
  split at written
  · cases written
  rename_i whole
  have whole : (pads + values.length) % 4 = 0 := not_not.1 whole
  rw [List.length_append, List.length_map, List.length_replicate] at short
  rcases values with _ | ⟨a, _ | ⟨b, _ | ⟨c, _ | ⟨d, more⟩⟩⟩⟩
  · have none : pads = 0 := by simpa using filled
    subst none
    cases written
    rfl
  · simp at filled
  · simp only [List.forall_mem_cons] at small
    simp only [List.length_cons, List.length_nil, List.foldl_cons, List.foldl_nil, Nat.zero_mul, Nat.zero_add]
      at short whole written
    obtain rfl : pads = 2 := by omega
    split at written
    · cases written
    · rename_i zero
      cases written
      exact encodeOctets_one small.1 small.2.1 (not_not.1 zero)
  · simp only [List.forall_mem_cons] at small
    simp only [List.length_cons, List.length_nil, List.foldl_cons, List.foldl_nil, Nat.zero_mul, Nat.zero_add]
      at short whole written
    obtain rfl : pads = 1 := by omega
    split at written
    · cases written
    · rename_i zero
      cases written
      exact encodeOctets_two small.1 small.2.1 small.2.2.1 (not_not.1 zero)
  · simp only [List.forall_mem_cons] at small
    simp only [List.length_cons] at short
    obtain rfl : pads = 0 := by omega
    obtain rfl : more = [] := List.eq_nil_of_length_eq_zero (by omega)
    simp only [List.length_cons, List.length_nil, List.foldl_cons, List.foldl_nil, Nat.zero_mul, Nat.zero_add]
      at written
    cases written
    exact encodeOctets_three small.1 small.2.1 small.2.2.1 small.2.2.2.1 []

/-- A group before the last one is what its octets are written as, before whatever is written after it. -/
theorem encodeOctets_of_decodeGroup {offset : Nat} {a b c d : UInt8} {group rest : Bytes}
    (read : decodeGroup offset a b c d = .ok group) :
    encodeOctets (group ++ rest) = a :: b :: c :: d :: encodeOctets rest := by
  rw [decodeGroup] at read
  split at read
  · cases read
  · cases read
  · cases read
  · cases read
  · rename_i va vb vc vd
    obtain ⟨ha, rfl⟩ := letter_of_value? va
    obtain ⟨hb, rfl⟩ := letter_of_value? vb
    obtain ⟨hc, rfl⟩ := letter_of_value? vc
    obtain ⟨hd, rfl⟩ := letter_of_value? vd
    cases read
    exact encodeOctets_three ha hb hc hd rest

theorem encodeOctets_of_decodeFrom {offset : Nat} {text bs : Bytes} (read : decodeFrom offset text = .ok bs) :
    encodeOctets bs = text := by
  fun_induction decodeFrom offset text generalizing bs with
  | case1 offset a b c d e rest ih =>
    obtain ⟨group, first, read⟩ := bind_ok read
    obtain ⟨others, more, read⟩ := bind_ok read
    cases read
    rw [encodeOctets_of_decodeGroup first, ih more]
  | case2 offset group last =>
    refine encodeOctets_of_decodeTail ?_ read
    rcases group with _ | ⟨a, _ | ⟨b, _ | ⟨c, _ | ⟨d, _ | ⟨e, rest⟩⟩⟩⟩⟩
    case cons.cons.cons.cons.cons => exact (last a b c d e rest rfl).elim
    all_goals simp

/-- What is read is what its octets are written as. -/
theorem encode_of_decode {text : String} {bs : Bytes} (read : decode (Utf8.bytes text) = .ok bs) :
    encode bs = text := by
  apply Utf8.bytes_injective
  rw [bytes_encode]
  rw [decode] at read
  split at read
  · split at read
    · cases read
    · exact encodeOctets_of_decodeFrom read
  · rename_i empty
    cases read
    rw [List.getLast?_eq_none_iff.1 empty]
    rfl

/-- Of a text that is read the octets are the only ones that it stands for. -/
theorem encode_eq_iff {text : String} {bs : Bytes} (read : decode (Utf8.bytes text) = .ok bs) (octets : Bytes) :
    encode octets = text ↔ octets = bs := by
  refine ⟨?_, ?_⟩
  · rintro rfl
    rw [decode_encode] at read
    exact Except.ok.inj read
  · rintro rfl
    exact encode_of_decode read

end BusRelay.Base64
