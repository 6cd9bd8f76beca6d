import BusRelay.Broker.LockToken
import BusRelay.Proofs.Url.Directory
/-!
# Lock tokens as words

However a token is written, its digits are 32 hexadecimal ones without capital letters (`parse?_canonical`),
and it is written out with nothing but these and hyphens (`text_word`).
-/

namespace BusRelay.LockToken

/-- The digits of a token that was read. -/
structure Canonical (token : LockToken) : Prop where
  length : token.digits.length = 32
  digits : ∀ d ∈ token.digits, isHexDigit d = true ∧ d.isUpper = false

theorem hexDigit_word {c : Char} (digit : isHexDigit c = true) : Url.isWordChar c = true := by
  have alphanumeric : c.isAlphanum = true := by
    simp only [isHexDigit, Bool.or_eq_true, Bool.and_eq_true, decide_eq_true_eq] at digit
    rcases digit with (digit | ⟨low, high⟩) | ⟨low, high⟩
    · simp [Char.isAlphanum, digit]
    · have lower : c.isLower = true := by
        change (decide ('a'.val ≤ c.val) && decide (c.val ≤ 'z'.val)) = true
        rw [Bool.and_eq_true, decide_eq_true_eq, decide_eq_true_eq]
        exact ⟨low, UInt32.le_trans high (by decide)⟩
      have letter : c.isAlpha = true := Bool.or_eq_true_iff.2 (.inr lower)
      simp [Char.isAlphanum, letter]
    · have upper : c.isUpper = true := by
        change decide ('A'.val ≤ c.val ∧ c.val ≤ 'Z'.val) = true
        rw [decide_eq_true_eq]
        exact ⟨low, UInt32.le_trans high (by decide)⟩
      have letter : c.isAlpha = true := Bool.or_eq_true_iff.2 (.inl upper)
      simp [Char.isAlphanum, letter]
  simp [Url.isWordChar, alphanumeric]

theorem hexDigit_toLower {c : Char} (digit : isHexDigit c = true) :
    isHexDigit c.toLower = true ∧ c.toLower.isUpper = false :=
  forall_ascii (p := fun c => isHexDigit c = true → isHexDigit c.toLower = true ∧ c.toLower.isUpper = false)
    (by decide +kernel) (Url.word_ascii (hexDigit_word digit)) digit

theorem ofDigits?_canonical {s : List Char} {token : LockToken} (read : ofDigits? s = some token) :
    token.Canonical := by
  unfold ofDigits? at read
  split at read
  · rename_i digits
    cases read
    refine ⟨by rw [List.length_map, digits.1], fun d mem => ?_⟩
    obtain ⟨c, among, rfl⟩ := List.mem_map.1 mem
    exact hexDigit_toLower (List.all_eq_true.1 digits.2 c among)
  · cases read

theorem ofGroups?_canonical {s : List Char} {token : LockToken} (read : ofGroups? s = some token) :
    token.Canonical := by
  unfold ofGroups? at read
  dsimp only at read
  split at read
  · exact ofDigits?_canonical read
  · cases read

theorem parse?_canonical {text : String} {token : LockToken} (read : parse? text = some token) :
    token.Canonical := by
  unfold parse? at read
  dsimp only at read
  split at read
  · exact ofDigits?_canonical read
  · split at read
    · exact ofGroups?_canonical read
    · split at read
      · exact ofGroups?_canonical read
      · split at read
        · exact ofGroups?_canonical read
        · cases read

/-- A token is written out as a word. -/
theorem text_word {token : LockToken} (canonical : token.Canonical) :
    ∀ c ∈ token.text.toList, Url.isWordChar c = true := by
  intro c mem
  have part : ∀ start count, c ∈ (token.digits.drop start).take count → Url.isWordChar c = true :=
    fun start count mem => hexDigit_word (canonical.digits c (List.mem_of_mem_drop (List.mem_of_mem_take mem))).1
  simp only [text, String.toList_ofList, List.mem_append, List.mem_cons] at mem
  rcases mem with (((mem | rfl | mem) | rfl | mem) | rfl | mem) | rfl | mem
  · exact part _ _ mem
  · rfl
  · exact part _ _ mem
  · rfl
  · exact part _ _ mem
  · rfl
  · exact part _ _ mem
  · rfl
  · exact part _ _ mem

/-- The text of a token has hyphens in it. -/
theorem text_ne_empty (token : LockToken) : token.text ≠ "" := by
  intro empty
  have chars := congrArg String.toList empty
  simp [text] at chars

end BusRelay.LockToken
