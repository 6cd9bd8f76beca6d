/-!
# Characters of ASCII

What is checked for the 128 characters of ASCII one by one holds of all of them (`forall_ascii`). Letter case
only changes capital letters.
-/

namespace BusRelay

/-- What is checked number by number holds of every character of ASCII. -/
theorem forall_ascii {p : Char → Prop} (all : ∀ n < 128, p (Char.ofNat n)) {c : Char} (ascii : c.toNat < 128) :
    p c := by
  have here := all c.toNat ascii
  rwa [Char.ofNat_toNat] at here

/-- No other characters than capital letters have another form. -/
theorem toLower_outside {c : Char} (outside : c.toNat < 65 ∨ 90 < c.toNat) : c.toLower = c := by
  unfold Char.toLower
  refine dif_neg fun upper => ?_
  have low : 65 ≤ c.toNat := upper.1
  have high : c.toNat ≤ 90 := upper.2
  omega

theorem bounds_of_isLower {c : Char} (small : c.isLower = true) : 97 ≤ c.toNat ∧ c.toNat ≤ 122 := by
  have ⟨low, high⟩ := Bool.and_eq_true_iff.1 small
  exact ⟨of_decide_eq_true low, of_decide_eq_true high⟩

theorem bounds_of_isDigit {c : Char} (digit : c.isDigit = true) : 48 ≤ c.toNat ∧ c.toNat ≤ 57 := by
  have ⟨low, high⟩ := Bool.and_eq_true_iff.1 digit
  exact ⟨of_decide_eq_true low, of_decide_eq_true high⟩

theorem isAlpha_of_isLower {c : Char} (small : c.isLower = true) : c.isAlpha = true :=
  Bool.or_eq_true_iff.2 (.inr small)

theorem ascii_of_isAlpha {c : Char} (letter : c.isAlpha = true) : c.toNat < 128 := by
  rcases Bool.or_eq_true_iff.1 letter with capital | small
  · have high : c.toNat ≤ 90 := (of_decide_eq_true capital).2
    omega
  · have := bounds_of_isLower small
    omega

end BusRelay
