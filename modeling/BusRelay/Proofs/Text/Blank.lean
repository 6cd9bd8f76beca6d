import BusRelay.Proofs.List
import BusRelay.Text.Blank
import Mathlib.Data.List.TakeWhile
/-!
# Trimmed texts

Trimming leaves every character that is not blank (`mem_trim_iff`), and nothing if there is none
(`trim_ne_nil_iff`). Behind a character that is not blank only the end is trimmed (`trim_cons`). White space that is
put around a text is taken off again (`trim_around`).
-/

namespace BusRelay.Blank

/-- Nothing is taken off behind a character that is no blank but what is behind it. -/
theorem trimEnd_append {c : Char} (solid : isBlank c = false) (front back : List Char) :
    trimEnd (front ++ c :: back) = front ++ c :: trimEnd back := by
  unfold trimEnd
  rw [List.reverse_append, List.reverse_cons, List.append_assoc, List.singleton_append,
    dropWhile_stop isBlank solid, List.reverse_append, List.reverse_cons, List.reverse_reverse,
    List.append_assoc, List.singleton_append]

theorem trimStart_cons {c : Char} (solid : isBlank c = false) (s : List Char) : trimStart (c :: s) = c :: s := by
  unfold trimStart
  rw [List.dropWhile_cons_of_neg]
  rw [solid]
  exact Bool.false_ne_true

theorem trim_cons {c : Char} (solid : isBlank c = false) (s : List Char) : trim (c :: s) = c :: trimEnd s := by
  unfold trim
  rw [trimStart_cons solid]
  exact trimEnd_append solid [] s

section

variable {s : List Char} {c : Char}

theorem mem_dropWhile_iff (solid : isBlank c = false) : c ∈ s.dropWhile isBlank ↔ c ∈ s := by
  constructor
  · intro mem
    exact (List.dropWhile_sublist isBlank).subset mem
  · intro mem
    rw [← List.takeWhile_append_dropWhile (p := isBlank) (l := s)] at mem
    rcases List.mem_append.1 mem with before | after
    · rw [List.mem_takeWhile_imp before] at solid
      cases solid
    · exact after

/-- Trimming leaves every character that is not blank. -/
theorem mem_trim_iff (solid : isBlank c = false) : c ∈ trim s ↔ c ∈ s := by
  rw [trim, trimEnd, List.mem_reverse, mem_dropWhile_iff solid, List.mem_reverse, trimStart, mem_dropWhile_iff solid]

theorem trim_ne_nil_iff : trim s ≠ [] ↔ ∃ c ∈ s, isBlank c = false := by
  constructor
  · intro more
    rw [trim, trimEnd, ne_eq, List.reverse_eq_nil_iff, List.dropWhile_eq_nil_iff] at more
    simp only [not_forall, Bool.not_eq_true] at more
    obtain ⟨c, mem, solid⟩ := more
    exact ⟨c, (mem_dropWhile_iff solid).1 (List.mem_reverse.1 mem), solid⟩
  · rintro ⟨c, mem, solid⟩
    exact List.ne_nil_of_mem ((mem_trim_iff solid).2 mem)

/-! ## White space around a text -/

variable {front back : List Char}

/-- White space in front of a text is taken off. -/
theorem trimStart_blank (blank : ∀ c ∈ front, isBlank c = true) (s : List Char) :
    trimStart (front ++ s) = trimStart s :=
  List.dropWhile_append_of_pos blank

theorem trimEnd_blank (blank : ∀ c ∈ back, isBlank c = true) (s : List Char) : trimEnd (s ++ back) = trimEnd s := by
  unfold trimEnd
  rw [List.reverse_append, List.dropWhile_append_of_pos]
  intro c mem
  exact blank c (List.mem_reverse.1 mem)

/-- A text that does not end in white space stays as it is at the end. -/
theorem trimEnd_eq (closed : ∀ c ∈ s.getLast?, isBlank c = false) : trimEnd s = s := by
  rcases List.eq_nil_or_concat s with rfl | ⟨body, c, rfl⟩
  · rfl
  · rw [List.concat_eq_append] at closed ⊢
    exact trimEnd_append (closed c List.getLast?_concat) body []

/-- White space that is put around a text is taken off again. -/
theorem trim_around (before : ∀ c ∈ front, isBlank c = true) (after : ∀ c ∈ back, isBlank c = true)
    (solid : ∀ c ∈ s.head?, isBlank c = false) (more : s ≠ []) : trim (front ++ (s ++ back)) = trim s := by
  obtain ⟨c, rest, rfl⟩ := List.exists_cons_of_ne_nil more
  have first := solid c rfl
  unfold trim
  rw [trimStart_blank before, List.cons_append, trimStart_cons first, trimStart_cons first, ← List.cons_append,
    trimEnd_blank after]

/-- Nothing is left of white space. -/
theorem trim_blank (blank : ∀ c ∈ s, isBlank c = true) : trim s = [] := by
  by_contra more
  obtain ⟨c, mem, solid⟩ := trim_ne_nil_iff.1 more
  rw [blank c mem] at solid
  cases solid

end

end BusRelay.Blank
