import BusRelay.Text.Fields
/-!
# Fields of texts that are put together

Cutting does not look across a separator: what stands before one is cut apart from what stands behind it
(`split_append`). What is put in front of a text belongs to its first field (`split_glue`).
-/

namespace BusRelay.Fields

variable {separator : Char}

/-- What stands before a separator is cut apart from what stands behind it. -/
theorem split_append (separator : Char) (front back : List Char) :
    split separator (front ++ separator :: back) = split separator front ++ split separator back := by
  induction front with
  | nil => simp [split]
  | cons c front ih =>
    rw [List.cons_append, split, split, ih]
    by_cases cuts : c = separator
    · rw [if_pos cuts, if_pos cuts, List.cons_append]
    · rw [if_neg cuts, if_neg cuts]
      -- There is always a first field to put the character on.
      cases fields : split separator front with
      | nil => exact absurd fields (split_ne_nil separator front)
      | cons field fields => rfl

/-- What is put in front of a text belongs to its first field. -/
theorem split_glue {front s field : List Char} {fields : List (List Char)} (whole : separator ∉ front)
    (cut : split separator s = field :: fields) :
    split separator (front ++ s) = (front ++ field) :: fields := by
  induction front with
  | nil => exact cut
  | cons c front ih =>
    have other : separator ≠ c := List.ne_of_not_mem_cons whole
    rw [List.cons_append, split, if_neg other.symm, ih (List.not_mem_of_not_mem_cons whole), List.cons_append]

theorem join_cons (separator : Char) (field : List Char) {fields : List (List Char)} (more : fields ≠ []) :
    join separator (field :: fields) = field ++ separator :: join separator fields := by
  cases fields with
  | nil => exact absurd rfl more
  | cons next fields => rfl

/-- Whatever is in a field is in the text that is put together from it. -/
theorem mem_join {fields : List (List Char)} {field : List Char} {c : Char} (among : field ∈ fields)
    (inside : c ∈ field) : c ∈ join separator fields := by
  induction fields with
  | nil => cases among
  | cons first fields ih =>
    by_cases more : fields = []
    · subst more
      obtain rfl := List.mem_singleton.1 among
      exact inside
    · rw [join_cons separator first more]
      rcases List.mem_cons.1 among with rfl | later
      · exact List.mem_append_left _ inside
      · exact List.mem_append_right _ (List.mem_cons_of_mem _ (ih later))

/-- Whatever is in a text is a separator or in a field. -/
theorem mem_of_mem_fields (separator : Char) {s : List Char} {c : Char} (mem : c ∈ s) :
    c = separator ∨ ∃ field ∈ split separator s, c ∈ field := by
  induction s with
  | nil => cases mem
  | cons a s ih =>
    rw [split]
    by_cases cuts : a = separator
    · rw [if_pos cuts]
      rcases List.mem_cons.1 mem with rfl | later
      · exact .inl cuts
      · rcases ih later with cut | ⟨field, among, inside⟩
        · exact .inl cut
        · exact .inr ⟨field, List.mem_cons_of_mem [] among, inside⟩
    · rw [if_neg cuts]
      obtain ⟨first, fields, cut⟩ := List.exists_cons_of_ne_nil (split_ne_nil separator s)
      rw [cut] at ih ⊢
      rcases List.mem_cons.1 mem with rfl | later
      · exact .inr ⟨c :: first, List.mem_cons_self, List.mem_cons_self⟩
      · rcases ih later with cut | ⟨field, among, inside⟩
        · exact .inl cut
        · rcases List.mem_cons.1 among with rfl | among
          · exact .inr ⟨a :: field, List.mem_cons_self, List.mem_cons_of_mem a inside⟩
          · exact .inr ⟨field, List.mem_cons_of_mem _ among, inside⟩

/-- No field has the separator in it. -/
theorem not_mem_of_mem_split {s field : List Char} (mem : field ∈ split separator s) : separator ∉ field := by
  induction s generalizing field with
  | nil =>
    obtain rfl := List.mem_singleton.1 mem
    exact List.not_mem_nil
  | cons c s ih =>
    rw [split] at mem
    by_cases cuts : c = separator
    · rw [if_pos cuts] at mem
      rcases List.mem_cons.1 mem with rfl | later
      · exact List.not_mem_nil
      · exact ih later
    · rw [if_neg cuts] at mem
      obtain ⟨first, fields, cut⟩ := List.exists_cons_of_ne_nil (split_ne_nil separator s)
      rw [cut] at ih mem
      rcases List.mem_cons.1 mem with rfl | later
      · intro inside
        rcases List.mem_cons.1 inside with same | inside
        · exact cuts same.symm
        · exact ih List.mem_cons_self inside
      · exact ih (List.mem_cons_of_mem first later)

theorem splitOnce_append {front : List Char} (whole : separator ∉ front) (back : List Char) :
    splitOnce separator (front ++ separator :: back) = some (front, back) := by
  induction front with
  | nil => simp [splitOnce]
  | cons c front ih =>
    have other : separator ≠ c := List.ne_of_not_mem_cons whole
    rw [List.cons_append, splitOnce, if_neg other.symm, ih (List.not_mem_of_not_mem_cons whole)]
    rfl

/-- A text is split once at its first separator. -/
theorem splitOnce_eq_some {s front back : List Char} : splitOnce separator s = some (front, back) ↔
    separator ∉ front ∧ s = front ++ separator :: back := by
  constructor
  · intro split
    induction s generalizing front with
    | nil => cases split
    | cons c s ih =>
      rw [splitOnce] at split
      split at split
      · rename_i same
        cases split
        exact ⟨List.not_mem_nil, by rw [same, List.nil_append]⟩
      · rename_i other
        obtain ⟨⟨field, rest⟩, later, made⟩ := Option.map_eq_some_iff.1 split
        cases made
        obtain ⟨whole, rfl⟩ := ih later
        refine ⟨?_, rfl⟩
        intro mem
        rcases List.mem_cons.1 mem with same | inside
        · exact other same.symm
        · exact whole inside
  · rintro ⟨whole, rfl⟩
    exact splitOnce_append whole back

theorem splitOnce_isSome {s : List Char} : (∃ parts, splitOnce separator s = some parts) ↔ separator ∈ s := by
  constructor
  · rintro ⟨⟨front, back⟩, split⟩
    obtain ⟨-, rfl⟩ := splitOnce_eq_some.1 split
    exact List.mem_append_right front List.mem_cons_self
  · intro mem
    obtain ⟨front, back, rfl, whole⟩ := List.eq_append_cons_of_mem mem
    exact ⟨_, splitOnce_append whole back⟩

end BusRelay.Fields
