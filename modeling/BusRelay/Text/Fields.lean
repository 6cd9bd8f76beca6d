/-!
# Separated fields

A text that is cut at every occurrence of a character, and put together again. Cutting never loses
anything (`join_split`), and fields without the separator come back as they were (`split_join`).
-/

namespace BusRelay.Fields

/-- The fields between separators; a text without separator is one field. -/
def split (separator : Char) : List Char → List (List Char)
  | [] => [[]]
  | c :: rest =>
    if c = separator then [] :: split separator rest
    else match split separator rest with
      | [] => [[c]]
      | field :: fields => (c :: field) :: fields

/-- Fields with the separator between them. -/
def join (separator : Char) : List (List Char) → List Char
  | [] => []
  | [field] => field
  | field :: fields => field ++ separator :: join separator fields

/-- What precedes the first separator, and what follows it. -/
def splitOnce (separator : Char) : List Char → Option (List Char × List Char)
  | [] => none
  | c :: rest =>
    if c = separator then some ([], rest)
    else (splitOnce separator rest).map fun (field, rest) => (c :: field, rest)

theorem split_ne_nil (separator : Char) (s : List Char) : split separator s ≠ [] := by
  cases s with
  | nil => simp [split]
  | cons c rest =>
    rw [split]
    split
    · simp
    · split <;> simp

theorem join_split (separator : Char) (s : List Char) : join separator (split separator s) = s := by
  induction s with
  | nil => rfl
  | cons c rest ih =>
    rw [split]
    split
    · next h =>
      cases hs : split separator rest with
      | nil => exact absurd hs (split_ne_nil _ _)
      | cons field fields => rw [hs] at ih; simp [join, ih, h]
    · split
      · next hs => exact absurd hs (split_ne_nil _ _)
      · next field fields hs =>
        rw [hs] at ih
        cases fields with
        | nil => simpa [join] using ih
        | cons f fs => simpa [join] using ih

theorem split_of_not_mem {separator : Char} {field : List Char} (h : separator ∉ field) :
    split separator field = [field] := by
  induction field with
  | nil => rfl
  | cons c rest ih =>
    simp only [List.mem_cons, not_or] at h
    rw [split, if_neg (Ne.symm h.1), ih h.2]

theorem split_append_cons {separator : Char} {field : List Char} (h : separator ∉ field)
    (rest : List Char) :
    split separator (field ++ separator :: rest) = field :: split separator rest := by
  induction field with
  | nil => simp [split]
  | cons c more ih =>
    simp only [List.mem_cons, not_or] at h
    rw [List.cons_append, split, if_neg (Ne.symm h.1), ih h.2]

theorem split_join {separator : Char} {fields : List (List Char)} (ne : fields ≠ [])
    (h : ∀ field ∈ fields, separator ∉ field) : split separator (join separator fields) = fields := by
  induction fields with
  | nil => exact absurd rfl ne
  | cons field rest ih =>
    cases rest with
    | nil => exact split_of_not_mem (h field (by simp))
    | cons next rest =>
      rw [join, split_append_cons (h field (by simp)), ih (by simp) fun f hf => h f (by simp [hf])]
      simp

end BusRelay.Fields
