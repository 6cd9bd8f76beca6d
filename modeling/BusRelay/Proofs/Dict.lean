import BusRelay.Dict
/-!
# Looking up entries

An ascending list has at most one entry of a name, so that looking it up finds whatever is in it
(`Ascending.get?_eq_some_iff`), and what is found under every name determines the whole dictionary
(`Dict.eq_of_get?`). Of several entries of a name the last one stays (`get?_sorted`), and entries that ascend
already stay as they are (`sorted_of_ascending`). Taking out a name leaves the entries of the others.
-/

namespace BusRelay

namespace Entries

variable {α : Type} {entries more : Entries α} {name : String} {value : α}

theorem get?_eq_none_iff : entries.get? name = none ↔ name ∉ entries.map Prod.fst := by
  induction entries with
  | nil => simp [get?]
  | cons entry rest ih =>
    obtain ⟨key, old⟩ := entry
    by_cases same : name = key <;> simp [get?, same, ih]

theorem mem_of_get? (found : entries.get? name = some value) : (name, value) ∈ entries := by
  induction entries with
  | nil => cases found
  | cons entry rest ih =>
    obtain ⟨key, old⟩ := entry
    rw [get?] at found
    split at found
    · cases found
      simp_all
    · exact List.mem_cons_of_mem _ (ih found)

/-- If no name is repeated, every entry is found. -/
theorem get?_of_mem (distinct : (entries.map Prod.fst).Nodup) (mem : (name, value) ∈ entries) :
    entries.get? name = some value := by
  induction entries with
  | nil => cases mem
  | cons entry rest ih =>
    obtain ⟨key, old⟩ := entry
    rw [List.map_cons, List.nodup_cons] at distinct
    rcases List.mem_cons.1 mem with same | later
    · cases same
      simp [get?]
    · have other : name ≠ key := fun same => distinct.1 (same ▸ List.mem_map.2 ⟨_, later, rfl⟩)
      rw [get?, if_neg other, ih distinct.2 later]

/-- The value of the last entry of this name. -/
def last? (name : String) : Entries α → Option α
  | [] => none
  | (key, value) :: rest => (last? name rest).or (if name = key then some value else none)

theorem last?_eq_none_iff : entries.last? name = none ↔ name ∉ entries.map Prod.fst := by
  induction entries with
  | nil => simp [last?]
  | cons entry rest ih =>
    obtain ⟨key, old⟩ := entry
    by_cases same : name = key <;> simp [last?, same, ih]

theorem mem_of_last? (found : entries.last? name = some value) : (name, value) ∈ entries := by
  induction entries with
  | nil => cases found
  | cons entry rest ih =>
    obtain ⟨key, old⟩ := entry
    rcases Option.or_eq_some_iff.1 found with later | ⟨-, here⟩
    · exact List.mem_cons_of_mem _ (ih later)
    · split at here
      · rename_i same
        cases here
        rw [same]
        exact List.mem_cons_self
      · cases here

/-- If a name has one value only, this is the last one. -/
theorem last?_of_unique (mem : (name, value) ∈ entries) (unique : ∀ other, (name, other) ∈ entries → other = value) :
    entries.last? name = some value := by
  cases found : entries.last? name with
  | none => exact absurd (List.mem_map_of_mem mem) (last?_eq_none_iff.1 found)
  | some other => rw [unique other (mem_of_last? found)]

/-- Among distinct names the last entry of a name is the only one. -/
theorem last?_eq_get? (distinct : (entries.map Prod.fst).Nodup) : entries.last? name = entries.get? name := by
  cases found : entries.last? name with
  | none => exact (get?_eq_none_iff.2 (last?_eq_none_iff.1 found)).symm
  | some value => exact (get?_of_mem distinct (mem_of_last? found)).symm

theorem last?_append : (entries ++ more).last? name = (more.last? name).or (entries.last? name) := by
  induction entries with
  | nil => simp [last?]
  | cons entry rest ih =>
    obtain ⟨key, old⟩ := entry
    rw [last?, ← Option.or_assoc, ← ih]
    rfl

theorem last?_map {β : Type} (f : α → β) (entries : Entries α) :
    last? name (entries.map fun entry => (entry.1, f entry.2)) = (entries.last? name).map f := by
  induction entries with
  | nil => rfl
  | cons entry rest ih =>
    obtain ⟨key, old⟩ := entry
    rw [List.map_cons, last?, last?, ih]
    cases last? name rest with
    | some later => rfl
    | none => by_cases same : name = key <;> simp [same]

/-- Leaving out names leaves the others. -/
theorem last?_filter (kept : String → Bool) :
    last? name (entries.filter fun entry => kept entry.1) = if kept name then entries.last? name else none := by
  induction entries with
  | nil => exact (ite_self none).symm
  | cons entry rest ih =>
    obtain ⟨key, old⟩ := entry
    rw [List.filter_cons]
    by_cases same : name = key
    · subst same
      cases left : kept name <;> simp [left, ih, last?]
    · cases kept key <;> simp [ih, last?, same]

/-- Of the entries that something is made of, none has this name if nothing is made of those that have it. -/
theorem last?_filterMap_eq_none {β : Type} {make : String → α → Option β} :
    last? name (entries.filterMap fun entry => (make entry.1 entry.2).map (entry.1, ·)) = none ↔
      ∀ value, (name, value) ∈ entries → make name value = none := by
  rw [last?_eq_none_iff, List.mem_map]
  constructor
  · intro missing value mem
    cases made : make name value with
    | none => rfl
    | some new => exact absurd ⟨(name, new), List.mem_filterMap.2 ⟨_, mem, by rw [made]; rfl⟩, rfl⟩ missing
  · rintro none ⟨⟨_, new⟩, kept, rfl⟩
    obtain ⟨⟨key, value⟩, mem, found⟩ := List.mem_filterMap.1 kept
    obtain ⟨_, made, same⟩ := Option.map_eq_some_iff.1 found
    cases same
    rw [none value mem] at made
    cases made

/-- Of the entries that something is made of, the last one of a name has nothing but others behind it. -/
theorem last?_filterMap {β : Type} {make : String → α → Option β} {new : β} :
    last? name (entries.filterMap fun entry => (make entry.1 entry.2).map (entry.1, ·)) = some new ↔
      ∃ before value after, entries = before ++ (name, value) :: after ∧ make name value = some new ∧
        ∀ later, (name, later) ∈ after → make name later = none := by
  induction entries with
  | nil => simp [last?]
  | cons entry rest ih =>
    obtain ⟨key, old⟩ := entry
    have step : last? name (((key, old) :: rest).filterMap fun entry => (make entry.1 entry.2).map (entry.1, ·)) =
        (last? name (rest.filterMap fun entry => (make entry.1 entry.2).map (entry.1, ·))).or
          (if name = key then make key old else none) := by
      rw [List.filterMap_cons]
      cases make key old with
      | none => simp
      | some new => rfl
    rw [step, Option.or_eq_some_iff, ih, last?_filterMap_eq_none]
    constructor
    · rintro (⟨before, value, after, rfl, made, others⟩ | ⟨others, here⟩)
      · exact ⟨(key, old) :: before, value, after, rfl, made, others⟩
      · split at here
        · rename_i same
          subst same
          exact ⟨[], old, rest, rfl, here, others⟩
        · cases here
    · rintro ⟨before, value, after, split, made, others⟩
      cases before with
      | nil =>
        cases split
        exact .inr ⟨others, by rw [if_pos rfl, made]⟩
      | cons first before =>
        cases split
        exact .inl ⟨before, value, after, rfl, made, others⟩

/-- The last one of a name stays. -/
theorem get?_foldl_insert : (more.foldl (fun acc entry => acc.insert entry.1 entry.2) entries).get? name =
    (more.last? name).or (entries.get? name) := by
  induction more generalizing entries with
  | nil => simp [last?]
  | cons entry rest ih =>
    obtain ⟨key, value⟩ := entry
    rw [List.foldl_cons, ih, get?_insert, last?]
    by_cases same : name = key <;> simp [same]

theorem get?_sorted : entries.sorted.get? name = entries.last? name := by
  rw [sorted, get?_foldl_insert]
  exact Option.or_none

/-! ## Ascending entries -/

theorem Ascending.nodup_names (ascending : entries.Ascending) : (entries.map Prod.fst).Nodup := by
  refine List.Pairwise.imp ?_ ascending
  rintro a _ less rfl
  exact String.lt_irrefl a less

theorem Ascending.get?_eq_some_iff (ascending : entries.Ascending) :
    entries.get? name = some value ↔ (name, value) ∈ entries :=
  ⟨mem_of_get?, get?_of_mem ascending.nodup_names⟩

/-- Ascending lists with the same entries are equal. -/
theorem Ascending.eq_of_get? (ascending : entries.Ascending) (ascending' : more.Ascending)
    (same : ∀ name, entries.get? name = more.get? name) : entries = more := by
  have perm : entries.Perm more := by
    have distinct {entries : Entries α} (ascending : entries.Ascending) : entries.Nodup :=
      List.Pairwise.of_map Prod.fst (fun _ _ other same => other (same ▸ rfl)) ascending.nodup_names
    refine (List.perm_ext_iff_of_nodup (distinct ascending) (distinct ascending')).2 ?_
    rintro ⟨name, value⟩
    rw [← ascending.get?_eq_some_iff, ← ascending'.get?_eq_some_iff, same]
  refine perm.eq_of_pairwise ?_ (List.pairwise_map.1 ascending) (List.pairwise_map.1 ascending')
  intro a b _ _ less greater
  exact absurd greater (String.lt_asymm less)

/-- A name that is greater than all others comes last. -/
theorem insert_last (last : ∀ key ∈ entries.map Prod.fst, key < name) :
    entries.insert name value = entries ++ [(name, value)] := by
  induction entries with
  | nil => rfl
  | cons entry rest ih =>
    obtain ⟨key, old⟩ := entry
    have less : key < name := last key (by simp)
    have other : name ≠ key := by
      rintro rfl
      exact String.lt_irrefl _ less
    rw [Entries.insert, if_neg other, if_neg (String.lt_asymm less), ih fun k mem => last k (by simp [mem])]
    rfl

/-- Entries that ascend stay as they are, whatever ascends before them. -/
theorem foldl_insert_of_ascending (ascending : (entries ++ more).Ascending) :
    more.foldl (fun acc entry => acc.insert entry.1 entry.2) entries = entries ++ more := by
  induction more generalizing entries with
  | nil => simp
  | cons entry rest ih =>
    have before : ∀ key ∈ entries.map Prod.fst, key < entry.1 := by
      rw [Ascending, List.map_append, List.pairwise_append] at ascending
      exact fun key mem => ascending.2.2 key mem entry.1 (by simp)
    rw [List.foldl_cons, insert_last before, ih (by rwa [List.append_assoc]), List.append_assoc]
    rfl

theorem ascending_sorted (entries : Entries α) : entries.sorted.Ascending := by
  have all (acc : Entries α) (ascending : acc.Ascending) :
      (entries.foldl (fun acc entry => acc.insert entry.1 entry.2) acc).Ascending := by
    induction entries generalizing acc with
    | nil => exact ascending
    | cons entry rest ih => exact ih _ ascending.insert
  exact all [] .nil

/-- Nothing in a sorted list is new. -/
theorem mem_of_mem_sorted {entry : String × α} (mem : entry ∈ entries.sorted) : entry ∈ entries :=
  mem_of_last? (get?_sorted.symm.trans ((ascending_sorted entries).get?_eq_some_iff.2 mem))

theorem sorted_of_ascending (ascending : entries.Ascending) : entries.sorted = entries :=
  show entries.foldl _ [] = [] ++ entries from foldl_insert_of_ascending ascending

end Entries

namespace Dict

variable {α : Type} {a b : Dict α} {entries : Entries α} {name : String}

/-- What is found under every name determines a dictionary. -/
theorem eq_of_get? (same : ∀ name, a.get? name = b.get? name) : a = b :=
  Dict.ext (a.ascending.eq_of_get? b.ascending same)

theorem entries_ofList : (ofList entries).entries = entries.sorted := by
  have all (d : Dict α) : (entries.foldl (fun d entry => d.insert entry.1 entry.2) d).entries =
      entries.foldl (fun acc entry => acc.insert entry.1 entry.2) d.entries := by
    induction entries generalizing d with
    | nil => rfl
    | cons entry rest ih => exact ih _
  exact all empty

/-- Just the names of the entries are found. -/
theorem mem_names_ofList : name ∈ (ofList entries).entries.map Prod.fst ↔ name ∈ entries.map Prod.fst := by
  have all (acc : Entries α) :
      name ∈ (entries.foldl (fun acc entry => acc.insert entry.1 entry.2) acc).map Prod.fst ↔
      name ∈ acc.map Prod.fst ∨ name ∈ entries.map Prod.fst := by
    induction entries generalizing acc with
    | nil => simp
    | cons entry rest ih =>
      rw [List.foldl_cons, ih, Entries.mem_names_insert]
      simp only [List.map_cons, List.mem_cons, or_assoc, or_left_comm]
  rw [entries_ofList, Entries.sorted, all]
  simp

theorem get?_ofList : (ofList entries).get? name = entries.last? name := by
  rw [get?, entries_ofList, Entries.get?_sorted]

theorem isEmpty_ofList : (ofList entries).isEmpty = true ↔ entries = [] := by
  have names : (ofList entries).entries.map Prod.fst = [] ↔ entries.map Prod.fst = [] := by
    simp only [List.eq_nil_iff_forall_not_mem, mem_names_ofList]
  simpa [isEmpty] using names

/-! ## Taking out names -/

/-- Taking out a name that is not there changes nothing. -/
theorem erase_of_not_contains (missing : a.contains name = false) : a.erase name = a := by
  apply eq_of_get?
  intro key
  rw [get?_erase]
  split
  · rename_i same
    rw [same]
    exact (Option.isNone_iff_eq_none.1 (Option.isSome_eq_false_iff.1 missing)).symm
  · rfl

theorem contains_erase : (a.erase name).contains name = false := by
  rw [contains, get?_erase, if_pos rfl]
  rfl

/-- Nothing is left if this name was the only one, or if there was none. -/
theorem isEmpty_erase : (a.erase name).isEmpty = true ↔ ∀ key ∈ a.entries.map Prod.fst, key = name := by
  show (a.entries.filter fun entry => decide (entry.1 ≠ name)).isEmpty = true ↔ _
  rw [List.isEmpty_iff, List.filter_eq_nil_iff, List.forall_mem_map]
  simp

end Dict

end BusRelay
