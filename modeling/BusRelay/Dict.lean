/-!
# Dictionaries

Entries by name, in ascending order of their names and each name once. Names are compared character
by character by code point, which is also the order of their UTF-8 octets. `insert` puts an entry in
its place or replaces the one of that name (`get?_insert`).
-/

namespace BusRelay

/-- A list of entries by name. -/
abbrev Entries (α : Type) := List (String × α)

namespace Entries

variable {α : Type}

/-- Puts an entry before the first greater name, or replaces the value of an equal one. -/
def insert (name : String) (value : α) : Entries α → Entries α
  | [] => [(name, value)]
  | (key, old) :: rest =>
    if name = key then (name, value) :: rest
    else if name < key then (name, value) :: (key, old) :: rest
    else (key, old) :: insert name value rest

/-- The value of the first entry of this name. -/
def get? (name : String) : Entries α → Option α
  | [] => none
  | (key, value) :: rest => if name = key then some value else get? name rest

/-- Takes entries one after the other, so that the last one of a name stays. -/
def sorted (entries : Entries α) : Entries α :=
  entries.foldl (fun acc (name, value) => insert name value acc) []

/-- The names ascend, so none is repeated. -/
def Ascending (entries : Entries α) : Prop := (entries.map Prod.fst).Pairwise (· < ·)

theorem mem_names_insert {name key : String} {value : α} {entries : Entries α} :
    key ∈ (insert name value entries).map Prod.fst ↔ key = name ∨ key ∈ entries.map Prod.fst := by
  induction entries with
  | nil => simp [insert]
  | cons entry rest ih =>
    obtain ⟨k, old⟩ := entry
    by_cases h : name = k
    · simp [insert, h]
    · by_cases lt : name < k
      · simp [insert, h, lt]
      · simp only [insert, h, lt, if_false, List.map_cons, List.mem_cons, ih]
        grind

theorem Ascending.insert {name : String} {value : α} {entries : Entries α}
    (ascending : entries.Ascending) : (entries.insert name value).Ascending := by
  induction entries with
  | nil => simp [Entries.insert, Ascending]
  | cons entry rest ih =>
    obtain ⟨key, old⟩ := entry
    simp only [Ascending, List.map_cons, List.pairwise_cons] at ascending
    obtain ⟨first, tail⟩ := ascending
    by_cases h : name = key
    · subst h
      simp only [Entries.insert, if_true, Ascending, List.map_cons, List.pairwise_cons]
      exact ⟨first, tail⟩
    · by_cases lt : name < key
      · simp only [Entries.insert, h, lt, if_true, if_false, Ascending, List.map_cons,
          List.pairwise_cons, List.mem_cons]
        exact ⟨fun k hk => hk.elim (· ▸ lt) fun hk => String.lt_trans lt (first k hk), first, tail⟩
      · have gt : key < name := by
          rcases String.le_total name key with le | le
          · exact absurd (String.le_antisymm le (String.not_lt.1 lt)) h
          · exact String.not_le.1 fun le' => h (String.le_antisymm le' le)
        simp only [Entries.insert, h, lt, if_false, Ascending, List.map_cons, List.pairwise_cons]
        refine ⟨fun k hk => ?_, ih tail⟩
        rcases mem_names_insert.1 hk with rfl | hk
        · exact gt
        · exact first k hk

theorem get?_insert {name key : String} {value : α} {entries : Entries α} :
    (entries.insert name value).get? key = if key = name then some value else entries.get? key := by
  induction entries with
  | nil => simp [Entries.insert, get?]
  | cons entry rest ih =>
    obtain ⟨k, old⟩ := entry
    by_cases h : name = k
    · simp only [Entries.insert, h, if_true, get?]
      grind
    · by_cases lt : name < k
      · simp [Entries.insert, h, lt, get?]
      · simp only [Entries.insert, h, lt, if_false, get?, ih]
        grind

/-- Takes out the entries of a name. -/
def erase (name : String) (entries : Entries α) : Entries α :=
  entries.filter fun entry => entry.1 ≠ name

theorem get?_erase {name key : String} {entries : Entries α} :
    (entries.erase name).get? key = if key = name then none else entries.get? key := by
  induction entries with
  | nil => simp [erase, get?]
  | cons entry rest ih =>
    obtain ⟨k, old⟩ := entry
    unfold erase at ih ⊢
    by_cases h : k = name
    · rw [List.filter_cons_of_neg (by simp [h]), ih]
      grind [get?]
    · rw [List.filter_cons_of_pos (by simp [h]), get?, get?, ih]
      grind

theorem Ascending.erase {name : String} {entries : Entries α} (ascending : entries.Ascending) :
    (entries.erase name).Ascending :=
  List.Pairwise.sublist (List.Sublist.map _ List.filter_sublist) ascending

end Entries

/-- Entries by name, ascending. -/
structure Dict (α : Type) where
  entries : Entries α
  ascending : entries.Ascending

namespace Dict

variable {α : Type}

def empty : Dict α := ⟨[], .nil⟩

instance : EmptyCollection (Dict α) := ⟨empty⟩

instance : Inhabited (Dict α) := ⟨empty⟩

instance [DecidableEq α] : DecidableEq (Dict α) := fun a b =>
  decidable_of_iff (a.entries = b.entries) ⟨fun h => by cases a; cases b; simp_all, fun h => h ▸ rfl⟩

@[ext] theorem ext {a b : Dict α} (h : a.entries = b.entries) : a = b := by
  cases a; cases b; simp_all

def insert (d : Dict α) (name : String) (value : α) : Dict α :=
  ⟨d.entries.insert name value, d.ascending.insert⟩

def erase (d : Dict α) (name : String) : Dict α :=
  ⟨d.entries.erase name, d.ascending.erase⟩

def get? (d : Dict α) (name : String) : Option α := d.entries.get? name

def contains (d : Dict α) (name : String) : Bool := (d.get? name).isSome

def isEmpty (d : Dict α) : Bool := d.entries.isEmpty

/-- Inserts entries one after the other, so that the last one of a name stays. -/
def ofList (entries : Entries α) : Dict α :=
  entries.foldl (fun d (name, value) => d.insert name value) empty

@[simp] theorem get?_insert (d : Dict α) (name key : String) (value : α) :
    (d.insert name value).get? key = if key = name then some value else d.get? key :=
  Entries.get?_insert

@[simp] theorem get?_erase (d : Dict α) (name key : String) :
    (d.erase name).get? key = if key = name then none else d.get? key :=
  Entries.get?_erase

@[simp] theorem get?_empty (key : String) : (empty : Dict α).get? key = none := rfl

end Dict

end BusRelay
