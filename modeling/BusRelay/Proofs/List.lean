import Mathlib.Data.List.Forall2
/-!
# Lists, item by item

What goes together with the items of a list, one by one (`List.Forall₂`), lists up to an item that stops them,
and lists of which every item has to be there.
-/

namespace BusRelay

/-- What is checked item by item holds of all items. Of characters `decide` would check all there are, in the
list or not. -/
theorem forall_mem_of_all {α : Type} {p : α → Prop} [DecidablePred p] {as : List α}
    (all : as.all (fun a => decide (p a)) = true) : ∀ a ∈ as, p a := by
  intro a mem
  exact of_decide_eq_true (List.all_eq_true.1 all a mem)

/-- A list whose items pass wherever those of another do has no fewer that pass. -/
theorem length_filter_le_of_items {α : Type} {p : α → Bool} {as bs : List α}
    (kept : ∀ (i : Nat) a, as[i]? = some a → p a = true → ∃ b, bs[i]? = some b ∧ p b = true) :
    (as.filter p).length ≤ (bs.filter p).length := by
  induction as generalizing bs with
  | nil => exact Nat.zero_le _
  | cons a as ih =>
    cases bs with
    | nil =>
      have none : (a :: as).filter p = [] := by
        refine List.filter_eq_nil_iff.2 fun x mem passes => ?_
        obtain ⟨i, found⟩ := List.mem_iff_getElem?.1 mem
        obtain ⟨b, missing, -⟩ := kept i x found passes
        cases missing
      rw [none]
      exact Nat.zero_le _
    | cons b bs =>
      have rest : (as.filter p).length ≤ (bs.filter p).length :=
        ih fun i x found passes => kept (i + 1) x found passes
      rw [List.filter_cons, List.filter_cons]
      cases first : p a with
      | true =>
        obtain ⟨b', same, passes⟩ := kept 0 a rfl first
        obtain rfl : b = b' := Option.some.inj same
        rw [passes]
        exact Nat.succ_le_succ rest
      | false =>
        refine Nat.le_trans rest ?_
        split
        · exact Nat.le_succ _
        · exact Nat.le_refl _

/-! ## Lists up to a stop -/

section

variable {α : Type} (p : α → Bool) {stop : α}

theorem takeWhile_stop (stops : p stop = false) (front back : List α) :
    (front ++ stop :: back).takeWhile p = front.takeWhile p := by
  induction front with
  | nil => exact List.takeWhile_cons_of_neg (by rw [stops]; exact Bool.false_ne_true)
  | cons a front ih =>
    rw [List.cons_append, List.takeWhile_cons, List.takeWhile_cons, ih]

theorem dropWhile_stop (stops : p stop = false) (front back : List α) :
    (front ++ stop :: back).dropWhile p = front.dropWhile p ++ stop :: back := by
  induction front with
  | nil => exact List.dropWhile_cons_of_neg (by rw [stops]; exact Bool.false_ne_true)
  | cons a front ih =>
    rw [List.cons_append, List.dropWhile_cons, List.dropWhile_cons, ih]
    split <;> rfl

variable {front back : List α} (all : ∀ a ∈ front, p a = true) (stops : ∀ a ∈ back.head?, p a = false)

include all stops

/-- A run that is followed by none of its kind is what is taken. -/
theorem takeWhile_run : (front ++ back).takeWhile p = front := by
  rw [List.takeWhile_append_of_pos all]
  cases back with
  | nil => exact List.append_nil front
  | cons stop back =>
    rw [List.takeWhile_cons_of_neg (by rw [stops stop rfl]; exact Bool.false_ne_true), List.append_nil]

theorem dropWhile_run : (front ++ back).dropWhile p = back := by
  rw [List.dropWhile_append_of_pos all]
  cases back with
  | nil => rfl
  | cons stop back => exact List.dropWhile_cons_of_neg (by rw [stops stop rfl]; exact Bool.false_ne_true)

end

variable {α β γ : Type} {R : α → β → Prop} {S : β → γ → Prop} {as : List α} {bs : List β} {cs : List γ}

/-- If something goes with each item, some list goes with all of them. -/
theorem exists_forall₂ (each : ∀ a ∈ as, ∃ b, R a b) : ∃ bs, List.Forall₂ R as bs := by
  induction as with
  | nil => exact ⟨[], .nil⟩
  | cons a as ih =>
    obtain ⟨⟨b, one⟩, each⟩ := List.forall_mem_cons.1 each
    obtain ⟨bs, others⟩ := ih each
    exact ⟨b :: bs, .cons one others⟩

theorem exists_of_forall₂ (each : List.Forall₂ R as bs) {a : α} (mem : a ∈ as) : ∃ b ∈ bs, R a b := by
  induction each with
  | nil => cases mem
  | cons one others ih =>
    rcases List.mem_cons.1 mem with rfl | mem
    · exact ⟨_, List.mem_cons_self, one⟩
    · obtain ⟨b, mem, r⟩ := ih mem
      exact ⟨b, List.mem_cons_of_mem _ mem, r⟩

/-- What goes with one list goes with another in its place. -/
theorem forall₂_congr {T : α → γ → Prop} (pairs : List.Forall₂ R as bs)
    (same : ∀ a b c, R a b → (T a c ↔ S b c)) : List.Forall₂ T as cs ↔ List.Forall₂ S bs cs := by
  induction pairs generalizing cs with
  | nil => exact ⟨by rintro ⟨⟩; exact .nil, by rintro ⟨⟩; exact .nil⟩
  | cons one others ih =>
    cases cs with
    | nil => exact ⟨nofun, nofun⟩
    | cons c cs => rw [List.forall₂_cons, List.forall₂_cons, same _ _ c one, ih]

/-- What is made in two steps, one by one, is made one by one in each of them. -/
theorem forall₂_comp : (∃ bs, List.Forall₂ R as bs ∧ List.Forall₂ S bs cs) ↔
    List.Forall₂ (fun a c => ∃ b, R a b ∧ S b c) as cs := by
  constructor
  · rintro ⟨bs, first, second⟩
    induction first generalizing cs with
    | nil =>
      cases second
      exact .nil
    | cons one _ ih =>
      cases second with
      | cons other others => exact .cons ⟨_, one, other⟩ (ih others)
  · intro both
    induction both with
    | nil => exact ⟨[], .nil, .nil⟩
    | cons one _ ih =>
      obtain ⟨b, first, second⟩ := one
      obtain ⟨bs, firsts, seconds⟩ := ih
      exact ⟨b :: bs, .cons first firsts, .cons second seconds⟩

/-- What is the same of each pair is the same of both lists. -/
theorem map_eq_of_forall₂ {f : α → γ} {g : β → γ} (pairs : List.Forall₂ R as bs) (same : ∀ a b, R a b → f a = g b) :
    as.map f = bs.map g := by
  induction pairs with
  | nil => rfl
  | cons one _ ih => rw [List.map_cons, List.map_cons, same _ _ one, ih]

theorem flatten_of_singletons {lists : List (List α)} (each : List.Forall₂ (fun a list => [a] = list) as lists) :
    lists.flatten = as := by
  induction each with
  | nil => rfl
  | cons one _ ih =>
    subst one
    rw [List.flatten_cons, ih]
    rfl

/-! ## Items that may be missing -/

theorem rel_none_iff {b? : Option β} : Option.Rel R none b? ↔ b? = none := by
  cases b? with
  | none => exact ⟨fun _ => rfl, fun _ => .none⟩
  | some b => exact ⟨nofun, nofun⟩

theorem map_eq_of_rel {f : α → γ} {g : β → γ} {a? : Option α} {b? : Option β} (rel : Option.Rel R a? b?)
    (same : ∀ a b, R a b → f a = g b) : a?.map f = b?.map g := by
  cases rel with
  | none => rfl
  | some r => exact congrArg some (same _ _ r)

/-- If only one thing goes with each, only one goes with what may be missing. -/
theorem eq_iff_of_rel (unique : Relator.RightUnique R) {a? : Option α} {b? : Option β} (rel : Option.Rel R a? b?)
    {other? : Option β} : b? = other? ↔ Option.Rel R a? other? := by
  constructor
  · rintro rfl
    exact rel
  · intro rel'
    cases rel with
    | none =>
      cases rel'
      rfl
    | some r =>
      cases rel' with
      | some r' => rw [unique r r']

theorem mapM_some (a : α) (as : List (Option α)) : (some a :: as).mapM id = (as.mapM id).map (a :: ·) := by
  rw [List.mapM_cons]
  cases as.mapM id <;> rfl

theorem mapM_none (as : List (Option α)) : (none :: as).mapM id = none := by
  rw [List.mapM_cons]
  rfl

/-- Something is made of all items just if it is made of each. -/
theorem mapM_eq_some {f : α → Option β} :
    as.mapM f = some bs ↔ List.Forall₂ (fun a b => f a = some b) as bs := by
  induction as generalizing bs with
  | nil =>
    rw [List.forall₂_nil_left_iff, List.mapM_nil]
    exact ⟨by rintro ⟨⟩; rfl, by rintro rfl; rfl⟩
  | cons a as ih =>
    rw [List.mapM_cons]
    constructor
    · intro all
      obtain ⟨b, one, all⟩ := Option.bind_eq_some_iff.1 all
      obtain ⟨others, each, made⟩ := Option.bind_eq_some_iff.1 all
      cases made
      exact .cons one (ih.1 each)
    · rintro (_ | ⟨one, each⟩)
      rw [one, ih.2 each]
      rfl

theorem mapM_all (as : List α) : (as.map some).mapM id = some as :=
  mapM_eq_some.2 (List.forall₂_map_left_iff.2 (List.forall₂_same.2 fun _ _ => rfl))

/-- All items are there just if each is. -/
theorem mapM_iff {as : List (Option α)} : (∃ items, as.mapM id = some items ∧ List.Forall₂ R items bs) ↔
    List.Forall₂ (fun a? b => ∃ a, a? = some a ∧ R a b) as bs := by
  simp only [mapM_eq_some, id_eq]
  exact forall₂_comp

/-- Whatever is in a joined list is in an item or between two. -/
theorem mem_of_mem_intercalate {α : Type} {between : List α} {items : List (List α)} {a : α}
    (mem : a ∈ between.intercalate items) : a ∈ between ∨ ∃ item ∈ items, a ∈ item := by
  induction items with
  | nil => cases mem
  | cons item rest ih =>
    cases rest with
    | nil => exact .inr ⟨item, List.mem_cons_self, by simpa [List.intercalate] using mem⟩
    | cons next rest =>
      rw [List.intercalate_cons_of_ne_nil (List.cons_ne_nil next rest), List.append_assoc] at mem
      rcases List.mem_append.1 mem with here | mem
      · exact .inr ⟨item, List.mem_cons_self, here⟩
      · rcases List.mem_append.1 mem with sep | later
        · exact .inl sep
        · refine (ih later).imp_right ?_
          rintro ⟨other, among, inside⟩
          exact ⟨other, List.mem_cons_of_mem item among, inside⟩

end BusRelay
