/-!
# Results of several steps

What steps that can fail have done, if all went well.
-/

namespace BusRelay

variable {ε α β : Type}

theorem map_ok {f : α → β} {x : Except ε α} {b : β} (ok : f <$> x = .ok b) :
    ∃ a, x = .ok a ∧ f a = b := by
  cases x with
  | error fault => cases ok
  | ok a => exact ⟨a, rfl, Except.ok.inj ok⟩

theorem bind_ok {x : Except ε α} {f : α → Except ε β} {b : β} (ok : x >>= f = .ok b) :
    ∃ a, x = .ok a ∧ f a = .ok b := by
  cases x with
  | error fault => cases ok
  | ok a => exact ⟨a, rfl, ok⟩

theorem toOption_map (f : α → β) (x : Except ε α) : (f <$> x).toOption = x.toOption.map f := by
  cases x <;> rfl

theorem toOption_bind (x : Except ε α) (f : α → Except ε β) :
    (x >>= f).toOption = x.toOption.bind fun a => (f a).toOption := by
  cases x <;> rfl

/-- What has a result gave it. -/
theorem toOption_eq_some {x : Except ε α} {a : α} : x.toOption = some a ↔ x = .ok a := by
  cases x with
  | error fault => simp [Except.toOption]
  | ok other => simp [Except.toOption]

/-- Several things come to one result each, in order, or to none at all. -/
theorem mapM_ok_iff {f : α → Except ε β} {as : List α} {bs : List β} :
    as.mapM f = .ok bs ↔ (∀ a ∈ as, ∃ b, f a = .ok b) ∧ bs = as.filterMap fun a => (f a).toOption := by
  induction as generalizing bs with
  | nil =>
    rw [List.mapM_nil]
    constructor
    · rintro ⟨⟩
      exact ⟨List.forall_mem_nil _, rfl⟩
    · rintro ⟨-, rfl⟩
      rfl
  | cons a as ih =>
    have first {b : β} (one : f a = .ok b) : (a :: as).filterMap (fun a => (f a).toOption) =
        b :: as.filterMap fun a => (f a).toOption := by
      rw [List.filterMap_cons, one]
      rfl
    rw [List.mapM_cons, List.forall_mem_cons]
    constructor
    · intro made
      obtain ⟨b, one, made⟩ := bind_ok made
      obtain ⟨others, rest, made⟩ := bind_ok made
      obtain ⟨each, rfl⟩ := ih.1 rest
      cases made
      exact ⟨⟨⟨b, one⟩, each⟩, (first one).symm⟩
    · rintro ⟨⟨⟨b, one⟩, each⟩, rfl⟩
      rw [first one, one, ih.2 ⟨each, rfl⟩]
      rfl

/-- Whatever was made of several things was made of one of them. -/
theorem mem_mapM_ok {f : α → Except ε β} {as : List α} {bs : List β} (ok : as.mapM f = .ok bs) :
    ∀ b ∈ bs, ∃ a ∈ as, f a = .ok b := by
  obtain ⟨-, rfl⟩ := mapM_ok_iff.1 ok
  intro b mem
  obtain ⟨a, among, made⟩ := List.mem_filterMap.1 mem
  exact ⟨a, among, toOption_eq_some.1 made⟩

end BusRelay
