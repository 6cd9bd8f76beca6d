import BusRelay.Proofs.List
import BusRelay.Text.Quoted
/-!
# What quoted text tells

Where the rendering of a character ends is told by the rendering itself (`escapeChar_append_inj`), and none
begins with the closing quote. So a quoted text is told from whatever follows it (`quote_append_inj`), and two
texts that are quoted alike are the same. A record all of whose values end where a comma, a blank or a closing
bracket says so shows these values, and nothing else (`recordOf_eq_iff`). A row of quoted texts in brackets falls
into these texts in one way only, whatever they hold (`brackets_quote_inj`).
-/

namespace BusRelay.Quoted

/-! ## Characters -/

/-- The characters with an escape of one letter. -/
def letters : List (Char × Char) :=
  [('\x00', '0'), ('\t', 't'), ('\n', 'n'), ('\r', 'r'), ('"', '"'), ('\\', '\\')]

/-- The ways in which a character stands between quotes. -/
inductive Stands (c : Char) : List Char → Prop where
  | letter {l : Char} (mem : (c, l) ∈ letters) : Stands c ['\\', l]
  | plain (quote : c ≠ '"') (backslash : c ≠ '\\') : Stands c [c]
  | number : Stands c (['\\', 'u', '{'] ++ Nat.toDigits 16 c.toNat ++ ['}'])

theorem stands_escapeChar (c : Char) : Stands c (escapeChar c) := by
  unfold escapeChar
  iterate 6
    split
    · subst c
      exact .letter (by decide)
  split
  · rename_i quote backslash _
    exact .plain quote backslash
  · exact .number

theorem digitChar_injective {m n : Nat} (small : m < 16) (small' : n < 16)
    (same : Nat.digitChar m = Nat.digitChar n) : m = n := by
  have all : ∀ m < 16, ∀ n < 16, Nat.digitChar m = Nat.digitChar n → m = n := by decide
  exact all m small n small' same

theorem digitChar_ne_brace {n : Nat} (small : n < 16) : Nat.digitChar n ≠ '}' := by
  have all : ∀ n < 16, Nat.digitChar n ≠ '}' := by decide
  exact all n small

/-- The digits of a number tell the number. -/
theorem toDigits_injective {m n : Nat} (same : Nat.toDigits 16 m = Nat.toDigits 16 n) : m = n := by
  induction m using Nat.strongRecOn generalizing n with
  | ind m ih =>
    rw [Nat.toDigits_eq_if (by decide), Nat.toDigits_eq_if (n := n) (by decide)] at same
    split at same <;> split at same
    · rename_i small small'
      exact digitChar_injective small small' (List.singleton_inj.1 same)
    · have ends : [] = Nat.toDigits 16 (n / 16) := List.append_inj_left' same rfl
      exact absurd ends.symm Nat.toDigits_ne_nil
    · have ends : Nat.toDigits 16 (m / 16) = [] := List.append_inj_left' same rfl
      exact absurd ends Nat.toDigits_ne_nil
    · obtain ⟨front, last⟩ := List.append_inj' same rfl
      have high : m / 16 = n / 16 := ih (m / 16) (by omega) front
      have low : m % 16 = n % 16 :=
        digitChar_injective (Nat.mod_lt m (by decide)) (Nat.mod_lt n (by decide)) (List.singleton_inj.1 last)
      omega

theorem not_brace_of_mem {n : Nat} {d : Char} (mem : d ∈ Nat.toDigits 16 n) : d ≠ '}' := by
  induction n using Nat.strongRecOn generalizing d with
  | ind n ih =>
    rw [Nat.toDigits_eq_if (by decide)] at mem
    split at mem
    · rename_i small
      rw [List.mem_singleton.1 mem]
      exact digitChar_ne_brace small
    · rcases List.mem_append.1 mem with front | last
      · exact ih (n / 16) (by omega) front
      · rw [List.mem_singleton.1 last]
        exact digitChar_ne_brace (Nat.mod_lt n (by decide))

/-- Two numbers between braces are told apart, whatever follows. -/
theorem number_append_inj {m n : Nat} {r s : List Char}
    (same : Nat.toDigits 16 m ++ '}' :: r = Nat.toDigits 16 n ++ '}' :: s) : m = n ∧ r = s := by
  have digits (n : Nat) (r : List Char) :
      (Nat.toDigits 16 n ++ '}' :: r).takeWhile (· ≠ '}') = Nat.toDigits 16 n :=
    takeWhile_run (· ≠ '}') (fun d mem => decide_eq_true (not_brace_of_mem mem))
      (fun d mem => by obtain rfl := Option.some.inj mem; rfl)
  have front := congrArg (List.takeWhile (· ≠ '}')) same
  rw [digits, digits] at front
  rw [front] at same
  exact ⟨toDigits_injective front, List.cons_inj_right _ |>.1 (List.append_cancel_left same)⟩

/-- What stands for two characters is told apart, whatever follows. -/
theorem Stands.append_inj {c d : Char} {e f r s : List Char} (one : Stands c e) (other : Stands d f)
    (same : e ++ r = f ++ s) : c = d ∧ r = s := by
  have told : ∀ p ∈ letters, p.2 ≠ 'u' ∧ ∀ q ∈ letters, p.2 = q.2 → p.1 = q.1 :=
    forall_mem_of_all (by decide)
  cases one with
  | @letter l mem =>
    cases other with
    | @letter l' mem' =>
      obtain ⟨same, rest⟩ : l = l' ∧ r = s := by simpa using same
      exact ⟨(told _ mem).2 _ mem' same, rest⟩
    | plain quote backslash =>
      obtain ⟨same, -⟩ := List.cons.inj same
      exact absurd same.symm backslash
    | number =>
      obtain ⟨-, same⟩ := List.cons.inj same
      exact absurd (List.cons.inj same).1 (told _ mem).1
  | plain quote backslash =>
    cases other with
    | letter mem' =>
      obtain ⟨same, -⟩ := List.cons.inj same
      exact absurd same backslash
    | plain => exact List.cons.inj same
    | number =>
      obtain ⟨same, -⟩ := List.cons.inj same
      exact absurd same backslash
  | number =>
    cases other with
    | letter mem' =>
      obtain ⟨-, same⟩ := List.cons.inj same
      exact absurd (List.cons.inj same).1.symm (told _ mem').1
    | plain quote' backslash' =>
      obtain ⟨same, -⟩ := List.cons.inj same
      exact absurd same.symm backslash'
    | number =>
      simp only [List.append_assoc, List.singleton_append] at same
      obtain ⟨number, rest⟩ := number_append_inj (List.append_cancel_left same)
      exact ⟨Char.toNat_inj.1 number, rest⟩

theorem escapeChar_append_inj {c d : Char} {r s : List Char}
    (same : escapeChar c ++ r = escapeChar d ++ s) : c = d ∧ r = s :=
  (stands_escapeChar c).append_inj (stands_escapeChar d) same

/-- No rendering of a character begins with a quote. -/
theorem escapeChar_append_ne (c : Char) (r s : List Char) : escapeChar c ++ r ≠ '"' :: s := by
  intro same
  have stands := stands_escapeChar c
  generalize escapeChar c = e at stands same
  cases stands with
  | letter | number => exact absurd (List.cons.inj same).1 (by decide)
  | plain quote => exact absurd (List.cons.inj same).1 quote

/-! ## Texts -/

theorem escape_append_inj {cs ds r s : List Char} (same : escape cs ++ '"' :: r = escape ds ++ '"' :: s) :
    cs = ds ∧ r = s := by
  unfold escape at same
  induction cs generalizing ds with
  | nil =>
    cases ds with
    | nil => exact ⟨rfl, (List.cons.inj same).2⟩
    | cons d ds =>
      rw [List.flatMap_cons, List.append_assoc] at same
      exact absurd same.symm (escapeChar_append_ne d _ _)
  | cons c cs ih =>
    cases ds with
    | nil =>
      rw [List.flatMap_cons, List.append_assoc] at same
      exact absurd same (escapeChar_append_ne c _ _)
    | cons d ds =>
      rw [List.flatMap_cons, List.flatMap_cons, List.append_assoc, List.append_assoc] at same
      obtain ⟨rfl, behind⟩ := escapeChar_append_inj same
      obtain ⟨rfl, rest⟩ := ih behind
      exact ⟨rfl, rest⟩

theorem toList_quote (s : String) : (quote s).toList = '"' :: (escape s.toList ++ ['"']) := by
  simp [quote]

/-- Two quoted texts are told apart, whatever follows. -/
theorem quote_append_inj {a b : String} {r s : List Char}
    (same : (quote a).toList ++ r = (quote b).toList ++ s) : a = b ∧ r = s := by
  simp only [toList_quote, List.cons_append, List.append_assoc, List.nil_append] at same
  obtain ⟨text, rest⟩ := escape_append_inj (List.cons.inj same).2
  exact ⟨String.toList_inj.1 text, rest⟩

theorem quote_injective : Function.Injective quote := by
  intro a b same
  have chars : (quote a).toList ++ [] = (quote b).toList ++ [] := by rw [same]
  exact (quote_append_inj chars).1

theorem optional_injective : Function.Injective optional := by
  intro s t same
  cases s with
  | none =>
    cases t with
    | none => rfl
    | some t => simp [optional, ← String.toList_inj] at same
  | some s =>
    cases t with
    | none => simp [optional, ← String.toList_inj] at same
    | some t =>
      have chars := congrArg String.toList same
      simp only [optional, String.toList_append, List.append_assoc] at chars
      exact congrArg some (String.toList_inj.1 (List.append_cancel_right (List.append_cancel_left chars)))

theorem number_injective : Function.Injective fun n : Nat => toString n := by
  intro m n same
  simp only [Nat.toString_eq_ofList_toDigits] at same
  have digits : Nat.toDigits 10 m = Nat.toDigits 10 n := String.ofList_inj.1 same
  rw [← Nat.ofDigitChars_ten_toDigits (n := m), digits, Nat.ofDigitChars_ten_toDigits]

/-! ## Rows -/

/-- How a row goes on behind one of its texts: with the next one, or with the bracket and what follows. -/
def continued : List String → List Char → List Char
  | [], rest => ']' :: rest
  | a :: more, rest => ',' :: ' ' :: ((quote a).toList ++ continued more rest)

theorem row_cons (a : String) (more : List String) (rest : List Char) :
    (", ".intercalate ((a :: more).map quote)).toList ++ ']' :: rest = (quote a).toList ++ continued more rest := by
  induction more generalizing a with
  | nil => simp [continued]
  | cons b more ih =>
    rw [List.map_cons, List.map_cons, String.intercalate_cons_cons, ← List.map_cons, String.toList_append,
      String.toList_append, List.append_assoc, List.append_assoc, ih b]
    rfl

theorem continued_inj {as bs : List String} {r s : List Char} (same : continued as r = continued bs s) :
    as = bs ∧ r = s := by
  induction as generalizing bs with
  | nil =>
    cases bs with
    | nil => exact ⟨rfl, (List.cons.inj same).2⟩
    | cons b bs => exact absurd (List.cons.inj same).1 (by decide)
  | cons a as ih =>
    cases bs with
    | nil => exact absurd (List.cons.inj same).1 (by decide)
    | cons b bs =>
      obtain ⟨rfl, behind⟩ := quote_append_inj (List.cons.inj (List.cons.inj same).2).2
      obtain ⟨rfl, rest⟩ := ih behind
      exact ⟨rfl, rest⟩

/-- Two rows of quoted texts are told apart, whatever follows. -/
theorem brackets_append_inj {as bs : List String} {r s : List Char}
    (same : (brackets (as.map quote)).toList ++ r = (brackets (bs.map quote)).toList ++ s) : as = bs ∧ r = s := by
  have opened (cs : List String) (r : List Char) : (brackets (cs.map quote)).toList ++ r =
      '[' :: ((", ".intercalate (cs.map quote)).toList ++ ']' :: r) := by
    simp [brackets]
  rw [opened, opened] at same
  have same := (List.cons.inj same).2
  cases as with
  | nil =>
    cases bs with
    | nil => exact ⟨rfl, by simpa using same⟩
    | cons b bs =>
      rw [row_cons, toList_quote] at same
      exact absurd (List.cons.inj same).1 (by decide)
  | cons a as =>
    rw [row_cons] at same
    cases bs with
    | nil =>
      rw [toList_quote] at same
      exact absurd (List.cons.inj same).1 (by decide)
    | cons b bs =>
      rw [row_cons] at same
      obtain ⟨rfl, behind⟩ := quote_append_inj same
      obtain ⟨rfl, rest⟩ := continued_inj behind
      exact ⟨rfl, rest⟩

theorem brackets_quote_inj {as bs : List String} : brackets (as.map quote) = brackets (bs.map quote) ↔ as = bs := by
  refine ⟨fun same => ?_, fun same => by rw [same]⟩
  have chars : (brackets (as.map quote)).toList ++ [] = (brackets (bs.map quote)).toList ++ [] := by rw [same]
  exact (brackets_append_inj chars).1

/-! ## Values -/

/-- A character that ends a value in a record or a bracket. -/
def IsStop (c : Char) : Prop := c ∈ [',', ' ', ')']

instance : DecidablePred IsStop := fun c => inferInstanceAs (Decidable (c ∈ [',', ' ', ')']))

/-- A rendering is legible if two values that are rendered in different ways are told apart, whatever follows
behind a stop. -/
def Legible {α : Type} (render : α → String) : Prop :=
  ∀ a b x y r s, IsStop x → IsStop y → (render a).toList ++ x :: r = (render b).toList ++ y :: s →
    render a = render b

section

variable {α β : Type} {render : α → String}

theorem legible_quote : Legible quote := fun _ _ _ _ _ _ _ _ same => congrArg quote (quote_append_inj same).1

/-- What has no stop in it ends at the first one. -/
theorem Legible.word (whole : ∀ a, ∀ c ∈ (render a).toList, ¬ IsStop c) : Legible render := by
  intro a b x y r s stop stop' same
  have word (a : α) {x : Char} (stop : IsStop x) (r : List Char) :
      ((render a).toList ++ x :: r).takeWhile (fun c => ¬ IsStop c) = (render a).toList :=
    takeWhile_run _ (fun c mem => decide_eq_true (whole a c mem))
      (fun c mem => by obtain rfl := Option.some.inj mem; simp [stop])
  have front := congrArg (List.takeWhile fun c => ¬ IsStop c) same
  rw [word a stop, word b stop'] at front
  exact String.toList_inj.1 front

theorem Legible.comp (legible : Legible render) (f : β → α) : Legible fun b => render (f b) :=
  fun a b => legible (f a) (f b)

theorem Legible.behind (legible : Legible render) (lead : String) : Legible fun a => lead ++ render a := by
  intro a b x y r s stop stop' same
  simp only [String.toList_append, List.append_assoc] at same
  exact congrArg (lead ++ ·) (legible a b x y r s stop stop' (List.append_cancel_left same))

theorem Legible.optional (legible : Legible render) :
    Legible fun o : Option α => Quoted.optional (o.map render) := by
  intro o p x y r s stop stop' same
  cases o with
  | none =>
    cases p with
    | none => rfl
    | some b => simp [Quoted.optional] at same
  | some a =>
    cases p with
    | none => simp [Quoted.optional] at same
    | some b =>
      simp only [Option.map_some, Quoted.optional, String.toList_append, List.append_assoc] at same
      have bracket : IsStop ')' := by decide
      have inner := legible a b _ _ _ _ bracket bracket (List.append_cancel_left same)
      simp only [Option.map_some, inner]

theorem legible_number : Legible fun n : Nat => toString n := by
  refine .word fun n c mem stop => ?_
  rw [Nat.toString_eq_ofList_toDigits, String.toList_ofList] at mem
  have digit : c.isDigit = true := Nat.isDigit_of_mem_toDigits (by decide) (by decide) mem
  have none : ∀ c ∈ [',', ' ', ')'], c.isDigit = false := forall_mem_of_all (by decide)
  rw [none c stop] at digit
  cases digit

theorem legible_flag : Legible fun b : Bool => toString b := by
  refine .word fun b => ?_
  cases b <;> exact forall_mem_of_all (by decide)

end

/-! ## Records -/

section

variable {α : Type} {a b : α}

/-- Legible items between commas are told from what follows them. -/
theorem items_append_inj {items : List (α → String)} (legible : ∀ item ∈ items, Legible item) {x y : Char}
    {r s : List Char} (stop : IsStop x) (stop' : IsStop y)
    (same : (", ".intercalate (items.map (· a))).toList ++ x :: r =
      (", ".intercalate (items.map (· b))).toList ++ y :: s) : ∀ item ∈ items, item a = item b := by
  induction items with
  | nil => exact fun item mem => absurd mem List.not_mem_nil
  | cons first items ih =>
    obtain ⟨here, others⟩ := List.forall_mem_cons.1 legible
    cases items with
    | nil =>
      simp only [List.map_cons, List.map_nil, String.intercalate_singleton] at same
      exact List.forall_mem_cons.2 ⟨here a b x y r s stop stop' same, fun item mem => absurd mem List.not_mem_nil⟩
    | cons second items =>
      simp only [List.map_cons, String.intercalate_cons_cons, String.toList_append, List.append_assoc] at same
      have comma : IsStop ',' := by decide
      have equal : first a = first b := here a b ',' ',' _ _ comma comma same
      rw [equal] at same
      have rest := List.append_cancel_left (List.append_cancel_left same)
      exact List.forall_mem_cons.2 ⟨equal, ih others rest⟩

/-- The items of a record: its fields, and two dots if there are more. -/
def items (fields : List (String × (α → String))) (complete : Bool) : List (α → String) :=
  (fields.map fun f a => f.1 ++ ": " ++ f.2 a) ++ if complete then [] else [fun _ => ".."]

/-- A thing as a record of what its fields show. -/
def recordOf (name : String) (fields : List (String × (α → String))) (complete : Bool) (a : α) : String :=
  record name (fields.map fun f => (f.1, f.2 a)) complete

variable {name : String} {fields : List (String × (α → String))} {complete : Bool}

theorem recordOf_eq (a : α) : recordOf name fields complete a =
    name ++ " \x7b " ++ ", ".intercalate ((items fields complete).map (· a)) ++ " \x7d" := by
  cases complete <;> simp [recordOf, record, items, Function.comp_def]

theorem legible_items (legible : ∀ f ∈ fields, Legible f.2) : ∀ item ∈ items fields complete, Legible item := by
  intro item mem
  rcases List.mem_append.1 mem with shown | dots
  · obtain ⟨f, among, rfl⟩ := List.mem_map.1 shown
    exact (legible f among).behind _
  · cases complete with
    | true => cases dots
    | false =>
      obtain rfl := List.mem_singleton.1 dots
      exact .word fun _ => forall_mem_of_all (by decide)

theorem recordOf_congr (same : ∀ f ∈ fields, f.2 a = f.2 b) :
    recordOf name fields complete a = recordOf name fields complete b := by
  have shown : (fields.map fun f => (f.1, f.2 a)) = fields.map fun f => (f.1, f.2 b) :=
    List.map_congr_left fun f mem => by rw [same f mem]
  rw [recordOf, recordOf, shown]

theorem shown_of_items (same : ∀ item ∈ items fields complete, item a = item b) :
    ∀ f ∈ fields, f.2 a = f.2 b := by
  intro f mem
  have item := same _ (List.mem_append_left _ (List.mem_map_of_mem mem))
  have chars := congrArg String.toList item
  simp only [String.toList_append, List.append_assoc] at chars
  exact String.toList_inj.1 (List.append_cancel_left (List.append_cancel_left chars))

/-- A record with legible fields is legible. -/
theorem legible_record (legible : ∀ f ∈ fields, Legible f.2) : Legible (recordOf name fields complete) := by
  intro a b x y r s stop stop' same
  simp only [recordOf_eq, String.toList_append, List.append_assoc] at same
  have blank : IsStop ' ' := by decide
  have shown := List.append_cancel_left (List.append_cancel_left same)
  exact recordOf_congr (shown_of_items (items_append_inj (legible_items legible) blank blank shown))

/-- **A record shows its fields, and nothing else.** If its fields are legible, two things are rendered alike
just if each field shows the same of both. -/
theorem recordOf_eq_iff (legible : ∀ f ∈ fields, Legible f.2) :
    recordOf name fields complete a = recordOf name fields complete b ↔ ∀ f ∈ fields, f.2 a = f.2 b := by
  refine ⟨fun same => ?_, recordOf_congr⟩
  have chars := congrArg String.toList same
  simp only [recordOf_eq, String.toList_append, List.append_assoc] at chars
  have blank : IsStop ' ' := by decide
  have shown := List.append_cancel_left (List.append_cancel_left chars)
  exact shown_of_items (items_append_inj (legible_items legible) blank blank shown)

end

end BusRelay.Quoted
