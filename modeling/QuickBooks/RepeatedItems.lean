import Mathlib.Data.List.Count

/-!
# Items that come again

A store that takes an item unless its key is known keeps the first item of each
key and every item without one.  Items without keys of their own are told apart
by how many equal items came before.
-/

namespace RepeatedItems

section Keys

variable {ι κ : Type} (key : ι → Option κ)

def Repeats (known : List κ) (item : ι) : Prop :=
  ∃ name ∈ known, key item = some name

variable {key} {known : List κ}

theorem keys_cons {item : ι} {items : List ι} :
    known ++ (item :: items).filterMap key =
      known ++ (key item).toList ++ items.filterMap key := by
  cases isKey : key item with
  | none => simp [List.filterMap_cons_none isKey]
  | some name => simp [List.filterMap_cons_some isKey]

theorem repeats_append_iff {item other : ι} {later : List κ}
    (repeats : Repeats key known item) :
    Repeats key (known ++ (key item).toList ++ later) other ↔
      Repeats key (known ++ later) other := by
  obtain ⟨name, nameMem, isKey⟩ := repeats
  unfold Repeats
  rw [isKey]
  constructor
  · rintro ⟨found, foundMem, isFound⟩
    simp only [Option.toList_some, List.mem_append, List.mem_singleton] at foundMem
    refine ⟨found, List.mem_append.mpr ?_, isFound⟩
    rcases foundMem with (old | rfl) | new
    · exact .inl old
    · exact .inl nameMem
    · exact .inr new
  · rintro ⟨found, foundMem, isFound⟩
    refine ⟨found, ?_, isFound⟩
    simp only [Option.toList_some, List.mem_append] at foundMem ⊢
    rcases foundMem with old | new
    · exact .inl (.inl old)
    · exact .inr new

/-- What holds of every item and the keys before it, for a list with one item
more. -/
theorem forall_before_cons (property : List κ → ι → Prop) {item : ι} {items : List ι} :
    (∀ index (inItems : index < (item :: items).length),
        property (known ++ ((item :: items).take index).filterMap key)
          (item :: items)[index]) ↔
      property known item ∧ ∀ index (inItems : index < items.length),
        property (known ++ (key item).toList ++ (items.take index).filterMap key)
          items[index] := by
  constructor
  · intro all
    constructor
    · have first := all 0 (Nat.zero_lt_succ _)
      rw [List.take_zero, List.filterMap_nil, List.append_nil] at first
      exact first
    · intro index inItems
      have later := all (index + 1) (Nat.succ_lt_succ inItems)
      rw [List.take_succ_cons, keys_cons] at later
      exact later
  · rintro ⟨first, later⟩ index inItems
    cases index with
    | zero =>
      rw [List.take_zero, List.filterMap_nil, List.append_nil]
      exact first
    | succ index =>
      rw [List.take_succ_cons, keys_cons]
      exact later index (Nat.lt_of_succ_lt_succ inItems)

/-- No item repeats the key of anything before it when the keys are distinct and
none is known. -/
theorem forall_not_repeats_iff {items : List ι} :
    (∀ index (inItems : index < items.length),
        ¬ Repeats key (known ++ (items.take index).filterMap key) items[index]) ↔
      (items.filterMap key).Nodup ∧ ∀ name ∈ items.filterMap key, name ∉ known := by
  induction items generalizing known with
  | nil => simp
  | cons item items ih =>
    rw [forall_before_cons fun earlier other => ¬ Repeats key earlier other, ih]
    cases isKey : key item with
    | none =>
      have isNew : ¬ Repeats key known item := by
        rintro ⟨name, -, isName⟩
        rw [isKey] at isName
        cases isName
      simp [isNew, List.filterMap_cons_none isKey]
    | some name =>
      have repeats : Repeats key known item ↔ name ∈ known := by
        simp [Repeats, isKey]
      rw [repeats, List.filterMap_cons_some isKey, List.nodup_cons, List.forall_mem_cons,
        Option.toList_some]
      constructor
      · rintro ⟨unknown, distinct, others⟩
        refine ⟨⟨fun later => others name later (by simp), distinct⟩, unknown, ?_⟩
        exact fun other otherMem inKnown =>
          others other otherMem (List.mem_append_left _ inKnown)
      · rintro ⟨⟨single, distinct⟩, unknown, others⟩
        refine ⟨unknown, distinct, fun other otherMem inEither => ?_⟩
        rcases List.mem_append.mp inEither with inKnown | isName
        · exact others other otherMem inKnown
        · rw [List.mem_singleton.mp isName] at otherMem
          exact single otherMem

variable [DecidableEq κ]

variable (key) in
/-- The items that are taken one after the other, each unless its key is known. -/
def takeNew (known : List κ) : List ι → List ι
  | [] => []
  | item :: items =>
    match key item with
    | none => item :: takeNew known items
    | some name =>
      if name ∈ known then takeNew known items
      else item :: takeNew (known ++ [name]) items

instance {item : ι} : Decidable (Repeats key known item) :=
  inferInstanceAs (Decidable (∃ name ∈ known, key item = some name))

theorem takeNew_cons_of_repeats {item : ι} {items : List ι} (repeats : Repeats key known item) :
    takeNew key known (item :: items) = takeNew key known items := by
  obtain ⟨name, nameMem, isKey⟩ := repeats
  rw [takeNew, isKey]
  exact if_pos nameMem

theorem takeNew_cons_of_not_repeats {item : ι} {items : List ι}
    (isNew : ¬ Repeats key known item) :
    takeNew key known (item :: items) =
      item :: takeNew key (known ++ (key item).toList) items := by
  rw [takeNew]
  cases isKey : key item with
  | none => simp
  | some name =>
    have unknown : name ∉ known := fun nameMem => isNew ⟨name, nameMem, isKey⟩
    simp [unknown]

theorem mem_takeNew {item : ι} {items : List ι} (itemMem : item ∈ takeNew key known items) :
    item ∈ items ∧ ¬ Repeats key known item := by
  induction items generalizing known with
  | nil => cases itemMem
  | cons first items ih =>
    by_cases repeats : Repeats key known first
    · rw [takeNew_cons_of_repeats repeats] at itemMem
      exact ⟨List.mem_cons_of_mem _ (ih itemMem).1, (ih itemMem).2⟩
    · rw [takeNew_cons_of_not_repeats repeats, List.mem_cons] at itemMem
      rcases itemMem with rfl | later
      · exact ⟨List.mem_cons_self, repeats⟩
      · refine ⟨List.mem_cons_of_mem _ (ih later).1, fun old => (ih later).2 ?_⟩
        obtain ⟨name, nameMem, isKey⟩ := old
        exact ⟨name, List.mem_append_left _ nameMem, isKey⟩

theorem mem_keys_takeNew {items : List ι} {name : κ} :
    name ∈ known ++ (takeNew key known items).filterMap key ↔
      name ∈ known ++ items.filterMap key := by
  induction items generalizing known with
  | nil => rfl
  | cons item items ih =>
    by_cases repeats : Repeats key known item
    · obtain ⟨other, otherMem, isKey⟩ := repeats
      rw [takeNew_cons_of_repeats ⟨other, otherMem, isKey⟩, ih,
        List.filterMap_cons_some isKey, List.mem_append, List.mem_append, List.mem_cons]
      constructor
      · rintro (old | later)
        · exact .inl old
        · exact .inr (.inr later)
      · rintro (old | rfl | later)
        · exact .inl old
        · exact .inl otherMem
        · exact .inr later
    · rw [takeNew_cons_of_not_repeats repeats]
      have later := @ih (known ++ (key item).toList)
      cases isKey : key item with
      | none =>
        rw [isKey] at later
        simpa [List.filterMap_cons_none isKey] using later
      | some other =>
        rw [isKey] at later
        simpa [List.filterMap_cons_some isKey] using later

theorem takeNew_eq_nil_iff {items : List ι} :
    takeNew key known items = [] ↔ ∀ item ∈ items, Repeats key known item := by
  induction items with
  | nil => simp [takeNew]
  | cons item items ih =>
    rw [List.forall_mem_cons]
    by_cases repeats : Repeats key known item
    · rw [takeNew_cons_of_repeats repeats, ih]
      exact ⟨fun later => ⟨repeats, later⟩, fun both => both.2⟩
    · rw [takeNew_cons_of_not_repeats repeats]
      constructor
      · intro isNil
        cases isNil
      · rintro ⟨old, -⟩
        exact absurd old repeats

/-- Exactly some of the items are taken when they are those that do not repeat
the key of anything before them. -/
theorem takeNew_eq_filter_iff {items : List ι} {selects : ι → Prop} [DecidablePred selects] :
    takeNew key known items = items.filter (fun item => selects item) ↔
      ∀ index (inItems : index < items.length),
        (selects items[index] ↔
          ¬ Repeats key (known ++ (items.take index).filterMap key) items[index]) := by
  induction items generalizing known with
  | nil => simp [takeNew]
  | cons item items ih =>
    rw [forall_before_cons fun earlier other => (selects other ↔ ¬ Repeats key earlier other)]
    by_cases repeats : Repeats key known item
    · simp only [repeats_append_iff repeats]
      rw [takeNew_cons_of_repeats repeats, ← ih]
      by_cases selected : selects item
      · rw [List.filter_cons_of_pos (by simpa using selected)]
        constructor
        · intro same
          have itemMem : item ∈ takeNew key known items := by
            rw [same]
            exact List.mem_cons_self
          exact absurd repeats (mem_takeNew itemMem).2
        · rintro ⟨isNew, -⟩
          exact absurd repeats (isNew.mp selected)
      · rw [List.filter_cons_of_neg (by simpa using selected)]
        have agrees : selects item ↔ ¬ Repeats key known item :=
          ⟨fun yes => absurd yes selected, fun isNew => absurd repeats isNew⟩
        exact ⟨fun same => ⟨agrees, same⟩, fun both => both.2⟩
    · rw [takeNew_cons_of_not_repeats repeats, ← ih]
      by_cases selected : selects item
      · rw [List.filter_cons_of_pos (by simpa using selected), List.cons_inj_right]
        have agrees : selects item ↔ ¬ Repeats key known item :=
          ⟨fun _ => repeats, fun _ => selected⟩
        exact ⟨fun same => ⟨agrees, same⟩, fun both => both.2⟩
      · rw [List.filter_cons_of_neg (by simpa using selected)]
        constructor
        · intro same
          have itemMem : item ∈ items.filter fun item => selects item := by
            rw [← same]
            exact List.mem_cons_self
          exact absurd (by simpa using (List.mem_filter.mp itemMem).2) selected
        · rintro ⟨isNew, -⟩
          exact absurd (isNew.mpr repeats) selected

end Keys

section Ranks

variable {ι : Type} [BEq ι]

def rankedFrom (earlier : List ι) : List ι → List (ι × ℕ)
  | [] => []
  | item :: items => (item, earlier.count item) :: rankedFrom (earlier ++ [item]) items

def ranked (items : List ι) : List (ι × ℕ) :=
  rankedFrom [] items

theorem rankedFrom_append {earlier first second : List ι} :
    rankedFrom earlier (first ++ second) =
      rankedFrom earlier first ++ rankedFrom (earlier ++ first) second := by
  induction first generalizing earlier with
  | nil => simp [rankedFrom]
  | cons item first ih => simp [rankedFrom, ih]

theorem ranked_append_singleton {items : List ι} {item : ι} :
    ranked (items ++ [item]) = ranked items ++ [(item, items.count item)] := by
  simp [ranked, rankedFrom_append, rankedFrom]

variable [LawfulBEq ι]

theorem mem_rankedFrom {earlier items : List ι} {item : ι} {rank : ℕ} :
    (item, rank) ∈ rankedFrom earlier items ↔
      earlier.count item ≤ rank ∧ rank < earlier.count item + items.count item := by
  induction items generalizing earlier with
  | nil => simp [rankedFrom]
  | cons other items ih =>
    rw [rankedFrom, List.mem_cons, ih, Prod.mk.injEq, List.count_append]
    by_cases same : other = item
    · subst same
      rw [List.count_singleton_self, List.count_cons_self]
      simp only [true_and]
      omega
    · simp [same, Ne.symm same]

theorem mem_ranked {items : List ι} {item : ι} {rank : ℕ} :
    (item, rank) ∈ ranked items ↔ rank < items.count item := by
  simp [ranked, mem_rankedFrom]

theorem nodup_rankedFrom {earlier items : List ι} : (rankedFrom earlier items).Nodup := by
  induction items generalizing earlier with
  | nil => exact List.nodup_nil
  | cons item items ih =>
    rw [rankedFrom, List.nodup_cons]
    refine ⟨?_, ih⟩
    rw [mem_rankedFrom, List.count_append, List.count_singleton_self]
    omega

theorem nodup_ranked {items : List ι} : (ranked items).Nodup :=
  nodup_rankedFrom

end Ranks

end RepeatedItems
