import QuickBooks.ContactNames

/-!
# Fakes that do not depend on the order

Every original gets a fake of its own that is no reserved name.  Which one it gets depends on
the originals that were met before, unless the first name that is free for each, the reserved
names aside, is free for it alone.
-/

namespace QuickBooks

namespace Scrub

open NameMapper

/-! ### Rounds -/

def roundNames (roundNo : ℕ) : List String :=
  (List.range span).map fun slot => baseName slot ++ suffixOf roundNo

section Rounds

variable {taken : List String} {index roundNo : ℕ} {roundFill : List ℕ} {name : String}

theorem length_roundNames : (roundNames roundNo).length = span := by
  simp [roundNames]

theorem mem_probes_iff :
    name ∈ (List.range span).map (fun step =>
      baseName ((index + step) % span) ++ suffixOf roundNo) ↔ name ∈ roundNames roundNo := by
  have positive := span_pos
  simp only [roundNames, List.mem_map, List.mem_range]
  constructor
  · rintro ⟨step, -, rfl⟩
    exact ⟨(index + step) % span, Nat.mod_lt _ positive, rfl⟩
  · rintro ⟨slot, inRange, rfl⟩
    refine ⟨(slot + (span - index % span)) % span, Nat.mod_lt _ positive, ?_⟩
    have start : index % span < span := Nat.mod_lt _ positive
    have around : (index + (slot + (span - index % span)) % span) % span = slot := by
      rw [Nat.add_mod_mod, Nat.add_mod]
      have shifted : index % span + (slot + (span - index % span)) = slot + span := by omega
      rw [← Nat.add_mod, ← Nat.mod_add_mod, shifted, Nat.add_mod_right, Nat.mod_eq_of_lt inRange]
    rw [around]

theorem freeInRound_eq_none_iff : freeInRound taken index roundNo = none ↔
    ∀ name ∈ roundNames roundNo, name ∈ taken := by
  unfold freeInRound
  rw [List.find?_eq_none]
  constructor
  · intro none name nameMem
    simpa using none name (mem_probes_iff.mpr nameMem)
  · intro all name nameMem
    simpa using all name (mem_probes_iff.mp nameMem)

theorem mem_of_freeInRound (free : freeInRound taken index roundNo = some name) :
    name ∈ roundNames roundNo ∧ name ∉ taken := by
  unfold freeInRound at free
  refine ⟨mem_probes_iff.mp (List.mem_of_find?_eq_some free), ?_⟩
  simpa using List.find?_some free

/-- A name that is free for an original before all others: the first of a round that has one. -/
structure FirstFree (taken : List String) (index : ℕ) (name : String) (roundNo : ℕ) : Prop where
  free : freeInRound taken index roundNo = some name
  earlier : ∀ earlier < roundNo, freeInRound taken index earlier = none

/-- Each round has given as many fakes as are counted for it, or has none left. -/
def Counts (taken : List String) (roundFill : List ℕ) : Prop :=
  ∀ roundNo, (∀ name ∈ roundNames roundNo, name ∈ taken) ∨
    ∃ handed : List String, handed.Nodup ∧ handed ⊆ roundNames roundNo ∧ handed ⊆ taken ∧
      roundFill.getD roundNo 0 ≤ handed.length

theorem Counts.all_taken (counts : Counts taken roundFill)
    (full : span ≤ roundFill.getD roundNo 0) : ∀ name ∈ roundNames roundNo, name ∈ taken := by
  rcases counts roundNo with all | ⟨handed, nodup, inRound, isTaken, counted⟩
  · exact all
  · intro name nameMem
    have long : (roundNames roundNo).length ≤ handed.length := by
      rw [length_roundNames]
      exact full.trans counted
    have perm := (nodup.subperm inRound).perm_of_length_le long
    exact isTaken (perm.mem_iff.mpr nameMem)

theorem Counts.append_zero (counts : Counts taken roundFill) :
    Counts taken (roundFill ++ [0]) := by
  intro roundNo
  rcases counts roundNo with all | ⟨handed, nodup, inRound, isTaken, counted⟩
  · exact .inl all
  · refine .inr ⟨handed, nodup, inRound, isTaken, ?_⟩
    have same : (roundFill ++ [0]).getD roundNo 0 = roundFill.getD roundNo 0 := by
      rw [List.getD_eq_getElem?_getD, List.getD_eq_getElem?_getD, List.getElem?_append]
      split_ifs with inside
      · rfl
      · rw [List.getElem?_eq_none (not_lt.mp inside)]
        cases roundNo - roundFill.length <;> rfl
    rw [same]
    exact counted

theorem getD_set {values : List ℕ} {position value other : ℕ} (inside : position < values.length) :
    (values.set position value).getD other 0 =
      if other = position then value else values.getD other 0 := by
  split_ifs with same
  · subst same
    simp [List.getD, inside]
  · simp [List.getD, Ne.symm same]

theorem Counts.set_span (counts : Counts taken roundFill) (inside : roundNo < roundFill.length)
    (none : freeInRound taken index roundNo = none) :
    Counts taken (roundFill.set roundNo span) := by
  intro other
  by_cases same : other = roundNo
  · subst same
    exact .inl (freeInRound_eq_none_iff.mp none)
  · rw [getD_set inside, if_neg same]
    exact counts other

theorem firstFree_of_searchRounds {fuel found : ℕ} {fill : List ℕ}
    (within : roundNo ≤ roundFill.length) (counts : Counts taken roundFill)
    (earlier : ∀ earlier < roundNo, freeInRound taken index earlier = none)
    (finds : searchRounds taken index fuel roundNo roundFill = some (name, found, fill)) :
    FirstFree taken index name found ∧ Counts taken fill ∧ found < fill.length := by
  induction fuel generalizing roundNo roundFill with
  | zero => cases finds
  | succ fuel ih =>
    rw [searchRounds] at finds
    have opened : Counts taken (if roundNo = roundFill.length then roundFill ++ [0]
        else roundFill) := by
      split_ifs
      · exact counts.append_zero
      · exact counts
    have inside : roundNo < (if roundNo = roundFill.length then roundFill ++ [0]
        else roundFill).length := by
      split_ifs with isNew
      · simp [isNew]
      · omega
    revert finds opened inside
    generalize (if roundNo = roundFill.length then roundFill ++ [0] else roundFill) = fillNow
    intro finds opened inside
    have noneNow (none : freeInRound taken index roundNo = none) :
        ∀ earlier < roundNo + 1, freeInRound taken index earlier = .none := by
      intro round before
      rcases Nat.lt_succ_iff_lt_or_eq.mp before with lt | rfl
      · exact earlier round lt
      · exact none
    split_ifs at finds with unfilled
    · cases free : freeInRound taken index roundNo with
      | some candidate =>
        rw [free] at finds
        cases finds
        exact ⟨⟨free, earlier⟩, opened, inside⟩
      | none =>
        rw [free] at finds
        have within : roundNo + 1 ≤ (fillNow.set roundNo span).length := by
          rw [List.length_set]
          exact inside
        exact ih within (opened.set_span inside free) (noneNow free) finds
    · have allTaken := opened.all_taken (not_lt.mp unfilled)
      exact ih inside opened (noneNow (freeInRound_eq_none_iff.mpr allTaken)) finds

end Rounds

/-! ### Handing out -/

section Handing

variable {runtime : Runtime} {key : String} {reserved : List String} {mapper : NameMapper}
  {original fake : String} {originals : List String}

def slotOf (runtime : Runtime) (key original : String) : ℕ :=
  stableInt runtime original key % span

/-- Fakes of their own for the originals, none of them reserved, and counts that are right. -/
structure Hands (key : String) (reserved : List String) (mapper : NameMapper) : Prop where
  key_eq : mapper.key = key
  mem_taken_iff : ∀ name, name ∈ mapper.taken ↔ name ∈ reserved ∨ name ∈ mapper.fakes
  distinct : mapper.fakes.Nodup
  unreserved : ∀ name ∈ mapper.fakes, name ∉ reserved
  counts : Counts mapper.taken mapper.roundFill

theorem Hands.new (key : String) (reserved : List String) :
    Hands key reserved (.new key reserved) where
  key_eq := rfl
  mem_taken_iff := fun name => by simp [NameMapper.new, fakes]
  distinct := List.nodup_nil
  unreserved := fun name nameMem => absurd nameMem List.not_mem_nil
  counts := fun roundNo => .inr ⟨[], List.nodup_nil, List.nil_subset _, List.nil_subset _, by
    simp [NameMapper.new]⟩

theorem Counts.cons {taken : List String} {roundFill : List ℕ} {roundNo : ℕ} {name : String}
    (counts : Counts taken roundFill) (inside : roundNo < roundFill.length)
    (inRound : name ∈ roundNames roundNo) (isFree : name ∉ taken) :
    Counts (name :: taken) (roundFill.set roundNo (roundFill.getD roundNo 0 + 1)) := by
  intro other
  rcases counts other with all | ⟨handed, nodup, ofRound, isTaken, counted⟩
  · exact .inl fun name nameMem => .tail _ (all name nameMem)
  · right
    rw [getD_set inside]
    split_ifs with same
    · subst same
      refine ⟨name :: handed, List.nodup_cons.mpr ⟨fun held => isFree (isTaken held), nodup⟩,
        List.cons_subset.mpr ⟨inRound, ofRound⟩, List.cons_subset_cons _ isTaken, ?_⟩
      rw [List.length_cons]
      omega
    · exact ⟨handed, nodup, ofRound, fun held heldMem => .tail _ (isTaken heldMem), counted⟩

theorem fakeFor_cases (runtime : Runtime) (hands : Hands key reserved mapper) (original : String) :
    (∃ fake, mapper.map.lookup original = some fake ∧
        mapper.fakeFor runtime original = (mapper, fake)) ∨
      ∃ fake after roundNo, mapper.map.lookup original = none ∧
        mapper.fakeFor runtime original = (after, fake) ∧
        after.map = mapper.map ++ [(original, fake)] ∧
        FirstFree mapper.taken (slotOf runtime key original) fake roundNo ∧
        Hands key reserved after := by
  cases known : mapper.map.lookup original with
  | some fake => exact .inl ⟨fake, rfl, by rw [fakeFor, known]⟩
  | none =>
    right
    obtain ⟨⟨fake, roundNo, fill⟩, finds⟩ :=
      Option.isSome_iff_exists.mp (isSome_search runtime mapper original)
    have searched := finds
    unfold search at searched
    obtain ⟨firstFree, counts, inside⟩ := firstFree_of_searchRounds (Nat.zero_le _) hands.counts
      (fun earlier before => absurd before (Nat.not_lt_zero _)) searched
    obtain ⟨inRound, isFree⟩ := mem_of_freeInRound firstFree.free
    have notTaken := (hands.mem_taken_iff fake).not.mp isFree
    rw [not_or] at notTaken
    rw [hands.key_eq] at firstFree
    let after : NameMapper :=
      { mapper with
        map := mapper.map ++ [(original, fake)]
        taken := fake :: mapper.taken
        roundFill := fill.set roundNo (fill.getD roundNo 0 + 1) }
    have given : mapper.fakeFor runtime original = (after, fake) := by
      rw [fakeFor, known]
      dsimp only
      rw [finds]
    refine ⟨fake, after, roundNo, rfl, given, rfl, firstFree, hands.key_eq, ?_, ?_, ?_,
      counts.cons inside inRound isFree⟩
    · intro name
      have earlier := hands.mem_taken_iff name
      simp only [fakes] at earlier
      simp only [after, fakes, List.map_append, List.map_cons, List.map_nil, List.mem_cons,
        List.mem_append, List.not_mem_nil, or_false, earlier]
      tauto
    · simp only [after, fakes, List.map_append, List.map_cons, List.map_nil]
      refine List.nodup_append.mpr ⟨hands.distinct, List.nodup_singleton _, ?_⟩
      intro name nameMem other otherMem
      rw [List.mem_singleton.mp otherMem]
      rintro rfl
      exact notTaken.2 nameMem
    · intro name nameMem
      simp only [after, fakes, List.map_append, List.map_cons, List.map_nil, List.mem_append,
        List.mem_singleton] at nameMem
      rcases nameMem with old | rfl
      · exact hands.unreserved name old
      · exact notTaken.1

theorem Hands.fakeFor (hands : Hands key reserved mapper) (original : String) :
    Hands key reserved (mapper.fakeFor runtime original).1 := by
  rcases fakeFor_cases runtime hands original with
    ⟨fake, -, given⟩ | ⟨fake, after, -, -, given, -, -, next⟩
  · rw [given]
    exact hands
  · rw [given]
    exact next

theorem Hands.assign (hands : Hands key reserved mapper) (originals : List String) :
    Hands key reserved (mapper.assign runtime originals) := by
  induction originals generalizing mapper with
  | nil => exact hands
  | cons original originals ih => exact ih (hands.fakeFor original)

theorem lookup_fakeFor (known : mapper.map.lookup original = some fake) (other : String)
    (hands : Hands key reserved mapper) :
    (mapper.fakeFor runtime other).1.map.lookup original = some fake := by
  rcases fakeFor_cases runtime hands other with
    ⟨_, -, given⟩ | ⟨given, after, -, -, gives, same, -, -⟩
  · rw [given]
    exact known
  · rw [gives, same, List.lookup_append, known]
    rfl

theorem lookup_assign (hands : Hands key reserved mapper)
    (known : mapper.map.lookup original = some fake) (originals : List String) :
    (mapper.assign runtime originals).map.lookup original = some fake := by
  induction originals generalizing mapper with
  | nil => exact known
  | cons other originals ih => exact ih (hands.fakeFor other) (lookup_fakeFor known other hands)

theorem lookup_given (runtime : Runtime) (hands : Hands key reserved mapper) (original : String) :
    (mapper.fakeFor runtime original).1.map.lookup original =
      some (mapper.fakeFor runtime original).2 := by
  rcases fakeFor_cases runtime hands original with
    ⟨fake, known, given⟩ | ⟨fake, after, roundNo, isNew, given, same, -, -⟩
  · rw [given]
    exact known
  · rw [given, same, List.lookup_append, isNew]
    simp

end Handing

/-! ### The order of the originals -/

def fakeOf (runtime : Runtime) (key : String) (reserved originals : List String)
    (original : String) : String :=
  (((NameMapper.new key reserved).assign runtime originals).fakeFor runtime original).2

/-- Every search ends, every original has a fake of its own that is not reserved and was given
to it when it was met, and it is the same in whatever order the originals are met. -/
structure FakesWell (runtime : Runtime) (key : String) (reserved originals : List String) :
    Prop where
  ends : ∀ met original, met <+: originals → ∃ fuel,
    (searchRounds ((NameMapper.new key reserved).assign runtime met).taken
      (slotOf runtime key original) fuel 0
      ((NameMapper.new key reserved).assign runtime met).roundFill).isSome
  given : ∀ met original later, originals = met ++ original :: later →
    (((NameMapper.new key reserved).assign runtime met).fakeFor runtime original).2 =
      fakeOf runtime key reserved originals original
  different : ∀ first ∈ originals, ∀ second ∈ originals, first ≠ second →
    fakeOf runtime key reserved originals first ≠ fakeOf runtime key reserved originals second
  unreserved : ∀ original ∈ originals, fakeOf runtime key reserved originals original ∉ reserved
  anyOrder : ∀ others, (∀ name, name ∈ others ↔ name ∈ originals) → ∀ original ∈ originals,
    fakeOf runtime key reserved others original = fakeOf runtime key reserved originals original

def IsHome (runtime : Runtime) (key : String) (reserved : List String) (original name : String) :
    Prop :=
  ∃ roundNo, FirstFree reserved (slotOf runtime key original) name roundNo

section Orders

variable {runtime : Runtime} {key : String} {reserved originals others : List String}
  {original first second fake name : String}

theorem FirstFree.unique {taken : List String} {index firstRound secondRound : ℕ}
    (one : FirstFree taken index first firstRound)
    (other : FirstFree taken index second secondRound) : first = second := by
  rcases lt_trichotomy firstRound secondRound with lt | rfl | gt
  · have none := other.earlier firstRound lt
    rw [one.free] at none
    cases none
  · exact Option.some.inj (one.free.symm.trans other.free)
  · have none := one.earlier secondRound gt
    rw [other.free] at none
    cases none

theorem IsHome.unique (one : IsHome runtime key reserved original first)
    (other : IsHome runtime key reserved original second) : first = second := by
  obtain ⟨_, one⟩ := one
  obtain ⟨_, other⟩ := other
  exact one.unique other

theorem FirstFree.mono {taken more : List String} {index roundNo : ℕ}
    (firstFree : FirstFree taken index name roundNo) (included : taken ⊆ more)
    (isFree : name ∉ more) : FirstFree more index name roundNo where
  free := by
    have free := firstFree.free
    unfold freeInRound at free ⊢
    obtain ⟨-, before, after, same, noneBefore⟩ := List.find?_eq_some_iff_append.mp free
    refine List.find?_eq_some_iff_append.mpr ⟨by simpa using isFree, before, after, same, ?_⟩
    intro other otherMem
    have held := noneBefore other otherMem
    simp only [decide_not, Bool.not_not, decide_eq_true_eq] at held ⊢
    exact included held
  earlier := fun round before => freeInRound_eq_none_iff.mpr fun other otherMem =>
    included (freeInRound_eq_none_iff.mp (firstFree.earlier round before) other otherMem)

theorem lookup_of_mem_assign (runtime : Runtime) {mapper : NameMapper}
    (hands : Hands key reserved mapper) (originalMem : original ∈ originals) :
    ∃ fake, (mapper.assign runtime originals).map.lookup original = some fake := by
  induction originals generalizing mapper with
  | nil => exact absurd originalMem List.not_mem_nil
  | cons head originals ih =>
    rcases List.mem_cons.mp originalMem with rfl | later
    · have given := lookup_given runtime hands original
      exact ⟨_, lookup_assign (hands.fakeFor original) given originals⟩
    · exact ih (hands.fakeFor head) later

theorem fakeOf_eq (known : ((NameMapper.new key reserved).assign runtime originals).map.lookup
    original = some fake) : fakeOf runtime key reserved originals original = fake := by
  rw [fakeOf, fakeFor, known]

theorem isHome_of_first (original : String) (rest : List String) :
    IsHome runtime key reserved original
      (fakeOf runtime key reserved (original :: rest) original) := by
  have hands := Hands.new key reserved
  have given : ((NameMapper.new key reserved).fakeFor runtime original).1.map.lookup original =
      some ((NameMapper.new key reserved).fakeFor runtime original).2 :=
    lookup_given runtime hands original
  have kept : ((NameMapper.new key reserved).assign runtime (original :: rest)).map.lookup
      original = some ((NameMapper.new key reserved).fakeFor runtime original).2 :=
    lookup_assign (hands.fakeFor original) given rest
  have known : ((NameMapper.new key reserved).map.lookup original) = none := rfl
  rw [fakeOf_eq kept]
  rcases fakeFor_cases runtime hands original with
    ⟨fake, held, -⟩ | ⟨fake, after, roundNo, -, gives, -, firstFree, -⟩
  · rw [known] at held
    cases held
  · rw [gives]
    exact ⟨roundNo, firstFree⟩

theorem exists_isHome (runtime : Runtime) (key : String) (reserved : List String)
    (original : String) : ∃ name, IsHome runtime key reserved original name :=
  ⟨_, isHome_of_first original []⟩

def HomesApart (runtime : Runtime) (key : String) (reserved originals : List String) : Prop :=
  ∀ first ∈ originals, ∀ second ∈ originals, first ≠ second →
    ∀ name, ¬(IsHome runtime key reserved first name ∧ IsHome runtime key reserved second name)

def AtHome (runtime : Runtime) (key : String) (reserved originals : List String)
    (mapper : NameMapper) : Prop :=
  ∀ held ∈ mapper.map, held.1 ∈ originals ∧ IsHome runtime key reserved held.1 held.2

theorem mem_of_lookup_eq_some {α β : Type} [BEq α] [LawfulBEq α] {table : List (α × β)}
    {entry : α} {value : β} (found : table.lookup entry = some value) :
    (entry, value) ∈ table := by
  obtain ⟨before, after, rfl, -⟩ := List.lookup_eq_some_iff.mp found
  exact List.mem_append_right _ List.mem_cons_self

theorem AtHome.fakeFor {mapper : NameMapper} (apart : HomesApart runtime key reserved originals)
    (hands : Hands key reserved mapper) (atHome : AtHome runtime key reserved originals mapper)
    (originalMem : original ∈ originals) :
    AtHome runtime key reserved originals (mapper.fakeFor runtime original).1 := by
  rcases fakeFor_cases runtime hands original with
    ⟨fake, -, gives⟩ | ⟨fake, after, roundNo, isNew, gives, same, firstFree, -⟩
  · rw [gives]
    exact atHome
  · rw [gives]
    obtain ⟨home, homeRound, isHome⟩ :=
      exists_isHome runtime key reserved original
    -- Whoever holds the name has it for a home, and no other original has this one.
    have isFree : home ∉ mapper.taken := by
      rw [hands.mem_taken_iff]
      rintro (isReserved | given)
      · exact (mem_of_freeInRound isHome.free).2 isReserved
      · obtain ⟨⟨holder, _⟩, heldMem, rfl⟩ := List.mem_map.mp given
        obtain ⟨holderMem, holds⟩ := atHome _ heldMem
        have other : holder ≠ original := by
          rintro rfl
          have notHeld := List.lookup_eq_none_iff.mp isNew _ heldMem
          simp at notHeld
        exact apart holder holderMem original originalMem other _ ⟨holds, homeRound, isHome⟩
    have included : reserved ⊆ mapper.taken := fun name nameMem =>
      (hands.mem_taken_iff name).mpr (.inl nameMem)
    have isFake : fake = home := firstFree.unique (isHome.mono included isFree)
    intro held heldMem
    rw [same, List.mem_append, List.mem_singleton] at heldMem
    rcases heldMem with old | rfl
    · exact atHome held old
    · exact ⟨originalMem, homeRound, isFake ▸ isHome⟩

theorem AtHome.assign {mapper : NameMapper} (apart : HomesApart runtime key reserved originals)
    (hands : Hands key reserved mapper) (atHome : AtHome runtime key reserved originals mapper)
    (included : others ⊆ originals) :
    AtHome runtime key reserved originals (mapper.assign runtime others) := by
  induction others generalizing mapper with
  | nil => exact atHome
  | cons original others ih =>
    obtain ⟨originalMem, included⟩ := List.cons_subset.mp included
    exact ih (hands.fakeFor original) (atHome.fakeFor apart hands originalMem) included

theorem isHome_fakeOf (apart : HomesApart runtime key reserved originals)
    (included : others ⊆ originals) (originalMem : original ∈ others) :
    IsHome runtime key reserved original (fakeOf runtime key reserved others original) := by
  have hands := Hands.new key reserved
  have atHome : AtHome runtime key reserved originals (.new key reserved) := fun _ heldMem =>
    absurd heldMem List.not_mem_nil
  obtain ⟨fake, known⟩ := lookup_of_mem_assign runtime hands originalMem
  rw [fakeOf_eq known]
  exact (atHome.assign apart hands included _ (mem_of_lookup_eq_some known)).2

theorem fakeOf_ne (firstMem : first ∈ originals) (secondMem : second ∈ originals)
    (apart : first ≠ second) :
    fakeOf runtime key reserved originals first ≠ fakeOf runtime key reserved originals second := by
  have hands := Hands.new key reserved
  obtain ⟨fake, known⟩ := lookup_of_mem_assign runtime hands firstMem
  obtain ⟨other, otherKnown⟩ := lookup_of_mem_assign runtime hands secondMem
  rw [fakeOf_eq known, fakeOf_eq otherKnown]
  rintro rfl
  have same := List.inj_on_of_nodup_map (hands.assign originals).distinct
    (mem_of_lookup_eq_some known) (mem_of_lookup_eq_some otherKnown) rfl
  exact apart (congrArg Prod.fst same)

theorem fakeOf_unreserved (originalMem : original ∈ originals) :
    fakeOf runtime key reserved originals original ∉ reserved := by
  have hands := Hands.new key reserved
  obtain ⟨fake, known⟩ := lookup_of_mem_assign runtime hands originalMem
  rw [fakeOf_eq known]
  exact (hands.assign originals).unreserved fake
    (List.mem_map.mpr ⟨_, mem_of_lookup_eq_some known, rfl⟩)

theorem fakeFor_eq_fakeOf (met later : List String) (original : String) :
    (((NameMapper.new key reserved).assign runtime met).fakeFor runtime original).2 =
      fakeOf runtime key reserved (met ++ original :: later) original := by
  have hands : Hands key reserved ((NameMapper.new key reserved).assign runtime met) :=
    (Hands.new key reserved).assign met
  have given := lookup_given runtime hands original
  have whole : (NameMapper.new key reserved).assign runtime (met ++ original :: later) =
      (((NameMapper.new key reserved).assign runtime met).fakeFor runtime original).1.assign
        runtime later := by
    simp [NameMapper.assign, List.foldl_append]
  symm
  apply fakeOf_eq
  rw [whole]
  exact lookup_assign (hands.fakeFor original) given later

theorem search_ends (met : List String) (original : String) : ∃ fuel,
    (searchRounds ((NameMapper.new key reserved).assign runtime met).taken
      (slotOf runtime key original) fuel 0
      ((NameMapper.new key reserved).assign runtime met).roundFill).isSome := by
  have ends := isSome_search runtime ((NameMapper.new key reserved).assign runtime met) original
  unfold search at ends
  rw [((Hands.new key reserved).assign met).key_eq] at ends
  exact ⟨_, ends⟩

theorem homesApart_of_anyOrder
    (anyOrder : ∀ others, (∀ name, name ∈ others ↔ name ∈ originals) → ∀ original ∈ originals,
      fakeOf runtime key reserved others original =
        fakeOf runtime key reserved originals original) :
    HomesApart runtime key reserved originals := by
  have atFront (original : String) (originalMem : original ∈ originals) :
      IsHome runtime key reserved original (fakeOf runtime key reserved originals original) := by
    have sameNames (name : String) : name ∈ original :: originals ↔ name ∈ originals := by
      simp only [List.mem_cons, or_iff_right_iff_imp]
      rintro rfl
      exact originalMem
    rw [← anyOrder _ sameNames original originalMem]
    exact isHome_of_first original originals
  rintro first firstMem second secondMem other name ⟨firstHome, secondHome⟩
  apply fakeOf_ne firstMem secondMem other
  rw [(atFront first firstMem).unique firstHome, (atFront second secondMem).unique secondHome]

/-- The fakes are right in every order exactly when no two originals have one home. -/
theorem fakesWell_iff : FakesWell runtime key reserved originals ↔
    HomesApart runtime key reserved originals := by
  constructor
  · intro well
    exact homesApart_of_anyOrder well.anyOrder
  · intro apart
    refine ⟨fun met original _ => search_ends met original, ?_,
      fun first firstMem second secondMem other => fakeOf_ne firstMem secondMem other,
      fun original originalMem => fakeOf_unreserved originalMem, ?_⟩
    · rintro met original later rfl
      exact fakeFor_eq_fakeOf met later original
    · intro others sameNames original originalMem
      have inOthers := isHome_fakeOf apart (fun name nameMem => (sameNames name).mp nameMem)
        ((sameNames original).mpr originalMem)
      exact inOthers.unique (isHome_fakeOf apart (List.Subset.refl originals) originalMem)

end Orders

/-! ### Two originals of one slot -/

namespace NameMapper

/-- The digests of two names, without a seed. -/
def sameSlot : Runtime where
  isAlpha := Char.isAlpha
  isAlnum := Char.isAlphanum
  isDigit := Char.isDigit
  isSpace := Char.isWhitespace
  lower := String.toLower
  readInt := String.toInt?
  digest value _ :=
    if value = "Customer 24" then [8, 214, 111, 98, 92, 225, 199, 85]
    else [254, 160, 141, 63, 27, 47, 202, 213]
  loads _ := none

end NameMapper

/-- Two customers change the fake of the second as they are met the other way around. -/
theorem fakes_depend_on_order :
    fakeOf sameSlot "" [] ["Customer 24", "Customer 35"] "Customer 35" ≠
        fakeOf sameSlot "" [] ["Customer 35", "Customer 24"] "Customer 35" ∧
      ¬FakesWell sameSlot "" [] ["Customer 24", "Customer 35"] := by
  have differs : fakeOf sameSlot "" [] ["Customer 24", "Customer 35"] "Customer 35" ≠
      fakeOf sameSlot "" [] ["Customer 35", "Customer 24"] "Customer 35" := by
    decide +kernel
  refine ⟨differs, fun well => differs ?_⟩
  have sameNames (name : String) : name ∈ ["Customer 35", "Customer 24"] ↔
      name ∈ ["Customer 24", "Customer 35"] := by
    simp [or_comm]
  exact (well.anyOrder _ sameNames "Customer 35" (by decide)).symm

end Scrub

end QuickBooks
