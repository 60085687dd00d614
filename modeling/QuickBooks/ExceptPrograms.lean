import Mathlib.Data.List.Forall2

/-!
# Fallible programs

A program that may refuse is a value of `Except`.  This file gives the
inversion rules for its sequencing, the error conversions that a question mark
performs, and the loop rule for a fold whose body may refuse: an invariant that
every successful iteration keeps holds of a successful result.
-/

namespace ExceptPrograms

universe u

variable {ε ε' : Type} {α β σ : Type u}

theorem bind_eq_ok_iff {program : Except ε α} {next : α → Except ε β} {result : β} :
    program >>= next = .ok result ↔
      ∃ value, program = .ok value ∧ next value = .ok result := by
  cases program with
  | error failure => simp [bind, Except.bind]
  | ok value => simp [bind, Except.bind]

theorem check_bind_eq_ok_iff {check : Except ε PUnit} {next : PUnit → Except ε β}
    {result : β} :
    check >>= next = .ok result ↔ check = .ok ⟨⟩ ∧ next ⟨⟩ = .ok result := by
  rw [bind_eq_ok_iff]
  constructor
  · rintro ⟨⟨⟩, passes, rest⟩
    exact ⟨passes, rest⟩
  · rintro ⟨passes, rest⟩
    exact ⟨⟨⟩, passes, rest⟩

theorem map_eq_ok_iff {program : Except ε α} {change : α → β} {result : β} :
    change <$> program = .ok result ↔
      ∃ value, program = .ok value ∧ change value = result := by
  cases program with
  | error failure => simp [Functor.map, Except.map]
  | ok value => simp [Functor.map, Except.map]

theorem pure_eq_ok_iff {value result : α} :
    (pure value : Except ε α) = .ok result ↔ value = result := by
  simp [pure, Except.pure]

@[simp]
theorem throw_ne_ok {failure : ε} {result : α} :
    ((throw failure : Except ε α) = .ok result) ↔ False := by
  simp [throw, throwThe, MonadExceptOf.throw]

@[simp]
theorem mapError_ok (value : α) (convert : ε → ε') :
    (Except.ok value : Except ε α).mapError convert = .ok value :=
  rfl

@[simp]
theorem mapError_error (failure : ε) (convert : ε → ε') :
    (Except.error failure : Except ε α).mapError convert = .error (convert failure) :=
  rfl

@[simp]
theorem mapError_eq_ok_iff {program : Except ε α} {convert : ε → ε'} {result : α} :
    program.mapError convert = .ok result ↔ program = .ok result := by
  cases program <;> simp

def orRefuse (failure : ε) : Option α → Except ε α
  | some value => .ok value
  | none => .error failure

@[simp]
theorem orRefuse_eq_ok_iff {failure : ε} {candidate : Option α} {result : α} :
    orRefuse failure candidate = .ok result ↔ candidate = some result := by
  cases candidate <;> simp [orRefuse]

def ensure (holds : Bool) (failure : ε) : Except ε Unit :=
  if holds then .ok () else .error failure

@[simp]
theorem ensure_eq_ok_iff {holds : Bool} {failure : ε} {value : Unit} :
    ensure holds failure = .ok value ↔ holds = true := by
  unfold ensure
  split_ifs with holdsHere <;> simp [holdsHere]

@[simp]
theorem toOption_eq_some_iff {program : Except ε α} {result : α} :
    program.toOption = some result ↔ program = .ok result := by
  cases program <;> simp [Except.toOption]

theorem exists_ok_of_map_toOption {γ : Type*} {program : Except ε α} {read : α → γ}
    {seen : γ} (reads : program.toOption.map read = some seen) :
    ∃ result, program = .ok result ∧ read result = seen := by
  cases program with
  | error failure => simp [Except.toOption] at reads
  | ok value => exact ⟨value, rfl, by simpa [Except.toOption] using reads⟩

theorem mapM_eq_ok_iff {body : α → Except ε β} {elements : List α}
    {results : List β} :
    elements.mapM body = .ok results ↔
      List.Forall₂ (fun element result => body element = .ok result)
        elements results := by
  induction elements generalizing results with
  | nil =>
    rw [List.mapM_nil, pure_eq_ok_iff]
    simp [eq_comm]
  | cons element elements ih =>
    rw [List.mapM_cons, bind_eq_ok_iff]
    constructor
    · rintro ⟨result, first, rest⟩
      rw [bind_eq_ok_iff] at rest
      obtain ⟨tail, tailRuns, resultsEq⟩ := rest
      rw [pure_eq_ok_iff] at resultsEq
      subst resultsEq
      exact .cons first (ih.mp tailRuns)
    · rintro (_ | ⟨first, rest⟩)
      rename_i result tail
      refine ⟨result, first, ?_⟩
      rw [bind_eq_ok_iff]
      exact ⟨tail, ih.mpr rest, rfl⟩

theorem map_eq_of_mapM {γ : Type*} {body : α → Except ε β} {read : β → γ}
    {value : α → γ} (reads : ∀ element result, body element = .ok result →
      read result = value element)
    {elements : List α} {results : List β} (runs : elements.mapM body = .ok results) :
    results.map read = elements.map value := by
  rw [mapM_eq_ok_iff] at runs
  induction runs with
  | nil => rfl
  | cons first rest ih => rw [List.map_cons, List.map_cons, reads _ _ first, ih]

theorem forall₂_comp {β γ : Type*} {R : α → β → Prop} {S : β → γ → Prop} {T : α → γ → Prop}
    {first : List α} {second : List β} {third : List γ} (left : List.Forall₂ R first second)
    (right : List.Forall₂ S second third) (comp : ∀ a b c, R a b → S b c → T a c) :
    List.Forall₂ T first third := by
  induction left generalizing third with
  | nil =>
    cases right
    exact .nil
  | cons here _ ih =>
    cases right with
    | cons next rest => exact .cons (comp _ _ _ here next) (ih rest)

theorem exists_of_mem_mapM {body : α → Except ε β} {elements : List α}
    {results : List β} (runs : elements.mapM body = .ok results) {result : β}
    (resultMem : result ∈ results) : ∃ element ∈ elements, body element = .ok result := by
  rw [mapM_eq_ok_iff] at runs
  induction runs with
  | nil => exact absurd resultMem List.not_mem_nil
  | cons first rest ih =>
    rcases List.mem_cons.mp resultMem with here | later
    · subst here
      exact ⟨_, List.mem_cons_self, first⟩
    · obtain ⟨element, elementMem, runsHere⟩ := ih later
      exact ⟨element, List.mem_cons_of_mem _ elementMem, runsHere⟩

theorem exists_mem_of_mapM {body : α → Except ε β} {elements : List α}
    {results : List β} (runs : elements.mapM body = .ok results) {element : α}
    (elementMem : element ∈ elements) : ∃ result ∈ results, body element = .ok result := by
  rw [mapM_eq_ok_iff] at runs
  induction runs with
  | nil => exact absurd elementMem List.not_mem_nil
  | cons first rest ih =>
    rcases List.mem_cons.mp elementMem with here | later
    · subst here
      exact ⟨_, List.mem_cons_self, first⟩
    · obtain ⟨result, resultMem, runsHere⟩ := ih later
      exact ⟨result, List.mem_cons_of_mem _ resultMem, runsHere⟩

theorem exists_mapM_ok {body : α → Except ε β} {elements : List α}
    (succeeds : ∀ element ∈ elements, ∃ result, body element = .ok result) :
    ∃ results, elements.mapM body = .ok results := by
  induction elements with
  | nil => exact ⟨[], rfl⟩
  | cons element elements ih =>
    obtain ⟨result, first⟩ := succeeds element List.mem_cons_self
    obtain ⟨results, rest⟩ := ih fun other otherMem =>
      succeeds other (List.mem_cons_of_mem _ otherMem)
    refine ⟨result :: results, ?_⟩
    rw [mapM_eq_ok_iff] at rest ⊢
    exact .cons first rest

theorem forM_eq_ok_iff {check : α → Except ε PUnit} {elements : List α} :
    elements.forM check = .ok () ↔ ∀ element ∈ elements, check element = .ok () := by
  induction elements with
  | nil => simp [List.forM_eq_forM, pure_eq_ok_iff]
  | cons element elements ih =>
    rw [List.forM_eq_forM] at ih ⊢
    rw [List.forM_cons, bind_eq_ok_iff]
    constructor
    · rintro ⟨⟨⟩, first, rest⟩
      simpa [first] using ih.mp rest
    · intro holds
      exact ⟨(), holds element (by simp),
        ih.mpr fun other otherMem => holds other (by simp [otherMem])⟩

/-! ### Refusals -/

theorem bind_eq_error_iff {program : Except ε α} {next : α → Except ε β} {failure : ε} :
    program >>= next = .error failure ↔
      program = .error failure ∨ ∃ value, program = .ok value ∧ next value = .error failure := by
  cases program with
  | error other =>
    change Except.error other = _ ↔ _
    simp
  | ok value =>
    change next value = _ ↔ _
    simp

theorem ensure_eq_error_iff {holds : Bool} {failure other : ε} :
    ensure holds failure = .error other ↔ holds = false ∧ failure = other := by
  cases holds <;> simp [ensure]

theorem foldlM_invariant_from {step : σ → α → Except ε σ}
    (invariant : List α → σ → Prop)
    (kept : ∀ consumed element before after,
      invariant consumed before → step before element = .ok after →
        invariant (consumed ++ [element]) after)
    {elements : List α} {start finish : σ} (consumed : List α)
    (startHolds : invariant consumed start)
    (succeeds : elements.foldlM step start = .ok finish) :
    invariant (consumed ++ elements) finish := by
  induction elements generalizing start consumed with
  | nil =>
    rw [List.foldlM_nil, pure_eq_ok_iff] at succeeds
    subst finish
    simpa using startHolds
  | cons element elements ih =>
    rw [List.foldlM_cons, bind_eq_ok_iff] at succeeds
    obtain ⟨middle, first, rest⟩ := succeeds
    have middleHolds := kept consumed element start middle startHolds first
    simpa using ih (consumed ++ [element]) middleHolds rest

/-- The loop rule: an invariant of the elements already consumed and the
accumulator, kept by every successful iteration, holds when the loop
succeeds. -/
theorem foldlM_invariant {step : σ → α → Except ε σ}
    (invariant : List α → σ → Prop)
    (kept : ∀ consumed element before after,
      invariant consumed before → step before element = .ok after →
        invariant (consumed ++ [element]) after)
    {elements : List α} {start finish : σ}
    (startHolds : invariant [] start)
    (succeeds : elements.foldlM step start = .ok finish) :
    invariant elements finish := by
  simpa using foldlM_invariant_from invariant kept [] startHolds succeeds

/-- A loop succeeds when an invariant lets every iteration succeed and is kept by
it. -/
theorem exists_foldlM_of_invariant {step : σ → α → Except ε σ}
    (invariant : List α → σ → Prop) {elements : List α}
    (advances : ∀ consumed element rest before, elements = consumed ++ element :: rest →
      invariant consumed before →
        ∃ after, step before element = .ok after ∧ invariant (consumed ++ [element]) after)
    {start : σ} (startHolds : invariant [] start) :
    ∃ finish, elements.foldlM step start = .ok finish ∧ invariant elements finish := by
  have from_here : ∀ rest consumed before, elements = consumed ++ rest →
      invariant consumed before →
        ∃ finish, rest.foldlM step before = .ok finish ∧ invariant elements finish := by
    intro rest
    induction rest with
    | nil =>
      intro consumed before split holds
      rw [List.append_nil] at split
      exact ⟨before, rfl, split ▸ holds⟩
    | cons element rest ih =>
      intro consumed before split holds
      obtain ⟨after, runs, kept⟩ := advances consumed element rest before split holds
      obtain ⟨finish, continues, finishHolds⟩ := ih (consumed ++ [element]) after
        (by rw [split, List.append_assoc, List.singleton_append]) kept
      refine ⟨finish, ?_, finishHolds⟩
      rw [List.foldlM_cons, bind_eq_ok_iff]
      exact ⟨after, runs, continues⟩
  exact from_here elements [] start rfl startHolds

end ExceptPrograms
