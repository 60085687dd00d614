import QuickBooks.ExceptPrograms

/-!
# Programs over a shared state

A program reads and writes a state and may refuse.  A refusal keeps the writes
made before it, as separately committed statements do; `atomically` takes them
back, and `attempt` hands a refusal to the caller as a value.  A preorder on
states that every write respects relates the states before and after any
composition of writes, loops included.
-/

namespace TransactionPrograms

universe u

abbrev Program (σ ε : Type u) : Type u → Type u :=
  ExceptT ε (StateM σ)

variable {σ ε ε' α β ι : Type}

def execute (program : Program σ ε α) (before : σ) : Except ε α × σ :=
  (ExceptT.run program).run before

/-- Run all of the program or none of it. -/
def atomically (program : Program σ ε α) : Program σ ε α :=
  ExceptT.mk fun before =>
    match execute program before with
    | (.ok value, after) => (.ok value, after)
    | (.error failure, _) => (.error failure, before)

/-- Hand the outcome of a program to the caller, keeping what it wrote. -/
def attempt (program : Program σ ε α) : Program σ ε' (Except ε α) :=
  ExceptT.mk fun before =>
    match execute program before with
    | (outcome, after) => (.ok outcome, after)

/-- Convert the refusals of a program. -/
def refusingWith (convert : ε → ε') (program : Program σ ε α) : Program σ ε' α :=
  ExceptT.mk fun before =>
    match execute program before with
    | (outcome, after) => (outcome.mapError convert, after)

/-- Run a program on one part of the state. -/
def onPart {τ : Type} (part : σ → τ) (put : τ → σ → σ) (program : Program τ ε α) :
    Program σ ε α :=
  ExceptT.mk fun before =>
    match execute program (part before) with
    | (outcome, after) => (outcome, put after before)

section Execution

variable (before : σ)

@[simp]
theorem execute_pure (value : α) :
    execute (pure value : Program σ ε α) before = (.ok value, before) :=
  rfl

@[simp]
theorem execute_throw (failure : ε) :
    execute (throw failure : Program σ ε α) before = (.error failure, before) :=
  rfl

@[simp]
theorem execute_get :
    execute (get : Program σ ε σ) before = (.ok before, before) :=
  rfl

@[simp]
theorem execute_modify (change : σ → σ) :
    execute (modify change : Program σ ε Unit) before = (.ok (), change before) :=
  rfl

@[simp]
theorem execute_ofExcept (outcome : Except ε α) :
    execute (MonadExcept.ofExcept outcome : Program σ ε α) before = (outcome, before) := by
  cases outcome <;> rfl

theorem exists_execute_ok {program : Program σ ε α}
    (succeeds : (execute program before).1.toOption.isSome = true) :
    ∃ value after, execute program before = (.ok value, after) := by
  rcases runs : execute program before with ⟨outcome, after⟩
  rw [runs] at succeeds
  cases outcome with
  | error failure => simp [Except.toOption] at succeeds
  | ok value => exact ⟨value, after, rfl⟩

theorem execute_bind (program : Program σ ε α) (next : α → Program σ ε β) :
    execute (program >>= next) before =
      match execute program before with
      | (.ok value, middle) => execute (next value) middle
      | (.error failure, middle) => (.error failure, middle) := by
  change StateT.run (ExceptT.bindCont next =<< ExceptT.run program) before = _
  rcases outcomeEq : execute program before with ⟨outcome, middle⟩
  change (ExceptT.run program).run before = _ at outcomeEq
  simp only [Bind.bindLeft, StateT.run_bind, outcomeEq]
  cases outcome <;> rfl

theorem execute_bind_ok {program : Program σ ε α} {next : α → Program σ ε β}
    {value : α} {middle : σ}
    (succeeds : execute program before = (.ok value, middle)) :
    execute (program >>= next) before = execute (next value) middle := by
  rw [execute_bind, succeeds]

theorem execute_bind_state {program : Program σ ε α} {next : α → Program σ ε β}
    (reads : ∀ value middle, (execute (next value) middle).2 = middle) :
    (execute (program >>= next) before).2 = (execute program before).2 := by
  rw [execute_bind]
  rcases execute program before with ⟨outcome, middle⟩
  cases outcome with
  | error failure => rfl
  | ok value => exact reads value middle

theorem execute_bind_error {program : Program σ ε α} {next : α → Program σ ε β}
    {failure : ε} {middle : σ}
    (refuses : execute program before = (.error failure, middle)) :
    execute (program >>= next) before = (.error failure, middle) := by
  rw [execute_bind, refuses]

theorem execute_bind_eq_ok_iff {program : Program σ ε α}
    {next : α → Program σ ε β} {result : β} {after : σ} :
    execute (program >>= next) before = (.ok result, after) ↔
      ∃ value middle, execute program before = (.ok value, middle) ∧
        execute (next value) middle = (.ok result, after) := by
  rw [execute_bind]
  rcases execute program before with ⟨outcome, middle⟩
  cases outcome with
  | error failure => simp
  | ok value =>
    constructor
    · intro rest
      exact ⟨value, middle, rfl, rest⟩
    · rintro ⟨_, _, ⟨⟩, rest⟩
      exact rest

theorem execute_bind_eq_error_iff {program : Program σ ε α}
    {next : α → Program σ ε β} {failure : ε} {after : σ} :
    execute (program >>= next) before = (.error failure, after) ↔
      execute program before = (.error failure, after) ∨
        ∃ value middle, execute program before = (.ok value, middle) ∧
          execute (next value) middle = (.error failure, after) := by
  rw [execute_bind]
  rcases execute program before with ⟨outcome, middle⟩
  cases outcome with
  | error failure => simp
  | ok value =>
    constructor
    · intro rest
      exact .inr ⟨value, middle, rfl, rest⟩
    · rintro (first | ⟨_, _, ⟨⟩, rest⟩)
      · simp at first
      · exact rest

theorem execute_atomically (program : Program σ ε α) :
    execute (atomically program) before =
      match execute program before with
      | (.ok value, after) => (.ok value, after)
      | (.error failure, _) => (.error failure, before) :=
  rfl

theorem execute_atomically_error {program : Program σ ε α} {failure : ε} {after : σ}
    (refuses : execute (atomically program) before = (.error failure, after)) :
    after = before := by
  rw [execute_atomically] at refuses
  split at refuses <;> simp_all

theorem execute_atomically_ok {program : Program σ ε α} {value : α} {after : σ} :
    execute (atomically program) before = (.ok value, after) ↔
      execute program before = (.ok value, after) := by
  rw [execute_atomically]
  rcases execute program before with ⟨outcome, middle⟩
  cases outcome with
  | error failure => simp
  | ok result => simp

@[simp]
theorem execute_attempt (program : Program σ ε α) :
    execute (attempt program : Program σ ε' (Except ε α)) before =
      (.ok (execute program before).1, (execute program before).2) :=
  rfl

@[simp]
theorem execute_refusingWith (convert : ε → ε') (program : Program σ ε α) :
    execute (refusingWith convert program) before =
      ((execute program before).1.mapError convert, (execute program before).2) :=
  rfl

theorem execute_refusingWith_eq_ok_iff {convert : ε → ε'} {program : Program σ ε α} {value : α}
    {after : σ} :
    execute (refusingWith convert program) before = (.ok value, after) ↔
      execute program before = (.ok value, after) := by
  rw [execute_refusingWith]
  rcases execute program before with ⟨outcome, middle⟩
  cases outcome <;> simp

@[simp]
theorem execute_onPart {τ : Type} (part : σ → τ) (put : τ → σ → σ)
    (program : Program τ ε α) :
    execute (onPart part put program) before =
      ((execute program (part before)).1, put (execute program (part before)).2 before) :=
  rfl

end Execution

/-- Whatever the program does, the relation holds between the state before and
the state after it. -/
def Respects (relation : σ → σ → Prop) (program : Program σ ε α) : Prop :=
  ∀ before, relation before (execute program before).2

namespace Respects

variable {relation : σ → σ → Prop}

theorem modify {change : σ → σ} (kept : ∀ before, relation before (change before)) :
    Respects relation (modify change : Program σ ε Unit) :=
  kept

variable [IsPreorder σ relation]

theorem of_state_eq {program : Program σ ε α}
    (reads : ∀ before, (execute program before).2 = before) :
    Respects relation program := by
  intro before
  rw [reads]
  exact refl before

theorem pure (value : α) : Respects relation (pure value : Program σ ε α) :=
  of_state_eq fun _ => rfl

theorem throw (failure : ε) : Respects relation (throw failure : Program σ ε α) :=
  of_state_eq fun _ => rfl

theorem ofExcept (outcome : Except ε α) :
    Respects relation (MonadExcept.ofExcept outcome : Program σ ε α) :=
  of_state_eq fun before => by rw [execute_ofExcept]

/-- A sequence from one state: what follows may use the state and the value
that the first part leaves. -/
theorem bind_from {program : Program σ ε α} {next : α → Program σ ε β} {before : σ}
    (first : relation before (execute program before).2)
    (second : ∀ value middle, execute program before = (.ok value, middle) →
      relation middle (execute (next value) middle).2) :
    relation before (execute (program >>= next) before).2 := by
  rw [execute_bind]
  rcases outcomeEq : execute program before with ⟨outcome, middle⟩
  rw [outcomeEq] at first
  cases outcome with
  | error failure => exact first
  | ok value => exact IsTrans.trans _ _ _ first (second value middle outcomeEq)

theorem bind {program : Program σ ε α} {next : α → Program σ ε β}
    (first : Respects relation program)
    (second : ∀ value, Respects relation (next value)) :
    Respects relation (program >>= next) := by
  intro before
  apply bind_from (first before)
  intro value middle _
  exact second value middle

omit [IsPreorder σ relation] in
/-- A read decides what follows, so the continuation may use the state it
runs in. -/
theorem get_bind {next : σ → Program σ ε β}
    (holds : ∀ before, relation before (execute (next before) before).2) :
    Respects relation (MonadState.get >>= next) := by
  intro before
  rw [execute_bind_ok before (execute_get before)]
  exact holds before

theorem atomically_from {program : Program σ ε α} {before : σ}
    (holds : relation before (execute program before).2) :
    relation before (execute (atomically program) before).2 := by
  rw [execute_atomically]
  rcases outcomeEq : execute program before with ⟨outcome, middle⟩
  rw [outcomeEq] at holds
  cases outcome with
  | error failure => exact refl before
  | ok value => exact holds

theorem atomically {program : Program σ ε α} (holds : Respects relation program) :
    Respects relation (atomically program) :=
  fun before => atomically_from (holds before)

omit [IsPreorder σ relation] in
theorem attempt {program : Program σ ε α} (holds : Respects relation program) :
    Respects relation (attempt program : Program σ ε' (Except ε α)) :=
  holds

omit [IsPreorder σ relation] in
theorem refusingWith {convert : ε → ε'} {program : Program σ ε α}
    (holds : Respects relation program) :
    Respects relation (refusingWith convert program) :=
  holds

end Respects

def NeverRefuses (program : Program σ ε α) : Prop :=
  ∀ before, ∃ value after, execute program before = (.ok value, after)

namespace NeverRefuses

theorem pure (value : α) : NeverRefuses (pure value : Program σ ε α) :=
  fun before => ⟨value, before, rfl⟩

theorem modify (change : σ → σ) : NeverRefuses (modify change : Program σ ε Unit) :=
  fun before => ⟨(), change before, rfl⟩

theorem bind {program : Program σ ε α} {next : α → Program σ ε β}
    (first : NeverRefuses program) (second : ∀ value, NeverRefuses (next value)) :
    NeverRefuses (program >>= next) := by
  intro before
  obtain ⟨value, middle, succeeds⟩ := first before
  rw [execute_bind_ok before succeeds]
  exact second value middle

theorem get_bind {next : σ → Program σ ε β}
    (succeeds : ∀ before, ∃ value after, execute (next before) before = (.ok value, after)) :
    NeverRefuses (MonadState.get >>= next) := by
  intro before
  rw [execute_bind_ok before (execute_get before)]
  exact succeeds before

end NeverRefuses

end TransactionPrograms
