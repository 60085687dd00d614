import Mathlib.Tactic.Linarith
import Mathlib.Tactic.Positivity
import Mathlib.Tactic.Ring

/-!
# Rate limits of a realm

Every request draws a token from the bucket of its class and takes one of the realm's slots
until it is released.  A bucket starts full and refills with time up to its capacity.  In any
stretch of calls it grants at most its capacity and what refills meanwhile.
-/

namespace QuickBooks

namespace RateLimit

/-- Which of the limits an outbound request draws against. -/
inductive BucketClass where
  | general
  | batch
  | reports
deriving DecidableEq

structure BucketBudget where
  capacity : ℚ
  refillPerMinute : ℚ

def BucketBudget.perMinute (rate : ℚ) : BucketBudget where
  capacity := rate
  refillPerMinute := rate

structure RealmLimits where
  general : BucketBudget
  batch : BucketBudget
  reports : BucketBudget
  maxConcurrent : ℕ

/-- A bucket; times are in nanoseconds. -/
structure TokenBucket where
  budget : BucketBudget
  tokens : ℚ
  lastRefill : ℤ

namespace TokenBucket

def new (budget : BucketBudget) (now : ℤ) : TokenBucket where
  budget := budget
  tokens := budget.capacity
  lastRefill := now

def minutesBetween (earlier later : ℤ) : ℚ :=
  (((later - earlier) / 1000000 : ℤ) : ℚ) / 60000

def refill (bucket : TokenBucket) (now : ℤ) : TokenBucket :=
  if now ≤ bucket.lastRefill then bucket
  else
    { bucket with
      tokens := min (bucket.tokens +
        minutesBetween bucket.lastRefill now * bucket.budget.refillPerMinute)
        bucket.budget.capacity
      lastRefill := now }

def tryAcquire (bucket : TokenBucket) (now : ℤ) : TokenBucket × Bool :=
  let refilled := bucket.refill now
  if 1 ≤ refilled.tokens then ({ refilled with tokens := refilled.tokens - 1 }, true)
  else (refilled, false)

end TokenBucket

structure RealmLimiter where
  general : TokenBucket
  batch : TokenBucket
  reports : TokenBucket
  inFlight : ℕ
  maxConcurrent : ℕ

namespace RealmLimiter

def new (limits : RealmLimits) (now : ℤ) : RealmLimiter where
  general := .new limits.general now
  batch := .new limits.batch now
  reports := .new limits.reports now
  inFlight := 0
  maxConcurrent := limits.maxConcurrent

def bucket (limiter : RealmLimiter) : BucketClass → TokenBucket
  | .general => limiter.general
  | .batch => limiter.batch
  | .reports => limiter.reports

def setBucket (limiter : RealmLimiter) (bucket : TokenBucket) : BucketClass → RealmLimiter
  | .general => { limiter with general := bucket }
  | .batch => { limiter with batch := bucket }
  | .reports => { limiter with reports := bucket }

/-- Take a slot for one request, or refuse. -/
def tryAcquire (limiter : RealmLimiter) (drawn : BucketClass) (now : ℤ) : RealmLimiter × Bool :=
  if limiter.maxConcurrent ≤ limiter.inFlight then (limiter, false)
  else
    let (bucket, isGranted) := (limiter.bucket drawn).tryAcquire now
    let limiter := limiter.setBucket bucket drawn
    if isGranted then ({ limiter with inFlight := limiter.inFlight + 1 }, true)
    else (limiter, false)

def release (limiter : RealmLimiter) : RealmLimiter :=
  { limiter with inFlight := limiter.inFlight - 1 }

end RealmLimiter

/-! ### Runs of calls -/

inductive LimiterCall where
  | acquire (drawn : BucketClass) (now : ℤ)
  | release
deriving DecidableEq

def LimiterCall.run (limiter : RealmLimiter) : LimiterCall → RealmLimiter × Bool
  | acquire drawn now => limiter.tryAcquire drawn now
  | release => (limiter.release, false)

def LimiterCall.IsFor (drawn : BucketClass) : LimiterCall → Prop
  | acquire other _ => other = drawn
  | release => False

instance (drawn : BucketClass) : DecidablePred (LimiterCall.IsFor drawn)
  | .acquire other _ => inferInstanceAs (Decidable (other = drawn))
  | .release => isFalse id

def afterCalls (limiter : RealmLimiter) (calls : List LimiterCall) : RealmLimiter :=
  calls.foldl (fun limiter call => (call.run limiter).1) limiter

/-- How many requests of a class the calls are granted. -/
def granted (drawn : BucketClass) : RealmLimiter → List LimiterCall → ℕ
  | _, [] => 0
  | limiter, call :: calls =>
    (if call.IsFor drawn ∧ (call.run limiter).2 then 1 else 0) +
      granted drawn (call.run limiter).1 calls

/-- How many requests are granted and not yet released, from so many before. -/
def outstanding : ℕ → RealmLimiter → List LimiterCall → ℕ
  | held, _, [] => held
  | held, limiter, call :: calls =>
    outstanding (if (call.run limiter).2 then held + 1
      else if call = .release then held - 1 else held) (call.run limiter).1 calls

def Within (first last : ℤ) (calls : List LimiterCall) : Prop :=
  ∀ drawn now, .acquire drawn now ∈ calls → first ≤ now ∧ now ≤ last

/-! ### One bucket -/

/-- A bucket of so many tokens a minute that holds no more than these. -/
structure Fits (rate : ℚ) (bucket : TokenBucket) : Prop where
  budget : bucket.budget = .perMinute rate
  atMost : bucket.tokens ≤ rate
  nonneg : 0 ≤ rate → 0 ≤ bucket.tokens

def minutesInto (first last now : ℤ) : ℚ :=
  ((max first (min last now) - first : ℤ) : ℚ) / 60000000000

/-- What a bucket granted in a window and holds is at most its capacity and what refilled. -/
structure Accounts (rate : ℚ) (first last : ℤ) (used : ℕ) (bucket : TokenBucket) : Prop where
  fits : Fits rate bucket
  unused : bucket.lastRefill < first → used = 0
  bound : used + bucket.tokens ≤ rate + rate * minutesInto first last bucket.lastRefill

variable {rate : ℚ} {first last now : ℤ} {used : ℕ} {bucket : TokenBucket}

theorem minutesInto_nonneg : 0 ≤ minutesInto first last now := by
  have reached : 0 ≤ max first (min last now) - first := sub_nonneg.mpr (le_max_left _ _)
  have cast : (0 : ℚ) ≤ ((max first (min last now) - first : ℤ) : ℚ) := by exact_mod_cast reached
  unfold minutesInto
  positivity

theorem minutesInto_le (ordered : first ≤ last) :
    minutesInto first last now ≤ ((last - first : ℤ) : ℚ) / 60000000000 := by
  have reached : max first (min last now) - first ≤ last - first :=
    sub_le_sub_right (max_le ordered (min_le_left _ _)) _
  unfold minutesInto
  gcongr

theorem minutesBetween_nonneg {earlier later : ℤ} (ordered : earlier ≤ later) :
    0 ≤ TokenBucket.minutesBetween earlier later := by
  have whole : 0 ≤ (later - earlier) / 1000000 :=
    Int.ediv_nonneg (sub_nonneg.mpr ordered) (by decide)
  have cast : (0 : ℚ) ≤ (((later - earlier) / 1000000 : ℤ) : ℚ) := by exact_mod_cast whole
  unfold TokenBucket.minutesBetween
  positivity

theorem minutesBetween_le (earlier later : ℤ) :
    TokenBucket.minutesBetween earlier later ≤ ((later - earlier : ℤ) : ℚ) / 60000000000 := by
  have whole : (later - earlier) / 1000000 * 1000000 ≤ later - earlier :=
    Int.ediv_mul_le _ (by decide)
  have cast : (((later - earlier) / 1000000 : ℤ) : ℚ) * 1000000 ≤ ((later - earlier : ℤ) : ℚ) := by
    exact_mod_cast whole
  unfold TokenBucket.minutesBetween
  rw [div_le_div_iff₀ (by norm_num) (by norm_num)]
  linarith

theorem Fits.new (rate : ℚ) (now : ℤ) : Fits rate (.new (.perMinute rate) now) where
  budget := rfl
  atMost := le_rfl
  nonneg := id

theorem Fits.refill (fits : Fits rate bucket) (now : ℤ) : Fits rate (bucket.refill now) := by
  unfold TokenBucket.refill
  split_ifs with early
  · exact fits
  · refine ⟨fits.budget, ?_, ?_⟩
    · simp only [fits.budget]
      exact min_le_right _ _
    · intro nonneg
      have refilled := mul_nonneg (minutesBetween_nonneg (not_le.mp early).le) nonneg
      have held := fits.nonneg nonneg
      simp only [fits.budget, BucketBudget.perMinute]
      exact le_min (by linarith) nonneg

theorem Fits.tryAcquire (fits : Fits rate bucket) (now : ℤ) :
    Fits rate (bucket.tryAcquire now).1 := by
  have refilled := fits.refill now
  simp only [TokenBucket.tryAcquire]
  split_ifs with enough
  · refine ⟨refilled.budget, ?_, ?_⟩
    · have atMost := refilled.atMost
      simp only
      linarith
    · intro _
      simp only
      linarith
  · exact refilled

theorem Fits.refused_of_neg (fits : Fits rate bucket) (negative : rate < 0) (now : ℤ) :
    (bucket.tryAcquire now).2 = false := by
  have atMost := (fits.refill now).atMost
  have short : ¬1 ≤ (bucket.refill now).tokens := by linarith
  simp only [TokenBucket.tryAcquire, if_neg short]

theorem Accounts.refill (accounts : Accounts rate first last used bucket) (nonneg : 0 ≤ rate)
    (after : first ≤ now) (before : now ≤ last) :
    Accounts rate first last used (bucket.refill now) ∧
      first ≤ (bucket.refill now).lastRefill := by
  have fits := accounts.fits.refill now
  unfold TokenBucket.refill at fits ⊢
  split_ifs at fits ⊢ with early
  · exact ⟨accounts, after.trans early⟩
  · have later : bucket.lastRefill < now := not_le.mp early
    refine ⟨⟨fits, fun isEarly => absurd after (not_le.mpr isEarly), ?_⟩, after⟩
    by_cases started : first ≤ bucket.lastRefill
    · have intoBefore : minutesInto first last bucket.lastRefill =
          ((bucket.lastRefill - first : ℤ) : ℚ) / 60000000000 := by
        rw [minutesInto, min_eq_right (later.le.trans before), max_eq_right started]
      have intoAfter : minutesInto first last now = ((now - first : ℤ) : ℚ) / 60000000000 := by
        rw [minutesInto, min_eq_right before, max_eq_right after]
      have bound := accounts.bound
      have share := mul_le_mul_of_nonneg_right
        (minutesBetween_le bucket.lastRefill now) nonneg
      have tokens : min (bucket.tokens + TokenBucket.minutesBetween bucket.lastRefill now *
          bucket.budget.refillPerMinute) bucket.budget.capacity ≤
          bucket.tokens + TokenBucket.minutesBetween bucket.lastRefill now * rate := by
        rw [accounts.fits.budget]
        exact min_le_left _ _
      rw [intoBefore] at bound
      simp only [intoAfter]
      push_cast at bound share ⊢
      linarith
    · have none := accounts.unused (not_le.mp started)
      have atMost := fits.atMost
      have refilled := mul_nonneg nonneg (minutesInto_nonneg : 0 ≤ minutesInto first last now)
      simp only [none, Nat.cast_zero, zero_add] at atMost ⊢
      linarith

theorem Accounts.tryAcquire (accounts : Accounts rate first last used bucket) (nonneg : 0 ≤ rate)
    (after : first ≤ now) (before : now ≤ last) :
    Accounts rate first last (used + if (bucket.tryAcquire now).2 then 1 else 0)
      (bucket.tryAcquire now).1 := by
  obtain ⟨refilled, started⟩ := accounts.refill nonneg after before
  have fits := accounts.fits.tryAcquire now
  by_cases enough : 1 ≤ (bucket.refill now).tokens
  · have taken : bucket.tryAcquire now =
        ({ bucket.refill now with tokens := (bucket.refill now).tokens - 1 }, true) :=
      if_pos enough
    rw [taken] at fits ⊢
    refine ⟨fits, fun isEarly => absurd started (not_le.mpr isEarly), ?_⟩
    have bound := refilled.bound
    simp only [if_true]
    push_cast
    linarith
  · have refused : bucket.tryAcquire now = (bucket.refill now, false) := if_neg enough
    rw [refused]
    exact refilled

/-! ### A limiter -/

theorem run_cases (limiter : RealmLimiter) (call : LimiterCall) (drawn : BucketClass) :
    (∃ now, call = .acquire drawn now ∧
        (call.run limiter).1.bucket drawn = ((limiter.bucket drawn).tryAcquire now).1 ∧
        (call.run limiter).2 = ((limiter.bucket drawn).tryAcquire now).2) ∨
      (call.run limiter).1.bucket drawn = limiter.bucket drawn ∧
        ¬(call.IsFor drawn ∧ (call.run limiter).2 = true) := by
  cases call with
  | release =>
    right
    cases drawn <;> simp [LimiterCall.run, RealmLimiter.release, RealmLimiter.bucket]
  | acquire other now =>
    by_cases isFull : limiter.maxConcurrent ≤ limiter.inFlight
    · right
      simp [LimiterCall.run, RealmLimiter.tryAcquire, isFull]
    · by_cases same : other = drawn
      · subst same
        left
        refine ⟨now, rfl, ?_⟩
        simp only [LimiterCall.run, RealmLimiter.tryAcquire, if_neg isFull]
        split_ifs with isGranted
        · exact ⟨by cases other <;> rfl, isGranted.symm⟩
        · exact ⟨by cases other <;> rfl, (Bool.eq_false_iff.mpr isGranted).symm⟩
      · right
        refine ⟨?_, fun isFor => same isFor.1⟩
        simp only [LimiterCall.run, RealmLimiter.tryAcquire, if_neg isFull]
        cases other <;> cases drawn <;> split_ifs <;>
          first | rfl | exact absurd rfl same

theorem fits_afterCalls {drawn : BucketClass} {limiter : RealmLimiter} (calls : List LimiterCall)
    (fits : Fits rate (limiter.bucket drawn)) :
    Fits rate ((afterCalls limiter calls).bucket drawn) := by
  induction calls generalizing limiter with
  | nil => exact fits
  | cons call calls ih =>
    apply ih
    rcases run_cases limiter call drawn with ⟨now, -, same, -⟩ | ⟨same, -⟩
    · rw [same]
      exact fits.tryAcquire now
    · rw [same]
      exact fits

theorem Within.of_cons {call : LimiterCall} {calls : List LimiterCall}
    (within : Within first last (call :: calls)) : Within first last calls :=
  fun drawn now nowMem => within drawn now (.tail _ nowMem)

theorem granted_of_neg {drawn : BucketClass} {limiter : RealmLimiter} (calls : List LimiterCall)
    (fits : Fits rate (limiter.bucket drawn)) (negative : rate < 0) :
    granted drawn limiter calls = 0 := by
  induction calls generalizing limiter with
  | nil => rfl
  | cons call calls ih =>
    rcases run_cases limiter call drawn with ⟨now, -, same, sameGrant⟩ | ⟨same, notGranted⟩
    · rw [granted, sameGrant, fits.refused_of_neg negative now, if_neg (by simp),
        ih (same ▸ fits.tryAcquire now)]
    · rw [granted, if_neg notGranted, ih (same.symm ▸ fits)]

theorem granted_le {drawn : BucketClass} {limiter : RealmLimiter} {calls : List LimiterCall}
    (accounts : Accounts rate first last used (limiter.bucket drawn)) (nonneg : 0 ≤ rate)
    (ordered : first ≤ last) (within : Within first last calls) :
    ((used + granted drawn limiter calls : ℕ) : ℚ) ≤
      rate + rate * (((last - first : ℤ) : ℚ) / 60000000000) := by
  induction calls generalizing limiter used with
  | nil =>
    have held := accounts.fits.nonneg nonneg
    have bound := accounts.bound
    have share := mul_le_mul_of_nonneg_left
      (minutesInto_le ordered : minutesInto first last (limiter.bucket drawn).lastRefill ≤ _)
      nonneg
    simp only [granted, add_zero]
    linarith
  | cons call calls ih =>
    rcases run_cases limiter call drawn with ⟨now, rfl, same, sameGrant⟩ | ⟨same, notGranted⟩
    · obtain ⟨after, before⟩ := within drawn now (.head _)
      have next := accounts.tryAcquire nonneg after before
      rw [← same, ← sameGrant] at next
      have rest := ih next within.of_cons
      have isFor : (LimiterCall.acquire drawn now).IsFor drawn := rfl
      rw [granted, ← Nat.add_assoc]
      simpa only [isFor, true_and] using rest
    · rw [granted, if_neg notGranted, zero_add]
      exact ih (same.symm ▸ accounts) within.of_cons

/-! ### Slots -/

/-- A limiter holds a slot for each request that is not released, and no more than it has. -/
structure Slots (held : ℕ) (maxConcurrent : ℕ) (limiter : RealmLimiter) : Prop where
  inFlight : limiter.inFlight = held
  max : limiter.maxConcurrent = maxConcurrent
  atMost : held ≤ maxConcurrent

theorem Slots.run {held maxConcurrent : ℕ} {limiter : RealmLimiter}
    (slots : Slots held maxConcurrent limiter) (call : LimiterCall) :
    Slots (if (call.run limiter).2 then held + 1 else if call = .release then held - 1 else held)
      maxConcurrent (call.run limiter).1 := by
  obtain ⟨inFlight, max, atMost⟩ := slots
  cases call with
  | release =>
    refine ⟨?_, max, (Nat.sub_le _ _).trans atMost⟩
    simp [LimiterCall.run, RealmLimiter.release, inFlight]
  | acquire drawn now =>
    by_cases isFull : limiter.maxConcurrent ≤ limiter.inFlight
    · have refused : (LimiterCall.acquire drawn now).run limiter = (limiter, false) :=
        if_pos isFull
      rw [refused]
      exact ⟨inFlight, max, atMost⟩
    · have room : held + 1 ≤ maxConcurrent := by omega
      let bucket := ((limiter.bucket drawn).tryAcquire now).1
      by_cases isGranted : ((limiter.bucket drawn).tryAcquire now).2 = true
      · have taken : (LimiterCall.acquire drawn now).run limiter =
            ({ limiter.setBucket bucket drawn with
              inFlight := (limiter.setBucket bucket drawn).inFlight + 1 }, true) := by
          simp only [LimiterCall.run, RealmLimiter.tryAcquire, if_neg isFull, if_pos isGranted,
            bucket]
        rw [taken]
        cases drawn <;> exact ⟨congrArg (· + 1) inFlight, max, room⟩
      · have refused : (LimiterCall.acquire drawn now).run limiter =
            (limiter.setBucket bucket drawn, false) := by
          simp only [LimiterCall.run, RealmLimiter.tryAcquire, if_neg isFull, if_neg isGranted,
            bucket]
        rw [refused]
        cases drawn <;> exact ⟨inFlight, max, atMost⟩

theorem outstanding_le {held maxConcurrent : ℕ} {limiter : RealmLimiter}
    (slots : Slots held maxConcurrent limiter) (calls : List LimiterCall) :
    outstanding held limiter calls ≤ maxConcurrent := by
  induction calls generalizing held limiter with
  | nil => exact slots.atMost
  | cons call calls ih => exact ih (slots.run call)

/-! ### Every stretch of calls -/

/-- The limits of a realm with so many requests a minute of each class. -/
def perMinuteLimits (rates : BucketClass → ℚ) (maxConcurrent : ℕ) : RealmLimits where
  general := .perMinute (rates .general)
  batch := .perMinute (rates .batch)
  reports := .perMinute (rates .reports)
  maxConcurrent := maxConcurrent

theorem fits_new (rates : BucketClass → ℚ) (maxConcurrent : ℕ) (start : ℤ)
    (drawn : BucketClass) :
    Fits (rates drawn) ((RealmLimiter.new (perMinuteLimits rates maxConcurrent) start).bucket
      drawn) := by
  cases drawn <;> exact Fits.new _ _

/-- In consecutive calls within a window a class is granted at most its limit and the limit's
share of the window, and no more slots are held than there are. -/
theorem granted_window_le (rates : BucketClass → ℚ) (maxConcurrent : ℕ) (start : ℤ)
    (earlier calls : List LimiterCall) (first last : ℤ) (ordered : first ≤ last)
    (within : Within first last calls) :
    (∀ drawn, (granted drawn (afterCalls (.new (perMinuteLimits rates maxConcurrent) start)
        earlier) calls : ℚ) ≤
      max 0 (rates drawn) * (1 + ((last - first : ℤ) : ℚ) / 60000000000)) ∧
    outstanding 0 (.new (perMinuteLimits rates maxConcurrent) start) (earlier ++ calls) ≤
      maxConcurrent := by
  constructor
  · intro drawn
    have fits := fits_afterCalls earlier (fits_new rates maxConcurrent start drawn)
    rcases lt_or_ge (rates drawn) 0 with negative | nonneg
    · rw [granted_of_neg calls fits negative, max_eq_left negative.le]
      simp
    · have accounts : Accounts (rates drawn) first last 0 ((afterCalls
          (.new (perMinuteLimits rates maxConcurrent) start) earlier).bucket drawn) := by
        refine ⟨fits, fun _ => rfl, ?_⟩
        have refilled := mul_nonneg nonneg (minutesInto_nonneg : 0 ≤ minutesInto first last
          ((afterCalls (.new (perMinuteLimits rates maxConcurrent) start) earlier).bucket
            drawn).lastRefill)
        have atMost := fits.atMost
        simp only [Nat.cast_zero, zero_add]
        linarith
      have bound := granted_le accounts nonneg ordered within
      rw [zero_add] at bound
      rw [max_eq_right nonneg, mul_add, mul_one]
      exact bound
  · have slots : Slots 0 maxConcurrent (.new (perMinuteLimits rates maxConcurrent) start) :=
      ⟨rfl, rfl, Nat.zero_le _⟩
    exact outstanding_le slots (earlier ++ calls)

/-- A stretch of half a minute, after a first request. -/
theorem granted_window_le_burst :
    (0 : ℤ) ≤ 30000000000 ∧
      (∀ drawn, (granted drawn (afterCalls (.new (perMinuteLimits (fun _ => 2) 10) 0)
          [.acquire .general 0]) [.acquire .general 0, .acquire .general 30000000000] : ℚ) ≤
        max 0 2 * (1 + ((30000000000 - 0 : ℤ) : ℚ) / 60000000000)) ∧
      outstanding 0 (.new (perMinuteLimits (fun _ => 2) 10) 0)
        ([.acquire .general 0] ++ [.acquire .general 0, .acquire .general 30000000000]) ≤ 10 :=
  ⟨by decide, granted_window_le (fun _ => 2) 10 0 [.acquire .general 0]
    [.acquire .general 0, .acquire .general 30000000000] 0 30000000000 (by decide) (by
      intro drawn now nowMem
      simp only [List.mem_cons, LimiterCall.acquire.injEq, List.not_mem_nil, or_false] at nowMem
      omega)⟩

/-- A full bucket and its refill come to three requests in half a minute where two a minute
are allowed, and with a clock that steps back five are granted at one time. -/
theorem grants_exceed_limit :
    2 < granted .general (.new (perMinuteLimits (fun _ => 2) 10) 0)
        [.acquire .general 0, .acquire .general 0, .acquire .general 30000000000] ∧
      [LimiterCall.acquire .general 0, .acquire .general 0, .acquire .general 60000000000,
        .acquire .general 0, .acquire .general 120000000000, .acquire .general 0,
        .acquire .general 180000000000, .acquire .general 0].length =
      granted .general (.new (perMinuteLimits (fun _ => 2) 10) 0)
        [.acquire .general 0, .acquire .general 0, .acquire .general 60000000000,
          .acquire .general 0, .acquire .general 120000000000, .acquire .general 0,
          .acquire .general 180000000000, .acquire .general 0] := by
  decide +kernel

/-! ### Waiting and polling -/

end RateLimit

end QuickBooks
