import QuickBooks.BuildVariances
import QuickBooks.StableSorts
import Mathlib.Data.Prod.Lex
import Mathlib.Data.String.Basic

/-!
# The laws of a stock replay

After every event the value is on-hand times average, and the average lies among
the costs seen: the opening cost, what the deliveries cost, and zero where stock
was held before there was an average.  Events of one date may come in any order as
long as its counts keep theirs, and its deliveries too where stock was negative.
-/

/-!
## Replaying a material's stock

Deliveries, uses and counts are replayed in the order of their dates, and on one
day deliveries before uses before counts.  A delivery blends into the average at
its landed cost, a use leaves at the average and a count sets the shelf.  The
value is carried exactly and rounded where it is reported.
-/

namespace QuickBooks

open ExceptPrograms StableSorts

namespace Mfg

/-- Something that changed how much of a material is on the shelf. -/
inductive StockEvent where
  | received (date reference : String) (boardFeet : ℚ) (landed : Money)
  | consumed (date reference : String) (boardFeet : ℚ)
  | counted (date reference : String) (boardFeet : ℚ)
deriving DecidableEq

namespace StockEvent

def date : StockEvent → String
  | received date .. | consumed date .. | counted date .. => date

def reference : StockEvent → String
  | received _ reference .. | consumed _ reference .. | counted _ reference .. => reference

/-- Deliveries land before the day's cutting, and a count is taken at its end. -/
def rank : StockEvent → ℕ
  | received .. => 0
  | consumed .. => 1
  | counted .. => 2

def kind : StockEvent → String
  | received .. => "received"
  | consumed .. => "used"
  | counted .. => "counted"

def key (event : StockEvent) : String ×ₗ ℕ :=
  toLex (event.date, event.rank)

def unitCost : StockEvent → Option ℚ
  | received _ _ boardFeet landed => some (toDecimal landed / boardFeet)
  | _ => none

end StockEvent

structure StockMove where
  date : String
  kind : String
  reference : String
  changeBf : ℚ
  onHandBf : ℚ
  averagePerBf : ℚ
  valueChange : Money
deriving DecidableEq

structure StockState where
  onHandBf : ℚ
  averagePerBf : Option ℚ
  value : Money
  shrinkageBf : ℚ
  shrinkageValue : Money
  wentNegative : Bool
  moves : List StockMove
deriving DecidableEq

/-- What is on the shelf, its value and its average cost, and what counts found
missing. -/
structure Holding where
  onHand : ℚ
  value : ℚ
  average : Option ℚ
  shrinkBf : ℚ
  shrinkValue : ℚ
deriving DecidableEq

def Holding.averageCost (holding : Holding) : ℚ :=
  holding.average.getD 0

def Holding.empty : Holding :=
  ⟨0, 0, none, 0, 0⟩

/-- Where a replay stands. -/
structure Replay where
  holding : Holding
  wentNegative : Bool
  moves : List StockMove
deriving DecidableEq

def Replay.start : Replay :=
  ⟨Holding.empty, false, []⟩

variable (openingAverage : Option ℚ)

/-- The holding after an event, and the board feet in or out.  Negative stock is a
gap in the record, which a delivery fills at its own price. -/
def moved (holding : Holding) : StockEvent → Except CostError (Holding × ℚ)
  | .received _ _ boardFeet landed => do
    ensure (decide (0 < boardFeet)) (.invalid "a delivery brings in more than zero board-feet")
    let landed := toDecimal landed
    let value := if holding.onHand ≤ 0 then landed + holding.onHand * (landed / boardFeet)
      else holding.value + landed
    let onHand := holding.onHand + boardFeet
    let average := if 0 < onHand then value / onHand else landed / boardFeet
    return ({ holding with onHand := onHand, value := value, average := some average },
      boardFeet)
  | .consumed _ _ boardFeet =>
    return ({ holding with
      onHand := holding.onHand - boardFeet
      value := holding.value - boardFeet * holding.averageCost }, -boardFeet)
  | .counted _ _ boardFeet => do
    ensure (decide (0 ≤ boardFeet)) (.invalid "a count cannot be negative")
    let average := holding.average <|> openingAverage
    let difference := boardFeet - holding.onHand
    return (⟨boardFeet, boardFeet * average.getD 0, average, holding.shrinkBf - difference,
      holding.shrinkValue - difference * average.getD 0⟩, difference)

/-- Whether cutting ran the shelf below zero. -/
def runsShort (event : StockEvent) (after : Holding) : Bool :=
  match event with
  | .consumed .. => after.onHand < 0
  | _ => false

def replayStep (replay : Replay) (event : StockEvent) : Except CostError Replay := do
  let (after, change) ← moved openingAverage replay.holding event
  let valueChange ← money (after.value - replay.holding.value)
  return ⟨after, replay.wentNegative || runsShort event after,
    replay.moves ++ [⟨event.date, event.kind, event.reference, rate change, rate after.onHand,
      rate after.averageCost, valueChange⟩]⟩

def replayed (events : List StockEvent) : Except CostError Replay :=
  (sortedBy StockEvent.key events).foldlM (replayStep openingAverage) Replay.start

/-- On-hand, average cost and value of a material, with a cost to value a count by
while there is no average. -/
def stockFrom (events : List StockEvent) : Except CostError StockState := do
  let replay ← replayed openingAverage events
  let value ← money replay.holding.value
  let shrinkageValue ← money replay.holding.shrinkValue
  return ⟨rate replay.holding.onHand, replay.holding.average.map rate, value,
    rate replay.holding.shrinkBf, shrinkageValue, replay.wentNegative, replay.moves⟩

def stock (events : List StockEvent) : Except CostError StockState :=
  stockFrom none events

variable {openingAverage} {holding after : Holding} {event : StockEvent} {change : ℚ}

/-! ### Value -/

def Holding.Sound (holding : Holding) : Prop :=
  holding.value = holding.onHand * holding.averageCost

theorem sound_empty : Holding.empty.Sound := by
  simp [Holding.Sound, Holding.empty]

theorem sound_of_moved (sound : holding.Sound)
    (moves : moved openingAverage holding event = .ok (after, change)) : after.Sound := by
  cases event with
  | received date reference boardFeet landed =>
    simp only [moved, bind_eq_ok_iff, ensure_eq_ok_iff, pure_eq_ok_iff, Prod.mk.injEq,
      decide_eq_true_eq] at moves
    obtain ⟨-, positive, rfl, -⟩ := moves
    simp only [Holding.Sound, Holding.averageCost, Option.getD_some]
    by_cases some : 0 < holding.onHand + boardFeet
    · rw [if_pos some, mul_div_cancel₀ _ some.ne']
    · -- The delivery does not fill the hole: what is still missing is at its price.
      have short : holding.onHand ≤ 0 := by linarith
      rw [if_neg some, if_pos short]
      field_simp
      ring
  | consumed date reference boardFeet =>
    simp only [moved, pure_eq_ok_iff, Prod.mk.injEq] at moves
    obtain ⟨rfl, -⟩ := moves
    simp only [Holding.Sound, Holding.averageCost] at sound ⊢
    rw [sound]
    ring
  | counted date reference boardFeet =>
    simp only [moved, bind_eq_ok_iff, ensure_eq_ok_iff, pure_eq_ok_iff, Prod.mk.injEq,
      decide_eq_true_eq] at moves
    obtain ⟨-, -, rfl, -⟩ := moves
    rfl

end Mfg

end QuickBooks

namespace QuickBooks

open ExceptPrograms StableSorts

namespace Mfg

variable {openingAverage : Option ℚ} {holding after : Holding} {event : StockEvent}
  {change : ℚ} {replay next : Replay} {seen : List StockEvent}

/-! ### The average -/

/-- Stock was on the shelf while there was no average. -/
def HeldUnpriced (openingAverage : Option ℚ) (seen : List StockEvent) : Prop :=
  ∃ earlier rest replay, seen = earlier ++ rest ∧
    earlier.foldlM (replayStep openingAverage) Replay.start = .ok replay ∧
      0 < replay.holding.onHand ∧ replay.holding.average = none

/-- The costs seen so far: the opening cost, what each delivery cost for a board
foot, and zero where stock was held while there was no average. -/
inductive CostSeen (openingAverage : Option ℚ) (seen : List StockEvent) : ℚ → Prop where
  | opening {cost : ℚ} (given : openingAverage = some cost) : CostSeen openingAverage seen cost
  | delivered {event : StockEvent} {cost : ℚ} (eventMem : event ∈ seen)
      (costs : event.unitCost = some cost) : CostSeen openingAverage seen cost
  | unpriced (held : HeldUnpriced openingAverage seen) : CostSeen openingAverage seen 0

def AmongCosts (openingAverage : Option ℚ) (seen : List StockEvent) (cost : ℚ) : Prop :=
  ∃ low high, CostSeen openingAverage seen low ∧ CostSeen openingAverage seen high ∧
    low ≤ cost ∧ cost ≤ high

theorem CostSeen.later {cost : ℚ} (costSeen : CostSeen openingAverage seen cost)
    (event : StockEvent) : CostSeen openingAverage (seen ++ [event]) cost := by
  cases costSeen with
  | opening given => exact .opening given
  | delivered eventMem costs => exact .delivered (List.mem_append_left _ eventMem) costs
  | unpriced held =>
    obtain ⟨earlier, rest, replay, rfl, runs, onHand, none⟩ := held
    exact .unpriced ⟨earlier, rest ++ [event], replay, List.append_assoc .., runs, onHand, none⟩

theorem CostSeen.among {cost : ℚ} (costSeen : CostSeen openingAverage seen cost) :
    AmongCosts openingAverage seen cost :=
  ⟨cost, cost, costSeen, costSeen, le_rfl, le_rfl⟩

theorem AmongCosts.later {cost : ℚ} (among : AmongCosts openingAverage seen cost)
    (event : StockEvent) : AmongCosts openingAverage (seen ++ [event]) cost := by
  obtain ⟨low, high, lowSeen, highSeen, lower, upper⟩ := among
  exact ⟨low, high, lowSeen.later event, highSeen.later event, lower, upper⟩

theorem AmongCosts.blend {average cost onHand boardFeet : ℚ}
    (among : AmongCosts openingAverage seen average) (costSeen : CostSeen openingAverage seen cost)
    (held : 0 < onHand) (delivered : 0 < boardFeet) :
    AmongCosts openingAverage seen
      ((onHand * average + boardFeet * cost) / (onHand + boardFeet)) := by
  obtain ⟨low, high, lowSeen, highSeen, lower, upper⟩ := among
  have positive : 0 < onHand + boardFeet := add_pos held delivered
  rcases le_total cost average with cheaper | dearer
  · refine ⟨cost, high, costSeen, highSeen, ?_, ?_⟩
    · rw [le_div_iff₀ positive]
      nlinarith
    · rw [div_le_iff₀ positive]
      nlinarith
  · refine ⟨low, cost, lowSeen, costSeen, ?_, ?_⟩
    · rw [le_div_iff₀ positive]
      nlinarith
    · rw [div_le_iff₀ positive]
      nlinarith

/-- What a replay keeps: the value is on-hand times average, and the average is
among the costs seen. -/
structure Priced (openingAverage : Option ℚ) (seen : List StockEvent) (replay : Replay) :
    Prop where
  runs : seen.foldlM (replayStep openingAverage) Replay.start = .ok replay
  sound : replay.holding.Sound
  among : ∀ average, replay.holding.average = some average →
    AmongCosts openingAverage seen average

theorem replayStep_eq_ok {event : StockEvent}
    (steps : replayStep openingAverage replay event = .ok next) :
    ∃ change valueChange, moved openingAverage replay.holding event = .ok (next.holding, change) ∧
      money (next.holding.value - replay.holding.value) = .ok valueChange ∧
        next.wentNegative = (replay.wentNegative || runsShort event next.holding) := by
  simp only [replayStep, bind_eq_ok_iff, pure_eq_ok_iff] at steps
  obtain ⟨⟨after, change⟩, moves, valueChange, rounds, rfl⟩ := steps
  exact ⟨change, valueChange, moves, rounds, rfl⟩

theorem Priced.among_averageCost (priced : Priced openingAverage seen replay)
    (held : 0 < replay.holding.onHand) :
    AmongCosts openingAverage seen replay.holding.averageCost := by
  unfold Holding.averageCost
  cases average : replay.holding.average with
  | some cost => exact priced.among cost average
  | none =>
    have unpriced : HeldUnpriced openingAverage seen :=
      ⟨seen, [], replay, (List.append_nil seen).symm, priced.runs, held, average⟩
    exact (CostSeen.unpriced unpriced).among

theorem average_of_received {date reference : String} {boardFeet : ℚ} {landed : Money}
    (sound : holding.Sound)
    (moves : moved openingAverage holding (.received date reference boardFeet landed) =
      .ok (after, change)) :
    0 < boardFeet ∧ after.average = some (if 0 < holding.onHand then
      (holding.onHand * holding.averageCost + boardFeet * (toDecimal landed / boardFeet)) /
        (holding.onHand + boardFeet)
      else toDecimal landed / boardFeet) := by
  simp only [moved, bind_eq_ok_iff, ensure_eq_ok_iff, pure_eq_ok_iff, Prod.mk.injEq,
    decide_eq_true_eq] at moves
  obtain ⟨-, positive, rfl, -⟩ := moves
  refine ⟨positive, ?_⟩
  dsimp only
  congr 1
  rcases lt_or_ge 0 holding.onHand with held | short
  · rw [if_pos (add_pos held positive), if_neg (not_le.mpr held), if_pos held, ← sound,
      mul_div_cancel₀ _ positive.ne']
  · rw [if_pos short, if_neg (not_lt.mpr short)]
    split_ifs with fills
    · rw [div_eq_iff fills.ne']
      field_simp
      ring
    · rfl

theorem Priced.step (priced : Priced openingAverage seen replay)
    (steps : replayStep openingAverage replay event = .ok next) :
    Priced openingAverage (seen ++ [event]) next := by
  obtain ⟨change, valueChange, moves, -, -⟩ := replayStep_eq_ok steps
  refine ⟨?_, sound_of_moved priced.sound moves, ?_⟩
  · rw [List.foldlM_append, bind_eq_ok_iff]
    refine ⟨replay, priced.runs, ?_⟩
    rw [List.foldlM_cons, bind_eq_ok_iff]
    exact ⟨next, steps, rfl⟩
  · intro average averageEq
    cases event with
    | received date reference boardFeet landed =>
      obtain ⟨positive, blended⟩ := average_of_received priced.sound moves
      have costSeen : CostSeen openingAverage
          (seen ++ [.received date reference boardFeet landed])
            (toDecimal landed / boardFeet) :=
        .delivered (List.mem_append_right seen (List.mem_singleton_self _)) rfl
      obtain rfl := Option.some.inj (blended.symm.trans averageEq)
      split_ifs with held
      · exact ((priced.among_averageCost held).later _).blend costSeen held positive
      · exact costSeen.among
    | consumed date reference boardFeet =>
      simp only [moved, pure_eq_ok_iff, Prod.mk.injEq] at moves
      obtain ⟨afterEq, -⟩ := moves
      rw [← afterEq] at averageEq
      exact (priced.among average averageEq).later _
    | counted date reference boardFeet =>
      simp only [moved, bind_eq_ok_iff, ensure_eq_ok_iff, pure_eq_ok_iff,
        Prod.mk.injEq] at moves
      obtain ⟨-, -, afterEq, -⟩ := moves
      rw [← afterEq] at averageEq
      cases known : replay.holding.average with
      | some cost =>
        rw [known] at averageEq
        exact (priced.among average (known.trans averageEq)).later _
      | none =>
        rw [known] at averageEq
        exact (CostSeen.opening averageEq).among

theorem priced_start : Priced openingAverage [] Replay.start where
  runs := rfl
  sound := sound_empty
  among := by
    intro average none
    exact absurd none (by simp [Replay.start, Holding.empty])

theorem priced_of_foldlM {events : List StockEvent}
    (runs : events.foldlM (replayStep openingAverage) Replay.start = .ok replay) :
    Priced openingAverage events replay :=
  foldlM_invariant (Priced openingAverage)
    (fun _ _ _ _ priced steps => priced.step steps) priced_start runs

/-! ### The order of a day -/

/-- The replay as far as the shelf goes. -/
def holdingStep (openingAverage : Option ℚ) (holding : Holding) (event : StockEvent) :
    Except CostError Holding := do
  let (after, _) ← moved openingAverage holding event
  let _ ← money (after.value - holding.value)
  return after

theorem holdingStep_eq_ok_iff :
    holdingStep openingAverage holding event = .ok after ↔
      ∃ change valueChange, moved openingAverage holding event = .ok (after, change) ∧
        money (after.value - holding.value) = .ok valueChange := by
  simp only [holdingStep, bind_eq_ok_iff, pure_eq_ok_iff]
  constructor
  · rintro ⟨⟨found, change⟩, moves, valueChange, rounds, rfl⟩
    exact ⟨change, valueChange, moves, rounds⟩
  · rintro ⟨change, valueChange, moves, rounds⟩
    exact ⟨(after, change), moves, valueChange, rounds, rfl⟩

theorem holdingStep_of_replayStep
    (steps : replayStep openingAverage replay event = .ok next) :
    holdingStep openingAverage replay.holding event = .ok next.holding := by
  obtain ⟨change, valueChange, moves, rounds, -⟩ := replayStep_eq_ok steps
  exact holdingStep_eq_ok_iff.mpr ⟨change, valueChange, moves, rounds⟩

theorem holding_of_foldlM {events : List StockEvent} {finish : Replay}
    (runs : events.foldlM (replayStep openingAverage) replay = .ok finish) :
    events.foldlM (holdingStep openingAverage) replay.holding = .ok finish.holding := by
  induction events generalizing replay with
  | nil =>
    rw [List.foldlM_nil, pure_eq_ok_iff] at runs ⊢
    rw [runs]
  | cons event events ih =>
    rw [List.foldlM_cons, bind_eq_ok_iff] at runs ⊢
    obtain ⟨between, here, rest⟩ := runs
    exact ⟨between.holding, holdingStep_of_replayStep here, ih rest⟩

theorem exists_foldlM_of_holding {events : List StockEvent} {finish : Holding}
    (runs : events.foldlM (holdingStep openingAverage) replay.holding = .ok finish) :
    ∃ replayedAll, events.foldlM (replayStep openingAverage) replay = .ok replayedAll ∧
      replayedAll.holding = finish := by
  induction events generalizing replay with
  | nil =>
    rw [List.foldlM_nil, pure_eq_ok_iff] at runs
    exact ⟨replay, rfl, runs⟩
  | cons event events ih =>
    rw [List.foldlM_cons, bind_eq_ok_iff] at runs
    obtain ⟨between, here, rest⟩ := runs
    obtain ⟨change, valueChange, moves, rounds⟩ := holdingStep_eq_ok_iff.mp here
    have steps : replayStep openingAverage replay event = .ok
        ⟨between, replay.wentNegative || runsShort event between,
          replay.moves ++ [⟨event.date, event.kind, event.reference, rate change,
            rate between.onHand, rate between.averageCost, valueChange⟩]⟩ := by
      simp only [replayStep, bind_eq_ok_iff, pure_eq_ok_iff]
      exact ⟨(between, change), moves, valueChange, rounds, rfl⟩
    obtain ⟨replayedAll, later, same⟩ := @ih ⟨between, _, _⟩ rest
    refine ⟨replayedAll, ?_, same⟩
    rw [List.foldlM_cons, bind_eq_ok_iff]
    exact ⟨_, steps, later⟩

theorem nearest_intCast (number : ℤ) : nearest number = number := by
  have half : ⌊(1 / 2 : ℚ)⌋ = 0 := by
    rw [Int.floor_eq_iff]
    norm_num
  unfold nearest
  split_ifs with negative
  · rw [← Int.cast_neg, Int.floor_intCast_add, half]
    ring
  · rw [Int.floor_intCast_add, half, add_zero]

theorem money_toDecimal (amount : Money) : money (toDecimal amount) = .ok amount := by
  have whole : nearest (toDecimal amount * 100) = amount.minor := by
    rw [toDecimal, div_mul_cancel₀ _ (by norm_num), nearest_intCast]
  rw [money, whole, orRefuse_eq_ok_iff]
  exact Money.ofMinor?_eq_some_iff.mpr rfl

theorem holdingStep_received_iff {date reference : String} {boardFeet : ℚ} {landed : Money}
    (sound : holding.Sound) (notNegative : 0 ≤ holding.onHand) :
    holdingStep openingAverage holding (.received date reference boardFeet landed) =
        .ok after ↔
      0 < boardFeet ∧ after = { holding with
        onHand := holding.onHand + boardFeet
        value := holding.value + toDecimal landed
        average := some ((holding.value + toDecimal landed) / (holding.onHand + boardFeet)) } := by
  have adds : (if holding.onHand ≤ 0 then
      toDecimal landed + holding.onHand * (toDecimal landed / boardFeet)
      else holding.value + toDecimal landed) = holding.value + toDecimal landed := by
    split_ifs with nothing
    · have empty : holding.onHand = 0 := le_antisymm nothing notNegative
      rw [sound, empty, zero_mul, zero_mul, zero_add, add_zero]
    · rfl
  rw [holdingStep_eq_ok_iff]
  simp only [moved, bind_eq_ok_iff, ensure_eq_ok_iff, pure_eq_ok_iff, Prod.mk.injEq,
    decide_eq_true_eq, adds]
  constructor
  · rintro ⟨-, -, ⟨-, positive, rfl, -⟩, -⟩
    rw [if_pos (add_pos_of_nonneg_of_pos notNegative positive)]
    exact ⟨positive, rfl⟩
  · rintro ⟨positive, rfl⟩
    refine ⟨boardFeet, landed, ⟨(), positive, ?_, rfl⟩, ?_⟩
    · rw [if_pos (add_pos_of_nonneg_of_pos notNegative positive)]
    · dsimp only
      rw [add_sub_cancel_left]
      exact money_toDecimal landed

theorem holdingStep_consumed_iff {date reference : String} {boardFeet : ℚ} :
    holdingStep openingAverage holding (.consumed date reference boardFeet) = .ok after ↔
      (∃ valueChange, money (-(boardFeet * holding.averageCost)) = .ok valueChange) ∧
        after = { holding with
          onHand := holding.onHand - boardFeet
          value := holding.value - boardFeet * holding.averageCost } := by
  have change : holding.value - boardFeet * holding.averageCost - holding.value =
      -(boardFeet * holding.averageCost) := by
    ring
  rw [holdingStep_eq_ok_iff]
  simp only [moved, pure_eq_ok_iff, Prod.mk.injEq]
  constructor
  · rintro ⟨-, valueChange, ⟨rfl, -⟩, rounds⟩
    rw [change] at rounds
    exact ⟨⟨valueChange, rounds⟩, rfl⟩
  · rintro ⟨⟨valueChange, rounds⟩, rfl⟩
    refine ⟨-boardFeet, valueChange, ⟨rfl, rfl⟩, ?_⟩
    dsimp only
    rwa [change]

theorem exists_of_rank_zero {event : StockEvent} (rank : event.rank = 0) :
    ∃ date reference boardFeet landed,
      event = .received date reference boardFeet landed := by
  cases event with
  | received date reference boardFeet landed => exact ⟨_, _, _, _, rfl⟩
  | consumed date reference boardFeet => exact absurd rank (by simp [StockEvent.rank])
  | counted date reference boardFeet => exact absurd rank (by simp [StockEvent.rank])

theorem exists_of_rank_one {event : StockEvent} (rank : event.rank = 1) :
    ∃ date reference boardFeet, event = .consumed date reference boardFeet := by
  cases event with
  | received date reference boardFeet landed => exact absurd rank (by simp [StockEvent.rank])
  | consumed date reference boardFeet => exact ⟨_, _, _, rfl⟩
  | counted date reference boardFeet => exact absurd rank (by simp [StockEvent.rank])

theorem deliveries_perm {events others : List StockEvent} (rearranged : events.Perm others)
    (deliveries : ∀ event ∈ events, event.rank = 0) (sound : holding.Sound)
    (notNegative : 0 ≤ holding.onHand)
    (runs : events.foldlM (holdingStep openingAverage) holding = .ok after) :
    others.foldlM (holdingStep openingAverage) holding = .ok after := by
  apply foldlM_perm (fun holding : Holding => holding.Sound ∧ 0 ≤ holding.onHand)
    (fun event => event.rank = 0) _ _ rearranged ⟨sound, notNegative⟩ deliveries runs
  · rintro state event next ⟨sound, notNegative⟩ rank steps
    obtain ⟨change, -, moves, -⟩ := holdingStep_eq_ok_iff.mp steps
    refine ⟨sound_of_moved sound moves, ?_⟩
    obtain ⟨date, reference, boardFeet, landed, rfl⟩ := exists_of_rank_zero rank
    obtain ⟨positive, rfl⟩ := (holdingStep_received_iff sound notNegative).mp steps
    exact add_nonneg notNegative positive.le
  · rintro state first second between finish ⟨sound, notNegative⟩ firstRank secondRank here there
    obtain ⟨change, -, moves, -⟩ := holdingStep_eq_ok_iff.mp here
    have betweenSound := sound_of_moved sound moves
    obtain ⟨date, reference, boardFeet, landed, rfl⟩ := exists_of_rank_zero firstRank
    obtain ⟨date', reference', boardFeet', landed', rfl⟩ := exists_of_rank_zero secondRank
    obtain ⟨positive, rfl⟩ := (holdingStep_received_iff sound notNegative).mp here
    obtain ⟨positive', rfl⟩ := (holdingStep_received_iff betweenSound
      (add_nonneg notNegative positive.le)).mp there
    have otherRuns := (@holdingStep_received_iff openingAverage state _ date' reference' boardFeet'
      landed' sound notNegative).mpr ⟨positive', rfl⟩
    obtain ⟨otherChange, -, otherMoves, -⟩ := holdingStep_eq_ok_iff.mp otherRuns
    refine ⟨_, otherRuns, (holdingStep_received_iff (sound_of_moved sound otherMoves)
      (add_nonneg notNegative positive'.le)).mpr ⟨positive, ?_⟩⟩
    simp only [add_right_comm]

theorem uses_perm {events others : List StockEvent} (rearranged : events.Perm others)
    (uses : ∀ event ∈ events, event.rank = 1)
    (runs : events.foldlM (holdingStep openingAverage) holding = .ok after) :
    others.foldlM (holdingStep openingAverage) holding = .ok after := by
  apply foldlM_perm (fun _ => True) (fun event => event.rank = 1) _ _ rearranged trivial uses runs
  · intros
    trivial
  · intro state first second between finish _ firstRank secondRank here there
    obtain ⟨date, reference, boardFeet, rfl⟩ := exists_of_rank_one firstRank
    obtain ⟨date', reference', boardFeet', rfl⟩ := exists_of_rank_one secondRank
    obtain ⟨rounds, rfl⟩ := holdingStep_consumed_iff.mp here
    obtain ⟨rounds', rfl⟩ := holdingStep_consumed_iff.mp there
    refine ⟨_, holdingStep_consumed_iff.mpr ⟨rounds', rfl⟩,
      holdingStep_consumed_iff.mpr ⟨rounds, ?_⟩⟩
    simp only [Holding.averageCost, sub_right_comm]

def ofDay (rank : ℕ) (events : List StockEvent) (date : String) : List StockEvent :=
  events.filter fun event => event.date = date ∧ event.rank = rank

abbrev deliveriesOn : List StockEvent → String → List StockEvent :=
  ofDay 0

abbrev countsOn : List StockEvent → String → List StockEvent :=
  ofDay 2

theorem fiber_key (events : List StockEvent) (date : String) (rank : ℕ) :
    fiber StockEvent.key events (toLex (date, rank)) = ofDay rank events date := by
  apply List.filter_congr
  intro event _
  simp [StockEvent.key]

/-- The value is on-hand times average, and what was never negative is not. -/
structure Replay.Whole (replay : Replay) : Prop where
  sound : replay.holding.Sound
  notNegative : replay.wentNegative = false → 0 ≤ replay.holding.onHand

theorem whole_start : Replay.start.Whole :=
  ⟨sound_empty, fun _ => le_rfl⟩

theorem Replay.Whole.step (whole : replay.Whole)
    (steps : replayStep openingAverage replay event = .ok next) : next.Whole := by
  obtain ⟨change, valueChange, moves, -, negativeEq⟩ := replayStep_eq_ok steps
  refine ⟨sound_of_moved whole.sound moves, fun never => ?_⟩
  rw [negativeEq, Bool.or_eq_false_iff] at never
  obtain ⟨neverBefore, notNow⟩ := never
  cases event with
  | received date reference boardFeet landed =>
    obtain ⟨positive, afterEq⟩ := (holdingStep_received_iff whole.sound
      (whole.notNegative neverBefore)).mp (holdingStep_of_replayStep steps)
    rw [afterEq]
    exact add_nonneg (whole.notNegative neverBefore) positive.le
  | consumed date reference boardFeet => exact not_lt.mp (of_decide_eq_false notNow)
  | counted date reference boardFeet =>
    simp only [moved, bind_eq_ok_iff, ensure_eq_ok_iff, pure_eq_ok_iff, Prod.mk.injEq,
      decide_eq_true_eq] at moves
    obtain ⟨-, notNegative, afterEq, -⟩ := moves
    rw [← afterEq]
    exact notNegative

theorem Replay.Whole.foldlM {events : List StockEvent} (whole : replay.Whole)
    (runs : events.foldlM (replayStep openingAverage) replay = .ok next) : next.Whole :=
  foldlM_invariant (fun _ replay => replay.Whole)
    (fun _ _ _ _ whole steps => whole.step steps) whole runs

theorem wentNegative_of_foldlM {events : List StockEvent}
    (runs : events.foldlM (replayStep openingAverage) replay = .ok next)
    (never : next.wentNegative = false) : replay.wentNegative = false := by
  induction events generalizing replay with
  | nil =>
    rw [List.foldlM_nil, pure_eq_ok_iff] at runs
    rwa [runs]
  | cons event events ih =>
    rw [List.foldlM_cons, bind_eq_ok_iff] at runs
    obtain ⟨between, steps, rest⟩ := runs
    obtain ⟨change, valueChange, -, -, negativeEq⟩ := replayStep_eq_ok steps
    have neverBetween := ih rest
    rw [negativeEq, Bool.or_eq_false_iff] at neverBetween
    exact neverBetween.1

/-- Events supplied in another order, the counts of each date in the same, and the
deliveries too unless stock was never negative. -/
structure Rearranged (events others : List StockEvent) (neverNegative : Bool) : Prop where
  perm : events.Perm others
  counts : ∀ date, countsOn events date = countsOn others date
  deliveries : neverNegative = true ∨ ∀ date, deliveriesOn events date = deliveriesOn others date

theorem fiber_rearranged {events others : List StockEvent} {label : String ×ₗ ℕ}
    (rearranged : Rearranged events others (!next.wentNegative)) (whole : replay.Whole)
    (runs : (fiber StockEvent.key events label).foldlM (replayStep openingAverage) replay =
      .ok next) :
    (fiber StockEvent.key others label).foldlM (holdingStep openingAverage) replay.holding =
      .ok next.holding := by
  have onShelf := holding_of_foldlM runs
  obtain ⟨date, rank⟩ := label
  change (fiber StockEvent.key events (toLex (date, rank))).foldlM _ _ = _ at runs onShelf
  change (fiber StockEvent.key others (toLex (date, rank))).foldlM _ _ = _
  rw [fiber_key] at runs onShelf ⊢
  have dayPerm : (ofDay rank events date).Perm (ofDay rank others date) :=
    rearranged.perm.filter _
  have ofRank : ∀ event ∈ ofDay rank events date, event.rank = rank :=
    fun event eventMem => (of_decide_eq_true (List.mem_filter.mp eventMem).2).2
  by_cases isDelivery : rank = 0
  · subst isDelivery
    rcases rearranged.deliveries with never | kept
    · have before := wentNegative_of_foldlM runs (Bool.not_eq_true' _ ▸ never)
      exact deliveries_perm dayPerm ofRank whole.sound (whole.notNegative before) onShelf
    · have sameDay : ofDay 0 events date = ofDay 0 others date := kept date
      rwa [← sameDay]
  by_cases isUse : rank = 1
  · subst isUse
    exact uses_perm dayPerm ofRank onShelf
  by_cases isCount : rank = 2
  · subst isCount
    have sameDay : ofDay 2 events date = ofDay 2 others date := rearranged.counts date
    rwa [← sameDay]
  -- No event has another rank.
  have nothing : ofDay rank events date = [] := by
    apply List.eq_nil_iff_forall_not_mem.mpr
    intro event eventMem
    have eventRank := ofRank event eventMem
    cases event <;> simp [StockEvent.rank] at eventRank <;> omega
  have nothingElse : ofDay rank others date = [] := by
    rw [nothing] at dayPerm
    exact List.nil_perm.mp dayPerm
  rw [nothingElse]
  rwa [nothing] at onShelf

theorem foldlM_rearranged {events others : List StockEvent} (known : List (String ×ₗ ℕ))
    (whole : replay.Whole)
    (rearranged : Rearranged events others (!next.wentNegative))
    (runs : (known.flatMap (fiber StockEvent.key events)).foldlM (replayStep openingAverage)
      replay = .ok next) :
    (known.flatMap (fiber StockEvent.key others)).foldlM (holdingStep openingAverage)
      replay.holding = .ok next.holding := by
  induction known generalizing replay with
  | nil => exact holding_of_foldlM runs
  | cons label known ih =>
    rw [List.flatMap_cons, List.foldlM_append, bind_eq_ok_iff] at runs ⊢
    obtain ⟨between, here, rest⟩ := runs
    refine ⟨between.holding, ?_, ih (whole.foldlM here) rest⟩
    apply fiber_rearranged ?_ whole here
    refine ⟨rearranged.perm, rearranged.counts, rearranged.deliveries.imp ?_ id⟩
    intro never
    have neverBetween := wentNegative_of_foldlM rest (Bool.not_eq_true' _ ▸ never)
    rw [neverBetween]
    rfl

theorem exists_replayed_of_rearranged {events others : List StockEvent}
    (runs : replayed openingAverage events = .ok next)
    (rearranged : Rearranged events others (!next.wentNegative)) :
    ∃ other, replayed openingAverage others = .ok other ∧ other.holding = next.holding := by
  unfold replayed at runs ⊢
  rw [sortedBy_eq_flatMap] at runs ⊢
  rw [← labels_perm rearranged.perm]
  apply exists_foldlM_of_holding
  exact foldlM_rearranged _ whole_start rearranged runs

theorem stockFrom_of_holding {events others : List StockEvent} {other : Replay}
    {state : StockState} (runs : replayed openingAverage events = .ok next)
    (otherRuns : replayed openingAverage others = .ok other)
    (same : other.holding = next.holding)
    (reports : stockFrom openingAverage events = .ok state) :
    ∃ otherState, stockFrom openingAverage others = .ok otherState ∧
      otherState.onHandBf = state.onHandBf ∧ otherState.averagePerBf = state.averagePerBf ∧
        otherState.value = state.value := by
  simp only [stockFrom, bind_eq_ok_iff, pure_eq_ok_iff] at reports ⊢
  obtain ⟨found, foundRuns, value, valueRuns, shrinkage, shrinkageRuns, rfl⟩ := reports
  obtain rfl := Except.ok.inj (runs.symm.trans foundRuns)
  refine ⟨_, ⟨other, otherRuns, value, ?_, shrinkage, ?_, rfl⟩, ?_, ?_, rfl⟩
  · rwa [same]
  · rwa [same]
  · dsimp only
    rw [same]
  · dsimp only
    rw [same]

/-- After every event of a replay the value is on-hand times average and the
average is among the costs seen, zero being one of them where stock was held while
there was no average.  What the replay ends with stays the same when events of
equal dates are supplied in another order, except that the counts of a date keep
theirs, and its deliveries too when stock was ever negative. -/
theorem stockReplay_laws (openingAverage : Option ℚ) (events : List StockEvent) :
    (∀ seen replay, seen <+: sortedBy StockEvent.key events →
      seen.foldlM (replayStep openingAverage) Replay.start = .ok replay →
        ∀ average, replay.holding.average = some average →
          replay.holding.value = replay.holding.onHand * average ∧
            AmongCosts openingAverage seen average) ∧
    ∀ replay state, replayed openingAverage events = .ok replay →
      stockFrom openingAverage events = .ok state →
        ∀ others, Rearranged events others (!replay.wentNegative) →
          ∃ other otherState, replayed openingAverage others = .ok other ∧
            stockFrom openingAverage others = .ok otherState ∧
            other.holding = replay.holding ∧ otherState.onHandBf = state.onHandBf ∧
              otherState.averagePerBf = state.averagePerBf ∧ otherState.value = state.value := by
  constructor
  · intro seen replay _ runs average averageEq
    have priced := priced_of_foldlM runs
    refine ⟨?_, priced.among average averageEq⟩
    have sound := priced.sound
    rwa [Holding.Sound, Holding.averageCost, averageEq, Option.getD_some] at sound
  · intro replay state runs reports others rearranged
    obtain ⟨other, otherRuns, same⟩ := exists_replayed_of_rearranged runs rearranged
    obtain ⟨otherState, otherReports, kept⟩ := stockFrom_of_holding runs otherRuns same reports
    exact ⟨other, otherState, otherRuns, otherReports, same, kept⟩

/-- A delivery, a day's cutting and a second delivery of the same day. -/
def twoDeliveries : List StockEvent :=
  [.received "2026-09-01" "PO" 640 (.fromMinor 96000),
    .consumed "2026-09-01" "run" 320,
    .received "2026-09-01" "PO" 640 (.fromMinor 128000)]

theorem twoDeliveries_laws : ∃ replay state,
    replayed none twoDeliveries = .ok replay ∧ stock twoDeliveries = .ok state ∧
      (∀ average, replay.holding.average = some average →
        replay.holding.value = replay.holding.onHand * average) ∧
      ∃ other otherState, replayed none twoDeliveries.reverse = .ok other ∧
        stock twoDeliveries.reverse = .ok otherState ∧ other.holding = replay.holding ∧
          otherState.value = state.value := by
  have reads : (replayed none twoDeliveries).toOption.map Replay.wentNegative =
      some false := by
    decide +kernel
  have reported : (stock twoDeliveries).toOption.map (fun _ => ()) = some () := by
    decide +kernel
  obtain ⟨replay, runs, never⟩ := exists_ok_of_map_toOption reads
  obtain ⟨state, reports, -⟩ := exists_ok_of_map_toOption reported
  obtain ⟨everyEvent, everyOrder⟩ := stockReplay_laws none twoDeliveries
  obtain ⟨other, otherState, otherRuns, otherReports, same, -, -, value⟩ :=
    everyOrder replay state runs reports twoDeliveries.reverse
      ⟨(List.reverse_perm _).symm, fun date => by simp [ofDay, twoDeliveries, StockEvent.rank],
        .inl (by rw [never]; rfl)⟩
  exact ⟨replay, state, runs, reports,
    fun average averageEq => (everyEvent _ replay (List.prefix_refl _) runs average averageEq).1,
    other, otherState, otherRuns, otherReports, same, value⟩

/-- A count before the first delivery pulls the average to half of the only cost
seen; of two counts of a day the one supplied last stays; and deliveries that meet
negative stock leave another value in the other order. -/
theorem stockReplay_depends :
    ((replayed none [.counted "2026-09-01" "month end" 10,
        .received "2026-09-02" "PO" 10 (.fromMinor 1000)]).toOption.bind
      fun replay => replay.holding.average) = some (1 / 2) ∧
    ((replayed none [.counted "2026-09-01" "first" 5,
        .counted "2026-09-01" "second" 7]).toOption.map fun replay => replay.holding.onHand) =
      some 7 ∧
    ((replayed none [.counted "2026-09-01" "second" 7,
        .counted "2026-09-01" "first" 5]).toOption.map fun replay => replay.holding.onHand) =
      some 5 ∧
    ((replayed none [.consumed "2026-09-01" "run" 5,
        .received "2026-09-02" "PO" 10 (.fromMinor 1000),
        .received "2026-09-02" "PO" 10 (.fromMinor 2000)]).toOption.map
      fun replay => replay.holding.value) = some 25 ∧
    ((replayed none [.consumed "2026-09-01" "run" 5,
        .received "2026-09-02" "PO" 10 (.fromMinor 2000),
        .received "2026-09-02" "PO" 10 (.fromMinor 1000)]).toOption.map
      fun replay => replay.holding.value) = some 20 := by
  decide +kernel

end Mfg

end QuickBooks
