import QuickBooks.TransitionRuns

/-!
# Programs that may be interrupted between two requests

A process asks its surroundings to serve one request at a time and goes on with
the answer, and it may end with a refusal.  Each request is one atomic step
whose outcome is up to a fate: the surroundings may serve it, fail, or act and
lose the answer.  A session runs one process after another over a shared world
and may drop the process under way at any moment.

`Meets` says of a process in a world that every request it ever asks is fit for
the world it is asked in, and what holds at its end.  A rule for each way to
build a process derives it, and `session_invariant` turns it into a fact about
every session.
-/

namespace InterruptiblePrograms

/-- A program that asks for one request at a time. -/
inductive Process (Request : Type) (Answer : Request → Type) (ε α : Type) where
  | done (value : α)
  | refused (failure : ε)
  | ask (request : Request) (next : Answer request → Process Request Answer ε α)

namespace Process

variable {Request : Type} {Answer : Request → Type} {ε ε' α β : Type}

def bind : Process Request Answer ε α → (α → Process Request Answer ε β) →
    Process Request Answer ε β
  | done value, next => next value
  | refused failure, _ => refused failure
  | ask request rest, next => ask request fun answer => (rest answer).bind next

instance : Monad (Process Request Answer ε) where
  pure := done
  bind := bind

def call (request : Request) : Process Request Answer ε (Answer request) :=
  ask request done

def expect (convert : ε' → ε) : Except ε' α → Process Request Answer ε α
  | .ok value => done value
  | .error failure => refused (convert failure)

def ensure (condition : Bool) (failure : ε) : Process Request Answer ε Unit :=
  if condition then done () else refused failure

def underWay : Process Request Answer ε α → Option (Process Request Answer ε α)
  | ask request next => some (ask request next)
  | _ => none

end Process

open Process

variable {Request : Type} {Answer : Request → Type} {ε ε' α β ι σ Fate : Type}
variable (serve : Fate → (request : Request) → σ → σ × Answer request)

/-- Serve the requests of a process by the fates; it stops where they end. -/
def run : Process Request Answer ε α → List Fate → σ → σ × Process Request Answer ε α
  | ask request next, fate :: fates, world =>
    let (after, answer) := serve fate request world
    run (next answer) fates after
  | process, _, world => (world, process)

/-- The requests of a process that the fates come to. -/
def asked : Process Request Answer ε α → List Fate → σ → List Request
  | ask request next, fate :: fates, world =>
    request :: asked (next (serve fate request world).2) fates (serve fate request world).1
  | _, _, _ => []

section Conditions

variable (allowed : Fate → Request → σ → Prop)
variable (fit : Request → σ → Prop) (refuses : ε → σ → Prop)

/-- Under the allowed fates, every request is fit for the world it is asked in,
and the ends of the process are as stated. -/
def Meets (returns : α → σ → Prop) : Process Request Answer ε α → σ → Prop
  | done value, world => returns value world
  | refused failure, world => refuses failure world
  | ask request next, world =>
    fit request world ∧ ∀ fate, allowed fate request world →
      Meets returns (next (serve fate request world).2) (serve fate request world).1

end Conditions

section Rules

variable {serve} {allowed : Fate → Request → σ → Prop}
variable {fit : Request → σ → Prop} {refuses : ε → σ → Prop}

theorem meets_bind {returns : β → σ → Prop} {process : Process Request Answer ε α}
    {next : α → Process Request Answer ε β} {world : σ} :
    Meets serve allowed fit refuses returns (process >>= next) world ↔
      Meets serve allowed fit refuses
        (fun value middle => Meets serve allowed fit refuses returns (next value) middle)
        process world := by
  change Meets serve allowed fit refuses returns (process.bind next) world ↔ _
  induction process generalizing world with
  | done value => exact Iff.rfl
  | refused failure => exact Iff.rfl
  | ask request rest ih =>
    simp only [Process.bind, Meets, ih]

theorem meets_expect {returns : α → σ → Prop} {convert : ε' → ε} {outcome : Except ε' α}
    {world : σ} :
    Meets serve allowed fit refuses returns (expect convert outcome) world ↔
      (∀ value, outcome = .ok value → returns value world) ∧
        ∀ failure, outcome = .error failure → refuses (convert failure) world := by
  cases outcome <;> simp [expect, Meets]

theorem meets_ensure {returns : Unit → σ → Prop} {condition : Bool} {failure : ε}
    {world : σ} :
    Meets serve allowed fit refuses returns (ensure condition failure) world ↔
      (condition = true → returns () world) ∧
        (condition = false → refuses failure world) := by
  cases condition <;> simp [ensure, Meets]

theorem Meets.mono {otherFit : Request → σ → Prop} {otherRefuses : ε → σ → Prop}
    {returns otherReturns : α → σ → Prop} {process : Process Request Answer ε α} {world : σ}
    (meets : Meets serve allowed fit refuses returns process world)
    (fits : ∀ request world, fit request world → otherFit request world)
    (refusals : ∀ failure world, refuses failure world → otherRefuses failure world)
    (values : ∀ value world, returns value world → otherReturns value world) :
    Meets serve allowed otherFit otherRefuses otherReturns process world := by
  induction process generalizing world with
  | done value => exact values value world meets
  | refused failure => exact refusals failure world meets
  | ask request next ih =>
    refine ⟨fits request world meets.1, ?_⟩
    intro fate isAllowed
    exact ih _ (meets.2 fate isAllowed)

theorem Meets.imp {returns otherReturns : α → σ → Prop}
    {process : Process Request Answer ε α} {world : σ}
    (meets : Meets serve allowed fit refuses returns process world)
    (values : ∀ value world, returns value world → otherReturns value world) :
    Meets serve allowed fit refuses otherReturns process world :=
  meets.mono (fun _ _ holds => holds) (fun _ _ holds => holds) values

theorem Meets.keep {invariant : σ → Prop} {returns : α → σ → Prop}
    (kept : ∀ fate request world, allowed fate request world → fit request world →
      invariant world → invariant (serve fate request world).1)
    {process : Process Request Answer ε α} {world : σ}
    (meets : Meets serve allowed fit refuses returns process world)
    (holds : invariant world) :
    Meets serve allowed (fun request world => fit request world ∧ invariant world)
      (fun failure world => refuses failure world ∧ invariant world)
      (fun value world => returns value world ∧ invariant world) process world := by
  induction process generalizing world with
  | done value => exact ⟨meets, holds⟩
  | refused failure => exact ⟨meets, holds⟩
  | ask request next ih =>
    refine ⟨⟨meets.1, holds⟩, ?_⟩
    intro fate isAllowed
    exact ih _ (meets.2 fate isAllowed) (kept fate request world isAllowed meets.1 holds)

theorem Meets.asked {returns : α → σ → Prop} {process : Process Request Answer ε α} {world : σ}
    (meets : Meets serve allowed fit refuses returns process world)
    (always : ∀ fate request world, allowed fate request world) {fates : List Fate}
    {request : Request} (requestMem : request ∈ asked serve process fates world) :
    ∃ then', fit request then' := by
  induction process generalizing world fates with
  | done value => cases fates <;> cases requestMem
  | refused failure => cases fates <;> cases requestMem
  | ask first next ih =>
    cases fates with
    | nil => cases requestMem
    | cons fate fates =>
      rcases List.mem_cons.mp requestMem with rfl | later
      · exact ⟨world, meets.1⟩
      · exact ih _ (meets.2 fate (always fate first world)) later

theorem Meets.run {returns : α → σ → Prop} {claim : σ → Prop}
    {process : Process Request Answer ε α} {world : σ}
    (meets : Meets serve allowed fit refuses returns process world)
    (always : ∀ fate request world, allowed fate request world)
    (fits : ∀ request world, fit request world → claim world)
    (refusals : ∀ failure world, refuses failure world → claim world)
    (values : ∀ value world, returns value world → claim world) (fates : List Fate) :
    claim (run serve process fates world).1 := by
  induction process generalizing world fates with
  | done value =>
    cases fates <;> exact values value world meets
  | refused failure =>
    cases fates <;> exact refusals failure world meets
  | ask request next ih =>
    cases fates with
    | nil => exact fits request world meets.1
    | cons fate fates =>
      exact ih _ (meets.2 fate (always fate request world)) fates

theorem meets_foldlM {body : β → ι → Process Request Answer ε β}
    (invariant : List ι → β → σ → Prop)
    (round : ∀ item rest total world, invariant (item :: rest) total world →
      Meets serve allowed fit refuses (invariant rest) (body total item) world)
    {items : List ι} {total : β} {world : σ} (holds : invariant items total world) :
    Meets serve allowed fit refuses (invariant []) (items.foldlM body total) world := by
  induction items generalizing total world with
  | nil => exact holds
  | cons item rest ih =>
    rw [List.foldlM_cons, meets_bind]
    exact (round item rest total world holds).imp fun _ _ => ih

end Rules

/-! ## Sessions -/

/-- A world and the process under way in it, if any. -/
structure Session (Request : Type) (Answer : Request → Type) (ε α σ : Type) where
  world : σ
  running : Option (Process Request Answer ε α)

/-- What may happen next in a session. -/
inductive Move (Command Fate Event : Type) where
  | start (command : Command)
  | serve (fate : Fate)
  | die
  | happen (event : Event)

variable {Command Event : Type} (program : Command → Process Request Answer ε α)
variable (occur : Event → σ → σ)

namespace Session

def idle (world : σ) : Session Request Answer ε α σ :=
  { world, running := none }

/-- A command waits for the process under way; an event from outside too. -/
def step (move : Move Command Fate Event) (session : Session Request Answer ε α σ) :
    Session Request Answer ε α σ :=
  match move, session.running with
  | .start command, none => { session with running := (program command).underWay }
  | .serve fate, some (ask request next) =>
    let (after, answer) := serve fate request session.world
    { world := after, running := (next answer).underWay }
  | .die, _ => { session with running := none }
  | .happen event, none => { session with world := occur event session.world }
  | _, _ => session

end Session

/-- The moves that are taken under the stated conditions. -/
def Permitted (startable : Command → σ → Prop) (allowed : Fate → Request → σ → Prop)
    (mayDie : σ → Prop) (mayHappen : Event → σ → Prop) :
    Move Command Fate Event → Session Request Answer ε α σ → Prop
  | .start command, session => session.running = none → startable command session.world
  | .serve fate, session => ∀ request next, session.running = some (ask request next) →
      allowed fate request session.world
  | .die, session => session.running ≠ none → mayDie session.world
  | .happen event, session => session.running = none → mayHappen event session.world

/-- The request that the session asks for next. -/
def Session.asks? (session : Session Request Answer ε α σ) : Option Request :=
  match session.running with
  | some (ask request _) => some request
  | _ => none

/-- What holds between processes, and of the process under way. -/
def SessionHolds (allowed : Fate → Request → σ → Prop) (fit : Request → σ → Prop)
    (between : σ → Prop) (session : Session Request Answer ε α σ) : Prop :=
  match session.running with
  | none => between session.world
  | some process =>
    Meets serve allowed fit (fun _ => between) (fun _ => between) process session.world

section Invariants

variable {serve program occur}
variable {startable : Command → σ → Prop} {allowed : Fate → Request → σ → Prop}
variable {mayDie : σ → Prop} {mayHappen : Event → σ → Prop}
variable {fit : Request → σ → Prop} {between : σ → Prop}

theorem sessionHolds_underWay {world : σ} {process : Process Request Answer ε α}
    (meets : Meets serve allowed fit (fun _ => between) (fun _ => between) process world) :
    SessionHolds serve allowed fit between { world, running := process.underWay } := by
  cases process with
  | done value => exact meets
  | refused failure => exact meets
  | ask request next => exact meets

/-- A session whose commands meet their conditions, whose deaths and outside
events keep what holds between processes, keeps it throughout. -/
theorem session_invariant
    (commands : ∀ command world, between world → startable command world →
      Meets serve allowed fit (fun _ => between) (fun _ => between) (program command) world)
    (deaths : ∀ request world, fit request world → mayDie world → between world)
    (events : ∀ event world, between world → mayHappen event world →
      between (occur event world))
    {start : Session Request Answer ε α σ} {moves : List (Move Command Fate Event)}
    (startHolds : SessionHolds serve allowed fit between start)
    (permitted : TransitionRuns.EveryStep (Session.step serve program occur)
      (Permitted startable allowed mayDie mayHappen) start moves) :
    SessionHolds serve allowed fit between
      (TransitionRuns.runFrom (Session.step serve program occur) start moves) := by
  refine TransitionRuns.invariant_of_everyStep _ ?_ startHolds permitted
  rintro ⟨world, running⟩ move holds permittedMove
  cases running with
  | none =>
    cases move with
    | start command =>
      exact sessionHolds_underWay (commands command world holds (permittedMove rfl))
    | serve fate => exact holds
    | die => exact holds
    | happen event => exact events event world holds (permittedMove rfl)
  | some process =>
    cases process with
    | done value => cases move <;> exact holds
    | refused failure => cases move <;> exact holds
    | ask request next =>
      cases move with
      | start command => exact holds
      | serve fate =>
        exact sessionHolds_underWay (holds.2 fate (permittedMove request next rfl))
      | die => exact deaths request world holds.1 (permittedMove (by simp))
      | happen event => exact holds

/-- What holds between processes and whenever a request is asked for holds in
every world of such a session. -/
theorem SessionHolds.world {claim : σ → Prop} {session : Session Request Answer ε α σ}
    (holds : SessionHolds serve allowed fit between session)
    (fits : ∀ request world, fit request world → claim world)
    (betweens : ∀ world, between world → claim world) : claim session.world := by
  obtain ⟨world, running⟩ := session
  cases running with
  | none => exact betweens world holds
  | some process =>
    cases process with
    | done value => exact betweens world holds
    | refused failure => exact betweens world holds
    | ask request next => exact fits request world holds.1

theorem SessionHolds.asks {session : Session Request Answer ε α σ} {request : Request}
    (holds : SessionHolds serve allowed fit between session)
    (asked : session.asks? = some request) : fit request session.world := by
  obtain ⟨world, running⟩ := session
  cases running with
  | none => exact nomatch asked
  | some process =>
    cases process with
    | done value => exact nomatch asked
    | refused failure => exact nomatch asked
    | ask next rest =>
      obtain rfl : next = request := Option.some.inj asked
      exact holds.1

theorem SessionHolds.keep {invariant : σ → Prop} {session : Session Request Answer ε α σ}
    (kept : ∀ fate request world, allowed fate request world → fit request world →
      invariant world → invariant (serve fate request world).1)
    (holds : SessionHolds serve allowed fit between session)
    (invariantHolds : invariant session.world) :
    SessionHolds serve allowed (fun request world => fit request world ∧ invariant world)
      (fun world => between world ∧ invariant world) session := by
  obtain ⟨world, running⟩ := session
  cases running with
  | none => exact ⟨holds, invariantHolds⟩
  | some process => exact Meets.keep kept holds invariantHolds

def Session.IsProper (session : Session Request Answer ε α σ) : Prop :=
  ∀ process, session.running = some process → process.underWay = some process

theorem isProper_underWay (world : σ) (process : Process Request Answer ε α) :
    ({ world, running := process.underWay } : Session Request Answer ε α σ).IsProper := by
  intro underWay running
  cases process with
  | done value => exact nomatch running
  | refused failure => exact nomatch running
  | ask request next =>
    obtain rfl := Option.some.inj running
    rfl

theorem isProper_run {start : σ} (moves : List (Move Command Fate Event)) :
    (TransitionRuns.runFrom (Session.step serve program occur) (Session.idle start)
      moves).IsProper := by
  refine TransitionRuns.invariant_of_run _ ?_ (fun process running => nomatch running) moves
  rintro ⟨world, running⟩ move proper
  cases running with
  | none =>
    cases move with
    | start command => exact isProper_underWay world (program command)
    | _ => exact fun process running => nomatch running
  | some process =>
    cases process with
    | done value => exact nomatch proper _ rfl
    | refused failure => exact nomatch proper _ rfl
    | ask request next =>
      cases move with
      | serve fate => exact isProper_underWay _ _
      | die => exact fun process running => nomatch running
      | start command => exact proper
      | happen event => exact proper

theorem SessionHolds.finishes {fate : Fate}
    (always : ∀ request world, allowed fate request world)
    {session : Session Request Answer ε α σ} (proper : session.IsProper)
    (holds : SessionHolds serve allowed fit between session) :
    ∃ calls, (TransitionRuns.runFrom (Session.step serve program occur) session
        (List.replicate calls (.serve fate))).running = none ∧
      between (TransitionRuns.runFrom (Session.step serve program occur) session
        (List.replicate calls (.serve fate))).world := by
  obtain ⟨world, running⟩ := session
  cases running with
  | none => exact ⟨0, rfl, holds⟩
  | some process =>
    have isUnderWay := proper process rfl
    rw [← isUnderWay] at holds ⊢
    clear proper isUnderWay
    induction process generalizing world with
    | done value => exact ⟨0, rfl, holds⟩
    | refused failure => exact ⟨0, rfl, holds⟩
    | ask request next ih =>
      have later := sessionHolds_underWay (holds.2 fate (always request world))
      obtain ⟨calls, ended, holdsThen⟩ := ih _ _ later
      exact ⟨calls + 1, ended, holdsThen⟩

end Invariants

end InterruptiblePrograms
