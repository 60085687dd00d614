import QuickBooks.TransitionRuns
import Mathlib.Logic.Function.Basic
import Mathlib.Tactic.SplitIfs

/-!
# Rotating tokens

A refresh presents a refresh token, and the server answers with a new one and invalidates the
one presented.  The processes that share the file of the tokens keep what they read of it in
memory.  Only a newest generation is ever good for a refresh, so what is lost between the
answer of the server and the file is not made up for by the previous generations.
-/

namespace QuickBooks.Tokens

open TransitionRuns

structure TokenSet where
  refreshToken : String
  obtainedAt : Int
  refreshExpiresIn : Int

def TokenSet.refreshIsExpired (set : TokenSet) (now : Int) : Bool :=
  decide (set.obtainedAt + set.refreshExpiresIn ≤ now)

structure TokenGenerations where
  current : TokenSet
  previous : List TokenSet

def retainedGenerations : Nat := 2

namespace TokenGenerations

def rotate (generations : TokenGenerations) (next : TokenSet) : TokenGenerations :=
  ⟨next, (generations.current :: generations.previous).take retainedGenerations⟩

def candidates (generations : TokenGenerations) : List TokenSet :=
  generations.current :: generations.previous

def newestUsable (generations : TokenGenerations) (now : Int) : Option TokenSet :=
  generations.candidates.find? fun set => !set.refreshIsExpired now

end TokenGenerations

inductive Place (ι : Type) where
  | file
  | memory (process : ι)
deriving DecidableEq

/-- The generations in the file and the memories, the refresh token that the server takes, and
all that it has issued. -/
structure World (ι : Type) where
  held : Place ι → Option TokenGenerations
  accepted : String
  issued : List String

variable {ι : Type} {world : World ι} {held : TokenGenerations}
  {value : Option TokenGenerations} {place : Place ι} {process : ι} {now : Int}
  {next : TokenSet}

namespace World

def loaded (world : World ι) (process : ι) : Option TokenGenerations :=
  (world.held (.memory process)).or (world.held .file)

/-- Whether the server takes what the process presents. -/
def grants (world : World ι) (process : ι) (now : Int) : Bool :=
  ((world.loaded process).bind fun held => held.newestUsable now).any fun set =>
    set.refreshToken = world.accepted

def issue (world : World ι) (next : TokenSet) : World ι :=
  { world with accepted := next.refreshToken, issued := next.refreshToken :: world.issued }

end World

/-- What is held was issued, and the server takes no previous generation. -/
structure Fits (world : World ι) (held : TokenGenerations) : Prop where
  issued : ∀ set ∈ held.candidates, set.refreshToken ∈ world.issued
  invalid : ∀ set ∈ held.previous, set.refreshToken ≠ world.accepted

def Sound (world : World ι) : Prop :=
  ∀ place held, world.held place = some held → Fits world held

/-- The server takes nothing that is held. -/
def LockedOut (world : World ι) : Prop :=
  ∀ place held, world.held place = some held → ∀ set ∈ held.candidates,
    set.refreshToken ≠ world.accepted

theorem exists_place (found : world.loaded process = some held) :
    ∃ place, world.held place = some held := by
  rcases Option.or_eq_some_iff.mp found with inMemory | ⟨-, inFile⟩
  · exact ⟨_, inMemory⟩
  · exact ⟨_, inFile⟩

theorem grants_iff :
    world.grants process now = true ↔ ∃ held set, world.loaded process = some held ∧
      held.newestUsable now = some set ∧ set.refreshToken = world.accepted := by
  cases found : world.loaded process with
  | none => simp [World.grants, found]
  | some held => simp [World.grants, found, Option.any_eq_true]

/-- What a refresh of a process comes to depends on the newest generation that it has. -/
theorem Sound.grants_iff_newest (sound : Sound world) :
    world.grants process now = true ↔ ∃ held, world.loaded process = some held ∧
      held.current.refreshIsExpired now = false ∧
      held.current.refreshToken = world.accepted := by
  rw [grants_iff]
  constructor
  · rintro ⟨held, set, found, newest, isAccepted⟩
    obtain ⟨place, isHeld⟩ := exists_place found
    rcases List.mem_cons.mp (List.mem_of_find?_eq_some newest) with rfl | retained
    · exact ⟨held, found, by simpa using List.find?_some newest, isAccepted⟩
    · exact absurd isAccepted ((sound place held isHeld).invalid set retained)
  · rintro ⟨held, found, valid, isAccepted⟩
    exact ⟨held, held.current, found, by
      simp [TokenGenerations.newestUsable, TokenGenerations.candidates, valid], isAccepted⟩

theorem Fits.issue (fits : Fits world held) (isFresh : next.refreshToken ∉ world.issued) :
    Fits (world.issue next) held where
  issued set setMem := List.mem_cons_of_mem _ (fits.issued set setMem)
  invalid set setMem (same : _ = next.refreshToken) :=
    isFresh (same ▸ fits.issued set (List.mem_cons_of_mem _ setMem))

theorem Fits.rotate (fits : Fits world held) (isFresh : next.refreshToken ∉ world.issued) :
    Fits (world.issue next) (held.rotate next) where
  issued set setMem := by
    rcases List.mem_cons.mp setMem with rfl | retained
    · exact List.mem_cons_self
    · exact List.mem_cons_of_mem _ (fits.issued set (List.mem_of_mem_take retained))
  invalid set setMem (same : _ = next.refreshToken) :=
    isFresh (same ▸ fits.issued set (List.mem_of_mem_take setMem))

/-- A refresh does not reach the server, its answer does not reach the process, or it is
answered and the rotated generations are written or not. -/
inductive Fate where
  | unreached
  | lost
  | answered (written : Bool)
deriving DecidableEq

inductive Event (ι : Type) where
  | current (process : ι)
  | refresh (process : ι) (now : Int) (next : TokenSet) (fate : Fate)
  | restart (process : ι)

namespace Event

def IsGranted : Event ι → World ι → Prop
  | refresh process now _ fate, world => world.grants process now = true ∧ fate ≠ .unreached
  | _, _ => False

/-- The server issues no token twice. -/
def IsFresh : Event ι → World ι → Prop
  | refresh _ _ next _, world => next.refreshToken ∉ world.issued
  | _, _ => True

/-- No answer is lost, and what is answered is written. -/
def IsKept : Event ι → World ι → Prop
  | refresh _ _ _ fate, _ => fate = .unreached ∨ fate = .answered true
  | _, _ => True

end Event

theorem LockedOut.not_granted {event : Event ι} (locked : LockedOut world) :
    ¬event.IsGranted world := by
  cases event with
  | refresh process now next fate =>
    rintro ⟨granted, -⟩
    obtain ⟨held, set, found, newest, isAccepted⟩ := grants_iff.mp granted
    obtain ⟨place, isHeld⟩ := exists_place found
    exact locked place held isHeld set (List.mem_of_find?_eq_some newest) isAccepted
  | _ => exact id

variable [DecidableEq ι] {event : Event ι}

namespace World

def put (world : World ι) (place : Place ι) (value : Option TokenGenerations) : World ι :=
  { world with held := Function.update world.held place value }

def load (world : World ι) (process : ι) : World ι :=
  world.put (.memory process) (world.loaded process)

def answer (world : World ι) (process : ι) (next : TokenSet) : Fate → World ι
  | .answered written =>
    let rotated := (world.loaded process).map fun held => held.rotate next
    let world := (world.issue next).put (.memory process) rotated
    if written then world.put .file rotated else world
  | _ => (world.load process).issue next

/-- The file after an authorisation. -/
def authorised (set : TokenSet) : World ι :=
  ⟨Function.update (fun _ => none) .file (some ⟨set, []⟩), set.refreshToken,
    [set.refreshToken]⟩

end World

def step : Event ι → World ι → World ι
  | .current process, world => world.load process
  | .refresh process now next fate, world =>
    if world.grants process now = true ∧ fate ≠ .unreached then world.answer process next fate
    else world.load process
  | .restart process, world => world.put (.memory process) none

theorem held_put {other : Place ι} (found : (world.put place value).held other = some held) :
    world.held other = some held ∨ value = some held := by
  by_cases same : other = place
  · subst same
    exact .inr (by simpa [World.put] using found)
  · exact .inl (by simpa [World.put, Function.update_of_ne same] using found)

theorem Sound.put (sound : Sound world) (fits : ∀ held, value = some held → Fits world held) :
    Sound (world.put place value) := by
  intro other held found
  obtain ⟨issued, invalid⟩ := (held_put found).elim (sound other held) (fits held)
  exact ⟨issued, invalid⟩

theorem Sound.load (sound : Sound world) : Sound (world.load process) := by
  refine sound.put fun held found => ?_
  obtain ⟨place, isHeld⟩ := exists_place found
  exact sound place held isHeld

theorem Sound.step (sound : Sound world) (isFresh : event.IsFresh world) :
    Sound (step event world) := by
  cases event with
  | current process => exact sound.load
  | restart process => exact sound.put (by simp)
  | refresh process now next fate =>
    rw [Tokens.step]
    split_ifs with isGranted
    · cases fate with
      | answered written =>
        have fits (held) (isRotated : ((world.loaded process).map fun held =>
            held.rotate next) = some held) : Fits (world.issue next) held := by
          obtain ⟨old, found, rfl⟩ := Option.map_eq_some_iff.mp isRotated
          obtain ⟨place, isHeld⟩ := exists_place found
          exact (sound place old isHeld).rotate isFresh
        have issued : Sound (world.issue next) :=
          fun place held found => (sound place held found).issue isFresh
        dsimp only [World.answer]
        split_ifs
        · exact (issued.put fits).put fun held isRotated =>
            ⟨(fits held isRotated).issued, (fits held isRotated).invalid⟩
        · exact issued.put fits
      | _ => exact fun place held found => (sound.load place held found).issue isFresh
    · exact sound.load

theorem LockedOut.put (locked : LockedOut world)
    (isHeld : ∀ held, value = some held → ∃ place, world.held place = some held) :
    LockedOut (world.put place value) := by
  intro other held found
  rcases held_put found with before | isValue
  · exact locked other held before
  · obtain ⟨source, fromSource⟩ := isHeld held isValue
    exact locked source held fromSource

theorem LockedOut.step (locked : LockedOut world) : LockedOut (step event world) := by
  have refused : ¬event.IsGranted world := locked.not_granted
  cases event with
  | restart process => exact locked.put (by simp)
  | current process => exact locked.put fun held => exists_place
  | refresh process now next fate =>
    rw [Event.IsGranted] at refused
    rw [Tokens.step, if_neg refused]
    exact locked.put fun held => exists_place

theorem Sound.lockedOut_of_lost (sound : Sound world)
    (isFresh : (Event.refresh process now next .lost).IsFresh world)
    (isGranted : (Event.refresh process now next .lost).IsGranted world) :
    LockedOut (Tokens.step (.refresh process now next .lost) world) := by
  rw [Event.IsGranted] at isGranted
  rw [Tokens.step, if_pos isGranted]
  intro place held found set setMem (same : _ = next.refreshToken)
  exact isFresh (same ▸ (sound.load place held found).issued set setMem)

def InStep (world : World ι) : Prop :=
  ∃ held, world.held .file = some held ∧ held.current.refreshToken = world.accepted

theorem InStep.step (inStep : InStep world) (isKept : event.IsKept world) :
    InStep (step event world) := by
  have put {process value} : InStep (world.put (.memory process) value) := by
    simpa [InStep, World.put] using inStep
  cases event with
  | refresh process now next fate =>
    rw [Tokens.step]
    split_ifs with isGranted
    · obtain rfl | rfl := isKept
      · exact absurd rfl isGranted.2
      · obtain ⟨held, -, found, -⟩ := grants_iff.mp isGranted.1
        exact ⟨held.rotate next, by simp [World.answer, World.put, found], rfl⟩
    · exact put
  | _ => exact put

/-- In every run of several processes over one file, each refresh that the server grants
presents a newest generation, the file keeps up with the server while no answer is lost and
each is written, and after an answer is lost no refresh is ever granted again. -/
theorem previous_generations_never_help (set : TokenSet) (events : List (Event ι))
    (fresh : EveryStep step Event.IsFresh (.authorised set) events) :
    let world := runFrom step (.authorised set) events
    (∀ process now, world.grants process now = true ↔ ∃ held,
      world.loaded process = some held ∧ held.current.refreshIsExpired now = false ∧
        held.current.refreshToken = world.accepted) ∧
    (EveryStep step Event.IsKept (.authorised set) events → InStep world) ∧
    ∀ process now next later, (Event.refresh process now next .lost).IsFresh world →
      (Event.refresh process now next .lost).IsGranted world →
      EveryStep step (fun event world => ¬event.IsGranted world)
        (step (.refresh process now next .lost) world) later := by
  have nothing : Sound (⟨fun _ => none, set.refreshToken, [set.refreshToken]⟩ : World ι) := by
    simp [Sound]
  have start : Sound (.authorised set : World ι) := by
    refine nothing.put ?_
    rintro held ⟨⟩
    constructor <;> simp [TokenGenerations.candidates]
  have sound := invariant_of_everyStep Sound (fun _ _ sound isFresh => sound.step isFresh)
    start fresh
  refine ⟨fun process now => sound.grants_iff_newest, ?_, ?_⟩
  · exact invariant_of_everyStep InStep (fun _ _ inStep isKept => inStep.step isKept)
      ⟨⟨set, []⟩, by simp [World.authorised], rfl⟩
  · intro process now next later isFresh isGranted
    exact (everyStep_of_forall fun _ _ _ => trivial).of_invariant LockedOut
      (fun _ _ locked (_ : True) => locked.step) (fun _ _ locked _ => locked.not_granted)
      (sound.lockedOut_of_lost isFresh isGranted)

theorem previous_generations_never_help_lostAnswer :
    EveryStep step (fun event world => ¬event.IsGranted world)
      (step (.refresh true 2 ⟨"third", 2, 100⟩ .lost)
        (runFrom step (.authorised ⟨"first", 0, 100⟩)
          [Event.refresh false 1 ⟨"second", 1, 100⟩ (.answered true)]))
      [.refresh true 3 ⟨"fourth", 3, 100⟩ (.answered true), .restart true,
        .refresh true 4 ⟨"fourth", 4, 100⟩ (.answered true)] :=
  (previous_generations_never_help ⟨"first", 0, 100⟩
    [Event.refresh false 1 ⟨"second", 1, 100⟩ (.answered true)]
    ⟨by simp [Event.IsFresh, World.authorised], trivial⟩).2.2 true 2 ⟨"third", 2, 100⟩ _
    (by rw [Event.IsFresh]; decide)
    ⟨by decide, by simp⟩

end QuickBooks.Tokens
