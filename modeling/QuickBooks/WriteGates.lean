import QuickBooks.SyncSteps
import QuickBooks.OutboxSteps

/-!
# Which companies take writes

Writes are off for a company until they are switched on.  A production company
needs a read-only period since its first complete sweep, the explicit go, and no
other production company with writes on.  When the first sweep was is read from
the last sweep of each type.
-/

/-!
## Whose records a command writes

A command that queues or sends first asks whether the writes of its company are
on, and whatever it then queues or sends is of that company.
-/

namespace QuickBooks.Outbox

open InterruptiblePrograms

/-- The company of a call that queues a record or sends one. -/
def Call.writesTo? : Call → Option String
  | .enqueue record => some record.realmId
  | .findByName realm _ _ | .create realm _ _ _ | .update realm _ _ _ _ _ => some realm
  | _ => none

def WithinRealms (outbox : List OutboxRecord) : Prop :=
  ∀ row ∈ outbox, ∀ id, row.dependsOn = some id →
    ∃ parent ∈ outbox, parent.id = id ∧ parent.realmId = row.realmId

section Rows

variable {command : Command} {before now after : World} {fate : Fate} {call : Call}
  {world : World}

theorem WithinRealms.sameRealmParents (within : WithinRealms world.store.outbox)
    (sound : Sound world) : SameRealmParents world.store.outbox := by
  intro row rowMem parent parentMem depends _ _
  obtain ⟨other, otherMem, sameId, sameRealm⟩ := within row rowMem parent.id depends
  rw [eq_of_id_eq sound.distinctIds otherMem parentMem sameId] at sameRealm
  exact sameRealm

theorem WithinRealms.saving (within : WithinRealms now.store.outbox) (record : OutboxRecord) :
    WithinRealms (now.saving record).store.outbox := by
  intro row rowMem id depends
  obtain ⟨old, oldMem, rfl⟩ := List.mem_map.mp rowMem
  have same := sameRequest_savedRow record old
  obtain ⟨parent, parentMem, sameId, sameRealm⟩ :=
    within old oldMem id (same.dependsOn_eq.symm.trans depends)
  have parentSame := sameRequest_savedRow record parent
  exact ⟨_, List.mem_map_of_mem parentMem, parentSame.id_eq.trans sameId,
    (parentSame.realmId_eq.trans sameRealm).trans same.realmId_eq.symm⟩

theorem WithinRealms.queued (within : WithinRealms now.store.outbox) {record : OutboxRecord}
    (sameStore : now.store = before.store) (queued : Queued before record) :
    WithinRealms (now.store.outbox ++ [record]) := by
  intro row rowMem id depends
  rcases List.mem_append.mp rowMem with old | new
  · obtain ⟨parent, parentMem, isParent⟩ := within row old id depends
    exact ⟨parent, List.mem_append_left _ parentMem, isParent⟩
  · rw [List.mem_singleton.mp new] at depends ⊢
    obtain ⟨parent, parentMem, sameId, sameRealm, -⟩ := queued.parent id depends
    exact ⟨parent, List.mem_append_left _ (sameStore ▸ parentMem), sameId, sameRealm⟩

theorem WithinRealms.change (within : WithinRealms now.store.outbox)
    (change : Change command before now fate call after) : WithinRealms after.store.outbox := by
  cases change with
  | saved row record rowMem same why isCall => exact within.saving record
  | queued record sameStore freshId freshRequest freshLog queued queues ordered minted isCall =>
    exact within.queued sameStore queued
  | mapped realm localEntityId qboId assigned isCall =>
    change WithinRealms (now.store.recordIdMapping realm localEntityId qboId).outbox
    unfold Store.recordIdMapping
    split_ifs
    · exact within
    · exact within
  | _ => exact within

theorem within_run (sound : Sound world) (within : WithinRealms world.store.outbox)
    (command : Command) (fates : List Fate) :
    Sound (run serve (program command) fates world).1 ∧
      WithinRealms (run serve (program command) fates world).1.store.outbox := by
  have meets : Meets serve (fun _ _ _ => True) (CommandFit command world) (fun _ => Sound)
      (fun _ => Sound) (program command) world :=
    meets_program command sound
  have step : ∀ fate call now, True → CommandFit command world call now →
      WithinRealms now.store.outbox → WithinRealms (serve fate call now).1.store.outbox :=
    fun _ _ _ _ fits holds => holds.change (change_serve sound fits)
  have kept := meets.keep step within
  exact kept.run (fun _ _ _ => trivial) (fun _ _ holds => ⟨holds.1.1, holds.2⟩)
    (fun _ _ holds => holds) (fun _ _ holds => holds) fates

end Rows

section Gates

variable {command : Command} {world : World} {realm : String}

theorem writesTo?_of_asked (sound : Sound world) (within : WithinRealms world.store.outbox)
    {fates : List Fate} {call : Call}
    (callMem : call ∈ asked serve (program command) fates world)
    (writes : call.writesTo? = some realm) : realm = command.realm := by
  have meets : Meets serve (fun _ _ _ => True) (CommandFit command world) (fun _ => Sound)
      (fun _ => Sound) (program command) world :=
    meets_program command sound
  obtain ⟨now, -, fit⟩ := meets.asked (fun _ _ _ => trivial) callMem
  have sameRealm := within.sameRealmParents sound
  cases call with
  | enqueue record =>
    cases writes
    obtain ⟨queues, -⟩ := fit
    cases command with
    | queueCreate realm entityType payload time => exact queues.2.1
    | queueUpdate realm entityType qboId payload time => exact queues.2.1
    | resolve realm id resolution time => exact queues.elim
    | drainOnce realm time => exact queues.elim
  | findByName other entityType name =>
    cases writes
    obtain ⟨-, row, idMap, payload, -, -, -, -, -, inRealm⟩ := fit
    exact inRealm sameRealm
  | create other entityType payload requestId =>
    cases writes
    obtain ⟨-, row, idMap, -, -, -, -, -, inRealm⟩ := fit
    exact inRealm sameRealm
  | update other entityType qboId payload baseSyncToken requestId =>
    cases writes
    obtain ⟨-, row, idMap, -, -, -, -, -, -, -, inRealm⟩ := fit
    exact inRealm sameRealm
  | _ => cases writes

def AsksNoWrite (world : World) {α : Type} (process : Writing α) : Prop :=
  Meets serve (fun _ _ _ => True) (fun call _ => call.writesTo? = none) (fun _ _ => True)
    (fun _ _ => True) process world

def StopsUnsent (world : World) {α : Type} (process : Writing α) : Prop :=
  Meets serve (fun _ _ _ => True) (fun call _ => call.writesTo? = none) (fun _ _ => True)
    (fun _ _ => False) process world

theorem StopsUnsent.bind {α β : Type} {process : Writing α} (stops : StopsUnsent world process)
    (next : α → Writing β) : StopsUnsent world (process >>= next) :=
  meets_bind.mpr (stops.imp fun _ _ => False.elim)

theorem StopsUnsent.asksNoWrite {α : Type} {process : Writing α}
    (stops : StopsUnsent world process) : AsksNoWrite world process :=
  stops.imp fun _ _ => False.elim

theorem AsksNoWrite.unit {α : Type} {process : Writing α} (asks : AsksNoWrite world process) :
    AsksNoWrite world (process >>= fun _ => pure ()) :=
  meets_bind.mpr asks

theorem stopsUnsent_requireWrites (off : realm ∉ world.store.writeEnabled) :
    StopsUnsent world (requireWrites realm) := by
  have isOff : world.store.writeEnabled.contains realm = false := by simpa using off
  refine ⟨rfl, ?_⟩
  rintro (_ | error | error) -
  · change Meets _ _ _ _ _
      (Process.ensure (world.store.writeEnabled.contains realm) WriteError.writesOff) world
    rw [isOff]
    trivial
  · trivial
  · trivial

theorem stopsUnsent_queue (off : realm ∉ world.store.writeEnabled) (entityType : EntityType)
    (operation : Operation) (localEntityId : String) (payload : Json)
    (baseSyncToken : Option String) (now : Int) :
    StopsUnsent world
      (queue realm entityType operation localEntityId payload baseSyncToken now) :=
  (stopsUnsent_requireWrites off).bind _

theorem stopsUnsent_queueCreate (off : realm ∉ world.store.writeEnabled)
    (entityType : EntityType) (payload : Json) (now : Int) :
    StopsUnsent world (queueCreate realm entityType payload now) := by
  refine ⟨rfl, fun fate _ => ?_⟩
  have same : (serve fate .newUuid world).1.store = world.store := by
    cases fate <;> rfl
  exact stopsUnsent_queue (same ▸ off) _ _ _ _ _ _

theorem stopsUnsent_queueUpdate (off : realm ∉ world.store.writeEnabled)
    (entityType : EntityType) (qboId : String) (payload : Json) (now : Int) :
    StopsUnsent world (queueUpdate realm entityType qboId payload now) := by
  unfold queueUpdate
  apply meets_getEntity realm entityType qboId (by rfl) _ fun _ => trivial
  cases world.store.getEntity realm entityType qboId with
  | none => trivial
  | some entity =>
    dsimp only
    split_ifs
    · trivial
    · exact stopsUnsent_queue off _ _ _ _ _ _

theorem asksNoWrite_resolve (off : realm ∉ world.store.writeEnabled) (id : Nat)
    (resolution : Resolution) (now : Int) :
    AsksNoWrite world (resolve realm id resolution now) := by
  unfold resolve
  apply meets_outboxRecord id (by rfl) _ fun _ => trivial
  cases world.store.outboxRecord id with
  | none => trivial
  | some record =>
    dsimp only
    split_ifs
    · trivial
    · cases resolution with
      | discard =>
        refine meets_bind.mpr (meets_expect.mpr ⟨fun discarded _ => ?_, fun _ _ => trivial⟩)
        refine ⟨rfl, ?_⟩
        rintro (_ | error | error) -
        · change AsksNoWrite _ (stored _ >>= fun _ => pure discarded)
          exact meets_bind.mpr (meets_expect.mpr ⟨fun _ _ => trivial, fun _ _ => trivial⟩)
        · trivial
        · trivial
      | retry => exact (((stopsUnsent_requireWrites off).bind _).bind _).asksNoWrite

theorem asksNoWrite_program (off : command.realm ∉ world.store.writeEnabled) :
    AsksNoWrite world (program command) := by
  cases command with
  | queueCreate realm entityType payload now =>
    exact (stopsUnsent_queueCreate off entityType payload now).asksNoWrite.unit
  | queueUpdate realm entityType qboId payload now =>
    exact (stopsUnsent_queueUpdate off entityType qboId payload now).asksNoWrite.unit
  | resolve realm id resolution now => exact (asksNoWrite_resolve off id resolution now).unit
  | drainOnce realm now =>
    exact (((stopsUnsent_requireWrites off).bind _).bind _).asksNoWrite.unit

theorem writesTo?_enabled (sound : Sound world) (within : WithinRealms world.store.outbox)
    {fates : List Fate} {call : Call}
    (callMem : call ∈ asked serve (program command) fates world)
    (writes : call.writesTo? = some realm) : realm ∈ world.store.writeEnabled := by
  obtain rfl := writesTo?_of_asked sound within callMem writes
  by_contra off
  obtain ⟨now, isNone⟩ := (asksNoWrite_program off).asked (fun _ _ _ => trivial) callMem
  rw [writes] at isNone
  cases isNone

end Gates

end QuickBooks.Outbox

namespace QuickBooks.WriteGate

open InterruptiblePrograms TransitionRuns
open Outbox (World Command Call Fate MockQbo program serve WithinRealms)
open Mirror (Instant SyncOptions ReadPage)

/-- Which environment a company lives in. -/
inductive Environment where
  | production
  | sandbox
deriving DecidableEq

structure RealmRow where
  realmId : String
  displayName : String
  isWriteEnabled : Bool
  environment : Environment

def soakDays : Int :=
  14

/-- Why writes may not be switched on. -/
inductive EnableRefusal where
  | notRegistered (realm : String)
  | neverSynced
  | readOnlyPeriod (elapsed : Int) (since : Instant)
  | notConfirmed
  | otherRealmOn (displayName : String)
deriving DecidableEq

/-- The companies of a file with the mirror of each, the outbox with the book of
record behind it, and the time. -/
structure Gate where
  realms : List RealmRow
  replicas : String → Mirror.Store
  world : World
  clock : Instant

namespace Gate

variable (gate : Gate) (realm : String)

def realm? : Option RealmRow :=
  gate.realms.find? fun row => row.realmId = realm

def realmEnvironment : Option Environment :=
  (gate.realm? realm).map RealmRow.environment

def writesOn : List String :=
  (gate.realms.filter RealmRow.isWriteEnabled).map RealmRow.realmId

/-- A new company is a production one with its writes off; a known one gets its
name. -/
def registerRealm (displayName : String) : Gate :=
  let row := ((gate.realm? realm).map fun row => { row with displayName }).getD
    ⟨realm, displayName, false, .production⟩
  { gate with realms := KeyedTables.upsert RealmRow.realmId row gate.realms }

def updateRealm (change : RealmRow → RealmRow) : Gate :=
  { gate with
    realms := gate.realms.map fun row => if row.realmId = realm then change row else row }

def setRealmEnvironment (environment : Environment) : Gate :=
  gate.updateRealm realm fun row => { row with environment }

def setWriteEnabled (enabled : Bool) : Gate :=
  gate.updateRealm realm fun row => { row with isWriteEnabled := enabled }

/-- The start of the read-only period: the earliest of the last sweeps of the
company's types. -/
def firstFullSweep : Option Instant :=
  (EntityType.all.filterMap fun entityType =>
    ((gate.replicas realm).cursors entityType).lastFullSweep).min?

def numDays (elapsed : Int) : Int :=
  elapsed.tdiv 86400

/-- A production company other than this one with its writes on. -/
def otherRealmOn : Option RealmRow :=
  (gate.realms.insertionSort fun first second => first.displayName ≤ second.displayName).find?
    fun other => other.realmId ≠ realm && other.isWriteEnabled &&
      other.environment = .production

/-- Whether writes may be switched on now, and if not, why. -/
def checkEnable (confirmed : Bool) : Except EnableRefusal Unit :=
  match gate.realmEnvironment realm with
  | none => .error (.notRegistered realm)
  | some .sandbox => .ok ()
  | some .production =>
    match gate.firstFullSweep realm with
    | none => .error .neverSynced
    | some first =>
      let elapsed := numDays (gate.clock - first)
      if elapsed < soakDays then .error (.readOnlyPeriod elapsed first)
      else if !confirmed then .error .notConfirmed
      else
        match gate.otherRealmOn realm with
        | some other => .error (.otherRealmOn other.displayName)
        | none => .ok ()

/-- Switch writes on where the check lets it. -/
def enable (confirmed : Bool) : Gate :=
  match gate.checkEnable realm confirmed with
  | .ok _ => gate.setWriteEnabled realm true
  | .error _ => gate

/-- The file as a command of the write path finds it. -/
def current : World :=
  { gate.world with
    store := { gate.world.store with
      writeEnabled := gate.writesOn
      entities := gate.realms.flatMap fun row =>
        (gate.replicas row.realmId).entities.map fun entity =>
          ((row.realmId, entity.entityType, entity.qboId), ⟨entity.syncToken, entity.isDeleted⟩) } }

end Gate

/-- What may happen: a company is registered or moved to another environment, a
page of a sweep is written, writes are switched on or off, a command queues or
sends, or time passes.  A command may fail or stop at any of its calls. -/
inductive GateEvent where
  | registerRealm (realm displayName : String)
  | setRealmEnvironment (realm : String) (environment : Environment)
  | sweepPage (realm : String) (entityType : EntityType) (startedAt : Option Instant)
      (start : Nat) (page : ReadPage)
  | enable (realm : String) (confirmed : Bool)
  | disable (realm : String)
  | write (command : Command) (fates : List Fate)
  | tick (elapsed : Nat)

section Steps

variable (options : SyncOptions) (readers : TextReaders)

/-- What comes of a page of a sweep that is written now. -/
def Gate.swept (gate : Gate) (realm : String) (entityType : EntityType)
    (startedAt : Option Instant) (start : Nat) (page : ReadPage) :
    Except Mirror.StoreError (Mirror.Store × Mirror.Activity) :=
  Mirror.sweepPage options readers entityType (gate.replicas realm) gate.clock startedAt start page

def step (event : GateEvent) (gate : Gate) : Gate :=
  match event with
  | .registerRealm realm displayName => gate.registerRealm realm displayName
  | .setRealmEnvironment realm environment => gate.setRealmEnvironment realm environment
  | .sweepPage realm entityType startedAt start page =>
    match gate.swept options readers realm entityType startedAt start page with
    | .ok (after, _) => { gate with replicas := Function.update gate.replicas realm after }
    | .error _ => gate
  | .enable realm confirmed => gate.enable realm confirmed
  | .disable realm => gate.setWriteEnabled realm false
  | .write command fates =>
    { gate with world := (run serve (program command) fates gate.current).1 }
  | .tick elapsed => { gate with clock := gate.clock + elapsed }

/-- A gate with the times at which the first complete sweeps finished. -/
structure Watched where
  gate : Gate
  firstSwept : String → Option Instant

/-- One event, and whether a first sweep finished with it. -/
def watchStep (event : GateEvent) (watched : Watched) : Watched :=
  let gate := step options readers event watched.gate
  match event with
  | .sweepPage realm entityType startedAt start page =>
    match watched.gate.swept options readers realm entityType startedAt start page with
    | .ok (_, .idle) =>
      { gate
        firstSwept := Function.update watched.firstSwept realm
          (some ((watched.firstSwept realm).getD watched.gate.clock)) }
    | _ => { watched with gate }
  | _ => { watched with gate }

end Steps

def Watched.Soaked (watched : Watched) (realm : String) : Prop :=
  ∃ first, watched.firstSwept realm = some first ∧
    first + soakDays * 86400 ≤ watched.gate.clock

namespace Gate

def OthersOff (gate : Gate) (realm : String) : Prop :=
  ∀ other ∈ gate.realms, other.isWriteEnabled = true → other.environment = .production →
    other.realmId = realm

def OneOn (gate : Gate) : Prop :=
  ∀ realm ∈ gate.realms, realm.isWriteEnabled = true → realm.environment = .production →
    gate.OthersOff realm.realmId

def SweptBefore (gate : Gate) (realm : String) : Prop :=
  ∃ entityType last, ((gate.replicas realm).cursors entityType).lastFullSweep = some last ∧
    last + soakDays * 86400 ≤ gate.clock

end Gate

section Gated

variable (options : SyncOptions) (readers : TextReaders)

/-- What is promised of one event. -/
structure Gated (event : GateEvent) (watched : Watched) : Prop where
  writes : ∀ command fates, event = .write command fates →
    ∀ call ∈ asked serve (program command) fates watched.gate.current,
      ∀ realm, call.writesTo? = some realm → realm ∈ watched.gate.writesOn
  oneOn : (step options readers event watched.gate).OneOn
  enabled : ∀ realm ∈ (step options readers event watched.gate).writesOn,
    realm ∈ watched.gate.writesOn ∨ watched.gate.realmEnvironment realm = some .sandbox ∨
      watched.Soaked realm
  enables : ∀ realm, event = .enable realm true →
    watched.gate.realmEnvironment realm = some .production → watched.Soaked realm →
      watched.gate.OthersOff realm → realm ∈ (step options readers event watched.gate).writesOn

/-- A company with its writes on becomes a production one only when no other
production company has them on; and when writes could be switched on, not every
type was swept again within the period. -/
def Admitted (event : GateEvent) (watched : Watched) : Prop :=
  match event with
  | .setRealmEnvironment realm .production =>
    realm ∈ watched.gate.writesOn → watched.gate.OthersOff realm
  | .enable realm true =>
    watched.gate.realmEnvironment realm = some .production → watched.Soaked realm →
      watched.gate.OthersOff realm → watched.gate.SweptBefore realm
  | _ => True

end Gated

section Rows

variable {gate after : Gate} {realm : String} {row : RealmRow} {change : RealmRow → RealmRow}

theorem Gate.mem_writesOn :
    realm ∈ gate.writesOn ↔
      ∃ row ∈ gate.realms, row.isWriteEnabled = true ∧ row.realmId = realm := by
  unfold Gate.writesOn
  simp only [List.mem_map, List.mem_filter, and_assoc]

theorem Gate.mem_updateRealm :
    row ∈ (gate.updateRealm realm change).realms ↔
      (∃ old ∈ gate.realms, old.realmId = realm ∧ row = change old) ∨
        row ∈ gate.realms ∧ row.realmId ≠ realm := by
  unfold Gate.updateRealm
  rw [List.mem_map]
  constructor
  · rintro ⟨old, oldMem, rfl⟩
    split_ifs with same
    · exact .inl ⟨old, oldMem, same, rfl⟩
    · exact .inr ⟨oldMem, same⟩
  · rintro (⟨old, oldMem, same, rfl⟩ | ⟨rowMem, other⟩)
    · exact ⟨old, oldMem, if_pos same⟩
    · exact ⟨row, rowMem, if_neg other⟩

theorem Gate.nodup_updateRealm (distinct : (gate.realms.map RealmRow.realmId).Nodup)
    (sameId : ∀ old, (change old).realmId = old.realmId) :
    ((gate.updateRealm realm change).realms.map RealmRow.realmId).Nodup := by
  unfold Gate.updateRealm
  have same : (gate.realms.map fun row => if row.realmId = realm then change row else row).map
      RealmRow.realmId = gate.realms.map RealmRow.realmId := by
    rw [List.map_map]
    refine List.map_congr_left fun old _ => ?_
    dsimp only [Function.comp_apply]
    split_ifs
    · exact sameId old
    · rfl
  rw [same]
  exact distinct

theorem Gate.realmEnvironment_of_mem (distinct : (gate.realms.map RealmRow.realmId).Nodup)
    (rowMem : row ∈ gate.realms) :
    gate.realmEnvironment row.realmId = some row.environment := by
  unfold Gate.realmEnvironment Gate.realm?
  rw [KeyedTables.find?_eq_some_of_nodup distinct rowMem]
  rfl

theorem Gate.exists_row {environment : Environment}
    (isRealm : gate.realmEnvironment realm = some environment) :
    ∃ row ∈ gate.realms, row.realmId = realm ∧ row.environment = environment := by
  obtain ⟨row, found, rfl⟩ := Option.map_eq_some_iff.mp isRealm
  exact ⟨row, List.mem_of_find?_eq_some found, by simpa using List.find?_some found, rfl⟩

theorem Gate.OneOn.of_forall (oneOn : gate.OneOn)
    (were : ∀ row ∈ after.realms, row.isWriteEnabled = true → row.environment = .production →
      ∃ old ∈ gate.realms, old.realmId = row.realmId ∧ old.isWriteEnabled = true ∧
        old.environment = .production) : after.OneOn := by
  intro first firstMem firstOn firstProduction second secondMem secondOn secondProduction
  obtain ⟨oldFirst, oldFirstMem, sameFirst, wasOn, wasProduction⟩ :=
    were first firstMem firstOn firstProduction
  obtain ⟨oldSecond, oldSecondMem, sameSecond, secondWasOn, secondWasProduction⟩ :=
    were second secondMem secondOn secondProduction
  rw [← sameFirst, ← sameSecond]
  exact oneOn oldFirst oldFirstMem wasOn wasProduction oldSecond oldSecondMem secondWasOn
    secondWasProduction

theorem Gate.oneOn_of_othersOff (othersOff : gate.OthersOff realm)
    (were : ∀ row ∈ after.realms, row.realmId = realm ∨ row ∈ gate.realms) : after.OneOn := by
  have isRealm : ∀ row ∈ after.realms, row.isWriteEnabled = true →
      row.environment = .production → row.realmId = realm := by
    intro row rowMem isOn isProduction
    rcases were row rowMem with same | old
    · exact same
    · exact othersOff row old isOn isProduction
  intro first firstMem firstOn firstProduction second secondMem secondOn secondProduction
  exact (isRealm second secondMem secondOn secondProduction).trans
    (isRealm first firstMem firstOn firstProduction).symm

theorem Gate.mem_registerRealm {displayName : String}
    (rowMem : row ∈ (gate.registerRealm realm displayName).realms) :
    row.isWriteEnabled = false ∨ ∃ old ∈ gate.realms, old.realmId = row.realmId ∧
      old.isWriteEnabled = row.isWriteEnabled ∧ old.environment = row.environment := by
  rcases KeyedTables.mem_upsert _ _ _ rowMem with rfl | ⟨old, -⟩
  · cases known : gate.realm? realm with
    | none => exact .inl rfl
    | some found =>
      right
      exact ⟨found, List.mem_of_find?_eq_some known, rfl, rfl, rfl⟩
  · exact .inr ⟨row, old, rfl, rfl, rfl⟩

end Rows

section Checks

variable {gate : Gate} {realm : String} {confirmed : Bool}

theorem Gate.otherRealmOn_eq_none_iff :
    gate.otherRealmOn realm = none ↔ gate.OthersOff realm := by
  unfold Gate.otherRealmOn Gate.OthersOff
  rw [List.find?_eq_none]
  simp only [List.mem_insertionSort, Bool.and_eq_true, decide_eq_true_eq, not_and]
  refine forall₂_congr fun other _ => ⟨fun off isOn isProduction => ?_, fun off different => ?_⟩
  · by_contra different
    exact off ⟨different, isOn⟩ isProduction
  · exact fun isProduction => different.1 (off different.2 isProduction)

theorem soakDays_le_numDays_iff {elapsed : Int} :
    soakDays ≤ Gate.numDays elapsed ↔ soakDays * 86400 ≤ elapsed := by
  unfold Gate.numDays soakDays
  rcases le_total 0 elapsed with past | ahead
  · rw [Int.tdiv_eq_ediv_of_nonneg past]
    omega
  · have notPast : 0 ≤ (-elapsed).tdiv 86400 := Int.tdiv_nonneg (by omega) (by decide)
    rw [Int.neg_tdiv] at notPast
    omega

theorem Gate.checkEnable_ok (passes : gate.checkEnable realm confirmed = .ok ()) :
    gate.realmEnvironment realm = some .sandbox ∨
      gate.realmEnvironment realm = some .production ∧ gate.OthersOff realm ∧
        ∃ first, gate.firstFullSweep realm = some first ∧
          first + soakDays * 86400 ≤ gate.clock := by
  unfold Gate.checkEnable at passes
  split at passes
  · cases passes
  · rename_i isSandbox
    exact .inl isSandbox
  · rename_i isProduction
    right
    cases started : gate.firstFullSweep realm with
    | none =>
      rw [started] at passes
      cases passes
    | some first =>
      rw [started] at passes
      dsimp only at passes
      split_ifs at passes with tooEarly
      split at passes
      · cases passes
      · rename_i others
        refine ⟨isProduction, Gate.otherRealmOn_eq_none_iff.mp others, first, rfl, ?_⟩
        exact le_sub_iff_add_le'.mp (soakDays_le_numDays_iff.mp (not_lt.mp tooEarly))

theorem Gate.checkEnable_of_sweptBefore
    (isProduction : gate.realmEnvironment realm = some .production)
    (others : gate.OthersOff realm) (swept : gate.SweptBefore realm) :
    gate.checkEnable realm true = .ok () := by
  obtain ⟨entityType, last, isLast, before⟩ := swept
  have lastMem : last ∈ EntityType.all.filterMap fun entityType =>
      ((gate.replicas realm).cursors entityType).lastFullSweep := by
    refine List.mem_filterMap.mpr ⟨entityType, ?_, isLast⟩
    cases entityType <;> decide
  unfold Gate.checkEnable
  rw [isProduction]
  dsimp only
  cases started : gate.firstFullSweep realm with
  | none =>
    rw [Gate.firstFullSweep, List.min?_eq_none_iff] at started
    rw [started] at lastMem
    cases lastMem
  | some first =>
    have firstLe := (List.min?_eq_some_iff.mp started).2 last lastMem
    have elapsed : ¬Gate.numDays (gate.clock - first) < soakDays := by
      rw [not_lt, soakDays_le_numDays_iff]
      omega
    dsimp only
    rw [if_neg elapsed, if_neg (by simp), Gate.otherRealmOn_eq_none_iff.mpr others]

end Checks

end QuickBooks.WriteGate
