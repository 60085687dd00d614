import QuickBooks.WriteGates

/-!
# Runs of the write gate

No event queues or sends for a company whose writes are off, and none switches a
production company on before its time or beside another one.  A move to another
environment and a later sweep of every type can break the rest; where they do
not, every event keeps what is promised of it.
-/

namespace QuickBooks.WriteGate

open InterruptiblePrograms TransitionRuns
open Outbox (World Command Call Fate MockQbo program serve WithinRealms)
open Mirror (Instant SyncOptions ReadPage)

section Runs

variable {options : SyncOptions} {readers : TextReaders} {watched : Watched} {event : GateEvent}

/-- What holds in every state of a run. -/
structure Guarded (watched : Watched) : Prop where
  distinct : (watched.gate.realms.map RealmRow.realmId).Nodup
  oneOn : watched.gate.OneOn
  sound : Outbox.Sound watched.gate.world
  within : WithinRealms watched.gate.world.store.outbox
  swept : ∀ realm entityType last,
    ((watched.gate.replicas realm).cursors entityType).lastFullSweep = some last →
      ∃ first, watched.firstSwept realm = some first ∧ first ≤ last
  past : ∀ realm first, watched.firstSwept realm = some first → first ≤ watched.gate.clock

theorem Guarded.current (guarded : Guarded watched) :
    Outbox.Sound watched.gate.current ∧ WithinRealms watched.gate.current.store.outbox :=
  ⟨⟨guarded.sound.distinctIds, guarded.sound.distinctRequests, guarded.sound.mintedIds,
    guarded.sound.mintedRequests, guarded.sound.mintedLog⟩, guarded.within⟩

theorem Guarded.soaked (guarded : Guarded watched) {realm : String} {first : Instant}
    (started : watched.gate.firstFullSweep realm = some first)
    (elapsed : first + soakDays * 86400 ≤ watched.gate.clock) : watched.Soaked realm := by
  obtain ⟨entityType, -, isLast⟩ :=
    List.mem_filterMap.mp (List.min?_eq_some_iff.mp started).1
  obtain ⟨firstSwept, isFirst, notLater⟩ := guarded.swept realm entityType first isLast
  exact ⟨firstSwept, isFirst, (add_le_add_left notLater _).trans elapsed⟩

theorem Guarded.enabled (guarded : Guarded watched) :
    ∀ realm ∈ (step options readers event watched.gate).writesOn,
      realm ∈ watched.gate.writesOn ∨ watched.gate.realmEnvironment realm = some .sandbox ∨
        watched.Soaked realm := by
  intro realm isOn
  obtain ⟨row, rowMem, rowOn, rfl⟩ := Gate.mem_writesOn.mp isOn
  have kept : row ∈ watched.gate.realms → row.realmId ∈ watched.gate.writesOn :=
    fun rowMem => Gate.mem_writesOn.mpr ⟨row, rowMem, rowOn, rfl⟩
  cases event with
  | registerRealm realm displayName =>
    obtain off | ⟨old, oldMem, sameId, sameOn, -⟩ := Gate.mem_registerRealm rowMem
    · exact absurd (off.symm.trans rowOn) Bool.false_ne_true
    · exact .inl (Gate.mem_writesOn.mpr ⟨old, oldMem, sameOn.trans rowOn, sameId⟩)
  | setRealmEnvironment realm environment =>
    obtain ⟨old, oldMem, -, rfl⟩ | ⟨rowMem, -⟩ := Gate.mem_updateRealm.mp rowMem
    · exact .inl (Gate.mem_writesOn.mpr ⟨old, oldMem, rowOn, rfl⟩)
    · exact .inl (kept rowMem)
  | enable realm confirmed =>
    change row ∈ (watched.gate.enable realm confirmed).realms at rowMem
    unfold Gate.enable at rowMem
    cases passes : watched.gate.checkEnable realm confirmed with
    | error refusal =>
      rw [passes] at rowMem
      exact .inl (kept rowMem)
    | ok checked =>
      rw [passes] at rowMem
      obtain ⟨old, -, sameRealm, rfl⟩ | ⟨rowMem, -⟩ := Gate.mem_updateRealm.mp rowMem
      · right
        change watched.gate.realmEnvironment old.realmId = _ ∨ watched.Soaked old.realmId
        rw [sameRealm]
        obtain isSandbox | ⟨-, -, first, started, elapsed⟩ := Gate.checkEnable_ok passes
        · exact .inl isSandbox
        · exact .inr (guarded.soaked started elapsed)
      · exact .inl (kept rowMem)
  | disable realm =>
    obtain ⟨old, -, -, rfl⟩ | ⟨rowMem, -⟩ := Gate.mem_updateRealm.mp rowMem
    · exact absurd rowOn Bool.false_ne_true
    · exact .inl (kept rowMem)
  | sweepPage realm entityType startedAt start page =>
    refine .inl (kept ?_)
    unfold step at rowMem
    dsimp only at rowMem
    split at rowMem
    · exact rowMem
    · exact rowMem
  | write command fates => exact .inl (kept rowMem)
  | tick elapsed => exact .inl (kept rowMem)

theorem Guarded.oneOn_step (guarded : Guarded watched) (admitted : Admitted event watched) :
    (step options readers event watched.gate).OneOn := by
  have same : ∀ {after : Gate}, after.realms = watched.gate.realms → after.OneOn := by
    intro after sameRealms
    refine guarded.oneOn.of_forall fun row rowMem isOn isProduction => ?_
    exact ⟨row, sameRealms ▸ rowMem, rfl, isOn, isProduction⟩
  cases event with
  | registerRealm realm displayName =>
    refine guarded.oneOn.of_forall fun row rowMem isOn isProduction => ?_
    obtain off | ⟨old, oldMem, sameId, sameOn, sameEnvironment⟩ := Gate.mem_registerRealm rowMem
    · exact absurd (off.symm.trans isOn) Bool.false_ne_true
    · exact ⟨old, oldMem, sameId, sameOn.trans isOn, sameEnvironment.trans isProduction⟩
  | setRealmEnvironment realm environment =>
    by_cases comesOn : environment = .production ∧ realm ∈ watched.gate.writesOn
    · obtain ⟨rfl, isOn⟩ := comesOn
      refine Gate.oneOn_of_othersOff (admitted isOn) fun row rowMem => ?_
      obtain ⟨old, -, sameRealm, rfl⟩ | ⟨rowMem, -⟩ := Gate.mem_updateRealm.mp rowMem
      · exact .inl sameRealm
      · exact .inr rowMem
    · refine guarded.oneOn.of_forall fun row rowMem isOn isProduction => ?_
      obtain ⟨old, oldMem, sameRealm, rfl⟩ | ⟨rowMem, -⟩ := Gate.mem_updateRealm.mp rowMem
      · exact absurd ⟨isProduction, Gate.mem_writesOn.mpr ⟨old, oldMem, isOn, sameRealm⟩⟩ comesOn
      · exact ⟨row, rowMem, rfl, isOn, isProduction⟩
  | enable realm confirmed =>
    change (watched.gate.enable realm confirmed).OneOn
    unfold Gate.enable
    cases passes : watched.gate.checkEnable realm confirmed with
    | error refusal => exact guarded.oneOn
    | ok checked =>
      obtain isSandbox | ⟨-, others, -⟩ := Gate.checkEnable_ok passes
      · refine guarded.oneOn.of_forall fun row rowMem isOn isProduction => ?_
        obtain ⟨old, oldMem, rfl, rfl⟩ | ⟨rowMem, -⟩ := Gate.mem_updateRealm.mp rowMem
        · rw [Gate.realmEnvironment_of_mem guarded.distinct oldMem] at isSandbox
          change old.environment = .production at isProduction
          rw [isProduction] at isSandbox
          cases isSandbox
        · exact ⟨row, rowMem, rfl, isOn, isProduction⟩
      · refine Gate.oneOn_of_othersOff others fun row rowMem => ?_
        obtain ⟨old, -, sameRealm, rfl⟩ | ⟨rowMem, -⟩ := Gate.mem_updateRealm.mp rowMem
        · exact .inl sameRealm
        · exact .inr rowMem
  | disable realm =>
    refine guarded.oneOn.of_forall fun row rowMem isOn isProduction => ?_
    obtain ⟨old, -, -, rfl⟩ | ⟨rowMem, -⟩ := Gate.mem_updateRealm.mp rowMem
    · exact absurd isOn Bool.false_ne_true
    · exact ⟨row, rowMem, rfl, isOn, isProduction⟩
  | sweepPage realm entityType startedAt start page =>
    unfold step
    dsimp only
    split
    · exact same rfl
    · exact guarded.oneOn
  | write command fates => exact same rfl
  | tick elapsed => exact same rfl

theorem comesOn_of_admitted {realm : String} (admitted : Admitted (.enable realm true) watched)
    (isProduction : watched.gate.realmEnvironment realm = some .production)
    (soaked : watched.Soaked realm) (others : watched.gate.OthersOff realm) :
    realm ∈ (watched.gate.enable realm true).writesOn := by
  unfold Gate.enable
  rw [Gate.checkEnable_of_sweptBefore isProduction others (admitted isProduction soaked others)]
  obtain ⟨row, rowMem, sameRealm, -⟩ := Gate.exists_row isProduction
  exact Gate.mem_writesOn.mpr ⟨{ row with isWriteEnabled := true },
    Gate.mem_updateRealm.mpr (.inl ⟨row, rowMem, sameRealm, rfl⟩), rfl, sameRealm⟩

theorem Guarded.gated (guarded : Guarded watched) (admitted : Admitted event watched) :
    Gated options readers event watched where
  writes command fates _ call callMem realm writes := by
    have enabled := Outbox.writesTo?_enabled guarded.current.1 guarded.current.2 callMem writes
    exact enabled
  oneOn := guarded.oneOn_step admitted
  enabled := guarded.enabled
  enables realm isEnable isProduction soaked others := by
    subst isEnable
    exact comesOn_of_admitted admitted isProduction soaked others

theorem nodup_registerRealm {gate : Gate} {realm displayName : String}
    (distinct : (gate.realms.map RealmRow.realmId).Nodup) :
    ((gate.registerRealm realm displayName).realms.map RealmRow.realmId).Nodup :=
  KeyedTables.nodup_upsert distinct

theorem Guarded.distinct_step (guarded : Guarded watched) :
    ((step options readers event watched.gate).realms.map RealmRow.realmId).Nodup := by
  have updated : ∀ (realm : String) (change : RealmRow → RealmRow),
      (∀ old, (change old).realmId = old.realmId) →
        ((watched.gate.updateRealm realm change).realms.map RealmRow.realmId).Nodup :=
    fun _ _ sameId => Gate.nodup_updateRealm guarded.distinct sameId
  cases event with
  | registerRealm realm displayName => exact nodup_registerRealm guarded.distinct
  | setRealmEnvironment realm environment => exact updated realm _ fun _ => rfl
  | enable realm confirmed =>
    change ((watched.gate.enable realm confirmed).realms.map RealmRow.realmId).Nodup
    unfold Gate.enable
    split
    · exact updated realm _ fun _ => rfl
    · exact guarded.distinct
  | disable realm => exact updated realm _ fun _ => rfl
  | sweepPage realm entityType startedAt start page =>
    unfold step
    dsimp only
    split
    · exact guarded.distinct
    · exact guarded.distinct
  | write command fates => exact guarded.distinct
  | tick elapsed => exact guarded.distinct

theorem Guarded.sweepPage (guarded : Guarded watched) (realm : String) (entityType : EntityType)
    (startedAt : Option Instant) (start : Nat) (page : ReadPage) :
    Guarded (watchStep options readers (.sweepPage realm entityType startedAt start page)
      watched) := by
  unfold watchStep step
  dsimp only
  cases written : watched.gate.swept options readers realm entityType startedAt start page with
  | error refusal => exact { guarded with }
  | ok result =>
    obtain ⟨after, next⟩ := result
    obtain ⟨-, ⟨-, rfl, cursorsEq, -⟩ | ⟨-, rfl, cursorsEq, -⟩⟩ := Mirror.sweepPage_ok written
    · refine ⟨guarded.distinct, guarded.oneOn, guarded.sound, guarded.within, ?_, ?_⟩
      · intro other otherType last isLast
        dsimp only at isLast ⊢
        rw [Function.update_apply] at isLast ⊢
        by_cases here : other = realm
        · subst here
          rw [if_pos rfl, cursorsEq, Function.update_apply] at isLast
          rw [if_pos rfl]
          refine ⟨_, rfl, ?_⟩
          split_ifs at isLast with sameType
          · cases isLast
            cases found : watched.firstSwept other with
            | none => exact le_rfl
            | some first => exact guarded.past other first found
          · obtain ⟨first, isFirst, notLater⟩ := guarded.swept other otherType last isLast
            rw [isFirst]
            exact notLater
        · rw [if_neg here] at isLast ⊢
          exact guarded.swept other otherType last isLast
      · intro other first isFirst
        dsimp only at isFirst ⊢
        rw [Function.update_apply] at isFirst
        split_ifs at isFirst
        · cases isFirst
          cases found : watched.firstSwept realm with
          | none => exact le_rfl
          | some first => exact guarded.past realm first found
        · exact guarded.past other first isFirst
    · refine ⟨guarded.distinct, guarded.oneOn, guarded.sound, guarded.within, ?_, guarded.past⟩
      intro other otherType last isLast
      dsimp only at isLast
      rw [Function.update_apply] at isLast
      split_ifs at isLast with here
      · rw [cursorsEq] at isLast
        rw [here]
        exact guarded.swept realm otherType last isLast
      · exact guarded.swept other otherType last isLast

theorem Guarded.watchStep (guarded : Guarded watched) (admitted : Admitted event watched) :
    Guarded (watchStep options readers event watched) := by
  have distinct : ((step options readers event watched.gate).realms.map RealmRow.realmId).Nodup :=
    guarded.distinct_step
  have oneOn : (step options readers event watched.gate).OneOn := guarded.oneOn_step admitted
  cases event with
  | sweepPage realm entityType startedAt start page =>
    exact guarded.sweepPage realm entityType startedAt start page
  | write command fates =>
    obtain ⟨sound, within⟩ :=
      Outbox.within_run guarded.current.1 guarded.current.2 command fates
    exact ⟨distinct, oneOn, sound, within, guarded.swept, guarded.past⟩
  | tick elapsed =>
    refine ⟨distinct, oneOn, guarded.sound, guarded.within, guarded.swept, ?_⟩
    intro realm first isFirst
    exact (guarded.past realm first isFirst).trans (Int.le_add_of_nonneg_right (by simp))
  | enable realm confirmed =>
    have same : (watched.gate.enable realm confirmed).replicas = watched.gate.replicas ∧
        (watched.gate.enable realm confirmed).world = watched.gate.world ∧
        (watched.gate.enable realm confirmed).clock = watched.gate.clock := by
      unfold Gate.enable
      split
      · exact ⟨rfl, rfl, rfl⟩
      · exact ⟨rfl, rfl, rfl⟩
    refine ⟨distinct, oneOn, ?_, ?_, ?_, ?_⟩
    · change Outbox.Sound (watched.gate.enable realm confirmed).world
      rw [same.2.1]
      exact guarded.sound
    · change WithinRealms (watched.gate.enable realm confirmed).world.store.outbox
      rw [same.2.1]
      exact guarded.within
    · change ∀ other entityType last,
        (((watched.gate.enable realm confirmed).replicas other).cursors
          entityType).lastFullSweep = some last → _
      rw [same.1]
      exact guarded.swept
    · change ∀ other first, watched.firstSwept other = some first →
        first ≤ (watched.gate.enable realm confirmed).clock
      rw [same.2.2]
      exact guarded.past
  | registerRealm realm displayName =>
    exact ⟨distinct, oneOn, guarded.sound, guarded.within, guarded.swept, guarded.past⟩
  | setRealmEnvironment realm environment =>
    exact ⟨distinct, oneOn, guarded.sound, guarded.within, guarded.swept, guarded.past⟩
  | disable realm =>
    exact ⟨distinct, oneOn, guarded.sound, guarded.within, guarded.swept, guarded.past⟩

/-- A file without companies, before any book of record. -/
def Watched.fresh (quickBooks : MockQbo) (nextUuid : Nat) (clock : Instant) : Watched where
  gate :=
    { realms := []
      replicas := fun _ => .empty
      world := ⟨⟨[], [], [], []⟩, quickBooks, nextUuid, [], []⟩
      clock }
  firstSwept := fun _ => none

theorem guarded_fresh {quickBooks : MockQbo} {nextUuid : Nat} {clock : Instant}
    (minted : ∀ entry ∈ quickBooks.requestLog, entry.1.2 < nextUuid) :
    Guarded (.fresh quickBooks nextUuid clock) where
  distinct := List.nodup_nil
  oneOn := fun _ rowMem => by cases rowMem
  sound := ⟨List.nodup_nil, List.nodup_nil, fun _ rowMem => (by cases rowMem),
    fun _ rowMem => (by cases rowMem), minted⟩
  within := fun _ rowMem => by cases rowMem
  swept := fun _ _ _ isLast => by cases isLast
  past := fun _ _ isFirst => by cases isFirst

/-- In every run from a fresh file whose events are all admitted, every event keeps
what is promised of it. -/
theorem gated_of_admitted {quickBooks : MockQbo} {nextUuid : Nat} {clock : Instant}
    {events : List GateEvent} (minted : ∀ entry ∈ quickBooks.requestLog, entry.1.2 < nextUuid)
    (admitted : EveryStep (watchStep options readers) Admitted (.fresh quickBooks nextUuid clock)
      events) :
    EveryStep (watchStep options readers) (Gated options readers)
      (.fresh quickBooks nextUuid clock) events :=
  EveryStep.of_invariant Guarded (fun _ _ guarded admitted => guarded.watchStep admitted)
    (fun _ _ guarded admitted => guarded.gated admitted) (guarded_fresh minted) admitted

end Runs

/-! ### Two companies -/

namespace TwoCompanies

def readers : TextReaders := plainLibrary.toTextReaders

def options : SyncOptions where
  pageSize := 1000
  cdcMaxAge := 25 * 86400
  cdcResponseCap := 1000
  uncoveredSweepInterval := 3600
  cdcOverlap := 300

def start : Watched :=
  .fresh ⟨[], [], 1, 0⟩ 0 0

def sweep (realm : String) : GateEvent :=
  .sweepPage realm .customer none 0 ⟨[], none⟩

def days (count : Nat) : GateEvent :=
  .tick (count * 86400)

/-- A company is swept, waits for its period and queues a customer. -/
def enabledEvents : List GateEvent :=
  [.registerRealm "1" "Shop", sweep "1", days 14, .enable "1" true,
    .write (.queueCreate "1" .customer (.object []) 1209600) (List.replicate 5 .served),
    .disable "1"]

theorem gated_enabled :
    EveryStep (watchStep options readers) (Gated options readers) start enabledEvents := by
  refine gated_of_admitted (by simp) ⟨trivial, trivial, trivial, ?_, trivial, trivial, trivial⟩
  exact fun _ _ _ => ⟨.customer, 0, rfl, by decide⟩

def sweptAgainEvents : List GateEvent :=
  [.registerRealm "1" "Shop", sweep "1", days 26, sweep "1", days 1, .enable "1" true]

/-- The second company takes writes as a sandbox and becomes a production one. -/
def movedEvents : List GateEvent :=
  [.registerRealm "1" "Shop", .registerRealm "2" "Works", sweep "1",
    .setRealmEnvironment "2" .sandbox, .enable "2" false, days 14, .enable "1" true,
    .setRealmEnvironment "2" .production]

/-- A later sweep starts the read-only period again, and a company that has its
writes on is moved beside another one. -/
theorem not_gated :
    ¬EveryStep (watchStep options readers) (Gated options readers) start sweptAgainEvents ∧
      ¬EveryStep (watchStep options readers) (Gated options readers) start movedEvents := by
  constructor
  · rintro ⟨-, -, -, -, -, gated, -⟩
    have others : ∀ other ∈ [RealmRow.mk "1" "Shop" false .production],
        other.isWriteEnabled = true → other.environment = .production → other.realmId = "1" := by
      decide
    have isOn := gated.enables "1" rfl rfl ⟨0, rfl, by decide⟩ others
    have isOff : (runFrom (watchStep options readers) start sweptAgainEvents).gate.writesOn = [] :=
      rfl
    change "1" ∈ (runFrom (watchStep options readers) start sweptAgainEvents).gate.writesOn at isOn
    rw [isOff] at isOn
    cases isOn
  · rintro ⟨-, -, -, -, -, -, -, gated, -⟩
    have realms : (step options readers (.setRealmEnvironment "2" .production)
        (runFrom (watchStep options readers) start (movedEvents.take 7)).gate).realms =
          [⟨"1", "Shop", true, .production⟩, ⟨"2", "Works", true, .production⟩] :=
      rfl
    have oneOn := gated.oneOn ⟨"1", "Shop", true, .production⟩
    change _ ∈ (step options readers (.setRealmEnvironment "2" .production)
        (runFrom (watchStep options readers) start (movedEvents.take 7)).gate).realms → _ at oneOn
    rw [realms] at oneOn
    have others := oneOn (.head _) rfl rfl
    have same := others ⟨"2", "Works", true, .production⟩ (.tail _ (.head _)) rfl rfl
    exact absurd same (by decide)

end TwoCompanies

end QuickBooks.WriteGate
