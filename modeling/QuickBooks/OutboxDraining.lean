import QuickBooks.OutboxPasses

/-!
# One pass over the outbox

Every call that a pass asks for is fit, from any file with distinct identifiers,
whatever becomes of the calls.  At the end of a pass every create that it applied
has an id assigned in the file.
-/

/-!
## What is answered to the calls of a pass

A read answers with what the file holds or fails; a call to the book of record
that succeeds leaves a note that names the id, and a stale version leaves a note
too.
-/

namespace QuickBooks.Outbox

open InterruptiblePrograms

/-! ## Calls to the book of record -/

section Book

variable {mock : MockQbo} {realm : String} {entityType : EntityType} {payload : Json}
variable {requestId : Nat}

theorem mem_requestLog_create {entry : (String × Nat) × EntityPayload}
    (entryMem : entry ∈ (mock.create realm entityType payload requestId).1.requestLog) :
    entry ∈ mock.requestLog ∨ entry.1 = (realm, requestId) := by
  unfold MockQbo.create at entryMem
  dsimp only at entryMem
  split at entryMem
  · exact .inl entryMem
  · split_ifs at entryMem with clash deduplicates
    · exact .inl entryMem
    · rcases List.mem_cons.mp entryMem with rfl | old
      · exact .inr rfl
      · exact .inl old
    · exact .inl entryMem

theorem mem_requestLog_update {qboId baseSyncToken : String}
    {entry : (String × Nat) × EntityPayload}
    (entryMem : entry ∈
      (mock.update realm entityType qboId payload baseSyncToken requestId).1.requestLog) :
    entry ∈ mock.requestLog ∨ entry.1 = (realm, requestId) := by
  unfold MockQbo.update at entryMem
  split at entryMem
  · exact .inl entryMem
  · split at entryMem
    · exact .inl entryMem
    · split_ifs at entryMem with stale
      · exact .inl entryMem
      · rcases List.mem_cons.mp entryMem with rfl | old
        · exact .inr rfl
        · exact .inl old

end Book

section Remote

variable {world : World} {realm : String} {entityType : EntityType} {payload : Json}
variable {requestId : Nat}

theorem Sound.of_onlyNotes {after : World} (sound : Sound world) (frame : OnlyNotes world after)
    (log : ∀ entry ∈ after.quickBooks.requestLog,
      entry ∈ world.quickBooks.requestLog ∨ entry.1.2 < world.nextUuid) : Sound after := by
  obtain ⟨sameStore, -, sameNext, -⟩ := frame
  refine ⟨?_, ?_, ?_, ?_, ?_⟩
  · rw [sameStore]; exact sound.distinctIds
  · rw [sameStore]; exact sound.distinctRequests
  · rw [sameStore, sameNext]; exact sound.mintedIds
  · rw [sameStore, sameNext]; exact sound.mintedRequests
  · intro entry entryMem
    rw [sameNext]
    rcases log entry entryMem with old | minted
    · exact sound.mintedLog entry old
    · exact minted

theorem quickBooks_createInQuickBooks :
    (world.createInQuickBooks realm entityType payload requestId).1.quickBooks =
      (world.quickBooks.create realm entityType payload requestId).1 := by
  unfold World.createInQuickBooks
  rcases world.quickBooks.create realm entityType payload requestId with
    ⟨quickBooks, _ | created⟩ <;> rfl

theorem quickBooks_updateInQuickBooks {qboId baseSyncToken : String} :
    (world.updateInQuickBooks realm entityType qboId payload baseSyncToken
        requestId).1.quickBooks =
      (world.quickBooks.update realm entityType qboId payload baseSyncToken requestId).1 := by
  unfold World.updateInQuickBooks
  rcases world.quickBooks.update realm entityType qboId payload baseSyncToken requestId with
    ⟨quickBooks, error | updated⟩
  · cases error <;> rfl
  · rfl

theorem quickBooks_serve_create (fate : Fate) :
    (serve fate (.create realm entityType payload requestId) world).1.quickBooks =
      match fate with
      | .unserved _ => world.quickBooks
      | _ => (world.quickBooks.create realm entityType payload requestId).1 := by
  cases fate with
  | served => exact quickBooks_createInQuickBooks
  | unserved error => rfl
  | unanswered error => exact quickBooks_createInQuickBooks

theorem quickBooks_serve_update {qboId baseSyncToken : String} (fate : Fate) :
    (serve fate (.update realm entityType qboId payload baseSyncToken requestId)
        world).1.quickBooks =
      match fate with
      | .unserved _ => world.quickBooks
      | _ => (world.quickBooks.update realm entityType qboId payload baseSyncToken requestId).1 := by
  cases fate with
  | served => exact quickBooks_updateInQuickBooks
  | unserved error => rfl
  | unanswered error => exact quickBooks_updateInQuickBooks

theorem quickBooks_serve_findByName {name : String} (fate : Fate) :
    (serve fate (.findByName realm entityType name) world).1.quickBooks =
      world.quickBooks := by
  have attended : (world.findInQuickBooks realm entityType name).1.quickBooks =
      world.quickBooks := by
    unfold World.findInQuickBooks
    cases world.quickBooks.findByName realm entityType name <;> rfl
  cases fate with
  | served => exact attended
  | unserved error => rfl
  | unanswered error => exact attended

theorem sound_serve_create (sound : Sound world) (minted : requestId < world.nextUuid)
    (fate : Fate) :
    Sound (serve fate (.create realm entityType payload requestId) world).1 := by
  refine sound.of_onlyNotes (onlyNotes_serve world fate rfl) ?_
  intro entry entryMem
  rw [quickBooks_serve_create] at entryMem
  cases fate with
  | unserved error => exact .inl entryMem
  | _ =>
    refine (mem_requestLog_create entryMem).imp_right ?_
    intro isRequest
    rw [isRequest]
    exact minted

theorem sound_serve_update {qboId baseSyncToken : String} (sound : Sound world)
    (minted : requestId < world.nextUuid) (fate : Fate) :
    Sound (serve fate (.update realm entityType qboId payload baseSyncToken requestId)
      world).1 := by
  refine sound.of_onlyNotes (onlyNotes_serve world fate rfl) ?_
  intro entry entryMem
  rw [quickBooks_serve_update] at entryMem
  cases fate with
  | unserved error => exact .inl entryMem
  | _ =>
    refine (mem_requestLog_update entryMem).imp_right ?_
    intro isRequest
    rw [isRequest]
    exact minted

theorem sound_serve_findByName {name : String} (sound : Sound world) (fate : Fate) :
    Sound (serve fate (.findByName realm entityType name) world).1 := by
  refine sound.of_onlyNotes (onlyNotes_serve world fate rfl) ?_
  intro entry entryMem
  rw [quickBooks_serve_findByName] at entryMem
  exact .inl entryMem

theorem noted_serve_create {fate : Fate} {created : EntityPayload}
    (answered : (serve fate (.create realm entityType payload requestId) world).2 =
      Except.ok created) :
    ∃ note ∈ (serve fate (.create realm entityType payload requestId) world).1.notes,
      note = .created requestId (realm, entityType, created.qboId) ∨
        note = .replayed requestId (realm, entityType, created.qboId) := by
  cases fate with
  | served =>
    change (world.createInQuickBooks realm entityType payload requestId).2 = _ at answered
    change ∃ note ∈ (world.createInQuickBooks realm entityType payload requestId).1.notes, _
    unfold World.createInQuickBooks at answered ⊢
    generalize world.quickBooks.create realm entityType payload requestId = outcome
      at answered ⊢
    rcases outcome with ⟨quickBooks, error | entity⟩
    · exact nomatch answered
    · obtain rfl : entity = created := Except.ok.inj answered
      refine ⟨_, List.mem_cons_self, ?_⟩
      split_ifs
      · exact .inr rfl
      · exact .inl rfl
  | unserved error => exact nomatch answered
  | unanswered error => exact nomatch answered

theorem noted_serve_update {fate : Fate} {qboId baseSyncToken : String}
    {updated : EntityPayload}
    (answered : (serve fate (.update realm entityType qboId payload baseSyncToken requestId)
      world).2 = Except.ok updated) :
    ∃ note ∈ (serve fate (.update realm entityType qboId payload baseSyncToken requestId)
        world).1.notes,
      note = .updated requestId (realm, entityType, updated.qboId) ∨
        note = .replayed requestId (realm, entityType, updated.qboId) := by
  cases fate with
  | served =>
    change (world.updateInQuickBooks realm entityType qboId payload baseSyncToken
      requestId).2 = _ at answered
    change ∃ note ∈ (world.updateInQuickBooks realm entityType qboId payload baseSyncToken
      requestId).1.notes, _
    unfold World.updateInQuickBooks at answered ⊢
    generalize world.quickBooks.update realm entityType qboId payload baseSyncToken
      requestId = outcome at answered ⊢
    rcases outcome with ⟨quickBooks, error | entity⟩
    · cases error <;> exact nomatch answered
    · obtain rfl : entity = updated := Except.ok.inj answered
      refine ⟨_, List.mem_cons_self, ?_⟩
      split_ifs
      · exact .inr rfl
      · exact .inl rfl
  | unserved error => exact nomatch answered
  | unanswered error => exact nomatch answered

theorem stale_serve_update {fate : Fate} {qboId baseSyncToken : String}
    (answered : (serve fate (.update realm entityType qboId payload baseSyncToken requestId)
      world).2 = Except.error .staleSyncToken) :
    .stale requestId (realm, entityType, qboId) ∈
        (serve fate (.update realm entityType qboId payload baseSyncToken requestId)
          world).1.notes ∨
      .failed requestId .staleSyncToken ∈
        (serve fate (.update realm entityType qboId payload baseSyncToken requestId)
          world).1.notes := by
  cases fate with
  | served =>
    left
    change (world.updateInQuickBooks realm entityType qboId payload baseSyncToken
      requestId).2 = _ at answered
    change _ ∈ (world.updateInQuickBooks realm entityType qboId payload baseSyncToken
      requestId).1.notes
    unfold World.updateInQuickBooks at answered ⊢
    generalize world.quickBooks.update realm entityType qboId payload baseSyncToken
      requestId = outcome at answered ⊢
    rcases outcome with ⟨quickBooks, error | entity⟩
    · cases error with
      | staleSyncToken => exact List.mem_cons_self
      | _ => exact nomatch answered
    · exact nomatch answered
  | unserved error =>
    obtain rfl : error = .staleSyncToken := Except.error.inj answered
    exact .inr List.mem_cons_self
  | unanswered error =>
    obtain rfl : error = .staleSyncToken := Except.error.inj answered
    exact .inr List.mem_cons_self

theorem noted_serve_findByName {fate : Fate} {name : String} {existing : EntityPayload}
    (answered : (serve fate (.findByName realm entityType name) world).2 =
      Except.ok (some existing)) :
    .found (realm, entityType, existing.qboId) name ∈
      (serve fate (.findByName realm entityType name) world).1.notes := by
  cases fate with
  | served =>
    change (world.findInQuickBooks realm entityType name).2 = _ at answered
    change _ ∈ (world.findInQuickBooks realm entityType name).1.notes
    unfold World.findInQuickBooks at answered ⊢
    generalize world.quickBooks.findByName realm entityType name = outcome at answered ⊢
    cases outcome with
    | none => exact nomatch answered
    | some entity =>
      obtain rfl : entity = existing := Option.some.inj (Except.ok.inj answered)
      exact List.mem_cons_self
  | unserved error => exact nomatch answered
  | unanswered error => exact nomatch answered

end Remote

/-! ## Reads

A read goes on with what the file holds, in the same world, or refuses. -/

section Reads

variable {allowed : Fate → Call → World → Prop} {fit : Call → World → Prop}
variable {refuses : WriteError → World → Prop} {β : Type} {returns : β → World → Prop}
variable {world : World}

theorem meets_isWriteEnabled (realm : String)
    {next : Bool → Writing β} (fits : fit (.isWriteEnabled realm) world)
    (goesOn : Meets serve allowed fit refuses returns
      (next (world.store.writeEnabled.contains realm)) world)
    (refused : ∀ error, refuses (.store error) world) :
    Meets serve allowed fit refuses returns
      (Requests.isWriteEnabled realm >>= fun outcome => stored outcome >>= next) world := by
  refine ⟨fits, ?_⟩
  rintro (_ | error | error) -
  · exact goesOn
  · exact refused _
  · exact refused _

theorem meets_outboxRecords (realm : String) (states : List OutboxState)
    {next : List OutboxRecord → Writing β} (fits : fit (.outboxRecords realm states) world)
    (goesOn : Meets serve allowed fit refuses returns
      (next (world.store.outboxRecords realm states)) world)
    (refused : ∀ error, refuses (.store error) world) :
    Meets serve allowed fit refuses returns
      (Requests.outboxRecords realm states >>= fun outcome => stored outcome >>= next) world := by
  refine ⟨fits, ?_⟩
  rintro (_ | error | error) -
  · exact goesOn
  · exact refused _
  · exact refused _

theorem meets_outboxRecord (id : Nat)
    {next : Option OutboxRecord → Writing β} (fits : fit (.outboxRecord id) world)
    (goesOn : Meets serve allowed fit refuses returns
      (next (world.store.outboxRecord id)) world)
    (refused : ∀ error, refuses (.store error) world) :
    Meets serve allowed fit refuses returns
      (Requests.outboxRecord id >>= fun outcome => stored outcome >>= next) world := by
  refine ⟨fits, ?_⟩
  rintro (_ | error | error) -
  · exact goesOn
  · exact refused _
  · exact refused _

theorem meets_idMap (realm : String)
    {next : IdMap → Writing β} (fits : fit (.idMap realm) world)
    (goesOn : Meets serve allowed fit refuses returns
      (next (world.store.idMap realm)) world)
    (refused : ∀ error, refuses (.store error) world) :
    Meets serve allowed fit refuses returns
      (Requests.idMap realm >>= fun outcome => stored outcome >>= next) world := by
  refine ⟨fits, ?_⟩
  rintro (_ | error | error) -
  · exact goesOn
  · exact refused _
  · exact refused _

theorem meets_resolveLocalId (realm localEntityId : String)
    {next : Option String → Writing β} (fits : fit (.resolveLocalId realm localEntityId) world)
    (goesOn : Meets serve allowed fit refuses returns
      (next (world.store.resolveLocalId realm localEntityId)) world)
    (refused : ∀ error, refuses (.store error) world) :
    Meets serve allowed fit refuses returns
      (Requests.resolveLocalId realm localEntityId >>= fun outcome => stored outcome >>= next) world := by
  refine ⟨fits, ?_⟩
  rintro (_ | error | error) -
  · exact goesOn
  · exact refused _
  · exact refused _

theorem meets_getEntity (realm : String) (entityType : EntityType) (qboId : String)
    {next : Option MirroredVersion → Writing β} (fits : fit (.getEntity realm entityType qboId) world)
    (goesOn : Meets serve allowed fit refuses returns
      (next (world.store.getEntity realm entityType qboId)) world)
    (refused : ∀ error, refuses (.store error) world) :
    Meets serve allowed fit refuses returns
      (Requests.getEntity realm entityType qboId >>= fun outcome => stored outcome >>= next) world := by
  refine ⟨fits, ?_⟩
  rintro (_ | error | error) -
  · exact goesOn
  · exact refused _
  · exact refused _

theorem meets_newUuid {next : Nat → Writing β} (fits : fit .newUuid world)
    (goesOn : Meets serve allowed fit refuses returns (next world.nextUuid)
      { world with nextUuid := world.nextUuid + 1 }) :
    Meets serve allowed fit refuses returns (Requests.newUuid >>= next) world := by
  refine ⟨fits, ?_⟩
  rintro (_ | error | error) - <;> exact goesOn

theorem meets_requireWrites {realm : String} {next : Unit → Writing β}
    (fits : fit (.isWriteEnabled realm) world)
    (goesOn : Meets serve allowed fit refuses returns (next ()) world)
    (refused : ∀ error, refuses error world) :
    Meets serve allowed fit refuses returns (requireWrites realm >>= next) world := by
  rw [meets_bind]
  apply meets_isWriteEnabled realm fits
  · rw [meets_ensure]
    exact ⟨fun _ => goesOn, fun _ => refused _⟩
  · exact fun error => refused _

end Reads

end QuickBooks.Outbox

namespace QuickBooks.Outbox

open InterruptiblePrograms

/-- What the outcome of an attempt tells. -/
def Answered (record : OutboxRecord) (now : World) : Except QboError Applied → Prop
  | .ok applied => Acknowledged now record applied.qboId
  | .error error => error = .staleSyncToken → record.operation = .update →
      FoundStale now record

section Sends

variable {before now : World} {realm : String} {time : Int}
variable {begun : OutboxRecord} {rest : List OutboxRecord} {sweep : Sweep} {payload : Json}

theorem PassKnows.inRealm (knows : PassKnows before realm time (begun :: rest) sweep now)
    (inFlight : begun.state = .inFlight) (sameRealm : SameRealmParents before.store.outbox) :
    begun.realmId = realm :=
  (knows.realms sameRealm begun List.mem_cons_self).resolve_right
    (by simp [inFlight, OutboxState.isTerminal])

theorem PassKnows.sending (beforeSound : Sound before)
    (knows : PassKnows before realm time (begun :: rest) sweep now)
    (inFlight : begun.state = .inFlight)
    (rewritten : rewriteLocalIds begun.realmId sweep.idMap begun.payloadJson = (payload, true))
    (dependency : sweep.dependencyApplied begun = true)
    (free : begun.entityKey ∉ sweep.blockedEntities) :
    Sending before now begun sweep.idMap payload := by
  have begunMem := knows.rows begun List.mem_cons_self
  have inRealm := knows.inRealm inFlight
  have notEarlier : ∀ other ∈ begun :: rest, ¬ other.id < begun.id := by
    intro other otherMem earlier
    rcases List.mem_cons.mp otherMem with rfl | inRest
    · exact lt_irrefl _ earlier
    · exact absurd ((List.pairwise_cons.mp knows.sorted).1 other inRest) earlier.asymm
  have notBlocked : ∀ drained ∈ sweep.drained, drained.entityKey = begun.entityKey →
      Rests before now sweep drained := by
    intro drained drainedMem sameKey
    exact (knows.drained drained drainedMem).resolve_left (sameKey ▸ free)
  constructor
  case rowMem => exact begunMem
  case inFlight => exact inFlight
  case waited => exact knows.waited begun begunMem (by rw [inFlight]; rfl)
  case rewritten => exact rewritten
  case assigned => exact knows.assigned
  case earlierOver =>
    intro sameRealm other otherMem sameKey earlier
    by_contra notOver
    rw [not_or, Bool.not_eq_true] at notOver
    obtain ⟨otherOpen, otherSaved⟩ := notOver
    have otherRealm : other.realmId = realm :=
      (congrArg Prod.fst sameKey).trans (inRealm sameRealm)
    rcases knows.opened other otherMem otherRealm otherOpen with
      inTodo | ⟨drained, drainedMem, sameId⟩
    · exact notEarlier other inTodo earlier
    · have drainedSame := (knows.drainedRows drained drainedMem).sameRequest
        knows.sound.distinctIds otherMem sameId.symm
      rcases notBlocked drained drainedMem (drainedSame.entityKey_eq.symm.trans sameKey) with
        ⟨-, held, final⟩ | ⟨applied, held | unsaved, -⟩
      · rw [eq_of_id_eq knows.sound.distinctIds held otherMem sameId] at final
        simp [final] at otherOpen
      · rw [eq_of_id_eq knows.sound.distinctIds held otherMem sameId] at applied
        simp [applied, OutboxState.isTerminal] at otherOpen
      · exact otherSaved (sameId ▸ unsaved)
  case parentApplied =>
    intro id depends
    unfold Sweep.dependencyApplied at dependency
    rw [depends] at dependency
    exact knows.states id (of_decide_eq_true dependency)
  case target =>
    intro sameRealm
    by_cases found : (sweep.idMap.lookup (begun.realmId, begun.localEntityId)).isSome
    · exact .inl found
    · right
      constructor
      · rw [← Option.not_isSome_iff_eq_none]
        exact fun mapped => found (knows.known _ (inRealm sameRealm) mapped)
      · intro other otherMem sameKey earlier
        by_contra otherOpen
        rw [Bool.not_eq_true] at otherOpen
        obtain ⟨record, inTodo | drainedMem, same⟩ := knows.openedBefore other otherMem
          ((congrArg Prod.fst sameKey).trans (inRealm sameRealm)) otherOpen
        · exact notEarlier record inTodo (same.id_eq ▸ earlier)
        · have drainedKey := same.entityKey_eq.symm.trans sameKey
          rcases notBlocked record drainedMem drainedKey with
            ⟨held, -, final⟩ | ⟨-, -, mapped⟩
          · rw [← eq_of_id_eq beforeSound.distinctIds otherMem held same.id_eq] at final
            simp [final] at otherOpen
          · have sameKeys := Prod.mk.inj drainedKey
            rw [sameKeys.1, (Prod.mk.inj sameKeys.2).2] at mapped
            exact found mapped

variable {allowed : Fate → Call → World → Prop} {refuses : WriteError → World → Prop}

theorem meets_createNow (knows : PassKnows before realm time (begun :: rest) sweep now)
    (sending : Sending before now begun sweep.idMap payload)
    (isCreate : begun.operation = .create) :
    Meets serve allowed (CommandFit (.drainOnce realm time) before) refuses
      (fun outcome after => PassKnows before realm time (begun :: rest) sweep after ∧
        Answered begun after outcome) (createNow begun payload) now := by
  refine ⟨⟨knows.sound, rfl, begun, sweep.idMap, sending, rfl, rfl, isCreate, rfl,
    knows.inRealm sending.inFlight⟩, ?_⟩
  intro fate _
  have minted := knows.sound.mintedRequests begun sending.rowMem
  have sound : Sound (serve fate (.create begun.realmId begun.entityType payload
      begun.requestId) now).1 :=
    sound_serve_create knows.sound minted fate
  have kept := knows.onlyNotes (onlyNotes_serve now fate rfl) sound
  refine ⟨kept, ?_⟩
  have noted : ∀ created, (serve fate (.create begun.realmId begun.entityType payload
      begun.requestId) now).2 = Except.ok created → _ :=
    fun created answered => noted_serve_create answered
  change Answered begun _ (Except.map _ _)
  generalize serve fate (.create begun.realmId begun.entityType payload begun.requestId) now =
    outcome at noted ⊢
  rcases outcome with ⟨after, error | created⟩
  · intro _ isUpdate
    rw [isCreate] at isUpdate
    exact nomatch isUpdate
  · obtain ⟨note, noteMem, rfl | rfl⟩ := noted created rfl
    · exact ⟨_, noteMem, rfl, rfl⟩
    · exact ⟨_, noteMem, rfl, rfl⟩

theorem meets_issue (knows : PassKnows before realm time (begun :: rest) sweep now)
    (sends : ∀ after, PassKnows before realm time (begun :: rest) sweep after →
      Sending before after begun sweep.idMap payload)
    (rewritten : rewriteLocalIds begun.realmId sweep.idMap begun.payloadJson = (payload, true)) :
    Meets serve allowed (CommandFit (.drainOnce realm time) before) refuses
      (fun outcome after => PassKnows before realm time (begun :: rest) sweep after ∧
        Answered begun after outcome) (issue sweep.idMap begun payload) now := by
  unfold issue
  cases operation : begun.operation with
  | create =>
    dsimp only
    split
    · rename_i name named
      have queried : begun.needsQueryBeforeCreate = true ∧
          uniqueNameOf begun.entityType payload = some name := by
        split_ifs at named with needed
        exact ⟨needed, named⟩
      obtain ⟨needed, isName⟩ := queried
      have requires : requiresQueryBeforeCreate begun.entityType = true := by
        simpa [OutboxRecord.needsQueryBeforeCreate, operation] using needed
      refine ⟨⟨knows.sound, rfl, begun, sweep.idMap, payload, sends now knows, rfl, rfl,
        operation, isName, knows.inRealm (sends now knows).inFlight⟩, ?_⟩
      intro fate _
      have sound : Sound (serve fate (.findByName begun.realmId begun.entityType name)
          now).1 :=
        sound_serve_findByName knows.sound fate
      have kept := knows.onlyNotes (onlyNotes_serve now fate rfl) sound
      have noted : ∀ existing, (serve fate (.findByName begun.realmId begun.entityType name)
          now).2 = Except.ok (some existing) → _ :=
        fun existing answered => noted_serve_findByName answered
      generalize serve fate (.findByName begun.realmId begun.entityType name) now = outcome
        at noted kept ⊢
      rcases outcome with ⟨after, error | _ | existing⟩
      · refine ⟨kept, ?_⟩
        intro _ isUpdate
        rw [operation] at isUpdate
        cases isUpdate
      · exact meets_createNow kept (sends after kept) operation
      · exact ⟨kept, _, noted existing rfl, operation, requires, rfl, sweep.idMap,
          by rw [rewritten]; exact isName⟩
    · exact meets_createNow knows (sends now knows) operation
  | update =>
    refine ⟨⟨knows.sound, rfl, begun, sweep.idMap, sends now knows, rfl, rfl, operation, rfl, rfl,
      rfl, knows.inRealm (sends now knows).inFlight⟩, ?_⟩
    intro fate _
    have minted := knows.sound.mintedRequests begun (sends now knows).rowMem
    generalize (sweep.idMap.lookup (begun.realmId, begun.localEntityId)).getD
      begun.localEntityId = qboId
    have sound : Sound (serve fate (.update begun.realmId begun.entityType qboId payload
        (begun.baseSyncToken.getD "") begun.requestId) now).1 :=
      sound_serve_update knows.sound minted fate
    have kept := knows.onlyNotes (onlyNotes_serve now fate rfl) sound
    refine ⟨kept, ?_⟩
    have noted : ∀ updated, (serve fate (.update begun.realmId begun.entityType qboId payload
        (begun.baseSyncToken.getD "") begun.requestId) now).2 = Except.ok updated → _ :=
      fun updated answered => noted_serve_update answered
    have stale : (serve fate (.update begun.realmId begun.entityType qboId payload
        (begun.baseSyncToken.getD "") begun.requestId) now).2 =
          Except.error .staleSyncToken → _ :=
      fun answered => stale_serve_update answered
    change Answered begun _ (Except.map _ _)
    generalize serve fate (.update begun.realmId begun.entityType qboId payload
      (begun.baseSyncToken.getD "") begun.requestId) now = outcome at noted stale ⊢
    rcases outcome with ⟨after, error | updated⟩
    · intro isStale _
      rw [isStale] at stale
      rcases stale rfl with noteMem | noteMem
      · exact .inl ⟨qboId, noteMem⟩
      · exact .inr noteMem
    · obtain ⟨note, noteMem, rfl | rfl⟩ := noted updated rfl
      · exact ⟨_, noteMem, rfl, rfl⟩
      · exact ⟨_, noteMem, rfl, rfl⟩

theorem stateAfter_failureOf {error : QboError}
    (conflicted : begun.stateAfter (failureOf error) = .conflicted) :
    error = .staleSyncToken := by
  cases error with
  | staleSyncToken => rfl
  | rateLimited | network message =>
    simp only [failureOf, QboError.isTransient, if_true, OutboxRecord.stateAfter] at conflicted
    split_ifs at conflicted
  | validation message | notFound | dailyBudgetExhausted message =>
    simp [failureOf, QboError.isTransient, OutboxRecord.stateAfter] at conflicted

theorem stateAfter_cases (failure : DrainFailure) :
    begun.stateAfter failure = .pending ∨ begun.stateAfter failure = .conflicted ∨
      begun.stateAfter failure = .rejected := by
  cases failure with
  | transient message => unfold OutboxRecord.stateAfter; split_ifs <;> simp
  | staleSyncToken => exact .inr (.inl rfl)
  | rejected message => exact .inr (.inr rfl)

theorem meets_attempt (knows : PassKnows before realm time (begun :: rest) sweep now)
    (inFlight : begun.state = .inFlight)
    (sends : ∀ after, PassKnows before realm time (begun :: rest) sweep after →
      Sending before after begun sweep.idMap payload)
    (rewritten : rewriteLocalIds begun.realmId sweep.idMap begun.payloadJson = (payload, true)) :
    Meets serve allowed (CommandFit (.drainOnce realm time) before) refuses
      (PassKnows before realm time rest) (attempt time sweep begun payload) now := by
  have waits : begun.state.mayBeSent = true := by
    rw [inFlight]
    rfl
  have wasOpen := OutboxState.isTerminal_of_mayBeSent waits
  unfold attempt
  rw [meets_bind]
  refine (meets_issue knows sends rewritten).imp ?_
  rintro (error | outcome) after ⟨knows, answered⟩
  · have moved := begun.moved_markFailed time inFlight (failureOf error)
    dsimp only
    generalize begun.changed (begun.markFailed time (failureOf error)) = failed at moved ⊢
    refine ⟨⟨knows.sound, begun, knows.rows begun List.mem_cons_self, moved.same, ?_⟩, ?_⟩
    · refine .failed rfl inFlight (moved.state_eq ▸ stateAfter_cases _) moved.sameBase ?_
      intro conflicted
      exact answered (stateAfter_failureOf (moved.state_eq.symm.trans conflicted))
    · intro fate _
      exact knows.finishBlocked moved.same (saved_serve (knows.revises_head moved.same) fate)
        (moved.state_eq ▸ OutboxRecord.isTerminal_stateAfter _) wasOpen (fun _ => waits) rfl rfl
        rfl (.inr rfl)
  · have moved := begun.moved_markApplied time inFlight
    dsimp only
    generalize begun.changed (begun.markApplied time) = landed at moved ⊢
    refine ⟨⟨knows.sound, begun, knows.rows begun List.mem_cons_self, moved.same, ?_⟩, ?_⟩
    · refine .applied rfl inFlight moved.state_eq moved.sameBase ⟨outcome.qboId, answered⟩ ?_
      intro sameRealm
      exact (knows.realms sameRealm begun List.mem_cons_self).resolve_right (by simp [wasOpen])
    · intro fate _
      exact knows.finishLanded moved.same (saved_serve (knows.revises_head moved.same) fate)
        moved.state_eq moved.updatedAt_eq wasOpen answered outcome.adopted

theorem meets_drainRecord (beforeSound : Sound before)
    {record : OutboxRecord} (knows : PassKnows before realm time (record :: rest) sweep now) :
    Meets serve allowed (CommandFit (.drainOnce realm time) before) refuses
      (PassKnows before realm time rest) (drainRecord time sweep record) now := by
  have recordMem := knows.rows record List.mem_cons_self
  have self := saved_self knows.sound.distinctIds recordMem
  have heldBack : record.state.isTerminal = false →
      PassKnows before realm time rest (sweep.heldBack record) now := fun isOpen =>
    knows.finishBlocked (.refl record) self isOpen isOpen id rfl rfl rfl (.inl rfl)
  unfold drainRecord
  by_cases pending : record.state = .pending
  · have waits : record.state.mayBeSent = true := by
      rw [pending]
      rfl
    have isOpen := OutboxState.isTerminal_of_mayBeSent waits
    rw [if_neg (by simp [pending, OutboxState.isDrainable])]
    split_ifs with held
    · exact heldBack isOpen
    · rw [Bool.or_eq_true, not_or, Bool.not_eq_true, Bool.not_eq_false'] at held
      obtain ⟨dependency, free⟩ := held
      rcases rewritten : rewriteLocalIds record.realmId sweep.idMap record.payloadJson with
        ⟨payload, _ | _⟩
      · exact heldBack isOpen
      · obtain ⟨begun, canBegin, moved⟩ := record.exists_beginAttempt time pending
        have same := moved.same
        have revises := knows.revises_head same
        simp only [Bool.not_true, Bool.false_eq_true, if_false, canBegin]
        refine ⟨⟨knows.sound, record, recordMem, same,
          .begun rfl pending moved.state_eq moved.sameBase⟩, ?_⟩
        intro fate _
        rcases serve_saveOutboxState revises fate with done | ⟨error, failed⟩
        · rw [done]
          have begunKnows := knows.replaceHead same rfl (by rw [moved.state_eq]; rfl) waits
          have begunRewritten : rewriteLocalIds begun.realmId sweep.idMap begun.payloadJson =
              (payload, true) := by
            rw [← same.realmId_eq, ← same.payloadJson_eq]
            exact rewritten
          refine meets_attempt begunKnows moved.state_eq ?_ begunRewritten
          intro later laterKnows
          refine laterKnows.sending beforeSound moved.state_eq begunRewritten ?_ ?_
          · unfold Sweep.dependencyApplied at dependency ⊢
            rw [← same.dependsOn_eq]
            exact dependency
          · rw [← same.entityKey_eq]
            simpa using free
        · rw [failed]
          have unsent := begun.moved_markFailed time moved.state_eq
            (.transient ("not sent: " ++ error.text))
          change PassKnows before realm time rest _ _
          generalize begun.changed (begun.markFailed time _) = unsentCopy at unsent ⊢
          have copySame := same.trans unsent.same
          exact knows.finishBlocked copySame (.failed (by rw [unsent.same.id_eq]))
            (unsent.state_eq ▸ OutboxRecord.isTerminal_stateAfter _) isOpen (fun _ => waits) rfl
            rfl rfl (.inl rfl)
  · rw [if_pos (by cases state : record.state <;> simp_all [OutboxState.isDrainable])]
    cases final : record.state.isTerminal with
    | false =>
      exact knows.finishBlocked (.refl record) self final final id rfl
        (by simp [Sweep.passedOver, final]) rfl (.inl rfl)
    | true => exact knows.passFinal final

end Sends

end QuickBooks.Outbox
