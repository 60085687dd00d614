import QuickBooks.OutboxCalls

/-!
# What a pass knows of the file

A pass works on the copies it loaded.  `PassKnows` relates the records still to
come, the memory of the pass and the file: each copy to come is the row of the
file, every open row of the company is to come or was drained, and a drained
record blocks its entity unless it is final.  Each way a round can end keeps it.
-/

namespace QuickBooks.Outbox

open InterruptiblePrograms

/-- A drained record that does not hold its entity back: it was final before the
pass, or it was applied in this pass and its id is known. -/
def Rests (before now : World) (sweep : Sweep) (record : OutboxRecord) : Prop :=
  (record ∈ before.store.outbox ∧ record ∈ now.store.outbox ∧
      record.state.isTerminal = true) ∨
    record.state = .applied ∧
      (record ∈ now.store.outbox ∨ record.id ∈ now.unsaved) ∧
      (sweep.idMap.lookup (record.realmId, record.localEntityId)).isSome

def LandedIn (time : Int) (sweep : Sweep) (row : OutboxRecord) : Prop :=
  row ∈ sweep.drained ∧ row.updatedAt = time ∧
    (sweep.idMap.lookup (row.realmId, row.localEntityId)).isSome

structure PassKnows (before : World) (realm : String) (time : Int)
    (todo : List OutboxRecord) (sweep : Sweep) (now : World) : Prop where
  sound : Sound now
  localIdMap_eq : now.store.localIdMap = before.store.localIdMap
  rows : ∀ record ∈ todo, record ∈ now.store.outbox
  sorted : todo.Pairwise fun first second => first.id < second.id
  realms : SameRealmParents before.store.outbox →
    ∀ record ∈ todo, record.realmId = realm ∨ record.state.isTerminal = true
  finals : ∀ record ∈ todo, record.state.isTerminal = true → record ∈ before.store.outbox
  drainedRows : ∀ drained ∈ sweep.drained, Revises now.store.outbox drained
  drainedIds : ∀ drained ∈ sweep.drained, ∀ record ∈ todo, drained.id ≠ record.id
  drained : ∀ drained ∈ sweep.drained,
    drained.entityKey ∈ sweep.blockedEntities ∨ Rests before now sweep drained
  opened : ∀ row ∈ now.store.outbox, row.realmId = realm → row.state.isTerminal = false →
    row ∈ todo ∨ ∃ drained ∈ sweep.drained, drained.id = row.id
  openedBefore : ∀ row ∈ before.store.outbox, row.realmId = realm →
    row.state.isTerminal = false →
    ∃ record, (record ∈ todo ∨ record ∈ sweep.drained) ∧ SameRequest row record
  appliedRows : ∀ row ∈ now.store.outbox, row.state = .applied →
    row ∈ before.store.outbox ∨ LandedIn time sweep row
  states : ∀ id, sweep.states.lookup id = some .applied →
    ∃ row ∈ now.store.outbox, row.id = id ∧ (row.state = .applied ∨ id ∈ now.unsaved)
  assigned : ∀ entry ∈ sweep.idMap, Assigned now entry.1 entry.2
  known : ∀ key : String × String, key.1 = realm →
    (before.store.localIdMap.lookup key).isSome → (sweep.idMap.lookup key).isSome
  waited : WaitedBefore before now

section Rounds

variable {before now after : World} {realm : String} {time : Int}
variable {record copy : OutboxRecord} {rest : List OutboxRecord} {sweep : Sweep}

theorem saved_self (distinct : (now.store.outbox.map OutboxRecord.id).Nodup)
    (recordMem : record ∈ now.store.outbox) : Saved now record now := by
  have unchanged : now.store.outbox.map (Store.savedRow record) = now.store.outbox := by
    conv_rhs => rw [← List.map_id now.store.outbox]
    apply List.map_congr_left
    intro row rowMem
    by_cases same : row.id = record.id
    · rw [eq_of_id_eq distinct rowMem recordMem same]
      exact savedRow_eq (.refl record)
    · exact savedRow_of_ne same
  exact .done (by rw [unchanged])

theorem PassKnows.onlyNotes {todo : List OutboxRecord}
    (knows : PassKnows before realm time todo sweep now) (frame : OnlyNotes now after)
    (sound : Sound after) : PassKnows before realm time todo sweep after := by
  obtain ⟨sameStore, sameUnsaved, -, grows⟩ := frame
  have keeps : ∀ {key qboId}, Assigned now key qboId → Assigned after key qboId := by
    rintro key qboId (stored | ⟨row, rowMem, sameKey, acknowledged⟩)
    · exact .inl (sameStore ▸ stored)
    · exact .inr ⟨row, sameStore ▸ rowMem, sameKey, acknowledged.mono grows⟩
  constructor
  case sound => exact sound
  case localIdMap_eq => rw [sameStore]; exact knows.localIdMap_eq
  case rows => rw [sameStore]; exact knows.rows
  case sorted => exact knows.sorted
  case realms => exact knows.realms
  case finals => exact knows.finals
  case drainedRows => rw [sameStore]; exact knows.drainedRows
  case drainedIds => exact knows.drainedIds
  case drained => unfold Rests; rw [sameStore, sameUnsaved]; exact knows.drained
  case opened => rw [sameStore]; exact knows.opened
  case openedBefore => exact knows.openedBefore
  case appliedRows => rw [sameStore]; exact knows.appliedRows
  case states => rw [sameStore, sameUnsaved]; exact knows.states
  case assigned => exact fun entry entryMem => keeps (knows.assigned entry entryMem)
  case known => exact knows.known
  case waited => unfold WaitedBefore; rw [sameStore]; exact knows.waited

theorem Saved.revises (saved : Saved now copy after) {drained : OutboxRecord}
    (revises : Revises now.store.outbox drained) : Revises after.store.outbox drained := by
  obtain ⟨row, rowMem, same⟩ := revises
  obtain ⟨kept, keptMem, keptSame⟩ := saved.exists_sameRequest rowMem
  exact ⟨kept, keptMem, keptSame.symm.trans same⟩

theorem Saved.rests (saved : Saved now copy after) {drained : OutboxRecord}
    (different : drained.id ≠ copy.id) (rests : Rests before now sweep drained) :
    Rests before after sweep drained := by
  rcases rests with ⟨inBefore, inNow, final⟩ | ⟨applied, held | unsaved, found⟩
  · exact .inl ⟨inBefore, saved.mem_of_ne inNow different, final⟩
  · exact .inr ⟨applied, .inl (saved.mem_of_ne held different), found⟩
  · exact .inr ⟨applied, .inr (saved.unsaved_mono unsaved), found⟩

section Head

variable (knows : PassKnows before realm time (record :: rest) sweep now)
  (same : SameRequest record copy)

include knows in
theorem PassKnows.revises_head (same : SameRequest record copy) :
    Revises now.store.outbox copy :=
  ⟨record, knows.rows record List.mem_cons_self, same⟩

include knows in
theorem PassKnows.ne_of_mem_rest {other : OutboxRecord} (otherMem : other ∈ rest) :
    other.id ≠ record.id :=
  ((List.pairwise_cons.mp knows.sorted).1 other otherMem).ne'

include knows in
theorem PassKnows.ne_of_mem_drained {drained : OutboxRecord}
    (drainedMem : drained ∈ sweep.drained) : drained.id ≠ record.id :=
  knows.drainedIds drained drainedMem record List.mem_cons_self

include knows same in
/-- What a round that ends with a copy in the file or noted as unsaved keeps of
the tables, whatever the pass remembers of it. -/
theorem PassKnows.row_cases (saved : Saved now copy after) {row : OutboxRecord}
    (rowMem : row ∈ after.store.outbox) :
    row = copy ∨ row ∈ now.store.outbox ∧
      (row.id ≠ record.id ∨ row = record ∧ copy.id ∈ after.unsaved) := by
  rcases saved.mem_cases knows.sound.distinctIds (knows.revises_head same) rowMem with
    isCopy | ⟨old, different | unsaved⟩
  · exact .inl isCopy
  · exact .inr ⟨old, .inl (same.id_eq ▸ different)⟩
  · by_cases here : row.id = record.id
    · have isRecord := eq_of_id_eq knows.sound.distinctIds old
        (knows.rows record List.mem_cons_self) here
      exact .inr ⟨old, .inr ⟨isRecord, unsaved⟩⟩
    · exact .inr ⟨old, .inl here⟩

include knows same in
theorem PassKnows.applied_after (saved : Saved now copy after)
    (wasOpen : record.state.isTerminal = false) {id : Nat}
    (found : sweep.states.lookup id = some .applied) :
    ∃ row ∈ after.store.outbox, row.id = id ∧
      (row.state = .applied ∨ id ∈ after.unsaved) := by
  obtain ⟨row, rowMem, rfl, landed⟩ := knows.states id found
  by_cases here : row.id = record.id
  · have isRecord := eq_of_id_eq knows.sound.distinctIds rowMem
      (knows.rows record List.mem_cons_self) here
    have unsaved : row.id ∈ now.unsaved := landed.resolve_left (by
      intro applied
      simp [← isRecord, applied, OutboxState.isTerminal] at wasOpen)
    obtain ⟨kept, keptMem, keptSame⟩ := saved.exists_sameRequest rowMem
    exact ⟨kept, keptMem, keptSame.id_eq.symm, .inr (saved.unsaved_mono unsaved)⟩
  · exact ⟨row, saved.mem_of_ne rowMem (same.id_eq ▸ here), rfl,
      landed.imp_right saved.unsaved_mono⟩

include knows same in
theorem PassKnows.replaceHead (stored : after = { now with
      store := { now.store with outbox := now.store.outbox.map (Store.savedRow copy) } })
    (isOpen : copy.state.isTerminal = false) (waits : record.state.mayBeSent = true) :
    PassKnows before realm time (copy :: rest) sweep after := by
  have wasOpen : record.state.isTerminal = false :=
    OutboxState.isTerminal_of_mayBeSent waits
  have saved : Saved now copy after := .done stored
  have revises := knows.revises_head same
  have rowCases : ∀ row ∈ after.store.outbox,
      row = copy ∨ row ∈ now.store.outbox ∧ row.id ≠ record.id := by
    intro row rowMem
    rw [stored] at rowMem
    rw [same.id_eq]
    exact (mem_map_savedRow knows.sound.distinctIds revises).mp rowMem
  constructor
  case sound => exact saved.sound knows.sound
  case localIdMap_eq => rw [saved.localIdMap_eq]; exact knows.localIdMap_eq
  case rows =>
    intro other otherMem
    rcases List.mem_cons.mp otherMem with rfl | inRest
    · rw [stored]
      exact (mem_map_savedRow knows.sound.distinctIds revises).mpr (.inl rfl)
    · exact saved.mem_of_ne (knows.rows other (List.mem_cons_of_mem _ inRest))
        (same.id_eq ▸ knows.ne_of_mem_rest inRest)
  case sorted =>
    obtain ⟨first, later⟩ := List.pairwise_cons.mp knows.sorted
    exact List.pairwise_cons.mpr ⟨fun other inRest => same.id_eq ▸ first other inRest, later⟩
  case realms =>
    intro sameRealm other otherMem
    rcases List.mem_cons.mp otherMem with rfl | inRest
    · left
      rw [← same.realmId_eq]
      exact (knows.realms sameRealm record List.mem_cons_self).resolve_right (by simp [wasOpen])
    · exact knows.realms sameRealm other (List.mem_cons_of_mem _ inRest)
  case finals =>
    intro other otherMem final
    rcases List.mem_cons.mp otherMem with rfl | inRest
    · simp [isOpen] at final
    · exact knows.finals other (List.mem_cons_of_mem _ inRest) final
  case drainedRows =>
    exact fun drained drainedMem => saved.revises (knows.drainedRows drained drainedMem)
  case drainedIds =>
    intro drained drainedMem other otherMem
    rcases List.mem_cons.mp otherMem with rfl | inRest
    · exact same.id_eq ▸ knows.ne_of_mem_drained drainedMem
    · exact knows.drainedIds drained drainedMem other (List.mem_cons_of_mem _ inRest)
  case drained =>
    intro drained drainedMem
    exact (knows.drained drained drainedMem).imp_right
      (saved.rests (same.id_eq ▸ knows.ne_of_mem_drained drainedMem))
  case opened =>
    intro row rowMem inRealm rowOpen
    rcases rowCases row rowMem with rfl | ⟨old, different⟩
    · exact .inl List.mem_cons_self
    · refine (knows.opened row old inRealm rowOpen).imp_left ?_
      intro inTodo
      rcases List.mem_cons.mp inTodo with rfl | inRest
      · exact absurd rfl different
      · exact List.mem_cons_of_mem _ inRest
  case openedBefore =>
    intro row rowMem inRealm rowOpen
    obtain ⟨other, inTodo | drained, otherSame⟩ := knows.openedBefore row rowMem inRealm rowOpen
    · rcases List.mem_cons.mp inTodo with rfl | inRest
      · exact ⟨copy, .inl List.mem_cons_self, otherSame.trans same⟩
      · exact ⟨other, .inl (List.mem_cons_of_mem _ inRest), otherSame⟩
    · exact ⟨other, .inr drained, otherSame⟩
  case appliedRows =>
    intro row rowMem applied
    rcases rowCases row rowMem with rfl | ⟨old, -⟩
    · simp [applied, OutboxState.isTerminal] at isOpen
    · exact knows.appliedRows row old applied
  case states =>
    exact fun id found => knows.applied_after same saved wasOpen found
  case assigned =>
    exact fun entry entryMem => saved.assigned (knows.assigned entry entryMem)
  case known => exact knows.known
  case waited =>
    exact saved.waitedBefore knows.sound.distinctIds (knows.rows record List.mem_cons_self) same
      (fun _ => waits) knows.waited

include knows same in
theorem PassKnows.finishBlocked (saved : Saved now copy after) {later : Sweep}
    (isOpen : copy.state.isTerminal = false) (wasOpen : record.state.isTerminal = false)
    (waits : copy.state.mayBeSent = true → record.state.mayBeSent = true)
    (drainedEq : later.drained = sweep.drained ++ [copy])
    (blockedEq : later.blockedEntities = copy.entityKey :: sweep.blockedEntities)
    (idMapEq : later.idMap = sweep.idMap)
    (statesEq : later.states = sweep.states ∨
      later.states = (copy.id, copy.state) :: sweep.states) :
    PassKnows before realm time rest later after := by
  have revises := knows.revises_head same
  have mem_drained : ∀ {drained}, drained ∈ later.drained →
      drained ∈ sweep.drained ∨ drained = copy := by
    intro drained drainedMem
    simpa [drainedEq] using drainedMem
  have inRestOfTodo : ∀ {other}, other ∈ record :: rest → other.id ≠ record.id →
      other ∈ rest := by
    intro other inTodo different
    rcases List.mem_cons.mp inTodo with rfl | inRest
    · exact absurd rfl different
    · exact inRest
  constructor
  case sound => exact saved.sound knows.sound
  case localIdMap_eq => rw [saved.localIdMap_eq]; exact knows.localIdMap_eq
  case rows =>
    intro other inRest
    exact saved.mem_of_ne (knows.rows other (List.mem_cons_of_mem _ inRest))
      (same.id_eq ▸ knows.ne_of_mem_rest inRest)
  case sorted => exact (List.pairwise_cons.mp knows.sorted).2
  case realms =>
    exact fun sameRealm other inRest =>
      knows.realms sameRealm other (List.mem_cons_of_mem _ inRest)
  case finals =>
    exact fun other inRest => knows.finals other (List.mem_cons_of_mem _ inRest)
  case drainedRows =>
    intro drained drainedMem
    rcases mem_drained drainedMem with old | rfl
    · exact saved.revises (knows.drainedRows drained old)
    · exact saved.revises revises
  case drainedIds =>
    intro drained drainedMem other inRest
    rcases mem_drained drainedMem with old | rfl
    · exact knows.drainedIds drained old other (List.mem_cons_of_mem _ inRest)
    · exact same.id_eq ▸ (knows.ne_of_mem_rest inRest).symm
  case drained =>
    intro drained drainedMem
    rw [blockedEq]
    rcases mem_drained drainedMem with old | rfl
    · rcases knows.drained drained old with blocked | rests
      · exact .inl (List.mem_cons_of_mem _ blocked)
      · right
        have kept := saved.rests (same.id_eq ▸ knows.ne_of_mem_drained old) rests
        unfold Rests at kept ⊢
        rwa [idMapEq]
    · exact .inl List.mem_cons_self
  case opened =>
    intro row rowMem inRealm rowOpen
    rw [drainedEq]
    rcases knows.row_cases same saved rowMem with rfl | ⟨old, different | ⟨rfl, -⟩⟩
    · exact .inr ⟨row, by simp, rfl⟩
    · rcases knows.opened row old inRealm rowOpen with inTodo | ⟨drained, drainedMem, sameId⟩
      · exact .inl (inRestOfTodo inTodo different)
      · exact .inr ⟨drained, List.mem_append_left _ drainedMem, sameId⟩
    · exact .inr ⟨copy, by simp, same.id_eq.symm⟩
  case openedBefore =>
    intro row rowMem inRealm rowOpen
    rw [drainedEq]
    obtain ⟨other, inTodo | drained, otherSame⟩ := knows.openedBefore row rowMem inRealm rowOpen
    · rcases List.mem_cons.mp inTodo with rfl | inRest
      · exact ⟨copy, .inr (by simp), otherSame.trans same⟩
      · exact ⟨other, .inl inRest, otherSame⟩
    · exact ⟨other, .inr (List.mem_append_left _ drained), otherSame⟩
  case appliedRows =>
    intro row rowMem applied
    rcases knows.row_cases same saved rowMem with rfl | ⟨old, -⟩
    · simp [applied, OutboxState.isTerminal] at isOpen
    · refine (knows.appliedRows row old applied).imp_right ?_
      rintro ⟨drained, landed, found⟩
      exact ⟨drainedEq ▸ List.mem_append_left _ drained, landed, idMapEq ▸ found⟩
  case states =>
    intro id found
    have foundBefore : sweep.states.lookup id = some .applied := by
      rcases statesEq with unchanged | added
      · rwa [unchanged] at found
      · rw [added, List.lookup_cons] at found
        by_cases here : id = copy.id
        · simp only [here, beq_self_eq_true, Option.some.injEq] at found
          simp [found, OutboxState.isTerminal] at isOpen
        · have different : (id == copy.id) = false := by simpa using here
          simpa only [different] using found
    exact knows.applied_after same saved wasOpen foundBefore
  case assigned =>
    rw [idMapEq]
    exact fun entry entryMem => saved.assigned (knows.assigned entry entryMem)
  case known => rw [idMapEq]; exact knows.known
  case waited =>
    exact saved.waitedBefore knows.sound.distinctIds (knows.rows record List.mem_cons_self) same
      waits knows.waited

include knows same in
theorem PassKnows.finishLanded (saved : Saved now copy after)
    (applied : copy.state = .applied) (updated : copy.updatedAt = time)
    (wasOpen : record.state.isTerminal = false) {qboId : String}
    (acknowledged : Acknowledged now record qboId) (adopted : Bool) :
    PassKnows before realm time rest (sweep.landed copy qboId adopted) after := by
  have revises := knows.revises_head same
  have mem_drained : ∀ {drained}, drained ∈ (sweep.landed copy qboId adopted).drained →
      drained ∈ sweep.drained ∨ drained = copy := by
    intro drained drainedMem
    simpa [Sweep.landed] using drainedMem
  have lookup_landed : ∀ key : String × String,
      (sweep.landed copy qboId adopted).idMap.lookup key =
        if key = (copy.realmId, copy.localEntityId) then some qboId
        else sweep.idMap.lookup key := by
    intro key
    by_cases here : key = (copy.realmId, copy.localEntityId)
    · simp [Sweep.landed, here]
    · have different : (key == (copy.realmId, copy.localEntityId)) = false := by
        simpa using here
      simp [Sweep.landed, List.lookup_cons, different, here]
  have found_landed : ∀ key : String × String, (sweep.idMap.lookup key).isSome →
      ((sweep.landed copy qboId adopted).idMap.lookup key).isSome := by
    intro key found
    rw [lookup_landed]
    split_ifs
    · rfl
    · exact found
  have copyFound : ((sweep.landed copy qboId adopted).idMap.lookup
      (copy.realmId, copy.localEntityId)).isSome := by
    simp [lookup_landed]
  constructor
  case sound => exact saved.sound knows.sound
  case localIdMap_eq => rw [saved.localIdMap_eq]; exact knows.localIdMap_eq
  case rows =>
    intro other inRest
    exact saved.mem_of_ne (knows.rows other (List.mem_cons_of_mem _ inRest))
      (same.id_eq ▸ knows.ne_of_mem_rest inRest)
  case sorted => exact (List.pairwise_cons.mp knows.sorted).2
  case realms =>
    exact fun sameRealm other inRest =>
      knows.realms sameRealm other (List.mem_cons_of_mem _ inRest)
  case finals =>
    exact fun other inRest => knows.finals other (List.mem_cons_of_mem _ inRest)
  case drainedRows =>
    intro drained drainedMem
    rcases mem_drained drainedMem with old | rfl
    · exact saved.revises (knows.drainedRows drained old)
    · exact saved.revises revises
  case drainedIds =>
    intro drained drainedMem other inRest
    rcases mem_drained drainedMem with old | rfl
    · exact knows.drainedIds drained old other (List.mem_cons_of_mem _ inRest)
    · exact same.id_eq ▸ (knows.ne_of_mem_rest inRest).symm
  case drained =>
    intro drained drainedMem
    rcases mem_drained drainedMem with old | rfl
    · rcases knows.drained drained old with blocked | rests
      · exact .inl blocked
      · right
        refine (saved.rests (same.id_eq ▸ knows.ne_of_mem_drained old) rests).imp_right ?_
        rintro ⟨isApplied, held, found⟩
        exact ⟨isApplied, held, found_landed _ found⟩
    · exact .inr (.inr ⟨applied, saved.mem_or_unsaved revises, copyFound⟩)
  case opened =>
    intro row rowMem inRealm rowOpen
    rcases knows.row_cases same saved rowMem with rfl | ⟨old, different | ⟨rfl, -⟩⟩
    · exact .inr ⟨row, by simp [Sweep.landed], rfl⟩
    · rcases knows.opened row old inRealm rowOpen with inTodo | ⟨drained, drainedMem, sameId⟩
      · rcases List.mem_cons.mp inTodo with rfl | inRest
        · exact absurd rfl different
        · exact .inl inRest
      · exact .inr ⟨drained, List.mem_append_left _ drainedMem, sameId⟩
    · exact .inr ⟨copy, by simp [Sweep.landed], same.id_eq.symm⟩
  case openedBefore =>
    intro row rowMem inRealm rowOpen
    obtain ⟨other, inTodo | drained, otherSame⟩ := knows.openedBefore row rowMem inRealm rowOpen
    · rcases List.mem_cons.mp inTodo with rfl | inRest
      · exact ⟨copy, .inr (by simp [Sweep.landed]), otherSame.trans same⟩
      · exact ⟨other, .inl inRest, otherSame⟩
    · exact ⟨other, .inr (List.mem_append_left _ drained), otherSame⟩
  case appliedRows =>
    intro row rowMem rowApplied
    rcases knows.row_cases same saved rowMem with rfl | ⟨old, -⟩
    · exact .inr ⟨by simp [Sweep.landed], updated, copyFound⟩
    · refine (knows.appliedRows row old rowApplied).imp_right ?_
      rintro ⟨drained, landed, found⟩
      exact ⟨List.mem_append_left _ drained, landed, found_landed _ found⟩
  case states =>
    intro id found
    by_cases here : id = copy.id
    · subst here
      rcases saved.mem_or_unsaved revises with held | unsaved
      · exact ⟨copy, held, rfl, .inl applied⟩
      · obtain ⟨kept, keptMem, keptSame⟩ :=
          saved.exists_sameRequest (knows.rows record List.mem_cons_self)
        exact ⟨kept, keptMem, keptSame.id_eq.symm.trans same.id_eq, .inr unsaved⟩
    · have different : (id == copy.id) = false := by simpa using here
      have foundBefore : sweep.states.lookup id = some .applied := by
        simpa [Sweep.landed, List.lookup_cons, different] using found
      exact knows.applied_after same saved wasOpen foundBefore
  case assigned =>
    intro entry entryMem
    rcases List.mem_cons.mp entryMem with rfl | old
    · obtain ⟨kept, keptMem, keptSame⟩ :=
        saved.exists_sameRequest (knows.rows record List.mem_cons_self)
      have keptCopy := keptSame.symm.trans same
      refine .inr ⟨kept, keptMem, ?_, ?_⟩
      · rw [keptCopy.realmId_eq, keptCopy.localEntityId_eq]
      · exact (acknowledged.of_sameRequest keptSame).mono
          (saved.notes_eq ▸ fun _ noteMem => noteMem)
    · exact saved.assigned (knows.assigned entry old)
  case known => exact fun key inRealm found => found_landed key (knows.known key inRealm found)
  case waited =>
    refine saved.waitedBefore knows.sound.distinctIds (knows.rows record List.mem_cons_self)
      same ?_ knows.waited
    rw [applied]
    exact fun waits => nomatch waits

include knows in
theorem PassKnows.passFinal (final : record.state.isTerminal = true) :
    PassKnows before realm time rest (sweep.passedOver record) now := by
  have blockedEq : (sweep.passedOver record).blockedEntities = sweep.blockedEntities := by
    simp [Sweep.passedOver, final]
  have mem_drained : ∀ {drained}, drained ∈ (sweep.passedOver record).drained →
      drained ∈ sweep.drained ∨ drained = record := by
    intro drained drainedMem
    simpa [Sweep.passedOver] using drainedMem
  have recordMem := knows.rows record List.mem_cons_self
  constructor
  case sound => exact knows.sound
  case localIdMap_eq => exact knows.localIdMap_eq
  case rows => exact fun other inRest => knows.rows other (List.mem_cons_of_mem _ inRest)
  case sorted => exact (List.pairwise_cons.mp knows.sorted).2
  case realms =>
    exact fun sameRealm other inRest =>
      knows.realms sameRealm other (List.mem_cons_of_mem _ inRest)
  case finals =>
    exact fun other inRest => knows.finals other (List.mem_cons_of_mem _ inRest)
  case drainedRows =>
    intro drained drainedMem
    rcases mem_drained drainedMem with old | rfl
    · exact knows.drainedRows drained old
    · exact knows.revises_head (.refl _)
  case drainedIds =>
    intro drained drainedMem other inRest
    rcases mem_drained drainedMem with old | rfl
    · exact knows.drainedIds drained old other (List.mem_cons_of_mem _ inRest)
    · exact (knows.ne_of_mem_rest inRest).symm
  case drained =>
    intro drained drainedMem
    rw [blockedEq]
    rcases mem_drained drainedMem with old | rfl
    · exact knows.drained drained old
    · exact .inr (.inl ⟨knows.finals drained List.mem_cons_self final, recordMem, final⟩)
  case opened =>
    intro row rowMem inRealm rowOpen
    rcases knows.opened row rowMem inRealm rowOpen with inTodo | ⟨drained, drainedMem, sameId⟩
    · rcases List.mem_cons.mp inTodo with rfl | inRest
      · simp [final] at rowOpen
      · exact .inl inRest
    · exact .inr ⟨drained, List.mem_append_left _ drainedMem, sameId⟩
  case openedBefore =>
    intro row rowMem inRealm rowOpen
    obtain ⟨other, inTodo | drained, otherSame⟩ := knows.openedBefore row rowMem inRealm rowOpen
    · rcases List.mem_cons.mp inTodo with rfl | inRest
      · exact ⟨other, .inr (by simp [Sweep.passedOver]), otherSame⟩
      · exact ⟨other, .inl inRest, otherSame⟩
    · exact ⟨other, .inr (List.mem_append_left _ drained), otherSame⟩
  case appliedRows =>
    intro row rowMem applied
    refine (knows.appliedRows row rowMem applied).imp_right ?_
    rintro ⟨drained, landed, found⟩
    exact ⟨List.mem_append_left _ drained, landed, found⟩
  case states => exact knows.states
  case assigned => exact knows.assigned
  case known => exact knows.known
  case waited => exact knows.waited

end Head

end Rounds

end QuickBooks.Outbox
