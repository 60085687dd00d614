import QuickBooks.OutboxMappings

/-!
# What the outbox never loses

Whatever is queued, sent, resolved, lost or cut short, every request that was once stored
stays stored as it was made, a record in a final state is never touched again, and an id that
was assigned to a local one stays assigned.
-/

namespace QuickBooks.Outbox

open InterruptiblePrograms TransitionRuns

structure Kept (before after : World) : Prop where
  requests : ∀ row ∈ before.store.outbox, ∃ later ∈ after.store.outbox, SameRequest row later
  final : ∀ row ∈ before.store.outbox, row.state.isTerminal = true → row ∈ after.store.outbox
  assigned : ∀ key qboId, before.store.localIdMap.lookup key = some qboId →
    after.store.localIdMap.lookup key = some qboId

theorem Kept.of_tables {before after : World} (outbox : after.store.outbox = before.store.outbox)
    (idMap : after.store.localIdMap = before.store.localIdMap) : Kept before after := by
  refine ⟨fun row rowMem => ⟨row, outbox ▸ rowMem, .refl row⟩, fun _ rowMem _ => outbox ▸ rowMem,
    fun key qboId found => idMap ▸ found⟩

theorem Kept.trans {first second third : World} (earlier : Kept first second)
    (later : Kept second third) : Kept first third where
  requests row rowMem := by
    obtain ⟨middle, middleMem, same⟩ := earlier.requests row rowMem
    obtain ⟨last, lastMem, sameLater⟩ := later.requests middle middleMem
    exact ⟨last, lastMem, same.trans sameLater⟩
  final row rowMem isFinal := later.final row (earlier.final row rowMem isFinal) isFinal
  assigned key qboId found := later.assigned key qboId (earlier.assigned key qboId found)

theorem Change.kept {command : Command} {before now after : World} {fate : Fate} {call : Call}
    (change : Change command before now fate call after) (sound : Sound now) : Kept now after := by
  have final : ∀ row ∈ now.store.outbox, row.state.isTerminal = true →
      row ∈ after.store.outbox := fun _ rowMem => change.final_mem sound rowMem
  cases change with
  | saved row record rowMem same why isCall =>
    refine ⟨fun other otherMem => ⟨_, List.mem_map_of_mem otherMem, ?_⟩, final,
      fun _ _ found => found⟩
    unfold Store.savedRow
    split_ifs
    · exact .refl other
    · exact .refl other
  | queued record =>
    exact ⟨fun row rowMem => ⟨row, List.mem_append_left _ rowMem, .refl row⟩, final,
      fun _ _ found => found⟩
  | mapped realm localEntityId qboId =>
    refine ⟨fun row rowMem => ⟨row, outbox_recordIdMapping now.store localEntityId qboId ▸ rowMem,
      .refl row⟩, final, fun key assigned found => ?_⟩
    rw [lookup_recordIdMapping, found, if_neg (by simp)]
  | _ => exact .of_tables rfl rfl

theorem kept_occur (event : Event) (world : World) : Kept world (occur event world) := by
  cases event with
  | synced realm entityType qboId =>
    have same : (world.store.sync world.quickBooks realm entityType qboId).outbox =
        world.store.outbox ∧ (world.store.sync world.quickBooks realm entityType
          qboId).localIdMap = world.store.localIdMap := by
      unfold Store.sync
      cases world.quickBooks.get? realm entityType qboId <;> exact ⟨rfl, rfl⟩
    exact .of_tables same.1 same.2
  | _ => exact .of_tables rfl rfl

theorem sessionHolds_run {start : World} (sound : Sound start) (moves : List WriteMove) :
    SessionHolds serve (fun _ _ _ => True)
      (fun call now => AskedFrom (fun _ _ => True) (fun _ => True) call now ∧ True)
      (fun world => Sound world ∧ True) (runSession start moves) := by
  have permitted : EveryStep (Session.step serve program occur) (Permitted (fun _ _ => True)
      (fun _ _ _ => True) (fun _ => True) fun _ _ => True) (Session.idle start) moves :=
    everyStep_of_forall fun move _ session => by cases move <;> simp [Permitted]
  exact runSession_holds (fun _ _ _ _ _ _ => trivial) (fun _ _ _ _ _ => trivial) sound trivial
    permitted

/-- In every run, with any calls lost, deaths and changes from outside, what is stored at one
moment is kept at every later one. -/
theorem requests_kept {start : World} (sound : Sound start) (moves later : List WriteMove) :
    Kept (runSession start moves).world (runSession start (moves ++ later)).world := by
  induction later using List.reverseRecOn with
  | nil =>
    rw [List.append_nil]
    exact .of_tables rfl rfl
  | append_singleton later move ih =>
    have holds := sessionHolds_run sound (moves ++ later)
    have last : runSession start (moves ++ (later ++ [move])) =
        Session.step serve program occur move (runSession start (moves ++ later)) := by
      rw [← List.append_assoc]
      exact runFrom_append _ (moves ++ later) [move]
    refine ih.trans ?_
    rw [last]
    generalize runSession start (moves ++ later) = session at holds
    obtain ⟨world, running⟩ := session
    cases running with
    | none =>
      cases move with
      | happen event => exact kept_occur event world
      | _ => exact .of_tables rfl rfl
    | some process =>
      cases process with
      | ask call next =>
        cases move with
        | serve fate =>
          obtain ⟨⟨command, before, -, beforeSound, -, fits⟩, -⟩ := holds.1
          exact (change_serve beforeSound fits).kept fits.1
        | _ => exact .of_tables rfl rfl
      | _ => cases move <;> exact .of_tables rfl rfl

theorem requests_kept_customer : Kept (runSession DiedInPass.world (DiedInPass.moves 0)).world
    (runSession DiedInPass.world (DiedInPass.moves 0 ++
      [.serve (.unanswered .staleSyncToken), .die])).world :=
  requests_kept DiedInPass.sound_world _ _

end QuickBooks.Outbox
