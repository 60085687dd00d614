import QuickBooks.ComposedDocuments

/-!
# Updates on the wire

The composed payload, the client over HTTP and the double are three accounts of
one update.  The payload asks to change only the fields it carries, and the
double does that; the client over HTTP sends the same fields and says that they
are the whole record.
-/

namespace QuickBooks

namespace Outbox

open Compose

/-- The body that the client over HTTP sends for an update. -/
def HttpQboClient.updateBody (qboId : String) (payload : Json) (baseSyncToken : String) :
    Except QboError Json :=
  match payload with
  | .object fields =>
    .ok (.object (Json.insertField "sparse" (.bool false)
      (Json.insertField "SyncToken" (.string baseSyncToken)
        (Json.insertField "Id" (.string qboId) fields))))
  | _ => .error (.validation "update payload must be a JSON object")

/-- What a field of a record becomes by a body as the book of record reads it: a
sparse body changes the fields it carries, any other replaces the record. -/
def interpreted (record body : Json) (field : String) : Option Json :=
  if (body.get? "sparse").bind Json.asBool = some true then
    (body.get? field).or (record.get? field)
  else body.get? field

def controlFields : List String :=
  ["Id", "SyncToken", "sparse"]

def SameEffect (record body : Json) (updated : EntityPayload) : Prop :=
  ∀ field, field ∉ controlFields →
    interpreted record body field = updated.rawJson.get? field

section Double

variable {fields changes : List (String × Json)} {field : String}

theorem lookup_merged (distinct : (changes.map Prod.fst).Nodup) (notSparse : field ≠ "sparse") :
    List.lookup field (changes.foldl (fun fields change =>
        if change.1 = "sparse" then fields
        else Json.insertField change.1 change.2 fields) fields) =
      (List.lookup field changes).or (List.lookup field fields) := by
  induction changes generalizing fields with
  | nil => rfl
  | cons change rest ih =>
    obtain ⟨name, value⟩ := change
    rw [List.map_cons, List.nodup_cons] at distinct
    rw [List.foldl_cons, ih distinct.2, Json.lookup_field]
    by_cases here : field = name
    · have onlyHere : List.lookup field rest = none := by
        rw [List.lookup_eq_none_iff]
        intro pair pairMem
        rw [here]
        have different : name ≠ pair.1 := fun same =>
          distinct.1 (List.mem_map.mpr ⟨pair, pairMem, same.symm⟩)
        simpa using different
      rw [onlyHere, if_pos here, Option.none_or, if_neg (here ▸ notSparse),
        Json.lookup_insertField, if_pos here]
      rfl
    · rw [if_neg here]
      split_ifs
      · rfl
      · rw [Json.lookup_insertField, if_neg here]

theorem get?_updatedJson_eq (distinct : (changes.map Prod.fst).Nodup)
    (sparse : changes.lookup "sparse" = some (.bool true)) (notSparse : field ≠ "sparse") :
    (updatedJson (.object fields) (.object changes)).get? field =
      interpreted (.object fields) (.object changes) field := by
  have isSparse : ((Json.object changes).get? "sparse").bind Json.asBool = some true := by
    change (changes.lookup "sparse").bind Json.asBool = some true
    rw [sparse]
    rfl
  unfold updatedJson interpreted
  rw [if_pos isSparse, if_pos isSparse]
  exact lookup_merged distinct notSparse

end Double

section Wire

variable {changes : List (String × Json)} {qboId baseSyncToken field : String}

theorem interpreted_updateBody {record body : Json}
    (sends : HttpQboClient.updateBody qboId (.object changes) baseSyncToken = .ok body)
    (notControl : field ∉ controlFields) :
    interpreted record body field = changes.lookup field := by
  cases sends
  have others : field ≠ "Id" ∧ field ≠ "SyncToken" ∧ field ≠ "sparse" := by
    simpa [controlFields] using notControl
  unfold interpreted
  rw [if_neg]
  · change List.lookup field (Json.insertField _ _ _) = _
    rw [Json.lookup_insertField, if_neg others.2.2, Json.lookup_insertField, if_neg others.2.1,
      Json.lookup_insertField, if_neg others.1]
  · change ¬(List.lookup "sparse" (Json.insertField _ _ _)).bind Json.asBool = some true
    rw [Json.lookup_insertField, if_pos rfl]
    decide

end Wire

section Updates

variable {library : TextLibrary} {draft : DocumentDraft} {poDefinitionId : Option String}
  {mock : MockQbo} {realm qboId : String} {entityType : EntityType} {entity : EntityPayload}
  {payload : Json} {fields : List (String × Json)}

/-- The client over HTTP changes a record as the double does exactly when the
payload carries every field that the record has. -/
theorem updateBody_sameEffect_iff
    (built : toPayload library draft poDefinitionId true = .ok payload)
    (found : mock.get? realm entityType qboId = some entity)
    (isObject : entity.rawJson = .object fields) {requestId : Nat}
    (unsent : mock.requestLog.lookup (realm, requestId) = none) :
    (∃ updated body,
        (mock.update realm entityType qboId payload entity.syncToken requestId).2 =
          .ok updated ∧
        HttpQboClient.updateBody qboId payload entity.syncToken = .ok body ∧
        SameEffect entity.rawJson body updated) ↔
      ∀ field, field ∉ controlFields → payload.get? field = none →
        entity.rawJson.get? field = none := by
  obtain ⟨changes, rfl, distinct, sparse⟩ := toPayload_isSparse built
  have merges : ∀ field, field ∉ controlFields →
      (updatedJson entity.rawJson (.object changes)).get? field =
        (changes.lookup field).or (entity.rawJson.get? field) := by
    intro field notControl
    have notSparse : field ≠ "sparse" := fun same =>
      notControl (same ▸ List.mem_cons_of_mem _ (List.mem_cons_of_mem _ List.mem_cons_self))
    rw [isObject, get?_updatedJson_eq distinct sparse notSparse]
    unfold interpreted
    rw [if_pos]
    · rfl
    · change (changes.lookup "sparse").bind Json.asBool = some true
      rw [sparse]
      rfl
  have lands : (mock.update realm entityType qboId (.object changes) entity.syncToken requestId).2 =
      .ok { entity with
        syncToken := nextSyncToken entity.syncToken
        rawJson := updatedJson entity.rawJson (.object changes)
        lastUpdatedUtc := mock.clock } := by
    unfold MockQbo.update
    simp only [unsent, found, ne_eq, not_true_eq_false, if_false]
  constructor
  · rintro ⟨updated, body, isUpdated, sends, same⟩ field notControl absent
    rw [lands] at isUpdated
    cases isUpdated
    have agrees := same field notControl
    change changes.lookup field = none at absent
    rw [interpreted_updateBody sends notControl, merges field notControl, absent,
      Option.none_or] at agrees
    exact agrees.symm
  · intro carried
    refine ⟨_, _, lands, rfl, fun field notControl => ?_⟩
    rw [interpreted_updateBody rfl notControl, merges field notControl]
    cases sent : changes.lookup field with
    | some value => rfl
    | none =>
      rw [Option.none_or]
      exact (carried field notControl sent).symm

end Updates

namespace RushNote

/-- Texts of whole numbers, and one date. -/
def library : TextLibrary where
  decimalFromStr text := (digitsValue text).bind fun value => decimalOfInt? value
  dateFromYmd text := if text = "2026-09-01" then some ⟨2026, 9, 1, Eq.refl true⟩ else none
  numberFromStr text :=
    match digitsValue text with
    | some value => .integer value
    | none => .float text true
  quoted text := "\"" ++ text ++ "\""

/-- An invoice of one line with a note, and nothing else typed. -/
def draft : DocumentDraft where
  docType := .invoice
  contactId := "12"
  txnDate := "2026-09-01"
  dueDate := none
  docNumber := none
  poNumber := none
  privateNote := some "rush"
  customerMemo := none
  classId := none
  lines := [⟨some "7", none, "2", "50", none, true⟩]

def payload : Json :=
  (toPayload library draft none true).toOption.getD .null

/-- The invoice as the book has it, with some further fields. -/
def invoice (others : List (String × Json)) : EntityPayload where
  entityType := .invoice
  qboId := "55"
  syncToken := "0"
  lastUpdatedUtc := 0
  isDeleted := false
  rawJson := .object ([("Id", .string "55"), ("SyncToken", .string "0"),
    ("CustomerRef", reference "12"), ("TxnDate", .string "2026-09-01"),
    ("Line", .array [])] ++ others)

def book (others : List (String × Json)) : MockQbo where
  entities := [("1", invoice others)]
  requestLog := []
  nextId := 56
  clock := 1

theorem toPayload_draft : toPayload library draft none true = .ok payload := by
  have isOk : (toPayload library draft none true).toOption.isSome = true := by decide +kernel
  unfold payload
  cases built : toPayload library draft none true with
  | ok found => rfl
  | error failure =>
    rw [built] at isOk
    cases isOk

theorem carried {name field : String} (present : (payload.get? name).isSome = true)
    (absent : payload.get? field = none) : field ≠ name := by
  rintro rfl
  rw [absent] at present
  cases present

/-- The payload carries every field of an invoice without others. -/
theorem updateBody_sameEffect :
    ∃ updated body,
      ((book []).update "1" .invoice "55" payload "0" 1).2 = .ok updated ∧
      HttpQboClient.updateBody "55" payload "0" = .ok body ∧
      SameEffect (invoice []).rawJson body updated :=
  (updateBody_sameEffect_iff toPayload_draft
    (show (book []).get? "1" .invoice "55" = some (invoice []) from rfl) rfl rfl).mpr <| by
      intro field notControl absent
      change List.lookup field _ = none
      rw [List.lookup_eq_none_iff]
      have others : field ≠ "Id" ∧ field ≠ "SyncToken" ∧ field ≠ "sparse" := by
        simpa [controlFields] using notControl
      have customer : field ≠ "CustomerRef" := carried (by decide +kernel) absent
      have day : field ≠ "TxnDate" := carried (by decide +kernel) absent
      have lines : field ≠ "Line" := carried (by decide +kernel) absent
      simp [others, customer, day, lines]

/-- The terms of an invoice are lost by the note, and the double keeps them. -/
theorem not_updateBody_sameEffect :
    let terms := ("SalesTermRef", reference "3")
    toPayload library draft none true = .ok payload ∧
      (book [terms]).get? "1" .invoice "55" = some (invoice [terms]) ∧
      ∀ updated body,
        ((book [terms]).update "1" .invoice "55" payload "0" 1).2 = .ok updated →
        HttpQboClient.updateBody "55" payload "0" = .ok body →
        ¬SameEffect (invoice [terms]).rawJson body updated := by
  intro terms
  refine ⟨toPayload_draft, rfl, fun updated body isUpdated sends same => ?_⟩
  have kept : (((book [terms]).update "1" .invoice "55" payload "0" 1).2.toOption.bind
      fun found => found.rawJson.get? "SalesTermRef").isSome = true := by decide +kernel
  have lost : ((HttpQboClient.updateBody "55" payload "0").toOption.bind
      fun sent => interpreted (invoice [terms]).rawJson sent "SalesTermRef").isSome = false := by
    decide +kernel
  rw [isUpdated] at kept
  rw [sends] at lost
  have agrees := same "SalesTermRef" (by decide)
  change (updated.rawJson.get? "SalesTermRef").isSome = true at kept
  change (interpreted (invoice [terms]).rawJson body "SalesTermRef").isSome = false at lost
  rw [← agrees, lost] at kept
  cases kept

end RushNote

end Outbox

end QuickBooks
