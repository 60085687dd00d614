import QuickBooks.MockQuickBooks

/-!
# The projection of the replica

Every mirrored record has its raw payload in the replica.  From the payload come
the rows that the program reads: a contact, an item, an account, a class, or a
document with its lines and links.  A payload that cannot be read as its type is
quarantined, and some types have no projected form.
-/

namespace QuickBooks

namespace Mirror

structure ParsedContact where
  contactType : ContactKind
  qboId : String
  displayName : String
  companyName : Option String
  email : Option String
  phone : Option String
  balance : Option Money
  isActive : Bool
  isDeleted : Bool
deriving DecidableEq

structure ParsedAccount where
  qboId : String
  name : String
  acctNum : Option String
  accountType : Option String
  accountSubtype : Option String
  classification : Option String
  balance : Option Money
  isActive : Bool
  isDeleted : Bool
deriving DecidableEq

structure ParsedClass where
  qboId : String
  name : String
  fullyQualifiedName : Option String
  parentId : Option String
  isActive : Bool
  isDeleted : Bool
deriving DecidableEq

inductive ParsedEntity where
  | contact (contact : ParsedContact)
  | item (item : ParsedItem)
  | account (account : ParsedAccount)
  | «class» («class» : ParsedClass)
  | document (document : ParsedDocument)
deriving DecidableEq

/-- Whether a mirrored entity produced a projection, and if not, why not. -/
inductive Projection where
  | parsed (entity : ParsedEntity)
  | notProjected
  | quarantine (reason : ProjectError)

open ExceptPrograms Project

variable (readers : TextReaders) (raw : Json) (entity : MirroredEntity)

def parseContact (contactType : ContactKind) : Except ProjectError ParsedContact := do
  let displayName ← requiredString raw "DisplayName" entity
  let balance ← optionalMoney readers raw "Balance"
  return {
    contactType
    qboId := entity.qboId
    displayName
    companyName := text raw "CompanyName"
    email := nestedText raw "PrimaryEmailAddr" "Address"
    phone := nestedText raw "PrimaryPhone" "FreeFormNumber"
    balance
    isActive := (flag raw "Active").getD true
    isDeleted := entity.isDeleted }

def parseAccount : Except ProjectError ParsedAccount := do
  let name ← requiredString raw "Name" entity
  let balance ← optionalMoney readers raw "CurrentBalance"
  return {
    qboId := entity.qboId
    name
    acctNum := text raw "AcctNum"
    accountType := text raw "AccountType"
    accountSubtype := text raw "AccountSubType"
    classification := text raw "Classification"
    balance
    isActive := (flag raw "Active").getD true
    isDeleted := entity.isDeleted }

def parseClass : Except ProjectError ParsedClass := do
  let name ← requiredString raw "Name" entity
  return {
    qboId := entity.qboId
    name
    fullyQualifiedName := text raw "FullyQualifiedName"
    parentId := reference raw "ParentRef"
    isActive := (flag raw "Active").getD true
    isDeleted := entity.isDeleted }

/-- What a type is read as, where it has a projected form. -/
def parseAs : Except ProjectError (Option ParsedEntity) :=
  match entity.entityType with
  | .customer => (parseContact readers raw entity .customer).map (some ∘ .contact)
  | .vendor => (parseContact readers raw entity .vendor).map (some ∘ .contact)
  | .item => (parseItem readers raw entity).map (some ∘ .item)
  | .account => (parseAccount readers raw entity).map (some ∘ .account)
  | .class => (parseClass raw entity).map (some ∘ .class)
  | other =>
    match other.asDocument with
    | some docType => (parseDocument readers raw entity docType).map (some ∘ .document)
    | none => .ok none

/-- Read a mirrored entity as its projected form. -/
def parse : Projection :=
  match parseAs readers entity.rawJson entity with
  | .ok (some parsed) => .parsed parsed
  | .ok none => .notProjected
  | .error reason => .quarantine reason

/-- The tables of the projection, each with the keys its rows have in it. -/
inductive RowKey where
  | contact (contactType : ContactKind) (qboId : String)
  | item (qboId : String)
  | account (qboId : String)
  | «class» (qboId : String)
  | document (qboId : String)
deriving DecidableEq

namespace ParsedEntity

/-- The table and the key of a projected row. -/
def key : ParsedEntity → RowKey
  | contact found => .contact found.contactType found.qboId
  | item found => .item found.qboId
  | account found => .account found.qboId
  | «class» found => .class found.qboId
  | document found => .document found.qboId

def isDeleted : ParsedEntity → Bool
  | contact found => found.isDeleted
  | item found => found.isDeleted
  | account found => found.isDeleted
  | «class» found => found.isDeleted
  | document found => found.isDeleted

/-- The same row with another mark of deletion. -/
def withDeleted (mark : Bool) : ParsedEntity → ParsedEntity
  | contact found => .contact { found with isDeleted := mark }
  | item found => .item { found with isDeleted := mark }
  | account found => .account { found with isDeleted := mark }
  | «class» found => .class { found with isDeleted := mark }
  | document found => .document { found with isDeleted := mark }

def lineNumbers : ParsedEntity → List Int
  | document found => found.lines.map ParsedLine.lineNo
  | _ => []

@[simp]
theorem lineNumbers_withDeleted (mark : Bool) (row : ParsedEntity) :
    (row.withDeleted mark).lineNumbers = row.lineNumbers := by
  cases row <;> rfl

end ParsedEntity

def Projection.withDeleted (mark : Bool) : Projection → Projection
  | parsed row => .parsed (row.withDeleted mark)
  | notProjected => .notProjected
  | quarantine reason => .quarantine reason

/-- The table and the key that the projection of a record has, where its type
has one.  Documents of every type share one table. -/
def rowKey (entityType : EntityType) (qboId : String) : Option RowKey :=
  match entityType with
  | .customer => some (.contact .customer qboId)
  | .vendor => some (.contact .vendor qboId)
  | .item => some (.item qboId)
  | .account => some (.account qboId)
  | .class => some (.class qboId)
  | other => other.asDocument.map fun _ => .document qboId

def RowKey.qboId : RowKey → String
  | contact _ qboId | item qboId | account qboId | «class» qboId | document qboId => qboId

theorem qboId_of_rowKey {entityType : EntityType} {qboId : String} {key : RowKey}
    (isKey : rowKey entityType qboId = some key) : key.qboId = qboId := by
  unfold rowKey at isKey
  split at isKey
  · cases isKey
    rfl
  · cases isKey
    rfl
  · cases isKey
    rfl
  · cases isKey
    rfl
  · cases isKey
    rfl
  · obtain ⟨docType, -, rfl⟩ := Option.map_eq_some_iff.mp isKey
    rfl

section Parsed

variable {readers : TextReaders} {raw : Json} {entity : MirroredEntity} {row : ParsedEntity}

theorem parse_eq_parsed_iff :
    parse readers entity = .parsed row ↔
      parseAs readers entity.rawJson entity = .ok (some row) := by
  unfold parse
  constructor
  · intro parses
    split at parses
    · rename_i parsed reads
      cases parses
      exact reads
    · cases parses
    · cases parses
  · intro reads
    rw [reads]

theorem parseContact_same {contactType : ContactKind} {found : ParsedContact}
    (reads : parseContact readers raw entity contactType = .ok found) :
    found.contactType = contactType ∧ found.qboId = entity.qboId ∧
      found.isDeleted = entity.isDeleted := by
  simp only [parseContact, bind_eq_ok_iff, pure_eq_ok_iff] at reads
  obtain ⟨-, -, -, -, rfl⟩ := reads
  exact ⟨rfl, rfl, rfl⟩

theorem parseItem_same {found : ParsedItem} (reads : parseItem readers raw entity = .ok found) :
    found.qboId = entity.qboId ∧ found.isDeleted = entity.isDeleted := by
  simp only [parseItem, bind_eq_ok_iff, pure_eq_ok_iff] at reads
  obtain ⟨-, -, -, -, -, -, -, -, rfl⟩ := reads
  exact ⟨rfl, rfl⟩

theorem parseAccount_same {found : ParsedAccount}
    (reads : parseAccount readers raw entity = .ok found) :
    found.qboId = entity.qboId ∧ found.isDeleted = entity.isDeleted := by
  simp only [parseAccount, bind_eq_ok_iff, pure_eq_ok_iff] at reads
  obtain ⟨-, -, -, -, rfl⟩ := reads
  exact ⟨rfl, rfl⟩

theorem parseClass_same {found : ParsedClass} (reads : parseClass raw entity = .ok found) :
    found.qboId = entity.qboId ∧ found.isDeleted = entity.isDeleted := by
  simp only [parseClass, bind_eq_ok_iff, pure_eq_ok_iff] at reads
  obtain ⟨-, -, rfl⟩ := reads
  exact ⟨rfl, rfl⟩

theorem parseDocument_same {docType : DocumentType} {found : ParsedDocument}
    (reads : parseDocument readers raw entity docType = .ok found) :
    found.qboId = entity.qboId ∧ found.isDeleted = entity.isDeleted := by
  simp only [parseDocument, bind_eq_ok_iff, pure_eq_ok_iff] at reads
  obtain ⟨-, -, -, -, -, -, -, -, rfl⟩ := reads
  exact ⟨rfl, rfl⟩

theorem key_of_parse (parses : parse readers entity = .parsed row) :
    rowKey entity.entityType entity.qboId = some row.key ∧
      row.isDeleted = entity.isDeleted := by
  rw [parse_eq_parsed_iff] at parses
  unfold parseAs at parses
  unfold rowKey
  split at parses
  · obtain ⟨found, reads, isRow⟩ := map_eq_ok_iff.mp parses
    cases isRow
    obtain ⟨sameType, sameId, sameMark⟩ := parseContact_same reads
    exact ⟨by rw [ParsedEntity.key, sameType, sameId], sameMark⟩
  · obtain ⟨found, reads, isRow⟩ := map_eq_ok_iff.mp parses
    cases isRow
    obtain ⟨sameType, sameId, sameMark⟩ := parseContact_same reads
    exact ⟨by rw [ParsedEntity.key, sameType, sameId], sameMark⟩
  · obtain ⟨found, reads, isRow⟩ := map_eq_ok_iff.mp parses
    cases isRow
    obtain ⟨sameId, sameMark⟩ := parseItem_same reads
    exact ⟨by rw [ParsedEntity.key, sameId], sameMark⟩
  · obtain ⟨found, reads, isRow⟩ := map_eq_ok_iff.mp parses
    cases isRow
    obtain ⟨sameId, sameMark⟩ := parseAccount_same reads
    exact ⟨by rw [ParsedEntity.key, sameId], sameMark⟩
  · obtain ⟨found, reads, isRow⟩ := map_eq_ok_iff.mp parses
    cases isRow
    obtain ⟨sameId, sameMark⟩ := parseClass_same reads
    exact ⟨by rw [ParsedEntity.key, sameId], sameMark⟩
  · split at parses
    · rename_i docType isDocument
      obtain ⟨found, reads, isRow⟩ := map_eq_ok_iff.mp parses
      cases isRow
      obtain ⟨sameId, sameMark⟩ := parseDocument_same reads
      exact ⟨by rw [isDocument, ParsedEntity.key, sameId]; rfl, sameMark⟩
    · cases parses

section Marks

variable (mark : Bool)

theorem parseContact_withDeleted (contactType : ContactKind) :
    parseContact readers raw { entity with isDeleted := mark } contactType =
      (parseContact readers raw entity contactType).map fun found =>
        { found with isDeleted := mark } := by
  change _ = (fun found : ParsedContact => { found with isDeleted := mark }) <$> _
  unfold parseContact
  simp only [map_bind, map_pure]
  rfl

theorem parseAccount_withDeleted :
    parseAccount readers raw { entity with isDeleted := mark } =
      (parseAccount readers raw entity).map fun found => { found with isDeleted := mark } := by
  change _ = (fun found : ParsedAccount => { found with isDeleted := mark }) <$> _
  unfold parseAccount
  simp only [map_bind, map_pure]
  rfl

theorem parseClass_withDeleted :
    parseClass raw { entity with isDeleted := mark } =
      (parseClass raw entity).map fun found => { found with isDeleted := mark } := by
  change _ = (fun found : ParsedClass => { found with isDeleted := mark }) <$> _
  unfold parseClass
  simp only [map_bind, map_pure]
  rfl

theorem parseItem_withDeleted :
    parseItem readers raw { entity with isDeleted := mark } =
      (parseItem readers raw entity).map fun found => { found with isDeleted := mark } := by
  change _ = (fun found : ParsedItem => { found with isDeleted := mark }) <$> _
  unfold parseItem
  simp only [map_bind, map_pure]
  rfl

theorem parseDocument_withDeleted (docType : DocumentType) :
    parseDocument readers raw { entity with isDeleted := mark } docType =
      (parseDocument readers raw entity docType).map fun found =>
        { found with isDeleted := mark } := by
  change _ = (fun found : ParsedDocument => { found with isDeleted := mark }) <$> _
  unfold parseDocument
  simp only [map_bind, map_pure]
  rfl

theorem parse_withDeleted :
    parse readers { entity with isDeleted := mark } = (parse readers entity).withDeleted mark := by
  have same : parseAs readers entity.rawJson { entity with isDeleted := mark } =
      (parseAs readers entity.rawJson entity).map (Option.map (ParsedEntity.withDeleted mark)) := by
    unfold parseAs
    dsimp only
    split
    · rw [parseContact_withDeleted]
      cases parseContact readers entity.rawJson entity .customer <;> rfl
    · rw [parseContact_withDeleted]
      cases parseContact readers entity.rawJson entity .vendor <;> rfl
    · rw [parseItem_withDeleted]
      cases parseItem readers entity.rawJson entity <;> rfl
    · rw [parseAccount_withDeleted]
      cases parseAccount readers entity.rawJson entity <;> rfl
    · rw [parseClass_withDeleted]
      cases parseClass entity.rawJson entity <;> rfl
    · split
      · rename_i docType _
        rw [parseDocument_withDeleted]
        cases parseDocument readers entity.rawJson entity docType <;> rfl
      · rfl
  unfold parse
  rw [same]
  cases parseAs readers entity.rawJson entity with
  | error reason => rfl
  | ok found => cases found <;> rfl

end Marks

theorem rowKey_eq_none_of_parse (parses : parse readers entity = .notProjected) :
    rowKey entity.entityType entity.qboId = none := by
  unfold parse parseAs at parses
  unfold rowKey
  split at parses
  · cases parses
  · rename_i nothing
    split at nothing
    · cases read : parseContact readers entity.rawJson entity .customer <;>
        rw [read] at nothing <;> cases nothing
    · cases read : parseContact readers entity.rawJson entity .vendor <;>
        rw [read] at nothing <;> cases nothing
    · cases read : parseItem readers entity.rawJson entity <;>
        rw [read] at nothing <;> cases nothing
    · cases read : parseAccount readers entity.rawJson entity <;>
        rw [read] at nothing <;> cases nothing
    · cases read : parseClass entity.rawJson entity <;>
        rw [read] at nothing <;> cases nothing
    · split at nothing
      · rename_i docType _
        cases read : parseDocument readers entity.rawJson entity docType <;>
          rw [read] at nothing <;> cases nothing
      · rename_i noDocument
        rw [noDocument]
        rfl
  · cases parses

end Parsed

end Mirror

end QuickBooks
