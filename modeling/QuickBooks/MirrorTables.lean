import QuickBooks.MirroredPayloads

/-!
# The tables of the mirror

The projected documents, contacts and links of one company as the reads select from them.  A
document is read with the name of its contact, when the mirror holds that contact.
-/

namespace QuickBooks

namespace Mirror

/-- A contact's key and the name it is shown by. -/
structure ContactRecord where
  contactType : ContactKind
  qboId : String
  displayName : String
deriving DecidableEq

/-- One edge of the graph of documents, from the document that states it. -/
structure DocumentLink where
  fromQboId : String
  fromType : String
  toQboId : String
  toType : String
  lineNo : Option Int
deriving DecidableEq

/-- A stored link and its place among the links of its document. -/
structure LinkRecord where
  link : DocumentLink
  seq : ℤ

structure MirrorTables where
  documents : List ParsedDocument
  contacts : List ContactRecord
  links : List LinkRecord

structure DocumentRow where
  qboId : String
  docType : DocumentType
  docNumber : Option String
  txnDate : String
  dueDate : Option String
  contactId : Option String
  contactType : Option ContactKind
  contactName : Option String
  classId : Option String
  total : Money
  balance : Option Money
  docStatus : Option String
  poNumber : Option String
  privateNote : Option String
  customerMemo : Option String
  isDeleted : Bool

namespace MirrorTables

variable (tables : MirrorTables)

def contactName (kind : Option ContactKind) (id : Option String) : Option String :=
  (tables.contacts.find? fun contact =>
    some contact.contactType = kind ∧ some contact.qboId = id).map ContactRecord.displayName

def documentRow (document : ParsedDocument) : DocumentRow where
  qboId := document.qboId
  docType := document.docType
  docNumber := document.docNumber
  txnDate := document.txnDate
  dueDate := document.dueDate
  contactId := document.contactId
  contactType := document.contactType
  contactName := tables.contactName document.contactType document.contactId
  classId := document.classId
  total := document.total
  balance := document.balance
  docStatus := document.docStatus
  poNumber := document.poNumber
  privateNote := document.privateNote
  customerMemo := document.customerMemo
  isDeleted := document.isDeleted

def getDocument (qboId : String) : Option DocumentRow :=
  (tables.documents.find? fun document => document.qboId = qboId).map tables.documentRow

theorem qboId_getDocument {qboId : String} {row : DocumentRow}
    (found : tables.getDocument qboId = some row) : row.qboId = qboId := by
  unfold getDocument at found
  obtain ⟨document, held, rfl⟩ := Option.map_eq_some_iff.1 found
  have same := List.find?_some held
  exact of_decide_eq_true same

end MirrorTables

end Mirror

end QuickBooks
