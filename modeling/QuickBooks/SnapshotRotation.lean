import Mathlib.Data.String.Basic
import QuickBooks.LedgerDates
import QuickBooks.StableSorts
import QuickBooks.TransitionRuns

/-!
# Rotating snapshots

A snapshot is a file whose name tells when it was taken.  After it is written, the names in
the directory that look like a snapshot's are sorted and all but the last of them are removed.
So what a call removes is decided by the names: it removes the oldest snapshots and nothing
else exactly when no strange name is among those that are sorted, or none is removed, and the
names that are sorted last are those that were written last.
-/

namespace QuickBooks

namespace Snapshots

open StableSorts TransitionRuns

/-- A moment in universal time, to the second. -/
structure UtcTime where
  year : ℤ
  month : ℕ
  day : ℕ
  hour : ℕ
  minute : ℕ
  second : ℕ

def yearText (year : ℤ) : String :=
  if 0 ≤ year ∧ year < 10000 then Date.padded 4 year.toNat
  else (if year < 0 then "-" else "+") ++ Date.padded 4 year.natAbs

def timestamp (now : UtcTime) : String :=
  yearText now.year ++ Date.padded 2 now.month ++ Date.padded 2 now.day ++ "T" ++
    Date.padded 2 now.hour ++ Date.padded 2 now.minute ++ Date.padded 2 now.second ++ "Z"

def snapshotName (now : UtcTime) : String :=
  "replica-" ++ timestamp now ++ ".db"

def isSnapshotName (name : String) : Bool :=
  "replica-".toList.isPrefixOf name.toList && ".db".toList.isSuffixOf name.toList

structure Entry where
  name : String
  isFolder : Bool
deriving DecidableEq

/-- What a directory holds, no two entries under one name. -/
structure Directory where
  entries : List Entry
  nodup : (entries.map Entry.name).Nodup

namespace Directory

variable (directory : Directory)

def names : List String :=
  directory.entries.map Entry.name

def isFolder (name : String) : Bool :=
  directory.entries.any fun entry => entry.name = name ∧ entry.isFolder

def without (name : String) : Directory where
  entries := directory.entries.filter fun entry => entry.name ≠ name
  nodup := directory.nodup.sublist (List.filter_sublist.map Entry.name)

theorem names_without (name : String) :
    (directory.without name).names = directory.names.filter fun other => other ≠ name := by
  simp only [names, without, List.filter_map]
  rfl

/-- The file of a name is written anew. -/
def write (name : String) : Directory where
  entries := (directory.without name).entries ++ [⟨name, false⟩]
  nodup := by
    rw [List.map_append, List.nodup_append]
    refine ⟨(directory.without name).nodup, List.nodup_singleton _, ?_⟩
    intro other otherMem written writtenMem
    have mem : other ∈ (directory.without name).names := otherMem
    rw [names_without, List.mem_filter] at mem
    rw [List.map_singleton, List.mem_singleton] at writtenMem
    rw [writtenMem]
    exact of_decide_eq_true mem.2

/-- Only a file can be removed. -/
def removeFile (name : String) : Option Directory :=
  if name ∈ directory.names ∧ directory.isFolder name = false then
    some (directory.without name)
  else none

end Directory

inductive SnapshotError where
  | copyFailed
  | removeFailed (name : String)
deriving DecidableEq

structure SnapshotReport where
  name : String
  pruned : List String

def listSnapshots (directory : Directory) : List String :=
  sortedBy (fun name => name) (directory.names.filter fun name => isSnapshotName name)

/-- Remove files one by one until one cannot be removed. -/
def prune : List String → Directory → List String →
    Directory × Except SnapshotError (List String)
  | [], directory, pruned => (directory, .ok pruned)
  | old :: rest, directory, pruned =>
    match directory.removeFile old with
    | none => (directory, .error (.removeFailed old))
    | some after => prune rest after (pruned ++ [old])

/-- One call: how many snapshots are kept, when it is made, and whether the replica could be
copied. -/
structure Call where
  keep : ℕ
  now : UtcTime
  copies : Bool

def Call.kept (call : Call) : ℕ :=
  max call.keep 1

def Call.name (call : Call) : String :=
  snapshotName call.now

def Call.Writes (call : Call) (directory : Directory) : Prop :=
  call.copies = true ∧ directory.isFolder call.name = false

instance (call : Call) (directory : Directory) : Decidable (call.Writes directory) :=
  inferInstanceAs (Decidable (_ ∧ _))

def takeSnapshot (call : Call) (directory : Directory) :
    Directory × Except SnapshotError SnapshotReport :=
  if call.Writes directory then
    let written := directory.write call.name
    let existing := listSnapshots written
    let (after, result) := prune (existing.take (existing.length - call.kept)) written []
    (after, result.map fun pruned => ⟨call.name, pruned⟩)
  else (directory, .error .copyFailed)

/-! ### What the calls wrote -/

/-- The directory and the names that calls wrote, in the order in which they wrote them. -/
structure State where
  directory : Directory
  history : List String

def step (call : Call) (state : State) : State :=
  ⟨(takeSnapshot call state.directory).1,
    if call.Writes state.directory then state.history ++ [call.name] else state.history⟩

def newest (count : ℕ) (names : List String) : List String :=
  names.drop (names.length - count)

def taken (directory : Directory) (history : List String) : List String :=
  history.dedup.filter fun name => name ∈ directory.names

/-- A call that writes its snapshot succeeds, does not remove it nor any file that no call
wrote, and leaves of the snapshots the newest. -/
structure Keeps (call : Call) (state : State) : Prop where
  succeeds : (takeSnapshot call state.directory).2.isOk = true
  own : call.name ∈ (step call state).directory.names
  foreign : ∀ name ∈ state.directory.names, name ∉ state.history →
    name = call.name ∨ name ∈ (step call state).directory.names
  rotates : ∀ name ∈ (step call state).history, name ∈ (step call state).directory.names ↔
    name ∈ newest call.kept
      (taken (state.directory.write call.name) (step call state).history)

def Rotates (call : Call) (state : State) : Prop :=
  if call.Writes state.directory then Keeps call state
  else (step call state).directory = state.directory

/-- There is room for all names that look like a snapshot's, or all of them were written by
calls and those that are sorted last were written last. -/
def CutsInOrder (count : ℕ) (written : Directory) (history : List String) : Prop :=
  (listSnapshots written).length ≤ count ∨
    (∀ name ∈ listSnapshots written, name ∈ history) ∧
      ∀ name, name ∈ newest count (listSnapshots written) ↔
        name ∈ newest count (taken written history)

def InOrder (call : Call) (state : State) : Prop :=
  call.Writes state.directory →
    CutsInOrder call.kept (state.directory.write call.name) (state.history ++ [call.name])

/-! ### Directories -/

section Directories

variable {directory : Directory} {name other : String}

@[simp]
theorem mem_names_without :
    other ∈ (directory.without name).names ↔ other ∈ directory.names ∧ other ≠ name := by
  simp [Directory.names_without]

@[simp]
theorem mem_names_write :
    other ∈ (directory.write name).names ↔ other ∈ directory.names ∨ other = name := by
  have split : (directory.write name).names = (directory.without name).names ++ [name] := by
    simp [Directory.names, Directory.write]
  rw [split, List.mem_append, mem_names_without, List.mem_singleton]
  by_cases same : other = name <;> simp [same]

theorem isFolder_without (folder : (directory.without name).isFolder other = true) :
    directory.isFolder other = true := by
  simp only [Directory.isFolder, Directory.without, List.any_eq_true, List.mem_filter] at folder ⊢
  obtain ⟨entry, ⟨mem, -⟩, holds⟩ := folder
  exact ⟨entry, mem, holds⟩

theorem isFolder_write (folder : (directory.write name).isFolder other = true) :
    directory.isFolder other = true := by
  simp only [Directory.isFolder, Directory.write, List.any_append, Bool.or_eq_true] at folder
  rcases folder with held | written
  · exact isFolder_without held
  · simp at written

theorem names_prune {names pruned : List String}
    (ok : (prune names directory pruned).2.isOk = true) (name : String) :
    name ∈ (prune names directory pruned).1.names ↔
      name ∈ directory.names ∧ name ∉ names := by
  induction names generalizing directory pruned with
  | nil => simp [prune]
  | cons old rest ih =>
    unfold prune Directory.removeFile at ok ⊢
    split_ifs at ok ⊢ with removable
    · rw [ih ok, mem_names_without, List.mem_cons, not_or, and_assoc]
    · cases ok

theorem prune_isOk {names pruned : List String} (nodup : names.Nodup)
    (files : ∀ name ∈ names, name ∈ directory.names ∧ directory.isFolder name = false) :
    (prune names directory pruned).2.isOk = true := by
  induction names generalizing directory pruned with
  | nil => rfl
  | cons old rest ih =>
    obtain ⟨oldFresh, restNodup⟩ := List.nodup_cons.1 nodup
    unfold prune Directory.removeFile
    rw [if_pos (files old List.mem_cons_self)]
    apply ih restNodup
    intro name mem
    obtain ⟨held, file⟩ := files name (List.mem_cons_of_mem _ mem)
    refine ⟨mem_names_without.2 ⟨held, ?_⟩, ?_⟩
    · rintro rfl
      exact oldFresh mem
    · by_contra folder
      rw [isFolder_without (Bool.not_eq_false _ ▸ folder)] at file
      cases file

theorem isFolder_prune {names pruned : List String}
    (folder : (prune names directory pruned).1.isFolder other = true) :
    directory.isFolder other = true := by
  induction names generalizing directory pruned with
  | nil => exact folder
  | cons old rest ih =>
    unfold prune Directory.removeFile at folder
    split_ifs at folder
    · exact isFolder_without (ih folder)
    · exact folder

theorem mem_listSnapshots :
    name ∈ listSnapshots directory ↔ name ∈ directory.names ∧ isSnapshotName name = true := by
  rw [listSnapshots, (perm_sortedBy _).mem_iff, List.mem_filter]

theorem nodup_listSnapshots : (listSnapshots directory).Nodup :=
  (perm_sortedBy _).nodup_iff.2 (directory.nodup.filter _)

theorem isSnapshotName_snapshotName (now : UtcTime) :
    isSnapshotName (snapshotName now) = true := by
  unfold isSnapshotName snapshotName
  rw [String.toList_append, String.toList_append, Bool.and_eq_true, List.isPrefixOf_iff_prefix,
    List.isSuffixOf_iff_suffix, List.append_assoc]
  exact ⟨List.prefix_append _ _, List.suffix_append_of_suffix (List.suffix_append _ _)⟩

end Directories

/-! ### The last of a list -/

section Lists

variable {names : List String} {name : String}

theorem mem_newest_iff (nodup : names.Nodup) (count : ℕ) :
    name ∈ newest count names ↔
      name ∈ names ∧ name ∉ names.take (names.length - count) := by
  conv_rhs => rw [← List.take_append_drop (names.length - count) names]
  rw [← List.take_append_drop (names.length - count) names, List.nodup_append] at nodup
  rw [newest, List.mem_append]
  constructor
  · intro last
    exact ⟨.inr last, fun first => nodup.2.2 _ (by simpa using first) _ last rfl⟩
  · rintro ⟨first | last, other⟩
    · exact absurd (by simpa using first) other
    · exact last

theorem newest_eq_self {count : ℕ} (few : names.length ≤ count) : newest count names = names := by
  rw [newest, Nat.sub_eq_zero_of_le few, List.drop_zero]

theorem dedup_append_singleton (names : List String) (name : String) :
    (names ++ [name]).dedup = (names.dedup.filter fun other => other ≠ name) ++ [name] := by
  induction names with
  | nil => simp
  | cons head names ih =>
    rw [List.cons_append]
    by_cases again : head ∈ names
    · rw [List.dedup_cons_of_mem (List.mem_append_left _ again), List.dedup_cons_of_mem again, ih]
    · rw [List.dedup_cons_of_notMem again]
      by_cases same : head = name
      · rw [List.dedup_cons_of_mem (by simp [same]), ih, List.filter_cons_of_neg (by simp [same])]
      · rw [List.dedup_cons_of_notMem (by simp [again, same]), ih,
          List.filter_cons_of_pos (by simp [same]), List.cons_append]

theorem mem_taken {directory : Directory} {history : List String} :
    name ∈ taken directory history ↔ name ∈ history ∧ name ∈ directory.names := by
  simp [taken]

theorem nodup_taken {directory : Directory} {history : List String} :
    (taken directory history).Nodup :=
  (List.nodup_dedup history).filter _

theorem mem_newest_taken {directory : Directory} {history : List String} {count : ℕ}
    (positive : 1 ≤ count) (held : name ∈ directory.names) :
    name ∈ newest count (taken directory (history ++ [name])) := by
  have last : taken directory (history ++ [name]) =
      (history.dedup.filter fun other => other ≠ name).filter
        (fun other => other ∈ directory.names) ++ [name] := by
    simp [taken, dedup_append_singleton, held]
  rw [last, newest, List.drop_append_of_le_length (by simp; omega)]
  simp

end Lists

/-! ### Rotation -/

def Written (state : State) : Prop :=
  ∀ name ∈ state.history, isSnapshotName name = true ∧ state.directory.isFolder name = false

theorem written_step (call : Call) (state : State) (written : Written state) :
    Written (step call state) := by
  unfold step takeSnapshot
  split_ifs with writes
  · intro name mem
    rw [List.mem_append, List.mem_singleton] at mem
    have file : state.directory.isFolder name = false := by
      rcases mem with before | rfl
      · exact (written name before).2
      · exact writes.2
    refine ⟨?_, ?_⟩
    · rcases mem with before | rfl
      · exact (written name before).1
      · exact isSnapshotName_snapshotName _
    · by_contra folder
      rw [isFolder_write (isFolder_prune (Bool.not_eq_false _ ▸ folder))] at file
      cases file
  · exact written

section Rotation

def removedBy (count : ℕ) (written : Directory) : List String :=
  (listSnapshots written).take ((listSnapshots written).length - count)

theorem cutsInOrder_iff {count : ℕ} {written : Directory} {history : List String}
    (good : ∀ name ∈ history, isSnapshotName name = true) :
    CutsInOrder count written history ↔
      (∀ name ∈ removedBy count written, name ∈ history) ∧
        ∀ name ∈ history, (name ∈ written.names ∧ name ∉ removedBy count written ↔
          name ∈ newest count (taken written history)) := by
  have nodup : (listSnapshots written).Nodup := nodup_listSnapshots
  have takenNodup : (taken written history).Nodup := nodup_taken
  have listed : ∀ name ∈ history,
      (name ∈ written.names ↔ name ∈ listSnapshots written) := by
    intro name mem
    rw [mem_listSnapshots]
    exact ⟨fun held => ⟨held, good name mem⟩, And.left⟩
  have subset : taken written history ⊆ listSnapshots written := by
    intro name mem
    obtain ⟨inHistory, held⟩ := mem_taken.1 mem
    exact (listed name inHistory).1 held
  have fewer : (taken written history).length ≤ (listSnapshots written).length :=
    (takenNodup.subperm subset).length_le
  constructor
  · rintro (room | ⟨own, same⟩)
    · have nothing : removedBy count written = [] := by
        rw [removedBy, Nat.sub_eq_zero_of_le room, List.take_zero]
      rw [nothing, newest_eq_self (fewer.trans room)]
      refine ⟨by simp, fun name mem => ?_⟩
      simp [mem_taken, mem]
    · refine ⟨fun name mem => own name (List.mem_of_mem_take mem), fun name mem => ?_⟩
      rw [listed name mem, ← same, mem_newest_iff nodup, removedBy]
  · rintro ⟨own, same⟩
    rcases Nat.lt_or_ge count (listSnapshots written).length with more | room
    swap
    · exact .inl room
    right
    -- every name that is removed is a snapshot and not among the newest
    have old : removedBy count written ⊆
        (taken written history).take ((taken written history).length - count) := by
      intro name mem
      have inHistory := own name mem
      have held := (listed name inHistory).2 (List.mem_of_mem_take mem)
      by_contra recent
      have kept := (same name inHistory).2
        ((mem_newest_iff takenNodup count).2 ⟨mem_taken.2 ⟨inHistory, held⟩, recent⟩)
      exact kept.2 mem
    have count_le := ((nodup.sublist (List.take_sublist _ _)).subperm old).length_le
    rw [List.length_take, List.length_take] at count_le
    have perm : (taken written history).Perm (listSnapshots written) :=
      (takenNodup.subperm subset).perm_of_length_le (by omega)
    have ours : ∀ name ∈ listSnapshots written, name ∈ history :=
      fun name mem => (mem_taken.1 (perm.mem_iff.2 mem)).1
    refine ⟨ours, fun name => ?_⟩
    rw [mem_newest_iff nodup]
    constructor
    · rintro ⟨mem, stays⟩
      exact (same name (ours name mem)).1 ⟨(mem_listSnapshots.1 mem).1, stays⟩
    · intro recent
      have mem := (mem_taken.1 (List.mem_of_mem_drop recent)).1
      have stays := (same name mem).2 recent
      exact ⟨(listed name mem).1 stays.1, stays.2⟩

variable {call : Call} {state : State}

theorem takeSnapshot_of_writes (writes : call.Writes state.directory) :
    (step call state).directory =
        (prune (removedBy call.kept (state.directory.write call.name))
          (state.directory.write call.name) []).1 ∧
      (takeSnapshot call state.directory).2.isOk =
        (prune (removedBy call.kept (state.directory.write call.name))
          (state.directory.write call.name) []).2.isOk ∧
      (step call state).history = state.history ++ [call.name] := by
  unfold step takeSnapshot
  simp only [if_pos writes]
  refine ⟨rfl, ?_, trivial⟩
  unfold removedBy
  cases (prune ((listSnapshots (state.directory.write call.name)).take
    ((listSnapshots (state.directory.write call.name)).length - call.kept))
    (state.directory.write call.name) []).2 <;> rfl

theorem keeps_iff (good : Written state) (writes : call.Writes state.directory) :
    Keeps call state ↔
      CutsInOrder call.kept (state.directory.write call.name)
        (state.history ++ [call.name]) := by
  obtain ⟨after, result, history⟩ := takeSnapshot_of_writes writes
  have goodAfter := written_step call state good
  have names : ∀ name ∈ state.history ++ [call.name], isSnapshotName name = true := by
    rw [← history]
    exact fun name mem => (goodAfter name mem).1
  have files : ∀ name ∈ state.history ++ [call.name],
      (state.directory.write call.name).isFolder name = false := by
    intro name mem
    by_contra folder
    have before := isFolder_write (Bool.not_eq_false _ ▸ folder)
    rcases List.mem_append.1 mem with earlier | own
    · rw [(good name earlier).2] at before
      cases before
    · rw [List.mem_singleton.1 own, writes.2] at before
      cases before
  rw [cutsInOrder_iff names]
  constructor
  · intro keeps
    have ok := result ▸ keeps.succeeds
    have left := names_prune ok
    rw [← after] at left
    refine ⟨fun name mem => ?_, fun name mem => ?_⟩
    · by_contra strange
      rw [List.mem_append, not_or, List.mem_singleton] at strange
      have held := (mem_listSnapshots.1 (List.mem_of_mem_take mem)).1
      have before := (mem_names_write.1 held).resolve_right strange.2
      have stays := (keeps.foreign name before strange.1).resolve_left strange.2
      exact ((left name).1 stays).2 mem
    · rw [← left, ← history]
      exact keeps.rotates name (history ▸ mem)
  · rintro ⟨own, same⟩
    have ok : (prune (removedBy call.kept (state.directory.write call.name))
        (state.directory.write call.name) []).2.isOk = true := by
      refine prune_isOk (nodup_listSnapshots.sublist (List.take_sublist _ _)) ?_
      exact fun name mem => ⟨(mem_listSnapshots.1 (List.mem_of_mem_take mem)).1,
        files name (own name mem)⟩
    have left := names_prune ok
    rw [← after] at left
    have rotates : ∀ name ∈ (step call state).history,
        name ∈ (step call state).directory.names ↔ name ∈ newest call.kept
          (taken (state.directory.write call.name) (step call state).history) := by
      intro name mem
      rw [left, history]
      exact same name (history ▸ mem)
    refine ⟨result ▸ ok, ?_, ?_, rotates⟩
    · have mem : call.name ∈ (step call state).history := by
        rw [history]
        exact List.mem_append_right _ (List.mem_singleton_self _)
      rw [rotates _ mem, history]
      exact mem_newest_taken (le_max_right _ _) (mem_names_write.2 (.inr rfl))
    · intro name held strange
      by_cases isOwn : name = call.name
      · exact .inl isOwn
      · refine .inr ((left name).2 ⟨mem_names_write.2 (.inl held), fun mem => ?_⟩)
        rcases List.mem_append.1 (own name mem) with earlier | last
        · exact strange earlier
        · exact isOwn (List.mem_singleton.1 last)

theorem rotates_iff_inOrder (good : Written state) : Rotates call state ↔ InOrder call state := by
  unfold Rotates InOrder
  split_ifs with writes
  · rw [keeps_iff good writes]
    exact ⟨fun cuts _ => cuts, fun cuts => cuts writes⟩
  · refine iff_of_true ?_ fun absurdly => absurd absurdly writes
    simp [step, takeSnapshot, writes]

/-- Every call of a run does what it should exactly when every cut of the run is in order. -/
theorem snapshots_rotate_iff (directory : Directory) (calls : List Call) :
    EveryStep step Rotates ⟨directory, []⟩ calls ↔
      EveryStep step InOrder ⟨directory, []⟩ calls := by
  refine everyStep_congr_of_invariant Written (fun state call => written_step call state)
    (fun call state good => rotates_iff_inOrder good) ?_ calls
  rintro name mem
  cases mem

def shelf : Directory where
  entries := [⟨"replica-2019-books.db", false⟩]
  nodup := List.nodup_singleton _

def nightly (day : ℕ) : Call :=
  ⟨1, ⟨2026, 10, day, 3, 0, 0⟩, true⟩

/-- The copy of someone else is removed, and after the clock went back the snapshot that was
just written. -/
theorem rotation_removes_others_and_its_own :
    ¬ EveryStep step Rotates ⟨shelf, []⟩ [nightly 23] ∧
      ¬ EveryStep step Rotates ⟨⟨[], List.nodup_nil⟩, []⟩ [nightly 24, nightly 23] := by
  constructor
  · rintro ⟨rotates, -⟩
    have writes : (nightly 23).Writes shelf := by decide +kernel
    rw [Rotates, if_pos writes] at rotates
    have gone : ¬ ("replica-2019-books.db" = (nightly 23).name ∨
        "replica-2019-books.db" ∈ (step (nightly 23) ⟨shelf, []⟩).directory.names) := by
      decide +kernel
    exact gone (rotates.foreign _ (by decide +kernel) (by decide +kernel))
  · rintro ⟨-, rotates, -⟩
    have writes : (nightly 23).Writes
        (step (nightly 24) ⟨⟨[], List.nodup_nil⟩, []⟩).directory := by
      decide +kernel
    rw [Rotates, if_pos writes] at rotates
    have gone : (nightly 23).name ∉ (step (nightly 23)
        (step (nightly 24) ⟨⟨[], List.nodup_nil⟩, []⟩)).directory.names := by
      decide +kernel
    exact gone rotates.own

end Rotation

end Snapshots

end QuickBooks
