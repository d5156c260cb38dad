import BundleLedger.Proofs.Result
import BundleLedger.Store.Database
import Mathlib.Data.Nat.Notation

/-!
# The transaction of a refresh, statement by statement

The stored records of an account are replaced in one transaction: they are deleted, each new record is inserted
under the next record number, and the transaction is committed. In the absence of faults these statements have
the effect of `Database.replaceRecords` (`Database.perform_statements`). The database may also refuse any of the
statements. A transaction has an effect exactly when none of its statements is refused
(`Database.perform_interrupted_eq_ok_iff`); one that ends with a fault is rolled back, so there is no database
but the one before it.
-/

set_option autoImplicit false

namespace BundleLedger

open Result

namespace Table

variable {Row : Type} [Stored Row]

theorem ofRows_eq_error {rows : List Row} {fault : DatabaseFault} (h : ofRows rows = .error fault) :
    fault = .integrity ∧ ¬Stored.Consistent rows := by
  unfold ofRows at h
  split at h
  · simp at h
  · rename_i hinconsistent
    exact ⟨(Except.error.inj h).symm, hinconsistent⟩

theorem ofRows_of_not_consistent {rows : List Row} (h : ¬Stored.Consistent rows) :
    ofRows rows = .error .integrity := by
  unfold ofRows
  rw [dif_neg h]

theorem add_nil (t : Table Row) : t.add [] = .ok t := by
  rw [add, ofRows_eq_ok_iff, List.append_nil]

/-- Rows that are added after a first one are added with it: a constraint that the first breaks, all break. -/
theorem add_cons (t : Table Row) (row : Row) (rows : List Row) :
    t.add (row :: rows) = (t.add [row]).bind fun next ↦ next.add rows := by
  cases hfirst : t.add [row] with
  | error fault =>
    obtain ⟨rfl, hinconsistent⟩ := ofRows_eq_error hfirst
    refine ofRows_of_not_consistent fun hall ↦ hinconsistent (Stored.sublist ?_ hall)
    exact List.Sublist.append (List.Sublist.refl _) (List.Sublist.cons_cons _ (List.nil_sublist _))
  | ok next =>
    have hrows : next.rows = t.rows ++ [row] := (ofRows_eq_ok_iff _ _).1 hfirst
    change ofRows (t.rows ++ row :: rows) = ofRows (next.rows ++ rows)
    rw [hrows, List.append_assoc, List.singleton_append]

theorem lt_nextRecordId {rows : List Row} {row : Row} (h : row ∈ rows) :
    Stored.recordId row < nextRecordId rows := by
  have hmem : Stored.recordId row ∈ rows.map Stored.recordId := List.mem_map_of_mem h
  unfold nextRecordId
  split
  · rename_i greatest hmax
    have hle := (List.max?_eq_some_iff.1 hmax).2 _ hmem
    omega
  · rename_i hnone
    rw [List.max?_eq_none_iff.1 hnone] at hmem
    exact absurd hmem List.not_mem_nil

/-- After a row with the next number the next number is one larger. -/
theorem nextRecordId_append_singleton {rows : List Row} {row : Row}
    (h : Stored.recordId row = nextRecordId rows) :
    nextRecordId (rows ++ [row]) = nextRecordId rows + 1 := by
  have hmax : ((rows ++ [row]).map Stored.recordId).max? = some (nextRecordId rows) := by
    rw [List.max?_eq_some_iff, ← h]
    refine ⟨List.mem_map_of_mem (List.mem_append_right _ List.mem_cons_self), fun number hnumber ↦ ?_⟩
    obtain ⟨other, hother, rfl⟩ := List.mem_map.1 hnumber
    rcases List.mem_append.1 hother with hold | hnew
    · rw [h]
      exact Int.le_of_lt (lt_nextRecordId hold)
    · exact Int.le_of_eq (congrArg Stored.recordId (List.mem_singleton.1 hnew))
  rw [nextRecordId, hmax]

end Table

namespace Database

/-! ### Statements -/

/-- The stored records of an account deleted. -/
def deleteRecords (account : Uuid) (db : Database) : Except DatabaseFault Database := do
  let table ← existing db.entries
  return { db with entries := some (table.filter fun r ↦ r.entry.account ≠ account) }

/-- One record inserted under the next record number. -/
def insertRecord (refreshed : Moment) (r : BundleRecord) (db : Database) : Except DatabaseFault Database := do
  let table ← existing db.entries
  let added ← table.add [⟨Table.nextRecordId table.rows, storedEntry r, refreshed⟩]
  return { db with entries := some added }

/-- The statements that replace the records of an account. The last one commits them. -/
def statements (account : Uuid) (refreshed : Moment) (records : List BundleRecord) :
    List (Database → Except DatabaseFault Database) :=
  deleteRecords account :: (records.map (insertRecord refreshed) ++ [.ok])

/-- Statements in turn, up to the first that is refused. -/
def perform (steps : List (Database → Except DatabaseFault Database)) (db : Database) :
    Except DatabaseFault Database :=
  steps.foldlM (fun db step ↦ step db) db

theorem perform_cons (step : Database → Except DatabaseFault Database)
    (rest : List (Database → Except DatabaseFault Database)) (db : Database) :
    perform (step :: rest) db = (step db).bind (perform rest) := by
  exact List.foldlM_cons

/-- The records of a list inserted one by one are inserted together. -/
theorem perform_insertRecord (refreshed : Moment) (records : List BundleRecord) (db : Database)
    (table : Table EntryRow) :
    perform (records.map (insertRecord refreshed) ++ [.ok]) { db with entries := some table } =
      (table.add (entryRows refreshed (Table.nextRecordId table.rows) records)).map fun added ↦
        { db with entries := some added } := by
  induction records generalizing table with
  | nil =>
    rw [entryRows, Table.add_nil]
    rfl
  | cons r rest ih =>
    rw [List.map_cons, List.cons_append, perform_cons, entryRows, Table.add_cons]
    cases hadded : table.add [⟨Table.nextRecordId table.rows, storedEntry r, refreshed⟩] with
    | error fault =>
      have hstep : insertRecord refreshed r { db with entries := some table } = .error fault := by
        change (table.add _).bind _ = _
        rw [hadded]
        rfl
      rw [hstep]
      rfl
    | ok next =>
      have hstep : insertRecord refreshed r { db with entries := some table } =
          .ok { db with entries := some next } := by
        change (table.add _).bind _ = _
        rw [hadded]
        rfl
      have hnumber : Table.nextRecordId next.rows = Table.nextRecordId table.rows + 1 := by
        rw [(Table.ofRows_eq_ok_iff _ _).1 hadded]
        exact Table.nextRecordId_append_singleton rfl
      rw [hstep]
      change perform _ { db with entries := some next } = (next.add _).map _
      rw [ih, hnumber]

/-- The statements have the effect of replacing the records. -/
theorem perform_statements (account : Uuid) (refreshed : Moment) (records : List BundleRecord) (db : Database) :
    perform (statements account refreshed records) db = db.replaceRecords account refreshed records := by
  unfold statements replaceRecords
  rw [perform_cons, deleteRecords]
  cases existing db.entries with
  | error fault => rfl
  | ok table =>
    change perform _ { db with entries := some (table.filter _) } = _
    rw [perform_insertRecord]
    change _ = ((table.filter _).add _).bind _
    cases (table.filter fun r ↦ r.entry.account ≠ account).add _ <;> rfl

/-! ### Refused statements -/

/-- Statements of which some are refused with a fault, by their places. -/
def interrupted (faults : ℕ → Option DatabaseFault) (steps : List (Database → Except DatabaseFault Database)) :
    List (Database → Except DatabaseFault Database) :=
  steps.mapIdx fun place step db ↦
    match faults place with
    | some fault => .error fault
    | none => step db

section Interrupted

variable {faults : ℕ → Option DatabaseFault} {fault : DatabaseFault}
  {step : Database → Except DatabaseFault Database} {steps : List (Database → Except DatabaseFault Database)}
  {db after : Database}

theorem interrupted_none (steps : List (Database → Except DatabaseFault Database)) :
    interrupted (fun _ ↦ none) steps = steps :=
  List.ext_getElem (List.length_mapIdx ..) fun _ _ _ ↦ List.getElem_mapIdx ..

theorem perform_interrupted_of_refused (h : faults 0 = some fault) :
    perform (interrupted faults (step :: steps)) db = .error fault := by
  rw [interrupted, List.mapIdx_cons, perform_cons]
  simp only [h, Except.bind]

theorem perform_interrupted_of_accepted (h : faults 0 = none) :
    perform (interrupted faults (step :: steps)) db =
      (step db).bind (perform (interrupted (fun place ↦ faults (place + 1)) steps)) := by
  rw [interrupted, List.mapIdx_cons, perform_cons]
  simp only [h, interrupted]

/-- A transaction has an effect exactly when no statement is refused, and then its own. -/
theorem perform_interrupted_eq_ok_iff :
    perform (interrupted faults steps) db = .ok after ↔
      (∀ place < steps.length, faults place = none) ∧ perform steps db = .ok after := by
  induction steps generalizing faults db with
  | nil => simp [interrupted]
  | cons step rest ih =>
    rw [perform_cons, List.length_cons, Nat.forall_lt_succ_left]
    cases hfault : faults 0 with
    | some fault => simp [perform_interrupted_of_refused hfault]
    | none =>
      rw [perform_interrupted_of_accepted hfault]
      cases step db with
      | error own => simp [Except.bind]
      | ok next => simpa [Except.bind] using ih

/-- A transaction that fails has a refused statement, or fails by itself. -/
theorem refused_of_perform_interrupted (h : perform (interrupted faults steps) db = .error fault) :
    (∃ place < steps.length, faults place = some fault) ∨ perform steps db = .error fault := by
  induction steps generalizing faults db with
  | nil => exact .inr h
  | cons step rest ih =>
    rw [perform_cons]
    cases hfault : faults 0 with
    | some refused =>
      rw [perform_interrupted_of_refused hfault, Except.error.injEq] at h
      exact .inl ⟨0, Nat.zero_lt_succ _, h ▸ hfault⟩
    | none =>
      rw [perform_interrupted_of_accepted hfault] at h
      cases hstep : step db with
      | error own =>
        rw [hstep] at h
        exact .inr h
      | ok next =>
        rw [hstep] at h
        rcases ih h with ⟨place, hplace, hrefused⟩ | hown
        · exact .inl ⟨place + 1, Nat.succ_lt_succ hplace, hrefused⟩
        · exact .inr hown

end Interrupted

end Database
end BundleLedger
