import BundleLedger.Bundle.Context
import BundleLedger.Store.Snapshot

/-!
# The context of an account in the database

A source answers the lookups for one account from the database. It reads the account with its tags once, and
the audit entries once, and remembers both; everything else is read anew. `context` gives the answers,
`after` what is remembered once a lookup has been made.
-/

set_option autoImplicit false

namespace BundleLedger

open Database (AccountFacts)

/-- The lookups for one account, with what has been remembered. -/
structure Source where
  account : Uuid
  reference : String
  facts : Option AccountFacts
  creations : Option (List (Int × AuditLog))

namespace Source

/-- A source that remembers nothing yet. -/
def fresh (account : Uuid) (reference : String) : Source :=
  ⟨account, reference, none, none⟩

/-- A query for an account; its failure is an error of the refresh. -/
def load {α : Type} (s : Source) (what : Load) (x : Except Cause α) : Except RefreshError α :=
  x.mapError fun cause ↦
    RefreshError.raised { reason := .unableToLoad what, cause := some cause, account := some s.account }

/-- The account from the database. -/
def loadFacts (s : Source) (db : Database) : Except RefreshError AccountFacts := do
  match ← s.load .account (db.accountRow? s.account) with
  | none => .error (.accountNotFound s.account)
  | some row => return ⟨row, ← s.load .account (db.tagsOf s.account)⟩

/-- The account as remembered, else from the database. -/
def factsOr (s : Source) (db : Database) : Except RefreshError AccountFacts :=
  match s.facts with
  | some facts => .ok facts
  | none => s.loadFacts db

/-- The creations under the account as remembered, else from the database. -/
def creationsOr (s : Source) (db : Database) : Except RefreshError (List (Int × AuditLog)) :=
  match s.creations with
  | some creations => .ok creations
  | none => do
    let facts ← s.factsOr db
    s.load .auditLogs (db.creationsOf facts.row.recordId)

/-- The converter into the reference currency. -/
def converter (s : Source) (db : Database) : Except RefreshError Converter :=
  (s.load .rates (db.ratesInto s.reference)).map (Converter.of s.reference)

/-- The record number of a bundle. -/
def bundleRecordId (s : Source) (db : Database) (bundle : Uuid) : Except RefreshError Int := do
  match ← s.load .recordId (db.bundleRecordId? bundle) with
  | some n => return n
  | none =>
    .error { reason := .bundleNotFound bundle, account := some s.account, bundle := some bundle }

/-- The newest bundle of an external key within the tenant of the account. -/
def latestBundle (s : Source) (db : Database) (key : String) : Except RefreshError Bundle := do
  let facts ← s.factsOr db
  match ← s.load .latestBundle (db.latestBundle? facts.row.tenantRecordId key) with
  | some bundle => return bundle
  | none => .error { reason := .noBundleForKey key, account := some s.account }

/-- The audit entry of the creation of a bundle. -/
def creationAudit (s : Source) (db : Database) (bundle : Uuid) : Except RefreshError (Option AuditLog) := do
  let creations ← s.creationsOr db
  return Database.creation? creations (← s.bundleRecordId db bundle)

/-- The transitions of the account. -/
def transitions (s : Source) (db : Database) : Except RefreshError (List Transition) :=
  s.load .transitions (db.transitionsOf s.account)

/-- An answer whose error is one of the refresh. -/
def answer {α : Type} (x : Except RefreshError α) : Except Failure α :=
  x.mapError .refresh

/-- The answers to all lookups. -/
def context (s : Source) (db : Database) : Context where
  account := answer ((s.factsOr db).map fun facts ↦ facts.row.snapshot)
  accountRecordId := answer ((s.factsOr db).map fun facts ↦ .ok facts.row.recordId)
  tenantRecordId := answer ((s.factsOr db).map fun facts ↦ .ok facts.row.tenantRecordId)
  reportGroup := answer ((s.factsOr db).map fun facts ↦ .ok (Database.groupOf facts.tags))
  converter := answer (s.converter db)
  bundles := answer (s.load .bundles (db.bundlesOf s.account))
  bundleRecordId bundle := answer ((s.bundleRecordId db bundle).map .ok)
  latestForExternalKey key := answer ((s.latestBundle db key).map (·.id))
  creationAudit bundle := answer (s.creationAudit db bundle)

/-! ### What is remembered -/

/-- The source once the account has been looked up. -/
def afterFacts (s : Source) (db : Database) : Source :=
  { s with facts := (s.factsOr db).toOption }

/-- The source once the creations have been looked up. -/
def afterCreations (s : Source) (db : Database) : Source :=
  match s.creations with
  | some _ => s
  | none => { s.afterFacts db with creations := (s.creationsOr db).toOption }

/-- The source once a lookup has been made. -/
def after (s : Source) (db : Database) : Lookup → Source
  | .account | .accountRecordId | .tenantRecordId | .reportGroup | .latestForExternalKey _ => s.afterFacts db
  | .creationAudit _ => s.afterCreations db
  | .converter | .bundles | .bundleRecordId _ => s

end Source
end BundleLedger
