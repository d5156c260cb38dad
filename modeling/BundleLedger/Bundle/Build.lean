import BundleLedger.Bundle.Context
import BundleLedger.Bundle.Ranking

/-!
# Building a record

Reading the context once, and building one record. `Prefetch.run` makes the caller's lookups in a
fixed order and ranks the bundles; `Build.run` is the work for one ranked bundle, which makes at most
two lookups on a worker.
-/

set_option autoImplicit false

namespace BundleLedger

/-- What the caller has read before any record is built. -/
structure Prefetched where
  account : Account
  accountRecordId : Reading Int
  tenantRecordId : Reading Int
  reportGroup : Reading ReportGroup
  converter : Converter
  bundles : List Bundle

/-- One record to build. -/
structure WorkItem where
  transition : Transition
  rank : Nat
  creation : Option AuditLog

namespace Prefetched

/-- The base subscriptions of the account: the base entitlements of all its subscriptions. -/
def baseSubscriptions (bundles : List Bundle) : List Uuid :=
  bundles.flatMap fun b ↦ b.subscriptions.map (·.baseEntitlement)

/-- The bundle with an identifier; of several the last one listed. -/
def bundle? (p : Prefetched) (id : Uuid) : Option Bundle :=
  p.bundles.reverse.find? fun b ↦ b.id = id

end Prefetched

namespace Prefetch

/-- The lookups for the account and its bundles, in order. -/
def facts (ctx : Context) : Run Prefetched := do
  let account ← Run.call .caller .account ctx.account
  let accountRecordId ← Run.call .caller .accountRecordId ctx.accountRecordId
  let tenantRecordId ← Run.call .caller .tenantRecordId ctx.tenantRecordId
  let reportGroup ← Run.call .caller .reportGroup ctx.reportGroup
  let converter ← Run.call .caller .converter ctx.converter
  let bundles ← Run.call .caller .bundles ctx.bundles
  pure ⟨account, accountRecordId, tenantRecordId, reportGroup, converter, bundles⟩

/-- The work for one ranked bundle; its creation is looked up on the caller's side. -/
def workItem (ctx : Context) (ranking : Ranking) (entry : Uuid × Transition) : Run WorkItem := do
  let creation ← Run.call .caller (.creationAudit entry.1) (ctx.creationAudit entry.1)
  pure ⟨entry.2, ranking.rankOf entry.1, creation⟩

/-- Everything that is read before the first build, with the work in the order of the ranks. -/
def run (ctx : Context) (stream : Stream) : Run (Prefetched × List WorkItem) := do
  let p ← facts ctx
  let transitions ← Run.ofExcept stream.collect
  let ranking := Ranking.ofTransitions (Prefetched.baseSubscriptions p.bundles) transitions
  let work ← Run.each (workItem ctx ranking) ranking.latest
  pure (p, work)

end Prefetch

namespace Build

/-- A failed lookup as an error that names the bundle; errors of the refresh itself pass. -/
def lookupFailure (account bundle : Uuid) (failure : Failure) : Failure :=
  .refresh (failure.wrap fun cause ↦
    RefreshError.raised
      { reason := .lookupFailed bundle, cause := some cause, account := some account,
        bundle := some bundle })

/-- The two lookups for a bundle. -/
def lookups (ctx : Context) (p : Prefetched) (b : Bundle) : Run (Reading Int × Uuid) :=
  Run.mapFailure (lookupFailure p.account.id b.id) do
    let recordId ← Run.call .worker (.bundleRecordId b.id) (ctx.bundleRecordId b.id)
    let latest ← Run.call .worker (.latestForExternalKey b.externalKey)
      (ctx.latestForExternalKey b.externalKey)
    pure (recordId, latest)

/-- The amount of a plan in the reference currency, at the day the plan starts. -/
def converted (c : Converter) (t : Transition) (amount : Option Decimal) :
    Except Failure (Option Decimal) :=
  (c.convert amount t.next.currency t.next.start).mapError fun fault ↦ .cause (.arithmetic fault)

/-- The record from everything that was looked up. -/
def record (p : Prefetched) (b : Bundle) (item : WorkItem) (recordId : Reading Int) (latest : Uuid) :
    Except Failure BundleRecord := do
  let convertedPrice ← converted p.converter item.transition item.transition.next.price
  let convertedMrr ← converted p.converter item.transition item.transition.next.mrr
  match BundleRecord.ofDraft
      { account := p.account, accountRecordId := p.accountRecordId, bundle := b
        bundleRecordId := recordId, transition := item.transition, rank := item.rank
        isLatest := latest = b.id, convertedPrice, convertedMrr
        convertedCurrency := p.converter.reference, creation := item.creation
        tenantRecordId := p.tenantRecordId, reportGroup := p.reportGroup } with
  | .ok record => .ok record
  | .invalid first others => .error (.cause (.invalid first others))

/-- The work for one ranked bundle: a bundle that the account does not have fails it. -/
def run (ctx : Context) (p : Prefetched) (item : WorkItem) : Run BundleRecord :=
  match p.bundle? item.transition.bundle with
  | none => Run.fail (.cause (.missingId item.transition.bundle))
  | some b => do
    let (recordId, latest) ← lookups ctx p b
    Run.ofExcept (record p b item recordId latest)

end Build
end BundleLedger
