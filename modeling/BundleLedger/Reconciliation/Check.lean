/-!
# Checks

The checks between the bundle records and the transactional side, by name.
-/

set_option autoImplicit false

namespace BundleLedger

/-- A check between the bundle records and the transactional side. -/
inductive Check where
  | bundlesMissing
  | bundlesOrphaned
  | bundleFields
  | accountFields
  | creationAudit
  | chargedThroughDate
  | rankDensity
  | latestForExternalKey
deriving DecidableEq, Repr

namespace Check

/-- All checks in the order in which they run. -/
def all : List Check :=
  [.bundlesMissing, .bundlesOrphaned, .bundleFields, .accountFields, .creationAudit,
    .chargedThroughDate, .rankDensity, .latestForExternalKey]

def name : Check → String
  | .bundlesMissing => "bundles_missing"
  | .bundlesOrphaned => "bundles_orphaned"
  | .bundleFields => "bundle_fields"
  | .accountFields => "account_fields"
  | .creationAudit => "creation_audit"
  | .chargedThroughDate => "charged_through_date"
  | .rankDensity => "rank_density"
  | .latestForExternalKey => "latest_for_external_key"

def ofName? (name : String) : Option Check :=
  all.find? fun check ↦ check.name = name

theorem mem_all (check : Check) : check ∈ all := by
  cases check <;> decide

end Check
end BundleLedger
