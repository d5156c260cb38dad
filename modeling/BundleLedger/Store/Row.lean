import BundleLedger.Bundle.Record
import BundleLedger.Store.Fixed

/-!
# Rows

The rows of the eight tables. Five belong to the transactional side: accounts, their tags, bundles,
subscriptions and audit entries. Three belong to the analytics side: transitions, conversion rates and the
bundle records. Every row has a record number. Categories are texts here, since the tables do not restrict
them.
-/

set_option autoImplicit false

namespace BundleLedger

structure AccountRow where
  recordId : Int
  id : Uuid
  externalKey : String
  name : Option String
  currency : Option String
  tenantRecordId : Int
  created : Moment
deriving DecidableEq, Repr

structure TagRow where
  recordId : Int
  account : Uuid
  name : String
deriving DecidableEq, Repr

structure BundleRow where
  recordId : Int
  id : Uuid
  externalKey : String
  account : Uuid
  tenantRecordId : Int
  created : Moment
deriving DecidableEq, Repr

structure SubscriptionRow where
  recordId : Int
  id : Uuid
  bundle : Uuid
  baseEntitlement : Uuid
  category : String
  lastActiveCategory : Option String
  chargedThrough : Option Date
  created : Moment
deriving DecidableEq, Repr

structure AuditRow where
  recordId : Int
  accountRecordId : Int
  tableName : String
  targetRecordId : Int
  changeType : String
  createdBy : Option String
  reasonCode : Option String
  comments : Option String
  created : Moment
deriving DecidableEq, Repr

structure TransitionRow where
  recordId : Int
  account : Uuid
  bundle : Uuid
  bundleExternalKey : String
  subscription : Uuid
  event : String
  next : PlanState String Amount
deriving DecidableEq, Repr

structure RateRow where
  recordId : Int
  currency : String
  start : Date
  finish : Date
  rate : StoredRate
  reference : String
deriving DecidableEq, Repr

/-- A bundle record as it is stored. -/
structure EntryRow where
  recordId : Int
  entry : Entry String Amount Moment String
  refreshed : Moment
deriving DecidableEq, Repr

end BundleLedger
