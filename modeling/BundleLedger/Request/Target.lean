import BundleLedger.Request.Address
import BundleLedger.Request.Headers

/-!
# Requests and their targets

A request has a method, a path, parameters and headers. The path is what its address says once percent
signs have been read, and read again; parameters follow the question mark of the address, unless they are
given apart.
-/

set_option autoImplicit false

namespace BundleLedger

/-- A request. Of parameters with one name the last counts. -/
structure Request where
  method : String
  path : String
  parameters : List (String × String)
  headers : Headers
deriving DecidableEq, Repr

namespace Request

/-- A part of a query with its escapes read; a plus sign is a blank. -/
def queryText (s : List Char) : String :=
  String.ofList (Text.percentDecoded (s.map fun c ↦ if c = '+' then ' ' else c))

/-- One parameter of a query. -/
def parameter (s : List Char) : String × String :=
  let (name, value) := Text.splitFirst '=' s
  (queryText name, queryText (value.getD []))

/-- The parameters of a query. -/
def parametersOf (query : List Char) : List (String × String) :=
  ((Text.splitAll '&' query).filter fun part ↦ !part.isEmpty).map parameter

/-- The text of a value in a query. -/
def valueText : Datum → String
  | .null => ""
  | .bool true => "true"
  | .bool false => "false"
  | d => d.plain

/-- Parameters given by name; a list gives several of one name. -/
def parametersOfEntries (entries : List (String × Datum)) : List (String × String) :=
  entries.flatMap fun (name, d) ↦
    match d with
    | .list items => items.map fun item ↦ (name, valueText item)
    | d => [(name, valueText d)]

/-- The path that the path of an address names. -/
def pathText (path : List Char) : String :=
  String.ofList (Text.percentDecoded (Text.percentDecoded path))

/-- The request for a target with headers, whose failure counts after that of the address. Parameters given
apart take the place of those in the target. -/
def ofTarget (method target : String) (given : Option (List (String × Datum)))
    (headers : Except Cause Headers) : Except Cause Request := do
  let address ← Address.ofText target
  let headers ← headers
  let parameters := match given with
    | some entries => parametersOfEntries entries
    | none => parametersOf (address.query.getD [])
  return ⟨Text.upper method, pathText address.path, parameters, headers⟩

/-- The value of a parameter. -/
def parameter? (r : Request) (name : String) : Option String :=
  (r.parameters.reverse.find? fun p ↦ p.1 = name).map (·.2)

end Request
end BundleLedger
