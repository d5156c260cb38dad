import BundleLedger.Request.PathLabel
import BundleLedger.Request.Target

/-!
# Routes

The paths that are served, each with the methods it takes, the permissions it requires and the template that
labels it. A path with slashes at its end is redirected to the path without them, if that one is served.
-/

set_option autoImplicit false

namespace BundleLedger

/-- A served path. -/
inductive Route where
  | refreshBundles (account : String)
  | checkBundles
  | health
  | metrics
  /-- A page of documentation. -/
  | documentation (path : String)
deriving DecidableEq, Repr

namespace Route

/-- The segments of a path. -/
def segments (path : String) : List String :=
  (Text.splitAll '/' path.toList).map String.ofList

/-- The paths of documentation, with the kind of their content. -/
def documents : List (String × String) :=
  [("/openapi.json", "application/json"), ("/docs", "text/html"), ("/docs/oauth2-redirect", "text/html"),
    ("/redoc", "text/html")]

/-- A path without the line break that may end it. -/
def withoutBreak (path : String) : String :=
  match path.toList.reverse with
  | '\n' :: rest => String.ofList rest.reverse
  | _ => path

/-- The route of a path. A line break at its end makes no difference. A part of a path that stands for a
parameter must not be empty. -/
def ofPath? (path : String) : Option Route :=
  let path := withoutBreak path
  match segments path with
  | ["", "health"] => some .health
  | ["", "metrics"] => some .metrics
  | ["", "api", "analytics", "sanity", "bundles"] => some .checkBundles
  | ["", "api", "analytics", "accounts", account, "bundles", "refresh"] =>
    if account = "" then none else some (.refreshBundles account)
  | _ => if documents.any fun d ↦ d.1 = path then some (.documentation path) else none

/-- The methods that a route takes. -/
def methods : Route → List String
  | .refreshBundles _ => ["POST"]
  | .checkBundles | .health | .metrics => ["GET"]
  | .documentation _ => ["GET", "HEAD"]

/-- The permissions that a route requires. -/
def permissions : Route → List String
  | .refreshBundles _ => ["analytics.refresh"]
  | .checkBundles => ["analytics.sanity.read"]
  | .metrics => ["system.metrics.read"]
  | .health | .documentation _ => []

/-- The template of a route, as far as it has one. -/
def template? : Route → Option String
  | .refreshBundles _ => some "/api/analytics/accounts/\x7baccount_id\x7d/bundles/refresh"
  | .checkBundles => some "/api/analytics/sanity/bundles"
  | .health => some "/health"
  | .metrics => some "/metrics"
  | .documentation _ => none

/-- The label of a path: the template of its route, whatever the method, else the sanitized path. -/
def label (path : String) : String :=
  PathLabel.resolve ((ofPath? path).map fun route ↦ ⟨route.template?, route.template?⟩) path

/-- A path without the slashes at its end. -/
def withoutSlashes (path : String) : String :=
  String.ofList (path.toList.reverse.dropWhile (· = '/')).reverse

/-- The path that a path is redirected to. -/
def redirect? (path : String) : Option String :=
  let target := withoutSlashes path
  if target ≠ path ∧ (ofPath? target).isSome then some target else none

/-- The last segment of a path that ends with a slash is empty, and that of a served path is not. -/
theorem ofPath?_eq_none_of_slash {path : String} {front : List Char} (h : path.toList = front ++ ['/']) :
    ofPath? path = none := by
  have hbreak : withoutBreak path = path := by
    simp [withoutBreak, h]
  have hlast : (segments path).getLast? = some "" := by
    simp [segments, h, Text.splitAll_concat]
  have hdocuments : documents.any (fun d ↦ d.1 = path) = false := by
    have hends : ∀ d ∈ documents, d.1.toList.getLast? ≠ some '/' := by decide +kernel
    rw [List.any_eq_false]
    intro d hd
    simp only [decide_eq_true_eq]
    rintro rfl
    exact hends d hd (by simp [h])
  unfold ofPath?
  simp only [hbreak, hdocuments]
  split <;> simp_all

/-- A served path is not redirected. -/
theorem redirect?_eq_none {path : String} (h : (ofPath? path).isSome) : redirect? path = none := by
  unfold redirect?
  apply if_neg
  rintro ⟨htarget, -⟩
  cases hreverse : path.toList.reverse with
  | nil => exact htarget (by simp [withoutSlashes, ← String.toList_inj, List.reverse_eq_nil_iff.1 hreverse])
  | cons c rest =>
    have hpath : path.toList = rest.reverse ++ [c] := by
      rw [← List.reverse_reverse path.toList, hreverse, List.reverse_cons]
    by_cases hc : c = '/'
    · rw [ofPath?_eq_none_of_slash (hc ▸ hpath)] at h
      cases h
    · apply htarget
      simp [withoutSlashes, hc, ← String.toList_inj, hpath]

end Route
end BundleLedger
