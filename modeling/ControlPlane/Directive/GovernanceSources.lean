import ControlPlane.Directive.GovernanceTruth
import ControlPlane.Data.Json.Ratio

/-!
# Where the governance verdict comes from

The verdict is one about `main` only where the protection object decides it. A snapshot that attests
itself is believed instead, and the object of the API counts as requiring pull requests whatever it says.
-/

namespace ControlPlane.Directive.Governance

open ControlPlane.Data

/-- The protection object itself requires pull requests and status checks, forbids force pushes and
deletions, and enforces them on admins. -/
structure Protects (p : Record) : Prop where
  pulls : ∃ reviews, Dict.get? p "required_pull_request_reviews" = some (.dict reviews)
  checks : ∃ checks, Dict.get? p "required_status_checks" = some (.dict checks)
  forces : enabled? p "allow_force_pushes" = some false
  deletions : enabled? p "allow_deletions" = some false
  admins : enabled? p "enforce_admins" = some true

/-- The snapshot's protection object protects `main`. -/
def Backed (data : Record) : Prop :=
  ∃ api p, apiData data = some api ∧ Dict.get? api "protection" = some (.dict p) ∧ Protects p

/-- Snapshots that differ in what their writer says of itself only. -/
def SameFetched (data data' : Record) : Prop :=
  ∀ k ∈ ["fetched_at", "api_query_success", "github_api_auth_available", "api_data"], Dict.get? data k = Dict.get? data' k

/-- A snapshot that is fresh, and whose answers can be read. -/
def Accepted (py : Interpreter) (now maxAge : ℚ) (data : Record) : Prop :=
  freshness py now maxAge data = .fresh ∧ ∃ facts, parseApi py data = .ok facts

section
variable {py : Interpreter} {now maxAge : ℚ} {content content' : Option String} {data data' : Record} {r r' : Result}
  {facts : MainFacts} {p api : Record} {success : Bool} {pulls : List Json}

/-! ### The facts about `main` -/

theorem SameFetched.field (fetched : SameFetched data data') {k : String}
    (known : k ∈ ["fetched_at", "api_query_success", "github_api_auth_available", "api_data"]) :
    data.field k = data'.field k := by
  rw [Record.field, Record.field, fetched k known]

theorem SameFetched.freshness (fetched : SameFetched data data') :
    freshness py now maxAge data = freshness py now maxAge data' := by
  unfold Governance.freshness
  rw [fetched.field (by simp : "fetched_at" ∈ _)]

theorem SameFetched.apiData (fetched : SameFetched data data') : apiData data = apiData data' := by
  unfold Governance.apiData
  rw [fetched "api_data" (by simp)]

theorem SameFetched.parseApi (fetched : SameFetched data data') : parseApi py data = parseApi py data' := by
  unfold Governance.parseApi
  rw [fetched.apiData, fetched.field (by simp : "api_query_success" ∈ _)]

end

/-- An interpreter that knows the instant of the sample. -/
def samplePy : Interpreter where
  floats := Json.ratioFloats
  fromisoformat text := if text = "2026-01-01T00:00:00+00:00" then some 1767225600 else none
  upper := id
  str
    | .str s => s
    | _ => "None"

end ControlPlane.Directive.Governance
