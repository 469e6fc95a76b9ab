import GmsRemoteTest.Foundation.Fields
import GmsRemoteTest.Lib.Table

/-! Enrollment codes: an administrator draws a code with the scopes, lists and lifetime of a future agent
token, and the build server exchanges the code for that token. -/
namespace GmsRemoteTest.Auth
open Text

def agentScopes : List String :=
  ["devices.read","devices.database.read","devices.lease","devices.use_leased","devices.inventory","tests.execute",
    "tests.cancel","jobs.read","reports.read","suites.read","redmine.read","artifacts.read_own","apk.analyze_own",
    "sdk.read","knowledge.read","build.read","build.execute","build.cancel"]

inductive Names where
  | text (value : String)
  | list (values : List String)

def Names.items : Names → List String
  | .text value => (split ',' value).map strip
  | .list values => values.map strip

def cleanScopes : List String → List String → Except String (List String)
  | cleaned, [] => .ok cleaned
  | cleaned, name :: names =>
    if name = "" then cleanScopes cleaned names
    else if name ∉ agentScopes then .error ("未知权限范围: " ++ name)
    else cleanScopes (if name ∈ cleaned then cleaned else cleaned++[name]) names

def normalizeScopes : Option Names → Except String String
  | none => .ok ""
  | some names => (cleanScopes [] names.items).map (join ',')

def normalizeAcl : Option Names → String
  | none => "*"
  | some names =>
    let items := names.items.filter (· ≠ "")
    if items = [] ∨ "*" ∈ items then "*" else join ',' items

def coerceExpiresDays (days : Int) : Except String Nat :=
  if 1 ≤ days ∧ days ≤ 3650 then .ok days.toNat else .error "expires_days 必须介于 1 和 3650 之间"

/-- A row of `platform_agent_enrollments`. -/
structure EnrollmentRow where
  codeHash : String
  name : String
  createdBy : String
  scopes : String
  allowedWorkers : String
  allowedDevices : String
  expiresDays : Int
  createdAt : Nat
  expiresAt : Nat
  usedAt : Option Nat
deriving DecidableEq

/-- The arguments of `create_agent_enrollment`. -/
structure EnrollmentRequest where
  name : String
  creator : String
  scopes : Option Names
  allowedWorkers : Option Names := none
  allowedDevices : Option Names := none
  expiresDays : Option Int := some 90
  ttlMinutes : Option Int := none

structure Enrollment where
  request : EnrollmentRequest
  ttlMinutes : Nat
  days : Nat
  code : String
  now : Nat

def EnrollmentRequest.enroll (request : EnrollmentRequest) (code : String) (now : Nat) : Except String Enrollment :=
  let ttl := request.ttlMinutes.getD 5
  if ¬ (1 ≤ ttl ∧ ttl ≤ 30) then .error "ttl_minutes 必须在 1–30 分钟之间"
  else match coerceExpiresDays (request.expiresDays.getD 90) with
  | .error message => .error message
  | .ok days => .ok ⟨request,ttl.toNat,days,code,now⟩

def Enrollment.expiresAt (enrollment : Enrollment) : Nat := enrollment.now + enrollment.ttlMinutes * 60000000

section
variable (hash : String → String)

/-- The values of the INSERT; unknown scopes are found here, inside the transaction. -/
def Enrollment.row (enrollment : Enrollment) : Except String EnrollmentRow :=
  match normalizeScopes enrollment.request.scopes with
  | .error message => .error message
  | .ok scopes => .ok
    {codeHash := hash enrollment.code,name := orElse (strip enrollment.request.name) "agent",
      createdBy := enrollment.request.creator,scopes,
      allowedWorkers := normalizeAcl enrollment.request.allowedWorkers,
      allowedDevices := normalizeAcl enrollment.request.allowedDevices,
      expiresDays := enrollment.days,createdAt := enrollment.now,expiresAt := enrollment.expiresAt,usedAt := none}

theorem Enrollment.row_codeHash {enrollment : Enrollment} {row : EnrollmentRow} (compiled : enrollment.row hash = .ok row) :
    row.codeHash = hash enrollment.code := by
  unfold Enrollment.row at compiled
  split at compiled
  · cases compiled
  · cases compiled
    rfl

def purgeEnrollments (now : Nat) (rows : List EnrollmentRow) : List EnrollmentRow :=
  Table.delete (fun row => row.expiresAt ≤ now ∨ row.usedAt ≠ none) rows

inductive Refusal where
  | invalid
  | used (usedAt : Nat)
  | expired (expiresAt : Nat)
deriving DecidableEq

def redeemable (code : String) (now : Nat) (rows : List EnrollmentRow) : Except Refusal EnrollmentRow :=
  match Table.fetch (fun row => row.codeHash = hash code) rows with
  | none => .error .invalid
  | some row => match row.usedAt with
    | some usedAt => .error (.used usedAt)
    | none => if row.expiresAt ≤ now then .error (.expired row.expiresAt) else .ok row

/-- A row of `platform_agent_tokens`. -/
structure AgentTokenRow where
  id : String
  tokenHash : String
  name : String
  ownerUserId : String
  scopes : String
  allowedWorkers : String
  allowedDevices : String
  createdAt : Nat
  expiresAt : Nat
deriving DecidableEq

def EnrollmentRow.lifetime (row : EnrollmentRow) : Nat :=
  match coerceExpiresDays row.expiresDays with
  | .ok days => days
  | .error _ => 90

def EnrollmentRow.grant (row : EnrollmentRow) (token tokenId : String) (now : Nat) : AgentTokenRow where
  id := tokenId
  tokenHash := hash token
  name := row.name
  ownerUserId := row.createdBy
  scopes := row.scopes
  allowedWorkers := row.allowedWorkers
  allowedDevices := row.allowedDevices
  createdAt := now
  expiresAt := now + row.lifetime * 86400000000

structure AgentRecord where
  id : String
  name : String
  token : String
  scopes : List String
  allowedWorkers : String
  allowedDevices : String
  expiresAt : Nat
deriving DecidableEq

def AgentTokenRow.record (row : AgentTokenRow) (token : String) : AgentRecord where
  id := row.id
  name := row.name
  token := token
  scopes := (split ',' row.scopes).filter (· ≠ "")
  allowedWorkers := orElse row.allowedWorkers "*"
  allowedDevices := orElse row.allowedDevices "*"
  expiresAt := row.expiresAt

end

end GmsRemoteTest.Auth
