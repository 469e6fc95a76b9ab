import GmsRemoteTest.Foundation.Fields
import GmsRemoteTest.Lib.Json

/-! Principals and their permissions, the capabilities a test plan needs, and the machine principal that
executes an automation run. A `frozenset` of names is its sorted list without repetitions. -/
namespace GmsRemoteTest.Auth
open Text

def frozenset (names : List String) : List String := sorted (fromkeys names)

@[simp] theorem mem_frozenset {name : String} {names : List String} : name ∈ frozenset names ↔ name ∈ names := by
  simp [frozenset]

theorem sorted_frozenset (names : List String) : sorted (frozenset names) = frozenset names := sorted_sorted _

theorem frozenset_congr {first second : List String} (same : ∀ name, name ∈ first ↔ name ∈ second) :
    frozenset first = frozenset second := by
  have members : (fromkeys first).Perm (fromkeys second) :=
    (List.perm_ext_iff_of_nodup (fromkeys_nodup first) (fromkeys_nodup second)).mpr fun name => by simpa using same name
  have both := ((List.perm_insertionSort (· ≤ ·) (fromkeys first)).trans members).trans
    (List.perm_insertionSort (· ≤ ·) (fromkeys second)).symm
  exact both.eq_of_pairwise' (List.pairwise_insertionSort (· ≤ ·) _) (List.pairwise_insertionSort (· ≤ ·) _)

def agentRole : String := "agent_service"

def rolePermissions (role : String) : List String :=
  if role = "user" then
    ["tests.execute","tests.cancel","jobs.read","reports.read","devices.use_leased","redmine.read","artifacts.read_own",
      "apk.analyze_own","sdk.read","knowledge.read","email.send","build.read","build.execute","build.cancel"]
  else if role = "device_operator" then
    ["tests.execute","tests.cancel","jobs.read","reports.read","devices.use_leased","devices.inventory","devices.lease",
      "devices.read","redmine.read","artifacts.read_own","apk.analyze_own","sdk.read","knowledge.read","email.send",
      "build.read","build.execute","build.cancel"]
  else if role = "admin" then ["*"]
  else if role = "worker_service" then ["worker.register","worker.heartbeat","worker.commands","worker.artifacts"]
  else []

structure CurrentUser where
  id : String
  username : String
  role : String
  displayName : String := ""
  extraPermissions : List String := []
  resourceOwnerId : String
deriving DecidableEq

def CurrentUser.init (user : CurrentUser) : CurrentUser := {user with resourceOwnerId := orElse user.resourceOwnerId user.id}

def CurrentUser.effectivePermissions (user : CurrentUser) : List String :=
  frozenset (rolePermissions user.role ++ user.extraPermissions)

def CurrentUser.HasPermission (user : CurrentUser) (permission : String) : Prop :=
  "*" ∈ user.effectivePermissions ∨ permission ∈ user.effectivePermissions

instance (user : CurrentUser) (permission : String) : Decidable (user.HasPermission permission) :=
  inferInstanceAs (Decidable (_ ∨ _))

def machinePermissions : List String := ["jobs.read","reports.read"]

def automationPlanCapabilities : List String :=
  ["build.read","build.execute","build.cancel","devices.read","devices.lease","devices.use_leased","tests.execute","tests.cancel",
    "firmware.stage"]

def skipsFlash (plan : Json.Value) : Bool :=
  match (plan.get "flash").bind fun flash => flash.get "mode" with
  | some (.string mode) => mode == "skip"
  | _ => false

def hasBuild (plan : Json.Value) : Bool := (plan.get "build").any Json.Value.isObject

def requiredCapabilities (plan : Json.Value) : List String :=
  let granted := (if skipsFlash plan then [] else ["firmware.stage"]) ++
    (if hasBuild plan then ["build.execute","build.cancel","build.read"] else []) ++
    ["devices.lease","devices.read","devices.use_leased","tests.execute","tests.cancel"]
  automationPlanCapabilities.filter (· ∈ granted)

def automationGrantedCapabilities (principal : Option CurrentUser) (plan : Json.Value) : Except String (List String) :=
  match principal with
  | none => .ok []
  | some principal =>
    let missing := (requiredCapabilities plan).filter fun name => ¬ principal.HasPermission name
    if missing ≠ [] then
      .error ("Automation plan requires capabilities the caller does not hold: " ++ ", ".intercalate (sorted (fromkeys missing)))
    else .ok (requiredCapabilities plan)

theorem automationGrantedCapabilities_ok {principal : CurrentUser} {plan : Json.Value} {granted : List String}
    (allowed : automationGrantedCapabilities (some principal) plan = .ok granted) :
    granted = requiredCapabilities plan ∧ ∀ name ∈ granted, principal.HasPermission name := by
  unfold automationGrantedCapabilities at allowed
  simp only at allowed
  split at allowed
  · cases allowed
  · rename_i none
    cases allowed
    refine ⟨rfl,fun name member => ?_⟩
    rw [not_not,List.filter_eq_nil_iff] at none
    simpa using none name member

theorem mem_requiredCapabilities {plan : Json.Value} {name : String} (member : name ∈ requiredCapabilities plan) :
    name ∈ automationPlanCapabilities := (List.mem_filter.mp member).1

def knownCapabilities : List String := automationPlanCapabilities ++ machinePermissions

/-- `automation_authority` with its capabilities as a list of names. -/
def automationAuthority (runId createdBy : String) (granted : List String) : CurrentUser :=
  CurrentUser.init
    {id := "automation:" ++ runId
     username := "automation:" ++ runId
     role := agentRole
     displayName := "Automation run " ++ runId
     extraPermissions := frozenset (granted.filter (· ∈ knownCapabilities) ++ machinePermissions)
     resourceOwnerId := createdBy}

def capabilityNames (granted : String) : List String := ((split ',' granted).map strip).filter (· ≠ "")

theorem mem_automationAuthority {runId createdBy name : String} {granted : List String} :
    name ∈ (automationAuthority runId createdBy granted).effectivePermissions ↔
      (name ∈ granted ∧ name ∈ knownCapabilities) ∨ name ∈ machinePermissions := by
  have role : rolePermissions agentRole = [] := by decide
  simp [automationAuthority,CurrentUser.init,CurrentUser.effectivePermissions,role]

theorem automationAuthority_has {runId createdBy name : String} {granted : List String}
    (has : (automationAuthority runId createdBy granted).HasPermission name) :
    (name ∈ granted ∧ name ∈ knownCapabilities) ∨ name ∈ machinePermissions := by
  rcases has with wildcard | listed
  · rw [mem_automationAuthority] at wildcard
    have known : "*" ∈ knownCapabilities ∨ "*" ∈ machinePermissions := wildcard.imp And.right id
    exact absurd known (by decide)
  · exact mem_automationAuthority.mp listed

theorem automationAuthority_again (runId createdBy : String) (granted : List String) :
    frozenset ((automationAuthority runId createdBy granted).extraPermissions.filter (· ∈ knownCapabilities) ++ machinePermissions) =
      (automationAuthority runId createdBy granted).extraPermissions := by
  apply frozenset_congr
  intro name
  have floor : name ∈ machinePermissions → name ∈ knownCapabilities := fun member => List.mem_append_right _ member
  simp only [automationAuthority,CurrentUser.init,List.mem_append,List.mem_filter,mem_frozenset,decide_eq_true_eq]
  tauto

end GmsRemoteTest.Auth
