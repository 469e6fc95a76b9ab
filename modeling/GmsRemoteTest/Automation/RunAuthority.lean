import GmsRemoteTest.Auth.CapabilityTokens

/-! The authority of a run: the capabilities it was created with, on every way one run comes from another,
and the principal its worker acts as. A run only ever carries capabilities that whoever created it, or
saved its plan, held then. -/
namespace GmsRemoteTest.Automation.Authority
open Text Auth

structure AuthorizedRun where
  id : String
  createdBy : String
  createdByUsername : String
  owner : String
  grantedCapabilities : String
  testPlan : Json.Value

def prepareRun (principal : Option CurrentUser) (createdBy runId owner : String) (plan sealedPlan : Json.Value) :
    Except String AuthorizedRun :=
  match automationGrantedCapabilities principal plan with
  | .error message => .error message
  | .ok granted => .ok
    {id := runId,createdBy,createdByUsername := (principal.map CurrentUser.username).getD "",owner,
      grantedCapabilities := join ',' granted,testPlan := sealedPlan}

def isHuman (principal : CurrentUser) : Bool :=
  principal.role != agentRole && principal.role != "agent" && !startsWith principalStart principal.id &&
    principal.id == principal.resourceOwnerId

def grantedNames (granted : String) : List String := (split ',' granted).filter (· ≠ "")

def authorize (resolve : String → Option CurrentUser) (run : AuthorizedRun) : Except String CurrentUser :=
  match resolve run.createdByUsername with
  | none => .error "Test plans require an authenticated human owner"
  | some principal =>
    if isHuman principal = false then .error "Test plans require an authenticated human owner"
    else if principal.resourceOwnerId ≠ run.createdBy then .error "Test plan owner is unavailable"
    else match automationGrantedCapabilities (some principal) run.testPlan with
    | .error message => .error message
    | .ok required =>
      if ∀ name ∈ required, name ∈ grantedNames run.grantedCapabilities then .ok principal
      else .error "Stored authorization does not cover the test plan"

def materializeRun (resolve : String → Option CurrentUser) (base : AuthorizedRun) (runId : String) (sealedPlan : Json.Value) :
    Except String AuthorizedRun :=
  match authorize resolve base with
  | .error message => .error message
  | .ok _ => .ok {base with id := runId,testPlan := sealedPlan}

def retryPlan (plan : Json.Value) (folder workerId : String) : Json.Value :=
  let fields := match plan with
    | .object fields => fields
    | _ => []
  let updated := Json.put "worker_id" (.string workerId) (Json.put "retry_dir" (.string folder)
    (Json.put "flash" (.object [("mode",.string "skip")]) fields))
  .object (updated.filter fun field => field.1 ∉ ["build","jenkins","test_module","test_case","modules"])

/-- The child of `_retry`, for a run whose outcome and retry context allow one. -/
def autoRetry (resolve : String → Option CurrentUser) (run : AuthorizedRun) (childId folder workerId : String) :
    Except String AuthorizedRun :=
  let plan := retryPlan run.testPlan folder workerId
  match authorize resolve {run with testPlan := plan} with
  | .error message => .error message
  | .ok principal => match automationGrantedCapabilities (some principal) plan with
    | .error message => .error message
    | .ok capabilities => .ok
      {id := childId,createdBy := run.createdBy,createdByUsername := run.createdByUsername,owner := "",
        grantedCapabilities := join ',' capabilities,testPlan := plan}

def retryRun (old : AuthorizedRun) (runId : String) : AuthorizedRun := {old with id := runId}

def runAuthority (run : AuthorizedRun) : CurrentUser :=
  automationAuthority run.id (orElse run.createdBy run.owner) (capabilityNames run.grantedCapabilities)

/-- The runs that come from what `p` created or saved: a run or a saved step, a step that is materialized,
automatic and manual retries, and runs whose plan a stage has rewritten. -/
inductive Derived (p : CurrentUser) : AuthorizedRun → Prop
  | create {createdBy runId owner : String} {plan sealedPlan : Json.Value} {run : AuthorizedRun}
      (prepared : prepareRun (some p) createdBy runId owner plan sealedPlan = .ok run) : Derived p run
  | materialize {base run : AuthorizedRun} (saved : Derived p base) {resolve : String → Option CurrentUser} {runId : String}
      {sealedPlan : Json.Value} (started : materializeRun resolve base runId sealedPlan = .ok run) : Derived p run
  | rewrite {run : AuthorizedRun} (earlier : Derived p run) (plan : Json.Value) : Derived p {run with testPlan := plan}
  | autoRetry {run child : AuthorizedRun} (earlier : Derived p run) {resolve : String → Option CurrentUser}
      {childId folder workerId : String} (retried : autoRetry resolve run childId folder workerId = .ok child) : Derived p child
  | manualRetry {run : AuthorizedRun} (earlier : Derived p run) (runId : String) : Derived p (retryRun run runId)

theorem capabilities_clean : ∀ name ∈ automationPlanCapabilities, name ≠ "" ∧ strip name = name ∧ ',' ∉ name.toList := by
  decide +kernel

theorem split_capabilities {names : List String} (known : ∀ name ∈ names, name ∈ automationPlanCapabilities) {name : String}
    (member : name ∈ split ',' (join ',' names)) (nonempty : name ≠ "") : name ∈ names := by
  cases names with
  | nil =>
    rw [join_nil,split_empty,List.mem_singleton] at member
    exact absurd member nonempty
  | cons first names =>
    rwa [split_join (fun part listed => (capabilities_clean part (known part listed)).2.2) (List.cons_ne_nil first names)] at member

def Held (p : CurrentUser) (granted : String) : Prop :=
  ∀ name ∈ grantedNames granted, p.HasPermission name ∧ strip name = name

theorem Held.join {p : CurrentUser} {names : List String} (known : ∀ name ∈ names, name ∈ automationPlanCapabilities)
    (held : ∀ name ∈ names, p.HasPermission name) : Held p (join ',' names) := by
  intro name member
  obtain ⟨piece,nonempty⟩ := List.mem_filter.mp member
  have listed := split_capabilities known piece (by simpa using nonempty)
  exact ⟨held name listed,(capabilities_clean name (known name listed)).2.1⟩

theorem capabilityNames_granted {granted name : String} (stripped : ∀ name ∈ grantedNames granted, strip name = name)
    (member : name ∈ capabilityNames granted) : name ∈ grantedNames granted := by
  obtain ⟨listed,nonempty⟩ := List.mem_filter.mp member
  obtain ⟨piece,inside,rfl⟩ := List.mem_map.mp listed
  have visible : piece ≠ "" := by
    rintro rfl
    exact absurd nonempty (by decide)
  have present : piece ∈ grantedNames granted := List.mem_filter.mpr ⟨inside,by simpa using visible⟩
  rw [stripped piece present]
  exact present

theorem authorize_covers {resolve : String → Option CurrentUser} {run : AuthorizedRun} {principal : CurrentUser}
    (allowed : authorize resolve run = .ok principal) {required : List String}
    (compiled : automationGrantedCapabilities (some principal) run.testPlan = .ok required) :
    ∀ name ∈ required, name ∈ grantedNames run.grantedCapabilities := by
  unfold authorize at allowed
  split at allowed
  · cases allowed
  · split at allowed
    · cases allowed
    · split at allowed
      · cases allowed
      · split at allowed
        · cases allowed
        · rename_i known
          split at allowed
          · rename_i covered
            cases allowed
            rw [compiled] at known
            cases known
            exact covered
          · cases allowed

section
variable {resolve : String → Option CurrentUser} {run child : AuthorizedRun} {childId folder workerId : String}
  (retried : autoRetry resolve run childId folder workerId = .ok child)
include retried

theorem autoRetry_grants :
    ∃ capabilities, child.grantedCapabilities = join ',' capabilities ∧
      (∀ name ∈ capabilities, name ∈ automationPlanCapabilities ∧ name ∈ grantedNames run.grantedCapabilities) := by
  unfold autoRetry at retried
  simp only at retried
  split at retried
  · cases retried
  · rename_i principal allowed
    split at retried
    · cases retried
    · rename_i capabilities compiled
      cases retried
      refine ⟨capabilities,rfl,fun name member => ⟨?_,authorize_covers allowed compiled name member⟩⟩
      rw [(automationGrantedCapabilities_ok compiled).1] at member
      exact mem_requiredCapabilities member

theorem autoRetry_subset {name : String}
    (member : name ∈ capabilityNames child.grantedCapabilities) : name ∈ capabilityNames run.grantedCapabilities := by
  obtain ⟨capabilities,column,known⟩ := autoRetry_grants retried
  rw [column] at member
  obtain ⟨listed,nonempty⟩ := List.mem_filter.mp member
  obtain ⟨piece,inside,rfl⟩ := List.mem_map.mp listed
  have visible : piece ≠ "" := by
    rintro rfl
    exact absurd nonempty (by decide)
  have carried := known piece (split_capabilities (fun name inside => (known name inside).1) inside visible)
  have unchanged := (capabilities_clean piece carried.1).2.1
  refine List.mem_filter.mpr ⟨List.mem_map.mpr ⟨piece,(List.mem_filter.mp carried.2).1,rfl⟩,nonempty⟩

end

theorem Derived.held {p : CurrentUser} {run : AuthorizedRun} (derived : Derived p run) : Held p run.grantedCapabilities := by
  induction derived with
  | create prepared =>
    unfold prepareRun at prepared
    split at prepared
    · cases prepared
    · rename_i granted compiled
      cases prepared
      obtain ⟨shape,held⟩ := automationGrantedCapabilities_ok compiled
      exact Held.join (fun name member => mem_requiredCapabilities (shape ▸ member)) held
  | materialize _ started ih =>
    unfold materializeRun at started
    split at started
    · cases started
    · cases started
      exact ih
  | rewrite _ _ ih => exact ih
  | autoRetry _ retried ih =>
    obtain ⟨capabilities,column,known⟩ := autoRetry_grants retried
    rw [column]
    exact Held.join (fun name member => (known name member).1) fun name member => (ih name (known name member).2).1
  | manualRetry _ _ ih => exact ih

theorem Derived.authority {p : CurrentUser} {run : AuthorizedRun} (derived : Derived p run) {name : String}
    (has : name ∈ (runAuthority run).effectivePermissions) : name ∈ machinePermissions ∨ p.HasPermission name := by
  rcases mem_automationAuthority.mp has with ⟨granted,_⟩ | floor
  · have held := derived.held
    exact .inr (held name (capabilityNames_granted (fun name member => (held name member).2) granted)).1
  · exact .inl floor

/-- For every run that comes from what `p` created or saved, the principal of its token has no permission beyond the fixed floor
and what `p` held; an automatic retry carries no more than its parent; and a machine principal is read back as it was, whatever
its names are made of. -/
theorem run_authority_bounded (mac : List UInt8 → List UInt8) :
    (∀ (p : CurrentUser) (run : AuthorizedRun), Derived p run → ∀ now ttlSeconds nonce token,
      mintCapabilityToken mac (runAuthority run) now ttlSeconds nonce = .ok token → ∀ later q,
        verifyCapabilityToken mac token later = .ok (some q) →
          ∀ name, q.HasPermission name → name ∈ machinePermissions ∨ p.HasPermission name) ∧
      (∀ resolve run childId folder workerId child, autoRetry resolve run childId folder workerId = .ok child →
        ∀ name ∈ capabilityNames child.grantedCapabilities, name ∈ capabilityNames run.grantedCapabilities) ∧
      (∀ runId owner granted now ttlSeconds nonce, ∃ token,
        mintCapabilityToken mac (automationAuthority runId owner granted) now ttlSeconds nonce = .ok token ∧
          ∀ later ≤ expiry now ttlSeconds, verifyCapabilityToken mac token later = .ok (some (automationAuthority runId owner granted))) := by
  refine ⟨?_,fun _ _ _ _ _ _ retried _ member => autoRetry_subset retried member,?_⟩
  · intro p run derived now ttlSeconds nonce token minted later q verified name has
    have read := verify_mint _ _ _ mac minted later
    rw [verified] at read
    split at read
    · cases read
      exact derived.authority (mem_automationAuthority.mpr (automationAuthority_has has))
    · cases read
  · intro runId owner granted now ttlSeconds nonce
    refine ⟨_,mint_authority runId owner granted mac now ttlSeconds nonce,fun later early => ?_⟩
    rw [verify_mint runId owner granted mac (mint_authority runId owner granted mac now ttlSeconds nonce) later,if_pos early]

def operator : CurrentUser where
  id := "müller@x.y"
  username := "op"
  role := "device_operator"
  resourceOwnerId := "müller@x.y"

def operatorRun : AuthorizedRun where
  id := "ats_1"
  createdBy := "müller@x.y"
  createdByUsername := "op"
  owner := ""
  grantedCapabilities := "devices.read,devices.lease,devices.use_leased,tests.execute,tests.cancel"
  testPlan := .object [("test_type",.string "CTS"),("flash",.object [("mode",.string "skip")])]

def operatorChild : AuthorizedRun :=
  {operatorRun with id := "ats_0a.b:c",testPlan := retryPlan operatorRun.testPlan "2024.01.01_00.00.00" "w1"}

def operatorMac (_ : List UInt8) : List UInt8 :=
  [12,113,75,93,206,182,163,7,109,27,253,102,6,157,244,50,220,185,68,5,145,227,19,193,202,31,156,110,182,22,237,113]

theorem run_authority_bounded_retried :
    (∀ name ∈ capabilityNames operatorChild.grantedCapabilities, name ∈ capabilityNames operatorRun.grantedCapabilities) ∧
      ∃ token, mintCapabilityToken operatorMac (runAuthority operatorChild) 1700000000 7200 "0011223344556677" = .ok token ∧
        verifyCapabilityToken operatorMac token 1700007200 = .ok (some (runAuthority operatorChild)) ∧
        ∀ name, (runAuthority operatorChild).HasPermission name → name ∈ machinePermissions ∨ operator.HasPermission name := by
  obtain ⟨bound,within,read⟩ := run_authority_bounded operatorMac
  have prepared : prepareRun (some operator) operator.resourceOwnerId "ats_1" "" operatorRun.testPlan operatorRun.testPlan = .ok operatorRun := rfl
  have created : Derived operator operatorRun := .create prepared
  have retried : autoRetry (fun _ => some operator) operatorRun "ats_0a.b:c" "2024.01.01_00.00.00" "w1" = .ok operatorChild := rfl
  obtain ⟨token,minted,later⟩ := read "ats_0a.b:c" operator.id (capabilityNames operatorChild.grantedCapabilities)
    1700000000 7200 "0011223344556677"
  have verified := later 1700007200 (by decide)
  exact ⟨within _ _ _ _ _ _ retried,token,minted,verified,bound operator operatorChild (created.autoRetry retried) _ _ _ _ minted _ _ verified⟩

end GmsRemoteTest.Automation.Authority
