import GmsRemoteTest.Cluster.ReservationClaims
import GmsRemoteTest.Automation.Orchestrator

/-! The calls of the HTTP executor that touch device reservations, on the cluster database. Every
transaction of a call is one step, and so is what the rest of the call learns elsewhere. -/
namespace GmsRemoteTest.Automation
open Text Cluster DeviceClaims

def getReservationBySource (state : State) (sourceId : String) (now : Nat) : Option ReservationPayload × State :=
  if sourceId = "" then (none,state)
  else
    let expired := expireDeviceReservations state now
    let rows := Table.select (fun item => item.sourceId = sourceId ∧ item.status = .active) expired.db.reservations
    match (rows.insertionSort fun first second => second.acquiredAt ≤ first.acquiredAt).head? with
    | none => (none,expired)
    | some row => (reservationPayload expired.db row.reservationId,expired)

/-- What `start_test` sends; the fingerprint of the job request covers all of it. -/
structure TestRequest where
  workerId : String
  testSuite : String
  devices : List String
  deviceReservationId : String
  buildId : String
  buildArtifactId : String
deriving DecidableEq, Repr

def testRequest (run : AutomationRun) : TestRequest :=
  ⟨run.workerId,run.testSuite,run.devices,run.deviceReservationId,run.jenkinsBuildNumber,run.buildArtifactId⟩

inductive ClusterChange
  | others (db : Db) (claims : Registry)
  | expire (now : Nat)
  | createJob (data : JobCreate) (request : TestRequest) (now : Nat)

/-- What a step of a call learns: the clock, the answer of the service it asks (`none` raises), whether its checks refuse, whether
the database raises, the devices it chose and the job it creates. -/
structure DeviceInput where
  now : Nat := 0
  answer : Option Answer := none
  refuses : Bool := false
  raises : Bool := false
  request : Option ReservationRequest := none
  job : Option JobCreate := none
  change : ClusterChange := .expire 0

inductive DeviceCall
  | asking
  | looking
  | renewing (reservation : ReservationPayload)
  | choosing
  | flashing
  | starting
  | cancelling
  | releasing
deriving DecidableEq, Repr

def Answer.refused (answer : Answer) : Answer := {answer with success := .unset}

def DeviceInput.failure (input : DeviceInput) : Answer := (input.answer.getD {}).refused

section
variable (settings : Settings) (fingerprint : TestRequest → String)

def reservationTtl : Int := 6*60*60

def renewSelected (reservation : ReservationPayload) (input : DeviceInput) (env : State) : State × (DeviceCall ⊕ Option Answer) :=
  if input.refuses then (env,.inr (some input.failure))
  else
    let renewed := renewReservation env reservation.id reservationTtl input.now
    match renewed.1 with
    | .error _ => (renewed.2,.inr (some input.failure))
    | .ok _ =>
      if input.raises then (renewed.2,.inr (some input.failure))
      else
        (renewed.2,.inr (some {input.answer.getD {} with
          success := .yes
          workerId := some reservation.workerId
          reservationId := some reservation.id
          devices := reservation.devices}))

def reserveSelected (run : AutomationRun) (input : DeviceInput) (env : State) : State × (DeviceCall ⊕ Option Answer) :=
  match input.refuses, input.request with
  | false, some chosen =>
    let request := {chosen with
      sourceId := run.id
      ownerId := orElse run.createdBy (orElse run.owner "automation")
      ttlSeconds := reservationTtl}
    let reserved := reserveDevices env request input.now
    match reserved.1 with
    | .ok (some reservation) =>
      (reserved.2,.inr (some {input.answer.getD {} with
        success := .yes
        workerId := some request.workerId
        reservationId := some reservation.id
        devices := fromkeys (request.devices.map (qualified request.workerId))}))
    | _ => (reserved.2,.inr (some input.failure))
  | _, _ => (env,.inr (some input.failure))

def releaseSelected (run : AutomationRun) (input : DeviceInput) (env : State) : State × (DeviceCall ⊕ Option Answer) :=
  if run.deviceReservationId = "" then (env,.inr (some {success := .yes}))
  else if input.raises then (env,.inr none)
  else ((releaseReservation env run.deviceReservationId .cancelled input.now).2,.inr (some {success := .yes}))

def flashSelected (run : AutomationRun) (input : DeviceInput) (env : State) : State × (DeviceCall ⊕ Option Answer) :=
  if run.testPlan.flashMode = "skip" then (env,.inr (some {success := .yes}))
  else if run.devices.length ≠ 1 then
    (env,.inr (some {error := some "ATS firmware flash requires exactly one reserved device"}))
  else if run.deviceReservationId = "" then (env,.inr (some {error := some "ATS device reservation is missing"}))
  else
    let renewed := renewReservation env run.deviceReservationId reservationTtl input.now
    match renewed.1 with
    | .error error => (renewed.2,.inr (some {error := some ("failed to renew device reservation: " ++ error.text)}))
    | .ok false => (renewed.2,.inr (some {error := some "ATS device reservation expired before flash"}))
    | .ok true => (renewed.2,.inl .asking)

def startRefused (db : Db) (run : AutomationRun) (ownerId : String) : Prop :=
  run.deviceReservationId ≠ "" ∧ ∀ reservation, reservationPayload db run.deviceReservationId = some reservation →
    reservation.ownerId ≠ ownerId ∨ reservation.sourceId ≠ run.id

instance (db : Db) (run : AutomationRun) (ownerId : String) : Decidable (startRefused db run ownerId) := by
  unfold startRefused
  cases reservationPayload db run.deviceReservationId with
  | none => exact decidable_of_iff (run.deviceReservationId ≠ "") (by simp)
  | some reservation =>
    exact decidable_of_iff (run.deviceReservationId ≠ "" ∧ (reservation.ownerId ≠ ownerId ∨ reservation.sourceId ≠ run.id)) (by simp)

/-- `start_test` with the request the Controller serves it by: the job of an earlier request is found by its receipt, else it is
created, which converts the reservation. -/
def startSelected (run : AutomationRun) (input : DeviceInput) (env : State) : State × (DeviceCall ⊕ Option Answer) :=
  let ownerId := orElse run.createdBy run.owner
  match input.refuses, input.job with
  | false, some job =>
    if startRefused env.db run ownerId then (env,.inr none) else
    match Table.fetch (fun receipt : Receipt => receipt.ownerId = ownerId ∧ receipt.requestKey = run.id) env.db.receipts with
    | some receipt =>
      if receipt.requestHash = fingerprint (testRequest run) then
        (env,.inr (some {input.answer.getD {} with success := .yes, running := .yes, clusterJobId := some receipt.jobId}))
      else (env,.inr none)
    | none =>
      let data := {job with
        workerId := run.workerId
        devices := run.devices
        ownerId := ownerId
        deviceReservationId := run.deviceReservationId
        automationRunId := run.id
        idempotencyKey := run.id
        requestHash := fingerprint (testRequest run)}
      let created := createJobWithLeases settings env data input.now
      match created.1 with
      | .error _ => (created.2,.inr none)
      | .ok _ =>
        -- the command of the job is written in a transaction of its own
        if input.raises then (created.2,.inr none)
        else
          (created.2,.inr (some {input.answer.getD {} with
            success := .yes
            running := .yes
            clusterJobId := some data.jobId
            attemptId := some data.attemptId}))
  | _, _ => (env,.inr (input.answer.map Answer.refused))

def cancelSelected (run : AutomationRun) (input : DeviceInput) (env : State) : State × (DeviceCall ⊕ Option Answer) :=
  match run.status with
  | .flashing | .aoaRecovering =>
    (env,.inr (some {error := some "Device recovery cannot be interrupted safely; wait for the active command to finish"}))
  | .testing | .testRunning | .jenkinsQueued | .jenkinsBuilding => match input.answer with
    | none => (env,.inr none)
    | some answer => (env,if answer.success.holds then .inl .releasing else .inr (some answer))
  | _ => (env,.inl .releasing)

def deviceProceed (run : AutomationRun) : DeviceCall → DeviceInput → State → State × (DeviceCall ⊕ Option Answer)
  | .asking, input, env => (env,.inr input.answer)
  | .looking, input, env =>
    let found := getReservationBySource env run.id input.now
    (found.2,.inl (match found.1 with
      | none => .choosing
      | some reservation => .renewing reservation))
  | .renewing reservation, input, env => renewSelected reservation input env
  | .choosing, input, env => reserveSelected run input env
  | .flashing, input, env => flashSelected run input env
  | .starting, input, env => startSelected settings fingerprint run input env
  | .cancelling, input, env => cancelSelected run input env
  | .releasing, input, env => releaseSelected run input env

def clusterChange (env : State) : ClusterChange → State
  | .others db claims => ⟨{db with reservations := env.db.reservations, receipts := env.db.receipts},claims⟩
  | .expire now => expireDeviceReservations env now
  | .createJob data request now =>
    (createJobWithLeases settings env {data with
      deviceReservationId := request.deviceReservationId
      requestHash := fingerprint request} now).2

def httpExecutor : Executor State DeviceCall DeviceInput where
  start := fun call _ => match call with
    | .selectDevices => .looking
    | .flash => .flashing
    | .startTest => .starting
    | .cancel => .cancelling
    | .releaseResources => .releasing
    | _ => .asking
  proceed := fun _ run => deviceProceed settings fingerprint run
  aoaEnabled := fun run => run.testPlan.aoaMode = "user_build_recovery"
  outside := fun input env => clusterChange settings fingerprint env input.change

end

def DeviceCall.fits (call : ExecutorCall) : DeviceCall → Prop
  | .asking => call ≠ .selectDevices ∧ call ≠ .startTest ∧ call ≠ .cancel ∧ call ≠ .releaseResources
  | .looking | .renewing _ | .choosing => call = .selectDevices
  | .flashing => call = .flash
  | .starting => call = .startTest
  | .cancelling => call = .cancel
  | .releasing => call = .cancel ∨ call = .releaseResources

section
variable {settings : Settings} {fingerprint : TestRequest → String}

theorem start_fits (call : ExecutorCall) (run : AutomationRun) : ((httpExecutor settings fingerprint).start call run).fits call := by
  cases call <;> simp [httpExecutor,DeviceCall.fits]

theorem deviceProceed_fits {call : ExecutorCall} {state : DeviceCall} (fits : state.fits call) {run : AutomationRun}
    {input : DeviceInput} {env : State} {next : DeviceCall}
    (goes : (deviceProceed settings fingerprint run state input env).2 = .inl next) : next.fits call := by
  cases state <;> simp only [deviceProceed] at goes
  case asking => cases goes
  case looking =>
    cases goes
    split <;> exact fits
  case renewing reservation =>
    unfold renewSelected at goes
    dsimp only at goes
    repeat' (split at goes)
    all_goals cases goes
  case choosing =>
    unfold reserveSelected at goes
    dsimp only at goes
    repeat' (split at goes)
    all_goals cases goes
  case flashing =>
    have flash : call = .flash := fits
    unfold flashSelected at goes
    dsimp only at goes
    repeat' (split at goes)
    all_goals first
      | cases goes; subst flash; simp [DeviceCall.fits]
      | cases goes
  case starting =>
    unfold startSelected at goes
    dsimp only at goes
    repeat' (split at goes)
    all_goals cases goes
  case cancelling =>
    have cancel : call = .cancel := fits
    unfold cancelSelected at goes
    repeat' (split at goes)
    all_goals first
      | cases goes; exact .inl cancel
      | cases goes
  case releasing =>
    unfold releaseSelected at goes
    repeat' (split at goes)
    all_goals cases goes

def Phase.fits : Phase DeviceCall → Prop
  | .calling _ call _ state => state.fits call
  | _ => True

theorem fits_calls (run : AutomationRun) (call : ExecutorCall) (purpose : Purpose) :
    (calls (httpExecutor settings fingerprint) run call purpose).fits := start_fits call (purpose.argument run)

theorem fits_reporting (run : AutomationRun) (target : RunStatus) (error : String) (reconcile : Bool) (now : String) :
    (reporting (httpExecutor settings fingerprint) run target error reconcile now).fits := by
  unfold reporting
  split
  · trivial
  · exact fits_calls ..

theorem fits_afterAnswer (run : AutomationRun) (call : ExecutorCall) (now : String) (purpose : Purpose) (answer : Option Answer) :
    (afterAnswer (httpExecutor settings fingerprint) run call now purpose answer).fits := by
  unfold afterAnswer
  repeat' split
  all_goals first
    | trivial
    | exact fits_reporting ..

theorem fits_proceed {phase : Phase DeviceCall} (fits : phase.fits) (owner : String) (input : DeviceInput) (now expiry : String)
    (shared : Shared State) : (proceed (httpExecutor settings fingerprint) owner input now expiry shared phase).2.fits := by
  cases phase with
  | idle | swapping _ _ _ _ | leaving _ => trivial
  | found id task =>
    simp only [proceed]
    split <;> trivial
  | claimed id task =>
    simp only [proceed]
    split
    · trivial
    · dsimp only
      split
      · trivial
      · unfold begin
        cases task with
        | advance =>
          dsimp only
          split
          · trivial
          · trivial
          · exact fits_calls ..
        | cancel cleanup => exact fits_calls ..
  | calling run call purpose state =>
    simp only [proceed]
    split
    · rename_i next goes
      exact deviceProceed_fits fits goes
    · exact fits_afterAnswer ..
  | moving run target columns =>
    simp only [proceed]
    split <;> trivial
  | failing run target error reconcile =>
    simp only [proceed]
    repeat' split
    · trivial
    · exact fits_reporting ..
    · exact fits_calls ..

theorem fits_step {world : World State DeviceCall} (fits : ∀ caller, (world.phases caller).fits) (owner : String → String)
    (op : PipelineOp DeviceInput) (other : String) :
    ((pipelineStep (httpExecutor settings fingerprint) owner op world).phases other).fits := by
  have updated : ∀ caller (phase : Phase DeviceCall), phase.fits → (Function.update world.phases caller phase other).fits := by
    intro caller phase next
    by_cases same : other = caller
    · subst same
      simpa using next
    · rw [Function.update_of_ne same]
      exact fits other
  have opened : ∀ caller (next : Shared State × Phase DeviceCall), next.2.fits → ((opens world caller next).phases other).fits := by
    intro caller next free
    unfold opens
    split
    · exact updated caller next.2 free
    · exact fits other
  have found : ∀ id task, (lookUp world.runs id task : Phase DeviceCall).fits := by
    intro id task
    unfold lookUp
    repeat' split
    all_goals trivial
  cases op with
  | createRun request id now => exact fits other
  | advanceNext caller now expiry =>
    refine opened caller _ ?_
    dsimp only
    split <;> trivial
  | advanceRun caller id => exact opened caller _ (found ..)
  | cancelRun caller id cleanup => exact opened caller _ (found ..)
  | go caller input now expiry => exact updated caller _ (fits_proceed (fits caller) ..)
  | renewClaim caller id expiry => exact fits other
  | stopBatch batchId now => exact fits other
  | crash caller => exact updated caller .idle trivial
  | outside input => exact fits other

end

end GmsRemoteTest.Automation
