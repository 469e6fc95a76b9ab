import GmsRemoteTest.Lib.Sections
import GmsRemoteTest.Cluster.JobRequests
import GmsRemoteTest.Cluster.StartCommands

/-! Any number of submissions at once, among everything else the Controller does. A keyed submission holds
the file lock of its stripe from its search to its reply or its death, and a receipt is committed with
its job. So a key has one job, and no other submission starts the job a replay has read. -/
namespace GmsRemoteTest.Cluster
open DeviceClaims Text JobStatus

structure Handler where
  submission : Submission
  phase : Phase := .arriving

structure Creation where
  ownerId : String
  key : String
  jobId : String
deriving DecidableEq, Repr

structure Web where
  state : State := {}
  handlers : List Handler := []
  created : List Creation := []

inductive WebOp
  | submit (submission : Submission)
  | run (index : Nat) (draw : Draw)
  | die (index : Nat)
  -- Whatever the Controller does beside these submissions.
  | other (op : Op)

def Phase.inside : Phase → Bool
  | .arriving | .ended _ => false
  | _ => true

/-- The locked stripe; `stripe` is the digest of owner and key modulo `JOB_REQUEST_LOCK_STRIPES`. -/
def Handler.lock (stripe : String → String → Nat) (handler : Handler) : Option Nat :=
  if handler.phase.inside then handler.submission.key.map (stripe handler.submission.ownerId) else none

def Web.busy (stripe : String → String → Nat) (web : Web) (submission : Submission) : Bool :=
  submission.key.any fun key => web.handlers.any fun other => other.lock stripe = some (stripe submission.ownerId key)

def born (before after : Db) : List String := (after.jobs.map (·.id)).filter (· ∉ before.jobs.map (·.id))

def Submission.creation (submission : Submission) (jobId : String) : Creation :=
  ⟨submission.ownerId,submission.key.getD "",jobId⟩

def Web.step (settings : Settings) (stripe : String → String → Nat) : WebOp → Web → Web
  | .submit submission, web => {web with handlers := web.handlers++[{submission := submission}]}
  | .run index draw, web =>
    match web.handlers[index]? with
    | none => web
    | some handler =>
      let submission := handler.submission
      let next := advance settings submission draw (web.busy stripe submission) handler.phase web.state
      ⟨next.2,web.handlers.set index ⟨submission,next.1⟩,
        web.created++(born web.state.db next.2.db).map submission.creation⟩
  | .die index, web =>
    match web.handlers[index]? with
    | none => web
    | some handler => {web with handlers := web.handlers.set index ⟨handler.submission,.ended .died⟩}
  | .other op, web => {web with state := apply settings op web.state}

def Handler.drawn (handler : Handler) : Option String :=
  match handler.phase with
  | .claimed data _ => some data.jobId
  | _ => none

/-- No uuid is drawn for two jobs, and the jobs of keys are created and started by their submissions alone. -/
def Web.considerate (web : Web) : WebOp → Prop
  | .run index _ => ∀ creation ∈ web.created, web.handlers[index]?.bind Handler.drawn ≠ some creation.jobId
  | .other (.createJobWithLeases data _) => data.idempotencyKey = ""
  | .other (.createCommand data attachToJob _) => Dispatched data attachToJob ∧
    (data.commandType = .startTest → ∀ receipt ∈ web.state.db.receipts, receipt.jobId ≠ data.jobId)
  | _ => True

instance (web : Web) : DecidablePred web.considerate
  | .run index _ =>
    inferInstanceAs (Decidable (∀ creation ∈ web.created, web.handlers[index]?.bind Handler.drawn ≠ some creation.jobId))
  | .other (.createJobWithLeases data _) => inferInstanceAs (Decidable (data.idempotencyKey = ""))
  | .other (.createCommand data attachToJob _) => inferInstanceAs (Decidable (Dispatched data attachToJob ∧
    (data.commandType = .startTest → ∀ receipt ∈ web.state.db.receipts, receipt.jobId ≠ data.jobId)))
  | .submit _ | .die _ | .other (.registerWorker ..) | .other (.heartbeat ..) | .other (.markWorkerOffline ..)
  | .other (.pollCommands ..) | .other (.ackCommand ..) | .other (.syncJobFromCommand ..)
  | .other (.compensateFailedDispatch ..) | .other (.failAbandonedWorkerLostJobs ..) | .other (.transitionJob ..)
  | .other (.deleteJob ..) | .other (.reconcileClaims ..) | .other (.reserveDevices ..) | .other (.renewReservation ..)
  | .other (.releaseReservation ..) | .other (.acquireDeviceOperationClaim ..) | .other (.registry ..) =>
    inferInstanceAs (Decidable True)

def Entitled (submission : Submission) (db : Db) : Prop :=
  ∀ key, submission.key = some key → key ≠ "" ∧ ∀ receipt ∈ db.receipts, receipt.ownerId = submission.ownerId →
    receipt.requestKey = key → receipt.requestHash = submission.fingerprint

structure Works (submission : Submission) (db : Db) (created : List Creation) (jobId : String) : Prop where
  entitled : Entitled submission db
  mine : submission.creation jobId ∈ created

/-- What a submission knows in each phase. A start that exists already is not attached again: the job
was read as assigned under the lock, and it has no start then. -/
def Phase.Kept (submission : Submission) (db : Db) (created : List Creation) : Phase → Prop
  | .arriving | .ended _ => True
  | .searching => ∃ key, submission.key = some key ∧ key ≠ ""
  | .reading jobId => Works submission db created jobId ∧ submission.key ≠ none
  | .creating | .returning .. | .freeing .. => Entitled submission db
  | .claimed data _ => Entitled submission db ∧ ∃ drawn, data = submission.data drawn
  | .created jobId => Works submission db created jobId
  | .dispatching record cause => Works submission db created record.job.id ∧ record.job.currentAttemptId ≠ "" ∧
    (cause ≠ .submission → submission.key ≠ none)
  | .replaying record => Works submission db created record.job.id ∧ submission.key ≠ none ∧ record.job.currentAttemptId ≠ "" ∧
    (record.job.status = .assigned → Unstarted record.job.id db.core)
  | .fencing record row _ _ => Works submission db created record.job.id ∧ submission.key ≠ none ∧
    record.job.currentAttemptId ≠ "" ∧ row = none
  | .looking .. | .attaching .. | .syncing .. | .writing .. => False
  | .compensating record _ cause => Works submission db created record.job.id ∧ (cause ≠ .submission → submission.key ≠ none)
  | .rereading record => Works submission db created record.job.id ∧ submission.key ≠ none

structure KeyLedger (db : Db) (created : List Creation) : Prop where
  linked : Linked db.core
  started : StartsAttached db.core
  receipts : (db.receipts.map fun receipt => (receipt.ownerId,receipt.requestKey)).Nodup
  logged : ∀ receipt ∈ db.receipts, receipt.requestKey ≠ "" ∧ ⟨receipt.ownerId,receipt.requestKey,receipt.jobId⟩ ∈ created
  received : ∀ creation ∈ created, creation.key ≠ "" → ∃ receipt ∈ db.receipts,
    receipt.ownerId = creation.ownerId ∧ receipt.requestKey = creation.key ∧ receipt.jobId = creation.jobId
  ids : (created.map (·.jobId)).Nodup

structure Web.Kept (stripe : String → String → Nat) (web : Web) : Prop where
  ledger : KeyLedger web.state.db web.created
  exclusive : Sections.Exclusive (Handler.lock stripe) web.handlers
  handlers : ∀ handler ∈ web.handlers, handler.phase.Kept handler.submission web.state.db web.created

section
variable {settings : Settings} {submission : Submission} {created : List Creation}

theorem KeyLedger.single {db : Db} (ledger : KeyLedger db created) {first second : Creation} (left : first ∈ created) (right : second ∈ created)
    (owner : first.ownerId = second.ownerId) (key : first.key = second.key) (keyed : first.key ≠ "") : first = second := by
  obtain ⟨receipt,member,owned,named,job⟩ := ledger.received first left keyed
  obtain ⟨other,present,belongs,called,row⟩ := ledger.received second right (by rw [← key]; exact keyed)
  have same : receipt = other := Table.eq_of_key ledger.receipts member present (by rw [owned,named,belongs,called,owner,key])
  exact Table.eq_of_key ledger.ids left right (by rw [← job,← row,same])

theorem KeyLedger.count {db : Db} (ledger : KeyLedger db created) (ownerId key : String) (keyed : key ≠ "") :
    (created.filter fun creation => creation.ownerId = ownerId ∧ creation.key = key).length ≤ 1 := by
  have distinct : (created.filter fun creation => creation.ownerId = ownerId ∧ creation.key = key).Nodup :=
    (List.Nodup.of_map _ ledger.ids).filter _
  generalize selected : created.filter (fun creation => decide (creation.ownerId = ownerId ∧ creation.key = key)) = jobs at distinct
  have each : ∀ creation ∈ jobs, creation ∈ created ∧ creation.ownerId = ownerId ∧ creation.key = key := by
    intro creation member
    rw [← selected] at member
    simpa using member
  match jobs, each, distinct with
  | [], _, _ => simp
  | [_], _, _ => simp
  | first :: second :: _, each, distinct =>
    obtain ⟨left,owner,named⟩ := each first (by simp)
    obtain ⟨right,owned,called⟩ := each second (by simp)
    have same := ledger.single left right (owner.trans owned.symm) (named.trans called.symm) (by rw [named]; exact keyed)
    simp [same] at distinct

theorem validKey_nonempty {key : String} (valid : validKey key = true) : key ≠ "" := by
  rintro rfl
  simp [validKey] at valid

theorem findReceipt_none {db : Db} {ownerId key fingerprint : String} (found : findReceipt db ownerId key fingerprint = .ok none) :
    ∀ receipt ∈ db.receipts, ¬ (receipt.ownerId = ownerId ∧ receipt.requestKey = key) := by
  unfold findReceipt at found
  split at found
  · rename_i absent
    exact Table.fetch_none.mp absent
  · split at found
    · cases found
    · cases found

theorem findReceipt_some {db : Db} {ownerId key fingerprint jobId : String} (found : findReceipt db ownerId key fingerprint = .ok (some jobId)) :
    ∃ receipt ∈ db.receipts, receipt = ⟨ownerId,key,fingerprint,jobId⟩ := by
  unfold findReceipt at found
  split at found
  · cases found
  · rename_i receipt fetched
    obtain ⟨owner,named⟩ := Table.fetch_selects fetched
    split at found
    · cases found
    · rename_i same
      cases found
      refine ⟨receipt,Table.fetch_mem fetched,?_⟩
      rw [← owner,← named,← not_not.mp same]

theorem getJob_mem {db : Db} {jobId : String} {record : JobRecord} (found : getJob db jobId = some record) :
    record.job ∈ db.jobs ∧ record.job.id = jobId := by
  obtain ⟨job,fetched,rfl⟩ := Option.map_eq_some_iff.mp found
  exact findJob_mem fetched

theorem Unstarted.row {db : Db} {job : Job} (unstarted : Unstarted job.id db.core) : startRow db job = none := by
  have none : Table.select (fun command => command.jobId = job.id ∧ command.attemptId = job.currentAttemptId ∧
      command.commandType = .startTest) db.commands = [] :=
    Table.select_eq_nil.mpr fun command member selected => unstarted command member selected.2.2 selected.1
  unfold startRow
  rw [none]
  rfl

theorem replayDecision_resumes {db : Db} {job : Job} {row : Option String} (unstarted : job.status = .assigned → Unstarted job.id db.core)
    (resumes : replayDecision db job = .resume row) : row = none := by
  unfold replayDecision at resumes
  dsimp only at resumes
  split at resumes
  · cases resumes
  rename_i waiting
  split at resumes
  · cases resumes
  cases resumes
  by_cases assigned : job.status = .assigned
  · rw [(unstarted assigned).row]
    rfl
  · by_contra present
    exact waiting ⟨present,assigned⟩

theorem Phase.Kept.mono {phase : Phase} {db after : Db} {more : List Creation} (kept : phase.Kept submission db created)
    (entitled : Entitled submission db → Entitled submission after) (grows : created ⊆ more)
    (unstarted : ∀ jobId, Works submission db created jobId → submission.key ≠ none → Unstarted jobId db.core → Unstarted jobId after.core) :
    phase.Kept submission after more := by
  have works : ∀ {jobId : String}, Works submission db created jobId → Works submission after more jobId :=
    fun works => ⟨entitled works.entitled,grows works.mine⟩
  cases phase with
  | arriving | ended _ | searching | looking _ _ | attaching _ _ | syncing _ _ | writing _ _ _ => exact kept
  | reading jobId => exact ⟨works kept.1,kept.2⟩
  | creating | returning _ _ _ | freeing _ _ _ => exact entitled kept
  | claimed data claims => exact ⟨entitled kept.1,kept.2⟩
  | created jobId => exact works kept
  | dispatching record cause => exact ⟨works kept.1,kept.2⟩
  | replaying record =>
    obtain ⟨own,keyed,attempt,waiting⟩ := kept
    exact ⟨works own,keyed,attempt,fun assigned => unstarted _ own keyed (waiting assigned)⟩
  | fencing record row keys fenced => exact ⟨works kept.1,kept.2⟩
  | compensating record reason cause => exact ⟨works kept.1,kept.2⟩
  | rereading record => exact ⟨works kept.1,kept.2⟩

inductive Committed (settings : Settings) (submission : Submission) (created : List Creation) (phase : Phase) (state : State) : Phase × State → Prop
  | quiet {next : Phase} {after : State} (tables : after.db = state.db) (kept : next.Kept submission state.db created) :
      Committed settings submission created phase state (next,after)
  | made {data : JobCreate} {claims : JobClaims} {now : Nat} {next : Phase} {after : State} (holding : phase = .claimed data claims)
      (done : createJobMetadata settings state data claims.records now = (.ok (),after))
      (onward : next = .created data.jobId ∨ ∃ transferred error, next = .returning data transferred error) :
      Committed settings submission created phase state (next,after)
  | dispatched {record : JobRecord} {cause : Cause} {next : Phase} (commandUuid : String) (now : Nat)
      (holding : phase = .dispatching record cause)
      (kept : ∀ db, Works submission db created record.job.id → next.Kept submission db created) : Committed settings submission created phase state
        (next,apply settings (.createCommand (startCommand record.job record.leases commandUuid) true now) state)
  | compensated {record : JobRecord} {cause : Cause} {reason : String} {now : Nat} {next : Phase} {after : State}
      (holding : phase = .compensating record reason cause) (tables : after.db =
        (apply settings (.compensateFailedDispatch record.job.id reason record.job.currentAttemptId now) state).db)
      (kept : ∀ db, Works submission db created record.job.id → next.Kept submission db created) :
      Committed settings submission created phase state (next,after)

theorem createJobMetadata_failed {state failed : State} {data : JobCreate} {records : List Claim} {now : Nat} {error : ClusterError}
    (done : createJobMetadata settings state data records now = (.error error,failed)) : failed.db = state.db := by
  unfold createJobMetadata at done
  dsimp only at done
  split at done
  · cases done
    rfl
  · cases done

theorem advance_committed {state : State} (ledger : KeyLedger state.db created) (draw : Draw) (busy : Bool) {phase : Phase}
    (kept : phase.Kept submission state.db created) :
    Committed settings submission created phase state (advance settings submission draw busy phase state) := by
  cases phase with
  | arriving =>
    unfold advance
    cases keyed : submission.key with
    | none =>
      refine .quiet rfl fun key some => ?_
      rw [keyed] at some
      cases some
    | some key =>
      dsimp only
      split
      · exact .quiet rfl trivial
      rename_i valid
      split
      · exact .quiet rfl trivial
      · exact .quiet rfl ⟨key,keyed,validKey_nonempty (by simpa using valid)⟩
  | searching =>
    obtain ⟨key,keyed,nonempty⟩ := kept
    unfold advance
    simp only [keyed,Option.getD_some]
    split
    · exact .quiet rfl trivial
    · rename_i found
      refine .quiet rfl fun other some => ?_
      cases keyed.symm.trans some
      exact ⟨nonempty,fun receipt member owner named => absurd ⟨owner,named⟩ (findReceipt_none found receipt member)⟩
    · rename_i jobId found
      obtain ⟨receipt,member,rfl⟩ := findReceipt_some found
      have mine := (ledger.logged _ member).2
      refine .quiet rfl ⟨⟨fun other some => ?_,?_⟩,by simp [keyed]⟩
      · cases keyed.symm.trans some
        refine ⟨nonempty,fun row present owner named => ?_⟩
        rw [Table.eq_of_key ledger.receipts present member (by rw [owner,named])]
      · unfold Submission.creation
        rw [keyed]
        exact mine
  | reading jobId =>
    unfold advance
    dsimp only
    split
    · exact .quiet rfl trivial
    rename_i record found
    obtain ⟨member,rfl⟩ := getJob_mem found
    split
    · exact .quiet rfl trivial
    · exact .quiet rfl ⟨kept.1,kept.2,ledger.started.attempts _ member,ledger.started.unstarted ledger.linked member⟩
  | creating =>
    unfold advance
    dsimp only
    split
    · exact .quiet rfl trivial
    split
    · exact .quiet rfl trivial
    · exact .quiet rfl ⟨kept,_,rfl⟩
  | claimed data claims =>
    unfold advance
    dsimp only
    split
    · rename_i failed
      exact .quiet (createJobMetadata_failed failed) kept.1
    · rename_i done _
      exact .made rfl done (.inr ⟨_,_,rfl⟩)
    · rename_i done _
      exact .made rfl done (.inl rfl)
  | returning data transferred error => exact .quiet rfl trivial
  | created jobId =>
    unfold advance
    dsimp only
    split
    · exact .quiet rfl trivial
    rename_i record found
    obtain ⟨member,rfl⟩ := getJob_mem found
    exact .quiet rfl ⟨kept,ledger.started.attempts _ member,fun replay => absurd rfl replay⟩
  | dispatching record cause =>
    have sent : (dispatchJobStartCommand state record.job record.leases draw.commandUuid draw.now).2 =
      apply settings (.createCommand (startCommand record.job record.leases draw.commandUuid) true draw.now) state := rfl
    unfold advance
    dsimp only
    split
    · rename_i done
      rw [done] at sent
      dsimp only at sent
      rw [sent]
      exact .dispatched _ _ rfl fun _ own => ⟨own,kept.2.2⟩
    · rename_i done _
      rw [done] at sent
      dsimp only at sent
      rw [sent]
      exact .dispatched _ _ rfl fun _ own => ⟨own,kept.2.2⟩
    · rename_i done _
      rw [done] at sent
      dsimp only at sent
      rw [sent]
      exact .dispatched _ _ rfl fun _ _ => trivial
  | replaying record =>
    obtain ⟨own,keyed,attempt,waiting⟩ := kept
    unfold advance
    dsimp only
    split
    · exact .quiet rfl trivial
    · rename_i resumes
      exact .quiet rfl ⟨own,keyed,attempt,replayDecision_resumes waiting resumes⟩
  | fencing record row keys fenced =>
    obtain ⟨own,keyed,attempt,rfl⟩ := kept
    cases keys with
    | nil =>
      unfold advance
      dsimp only
      split
      · exact .quiet rfl ⟨own,fun _ => keyed⟩
      · exact .quiet rfl ⟨own,attempt,fun _ => keyed⟩
    | cons deviceKey keys =>
      unfold advance
      dsimp only
      split
      · exact .quiet rfl ⟨own,keyed,attempt,rfl⟩
      · exact .quiet rfl ⟨own,fun _ => keyed⟩
  | looking record commandId => exact kept.elim
  | attaching record command => exact kept.elim
  | syncing record command => exact kept.elim
  | writing record command read => exact kept.elim
  | compensating record reason cause =>
    obtain ⟨own,keyed⟩ := kept
    unfold advance
    cases draw.raised with
    | some message =>
      cases cause with
      | submission | replay => exact .quiet rfl trivial
      | lostClaim => exact .quiet rfl ⟨own,keyed (by decide)⟩
    | none =>
      dsimp only
      split
      · exact .compensated rfl rfl fun _ own => own.entitled
      cases cause with
      | submission | replay => exact .compensated rfl rfl fun _ _ => trivial
      | lostClaim => exact .compensated rfl rfl fun _ own => ⟨own,keyed (by decide)⟩
  | rereading record =>
    unfold advance
    dsimp only
    split
    · exact .quiet rfl trivial
    rename_i current found
    obtain ⟨member,named⟩ := getJob_mem found
    split
    · refine .quiet rfl ⟨?_,kept.2,ledger.started.attempts _ member,ledger.started.unstarted ledger.linked member⟩
      rw [named]
      exact kept.1
    · exact .quiet rfl trivial
  | freeing jobId status reply => exact .quiet rfl trivial
  | ended reply => exact .quiet rfl trivial

theorem KeyLedger.apply {state : State} (ledger : KeyLedger state.db created) (op : Op)
    (unkeyed : ∀ data now, op = .createJobWithLeases data now → data.idempotencyKey = "")
    (dispatched : ∀ data attachToJob now, op = .createCommand data attachToJob now → Dispatched data attachToJob) :
    KeyLedger (apply settings op state).db created := by
  have same : (Cluster.apply settings op state).db.receipts = state.db.receipts := apply_receipts unkeyed
  refine ⟨apply_linked op ledger.linked,apply_started ledger.linked ledger.started op dispatched,?_,?_,?_,ledger.ids⟩
  · rw [same]
    exact ledger.receipts
  · rw [same]
    exact ledger.logged
  · rw [same]
    exact ledger.received

theorem Entitled.apply {state : State} {op : Op} (unkeyed : ∀ data now, op = .createJobWithLeases data now → data.idempotencyKey = "")
    (entitled : Entitled submission state.db) : Entitled submission (apply settings op state).db := by
  unfold Entitled
  rw [apply_receipts unkeyed]
  exact entitled

theorem createJobMetadata_made {state after : State} {data : JobCreate} {records : List Claim} {now : Nat}
    (done : createJobMetadata settings state data records now = (.ok (),after)) :
    (∀ job ∈ state.db.jobs, job.id ≠ data.jobId) ∧ after.db.jobs = state.db.jobs++[newJob data now] ∧
    Created state.db.core data now after.db.core ∧ (data.idempotencyKey = "" ∧ after.db.receipts = state.db.receipts ∨
      data.idempotencyKey ≠ "" ∧
      (∀ receipt ∈ state.db.receipts, ¬ (receipt.ownerId = data.ownerId ∧ receipt.requestKey = data.idempotencyKey)) ∧
      after.db.receipts = state.db.receipts++[receiptOf data]) := by
  have core := expireDeviceReservations_core state now
  have receipts := expire_receipts state now
  unfold createJobMetadata at done
  dsimp only at done
  split at done
  · cases done
  · rename_i db made
    cases done
    obtain ⟨fresh,jobs,created⟩ := insertJobWithLeases_added made
    have written := (insertJobWithLeases_submitted made).receipts
    have rows : (expireDeviceReservations state now).db.jobs = state.db.jobs := congrArg Core.jobs core
    unfold Db.records at written
    rw [rows] at fresh jobs
    rw [core] at created
    rw [receipts] at written
    exact ⟨fresh,jobs,created,written⟩

theorem KeyLedger.made {state after : State} (ledger : KeyLedger state.db created) {drawn : JobCreate} {records : List Claim} {now : Nat}
    (done : createJobMetadata settings state (submission.data drawn) records now = (.ok (),after))
    (unused : ∀ creation ∈ created, creation.jobId ≠ (submission.data drawn).jobId) :
    KeyLedger after.db (created++[submission.creation (submission.data drawn).jobId]) := by
  obtain ⟨fresh,jobs,metadata,written⟩ := createJobMetadata_made done
  have linked : Linked after.db.core := metadata.linked ledger.linked
  have started : StartsAttached after.db.core := created_started ledger.started metadata
  have ids : ((created++[submission.creation (submission.data drawn).jobId]).map (·.jobId)).Nodup := Table.nodup_insert ledger.ids unused
  obtain ⟨unkeyed,same⟩ | ⟨keyed,free,same⟩ := written
  · refine ⟨linked,started,?_,?_,?_,ids⟩
    · rw [same]
      exact ledger.receipts
    · rw [same]
      exact fun receipt member => ⟨(ledger.logged receipt member).1,List.mem_append_left _ (ledger.logged receipt member).2⟩
    · rw [same]
      intro creation member stated
      obtain old | new := List.mem_append.mp member
      · exact ledger.received creation old stated
      · rw [List.mem_singleton.mp new] at stated
        exact absurd unkeyed stated
  · refine ⟨linked,started,?_,?_,?_,ids⟩
    · rw [same]
      refine Table.nodup_insert ledger.receipts fun receipt member taken => free receipt member ?_
      simp only [Prod.mk.injEq] at taken
      exact taken
    · rw [same]
      intro receipt member
      obtain old | new := List.mem_append.mp member
      · exact ⟨(ledger.logged receipt old).1,List.mem_append_left _ (ledger.logged receipt old).2⟩
      · rw [List.mem_singleton.mp new]
        exact ⟨keyed,List.mem_append_right _ (List.mem_singleton.mpr rfl)⟩
    · rw [same]
      intro creation member stated
      obtain old | new := List.mem_append.mp member
      · obtain ⟨receipt,present,links⟩ := ledger.received creation old stated
        exact ⟨receipt,List.mem_append_left _ present,links⟩
      · rw [List.mem_singleton.mp new]
        exact ⟨_,List.mem_append_right _ (List.mem_singleton.mpr rfl),rfl,rfl,rfl⟩

theorem born_same {before after : Db} (same : after.jobs.map (·.id) = before.jobs.map (·.id)) : born before after = [] := by
  unfold born
  rw [same,List.filter_eq_nil_iff]
  intro id member
  simpa using member

theorem born_made {before after : Db} {data : JobCreate} {now : Nat} (fresh : ∀ job ∈ before.jobs, job.id ≠ data.jobId)
    (jobs : after.jobs = before.jobs++[newJob data now]) : born before after = [data.jobId] := by
  have old : (before.jobs.map (·.id)).filter (· ∉ before.jobs.map (·.id)) = [] := born_same rfl
  have new : data.jobId ∉ before.jobs.map (·.id) := by
    intro member
    obtain ⟨job,present,named⟩ := List.mem_map.mp member
    exact fresh job present named
  unfold born
  rw [jobs,List.map_append,List.filter_append,old,List.nil_append,List.map_cons,List.map_nil]
  exact List.filter_cons_of_pos (decide_eq_true new)

theorem run_exclusive {stripe : String → String → Nat} {web : Web} (exclusive : Sections.Exclusive (Handler.lock stripe) web.handlers)
    {index : Nat} {handler : Handler} (found : web.handlers[index]? = some handler) (draw : Draw) :
    Sections.Exclusive (Handler.lock stripe) (web.handlers.set index ⟨handler.submission,
      (advance settings handler.submission draw (web.busy stripe handler.submission) handler.phase web.state).1⟩) := by
  obtain ⟨submission,phase⟩ := handler
  have gives : ∀ (next : Phase), (next.inside = true → phase.inside = true ∨ submission.key = none) →
      Sections.Exclusive (Handler.lock stripe) (web.handlers.set index ⟨submission,next⟩) := by
    intro next enters
    refine exclusive.set found fun held holds => ?_
    unfold Handler.lock at holds ⊢
    split at holds
    · rename_i inside
      obtain within | unkeyed := enters inside
      · rw [if_pos within]
        exact holds
      · rw [unkeyed] at holds
        cases holds
    · cases holds
  cases phase with
  | arriving =>
    unfold advance
    cases keyed : submission.key with
    | none => exact gives _ fun _ => .inr keyed
    | some key =>
      dsimp only
      split
      · exact gives _ nofun
      split
      · exact gives _ nofun
      rename_i free
      have taken : Handler.lock stripe ⟨submission,.searching⟩ = some (stripe submission.ownerId key) := by
        unfold Handler.lock
        dsimp only
        rw [keyed]
        rfl
      refine exclusive.enter ?_ taken
      intro other member holds
      refine free ?_
      unfold Web.busy
      rw [keyed]
      exact List.any_eq_true.mpr ⟨other,member,decide_eq_true holds⟩
  | ended reply => exact gives _ nofun
  | _ => exact gives _ fun _ => .inl rfl

theorem Submission.key_eq {key : String} (nonempty : key ≠ "") (same : submission.key.getD "" = key) : submission.key = some key := by
  cases keyed : submission.key with
  | none =>
    rw [keyed] at same
    exact absurd same.symm nonempty
  | some other =>
    rw [keyed] at same
    rw [← same]
    rfl

theorem Entitled.made {state after : State} {drawn : JobCreate} {records : List Claim} {now : Nat}
    (done : createJobMetadata settings state (submission.data drawn) records now = (.ok (),after)) {other : Submission}
    (entitled : Entitled other state.db) (agrees : ∀ key, submission.key = some key → other.key = some key →
      other.ownerId = submission.ownerId → submission.fingerprint = other.fingerprint) : Entitled other after.db := by
  intro key keyed
  obtain ⟨nonempty,rows⟩ := entitled key keyed
  refine ⟨nonempty,?_⟩
  obtain ⟨_,_,_,⟨_,same⟩ | ⟨_,_,same⟩⟩ := createJobMetadata_made done
  · rw [same]
    exact rows
  · rw [same]
    intro receipt member owner named
    obtain old | new := List.mem_append.mp member
    · exact rows receipt old owner named
    · rw [List.mem_singleton.mp new] at owner named ⊢
      exact agrees key (Submission.key_eq nonempty named) keyed owner.symm

variable {stripe : String → String → Nat} {web : Web}

theorem Handler.lock_inside {handler : Handler} (inside : handler.phase.inside = true) {key : String} (keyed : handler.submission.key = some key) :
    handler.lock stripe = some (stripe handler.submission.ownerId key) := by
  unfold Handler.lock
  rw [if_pos inside,keyed]
  rfl

theorem Web.Kept.alone (kept : web.Kept stripe) {first second : Nat} {handler other : Handler} (found : web.handlers[first]? = some handler)
    (listed : web.handlers[second]? = some other) (different : second ≠ first) (inside : handler.phase.inside = true)
    (within : other.phase.inside = true) {key : String} (keyed : handler.submission.key = some key) (same : other.submission.key = some key) :
    other.submission.ownerId ≠ handler.submission.ownerId := by
  intro owner
  have lock : other.lock stripe = some (stripe other.submission.ownerId key) := Handler.lock_inside within same
  rw [owner] at lock
  exact different (kept.exclusive second first other handler _ listed found lock (Handler.lock_inside inside keyed))

theorem Phase.kept_outside {phase : Phase} (outside : phase.inside = false) (db : Db) (created : List Creation) :
    phase.Kept submission db created := by
  cases phase with
  | arriving | ended => trivial
  | _ => cases outside

section
variable (kept : web.Kept stripe) {index : Nat} {handler : Handler} (found : web.handlers[index]? = some handler)
  (inside : handler.phase.inside = true)
include kept found inside

theorem Web.Kept.others_made {after : State} {drawn : JobCreate} {records : List Claim} {now : Nat}
    (done : createJobMetadata settings web.state (handler.submission.data drawn) records now = (.ok (),after)) (more : List Creation) :
    ∀ second other, second ≠ index → web.handlers[second]? = some other →
      other.phase.Kept other.submission after.db (web.created++more) := by
  intro second other different listed
  cases within : other.phase.inside with
  | false => exact Phase.kept_outside within _ _
  | true =>
    refine (kept.handlers other (List.mem_of_getElem? listed)).mono (fun entitled => ?_) (List.subset_append_left _ _) fun jobId _ _ unstarted => ?_
    · exact entitled.made done fun key keyed same owner => absurd owner (kept.alone found listed different inside within keyed same)
    · obtain ⟨_,_,metadata,_⟩ := createJobMetadata_made done
      exact (@unstarted_keep settings jobId).created kept.ledger.linked unstarted trivial metadata

theorem Web.Kept.others_dispatched {job : Job} (mine : handler.submission.creation job.id ∈ web.created)
    (leases : List Lease) (commandUuid : String) (now : Nat) : ∀ second other, second ≠ index → web.handlers[second]? = some other →
      other.phase.Kept other.submission (apply settings (.createCommand (startCommand job leases commandUuid) true now) web.state).db web.created := by
  intro second other different listed
  cases within : other.phase.inside with
  | false => exact Phase.kept_outside within _ _
  | true =>
    refine (kept.handlers other (List.mem_of_getElem? listed)).mono (fun entitled => ?_) (List.Subset.refl _) fun jobId own keyed unstarted => ?_
    · exact entitled.apply (fun _ _ other => by cases other)
    · refine ((unstarted_keep jobId).apply _ web.state kept.ledger.linked unstarted ?_).2
      -- The same job would be a job of the same key, whose lock the dispatching handler holds.
      rintro - rfl
      obtain ⟨key,stated⟩ := Option.ne_none_iff_exists'.mp keyed
      have creations : handler.submission.creation job.id = other.submission.creation job.id :=
        Table.eq_of_key kept.ledger.ids mine own.mine rfl
      simp only [Submission.creation,Creation.mk.injEq,stated,Option.getD_some] at creations
      have nonempty : key ≠ "" := (own.entitled key stated).1
      exact kept.alone found listed different inside within (Submission.key_eq nonempty creations.2.1) stated creations.1.symm

end

section
variable (kept : web.Kept stripe)
include kept

theorem Web.Kept.others_compensated (jobId reason attemptId : String) (now : Nat) :
    ∀ other ∈ web.handlers, other.phase.Kept other.submission
      (apply settings (.compensateFailedDispatch jobId reason attemptId now) web.state).db web.created := by
  intro other member
  refine (kept.handlers other member).mono (fun entitled => ?_) (List.Subset.refl _) fun row _ _ unstarted => ?_
  · exact entitled.apply (fun _ _ other => by cases other)
  · exact ((unstarted_keep row).apply (.compensateFailedDispatch jobId reason attemptId now) web.state kept.ledger.linked unstarted trivial).2

theorem Web.Kept.run {index : Nat} {handler : Handler} (found : web.handlers[index]? = some handler)
    (draw : Draw) (unused : ∀ creation ∈ web.created, handler.drawn ≠ some creation.jobId) :
    Web.Kept stripe (Web.step settings stripe (.run index draw) web) := by
  have member := List.mem_of_getElem? found
  have committed : Committed settings _ _ _ _ _ := advance_committed kept.ledger draw (web.busy stripe handler.submission) (kept.handlers handler member)
  have exclusive := @run_exclusive settings stripe web kept.exclusive index handler found draw
  unfold Web.step
  simp only [found]
  generalize advance settings handler.submission draw (web.busy stripe handler.submission) handler.phase web.state = next at committed exclusive ⊢
  have stays : ∀ second other, second ≠ index → web.handlers[second]? = some other →
      other.phase.Kept other.submission web.state.db web.created :=
    fun _ other _ listed => kept.handlers other (List.mem_of_getElem? listed)
  cases committed with
  | @quiet next after tables onward =>
    rw [tables,born_same rfl]
    refine ⟨?_,exclusive,?_⟩
    · simp only [List.map_nil,List.append_nil]
      rw [tables]
      exact kept.ledger
    · simp only [List.map_nil,List.append_nil]
      rw [tables]
      exact Sections.forall_set stays onward
  | @made data claims now next after holding done onward =>
    have before := kept.handlers handler member
    rw [holding] at before
    obtain ⟨entitled,drawn,rfl⟩ := before
    obtain ⟨fresh,jobs,_⟩ := createJobMetadata_made done
    have inside : handler.phase.inside = true := by
      rw [holding]
      rfl
    have fewer : ∀ creation ∈ web.created, creation.jobId ≠ (handler.submission.data drawn).jobId := by
      intro creation present same
      refine unused creation present ?_
      unfold Handler.drawn
      rw [holding,same]
    have mine : Works handler.submission after.db (web.created++[handler.submission.creation (handler.submission.data drawn).jobId])
        (handler.submission.data drawn).jobId :=
      ⟨entitled.made done fun _ _ _ _ => rfl,List.mem_append_right _ (List.mem_singleton.mpr rfl)⟩
    rw [born_made fresh jobs]
    refine ⟨kept.ledger.made done fewer,exclusive,?_⟩
    refine Sections.forall_set (kept.others_made found inside done _) ?_
    obtain rfl | ⟨transferred,error,rfl⟩ := onward
    · exact mine
    · exact mine.entitled
  | @dispatched record cause next commandUuid now holding onward =>
    have before := kept.handlers handler member
    rw [holding] at before
    obtain ⟨own,attempt,_⟩ := before
    have inside : handler.phase.inside = true := by
      rw [holding]
      rfl
    have none : born web.state.db (apply settings (.createCommand (startCommand record.job record.leases commandUuid) true now) web.state).db = [] :=
      born_same (commanded_ids (createCommand_commanded web.state kept.ledger.linked.jobIds _ true now))
    simp only [none,List.map_nil,List.append_nil]
    refine ⟨kept.ledger.apply _ (fun _ _ other => by cases other) ?_,exclusive,?_⟩
    · rintro data attachToJob later ⟨⟩
      exact startCommand_dispatched attempt record.leases commandUuid
    · refine Sections.forall_set ?_ (onward _ ⟨?_,own.mine⟩)
      · exact @Web.Kept.others_dispatched settings stripe web kept index handler found inside record.job own.mine record.leases commandUuid now
      · exact own.entitled.apply fun _ _ other => by cases other
  | @compensated record cause reason now next after holding tables onward =>
    have before := kept.handlers handler member
    rw [holding] at before
    have own : Works handler.submission web.state.db web.created record.job.id := before.1
    have none : born web.state.db after.db = [] := by
      rw [tables]
      exact born_same (compensated_links (compensateFailedDispatch_compensated web.state kept.ledger.linked.jobIds _ _ _ _)).ids
    simp only [none,List.map_nil,List.append_nil]
    refine ⟨?_,exclusive,?_⟩
    · dsimp only
      rw [tables]
      exact kept.ledger.apply _ (fun _ _ other => by cases other) fun _ _ _ other => by cases other
    · dsimp only
      rw [tables]
      refine Sections.forall_set (fun _ other _ listed => ?_) (onward _ ⟨?_,own.mine⟩)
      · exact kept.others_compensated _ _ _ _ other (List.mem_of_getElem? listed)
      · exact own.entitled.apply fun _ _ other => by cases other

theorem Web.Kept.other {op : Op} (allowed : web.considerate (.other op)) :
    Web.Kept stripe (Web.step settings stripe (.other op) web) := by
  have unkeyed : ∀ data now, op = .createJobWithLeases data now → data.idempotencyKey = "" := by
    rintro data now rfl
    exact allowed
  refine ⟨kept.ledger.apply op unkeyed ?_,kept.exclusive,?_⟩
  · rintro data attachToJob now rfl
    exact allowed.1
  intro handler member
  refine (kept.handlers handler member).mono (fun entitled => entitled.apply unkeyed) (List.Subset.refl _) fun jobId own keyed unstarted => ?_
  refine ((unstarted_keep jobId).apply op web.state kept.ledger.linked unstarted (command_guard ?_)).2
  rintro data attachToJob now rfl start rfl
  obtain ⟨key,stated⟩ := Option.ne_none_iff_exists'.mp keyed
  have named : (handler.submission.creation data.jobId).key ≠ "" := by
    unfold Submission.creation
    rw [stated]
    exact (own.entitled key stated).1
  obtain ⟨receipt,present,_,_,job⟩ := kept.ledger.received _ own.mine named
  exact allowed.2 start receipt present job

theorem Web.Kept.step {op : WebOp} (allowed : web.considerate op) :
    Web.Kept stripe (Web.step settings stripe op web) := by
  cases op with
  | submit submission =>
    refine ⟨kept.ledger,kept.exclusive.append rfl,?_⟩
    intro handler member
    obtain old | new := List.mem_append.mp member
    · exact kept.handlers handler old
    · rw [List.mem_singleton.mp new]
      trivial
  | run index draw =>
    cases found : web.handlers[index]? with
    | none =>
      unfold Web.step
      simp only [found]
      exact kept
    | some handler =>
      refine kept.run found draw fun creation member => ?_
      have fresh := allowed creation member
      rw [found] at fresh
      exact fresh
  | die index =>
    cases found : web.handlers[index]? with
    | none =>
      unfold Web.step
      simp only [found]
      exact kept
    | some handler =>
      unfold Web.step
      simp only [found]
      refine ⟨kept.ledger,kept.exclusive.set found ?_,Sections.forall_set ?_ trivial⟩
      · intro held holds
        cases holds
      · exact fun _ other _ listed => kept.handlers other (List.mem_of_getElem? listed)
  | other op => exact kept.other allowed

end

theorem Web.Kept.start : Web.Kept stripe {} := by
  have started : StartsAttached ({} : State).db.core := by
    constructor <;> simp [Db.core]
  have ledger : KeyLedger ({} : State).db [] := by
    refine ⟨empty_linked,started,?_,?_,?_,?_⟩ <;> simp
  refine ⟨ledger,.nil,?_⟩
  intro handler member
  cases member

end

end GmsRemoteTest.Cluster
