import GmsRemoteTest.Cluster.Submissions

/-! What submissions do to jobs in every run. A key has one job and an attempt one start; a request that
differs from the one a key was used with writes nothing; and no submission takes a job back. -/
namespace GmsRemoteTest.Cluster
open DeviceClaims JobStatus

def JobStatus.stage : JobStatus → Nat
  | .created => 0
  | .queued => 1
  | .leasing => 2
  | .assigned => 3
  | .dispatching => 4
  | .running => 5
  | .workerLost => 6
  | .stopping => 7
  | .collecting => 8
  | .completed | .failed | .cancelled => 9

/-- The statuses a replay must not take a job back from. -/
def JobStatus.underway : JobStatus → Bool
  | .dispatching | .running | .completed | .failed | .cancelled => true
  | _ => false

theorem JobStatus.Allowed.stage {source target : JobStatus} (allowed : Allowed source target) (underway : source.underway = true) :
    source.stage ≤ target.stage := by
  revert allowed underway
  cases source <;> cases target <;> decide

def Forward (before after : Core) : Prop :=
  ∀ job ∈ before.jobs, ∃ row ∈ after.jobs, row.id = job.id ∧ (row.status = job.status ∨ Allowed job.status row.status)

namespace Forward
variable {core after : Core}

theorem same (jobs : after.jobs = core.jobs) : Forward core after := by
  intro job member
  rw [← jobs] at member
  exact ⟨job,member,rfl,.inl rfl⟩

theorem move (linked : Linked core) {job : Job} (member : job ∈ core.jobs) {status : JobStatus} (allowed : Allowed job.status status)
    {error : String} {now : Nat} (jobs : after.jobs = (core.move job.id status error now).jobs) : Forward core after := by
  intro row present
  rw [jobs]
  refine ⟨_,Table.mem_update.mpr ⟨row,present,rfl⟩,?_⟩
  by_cases same : row.id = job.id
  · rw [if_pos same]
    refine ⟨rfl,.inr ?_⟩
    rw [Table.eq_of_key linked.jobIds present member same]
    exact allowed
  · rw [if_neg same]
    exact ⟨rfl,.inl rfl⟩

theorem created {data : JobCreate} {now : Nat} (created : Created core data now after) : Forward core after := by
  intro job member
  cases created with
  | none => exact ⟨job,member,rfl,.inl rfl⟩
  | added => exact ⟨job,List.mem_append_left _ member,rfl,.inl rfl⟩

theorem attached (linked : Linked core) {jobId : String} {command : Command} {newlyCreated : Bool} {now : Nat}
    (attached : Attached core jobId command newlyCreated now after) : Forward core after := by
  cases attached with
  | kept => exact same rfl
  | dispatched job member named own current assigned =>
    refine move linked member ?_ rfl
    rw [assigned]
    decide

theorem commanded (linked : Linked core) {data : CommandCreate} {attachToJob : Bool} {now : Nat}
    (commanded : Commanded core data attachToJob now after) : Forward core after := by
  cases commanded with
  | none => exact same rfl
  | reused command member worker operation after attached => exact Forward.attached linked attached.2
  | inserted command kind job attempt worker operation status fresh distinct after attached =>
    split at attached
    · have inserted : Forward {core with commands := core.commands++[command]} after := .attached (linked.insert fresh) attached
      exact inserted
    · rw [attached]
      exact same rfl

theorem compensated {state failed : State} (linked : Linked state.db.core) {jobId : String} {now : Nat}
    (done : Compensated state jobId now failed) : Forward state.db.core failed.db.core := by
  cases done with
  | none tables => exact same (congrArg Core.jobs tables)
  | failed job member named waiting undelivered error tables =>
    have jobs : failed.db.core.jobs = (state.db.core.move job.id .failed error now).jobs := by
      rw [tables]
      rfl
    refine move linked member ?_ jobs
    obtain assigned | dispatching := waiting
    · rw [assigned]
      decide
    · rw [dispatching]
      decide

end Forward

section
variable {settings : Settings} {stripe : String → String → Nat} {web : Web}

theorem Web.Kept.forward (kept : web.Kept stripe) (index : Nat) (draw : Draw) :
    Forward web.state.db.core (Web.step settings stripe (.run index draw) web).state.db.core := by
  cases found : web.handlers[index]? with
  | none =>
    unfold Web.step
    simp only [found]
    exact .same rfl
  | some handler =>
    have committed : Committed settings _ _ _ _ _ := advance_committed kept.ledger draw (web.busy stripe handler.submission)
      (kept.handlers handler (List.mem_of_getElem? found))
    unfold Web.step
    simp only [found]
    generalize advance settings handler.submission draw (web.busy stripe handler.submission) handler.phase web.state = next at committed ⊢
    cases committed with
    | quiet tables onward =>
      dsimp only
      rw [tables]
      exact .same rfl
    | made holding done onward =>
      obtain ⟨_,_,metadata,_⟩ := createJobMetadata_made done
      exact .created metadata
    | dispatched commandUuid now holding onward =>
      exact .commanded kept.ledger.linked (createCommand_commanded web.state kept.ledger.linked.jobIds _ true now)
    | compensated holding tables onward =>
      dsimp only
      rw [tables]
      exact .compensated kept.ledger.linked (compensateFailedDispatch_compensated web.state kept.ledger.linked.jobIds _ _ _ _)

theorem Phase.Kept.entitled {submission : Submission} {db : Db} {created : List Creation} {phase : Phase}
    (kept : phase.Kept submission db created) : phase.inside = false ∨ phase = .searching ∨ Entitled submission db := by
  cases phase with
  | arriving | ended => exact .inl rfl
  | searching => exact .inr (.inl rfl)
  | creating | returning | freeing => exact .inr (.inr kept)
  | looking | attaching | syncing | writing => exact kept.elim
  | created => exact .inr (.inr (Works.entitled kept))
  | claimed => exact .inr (.inr kept.1)
  | _ => exact .inr (.inr kept.1.entitled)

theorem advance_reads {submission : Submission} {draw : Draw} {busy : Bool} {phase : Phase} {state : State}
    (early : phase.inside = false ∨ phase = .searching) : (advance settings submission draw busy phase state).2 = state := by
  obtain outside | rfl := early
  · cases phase with
    | arriving =>
      unfold advance
      dsimp only
      split
      · rfl
      split
      · rfl
      split <;> rfl
    | ended => rfl
    | _ => cases outside
  · unfold advance
    dsimp only
    split <;> rfl

theorem Web.Kept.foreign (kept : web.Kept stripe) {index : Nat} {handler : Handler} (found : web.handlers[index]? = some handler) {key : String}
    (keyed : handler.submission.key = some key) {receipt : Receipt} (member : receipt ∈ web.state.db.receipts)
    (owner : receipt.ownerId = handler.submission.ownerId) (named : receipt.requestKey = key)
    (other : receipt.requestHash ≠ handler.submission.fingerprint) (draw : Draw) :
    (Web.step settings stripe (.run index draw) web).state = web.state := by
  have early : handler.phase.inside = false ∨ handler.phase = .searching := by
    obtain outside | searching | entitled := (kept.handlers handler (List.mem_of_getElem? found)).entitled
    · exact .inl outside
    · exact .inr searching
    · exact absurd ((entitled key keyed).2 receipt member owner named) other
  unfold Web.step
  simp only [found]
  exact advance_reads early

end

/-- In every interleaving a key has at most one job and an attempt at most one start command, a submission whose key was used for
another request changes nothing, and none loses a job that is dispatching, running or ended or takes it back. -/
theorem key_has_one_job (settings : Settings) (stripe : String → String → Nat) (web : Web)
    (reached : Runs.Reached (Web.step settings stripe) Web.considerate {} web) :
    (∀ ownerId key, key ≠ "" → (web.created.filter fun creation => creation.ownerId = ownerId ∧ creation.key = key).length ≤ 1) ∧
    (∀ first ∈ web.state.db.commands, ∀ second ∈ web.state.db.commands, first.commandType = .startTest →
      second.commandType = .startTest → first.attemptId = second.attemptId → first = second) ∧
    (∀ index handler key, web.handlers[index]? = some handler → handler.submission.key = some key →
      (∃ receipt ∈ web.state.db.receipts, receipt.ownerId = handler.submission.ownerId ∧ receipt.requestKey = key ∧
        receipt.requestHash ≠ handler.submission.fingerprint) →
      ∀ draw, (Web.step settings stripe (.run index draw) web).state = web.state) ∧
    ∀ index draw, ∀ job ∈ web.state.db.jobs, job.status.underway = true →
      ∃ row ∈ (Web.step settings stripe (.run index draw) web).state.db.jobs, row.id = job.id ∧ job.status.stage ≤ row.status.stage := by
  have kept : web.Kept stripe :=
    reached.invariant (fun web => web.Kept stripe) .start fun _ _ kept allowed => kept.step allowed
  refine ⟨kept.ledger.count,?_,?_,?_⟩
  · intro first left second right start also same
    exact kept.ledger.started.one kept.ledger.linked left right start also same
  · rintro index handler key found keyed ⟨receipt,member,owner,named,other⟩ draw
    exact kept.foreign found keyed member owner named other draw
  · intro index draw job member underway
    obtain ⟨row,present,named,stands | moves⟩ := kept.forward index draw job member
    · exact ⟨row,present,named,by rw [stands]⟩
    · exact ⟨row,present,named,moves.stage underway⟩

def firstDraw (now : Nat) : Draw :=
  { now := now, data := {workerId := "w1", devices := ["s1"], ownerId := "o", jobUuid := "1", attemptUuid := "1"}, commandUuid := "1" }

def replaying : List WebOp :=
  [.other (.registerWorker ⟨"w1",2,""⟩ 0),.other (.heartbeat "w1" {devices := [{serial := "s1"}]} 0),
    .submit ⟨"o",some "k","first"⟩,.run 0 (firstDraw 1),.run 0 (firstDraw 1),.run 0 (firstDraw 1),.run 0 (firstDraw 1),.die 0,
    .submit ⟨"o",some "k","second"⟩,.run 1 (firstDraw 2),.run 1 (firstDraw 2),
    .submit ⟨"o",some "k","first"⟩,.run 2 (firstDraw 3),.run 2 (firstDraw 3),.run 2 (firstDraw 3),.run 2 (firstDraw 3),
    .run 2 (firstDraw 3),.run 2 (firstDraw 3),.run 2 (firstDraw 3),
    .submit ⟨"o",some "k","first"⟩,.run 3 (firstDraw 4),.run 3 (firstDraw 4),.run 3 (firstDraw 4)]

def replayingWeb : Web := Runs.exec (Web.step {} fun _ _ => 0) {} replaying

theorem key_has_one_job_replaying :
    (replayingWeb.created.filter fun creation => creation.ownerId = "o" ∧ creation.key = "k").length ≤ 1 ∧
    (∀ draw, (Web.step {} (fun _ _ => 0) (.run 1 draw) replayingWeb).state = replayingWeb.state) ∧
    ∀ draw, ∃ row ∈ (Web.step {} (fun _ _ => 0) (.run 3 draw) replayingWeb).state.db.jobs,
      row.id = "job-1" ∧ JobStatus.dispatching.stage ≤ row.status.stage := by
  have reached : Runs.Reached (Web.step {} fun _ _ => 0) Web.considerate {} replayingWeb :=
    Runs.Reached.along .start replaying (by decide +kernel)
  obtain ⟨one,_,foreign,onward⟩ := key_has_one_job {} (fun _ _ => 0) replayingWeb reached
  refine ⟨one "o" "k" (by decide),?_,?_⟩
  · have second : replayingWeb.handlers[1]?.map (·.submission) = some ⟨"o",some "k","second"⟩ := by decide +kernel
    obtain ⟨handler,found,sent⟩ := Option.map_eq_some_iff.mp second
    have receipt : ∃ receipt ∈ replayingWeb.state.db.receipts, receipt.ownerId = "o" ∧ receipt.requestKey = "k" ∧
        receipt.requestHash ≠ "second" := by decide +kernel
    refine foreign 1 handler "k" found (by rw [sent]) ?_
    rw [sent]
    exact receipt
  · intro draw
    have started : ∃ job ∈ replayingWeb.state.db.jobs, job.id = "job-1" ∧ job.status = .dispatching := by decide +kernel
    obtain ⟨job,member,named,dispatching⟩ := started
    obtain ⟨row,present,same,further⟩ := onward 3 draw job member (by rw [dispatching]; rfl)
    rw [dispatching] at further
    exact ⟨row,present,same.trans named,further⟩

end GmsRemoteTest.Cluster
