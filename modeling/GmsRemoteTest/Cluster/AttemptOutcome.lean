import Mathlib
import GmsRemoteTest.Cluster.Controller

/-! The current attempt of a finished job carries the outcome of the job and keeps it, although heartbeats,
acknowledgements and the watchdog write attempts beside the guarded job transition. -/
namespace GmsRemoteTest.Cluster
open DeviceClaims JobStatus

variable {settings : Settings}

def Attempt.outcome (attempt : Attempt) : JobStatus × String × CommandResult :=
  (attempt.status,attempt.error,attempt.result)

/-- An attempt is as far as the job it is the current one of. -/
structure Settled (attempt : Attempt) (job : Job) : Prop where
  tracked : job.status.tracked = true
  named : job.currentAttemptId ≠ ""
  ended : job.status.terminal = true → attempt.status = job.status
  open_ : job.status.terminal = false → attempt.status.terminal = false

def Outcomes (core : Core) : Prop :=
  Table.Joined (fun (attempt : Attempt) (job : Job) => attempt.id = job.currentAttemptId) Settled
    core.attempts core.jobs

structure Advances (core after : Core) (first : Attempt → Attempt) (second : Job → Job) : Prop where
  attempts : after.attempts = core.attempts.map first
  jobs : after.jobs = core.jobs.map second
  attemptId : ∀ attempt, (first attempt).id = attempt.id
  jobId : ∀ job, (second job).id = job.id
  current : ∀ job, (second job).currentAttemptId = job.currentAttemptId
  settled : ∀ attempt ∈ core.attempts, ∀ job ∈ core.jobs, attempt.id = job.currentAttemptId → Settled attempt job →
    Settled (first attempt) (second job)
  final : ∀ attempt ∈ core.attempts, ∀ job ∈ core.jobs, attempt.id = job.currentAttemptId → Settled attempt job →
    job.status.terminal = true → (second job).status.terminal = true ∧ (first attempt).outcome = attempt.outcome

theorem Outcomes.advance {core after : Core} {first : Attempt → Attempt} {second : Job → Job}
    (outcomes : Outcomes core) (advances : Advances core after first second) : Outcomes after := by
  unfold Outcomes
  rw [advances.attempts,advances.jobs]
  refine Table.Joined.map outcomes ?_ advances.settled
  intro attempt job same
  rw [advances.attemptId,advances.current] at same
  exact same

theorem Advances.same {core after : Core} (attempts : after.attempts = core.attempts) (jobs : after.jobs = core.jobs) :
    Advances core after (fun attempt => attempt) (fun job => job) where
  attempts := by rw [attempts,List.map_id']
  jobs := by rw [jobs,List.map_id']
  attemptId _ := rfl
  jobId _ := rfl
  current _ := rfl
  settled _ _ _ _ _ settled := settled
  final _ _ _ _ _ _ ended := ⟨ended,rfl⟩

section
variable {core after : Core} (linked : Linked core) {job : Job} (member : job ∈ core.jobs)
include linked member

theorem Advances.pair {first : Attempt → Attempt} {second : Job → Job} (attempts : after.attempts = core.attempts.map first)
    (jobs : after.jobs = core.jobs.map second) (attemptId : ∀ attempt, (first attempt).id = attempt.id)
    (jobId : ∀ row, (second row).id = row.id) (current : ∀ row, (second row).currentAttemptId = row.currentAttemptId)
    (others : ∀ attempt, attempt.id ≠ job.currentAttemptId → first attempt = attempt)
    (rest : ∀ row, row.id ≠ job.id → second row = row)
    (settled : ∀ attempt ∈ core.attempts, attempt.id = job.currentAttemptId → Settled attempt job →
      Settled (first attempt) (second job))
    (final : ∀ attempt ∈ core.attempts, attempt.id = job.currentAttemptId → Settled attempt job →
      job.status.terminal = true → (second job).status.terminal = true ∧ (first attempt).outcome = attempt.outcome) :
    Advances core after first second := by
  have apart : ∀ attempt row, row ∈ core.jobs → attempt.id = row.currentAttemptId → row.id ≠ job.id →
      first attempt = attempt := by
    intro attempt row inside same different
    refine others attempt fun own => different ?_
    rw [linked.same_attempt inside member (same.symm.trans own)]
  refine ⟨attempts,jobs,attemptId,jobId,current,?_,?_⟩
  · intro attempt present row inside same before
    by_cases named : row.id = job.id
    · rw [Table.eq_of_key linked.jobIds inside member named] at same before ⊢
      exact settled attempt present same before
    · rw [rest row named,apart attempt row inside same named]
      exact before
  · intro attempt present row inside same before ended
    by_cases named : row.id = job.id
    · rw [Table.eq_of_key linked.jobIds inside member named] at same before ended ⊢
      exact final attempt present same before ended
    · rw [rest row named,apart attempt row inside same named]
      exact ⟨ended,rfl⟩

theorem Advances.moved {status : JobStatus} (allowed : Allowed job.status status) {error : String} {now : Nat}
    {first : Attempt → Attempt} (attempts : after.attempts = core.attempts.map first)
    (jobs : after.jobs = (core.move job.id status error now).jobs)
    (attemptId : ∀ attempt, (first attempt).id = attempt.id)
    (others : ∀ attempt, attempt.id ≠ job.currentAttemptId → first attempt = attempt)
    (ended : status.terminal = true → ∀ attempt ∈ core.attempts, attempt.id = job.currentAttemptId →
      job.currentAttemptId ≠ "" → attempt.status.terminal = false → (first attempt).status = status)
    (running : status.terminal = false → ∀ attempt ∈ core.attempts, attempt.id = job.currentAttemptId →
      attempt.status.terminal = false → (first attempt).status.terminal = false) :
    Advances core after first
      (fun row => if row.id = job.id then Cluster.moved status error now row else row) := by
  have live := allowed.live
  refine .pair linked member attempts jobs attemptId ?_ ?_ others ?_ ?_ ?_
  · intro row
    split <;> rfl
  · intro row
    split <;> rfl
  · intro row different
    rw [if_neg different]
  · intro attempt present same before
    rw [if_pos rfl]
    refine ⟨allowed.tracked,before.named,?_,?_⟩
    · intro halted
      exact ended halted attempt present same before.named (before.open_ live)
    · intro going
      exact running going attempt present same (before.open_ live)
  · intro attempt present same before halted
    rw [live] at halted
    cases halted

theorem Advances.written {first : Attempt → Attempt} (attempts : after.attempts = core.attempts.map first) (jobs : after.jobs = core.jobs)
    (attemptId : ∀ attempt, (first attempt).id = attempt.id)
    (others : ∀ attempt, attempt.id ≠ job.currentAttemptId → first attempt = attempt)
    (ended : job.status.terminal = true → ∀ attempt ∈ core.attempts, attempt.id = job.currentAttemptId →
      attempt.status = job.status → (first attempt).outcome = attempt.outcome)
    (running : job.status.terminal = false → ∀ attempt ∈ core.attempts, attempt.id = job.currentAttemptId →
      attempt.status.terminal = false → (first attempt).status.terminal = false) :
    Advances core after first (fun row => row) := by
  refine .pair linked member attempts (by rw [jobs,List.map_id']) attemptId (fun _ => rfl) (fun _ => rfl) others
    (fun _ _ => rfl) ?_ ?_
  · intro attempt present same before
    refine ⟨before.tracked,before.named,?_,?_⟩
    · intro halted
      have kept := ended halted attempt present same (before.ended halted)
      have status : (first attempt).status = attempt.status := congrArg Prod.fst kept
      rw [status]
      exact before.ended halted
    · intro going
      exact running going attempt present same (before.open_ going)
  · intro attempt present same before halted
    exact ⟨halted,ended halted attempt present same (before.ended halted)⟩

end

def Advanced (core after : Core) : Prop := ∃ first second, Advances core after first second

theorem Advanced.refl (core : Core) : Advanced core core := ⟨_,_,.same rfl rfl⟩

def RepeatsOutcome (db : Db) (command : Command) : Prop :=
  ∀ job ∈ db.jobs, job.id = command.jobId → (command.attemptId = "" ∨ command.attemptId = job.currentAttemptId) →
    job.status.terminal = true → reportedStatus command = some job.status → ∀ attempt ∈ db.attempts,
    attempt.id = job.currentAttemptId → attempt.error = command.error ∧ attempt.result = command.result

instance (db : Db) (command : Command) : Decidable (RepeatsOutcome db command) := by
  unfold RepeatsOutcome
  infer_instance

/-- Under these outcomes last: a bare transition ends no job, reconciliation finds no job it would fail, an acknowledgement that
repeats the status of a finished job repeats its result and error, and a heartbeat names one only after its attempt failed for
lost fencing and can renew no claim. -/
def attemptConditions (settings : Settings) : Conditions where
  sync state command := RepeatsOutcome state.db command
  transition state jobId status := (∃ job ∈ state.db.jobs, job.id = jobId ∧ Allowed job.status status) →
    status.terminal = false
  beat committed workerId now state running := ∀ job, Entry state.db.core workerId running job →
    job.status.terminal = true → Unrenewable settings committed state job running.attemptId now ∧
    ∀ attempt ∈ state.db.attempts, attempt.id = running.attemptId →
      attempt.status = .failed ∧ attempt.error = fencingError
  unfence committed now pass job := ¬ Unfenceable settings committed now pass job

theorem attached_advanced {core after : Core} {jobId : String} {command : Command} {newlyCreated : Bool} {now : Nat}
    (linked : Linked core) (attached : Attached core jobId command newlyCreated now after) : Advanced core after := by
  cases attached with
  | kept => exact .refl core
  | dispatched job member named own current assigned =>
    refine ⟨_,_,.moved linked member ?_ rfl rfl ?_ ?_ ?_ ?_⟩
    · rw [assigned]
      decide
    · intro attempt
      split <;> rfl
    · intro attempt different
      rw [if_neg fun chosen => different chosen.1]
    · intro ended
      cases ended
    · intro _ attempt present same going
      split
      · rfl
      · exact going

theorem commanded_advanced {core after : Core} {data : CommandCreate} {attachToJob : Bool} {now : Nat}
    (linked : Linked core) (commanded : Commanded core data attachToJob now after) : Advanced core after := by
  cases commanded with
  | none => exact .refl core
  | reused command member worker operation after attached => exact attached_advanced linked attached.2
  | inserted command commandType job attempt worker operation status fresh distinct after attached =>
    split at attached
    · obtain ⟨first,second,advances⟩ := attached_advanced (linked.insert fresh) attached
      exact ⟨first,second,⟨advances.attempts,advances.jobs,advances.attemptId,advances.jobId,advances.current,
        advances.settled,advances.final⟩⟩
    · rw [attached]
      exact ⟨_,_,.same rfl rfl⟩

theorem synced_advanced {state after : State} {command : Command} {now : Nat} (linked : Linked state.db.core)
    (orderly : (attemptConditions settings).sync state command) (synced : Synced state command now after) :
    Advanced state.db.core after.db.core := by
  cases synced with
  | silent tables =>
    rw [tables]
    exact .refl _
  | again job member named current reporting tables =>
    rw [tables]
    refine ⟨_,_,.written linked member rfl rfl ?_ ?_ ?_ ?_⟩
    · intro attempt
      split <;> rfl
    · intro attempt different
      rw [if_neg different]
    · intro ended attempt present same status
      obtain ⟨error,result⟩ := orderly job member named current ended reporting attempt present same
      rw [if_pos same]
      simp only [Attempt.outcome,reported,status,error,result]
    · intro going attempt present same _
      rw [if_pos same]
      exact going
  | moves job status member named allowed moves tables =>
    rw [tables,← named]
    refine ⟨_,_,.moved linked member allowed rfl rfl ?_ ?_ ?_ ?_⟩
    · intro attempt
      split <;> rfl
    · intro attempt different
      rw [if_neg different]
    · intro _ attempt present same _ _
      rw [if_pos same]
      rfl
    · intro going attempt present same _
      rw [if_pos same]
      exact going

theorem compensated_advanced {state after : State} {jobId : String} {now : Nat} (linked : Linked state.db.core)
    (compensated : Compensated state jobId now after) : Advanced state.db.core after.db.core := by
  cases compensated with
  | none tables =>
    rw [tables]
    exact .refl _
  | failed job member named waiting undelivered error tables =>
    rw [tables]
    have allowed : Allowed job.status .failed := by
      rcases waiting with same | same <;> rw [same] <;> decide
    refine ⟨_,_,.moved linked member allowed rfl rfl ?_ ?_ ?_ ?_⟩
    · intro attempt
      split <;> rfl
    · intro attempt different
      rw [if_neg different]
    · intro _ attempt present same _ _
      rw [if_pos same]
    · intro going
      cases going

theorem abandoned_advanced {core after : Core} {jobId : String} {now : Nat} (linked : Linked core)
    (outcomes : Outcomes core) (abandoned : Abandoned core jobId now after) : Advanced core after := by
  cases abandoned with
  | none => exact .refl core
  | failed job member named allowed =>
    obtain ⟨attempt,present,same,_⟩ := linked.jobAttempt job member
    have nonempty : job.currentAttemptId ≠ "" := (outcomes attempt present job member same).named
    have attempts : (core.abandon job now).attempts = _ := if_neg nonempty
    refine ⟨_,_,.moved linked member allowed attempts rfl ?_ ?_ ?_ ?_⟩
    · intro attempt
      split <;> rfl
    · intro attempt different
      rw [if_neg fun chosen => different chosen.1]
    · intro _ attempt present same _ going
      rw [if_pos ⟨same,going⟩]
    · intro going
      cases going

theorem moved_advanced {core : Core} (linked : Linked core) {job : Job} (member : job ∈ core.jobs) {status : JobStatus}
    (allowed : Allowed job.status status) (going : status.terminal = false) (error : String) (now : Nat)
    {leases : List Lease} : Advanced core {core.move job.id status error now with leases := leases} := by
  refine ⟨fun attempt => attempt,_,.moved linked member allowed ?_ rfl ?_ ?_ ?_ ?_⟩
  · exact (List.map_id' _).symm
  · exact fun _ => rfl
  · exact fun _ _ => rfl
  · intro ended
    rw [going] at ended
    cases ended
  · exact fun _ _ _ _ live => live

theorem lost_advanced {core after : Core} {jobId : String} {now : Nat} (linked : Linked core)
    (lost : Lost core jobId now after) : Advanced core after := by
  cases lost with
  | refused => exact .refl core
  | already => exact ⟨_,_,.same rfl rfl⟩
  | lost job member named allowed error =>
    subst named
    exact moved_advanced linked member allowed rfl error now

theorem beat_advanced {core after : Core} (linked : Linked core) {workerId : String} {running : RunningJob} {job : Job}
    (entry : Entry core workerId running job) (going : job.status.terminal = false) {now : Nat}
    (attempts : after.attempts = beatAttempts core.attempts workerId running now)
    (jobs : after.jobs = core.jobs ∨ Allowed job.status .running ∧ after.jobs = (core.move job.id .running "" now).jobs) :
    Advanced core after := by
  have attemptId : ∀ attempt : Attempt, (if attempt.id = running.attemptId ∧ attempt.workerId = workerId then
      {attempt with status := .running, workerJobId := running.workerJobId, heartbeatAt := some now}
      else attempt).id = attempt.id := by
    intro attempt
    split <;> rfl
  have others : ∀ attempt : Attempt, attempt.id ≠ job.currentAttemptId →
      (if attempt.id = running.attemptId ∧ attempt.workerId = workerId then
        {attempt with status := .running, workerJobId := running.workerJobId, heartbeatAt := some now}
        else attempt) = attempt := by
    intro attempt different
    rw [if_neg fun chosen => different (chosen.1.trans (entry.current linked).symm)]
  have runs : ∀ attempt : Attempt, attempt.status.terminal = false →
      (if attempt.id = running.attemptId ∧ attempt.workerId = workerId then
        {attempt with status := .running, workerJobId := running.workerJobId, heartbeatAt := some now}
        else attempt).status.terminal = false := by
    intro attempt live
    split
    · rfl
    · exact live
  rcases jobs with jobs | ⟨allowed,jobs⟩
  · refine ⟨_,_,.written linked entry.member attempts jobs attemptId others ?_ fun _ attempt _ _ live => runs attempt live⟩
    intro ended
    rw [going] at ended
    cases ended
  · refine ⟨_,_,.moved linked entry.member allowed attempts jobs attemptId others ?_
      fun _ attempt _ _ live => runs attempt live⟩
    intro ended
    cases ended

theorem revoke_advanced {core : Core} (linked : Linked core) (outcomes : Outcomes core) {workerId : String}
    {running : RunningJob} {job : Job} (entry : Entry core workerId running job) {now : Nat}
    (halted : job.status.terminal = true → ∀ attempt ∈ core.attempts, attempt.id = running.attemptId →
      attempt.status = .failed ∧ attempt.error = fencingError) :
    Advanced core (core.revoke job running.attemptId now) := by
  have current := entry.current linked
  have attemptId : ∀ attempt : Attempt, (if attempt.id = running.attemptId then
      {attempt with status := .failed, finishedAt := some now, error := fencingError} else attempt).id = attempt.id := by
    intro attempt
    split <;> rfl
  have others : ∀ attempt : Attempt, attempt.id ≠ job.currentAttemptId → (if attempt.id = running.attemptId then
      {attempt with status := .failed, finishedAt := some now, error := fencingError} else attempt) = attempt := by
    intro attempt different
    rw [if_neg fun same => different (same.trans current.symm)]
  by_cases allowed : Allowed job.status .failed
  · refine ⟨_,_,.moved linked entry.member allowed rfl (if_pos allowed) attemptId others ?_ ?_⟩
    · intro _ attempt present same _ _
      rw [if_pos (same.trans current)]
    · intro going
      cases going
  · -- The job cannot fail any more: it is finished, and so was its attempt.
    have ended : job.status.terminal = true := by
      obtain ⟨attempt,present,same,_⟩ := linked.jobAttempt job entry.member
      have known := (outcomes attempt present job entry.member same).tracked
      by_contra going
      exact allowed (failed_allowed known (Bool.eq_false_iff.mpr going))
    refine ⟨_,_,.written linked entry.member rfl (if_neg allowed) attemptId others ?_ ?_⟩
    · intro _ attempt present same _
      obtain ⟨status,error⟩ := halted ended attempt present (same.trans current)
      rw [if_pos (same.trans current)]
      simp only [Attempt.outcome,status,error]
    · intro going
      rw [going] at ended
      cases ended

theorem beaten_advanced {committed : List Device} {state : State} {workerId : String} {running : RunningJob}
    {now : Nat} {after : Core} (linked : Linked state.db.core) (outcomes : Outcomes state.db.core)
    (orderly : (attemptConditions settings).beat committed workerId now state running)
    (beaten : Beaten settings committed state workerId running now after) : Advanced state.db.core after := by
  cases beaten with
  | idle => exact .refl _
  | revoked job entry expired => exact revoke_advanced linked outcomes entry fun ended => (orderly job entry ended).2
  | kept job entry renewed elsewhere refused =>
    have going : job.status.terminal = false := by
      by_contra ended
      exact renewed (orderly job entry (Bool.eq_true_of_not_eq_false ended)).1
    exact beat_advanced linked entry going rfl (.inl rfl)
  | resumed job entry renewed runs =>
    have going : job.status.terminal = false := by
      rcases runs with same | allowed
      · rw [same]
        rfl
      · exact allowed.live
    refine beat_advanced linked entry going rfl ?_
    rcases runs with same | allowed
    · exact .inl (if_pos same)
    · exact .inr ⟨allowed,if_neg allowed.ne⟩

/-- What may be watched beside the outcomes while a run goes on. -/
structure Watched (conditions : Conditions) (Watch : Core → Prop) : Prop where
  advanced : ∀ {core after : Core}, Outcomes core → Watch core → Advanced core after → Watch after
  created : ∀ {core after : Core} {data now}, Linked core → Watch core → Created core data now after → Watch after
  deleted : ∀ {core after : Core} {jobId}, Linked core → Watch core → conditions.delete jobId →
    Deleted core jobId after → Watch after

theorem created_outcomes {core after : Core} {data : JobCreate} {now : Nat} (linked : Linked core)
    (outcomes : Outcomes core) (created : Created core data now after) : Outcomes after := by
  cases created with
  | none => exact outcomes
  | added leases freshJob freshAttempt owned _ =>
    refine Table.Joined.append outcomes ?_ ?_ ?_
    · intro attempt new job member same
      obtain ⟨old,present,named,_⟩ := linked.jobAttempt job member
      rw [List.mem_singleton.mp new] at same
      exact absurd (named.trans same.symm) (freshAttempt old present)
    · intro attempt old job new same
      rw [List.mem_singleton.mp new] at same
      exact absurd same (freshAttempt attempt old)
    · intro attempt new job fresh same
      rw [List.mem_singleton.mp new,List.mem_singleton.mp fresh]
      refine ⟨rfl,?_,fun ended => ?_,fun _ => rfl⟩
      · exact Text.append_ne_empty _ _ (by decide)
      · cases ended

theorem deleted_outcomes {core after : Core} {jobId : String} (outcomes : Outcomes core)
    (deleted : Deleted core jobId after) : Outcomes after := by
  cases deleted with
  | none => exact outcomes
  | gone =>
    refine Table.Joined.subset outcomes ?_ ?_
    · exact fun _ inside => (Table.mem_delete.mp inside).1
    · exact fun _ inside => (Table.mem_delete.mp inside).1

theorem attemptConditions_keep {delete : String → Prop} {Watch : Core → Prop}
    (watched : Watched {attemptConditions settings with delete := delete} Watch) :
    Conditions.Keep settings {attemptConditions settings with delete := delete}
      (fun core => Outcomes core ∧ Watch core) := by
  have advance : ∀ {core after : Core}, Outcomes core ∧ Watch core → Advanced core after →
      Outcomes after ∧ Watch after := by
    intro core after holds advanced
    obtain ⟨first,second,advances⟩ := advanced
    exact ⟨holds.1.advance advances,watched.advanced holds.1 holds.2 ⟨first,second,advances⟩⟩
  constructor
  · intro core after data now linked holds _ created
    exact ⟨created_outcomes linked holds.1 created,watched.created linked holds.2 created⟩
  · intro state data attachToJob now after linked holds _ commanded
    exact advance holds (commanded_advanced linked commanded)
  · intro core after linked holds touched
    exact advance holds ⟨_,_,.same touched.attempts touched.jobs⟩
  · intro state command now after linked holds orderly synced
    exact advance holds (@synced_advanced settings _ _ _ _ linked orderly synced)
  · intro state jobId now after linked holds _ compensated
    exact advance holds (compensated_advanced linked compensated)
  · intro state jobId now after linked holds _ abandoned
    exact advance holds (abandoned_advanced linked holds.1 abandoned)
  · intro state job status error now linked holds orderly member allowed
    exact advance holds (moved_advanced linked member allowed (orderly ⟨job,member,rfl,allowed⟩) error now)
  · intro core after jobId linked holds allowed deleted
    exact ⟨deleted_outcomes holds.1 deleted,watched.deleted linked holds.2 allowed deleted⟩
  · intro core after jobId now linked holds lost
    exact advance holds (lost_advanced linked lost)
  · intro committed workerId now state running after linked holds orderly beaten
    exact advance holds (beaten_advanced linked holds.1 orderly beaten)
  · intro committed now pass job linked holds fenceable taken
    exact absurd taken fenceable

def Final (jobId : String) (attempt : Attempt) (core : Core) : Prop :=
  ∃ job ∈ core.jobs, job.id = jobId ∧ job.currentAttemptId = attempt.id ∧ job.status.terminal = true ∧
    ∃ current ∈ core.attempts, current.id = attempt.id ∧ current.outcome = attempt.outcome

theorem final_watched (jobId : String) (attempt : Attempt) :
    Watched {attemptConditions settings with delete := (· ≠ jobId)} (Final jobId attempt) := by
  constructor
  · rintro core after outcomes ⟨job,member,named,owns,ended,current,present,same,outcome⟩ ⟨first,second,advances⟩
    have joined : current.id = job.currentAttemptId := same.trans owns.symm
    have settled := outcomes current present job member joined
    obtain ⟨still,kept⟩ := advances.final current present job member joined settled ended
    refine ⟨second job,?_,(advances.jobId job).trans named,(advances.current job).trans owns,still,
      first current,?_,(advances.attemptId current).trans same,kept.trans outcome⟩
    · rw [advances.jobs]
      exact List.mem_map_of_mem member
    · rw [advances.attempts]
      exact List.mem_map_of_mem present
  · rintro core after data now linked ⟨job,member,named,owns,ended,current,present,rest⟩ created
    cases created with
    | none => exact ⟨job,member,named,owns,ended,current,present,rest⟩
    | added => exact ⟨job,List.mem_append_left _ member,named,owns,ended,current,List.mem_append_left _ present,rest⟩
  · rintro core after other linked ⟨job,member,named,owns,ended,current,present,same,outcome⟩ different deleted
    cases deleted with
    | none => exact ⟨job,member,named,owns,ended,current,present,same,outcome⟩
    | gone =>
      obtain ⟨owner,inside,belongs,currently⟩ := linked.attemptJob current present
      have equal : owner = job := linked.same_attempt inside member (by rw [currently,same,owns])
      have mine : current.jobId = jobId := by rw [← belongs,equal,named]
      refine ⟨job,?_,named,owns,ended,current,?_,same,outcome⟩
      · refine Table.mem_delete.mpr ⟨member,fun gone => different ?_⟩
        rw [← gone,named]
      · refine Table.mem_delete.mpr ⟨present,fun gone => different ?_⟩
        rw [← gone,mine]

/-- In every run under `attemptConditions` the current attempt of a finished job has the
status of the job, and however the run goes on, it keeps its status, error and result
until the job is deleted. -/
theorem finished_attempt_keeps_outcome (settings : Settings) (state after : State)
    (reached : Reached settings ((attemptConditions settings).guard settings) state) (job : Job)
    (member : job ∈ state.db.jobs) (ended : job.status.terminal = true)
    (later : Runs.Reached (apply settings) (fun current op => (attemptConditions settings).guard settings current op ∧
      op ≠ .deleteJob job.id) state after) :
    ∃ attempt ∈ state.db.attempts, attempt.id = job.currentAttemptId ∧ attempt.status = job.status ∧
      ∃ current ∈ after.db.attempts, current.id = attempt.id ∧ current.status = attempt.status ∧
        current.error = attempt.error ∧ current.result = attempt.result := by
  have watchless : Watched {attemptConditions settings with delete := fun _ => True} (fun _ => True) :=
    ⟨fun _ _ _ => trivial,fun _ _ _ => trivial,fun _ _ _ _ => trivial⟩
  have start : Outcomes ({} : State).db.core ∧ True := ⟨fun _ none => (by cases none),trivial⟩
  obtain ⟨linked,outcomes,_⟩ := (attemptConditions_keep watchless).reached start reached
  obtain ⟨attempt,present,same,_⟩ := linked.jobAttempt job member
  have status := (outcomes attempt present job member same).ended ended
  refine ⟨attempt,present,same,status,?_⟩
  have initially : Final job.id attempt state.db.core := ⟨job,member,rfl,same.symm,ended,attempt,present,rfl,rfl⟩
  have keep := @attemptConditions_keep settings (· ≠ job.id) _ (final_watched job.id attempt)
  have final : Linked after.db.core ∧ Outcomes after.db.core ∧ Final job.id attempt after.db.core := by
    refine Runs.Reached.invariant (fun current : State => Linked current.db.core ∧ Outcomes current.db.core ∧
      Final job.id attempt current.db.core) ⟨linked,outcomes,initially⟩ ?_ later
    rintro current op ⟨links,holds⟩ ⟨allowed,other⟩
    refine keep.apply op current links holds ?_
    cases op with
    | deleteJob jobId => exact fun gone => other (by rw [gone])
    | _ => exact allowed
  obtain ⟨_,_,_,_,_,_,_,kept,inside,named,outcome⟩ := final
  simp only [Attempt.outcome,Prod.mk.injEq] at outcome
  exact ⟨kept,inside,named,outcome.1,outcome.2.1,outcome.2.2⟩

theorem finished_attempt_keeps_outcome_acknowledged_twice : (Runs.exec (apply {}) {} completedRun).db.jobs ≠ [] ∧
    ∀ job ∈ (Runs.exec (apply {}) {} completedRun).db.jobs, job.status.terminal = true →
      ∃ attempt ∈ (Runs.exec (apply {}) {} completedRun).db.attempts, attempt.id = job.currentAttemptId ∧
        attempt.status = job.status ∧ ∃ current ∈ (Runs.exec (apply {}) {} (completedRun++
          [.syncJobFromCommand (deliveredAck .completed 2) 3])).db.attempts, current.id = attempt.id ∧
          current.status = attempt.status ∧ current.error = attempt.error ∧ current.result = attempt.result := by
  refine ⟨by decide +kernel,fun job member ended => ?_⟩
  have reached : Reached {} ((attemptConditions {}).guard {}) (Runs.exec (apply {}) {} completedRun) := by
    refine Runs.Reached.along .start _ ⟨trivial,trivial,trivial,trivial,trivial,trivial,?_,trivial⟩
    change RepeatsOutcome _ _
    decide +kernel
  rw [Runs.exec_append]
  refine finished_attempt_keeps_outcome {} _ _ reached job member ended (Runs.Reached.along .start _ ⟨⟨?_,?_⟩,trivial⟩)
  · change RepeatsOutcome _ _
    decide +kernel
  · intro wrong
    cases wrong

/-- A heartbeat built while the test ran and processed after its completed ACK fails the attempt. -/
theorem late_heartbeat_changes_outcome : ¬ ∀ state after, Reached {} acknowledged state → ∀ job ∈ state.db.jobs,
    job.status.terminal = true → Runs.Reached (apply {}) (fun current op => acknowledged current op ∧
      op ≠ .deleteJob job.id) state after →
    ∃ attempt ∈ state.db.attempts, attempt.id = job.currentAttemptId ∧ attempt.status = job.status ∧
      ∃ current ∈ after.db.attempts, current.id = attempt.id ∧ current.status = attempt.status ∧
        current.error = attempt.error ∧ current.result = attempt.result := by
  intro always
  have reached : Reached {} acknowledged (Runs.exec (apply {}) {} completedRun) :=
    Runs.Reached.along .start _ (by decide +kernel)
  have kept : ∀ job ∈ (Runs.exec (apply {}) {} completedRun).db.jobs, job.status.terminal = true →
      ∃ attempt ∈ (Runs.exec (apply {}) {} completedRun).db.attempts, attempt.id = job.currentAttemptId ∧
        attempt.status = job.status ∧ ∃ current ∈ (apply {} (.heartbeat "w1" {
          runningJobs := [{workerJobId := "wj-job-1", attemptId := "attempt-1"}]
          devices := [{serial := "s1"}]} 3) (Runs.exec (apply {}) {} completedRun)).db.attempts,
          current.id = attempt.id ∧ current.status = attempt.status ∧ current.error = attempt.error ∧
          current.result = attempt.result := by
    intro job member ended
    refine always _ _ reached job member ended (.step .start _ ⟨trivial,?_⟩)
    intro wrong
    cases wrong
  revert kept
  decide +kernel

end GmsRemoteTest.Cluster
