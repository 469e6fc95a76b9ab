import GmsRemoteTest.Automation.Orchestrator
import GmsRemoteTest.Lib.Json

/-! The sweep that cancels runs over their own queue or output-idle budget. Each listed run is judged and, where it is overdue,
cancelled in a turn of its own; what others do between two turns is part of the turn. -/
namespace GmsRemoteTest.Automation.ExecutionPolicy
open Json Runs

structure ExecutionOptions where
  shardCount : Nat
  queueTimeoutSeconds : Nat
  executionTimeoutSeconds : Nat
  outputIdleTimeoutSeconds : Nat
  preparations : List String
deriving DecidableEq

def PREPARATION_TEMPLATES : List String := ["stay_awake","animations_off","wifi_on"]

def decimal (digits : List Char) : Nat := digits.foldl (fun number digit => number * 10 + (digit.toNat - 48)) 0

def integer : Value → Option Int
  | .number text =>
    if text.toList.any fun c => c == '.' || c == 'e' || c == 'E' then none
    else match text.toList with
      | '-' :: digits => some (-(decimal digits : Int))
      | digits => some (decimal digits)
  | _ => none

/-- One of the limited options; `none` is `ValueError`. -/
def limited (fields : List (String × Value)) (key : String) (maximum : Nat) (timeout : Bool) : Option Nat := do
  let number ← integer ((fields.lookup key).getD (.number "0"))
  if number < 0 ∨ maximum < number ∨ timeout = true ∧ 0 < number ∧ number < 60 then none else some number.toNat

def template : Value → Option String
  | .string action => if action ∈ PREPARATION_TEMPLATES then some action else none
  | _ => none

def preparations (fields : List (String × Value)) : Option (List String) :=
  match (fields.lookup "preparations").getD (.array []) with
  | .array actions => if 8 < actions.length then none else (actions.mapM template).filter (·.Nodup)
  | _ => none

def validateExecutionOptions (fields : List (String × Value)) : Option ExecutionOptions := do
  let shardCount ← limited fields "shard_count" 32 false
  let queueTimeoutSeconds ← limited fields "queue_timeout_seconds" 604800 true
  let executionTimeoutSeconds ← limited fields "execution_timeout_seconds" 604800 true
  let outputIdleTimeoutSeconds ← limited fields "output_idle_timeout_seconds" 86400 true
  let preparations ← preparations fields
  return ⟨shardCount,queueTimeoutSeconds,executionTimeoutSeconds,outputIdleTimeoutSeconds,preparations⟩

def ExecutionOptions.default : ExecutionOptions := ⟨0,0,0,0,[]⟩

example : validateExecutionOptions [] = some .default := by decide +kernel

def runOptions (testPlanJson : String) : ExecutionOptions :=
  let fields := match loads (Text.orElse testPlanJson "{}").toList with
    | some (.object fields) => some fields
    | some _ => some []
    | none => none
  (fields.bind validateExecutionOptions).getD .default

inductive Raised
  | runtimeError | attributeError | valueError | other
deriving DecidableEq

structure ClusterJob where
  currentAttemptId : String
  ownerId : String
deriving DecidableEq

structure RunEvent where
  stage : String
  createdAt : String
deriving DecidableEq

structure Reading where
  now : Int
  job : Except Raised (Option ClusterJob)
  lastOutput : Except Raised String
  events : Except Raised (List RunEvent)

section
variable (fromisoformat : String → Option Int)

def elapsed (now : Int) (value : String) : Option Int :=
  (fromisoformat (String.ofList (value.toList.flatMap fun c => if c = 'Z' then "+00:00".toList else [c]))).map (now - ·)

def exceeded (now : Int) (value : String) (seconds : Nat) : Bool :=
  (elapsed fromisoformat now value).any fun age => (seconds : Int) * 1000000 < age

def idleSince (reading : Reading) (run : AutomationRun) : Except Raised (Option String) := do
  match ← reading.job with
  | none => return none
  | some job =>
    if job.currentAttemptId ≠ run.attemptId ∨ job.ownerId ≠ run.createdBy then return none
    let last ← reading.lastOutput
    if last ≠ "" then return some last
    let events ← reading.events
    return some (((events.find? (·.stage = "test_running")).map (·.createdAt)).getD "")

def judge (options : ExecutionOptions) (reading : Reading) (run : AutomationRun) : Except Raised (Option String) :=
  if run.status = .queued ∧ options.queueTimeoutSeconds ≠ 0 then
    let queued := if run.createdAt < run.notBefore then run.notBefore else run.createdAt
    .ok (if exceeded fromisoformat reading.now queued options.queueTimeoutSeconds then some "Run queue timeout exceeded" else none)
  else if run.status = .testRunning ∧ options.outputIdleTimeoutSeconds ≠ 0 ∧ run.clusterJobId ≠ "" then
    match idleSince reading run with
    | .error .runtimeError | .error .attributeError | .ok none => .ok none
    | .error error => .error error
    | .ok (some last) =>
      .ok (if exceeded fromisoformat reading.now last options.outputIdleTimeoutSeconds then some "Test output idle timeout exceeded" else none)
  else .ok none

end

variable {Env : Type}

structure Turn (Env : Type) where
  others : Shared Env → Shared Env
  reading : Reading
  now : String
  expiry : String
  cleanup : AutomationRun → Shared Env → Except Raised Answer × Shared Env

def release (owner id : String) (shared : Shared Env) : Shared Env := {shared with runs := RunStore.releaseClaim shared.runs id owner}

def transition (turn : Turn Env) (run : AutomationRun) (shared : Shared Env) : Shared Env :=
  if ended shared.runs run.id then shared
  else {shared with
    runs := (RunStore.updateRunIfStatus shared.runs run.id run.status .cancelled
      (staged run .cancelled {finishedAt := some turn.now} turn.now) turn.now).2}

def cancelRun (owner : String) (turn : Turn Env) (id : String) (shared : Shared Env) : Option Raised × Shared Env :=
  match RunStore.getRun shared.runs id with
  | none => (some .valueError,shared)
  | some found =>
    if found.status.terminal then (none,shared)
    else
      let claim := RunStore.claimRun shared.runs id owner turn.now turn.expiry
      if claim.1 = false then (some .runtimeError,shared)
      else
        let claimed := {shared with runs := claim.2}
        let run := (RunStore.getRun claim.2 id).getD found
        if run.status.terminal then (none,release owner id claimed)
        else
          let answered := turn.cleanup run claimed
          match answered.1 with
          | .error error => (some error,release owner id answered.2)
          | .ok answer =>
            if answer.success.holds then (none,release owner id (transition turn run answered.2))
            else (some .runtimeError,release owner id answered.2)

/-- `list_runs(limit=..)`: `ORDER BY created_at DESC, id DESC LIMIT ?`. -/
def listRuns (limit : Nat) (runs : List AutomationRun) : List AutomationRun :=
  (runs.insertionSort fun first second => toLex (second.createdAt,second.id) ≤ toLex (first.createdAt,first.id)).take limit

/-- The sweep so far: the runs it has called `cancel_run` for, and how many of the calls came back. -/
structure Sweep (Env : Type) where
  shared : Shared Env
  attempted : List String
  cancelled : Nat

section
variable (fromisoformat : String → Option Int) (owner : String) (testPlanJson : String → String) (turns : String → Turn Env)

def verdict (run : AutomationRun) : Except Raised (Option String) :=
  judge fromisoformat (runOptions (testPlanJson run.id)) (turns run.id).reading run

def sweepTurn (sweep : Sweep Env) (run : AutomationRun) : Except Raised Unit × Sweep Env :=
  let shared := (turns run.id).others sweep.shared
  match verdict fromisoformat testPlanJson turns run with
  | .error error => (.error error,{sweep with shared := shared})
  | .ok none => (.ok (),{sweep with shared := shared})
  | .ok (some _) =>
    let cancel := cancelRun owner (turns run.id) run.id shared
    match cancel.1 with
    | some error => (.error error,⟨cancel.2,sweep.attempted++[run.id],sweep.cancelled⟩)
    | none => (.ok (),⟨cancel.2,sweep.attempted++[run.id],sweep.cancelled + 1⟩)

/-- The list is read once; the first error of a turn ends the sweep. -/
def enforceExtraTimeouts (shared : Shared Env) : Except Raised Nat × Sweep Env :=
  let swept := loop (sweepTurn fromisoformat owner testPlanJson turns) ⟨shared,[],0⟩ (listRuns 500 shared.runs)
  (swept.1.map fun _ => swept.2.cancelled,swept.2)

/-- The run is over its own budget when its turn comes. -/
def Overdue (run : AutomationRun) : Prop := ∃ reason, verdict fromisoformat testPlanJson turns run = .ok (some reason)

instance : DecidablePred (Overdue fromisoformat testPlanJson turns) := fun run =>
  decidable_of_iff ((verdict fromisoformat testPlanJson turns run).toOption.join.isSome = true) (by
    unfold Overdue
    rcases verdict fromisoformat testPlanJson turns run with _ | _ | _ <;> simp [Except.toOption])

def leased (turn : Turn Env) (found : AutomationRun) (shared : Shared Env) : AutomationRun :=
  (RunStore.getRun (RunStore.claimRun shared.runs found.id owner turn.now turn.expiry).2 found.id).getD found

def Cancellable (turn : Turn Env) (id : String) (shared : Shared Env) : Prop :=
  ∃ found, RunStore.getRun shared.runs id = some found ∧ (found.status.terminal = true ∨
    (∃ run ∈ shared.runs, RunStore.claimable id owner turn.now run) ∧ ((leased owner turn found shared).status.terminal = true ∨
      ∃ answer, (turn.cleanup (leased owner turn found shared)
        {shared with runs := (RunStore.claimRun shared.runs id owner turn.now turn.expiry).2}).1 = .ok answer ∧ answer.success.holds = true))

/-- The turn of a run does not end the sweep: it is judged, and cancelled where it is overdue. -/
def Undisturbed (sweep : Sweep Env) (run : AutomationRun) : Prop :=
  (∀ error, verdict fromisoformat testPlanJson turns run ≠ .error error) ∧
    (Overdue fromisoformat testPlanJson turns run → Cancellable owner (turns run.id) run.id ((turns run.id).others sweep.shared))

end

section
variable {fromisoformat : String → Option Int} {owner : String} {testPlanJson : String → String} {turns : String → Turn Env}

theorem cancelRun_none {turn : Turn Env} {id : String} {shared : Shared Env} :
    (cancelRun owner turn id shared).1 = none ↔ Cancellable owner turn id shared := by
  unfold cancelRun Cancellable
  cases fetched : RunStore.getRun shared.runs id with
  | none => simp
  | some found =>
    have named : found.id = id := @Table.fetch_selects AutomationRun (fun run => run.id = id) _ _ _ fetched
    simp only [Option.some.injEq,exists_eq_left',leased,named]
    by_cases past : found.status.terminal = true
    · simp [past]
    · have free : (RunStore.claimRun shared.runs id owner turn.now turn.expiry).1 = true ↔
          ∃ run ∈ shared.runs, RunStore.claimable id owner turn.now run := decide_eq_true_iff
      rw [← free]
      generalize RunStore.claimRun shared.runs id owner turn.now turn.expiry = claim
      cases claim.1 with
      | false => simp [past]
      | true =>
        generalize (RunStore.getRun claim.2 id).getD found = run
        by_cases late : run.status.terminal = true
        · simp [past,late]
        · simp only [past,late]
          generalize turn.cleanup run _ = answered
          cases answered.1 with
          | error error => simp
          | ok answer => by_cases done : answer.success.holds = true <;> simp [done]

theorem passes_iff {sweep : Sweep Env} {run : AutomationRun} :
    Passes (sweepTurn fromisoformat owner testPlanJson turns) sweep run ↔ Undisturbed fromisoformat owner testPlanJson turns sweep run := by
  unfold Passes Undisturbed Overdue sweepTurn
  rw [← cancelRun_none]
  dsimp only
  generalize verdict fromisoformat testPlanJson turns run = found
  rcases found with error | _ | reason
  · simp
  · simp
  · generalize cancelRun owner (turns run.id) run.id ((turns run.id).others sweep.shared) = cancel
    obtain ⟨raised,after⟩ := cancel
    cases raised <;> simp

theorem sweepTurn_attempts (sweep : Sweep Env) (run : AutomationRun) :
    (sweepTurn fromisoformat owner testPlanJson turns sweep run).2.attempted =
      sweep.attempted ++ if Overdue fromisoformat testPlanJson turns run then [run.id] else [] := by
  rcases found : verdict fromisoformat testPlanJson turns run with error | _ | reason
  · have calm : ¬Overdue fromisoformat testPlanJson turns run := fun ⟨_,past⟩ => (nomatch found.symm.trans past)
    simp [sweepTurn,found,calm]
  · have calm : ¬Overdue fromisoformat testPlanJson turns run := fun ⟨_,past⟩ => (nomatch found.symm.trans past)
    simp [sweepTurn,found,calm]
  · have overdue : Overdue fromisoformat testPlanJson turns run := ⟨reason,found⟩
    simp only [sweepTurn,found,overdue,if_true]
    cases (cancelRun owner (turns run.id) run.id ((turns run.id).others sweep.shared)).1 <;> rfl

theorem listRuns_mem {limit : Nat} {runs : List AutomationRun} {run : AutomationRun} (listed : run ∈ listRuns limit runs) : run ∈ runs :=
  (List.mem_insertionSort _).mp (List.mem_of_mem_take listed)

theorem listRuns_nodup {limit : Nat} {runs : List AutomationRun} (distinct : runs.Nodup) : (listRuns limit runs).Nodup :=
  ((List.perm_insertionSort _ runs).nodup_iff.mpr distinct).sublist (List.take_sublist ..)

theorem attempted_iff {shared : Shared Env} (distinct : (shared.runs.map (·.id)).Nodup) {run : AutomationRun} (member : run ∈ shared.runs) :
    run.id ∈ (enforceExtraTimeouts fromisoformat owner testPlanJson turns shared).2.attempted ↔
      run ∈ turned (sweepTurn fromisoformat owner testPlanJson turns) ⟨shared,[],0⟩ (listRuns 500 shared.runs) ∧
        Overdue fromisoformat testPlanJson turns run := by
  have record : (loop (sweepTurn fromisoformat owner testPlanJson turns) ⟨shared,[],0⟩ (listRuns 500 shared.runs)).2.attempted = _ :=
    loop_record sweepTurn_attempts ⟨shared,[],0⟩ (listRuns 500 shared.runs)
  show run.id ∈ (loop (sweepTurn fromisoformat owner testPlanJson turns) ⟨shared,[],0⟩ (listRuns 500 shared.runs)).2.attempted ↔ _
  rw [record,List.nil_append,List.mem_flatMap]
  constructor
  · rintro ⟨other,turn,entry⟩
    split at entry
    next overdue =>
      have there := listRuns_mem ((turned_sublist _ _).subset turn)
      have same : other = run := Table.eq_of_key distinct there member (List.mem_singleton.mp entry).symm
      exact same ▸ ⟨turn,overdue⟩
    next => cases entry
  · rintro ⟨turn,overdue⟩
    exact ⟨run,turn,by simp [overdue]⟩

/-- Every overdue run is attempted, whatever becomes of the others, exactly where each is among the runs that are listed and the turn of
no run listed before it ends the sweep. -/
theorem overdue_attempted {shared : Shared Env} (distinct : (shared.runs.map (·.id)).Nodup) :
    (∀ run ∈ shared.runs, run.id ∈ (enforceExtraTimeouts fromisoformat owner testPlanJson turns shared).2.attempted ↔
      Overdue fromisoformat testPlanJson turns run) ↔
    ∀ run ∈ shared.runs, Overdue fromisoformat testPlanJson turns run →
      ∃ earlier later, listRuns 500 shared.runs = earlier++run::later ∧
        Along (fun sweep run => (sweepTurn fromisoformat owner testPlanJson turns sweep run).2)
          (Undisturbed fromisoformat owner testPlanJson turns) ⟨shared,[],0⟩ earlier := by
  have rows := distinct.of_map
  have listed : (listRuns 500 shared.runs).Nodup := listRuns_nodup rows
  have passes : Passes (sweepTurn fromisoformat owner testPlanJson turns) = Undisturbed fromisoformat owner testPlanJson turns := by
    funext sweep run
    exact propext passes_iff
  constructor
  · intro attempts run member overdue
    obtain ⟨turn,_⟩ := (attempted_iff distinct member).mp ((attempts run member).mpr overdue)
    obtain ⟨earlier,later,split⟩ := List.append_of_mem ((turned_sublist _ _).subset turn)
    rw [split] at turn listed
    exact ⟨earlier,later,split,passes ▸ (mem_turned listed _).mp turn⟩
  · intro undisturbed run member
    rw [attempted_iff distinct member]
    refine ⟨fun both => both.2,fun overdue => ⟨?_,overdue⟩⟩
    obtain ⟨earlier,later,split,along⟩ := undisturbed run member overdue
    rw [split] at listed ⊢
    exact (mem_turned listed _).mpr (passes ▸ along)

end

def waiting (id createdAt leaseOwner : String) : AutomationRun :=
  {({} : RunRequest).toRunDict id createdAt with leaseOwner := leaseOwner,leaseExpiresAt := leaseOwner}

def minute (_ : String) : String := "\x7b\"queue_timeout_seconds\":60\x7d"

def anHourLater (_ : String) : Turn Unit :=
  ⟨id,⟨3600000000,.ok none,.ok "",.ok []⟩,"now","soon",fun _ shared => (.ok {success := .yes},shared)⟩

def newerHeld : Shared Unit := ⟨[waiting "older" "1" "",waiting "newer" "2" "worker"],(),[]⟩

/-- The refusal of the newer run ends the sweep before the older one. -/
theorem older_left_waiting : ¬∀ run ∈ newerHeld.runs, Overdue (fun _ => some 0) minute anHourLater run →
    run.id ∈ (enforceExtraTimeouts (fun _ => some 0) "owner" minute anHourLater newerHeld).2.attempted := by
  decide +kernel

theorem older_held_undisturbed :
    ∃ earlier later, listRuns 500 [waiting "older" "1" "worker",waiting "newer" "2" ""] = earlier++waiting "older" "1" "worker"::later ∧
      Along (fun sweep run => (sweepTurn (fun _ => some 0) "owner" minute anHourLater sweep run).2)
        (Undisturbed (fun _ => some 0) "owner" minute anHourLater)
        ⟨⟨[waiting "older" "1" "worker",waiting "newer" "2" ""],(),[]⟩,[],0⟩ earlier :=
  (@overdue_attempted Unit (fun _ => some 0) "owner" minute anHourLater ⟨[waiting "older" "1" "worker",waiting "newer" "2" ""],(),[]⟩
    (by decide +kernel)).mp (by decide +kernel) (waiting "older" "1" "worker") (by decide +kernel) (by decide +kernel)

end GmsRemoteTest.Automation.ExecutionPolicy
