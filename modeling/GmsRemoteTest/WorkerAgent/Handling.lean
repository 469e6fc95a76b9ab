import GmsRemoteTest.Lib.Runs
import GmsRemoteTest.WorkerAgent.Runtime

/-! The Worker agent between two durable writes. The main loop handles one command at a time,
background threads and job monitors run beside it, and the process may stop anywhere; what
it knows after a restart is its database. -/
namespace GmsRemoteTest.WorkerAgent
open Cluster Text

inductive Route
  | background | start | inline
deriving DecidableEq, Repr

def Delivery.route (command : Delivery) : Route :=
  match command.kind with
  | .startTest => .start
  | .stopTest | .uninstallAgent | .inline _ => .inline
  | .suiteAction => if command.detached then .background else .inline
  | _ => .background

inductive Stage
  | received
  | admitted (revoked : List String)
  | validated
  | launched (pid : Nat)
  | recorded
  | saved
  | acknowledged
  | raised (error : String)
deriving DecidableEq, Repr

/-- How far a restart is: `prune_inactive_fences`, `recoverable_jobs`, `fail_interrupted_commands`. -/
inductive Boot
  | pruning | recovering | interrupting | up
deriving DecidableEq, Repr

/-- Everything but `db` is lost with the process; `launched` and `executed` list the test
processes and background commands that were ever started, in order. -/
structure Agent where
  db : WorkerDb := {}
  boot : Boot := .pruning
  handling : Option (Delivery × Stage) := none
  threads : List Delivery := []
  working : List Delivery := []
  monitors : List JobRow := []
  launched : List String := []
  executed : List String := []

def markCommandSynced (db : WorkerDb) (id : String) : WorkerDb :=
  let commands := Table.update (fun row => row.id = id) (fun row => {row with controllerSynced := true}) db.commands
  {db with commands := commands}

def ackCommand (db : WorkerDb) (id : String) (delivered : Bool) : WorkerDb :=
  if delivered then markCommandSynced db id else db

def insertJob (db : WorkerDb) (command : Delivery) (pid : Nat) : WorkerDb :=
  let row : JobRow :=
    { workerJobId := orElse command.workerJobId ("wj-" ++ command.id), jobId := command.jobId, attemptId := command.attemptId
      pid := pid, status := .running, devices := command.devices, commandId := command.id }
  let jobs := Table.delete (fun job => job.workerJobId = row.workerJobId) db.jobs++[row]
  {db with jobs := jobs}

def setJobStatus (db : WorkerDb) (workerJobId : String) (status : ProcessStatus) (error : String) : WorkerDb :=
  let jobs := Table.update (fun job => job.workerJobId = workerJobId)
    (fun job => {job with status := status, error := error}) db.jobs
  {db with jobs := jobs}

def JobRow.pending (job : JobRow) : Prop := job.status = .running ∨ job.status = .stopping

instance (job : JobRow) : Decidable job.pending := inferInstanceAs (Decidable (job.status = .running ∨ job.status = .stopping))

def recoverableJobs (db : WorkerDb) (alive : JobRow → Bool) : List JobRow × WorkerDb :=
  let recovered := Table.select (fun job => job.pending ∧ alive job = true) db.jobs
  let jobs := Table.update (fun job => job.pending ∧ alive job = false) (fun job =>
    if job.status = .stopping then
      {job with status := .cancelled, error := "process stopped while Worker Agent was restarting"}
    else {job with status := .failed, error := "process missing after agent restart"}) db.jobs
  (recovered,{db with jobs := jobs})

def failInterruptedCommands (db : WorkerDb) : WorkerDb :=
  let commands := Table.update (fun row => row.status = .running ∧
      ¬ ∃ job ∈ db.jobs, job.pending ∧ job.commandId ≠ "" ∧ job.commandId = row.id)
    (fun row => {row with status := .failed, controllerSynced := false
                          result := {body := "\x7b\"success\":false,\"reconcile_required\":true\x7d"}
                          error := "Worker Agent restarted while the command was running; " ++
                            "the operation was not resumed and device state must be verified"}) db.commands
  {db with commands := commands}

def handle (agent : Agent) (command : Delivery) (delivered : Bool) : Agent :=
  match previousCommand agent.db command.id with
  | none => {agent with handling := some (command,.received)}
  | some previous =>
    let released :=
      if command.kind = .deviceAction ∧ (previous.status = .completed ∨ previous.status = .failed) then
        releaseFencing agent.db command
      else agent.db
    {agent with db := ackCommand released command.id delivered}

def dispatch (agent : Agent) (command : Delivery) (outcome : Except String Nat) : Agent :=
  match command.route with
  | .background =>
    {agent with db := saveCommand agent.db command.id .running {} "", handling := some (command,.saved)}
  | .start => match outcome with
    | .error error => {agent with handling := some (command,.raised error)}
    | .ok pid => {agent with launched := agent.launched++[command.id], handling := some (command,.launched pid)}
  | .inline => match outcome with
    | .error error => {agent with handling := some (command,.raised error)}
    | .ok _ => {agent with db := saveCommand agent.db command.id .completed {} "", handling := some (command,.saved)}

def startThread (agent : Agent) (command : Delivery) : Agent :=
  match command.route with
  | .background => {agent with threads := agent.threads++[command], handling := none}
  | .start =>
    let job := Table.select (fun job => job.commandId = command.id) agent.db.jobs
    {agent with monitors := agent.monitors++job, handling := none}
  | .inline => {agent with handling := none}

def proceed (config : WorkerConfig) (agent : Agent) (command : Delivery) (outcome : Except String Nat) : Stage → Agent
  | .received => match checkTokens config command with
    | .error error => {agent with handling := some (command,.raised error.text)}
    | .ok _ => match admitTokens agent.db.fences command.leaseTokens with
      | .error error => {agent with handling := some (command,.raised error.text)}
      | .ok (fences,revoked) =>
        {agent with db := {agent.db with fences := fences}, handling := some (command,.admitted revoked)}
  | .admitted revoked => {agent with db := revokeSuperseded agent.db revoked, handling := some (command,.validated)}
  | .validated => dispatch agent command outcome
  | .launched pid => match outcome with
    -- The insert failed: the process is killed and the error is raised again.
    | .error error => {agent with handling := some (command,.raised error)}
    | .ok _ => {agent with db := insertJob agent.db command pid, handling := some (command,.recorded)}
  | .recorded => {agent with db := saveCommand agent.db command.id .running {} "", handling := some (command,.saved)}
  | .saved => {agent with db := ackCommand agent.db command.id outcome.isOk, handling := some (command,.acknowledged)}
  | .acknowledged => match outcome with
    | .error error => {agent with handling := some (command,.raised error)}
    | .ok _ => startThread agent command
  | .raised error =>
    let saved := saveCommand agent.db command.id .failed {} error
    let released := if command.kind = .deviceAction then releaseFencing saved command else saved
    {agent with db := ackCommand released command.id outcome.isOk, handling := none}

def CommandKind.releases : CommandKind → Bool
  | .deviceAction | .usbipAttach | .usbipDetach | .deviceExport | .flashFirmware | .flashGsi => true
  | _ => false

def work (agent : Agent) (command : Delivery) : Agent :=
  {agent with threads := agent.threads.erase command, working := agent.working++[command]
              executed := agent.executed++[command.id]}

def report (agent : Agent) (command : Delivery) (status : CommandStatus) (error : String) : Agent :=
  let saved := saveCommand agent.db command.id status {} error
  if status.terminal then
    let released := if command.kind.releases then releaseFencing saved command else saved
    {agent with db := released, working := agent.working.erase command}
  else {agent with db := saved}

def settle (agent : Agent) (job : JobRow) (status : CommandStatus) (error : String) : Agent :=
  let saved := saveCommand agent.db job.commandId status {} error
  {agent with db := releaseAttemptFencing saved job.attemptId, monitors := agent.monitors.erase job}

def bootStep (agent : Agent) (alive : JobRow → Bool) : Agent :=
  match agent.boot with
  | .pruning => {agent with db := pruneInactiveFences agent.db, boot := .recovering}
  | .recovering =>
    let recovered := recoverableJobs agent.db alive
    {agent with db := recovered.2, monitors := recovered.1, boot := .interrupting}
  | .interrupting => {agent with db := failInterruptedCommands agent.db, boot := .up}
  | .up => agent

inductive AgentStep
  | deliver (command : Delivery) (delivered : Bool)
  | proceed (outcome : Except String Nat)
  | work (command : Delivery)
  | report (command : Delivery) (status : CommandStatus) (error : String)
  | exit (workerJobId : String) (status : ProcessStatus) (error : String)
  | settle (job : JobRow) (status : CommandStatus) (error : String)
  | crash
  | boot (alive : JobRow → Bool)

def agentStep (config : WorkerConfig) (step : AgentStep) (agent : Agent) : Agent :=
  match step with
  | .deliver command delivered =>
    if agent.boot = .up ∧ agent.handling = none then handle agent command delivered else agent
  | .proceed outcome => match agent.handling with
    | none => agent
    | some (command,stage) => proceed config agent command outcome stage
  | .work command => if command ∈ agent.threads then work agent command else agent
  | .report command status error => if command ∈ agent.working then report agent command status error else agent
  | .exit workerJobId status error => {agent with db := setJobStatus agent.db workerJobId status error}
  | .settle job status error => if job ∈ agent.monitors then settle agent job status error else agent
  | .crash => {agent with boot := .pruning, handling := none, threads := [], working := [], monitors := []}
  | .boot alive => bootStep agent alive

end GmsRemoteTest.WorkerAgent
