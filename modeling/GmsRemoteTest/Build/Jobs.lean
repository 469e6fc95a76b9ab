import GmsRemoteTest.Lib.Interleaving

/-! The build service: jobs in a table that every process of the Controller works on, and builds in sessions on the
build servers. Each call of the store is one step, and so is each call of a backend. -/
namespace GmsRemoteTest.Build
open Interleaving

inductive Status
  | queued | running | completed | failed | cancelled
deriving DecidableEq, Repr

def TERMINAL_JOB_STATUSES : List Status := [.completed,.failed,.cancelled]

structure Job where
  serverId : String
  templateId : String
  status : Status
  remoteSession : String := ""
  remoteLogPath : String := ""
  artifactJson : String := "[]"
  error : String := ""

structure Server where
  maxConcurrentJobs : Int := 1
  /-- `auth.type`, when there is one. -/
  authType : Option String := none

/-- `int(server.get("max_concurrent_jobs") or 1)`. -/
def Server.limit (server : Server) : Int := if server.maxConcurrentJobs = 0 then 1 else server.maxConcurrentJobs

def Server.withRuntimePassword (server : Server) (password : String) : Server :=
  if password = "" then server else {server with authType := some "runtime_password"}

/-- The table of jobs with the ids it ever had, in their order, and the sessions on the servers. `claims` and `starts` record
which jobs were claimed, and for which the backend's `start` was called. -/
structure Store where
  ids : List String := []
  jobs : String → Option Job := fun _ => none
  sessions : String → Bool := fun _ => false
  claims : List String := []
  starts : List String := []

namespace Store
variable (store : Store)

def listJobs (status : Status) (limit : Nat) : List (String × Job) :=
  (store.ids.reverse.filterMap fun id => ((store.jobs id).filter fun job => job.status = status).map fun job => (id,job)).take limit

def updateJob (id : String) (update : Job → Job) : Store :=
  {store with jobs := Function.update store.jobs id ((store.jobs id).map update)}

def deleteJob (id : String) : Store := {store with jobs := Function.update store.jobs id none}

def runsOn (serverId : String) (id : String) : Bool :=
  (store.jobs id).any fun job => job.serverId = serverId && job.status = .running

/-- `SELECT COUNT(*) … WHERE server_id = ? AND status = 'running'`. -/
def running (serverId : String) : Nat := store.ids.countP (store.runsOn serverId)

def claimQueuedJob (id serverId : String) (maxConcurrent : Int) : Option Store :=
  if 0 < maxConcurrent ∧ maxConcurrent ≤ store.running serverId then none
  else match store.jobs id with
    | none => none
    | some job =>
      if job.status = .queued then
        some {store with jobs := Function.update store.jobs id (some {job with status := .running}),claims := store.claims++[id]}
      else none

end Store

def sessionName (id : String) : String := "gms_build_" ++ id

inductive Deferral
  | start | queue | refuse
deriving DecidableEq

def maybeDeferForCapacity (store : Store) (serverId : String) (server : Server) (start : Bool) : Deferral :=
  if start = false then .queue
  else if server.limit ≤ 0 then .start
  else if (((store.listJobs .running 500).filter fun entry => entry.2.serverId = serverId).length : Int) < server.limit then .start
  else if server.authType ∈ [some "key",some "env_password",some ""] then .queue else .refuse

structure CreateRequest where
  serverId : String
  templateId : String
  serverPassword : String := ""
  start : Bool := true

inductive Report
  | completed (artifactJson : String)
  | failed (error artifactJson : String)

def Report.status : Report → Status
  | .completed _ => .completed
  | .failed _ _ => .failed

def Report.write (job : Job) : Report → Job
  | .completed artifactJson => {job with status := .completed,artifactJson}
  | .failed error artifactJson => {job with status := .failed,error,artifactJson}

structure Seen where
  status : Status
  session : String

/-- Where a call is; `rest` are the queued jobs, with their servers, that `start_queued_jobs` has left. -/
inductive Task
  | idle
  | creating (request : CreateRequest)
  | inserting (request : CreateRequest) (start : Bool)
  | listing
  | sweeping (rest : List (String × String))
  | starting (id : String) (rest : List (String × String))
  | claiming (id serverId : String) (limit : Int) (rest : List (String × String))
  | launching (id : String) (rest : List (String × String))
  | failing (id error : String) (rest : List (String × String))
  | recording (id session logPath : String) (rest : List (String × String))
  | polling (id : String)
  | probing (id : String)
  | reporting (id : String) (report : Report)
  | cancelling (id : String)
  | stopping (id : String) (seen : Seen)
  | ending (id : String) (seen : Seen)
  | deleting (id : String)
  | removing (id : String)

/-- What a step reads from elsewhere: a new id, the password that is kept for a job, or what a backend answers. -/
inductive Answer
  | done
  | raised
  | fresh (id : String)
  | password (text : String)
  | launched (logPath : String)
  /-- The backend's `start` raised; its session may run all the same. -/
  | refused (error : String) (session : Bool)
  | polled (report : Option Report)

def resume : List (String × String) → Task
  | [] => .idle
  | rest => .sweeping rest

section
variable (servers : String → Option Server)

/-- The next step of a call. Where it raises, the call ends, but `start_queued_jobs` goes on after a start that raised. -/
def act (store : Store) (task : Task) (answer : Answer) : Store × Task :=
  match task with
  | .idle => (store,.idle)
  | .creating request => match servers request.serverId with
    | none => (store,.idle)
    | some server =>
      match maybeDeferForCapacity store request.serverId (server.withRuntimePassword request.serverPassword) request.start with
      | .start => (store,.inserting request true)
      | .queue => (store,.inserting request false)
      | .refuse => (store,.idle)
  | .inserting request start => match answer with
    | .fresh id =>
      if id ∈ store.ids then (store,.idle)
      else
        let job : Job := {serverId := request.serverId,templateId := request.templateId,status := .queued}
        ({store with ids := store.ids++[id],jobs := Function.update store.jobs id (some job)},
          if start = true then .starting id [] else .idle)
    | _ => (store,.idle)
  | .listing => (store,resume ((store.listJobs .queued 100).map fun entry => (entry.1,entry.2.serverId)))
  | .sweeping [] => (store,.idle)
  | .sweeping ((id,serverId)::rest) => match servers serverId,answer with
    | some server,.password text =>
      if maybeDeferForCapacity store serverId (server.withRuntimePassword text) true = .start then (store,.starting id rest)
      else (store,resume rest)
    | _,_ => (store,.idle)
  | .starting id rest => match store.jobs id with
    | none => (store,resume rest)
    | some job =>
      if job.status ≠ .queued then (store,resume rest)
      else match servers job.serverId,answer with
        | some server,.done => (store,.claiming id job.serverId server.limit rest)
        | _,_ => (store,resume rest)
  | .claiming id serverId limit rest => match store.claimQueuedJob id serverId limit with
    | none => (store,resume rest)
    | some claimed => (claimed,.launching id rest)
  | .launching id rest => match answer with
    | .launched logPath =>
      ({store with starts := store.starts++[id],sessions := Function.update store.sessions (sessionName id) true},
        .recording id (sessionName id) logPath rest)
    | .refused error session =>
      ({store with starts := store.starts++[id],sessions := Function.update store.sessions (sessionName id) session},.failing id error rest)
    | _ => (store,.launching id rest)
  | .failing id error rest => (store.updateJob id fun job => {job with status := .failed,error},resume rest)
  | .recording id session logPath rest =>
    (store.updateJob id fun job => {job with remoteSession := session,remoteLogPath := logPath},resume rest)
  | .polling id => match store.jobs id with
    | none => (store,.idle)
    | some job =>
      if job.status ∈ TERMINAL_JOB_STATUSES then (store,.idle)
      else if job.status = .queued then (store,.starting id [])
      else (store,.probing id)
  | .probing id => match answer with
    | .polled (some report) => (store,.reporting id report)
    | _ => (store,.idle)
  | .reporting id report => (store.updateJob id fun job => report.write job,.idle)
  | .cancelling id => match store.jobs id with
    | none => (store,.idle)
    | some job =>
      if job.status ∈ TERMINAL_JOB_STATUSES then (store,.idle)
      else if job.remoteSession ≠ "" then (store,.stopping id ⟨job.status,job.remoteSession⟩)
      else (store,.ending id ⟨job.status,job.remoteSession⟩)
  | .stopping id seen => match answer with
    | .done => ({store with sessions := Function.update store.sessions seen.session false},.ending id seen)
    | _ => (store,.idle)
  | .ending id _ => (store.updateJob id fun job => {job with status := .cancelled},.idle)
  | .deleting id => match store.jobs id with
    | none => (store,.idle)
    | some job => if job.status ∈ TERMINAL_JOB_STATUSES then (store,.removing id) else (store,.idle)
  | .removing id => (store.deleteJob id,.idle)

/-- The calls of the service; outside of them a session ends when its build does. -/
def service : System Store Task Answer String where
  idle := .idle
  begins task := match task with
    | .creating _ | .listing | .starting _ [] | .polling _ | .cancelling _ | .deleting _ => True
    | _ => False
  act := act servers
  change store session := {store with sessions := Function.update store.sessions session false}

end

end GmsRemoteTest.Build
