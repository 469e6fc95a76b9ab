import Mathlib.Data.List.Nodup
import GmsRemoteTest.Build.Jobs

/-! Jobs over every run of the build service. The claim of a queued job is conditional: a job is started once and a
server keeps to its limit. The writes that end a job are not, so that the rest holds only as long as each of them finds
the job as its call has read it. -/
namespace GmsRemoteTest.Build
open Interleaving

def Task.writes : Task → Option (String × (Job → Job))
  | .failing id error _ => some (id,fun job => {job with status := .failed,error})
  | .recording id session logPath _ => some (id,fun job => {job with remoteSession := session,remoteLogPath := logPath})
  | .reporting id report => some (id,fun job => report.write job)
  | .ending id _ => some (id,fun job => {job with status := .cancelled})
  | _ => none

inductive Effect (store : Store) (task : Task) : Store → Prop
  | none : Effect store task store
  | insert {id : String} {job : Job} (fresh : id ∉ store.ids) (status : job.status = .queued) (session : job.remoteSession = "") :
      Effect store task {store with ids := store.ids++[id],jobs := Function.update store.jobs id (some job)}
  | claim {id serverId : String} {limit : Int} {rest : List (String × String)} {job : Job} (point : task = .claiming id serverId limit rest)
      (found : store.jobs id = some job) (status : job.status = .queued) (free : 0 < limit → (store.running serverId : Int) < limit) :
      Effect store task {store with jobs := Function.update store.jobs id (some {job with status := .running}),claims := store.claims++[id]}
  | launch {id : String} {rest : List (String × String)} {session : Bool} (point : task = .launching id rest) :
      Effect store task {store with starts := store.starts++[id],sessions := Function.update store.sessions (sessionName id) session}
  | write {id : String} {update : Job → Job} (point : task.writes = some (id,update)) : Effect store task (store.updateJob id update)
  | stop {id : String} {seen : Seen} (point : task = .stopping id seen) :
      Effect store task {store with sessions := Function.update store.sessions seen.session false}
  | delete {id : String} : Effect store task (store.deleteJob id)

def Task.Quiet : Task → Prop
  | .claiming .. | .launching .. | .recording .. | .stopping .. | .ending .. => False
  | _ => True

/-- Everything a step can do to the store and to the call that takes it. -/
inductive Step (servers : String → Option Server) (store : Store) (task : Task) : Store → Task → Prop
  | quiet {after : Store} {next : Task} (effect : Effect store task after) (silent : next.Quiet) : Step servers store task after next
  | claiming {id : String} {rest : List (String × String)} {job : Job} {server : Server} (point : task = .starting id rest)
      (found : store.jobs id = some job) (known : servers job.serverId = some server) :
      Step servers store task store (.claiming id job.serverId server.limit rest)
  | launching {id serverId : String} {limit : Int} {rest : List (String × String)} {job : Job} (point : task = .claiming id serverId limit rest)
      (found : store.jobs id = some job) (status : job.status = .queued) (free : 0 < limit → (store.running serverId : Int) < limit) :
      Step servers store task
        {store with jobs := Function.update store.jobs id (some {job with status := .running}),claims := store.claims++[id]} (.launching id rest)
  | waiting {id : String} {rest : List (String × String)} (point : task = .launching id rest) : Step servers store task store (.launching id rest)
  | recording {id logPath : String} {rest : List (String × String)} (point : task = .launching id rest) :
      Step servers store task {store with starts := store.starts++[id],sessions := Function.update store.sessions (sessionName id) true}
        (.recording id (sessionName id) logPath rest)
  | stopping {id : String} {job : Job} (point : task = .cancelling id) (found : store.jobs id = some job)
      (live : job.status ∉ TERMINAL_JOB_STATUSES) (session : job.remoteSession ≠ "") :
      Step servers store task store (.stopping id ⟨job.status,job.remoteSession⟩)
  | ending {id : String} {job : Job} (point : task = .cancelling id) (found : store.jobs id = some job)
      (live : job.status ∉ TERMINAL_JOB_STATUSES) (session : job.remoteSession = "") :
      Step servers store task store (.ending id ⟨job.status,job.remoteSession⟩)
  | stopped {id : String} {seen : Seen} (point : task = .stopping id seen) :
      Step servers store task {store with sessions := Function.update store.sessions seen.session false} (.ending id seen)

theorem resume_quiet (rest : List (String × String)) : (resume rest).Quiet := by
  cases rest <;> trivial

theorem act_step (servers : String → Option Server) (store : Store) (task : Task) (answer : Answer) :
    Step servers store task (act servers store task answer).1 (act servers store task answer).2 := by
  cases task with
  | idle => exact .quiet .none trivial
  | listing => exact .quiet .none (resume_quiet _)
  | creating request =>
    dsimp only [act]
    split
    · exact .quiet .none trivial
    · split <;> exact .quiet .none trivial
  | inserting request start =>
    dsimp only [act]
    split
    · split
      · exact .quiet .none trivial
      · rename_i fresh
        refine .quiet (.insert fresh rfl rfl) ?_
        dsimp only
        split <;> trivial
    · exact .quiet .none trivial
  | sweeping rest =>
    match rest with
    | [] => exact .quiet .none trivial
    | (id,serverId)::rest =>
      dsimp only [act]
      split
      · split
        · exact .quiet .none trivial
        · exact .quiet .none (resume_quiet rest)
      · exact .quiet .none trivial
  | starting id rest =>
    dsimp only [act]
    split
    · exact .quiet .none (resume_quiet rest)
    · rename_i job found
      split
      · exact .quiet .none (resume_quiet rest)
      · split
        · rename_i known
          exact .claiming rfl found known
        · exact .quiet .none (resume_quiet rest)
  | claiming id serverId limit rest =>
    dsimp only [act,Store.claimQueuedJob]
    split
    · exact .quiet .none (resume_quiet rest)
    · rename_i claimed same
      split at same
      · cases same
      · rename_i free
        split at same
        · cases same
        · rename_i job found
          split at same
          · rename_i status
            cases same
            exact .launching rfl found status fun positive => by omega
          · cases same
  | launching id rest =>
    dsimp only [act]
    split
    · exact .recording rfl
    · exact .quiet (.launch rfl) trivial
    · exact .waiting rfl
  | failing id error rest => exact .quiet (.write rfl) (resume_quiet rest)
  | recording id session logPath rest => exact .quiet (.write rfl) (resume_quiet rest)
  | reporting id report => exact .quiet (.write rfl) trivial
  | ending id seen => exact .quiet (.write rfl) trivial
  | polling id =>
    dsimp only [act]
    split
    · exact .quiet .none trivial
    · split
      · exact .quiet .none trivial
      · split <;> exact .quiet .none trivial
  | probing id =>
    dsimp only [act]
    split <;> exact .quiet .none trivial
  | cancelling id =>
    dsimp only [act]
    split
    · exact .quiet .none trivial
    · rename_i found
      split
      · exact .quiet .none trivial
      · rename_i live
        split
        · rename_i session
          exact .stopping rfl found live session
        · rename_i session
          exact .ending rfl found live (Decidable.not_not.mp session)
  | stopping id seen =>
    dsimp only [act]
    split
    · exact .stopped rfl
    · exact .quiet .none trivial
  | deleting id =>
    dsimp only [act]
    split
    · exact .quiet .none trivial
    · split <;> exact .quiet .none trivial
  | removing id => exact .quiet .delete trivial

theorem Step.effect {servers : String → Option Server} {store : Store} {task : Task} {after : Store} {next : Task}
    (step : Step servers store task after next) : Effect store task after := by
  cases step with
  | quiet effect => exact effect
  | launching point found status free => exact .claim point found status free
  | recording point => exact .launch point
  | stopped point => exact .stop point
  | _ => exact .none

theorem Task.writes_kept {task : Task} {id : String} {update : Job → Job} (point : task.writes = some (id,update)) (job : Job) :
    (update job).serverId = job.serverId ∧ ((update job).status = job.status ∨ (update job).status ∈ TERMINAL_JOB_STATUSES) := by
  cases task with
  | reporting _ report =>
    cases point
    cases report <;> exact ⟨rfl,.inr (by simp [Report.write,TERMINAL_JOB_STATUSES])⟩
  | failing | ending =>
    cases point
    exact ⟨rfl,.inr (by simp [TERMINAL_JOB_STATUSES])⟩
  | recording =>
    cases point
    exact ⟨rfl,.inl rfl⟩
  | _ => cases point

section
variable (servers : String → Option Server)

structure Store.Sound (store : Store) : Prop where
  distinct : store.ids.Nodup
  stored : ∀ id job, store.jobs id = some job → id ∈ store.ids
  claimed : ∀ id ∈ store.claims, id ∈ store.ids
  started : ∀ id ∈ store.starts, id ∈ store.claims
  once : store.starts.Nodup
  queued : ∀ id job, store.jobs id = some job → job.status = .queued → id ∉ store.claims
  capacity : ∀ serverId server, servers serverId = some server → 0 < server.limit → (store.running serverId : Int) ≤ server.limit

def Task.Sound (store : Store) : Task → Prop
  | .claiming id serverId limit _ =>
    id ∈ store.ids ∧ (∀ job, store.jobs id = some job → job.serverId = serverId) ∧ ∃ server, servers serverId = some server ∧ limit = server.limit
  | .launching id _ => id ∈ store.claims ∧ id ∉ store.starts
  | _ => True

/-- No two calls are about to start one job. -/
def Task.Apart : Task → Task → Prop
  | .launching first _,.launching second _ => first ≠ second
  | _,_ => True

end

variable {servers : String → Option Server} {store : Store} {task : Task}

theorem runsOn_update (id serverId : String) (job : Option Job) (other : String) :
    Store.runsOn {store with jobs := Function.update store.jobs id job} serverId other =
      if other = id then job.any fun job => job.serverId = serverId && job.status = .running else store.runsOn serverId other := by
  unfold Store.runsOn
  dsimp only
  by_cases same : other = id
  · rw [same,Function.update_self,if_pos rfl]
  · rw [Function.update_of_ne same,if_neg same]

theorem running_le {id serverId : String} {job : Option Job}
    (quiet : (job.any fun job => job.serverId = serverId && job.status = .running) = true → store.runsOn serverId id = true) :
    Store.running {store with jobs := Function.update store.jobs id job} serverId ≤ store.running serverId := by
  refine List.countP_mono_left fun other _ runs => ?_
  rw [runsOn_update] at runs
  split at runs
  · rename_i same
    rw [same]
    exact quiet runs
  · exact runs

theorem running_le_succ {id : String} (distinct : store.ids.Nodup) (job : Option Job) (serverId : String) :
    Store.running {store with jobs := Function.update store.jobs id job} serverId ≤ store.running serverId + 1 := by
  unfold Store.running
  dsimp only
  have one : ∀ ids : List String, ids.Nodup →
      ids.countP (Store.runsOn {store with jobs := Function.update store.jobs id job} serverId) ≤ ids.countP (store.runsOn serverId) + 1 := by
    intro ids distinct
    induction ids with
    | nil => simp
    | cons first rest ih =>
      obtain ⟨absent,others⟩ := List.nodup_cons.mp distinct
      rw [List.countP_cons,List.countP_cons,runsOn_update]
      by_cases same : first = id
      · have unchanged : rest.countP (Store.runsOn {store with jobs := Function.update store.jobs id job} serverId) = rest.countP (store.runsOn serverId) := by
          refine List.countP_congr fun other listed => ?_
          rw [runsOn_update,if_neg]
          rintro rfl
          exact absent (same ▸ listed)
        rw [unchanged]
        split <;> split <;> omega
      · rw [if_neg same]
        have := ih others
        omega
  exact one store.ids distinct

theorem status_running {id serverId : String} {job : Job} (found : store.jobs id = some job) :
    store.runsOn serverId id = true ↔ job.serverId = serverId ∧ job.status = .running := by
  unfold Store.runsOn
  rw [found]
  simp

theorem updateJob_found {id other : String} {update : Job → Job} {job : Job} (found : (store.updateJob id update).jobs other = some job) :
    (other ≠ id ∧ store.jobs other = some job) ∨ (other = id ∧ ∃ before, store.jobs id = some before ∧ job = update before) := by
  unfold Store.updateJob at found
  dsimp only at found
  by_cases same : other = id
  · rw [same,Function.update_self] at found
    obtain ⟨before,row,rfl⟩ := Option.map_eq_some_iff.mp found
    exact .inr ⟨same,before,row,rfl⟩
  · rw [Function.update_of_ne same] at found
    exact .inl ⟨same,found⟩

section
variable {after : Store} (effect : Effect store task after)
include effect

theorem Effect.row {id : String} {job : Job} (found : after.jobs id = some job) :
    (id ∉ store.ids ∧ id ∈ after.ids ∧ job.status = .queued ∧ job.remoteSession = "") ∨
      ∃ before, store.jobs id = some before ∧ (job = before ∨ (before.status = .queued ∧ job = {before with status := .running}) ∨
        ∃ update, task.writes = some (id,update) ∧ job = update before) := by
  cases effect with
  | @insert fresh new absent status session =>
    dsimp only at found ⊢
    by_cases same : id = fresh
    · rw [same,Function.update_self] at found
      cases found
      exact .inl ⟨same ▸ absent,by simp [same],status,session⟩
    · rw [Function.update_of_ne same] at found
      exact .inr ⟨job,found,.inl rfl⟩
  | @claim claimed _ _ _ row _ stored status _ =>
    dsimp only at found ⊢
    by_cases same : id = claimed
    · rw [same,Function.update_self] at found
      cases found
      exact .inr ⟨row,same ▸ stored,.inr (.inl ⟨status,rfl⟩)⟩
    · rw [Function.update_of_ne same] at found
      exact .inr ⟨job,found,.inl rfl⟩
  | write point =>
    rcases updateJob_found found with ⟨_,row⟩ | ⟨rfl,before,row,rfl⟩
    · exact .inr ⟨job,row,.inl rfl⟩
    · exact .inr ⟨before,row,.inr (.inr ⟨_,point,rfl⟩)⟩
  | @delete gone =>
    unfold Store.deleteJob at found
    dsimp only at found
    by_cases same : id = gone
    · rw [same,Function.update_self] at found
      cases found
    · rw [Function.update_of_ne same] at found
      exact .inr ⟨job,found,.inl rfl⟩
  | _ => exact .inr ⟨job,found,.inl rfl⟩

theorem Effect.ids : ∀ id ∈ store.ids, id ∈ after.ids := by
  cases effect with
  | insert => exact fun id listed => List.mem_append_left _ listed
  | _ => exact fun id listed => listed

theorem Effect.claims : ∀ id ∈ store.claims, id ∈ after.claims := by
  cases effect with
  | claim => exact fun id listed => List.mem_append_left _ listed
  | _ => exact fun id listed => listed

theorem Effect.newly {id : String} (claimed : id ∈ after.claims) :
    id ∈ store.claims ∨ ∃ job, after.jobs id = some job ∧ job.status = .running := by
  cases effect with
  | @claim now _ _ _ job =>
    rcases List.mem_append.mp claimed with before | here
    · exact .inl before
    · rw [List.mem_singleton.mp here]
      exact .inr ⟨{job with status := .running},Function.update_self ..,rfl⟩
  | _ => exact .inl claimed

theorem Effect.starts :
    after.starts = store.starts ∨ ∃ id rest, task = .launching id rest ∧ after.starts = store.starts++[id] := by
  cases effect with
  | launch point => exact .inr ⟨_,_,point,rfl⟩
  | _ => exact .inl rfl

end

section
variable {after : Store} (sound : store.Sound servers)
include sound

theorem Effect.queued (effect : Effect store task after) {id : String} {job : Job} (found : after.jobs id = some job)
    (queued : job.status = .queued) : id ∉ after.claims := by
  intro claimed
  obtain before | ⟨_,there,running⟩ := effect.newly claimed
  · obtain ⟨fresh,_⟩ | ⟨row,held,rfl | ⟨_,rfl⟩ | ⟨update,point,rfl⟩⟩ := effect.row found
    · exact fresh (sound.claimed id before)
    · exact sound.queued id job held queued before
    · cases queued
    · obtain ⟨_,same | terminal⟩ := Task.writes_kept point row
      · exact sound.queued id row held (same ▸ queued) before
      · rw [queued] at terminal
        exact absurd terminal (by decide)
  · obtain rfl := Option.some.inj (found.symm.trans there)
    rw [queued] at running
    cases running

theorem Store.Sound.capacity_le (fewer : ∀ serverId, after.running serverId ≤ store.running serverId) (serverId : String) (server : Server)
    (known : servers serverId = some server) (positive : 0 < server.limit) : (after.running serverId : Int) ≤ server.limit :=
  Int.le_trans (Int.ofNat_le.mpr (fewer serverId)) (sound.capacity serverId server known positive)

end

theorem Store.Sound.effect (sound : store.Sound servers) (own : task.Sound servers store) {after : Store}
    (effect : Effect store task after) : after.Sound servers := by
  have stored : ∀ id job, after.jobs id = some job → id ∈ after.ids := by
    intro id job found
    rcases effect.row found with ⟨_,listed,_⟩ | ⟨before,row,_⟩
    · exact listed
    · exact effect.ids id (sound.stored id before row)
  have queued : ∀ id job, after.jobs id = some job → job.status = .queued → id ∉ after.claims := fun _ _ => effect.queued sound
  cases effect with
  | none => exact sound
  | @insert id job fresh status session =>
    refine ⟨?_,stored,fun other listed => List.mem_append_left _ (sound.claimed other listed),sound.started,sound.once,queued,
      sound.capacity_le fun serverId => ?_⟩
    · exact List.nodup_append.mpr ⟨sound.distinct,List.nodup_singleton id,fun first listed second only => by
        rw [List.mem_singleton.mp only]
        rintro rfl
        exact fresh listed⟩
    · have quiet := @running_le store id serverId (some job) fun runs => by simp [status] at runs
      have last : Store.runsOn {store with ids := store.ids++[id],jobs := Function.update store.jobs id (some job)} serverId id = false := by
        unfold Store.runsOn
        simp [status]
      unfold Store.running at quiet ⊢
      dsimp only at quiet ⊢
      rw [List.countP_append,List.countP_singleton,last]
      exact quiet
  | @claim id serverId limit rest job point found status free =>
    rw [point] at own
    obtain ⟨listed,same,server,known,rfl⟩ := own
    refine ⟨sound.distinct,stored,?_,fun other launched => List.mem_append_left _ (sound.started other launched),sound.once,queued,?_⟩
    · intro other claimed
      rcases List.mem_append.mp claimed with before | now
      · exact sound.claimed other before
      · rw [List.mem_singleton.mp now]
        exact listed
    · intro other limited configured positive
      by_cases here : other = serverId
      · rw [here] at configured ⊢
        rw [known] at configured
        cases configured
        have room := free positive
        have more := @running_le_succ store id sound.distinct (some {job with status := .running}) serverId
        have counted : (Store.running {store with jobs := Function.update store.jobs id (some {job with status := .running})} serverId : Int) ≤
          store.running serverId + 1 := Int.ofNat_le.mpr more
        exact Int.le_trans counted (by omega)
      · refine Int.le_trans ?_ (sound.capacity other limited configured positive)
        have quiet := @running_le store id other (some {job with status := .running}) fun runs => by
          have there : job.serverId = other := by simpa using runs
          exact absurd (there.symm.trans (same job found)) here
        exact Int.ofNat_le.mpr quiet
  | @launch id rest session point =>
    rw [point] at own
    refine ⟨sound.distinct,stored,sound.claimed,?_,?_,queued,sound.capacity⟩
    · intro other launched
      rcases List.mem_append.mp launched with before | now
      · exact sound.started other before
      · rw [List.mem_singleton.mp now]
        exact own.1
    · exact List.nodup_append.mpr ⟨sound.once,List.nodup_singleton id,fun first listed second only => by
        rw [List.mem_singleton.mp only]
        rintro rfl
        exact own.2 listed⟩
  | @write id update point =>
    refine ⟨sound.distinct,stored,sound.claimed,sound.started,sound.once,queued,sound.capacity_le fun serverId => ?_⟩
    refine @running_le store id serverId ((store.jobs id).map update) fun runs => ?_
    cases found : store.jobs id with
    | none =>
      rw [found] at runs
      cases runs
    | some before =>
      obtain ⟨server,status⟩ := Task.writes_kept point before
      rw [found] at runs
      obtain ⟨there,running⟩ : (update before).serverId = serverId ∧ (update before).status = .running := by simpa using runs
      refine (status_running found).mpr ⟨server ▸ there,status.elim (fun same => same ▸ running) fun terminal => ?_⟩
      rw [running] at terminal
      exact absurd terminal (by decide)
  | stop point => exact ⟨sound.distinct,stored,sound.claimed,sound.started,sound.once,queued,sound.capacity⟩
  | @delete id =>
    refine ⟨sound.distinct,stored,sound.claimed,sound.started,sound.once,queued,sound.capacity_le fun serverId => ?_⟩
    exact @running_le store id serverId none fun runs => by cases runs

section
variable {after : Store} {next : Task} (step : Step servers store task after next) (sound : store.Sound servers)
include step sound

theorem Step.own (own : task.Sound servers store) : next.Sound servers after := by
  cases step with
  | quiet effect silent => cases next <;> trivial
  | claiming point found known =>
    refine ⟨sound.stored _ _ found,fun job same => ?_,_,known,rfl⟩
    rw [found] at same
    cases same
    rfl
  | @launching id _ _ _ job point found status _ =>
    have unclaimed := sound.queued id job found status
    exact ⟨by simp,fun launched => unclaimed (sound.started id launched)⟩
  | waiting point =>
    rw [point] at own
    exact own
  | _ => trivial

theorem Step.others {other : Task}
    (holds : other.Sound servers store) (apart : Task.Apart task other) : other.Sound servers after ∧ Task.Apart next other := by
  constructor
  · cases other with
    | claiming id serverId limit rest =>
      obtain ⟨listed,same,known⟩ := holds
      refine ⟨step.effect.ids id listed,fun job found => ?_,known⟩
      rcases step.effect.row found with ⟨absent,_⟩ | ⟨before,row,rfl | ⟨_,rfl⟩ | ⟨update,point,rfl⟩⟩
      · exact absurd listed absent
      · exact same job row
      · exact same before row
      · exact (Task.writes_kept point before).1.trans (same before row)
    | launching id rest =>
      obtain ⟨claimed,waiting⟩ := holds
      refine ⟨step.effect.claims id claimed,fun launched => ?_⟩
      rcases step.effect.starts with unchanged | ⟨started,_,point,more⟩
      · exact waiting (unchanged ▸ launched)
      · rw [point] at apart
        rw [more] at launched
        rcases List.mem_append.mp launched with before | now
        · exact waiting before
        · exact apart (List.mem_singleton.mp now).symm
    | _ => trivial
  · cases step with
    | quiet effect silent => cases next <;> trivial
    | @launching id _ _ _ job point found status _ =>
      cases other with
      | launching elsewhere rest =>
        rintro rfl
        exact sound.queued id job found status holds.1
      | _ => trivial
    | waiting point =>
      rw [point] at apart
      exact apart
    | _ => trivial

end

theorem sound_rules : (service servers).Rules (fun _ _ _ => True) (Store.Sound servers) (fun store task => task.Sound servers store) Task.Apart where
  idle _ := trivial
  begins _ task _ begun := by cases task <;> trivial
  symm first second apart := by
    cases first <;> cases second <;> first | trivial | exact Ne.symm apart
  alone task other fresh := by
    cases task with
    | launching => exact fresh.elim (fun none => by cases none) fun begun => False.elim begun
    | _ => trivial
  keeps _ _ answer sound own _ := ⟨sound.effect own (act_step servers _ _ answer).effect,(act_step servers _ _ answer).own sound own⟩
  others _ _ answer _ sound _ _ holds apart := (act_step servers _ _ answer).others sound holds apart
  outside store _ sound :=
    ⟨⟨sound.distinct,sound.stored,sound.claimed,sound.started,sound.once,sound.queued,sound.capacity⟩,fun task own => by
      cases task <;> exact own⟩

/-- The writes that end a job find it as their call read it, or ended the same way, and no cancel reads a running job
whose session is not recorded yet. -/
def Undisturbed (store : Store) (task : Task) (_ : Answer) : Prop :=
  match task with
  | .failing id _ _ => ∀ job, store.jobs id = some job → job.status = .running ∨ job.status = .failed
  | .reporting id report => ∀ job, store.jobs id = some job → job.status = .running ∨ job.status = report.status
  | .ending id seen => ∀ job, store.jobs id = some job →
    (job.status = seen.status ∧ job.remoteSession = seen.session) ∨ job.status = .cancelled
  | .cancelling id => ∀ job, store.jobs id = some job → job.status = .running → job.remoteSession ≠ ""
  | _ => True

/-- A session runs only for a job that was started, and for none that was cancelled. -/
structure Store.Settled (store : Store) : Prop where
  recorded : ∀ id job, store.jobs id = some job → job.remoteSession ≠ "" → job.remoteSession = sessionName id ∧ id ∈ store.starts
  unstarted : ∀ id, id ∉ store.starts → store.sessions (sessionName id) = false
  cancelled : ∀ id job, store.jobs id = some job → job.status = .cancelled →
    store.sessions (sessionName id) = false ∧ (id ∈ store.claims → id ∈ store.starts)

def Task.Settled (store : Store) : Task → Prop
  | .recording id session _ _ => session = sessionName id ∧ id ∈ store.starts
  | .stopping id seen => seen.status ∉ TERMINAL_JOB_STATUSES ∧ seen.session = sessionName id ∧ id ∈ store.starts
  | .ending id seen => seen.status ∉ TERMINAL_JOB_STATUSES ∧
    ((id ∈ store.starts ∧ store.sessions (sessionName id) = false) ∨ (seen.status = .queued ∧ seen.session = ""))
  | _ => True

theorem sessionName_inj {first second : String} (same : sessionName first = sessionName second) : first = second := by
  have lists := congrArg String.toList same
  unfold sessionName at lists
  rw [String.toList_append,String.toList_append] at lists
  exact String.toList_inj.mp (List.append_cancel_left lists)

def Store.Still (store : Store) (id : String) : Prop :=
  store.sessions (sessionName id) = false ∧ (id ∈ store.claims → id ∈ store.starts)

theorem Effect.more {after : Store} (effect : Effect store task after) : ∀ id ∈ store.starts, id ∈ after.starts := by
  intro id started
  rcases effect.starts with same | ⟨_,_,_,longer⟩
  · exact same ▸ started
  · exact longer ▸ List.mem_append_left _ started

theorem Effect.sessions {after : Store} (effect : Effect store task after) (own : task.Sound servers store) {id : String}
    (old : id ∈ after.starts → id ∈ store.starts) (idle : store.sessions (sessionName id) = false) :
    after.sessions (sessionName id) = false := by
  cases effect with
  | @launch launched rest session point =>
    rw [point] at own
    have apart : id ≠ launched := by
      rintro rfl
      exact own.2 (old (by simp))
    exact (Function.update_of_ne (fun same => apart (sessionName_inj same)) ..).trans idle
  | @stop stopped seen point =>
    dsimp only
    by_cases same : sessionName id = seen.session
    · rw [same,Function.update_self]
    · rw [Function.update_of_ne same]
      exact idle
  | _ => exact idle

theorem Store.Still.effect {id : String} (still : store.Still id) (own : task.Sound servers store) {after : Store}
    (effect : Effect store task after) (rests : ∀ job, after.jobs id = some job → job.status ≠ .running) : after.Still id := by
  refine ⟨effect.sessions own (fun started => ?_) still.1,fun claimed => ?_⟩
  · rcases effect.starts with same | ⟨launched,rest,point,longer⟩
    · exact same ▸ started
    · rw [point] at own
      rw [longer] at started
      rcases List.mem_append.mp started with before | now
      · exact before
      · rw [List.mem_singleton.mp now] at still
        exact absurd (still.2 own.1) own.2
  · rcases effect.newly claimed with before | ⟨job,found,running⟩
    · exact effect.more id (still.2 before)
    · exact absurd running (rests job found)

section
variable {id : String} {update : Job → Job} (point : task.writes = some (id,update))
include point

theorem Task.writes_session (job : Job) :
    (update job).remoteSession = job.remoteSession ∨ ∃ logPath rest, task = .recording id (update job).remoteSession logPath rest := by
  cases task with
  | reporting _ report =>
    cases point
    cases report <;> exact .inl rfl
  | failing | ending =>
    cases point
    exact .inl rfl
  | recording =>
    cases point
    exact .inr ⟨_,_,rfl⟩
  | _ => cases point

theorem Task.writes_cancelled {job : Job}
    (cancelled : (update job).status = .cancelled) : job.status = .cancelled ∨ ∃ seen, task = .ending id seen := by
  cases task with
  | reporting _ report =>
    cases point
    cases report <;> cases cancelled
  | failing =>
    cases point
    cases cancelled
  | ending =>
    cases point
    exact .inr ⟨_,rfl⟩
  | recording =>
    cases point
    exact .inl cancelled
  | _ => cases point

end

theorem Store.Settled.effect (settled : store.Settled) (sound : store.Sound servers) (own : task.Sound servers store)
    (relies : task.Settled store) {answer : Answer} (guard : Undisturbed store task answer) {after : Store} (effect : Effect store task after) :
    after.Settled := by
  refine ⟨fun id job found session => ?_,fun id absent => ?_,fun id job found cancelled => ?_⟩
  · rcases effect.row found with ⟨_,_,_,none⟩ | ⟨before,row,rfl | ⟨_,rfl⟩ | ⟨update,point,rfl⟩⟩
    · exact absurd none session
    · exact (settled.recorded id job row session).imp_right (effect.more id)
    · exact (settled.recorded id before row session).imp_right (effect.more id)
    · rcases Task.writes_session point before with same | ⟨logPath,rest,recording⟩
      · rw [same] at session ⊢
        exact (settled.recorded id before row session).imp_right (effect.more id)
      · rw [recording] at relies
        exact relies.imp_right (effect.more id)
  · exact effect.sessions own (fun started => absurd started absent) (settled.unstarted id fun started => absent (effect.more id started))
  · have still : store.Still id := by
      rcases effect.row found with ⟨_,_,queued,_⟩ | ⟨before,row,rfl | ⟨_,rfl⟩ | ⟨update,point,rfl⟩⟩
      · rw [queued] at cancelled
        cases cancelled
      · exact settled.cancelled id job row cancelled
      · cases cancelled
      · rcases Task.writes_cancelled point cancelled with already | ⟨seen,ending⟩
        · exact settled.cancelled id before row already
        · rw [ending] at relies guard
          rcases guard before row with ⟨status,_⟩ | already
          · rcases relies.2 with ⟨started,idle⟩ | ⟨queued,_⟩
            · exact ⟨idle,fun _ => started⟩
            · have unclaimed := sound.queued id before row (status.trans queued)
              exact ⟨settled.unstarted id fun started => unclaimed (sound.started id started),fun claimed => absurd claimed unclaimed⟩
          · exact settled.cancelled id before row already
    refine still.effect own effect fun other same => ?_
    rw [found] at same
    cases same
    rw [cancelled]
    decide

theorem Step.settled {after : Store} {next : Task} (step : Step servers store task after next)
    (settled : store.Settled) (relies : task.Settled store) {answer : Answer} (guard : Undisturbed store task answer) : next.Settled after := by
  cases step with
  | quiet effect silent => cases next <;> trivial
  | recording point => exact ⟨rfl,by simp⟩
  | stopping point found live session => exact ⟨live,settled.recorded _ _ found session⟩
  | @ending id job point found live session =>
    refine ⟨live,.inr ⟨?_,session⟩⟩
    rw [point] at guard
    cases status : job.status with
    | queued => rfl
    | running => exact absurd session (guard job found status)
    | _ =>
      rw [status] at live
      exact absurd live (by decide)
  | stopped point =>
    rw [point] at relies
    refine ⟨relies.1,.inl ⟨relies.2.2,?_⟩⟩
    rw [← relies.2.1]
    exact Function.update_self ..
  | _ => trivial

theorem Effect.settled {after : Store} (effect : Effect store task after) (own : task.Sound servers store) {other : Task}
    (relies : other.Settled store) : other.Settled after := by
  cases other with
  | recording id session logPath rest => exact relies.imp_right (effect.more id)
  | stopping id seen => exact ⟨relies.1,relies.2.imp_right (effect.more id)⟩
  | ending id seen =>
    refine ⟨relies.1,relies.2.imp_left fun ⟨started,idle⟩ => ⟨effect.more id started,?_⟩⟩
    exact effect.sessions own (fun _ => started) idle
  | _ => trivial

theorem settled_rules : (service servers).Rules Undisturbed (fun store => store.Sound servers ∧ store.Settled)
    (fun store task => task.Sound servers store ∧ task.Settled store) Task.Apart where
  idle _ := ⟨trivial,trivial⟩
  begins store task sound begun := ⟨sound_rules.begins store task sound.1 begun,by cases task <;> trivial⟩
  symm := (@sound_rules servers).symm
  alone := (@sound_rules servers).alone
  keeps store task answer inv own guard := by
    have step := act_step servers store task answer
    exact ⟨⟨inv.1.effect own.1 step.effect,inv.2.effect inv.1 own.1 own.2 guard step.effect⟩,
      step.own inv.1 own.1,step.settled inv.2 own.2 guard⟩
  others store task answer other inv own _ holds apart := by
    have step := act_step servers store task answer
    obtain ⟨sound,further⟩ := step.others inv.1 holds.1 apart
    exact ⟨⟨sound,step.effect.settled own.1 holds.2⟩,further⟩
  outside store session inv := by
    have ended : ∀ id, store.sessions (sessionName id) = false →
        Function.update store.sessions session false (sessionName id) = false := by
      intro id idle
      by_cases same : sessionName id = session
      · rw [same,Function.update_self]
      · rw [Function.update_of_ne same]
        exact idle
    obtain ⟨sound,others⟩ := sound_rules.outside store session inv.1
    refine ⟨⟨sound,inv.2.recorded,fun id absent => ended id (inv.2.unstarted id absent),fun id job found cancelled => ?_⟩,
      fun task own => ⟨others task own.1,?_⟩⟩
    · exact (inv.2.cancelled id job found cancelled).imp_left (ended id)
    · have relies := own.2
      cases task with
      | ending id seen => exact ⟨relies.1,relies.2.imp_left (And.imp_right (ended id))⟩
      | _ => exact relies

/-- The job has ended with this status, or is gone. -/
def Store.Ended (id : String) (status : Status) (store : Store) : Prop :=
  id ∈ store.ids ∧ ∀ job, store.jobs id = some job → job.status = status

theorem Store.Ended.effect {id : String} {status : Status} (ended : store.Ended id status) (terminal : status ∈ TERMINAL_JOB_STATUSES)
    {answer : Answer} (guard : Undisturbed store task answer) (relies : task.Settled store) {after : Store} (effect : Effect store task after) :
    after.Ended id status := by
  refine ⟨effect.ids id ended.1,fun job found => ?_⟩
  rcases effect.row found with ⟨absent,_⟩ | ⟨before,row,rfl | ⟨queued,rfl⟩ | ⟨update,point,rfl⟩⟩
  · exact absurd ended.1 absent
  · exact ended.2 job row
  · rw [← ended.2 before row,queued] at terminal
    exact absurd terminal (by decide)
  · have same := ended.2 before row
    rw [← same] at terminal ⊢
    cases task with
    | failing =>
      cases point
      rcases guard before row with running | failed
      · rw [running] at terminal
        exact absurd terminal (by decide)
      · exact failed.symm
    | recording =>
      cases point
      rfl
    | reporting _ report =>
      cases point
      rcases guard before row with running | already
      · rw [running] at terminal
        exact absurd terminal (by decide)
      · rw [already]
        cases report <;> rfl
    | ending =>
      cases point
      rcases guard before row with ⟨seen,_⟩ | cancelled
      · rw [seen] at terminal
        exact absurd terminal relies.1
      · exact cancelled.symm
    | _ => cases point

/-- No start is called twice, no server runs more jobs than it may, what has ended stays as it ended, and a cancelled job has no
session that runs. -/
structure JobsKept (servers : String → Option Server) (guard : Store → Task → Answer → Prop) (world : World Store Task) : Prop where
  started : ∀ id, world.shared.starts.count id ≤ 1
  capacity : ∀ serverId server, servers serverId = some server → (world.shared.running serverId : Int) ≤ server.maxConcurrentJobs
  ended : ∀ later, Runs.Reached (service servers).apply ((service servers).Permitted guard) world later →
    ∀ id job, world.shared.jobs id = some job → job.status ∈ TERMINAL_JOB_STATUSES →
      ∀ row, later.shared.jobs id = some row → row.status = job.status
  stopped : ∀ id job, world.shared.jobs id = some job → job.status = .cancelled → world.shared.sessions (sessionName id) = false

theorem empty_sound (configured : ∀ serverId server, servers serverId = some server → 0 ≤ server.limit) : ({} : Store).Sound servers where
  distinct := List.nodup_nil
  stored _ _ found := by cases found
  claimed _ listed := by cases listed
  started _ listed := by cases listed
  once := List.nodup_nil
  queued _ _ found := by cases found
  capacity serverId server known _ := configured serverId server known

theorem empty_settled : ({} : Store).Settled where
  recorded _ _ found := by cases found
  unstarted _ _ := rfl
  cancelled _ _ found := by cases found

/-- The service keeps its jobs in every run whose calls do not disturb each other. -/
theorem jobs_kept (limited : ∀ serverId server, servers serverId = some server → 1 ≤ server.maxConcurrentJobs) {world : World Store Task}
    (reached : Runs.Reached (service servers).apply ((service servers).Permitted Undisturbed) ((service servers).start {}) world) :
    JobsKept servers Undisturbed world := by
  have limits : ∀ serverId server, servers serverId = some server → server.limit = server.maxConcurrentJobs ∧ 0 < server.limit := by
    intro serverId server known
    have positive := limited serverId server known
    unfold Server.limit
    rw [if_neg (by omega)]
    exact ⟨rfl,by omega⟩
  have start : ({} : Store).Sound servers := empty_sound fun serverId server known => Int.le_of_lt (limits serverId server known).2
  have holds := settled_rules.reached (settled_rules.start ⟨start,empty_settled⟩) reached
  obtain ⟨sound,settled⟩ := holds.shared
  refine ⟨fun id => List.nodup_iff_count_le_one.mp sound.once id,fun serverId server known => ?_,fun later further id job found terminal => ?_,
    fun id job found cancelled => (settled.cancelled id job found cancelled).1⟩
  · obtain ⟨same,positive⟩ := limits serverId server known
    exact same ▸ sound.capacity serverId server known positive
  · have ended : world.shared.Ended id job.status := by
      refine ⟨sound.stored id job found,fun row same => ?_⟩
      rw [found] at same
      cases same
      rfl
    exact (settled_rules.stable (fun store task answer inv own guard ended =>
      ended.effect terminal guard own.2 (act_step servers store task answer).effect) (fun _ _ ended => ended) holds ended further).2

def labServers (serverId : String) : Option Server := if serverId = "lab" then some {authType := some "key"} else none

theorem labServers_limited (serverId : String) (server : Server) (known : labServers serverId = some server) : 1 ≤ server.maxConcurrentJobs := by
  unfold labServers at known
  split at known
  · cases known
    decide
  · cases known

def claimedJob : List (Event Task Answer String) :=
  [.enter 0 (.creating {serverId := "lab",templateId := "aosp"}),.advance 0 .done,.advance 0 (.fresh "build_1"),.advance 0 .done,.advance 0 .done]

def cancelledJob : List (Event Task Answer String) :=
  claimedJob ++ [.advance 0 (.launched "build_1.log"),.advance 0 .done,.enter 1 (.cancelling "build_1"),.advance 1 .done,.advance 1 .done,.advance 1 .done]

theorem jobs_kept_cancelled :
    JobsKept labServers Undisturbed (Runs.exec (service labServers).apply ((service labServers).start {}) cancelledJob) := by
  refine jobs_kept labServers_limited (Runs.Reached.start.along cancelledJob ⟨trivial,trivial,trivial,trivial,trivial,trivial,trivial,trivial,
    fun job found _ => ?_,trivial,fun job found => .inl ?_,trivial⟩)
  · cases found
    decide
  · cases found
    exact ⟨rfl,rfl⟩

/-- A cancel between the claim of a job and the record of its session leaves the session running. -/
theorem cancelled_job_runs_on :
    ¬∀ servers : String → Option Server, (∀ serverId server, servers serverId = some server → 1 ≤ server.maxConcurrentJobs) →
      ∀ world, Runs.Reached (service servers).apply ((service servers).Permitted fun _ _ _ => True) ((service servers).start {}) world →
        JobsKept servers (fun _ _ _ => True) world := by
  intro all
  let events : List (Event Task Answer String) :=
    claimedJob ++ [.enter 1 (.cancelling "build_1"),.advance 1 .done,.advance 1 .done,.advance 0 (.launched "build_1.log")]
  have reached : Runs.Reached (service labServers).apply ((service labServers).Permitted fun _ _ _ => True) ((service labServers).start {})
      (Runs.exec (service labServers).apply ((service labServers).start {}) events) :=
    Runs.Reached.start.along events ⟨trivial,trivial,trivial,trivial,trivial,trivial,trivial,trivial,trivial,trivial⟩
  have stopped := (all labServers labServers_limited _ reached).stopped "build_1" _ rfl rfl
  exact absurd stopped (by decide)

end GmsRemoteTest.Build
