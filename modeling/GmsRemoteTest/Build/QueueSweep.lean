import Mathlib.Data.List.TakeWhile
import Mathlib.Logic.Function.Iterate
import GmsRemoteTest.Build.JobRuns

/-! One call of `start_queued_jobs` alone: what becomes of the queued jobs. The call reads the newest hundred, and it ends where the server of
one of them is no longer configured. -/
namespace GmsRemoteTest.Build

/-- What comes of the start of a job; `raises` stands for everything that raises before the job is claimed, such as a template that was
removed. -/
inductive Fate
  | raises
  | launched (logPath : String)
  | refused (error : String) (session : Bool)
deriving DecidableEq

/-- The servers that are configured, the fate of each job, and the passwords that are kept. -/
structure Circumstances where
  servers : String → Option Server
  fate : String → Fate
  password : String → String := fun _ => ""

namespace Circumstances
variable (c : Circumstances)

def answer : Task → Answer
  | .sweeping ((id,_)::_) => .password (c.password id)
  | .starting id _ => if c.fate id = .raises then .raised else .done
  | .launching id _ => match c.fate id with
    | .raises => .raised
    | .launched logPath => .launched logPath
    | .refused error session => .refused error session
  | _ => .done

def turn (point : Store × Task) : Store × Task := act c.servers point.1 point.2 (c.answer point.2)

/-- A call that nothing comes between ends like this. -/
def Ends (store final : Store) : Prop := ∃ turns, (c.turn)^[turns] (store,.listing) = (final,.idle)

def launches (id : String) : Bool := match c.fate id with
  | .launched _ => true
  | _ => false

end Circumstances

def Full (server : Server) (store : Store) (serverId : String) : Prop := 0 < server.limit ∧ server.limit ≤ store.running serverId

instance (server : Server) (store : Store) (serverId : String) : Decidable (Full server store serverId) := inferInstanceAs (Decidable (_ ∧ _))

/-- Every server that exists has as many of its queued jobs started as it has room for; a job that stays has a start that raises. -/
def AllServed (c : Circumstances) (store final : Store) : Prop := ∀ serverId server, c.servers serverId = some server →
  (0 < server.limit → (final.running serverId : Int) ≤ max server.limit (store.running serverId)) ∧
    (Full server final serverId ∨ ∀ id ∈ final.ids, ∀ job, final.jobs id = some job → job.serverId = serverId → job.status = .queued →
      c.fate id = .raises)

def reach (c : Circumstances) (store : Store) : List (String × String) :=
  ((store.listJobs .queued 100).map fun entry => (entry.1,entry.2.serverId)).takeWhile fun entry => (c.servers entry.2).isSome

def launched (c : Circumstances) (entries : List (String × String)) (serverId : String) : ℕ :=
  entries.countP fun entry => entry.2 = serverId && c.launches entry.1

/-- Every job that could start is among them, or there are enough of them to fill its server. -/
def Reaches (c : Circumstances) (store : Store) : Prop := ∀ serverId server, c.servers serverId = some server →
  (0 < server.limit ∧ server.limit ≤ store.running serverId + launched c (reach c store) serverId) ∨
    ∀ id ∈ store.ids, ∀ job, store.jobs id = some job → job.serverId = serverId → job.status = .queued → c.fate id ≠ .raises →
      id ∈ (reach c store).map Prod.fst

variable {c : Circumstances} {store : Store} {server : Server} {serverId id : String} {job row : Job}

theorem limit_withRuntimePassword (password : String) : (server.withRuntimePassword password).limit = server.limit := by
  unfold Server.withRuntimePassword
  split <;> rfl

theorem listed_le_running (store : Store) (serverId : String) (limit : ℕ) :
    ((store.listJobs .running limit).filter fun entry => entry.2.serverId = serverId).length ≤ store.running serverId := by
  have all : ∀ ids : List String, ((ids.filterMap fun id => ((store.jobs id).filter fun job => job.status = .running).map fun job => (id,job)).filter
      fun entry => entry.2.serverId = serverId).length = ids.countP (store.runsOn serverId) := by
    intro ids
    induction ids with
    | nil => rfl
    | cons id ids ih =>
      rw [List.filterMap_cons,List.countP_cons,← ih]
      unfold Store.runsOn
      cases found : store.jobs id with
      | none => simp
      | some job =>
        by_cases running : job.status = .running
        · by_cases own : job.serverId = serverId
          · simp [Option.filter,running,own]
          · simp [Option.filter,running,own]
        · simp [Option.filter,running]
  unfold Store.listJobs Store.running
  rw [← List.countP_reverse,← all]
  exact ((List.take_sublist limit _).filter _).length_le

theorem defer_start (free : ¬Full server store serverId) (password : String) :
    maybeDeferForCapacity store serverId (server.withRuntimePassword password) true = .start := by
  have listed := listed_le_running store serverId 500
  unfold Full at free
  unfold maybeDeferForCapacity
  rw [limit_withRuntimePassword,if_neg (by decide)]
  by_cases unlimited : server.limit ≤ 0
  · rw [if_pos unlimited]
  · rw [if_neg unlimited,if_pos (by omega)]

theorem running_update (distinct : store.ids.Nodup) (member : id ∈ store.ids) (idle : store.runsOn serverId id = false) {after : Store}
    (ids : after.ids = store.ids) (jobs : after.jobs = Function.update store.jobs id (some row)) :
    after.running serverId = store.running serverId + if row.serverId = serverId ∧ row.status = .running then 1 else 0 := by
  have others : ∀ other, other ≠ id → after.runsOn serverId other = store.runsOn serverId other := by
    intro other apart
    unfold Store.runsOn
    rw [jobs,Function.update_of_ne apart]
  have own : after.runsOn serverId id = decide (row.serverId = serverId ∧ row.status = .running) := by
    unfold Store.runsOn
    rw [jobs,Function.update_self]
    simp
  unfold Store.running
  rw [ids]
  generalize store.ids = listed at distinct member
  induction listed with
  | nil => cases member
  | cons first rest ih =>
    obtain ⟨absent,distinct⟩ := List.nodup_cons.mp distinct
    rw [List.countP_cons,List.countP_cons]
    by_cases same : first = id
    · subst same
      have unchanged : rest.countP (after.runsOn serverId) = rest.countP (store.runsOn serverId) := by
        refine List.countP_congr fun other listed => ?_
        rw [others other fun same => absent (same ▸ listed)]
      rw [unchanged,own,idle]
      by_cases runs : row.serverId = serverId ∧ row.status = .running
      · simp [runs]
      · simp [runs]
    · rw [others first same,ih distinct ((List.mem_cons.mp member).resolve_left (Ne.symm same))]
      omega

/-- What becomes of the store when the call comes to a queued job. -/
inductive Served (c : Circumstances) (server : Server) (store : Store) (id : String) (job : Job) : Store → Prop
  | kept (why : Full server store job.serverId ∨ c.fate id = .raises) : Served c server store id job store
  | begun {after : Store} {row : Job} (free : ¬Full server store job.serverId) (launches : c.launches id = true) (same : row.serverId = job.serverId)
      (status : row.status = .running) (ids : after.ids = store.ids) (jobs : after.jobs = Function.update store.jobs id (some row)) :
      Served c server store id job after
  | failed {after : Store} {row : Job} (free : ¬Full server store job.serverId) (fate : c.fate id ≠ .raises) (launches : c.launches id = false)
      (same : row.serverId = job.serverId) (status : row.status = .failed) (ids : after.ids = store.ids)
      (jobs : after.jobs = Function.update store.jobs id (some row)) : Served c server store id job after

def Leads (c : Circumstances) (first second : Store × Task) : Prop := ∃ turns, (c.turn)^[turns] first = second

theorem Leads.refl (point : Store × Task) : Leads c point point := ⟨0,rfl⟩

theorem Leads.turn {first second : Store × Task} (rest : Leads c (c.turn first) second) : Leads c first second := by
  obtain ⟨turns,there⟩ := rest
  exact ⟨turns + 1,there⟩

theorem Leads.trans {first second third : Store × Task} (left : Leads c first second) (right : Leads c second third) : Leads c first third := by
  obtain ⟨turns,rfl⟩ := left
  obtain ⟨more,rfl⟩ := right
  exact ⟨more + turns,Function.iterate_add_apply c.turn more turns first⟩

theorem two_turns {claimed began : Store} {task next : Task} {rest : List (String × String)} (update : Job → Job)
    (first : c.turn (claimed,task) = (began,next)) (second : c.turn (began,next) = (began.updateJob id update,resume rest))
    (jobs : began.jobs = claimed.jobs) (ids : began.ids = claimed.ids) (found : claimed.jobs id = some row) :
    ∃ after, Leads c (claimed,task) (after,resume rest) ∧ after.ids = claimed.ids ∧
      after.jobs = Function.update claimed.jobs id (some (update row)) := by
  refine ⟨began.updateJob id update,.turn ?_,ids,?_⟩
  · rw [first]
    refine .turn ?_
    rw [second]
    exact .refl _
  · show Function.update began.jobs id ((began.jobs id).map update) = _
    rw [jobs,found]
    rfl

theorem launch_leads {claimed : Store} (found : claimed.jobs id = some row) (fate : c.fate id ≠ .raises) (rest : List (String × String)) :
    ∃ after last, Leads c (claimed,.launching id rest) (after,resume rest) ∧ after.ids = claimed.ids ∧
      after.jobs = Function.update claimed.jobs id (some last) ∧ last.serverId = row.serverId ∧
      last.status = if c.launches id then row.status else .failed := by
  cases outcome : c.fate id with
  | raises => exact absurd outcome fate
  | launched logPath =>
    have first : c.turn (claimed,.launching id rest) = ({claimed with
        starts := claimed.starts++[id],sessions := Function.update claimed.sessions (sessionName id) true},
        .recording id (sessionName id) logPath rest) := by
      simp [Circumstances.turn,Circumstances.answer,outcome,act]
    obtain ⟨after,leads,ids,jobs⟩ :=
      two_turns (fun job => {job with remoteSession := sessionName id,remoteLogPath := logPath}) first rfl rfl rfl found
    exact ⟨after,_,leads,ids,jobs,rfl,by simp [Circumstances.launches,outcome]⟩
  | refused error session =>
    have first : c.turn (claimed,.launching id rest) = ({claimed with
        starts := claimed.starts++[id],sessions := Function.update claimed.sessions (sessionName id) session},.failing id error rest) := by
      simp [Circumstances.turn,Circumstances.answer,outcome,act]
    obtain ⟨after,leads,ids,jobs⟩ := two_turns (fun job => {job with status := .failed,error}) first rfl rfl rfl found
    exact ⟨after,_,leads,ids,jobs,rfl,by simp [Circumstances.launches,outcome]⟩

theorem claim_leads (found : store.jobs id = some job) (queued : job.status = .queued) (fate : c.fate id ≠ .raises)
    (rest : List (String × String)) : ∃ after, Leads c (store,.claiming id job.serverId server.limit rest) (after,resume rest) ∧
      Served c server store id job after := by
  by_cases full : Full server store job.serverId
  · have refused : c.turn (store,.claiming id job.serverId server.limit rest) = (store,resume rest) := by
      have none_ : store.claimQueuedJob id job.serverId server.limit = none := if_pos full
      simp [Circumstances.turn,act,none_]
    exact ⟨store,.turn (refused ▸ .refl _),.kept (.inl full)⟩
  · obtain ⟨claimed,taken,row,same⟩ : ∃ claimed, store.claimQueuedJob id job.serverId server.limit = some claimed ∧ claimed.ids = store.ids ∧
        claimed.jobs = Function.update store.jobs id (some {job with status := .running}) := by
      refine ⟨{store with
        jobs := Function.update store.jobs id (some {job with status := .running}),claims := store.claims++[id]},?_,rfl,rfl⟩
      unfold Store.claimQueuedJob
      rw [if_neg (show ¬(0 < server.limit ∧ server.limit ≤ _) from full),found]
      exact if_pos queued
    have claim : c.turn (store,.claiming id job.serverId server.limit rest) = (claimed,.launching id rest) := by
      simp [Circumstances.turn,act,taken]
    have mine : claimed.jobs id = some {job with status := .running} := by rw [same,Function.update_self]
    obtain ⟨after,last,leads,ids,jobs,server_,status⟩ := launch_leads mine fate rest
    refine ⟨after,.turn (claim ▸ leads),?_⟩
    rw [same,Function.update_idem] at jobs
    cases launches : c.launches id with
    | true =>
      rw [launches,if_pos rfl] at status
      exact .begun full launches server_ status (ids.trans row) jobs
    | false =>
      rw [launches,if_neg Bool.false_ne_true] at status
      exact .failed full fate launches server_ status (ids.trans row) jobs

theorem sweep_leads (found : store.jobs id = some job) (queued : job.status = .queued) (known : c.servers job.serverId = some server)
    (rest : List (String × String)) : ∃ after, Leads c (store,.sweeping ((id,job.serverId) :: rest)) (after,resume rest) ∧
      Served c server store id job after := by
  have swept : c.turn (store,.sweeping ((id,job.serverId) :: rest)) =
      if maybeDeferForCapacity store job.serverId (server.withRuntimePassword (c.password id)) true = .start then (store,.starting id rest)
      else (store,resume rest) := by
    simp [Circumstances.turn,Circumstances.answer,act,known]
  by_cases start : maybeDeferForCapacity store job.serverId (server.withRuntimePassword (c.password id)) true = .start
  · rw [if_pos start] at swept
    by_cases fate : c.fate id = .raises
    · have raised : c.turn (store,.starting id rest) = (store,resume rest) := by
        simp [Circumstances.turn,Circumstances.answer,act,found,queued,known,fate]
      refine ⟨store,.turn ?_,.kept (.inr fate)⟩
      rw [swept]
      exact .turn (raised ▸ .refl _)
    · have begins : c.turn (store,.starting id rest) = (store,.claiming id job.serverId server.limit rest) := by
        simp [Circumstances.turn,Circumstances.answer,act,found,queued,known,fate]
      obtain ⟨after,leads,served⟩ : ∃ after, Leads c (store,.claiming id job.serverId server.limit rest) (after,resume rest) ∧
          Served c server store id job after := claim_leads found queued fate rest
      refine ⟨after,.turn ?_,served⟩
      rw [swept]
      exact .turn (begins ▸ leads)
  · rw [if_neg start] at swept
    have full : Full server store job.serverId := by_contra fun free => start (defer_start free _)
    exact ⟨store,.turn (swept ▸ .refl _),.kept (.inl full)⟩

def expected (c : Circumstances) (server : Server) (store : Store) (entries : List (String × String)) (serverId : String) : Int :=
  if 0 < server.limit then max (store.running serverId) (min server.limit (store.running serverId + launched c entries serverId))
  else store.running serverId + launched c entries serverId

/-- The entries name queued jobs with their servers, and these exist. -/
structure Listed (c : Circumstances) (store : Store) (entries : List (String × String)) : Prop where
  distinct : (entries.map Prod.fst).Nodup
  queued : ∀ entry ∈ entries, entry.1 ∈ store.ids ∧ (c.servers entry.2).isSome = true ∧
    ∃ job, store.jobs entry.1 = some job ∧ job.serverId = entry.2 ∧ job.status = .queued

structure Swept (c : Circumstances) (store : Store) (entries : List (String × String)) (final : Store) : Prop where
  ids : final.ids = store.ids
  others : ∀ id, id ∉ entries.map Prod.fst → final.jobs id = store.jobs id
  owners : ∀ id job, final.jobs id = some job → ∃ before, store.jobs id = some before ∧ before.serverId = job.serverId
  running : ∀ serverId server, c.servers serverId = some server →
    (final.running serverId : Int) = expected c server store entries serverId
  started : ∀ entry ∈ entries, ∀ server, c.servers entry.2 = some server → ¬Full server final entry.2 → c.fate entry.1 ≠ .raises →
    ∀ job, final.jobs entry.1 = some job → job.status ≠ .queued

section
variable {after : Store} (served : Served c server store id job after)
include served

theorem Served.running (distinct : store.ids.Nodup) (member : id ∈ store.ids)
    (found : store.jobs id = some job) (queued : job.status = .queued) (known : c.servers job.serverId = some server) :
    ∀ serverId other, c.servers serverId = some other → (after.running serverId : Int) = expected c other store [(id,job.serverId)] serverId := by
  intro serverId other known'
  have idle : store.runsOn serverId id = false := by
    unfold Store.runsOn
    rw [found]
    simp [queued]
  have same : job.serverId = serverId → other = server := by
    rintro rfl
    exact Option.some.inj (known'.symm.trans known)
  have counts : launched c [(id,job.serverId)] serverId = if job.serverId = serverId ∧ c.launches id = true then 1 else 0 := by
    unfold launched
    rw [List.countP_singleton]
    simp
  unfold expected
  cases served with
  | kept why =>
    by_cases own : job.serverId = serverId
    · obtain rfl := same own
      obtain full | raises := why
      · unfold Full at full
        rw [own] at full
        rw [if_pos full.1]
        omega
      · have none_ : c.launches id = false := by
          unfold Circumstances.launches
          rw [raises]
        have zero : launched c [(id,job.serverId)] serverId = 0 := by simp [counts,none_]
        rw [zero]
        split <;> omega
    · have zero : launched c [(id,job.serverId)] serverId = 0 := by simp [counts,own]
      rw [zero]
      split <;> omega
  | begun free launches server_ status ids jobs =>
    rw [running_update distinct member idle ids jobs,server_,status]
    by_cases own : job.serverId = serverId
    · obtain rfl := same own
      have one : launched c [(id,job.serverId)] serverId = 1 := counts.trans (if_pos ⟨own,launches⟩)
      have begins : (if job.serverId = serverId ∧ Status.running = .running then 1 else 0) = 1 := if_pos ⟨own,rfl⟩
      unfold Full at free
      rw [own] at free
      rw [one,begins]
      split <;> omega
    · have zero : launched c [(id,job.serverId)] serverId = 0 := by simp [counts,own]
      have stays : (if job.serverId = serverId ∧ Status.running = .running then 1 else 0) = 0 := if_neg fun both => own both.1
      rw [zero,stays]
      split <;> omega
  | failed free fate launches server_ status ids jobs =>
    have zero : launched c [(id,job.serverId)] serverId = 0 := by simp [counts,launches]
    have stays : (if job.serverId = serverId ∧ Status.failed = .running then 1 else 0) = 0 := if_neg (by simp)
    rw [running_update distinct member idle ids jobs,server_,status,zero,stays]
    split <;> omega

theorem Served.queued (fate : c.fate id ≠ .raises)
    (free : ¬Full server store job.serverId) : ∃ row, after.jobs id = some row ∧ row.status ≠ .queued := by
  cases served with
  | kept why => exact absurd (why.resolve_right fate) free
  | @begun _ row free launches server_ status ids jobs => exact ⟨row,by rw [jobs,Function.update_self],by simp [status]⟩
  | @failed _ row free fate launches server_ status ids jobs => exact ⟨row,by rw [jobs,Function.update_self],by simp [status]⟩

theorem Served.frame :
    after.ids = store.ids ∧ ∀ other, other ≠ id → after.jobs other = store.jobs other := by
  cases served with
  | kept => exact ⟨rfl,fun _ _ => rfl⟩
  | begun free launches server_ status ids jobs => exact ⟨ids,fun other apart => by rw [jobs,Function.update_of_ne apart]⟩
  | failed free fate launches server_ status ids jobs => exact ⟨ids,fun other apart => by rw [jobs,Function.update_of_ne apart]⟩

theorem Served.owner (found : store.jobs id = some job) {other : String}
    (there : after.jobs other = some row) : ∃ before, store.jobs other = some before ∧ before.serverId = row.serverId := by
  by_cases same : other = id
  · subst same
    refine ⟨job,found,?_⟩
    cases served with
    | kept => rw [Option.some.inj (found.symm.trans there)]
    | begun free launches server_ status ids jobs =>
      rw [jobs,Function.update_self] at there
      rw [← Option.some.inj there,server_]
    | failed free fate launches server_ status ids jobs =>
      rw [jobs,Function.update_self] at there
      rw [← Option.some.inj there,server_]
  · exact ⟨row,(served.frame.2 other same).symm.trans there,rfl⟩

end

theorem page_leads (rest : List (String × String)) (entries : List (String × String)) {store : Store} (distinct : store.ids.Nodup)
    (listed : Listed c store entries) : ∃ final, Leads c (store,resume (entries ++ rest)) (final,resume rest) ∧ Swept c store entries final := by
  induction entries generalizing store with
  | nil =>
    refine ⟨store,.refl _,rfl,fun _ _ => rfl,fun _ job found => ⟨job,found,rfl⟩,fun serverId server _ => ?_,fun _ member => (List.not_mem_nil member).elim⟩
    unfold expected launched
    rw [List.countP_nil]
    split <;> omega
  | cons entry entries ih =>
    obtain ⟨id,serverId⟩ := entry
    obtain ⟨absent,apart⟩ := List.nodup_cons.mp listed.distinct
    obtain ⟨member,exists_,job,found,own,queued⟩ : id ∈ store.ids ∧ (c.servers serverId).isSome = true ∧
        ∃ job, store.jobs id = some job ∧ job.serverId = serverId ∧ job.status = .queued := listed.queued (id,serverId) List.mem_cons_self
    obtain rfl : job.serverId = serverId := own
    obtain ⟨server,known⟩ := Option.isSome_iff_exists.mp exists_
    obtain ⟨after,leads,served⟩ := sweep_leads found queued known (entries ++ rest)
    obtain ⟨ids,others⟩ := served.frame
    have later : Listed c after entries := by
      refine ⟨apart,fun entry held => ?_⟩
      obtain ⟨inside,some_,row⟩ := listed.queued entry (List.mem_cons_of_mem _ held)
      have other : entry.1 ≠ id := fun same => absent (List.mem_map.mpr ⟨entry,held,same⟩)
      rw [ids,others entry.1 other]
      exact ⟨inside,some_,row⟩
    obtain ⟨final,leads',swept⟩ := ih (ids ▸ distinct) later
    have running : ∀ serverId other, c.servers serverId = some other →
        (final.running serverId : Int) = expected c other store ((id,job.serverId) :: entries) serverId := by
      intro serverId other known'
      have first := served.running distinct member found queued known serverId other known'
      rw [swept.running serverId other known']
      unfold expected at first ⊢
      have split_ : launched c ((id,job.serverId) :: entries) serverId =
          launched c [(id,job.serverId)] serverId + launched c entries serverId := by
        unfold launched
        rw [← List.countP_append]
        rfl
      rw [split_]
      split at first
      · rename_i limited
        rw [if_pos limited,if_pos limited]
        omega
      · rename_i unlimited
        rw [if_neg unlimited,if_neg unlimited]
        omega
    refine ⟨final,leads.trans leads',swept.ids.trans ids,fun other out => ?_,fun other row there => ?_,running,
      fun entry held other known' free fate row there => ?_⟩
    · rw [List.map_cons,List.mem_cons,not_or] at out
      rw [swept.others other out.2,others other out.1]
    · obtain ⟨between,there,same⟩ := swept.owners other row there
      obtain ⟨before,first,own⟩ := served.owner found there
      exact ⟨before,first,own.trans same⟩
    · obtain rfl | behind := List.mem_cons.mp held
      · obtain rfl : other = server := Option.some.inj (known'.symm.trans known)
        have room : ¬Full other store job.serverId := by
          intro full
          have counted := running job.serverId other known
          unfold Full at full free
          unfold expected at counted
          rw [if_pos full.1] at counted
          refine free ⟨full.1,?_⟩
          show other.limit ≤ (final.running job.serverId : Int)
          omega
        obtain ⟨row',there',status⟩ := served.queued fate room
        rw [swept.others id absent,there'] at there
        exact Option.some.inj there ▸ status
      · exact swept.started entry behind other known' free fate row there

theorem Leads.idle {point : Store × Task} {first second : Store} (left : Leads c point (first,.idle)) (right : Leads c point (second,.idle)) :
    first = second := by
  obtain ⟨turns,one⟩ := left
  obtain ⟨more,two⟩ := right
  have stays : ∀ (store : Store) (turns : ℕ), (c.turn)^[turns] (store,.idle) = (store,.idle) := fun store => Function.iterate_fixed rfl
  obtain later | later := Nat.le_total turns more
  · obtain ⟨gap,rfl⟩ := Nat.exists_eq_add_of_le' later
    rw [Function.iterate_add_apply,one,stays] at two
    exact congrArg Prod.fst two
  · obtain ⟨gap,rfl⟩ := Nat.exists_eq_add_of_le' later
    rw [Function.iterate_add_apply,two,stays] at one
    exact (congrArg Prod.fst one).symm

theorem page_listed (c : Circumstances) (distinct : store.ids.Nodup) : Listed c store (reach c store) := by
  have rows : ∀ entry ∈ store.listJobs .queued 100, entry.1 ∈ store.ids ∧ store.jobs entry.1 = some entry.2 ∧ entry.2.status = .queued := by
    intro entry held
    obtain ⟨id,listed,read⟩ := List.mem_filterMap.mp (List.mem_of_mem_take held)
    obtain ⟨job,found,rfl⟩ := Option.map_eq_some_iff.mp read
    obtain ⟨found,queued⟩ := Option.filter_eq_some_iff.mp found
    exact ⟨List.mem_reverse.mp listed,found,of_decide_eq_true queued⟩
  have keys : ∀ ids : List String, ids.Nodup → ((ids.filterMap fun id =>
      ((store.jobs id).filter fun job => job.status = .queued).map fun job => (id,job)).map Prod.fst).Nodup := by
    intro ids distinct
    refine distinct.sublist ?_
    induction ids with
    | nil => exact .refl _
    | cons id ids ih =>
      rw [List.filterMap_cons]
      have later := ih (List.nodup_cons.mp distinct).2
      cases (store.jobs id).filter fun job => job.status = .queued with
      | none => exact later.cons _
      | some job => exact later.cons_cons _
  refine ⟨?_,fun entry held => ?_⟩
  · have all : ((store.listJobs .queued 100).map Prod.fst).Nodup := by
      unfold Store.listJobs
      exact (keys _ (List.nodup_reverse.mpr distinct)).sublist ((List.take_sublist 100 _).map _)
    refine all.sublist (((List.takeWhile_sublist _).map Prod.fst).trans ?_)
    rw [List.map_map]
    exact .refl _
  · obtain ⟨row,listed,rfl⟩ := List.mem_map.mp ((List.takeWhile_sublist _).subset held)
    obtain ⟨inside,found,queued⟩ := rows row listed
    exact ⟨inside,List.mem_takeWhile_imp (p := fun entry : String × String => (c.servers entry.2).isSome) held,row.2,found,rfl,queued⟩

theorem call_ends (c : Circumstances) (distinct : store.ids.Nodup) :
    ∃ final, Circumstances.Ends c store final ∧ Swept c store (reach c store) final := by
  have page : (store.listJobs .queued 100).map (fun entry => (entry.1,entry.2.serverId)) = reach c store ++
      ((store.listJobs .queued 100).map fun entry => (entry.1,entry.2.serverId)).dropWhile fun entry => (c.servers entry.2).isSome :=
    (List.takeWhile_append_dropWhile).symm
  obtain ⟨final,leads,swept⟩ := page_leads
    (((store.listJobs .queued 100).map fun entry => (entry.1,entry.2.serverId)).dropWhile fun entry => (c.servers entry.2).isSome)
    (reach c store) distinct (page_listed c distinct)
  rw [← page] at leads
  have listing : Leads c (store,.listing) (final,_) := .turn leads
  refine ⟨final,listing.trans ?_,swept⟩
  cases behind : ((store.listJobs .queued 100).map fun entry => (entry.1,entry.2.serverId)).dropWhile fun entry => (c.servers entry.2).isSome with
  | nil => exact .refl _
  | cons entry rest =>
    -- the server of this job is gone, and the call raises
    have gone : (c.servers entry.2).isSome ≠ true := by
      have head := List.head?_dropWhile_not (fun entry : String × String => (c.servers entry.2).isSome)
        ((store.listJobs .queued 100).map fun entry => (entry.1,entry.2.serverId))
      rw [behind] at head
      simpa using head
    have none_ : c.servers entry.2 = none := Option.not_isSome_iff_eq_none.mp gone
    refine .turn ?_
    have ended : c.turn (final,resume (entry :: rest)) = (final,.idle) := by
      simp [Circumstances.turn,act,resume,none_]
    rw [ended]
    exact .refl _

def orphaned : Store where
  ids := ["waiting","orphan"]
  jobs id := if id = "waiting" then some {serverId := "lab",templateId := "t",status := .queued}
    else if id = "orphan" then some {serverId := "gone",templateId := "t",status := .queued} else none

def orphanedLab : Circumstances where
  servers := labServers
  fate _ := .launched "/log"

end GmsRemoteTest.Build
