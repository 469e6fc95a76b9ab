import Mathlib.Data.List.Chain
import GmsRemoteTest.Automation.Orchestrator

/-! The statuses of one run under any number of orchestrators. The compare-and-swap looks at the status alone and the
table has a cycle; that no status comes back rests on `result_json`: a run at `flash_verified` carries its verification,
in the store and in every row read from it. -/
namespace GmsRemoteTest.Automation

def RunStatus.rank : RunStatus → Nat
  | .queued => 0
  | .jenkinsQueued => 1
  | .jenkinsBuilding => 2
  | .artifactReady => 3
  | .waitingDevice => 4
  | .deviceLocked => 5
  | .flashing => 6
  | .flashCompleted => 7
  | .aoaRecovering => 8
  | .postFlashVerifying => 9
  | .flashVerified => 10
  | .testing => 11
  | .testRunning => 12
  | .reportCollecting => 13
  | .analyzing => 14
  | .reporting => 15
  | _ => 16

theorem RunStatus.rank_lt {source target : RunStatus} (unfinished : source.terminal = false) (final : target.terminal = true) :
    source.rank < target.rank := by
  cases source <;> cases target <;> simp_all [rank,terminal]

theorem RunStatus.testing_from {source : RunStatus} (allowed : source.allows .testing) (ahead : source.rank < RunStatus.testing.rank) :
    source = .flashVerified := by
  revert allowed ahead
  cases source <;> decide

section
variable {aoaEnabled : AutomationRun → Bool} {run : AutomationRun} {answer : Answer} {now : String} {target : RunStatus}

theorem opening_move (moved : opening aoaEnabled run = .move target)
    (verified : run.status = .flashVerified → run.resultJson.verified = true) :
    run.status.rank < target.rank ∧ target ≠ .flashVerified := by
  cases status : run.status <;> simp only [opening,RunStatus.stageCall,status,reduceCtorEq,Opening.move.injEq] at moved
  case queued =>
    subst moved
    split <;> decide
  case deviceLocked =>
    subst moved
    decide
  case flashCompleted =>
    subst moved
    split <;> decide
  case flashVerified =>
    rw [verified status,if_pos rfl] at moved
    subst moved
    decide

theorem settle_move {columns : Columns} (moved : settle run answer now = .move target columns) :
    run.status.rank < target.rank ∧ (target = .flashVerified → run.status = .postFlashVerifying ∧ answer.success = .yes ∧
      answer.verified = .yes ∧ columns.resultJson = some {run.resultJson with postFlash := some answer}) := by
  unfold settle Answer.failing at moved
  split at moved
  all_goals (rename_i status; try rw [status])
  case h_6 =>
    split at moved
    · cases moved
    · split at moved
      · cases moved
      · rename_i verified
        cases moved
        simp only [ne_eq,not_or,not_not] at verified
        exact ⟨by decide,fun _ => ⟨rfl,verified.1,verified.2,rfl⟩⟩
  all_goals
    repeat' (split at moved)
    all_goals first
      | cases moved; exact ⟨by decide,nofun⟩
      | cases moved

theorem settle_stay {columns : Columns} (stays : settle run answer now = .stay columns) : columns.resultJson = none := by
  unfold settle Answer.failing at stays
  split at stays
  all_goals
    repeat' (split at stays)
    all_goals first
      | cases stays; rfl
      | cases stays

end

def visited (id : String) (events : List Event) : List RunStatus :=
  events.filterMap fun
    | .moved other _ target _ => if other = id then some target else none
    | .answered _ _ _ => none

def statusPath (id : String) (events : List Event) : List RunStatus := .queued :: visited id events

/-- Once the run had entered `post_flash_verifying`, a verification of it answered that it succeeded. -/
def VerifiedSince (events : List Event) (id : String) : Prop :=
  ∃ earlier later, events = earlier++later ∧ .postFlashVerifying ∈ visited id earlier ∧
    ∃ answer, .answered id .verifyPostFlash answer ∈ later ∧ answer.success = .yes ∧ answer.verified = .yes

@[simp] theorem visited_append (id : String) (first second : List Event) :
    visited id (first++second) = visited id first++visited id second := List.filterMap_append ..

theorem statusPath_append (id : String) (first second : List Event) :
    statusPath id (first++second) = statusPath id first++visited id second := by
  simp [statusPath]

theorem VerifiedSince.append {events : List Event} {id : String} (verified : VerifiedSince events id) (more : List Event) :
    VerifiedSince (events++more) id := by
  obtain ⟨earlier,later,rfl,entered,answer,member,success,sound⟩ := verified
  exact ⟨earlier,later++more,by rw [List.append_assoc],entered,answer,List.mem_append_left _ member,success,sound⟩

structure Seen (events : List Event) (run : AutomationRun) : Prop where
  unfinished : run.status.terminal = false
  entered : run.status ∈ statusPath run.id events
  verified : run.status = .flashVerified → run.resultJson.verified = true

theorem Seen.append {events : List Event} {run : AutomationRun} (seen : Seen events run) (more : List Event) :
    Seen (events++more) run := by
  refine ⟨seen.unfinished,?_,seen.verified⟩
  rw [statusPath_append]
  exact List.mem_append_left _ seen.entered

structure Proposed (events : List Event) (run : AutomationRun) (target : RunStatus) (columns : Columns) : Prop where
  ahead : run.status.rank < target.rank
  verifies : target = .flashVerified → VerifiedSince events run.id ∧
    ∃ result, columns.resultJson = some result ∧ result.verified = true

section
variable {events : List Event} {run : AutomationRun} {target : RunStatus} {columns : Columns}

theorem Proposed.append (proposed : Proposed events run target columns) (more : List Event) : Proposed (events++more) run target columns :=
  ⟨proposed.ahead,fun verifies => ⟨(proposed.verifies verifies).1.append more,(proposed.verifies verifies).2⟩⟩

theorem Proposed.final (unfinished : run.status.terminal = false) (final : target.terminal = true) : Proposed events run target columns :=
  ⟨RunStatus.rank_lt unfinished final,by rintro rfl; cases final⟩

end

section
variable {Env Local Input : Type} (executor : Executor Env Local Input)

def Purpose.fits (purpose : Purpose) (run : AutomationRun) (call : ExecutorCall) : Prop :=
  match purpose with
  | .stage => opening executor.aoaEnabled run = .call call
  | .cleanup => True
  | .release target _ | .report target _ _ => target.terminal = true

/-- What a caller has read and is about to do agrees with the history. -/
def Phase.sound (events : List Event) : Phase Local → Prop
  | .idle | .found _ _ | .claimed _ _ | .leaving _ => True
  | .calling run call purpose _ => Seen events run ∧ purpose.fits executor run call
  | .moving run target columns => Seen events run ∧ Proposed events run target columns
  | .failing run target _ _ => Seen events run ∧ target.terminal = true
  | .swapping run target columns _ => Seen events run ∧
    (target = run.status ∧ columns.resultJson = none ∨ Proposed events run target columns)

variable {executor}

theorem Phase.sound.append {events : List Event} {phase : Phase Local} (sound : phase.sound executor events) (more : List Event) :
    phase.sound executor (events++more) := by
  cases phase with
  | idle | found _ _ | claimed _ _ | leaving _ => trivial
  | calling run call purpose state => exact ⟨sound.1.append more,sound.2⟩
  | moving run target columns => exact ⟨sound.1.append more,sound.2.append more⟩
  | failing run target error reconcile => exact ⟨sound.1.append more,sound.2⟩
  | swapping run target columns reconcile =>
    exact ⟨sound.1.append more,sound.2.imp_right fun proposed => proposed.append more⟩

section
variable {events : List Event} {run : AutomationRun}

theorem sound_calls (seen : Seen events run) {call : ExecutorCall} {purpose : Purpose} (fits : purpose.fits executor run call) :
    (calls executor run call purpose).sound executor events := ⟨seen,fits⟩

theorem sound_reporting (seen : Seen events run) {target : RunStatus} (final : target.terminal = true) (error : String)
    (reconcile : Bool) (now : String) : (reporting executor run target error reconcile now).sound executor events := by
  unfold reporting
  split
  · exact ⟨seen,.inr (.final seen.unfinished final)⟩
  · exact sound_calls seen final

theorem sound_begin (seen : Seen events run) (task : Task) : (begin executor run task).sound executor events := by
  unfold begin
  cases task with
  | cancel cleanup => exact sound_calls seen trivial
  | advance =>
    dsimp only
    split
    · trivial
    · rename_i target moved
      obtain ⟨ahead,other⟩ := opening_move moved seen.verified
      exact ⟨seen,ahead,fun same => absurd same other⟩
    · rename_i call asked
      exact sound_calls seen asked

theorem sound_stage {call : ExecutorCall} (seen : Seen events run) (asked : opening executor.aoaEnabled run = .call call)
    (answer : Answer) (now : String) :
    (afterAnswer executor run call now .stage (some answer)).sound executor (events++answeredEvent run call (some answer)) := by
  have later := seen.append (answeredEvent run call (some answer))
  unfold afterAnswer
  dsimp only
  split
  · rename_i columns stays
    exact ⟨later,.inl ⟨rfl,settle_stay stays⟩⟩
  · rename_i target columns moved
    obtain ⟨ahead,verifies⟩ := settle_move moved
    refine ⟨later,ahead,fun same => ?_⟩
    obtain ⟨status,success,sound,stored⟩ := verifies same
    refine ⟨⟨events,_,rfl,?_,answer,?_,success,sound⟩,_,stored,?_⟩
    · have entered := seen.entered
      rw [status,statusPath] at entered
      exact (List.mem_cons.mp entered).resolve_left (by decide)
    · have call := opening_call asked
      rw [status] at call
      cases call
      exact List.mem_singleton.mpr rfl
    · simp [ResultJson.verified,sound]
  · rename_i target error reconcile failed
    exact ⟨later,(settle_fail failed).1⟩

theorem sound_afterAnswer {call : ExecutorCall} {purpose : Purpose} (seen : Seen events run) (fits : purpose.fits executor run call)
    (answer : Option Answer) (now : String) :
    (afterAnswer executor run call now purpose answer).sound executor (events++answeredEvent run call answer) := by
  have later := seen.append (answeredEvent run call answer)
  cases purpose with
  | stage =>
    cases answer with
    | none => trivial
    | some answer => exact sound_stage seen fits answer now
  | cleanup =>
    simp only [afterAnswer]
    split
    · exact ⟨later,.final seen.unfinished rfl⟩
    · trivial
  | release target error => exact sound_reporting later fits error false now
  | report target error reconcile => exact ⟨later,.inr (.final seen.unfinished fits)⟩

end
end

structure Tracked (runs : List AutomationRun) (events : List Event) : Prop where
  distinct : (runs.map (·.id)).Nodup
  known : ∀ id, visited id events ≠ [] → ∃ run ∈ runs, run.id = id
  current : ∀ run ∈ runs, (statusPath run.id events).getLast? = some run.status
  verified : ∀ run ∈ runs, run.status = .flashVerified → run.resultJson.verified = true ∧ VerifiedSince events run.id
  climbs : ∀ id, (statusPath id events).IsChain fun source target => source.allows target ∧ source.rank < target.rank
  gated : ∀ earlier id source reconcile later, events = earlier++Event.moved id source .testing reconcile::later →
    VerifiedSince earlier id

section
variable {runs : List AutomationRun} {events : List Event}

theorem Tracked.seen (tracked : Tracked runs events) {run : AutomationRun} (member : run ∈ runs)
    (unfinished : run.status.terminal = false) : Seen events run :=
  ⟨unfinished,List.mem_of_getLast? (tracked.current run member),fun status => (tracked.verified run member status).1⟩

structure Touched (before after : AutomationRun) : Prop where
  id : after.id = before.id
  status : after.status = before.status
  result : after.resultJson = before.resultJson

theorem Tracked.touch (tracked : Tracked runs events) {selects : AutomationRun → Prop} [DecidablePred selects]
    {set : AutomationRun → AutomationRun} (touched : ∀ run, selects run → Touched run (set run)) :
    Tracked (Table.update selects set runs) events := by
  have old : ∀ run ∈ Table.update selects set runs, ∃ before ∈ runs, Touched before run := by
    intro run member
    obtain ⟨before,held,rfl⟩ := Table.mem_update.mp member
    refine ⟨before,held,?_⟩
    split
    · rename_i chosen
      exact touched before chosen
    · exact ⟨rfl,rfl,rfl⟩
  refine ⟨?_,?_,?_,?_,tracked.climbs,tracked.gated⟩
  · rw [Table.map_update (fun run : AutomationRun => run.id) fun run chosen => (touched run chosen).id]
    exact tracked.distinct
  · intro id entered
    obtain ⟨run,member,rfl⟩ := tracked.known id entered
    refine ⟨_,Table.mem_update.mpr ⟨run,member,rfl⟩,?_⟩
    split
    · rename_i chosen
      exact (touched run chosen).id
    · rfl
  · intro run member
    obtain ⟨before,held,same⟩ := old run member
    rw [same.id,same.status]
    exact tracked.current before held
  · intro run member status
    obtain ⟨before,held,same⟩ := old run member
    rw [same.id,same.result]
    rw [same.status] at status
    exact tracked.verified before held status

theorem visited_answered (id : String) (run : AutomationRun) (call : ExecutorCall) (answer : Option Answer) :
    visited id (answeredEvent run call answer) = [] := by
  cases answer <;> rfl

theorem Tracked.answer (tracked : Tracked runs events) (run : AutomationRun) (call : ExecutorCall) (answer : Option Answer) :
    Tracked runs (events++answeredEvent run call answer) := by
  have same : ∀ id, visited id (events++answeredEvent run call answer) = visited id events := by
    intro id
    rw [visited_append,visited_answered,List.append_nil]
  refine ⟨tracked.distinct,?_,?_,?_,?_,?_⟩
  · intro id entered
    rw [same] at entered
    exact tracked.known id entered
  · intro row member
    rw [statusPath,same]
    exact tracked.current row member
  · intro row member status
    exact ⟨(tracked.verified row member status).1,(tracked.verified row member status).2.append _⟩
  · intro id
    rw [statusPath,same]
    exact tracked.climbs id
  · intro earlier id source reconcile later split
    cases answer with
    | none => exact tracked.gated earlier id source reconcile later (by rw [← split]; exact (List.append_nil _).symm)
    | some answer =>
      -- the last event is an answer, so the change of status is among the others
      obtain rfl | ⟨others,last,rfl⟩ := List.eq_nil_or_concat later
      · have ends := congrArg List.getLast? split
        simp [answeredEvent] at ends
      · rw [List.concat_eq_append,← List.cons_append,← List.append_assoc] at split
        exact tracked.gated earlier id source reconcile others (List.append_inj_left' split rfl)

theorem Tracked.create (tracked : Tracked runs events) (request : RunRequest) (id now : String) :
    Tracked (RunStore.createRun runs (request.toRunDict id now)) events := by
  unfold RunStore.createRun
  split
  · exact tracked
  · rename_i fresh
    have absent : ∀ old ∈ runs, old.id ≠ id := fun old member same => fresh ⟨old,member,.inl same⟩
    have silent : visited id events = [] := by
      by_contra entered
      obtain ⟨run,member,same⟩ := tracked.known id entered
      exact absent run member same
    refine ⟨Table.nodup_insert tracked.distinct absent,?_,?_,?_,tracked.climbs,tracked.gated⟩
    · intro other entered
      obtain ⟨run,member,same⟩ := tracked.known other entered
      exact ⟨run,List.mem_append_left _ member,same⟩
    · intro run member
      rcases List.mem_append.mp member with old | new
      · exact tracked.current run old
      · rw [List.mem_singleton.mp new]
        change (statusPath id events).getLast? = some .queued
        rw [statusPath,silent]
        rfl
    · intro run member status
      rcases List.mem_append.mp member with old | new
      · exact tracked.verified run old status
      · rw [List.mem_singleton.mp new] at status
        cases status

def moves (selects : AutomationRun → Prop) [DecidablePred selects] (set : AutomationRun → AutomationRun) (reconcile : Bool)
    (runs : List AutomationRun) : List Event :=
  (Table.select selects runs).map fun run => .moved run.id run.status (set run).status reconcile

variable {selects : AutomationRun → Prop} [DecidablePred selects] {set : AutomationRun → AutomationRun} {reconcile : Bool}

theorem visited_moves (id : String) : visited id (moves selects set reconcile runs) =
    (Table.select (fun run : AutomationRun => run.id = id) (Table.select selects runs)).map fun run => (set run).status := by
  unfold moves
  induction Table.select selects runs with
  | nil => rfl
  | cons run runs ih =>
    unfold visited Table.select at ih ⊢
    by_cases same : run.id = id
    · simp [same,ih]
    · simp [same,ih]

section
variable (distinct : (runs.map (·.id)).Nodup) {run : AutomationRun} (member : run ∈ runs)
include distinct member

theorem select_one :
    Table.select (fun other : AutomationRun => other.id = run.id) (Table.select selects runs) = if selects run then [run] else [] := by
  have alone := Table.select_key distinct member
  unfold Table.select at alone ⊢
  rw [List.filter_comm,alone]
  by_cases chosen : selects run <;> simp [chosen]

theorem visited_moves_own :
    visited run.id (moves selects set reconcile runs) = if selects run then [(set run).status] else [] := by
  rw [visited_moves,select_one distinct member]
  split <;> rfl

end

theorem visited_moves_other {id : String} (absent : ∀ run ∈ runs, run.id ≠ id) :
    visited id (moves selects set reconcile runs) = [] := by
  rw [visited_moves,List.map_eq_nil_iff,Table.select_eq_nil]
  exact fun run member => absent run (Table.mem_select.mp member).1

structure Rises (events : List Event) (before after : AutomationRun) : Prop where
  id : after.id = before.id
  allowed : before.status.allows after.status
  ahead : before.status.rank < after.status.rank
  verifies : after.status = .flashVerified → after.resultJson.verified = true ∧ VerifiedSince events before.id

theorem Tracked.move (tracked : Tracked runs events) (rises : ∀ run ∈ runs, selects run → Rises events run (set run)) :
    Tracked (Table.update selects set runs) (events++moves selects set reconcile runs) := by
  have kept : ∀ run ∈ runs, (if selects run then set run else run).id = run.id := by
    intro run member
    split
    · rename_i chosen
      exact (rises run member chosen).id
    · rfl
  have known : ∀ id, visited id (events++moves selects set reconcile runs) ≠ [] → ∃ run ∈ runs, run.id = id := by
    intro id entered
    by_contra absent
    apply entered
    rw [visited_append,visited_moves_other fun run member same => absent ⟨run,member,same⟩,List.append_nil]
    by_contra before
    exact absent (tracked.known id before)
  refine ⟨?_,?_,?_,?_,?_,?_⟩
  · have same : (Table.update selects set runs).map (·.id) = runs.map (·.id) := by
      simp only [Table.update,List.map_map]
      exact List.map_congr_left kept
    rw [same]
    exact tracked.distinct
  · intro id entered
    obtain ⟨run,member,rfl⟩ := known id entered
    exact ⟨_,Table.mem_update.mpr ⟨run,member,rfl⟩,kept run member⟩
  · intro row member
    obtain ⟨run,held,rfl⟩ := Table.mem_update.mp member
    rw [kept run held,statusPath_append,visited_moves_own tracked.distinct held]
    split
    · exact List.getLast?_concat
    · rw [List.append_nil]
      exact tracked.current run held
  · intro row member status
    obtain ⟨run,held,rfl⟩ := Table.mem_update.mp member
    rw [kept run held]
    split at status
    · rename_i chosen
      obtain ⟨stored,since⟩ := (rises run held chosen).verifies status
      rw [if_pos chosen]
      exact ⟨stored,since.append _⟩
    · rename_i other
      rw [if_neg other]
      exact ⟨(tracked.verified run held status).1,(tracked.verified run held status).2.append _⟩
  · intro id
    rw [statusPath_append]
    by_cases present : ∃ run ∈ runs, run.id = id
    · obtain ⟨run,member,rfl⟩ := present
      rw [visited_moves_own tracked.distinct member]
      split
      · rename_i chosen
        have rise := rises run member chosen
        refine List.isChain_append.mpr ⟨tracked.climbs run.id,.singleton _,?_⟩
        intro source last target first
        rw [tracked.current run member] at last
        cases last
        cases first
        exact ⟨rise.allowed,rise.ahead⟩
      · rw [List.append_nil]
        exact tracked.climbs run.id
    · rw [visited_moves_other fun run member same => present ⟨run,member,same⟩,List.append_nil]
      exact tracked.climbs id
  · intro earlier id source moved later split
    -- a run that is tested now was at `flash_verified`
    have tested : Event.moved id source .testing moved ∈ moves selects set reconcile runs → VerifiedSince events id := by
      intro listed
      obtain ⟨run,chosen,same⟩ := List.mem_map.mp listed
      obtain ⟨member,chosen⟩ := Table.mem_select.mp chosen
      have rise := rises run member chosen
      injection same with named _ target _
      rw [← named]
      exact (tracked.verified run member (RunStatus.testing_from (target ▸ rise.allowed) (target ▸ rise.ahead))).2
    rcases List.append_eq_append_iff.mp split with ⟨more,rfl,new⟩ | ⟨rest,rfl,old⟩
    · exact (tested (by rw [new]; simp)).append more
    · cases rest with
      | nil =>
        rw [List.nil_append] at old
        rw [List.append_nil] at tested
        exact tested (by rw [← old]; exact List.mem_cons_self ..)
      | cons event rest =>
        rw [List.cons_append] at old
        injection old with same _
        exact tracked.gated earlier id source moved rest (by rw [← same])

theorem swap_moves (distinct : (runs.map (·.id)).Nodup) (id : String) (expected target : RunStatus) (columns : Columns) (now : String)
    (reconcile : Bool) :
    moves (fun run => run.id = id ∧ run.status = expected) (RunStore.written target columns now) reconcile runs =
      if ∃ run ∈ runs, run.id = id ∧ run.status = expected then [.moved id expected target reconcile] else [] := by
  split
  · rename_i found
    obtain ⟨run,member,rfl,rfl⟩ := found
    have alone := Table.select_key distinct member
    have same : Table.select (fun other : AutomationRun => other.id = run.id ∧ other.status = run.status) runs =
        Table.select (fun other : AutomationRun => other.id = run.id) runs := by
      apply Table.select_congr
      intro other held
      constructor
      · exact And.left
      · intro key
        exact ⟨key,by rw [Table.eq_of_key distinct held member key]⟩
    unfold moves
    rw [same,alone]
    rfl
  · rename_i none
    unfold moves
    rw [List.map_eq_nil_iff,Table.select_eq_nil]
    exact fun run member chosen => none ⟨run,member,chosen⟩

theorem Tracked.swap (tracked : Tracked runs events) {run : AutomationRun} {target : RunStatus} {columns : Columns}
    (asked : target = run.status ∧ columns.resultJson = none ∨ Proposed events run target columns) (now : String) :
    let swap := RunStore.updateRunIfStatus runs run.id run.status target columns now
    Tracked swap.2 (events++if swap.1 = true ∧ target ≠ run.status then [.moved run.id run.status target reconcile] else []) := by
  intro swap
  have held : swap = RunStore.updateRunIfStatus runs run.id run.status target columns now := rfl
  unfold RunStore.updateRunIfStatus at held
  split at held
  · rename_i allowed
    rw [held]
    rcases asked with ⟨rfl,kept⟩ | proposed
    · rw [if_neg (fun moved => moved.2 rfl),List.append_nil]
      refine tracked.touch fun row chosen => ⟨rfl,chosen.2.symm,?_⟩
      simp [RunStore.written,Columns.apply,kept]
    · have other : target ≠ run.status := by
        rintro rfl
        exact Nat.lt_irrefl _ proposed.ahead
      have events := swap_moves tracked.distinct run.id run.status target columns now reconcile
      simp only [decide_eq_true_eq,ne_eq,other,not_false_eq_true,and_true]
      rw [← events]
      refine tracked.move fun row member chosen => ?_
      refine ⟨rfl,chosen.2 ▸ allowed,chosen.2 ▸ proposed.ahead,fun verified => ?_⟩
      obtain ⟨since,result,stored,sound⟩ := proposed.verifies verified
      refine ⟨?_,chosen.1 ▸ since⟩
      simp [RunStore.written,Columns.apply,stored,sound]
  · rw [held]
    simpa using tracked

end

section
variable {Env Local Input : Type} {executor : Executor Env Local Input}

structure PipelineSound (executor : Executor Env Local Input) (world : World Env Local) : Prop where
  tracked : Tracked world.runs world.events
  phases : ∀ caller, (world.phases caller).sound executor world.events

theorem PipelineSound.caller {world : World Env Local} (sound : PipelineSound executor world) {shared : Shared Env}
    (tracked : Tracked shared.runs shared.events) {more : List Event} (grown : shared.events = world.events++more)
    {caller : String} {phase : Phase Local} (next : phase.sound executor shared.events) :
    PipelineSound executor ⟨shared,Function.update world.phases caller phase⟩ := by
  refine ⟨tracked,fun other => ?_⟩
  by_cases same : other = caller
  · subst same
    simpa using next
  · simp only [Function.update_of_ne same,grown]
    exact (sound.phases other).append more

section
variable {runs : List AutomationRun} {events : List Event} (tracked : Tracked runs events)
include tracked

theorem Tracked.claimRun (id owner now expiry : String) : Tracked (RunStore.claimRun runs id owner now expiry).2 events :=
  tracked.touch fun _ _ => ⟨rfl,rfl,rfl⟩

theorem Tracked.claimNextActive (owner now expiry : String) : Tracked (RunStore.claimNextActive runs owner now expiry).2 events := by
  unfold RunStore.claimNextActive
  split
  · exact tracked
  · exact tracked.touch fun _ _ => ⟨rfl,rfl,rfl⟩

end

theorem proceed_sound {shared : Shared Env} (tracked : Tracked shared.runs shared.events) {phase : Phase Local}
    (sound : phase.sound executor shared.events) (owner : String) (input : Input) (now expiry : String) :
    let next := proceed executor owner input now expiry shared phase
    Tracked next.1.runs next.1.events ∧ next.2.sound executor next.1.events ∧ ∃ more, next.1.events = shared.events++more := by
  have idle : ∃ more, shared.events = shared.events++more := ⟨[],(List.append_nil _).symm⟩
  cases phase with
  | idle => exact ⟨tracked,trivial,idle⟩
  | found id task =>
    refine ⟨tracked.claimRun id owner now expiry,?_,idle⟩
    simp only [proceed]
    split <;> trivial
  | claimed id task =>
    simp only [proceed]
    split
    · exact ⟨tracked,trivial,idle⟩
    · rename_i run found
      refine ⟨tracked,?_,idle⟩
      dsimp only
      split
      · trivial
      · rename_i unfinished
        exact sound_begin (tracked.seen (Table.fetch_mem found) (by simpa using unfinished)) task
  | calling run call purpose state =>
    simp only [proceed]
    split
    · exact ⟨tracked,sound,idle⟩
    · rename_i answer _
      exact ⟨tracked.answer run call answer,sound_afterAnswer sound.1 sound.2 answer now,_,rfl⟩
  | moving run target columns =>
    refine ⟨tracked,?_,idle⟩
    simp only [proceed]
    split
    · trivial
    · refine ⟨sound.1,.inr ⟨sound.2.ahead,fun verified => ?_⟩⟩
      obtain ⟨since,result,stored,verifies⟩ := sound.2.verifies verified
      refine ⟨since,_,rfl,?_⟩
      rw [stored]
      exact verifies
  | failing run target error reconcile =>
    refine ⟨tracked,?_,idle⟩
    simp only [proceed]
    split
    · trivial
    · split
      · exact sound_reporting sound.1 sound.2 error reconcile now
      · exact sound_calls sound.1 sound.2
  | swapping run target columns reconcile => exact ⟨tracked.swap sound.2 now,trivial,_,rfl⟩
  | leaving id => exact ⟨tracked.touch fun _ _ => ⟨rfl,rfl,rfl⟩,trivial,idle⟩

theorem PipelineSound.opens {world : World Env Local} (sound : PipelineSound executor world) (caller : String)
    {shared : Shared Env} (tracked : Tracked shared.runs shared.events) (same : shared.events = world.events)
    {phase : Phase Local} (next : phase.sound executor shared.events) :
    PipelineSound executor (opens world caller (shared,phase)) := by
  unfold Automation.opens
  split
  · exact sound.caller tracked (same.trans (List.append_nil _).symm) next
  · exact sound

theorem sound_lookUp {runs : List AutomationRun} {events : List Event} (id : String) (task : Task) :
    (lookUp runs id task : Phase Local).sound executor events := by
  unfold lookUp
  split
  · trivial
  · split <;> trivial

theorem stopPending_moves (runs : List AutomationRun) (batchId now : String) : stopEvents runs batchId =
    moves (fun run => run.toRun.pendingRetry batchId) (fun run => {run with
      status := .cancelled
      currentStage := .cancelled
      followup := .done
      finishedAt := now
      updatedAt := now
      stateVersion := run.stateVersion+1}) false runs := rfl

theorem PipelineSound.step {world : World Env Local} (sound : PipelineSound executor world) (owner : String → String)
    (op : PipelineOp Input) : PipelineSound executor (pipelineStep executor owner op world) := by
  cases op with
  | createRun request id now => exact ⟨sound.tracked.create request id now,sound.phases⟩
  | advanceNext caller now expiry =>
    have tracked := sound.tracked.claimNextActive (owner caller) now expiry
    refine sound.opens caller (show Tracked (Shared.mk _ world.env world.events).runs _ from tracked) rfl ?_
    split <;> trivial
  | advanceRun caller id => exact sound.opens caller sound.tracked rfl (sound_lookUp id .advance)
  | cancelRun caller id cleanup => exact sound.opens caller sound.tracked rfl (sound_lookUp id (.cancel cleanup))
  | go caller input now expiry =>
    obtain ⟨tracked,next,more,grown⟩ := proceed_sound sound.tracked (sound.phases caller) (owner caller) input now expiry
    exact sound.caller tracked grown next
  | renewClaim caller id expiry => exact ⟨sound.tracked.touch fun _ _ => ⟨rfl,rfl,rfl⟩,sound.phases⟩
  | stopBatch batchId now =>
    refine ⟨?_,fun caller => (sound.phases caller).append _⟩
    dsimp only [pipelineStep]
    rw [stopPending_moves _ _ now]
    refine sound.tracked.move fun run _ chosen => ?_
    have queued : run.status = .queued := chosen.2.2.1
    have allowed : run.status.allows .cancelled ∧ run.status.rank < RunStatus.cancelled.rank := by
      rw [queued]
      decide
    exact ⟨rfl,allowed.1,allowed.2,nofun⟩
  | crash caller => exact sound.caller sound.tracked (List.append_nil _).symm trivial
  | outside input => exact ⟨sound.tracked,sound.phases⟩

theorem Tracked.empty : Tracked [] [] where
  distinct := .nil
  known := fun _ entered => absurd rfl entered
  current := fun _ member => nomatch member
  verified := fun _ member => nomatch member
  climbs := fun _ => .singleton _
  gated := fun earlier _ _ _ _ split => absurd split.symm (List.append_ne_nil_of_right_ne_nil earlier (List.cons_ne_nil _ _))

theorem PipelineSound.empty (env : Env) : PipelineSound executor (emptyWorld env) := ⟨.empty,fun _ => trivial⟩

end

/-- The pipeline's order of statuses: no step leaves a terminal one. -/
def RunStatus.moves (source target : RunStatus) : Prop := source ≠ target ∧ source.allows target

theorem RunStatus.moves_terminal {source target : RunStatus} (moved : source.moves target) : source.terminal = false :=
  (moved.2.resolve_left moved.1).1

/-- Whatever the executor answers, the statuses of a run are a path of the transition table from `queued`, without repetition and
ending at the first terminal one; and it entered `testing` only after a verification that succeeded since it had entered
`post_flash_verifying`. -/
theorem run_statuses {Env Local Input : Type} (executor : Executor Env Local Input) (owner : String → String) (env : Env)
    (ops : List (PipelineOp Input)) (run : AutomationRun)
    (stored : run ∈ (Runs.exec (pipelineStep executor owner) (emptyWorld env) ops).runs) :
    let events := (Runs.exec (pipelineStep executor owner) (emptyWorld env) ops).events
    (statusPath run.id events).IsChain RunStatus.moves ∧ (statusPath run.id events).getLast? = some run.status ∧
      (statusPath run.id events).Nodup ∧
      (∀ earlier status later, statusPath run.id events = earlier++status::later → status.terminal = true → later = []) ∧
      ∀ earlier source reconcile later, events = earlier++Event.moved run.id source .testing reconcile::later →
        VerifiedSince earlier run.id := by
  intro events
  have kept : ∀ world op, PipelineSound executor world → PipelineSound executor (pipelineStep executor owner op world) :=
    fun _ op sound => sound.step owner op
  have sound := Runs.exec_invariant kept (PipelineSound.empty env) ops
  have climbs := sound.tracked.climbs run.id
  have chain : (statusPath run.id events).IsChain RunStatus.moves := by
    refine climbs.imp fun source target step => ⟨?_,step.1⟩
    rintro rfl
    exact Nat.lt_irrefl _ step.2
  have up : (statusPath run.id events).IsChain fun source target => source.rank < target.rank :=
    climbs.imp fun _ _ step => step.2
  have distinct : (statusPath run.id events).Nodup := by
    have apart : ((statusPath run.id events).map RunStatus.rank).IsChain (· < ·) := (List.isChain_map _).mpr up
    exact (List.isChain_iff_pairwise.mp apart).nodup.of_map _
  refine ⟨chain,sound.tracked.current run stored,distinct,?_,?_⟩
  · intro earlier status later split final
    cases later with
    | nil => rfl
    | cons next later =>
      rw [split] at chain
      have moved := (List.isChain_append_cons_cons.mp chain).2.1
      rw [RunStatus.moves_terminal moved] at final
      cases final
  · intro earlier source reconcile later split
    exact sound.tracked.gated earlier run.id source reconcile later split

def flashedRun : List (PipelineOp (Option Answer)) :=
  let turn := fun (answer : Answer) => .advanceNext "a" "t1" "t2" :: List.replicate 5 (.go "a" (some answer) "t1" "t2")
  .createRun {} "run-1" "t0" :: ([{},{success := .yes},{},{success := .truthy},{},{success := .yes, verified := .yes},{}].flatMap turn)

theorem run_statuses_tested : ∃ run ∈ (Runs.exec (pipelineStep scripted id) (emptyWorld ()) flashedRun).runs,
    run.status = .testing ∧ (statusPath run.id (Runs.exec (pipelineStep scripted id) (emptyWorld ()) flashedRun).events).Nodup := by
  have tested : ∃ run ∈ (Runs.exec (pipelineStep scripted id) (emptyWorld ()) flashedRun).runs, run.status = .testing := by
    decide +kernel
  obtain ⟨run,stored,status⟩ := tested
  exact ⟨run,stored,status,(run_statuses scripted id () flashedRun run stored).2.2.1⟩

end GmsRemoteTest.Automation
