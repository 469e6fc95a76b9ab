import GmsRemoteTest.Automation.DeviceStages

/-! When the orchestrators release the reservation of a run. `_fail` and `cancel_run` release it before
their compare-and-swap, so a caller that was overtaken inside an executor call gives away the devices
of a run that goes on. -/
namespace GmsRemoteTest.Automation
open Cluster

def storedStatus (runs : List AutomationRun) (id : String) : Option RunStatus := (RunStore.getRun runs id).map (·.status)

/-- The pipeline with the callers whose present call has released the reservation of its run. -/
structure Watched where
  world : World State DeviceCall
  freed : List (String × String)

section
variable (settings : Settings) (fingerprint : TestRequest → String) (owner : String → String)

def frees (world : World State DeviceCall) (caller : String) (input : DeviceInput) : Option String :=
  match world.phases caller with
  | .calling run call purpose state =>
    let after := deviceProceed settings fingerprint (purpose.argument run) state input world.env
    if (call = .cancel ∨ call = .releaseResources) ∧ Reserved world.env.db.reservations run.deviceReservationId ∧
        ¬ Reserved after.1.db.reservations run.deviceReservationId then some run.id
    else none
  | _ => none

def freedAfter (watched : Watched) : PipelineOp DeviceInput → List (String × String)
  | .go caller input _ _ => match watched.world.phases caller with
    | .leaving _ => watched.freed.filter (·.1 ≠ caller)
    | _ => ((frees settings fingerprint watched.world caller input).map fun id => (caller,id)).toList++watched.freed
  | .crash caller => watched.freed.filter (·.1 ≠ caller)
  | _ => watched.freed

def watchStep (op : PipelineOp DeviceInput) (watched : Watched) : Watched :=
  ⟨pipelineStep (httpExecutor settings fingerprint) owner op watched.world,freedAfter settings fingerprint watched op⟩

def Holds (runs : List AutomationRun) (run : AutomationRun) : Prop :=
  storedStatus runs run.id = some run.status ∨ ended runs run.id = true

instance (runs : List AutomationRun) (run : AutomationRun) : Decidable (Holds runs run) := inferInstanceAs (Decidable (_ ∨ _))

/-- A release happens while the run is where the caller read it, and no other caller moves the run on, short of ending it, before
the compare-and-swap after it. -/
def Timely (watched : Watched) : PipelineOp DeviceInput → Prop
  | .go caller input _ _ => match watched.world.phases caller with
    | .calling run _ _ _ =>
      (frees settings fingerprint watched.world caller input).isSome = true → Holds watched.world.runs run
    | .swapping run target _ _ => storedStatus watched.world.runs run.id = some run.status → target ≠ run.status →
      target.terminal = false → ∀ entry ∈ watched.freed, entry.2 = run.id → entry.1 = caller
    | _ => True
  | _ => True

instance (watched : Watched) (op : PipelineOp DeviceInput) : Decidable (Timely settings fingerprint watched op) := by
  unfold Timely
  repeat' split
  all_goals infer_instance

end

section
variable {before after : List AutomationRun} {id : String}

theorem getRun_id {run : AutomationRun} (found : RunStore.getRun before id = some run) : run.id = id := by
  have selected := List.find?_some found
  simpa using selected

theorem ended_iff : ended before id = true ↔ ∃ status, storedStatus before id = some status ∧ status.terminal = true := by
  unfold ended storedStatus
  cases RunStore.getRun before id <;> simp

def Onward (before after : List AutomationRun) (id : String) : Prop :=
  storedStatus after id = storedStatus before id ∨ ended after id = true

theorem Onward.ended (onward : Onward before after id) (halted : Automation.ended before id = true) : Automation.ended after id = true := by
  rcases onward with same | halted
  · rw [ended_iff] at halted ⊢
    rwa [same]
  · exact halted

theorem Holds.onward {run : AutomationRun} (holds : Holds before run) (onward : Onward before after run.id) : Holds after run := by
  rcases holds with stored | halted
  · rcases onward with same | halted
    · exact .inl (same.trans stored)
    · exact .inr halted
  · exact .inr (onward.ended halted)

theorem storedStatus_update {runs : List AutomationRun} {selects : AutomationRun → Prop} [DecidablePred selects]
    {set : AutomationRun → AutomationRun} (kept : ∀ row, selects row → (set row).id = row.id) (id : String) :
    storedStatus (Table.update selects set runs) id =
      (RunStore.getRun runs id).map fun row => (if selects row then set row else row).status := by
  unfold storedStatus RunStore.getRun
  rw [Table.fetch_update kept,Option.map_map]
  rfl

theorem Onward.update {runs : List AutomationRun} {selects : AutomationRun → Prop} [DecidablePred selects]
    {set : AutomationRun → AutomationRun} (kept : ∀ row, selects row → (set row).id = row.id) {id : String}
    (moves : ∀ row ∈ runs, row.id = id → selects row → (set row).status = row.status ∨ (set row).status.terminal = true) :
    Onward runs (Table.update selects set runs) id := by
  unfold Onward
  rw [ended_iff,storedStatus_update kept]
  unfold storedStatus
  cases found : RunStore.getRun runs id with
  | none => exact .inl rfl
  | some row =>
    have named := getRun_id found
    simp only [Option.map_some,Option.some.injEq,exists_eq_left']
    split
    · rename_i chosen
      exact moves row (Table.fetch_mem found) named chosen
    · exact .inl rfl

theorem Onward.create (runs : List AutomationRun) (run : AutomationRun) {id : String} (known : storedStatus runs id ≠ none) :
    storedStatus (RunStore.createRun runs run) id = storedStatus runs id := by
  unfold RunStore.createRun
  split
  · rfl
  · unfold storedStatus RunStore.getRun Table.fetch at known ⊢
    rw [List.find?_append]
    cases found : List.find? (fun row : AutomationRun => decide (row.id = id)) runs with
    | none =>
      rw [found] at known
      exact absurd rfl known
    | some row => rfl

theorem storedStatus_swap {runs : List AutomationRun} {run : AutomationRun} {target : RunStatus} (allowed : run.status.allows target)
    (columns : Columns) (now id : String) : storedStatus (RunStore.updateRunIfStatus runs run.id run.status target columns now).2 id =
      (RunStore.getRun runs id).map fun row => if row.id = run.id ∧ row.status = run.status then target else row.status := by
  have kept : ∀ row : AutomationRun, row.id = run.id ∧ row.status = run.status → (RunStore.written target columns now row).id = row.id :=
    fun _ _ => rfl
  rw [RunStore.updateRunIfStatus,if_pos allowed]
  dsimp only
  rw [storedStatus_update kept]
  congr 1
  funext row
  split <;> rfl

theorem Onward.swap {runs : List AutomationRun} {run : AutomationRun} {target : RunStatus} (columns : Columns) (now : String)
    {id : String} (gentle : run.id = id → storedStatus runs id = some run.status → target = run.status ∨ target.terminal = true) :
    Onward runs (RunStore.updateRunIfStatus runs run.id run.status target columns now).2 id := by
  by_cases allowed : run.status.allows target
  · unfold Onward
    rw [ended_iff,storedStatus_swap allowed]
    cases found : RunStore.getRun runs id with
    | none => exact .inl (by rw [storedStatus,found]; rfl)
    | some row =>
      have stored : storedStatus runs id = some row.status := by rw [storedStatus,found]; rfl
      rw [stored]
      by_cases chosen : row.id = run.id ∧ row.status = run.status
      · have named : run.id = id := chosen.1.symm.trans (getRun_id found)
        have moved := gentle named (stored.trans (congrArg some chosen.2))
        simpa [chosen] using moved
      · exact .inl (by simp [chosen])
  · rw [RunStore.updateRunIfStatus,if_neg allowed]
    exact .inl rfl

theorem Holds.swap {runs : List AutomationRun} {run : AutomationRun} {target : RunStatus} (holds : Holds runs run)
    (allowed : run.status.allows target) (final : target.terminal = true) (columns : Columns) (now : String) :
    ended (RunStore.updateRunIfStatus runs run.id run.status target columns now).2 run.id = true := by
  rcases holds with stored | halted
  · rw [ended_iff,storedStatus_swap allowed]
    unfold storedStatus at stored
    cases found : RunStore.getRun runs run.id with
    | none =>
      rw [found] at stored
      cases stored
    | some row =>
      rw [found] at stored
      have same : row.status = run.status := Option.some.inj stored
      exact ⟨target,by simp [same,getRun_id found],final⟩
  · exact (Onward.swap columns now fun _ _ => .inr final).ended halted

end

section
variable {settings : Settings} {fingerprint : TestRequest → String} {owner : String → String}

def Phase.ending (runs : List AutomationRun) (id : String) : Phase DeviceCall → Prop
  | .calling run _ purpose _ => run.id = id ∧ Holds runs run ∧ ∃ target error reconcile, purpose = .report target error reconcile
  | .moving run target _ | .swapping run target _ _ => run.id = id ∧ Holds runs run ∧ target.terminal = true
  | .leaving other => other = id ∧ ended runs id = true
  | .idle | .found _ _ | .claimed _ _ | .failing _ _ _ _ => False

theorem Phase.ending.onward {before after : List AutomationRun} {id : String} {phase : Phase DeviceCall} (ending : phase.ending before id)
    (onward : Onward before after id) : phase.ending after id := by
  cases phase with
  | calling run call purpose state =>
    obtain ⟨rfl,holds,report⟩ := ending
    exact ⟨rfl,holds.onward onward,report⟩
  | moving run target columns =>
    obtain ⟨rfl,holds,final⟩ := ending
    exact ⟨rfl,holds.onward onward,final⟩
  | swapping run target columns reconcile =>
    obtain ⟨rfl,holds,final⟩ := ending
    exact ⟨rfl,holds.onward onward,final⟩
  | leaving other => exact ⟨ending.1,onward.ended ending.2⟩
  | idle | found _ _ | claimed _ _ | failing _ _ _ _ => exact ending

structure ReleaseSound (watched : Watched) : Prop where
  proper : ∀ caller, (watched.world.phases caller).proper
  fits : ∀ caller, (watched.world.phases caller).fits
  ending : ∀ entry ∈ watched.freed, (watched.world.phases entry.1).ending watched.world.runs entry.2

theorem Phase.ending.known {runs : List AutomationRun} {id : String} {phase : Phase DeviceCall} (ending : phase.ending runs id) :
    storedStatus runs id ≠ none := by
  have halted : ended runs id = true → storedStatus runs id ≠ none := by
    intro halted
    obtain ⟨status,stored,_⟩ := ended_iff.mp halted
    rw [stored]
    exact Option.some_ne_none status
  have held : ∀ run : AutomationRun, run.id = id → Holds runs run → storedStatus runs id ≠ none := by
    rintro run rfl (stored | ends)
    · rw [stored]
      exact Option.some_ne_none _
    · exact halted ends
  cases phase with
  | calling run call purpose state => exact held run ending.1 ending.2.1
  | moving run target columns => exact held run ending.1 ending.2.1
  | swapping run target columns reconcile => exact held run ending.1 ending.2.1
  | leaving other => exact halted ending.2
  | idle | found _ _ | claimed _ _ | failing _ _ _ _ => exact ending.elim

theorem touched_onward {runs : List AutomationRun} {selects : AutomationRun → Prop} [DecidablePred selects]
    {set : AutomationRun → AutomationRun} (kept : ∀ row, (set row).id = row.id ∧ (set row).status = row.status) (id : String) :
    Onward runs (Table.update selects set runs) id :=
  .update (fun row _ => (kept row).1) fun row _ _ _ => .inl (kept row).2

theorem claimRun_onward (runs : List AutomationRun) (other owner now expiry id : String) :
    Onward runs (RunStore.claimRun runs other owner now expiry).2 id := by
  refine touched_onward ?_ id
  exact fun _ => ⟨rfl,rfl⟩

theorem releaseClaim_onward (runs : List AutomationRun) (other owner id : String) :
    Onward runs (RunStore.releaseClaim runs other owner) id := by
  refine touched_onward ?_ id
  exact fun _ => ⟨rfl,rfl⟩

theorem renewClaim_onward (runs : List AutomationRun) (other owner expiry id : String) :
    Onward runs (RunStore.renewClaim runs other owner expiry) id := by
  refine touched_onward ?_ id
  exact fun _ => ⟨rfl,rfl⟩

theorem stopPending_onward (runs : List AutomationRun) (batchId now id : String) :
    Onward runs (RunStore.stopPending runs batchId now) id := by
  refine Onward.update ?_ ?_
  · exact fun _ _ => rfl
  · exact fun _ _ _ _ => .inr rfl

theorem claimNextActive_onward (runs : List AutomationRun) (owner now expiry id : String) :
    Onward runs (RunStore.claimNextActive runs owner now expiry).2 id := by
  unfold RunStore.claimNextActive
  split
  · exact .inl rfl
  · refine touched_onward ?_ id
    exact fun _ => ⟨rfl,rfl⟩

theorem proceed_onward (owner : String) (input : DeviceInput) (now expiry : String) {shared : Shared State} {phase : Phase DeviceCall}
    {id : String} (gentle : ∀ run target columns reconcile, phase = .swapping run target columns reconcile → run.id = id →
      storedStatus shared.runs id = some run.status → target = run.status ∨ target.terminal = true) :
    Onward shared.runs (proceed (httpExecutor settings fingerprint) owner input now expiry shared phase).1.runs id := by
  cases phase with
  | idle | moving _ _ _ | failing _ _ _ _ => exact .inl rfl
  | found other task => exact claimRun_onward ..
  | claimed other task =>
    simp only [proceed]
    split <;> exact .inl rfl
  | calling run call purpose state =>
    simp only [proceed]
    split <;> exact .inl rfl
  | swapping run target columns reconcile => exact .swap columns now (gentle run target columns reconcile rfl)
  | leaving other => exact releaseClaim_onward ..

theorem ending_proceed (owner : String) (input : DeviceInput) (now expiry : String) {shared : Shared State} {phase : Phase DeviceCall}
    {id : String} (proper : phase.proper) (ending : phase.ending shared.runs id) (stays : ∀ other, phase ≠ .leaving other) :
    let next := proceed (httpExecutor settings fingerprint) owner input now expiry shared phase
    next.2.ending next.1.runs id := by
  cases phase with
  | idle | found _ _ | claimed _ _ | failing _ _ _ _ => exact ending.elim
  | calling run call purpose state =>
    obtain ⟨named,holds,target,error,reconcile,rfl⟩ := ending
    simp only [proceed]
    split
    · exact ⟨named,holds,target,error,reconcile,rfl⟩
    · exact ⟨named,holds,proper.2.2.1⟩
  | moving run target columns =>
    obtain ⟨rfl,holds,final⟩ := ending
    simp only [proceed]
    split
    · rename_i halted
      exact ⟨rfl,halted⟩
    · exact ⟨rfl,holds,final⟩
  | swapping run target columns reconcile =>
    obtain ⟨rfl,holds,final⟩ := ending
    exact ⟨rfl,holds.swap proper.2 final columns now⟩
  | leaving other => exact absurd rfl (stays other)

theorem frees_ending {world : World State DeviceCall} {caller : String} {input : DeviceInput} (proper : (world.phases caller).proper)
    (fits : (world.phases caller).fits) {id : String} (freed : frees settings fingerprint world caller input = some id)
    (timely : ∀ run call purpose state, world.phases caller = .calling run call purpose state → Holds world.runs run)
    (owner now expiry : String) :
    let next := proceed (httpExecutor settings fingerprint) owner input now expiry world.toShared (world.phases caller)
    next.2.ending next.1.runs id := by
  unfold frees at freed
  split at freed
  · rename_i run call purpose state held
    dsimp only at freed
    split at freed
    · rename_i happened
      obtain ⟨kind,before,after⟩ := happened
      cases freed
      rw [held] at proper fits ⊢
      have holds := timely run call purpose state held
      -- a call of these kinds writes when it stands at its release
      have releasing : state = .releasing := by
        have fits : state.fits call := fits
        cases state
        case releasing => rfl
        case cancelling =>
          refine absurd before ?_
          intro before
          refine after ?_
          simp only [deviceProceed,cancelSelected]
          split <;> first | exact before | (split <;> exact before)
        all_goals rcases kind with rfl | rfl <;> simp [DeviceCall.fits] at fits
      subst releasing
      have argument : purpose.argument run = run := by
        cases purpose with
        | report target error reconcile =>
          obtain ⟨_,report,_⟩ := proper
          rw [report] at kind
          simp at kind
        | stage | cleanup | release _ _ => rfl
      rw [argument] at after
      have answers : (deviceProceed settings fingerprint run .releasing input world.env).2 = .inr (some {success := .yes}) := by
        simp only [deviceProceed,releaseSelected] at after ⊢
        split at after
        · exact absurd before after
        · split at after
          · exact absurd before after
          · rename_i named quiet
            rw [if_neg named,if_neg quiet]
      simp only [proceed,httpExecutor,argument,answers]
      obtain ⟨unfinished,proper⟩ := proper
      cases purpose with
      | stage =>
        have stage : run.status.stageCall = some call := proper
        exfalso
        cases status : run.status <;> rw [status] at stage <;> simp only [RunStatus.stageCall,reduceCtorEq,Option.some.injEq] at stage <;>
          subst stage <;> simp at kind
      | cleanup =>
        simp only [afterAnswer]
        split
        · exact ⟨rfl,holds,rfl⟩
        · rename_i fails
          exact absurd (.inr rfl) fails
      | release target error =>
        simp only [afterAnswer,reporting]
        split
        · exact ⟨rfl,holds,proper.2.1⟩
        · exact ⟨rfl,holds,target,error,false,rfl⟩
      | report target error reconcile =>
        rw [proper.1] at kind
        simp at kind
    · cases freed
  · cases freed

theorem ReleaseSound.others {watched : Watched} (sound : ReleaseSound watched) {world : World State DeviceCall}
    (phases : ∀ entry ∈ watched.freed, world.phases entry.1 = watched.world.phases entry.1)
    (onward : ∀ id, storedStatus watched.world.runs id ≠ none → Onward watched.world.runs world.runs id) :
    ∀ entry ∈ watched.freed, (world.phases entry.1).ending world.runs entry.2 := by
  intro entry member
  rw [phases entry member]
  exact (sound.ending entry member).onward (onward entry.2 (sound.ending entry member).known)

theorem opens_phases {watched : Watched} (sound : ReleaseSound watched) (caller : String) (next : Shared State × Phase DeviceCall) :
    ∀ entry ∈ watched.freed, (opens watched.world caller next).phases entry.1 = watched.world.phases entry.1 := by
  intro entry member
  unfold opens
  split
  · rename_i idle
    refine Function.update_of_ne ?_ ..
    rintro rfl
    have ending := sound.ending entry member
    rw [idle] at ending
    exact ending
  · rfl

theorem opens_onward {world : World State DeviceCall} {caller : String} {next : Shared State × Phase DeviceCall} {id : String}
    (onward : Onward world.runs next.1.runs id) : Onward world.runs (opens world caller next).runs id := by
  unfold opens
  split
  · exact onward
  · exact .inl rfl

theorem ReleaseSound.go {watched : Watched} (sound : ReleaseSound watched) {caller : String} {input : DeviceInput} {now expiry : String}
    (timely : Timely settings fingerprint watched (.go caller input now expiry)) :
    ∀ entry ∈ (watchStep settings fingerprint owner (.go caller input now expiry) watched).freed,
      ((watchStep settings fingerprint owner (.go caller input now expiry) watched).world.phases entry.1).ending
        (watchStep settings fingerprint owner (.go caller input now expiry) watched).world.runs entry.2 := by
  let next := proceed (httpExecutor settings fingerprint) (owner caller) input now expiry watched.world.toShared
    (watched.world.phases caller)
  -- the step as another caller that has released sees it
  have apart : ∀ entry ∈ watched.freed, entry.1 ≠ caller →
      (Function.update watched.world.phases caller next.2 entry.1).ending next.1.runs entry.2 := by
    intro entry member other
    rw [Function.update_of_ne other]
    refine (sound.ending entry member).onward (proceed_onward _ _ _ _ ?_)
    intro run target columns reconcile held named stored
    simp only [Timely,held] at timely
    by_contra moves
    push Not at moves
    exact other (timely (named ▸ stored) moves.1 (by simpa using moves.2) entry member named.symm)
  intro entry member
  change (Function.update watched.world.phases caller next.2 entry.1).ending next.1.runs entry.2
  simp only [watchStep,freedAfter] at member
  split at member
  · obtain ⟨member,other⟩ := List.mem_filter.mp member
    exact apart entry member (by simpa using other)
  · rename_i stays
    by_cases own : entry.1 = caller
    · rw [own,Function.update_self]
      rcases List.mem_append.mp member with new | old
      · obtain ⟨id,freed,rfl⟩ := Option.map_eq_some_iff.mp (Option.mem_toList.mp new)
        refine frees_ending (sound.proper caller) (sound.fits caller) freed ?_ _ _ _
        intro run call purpose state held
        simp only [Timely,held] at timely
        exact timely (by rw [freed]; rfl)
      · have ending := sound.ending entry old
        rw [own] at ending
        exact ending_proceed _ _ _ _ (sound.proper caller) ending stays
    · rcases List.mem_append.mp member with new | old
      · obtain ⟨id,freed,rfl⟩ := Option.map_eq_some_iff.mp (Option.mem_toList.mp new)
        exact absurd rfl own
      · exact apart entry old own

theorem ReleaseSound.step {watched : Watched} (sound : ReleaseSound watched) {op : PipelineOp DeviceInput}
    (timely : Timely settings fingerprint watched op) : ReleaseSound (watchStep settings fingerprint owner op watched) := by
  refine ⟨proper_step sound.proper owner op,fits_step sound.fits owner op,?_⟩
  cases op with
  | createRun request id now =>
    exact sound.others (fun _ _ => rfl) fun id known => .inl (Onward.create _ _ known)
  | advanceNext caller now expiry =>
    exact sound.others (opens_phases sound caller _) fun id _ => opens_onward (claimNextActive_onward ..)
  | advanceRun caller id => exact sound.others (opens_phases sound caller _) fun id _ => opens_onward (.inl rfl)
  | cancelRun caller id cleanup => exact sound.others (opens_phases sound caller _) fun id _ => opens_onward (.inl rfl)
  | go caller input now expiry => exact sound.go timely
  | renewClaim caller id expiry => exact sound.others (fun _ _ => rfl) fun id _ => renewClaim_onward ..
  | stopBatch batchId now => exact sound.others (fun _ _ => rfl) fun id _ => stopPending_onward ..
  | crash caller =>
    intro entry member
    obtain ⟨member,other⟩ := List.mem_filter.mp member
    change (Function.update watched.world.phases caller .idle entry.1).ending _ _
    rw [Function.update_of_ne (by simpa using other)]
    exact sound.ending entry member
  | outside input => exact sound.others (fun _ _ => rfl) fun id _ => .inl rfl

end

def watchedStart (env : State) : Watched := ⟨emptyWorld env,[]⟩

/-- Where a release finds the run where its caller read it and no other caller moves the run on before the compare-and-swap that
follows, a call that has released the reservation of its run leaves the run terminal. -/
theorem release_ends_run (settings : Settings) (fingerprint : TestRequest → String) (owner : String → String) (env : State)
    (watched : Watched)
    (reached : Runs.Reached (watchStep settings fingerprint owner) (Timely settings fingerprint) (watchedStart env) watched)
    (caller id : String) (halted : watched.world.phases caller = .leaving id) (freed : (caller,id) ∈ watched.freed) :
    ended watched.world.runs id = true := by
  have start : ReleaseSound (watchedStart env) := ⟨fun _ => trivial,fun _ => trivial,fun _ member => (List.not_mem_nil member).elim⟩
  have sound : ReleaseSound watched := reached.invariant ReleaseSound start fun _ _ sound timely => sound.step timely
  have ending := sound.ending (caller,id) freed
  rw [halted] at ending
  exact ending.2

def freeDevice : State :=
  {db := {
    workers := [⟨"w1",.online,1,0,0,0,0,"",0,none,none,1000,1000⟩]
    devices := [⟨"w1:s1","w1","s1","usb","available",{},1000⟩]}}

def deviceTurn (caller now expiry : String) (steps : Nat) (answer : Option Answer) : List (PipelineOp DeviceInput) :=
  .advanceNext caller now expiry :: List.replicate steps
    (.go caller {now := 1000, answer := answer, request := some ⟨"w1",["s1"],"","",0,"1","1",id⟩} now expiry)

def flashAsked : List (PipelineOp DeviceInput) :=
  .createRun {} "run-1" "t0" :: (deviceTurn "a" "t1" "t2" 6 none++deviceTurn "a" "t1" "t2" 6 none++
    deviceTurn "a" "t1" "t2" 6 none++deviceTurn "a" "t1" "t2" 2 none)

def failedFlash : List (PipelineOp DeviceInput) := List.replicate 5 (.go "a" {now := 1000, answer := some {}} "t5" "t6")

theorem release_ends_run_flash_failed :
    let watched := Runs.exec (watchStep {} (·.deviceReservationId) id) (watchedStart freeDevice) (flashAsked++failedFlash)
    ("a","run-1") ∈ watched.freed ∧ ended watched.world.runs "run-1" = true := by
  intro watched
  have freed : ("a","run-1") ∈ watched.freed := by decide +kernel
  have halted : watched.world.phases "a" = .leaving "run-1" := by rfl
  exact ⟨freed,release_ends_run {} (·.deviceReservationId) id freeDevice watched (Runs.Reached.along .start _ (by decide +kernel))
    "a" "run-1" halted freed⟩

/-- The lease expires while the first caller waits for its flash. The second one finds the run flashed
and moves it on; the first one, told of a failure, releases the device all the same. -/
theorem stale_fail_releases : ¬ ∀ (ops : List (PipelineOp DeviceInput)) (caller id : String),
    let watched := Runs.exec (watchStep {} (·.deviceReservationId) fun caller => caller) (watchedStart freeDevice) ops
    watched.world.phases caller = .leaving id → (caller,id) ∈ watched.freed → ended watched.world.runs id = true := by
  intro always
  have kept := always (flashAsked++deviceTurn "b" "t3" "t4" 6 (some {success := .yes})++failedFlash) "a" "run-1" (by rfl)
  revert kept
  decide +kernel

end GmsRemoteTest.Automation
