import GmsRemoteTest.Devices.LostUpdates
import GmsRemoteTest.Devices.SerialOwnership

/-! The generations of the stored assignments. What an operation does after a transport command belongs to the
generation that it drew, or found when it began. Only some sections compare it with the stored one before they write;
and a generation is drawn from the clock and the entries that are left. -/
namespace GmsRemoteTest.Devices
open Text

def storedGeneration (assignments : Assignments) (key : String) : Nat :=
  ((assignments.get key).map (·.generation)).getD 0

def Section.belongs : Section → Option (String → Nat)
  | .attachFailed _ generation _ _ _ | .attached _ generation _ _ _ | .verified _ _ generation _ _ => some fun _ => generation
  | .markDetaching selection _ => some (storedGeneration selection.read)
  | .detachUnknown selection _ | .detached selection => some fun _ => selection.generation
  | .detachedLocal _ seen => some (storedGeneration seen)
  | .retire deviceHost items _ => some fun key =>
    ((items.find? fun item => usbipAssignmentKey deviceHost (strip item.busid) = key).map (·.generation)).getD 0
  | .command sent _ => some fun _ => sent.generation
  | _ => none

def ofWorker (assignments : Assignments) (keys : List String) (workerId : String) : List String :=
  keys.filter fun key => ((assignments.get key).any fun current => current.workerId == workerId)

def Section.unguarded (assignments : Assignments) : Section → List String
  | .attachFailed request _ _ _ _ => (ofWorker assignments request.keys request.workerId).filter fun key =>
    (assignments.get key).any fun current => current.status == .attaching
  | .attached request _ _ _ _ => request.keys
  | .markDetaching selection _ | .detached selection => ofWorker assignments selection.request.keys selection.request.workerId
  | .detachedLocal request _ => ofWorker assignments request.keys request.workerId
  | .retire deviceHost items _ =>
    (items.map fun item => usbipAssignmentKey deviceHost (strip item.busid)).filter fun key => (assignments.get key).isSome
  | .command sent now =>
    if sent.generation = 0 then (assignments.entries.filter fun (_,current) => (sent.change now current).isSome).map Prod.fst else []
  | _ => []

def Section.draws (assignments : Assignments) : Section → List String × Nat
  | .reserve request _ now clock => (request.keys,nextTransportGeneration clock (assignments.editAll (staleAttaching now assignments)))
  | .attachedLocal request _ _ _ clock => (request.keys,nextTransportGeneration clock assignments)
  | .migrateBusid migration _ =>
    ([usbipAssignmentKey (strip migration.deviceHost) (strip migration.newBusid)],(assignments.values.map (·.generation)).foldr max 0 + 1)
  | _ => ([],0)

def World.history (world : World) : List Assignments := world.config.assignments :: world.log.map fun completed => completed.before.assignments

def Completed.after (completed : Completed) : RuntimeConfig := completed.writer.save completed.edits completed.base completed.before

/-- What belongs to a generation has changed or popped only entries that were of that generation. -/
def World.RespectsGenerations (world : World) : Prop :=
  ∀ completed ∈ world.log, ∀ part generation, completed.writer = .assignments part → part.belongs = some generation →
    ∀ key, completed.after.assignments.get key ≠ completed.before.assignments.get key →
      (completed.before.assignments.get key).map (·.generation) = some (generation key)

def NotBehind (later earlier : Assignments) : Prop :=
  ∀ key newer older, later.get key = some newer → earlier.get key = some older → older.generation ≤ newer.generation

/-- The generations ever stored under a key do not decrease. -/
def World.GenerationsGrow (world : World) : Prop := world.history.Pairwise NotBehind

def Section.OnGeneration (assignments : Assignments) (part : Section) : Prop :=
  ∀ generation, part.belongs = some generation → ∀ key ∈ part.unguarded assignments,
    (assignments.get key).map (·.generation) = some (generation key)

theorem mem_ofWorker {assignments : Assignments} {keys : List String} {workerId key : String} {current : Assignment} (named : key ∈ keys)
    (found : assignments.get key = some current) (owner : current.workerId = workerId) : key ∈ ofWorker assignments keys workerId :=
  List.mem_filter.mpr ⟨named,by simp [found,owner]⟩

theorem concerns_of_change {sent : Command} {now : Nat} {current : Assignment} {value : Option Assignment}
    (changed : sent.change now current = some value) : sent.concerns current = true := by
  unfold Command.change at changed
  split at changed
  · cases changed
  · rename_i concerned
    simpa using concerned

theorem generation_of_concerns {sent : Command} {current : Assignment} (concerns : sent.concerns current = true)
    (numbered : sent.generation ≠ 0) : current.generation = sent.generation := by
  unfold Command.concerns at concerns
  rcases Bool.or_eq_true_iff.mp (Bool.and_eq_true_iff.mp concerns).2 with none | same
  · exact (numbered (beq_iff_eq.mp none)).elim
  · exact beq_iff_eq.mp same

theorem Section.edits_belong {part : Section} {base : Assignments} {edits : Edits} {generation : String → Nat}
    (saves : part.edits base = some edits) (belongs : part.belongs = some generation) (on : part.OnGeneration base)
    {key : String} {value : Option Assignment} (member : (key,value) ∈ edits) :
    (base.get key = none ∧ value = none) ∨ (base.get key).map (·.generation) = some (generation key) := by
  have known := on generation belongs
  cases part with
  | checkSiblings | checkLocal | select | surveyLocal | surveyStatus => cases saves
  | reserve | attachedLocal | prune | reconcileSerials | heartbeat | migrateBusid => cases belongs
  | attachFailed request drawn preserved sourceHost now =>
    cases saves
    obtain ⟨named,current,found,changed⟩ := Dict.mem_editEach.mp member
    split at changed
    · rename_i mine
      exact .inr (known key (List.mem_filter.mpr ⟨mem_ofWorker named found mine.1,by simp [found,mine.2]⟩))
    · cases changed
  | attached request drawn operationId attach now =>
    cases saves
    have named : key ∈ request.keys := by
      rcases List.mem_append.mp member with pop | put
      · obtain ⟨busid,listed,same⟩ := List.mem_map.mp pop
        cases same
        exact List.mem_map.mpr ⟨busid,(List.mem_filter.mp listed).1,rfl⟩
      · obtain ⟨busid,listed,same⟩ := List.mem_map.mp put
        cases same
        exact List.mem_map.mpr ⟨busid,attach.bound busid listed,rfl⟩
    exact .inr (known key named)
  | markDetaching selection now =>
    cases saves
    obtain ⟨named,current,found,changed⟩ := Dict.mem_editEach.mp member
    split at changed
    · rename_i mine
      exact .inr (known key (mem_ofWorker named found mine))
    · cases changed
  | detachUnknown selection now =>
    cases saves
    cases belongs
    obtain ⟨named,current,found,changed⟩ := Dict.mem_editEach.mp member
    split at changed
    · rename_i mine
      exact .inr (by rw [found,Option.map_some,mine.2])
    · cases changed
  | verified deviceHost workerId drawn busids now =>
    cases saves
    cases belongs
    obtain ⟨named,current,found,changed⟩ := Dict.mem_editEach.mp member
    split at changed
    · rename_i mine
      exact .inr (by rw [found,Option.map_some,mine.2])
    · cases changed
  | detached selection =>
    cases saves
    obtain ⟨named,current,found,changed⟩ := Dict.mem_editEach.mp member
    split at changed
    · rename_i mine
      exact .inr (known key (mem_ofWorker named found mine))
    · cases changed
  | detachedLocal request seen =>
    simp only [Section.edits] at saves
    split at saves
    · cases saves
      obtain ⟨named,current,found,changed⟩ := Dict.mem_editEach.mp member
      split at changed
      · rename_i mine
        exact .inr (known key (mem_ofWorker named found mine))
      · cases changed
    · cases saves
  | retire deviceHost items physical =>
    simp only [Section.edits,Devices.retire] at saves
    split at saves
    · rw [saveChanged_some saves] at member
      obtain ⟨item,listed,same⟩ := List.mem_map.mp member
      cases same
      cases found : base.get (usbipAssignmentKey deviceHost (strip item.busid)) with
      | none => exact .inl ⟨rfl,rfl⟩
      | some current =>
        rw [← found]
        refine .inr (known _ (List.mem_filter.mpr ⟨List.mem_map.mpr ⟨item,(List.mem_filter.mp listed).1,rfl⟩,?_⟩))
        rw [found]
        rfl
    · cases saves
  | command sent now =>
    cases belongs
    simp only [Section.edits,reconcileClusterUsbipCommand] at saves
    split at saves
    · cases saves
    rw [saveChanged_some saves] at member
    obtain ⟨current,found,changed⟩ := Dict.mem_editItems.mp member
    by_cases numbered : sent.generation = 0
    · refine .inr (known key ?_)
      simp only [Section.unguarded,numbered,if_true]
      exact List.mem_map.mpr ⟨(key,current),List.mem_filter.mpr ⟨Dict.get_eq_some_iff.mp found,by rw [changed]; rfl⟩,rfl⟩
    · have same := generation_of_concerns (concerns_of_change changed) numbered
      exact .inr (by rw [found,Option.map_some,same])

theorem storedGeneration_le (selection : Selection) (key : String) : storedGeneration selection.read key ≤ selection.generation := by
  unfold storedGeneration
  cases found : selection.read.get key with
  | none => exact Nat.zero_le _
  | some stored => exact (generation_lt_next selection.clock found).le

theorem keeps_of_items {base : Assignments} {change : Assignment → Option (Option Assignment)} {key : String} {entry : Assignment}
    (keeps : ∀ current, change current = some (some entry) → current.generation ≤ entry.generation)
    (member : (key,some entry) ∈ base.editItems change) : ∃ old, base.get key = some old ∧ old.generation ≤ entry.generation := by
  obtain ⟨current,found,changed⟩ := Dict.mem_editItems.mp member
  exact ⟨current,found,keeps current changed⟩

theorem Section.edits_grow {part : Section} {base : Assignments} {edits : Edits} (saves : part.edits base = some edits)
    (on : part.OnGeneration base) {key : String} {entry : Assignment} (member : (key,some entry) ∈ edits) :
    (∃ old, base.get key = some old ∧ old.generation ≤ entry.generation) ∨
      (key ∈ (part.draws base).1 ∧ entry.generation = (part.draws base).2) := by
  cases part with
  | checkSiblings | checkLocal | select | surveyLocal | surveyStatus => cases saves
  | reserve request operationId now clock =>
    cases reserved : Devices.reserve request operationId now clock base with
    | error text =>
      rw [Section.edits,reserved] at saves
      cases saves
    | ok stored =>
      rw [Section.edits,reserved] at saves
      cases saves
      unfold Devices.reserve at reserved
      dsimp only at reserved
      split at reserved
      · cases reserved
      · cases reserved
        rcases List.mem_append.mp member with stale | put
        · refine .inl (keeps_of_items (fun current changed => ?_) stale)
          split at changed <;> cases changed
        · obtain ⟨busid,named,same⟩ := List.mem_map.mp put
          cases same
          exact .inr ⟨List.mem_map.mpr ⟨busid,named,rfl⟩,rfl⟩
  | attachedLocal request attach operationId now clock =>
    cases saves
    obtain ⟨busid,named,same⟩ := List.mem_map.mp member
    cases same
    exact .inr ⟨List.mem_map.mpr ⟨busid,named,rfl⟩,rfl⟩
  | migrateBusid migration now =>
    cases migrated : migrateLocalUsbipBusid migration now base with
    | error text =>
      rw [Section.edits,migrated] at saves
      cases saves
    | ok stored =>
      rw [Section.edits,migrated] at saves
      cases saves
      unfold migrateLocalUsbipBusid at migrated
      dsimp only at migrated
      split at migrated
      · cases migrated
      split at migrated
      · cases migrated
      split at migrated
      · cases migrated
      split at migrated
      · cases migrated
      split at migrated
      · cases migrated
      cases migrated
      rcases List.mem_cons.mp member with pop | put
      · cases pop
      · cases List.mem_singleton.mp put
        exact .inr ⟨List.mem_singleton.mpr rfl,rfl⟩
  | attached request generation operationId attach now =>
    have same := Section.edits_belong saves rfl on member
    cases saves
    rcases List.mem_append.mp member with pop | put
    · obtain ⟨_,_,absent⟩ := List.mem_map.mp pop
      cases absent
    · obtain ⟨busid,named,stored⟩ := List.mem_map.mp put
      cases stored
      obtain ⟨_,nothing⟩ | found := same
      · cases nothing
      · obtain ⟨old,before,level⟩ := Option.map_eq_some_iff.mp found
        exact .inl ⟨old,before,level.le⟩
  | markDetaching selection now =>
    have same := Section.edits_belong saves rfl on member
    cases saves
    obtain ⟨_,current,found,changed⟩ := Dict.mem_editEach.mp member
    have level : current.generation = storedGeneration selection.read key := by
      rcases same with ⟨absent,_⟩ | stored
      · rw [absent] at found
        cases found
      · rw [found] at stored
        exact Option.some.inj stored
    split at changed
    · cases changed
      exact .inl ⟨current,found,level.le.trans (storedGeneration_le selection key)⟩
    · cases changed
  | reconcileSerials deviceHost sourceDevices sourceOs =>
    rw [saveChanged_some saves] at member
    refine .inl (keeps_of_items (fun current changed => ?_) member)
    split at changed
    · cases changed
    · split at changed
      · cases changed
      · split at changed
        · cases changed
          exact le_rfl
        · cases changed
  | command sent now =>
    simp only [Section.edits,reconcileClusterUsbipCommand] at saves
    split at saves
    · cases saves
    rw [saveChanged_some saves] at member
    refine .inl (keeps_of_items (fun current changed => ?_) member)
    rcases command_changes changed with ⟨_,_,_,rfl⟩ | ⟨_,_,same⟩
    · exact le_rfl
    · exact same.ge
  | _ =>
    obtain ⟨current,found,_,same | ⟨_,_,other⟩⟩ := Section.marks saves trivial member
    · exact .inl ⟨current,found,same.ge⟩
    · cases other

def Reading.FitsGenerations (reading : Reading) (world : World) : Prop :=
  match reading.writer with
  | .assignments part => part.OnGeneration reading.base.assignments ∧
      ∀ key ∈ (part.draws reading.base.assignments).1, ∀ earlier ∈ world.history, ∀ old, earlier.get key = some old →
        old.generation ≤ (part.draws reading.base.assignments).2
  | .removeSources _ | .recordReconnected .. => reading.base.assignments = world.config.assignments
  | _ => True

/-- The condition on a run: every write that saves fits the generations. -/
def World.WritesFit (world : World) (event : Event) : Prop :=
  ∀ index reading, event = .write index → world.reading[index]? = some reading → reading.writer.edits reading.base ≠ none →
    reading.FitsGenerations world

structure World.Locked (world : World) : Prop where
  current : ∀ reading ∈ world.reading, reading.writer.locked = true → reading.base.assignments = world.config.assignments
  single : world.reading.Pairwise fun first second => ¬ (first.writer.locked = true ∧ second.writer.locked = true)

section
variable {world : World} (locked : world.Locked)
include locked

theorem World.Locked.drops (index : Nat) (flights : List Flight) (log : List Completed) :
    World.Locked {world with reading := world.reading.eraseIdx index,flights,log} where
  current := fun reading member => locked.current reading (List.mem_of_mem_eraseIdx member)
  single := locked.single.sublist (List.eraseIdx_sublist ..)

theorem World.Locked.reads {writer : Writer} (flights : List Flight)
    (free : world.free writer = true) : World.Locked {world with reading := world.reading ++ [⟨writer,world.config⟩],flights} where
  current := by
    intro reading member holds
    rcases List.mem_append.mp member with old | new
    · exact locked.current reading old holds
    · cases List.mem_singleton.mp new
      rfl
  single := by
    refine List.pairwise_append.mpr ⟨locked.single,List.pairwise_singleton _ _,?_⟩
    intro reading member last single both
    cases List.mem_singleton.mp single
    have none := (Bool.or_eq_true_iff.mp (Bool.and_eq_true_iff.mp free).1).resolve_left (by simp [both.2])
    simpa [both.1] using List.all_eq_true.mp none reading member

theorem World.Locked.alone {index : Nat} {reading : Reading}
    (found : world.reading[index]? = some reading) (holds : reading.writer.locked = true) :
    ∀ other ∈ world.reading.eraseIdx index, ¬ other.writer.locked = true := by
  intro other remains otherHolds
  obtain ⟨place,different,there⟩ := List.mem_eraseIdx_iff_getElem?.mp remains
  obtain ⟨low,atPlace⟩ := List.getElem?_eq_some_iff.mp there
  obtain ⟨inside,atIndex⟩ := List.getElem?_eq_some_iff.mp found
  have pairs := List.pairwise_iff_getElem.mp locked.single
  rcases Nat.lt_or_gt_of_ne different with before | after
  · exact pairs place index low inside before ⟨atPlace ▸ otherHolds,atIndex ▸ holds⟩
  · exact pairs index place inside low after ⟨atIndex ▸ holds,atPlace ▸ otherHolds⟩

end

section
variable {reading : Reading} {world : World} {edits : ConfigEdits} (saves : reading.writer.edits reading.base = some edits)
  (fits : reading.FitsGenerations world)
include saves fits

theorem unlocked_leaves (unlocked : reading.writer.locked = false) :
    (reading.writer.save edits reading.base world.config).assignments = world.config.assignments := by
  obtain ⟨writer,base⟩ := reading
  cases writer with
  | assignments part =>
    obtain ⟨stored,saved,_⟩ := Option.map_eq_some_iff.mp saves
    exact absurd (unlocked.symm.trans (Section.locked_of_edits saved)) (by decide)
  | migrateSerial migration now => cases unlocked
  | persistSources deviceHost serials sourceOs now => rfl
  | removeSources devices => exact fits
  | recordReconnected deviceHost devices now => exact fits
  | clientHost ip username => rfl

theorem write_not_behind (current : reading.writer.locked = true → reading.base.assignments = world.config.assignments) (grows : world.GenerationsGrow)
    {earlier : Assignments} (member : earlier ∈ world.history) :
    NotBehind (reading.writer.save edits reading.base world.config).assignments earlier := by
  have held : NotBehind world.config.assignments earlier := by
    rcases List.mem_cons.mp member with rfl | old
    · intro key newer older found before
      cases found.symm.trans before
      exact le_rfl
    · exact (List.pairwise_cons.mp grows).1 earlier old
  cases unlocked : reading.writer.locked with
  | false =>
    rw [unlocked_leaves saves fits unlocked]
    exact held
  | true =>
    have same := current unlocked
    obtain ⟨writer,base⟩ := reading
    dsimp only at same saves unlocked
    intro key newer older found before
    cases writer with
    | assignments part =>
      obtain ⟨stored,saved,rfl⟩ := Option.map_eq_some_iff.mp saves
      have after : (base.assignments.editAll stored).get key = some newer := found
      rcases Dict.get_editAll_cases base.assignments stored key with ⟨_,unedited⟩ | ⟨value,edit,edited⟩
      · exact held key newer older (by rw [← same,← unedited]; exact after) before
      · rw [edited] at after
        subst after
        rcases Section.edits_grow saved fits.1 edit with ⟨old,there,level⟩ | ⟨drawn,level⟩
        · exact (held key old older (same ▸ there) before).trans level
        · rw [level]
          exact fits.2 key drawn earlier member older before
    | migrateSerial migration now =>
      cases migrated : migrateLocalUsbipSerial migration now base with
      | error text =>
        rw [Writer.edits,migrated] at saves
        cases saves
      | ok result =>
        rw [Writer.edits,migrated] at saves
        cases saves
        obtain ⟨match_,old,serial,there,_,_,shape⟩ := migrateSerial_ok migrated
        have after : (base.assignments.editAll edits.assignments).get key = some newer := found
        rw [shape,Dict.get_editAll] at after
        simp only [Dict.written] at after
        by_cases here : match_ = key
        · subst here
          simp only [if_true,Option.getD_some,Option.some.injEq] at after
          subst after
          exact held match_ old older (same ▸ there) before
        · simp only [if_neg here,Option.getD_none] at after
          exact held key newer older (same ▸ after) before
    | persistSources deviceHost serials sourceOs now => cases unlocked
    | removeSources devices => cases unlocked
    | recordReconnected deviceHost devices now => cases unlocked
    | clientHost ip username => cases unlocked

end

theorem write_belongs {part : Section} {base before : RuntimeConfig} {edits : ConfigEdits} {generation : String → Nat}
    (saves : (Writer.assignments part).edits base = some edits) (on : part.OnGeneration base.assignments)
    (same : base.assignments = before.assignments) (belongs : part.belongs = some generation) {key : String}
    (changed : ((Writer.assignments part).save edits base before).assignments.get key ≠ before.assignments.get key) :
    (before.assignments.get key).map (·.generation) = some (generation key) := by
  obtain ⟨stored,saved,rfl⟩ := Option.map_eq_some_iff.mp saves
  have change : (base.assignments.editAll stored).get key ≠ before.assignments.get key := changed
  rw [← same] at change ⊢
  rcases Dict.get_editAll_cases base.assignments stored key with ⟨_,unedited⟩ | ⟨value,edit,edited⟩
  · exact (change unedited).elim
  · rcases Section.edits_belong saved belongs on edit with ⟨absent,popped⟩ | found
    · exact (change (by rw [edited,popped,absent])).elim
    · exact found

def remoteBoard : ConnectRequest := {oneBoard with remote := true}

def lateDetach : List Event :=
  let attach := Answer.attached "10.0.0.9" "windows" ["1-1"] ["S1"]
  [.start (.assignments (.checkSiblings remoteBoard)),.write 0,.resume 0 (.proceed "a" 100) 100,.write 0,.resume 0 attach 110,.write 0,
   .start (.assignments (.select {deviceHost := "gms@10.0.0.9",workerId := "w1",busids := oneBoard.busids} "d" 200)),.write 0,
   .resume 0 (.proceed "" 0) 200,.write 0,
   .start (.assignments (.checkSiblings remoteBoard)),.write 0,.resume 1 (.proceed "b" 300) 300,.write 0,.resume 1 attach 310,.write 0,
   .resume 0 (.detached true) 320,.write 0]

def clockBack : List Event :=
  let attach : LocalAttach := ⟨"10.0.0.9","windows",["S1"]⟩
  [.start (.assignments (.checkSiblings oneBoard)),.write 0,.resume 0 (.proceed "" 0) 0,.write 0,
   .resume 0 (.attachedLocal attach "a" 2000) 2000,.write 0,
   .start (.assignments (.surveyLocal {deviceHost := "gms@10.0.0.9",workerId := "w1",busids := oneBoard.busids})),.write 0,
   .resume 0 (.detached true) 2100,.write 0,
   .start (.assignments (.checkSiblings oneBoard)),.write 0,.resume 0 (.proceed "" 0) 0,.write 0,
   .resume 0 (.attachedLocal attach "b" 1000) 1000,.write 0]

end GmsRemoteTest.Devices
