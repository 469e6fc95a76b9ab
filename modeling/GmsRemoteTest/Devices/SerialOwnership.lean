import GmsRemoteTest.Devices.RuntimeWrites

/-! Which serials the stored assignments list. No serial is listed twice as long as the serials that a source or a
worker reports are stored where no other entry lists them; only the migration of a serial looks at the other entries
itself. -/
namespace GmsRemoteTest.Devices
open Text

def activeStatuses : List TransportStatus := [.attaching,.attached,.unknown,.cleanupRequired,.detaching]

theorem status_active (status : TransportStatus) : status ∈ activeStatuses := by
  cases status <;> decide

/-- The claimed invariant, with bus ids that a key can be taken apart by. -/
structure Owned (assignments : Assignments) : Prop where
  keyed : ∀ key entry, assignments.get key = some entry →
    key = usbipAssignmentKey entry.deviceHost entry.busid ∧ '|' ∉ entry.busid.toList
  alone : ∀ key other entry second serial, assignments.get key = some entry → assignments.get other = some second →
    entry.status ∈ activeStatuses → second.status ∈ activeStatuses → serial ∈ entry.deviceSerials →
    serial ∈ second.deviceSerials → key = other

theorem owned_empty : Owned Dict.empty where
  keyed := by
    intro key entry found
    cases found
  alone := by
    intro key other entry second serial found
    cases found

theorem validBusid_plain {busid : String} (valid : validBusid busid = true) : '|' ∉ busid.toList := by
  intro member
  have chars := (Bool.and_eq_true_iff.mp valid).2
  have bar := List.all_eq_true.mp chars _ member
  revert bar
  decide

theorem bar_split {front otherFront back otherBack : List Char} (plain : '|' ∉ front) (otherPlain : '|' ∉ otherFront)
    (same : front ++ '|' :: back = otherFront ++ '|' :: otherBack) : front = otherFront ∧ back = otherBack := by
  rcases List.append_eq_append_iff.mp same with ⟨middle,longer,rest⟩ | ⟨middle,longer,rest⟩
  · cases middle with
    | nil => exact ⟨by simpa using longer.symm,by simpa using rest⟩
    | cons c middle =>
      have bar : '|' = c := (List.cons.inj rest).1
      exact (otherPlain (by simp [longer,← bar])).elim
  · cases middle with
    | nil => exact ⟨by simpa using longer,by simpa using rest.symm⟩
    | cons c middle =>
      have bar : '|' = c := (List.cons.inj rest).1
      exact (plain (by simp [longer,← bar])).elim

theorem key_inj {deviceHost otherHost busid otherBusid : String} (plain : '|' ∉ busid.toList) (otherPlain : '|' ∉ otherBusid.toList)
    (same : usbipAssignmentKey deviceHost busid = usbipAssignmentKey otherHost otherBusid) :
    deviceHost = otherHost ∧ busid = otherBusid := by
  have lists := congrArg (fun text => text.toList.reverse) same
  have reversed : ∀ host port : String,
      (usbipAssignmentKey host port).toList.reverse = port.toList.reverse ++ '|' :: host.toList.reverse := by
    intro host port
    simp [usbipAssignmentKey,String.toList_append]
  rw [reversed,reversed] at lists
  obtain ⟨ports,hosts⟩ := bar_split (by simpa using plain) (by simpa using otherPlain) lists
  exact ⟨String.toList_inj.mp (List.reverse_inj.mp hosts),String.toList_inj.mp (List.reverse_inj.mp ports)⟩

theorem validSerial_solid {serial : String} (valid : validSerial serial = true) : Solid serial := by
  intro c member
  have char := List.all_eq_true.mp (Bool.and_eq_true_iff.mp valid).2 c member
  simp only [Bool.or_eq_true,beq_iff_eq] at char
  rcases char with (((alphanum | rfl) | rfl) | rfl) | rfl
  · exact alphanum_solid alphanum
  all_goals decide

theorem mem_cleanSerials {serial : String} {serials : List String} (valid : validSerial serial = true) (member : serial ∈ serials) :
    serial ∈ cleanSerials serials := by
  refine List.mem_filter.mpr ⟨List.mem_map.mpr ⟨serial,member,(validSerial_solid valid).strip_eq⟩,?_⟩
  have nonempty : serial ≠ "" := by
    rintro rfl
    revert valid
    decide
  simpa using nonempty

def Section.reports (assignments : Assignments) : Section → List (String × List String)
  | .attached request _ _ attach _ => attach.busids.map fun busid =>
    (usbipAssignmentKey request.deviceHost busid,request.busidSerials attach.serials attach.busids busid)
  | .attachedLocal request attach _ _ _ => request.busids.names.map fun busid =>
    (usbipAssignmentKey request.deviceHost busid,request.busidSerials attach.serials request.busids.names busid)
  | .reconcileSerials deviceHost sourceDevices _ => assignments.entries.filterMap fun (key,assignment) =>
    if assignment.deviceHost ≠ deviceHost then none
    else ((serialByBusid sourceDevices).get assignment.busid).map fun serial => (key,[serial])
  | .command sent _ =>
    if sent.commandType = .usbipAttach ∧ sent.status = .completed ∧ sent.attachedSerials ≠ [] then
      (assignments.entries.filter fun (_,current) => sent.concerns current).map fun (key,_) => (key,sent.attachedSerials)
    else []
  | _ => []

def Unclaimed (assignments : Assignments) (reports : List (String × List String)) : Prop :=
  ∀ key serials, (key,serials) ∈ reports → ∀ serial ∈ serials,
    (∀ other theirs, (other,theirs) ∈ reports → serial ∈ theirs → other = key) ∧
      ∀ other entry, assignments.get other = some entry → entry.status ∈ activeStatuses → serial ∈ entry.deviceSerials →
        other ∈ reports.map Prod.fst

def Explained (base after : Assignments) (reports : List (String × List String)) : Prop :=
  ∀ key entry, after.get key = some entry →
    (key = usbipAssignmentKey entry.deviceHost entry.busid ∧ '|' ∉ entry.busid.toList) ∧
      ∀ serial ∈ entry.deviceSerials, (∃ serials, (key,serials) ∈ reports ∧ serial ∈ serials) ∨
        (key ∉ reports.map Prod.fst ∧ ∃ old, base.get key = some old ∧ serial ∈ old.deviceSerials)

theorem Explained.owned {base after : Assignments} {reports : List (String × List String)} (owned : Owned base)
    (unclaimed : Unclaimed base reports) (explained : Explained base after reports) : Owned after := by
  refine ⟨fun key entry found => (explained key entry found).1,?_⟩
  intro key other entry second serial found otherFound _ _ listed otherListed
  rcases (explained key entry found).2 serial listed with ⟨serials,report,member⟩ | ⟨unreported,old,before,oldListed⟩
  · rcases (explained other second otherFound).2 serial otherListed with ⟨theirs,theirReport,theirMember⟩ | ⟨theirUnreported,older,earlier,olderListed⟩
    · exact ((unclaimed key serials report serial member).1 other theirs theirReport theirMember).symm
    · exact (theirUnreported ((unclaimed key serials report serial member).2 other older earlier (status_active _) olderListed)).elim
  · rcases (explained other second otherFound).2 serial otherListed with ⟨theirs,theirReport,theirMember⟩ | ⟨_,older,earlier,olderListed⟩
    · exact (unreported ((unclaimed other theirs theirReport serial theirMember).2 key old before (status_active _) oldListed)).elim
    · exact owned.alone key other old older serial before earlier (status_active _) (status_active _) oldListed olderListed

def Assignment.SameDevices (entry old : Assignment) : Prop :=
  entry.deviceHost = old.deviceHost ∧ entry.busid = old.busid ∧ entry.deviceSerials = old.deviceSerials

theorem explained_of_keeping {base : Assignments} {edits : Edits} (owned : Owned base)
    (keeping : ∀ key entry, (key,some entry) ∈ edits → ∃ old, base.get key = some old ∧ entry.SameDevices old) :
    Explained base (base.editAll edits) [] := by
  intro key entry found
  have there : ∃ old, base.get key = some old ∧ entry.SameDevices old := by
    rcases Dict.get_editAll_cases base edits key with ⟨_,same⟩ | ⟨value,member,same⟩
    · exact ⟨entry,same.symm.trans found,rfl,rfl,rfl⟩
    · rw [same] at found
      exact keeping key entry (found ▸ member)
  obtain ⟨old,before,host,busid,serials⟩ := there
  rw [host,busid,serials]
  exact ⟨owned.keyed key old before,fun serial listed => .inr ⟨List.not_mem_nil,old,before,listed⟩⟩

theorem saveChanged_some {edits saved : Edits} (changed : saveChanged edits = some saved) : saved = edits := by
  unfold saveChanged at changed
  split at changed
  · cases changed
  · exact (Option.some.inj changed).symm

theorem explained_of_reports {base : Assignments} {busids : List String} (owned : Owned base) (deviceHost : String)
    (serials : String → List String) (store : String → Assignment) (pops : Edits) (popped : ∀ key value, (key,value) ∈ pops → value = none)
    (plain : ∀ busid ∈ busids, '|' ∉ busid.toList)
    (stored : ∀ busid, (store busid).deviceHost = deviceHost ∧ (store busid).busid = busid ∧ (store busid).deviceSerials = serials busid) :
    Explained base (base.editAll (pops++busids.map fun busid => (usbipAssignmentKey deviceHost busid,some (store busid))))
      (busids.map fun busid => (usbipAssignmentKey deviceHost busid,serials busid)) := by
  intro key entry found
  rcases Dict.get_editAll_cases base (pops++busids.map fun busid => (usbipAssignmentKey deviceHost busid,some (store busid))) key with
    ⟨unedited,same⟩ | ⟨value,member,same⟩
  · have before := same.symm.trans found
    refine ⟨owned.keyed key entry before,fun serial listed => .inr ⟨?_,entry,before,listed⟩⟩
    intro reported
    apply unedited
    rw [List.map_append,List.mem_append]
    refine .inr ?_
    simpa using reported
  · rw [same] at found
    subst found
    rcases List.mem_append.mp member with pop | put
    · cases popped key _ pop
    · obtain ⟨busid,named,edit⟩ := List.mem_map.mp put
      obtain ⟨rfl,entryIs⟩ := Prod.mk.inj edit
      cases entryIs
      obtain ⟨host,port,listedSerials⟩ := stored busid
      rw [host,port,listedSerials]
      exact ⟨⟨rfl,plain busid named⟩,fun serial listed => .inl ⟨serials busid,List.mem_map.mpr ⟨busid,named,rfl⟩,listed⟩⟩

theorem Explained.of_empty_reports {base after : Assignments} {reports : List (String × List String)}
    (explained : Explained base after reports) (empty : ∀ key serials, (key,serials) ∈ reports → serials = []) : Explained base after [] := by
  intro key entry found
  refine ⟨(explained key entry found).1,fun serial listed => .inr ⟨List.not_mem_nil,?_⟩⟩
  rcases (explained key entry found).2 serial listed with ⟨serials,report,member⟩ | ⟨_,old⟩
  · rw [empty key serials report] at member
    cases member
  · exact old

theorem popped_of_items {base : Assignments} {change : Assignment → Option (Option Assignment)}
    (pops : ∀ current value, change current = some value → value = none) :
    ∀ key value, (key,value) ∈ base.editItems change → value = none := by
  intro key value member
  obtain ⟨current,_,changed⟩ := Dict.mem_editItems.mp member
  exact pops current value changed

theorem reserve_explained {request : ConnectRequest} {operationId : String} {now clock : Nat} {base : Assignments} {edits : Edits}
    (owned : Owned base) (reserved : reserve request operationId now clock base = .ok edits) :
    Explained base (base.editAll edits) [] := by
  unfold reserve at reserved
  dsimp only at reserved
  split at reserved
  · cases reserved
  · cases reserved
    refine Explained.of_empty_reports (explained_of_reports owned request.deviceHost (fun _ => []) _ _ ?_ ?_ ?_) ?_
    · refine popped_of_items fun current value changed => ?_
      split at changed
      · exact (Option.some.inj changed).symm
      · cases changed
    · exact fun busid member => validBusid_plain (request.busids.valid busid member)
    · exact fun _ => ⟨rfl,rfl,rfl⟩
    · intro key serials member
      obtain ⟨_,_,same⟩ := List.mem_map.mp member
      exact (Prod.mk.inj same).2.symm

theorem attached_explained {request : ConnectRequest} {base : Assignments} (owned : Owned base) (generation : Nat) (operationId : String)
    (attach : Attach request) (now : Nat) :
    Explained base (base.editAll (attached request generation operationId attach now))
      ((Section.attached request generation operationId attach now).reports base) := by
  refine explained_of_reports owned request.deviceHost _ _ _ ?_ ?_ fun _ => ⟨rfl,rfl,rfl⟩
  · intro key value member
    obtain ⟨_,_,same⟩ := List.mem_map.mp member
    exact (Prod.mk.inj same).2.symm
  · exact fun busid member => validBusid_plain (request.busids.valid busid (attach.bound busid member))

theorem attachedLocal_explained {request : ConnectRequest} {base : Assignments} (owned : Owned base) (attach : LocalAttach)
    (operationId : String) (now clock : Nat) :
    Explained base (base.editAll (attachedLocal request attach operationId now clock base))
      ((Section.attachedLocal request attach operationId now clock).reports base) := by
  have plain : ∀ busid ∈ request.busids.names, '|' ∉ busid.toList := fun busid member => validBusid_plain (request.busids.valid busid member)
  have stored := explained_of_reports owned request.deviceHost
    (request.busidSerials attach.serials request.busids.names)
    (fun busid =>
      {deviceHost := request.deviceHost,sourceHost := attach.sourceHost,sourceOs := orElse attach.sourceOs "windows"
       workerId := request.workerId,busid,deviceSerials := request.busidSerials attach.serials request.busids.names busid
       status := .attached,generation := nextTransportGeneration clock base,operationId,timestamp := now})
    [] (fun _ _ member => (List.not_mem_nil member).elim) plain fun _ => ⟨rfl,rfl,rfl⟩
  exact stored

theorem explained_of_changes {base : Assignments} {change : Assignment → Option (Option Assignment)} {reports : List (String × List String)}
    (owned : Owned base)
    (device : ∀ current entry, change current = some (some entry) →
      entry.deviceHost = current.deviceHost ∧ entry.busid = current.busid)
    (listed : ∀ key current, base.get key = some current → ∀ serial ∈ ((change current).join.getD current).deviceSerials,
      change current ≠ some none → (∃ serials, (key,serials) ∈ reports ∧ serial ∈ serials) ∨
        (key ∉ reports.map Prod.fst ∧ serial ∈ current.deviceSerials)) :
    Explained base (base.editAll (base.editItems change)) reports := by
  intro key entry found
  have from_base : ∃ current, base.get key = some current ∧ change current ≠ some none ∧ entry = (change current).join.getD current := by
    rcases Dict.get_editAll_cases base (base.editItems change) key with ⟨unedited,same⟩ | ⟨value,member,same⟩
    · have before := same.symm.trans found
      have untouched : change entry = none := by
        cases changed : change entry with
        | none => rfl
        | some value =>
          exact (unedited (List.mem_map.mpr ⟨(key,value),Dict.mem_editItems.mpr ⟨entry,before,changed⟩,rfl⟩)).elim
      refine ⟨entry,before,?_,?_⟩
      · rw [untouched]
        exact fun none => by cases none
      · rw [untouched]
        rfl
    · obtain ⟨current,before,changed⟩ := Dict.mem_editItems.mp member
      rw [same] at found
      subst found
      refine ⟨current,before,?_,?_⟩
      · rw [changed]
        exact fun none => by cases none
      · rw [changed]
        rfl
  obtain ⟨current,before,kept,rfl⟩ := from_base
  have keyed := owned.keyed key current before
  constructor
  · cases changed : change current with
    | none => exact keyed
    | some value =>
      cases value with
      | none => exact (kept changed).elim
      | some entry =>
        obtain ⟨host,busid⟩ := device current entry changed
        change key = usbipAssignmentKey entry.deviceHost entry.busid ∧ '|' ∉ entry.busid.toList
        rw [host,busid]
        exact keyed
  · intro serial member
    rcases listed key current before serial member kept with report | ⟨unreported,old⟩
    · exact .inl report
    · exact .inr ⟨unreported,current,before,old⟩

theorem reconcileSerials_explained {deviceHost sourceOs : String} {sourceDevices : List (String × String)} {base : Assignments} {edits : Edits}
    (owned : Owned base) (saves : reconcileUsbipAssignmentSerials deviceHost sourceDevices sourceOs base = some edits) :
    Explained base (base.editAll edits) ((Section.reconcileSerials deviceHost sourceDevices sourceOs).reports base) := by
  rw [saveChanged_some saves]
  have report : ∀ key current serial, base.get key = some current → current.deviceHost = deviceHost →
      (serialByBusid sourceDevices).get current.busid = some serial →
      (key,[serial]) ∈ (Section.reconcileSerials deviceHost sourceDevices sourceOs).reports base := by
    intro key current serial before host known
    refine List.mem_filterMap.mpr ⟨(key,current),Dict.get_eq_some_iff.mp before,?_⟩
    simp [host,known]
  refine explained_of_changes owned ?_ ?_
  · intro current entry changed
    split at changed
    · cases changed
    · split at changed
      · cases changed
      · split at changed
        · cases changed
          exact ⟨rfl,rfl⟩
        · cases changed
  · intro key current before serial member kept
    by_cases host : current.deviceHost = deviceHost
    · cases known : (serialByBusid sourceDevices).get current.busid with
      | none =>
        refine .inr ⟨?_,by simpa [host,known] using member⟩
        intro reported
        obtain ⟨⟨_,serials⟩,report,rfl⟩ := List.mem_map.mp reported
        obtain ⟨⟨other,entry⟩,stored,made⟩ := List.mem_filterMap.mp report
        dsimp only at made
        split at made
        · cases made
        · obtain ⟨found,located,same⟩ := Option.map_eq_some_iff.mp made
          cases same
          have equal : entry = current := Option.some.inj ((Dict.get_eq_some_iff.mpr stored).symm.trans before)
          rw [equal,known] at located
          cases located
      | some reported =>
        refine .inl ⟨[reported],report key current reported before host known,?_⟩
        by_cases changes : current.withSerial reported sourceOs ≠ current
        · have listed : serial ∈ (current.withSerial reported sourceOs).deviceSerials := by simpa [host,known,changes] using member
          exact listed
        · have same : current.withSerial reported sourceOs = current := by simpa using changes
          have serials := congrArg Assignment.deviceSerials same
          have listed : serial ∈ current.deviceSerials := by simpa [host,known,same] using member
          rw [← serials] at listed
          exact listed
    · refine .inr ⟨?_,by simpa [host] using member⟩
      intro reported
      obtain ⟨⟨_,serials⟩,report,rfl⟩ := List.mem_map.mp reported
      obtain ⟨⟨other,entry⟩,stored,made⟩ := List.mem_filterMap.mp report
      dsimp only at made
      split at made
      · cases made
      · rename_i there
        obtain ⟨found,_,same⟩ := Option.map_eq_some_iff.mp made
        cases same
        have equal : entry = current := Option.some.inj ((Dict.get_eq_some_iff.mpr stored).symm.trans before)
        rw [equal] at there
        exact there host

theorem command_changes {sent : Command} {now : Nat} {current entry : Assignment} (changed : sent.change now current = some (some entry)) :
    (sent.concerns current = true ∧ sent.commandType = .usbipAttach ∧ sent.status = .completed ∧ entry = sent.completes now current) ∨
      (sent.status ≠ .completed ∧ entry.SameDevices current ∧ entry.generation = current.generation) := by
  unfold Command.change at changed
  split at changed
  · cases changed
  · rename_i concerned
    have concerns : sent.concerns current = true := by simpa using concerned
    split at changed
    · cases changed
    · rename_i type status
      cases changed
      exact .inl ⟨concerns,type,status,rfl⟩
    · rename_i type incomplete
      split at changed
      · split at changed
        · cases changed
          exact .inr ⟨incomplete,⟨rfl,rfl,rfl⟩,rfl⟩
        · cases changed
      · cases changed
    · cases changed

theorem command_explained {sent : Command} {now : Nat} {base : Assignments} {edits : Edits} (owned : Owned base)
    (saves : reconcileClusterUsbipCommand sent now base = some edits) :
    Explained base (base.editAll edits) ((Section.command sent now).reports base) := by
  unfold reconcileClusterUsbipCommand at saves
  split at saves
  · cases saves
  rw [saveChanged_some saves]
  refine explained_of_changes owned ?_ ?_
  · intro current entry changed
    rcases command_changes changed with ⟨_,_,_,rfl⟩ | ⟨_,same,_⟩
    · exact ⟨rfl,rfl⟩
    · exact ⟨same.1,same.2.1⟩
  · intro key current before serial member kept
    -- an entry is reported exactly when an attach command completed for it with serials
    by_cases reporting : (sent.commandType = .usbipAttach ∧ sent.status = .completed ∧ sent.attachedSerials ≠ []) ∧ sent.concerns current = true
    · have change : sent.change now current = some (some (sent.completes now current)) := by
        simp [Command.change,reporting.2,reporting.1.1,reporting.1.2.1]
      refine .inl ⟨sent.attachedSerials,?_,?_⟩
      · simp only [Section.reports,reporting.1,not_false_eq_true,and_self,ne_eq,if_true]
        exact List.mem_map.mpr ⟨(key,current),List.mem_filter.mpr ⟨Dict.get_eq_some_iff.mp before,reporting.2⟩,rfl⟩
      · rw [change] at member
        simpa [Command.completes,reporting.1.2.2] using member
    · refine .inr ⟨?_,?_⟩
      · intro reported
        obtain ⟨⟨_,serials⟩,report,rfl⟩ := List.mem_map.mp reported
        simp only [Section.reports] at report
        split at report
        · rename_i completes
          obtain ⟨⟨other,entry⟩,stored,same⟩ := List.mem_map.mp report
          cases same
          obtain ⟨present,concerns⟩ := List.mem_filter.mp stored
          have equal : entry = current := Option.some.inj ((Dict.get_eq_some_iff.mpr present).symm.trans before)
          rw [equal] at concerns
          exact reporting ⟨completes,concerns⟩
        · cases report
      · cases changed : sent.change now current with
        | none =>
          rw [changed] at member
          exact member
        | some value =>
          cases value with
          | none => exact (kept changed).elim
          | some entry =>
            rw [changed] at member
            change serial ∈ entry.deviceSerials at member
            rcases command_changes changed with ⟨concerns,type,status,rfl⟩ | ⟨_,same,_⟩
            · have silent : sent.attachedSerials = [] := by
                by_contra some
                exact reporting ⟨⟨type,status,some⟩,concerns⟩
              simpa [Command.completes,silent] using member
            · rw [← same.2.2]
              exact member

/-- The sections that only mark the entries they find, or pop them. -/
def Section.Marks : Section → Prop
  | .attachFailed .. | .markDetaching .. | .detachUnknown .. | .detached .. | .detachedLocal .. | .retire .. | .verified .. | .prune ..
  | .heartbeat .. => True
  | _ => False

theorem Section.marks {part : Section} {base : Assignments} {edits : Edits} (saves : part.edits base = some edits) (marks : part.Marks)
    {key : String} {entry : Assignment} (member : (key,some entry) ∈ edits) : ∃ current, base.get key = some current ∧ entry.SameDevices current ∧
      (entry.generation = current.generation ∨ ∃ selection now, part = .markDetaching selection now) := by
  cases part with
  | attachFailed request generation preserved sourceHost now =>
    cases saves
    obtain ⟨_,current,found,changed⟩ := Dict.mem_editEach.mp member
    split at changed
    · obtain ⟨status,_,rfl⟩ := Option.map_eq_some_iff.mp (Option.some.inj changed)
      exact ⟨current,found,⟨rfl,rfl,rfl⟩,.inl rfl⟩
    · cases changed
  | markDetaching selection now =>
    cases saves
    obtain ⟨_,current,found,changed⟩ := Dict.mem_editEach.mp member
    split at changed
    · cases changed
      exact ⟨current,found,⟨rfl,rfl,rfl⟩,.inr ⟨selection,now,rfl⟩⟩
    · cases changed
  | detachUnknown | verified =>
    cases saves
    obtain ⟨_,current,found,changed⟩ := Dict.mem_editEach.mp member
    split at changed
    · cases changed
      exact ⟨current,found,⟨rfl,rfl,rfl⟩,.inl rfl⟩
    · cases changed
  | detached selection =>
    cases saves
    obtain ⟨_,_,_,changed⟩ := Dict.mem_editEach.mp member
    split at changed <;> cases changed
  | detachedLocal request seen =>
    simp only [Section.edits] at saves
    split at saves
    · cases saves
      obtain ⟨_,_,_,changed⟩ := Dict.mem_editEach.mp member
      split at changed <;> cases changed
    · cases saves
  | retire deviceHost items physical =>
    simp only [Section.edits,Devices.retire] at saves
    split at saves
    · rw [saveChanged_some saves] at member
      obtain ⟨_,_,same⟩ := List.mem_map.mp member
      cases same
    · cases saves
  | prune deviceHost currentBusids =>
    rw [saveChanged_some saves] at member
    obtain ⟨_,_,changed⟩ := Dict.mem_editItems.mp member
    split at changed <;> cases changed
  | heartbeat workerId online now =>
    rw [saveChanged_some saves] at member
    obtain ⟨current,found,changed⟩ := Dict.mem_editItems.mp member
    split at changed
    · cases changed
    · dsimp only at changed
      split at changed
      · cases changed
      · split at changed
        all_goals split at changed
        all_goals cases changed
        all_goals exact ⟨current,found,⟨rfl,rfl,rfl⟩,.inl rfl⟩
  | _ => cases marks

theorem Section.explained {part : Section} {base : Assignments} {edits : Edits} (owned : Owned base)
    (saves : part.edits base = some edits) (stays : ∀ migration now, part ≠ .migrateBusid migration now) :
    Explained base (base.editAll edits) (part.reports base) := by
  have marking : part.Marks → Explained base (base.editAll edits) [] := by
    refine fun marks => explained_of_keeping owned fun key entry member => ?_
    obtain ⟨current,found,same,_⟩ := Section.marks saves marks member
    exact ⟨current,found,same⟩
  cases part with
  | checkSiblings | checkLocal | select | surveyLocal | surveyStatus => cases saves
  | migrateBusid migration now => exact (stays migration now rfl).elim
  | reserve request operationId now clock =>
    cases reserved : Devices.reserve request operationId now clock base with
    | error text =>
      rw [Section.edits,reserved] at saves
      cases saves
    | ok stored =>
      rw [Section.edits,reserved] at saves
      cases saves
      exact reserve_explained owned reserved
  | attached request generation operationId attach now =>
    cases saves
    exact attached_explained owned generation operationId attach now
  | attachedLocal request attach operationId now clock =>
    cases saves
    exact attachedLocal_explained owned attach operationId now clock
  | reconcileSerials deviceHost sourceDevices sourceOs => exact reconcileSerials_explained owned saves
  | command sent now => exact command_explained owned saves
  | _ => exact marking trivial

theorem migrateBusid_owned {migration : BusidMigration} {now : Nat} {base : Assignments} {edits : Edits} (owned : Owned base)
    (migrated : migrateLocalUsbipBusid migration now base = .ok edits) : Owned (base.editAll edits) := by
  unfold migrateLocalUsbipBusid at migrated
  dsimp only at migrated
  split at migrated
  · cases migrated
  rename_i parameters
  have valid : validBusid (strip migration.oldBusid) = true ∧ validBusid (strip migration.newBusid) = true := by
    simp only [not_or,Bool.not_eq_true,Bool.not_eq_false'] at parameters
    exact ⟨by simpa using parameters.2.1,by simpa using parameters.2.2.1⟩
  split at migrated
  · cases migrated
  rename_i current before
  split at migrated
  · cases migrated
  split at migrated
  · cases migrated
  split at migrated
  · cases migrated
  rename_i unused
  cases migrated
  have absent : base.get (usbipAssignmentKey (strip migration.deviceHost) (strip migration.newBusid)) = none := by simpa using unused
  obtain ⟨keyed,plain⟩ := owned.keyed _ _ before
  obtain ⟨host,_⟩ := key_inj (validBusid_plain valid.1) plain keyed
  -- after the migration an entry is the moved one, or an old one under another key
  have after : ∀ key entry, (base.editAll
      [(usbipAssignmentKey (strip migration.deviceHost) (strip migration.oldBusid),none),
       (usbipAssignmentKey (strip migration.deviceHost) (strip migration.newBusid),some {current with
          busid := strip migration.newBusid,status := .unknown,generation := (base.values.map (·.generation)).foldr max 0 + 1
          operationId := migration.operationId,timestamp := now})]).get key = some entry →
      (key = usbipAssignmentKey (strip migration.deviceHost) (strip migration.newBusid) ∧ entry.deviceHost = current.deviceHost ∧
        entry.busid = strip migration.newBusid ∧ entry.deviceSerials = current.deviceSerials) ∨
      (key ≠ usbipAssignmentKey (strip migration.deviceHost) (strip migration.newBusid) ∧
        key ≠ usbipAssignmentKey (strip migration.deviceHost) (strip migration.oldBusid) ∧ base.get key = some entry) := by
    intro key entry found
    rw [Dict.get_editAll] at found
    simp only [Dict.written] at found
    by_cases new : key = usbipAssignmentKey (strip migration.deviceHost) (strip migration.newBusid)
    · subst new
      simp only [if_true,Option.getD_some,Option.some.injEq] at found
      subst found
      exact .inl ⟨rfl,rfl,rfl,rfl⟩
    · by_cases old : key = usbipAssignmentKey (strip migration.deviceHost) (strip migration.oldBusid)
      · subst old
        simp [Ne.symm new] at found
      · simp only [if_neg (Ne.symm new),if_neg (Ne.symm old),Option.getD_none] at found
        exact .inr ⟨new,old,found⟩
  constructor
  · intro key entry found
    rcases after key entry found with ⟨rfl,entryHost,entryBusid,_⟩ | ⟨_,_,stored⟩
    · rw [entryHost,entryBusid,← host]
      exact ⟨rfl,validBusid_plain valid.2⟩
    · exact owned.keyed key entry stored
  · intro key other entry second serial found otherFound _ _ listed otherListed
    -- the moved entry lists what it did under its old key, where no entry is now
    rcases after key entry found with ⟨rfl,_,_,serials⟩ | ⟨_,notOld,stored⟩
    · rcases after other second otherFound with ⟨rfl,_⟩ | ⟨_,otherNotOld,otherStored⟩
      · rfl
      · rw [serials] at listed
        exact (otherNotOld (owned.alone _ _ _ _ _ before otherStored (status_active _) (status_active _) listed otherListed).symm).elim
    · rcases after other second otherFound with ⟨rfl,_,_,serials⟩ | ⟨_,_,otherStored⟩
      · rw [serials] at otherListed
        exact (notOld (owned.alone _ _ _ _ _ stored before (status_active _) (status_active _) listed otherListed)).elim
      · exact owned.alone _ _ _ _ _ stored otherStored (status_active _) (status_active _) listed otherListed

theorem migrateSerial_ok {migration : SerialMigration} {now : Nat} {config : RuntimeConfig} {edits : ConfigEdits}
    (migrated : migrateLocalUsbipSerial migration now config = .ok (some edits)) :
    ∃ key current serial, config.assignments.get key = some current ∧ validSerial serial = true ∧
      (∀ other entry, config.assignments.get other = some entry → other ≠ key → serial ∉ cleanSerials entry.deviceSerials) ∧
      edits.assignments = [(key,some {current with deviceSerials := [serial],status := .attached,timestamp := now})] := by
  unfold migrateLocalUsbipSerial at migrated
  dsimp only at migrated
  split at migrated
  · cases migrated
  split at migrated
  · cases migrated
  rename_i formats
  split at migrated
  · cases migrated
  split at migrated
  · cases migrated
  rename_i key current located
  split at migrated
  · cases migrated
  rename_i unlisted
  split at migrated
  · cases migrated
  split at migrated
  · cases migrated
  split at migrated
  · cases migrated
  split at migrated
  · cases migrated
  cases migrated
  refine ⟨key,current,strip migration.newSerial,Dict.get_eq_some_iff.mpr (List.mem_of_find?_eq_some located),?_,?_,rfl⟩
  · simpa using (not_or.mp formats).2
  · intro other entry stored apart listed
    have none := List.find?_eq_none.mp unlisted (other,entry) (Dict.get_eq_some_iff.mp stored)
    exact none (by simp [apart,listed])

theorem migrateSerial_owned {migration : SerialMigration} {now : Nat} {base : RuntimeConfig} {edits : ConfigEdits}
    (owned : Owned base.assignments) (migrated : migrateLocalUsbipSerial migration now base = .ok (some edits)) :
    Owned (base.assignments.editAll edits.assignments) := by
  obtain ⟨key,current,serial,before,valid,unlisted,same⟩ := migrateSerial_ok migrated
  rw [same]
  have after : ∀ other entry, (base.assignments.editAll
      [(key,some {current with deviceSerials := [serial],status := .attached,timestamp := now})]).get other = some entry →
      (other = key ∧ entry.deviceHost = current.deviceHost ∧ entry.busid = current.busid ∧ entry.deviceSerials = [serial]) ∨
      (other ≠ key ∧ base.assignments.get other = some entry) := by
    intro other entry found
    rw [Dict.get_editAll] at found
    simp only [Dict.written] at found
    by_cases there : other = key
    · subst there
      simp only [if_true,Option.getD_some,Option.some.injEq] at found
      subst found
      exact .inl ⟨rfl,rfl,rfl,rfl⟩
    · simp only [if_neg (Ne.symm there),Option.getD_none] at found
      exact .inr ⟨there,found⟩
  have free : ∀ other entry, base.assignments.get other = some entry → other ≠ key → serial ∉ entry.deviceSerials :=
    fun other entry stored apart listed => unlisted other entry stored apart (mem_cleanSerials valid listed)
  constructor
  · intro other entry found
    rcases after other entry found with ⟨rfl,host,busid,_⟩ | ⟨_,stored⟩
    · rw [host,busid]
      exact owned.keyed _ _ before
    · exact owned.keyed _ _ stored
  · intro first other entry second listedSerial found otherFound _ _ listed otherListed
    rcases after first entry found with ⟨rfl,_,_,serials⟩ | ⟨apart,stored⟩
    · rcases after other second otherFound with ⟨rfl,_⟩ | ⟨otherApart,otherStored⟩
      · rfl
      · rw [serials,List.mem_singleton] at listed
        subst listed
        exact (free other second otherStored otherApart otherListed).elim
    · rcases after other second otherFound with ⟨rfl,_,_,serials⟩ | ⟨_,otherStored⟩
      · rw [serials,List.mem_singleton] at otherListed
        subst otherListed
        exact (free first entry stored apart listed).elim
      · exact owned.alone _ _ _ _ _ stored otherStored (status_active _) (status_active _) listed otherListed

/-- The condition on a run: a section that writes stores no reported serial where it would be listed twice. -/
def World.StoresUnclaimed (world : World) (event : Event) : Prop :=
  ∀ index base part, event = .write index → world.reading[index]? = some ⟨.assignments part,base⟩ →
    Unclaimed base.assignments (part.reports base.assignments)

theorem Writer.save_owned {writer : Writer} {edits : ConfigEdits} {base config : RuntimeConfig} (saves : writer.edits base = some edits)
    (read : Owned base.assignments) (held : Owned config.assignments)
    (unclaimed : ∀ part, writer = .assignments part → Unclaimed base.assignments (part.reports base.assignments)) :
    Owned (writer.save edits base config).assignments := by
  cases writer with
  | assignments part =>
    obtain ⟨stored,saved,rfl⟩ := Option.map_eq_some_iff.mp saves
    by_cases migrates : ∃ migration now, part = .migrateBusid migration now
    · obtain ⟨migration,now,rfl⟩ := migrates
      cases migrated : migrateLocalUsbipBusid migration now base.assignments with
      | error text =>
        rw [Section.edits,migrated] at saved
        cases saved
      | ok edits =>
        rw [Section.edits,migrated] at saved
        cases saved
        exact migrateBusid_owned read migrated
    · have stays : ∀ migration now, part ≠ .migrateBusid migration now := fun migration now same => migrates ⟨migration,now,same⟩
      exact (Section.explained read saved stays).owned read (unclaimed part rfl)
  | migrateSerial migration now =>
    cases migrated : migrateLocalUsbipSerial migration now base with
    | error text =>
      rw [Writer.edits,migrated] at saves
      cases saves
    | ok edits =>
      rw [Writer.edits,migrated] at saves
      cases saves
      exact migrateSerial_owned read migrated
  | persistSources deviceHost serials sourceOs now => exact held
  | removeSources devices => exact read
  | recordReconnected deviceHost devices now => exact read
  | clientHost ip username => exact held

/-- In every run whose sections store reported serials only where no other entry lists them, every key is that of
its entry and no serial is listed by two active entries. -/
theorem serials_listed_once {initial : RuntimeConfig} {world : World} (sound : Owned initial.assignments)
    (reached : Runs.Reached World.apply World.StoresUnclaimed (World.start initial) world) :
    (∀ key entry, world.config.assignments.get key = some entry → key = usbipAssignmentKey entry.deviceHost entry.busid) ∧
      ∀ key other entry second serial, world.config.assignments.get key = some entry → world.config.assignments.get other = some second →
        entry.status ∈ activeStatuses → second.status ∈ activeStatuses → serial ∈ entry.deviceSerials →
        serial ∈ second.deviceSerials → key = other := by
  have all : Owned world.config.assignments ∧ ∀ reading ∈ world.reading, Owned reading.base.assignments := by
    refine reached.invariant
      (fun world => Owned world.config.assignments ∧ ∀ reading ∈ world.reading, Owned reading.base.assignments) ?_ ?_
    · exact ⟨sound,fun _ member => (List.not_mem_nil member).elim⟩
    intro world event ⟨held,bases⟩ unclaimed
    have moves := apply_moves world event
    generalize world.apply event = next at moves
    have fewer : ∀ index, ∀ reading ∈ world.reading.eraseIdx index, Owned reading.base.assignments :=
      fun _ reading member => bases reading (List.mem_of_mem_eraseIdx member)
    cases moves with
    | idle => exact ⟨held,bases⟩
    | reads writer flights free origin =>
      refine ⟨held,fun reading member => ?_⟩
      rcases List.mem_append.mp member with old | new
      · exact bases reading old
      · cases List.mem_singleton.mp new
        exact held
    | drops index => exact ⟨held,fewer index⟩
    | writes index reading named found allowed =>
      cases saves : reading.writer.edits reading.base with
      | none =>
        rw [complete_unsaved index saves]
        exact ⟨held,fewer index⟩
      | some edits =>
        rw [complete_saved index saves]
        refine ⟨Writer.save_owned saves (bases reading (List.mem_of_getElem? found)) held ?_,fewer index⟩
        rintro part writes
        refine unclaimed index reading.base part named ?_
        rw [found,← writes]
  exact ⟨fun key entry found => (all.1.keyed key entry found).1,all.1.alone⟩

def oneBoard : ConnectRequest where
  deviceHost := "gms@10.0.0.9"
  workerId := "w1"
  busids := ⟨["1-1"],by decide,by decide⟩
  sourceDevices := [("1-1","S1")]
  remote := false

def connectOneBoard : List Event :=
  [.start (.assignments (.checkSiblings oneBoard)),.write 0,.resume 0 (.proceed "op" 100) 100,.write 0,
   .resume 0 (.attachedLocal ⟨"10.0.0.9","windows",["S1"]⟩ "op" 100) 100,.write 0]

theorem serials_listed_once_one_board :
    (Runs.exec World.apply (World.start {}) connectOneBoard).config.assignments.get "gms@10.0.0.9|1-1" ≠ none ∧
      ((∀ key entry, (Runs.exec World.apply (World.start {}) connectOneBoard).config.assignments.get key = some entry →
          key = usbipAssignmentKey entry.deviceHost entry.busid) ∧
        ∀ key other entry second serial,
          (Runs.exec World.apply (World.start {}) connectOneBoard).config.assignments.get key = some entry →
          (Runs.exec World.apply (World.start {}) connectOneBoard).config.assignments.get other = some second →
          entry.status ∈ activeStatuses → second.status ∈ activeStatuses → serial ∈ entry.deviceSerials →
          serial ∈ second.deviceSerials → key = other) := by
  have sound : Owned ({} : RuntimeConfig).assignments := owned_empty
  refine ⟨?_,serials_listed_once sound (Runs.Reached.along .start connectOneBoard ⟨?_,?_,?_,?_,?_,?_,trivial⟩)⟩
  · intro absent
    cases absent
  · intro index base part named
    cases named
  · intro index base part named found
    cases named
    cases found
    exact fun _ _ member => (List.not_mem_nil member).elim
  · intro index base part named
    cases named
  · intro index base part named found
    cases named
    cases found
    exact fun _ _ member => (List.not_mem_nil member).elim
  · intro index base part named
    cases named
  · intro index base part named found
    cases named
    cases found
    rintro key serials member serial listed
    cases List.mem_singleton.mp member
    refine ⟨fun other theirs report _ => ?_,fun other entry stored => ?_⟩
    · cases List.mem_singleton.mp report
      rfl
    · cases stored

def twoBoards : ConnectRequest where
  deviceHost := "gms@10.0.0.9"
  workerId := "w1"
  busids := ⟨["1-1","1-2"],by decide,by decide⟩
  remote := true

def lateAttach : List Event :=
  [.start (.assignments (.checkSiblings twoBoards)),.write 0,.resume 0 (.proceed "op" 100) 100,.write 0,
   .resume 0 (.failed true "" "10.0.0.9") 200,.write 0,
   .start (.assignments (.command
    {commandType := .usbipAttach,status := .completed,workerId := "w1",deviceHost := "gms@10.0.0.9",sourceHost := "10.0.0.9"
     busids := ["1-1","1-2"],generation := 100,newDevices := ["S1"]} 300)),.write 0]

/-- Both of its entries list the serial. -/
theorem serial_listed_twice : ¬ ∀ world, Runs.Reached World.apply (fun _ _ => True) (World.start {}) world →
    (∀ key entry, world.config.assignments.get key = some entry → key = usbipAssignmentKey entry.deviceHost entry.busid) ∧
      ∀ key other entry second serial, world.config.assignments.get key = some entry → world.config.assignments.get other = some second →
        entry.status ∈ activeStatuses → second.status ∈ activeStatuses → serial ∈ entry.deviceSerials →
        serial ∈ second.deviceSerials → key = other := by
  intro once
  have reached : Runs.Reached World.apply (fun _ _ => True) (World.start {}) (Runs.exec World.apply (World.start {}) lateAttach) :=
    Runs.Reached.along .start lateAttach (Runs.Along.all (fun _ _ => trivial) _ _)
  have lists : ∀ key ∈ ["gms@10.0.0.9|1-1","gms@10.0.0.9|1-2"],
      (((Runs.exec World.apply (World.start {}) lateAttach).config.assignments.get key).map (·.deviceSerials)) = some ["S1"] := by
    decide +kernel
  obtain ⟨entry,found,listed⟩ := Option.map_eq_some_iff.mp (lists "gms@10.0.0.9|1-1" (by simp))
  obtain ⟨second,otherFound,otherListed⟩ := Option.map_eq_some_iff.mp (lists "gms@10.0.0.9|1-2" (by simp))
  have same := (once _ reached).2 _ _ entry second "S1" found otherFound (status_active _) (status_active _) (by simp [listed])
    (by simp [otherListed])
  revert same
  decide

end GmsRemoteTest.Devices
