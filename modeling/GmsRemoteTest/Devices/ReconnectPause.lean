import GmsRemoteTest.Devices.FlashRoutes

/-! The pauses of the USB/IP reconnect that a firmware flash takes: by host and by device, each with the time it
ends at. Times are in seconds. -/
namespace GmsRemoteTest.Devices
open Text

/-- `_paused_hosts` and `_paused_devices`, or the two tables of the suppression. -/
structure Expiries where
  hosts : Dict String Nat
  devices : Dict String Nat

def Expiries.none : Expiries := ⟨Dict.empty,Dict.empty⟩

def USBIP_FIRMWARE_RECONNECT_PAUSE_SECONDS : Nat := 2 * 60 * 60

def pauseDevices (expires : Nat) (deviceIds : List String) (devices : Dict String Nat) : Dict String Nat :=
  deviceIds.foldl (fun devices device => if device ≠ "" then devices.put (strip device) expires else devices) devices

def pauseUsbipReconnect (now : Nat) (deviceHost : String) (deviceIds : List String) (ttlSeconds : Nat) (pauses : Expiries) : Expiries :=
  let expires := now + max 1 ttlSeconds
  { hosts := if deviceHost ≠ "" then pauses.hosts.put (strip deviceHost) expires else pauses.hosts
    devices := pauseDevices expires deviceIds pauses.devices }

def resumeUsbipReconnect (deviceHost : String) (deviceIds : List String) (pauses : Expiries) : Expiries where
  hosts := if deviceHost ≠ "" then pauses.hosts.pop (strip deviceHost) else pauses.hosts
  devices := deviceIds.foldl (fun devices device => if device ≠ "" then devices.pop (strip device) else devices) pauses.devices

inductive Argument where
  | text (value : String)
  | texts (values : List String)

def callResume (arguments : List (String × Argument)) (pauses : Expiries) : Except String Expiries :=
  match arguments with
  | [("device_host",.text host)] => .ok (resumeUsbipReconnect host [] pauses)
  | [("device_ids",.texts ids)] => .ok (resumeUsbipReconnect "" ids pauses)
  | _ => .error "TypeError: resume_usbip_reconnect() got an unexpected keyword argument"

def heldIn (now : Nat) (key : String) (table : Dict String Nat) : Bool × Dict String Nat :=
  if strip key = "" then (false,table)
  else match table.get (strip key) with
    | some expires => if expires ≠ 0 ∧ now < expires then (true,table) else if expires ≠ 0 then (false,table.pop (strip key)) else (false,table)
    | none => (false,table)

def Expiries.holds (now : Nat) (deviceHost deviceId : String) (expiries : Expiries) : Bool × Expiries :=
  let (held,hosts) := heldIn now deviceHost expiries.hosts
  if held then (true,{expiries with hosts})
  else
    let (held,devices) := heldIn now deviceId expiries.devices
    (held,⟨hosts,devices⟩)

def anyDevicePaused (now : Nat) : List String → Expiries → Bool × Expiries
  | [], pauses => (false,pauses)
  | device :: devices, pauses =>
    let (held,pauses) := pauses.holds now "" device
    if held then (true,pauses) else anyDevicePaused now devices pauses

def reconnectPausedForDevices (now : Nat) (deviceHost : String) (deviceIds : List String) (pauses : Expiries) : Bool × Expiries :=
  let (held,pauses) := pauses.holds now deviceHost ""
  if held then (true,pauses) else anyDevicePaused now deviceIds pauses

/-- What `schedule_usbip_reconnect` reads and changes; `running` are the hosts with a live reconnect task. -/
structure Reconnects where
  pauses : Expiries
  suppressed : Expiries
  running : List String
  transportOnly : List String

def scheduleUsbipReconnect (now : Nat) (remoteAssigned : String → Bool) (deviceHost : String) (expectedDevices : List String)
    (acceptTransportOnly : Bool) (state : Reconnects) : Bool × Reconnects :=
  let host := strip deviceHost
  let expected := fromkeys expectedDevices
  if host = "" then (false,state)
  else
    let (held,suppressed) := state.suppressed.holds now host ""
    let state := {state with suppressed}
    if held then (false,state)
    else
      let (paused,pauses) := reconnectPausedForDevices now host expected state.pauses
      let state := {state with pauses}
      if paused then (false,state)
      else if remoteAssigned host then (false,state)
      else
        let state := {state with transportOnly := if acceptTransportOnly then host :: state.transportOnly else state.transportOnly}
        if host ∈ state.running then (false,state) else (true,{state with running := host :: state.running})

/-- Some pause has not run out. -/
def Expiries.InForce (now : Nat) (pauses : Expiries) : Prop :=
  (∃ host expires, pauses.hosts.get host = some expires ∧ now < expires) ∨
    ∃ device expires, pauses.devices.get device = some expires ∧ now < expires

structure Pruned (now : Nat) (before after : Dict String Nat) : Prop where
  old : ∀ key expires, after.get key = some expires → before.get key = some expires
  kept : ∀ key expires, before.get key = some expires → now < expires → after.get key = some expires

theorem Pruned.refl (now : Nat) (table : Dict String Nat) : Pruned now table table := ⟨fun _ _ found => found,fun _ _ found _ => found⟩

theorem Pruned.trans {now : Nat} {first second third : Dict String Nat} (left : Pruned now first second)
    (right : Pruned now second third) : Pruned now first third where
  old := fun key expires found => left.old key expires (right.old key expires found)
  kept := fun key expires found later => right.kept key expires (left.kept key expires found later) later

theorem pruned_pop {now expires : Nat} {key : String} {table : Dict String Nat} (found : table.get key = some expires)
    (past : ¬now < expires) : Pruned now table (table.pop key) := by
  refine ⟨fun other until_ left => ?_,fun other until_ held later => ?_⟩
  · rw [Dict.get_pop] at left
    split at left
    · cases left
    · exact left
  · rw [Dict.get_pop,if_neg]
    · exact held
    · rintro rfl
      rw [held] at found
      cases found
      exact past later

theorem heldIn_pruned (now : Nat) (key : String) (table : Dict String Nat) : Pruned now table (heldIn now key table).2 := by
  unfold heldIn
  split
  · exact Pruned.refl now table
  · split
    · rename_i expires found
      split
      · exact Pruned.refl now table
      · rename_i past
        split
        · rename_i nonzero
          exact pruned_pop found fun later => past ⟨nonzero,later⟩
        · exact Pruned.refl now table
    · exact Pruned.refl now table

theorem held_in_force {now : Nat} {key : String} {table : Dict String Nat} (held : (heldIn now key table).1 = true) :
    ∃ expires, table.get (strip key) = some expires ∧ now < expires := by
  unfold heldIn at held
  split at held
  · cases held
  · split at held
    · rename_i expires found
      split at held
      · rename_i later
        exact ⟨expires,found,later.2⟩
      · split at held <;> cases held
    · cases held

structure Expiries.Pruned (now : Nat) (before after : Expiries) : Prop where
  hosts : Devices.Pruned now before.hosts after.hosts
  devices : Devices.Pruned now before.devices after.devices

theorem Expiries.Pruned.refl (now : Nat) (pauses : Expiries) : Expiries.Pruned now pauses pauses := ⟨Devices.Pruned.refl _ _,Devices.Pruned.refl _ _⟩

theorem Expiries.Pruned.trans {now : Nat} {first second third : Expiries} (left : Expiries.Pruned now first second)
    (right : Expiries.Pruned now second third) : Expiries.Pruned now first third :=
  ⟨left.hosts.trans right.hosts,left.devices.trans right.devices⟩

theorem Expiries.Pruned.inForce {now : Nat} {before after : Expiries} (pruned : Expiries.Pruned now before after) :
    after.InForce now ↔ before.InForce now := by
  constructor
  · rintro (⟨host,expires,found,later⟩ | ⟨device,expires,found,later⟩)
    · exact .inl ⟨host,expires,pruned.hosts.old host expires found,later⟩
    · exact .inr ⟨device,expires,pruned.devices.old device expires found,later⟩
  · rintro (⟨host,expires,found,later⟩ | ⟨device,expires,found,later⟩)
    · exact .inl ⟨host,expires,pruned.hosts.kept host expires found later,later⟩
    · exact .inr ⟨device,expires,pruned.devices.kept device expires found later,later⟩

theorem Expiries.InForce.earlier {now later : Nat} {pauses : Expiries} (force : pauses.InForce later) (order : now ≤ later) :
    pauses.InForce now := by
  rcases force with ⟨host,expires,found,after⟩ | ⟨device,expires,found,after⟩
  · exact .inl ⟨host,expires,found,Nat.lt_of_le_of_lt order after⟩
  · exact .inr ⟨device,expires,found,Nat.lt_of_le_of_lt order after⟩

theorem holds_pruned (now : Nat) (host device : String) (pauses : Expiries) :
    Expiries.Pruned now pauses (pauses.holds now host device).2 := by
  have hosts := heldIn_pruned now host pauses.hosts
  have devices := heldIn_pruned now device pauses.devices
  unfold Expiries.holds
  dsimp only
  split
  · exact ⟨hosts,Pruned.refl now _⟩
  · dsimp only
    exact ⟨hosts,devices⟩

theorem holds_in_force {now : Nat} {host device : String} {pauses : Expiries} (held : (pauses.holds now host device).1 = true) :
    pauses.InForce now := by
  unfold Expiries.holds at held
  dsimp only at held
  by_cases first : (heldIn now host pauses.hosts).1 = true
  · obtain ⟨expires,found,later⟩ := held_in_force first
    exact .inl ⟨_,expires,found,later⟩
  · rw [if_neg first] at held
    dsimp only at held
    obtain ⟨expires,found,later⟩ := held_in_force held
    exact .inr ⟨_,expires,found,later⟩

theorem anyDevicePaused_pruned (now : Nat) (devices : List String) (pauses : Expiries) :
    Expiries.Pruned now pauses (anyDevicePaused now devices pauses).2 := by
  induction devices generalizing pauses with
  | nil => exact Expiries.Pruned.refl now pauses
  | cons device devices ih =>
    have checked := holds_pruned now "" device pauses
    unfold anyDevicePaused
    dsimp only
    split
    · dsimp only
      exact checked
    · exact checked.trans (ih _)

theorem anyDevice_in_force {now : Nat} {devices : List String} {pauses : Expiries}
    (held : (anyDevicePaused now devices pauses).1 = true) : pauses.InForce now := by
  induction devices generalizing pauses with
  | nil => cases held
  | cons device devices ih =>
    unfold anyDevicePaused at held
    dsimp only at held
    split at held
    · rename_i first
      exact holds_in_force first
    · exact (holds_pruned now "" device pauses).inForce.mp (ih held)

theorem reconnectPaused_pruned (now : Nat) (host : String) (devices : List String) (pauses : Expiries) :
    Expiries.Pruned now pauses (reconnectPausedForDevices now host devices pauses).2 := by
  have checked := holds_pruned now host "" pauses
  unfold reconnectPausedForDevices
  dsimp only
  split
  · dsimp only
    exact checked
  · exact checked.trans (anyDevicePaused_pruned now devices _)

theorem reconnectPaused_in_force {now : Nat} {host : String} {devices : List String} {pauses : Expiries}
    (held : (reconnectPausedForDevices now host devices pauses).1 = true) : pauses.InForce now := by
  unfold reconnectPausedForDevices at held
  dsimp only at held
  split at held
  · rename_i first
    exact holds_in_force first
  · exact (holds_pruned now host "" pauses).inForce.mp (anyDevice_in_force held)

theorem schedule_pruned (now : Nat) (remoteAssigned : String → Bool) (host : String) (devices : List String) (accept : Bool)
    (state : Reconnects) :
    Expiries.Pruned now state.pauses (scheduleUsbipReconnect now remoteAssigned host devices accept state).2.pauses := by
  have same := Expiries.Pruned.refl now state.pauses
  have checked := reconnectPaused_pruned now (strip host) (fromkeys devices) state.pauses
  unfold scheduleUsbipReconnect
  dsimp only
  split
  · exact same
  · split
    · exact same
    · split
      · dsimp only
        exact checked
      · split
        · dsimp only
          exact checked
        · split
          · dsimp only
            exact checked
          · dsimp only
            exact checked

theorem get_pauseDevices (expires : Nat) (deviceIds : List String) (devices : Dict String Nat) (device : String) :
    (pauseDevices expires deviceIds devices).get device =
      if ∃ id ∈ deviceIds, id ≠ "" ∧ strip id = device then some expires else devices.get device := by
  unfold pauseDevices
  induction deviceIds generalizing devices with
  | nil => simp
  | cons first rest ih =>
    rw [List.foldl_cons,ih]
    by_cases later : ∃ id ∈ rest, id ≠ "" ∧ strip id = device
    · rw [if_pos later,if_pos]
      obtain ⟨id,member,named⟩ := later
      exact ⟨id,List.mem_cons_of_mem _ member,named⟩
    · rw [if_neg later]
      by_cases here : first ≠ "" ∧ strip first = device
      · rw [if_pos here.1,Dict.get_put,if_pos here.2.symm,if_pos ⟨first,List.mem_cons_self ..,here⟩]
      · have none : ¬∃ id ∈ first :: rest, id ≠ "" ∧ strip id = device := by
          rintro ⟨id,member,named⟩
          rcases List.mem_cons.mp member with rfl | member
          · exact here named
          · exact later ⟨id,member,named⟩
        rw [if_neg none]
        by_cases named : first ≠ ""
        · rw [if_pos named,Dict.get_put,if_neg fun same => here ⟨named,same.symm⟩]
        · rw [if_neg named]

end GmsRemoteTest.Devices
