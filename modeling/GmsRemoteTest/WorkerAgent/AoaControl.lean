import GmsRemoteTest.Cluster.Schema

/-! The Worker's registry of AOA playback controls: pause, resume and cancel, each applied
only when it is newer than what the registry has. -/
namespace GmsRemoteTest.WorkerAgent
open Cluster

/-- `_PlaybackControl`; the clock is the Worker's monotonic one. -/
structure PlaybackControl where
  id : String
  paused : Bool := false
  cancelled : Bool := false
  createdAt : Nat
  revision : Nat := 0
deriving DecidableEq, Repr

structure ControlState where
  paused : Bool
  cancelled : Bool
deriving DecidableEq, Repr

def controlTtlSeconds : Nat := 4*3600

def findControl (controls : List PlaybackControl) (controlId : String) : Option PlaybackControl :=
  Table.fetch (fun control => control.id = controlId) controls

def purgeExpired (controls : List PlaybackControl) (now : Nat) : List PlaybackControl :=
  Table.delete (fun control => controlTtlSeconds < now-control.createdAt) controls

def ensureControl (controls : List PlaybackControl) (controlId : String) (now : Nat) : List PlaybackControl :=
  let live := purgeExpired controls now
  match findControl live controlId with
  | some _ => live
  | none => live++[{id := controlId, createdAt := now}]

def unregister (controls : List PlaybackControl) (controlId : String) : List PlaybackControl :=
  Table.delete (fun control => control.id = controlId) controls

def PlaybackControl.obey (control : PlaybackControl) (action : PlaybackAction) (revision : Option Nat) : PlaybackControl :=
  let incoming := revision.getD (control.revision+1)
  if control.revision < incoming ∧ control.cancelled = false then
    match action with
    | .pause => {control with revision := incoming, paused := true}
    | .resume => {control with revision := incoming, paused := false}
    | .cancel => {control with revision := incoming, cancelled := true, paused := false}
  else control

def request (controls : List PlaybackControl) (controlId : String) (action : PlaybackAction) (revision : Option Nat)
    (now : Nat) : List PlaybackControl :=
  Table.update (fun control => control.id = controlId) (fun control => control.obey action revision)
    (ensureControl controls controlId now)

def status (controls : List PlaybackControl) (controlId : String) (now : Nat) : Option ControlState :=
  (findControl (purgeExpired controls now) controlId).map fun control => ⟨control.paused,control.cancelled⟩

/-- The payload of an `aoa_playback_control` command. -/
structure ControlMessage where
  action : PlaybackAction
  revision : Nat
deriving DecidableEq, Repr

def ControlMessage.target (message : ControlMessage) : ControlState := ⟨message.action = .pause,message.action = .cancel⟩

def Obeyed (begun : Nat) (delivered : List ControlMessage) : Option PlaybackControl → Prop
  | none => delivered = []
  | some control => begun ≤ control.createdAt ∧
    (delivered = [] ∧ control.revision = 0 ∧ control.cancelled = false ∨
      ∃ message ∈ delivered, control.revision = message.revision ∧
        ControlState.mk control.paused control.cancelled = message.target ∧
        (control.cancelled = true ∨ ∀ other ∈ delivered, other.revision ≤ message.revision))

section
variable {controls : List PlaybackControl} {controlId other : String} {begun now : Nat} {delivered : List ControlMessage}

theorem findControl_purgeExpired (obeyed : Obeyed begun delivered (findControl controls controlId))
    (timely : now ≤ begun+controlTtlSeconds) :
    findControl (purgeExpired controls now) controlId = findControl controls controlId := by
  cases found : findControl controls controlId with
  | none => exact Table.fetch_delete_none found
  | some control =>
    rw [found] at obeyed
    have young : ¬ controlTtlSeconds < now-control.createdAt := by
      have made := obeyed.1
      omega
    exact Table.fetch_delete_some found young

theorem findControl_id {control : PlaybackControl} (found : findControl controls controlId = some control) :
    control.id = controlId := by
  have selected := Table.fetch_selects found
  exact selected

theorem findControl_ensureControl : findControl (ensureControl controls controlId now) controlId =
    some ((findControl (purgeExpired controls now) controlId).getD {id := controlId, createdAt := now}) := by
  unfold ensureControl
  cases found : findControl (purgeExpired controls now) controlId with
  | some control =>
    simp only [found]
    rfl
  | none =>
    simp only [findControl,Table.fetch] at found ⊢
    simp [List.find?_append,found]

theorem findControl_ensureControl_other (different : controlId ≠ other) :
    findControl (ensureControl controls other now) controlId = findControl (purgeExpired controls now) controlId := by
  unfold ensureControl
  dsimp only
  split
  · rfl
  · simp [findControl,Table.fetch,List.find?_append,different.symm]

theorem PlaybackControl.obey_id (control : PlaybackControl) (action : PlaybackAction) (revision : Option Nat) :
    (control.obey action revision).id = control.id ∧ (control.obey action revision).createdAt = control.createdAt := by
  unfold PlaybackControl.obey
  dsimp only
  split
  · cases action <;> exact ⟨rfl,rfl⟩
  · exact ⟨rfl,rfl⟩

theorem findControl_request (action : PlaybackAction) (revision : Option Nat) :
    findControl (request controls other action revision now) controlId =
      (findControl (ensureControl controls other now) controlId).map fun control =>
        if control.id = other then control.obey action revision else control :=
  Table.fetch_update (fun control _ => (control.obey_id action revision).1) controlId _

theorem findControl_request_self (action : PlaybackAction) (revision : Option Nat) :
    findControl (request controls controlId action revision now) controlId =
      (findControl (ensureControl controls controlId now) controlId).map fun control => control.obey action revision := by
  rw [findControl_request]
  cases found : findControl (ensureControl controls controlId now) controlId with
  | none => rfl
  | some control => rw [Option.map_some,Option.map_some,if_pos (findControl_id found)]

theorem findControl_request_other (different : controlId ≠ other) (action : PlaybackAction) (revision : Option Nat) :
    findControl (request controls other action revision now) controlId = findControl (purgeExpired controls now) controlId := by
  rw [findControl_request,findControl_ensureControl_other different]
  cases found : findControl (purgeExpired controls now) controlId with
  | none => rfl
  | some control =>
    have unselected : control.id ≠ other := findControl_id found ▸ different
    rw [Option.map_some,if_neg unselected]

theorem findControl_unregister_other (different : controlId ≠ other) :
    findControl (unregister controls other) controlId = findControl controls controlId := by
  cases found : findControl controls controlId with
  | none => exact Table.fetch_delete_none found
  | some control =>
    have kept : ¬ control.id = other := findControl_id found ▸ different
    exact Table.fetch_delete_some found kept

theorem Obeyed.ensure (obeyed : Obeyed begun delivered (findControl controls controlId)) (begins : begun ≤ now)
    (timely : now ≤ begun+controlTtlSeconds) :
    Obeyed begun delivered (findControl (ensureControl controls controlId now) controlId) := by
  rw [findControl_ensureControl,findControl_purgeExpired obeyed timely]
  cases found : findControl controls controlId with
  | some control => exact found ▸ obeyed
  | none =>
    rw [found] at obeyed
    exact ⟨begins,.inl ⟨obeyed,rfl,rfl⟩⟩

theorem Obeyed.obey {control : PlaybackControl} (obeyed : Obeyed begun delivered (some control)) (message : ControlMessage)
    (numbered : 0 < message.revision) :
    Obeyed begun (delivered++[message]) (some (control.obey message.action (some message.revision))) := by
  obtain ⟨made,shown⟩ := obeyed
  refine ⟨by rw [(control.obey_id _ _).2]; exact made,.inr ?_⟩
  by_cases newer : control.revision < message.revision ∧ control.cancelled = false
  · have applied : (control.obey message.action (some message.revision)).revision = message.revision ∧
        ControlState.mk (control.obey message.action (some message.revision)).paused
          (control.obey message.action (some message.revision)).cancelled = message.target := by
      simp only [PlaybackControl.obey,Option.getD_some,newer,and_self,if_true,ControlMessage.target]
      cases message.action <;> simp
    refine ⟨message,by simp,applied.1,applied.2,.inr ?_⟩
    intro other member
    rcases List.mem_append.mp member with earlier | own
    · rcases shown with ⟨empty,_⟩ | ⟨held,_,revision,_,cancelled | newest⟩
      · simp [empty] at earlier
      · rw [newer.2] at cancelled
        cases cancelled
      · exact Nat.le_of_lt (Nat.lt_of_le_of_lt (newest other earlier) (revision ▸ newer.1))
    · rw [List.mem_singleton.mp own]
  · have ignored : control.obey message.action (some message.revision) = control := by
      simp only [PlaybackControl.obey,Option.getD_some,newer,if_false]
    rw [ignored]
    rcases shown with ⟨_,zero,live⟩ | ⟨held,member,revision,target,newest⟩
    · exact absurd ⟨zero ▸ numbered,live⟩ newer
    · refine ⟨held,List.mem_append_left _ member,revision,target,?_⟩
      rcases newest with cancelled | newest
      · exact .inl cancelled
      · cases live : control.cancelled with
        | true => exact .inl rfl
        | false =>
          right
          intro other present
          rcases List.mem_append.mp present with earlier | own
          · exact newest other earlier
          · have stale : ¬ control.revision < message.revision := fun new => newer ⟨new,live⟩
            rw [List.mem_singleton.mp own]
            omega

theorem Obeyed.deliver (obeyed : Obeyed begun delivered (findControl controls controlId)) (message : ControlMessage)
    (numbered : 0 < message.revision) (begins : begun ≤ now) (timely : now ≤ begun+controlTtlSeconds) :
    Obeyed begun (delivered++[message])
      (findControl (request controls controlId message.action (some message.revision) now) controlId) := by
  have ensured := obeyed.ensure begins timely
  rw [findControl_request_self]
  rw [findControl_ensureControl] at ensured ⊢
  exact ensured.obey message numbered

end

end GmsRemoteTest.WorkerAgent
