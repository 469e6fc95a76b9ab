import Mathlib.Data.List.Basic

/-! Validated state transitions for durable Cluster Jobs. -/
namespace GmsRemoteTest.Cluster

inductive JobStatus
  | created | queued | leasing | assigned | dispatching | running | stopping | collecting | workerLost
  | completed | failed | cancelled
deriving DecidableEq, Repr

namespace JobStatus

def text : JobStatus → String
  | created => "created"
  | queued => "queued"
  | leasing => "leasing"
  | assigned => "assigned"
  | dispatching => "dispatching"
  | running => "running"
  | stopping => "stopping"
  | collecting => "collecting"
  | workerLost => "worker_lost"
  | completed => "completed"
  | failed => "failed"
  | cancelled => "cancelled"

def terminal : JobStatus → Bool
  | completed | failed | cancelled => true
  | _ => false

/-- The statuses `mark_worker_offline`, the capacity check and reconciliation select. -/
def occupied : JobStatus → Bool
  | assigned | dispatching | running | stopping => true
  | _ => false

def allowedTransitions : JobStatus → Option (List JobStatus)
  | assigned => some [dispatching,stopping,completed,failed,cancelled,workerLost]
  | dispatching => some [running,stopping,completed,failed,cancelled,workerLost]
  | running => some [stopping,completed,failed,cancelled,workerLost]
  | stopping => some [cancelled,failed,workerLost]
  | workerLost => some [running,stopping,completed,failed,cancelled]
  | completed => some []
  | failed => some []
  | cancelled => some []
  | _ => none

def Allowed (source target : JobStatus) : Prop := target ∈ (allowedTransitions source).getD []

instance (source target : JobStatus) : Decidable (Allowed source target) :=
  inferInstanceAs (Decidable (target ∈ (allowedTransitions source).getD []))

def tracked (status : JobStatus) : Bool := (allowedTransitions status).isSome

end JobStatus

open JobStatus

structure InvalidJobTransition where
  source : JobStatus
  target : JobStatus
deriving DecidableEq, Repr

def InvalidJobTransition.text (error : InvalidJobTransition) : String :=
  "invalid cluster job transition: " ++ error.source.text ++ " -> " ++ error.target.text

def validateJobTransition (source target : JobStatus) : Except InvalidJobTransition Unit :=
  if source = target then .ok ()
  else match allowedTransitions source with
    | none => .error ⟨source,target⟩
    | some allowed => if target ∈ allowed then .ok () else .error ⟨source,target⟩

theorem validateJobTransition_eq {source target : JobStatus} (different : source ≠ target) :
    validateJobTransition source target =
      if Allowed source target then .ok () else .error ⟨source,target⟩ := by
  unfold validateJobTransition
  rw [if_neg different]
  split
  · rename_i missing
    simp [Allowed,missing]
  · rename_i allowed known
    simp [Allowed,known]

namespace JobStatus

section
variable {source target : JobStatus} (allowed : Allowed source target)
include allowed

theorem Allowed.ne : source ≠ target := by
  revert allowed
  cases source <;> cases target <;> decide

theorem Allowed.live : source.terminal = false := by
  revert allowed
  cases source <;> cases target <;> decide

theorem Allowed.tracked : target.tracked = true := by
  revert allowed
  cases source <;> cases target <;> decide

end

theorem failed_allowed {status : JobStatus} (known : status.tracked = true) (live : status.terminal = false) :
    Allowed status .failed := by
  revert known live
  cases status <;> decide

theorem Allowed.returns {source target : JobStatus} (allowed : Allowed source target) (busy : target.occupied = true)
    (outside : source.occupied = false) : source = .workerLost := by
  revert allowed busy outside
  cases source <;> cases target <;> decide

theorem occupied_live {status : JobStatus} (busy : status.occupied = true) : status.terminal = false := by
  revert busy
  cases status <;> decide

end JobStatus
end GmsRemoteTest.Cluster
