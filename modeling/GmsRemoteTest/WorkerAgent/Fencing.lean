import GmsRemoteTest.Lib.Runs
import GmsRemoteTest.WorkerAgent.Runtime

/-! Which tokens a Worker accepts for one device over whole runs. A fence orders the tokens
accepted while it stands; releasing or pruning it ends that order. -/
namespace GmsRemoteTest.WorkerAgent

/-- What can happen to the fences; the jobs change by functions that are not about fences. -/
inductive FenceOp
  | validate (command : Delivery)
  | release (command : Delivery)
  | releaseAttempt (attemptId : String)
  | prune
  | jobs (rows : List JobRow)

def fenceStep (config : WorkerConfig) (op : FenceOp) (db : WorkerDb) : WorkerDb :=
  match op with
  | .validate command => (validateFencing config db command).2
  | .release command => releaseFencing db command
  | .releaseAttempt attemptId => releaseAttemptFencing db attemptId
  | .prune => pruneInactiveFences db
  | .jobs rows => {db with jobs := rows}

def acceptedBy (config : WorkerConfig) (db : WorkerDb) : FenceOp → List FencingToken
  | .validate command => match (validateFencing config db command).1 with
    | .ok _ => command.leaseTokens
    | .error _ => []
  | _ => []

def acceptedTokens (config : WorkerConfig) : WorkerDb → List FenceOp → List FencingToken
  | _, [] => []
  | db, op :: ops => acceptedBy config db op++acceptedTokens config (fenceStep config op db) ops

/-- The step deletes the fence of the device. -/
def Clears (config : WorkerConfig) (deviceId : String) (db : WorkerDb) (op : FenceOp) : Prop :=
  findFence db.fences deviceId ≠ none ∧ findFence (fenceStep config op db).fences deviceId = none

instance (config : WorkerConfig) (deviceId : String) (db : WorkerDb) (op : FenceOp) : Decidable (Clears config deviceId db op) :=
  inferInstanceAs (Decidable (findFence db.fences deviceId ≠ none ∧ findFence (fenceStep config op db).fences deviceId = none))

def Follows (earlier later : DeviceFence) : Prop :=
  earlier.generation < later.generation ∨ earlier.generation = later.generation ∧
    earlier.leaseId = later.leaseId ∧ earlier.attemptId = later.attemptId

theorem Follows.refl (fence : DeviceFence) : Follows fence fence := .inr ⟨rfl,rfl,rfl⟩

theorem Follows.trans {first second third : DeviceFence} (left : Follows first second) (right : Follows second third) :
    Follows first third := by
  rcases left with less | ⟨same,lease,attempt⟩ <;> rcases right with more | ⟨equal,held,owned⟩
  · exact .inl (less.trans more)
  · exact .inl (equal ▸ less)
  · exact .inl (same ▸ more)
  · exact .inr ⟨same.trans equal,lease.trans held,attempt.trans owned⟩

structure Advanced (before after : Option DeviceFence) (accepted : List FencingToken) : Prop where
  ordered : accepted.Pairwise fun earlier later => Follows earlier.fence later.fence
  onward : ∀ fence, before = some fence → ∃ next, after = some next ∧ Follows fence next
  above : ∀ fence, before = some fence → ∀ token ∈ accepted, Follows fence token.fence
  reaches : ∀ token ∈ accepted, ∃ next, after = some next ∧ Follows token.fence next

theorem Advanced.refl (fence : Option DeviceFence) : Advanced fence fence [] where
  ordered := List.Pairwise.nil
  onward held found := ⟨held,found,.refl held⟩
  above _ _ _ member := nomatch member
  reaches _ member := nomatch member

theorem Advanced.trans {before middle after : Option DeviceFence} {first second : List FencingToken}
    (left : Advanced before middle first) (right : Advanced middle after second) :
    Advanced before after (first++second) where
  ordered := by
    refine List.pairwise_append.mpr ⟨left.ordered,right.ordered,?_⟩
    intro earlier present later member
    obtain ⟨held,found,follows⟩ := left.reaches earlier present
    exact follows.trans (right.above held found later member)
  onward := by
    intro fence found
    obtain ⟨held,standing,follows⟩ := left.onward fence found
    obtain ⟨next,final,further⟩ := right.onward held standing
    exact ⟨next,final,follows.trans further⟩
  above := by
    intro fence found token member
    rcases List.mem_append.mp member with early | late
    · exact left.above fence found token early
    · obtain ⟨held,standing,follows⟩ := left.onward fence found
      exact follows.trans (right.above held standing token late)
  reaches := by
    intro token member
    rcases List.mem_append.mp member with early | late
    · obtain ⟨held,standing,follows⟩ := left.reaches token early
      obtain ⟨next,final,further⟩ := right.onward held standing
      exact ⟨next,final,follows.trans further⟩
    · exact right.reaches token late

section
variable {fences : List DeviceFence} {deviceId : String} {token : FencingToken}

theorem findFence_device {fence : DeviceFence} (found : findFence fences deviceId = some fence) : fence.deviceId = deviceId := by
  have selected := Table.fetch_selects found
  exact selected

theorem rewrites_own (token : FencingToken) (fence : DeviceFence) (own : fence.deviceId = token.deviceId) :
    token.fence.deviceId = fence.deviceId := own.symm

theorem findFence_upsert_self : findFence (upsertFence fences token) token.deviceId = some token.fence := by
  unfold upsertFence
  cases found : findFence fences token.deviceId with
  | none =>
    simp only [findFence,Table.fetch] at found ⊢
    simp [List.find?_append,found,FencingToken.fence]
  | some fence =>
    have moved := Table.fetch_update (rewrites_own token) token.deviceId fences
    rw [show Table.fetch (fun fence => fence.deviceId = token.deviceId) fences = some fence from found,Option.map_some,
      if_pos (findFence_device found)] at moved
    exact moved

theorem findFence_upsert_other (different : deviceId ≠ token.deviceId) :
    findFence (upsertFence fences token) deviceId = findFence fences deviceId := by
  unfold upsertFence
  cases held : findFence fences token.deviceId with
  | none =>
    simp only [findFence,Table.fetch]
    simp [List.find?_append,FencingToken.fence,different.symm]
  | some fence =>
    have moved : findFence _ deviceId = _ := Table.fetch_update (rewrites_own token) deviceId fences
    rw [moved]
    cases found : findFence fences deviceId with
    | none => rw [show Table.fetch (fun fence => fence.deviceId = deviceId) fences = none from found,Option.map_none]
    | some other =>
      have unselected : other.deviceId ≠ token.deviceId := findFence_device found ▸ different
      rw [show Table.fetch (fun fence => fence.deviceId = deviceId) fences = some other from found,Option.map_some,
        if_neg unselected]

theorem upsertFence_keyed (keyed : (fences.map (·.deviceId)).Nodup) : ((upsertFence fences token).map (·.deviceId)).Nodup := by
  unfold upsertFence
  cases found : findFence fences token.deviceId with
  | none =>
    have absent := Table.fetch_none.mp found
    simp only [List.map_append,List.map_cons,List.map_nil,List.nodup_append,keyed,true_and]
    refine ⟨List.nodup_singleton _,?_⟩
    intro first member second own same
    obtain ⟨fence,present,rfl⟩ := List.mem_map.mp member
    rw [List.mem_singleton] at own
    exact absent fence present (same.trans own)
  | some fence =>
    have same : (Table.update (fun fence => fence.deviceId = token.deviceId) (fun _ => token.fence) fences).map (·.deviceId) =
        fences.map (·.deviceId) := Table.map_update _ (rewrites_own token)
    exact same.symm ▸ keyed

theorem admitToken_advanced {progress next : List DeviceFence × List String} (admitted : admitToken progress token = .ok next) :
    Advanced (findFence progress.1 deviceId) (findFence next.1 deviceId) ([token].filter (·.deviceId = deviceId)) ∧
      ((progress.1.map (·.deviceId)).Nodup → (next.1.map (·.deviceId)).Nodup) := by
  have written : next.1 = upsertFence progress.1 token ∧
      ∀ current, findFence progress.1 token.deviceId = some current → ¬ token.stale current := by
    unfold admitToken at admitted
    split at admitted
    · cases admitted
    · split at admitted
      · rename_i absent
        cases admitted
        exact ⟨rfl,fun current found => by rw [absent] at found; cases found⟩
      · rename_i current held
        split at admitted
        · cases admitted
        · rename_i fresh
          cases admitted
          exact ⟨rfl,fun other found => by rw [held] at found; cases found; exact fresh⟩
  obtain ⟨moved,fresh⟩ := written
  refine ⟨?_,fun keyed => moved ▸ upsertFence_keyed keyed⟩
  by_cases own : token.deviceId = deviceId
  · subst own
    have follows : ∀ current, findFence progress.1 token.deviceId = some current → Follows current token.fence := by
      intro current found
      have kept := fresh current found
      simp only [FencingToken.stale,not_or,not_lt,not_and,ne_eq,not_not] at kept
      rcases Int.lt_or_eq_of_le kept.1 with less | equal
      · exact .inl less
      · obtain ⟨lease,attempt⟩ := kept.2 equal.symm
        exact .inr ⟨equal,lease,attempt⟩
    rw [moved,findFence_upsert_self]
    simp only [List.filter_cons,decide_true,if_true,List.filter_nil]
    refine ⟨List.pairwise_singleton _ _,fun fence found => ⟨token.fence,rfl,follows fence found⟩,?_,?_⟩
    · intro fence found other member
      rw [List.mem_singleton.mp member]
      exact follows fence found
    · intro other member
      rw [List.mem_singleton.mp member]
      exact ⟨token.fence,rfl,.refl _⟩
  · rw [moved,findFence_upsert_other (Ne.symm own)]
    simp only [List.filter_cons,own,decide_false,Bool.false_eq_true,if_false,List.filter_nil]
    exact .refl _

theorem admitTokens_advanced {tokens : List FencingToken} {progress final : List DeviceFence × List String}
    (admitted : tokens.foldlM admitToken progress = .ok final) :
    Advanced (findFence progress.1 deviceId) (findFence final.1 deviceId) (tokens.filter (·.deviceId = deviceId)) ∧
      ((progress.1.map (·.deviceId)).Nodup → (final.1.map (·.deviceId)).Nodup) := by
  induction tokens generalizing progress with
  | nil =>
    cases admitted
    exact ⟨.refl _,id⟩
  | cons token tokens ih =>
    rw [List.foldlM_cons] at admitted
    cases first : admitToken progress token with
    | error error =>
      rw [first] at admitted
      cases admitted
    | ok next =>
      rw [first] at admitted
      obtain ⟨one,keeps⟩ := @admitToken_advanced deviceId token progress next first
      obtain ⟨rest,kept⟩ := ih admitted
      have joined := one.trans rest
      rw [← List.filter_append] at joined
      exact ⟨joined,kept ∘ keeps⟩

end

section
variable {config : WorkerConfig} {db : WorkerDb} {deviceId : String}

theorem revokeSuperseded_fences (attempts : List String) : (revokeSuperseded db attempts).fences = db.fences := by
  unfold revokeSuperseded
  induction attempts generalizing db with
  | nil => rfl
  | cons attempt attempts ih =>
    rw [List.foldl_cons,ih]
    split <;> rfl

theorem validateFencing_advanced (command : Delivery) :
    Advanced (findFence db.fences deviceId) (findFence (validateFencing config db command).2.fences deviceId)
      ((acceptedBy config db (.validate command)).filter (·.deviceId = deviceId)) ∧
    ((db.fences.map (·.deviceId)).Nodup → ((validateFencing config db command).2.fences.map (·.deviceId)).Nodup) := by
  dsimp only [acceptedBy,validateFencing]
  generalize checkTokens config command = checked
  cases checked with
  | error error => exact ⟨.refl _,id⟩
  | ok _ =>
    cases admitted : admitTokens db.fences command.leaseTokens with
    | error error => exact ⟨.refl _,id⟩
    | ok final =>
      dsimp only
      rw [revokeSuperseded_fences]
      exact admitTokens_advanced admitted

section
variable (keyed : (db.fences.map (·.deviceId)).Nodup)
include keyed

theorem delete_advanced {deletes : DeviceFence → Prop} [DecidablePred deletes]
    (spared : ¬ (findFence db.fences deviceId ≠ none ∧ findFence (Table.delete deletes db.fences) deviceId = none)) :
    Advanced (findFence db.fences deviceId) (findFence (Table.delete deletes db.fences) deviceId) [] := by
  cases found : findFence db.fences deviceId with
  | none =>
    rw [show findFence (Table.delete deletes db.fences) deviceId = none from Table.fetch_delete_none found]
    exact .refl _
  | some fence =>
    cases after : findFence (Table.delete deletes db.fences) deviceId with
    | none => exact absurd ⟨by rw [found]; exact Option.some_ne_none fence,after⟩ spared
    | some other =>
      have member := (Table.mem_delete.mp (Table.fetch_mem after)).1
      have same : other = fence := Table.eq_of_fetch keyed found member (findFence_device after)
      rw [same]
      exact .refl _

theorem delete_keyed (deletes : DeviceFence → Prop) [DecidablePred deletes] :
    ((Table.delete deletes db.fences).map (·.deviceId)).Nodup :=
  keyed.sublist (List.Sublist.map _ List.filter_sublist)

theorem fenceStep_keyed (op : FenceOp) :
    ((fenceStep config op db).fences.map (·.deviceId)).Nodup := by
  cases op with
  | validate command => exact (@validateFencing_advanced config db "" command).2 keyed
  | release command => exact delete_keyed keyed _
  | releaseAttempt attemptId =>
    dsimp only [fenceStep,releaseAttemptFencing]
    split
    · exact keyed
    · exact delete_keyed keyed _
  | prune => exact delete_keyed keyed _
  | jobs rows => exact keyed

theorem fenceStep_advanced {op : FenceOp} (kept : ¬ Clears config deviceId db op) :
    Advanced (findFence db.fences deviceId) (findFence (fenceStep config op db).fences deviceId)
      ((acceptedBy config db op).filter (·.deviceId = deviceId)) := by
  cases op with
  | validate command => exact (validateFencing_advanced command).1
  | release command => exact delete_advanced keyed kept
  | releaseAttempt attemptId =>
    unfold Clears at kept
    dsimp only [fenceStep,releaseAttemptFencing] at kept ⊢
    split
    · exact .refl _
    · rename_i named
      rw [if_neg named] at kept
      exact delete_advanced keyed kept
  | prune => exact delete_advanced keyed kept
  | jobs rows => exact .refl _

theorem run_advanced (ops : List FenceOp)
    (kept : Runs.Along (fun db op => fenceStep config op db) (fun db op => ¬ Clears config deviceId db op) db ops) :
    Advanced (findFence db.fences deviceId) (findFence (Runs.exec (fenceStep config) db ops).fences deviceId)
      ((acceptedTokens config db ops).filter (·.deviceId = deviceId)) := by
  induction ops generalizing db with
  | nil => exact .refl _
  | cons op ops ih =>
    have joined := (fenceStep_advanced keyed kept.1).trans (ih (fenceStep_keyed keyed op) kept.2)
    rw [← List.filter_append] at joined
    exact joined

end

theorem Clears.cause {op : FenceOp} (clears : Clears config deviceId db op) :
    ∃ fence, findFence db.fences deviceId = some fence ∧
      ((∃ command, op = .release command ∧ ∃ token ∈ command.leaseTokens, token.fence = fence) ∨
        op = .releaseAttempt fence.attemptId ∨
        op = .prune ∧ ¬ ∃ job ∈ db.jobs, job.status = .running ∧ job.attemptId = fence.attemptId) := by
  obtain ⟨standing,gone⟩ := clears
  obtain ⟨fence,found⟩ := Option.ne_none_iff_exists'.mp standing
  refine ⟨fence,found,?_⟩
  have deleted : ∀ (deletes : DeviceFence → Prop) [DecidablePred deletes],
      findFence (Table.delete deletes db.fences) deviceId = none → deletes fence := by
    intro deletes _ absent
    by_contra kept
    rw [show findFence (Table.delete deletes db.fences) deviceId = some fence from Table.fetch_delete_some found kept] at absent
    cases absent
  cases op with
  | validate command =>
    obtain ⟨next,held,_⟩ := (@validateFencing_advanced config db deviceId command).1.onward fence found
    rw [show findFence (validateFencing config db command).2.fences deviceId = none from gone] at held
    cases held
  | release command => exact .inl ⟨command,rfl,deleted _ gone⟩
  | releaseAttempt attemptId =>
    dsimp only [fenceStep,releaseAttemptFencing] at gone
    split at gone
    · rw [found] at gone
      cases gone
    · have own : fence.attemptId = attemptId := deleted _ gone
      exact .inr (.inl (own ▸ rfl))
  | prune => exact .inr (.inr ⟨rfl,deleted _ gone⟩)
  | jobs rows =>
    rw [show findFence db.fences deviceId = none from gone] at found
    cases found

end

/-- The tokens accepted for a device while its fence is not deleted never go down in generation, and two of one generation are the
same lease of the same attempt; a fence is deleted only for its own token, its own attempt or by a restart that finds no running
job of its attempt. -/
theorem standing_fence_orders_tokens (config : WorkerConfig) (deviceId : String) (earlier later : List FenceOp)
    (kept : Runs.Along (fun db op => fenceStep config op db) (fun db op => ¬ Clears config deviceId db op)
      (Runs.exec (fenceStep config) {} earlier) later) :
    (((acceptedTokens config (Runs.exec (fenceStep config) {} earlier) later).filter (·.deviceId = deviceId)).Pairwise
      fun first second => first.generation ≤ second.generation ∧
        (first.generation = second.generation → first.leaseId = second.leaseId ∧ first.attemptId = second.attemptId)) ∧
    ∀ db op, Clears config deviceId db op → ∃ fence, findFence db.fences deviceId = some fence ∧
      ((∃ command, op = .release command ∧ ∃ token ∈ command.leaseTokens, token.fence = fence) ∨
        op = .releaseAttempt fence.attemptId ∨
        op = .prune ∧ ¬ ∃ job ∈ db.jobs, job.status = .running ∧ job.attemptId = fence.attemptId) := by
  have keyed : ((Runs.exec (fenceStep config) {} earlier).fences.map (·.deviceId)).Nodup := by
    have start : ((({} : WorkerDb).fences).map (·.deviceId)).Nodup := List.nodup_nil
    have step : ∀ db op, (db.fences.map (·.deviceId)).Nodup → ((fenceStep config op db).fences.map (·.deviceId)).Nodup :=
      fun db op keyed => fenceStep_keyed keyed op
    exact Runs.exec_invariant step start earlier
  refine ⟨(run_advanced keyed later kept).ordered.imp ?_,fun db op clears => clears.cause⟩
  intro first second follows
  rcases follows with less | ⟨same,lease,attempt⟩
  · exact ⟨Int.le_of_lt less,fun equal => absurd equal (Int.ne_of_lt less)⟩
  · exact ⟨Int.le_of_eq same,fun _ => ⟨lease,attempt⟩⟩

def fencedAction (id lease attempt : String) (generation : Int) : Delivery :=
  {id := id, kind := .deviceAction, devices := ["w:ABC"], leaseTokens := [⟨"w:ABC",lease,attempt,generation⟩]}

theorem standing_fence_orders_tokens_redelivered :
    (acceptedTokens ⟨"w",true⟩ {} [.validate (fencedAction "c1" "claim-1" "op1" 1),.validate (fencedAction "c2" "claim-2" "op2" 2),
      .validate (fencedAction "c1" "claim-1" "op1" 1)]).map (·.generation) = [1,2] ∧
    ((acceptedTokens ⟨"w",true⟩ {} [.validate (fencedAction "c1" "claim-1" "op1" 1),.validate (fencedAction "c2" "claim-2" "op2" 2),
      .validate (fencedAction "c1" "claim-1" "op1" 1)]).filter (·.deviceId = "w:ABC")).Pairwise
      (fun first second => first.generation ≤ second.generation ∧
        (first.generation = second.generation → first.leaseId = second.leaseId ∧ first.attemptId = second.attemptId)) :=
  ⟨by decide +kernel,(standing_fence_orders_tokens ⟨"w",true⟩ "w:ABC" [] _ (by decide +kernel)).1⟩

/-- The newer operation finishes, its fence is released, and the older token is accepted after it. -/
theorem released_fence_forgets_generation :
    ¬ ∀ (config : WorkerConfig) (deviceId : String) (ops : List FenceOp),
      ((acceptedTokens config {} ops).filter (·.deviceId = deviceId)).Pairwise fun first second =>
        first.generation ≤ second.generation ∧
        (first.generation = second.generation → first.leaseId = second.leaseId ∧ first.attemptId = second.attemptId) := by
  intro always
  have ordered := always ⟨"w",true⟩ "w:ABC" [.validate (fencedAction "c2" "claim-2" "op2" 2),
    .release (fencedAction "c2" "claim-2" "op2" 2),.validate (fencedAction "c1" "claim-1" "op1" 1)]
  revert ordered
  decide +kernel

end GmsRemoteTest.WorkerAgent
