import GmsRemoteTest.WorkerNative.UsbipAttach

/-! Runs of the native `attach`: which busids it attached and detached again, which ports it touches, and when a failed run leaves nothing
attached. -/
namespace GmsRemoteTest.WorkerUsbip
open Calls

abbrev Trace : Type := List (Calls.Event Call Reply)

def attachedBusid : Calls.Event Call Reply → Option String
  | ⟨.attach _ busid,output⟩ => if (output : CommandOutput).code = 0 then some busid else none
  | _ => none

def newly (trace : Trace) : List String := trace.filterMap attachedBusid

def listing : Calls.Event Call Reply → Option CommandOutput
  | ⟨.port,output⟩ => some output
  | _ => none

def listings (trace : Trace) : List CommandOutput := trace.filterMap listing

def full (host : String) (busids : List String) (output : CommandOutput) : Bool :=
  output.code = 0 && busids.all fun busid => listed (portBlocks output.stdout.toList) host busid

variable {host busid : String}

@[simp] theorem newly_append (first last : Trace) : newly (first ++ last) = newly first ++ newly last := List.filterMap_append ..

@[simp] theorem listings_append (first last : Trace) : listings (first ++ last) = listings first ++ listings last := List.filterMap_append ..

theorem newly_attach (output : CommandOutput) (trace : Trace) :
    newly (⟨.attach host busid,output⟩ :: trace) = if output.code = 0 then busid :: newly trace else newly trace := by
  unfold newly
  by_cases zero : output.code = 0
  · rw [if_pos zero,List.filterMap_cons_some (by exact if_pos zero)]
  · rw [if_neg zero,List.filterMap_cons_none (by exact if_neg zero)]

def Attempted (host busid : String) (trace : Trace) : Prop := ∃ output, ⟨.attach host busid,output⟩ ∈ trace

structure Tried (host busid : String) (state : Attaching) (trace : Trace) (final : Attaching) : Prop where
  calls : ∀ event ∈ trace, event.1 = .attach host busid ∨ event.1 = .sleep
  already : final.alreadyAttached = state.alreadyAttached
  outcome : (newly trace = [busid] ∧ final.attached = state.attached ++ [busid] ∧ final.newlyAttached = state.newlyAttached ++ [busid]) ∨
    (newly trace = [] ∧ final.attached = state.attached ∧ final.newlyAttached = state.newlyAttached ∧ final.errors ≠ [])
  errors : ∀ entry ∈ final.errors, entry.1 = busid ∨ entry ∈ state.errors

theorem Failures.insert_ne_nil (key : String) (failure : StepFailure) (failures : Failures) : failures.insert key failure ≠ [] := by
  cases failures with
  | nil => exact List.cons_ne_nil _ _
  | cons entry rest =>
    unfold insert
    split
    · exact List.cons_ne_nil _ _
    · split
      · exact List.cons_ne_nil _ _
      · exact List.cons_ne_nil _ _

theorem Failures.mem_insert {key : String} {failure : StepFailure} {failures : Failures} {entry : String × StepFailure}
    (member : entry ∈ failures.insert key failure) : entry.1 = key ∨ entry ∈ failures := by
  induction failures with
  | nil => exact .inl (congrArg Prod.fst (List.mem_singleton.mp member))
  | cons first rest ih =>
    unfold insert at member
    split at member
    · obtain rfl | member := List.mem_cons.mp member
      · exact .inl rfl
      · exact .inr (List.mem_cons_of_mem _ member)
    · split at member
      · obtain rfl | member := List.mem_cons.mp member
        · exact .inl rfl
        · exact .inr member
      · obtain rfl | member := List.mem_cons.mp member
        · exact .inr List.mem_cons_self
        · exact (ih member).imp_right (List.mem_cons_of_mem _)

section
variable {state : Attaching} {output : CommandOutput}

theorem Tried.attached (zero : output.code = 0) : Tried host busid state [⟨.attach host busid,output⟩]
    {state with attached := state.attached ++ [busid],newlyAttached := state.newlyAttached ++ [busid]} := by
  refine ⟨fun event member => .inl ?_,rfl,.inl ⟨?_,rfl,rfl⟩,fun entry member => .inr member⟩
  · rw [List.mem_singleton.mp member]
  · rw [newly_attach,if_pos zero]
    rfl

theorem Tried.failed (failed : ¬output.code = 0) (error : StepFailure) : Tried host busid state [⟨.attach host busid,output⟩]
    {state with errors := Failures.insert busid error state.errors} := by
  refine ⟨fun event member => .inl ?_,rfl,.inr ⟨?_,rfl,rfl,Failures.insert_ne_nil _ _ _⟩,fun entry member => Failures.mem_insert member⟩
  · rw [List.mem_singleton.mp member]
  · rw [newly_attach,if_neg failed]
    rfl

end

theorem attempts_runs {left : Nat} {state final : Attaching} {trace : Trace} (runs : (attempts host busid (left + 1) state).Runs trace final) :
    Tried host busid state trace final ∧ Attempted host busid trace := by
  induction left generalizing state trace with
  | zero =>
    obtain ⟨output,rest,rfl,answered⟩ := Program.runs_ask.mp runs
    refine ⟨?_,output,List.mem_cons_self⟩
    split at answered
    · rename_i zero
      obtain ⟨rfl,rfl⟩ := Program.runs_done.mp answered
      exact .attached zero
    · rename_i failed
      dsimp only at answered
      rw [if_pos (.inr rfl)] at answered
      obtain ⟨rfl,rfl⟩ := Program.runs_done.mp answered
      exact .failed failed _
  | succ left ih =>
    obtain ⟨output,rest,rfl,answered⟩ := Program.runs_ask.mp runs
    refine ⟨?_,output,List.mem_cons_self⟩
    split at answered
    · rename_i zero
      obtain ⟨rfl,rfl⟩ := Program.runs_done.mp answered
      exact .attached zero
    · rename_i failed
      dsimp only at answered
      split at answered
      · obtain ⟨rfl,rfl⟩ := Program.runs_done.mp answered
        exact .failed failed _
      · obtain ⟨slept,later,rfl,again⟩ := Program.runs_ask.mp answered
        obtain ⟨tried,_⟩ := ih again
        have same : newly (⟨.attach host busid,output⟩ :: ⟨.sleep,slept⟩ :: later) = newly later := by
          rw [newly_attach,if_neg failed]
          rfl
        refine ⟨fun event member => ?_,tried.already,?_,fun entry member => ?_⟩
        · obtain rfl | member := List.mem_cons.mp member
          · exact .inl rfl
          · obtain rfl | member := List.mem_cons.mp member
            · exact .inr rfl
            · exact tried.calls event member
        · rw [same]
          exact tried.outcome
        · obtain same | held := tried.errors entry member
          · exact .inl same
          · exact Failures.mem_insert held

structure Looped (host : String) (blocks : List (List Char × List Char)) (selected : List String) (state : Attaching) (trace : Trace)
    (final : Attaching) : Prop where
  calls : ∀ event ∈ trace, (∃ busid ∈ selected, listed blocks host busid = false ∧ event.1 = .attach host busid) ∨ event.1 = .sleep
  newlyAttached : final.newlyAttached = state.newlyAttached ++ newly trace
  keeps : ∀ busid, busid ∈ state.attached ∨ busid ∈ newly trace → busid ∈ final.attached
  origin : ∀ busid ∈ final.attached, busid ∈ state.attached ∨ busid ∈ selected ∧ (busid ∈ newly trace ∨ listed blocks host busid = true)
  outcome : (final.errors = [] ∧ ∀ busid ∈ selected, busid ∈ final.attached) ∨
    (final.errors ≠ [] ∧ ∃ busid, Attempted host busid trace ∧ busid ∉ final.attached)

theorem attachLoop_runs {blocks : List (List Char × List Char)} {selected : List String} {state final : Attaching} {trace : Trace}
    (clean : state.errors = []) (runs : (attachLoop host blocks selected state).Runs trace final) :
    Looped host blocks selected state trace final := by
  induction selected generalizing state trace with
  | nil =>
    obtain ⟨rfl,rfl⟩ := Program.runs_done.mp runs
    exact ⟨fun _ member => (List.not_mem_nil member).elim,(List.append_nil _).symm,fun _ held => held.resolve_right List.not_mem_nil,
      fun _ member => .inl member,.inl ⟨clean,fun _ member => (List.not_mem_nil member).elim⟩⟩
  | cons busid selected ih =>
    unfold attachLoop at runs
    split at runs
    · rename_i present
      have rest := ih (by exact clean) runs
      refine ⟨fun event member => ?_,rest.newlyAttached,fun other held => rest.keeps other (held.imp_left fun inside => List.mem_append_left _ inside),
        fun other member => ?_,?_⟩
      · exact (rest.calls event member).imp_left fun ⟨other,inside,free⟩ => ⟨other,List.mem_cons_of_mem _ inside,free⟩
      · obtain held | ⟨inside,origin⟩ := rest.origin other member
        · obtain held | same := List.mem_append.mp held
          · exact .inl held
          · rw [List.mem_singleton.mp same]
            exact .inr ⟨List.mem_cons_self,.inr present⟩
        · exact .inr ⟨List.mem_cons_of_mem _ inside,origin⟩
      · refine rest.outcome.imp_left fun ⟨none_,all⟩ => ⟨none_,fun other member => ?_⟩
        obtain rfl | member := List.mem_cons.mp member
        · exact rest.keeps _ (.inl (List.mem_append_right _ List.mem_cons_self))
        · exact all other member
    · rename_i absent
      obtain ⟨first,middle,last,rfl,tried_,next⟩ := Program.runs_bind.mp runs
      obtain ⟨tried,attempted⟩ := attempts_runs tried_
      have single : ∀ other, other ∈ newly first → other = busid ∧ busid ∈ middle.attached := by
        intro other member
        obtain ⟨one,attached,_⟩ | ⟨none_,_⟩ := tried.outcome
        · rw [one,List.mem_singleton] at member
          exact ⟨member,by rw [attached]; exact List.mem_append_right _ List.mem_cons_self⟩
        · rw [none_] at member
          cases member
      have grown : ∀ other, other ∈ state.attached → other ∈ middle.attached := by
        intro other member
        obtain ⟨_,attached,_⟩ | ⟨_,attached,_⟩ := tried.outcome
        · rw [attached]
          exact List.mem_append_left _ member
        · rwa [attached]
      have back : ∀ other ∈ middle.attached, other ∈ state.attached ∨ other = busid ∧ other ∈ newly first := by
        intro other member
        obtain ⟨one,attached,_⟩ | ⟨_,attached,_⟩ := tried.outcome
        · rw [attached] at member
          obtain member | same := List.mem_append.mp member
          · exact .inl member
          · rw [one]
            exact .inr ⟨List.mem_singleton.mp same,same⟩
        · rw [attached] at member
          exact .inl member
      have new : middle.newlyAttached = state.newlyAttached ++ newly first := by
        obtain ⟨one,_,grown⟩ | ⟨none_,_,same,_⟩ := tried.outcome
        · rw [one,grown]
        · rw [none_,same,List.append_nil]
      have calls : ∀ event ∈ first, (∃ other ∈ busid :: selected, listed blocks host other = false ∧ event.1 = .attach host other) ∨ event.1 = .sleep :=
        fun event member => (tried.calls event member).imp_left fun same => ⟨busid,List.mem_cons_self,by simpa using absent,same⟩
      split at next
      · rename_i held
        have none_ : Failures.remove busid middle.errors = [] := by
          refine List.filter_eq_nil_iff.mpr fun entry member => ?_
          obtain same | old := tried.errors entry member
          · simpa using same
          · rw [clean] at old
            cases old
        have rest := ih none_ next
        refine ⟨fun event member => ?_,?_,fun other held_ => ?_,fun other member => ?_,?_⟩
        · obtain member | member := List.mem_append.mp member
          · exact calls event member
          · exact (rest.calls event member).imp_left fun ⟨other,inside,free⟩ => ⟨other,List.mem_cons_of_mem _ inside,free⟩
        · rw [rest.newlyAttached,newly_append,← List.append_assoc]
          exact congrArg (· ++ _) new
        · rw [newly_append,List.mem_append] at held_
          obtain old | now | later := held_
          · exact rest.keeps other (.inl (grown other old))
          · obtain ⟨rfl,inside⟩ := single other now
            exact rest.keeps _ (.inl inside)
          · exact rest.keeps other (.inr later)
        · rw [newly_append,List.mem_append]
          obtain old | ⟨inside,origin⟩ := rest.origin other member
          · obtain old | ⟨rfl,now⟩ := back other old
            · exact .inl old
            · exact .inr ⟨List.mem_cons_self,.inl (.inl now)⟩
          · exact .inr ⟨List.mem_cons_of_mem _ inside,origin.imp_left .inr⟩
        · refine rest.outcome.imp (fun ⟨none_,all⟩ => ⟨none_,fun other member => ?_⟩) fun ⟨some_,other,⟨output,tried'⟩,free⟩ =>
            ⟨some_,other,⟨output,List.mem_append_right _ tried'⟩,free⟩
          obtain rfl | member := List.mem_cons.mp member
          · exact rest.keeps _ (.inl held)
          · exact all other member
      · rename_i free
        obtain ⟨rfl,rfl⟩ := Program.runs_done.mp next
        rw [List.append_nil]
        have failed : newly first = [] ∧ final.errors ≠ [] := by
          obtain ⟨_,attached,_⟩ | ⟨none_,_,_,some_⟩ := tried.outcome
          · rw [attached] at free
            exact absurd (List.mem_append_right _ List.mem_cons_self) free
          · exact ⟨none_,some_⟩
        refine ⟨calls,new,fun other held => ?_,fun other member => ?_,.inr ⟨failed.2,busid,attempted,free⟩⟩
        · obtain old | now := held
          · exact grown other old
          · rw [failed.1] at now
            cases now
        · obtain old | ⟨rfl,now⟩ := back other member
          · exact .inl old
          · exact .inr ⟨List.mem_cons_self,.inl now⟩

def Names (host busid : String) (output : CommandOutput) (port : String) : Prop :=
  ∃ number block, (number,block) ∈ portBlocks output.stdout.toList ∧ port = String.ofList number ∧ portMatches block host busid = true

structure RolledBack (host : String) (newlyAttached : List String) (blocks : List (List Char × List Char)) (state : RollingBack) (trace : Trace)
    (final : RollingBack) : Prop where
  calls : ∀ event ∈ trace, ∃ number block busid, (number,block) ∈ blocks ∧ busid ∈ newlyAttached ∧ portMatches block host busid = true ∧
    event.1 = .detach (String.ofList number)
  grows : state.errors ≠ [] → final.errors ≠ []
  rolledBack : final.errors = [] → ∀ busid ∈ final.rolledBack, busid ∈ state.rolledBack ∨ ∃ number block output, (number,block) ∈ blocks ∧
    portMatches block host busid = true ∧ ⟨.detach (String.ofList number),output⟩ ∈ trace ∧ (output : CommandOutput).code = 0

theorem rollbackLoop_runs {newlyAttached : List String} {blocks : List (List Char × List Char)} {state final : RollingBack} {trace : Trace}
    (runs : (rollbackLoop host newlyAttached blocks state).Runs trace final) : RolledBack host newlyAttached blocks state trace final := by
  induction blocks generalizing state trace with
  | nil =>
    obtain ⟨rfl,rfl⟩ := Program.runs_done.mp runs
    exact ⟨fun _ member => (List.not_mem_nil member).elim,id,fun _ _ member => .inl member⟩
  | cons entry blocks ih =>
    obtain ⟨number,block⟩ := entry
    unfold rollbackLoop at runs
    dsimp only at runs
    split at runs
    · have rest := ih runs
      refine ⟨fun event member => ?_,rest.grows,fun clean busid member => ?_⟩
      · obtain ⟨other,lines,busid,inside,held⟩ := rest.calls event member
        exact ⟨other,lines,busid,List.mem_cons_of_mem _ inside,held⟩
      · refine (rest.rolledBack clean busid member).imp_right ?_
        rintro ⟨other,lines,output,inside,held⟩
        exact ⟨other,lines,output,List.mem_cons_of_mem _ inside,held⟩
    · rename_i some_
      obtain ⟨output,later,rfl,answered⟩ := Program.runs_ask.mp runs
      obtain ⟨busid,inside⟩ := List.exists_mem_of_ne_nil _ some_
      obtain ⟨new,matches_⟩ := List.mem_filter.mp inside
      have first : ∃ number' block' busid, (number',block') ∈ (number,block) :: blocks ∧ busid ∈ newlyAttached ∧
          portMatches block' host busid = true ∧ Call.detach (String.ofList number) = .detach (String.ofList number') :=
        ⟨number,block,busid,List.mem_cons_self,new,matches_,rfl⟩
      have calls : ∀ {state' : RollingBack}, RolledBack host newlyAttached blocks state' later final →
          ∀ event ∈ (⟨.detach (String.ofList number),output⟩ :: later : Trace), ∃ number' block' busid, (number',block') ∈ (number,block) :: blocks ∧
            busid ∈ newlyAttached ∧ portMatches block' host busid = true ∧ event.1 = .detach (String.ofList number') := by
        intro state' rest event member
        obtain rfl | member := List.mem_cons.mp member
        · exact first
        · obtain ⟨other,lines,busid,inside,held⟩ := rest.calls event member
          exact ⟨other,lines,busid,List.mem_cons_of_mem _ inside,held⟩
      have carry : ∀ {busid : String}, (∃ number' block' output', (number',block') ∈ blocks ∧ portMatches block' host busid = true ∧
          ⟨.detach (String.ofList number'),output'⟩ ∈ later ∧ (output' : CommandOutput).code = 0) →
          ∃ number' block' output', (number',block') ∈ (number,block) :: blocks ∧ portMatches block' host busid = true ∧
            ⟨.detach (String.ofList number'),output'⟩ ∈ (⟨.detach (String.ofList number),output⟩ :: later : Trace) ∧
              (output' : CommandOutput).code = 0 := by
        rintro busid ⟨other,lines,output',inside,held,event,zero⟩
        exact ⟨other,lines,output',List.mem_cons_of_mem _ inside,held,List.mem_cons_of_mem _ event,zero⟩
      split at answered
      · have rest := ih answered
        have failed := rest.grows (Failures.insert_ne_nil _ _ _)
        exact ⟨calls rest,fun _ => failed,fun clean => absurd clean failed⟩
      · rename_i zero
        have rest := ih answered
        refine ⟨calls rest,rest.grows,fun clean busid member => ?_⟩
        obtain held | found := rest.rolledBack clean busid member
        · obtain held | held := List.mem_append.mp held
          · exact .inl held
          · exact .inr ⟨number,block,output,List.mem_cons_self,(List.mem_filter.mp held).2,List.mem_cons_self,
              not_not.mp zero⟩
        · exact .inr (carry found)

theorem rollBack_runs {newlyAttached : List String} {failures : Failures} {trace : Trace} (runs : (rollBack host newlyAttached).Runs trace failures) :
    ∃ (output : CommandOutput) (rest : Trace), trace = ⟨.port,output⟩ :: rest ∧
      (∀ event ∈ rest, ∃ busid ∈ newlyAttached, ∃ port, Names host busid output port ∧ event.1 = .detach port) ∧
      (failures = [] → ∀ busid ∈ newlyAttached, ∃ port reply, Names host busid output port ∧ ⟨.detach port,reply⟩ ∈ rest ∧
        (reply : CommandOutput).code = 0) := by
  obtain ⟨output,rest,rfl,answered⟩ := Program.runs_ask.mp runs
  refine ⟨output,rest,rfl,?_⟩
  split at answered
  · obtain ⟨first,final,last,rfl,looped,ended⟩ := Program.runs_bind.mp answered
    obtain ⟨rfl,same⟩ := Program.runs_done.mp ended
    have rolled := rollbackLoop_runs looped
    rw [List.append_nil]
    refine ⟨fun event member => ?_,fun clean busid new => ?_⟩
    · obtain ⟨number,block,busid,inside,new,held,call⟩ := rolled.calls event member
      exact ⟨busid,new,_,⟨number,block,inside,rfl,held⟩,call⟩
    · split at same
      · rename_i none_
        have done : busid ∈ final.rolledBack := by
          by_contra free
          have member : busid ∈ newlyAttached.filter fun busid => busid ∉ final.rolledBack :=
            List.mem_filter.mpr ⟨new,decide_eq_true free⟩
          rw [none_] at member
          cases member
        obtain held | ⟨number,block,reply,inside,held,event,zero⟩ := rolled.rolledBack (same.symm.trans clean) busid done
        · cases held
        · exact ⟨_,reply,⟨number,block,inside,rfl,held⟩,event,zero⟩
      · exact absurd (same.symm.trans clean) (Failures.insert_ne_nil _ _ _)
  · obtain ⟨rfl,rfl⟩ := Program.runs_done.mp answered
    exact ⟨fun _ member => (List.not_mem_nil member).elim,nofun⟩

def Passive (trace : Trace) : Prop := ∀ event ∈ trace, event.1 = .port ∨ event.1 = .sleep ∨ ∃ details, event.1 = .probeDevices details

theorem Passive.newly {trace : Trace} (passive : Passive trace) : newly trace = [] := by
  refine List.filterMap_eq_nil_iff.mpr fun event member => ?_
  obtain ⟨call,reply⟩ := event
  obtain same | same | ⟨_,same⟩ := passive _ member
  all_goals
    dsimp only at same
    subst same
    rfl

theorem listings_port (output : CommandOutput) (trace : Trace) : listings (⟨.port,output⟩ :: trace) = output :: listings trace := rfl

theorem full_eq {attached : List String} {output : CommandOutput} (zero : output.code = 0) :
    full host attached output = true ↔ attached.filter (fun busid => ¬listed (portBlocks output.stdout.toList) host busid) = [] := by
  unfold full
  rw [decide_eq_true zero,Bool.true_and,List.all_eq_true,List.filter_eq_nil_iff]
  exact forall₂_congr fun busid _ => by simp

structure Round (host : String) (attached : List String) (left : Nat) (trace : Trace) (result : Except NativeError (List String)) : Prop where
  passive : Passive trace
  few : (listings trace).length ≤ left
  outcome : (result = .ok [] ∧ ∃ before last, listings trace = before ++ [last] ∧ (∀ output ∈ before, full host attached output = false) ∧
      full host attached last = true) ∨ (result ≠ .ok [] ∧ ∀ output ∈ listings trace, full host attached output = false)

theorem verifyRound_runs {attached : List String} {left : Nat} {delayed : Bool} {missing : List String} (some_ : missing ≠ [])
    {result : Except NativeError (List String)} {trace : Trace} (runs : (verifyRound host attached left delayed missing).Runs trace result) :
    Round host attached left trace result := by
  induction left generalizing delayed missing trace with
  | zero =>
    obtain ⟨rfl,rfl⟩ := Program.runs_done.mp runs
    exact ⟨fun _ member => (List.not_mem_nil member).elim,le_rfl,.inr ⟨fun same => some_ (Except.ok.inj same),
      fun _ member => (List.not_mem_nil member).elim⟩⟩
  | succ left ih =>
    have query : ∀ {trace : Trace}, Program.Runs (port fun ports =>
        if ports.code ≠ 0 then .done (.error (portQueryError ports "post_attach_verification"))
        else
          let missing := attached.filter fun busid => ¬listed (portBlocks ports.stdout.toList) host busid
          if missing = [] then .done (.ok []) else verifyRound host attached left true missing) trace result →
        Round host attached (left + 1) trace result := by
      intro trace asked
      obtain ⟨output,rest,rfl,answered⟩ := Program.runs_ask.mp asked
      have single : Passive [⟨.port,output⟩] := fun event member => .inl (congrArg Sigma.fst (List.mem_singleton.mp member))
      split at answered
      · rename_i failed
        obtain ⟨rfl,rfl⟩ := Program.runs_done.mp answered
        have part : full host attached output = false := by
          unfold full
          rw [decide_eq_false failed,Bool.false_and]
        exact ⟨single,Nat.succ_le_succ (Nat.zero_le _),.inr ⟨nofun,fun other member => List.mem_singleton.mp member ▸ part⟩⟩
      · rename_i zero
        dsimp only at answered
        split at answered
        · rename_i none_
          obtain ⟨rfl,rfl⟩ := Program.runs_done.mp answered
          exact ⟨single,Nat.succ_le_succ (Nat.zero_le _),.inl ⟨rfl,[],output,rfl,fun _ member => (List.not_mem_nil member).elim,
            (full_eq (not_not.mp zero)).mpr none_⟩⟩
        · rename_i lacking
          have part : full host attached output = false := by
            rw [← Bool.not_eq_true]
            exact mt (full_eq (not_not.mp zero)).mp lacking
          obtain ⟨passive,few,outcome⟩ := ih lacking answered
          refine ⟨fun event member => ?_,Nat.succ_le_succ few,?_⟩
          · obtain rfl | member := List.mem_cons.mp member
            · exact .inl rfl
            · exact passive event member
          · refine outcome.imp ?_ ?_
            · rintro ⟨ok,before,last,shape,partial_,whole⟩
              refine ⟨ok,output :: before,last,by rw [listings_port,shape]; rfl,fun other member => ?_,whole⟩
              obtain rfl | member := List.mem_cons.mp member
              · exact part
              · exact partial_ other member
            · rintro ⟨bad,partial_⟩
              refine ⟨bad,fun other member => ?_⟩
              obtain rfl | member := List.mem_cons.mp member
              · exact part
              · exact partial_ other member
    unfold verifyRound at runs
    dsimp only at runs
    split at runs
    · obtain ⟨slept,rest,rfl,asked⟩ := Program.runs_ask.mp runs
      obtain ⟨passive,few,outcome⟩ := query asked
      refine ⟨fun event member => ?_,few,outcome⟩
      obtain rfl | member := List.mem_cons.mp member
      · exact .inr (.inl rfl)
      · exact passive event member
    · exact query runs

/-- A verification that succeeds ends with a full listing, which is its only one from the second on; one that fails has none. -/
structure Verified (host : String) (attached : List String) (index : Nat) (trace : Trace) (result : Except NativeError Unit) : Prop where
  passive : Passive trace
  few : index ≠ 0 → (listings trace).length ≤ 1
  code : ∀ error, result = .error error → error.code ≠ "USBIP_ROLLBACK_FAILED"
  outcome : (result = .ok () ∧ ∃ before last, listings trace = before ++ [last] ∧ (∀ output ∈ before, full host attached output = false) ∧
      full host attached last = true) ∨ ((∃ error, result = .error error) ∧ ∀ output ∈ listings trace, full host attached output = false)

theorem verifyRound_code {attached : List String} {left : Nat} {delayed : Bool} {missing : List String} {error : NativeError} {trace : Trace}
    (runs : (verifyRound host attached left delayed missing).Runs trace (.error error)) : error.code = "USBIP_PORT_QUERY_FAILED" := by
  induction left generalizing delayed missing trace with
  | zero => cases (Program.runs_done.mp runs).2
  | succ left ih =>
    have query : ∀ {trace : Trace}, Program.Runs (port fun ports =>
        if ports.code ≠ 0 then .done (.error (portQueryError ports "post_attach_verification"))
        else
          let missing := attached.filter fun busid => ¬listed (portBlocks ports.stdout.toList) host busid
          if missing = [] then .done (.ok []) else verifyRound host attached left true missing) trace (.error error) →
        error.code = "USBIP_PORT_QUERY_FAILED" := by
      intro trace asked
      obtain ⟨output,rest,rfl,answered⟩ := Program.runs_ask.mp asked
      split at answered
      · cases (Program.runs_done.mp answered).2
        rfl
      · dsimp only at answered
        split at answered
        · cases (Program.runs_done.mp answered).2
        · exact ih answered
    unfold verifyRound at runs
    dsimp only at runs
    split at runs
    · obtain ⟨slept,rest,rfl,asked⟩ := Program.runs_ask.mp runs
      exact query asked
    · exact query runs

theorem verification_runs {attached : List String} (some_ : attached ≠ []) {index : Nat} {result : Except NativeError Unit} {trace : Trace}
    (runs : (verification host attached index).Runs trace result) : Verified host attached index trace result := by
  unfold verification at runs
  obtain ⟨error,failed,rfl⟩ | ⟨first,missing,last,rfl,rounded,ended⟩ := Program.runs_andThen.mp runs
  · obtain ⟨passive,few,outcome⟩ := verifyRound_runs some_ failed
    refine ⟨passive,fun later => by rwa [if_neg later] at few,fun other same => ?_,.inr ⟨⟨_,rfl⟩,?_⟩⟩
    · cases same
      rw [verifyRound_code failed]
      decide
    · obtain ⟨wrong,_⟩ | ⟨_,partial_⟩ := outcome
      · cases wrong
      · exact partial_
  · obtain ⟨passive,few,outcome⟩ := verifyRound_runs some_ rounded
    obtain ⟨rfl,rfl⟩ := Program.runs_done.mp ended
    rw [List.append_nil]
    refine ⟨passive,fun later => by rwa [if_neg later] at few,fun other same => ?_,?_⟩
    · split at same
      · cases same
      · cases same
        show "USBIP_ATTACH_UNSTABLE" ≠ _
        decide
    · obtain ⟨ok,found⟩ | ⟨bad,partial_⟩ := outcome
      · cases ok
        exact .inl ⟨rfl,found⟩
      · refine .inr ⟨?_,partial_⟩
        rw [if_neg fun none_ => bad (congrArg _ none_)]
        exact ⟨_,rfl⟩

end GmsRemoteTest.WorkerUsbip
