import GmsRemoteTest.WorkerNative.UsbipRollback

/-! The exits of the native `attach`, and when a failed one has detached again what it attached. -/
namespace GmsRemoteTest.WorkerUsbip
open Calls

variable {host busid : String} {payload : UsbipPayload} {selected : List String}

/-- After a busid was attached, a listing named a port for it. -/
def Listed (host busid port : String) (trace : Trace) : Prop :=
  ∃ before output after, trace = before ++ ⟨.port,output⟩ :: after ∧ busid ∈ newly before ∧ Names host busid output port

def Released (host busid : String) (trace : Trace) : Prop :=
  ∃ first port reply last, trace = first ++ ⟨.detach port,reply⟩ :: last ∧ Listed host busid port first ∧ (reply : CommandOutput).code = 0

/-- Only ports that were listed for a new busid are detached. -/
def Careful (host : String) (trace : Trace) : Prop :=
  ∀ first port reply last, trace = first ++ ⟨.detach port,reply⟩ :: last → ∃ busid, Listed host busid port first

/-- Two listings, one after the other, have every selected busid. -/
def ListedTwice (host : String) (selected : List String) (trace : Trace) : Prop :=
  ∃ first second, [first,second] <:+: listings trace ∧ full host selected first = true ∧ full host selected second = true

/-- A busid was tried, and never attached. -/
def Refused (host : String) (trace : Trace) : Prop := ∃ busid, Attempted host busid trace ∧ busid ∉ newly trace

/-- What an attachment owes. -/
structure Safe (host : String) (selected : List String) (trace : Trace) (result : Except NativeError OperationResult) : Prop where
  released : ∀ error, result = .error error → error.code = "USBIP_ROLLBACK_FAILED" ∨ ∀ busid ∈ newly trace, Released host busid trace
  careful : Careful host trace
  lasting : ∀ value, result = .ok value → ListedTwice host selected trace

theorem Passive.detached {trace : Trace} (passive : Passive trace) : ∀ event ∈ trace, ∀ port, event.1 ≠ .detach port := by
  intro event member port same
  obtain other | other | ⟨_,other⟩ := passive event member
  · rw [same] at other
    cases other
  · rw [same] at other
    cases other
  · rw [same] at other
    cases other

theorem enumerate_runs {before : List String} {left : Nat} {devices : List Device} {new : List String} {result : List Device × List String}
    {trace : Trace} (runs : (enumerate before left devices new).Runs trace result) : Passive trace ∧ listings trace = [] := by
  induction left generalizing devices new trace with
  | zero =>
    obtain ⟨rfl,_⟩ := Program.runs_done.mp runs
    exact ⟨fun _ member => (List.not_mem_nil member).elim,rfl⟩
  | succ left ih =>
    obtain ⟨slept,rest,rfl,asked⟩ := Program.runs_ask.mp runs
    obtain ⟨probed,later,rfl,answered⟩ := Program.runs_ask.mp asked
    dsimp only at answered
    have rest : Passive later ∧ listings later = [] := by
      split at answered
      · obtain ⟨rfl,_⟩ := Program.runs_done.mp answered
        exact ⟨fun _ member => (List.not_mem_nil member).elim,rfl⟩
      · exact ih answered
    refine ⟨fun event member => ?_,rest.2⟩
    obtain rfl | member := List.mem_cons.mp member
    · exact .inr (.inl rfl)
    · obtain rfl | member := List.mem_cons.mp member
      · exact .inr (.inr ⟨true,rfl⟩)
      · exact rest.1 event member

theorem settle_runs {payload : UsbipPayload} {selected before : List String} {state : Attaching} {result : Except NativeError OperationResult}
    {trace : Trace} (runs : (settle payload selected before state).Runs trace result) :
    Passive trace ∧ listings trace = [] ∧ ∃ value, result = .ok value := by
  unfold settle at runs
  split at runs
  · obtain ⟨probed,rest,rfl,answered⟩ := Program.runs_ask.mp runs
    obtain ⟨rfl,rfl⟩ := Program.runs_done.mp answered
    refine ⟨fun event member => .inr (.inr ⟨true,?_⟩),rfl,_,rfl⟩
    rw [List.mem_singleton.mp member]
  · obtain ⟨first,value,last,rfl,enumerated,ended⟩ := Program.runs_bind.mp runs
    obtain ⟨rfl,rfl⟩ := Program.runs_done.mp ended
    rw [List.append_nil]
    exact ⟨(enumerate_runs enumerated).1,(enumerate_runs enumerated).2,_,rfl⟩

inductive After (host : String) (state : Attaching) : Trace → Except NativeError OperationResult → Prop
  | rolledBack {trace : Trace} {failures : Failures} (failed : state.errors ≠ []) (runs : (rollBack host state.newlyAttached).Runs trace failures) :
      After host state trace (.error (partialError state failures))
  | nothing (none_ : state.attached = []) : After host state [] (.error (nothingError state.errors))
  | unstable {trace : Trace} {error : NativeError} (clean : state.errors = []) (passive : Passive trace)
      (code : error.code ≠ "USBIP_ROLLBACK_FAILED") (few : (listings trace).countP (full host state.attached) ≤ 1) :
      After host state trace (.error error)
  | settled {trace : Trace} {value : OperationResult} (clean : state.errors = []) (passive : Passive trace)
      (lasting : ListedTwice host state.attached trace) : After host state trace (.ok value)

theorem Passive.append {first last : Trace} (left : Passive first) (right : Passive last) : Passive (first ++ last) :=
  fun event member => (List.mem_append.mp member).elim (left event) (right event)

theorem count_none {busids : List String} {outputs : List CommandOutput} (partial_ : ∀ output ∈ outputs, full host busids output = false) :
    outputs.countP (full host busids) = 0 := List.countP_eq_zero.mpr fun output member => by simp [partial_ output member]

theorem verified_runs {state : Attaching} {before : List String} (clean : state.errors = []) (some_ : state.attached ≠ [])
    {result : Except NativeError OperationResult} {trace : Trace}
    (runs : ((verification host state.attached 0).andThen fun _ => (verification host state.attached 1).andThen fun _ =>
      settle payload selected before state).Runs trace result) : After host state trace result := by
  obtain ⟨error,failed,rfl⟩ | ⟨first,_,rest,rfl,verified,runs⟩ := Program.runs_andThen.mp runs
  · obtain ⟨passive,_,code,outcome⟩ := verification_runs some_ failed
    obtain ⟨wrong,_⟩ | ⟨_,partial_⟩ := outcome
    · cases wrong
    · exact .unstable clean passive (code error rfl) (by rw [count_none partial_]; exact Nat.zero_le 1)
  · obtain ⟨passive,_,_,outcome⟩ := verification_runs some_ verified
    obtain ⟨_,before_,last,shape,partial_,whole⟩ | ⟨⟨_,wrong⟩,_⟩ := outcome
    · obtain ⟨error,failed,rfl⟩ | ⟨second,_,rest,rfl,again,runs⟩ := Program.runs_andThen.mp runs
      · obtain ⟨later,_,code,outcome⟩ := verification_runs some_ failed
        obtain ⟨wrong,_⟩ | ⟨_,none_⟩ := outcome
        · cases wrong
        · refine .unstable clean (passive.append later) (code error rfl) ?_
          rw [listings_append,shape,List.countP_append,List.countP_append,count_none partial_,count_none none_]
          simp [whole]
      · obtain ⟨later,few,_,outcome⟩ := verification_runs some_ again
        obtain ⟨_,before',last',shape',_,whole'⟩ | ⟨⟨_,wrong⟩,_⟩ := outcome
        · obtain ⟨ended,none_,value,rfl⟩ := settle_runs runs
          have single : before' = [] := by
            have short := few Nat.one_ne_zero
            rw [shape',List.length_append,List.length_singleton] at short
            exact List.eq_nil_of_length_eq_zero (by omega)
          refine .settled clean (passive.append (later.append ended)) ⟨last,last',⟨before_,[],?_⟩,whole,whole'⟩
          rw [listings_append,listings_append,shape,shape',single,none_]
          simp
        · cases wrong
    · cases wrong

theorem attach_runs {result : Except NativeError OperationResult} {trace : Trace} (runs : (attach payload selected).Runs trace result) :
    ∃ (devices : List Device) (output : CommandOutput) (rest : Trace), trace = ⟨.probeDevices false,devices⟩ :: ⟨.port,output⟩ :: rest ∧
      ((rest = [] ∧ result = .error (portQueryError output "attach")) ∨ ∃ first state last, rest = first ++ last ∧
        Looped payload.sourceHost (portBlocks output.stdout.toList) selected {} first state ∧ After payload.sourceHost state last result) := by
  obtain ⟨devices,rest,rfl,asked⟩ := Program.runs_ask.mp runs
  obtain ⟨output,later,rfl,answered⟩ := Program.runs_ask.mp asked
  refine ⟨devices,output,later,rfl,?_⟩
  split at answered
  · exact .inl (Program.runs_done.mp answered)
  · obtain ⟨first,state,last,rfl,looped,next⟩ := Program.runs_bind.mp answered
    refine .inr ⟨first,state,last,rfl,attachLoop_runs rfl looped,?_⟩
    split at next
    · rename_i failed
      obtain ⟨rolled,failures,done,rfl,rolling,ended⟩ := Program.runs_bind.mp next
      obtain ⟨rfl,rfl⟩ := Program.runs_done.mp ended
      rw [List.append_nil]
      exact .rolledBack failed.1 rolling
    · rename_i whole
      split at next
      · rename_i none_
        obtain ⟨rfl,rfl⟩ := Program.runs_done.mp next
        exact .nothing none_
      · rename_i some_
        exact verified_runs (by_contra fun failed => whole ⟨failed,some_⟩) some_ next

theorem mem_newly {trace : Trace} : busid ∈ newly trace ↔ ∃ host output, ⟨.attach host busid,output⟩ ∈ trace ∧ (output : CommandOutput).code = 0 := by
  unfold newly
  rw [List.mem_filterMap]
  constructor
  · rintro ⟨⟨call,output⟩,member,same⟩
    cases call with
    | attach host other =>
      by_cases zero : (output : CommandOutput).code = 0
      · simp only [attachedBusid,if_pos zero,Option.some.injEq] at same
        subst same
        exact ⟨host,output,member,zero⟩
      · simp only [attachedBusid,if_neg zero,reduceCtorEq] at same
    | port | detach _ | probeDevices _ | sleep => cases same
  · rintro ⟨host,output,member,zero⟩
    exact ⟨_,member,if_pos zero⟩

variable {blocks : List (List Char × List Char)} {state : Attaching} {first last : Trace}

section
variable (looped : Looped host blocks selected {} first state)
include looped

theorem Looped.fresh (new : busid ∈ newly first) :
    busid ∈ selected ∧ listed blocks host busid = false := by
  obtain ⟨other,output,member,_⟩ := mem_newly.mp new
  obtain ⟨chosen,inside,free,same⟩ | same := looped.calls _ member
  · cases same
    exact ⟨inside,free⟩
  · cases same

theorem Looped.unlisted : listings first = [] := by
  refine List.filterMap_eq_nil_iff.mpr fun event member => ?_
  obtain ⟨call,reply⟩ := event
  obtain ⟨_,_,_,same⟩ | same := looped.calls _ member
  all_goals
    dsimp only at same
    subst same
    rfl

theorem Looped.kept : ∀ event ∈ first, ∀ port, event.1 ≠ .detach port := by
  intro event member port same
  obtain ⟨_,_,_,other⟩ | other := looped.calls _ member
  all_goals
    rw [same] at other
    cases other

theorem Looped.refused :
    state.errors ≠ [] ↔ ∃ busid, Attempted host busid first ∧ busid ∉ newly first := by
  constructor
  · intro failed
    obtain ⟨clean,_⟩ | ⟨_,busid,attempted,free⟩ := looped.outcome
    · exact absurd clean failed
    · exact ⟨busid,attempted,fun new => free (looped.keeps busid (.inr new))⟩
  · rintro ⟨busid,⟨output,member⟩,free⟩ clean
    obtain ⟨_,all⟩ | ⟨failed,_⟩ := looped.outcome
    · obtain ⟨chosen,inside,absent,same⟩ | same := looped.calls _ member
      · cases same
        obtain held | ⟨_,new | present⟩ := looped.origin busid (all busid inside)
        · cases held
        · exact free new
        · rw [absent] at present
          cases present
      · cases same
    · exact failed clean

theorem Looped.members (clean : state.errors = []) (output : CommandOutput) :
    full host state.attached output = full host selected output := by
  have same : ∀ busid, busid ∈ state.attached ↔ busid ∈ selected := fun busid => by
    constructor
    · intro member
      exact ((looped.origin busid member).resolve_left List.not_mem_nil).1
    · obtain ⟨_,all⟩ | ⟨failed,_⟩ := looped.outcome
      · exact all busid
      · exact absurd clean failed
  unfold full
  rw [Bool.eq_iff_iff,Bool.and_eq_true,Bool.and_eq_true,List.all_eq_true,List.all_eq_true]
  simp only [same]

end

theorem After.newly_eq {result : Except NativeError OperationResult} (after : After host state last result) : newly last = [] := by
  cases after with
  | rolledBack failed runs =>
    obtain ⟨output,rest,rfl,calls,_⟩ := rollBack_runs runs
    refine List.filterMap_eq_nil_iff.mpr fun event member => ?_
    obtain rfl | member := List.mem_cons.mp member
    · rfl
    · obtain ⟨call,reply⟩ := event
      obtain ⟨_,_,_,_,same⟩ := calls _ member
      dsimp only at same
      subst same
      rfl
  | nothing => rfl
  | unstable _ passive => exact passive.newly
  | settled _ passive => exact passive.newly

theorem later_split {α : Type} {front back before after : List α} {item : α} (free : item ∉ front)
    (same : front ++ back = before ++ item :: after) : ∃ middle, before = front ++ middle ∧ back = middle ++ item :: after := by
  obtain ⟨middle,rfl,shape⟩ | ⟨middle,rfl,shape⟩ := List.append_eq_append_iff.mp same
  · exact ⟨middle,rfl,shape⟩
  · cases middle with
    | nil => exact ⟨[],by simp,shape.symm⟩
    | cons head tail =>
      rw [List.cons_append] at shape
      obtain ⟨rfl,_⟩ := List.cons.inj shape
      exact absurd (List.mem_append_right _ List.mem_cons_self) free

theorem listedTwice_count {trace : Trace} (twice : ListedTwice host selected trace) : 2 ≤ (listings trace).countP (full host selected) := by
  obtain ⟨output,second,inside,whole,whole'⟩ := twice
  have fewer := inside.sublist.countP_le (p := full host selected)
  simpa [whole,whole'] using fewer

theorem passive_start (devices : List Device) (output : CommandOutput) : Passive [⟨.probeDevices false,devices⟩,⟨.port,output⟩] := by
  intro event member
  obtain rfl | member := List.mem_cons.mp member
  · exact .inr (.inr ⟨false,rfl⟩)
  · exact .inl (congrArg Sigma.fst (List.mem_singleton.mp member))

theorem careful_of_kept {trace : Trace} (kept : ∀ event ∈ trace, ∀ port, event.1 ≠ .detach port) : Careful host trace := by
  rintro before port reply after rfl
  exact absurd rfl (kept _ (List.mem_append_right _ List.mem_cons_self) port)

variable {devices : List Device} {initial : CommandOutput} {result : Except NativeError OperationResult}

theorem Looped.careful (looped : Looped host blocks selected {} first state) (after : After host state last result) :
    Careful host ([⟨.probeDevices false,devices⟩,⟨.port,initial⟩] ++ (first ++ last)) := by
  have kept : ∀ {trace : Trace}, Passive trace →
      ∀ event ∈ [⟨.probeDevices false,devices⟩,⟨.port,initial⟩] ++ (first ++ trace), ∀ port, event.1 ≠ .detach port := by
    intro trace passive event member
    obtain member | member := List.mem_append.mp member
    · exact (passive_start devices initial).detached event member
    · obtain member | member := List.mem_append.mp member
      · exact looped.kept event member
      · exact passive.detached event member
  cases after with
  | rolledBack failed runs =>
    obtain ⟨output,rest,rfl,calls,_⟩ := rollBack_runs runs
    intro before port reply later split_
    have whole : ([⟨.probeDevices false,devices⟩,⟨.port,initial⟩] ++ (first ++ [⟨.port,output⟩])) ++ rest = before ++ ⟨.detach port,reply⟩ :: later := by
      simpa using split_
    have listing_ : Passive [⟨.port,output⟩] := fun event member => .inl (congrArg Sigma.fst (List.mem_singleton.mp member))
    obtain ⟨middle,rfl,rfl⟩ := later_split (fun member => kept listing_ _ member port rfl) whole
    obtain ⟨busid,new,port',names,same⟩ := calls _ (List.mem_append_right _ List.mem_cons_self)
    cases same
    rw [looped.newlyAttached,List.nil_append] at new
    refine ⟨busid,⟨.probeDevices false,devices⟩ :: ⟨.port,initial⟩ :: first,output,middle,by simp,?_,names⟩
    rw [show (⟨.probeDevices false,devices⟩ :: ⟨.port,initial⟩ :: first : Trace) = [⟨.probeDevices false,devices⟩,⟨.port,initial⟩] ++ first from rfl,
      newly_append]
    exact List.mem_append_right _ new
  | nothing => exact careful_of_kept (kept fun _ member => (List.not_mem_nil member).elim)
  | unstable _ passive => exact careful_of_kept (kept passive)
  | settled _ passive => exact careful_of_kept (kept passive)

theorem Looped.released (looped : Looped host blocks selected {} first state) {failures : Failures}
    (runs : (rollBack host state.newlyAttached).Runs last failures) (clean : failures = []) (new : busid ∈ newly first) :
    Released host busid ([⟨.probeDevices false,devices⟩,⟨.port,initial⟩] ++ (first ++ last)) := by
  obtain ⟨output,rest,rfl,_,all⟩ := rollBack_runs runs
  obtain ⟨port,reply,names,member,zero⟩ := all clean busid (by rwa [looped.newlyAttached,List.nil_append])
  obtain ⟨before,after,rfl⟩ := List.append_of_mem member
  refine ⟨[⟨.probeDevices false,devices⟩,⟨.port,initial⟩] ++ (first ++ ⟨.port,output⟩ :: before),port,reply,after,by simp,
    ⟨[⟨.probeDevices false,devices⟩,⟨.port,initial⟩] ++ first,output,before,by simp,?_,names⟩,zero⟩
  rw [newly_append]
  exact List.mem_append_right _ new

theorem Looped.few (looped : Looped host (portBlocks initial.stdout.toList) selected {} first state) (clean : state.errors = [])
    (some_ : newly first ≠ []) (few : (listings last).countP (full host state.attached) ≤ 1) :
    ¬ListedTwice host selected ([⟨.probeDevices false,devices⟩,⟨.port,initial⟩] ++ (first ++ last)) := by
  intro twice
  have count := listedTwice_count twice
  obtain ⟨busid,new⟩ := List.exists_mem_of_ne_nil _ some_
  obtain ⟨inside,absent⟩ := looped.fresh new
  have partial_ : full host selected initial = false := by
    rw [← Bool.not_eq_true]
    unfold full
    rw [Bool.and_eq_true,List.all_eq_true]
    rintro ⟨_,all⟩
    rw [all busid inside] at absent
    cases absent
  have same : full host state.attached = full host selected := funext (looped.members clean)
  have shape : listings ([⟨.probeDevices false,devices⟩,⟨.port,initial⟩] ++ (first ++ last)) = initial :: listings last := by
    rw [listings_append,listings_append,looped.unlisted]
    rfl
  rw [shape,List.countP_cons_of_neg (by simp [partial_]),← same] at count
  omega

theorem Looped.lasting (looped : Looped host blocks selected {} first state) (clean : state.errors = [])
    (twice : ListedTwice host state.attached last) (start : Trace) : ListedTwice host selected (start ++ (first ++ last)) := by
  obtain ⟨output,second,inside,whole,whole'⟩ := twice
  refine ⟨output,second,?_,looped.members clean output ▸ whole,looped.members clean second ▸ whole'⟩
  rw [listings_append,listings_append]
  exact inside.trans ((List.suffix_append _ _).isInfix.trans (List.suffix_append _ _).isInfix)

/-- A failed attachment has detached again all that it attached, or says that it could not, exactly where nothing was attached, a
busid was refused or the ports held: only the rollback of a partial attachment detaches. -/
theorem attach_safe {trace : Trace} (runs : (attach payload selected).Runs trace result) :
    Safe payload.sourceHost selected trace result ↔
      newly trace = [] ∨ Refused payload.sourceHost trace ∨ ListedTwice payload.sourceHost selected trace := by
  obtain ⟨devices,initial,rest,rfl,⟨rfl,rfl⟩ | ⟨first,state,last,rfl,looped,after⟩⟩ := attach_runs runs
  · refine iff_of_true ⟨fun _ _ => .inr fun busid new => absurd new List.not_mem_nil,?_,nofun⟩ (.inl rfl)
    exact careful_of_kept (passive_start devices initial).detached
  · have trace_ : (⟨.probeDevices false,devices⟩ :: ⟨.port,initial⟩ :: (first ++ last) : Trace) =
        [⟨.probeDevices false,devices⟩,⟨.port,initial⟩] ++ (first ++ last) := rfl
    have new_ : newly (⟨.probeDevices false,devices⟩ :: ⟨.port,initial⟩ :: (first ++ last)) = newly first := by
      rw [trace_,newly_append,newly_append,after.newly_eq,List.append_nil]
      rfl
    have refused_ : state.errors ≠ [] → Refused payload.sourceHost (⟨.probeDevices false,devices⟩ :: ⟨.port,initial⟩ :: (first ++ last)) := by
      intro failed
      obtain ⟨busid,⟨output,member⟩,free⟩ := looped.refused.mp failed
      exact ⟨busid,⟨output,List.mem_cons_of_mem _ (List.mem_cons_of_mem _ (List.mem_append_left _ member))⟩,new_ ▸ free⟩
    have careful : Careful payload.sourceHost (⟨.probeDevices false,devices⟩ :: ⟨.port,initial⟩ :: (first ++ last)) := looped.careful after
    cases after with
    | rolledBack failed rolling =>
      refine iff_of_true ⟨fun error same => ?_,careful,nofun⟩ (.inr (.inl (refused_ failed)))
      rename_i failures
      cases same
      by_cases clean : failures = []
      · exact .inr fun busid new => looped.released rolling clean (new_ ▸ new)
      · exact .inl (if_pos clean)
    | nothing none_ =>
      have empty : newly first = [] := List.eq_nil_iff_forall_not_mem.mpr fun busid new => by
        have held := looped.keeps busid (.inr new)
        rw [none_] at held
        cases held
      refine iff_of_true ⟨fun _ _ => .inr fun busid new => ?_,careful,nofun⟩ (.inl (new_.trans empty))
      rw [new_,empty] at new
      cases new
    | unstable clean passive code few =>
      have quiet : ¬Refused payload.sourceHost (⟨.probeDevices false,devices⟩ :: ⟨.port,initial⟩ :: (first ++ last)) := by
        rintro ⟨busid,⟨output,member⟩,free⟩
        refine looped.refused.mpr ⟨busid,⟨output,?_⟩,new_ ▸ free⟩ clean
        obtain same | member := List.mem_cons.mp member
        · cases same
        · obtain same | member := List.mem_cons.mp member
          · cases same
          · obtain member | member := List.mem_append.mp member
            · exact member
            · obtain same | same | ⟨_,same⟩ := passive _ member
              all_goals cases same
      constructor
      · rintro ⟨released,_,_⟩
        refine .inl (List.eq_nil_iff_forall_not_mem.mpr fun busid new => ?_)
        obtain wrong | all := released _ rfl
        · exact code wrong
        · obtain ⟨before,port,reply,later,split_,_⟩ := all busid new
          have member : ⟨.detach port,reply⟩ ∈ (⟨.probeDevices false,devices⟩ :: ⟨.port,initial⟩ :: (first ++ last) : Trace) := by
            rw [split_]
            exact List.mem_append_right _ List.mem_cons_self
          rw [trace_] at member
          obtain member | member := List.mem_append.mp member
          · exact (passive_start devices initial).detached _ member port rfl
          · obtain member | member := List.mem_append.mp member
            · exact looped.kept _ member port rfl
            · exact passive.detached _ member port rfl
      · rintro (empty | refused | twice)
        · refine ⟨fun _ _ => .inr fun busid new => ?_,careful,nofun⟩
          rw [empty] at new
          cases new
        · exact absurd refused quiet
        · refine ⟨fun _ _ => .inr fun busid new => ?_,careful,nofun⟩
          exact absurd twice (looped.few clean (List.ne_nil_of_mem (new_ ▸ new)) few)
    | settled clean passive lasting =>
      have twice := looped.lasting clean lasting [⟨.probeDevices false,devices⟩,⟨.port,initial⟩]
      exact iff_of_true ⟨nofun,careful,fun _ _ => twice⟩ (.inr (.inr twice))

def unlistedPorts : Trace :=
  [⟨.probeDevices false,[]⟩,⟨.port,{code := 0}⟩,⟨.attach "10.0.0.2" "1-4",{code := 0}⟩,⟨.port,{code := 1}⟩]

theorem attach_leaks :
    (attach {sourceHost := "10.0.0.2"} ["1-4"]).Runs unlistedPorts (.error (portQueryError {code := 1} "post_attach_verification")) ∧
      ¬Safe "10.0.0.2" ["1-4"] unlistedPorts (.error (portQueryError {code := 1} "post_attach_verification")) := by
  have none_ : portBlocks (CommandOutput.mk 0 "" "" none).stdout.toList = [] := by decide +kernel
  constructor
  · refine .ask _ (Program.runs_ask.mpr ⟨_,_,rfl,?_⟩)
    rw [if_neg (not_not.mpr rfl),none_]
    exact .ask _ (.ask _ (.done _))
  · rintro ⟨released,_,_⟩
    obtain wrong | all := released _ rfl
    · revert wrong
      decide
    · obtain ⟨first,port,reply,last,shape,_⟩ := all "1-4" (by decide)
      have member : ⟨.detach port,reply⟩ ∈ unlistedPorts := by
        rw [shape]
        exact List.mem_append_right _ List.mem_cons_self
      simp [unlistedPorts] at member

def rolledBackPorts : Trace := [⟨.probeDevices false,[]⟩,⟨.port,{code := 0}⟩,⟨.attach "10.0.0.2" "1-4",{code := 0}⟩,
  ⟨.attach "10.0.0.2" "1-5",{code := 1}⟩,⟨.port,{code := 0, stdout := "Port 00: in use\n 1-1 -> usbip://10.0.0.2:3240/1-4"}⟩,
  ⟨.detach "00",{code := 0}⟩]

theorem attach_safe_rolledBack : ∃ result, (attach {sourceHost := "10.0.0.2"} ["1-4","1-5"]).Runs rolledBackPorts result ∧
    Safe "10.0.0.2" ["1-4","1-5"] rolledBackPorts result := by
  have replayed : ((attach {sourceHost := "10.0.0.2"} ["1-4","1-5"]).replay rolledBackPorts).isSome := by decide +kernel
  obtain ⟨result,same⟩ := Option.isSome_iff_exists.mp replayed
  have runs := Program.runs_of_replay same
  refine ⟨result,runs,(attach_safe runs).mpr (.inr (.inl ⟨"1-5",⟨{code := 1},?_⟩,by decide⟩))⟩
  simp [rolledBackPorts]

end GmsRemoteTest.WorkerUsbip
