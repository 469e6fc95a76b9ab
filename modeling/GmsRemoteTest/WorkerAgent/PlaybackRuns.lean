import GmsRemoteTest.WorkerAgent.AoaPlayback

/-! Runs of `run_semantic_sequence`: what each step sends and what was seen before, and the plans whose runs follow their source. -/
namespace GmsRemoteTest.AoaPlayback
open AoaDisplay AoaProfile AoaSemantics AoaObservation AoaCalibration Calls Text

abbrev Trace : Type := List (Calls.Event Call Reply)

def isTransmit : Call → Prop
  | .transmit _ => True
  | _ => False

def Silent (trace : Trace) : Prop := ∀ event ∈ trace, ¬isTransmit event.1

theorem Silent.append {first last : Trace} (left : Silent first) (right : Silent last) : Silent (first ++ last) := by
  intro event member
  obtain member | member := List.mem_append.mp member
  · exact left event member
  · exact right event member

theorem gate_silent : gate.Avoids isTransmit := Program.avoids_attempt id

theorem event_silent (phase : String) (index : Nat) : (event phase index).Avoids isTransmit := Program.avoids_attempt id

theorem waitAgain_silent (limit : ℚ) (unavailable : Option String) {next : Play Unit} (silent : next.Avoids isTransmit) :
    (waitAgain limit unavailable next).Avoids isTransmit := by
  refine Program.avoids_andThen (Program.avoids_attempt id) fun _ => Program.avoids_ask id fun now => ?_
  split
  · exact Program.avoids_done _
  · exact Program.avoids_ask id fun _ => Program.avoids_ask id fun _ => silent

theorem waitLoop_silent (condition : Condition) (fuel : Nat) (limit : ℚ) (unavailable : Option String) :
    (waitLoop condition fuel limit unavailable).Avoids isTransmit := by
  induction fuel generalizing limit unavailable with
  | zero => exact Program.avoids_done _
  | succ fuel ih =>
    refine Program.avoids_ask id fun _ => Program.avoids_andThen gate_silent fun _ => Program.avoids_ask id fun _ =>
      Program.avoids_ask id fun _ => Program.avoids_ask id fun seen => ?_
    split
    · exact Program.avoids_done _
    · exact waitAgain_silent _ _ (ih _ _)
    · exact waitAgain_silent _ _ (ih _ _)
    · exact Program.avoids_done _

theorem waitCondition_silent (fuel : Nat) (condition : Option Condition) (timeout : ℚ) :
    (waitCondition fuel condition timeout).Avoids isTransmit := by
  cases condition with
  | none => exact Program.avoids_done _
  | some condition => exact Program.avoids_ask id fun _ => waitLoop_silent _ _ _ _

theorem sleepLoop_silent (fuel : Nat) (limit : ℚ) : (sleepLoop fuel limit).Avoids isTransmit := by
  induction fuel generalizing limit with
  | zero => exact Program.avoids_done _
  | succ fuel ih =>
    refine Program.avoids_ask id fun now => ?_
    split
    · exact Program.avoids_done _
    · exact Program.avoids_ask id fun _ => Program.avoids_andThen gate_silent fun _ => Program.avoids_ask id fun _ =>
        Program.avoids_ask id fun _ => Program.avoids_ask id fun _ => ih _

theorem skipped_silent (step : Step) (timeout : ℚ) : (skipped step timeout).Avoids isTransmit := by
  unfold skipped
  split
  · exact Program.avoids_done _
  · refine Program.avoids_ask id fun seen => ?_
    split <;> exact Program.avoids_done _

variable {layout : Layout} {case_ : Case} {context : Context}

theorem resolveLiveCommand_silent (text : String) (step : Step) (timeout : ℚ) :
    (resolveLiveCommand layout case_ context text step timeout).Avoids isTransmit := by
  unfold resolveLiveCommand
  split
  · split
    · exact Program.avoids_done _
    · exact Program.avoids_andThen (Program.avoids_attempt id) fun _ => Program.avoids_done _
  · exact Program.avoids_done _
  · exact Program.avoids_done _

def Observed (condition : Condition) (trace : Trace) : Prop := ∃ timeout, ⟨.evaluate condition timeout,.value true⟩ ∈ trace

theorem Observed.right {condition : Condition} (first : Trace) {last : Trace} (observed : Observed condition last) :
    Observed condition (first ++ last) := observed.imp fun _ member => List.mem_append_right _ member

theorem Observed.left {condition : Condition} {first : Trace} (last : Trace) (observed : Observed condition first) :
    Observed condition (first ++ last) := observed.imp fun _ member => List.mem_append_left _ member

theorem Observed.cons {condition : Condition} (event : Calls.Event Call Reply) {trace : Trace} (observed : Observed condition trace) :
    Observed condition (event :: trace) := observed.imp fun _ member => List.mem_cons_of_mem _ member

theorem waitAgain_ok {limit : ℚ} {unavailable : Option String} {next : Play Unit} {trace : Trace}
    (runs : (waitAgain limit unavailable next).Runs trace (.ok ())) : ∃ first last, trace = first ++ last ∧ next.Runs last (.ok ()) := by
  unfold waitAgain at runs
  obtain ⟨_,_,wrong⟩ | ⟨first,_,rest,rfl,_,ticked⟩ := Program.runs_andThen.mp runs
  · cases wrong
  obtain ⟨now,rest',rfl,timed⟩ := Program.runs_ask.mp ticked
  split at timed
  · cases (Program.runs_done.mp timed).2
  · obtain ⟨later,rest'',rfl,timed'⟩ := Program.runs_ask.mp timed
    obtain ⟨slept,last,rfl,paused⟩ := Program.runs_ask.mp timed'
    exact ⟨first ++ [⟨.clock,now⟩,⟨.clock,later⟩,⟨_,slept⟩],last,by simp,paused⟩

theorem waitLoop_ok {condition : Condition} {fuel : Nat} {limit : ℚ} {unavailable : Option String} {trace : Trace}
    (runs : (waitLoop condition fuel limit unavailable).Runs trace (.ok ())) : Observed condition trace := by
  induction fuel generalizing limit unavailable trace with
  | zero => cases (Program.runs_done.mp runs).2
  | succ fuel ih =>
    obtain ⟨_,_,rfl,timed⟩ := Program.runs_ask.mp runs
    obtain ⟨_,_,wrong⟩ | ⟨_,_,_,rfl,_,passed⟩ := Program.runs_andThen.mp timed
    · cases wrong
    obtain ⟨_,_,rfl,timed'⟩ := Program.runs_ask.mp passed
    obtain ⟨_,_,rfl,timed''⟩ := Program.runs_ask.mp timed'
    obtain ⟨seen,rest,rfl,looked⟩ := Program.runs_ask.mp timed''
    refine .cons _ (.right _ (.cons _ (.cons _ ?_)))
    cases seen with
    | value value =>
      cases value with
      | true => exact ⟨_,List.mem_cons_self⟩
      | false =>
        obtain ⟨first,last,rfl,again⟩ := waitAgain_ok looked
        exact .cons _ (.right _ (ih again))
    | unavailable message =>
      obtain ⟨first,last,rfl,again⟩ := waitAgain_ok looked
      exact .cons _ (.right _ (ih again))
    | raised message => cases (Program.runs_done.mp looked).2

theorem waitCondition_ok {fuel : Nat} {condition : Condition} {timeout : ℚ} {trace : Trace}
    (runs : (waitCondition fuel (some condition) timeout).Runs trace (.ok ())) : Observed condition trace := by
  obtain ⟨_,_,rfl,looped⟩ := Program.runs_ask.mp runs
  exact .cons _ (waitLoop_ok looped)

def Sends (layout : Layout) (case_ : Case) (context : Context) (text : String) (step : Step) (before : Trace) (sent : String) : Prop :=
  sent = text ∨ ∃ command rest timeout found, parseProfileCommands [text] = .ok (command :: rest) ∧ ⟨.nodes timeout,.ok found⟩ ∈ before ∧
    liveCommand layout case_ context command step found = .ok sent

inductive StepTrace (layout : Layout) (case_ : Case) (context : Context) (text : String) (step : Step) : Trace → Prop
  | silent {trace : Trace} (silent : Silent trace) : StepTrace layout case_ context text step trace
  | sent {before after : Trace} (silent : Silent before) (silent' : Silent after) {sent : String} (reply : Except String Unit)
      (sends : Sends layout case_ context text step before sent) {condition : Condition} (required : step.before = some condition)
      (seen : Observed condition before) : StepTrace layout case_ context text step (before ++ ⟨.transmit sent,reply⟩ :: after)

theorem silent_then {α β : Type} {first : Play α} {next : α → Play β} (silent : first.Avoids isTransmit) {trace : Trace} {result : Except Stop β}
    (runs : (first.andThen next).Runs trace result) :
    Silent trace ∨ ∃ before value last, trace = before ++ last ∧ Silent before ∧ first.Runs before (.ok value) ∧ (next value).Runs last result := by
  obtain ⟨failure,ended,_⟩ | ⟨before,value,last,rfl,began,rest⟩ := Program.runs_andThen.mp runs
  · exact .inl (silent trace _ ended)
  · exact .inr ⟨before,value,last,rfl,silent before _ began,began,rest⟩

theorem resolveLiveCommand_ok {text sent : String} {step : Step} {timeout : ℚ} {trace : Trace}
    (runs : (resolveLiveCommand layout case_ context text step timeout).Runs trace (.ok sent)) :
    Sends layout case_ context text step trace sent := by
  unfold resolveLiveCommand at runs
  split at runs
  · rename_i command rest read
    split at runs
    · obtain ⟨_,same⟩ := Program.runs_done.mp runs
      exact .inl (Except.ok.inj same)
    · obtain ⟨_,_,wrong⟩ | ⟨first,found,last,rfl,asked,ended⟩ := Program.runs_andThen.mp runs
      · cases wrong
      obtain ⟨reply,rfl,answer⟩ := Program.runs_attempt.mp asked
      obtain ⟨rfl,same⟩ := Program.runs_done.mp ended
      have nodes_ : reply = .ok found := by
        cases reply with
        | error message => cases answer
        | ok nodes => exact congrArg _ (Except.ok.inj answer).symm
      have live : liveCommand layout case_ context command step found = .ok sent := by
        cases line : liveCommand layout case_ context command step found with
        | error message => rw [line] at same; cases same
        | ok text => rw [line] at same; exact congrArg _ (Except.ok.inj same).symm
      exact .inr ⟨command,rest,timeout,found,read,by rw [nodes_]; exact List.mem_cons_self,live⟩
  · cases (Program.runs_done.mp runs).2
  · cases (Program.runs_done.mp runs).2

theorem input_trace {fuel index : Nat} {text : String} {step : Step} {item : AoaCommand} {timeout : ℚ} {trace : Trace} {result : Except Stop Unit}
    (runs : (input layout case_ context fuel index text step item timeout).Runs trace result) :
    Silent trace ∨ item.kind ≠ .sleep ∧ ∃ before sent reply, trace = before ++ [⟨.transmit sent,reply⟩] ∧ Silent before ∧
      Sends layout case_ context text step before sent := by
  unfold input at runs
  split at runs
  · exact .inl (Program.avoids_ask id (fun _ => sleepLoop_silent _ _) trace result runs)
  rename_i kind
  obtain quiet | ⟨first,_,rest,rfl,quiet,_,verified⟩ := silent_then (Program.avoids_attempt id) runs
  · exact .inl quiet
  obtain quiet_ | ⟨second,_,rest_,rfl,quiet_,_,passed⟩ := silent_then gate_silent verified
  · exact .inl (quiet.append quiet_)
  have both := quiet.append quiet_
  rw [← List.append_assoc]
  obtain still | ⟨third,sent,last,rfl,still,resolved,announced⟩ := silent_then (resolveLiveCommand_silent _ _ _) passed
  · exact .inl (both.append still)
  obtain still_ | ⟨fourth,_,end_,rfl,still_,_,transmitted⟩ := silent_then (event_silent _ _) announced
  · exact .inl (both.append (still.append still_))
  obtain ⟨reply,rfl,_⟩ := Program.runs_attempt.mp transmitted
  refine .inr ⟨kind,first ++ second ++ (third ++ fourth),sent,reply,by simp,both.append (still.append still_),?_⟩
  obtain same | ⟨command,others,seconds,found,read,member,live⟩ := resolveLiveCommand_ok resolved
  · exact .inl same
  · exact .inr ⟨command,others,seconds,found,read,List.mem_append_right _ (List.mem_append_left _ member),live⟩

theorem StepTrace.prepend {text : String} {step : Step} {first last : Trace} (silent : Silent first)
    (trace : StepTrace layout case_ context text step last) : StepTrace layout case_ context text step (first ++ last) := by
  cases trace with
  | silent still => exact .silent (silent.append still)
  | @sent before after quiet still sent reply sends condition required seen =>
    rw [← List.append_assoc]
    refine .sent (silent.append quiet) still reply ?_ required (seen.right first)
    obtain same | ⟨command,others,seconds,found,read,member,live⟩ := sends
    · exact .inl same
    · exact .inr ⟨command,others,seconds,found,read,List.mem_append_right _ member,live⟩

theorem playStep_trace {fuel index : Nat} {text : String} {step : Step} {item : AoaCommand} (required : item.kind ≠ .sleep → step.before.isSome)
    {trace : Trace} {result : Except Stop Unit} (runs : (playStep layout case_ context fuel index text step item).Runs trace result) :
    StepTrace layout case_ context text step trace := by
  unfold playStep at runs
  obtain quiet | ⟨first,_,rest,rfl,quiet,_,passed⟩ := silent_then gate_silent runs
  · exact .silent quiet
  refine .prepend quiet ?_
  obtain quiet | ⟨first,_,rest,rfl,quiet,_,checking⟩ := silent_then (event_silent _ _) passed
  · exact .silent quiet
  refine .prepend quiet ?_
  obtain quiet | ⟨first,done,rest,rfl,quiet,_,asked⟩ := silent_then (skipped_silent _ _) checking
  · exact .silent quiet
  refine .prepend quiet ?_
  split at asked
  · exact .silent (event_silent _ _ _ _ asked)
  obtain quiet | ⟨waiting,_,rest,rfl,quiet,waited,ready⟩ := silent_then (waitCondition_silent _ _ _) asked
  · exact .silent quiet
  obtain still | ⟨gated,_,rest,rfl,still,_,entering⟩ := silent_then gate_silent ready
  · exact .silent (quiet.append still)
  have tail : Program.Avoids isTransmit ((event "verifying" index).andThen fun _ => (waitCondition fuel step.after (step.timeoutSeconds.getD 3)).andThen
      fun _ => (event "completed" index).andThen fun _ => (.attempt (.progress index) raising : Play Unit)) :=
    Program.avoids_andThen (event_silent _ _) fun _ => Program.avoids_andThen (waitCondition_silent _ _ _) fun _ =>
      Program.avoids_andThen (event_silent _ _) fun _ => Program.avoids_attempt id
  obtain ⟨middle,last,rfl,after,_,entered⟩ : ∃ middle last, rest = middle ++ last ∧ Silent last ∧
      ∃ result, (input layout case_ context fuel index text step item (step.timeoutSeconds.getD 3)).Runs middle result := by
    obtain ⟨failure,ended,_⟩ | ⟨middle,_,last,rfl,began,finished⟩ := Program.runs_andThen.mp entering
    · exact ⟨rest,[],(List.append_nil _).symm,fun _ member => (List.not_mem_nil member).elim,_,ended⟩
    · exact ⟨middle,last,rfl,tail last _ finished,_,began⟩
  obtain nothing | ⟨kind,before,sent,reply,rfl,held,sends⟩ := input_trace entered
  · exact .silent (quiet.append (still.append (nothing.append after)))
  obtain ⟨condition,before_⟩ := Option.isSome_iff_exists.mp (required kind)
  rw [before_] at waited
  have whole : waiting ++ (gated ++ (before ++ [⟨.transmit sent,reply⟩] ++ last)) =
      (waiting ++ (gated ++ before)) ++ ⟨.transmit sent,reply⟩ :: last := by simp
  rw [whole]
  refine .sent (quiet.append (still.append held)) after reply ?_ before_ ((waitCondition_ok waited).left _)
  obtain same | ⟨command,others,seconds,found,read,member,live⟩ := sends
  · exact .inl same
  · exact .inr ⟨command,others,seconds,found,read,List.mem_append_right _ (List.mem_append_right _ member),live⟩

theorem playSteps_trace {fuel index : Nat} {turns : List (String × Option Step × AoaCommand)}
    (required : ∀ turn ∈ turns, ∀ step, turn.2.1 = some step → turn.2.2.kind ≠ .sleep → step.before.isSome) {trace : Trace} {result : Except Stop Unit}
    (runs : (playSteps layout case_ context fuel index turns).Runs trace result) :
    ∃ blocks : List Trace, trace = blocks.flatten ∧ ∀ (k : Nat) (block : Trace), blocks[k]? = some block →
      ∃ text step item, turns[k]? = some (text,some step,item) ∧ StepTrace layout case_ context text step block := by
  induction turns generalizing index trace with
  | nil => exact ⟨[],(Program.runs_done.mp runs).1,fun k block found => by simp at found⟩
  | cons turn turns ih =>
    obtain ⟨text,step,item⟩ := turn
    obtain ⟨first,others⟩ := List.forall_mem_cons.mp required
    cases step with
    | none => exact ⟨[],(Program.runs_done.mp runs).1,fun k block found => by simp at found⟩
    | some step =>
      obtain ⟨failure,ended,_⟩ | ⟨before,_,last,rfl,began,rest⟩ := Program.runs_andThen.mp runs
      · refine ⟨[trace],(List.flatten_singleton).symm,fun k block found => ?_⟩
        obtain ⟨rfl,rfl⟩ : k = 0 ∧ trace = block := by
          cases k with
          | zero => exact ⟨rfl,Option.some.inj found⟩
          | succ k => simp at found
        exact ⟨text,step,item,rfl,playStep_trace (first step rfl) ended⟩
      · obtain ⟨blocks,rfl,each⟩ := ih others rest
        refine ⟨before :: blocks,(List.flatten_cons).symm,fun k block found => ?_⟩
        cases k with
        | zero =>
          cases found
          exact ⟨text,step,item,rfl,playStep_trace (first step rfl) began⟩
        | succ k => exact each k block found

theorem selectLayout_mem {template : Template} (chosen : selectLayout template context = .ok layout) : layout ∈ template.layouts := by
  unfold selectLayout at chosen
  split at chosen
  · rename_i only same
    cases chosen
    exact (List.mem_filter.mp (same ▸ List.mem_singleton_self layout)).1
  · cases chosen

theorem find_layout {layouts : List Layout} (distinct : (layouts.map Layout.id).Nodup) (member : layout ∈ layouts) :
    (layouts.find? fun other => other.id = layout.id) = some layout := by
  induction layouts with
  | nil => cases member
  | cons first layouts ih =>
    rw [List.map_cons,List.nodup_cons] at distinct
    obtain rfl | member := List.mem_cons.mp member
    · exact List.find?_cons_of_pos (decide_eq_true rfl)
    · have other : first.id ≠ layout.id := fun same => distinct.1 (same ▸ List.mem_map_of_mem member)
      rw [List.find?_cons_of_neg (by simpa using other)]
      exact ih distinct.2 member

section plan
variable {commands : List String} {template : Template} {certificate : Certificate} {plan : Plan} {parsed after : List AoaCommand}

theorem validateStep_before {layouts : List Layout} {index : Nat} {step : Step} {command : AoaCommand}
    (valid : validateStep layouts index (some step) command = .ok ()) (kind : command.kind ≠ .sleep) : step.before.isSome := by
  unfold validateStep at valid
  dsimp only at valid
  split at valid
  · cases valid
  simp only [Except.bind] at valid
  split at valid
  · cases valid
  split at valid
  · cases valid
  split at valid
  · cases valid
  split at valid
  · cases valid
  rename_i both
  cases before : step.before with
  | none => exact absurd ⟨kind,.inl (by rw [before]; rfl)⟩ both
  | some condition => rfl

/-- A plan refines its source: its commands are those of the source, aimed at their targets, and each step of a run sends nothing, or its
command once its condition was seen. -/
def Refines (commands : List String) (template : Template) (context : Context) (certificate : Certificate) (plan : Plan) : Prop :=
  ∃ case_ layout parsed after, Compiled commands template context certificate plan case_ layout parsed after ∧
    Corresponds layout case_ context template.steps parsed after ∧
    ∀ fuel given bytes trace result, (runSemanticSequence fuel given plan bytes certificate).Runs trace result →
      ∃ blocks : List Trace, trace = blocks.flatten ∧ ∀ (k : Nat) (block : Trace), blocks[k]? = some block →
        ∃ text step, plan.commands[k]? = some text ∧ template.steps[k]? = some (some step) ∧ StepTrace layout case_ context text step block

theorem runSemanticSequence_trace (compiled : Compiled commands template context certificate plan case_ layout parsed after)
    (corresponds : Corresponds layout case_ context template.steps parsed after) {fuel : Nat} {given : List String} {bytes : Nat} {trace : Trace}
    {result : Except Stop Unit} (runs : (runSemanticSequence fuel given plan bytes certificate).Runs trace result) :
    ∃ blocks : List Trace, trace = blocks.flatten ∧ ∀ (k : Nat) (block : Trace), blocks[k]? = some block →
      ∃ text step, plan.commands[k]? = some text ∧ template.steps[k]? = some (some step) ∧ StepTrace layout case_ context text step block := by
  have nothing : trace = [] → ∃ blocks : List Trace, trace = blocks.flatten ∧ ∀ (k : Nat) (block : Trace), blocks[k]? = some block →
      ∃ text step, plan.commands[k]? = some text ∧ template.steps[k]? = some (some step) ∧ StepTrace layout case_ context text step block :=
    fun none_ => ⟨[],none_,fun k block found => by simp at found⟩
  have settled : ∀ {α : Type} {value : Except Stop α} {next : α → Play Unit} {rest : Trace}, rest = trace →
      (Program.andThen (.done value) next).Runs rest result → trace = [] ∨ ∃ known, value = .ok known ∧ (next known).Runs trace result := by
    rintro α value next rest rfl ran
    cases value with
    | error failure => exact .inl (Program.runs_done.mp ran).1
    | ok known => exact .inr ⟨known,rfl,ran⟩
  unfold runSemanticSequence at runs
  obtain none_ | ⟨_,_,valid⟩ := settled rfl runs
  · exact nothing none_
  split at valid
  · exact nothing (Program.runs_done.mp valid).1
  have same := compiled.made
  have context_ : plan.context = context := by rw [same]
  have template_ : plan.template = template := by rw [same]
  have layoutId : plan.layoutId = layout.id := by rw [same]
  rw [context_,template_,layoutId,compiled.matched] at valid
  obtain none_ | ⟨found,found_,valid⟩ := settled rfl valid
  · exact nothing none_
  cases found_
  obtain ⟨parsed',read,stepped,distinct,each⟩ := validateTemplate_ok compiled.valid
  cases compiled.read.symm.trans read
  rw [find_layout distinct (selectLayout_mem compiled.chosen)] at valid
  dsimp only at valid
  rw [compiled.again] at valid
  obtain none_ | ⟨items,items_,played⟩ := settled rfl valid
  · exact nothing none_
  cases items_
  have required : ∀ turn ∈ plan.commands.zip (template.steps.zip after), ∀ step, turn.2.1 = some step → turn.2.2.kind ≠ .sleep →
      step.before.isSome := by
    intro turn member step object kind
    obtain ⟨k,turn_⟩ := List.getElem?_of_mem member
    obtain ⟨_,pair⟩ := List.getElem?_zip_eq_some.mp turn_
    obtain ⟨step_,item_⟩ := List.getElem?_zip_eq_some.mp pair
    rw [object] at step_
    have inside : k < parsed.length := stepped ▸ (List.getElem?_eq_some_iff.mp step_).1
    have command := List.getElem?_eq_getElem inside
    have alike := (corresponds.each k _ _ step command item_ step_).1
    have kind_ : turn.2.2.kind = parsed[k].kind := by rw [alike]
    obtain ⟨_,valid_⟩ := each k _ _ step_ command
    exact validateStep_before valid_ (kind_ ▸ kind)
  obtain ⟨blocks,shape,all⟩ := playSteps_trace required played
  refine ⟨blocks,shape,fun k block found => ?_⟩
  obtain ⟨text,step,item,turn,traced⟩ := all k block found
  obtain ⟨text_,pair⟩ := List.getElem?_zip_eq_some.mp turn
  exact ⟨text,step,text_,(List.getElem?_zip_eq_some.mp pair).1,traced⟩

/-- A plan refines its source exactly when every command that is no touch is spelled by the line of its place. -/
theorem compilePlan_refines (returned : compilePlan commands template context certificate = .ok plan) :
    Refines commands template context certificate plan ↔ ∀ parsed, parseProfileCommands commands = .ok parsed → Aligned commands parsed := by
  constructor
  · rintro ⟨case_,layout,parsed,after,compiled,corresponds,_⟩ parsed' read
    cases compiled.read.symm.trans read
    exact compiled.corresponds_iff.mp corresponds
  · intro aligned
    obtain ⟨case_,layout,parsed,after,compiled⟩ := compilePlan_ok returned
    have corresponds := compiled.corresponds_iff.mpr (aligned parsed compiled.read)
    exact ⟨case_,layout,parsed,after,compiled,corresponds,fun _ _ _ _ _ runs => runSemanticSequence_trace compiled corresponds runs⟩

end plan

def okPage : Condition := .leaf (.ui (.given [("text",.text "OK")]) .absent)

def phone : Context :=
  [("model",.text "M1"),("release",.text "14"),("fingerprint",.text "f"),("locale",.text "en"),("display",.numbers [1080,2400]),
    ("density",.number 420),("rotation",.number 0),("display_route",.text "local:0"),("display_id",.number 0)]

def okTarget : Target where
  point := some [some (1 / 2),some (1 / 2)]
  bounds := some [some (2 / 5),some (2 / 5),some (3 / 5),some (3 / 5)]

def okLayout : Layout where
  id := .given "phone"
  selector := phone
  targets := [("ok",some okTarget)]

def okTemplate : Template where
  bytes := 900
  version := .given 1
  layouts := [okLayout]
  steps := [some {target := .given "ok", before := some okPage, after := some okPage}, some {before := some okPage, after := some okPage}]

def measured : Certificate where
  id := "class-1"
  matchingCase _ := .ok (some {axisRotation := 0, viewport := none, maxErrorPx := 1})

theorem compiled_of_map {commands lines : List String}
    (mapped : (compilePlan commands okTemplate phone measured).map Plan.commands = .ok lines) :
    ∃ plan, compilePlan commands okTemplate phone measured = .ok plan ∧ plan.commands = lines := by
  cases returned : compilePlan commands okTemplate phone measured with
  | error failure => rw [returned] at mapped; cases mapped
  | ok plan =>
    rw [returned] at mapped
    exact ⟨plan,rfl,Except.ok.inj mapped⟩

theorem compilePlan_refines_home : ∃ plan, compilePlan ["click 10 20","home"] okTemplate phone measured = .ok plan ∧
    (Refines ["click 10 20","home"] okTemplate phone measured plan ↔
      ∀ parsed, parseProfileCommands ["click 10 20","home"] = .ok parsed → Aligned ["click 10 20","home"] parsed) := by
  obtain ⟨plan,returned,_⟩ := @compiled_of_map ["click 10 20","home"] ["click 180 320","home"] (by decide +kernel)
  exact ⟨plan,returned,compilePlan_refines returned⟩

/-- Behind a blank line the click of the source is sent as it is, in the place of the `home` of its second step. -/
theorem compilePlan_shifts : ∃ plan, compilePlan ["","click 10 20","home"] okTemplate phone measured = .ok plan ∧
    plan.commands = ["click 180 320","click 10 20"] ∧ ¬Refines ["","click 10 20","home"] okTemplate phone measured plan := by
  obtain ⟨plan,returned,lines⟩ := @compiled_of_map ["","click 10 20","home"] ["click 180 320","click 10 20"] (by decide +kernel)
  refine ⟨plan,returned,lines,?_⟩
  rintro ⟨case_,layout,parsed,after,compiled,corresponds,_⟩
  have read : parseProfileCommands ["","click 10 20","home"] = .ok [{kind := .click, x1 := 10, y1 := 20},{kind := .home}] := by decide +kernel
  cases compiled.read.symm.trans read
  obtain touches | ⟨other,spelled,alike⟩ := compiled.corresponds_iff.mp corresponds 1 "click 10 20" {kind := .home} rfl rfl
  · cases touches
  · have line : parseLine (strip "click 10 20").toList = .ok {kind := .click, x1 := 10, y1 := 20} := by decide +kernel
    cases spelled.symm.trans line
    exact absurd (congrArg AoaCommand.kind alike) (by decide)

/-- Every touch of a compiled plan lands inside the control that its step names, every touch at a node that was read inside the node, and the
HID point of a pixel is half a HID unit away from it at most. -/
theorem touches_land :
    (∀ (commands : List String) (template : Template) (context : Context) (certificate : Certificate) (plan : Plan),
      compilePlan commands template context certificate = .ok plan →
      ∃ case_ layout parsed after, Compiled commands template context certificate plan case_ layout parsed after ∧
        ∀ (k : Nat) (command : AoaCommand), parsed[k]? = some command → ∃ step text, template.steps[k]? = some (some step) ∧
          plan.commands[k]? = some text ∧ Emitted command step (LandsOn layout case_ context) text) ∧
    (∀ (layout : Layout) (case_ : Case) (context : Context) (command : AoaCommand) (step : Step) (found : List Node) (text : String),
      liveCommand layout case_ context command step found = .ok text →
        Emitted command step (LandsOnNode layout case_ context found) text) ∧
    (∀ (display : ℚ × ℚ) (axisRotation : ℤ) (viewport : Coordinates) (x y : ℚ) (hid : Nat × Nat),
      standardInverse x y display axisRotation viewport = .ok hid → ∃ cooked, Pointed display axisRotation viewport (x,y) hid cooked) := by
  refine ⟨fun commands template context certificate plan returned => ?_,fun _ _ _ _ _ _ _ live => liveCommand_emits live,
    fun _ _ _ _ _ _ inverse => standardInverse_ok inverse⟩
  obtain ⟨case_,layout,parsed,after,compiled⟩ := compilePlan_ok returned
  refine ⟨case_,layout,parsed,after,compiled,fun k command found => ?_⟩
  obtain ⟨_,_,place⟩ := compiled.place
  obtain ⟨raw,step,text,_,step_,text_,made,_⟩ := place k command found
  exact ⟨step,text,step_,text_,compileCommand_emits made⟩

theorem touches_land_ok : ∃ plan case_ layout parsed after, Compiled ["click 10 20","home"] okTemplate phone measured plan case_ layout parsed after ∧
    ∀ (k : Nat) (command : AoaCommand), parsed[k]? = some command → ∃ step text, okTemplate.steps[k]? = some (some step) ∧
      plan.commands[k]? = some text ∧ Emitted command step (LandsOn layout case_ phone) text := by
  obtain ⟨plan,returned,_⟩ := @compiled_of_map ["click 10 20","home"] ["click 180 320","home"] (by decide +kernel)
  exact ⟨plan,touches_land.1 _ _ _ _ plan returned⟩

end GmsRemoteTest.AoaPlayback
