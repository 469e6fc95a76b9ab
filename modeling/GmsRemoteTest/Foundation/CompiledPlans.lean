import GmsRemoteTest.Foundation.AoaSemantics

/-! What `compile_plan` returns: where its touches land, and when its commands are those of the source in their order. -/
namespace GmsRemoteTest.AoaSemantics
open AoaDisplay AoaProfile AoaCalibration Text

variable {layout : Layout} {case_ : Case} {context : Context}

structure Lands (display : ℚ × ℚ) (case_ : Case) (sides : Sides) (hid : Nat × Nat) : Prop where
  left : hid.1 ≤ 360
  right : hid.2 ≤ 640
  inside : ∃ cooked, standardPoint hid.1 hid.2 display case_.axisRotation case_.viewport = .ok cooked ∧
    ∀ landing, distanceTo landing cooked ≤ case_.maxErrorPx → sides.Contain landing

/-- A HID point lands on a named target of a layout. -/
def LandsOn (layout : Layout) (case_ : Case) (context : Context) (name : Entry String) (hid : Nat × Nat) : Prop :=
  ∃ target display frame bounds quarters, layout.targets.lookup (name.getD "") = some (some target) ∧ context.display = .ok display ∧
    rect layout.frameOf true = .ok frame ∧ rect target.bounds true = .ok bounds ∧
    Quarters.ofInt (layout.rotateQuarters.getD 0) = some quarters ∧ Lands display case_ (control quarters frame bounds display) hid

theorem namedPoint_lands {name : Entry String} {hid : Nat × Nat} (found : namedPoint layout case_ context name = .ok hid) :
    LandsOn layout case_ context name hid := by
  unfold namedPoint at found
  split at found
  · rename_i target listed
    cases shown : context.display with
    | error failure =>
      rw [shown] at found
      cases found
    | ok display =>
      rw [shown] at found
      dsimp only [Except.bind] at found
      split at found
      · cases found
      rename_i p first
      split at found
      · cases found
      rename_i inverse point
      split at found
      · cases found
      rename_i cooked again
      obtain ⟨q,pointed⟩ := standardInverse_ok point
      have same : q = cooked := by
        have both := pointed.point.symm.trans again
        cases both
        rfl
      subst same
      cases last : targetPoint target.point target.bounds layout.frameOf display (layout.rotateQuarters.getD 0)
          ⟨case_.maxErrorPx,squaredDistance p q⟩ with
      | error failure =>
        rw [last] at found
        cases found
      | ok p' =>
        rw [last] at found
        cases found
        obtain ⟨frame,bounds,quarters,x,y,framed_,bounded,turned,shape,at_,_⟩ := targetPoint_ok first
        obtain ⟨frame',bounds',quarters',x',y',framed',bounded',turned',shape',at',clear⟩ := targetPoint_ok last
        obtain rfl : frame = frame' := by
          have both := framed_.symm.trans framed'
          cases both
          rfl
        obtain rfl : bounds = bounds' := by
          have both := bounded.symm.trans bounded'
          cases both
          rfl
        obtain rfl : quarters = quarters' := Option.some.inj (turned.symm.trans turned')
        have equal : p' = p := by
          have both := shape.symm.trans shape'
          cases both
          exact at'.trans at_.symm
        obtain ⟨tolerance,fits,clear⟩ := clear pointed.wide pointed.high
        rw [equal] at clear
        exact ⟨target,display,frame,bounds,quarters,listed,shown,framed_,bounded,turned,pointed.left,pointed.right,q,pointed.point,
          fun landing lands => clear.contain fits lands⟩
  · cases found

def Alike (before after : AoaCommand) : Prop := after = {before with x1 := after.x1, y1 := after.y1, x2 := after.x2, y2 := after.y2}

def Aimed (layout : Layout) (case_ : Case) (context : Context) (step : Step) (command : AoaCommand) : Prop :=
  match command.kind with
  | .click | .longClick => namedPoint layout case_ context step.target = .ok (command.x1,command.y1)
  | .swipe => namedPoint layout case_ context step.fromTarget = .ok (command.x1,command.y1) ∧
      namedPoint layout case_ context step.toTarget = .ok (command.x2,command.y2)
  | _ => True

theorem namedPoint_fits {name : Entry String} {hid : Nat × Nat} (found : namedPoint layout case_ context name = .ok hid) :
    hid.1 ≤ AOA_TOUCH_MAX_X ∧ hid.2 ≤ AOA_TOUCH_MAX_Y := by
  obtain ⟨_,_,_,_,_,_,_,_,_,_,lands⟩ := namedPoint_lands found
  exact ⟨lands.left,lands.right⟩

theorem duration_written {n : Nat} (short : n ≤ MAX_TOTAL_RUNTIME_MS) :
    digits (toString n).toList = true ∧ int (toString n).toList = .ok n := by
  have text : (toString n).toList = Nat.toDigits 10 n := by simp
  have few : (Nat.toDigits 10 n).length ≤ MAX_INT_DIGITS := by
    have six : (Nat.toDigits 10 n).length ≤ 6 :=
      (Nat.length_toDigits_le_iff (by decide) (by decide)).mpr (by unfold MAX_TOTAL_RUNTIME_MS at short; omega)
    exact six.trans (by decide)
  have number := int_toDigits few
  rw [text]
  refine ⟨?_,number⟩
  unfold digits
  rw [int_digits number,Bool.and_true,decide_eq_true_eq]
  exact Nat.toDigits_ne_nil

theorem compileCommand_touch {raw text : String} {command : AoaCommand} {step : Step} {line : List Char} (accepted : parseLine line = .ok command)
    (touches : command.kind.touches = true) (short : estimateRuntimeMs command ≤ MAX_TOTAL_RUNTIME_MS)
    (compiled : compileCommand layout case_ context raw command step = .ok text) :
    strip text = text ∧ text ≠ "" ∧ ∃ after, parseLine text.toList = .ok after ∧ Alike command after ∧ Aimed layout case_ context step after := by
  obtain ⟨_,parsed,_⟩ := parseLine_ok accepted
  have click : ∀ kind x y, kind = .click ∨ kind = .longClick → command = {kind := kind, x1 := x, y1 := y} →
      (namedPoint layout case_ context step.target).map (fun point => clickText kind point.1 point.2) = .ok text →
      strip text = text ∧ text ≠ "" ∧ ∃ after, parseLine text.toList = .ok after ∧ Alike command after ∧ Aimed layout case_ context step after := by
    rintro kind x y touch rfl written
    cases aim : namedPoint layout case_ context step.target with
    | error failure =>
      rw [aim] at written
      cases written
    | ok hid =>
      rw [aim] at written
      cases written
      obtain ⟨left,right⟩ := namedPoint_fits aim
      refine ⟨(clickText_strip _ _ _).1,(clickText_strip _ _ _).2,_,parseLine_clickText touch left right,rfl,?_⟩
      unfold Aimed
      obtain rfl | rfl := touch <;> exact aim
  unfold compileCommand at compiled
  cases kind : command.kind with
  | click =>
    rw [kind] at compiled parsed
    rw [parseArgs] at parsed
    split at parsed
    · exact click .click _ _ (.inl rfl) (Except.ok.inj parsed).symm compiled
    · cases parsed
  | longClick =>
    rw [kind] at compiled parsed
    rw [parseArgs] at parsed
    split at parsed
    · exact click .longClick _ _ (.inr rfl) (Except.ok.inj parsed).symm compiled
    · cases parsed
  | swipe =>
    rw [kind] at compiled parsed
    dsimp only at compiled
    rw [parseArgs] at parsed
    split at parsed
    · rename_i ms _ _ _
      cases number : int ms with
      | error failure =>
        rw [number] at parsed
        cases parsed
      | ok duration =>
        rw [number] at parsed
        cases parsed
        cases first : namedPoint layout case_ context step.fromTarget with
        | error failure =>
          rw [first] at compiled
          cases compiled
        | ok hid =>
          cases second : namedPoint layout case_ context step.toTarget with
          | error failure =>
            rw [first,second] at compiled
            cases compiled
          | ok hid' =>
            rw [first,second] at compiled
            cases compiled
            obtain ⟨left,right⟩ := namedPoint_fits first
            obtain ⟨left',right'⟩ := namedPoint_fits second
            have brief : duration ≤ MAX_TOTAL_RUNTIME_MS := (le_max_left duration 100).trans ((Nat.le_add_right _ 1000).trans short)
            obtain ⟨digits_,number_⟩ := duration_written brief
            exact ⟨(swipeText_strip ..).1,(swipeText_strip ..).2,_,parseLine_swipeText left right left' right' digits_ number_,rfl,first,second⟩
    · cases parsed
  | write | key | wake | home | back | sleep => rw [kind] at touches; cases touches

theorem compileCommand_still {raw : String} {command : AoaCommand} {step : Step} (still : command.kind.touches = false) :
    compileCommand layout case_ context raw command step = .ok raw := by
  unfold compileCommand
  cases kind : command.kind <;> rw [kind] at still <;> first | rfl | cases still

theorem aimed_still {command : AoaCommand} {step : Step} (still : command.kind.touches = false) : Aimed layout case_ context step command := by
  unfold Aimed
  cases kind : command.kind <;> rw [kind] at still <;> trivial

theorem compileCommands_ok {commands texts : List String} {parsed : List AoaCommand} {steps : List (Option Step)}
    (enough : parsed.length ≤ commands.length) (steps_ : steps.length = parsed.length) (objects : ∀ step ∈ steps, step.isSome)
    (compiled : compileCommands layout case_ context commands parsed steps = .ok texts) :
    texts.length = parsed.length ∧ ∀ (k : Nat) (command : AoaCommand), parsed[k]? = some command → ∃ (raw : String) (step : Step) (text : String), commands[k]? = some raw ∧
      steps[k]? = some (some step) ∧ texts[k]? = some text ∧ compileCommand layout case_ context raw command step = .ok text := by
  induction parsed generalizing commands steps texts with
  | nil =>
    have none_ : texts = [] := by
      cases commands with
      | nil => exact (Except.ok.inj compiled).symm
      | cons raw commands => exact (Except.ok.inj compiled).symm
    subst none_
    exact ⟨rfl,fun k command found => by simp at found⟩
  | cons command parsed ih =>
    cases commands with
    | nil => cases enough
    | cons raw commands =>
      cases steps with
      | nil => cases steps_
      | cons step steps =>
        obtain ⟨object,objects'⟩ := List.forall_mem_cons.mp objects
        obtain ⟨step,rfl⟩ := Option.isSome_iff_exists.mp object
        rw [compileCommands] at compiled
        cases first : compileCommand layout case_ context raw command step with
        | error failure =>
          rw [first] at compiled
          cases compiled
        | ok text =>
          rw [first] at compiled
          dsimp only [Except.bind] at compiled
          cases rest : compileCommands layout case_ context commands parsed steps with
          | error failure =>
            rw [rest] at compiled
            cases compiled
          | ok others =>
            rw [rest] at compiled
            cases compiled
            obtain ⟨length,all⟩ := ih (by simpa using enough) (by simpa using steps_) objects' rest
            refine ⟨by simpa using length,fun k found at_ => ?_⟩
            cases k with
            | zero =>
              cases at_
              exact ⟨raw,step,text,rfl,rfl,rfl,first⟩
            | succ k => exact all k found at_

theorem parseProfileCommands_ok {commands : List String} {parsed : List AoaCommand} (accepted : parseProfileCommands commands = .ok parsed) :
    List.Forall₂ (fun text command => parseLine text = .ok command) (visible commands) parsed ∧ parsed ≠ [] ∧
      ∀ command ∈ parsed, estimateRuntimeMs command ≤ MAX_TOTAL_RUNTIME_MS := by
  unfold parseProfileCommands at accepted
  split at accepted
  · cases accepted
  split at accepted
  · cases accepted
  cases read : (visible commands).mapM parseLine with
  | error failure =>
    rw [read] at accepted
    cases accepted
  | ok found =>
    rw [read] at accepted
    dsimp only [Except.bind] at accepted
    split at accepted
    · cases accepted
    rename_i some_
    split at accepted
    · cases accepted
    rename_i quick
    cases accepted
    refine ⟨Mapped.mapM_ok.mp read,some_,fun command member => ?_⟩
    exact (List.single_le_sum (fun _ _ => Nat.zero_le _) _ (List.mem_map_of_mem member)).trans (not_lt.mp quick)

theorem visible_length_le (commands : List String) : (visible commands).length ≤ commands.length := by
  unfold visible
  exact (List.length_filter_le _ _).trans_eq (List.length_map _)

theorem visible_eq {commands : List String} (whole : (visible commands).length = commands.length) :
    visible commands = commands.map fun line => (strip line).toList := by
  have all := List.length_filter_eq_length_iff.mp (whole.trans (List.length_map _).symm)
  exact List.filter_eq_self.mpr all

theorem parseLine_nil {command : AoaCommand} : parseLine [] ≠ .ok command := by
  have head : (AoaProfile.partition ([] : List Char)).1 = [] := rfl
  have none_ : Kind.ofWord (String.ofList []) = none := by decide
  unfold parseLine parseAction
  rw [head,none_]
  nofun

theorem validateTemplate_ok {template : Template} {commands : List String} (accepted : validateTemplate template commands = .ok ()) :
    ∃ parsed : List AoaCommand, parseProfileCommands commands = .ok parsed ∧ template.steps.length = parsed.length ∧
      (template.layouts.map Layout.id).Nodup ∧ ∀ (k : Nat) (step : Option Step) (command : AoaCommand), template.steps[k]? = some step → parsed[k]? = some command →
        ∃ index, validateStep template.layouts index step command = .ok () := by
  unfold validateTemplate at accepted
  split at accepted
  · cases accepted
  cases read : parseProfileCommands commands with
  | error failure =>
    rw [read] at accepted
    cases accepted
  | ok parsed =>
    rw [read] at accepted
    dsimp only [Except.bind] at accepted
    split at accepted
    · cases accepted
    split at accepted
    · cases accepted
    split at accepted
    · cases accepted
    rename_i length
    split at accepted
    · cases accepted
    split at accepted
    · cases accepted
    rename_i distinct
    split at accepted
    · cases accepted
    rename_i steps_
    refine ⟨parsed,rfl,not_not.mp length,not_not.mp distinct,fun k step command at_ found => ?_⟩
    have place : ((template.steps.zip parsed).zipIdx)[k]? = some ((step,command),0 + k) := by
      rw [List.getElem?_zipIdx,(List.getElem?_zip_eq_some (z := (step,command))).mpr ⟨at_,found⟩]
      rfl
    have inside : ((step,command),0 + k) ∈ (template.steps.zip parsed).zipIdx := List.mem_of_getElem? place
    obtain ⟨_,valid⟩ := Mapped.mapM_mem steps_ inside
    exact ⟨_,valid⟩

structure Compiled (commands : List String) (template : Template) (context : Context) (certificate : Certificate) (plan : Plan) (case_ : Case)
    (layout : Layout) (parsed after : List AoaCommand) : Prop where
  valid : validateTemplate template commands = .ok ()
  matched : certificate.matchingCase context = .ok (some case_)
  chosen : selectLayout template context = .ok layout
  read : parseProfileCommands commands = .ok parsed
  texts : compileCommands layout case_ context commands parsed template.steps = .ok plan.commands
  again : parseProfileCommands plan.commands = .ok after
  made : plan = {sourceCommands := commands, commands := plan.commands, template, context, certificateId := certificate.id, layoutId := layout.id}

section plan
variable {commands : List String} {template : Template} {certificate : Certificate} {plan : Plan} {parsed after : List AoaCommand}

theorem compilePlan_ok (returned : compilePlan commands template context certificate = .ok plan) :
    ∃ case_ layout parsed after, Compiled commands template context certificate plan case_ layout parsed after := by
  unfold compilePlan at returned
  cases accepted : validateTemplate template commands with
  | error failure => rw [accepted] at returned; cases returned
  | ok _ =>
    rw [accepted] at returned
    dsimp only [Except.bind] at returned
    cases found : certificate.matchingCase context with
    | error failure => rw [found] at returned; cases returned
    | ok found_ =>
      rw [found] at returned
      cases found_ with
      | none => cases returned
      | some case_ =>
        dsimp only at returned
        cases chosen : selectLayout template context with
        | error failure => rw [chosen] at returned; cases returned
        | ok layout =>
          rw [chosen] at returned
          dsimp only at returned
          cases read : parseProfileCommands commands with
          | error failure => rw [read] at returned; cases returned
          | ok parsed =>
            rw [read] at returned
            dsimp only at returned
            cases texts : compileCommands layout case_ context commands parsed template.steps with
            | error failure => rw [texts] at returned; cases returned
            | ok compiled =>
              rw [texts] at returned
              dsimp only at returned
              cases again : parseProfileCommands compiled with
              | error failure => rw [again] at returned; cases returned
              | ok after =>
                rw [again] at returned
                cases returned
                exact ⟨case_,layout,parsed,after,accepted,found,chosen,read,texts,again,rfl⟩

/-- Every parsed command that is no touch is spelled by the line of its place, blank lines counted. -/
def Aligned (commands : List String) (parsed : List AoaCommand) : Prop :=
  ∀ (k : Nat) (raw : String) (command : AoaCommand), commands[k]? = some raw → parsed[k]? = some command →
    command.kind.touches = true ∨ ∃ other, parseLine (strip raw).toList = .ok other ∧ Alike command other

structure Corresponds (layout : Layout) (case_ : Case) (context : Context) (steps : List (Option Step)) (parsed after : List AoaCommand) : Prop where
  lines : after.length = parsed.length
  stepped : steps.length = parsed.length
  each : ∀ (k : Nat) (command other : AoaCommand) (step : Step), parsed[k]? = some command → after[k]? = some other →
    steps[k]? = some (some step) → Alike command other ∧ Aimed layout case_ context step other

theorem Compiled.place (compiled : Compiled commands template context certificate plan case_ layout parsed after) :
    plan.commands.length = parsed.length ∧ template.steps.length = parsed.length ∧ ∀ (k : Nat) (command : AoaCommand), parsed[k]? = some command →
      ∃ (raw : String) (step : Step) (text : String), commands[k]? = some raw ∧ template.steps[k]? = some (some step) ∧
        plan.commands[k]? = some text ∧ compileCommand layout case_ context raw command step = .ok text ∧
        (∃ line, parseLine line = .ok command) ∧ estimateRuntimeMs command ≤ MAX_TOTAL_RUNTIME_MS := by
  obtain ⟨parsed',read,length,_,each⟩ := validateTemplate_ok compiled.valid
  cases compiled.read.symm.trans read
  obtain ⟨lines,_,quick⟩ := parseProfileCommands_ok compiled.read
  have enough : parsed.length ≤ commands.length := lines.length_eq.symm.trans_le (visible_length_le commands)
  have objects : ∀ step ∈ template.steps, step.isSome := by
    intro step member
    obtain ⟨k,inside,rfl⟩ := List.getElem_of_mem member
    obtain ⟨_,valid⟩ := each k _ parsed[k] (List.getElem?_eq_getElem inside) (List.getElem?_eq_getElem (length ▸ inside))
    cases step : template.steps[k] with
    | none => rw [step] at valid; cases valid
    | some step => rfl
  obtain ⟨same,all⟩ := compileCommands_ok enough length objects compiled.texts
  refine ⟨same,length,fun k command found => ?_⟩
  obtain ⟨raw,step,text,raw_,step_,text_,made⟩ := all k command found
  have member := List.mem_of_getElem? found
  obtain ⟨line,_,accepted⟩ := Mapped.forall₂_right lines member
  exact ⟨raw,step,text,raw_,step_,text_,made,⟨line,accepted⟩,quick command member⟩

theorem visible_of_read {texts : List String} (all : ∀ text ∈ texts, ∃ command, parseLine (strip text).toList = .ok command) :
    visible texts = texts.map fun line => (strip line).toList := by
  unfold visible
  rw [List.filter_eq_self]
  intro line member
  obtain ⟨text,inside,rfl⟩ := List.mem_map.mp member
  obtain ⟨command,read⟩ := all text inside
  refine decide_eq_true fun blank => ?_
  rw [blank] at read
  exact parseLine_nil read

theorem read_at {texts : List String} {after : List AoaCommand} (read : parseProfileCommands texts = .ok after)
    (shape : visible texts = texts.map fun line => (strip line).toList) {k : Nat} {text : String} {other : AoaCommand} (at_ : texts[k]? = some text)
    (found : after[k]? = some other) : parseLine (strip text).toList = .ok other := by
  obtain ⟨lines,_⟩ := parseProfileCommands_ok read
  rw [shape] at lines
  obtain ⟨inside,line⟩ := List.getElem?_eq_some_iff.mp at_
  obtain ⟨inside',same⟩ := List.getElem?_eq_some_iff.mp found
  have each := lines.get (by simpa using inside) inside'
  simpa [line,same] using each

theorem Compiled.corresponds_iff (compiled : Compiled commands template context certificate plan case_ layout parsed after) :
    Corresponds layout case_ context template.steps parsed after ↔ Aligned commands parsed := by
  obtain ⟨length,stepped,place⟩ := compiled.place
  obtain ⟨lines,_⟩ := parseProfileCommands_ok compiled.again
  constructor
  · intro corresponds k raw command at_ found
    obtain ⟨raw',step,text,raw_,step_,text_,made,_,_⟩ := place k command found
    cases raw_.symm.trans at_
    cases touches : command.kind.touches with
    | true => exact .inl rfl
    | false =>
      have shape := visible_eq ((lines.length_eq.trans corresponds.lines).trans length.symm)
      have inside : k < after.length := corresponds.lines ▸ (List.getElem?_eq_some_iff.mp found).1
      have other := List.getElem?_eq_getElem inside
      have alike := (corresponds.each k command _ step found other step_).1
      have same : text = raw := by
        rw [compileCommand_still touches] at made
        exact (Except.ok.inj made).symm
      exact .inr ⟨_,same ▸ read_at compiled.again shape text_ other,alike⟩
  · intro aligned
    have each : ∀ (k : Nat) (command : AoaCommand), parsed[k]? = some command → ∃ text step other, plan.commands[k]? = some text ∧
        template.steps[k]? = some (some step) ∧ parseLine (strip text).toList = .ok other ∧ Alike command other ∧
        Aimed layout case_ context step other := by
      intro k command found
      obtain ⟨raw,step,text,raw_,step_,text_,made,⟨line,accepted⟩,quick⟩ := place k command found
      cases touches : command.kind.touches with
      | true =>
        obtain ⟨stripped,_,other,read,alike,aimed⟩ := compileCommand_touch accepted touches quick made
        exact ⟨text,step,other,text_,step_,by rwa [stripped],alike,aimed⟩
      | false =>
        obtain touch | ⟨other,read,alike⟩ := aligned k raw command raw_ found
        · rw [touches] at touch
          cases touch
        · rw [compileCommand_still touches] at made
          cases made
          have kind : other.kind = command.kind := by rw [alike]
          exact ⟨raw,step,other,text_,step_,read,alike,aimed_still (kind ▸ touches)⟩
    have shape : visible plan.commands = plan.commands.map fun line => (strip line).toList := by
      refine visible_of_read fun text member => ?_
      obtain ⟨k,inside,rfl⟩ := List.getElem_of_mem member
      obtain ⟨text',_,other,text_,_,read,_,_⟩ := each k _ (List.getElem?_eq_getElem (length ▸ inside))
      cases (List.getElem?_eq_getElem inside).symm.trans text_
      exact ⟨other,read⟩
    refine ⟨?_,stepped,fun k command other step found at_ step_ => ?_⟩
    · have same := lines.length_eq
      rw [shape,List.length_map,length] at same
      exact same.symm
    · obtain ⟨text,step',other',text_,step_',read,alike,aimed⟩ := each k command found
      cases step_'.symm.trans step_
      have same := (read_at compiled.again shape text_ at_).symm.trans read
      cases same
      exact ⟨alike,aimed⟩

end plan

end GmsRemoteTest.AoaSemantics
