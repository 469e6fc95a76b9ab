import GmsRemoteTest.WorkerAgent.AoaObservation
import GmsRemoteTest.Foundation.CompiledPlans
import GmsRemoteTest.Lib.Calls

/-! `run_semantic_sequence`: each command of a plan is sent after its page was seen, as it was compiled or with the point of the control that
the page shows. -/
namespace GmsRemoteTest.AoaPlayback
open AoaDisplay AoaProfile AoaSemantics AoaObservation Calls Text

/-- What the playback calls: the gate with its pause, time budget and binding, the callbacks, the clock and the observer, and the input. -/
inductive Call
  | gate
  | tick
  | event (phase : String) (index : Nat)
  | progress (index : Nat)
  | clock
  | sleep (seconds : ℚ)
  | evaluate (condition : Condition) (timeout : ℚ)
  | verifyContext
  | nodes (timeout : ℚ)
  | transmit (text : String)

/-- The outcome of `observer.evaluate`. -/
inductive Seen
  | value (value : Bool)
  | unavailable (message : String)
  | raised (message : String)
deriving DecidableEq

def Reply : Call → Type
  | .gate | .tick | .progress _ | .verifyContext | .transmit _ => Except String Unit
  | .event _ _ | .sleep _ => Unit
  | .clock => ℚ
  | .evaluate _ _ => Seen
  | .nodes _ => Except String (List Node)

inductive Stop
  | raised (message : String)
  | pending

abbrev Play (α : Type) : Type := Program Call Reply (Except Stop α)

def raising {α : Type} (result : Except String α) : Except Stop α := result.mapError .raised

def gate : Play Unit := .attempt .gate raising

def event (phase : String) (index : Nat) : Play Unit := .attempt (.event phase index) .ok

def clock {α : Type} (next : ℚ → Play α) : Play α := .ask .clock next

def pause (seconds : ℚ) {α : Type} (next : Play α) : Play α := .ask (.sleep seconds) fun _ => next

def evaluate (condition : Condition) (timeout : ℚ) {α : Type} (next : Seen → Play α) : Play α := .ask (.evaluate condition timeout) next

def waitAgain (limit : ℚ) (unavailable : Option String) (next : Play Unit) : Play Unit :=
  Program.andThen (.attempt .tick raising) fun (_ : Unit) => clock fun now =>
    if limit ≤ now then .done (.error (.raised (unavailable.getD "语义页面断言超时；请检查当前页面与模板")))
    else clock fun now => pause (min (1 / 4) (max 0 (limit - now))) next

def waitLoop (condition : Condition) : Nat → ℚ → Option String → Play Unit
  | 0, _, _ => .done (.error .pending)
  | fuel + 1, until_, unavailable => clock fun beforeGate => gate.andThen fun _ => clock fun now =>
    let limit := until_ + (now - beforeGate)
    clock fun now => evaluate condition (max (1 / 10) (min 5 (limit - now))) fun seen => match seen with
      | .value true => .done (.ok ())
      | .value false => waitAgain limit unavailable (waitLoop condition fuel limit unavailable)
      | .unavailable message => waitAgain limit (some message) (waitLoop condition fuel limit (some message))
      | .raised message => .done (.error (.raised message))

def waitCondition (fuel : Nat) (condition : Option Condition) (timeout : ℚ) : Play Unit :=
  match condition with
  | none => .done (.ok ())
  | some condition => clock fun now => waitLoop condition fuel (now + timeout) none

def sleepLoop : Nat → ℚ → Play Unit
  | 0, _ => .done (.error .pending)
  | fuel + 1, until_ => clock fun now =>
    if ¬(now < until_) then .done (.ok ())
    else clock fun beforeGate => gate.andThen fun _ => clock fun now =>
      let limit := until_ + (now - beforeGate)
      clock fun now => pause (min (1 / 5) (max 0 (limit - now))) (sleepLoop fuel limit)

section layout
variable (layout : Layout) (case_ : Case) (context : Context)

def Layout.selects (name : Entry String) : Bool :=
  match layout.targets.lookup (name.getD "") with
  | some (some target) => target.selects
  | _ => false

def livePoint (found : List Node) (name : Entry String) : Except String (Nat × Nat) :=
  match layout.targets.lookup (name.getD "") with
  | some (some target) =>
    if ¬target.selects then .error "动态滑动的起点和终点均须配置唯一元素选择器"
    else (select found (target.selector.getD [])).bind fun nodes => match nodes with
      | [node] => (rect (some (node.bounds.map fun side => some (side : ℚ))) false).bind fun sides =>
        let tolerance := min 8 (min ((sides.right - sides.left) / 4) ((sides.bottom - sides.top) / 4))
        if tolerance < case_.maxErrorPx then .error "当前控件过小，超过实测输入误差的安全范围"
        else (rect layout.frameOf true).bind fun frame => context.display.bind fun display =>
          let x := (sides.left + sides.right) / 2
          let y := (sides.top + sides.bottom) / 2
          if ¬(frame.left * display.1 < x ∧ x < frame.right * display.1 ∧ frame.top * display.2 < y ∧ y < frame.bottom * display.2) then
            .error "目标元素位于已验证应用窗口之外"
          else (standardInverse x y display case_.axisRotation case_.viewport).bind fun point =>
            (standardPoint point.1 point.2 display case_.axisRotation case_.viewport).bind fun cooked =>
              if Budget.exceeds ⟨case_.maxErrorPx,squaredDistance (x,y) cooked⟩ tolerance then .error "控件中心量化后的误差超过安全范围"
              else .ok point
      | _ => .error "目标元素不存在，停止自动点击"
  | _ => .error (name.getD "")

def liveCommand (command : AoaCommand) (step : Step) (found : List Node) : Except String String :=
  ((step.names command.kind).mapM (livePoint layout case_ context found)).bind fun points => match command.kind,points with
    | .swipe,[first,last] => .ok (swipeText first.1 first.2 (toString command.durationMs) last.1 last.2)
    | .swipe,_ => .error ""
    | kind,point :: _ => .ok (clickText kind point.1 point.2)
    | _,[] => .error ""

def resolveLiveCommand (text : String) (step : Step) (timeout : ℚ) : Play String :=
  match parseProfileCommands [text] with
  | .ok (command :: _) =>
    if ¬(step.names command.kind).any fun name => Layout.selects layout name then .done (.ok text)
    else Program.andThen (.attempt (.nodes timeout) raising) fun found => .done (raising (liveCommand layout case_ context command step found))
  | .ok [] => .done (.error (.raised ""))
  | .error message => .done (.error (.raised message))

def skipped (step : Step) (timeout : ℚ) : Play Bool :=
  match step.skipIf with
  | none => .done (.ok false)
  | some condition => evaluate condition (min 5 timeout) fun seen => match seen with
    | .value value => .done (.ok value)
    | .unavailable _ => .done (.ok false)
    | .raised message => .done (.error (.raised message))

def input (fuel index : Nat) (text : String) (step : Step) (item : AoaCommand) (timeout : ℚ) : Play Unit :=
  if item.kind = .sleep then clock fun now => sleepLoop fuel (now + item.sleepMs / 1000)
  else Program.andThen (.attempt .verifyContext raising) fun (_ : Unit) => gate.andThen fun _ =>
    (resolveLiveCommand layout case_ context text step timeout).andThen fun text => (event "running" index).andThen fun _ =>
      .attempt (.transmit text) raising

def playStep (fuel index : Nat) (text : String) (step : Step) (item : AoaCommand) : Play Unit :=
  let timeout := step.timeoutSeconds.getD 3
  gate.andThen fun _ => (event "checking" index).andThen fun _ => (skipped step timeout).andThen fun done =>
    if done then event "skipped" index
    else (waitCondition fuel step.before timeout).andThen fun _ => gate.andThen fun _ =>
      (input layout case_ context fuel index text step item timeout).andThen fun _ => (event "verifying" index).andThen fun _ =>
        (waitCondition fuel step.after timeout).andThen fun _ => (event "completed" index).andThen fun _ => .attempt (.progress index) raising

def playSteps (fuel : Nat) : Nat → List (String × Option Step × AoaCommand) → Play Unit
  | _, [] => .done (.ok ())
  | index, (text,step,item) :: rest => match step with
    | some step => (playStep layout case_ context fuel index text step item).andThen fun _ => playSteps fuel (index + 1) rest
    | none => .done (.error (.raised ""))

end layout

def validatePlan (plan : Plan) (bytes : Nat) (certificate : Certificate) : Except String Unit :=
  if 131072 < bytes then .error "AOA evidence exceeds its size limit"
  else (compilePlan plan.sourceCommands plan.template plan.context certificate).bind fun expected =>
    if expected.commands ≠ plan.commands ∨ expected.certificateId ≠ plan.certificateId ∨ expected.layoutId ≠ plan.layoutId then
      .error "semantic plan differs from its reviewed layout and reference evidence"
    else .ok ()

def runSemanticSequence (fuel : Nat) (commands : List String) (plan : Plan) (bytes : Nat) (certificate : Certificate) : Play Unit :=
  Program.andThen (.done (raising (validatePlan plan bytes certificate))) fun _ =>
    if commands ≠ plan.sourceCommands then .done (.error (.raised "semantic source commands differ from the authenticated plan"))
    else Program.andThen (.done (raising (certificate.matchingCase plan.context))) fun found =>
      match found,plan.template.layouts.find? fun layout => layout.id = plan.layoutId with
      | some case_,some layout => Program.andThen (.done (raising (parseProfileCommands plan.commands))) fun items =>
        playSteps layout case_ plan.context fuel 1 (plan.commands.zip (plan.template.steps.zip items))
      | _,_ => .done (.error (.raised ""))

variable {layout : Layout} {case_ : Case} {context : Context}

/-- A HID point lands on the only node that the selector of a named target finds. -/
def LandsOnNode (layout : Layout) (case_ : Case) (context : Context) (found : List Node) (name : Entry String) (hid : Nat × Nat) : Prop :=
  ∃ target node sides display, layout.targets.lookup (name.getD "") = some (some target) ∧
    found.filter (fun node => node.agrees (target.selector.getD [])) = [node] ∧
    rect (some (node.bounds.map fun side => some (side : ℚ))) false = .ok sides ∧ context.display = .ok display ∧
    Lands display case_ ⟨sides.left,sides.top,sides.right,sides.bottom⟩ hid

theorem middle_clear (sides : Rect) : Clear ⟨sides.left,sides.top,sides.right,sides.bottom⟩ ((sides.left + sides.right) / 2,(sides.top + sides.bottom) / 2)
    (min 8 (min ((sides.right - sides.left) / 4) ((sides.bottom - sides.top) / 4))) := by
  have least := min_le_right 8 (min ((sides.right - sides.left) / 4) ((sides.bottom - sides.top) / 4))
  have first := least.trans (min_le_left _ _)
  have second := least.trans (min_le_right _ _)
  have wide := sides.wide
  have high := sides.high
  constructor <;> constructor <;> dsimp only <;> linarith

theorem livePoint_lands {found : List Node} {name : Entry String} {hid : Nat × Nat}
    (point : livePoint layout case_ context found name = .ok hid) : LandsOnNode layout case_ context found name hid := by
  unfold livePoint at point
  split at point
  · rename_i target listed
    split at point
    · cases point
    cases chosen : select found (target.selector.getD []) with
    | error failure => rw [chosen] at point; cases point
    | ok nodes =>
      rw [chosen] at point
      dsimp only [Except.bind] at point
      split at point
      · rename_i node
        split at point
        · cases point
        rename_i sides measured
        split at point
        · cases point
        split at point
        · cases point
        split at point
        · cases point
        rename_i display shown
        split at point
        · cases point
        split at point
        · cases point
        rename_i inverse
        split at point
        · cases point
        rename_i cooked again
        split at point
        · cases point
        rename_i fits
        cases point
        obtain ⟨q,pointed⟩ := standardInverse_ok inverse
        have same : q = cooked := by
          have both := pointed.point.symm.trans again
          cases both
          rfl
        subst same
        have only : found.filter (fun node => node.agrees (target.selector.getD [])) = [node] := by
          unfold select at chosen
          dsimp only at chosen
          split at chosen
          · cases chosen
          · exact Except.ok.inj chosen
        exact ⟨target,node,sides,display,listed,only,measured,shown,pointed.left,pointed.right,q,pointed.point,
          fun landing lands => (middle_clear sides).contain fits lands⟩
      · cases point
  · cases point

/-- The line of a touch whose points land where they should. -/
def Emitted (command : AoaCommand) (step : Step) (lands : Entry String → Nat × Nat → Prop) (text : String) : Prop :=
  match command.kind with
  | .click | .longClick => ∃ hid, text = clickText command.kind hid.1 hid.2 ∧ lands step.target hid
  | .swipe => ∃ first last, text = swipeText first.1 first.2 (toString command.durationMs) last.1 last.2 ∧
      lands step.fromTarget first ∧ lands step.toTarget last
  | _ => True

theorem compileCommand_emits {raw text : String} {command : AoaCommand} {step : Step}
    (compiled : compileCommand layout case_ context raw command step = .ok text) : Emitted command step (LandsOn layout case_ context) text := by
  unfold compileCommand at compiled
  unfold Emitted
  have click : ∀ kind, (namedPoint layout case_ context step.target).map (fun point => clickText kind point.1 point.2) = .ok text →
      ∃ hid, text = clickText kind hid.1 hid.2 ∧ LandsOn layout case_ context step.target hid := by
    intro kind written
    cases point : namedPoint layout case_ context step.target with
    | error failure => rw [point] at written; cases written
    | ok hid =>
      rw [point] at written
      exact ⟨hid,(Except.ok.inj written).symm,namedPoint_lands point⟩
  cases kind : command.kind with
  | click | longClick => rw [kind] at compiled; exact click _ compiled
  | swipe =>
    rw [kind] at compiled
    dsimp only at compiled
    cases first : namedPoint layout case_ context step.fromTarget with
    | error failure => rw [first] at compiled; cases compiled
    | ok hid =>
      cases last : namedPoint layout case_ context step.toTarget with
      | error failure => rw [first,last] at compiled; cases compiled
      | ok hid' =>
        rw [first,last] at compiled
        exact ⟨hid,hid',(Except.ok.inj compiled).symm,namedPoint_lands first,namedPoint_lands last⟩
  | write | key | wake | home | back | sleep => trivial

theorem liveCommand_emits {command : AoaCommand} {step : Step} {found : List Node} {text : String}
    (live : liveCommand layout case_ context command step found = .ok text) : Emitted command step (LandsOnNode layout case_ context found) text := by
  unfold liveCommand at live
  unfold Emitted
  cases read : (step.names command.kind).mapM (livePoint layout case_ context found) with
  | error failure => rw [read] at live; cases live
  | ok points =>
    rw [read] at live
    have each := Mapped.mapM_ok.mp read
    dsimp only [Except.bind] at live
    have click : ∀ kind, (kind = .click ∨ kind = .longClick) → command.kind = kind →
        ∃ hid, text = clickText kind hid.1 hid.2 ∧ LandsOnNode layout case_ context found step.target hid := by
      intro kind touch same
      have names : step.names command.kind = [step.target] := by
        rw [same]
        obtain rfl | rfl := touch <;> rfl
      rw [names] at each
      obtain ⟨hid,_,point,⟨⟩,rfl⟩ := List.forall₂_cons_left_iff.mp each
      rw [same] at live
      refine ⟨hid,?_,livePoint_lands point⟩
      obtain rfl | rfl := touch <;> exact (Except.ok.inj live).symm
    cases kind : command.kind with
    | click => exact click .click (.inl rfl) kind
    | longClick => exact click .longClick (.inr rfl) kind
    | swipe =>
      rw [kind] at live each
      obtain ⟨first,_,point,rest,rfl⟩ := List.forall₂_cons_left_iff.mp each
      obtain ⟨last,_,point',⟨⟩,rfl⟩ := List.forall₂_cons_left_iff.mp rest
      exact ⟨first,last,(Except.ok.inj live).symm,livePoint_lands point,livePoint_lands point'⟩
    | write | key | wake | home | back | sleep => trivial

end GmsRemoteTest.AoaPlayback
