import GmsRemoteTest.Foundation.AoaCondition
import GmsRemoteTest.Foundation.TouchMapping
import GmsRemoteTest.Lib.Mapped

/-! Semantic templates, and `compile_plan`: the touches of a command list are put where the certified transform of a device sees the named
controls of its layout. -/
namespace GmsRemoteTest.AoaSemantics
open AoaDisplay AoaProfile AoaCalibration Kleene Text

structure Target where
  point : Coordinates
  bounds : Coordinates
  /-- Nothing stands for every value that is false. -/
  selector : Entry Selector := .absent

abbrev Context := List (String × ContextValue)

def Context.get (context : Context) (key : String) : ContextValue := (context.lookup key).getD .null

/-- A layout; one that is no object is without an ID, and what is no list or dictionary of it is empty. -/
structure Layout where
  id : Entry String
  selector : Context
  frame : Option Coordinates := none
  rotateQuarters : Entry ℤ := .absent
  targets : List (String × Option Target)

structure Step where
  target : Entry String := .absent
  fromTarget : Entry String := .absent
  toTarget : Entry String := .absent
  timeoutSeconds : Entry ℚ := .absent
  before : Option Condition := none
  after : Option Condition := none
  skipIf : Option Condition := none

/-- A template with the length of its JSON text; a step is none that is no object. -/
structure Template where
  bytes : Nat
  version : Entry ℤ
  layouts : List Layout
  steps : List (Option Step)

structure Case where
  axisRotation : ℤ
  viewport : Coordinates
  maxErrorPx : ℚ

/-- A certificate, with what `matching_case` finds in it. -/
structure Certificate where
  id : String
  matchingCase : Context → Except String (Option Case)

def LAYOUT_KEYS : List String :=
  ["model","release","fingerprint","display","density","rotation","locale","display_route","display_id","board","hardware","kernel"]

def REQUIRED_KEYS : List String := ["model","release","fingerprint","locale","display","density","rotation","display_route","display_id"]

def Layout.frameOf (layout : Layout) : Coordinates := layout.frame.getD (some [some 0,some 0,some 1,some 1])

def Target.selects (target : Target) : Bool := target.selector ≠ .absent && target.selector ≠ .given []

def validateTarget (layout : Layout) : String × Option Target → Except String Unit
  | (name,target) => match target with
    | none => .error "invalid semantic target"
    | some target =>
      if ¬identifier name then .error "invalid semantic target"
      else (targetPoint target.point target.bounds layout.frameOf (1000,1000) 0 ⟨0,0⟩).bind fun _ =>
        if target.selects then validateSelector target.selector else .ok ()

def validateLayout (layout : Layout) : Except String Unit :=
  match layout.id with
  | .given id =>
    let keys := layout.selector.map Prod.fst
    if ¬identifier id then .error "semantic layout requires a stable ID"
    else if (REQUIRED_KEYS.any fun key => key ∉ keys) ∨ (keys.any fun key => key ∉ LAYOUT_KEYS) then
      .error "semantic layout requires explicit firmware, language and display selectors"
    else if REQUIRED_KEYS.any fun key => layout.selector.get key = .null ∨ layout.selector.get key = .text "" then
      .error "unknown layout identity cannot select a UI template"
    else (rect layout.frameOf true).bind fun _ =>
      if layout.rotateQuarters = .other ∨ layout.rotateQuarters.getD 0 ∉ [0,1,2,3] then
        .error "layout rotation must be an explicit 0..3 quarter turn"
      else if ¬(1 ≤ layout.targets.length ∧ layout.targets.length ≤ 128) then .error "semantic layout requires 1..128 named targets"
      else (layout.targets.mapM (validateTarget layout)).map fun _ => ()
  | _ => .error "semantic layout requires a stable ID"

def Step.names (step : Step) (kind : Kind) : List (Entry String) :=
  match kind with
  | .click | .longClick => [step.target]
  | .swipe => [step.fromTarget,step.toTarget]
  | _ => []

def Layout.has (layout : Layout) : Entry String → Bool
  | .given name => (layout.targets.lookup name).isSome
  | _ => false

def validateOptional : Option Condition → Except String Unit
  | none => .ok ()
  | some condition => validateCondition 0 condition

def validateStep (layouts : List Layout) (index : Nat) (step : Option Step) (command : AoaCommand) : Except String Unit :=
  match step with
  | none => .error "semantic step must be an object"
  | some step =>
    if step.timeoutSeconds = .other ∨ ¬(1 / 4 ≤ step.timeoutSeconds.getD 3 ∧ step.timeoutSeconds.getD 3 ≤ 30) then
      .error "semantic condition timeout must be 0.25..30 seconds"
    else (validateOptional step.before).bind fun _ => (validateOptional step.after).bind fun _ => (validateOptional step.skipIf).bind fun _ =>
      if command.kind ≠ .sleep ∧ (step.before.isNone ∨ step.after.isNone) then
        .error ("semantic step " ++ toString (index + 1) ++ " requires both preconditions and postconditions")
      else if command.kind ≠ .sleep ∧ ¬(step.before.any hasPageCondition) then
        .error "semantic input precondition must identify the visible page"
      else if (step.names command.kind).any fun name => layouts.any fun layout => ¬layout.has name then
        .error "semantic target is missing from one or more layouts"
      else .ok ()

def budget (steps : List (Option Step)) : ℚ := (steps.map fun step => 2 * (step.elim 0 fun step => step.timeoutSeconds.getD 3)).sum

def validateTemplate (template : Template) (commands : List String) : Except String Unit :=
  if 65536 < template.bytes then .error "AOA evidence exceeds its size limit"
  else (parseProfileCommands commands).bind fun parsed =>
    if template.version ≠ .given 1 then .error "unsupported semantic template version"
    else if ¬(1 ≤ template.layouts.length ∧ template.layouts.length ≤ 16) then .error "semantic template requires 1..16 explicit layouts"
    else if template.steps.length ≠ parsed.length then .error "semantic steps must correspond one-to-one with the visible command list"
    else (template.layouts.mapM validateLayout).bind fun _ =>
      if ¬(template.layouts.map Layout.id).Nodup then .error "duplicate semantic layout ID"
      else ((template.steps.zip parsed).zipIdx.mapM fun ((step,command),index) => validateStep template.layouts index step command).bind fun _ =>
        if 600 < budget template.steps then .error "semantic verification budget exceeds 600 seconds"
        else .ok ()

structure Plan where
  sourceCommands : List String
  commands : List String
  template : Template
  context : Context
  certificateId : String
  layoutId : Entry String

/-- `context["display"]`. -/
def Context.display (context : Context) : Except String (ℚ × ℚ) :=
  match context.get "display" with
  | .numbers [width,height] => .ok (width,height)
  | _ => .error "display"

def namedPoint (layout : Layout) (case_ : Case) (context : Context) (name : Entry String) : Except String (Nat × Nat) :=
  match layout.targets.lookup (name.getD "") with
  | some (some target) => context.display.bind fun display =>
    (targetPoint target.point target.bounds layout.frameOf display (layout.rotateQuarters.getD 0) ⟨case_.maxErrorPx,0⟩).bind fun p =>
    (standardInverse p.1 p.2 display case_.axisRotation case_.viewport).bind fun hid =>
    (standardPoint hid.1 hid.2 display case_.axisRotation case_.viewport).bind fun cooked =>
    (targetPoint target.point target.bounds layout.frameOf display (layout.rotateQuarters.getD 0) ⟨case_.maxErrorPx,squaredDistance p cooked⟩).map
      fun _ => hid
  | _ => .error (name.getD "")

def compileCommand (layout : Layout) (case_ : Case) (context : Context) (raw : String) (command : AoaCommand) (step : Step) : Except String String :=
  match command.kind with
  | .click | .longClick => (namedPoint layout case_ context step.target).map fun (u,v) => clickText command.kind u v
  | .swipe => (namedPoint layout case_ context step.fromTarget).bind fun (u1,v1) =>
    (namedPoint layout case_ context step.toTarget).map fun (u2,v2) => swipeText u1 v1 (toString command.durationMs) u2 v2
  | _ => .ok raw

def compileCommands (layout : Layout) (case_ : Case) (context : Context) :
    List String → List AoaCommand → List (Option Step) → Except String (List String)
  | raw :: commands, command :: parsed, some step :: steps =>
    (compileCommand layout case_ context raw command step).bind fun text =>
      (compileCommands layout case_ context commands parsed steps).map fun texts => text :: texts
  | _, _, _ => .ok []

def selectLayout (template : Template) (context : Context) : Except String Layout :=
  match template.layouts.filter fun layout => layout.selector.all fun (key,value) => context.get key = value with
  | [layout] => .ok layout
  | _ => .error "semantic UI layout is unknown or ambiguous; automatic selection refused"

def compilePlan (commands : List String) (template : Template) (context : Context) (certificate : Certificate) : Except String Plan :=
  (validateTemplate template commands).bind fun _ => (certificate.matchingCase context).bind fun found => match found with
    | none => .error "device class or display configuration has no active verified direct evidence"
    | some case_ => (selectLayout template context).bind fun layout => (parseProfileCommands commands).bind fun parsed =>
      (compileCommands layout case_ context commands parsed template.steps).bind fun compiled => (parseProfileCommands compiled).map fun _ =>
        {sourceCommands := commands, commands := compiled, template, context, certificateId := certificate.id, layoutId := layout.id}

end GmsRemoteTest.AoaSemantics
