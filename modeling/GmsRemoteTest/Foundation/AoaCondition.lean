import GmsRemoteTest.Foundation.AoaDisplay
import GmsRemoteTest.Lib.Kleene

/-! Semantic conditions on the page of a device, and which of them are accepted. -/
namespace GmsRemoteTest.AoaSemantics
open AoaDisplay Kleene

/-- What an object holds under a key: nothing, a value of the type that is expected, or another one. -/
inductive Entry (α : Type)
  | absent
  | given (value : α)
  | other
deriving DecidableEq

def Entry.getD {α : Type} : Entry α → α → α
  | .given value, _ => value
  | _, default => default

inductive SelectorValue
  | text (value : String)
  | flag (value : Bool)
  | other
deriving DecidableEq

abbrev Selector := List (String × SelectorValue)

/-- The conditions that are no `all` and no `any`; `exists` is read from a visual one as well. -/
inductive Leaf
  | ui (selector : Entry Selector) (exists_ : Entry Bool)
  | adbState (state : Entry String)
  | visual (roi : Coordinates) (fingerprint : Entry String) (maxDelta : Entry ℤ) (bindingId : Entry String) (exists_ : Entry Bool)
  | unknown
  | noObject

/-- A condition; `conditions` that are no list are none. -/
abbrev Condition := Formula Leaf

def identifier (text : String) : Bool :=
  1 ≤ text.length && text.length ≤ 80 && text.toList.all fun c => c.isAlphanum || c = '_' || c = '.' || c = ':' || c = '-'

def SELECTOR_KEYS : List String := ["text","resource_id","content_desc","checked","enabled"]

def selectorFault : String × SelectorValue → Option String
  | (key,value) =>
    if key ∈ ["checked","enabled"] then match value with
      | .flag _ => none
      | _ => some "UI state selector must be boolean"
    else match value with
      | .text text => if 1 ≤ text.length ∧ text.length ≤ 256 then none else some "UI selector string must be 1..256 characters"
      | _ => some "UI selector string must be 1..256 characters"

def validateSelector : Entry Selector → Except String Unit
  | .given selector =>
    let keys := selector.map Prod.fst
    if selector = [] ∨ (keys.any fun key => key ∉ SELECTOR_KEYS) ∨ ¬(["text","resource_id","content_desc"].any fun key => key ∈ keys) then
      .error "UI selector requires an exact text, resource ID or content description"
    else match selector.findSome? selectorFault with
      | some fault => .error fault
      | none => .ok ()
  | _ => .error "UI selector requires an exact text, resource ID or content description"

def ADB_STATES : List String := ["device","unauthorized","offline","absent"]

def isHex (c : Char) : Bool := c.isDigit || ('a' ≤ c && c ≤ 'f')

def validateLeaf : Leaf → Except String Unit
  | .ui selector exists_ => (validateSelector selector).bind fun _ =>
    if exists_ = .other then .error "UI existence condition must be boolean" else .ok ()
  | .adbState (.given state) => if state ∉ ADB_STATES then .error "invalid expected ADB state" else .ok ()
  | .adbState _ => .error "invalid expected ADB state"
  | .visual roi fingerprint maxDelta bindingId _ => (rect roi true).bind fun _ =>
    match fingerprint with
    | .given hex =>
      if ¬(hex.length = 512 ∧ hex.toList.all isHex) then .error "visual condition requires a captured 16x16 grayscale reference"
      else if maxDelta = .other ∨ ¬(0 ≤ maxDelta.getD 3 ∧ maxDelta.getD 3 ≤ 12) then .error "visual tolerance must be 0..12 grayscale levels"
      else match bindingId with
      | .given id => if identifier id then .ok () else .error "visual condition requires a trusted capture binding ID"
      | _ => .error "visual condition requires a trusted capture binding ID"
    | _ => .error "visual condition requires a captured 16x16 grayscale reference"
  | .unknown => .error "unknown semantic condition type; blind fallback is forbidden"
  | .noObject => .error "invalid bounded semantic condition"

mutual
def validateCondition (depth : Nat) : Condition → Except String Unit
  | .leaf leaf => if 3 < depth then .error "invalid bounded semantic condition" else validateLeaf leaf
  | .join _ terms =>
    if 3 < depth then .error "invalid bounded semantic condition"
    else if ¬(1 ≤ terms.length ∧ terms.length ≤ 8) then .error "semantic condition requires 1..8 bounded terms"
    else validateConditions (depth + 1) terms
def validateConditions (depth : Nat) : List Condition → Except String Unit
  | [] => .ok ()
  | term :: terms => (validateCondition depth term).bind fun _ => validateConditions depth terms
end

def pageLeaf : Leaf → Bool
  | .ui _ exists_ | .visual _ _ _ _ exists_ => exists_ = .absent || exists_ = .given true
  | _ => false

/-- `has_page_condition` of a condition that is not empty. -/
def hasPageCondition (condition : Condition) : Bool := condition.needs pageLeaf

end GmsRemoteTest.AoaSemantics
