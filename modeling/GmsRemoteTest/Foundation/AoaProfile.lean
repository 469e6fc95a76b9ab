import Mathlib.Algebra.GroupWithZero.Nat
import GmsRemoteTest.Foundation.Fields

/-! The syntax of AOA commands: `parse_profile_commands`, with the digits that `\d` and `int` take and the blanks of `str.split`. -/
namespace GmsRemoteTest.AoaProfile
open Text

def AOA_TOUCH_MAX_X : Nat := 360
def AOA_TOUCH_MAX_Y : Nat := 640
def MAX_PROFILE_COMMANDS : Nat := 256
def MAX_SLEEP_MS : Nat := 10000
def MAX_TOTAL_RUNTIME_MS : Nat := 300000
def MAX_WRITE_LENGTH : Nat := 128
def MODIFIER_SHIFT : Nat := 2

def DECIMAL_ZEROS : List Nat :=
  [0x30,0x660,0x6f0,0x7c0,0x966,0x9e6,0xa66,0xae6,0xb66,0xbe6,0xc66,0xce6,0xd66,0xde6,0xe50,0xed0,0xf20,0x1040,0x1090,0x17e0,0x1810,0x1946,
    0x19d0,0x1a80,0x1a90,0x1b50,0x1bb0,0x1c40,0x1c50,0xa620,0xa8d0,0xa900,0xa9d0,0xa9f0,0xaa50,0xabf0,0xff10,0x104a0,0x10d30,0x11066,0x110f0,
    0x11136,0x111d0,0x112f0,0x11450,0x114d0,0x11650,0x116c0,0x11730,0x118e0,0x11950,0x11c50,0x11d50,0x11da0,0x16a60,0x16ac0,0x16b50,0x1d7ce,
    0x1d7d8,0x1d7e2,0x1d7ec,0x1d7f6,0x1e140,0x1e2f0,0x1e950,0x1fbf0]

def decimal (c : Char) : Option Nat :=
  (DECIMAL_ZEROS.find? fun first => first ≤ c.toNat && c.toNat < first + 10).map (c.toNat - ·)

def OTHER_DIGITS : List (Nat × Nat) :=
  [(0xb2,0xb3),(0xb9,0xb9),(0x1369,0x1371),(0x19da,0x19da),(0x2070,0x2070),(0x2074,0x2079),(0x2080,0x2089),(0x2460,0x2468),(0x2474,0x247c),
    (0x2488,0x2490),(0x24ea,0x24ea),(0x24f5,0x24fd),(0x24ff,0x24ff),(0x2776,0x277e),(0x2780,0x2788),(0x278a,0x2792),(0x10a40,0x10a43),
    (0x10e60,0x10e68),(0x11052,0x1105a),(0x1f100,0x1f10a)]

def isDigit (c : Char) : Bool := (decimal c).isSome || OTHER_DIGITS.any fun (first,last) => first ≤ c.toNat && c.toNat ≤ last

def MAX_INT_DIGITS : Nat := 4300

def int (chars : List Char) : Except String Nat :=
  match chars.mapM decimal with
  | some digits =>
    if chars.length > MAX_INT_DIGITS then .error "Exceeds the limit (4300 digits) for integer string conversion"
    else .ok (digits.foldl (fun number digit => 10 * number + digit) 0)
  | none => .error ("invalid literal for int() with base 10: '" ++ String.ofList chars ++ "'")

def shortNumber (chars : List Char) : Option Nat := if 1 ≤ chars.length ∧ chars.length ≤ 3 then (int chars).toOption else none

def digits (chars : List Char) : Bool := chars ≠ [] && chars.all fun c => (decimal c).isSome

inductive Kind
  | click
  | longClick
  | swipe
  | write
  | key
  | wake
  | home
  | back
  | sleep
deriving DecidableEq

def Kind.word : Kind → String
  | .click => "click"
  | .longClick => "longClick"
  | .swipe => "swipe"
  | .write => "write"
  | .key => "key"
  | .wake => "wake"
  | .home => "home"
  | .back => "back"
  | .sleep => "sleep"

def Kind.ofWord (head : String) : Option Kind :=
  [.click,.longClick,.swipe,.write,.key,.wake,.home,.back,.sleep].find? fun kind => kind.word = head

structure AoaCommand where
  kind : Kind
  x1 : Nat := 0
  y1 : Nat := 0
  x2 : Nat := 0
  y2 : Nat := 0
  durationMs : Nat := 0
  text : String := ""
  keys : List (Nat × Nat) := []
  sleepMs : Nat := 0
deriving DecidableEq

def KEY_USAGES : List (String × Nat) :=
  [("1",0x1E),("2",0x1F),("3",0x20),("4",0x21),("5",0x22),("6",0x23),("7",0x24),("8",0x25),("9",0x26),("0",0x27),
    ("enter",0x28),("tab",0x2B),("space",0x2C),("-",0x2D),(".",0x37),("right",0x4F),("left",0x50),("down",0x51),("up",0x52),
    ("@",0x1F),("_",0x2D),("+",0x1E)] ++
  ("abcdefghijklmnopqrstuvwxyz".toList.zipIdx 4).flatMap fun (letter,usage) => [(letter.toString,usage),(letter.toUpper.toString,usage)]

def SHIFTED : List String := ["@","_","+"] ++ "ABCDEFGHIJKLMNOPQRSTUVWXYZ".toList.map Char.toString

def DPAD_ALIASES : List (String × String) :=
  [("dpad_up","up"),("dpad_down","down"),("dpad_left","left"),("dpad_right","right"),("dpad_center","enter"),("ok","enter"),("UP","up"),
    ("DOWN","down"),("LEFT","left"),("RIGHT","right"),("ENTER","enter"),("TAB","tab"),("BACK","back"),("HOME","home")]

def isNameChar (c : Char) : Bool := c.isAlphanum || c = '@' || c = '-' || c = '_' || c = '.'

def words (chars : List Char) : List (List Char) := (chars.splitOnP isSpace).filter (· ≠ [])

def keyToken (token : List Char) : Option (Option (List Char) × List Char) :=
  match token.splitOn '*' with
  | [name] => if name ≠ [] ∧ name.all isNameChar then some (none,name) else none
  | [count,name] => if digits count ∧ name ≠ [] ∧ name.all isNameChar then some (some count,name) else none
  | _ => none

def parseKey (token : List Char) : Except String (List (Nat × Nat)) :=
  match keyToken token with
  | none => .error ("invalid AOA key: " ++ String.ofList token)
  | some (times,given) =>
    (match times with | some times => int times | none => .ok 1).bind fun count =>
      let given := String.ofList given
      let name := if (KEY_USAGES.lookup given).isSome then given
        else ((DPAD_ALIASES.lookup given).or (DPAD_ALIASES.lookup (given.map Char.toLower))).getD given
      match KEY_USAGES.lookup name with
      | none => .error ("AOA key not allowed: " ++ given)
      | some usage =>
        if 0 < count ∧ count ≤ 32 then .ok (List.replicate count (if SHIFTED.contains name then MODIFIER_SHIFT else 0,usage))
        else .error ("AOA key repeat count out of range: " ++ toString count)

def invalidAction (text : List Char) : String := "invalid AOA action: " ++ String.ofList text

def parseKeyCombo (args : List (List Char)) (text : List Char) : Except String (List (Nat × Nat)) :=
  if args = [] then .error (invalidAction text) else (args.mapM parseKey).map List.flatten

def parsePoint (rest : List Char) : Option (Nat × Nat) :=
  match rest.splitOn ' ' with
  | [x,y] => (shortNumber x).bind fun x => (shortNumber y).map fun y => (x,y)
  | _ => none

def parseSwipe (rest : List Char) : Option ((Nat × Nat) × List Char × (Nat × Nat)) :=
  match rest.splitOn ' ' with
  | [x1,y1,ms,x2,y2] =>
    if digits ms then (shortNumber x1).bind fun x1 => (shortNumber y1).bind fun y1 => (shortNumber x2).bind fun x2 =>
      (shortNumber y2).map fun y2 => ((x1,y1),ms,(x2,y2))
    else none
  | _ => none

def partition (text : List Char) : List Char × List Char := (text.takeWhile (· ≠ ' '),(text.dropWhile (· ≠ ' ')).drop 1)

def parseArgs (text rest : List Char) : Kind → Except String AoaCommand
  | .swipe => match parseSwipe rest with
    | some ((x1,y1),ms,(x2,y2)) => (int ms).map fun ms => {kind := .swipe, x1, y1, durationMs := ms, x2, y2}
    | none => .error (invalidAction text)
  | .write =>
    if rest = [] ∨ ¬rest.all (fun c => isNameChar c || c = ' ') then .error (invalidAction text)
    else if rest.head? = some '-' then .error ("AOA write must not start with '-': " ++ String.ofList text)
    else if rest.length > MAX_WRITE_LENGTH then .error ("AOA write exceeds " ++ toString MAX_WRITE_LENGTH ++ " characters")
    else .ok {kind := .write, text := String.ofList rest}
  | .key => (parseKeyCombo (words rest) text).map fun keys => {kind := .key, keys}
  | .sleep => match words rest with
    | [ms] => if ms.all isDigit then (int ms).bind fun ms =>
        if 0 < ms ∧ ms ≤ MAX_SLEEP_MS then .ok {kind := .sleep, sleepMs := ms}
        else .error ("AOA sleep must be 1.." ++ toString MAX_SLEEP_MS ++ " ms")
      else .error (invalidAction text)
    | _ => .error (invalidAction text)
  | .wake => if words rest = [] then .ok {kind := .wake} else .error (invalidAction text)
  | .home => if words rest = [] then .ok {kind := .home} else .error (invalidAction text)
  | .back => if words rest = [] then .ok {kind := .back} else .error (invalidAction text)
  | .click => match parsePoint rest with
    | some (x,y) => .ok {kind := .click, x1 := x, y1 := y}
    | none => .error (invalidAction text)
  | .longClick => match parsePoint rest with
    | some (x,y) => .ok {kind := .longClick, x1 := x, y1 := y}
    | none => .error (invalidAction text)

def parseAction (text : List Char) : Except String AoaCommand :=
  match Kind.ofWord (String.ofList (partition text).1) with
  | some kind => parseArgs text (partition text).2 kind
  | none => .error (invalidAction text)

def Kind.touches : Kind → Bool
  | .click | .longClick | .swipe => true
  | _ => false

def AoaCommand.points (command : AoaCommand) : List (Nat × Nat) :=
  if command.kind.touches then (command.x1,command.y1) :: if command.kind = .swipe then [(command.x2,command.y2)] else [] else []

def parseLine (text : List Char) : Except String AoaCommand :=
  (parseAction text).bind fun command =>
    if command.points.any fun (x,y) => ¬(x ≤ AOA_TOUCH_MAX_X ∧ y ≤ AOA_TOUCH_MAX_Y) then
      .error ("AOA coordinates outside 0.." ++ toString AOA_TOUCH_MAX_X ++ ", 0.." ++ toString AOA_TOUCH_MAX_Y ++ ": " ++ String.ofList text)
    else .ok command

def estimateRuntimeMs (command : AoaCommand) : Nat :=
  match command.kind with
  | .sleep => command.sleepMs
  | .swipe => max command.durationMs 100 + 1000
  | .write => command.text.length * 120 + 1000
  | .key => max command.keys.length 1 * 120 + 1000
  | .longClick => 2000
  | _ => 1200

def visible (commands : List String) : List (List Char) := (commands.map fun line => (strip line).toList).filter (· ≠ [])

def parseProfileCommands (commands : List String) : Except String (List AoaCommand) :=
  if commands = [] then .error "AOA profile is empty"
  else if commands.length > MAX_PROFILE_COMMANDS then .error ("AOA profile exceeds " ++ toString MAX_PROFILE_COMMANDS ++ " commands")
  else ((visible commands).mapM parseLine).bind fun parsed =>
    let total := (parsed.map estimateRuntimeMs).sum
    if parsed = [] then .error "AOA profile is empty"
    else if total > MAX_TOTAL_RUNTIME_MS then
      .error ("AOA profile runtime " ++ toString total ++ "ms exceeds " ++ toString MAX_TOTAL_RUNTIME_MS ++ "ms budget")
    else .ok parsed

def clickText (kind : Kind) (x y : Nat) : String := kind.word ++ " " ++ toString x ++ " " ++ toString y

def swipeText (x1 y1 : Nat) (ms : String) (x2 y2 : Nat) : String :=
  "swipe " ++ toString x1 ++ " " ++ toString y1 ++ " " ++ ms ++ " " ++ toString x2 ++ " " ++ toString y2

theorem decimal_isDigit {c : Char} (digit : c.isDigit = true) : decimal c = some (c.toNat - 48) := by
  obtain ⟨low,high⟩ : 48 ≤ c.toNat ∧ c.toNat ≤ 57 := by simpa [Char.isDigit,UInt32.le_iff_toNat_le] using digit
  have first : (decide (0x30 ≤ c.toNat) && decide (c.toNat < 0x30 + 10)) = true := by simp only [Bool.and_eq_true,decide_eq_true_eq]; omega
  unfold decimal DECIMAL_ZEROS
  rw [List.find?_cons_of_pos (by exact first)]
  rfl

theorem decimal_visible {c : Char} (digit : (decimal c).isSome = true) : isSpace c = false := by
  have apart : ∀ first ∈ DECIMAL_ZEROS, first = 0x30 ∨ (0x660 ≤ first ∧ first ≤ 0x1090) ∨ (0x17E0 ≤ first ∧ first ≤ 0x1C50) ∨ 0xA620 ≤ first := by
    decide
  unfold decimal at digit
  rw [Option.isSome_map,List.find?_isSome] at digit
  obtain ⟨first,member,range⟩ := digit
  simp only [Bool.and_eq_true,decide_eq_true_eq] at range
  have clear := apart first member
  rw [← Bool.not_eq_true]
  intro blank
  simp [isSpace] at blank
  omega

theorem int_toDigits {n : Nat} (short : (Nat.toDigits 10 n).length ≤ MAX_INT_DIGITS) : int (Nat.toDigits 10 n) = .ok n := by
  have all : ∀ chars : List Char, (∀ c ∈ chars, c.isDigit = true) → chars.mapM decimal = some (chars.map fun c => c.toNat - 48) := by
    intro chars digits
    induction chars with
    | nil => rfl
    | cons c chars ih =>
      obtain ⟨first,rest⟩ := List.forall_mem_cons.mp digits
      rw [List.mapM_cons,decimal_isDigit first,ih rest]
      rfl
  have value : ((Nat.toDigits 10 n).map fun c => c.toNat - 48).foldl (fun number digit => 10 * number + digit) 0 = n := by
    rw [List.foldl_map]
    exact Nat.ofDigitChars_ten_toDigits
  unfold int
  rw [all _ fun c => Nat.isDigit_of_mem_toDigits (by decide) (by decide)]
  dsimp only
  rw [if_neg (Nat.not_lt.mpr short),value]

theorem shortNumber_toDigits {n : Nat} (small : n < 1000) : shortNumber (Nat.toDigits 10 n) = some n := by
  have short : (Nat.toDigits 10 n).length ≤ 3 := (Nat.length_toDigits_le_iff (by decide) (by decide)).mpr small
  have some_ : 1 ≤ (Nat.toDigits 10 n).length := Nat.length_toDigits_pos
  unfold shortNumber
  rw [if_pos ⟨some_,short⟩,int_toDigits (short.trans (by decide))]
  rfl

theorem digits_visible {chars : List Char} (all : chars.all (fun c => (decimal c).isSome) = true) : ∀ c ∈ chars, isSpace c = false :=
  fun c member => decimal_visible (List.all_eq_true.mp all c member)

theorem int_digits {chars : List Char} {n : Nat} (number : int chars = .ok n) : chars.all (fun c => (decimal c).isSome) = true := by
  have each : ∀ (chars : List Char) (values : List Nat), chars.mapM decimal = some values → chars.all (fun c => (decimal c).isSome) = true := by
    intro chars
    induction chars with
    | nil => exact fun _ _ => rfl
    | cons c chars ih =>
      intro values read
      rw [List.mapM_cons] at read
      cases first : decimal c with
      | none =>
        rw [first] at read
        cases read
      | some value =>
        rw [first] at read
        cases rest : chars.mapM decimal with
        | none =>
          simp [rest] at read
        | some others =>
          rw [List.all_cons,first,ih others rest]
          rfl
  unfold int at number
  split at number
  · rename_i values read
    exact each chars values read
  · cases number

theorem partition_append {head rest : List Char} (solid : ' ' ∉ head) : partition (head ++ ' ' :: rest) = (head,rest) := by
  unfold partition
  have all : ∀ c ∈ head, decide (c ≠ ' ') = true := fun c member => decide_eq_true fun same => solid (same ▸ member)
  rw [List.takeWhile_append_of_pos all,List.dropWhile_append_of_pos all]
  simp

theorem partition_text {text : List Char} (some_ : (partition text).2 ≠ []) : text = (partition text).1 ++ ' ' :: (partition text).2 := by
  unfold partition at *
  have split := List.takeWhile_append_dropWhile (p := (· ≠ ' ')) (l := text)
  cases tail : text.dropWhile (· ≠ ' ') with
  | nil =>
    dsimp only at some_
    rw [tail] at some_
    exact absurd rfl some_
  | cons c rest =>
    have blank : c = ' ' := by
      have stopped := List.head?_dropWhile_not (p := (· ≠ ' ')) (l := text)
      rw [tail] at stopped
      simpa using stopped
    rw [tail,blank] at split
    simpa using split.symm

theorem toDigits_solid (n : Nat) : ' ' ∉ Nat.toDigits 10 n := by
  intro member
  have digit := Nat.isDigit_of_mem_toDigits (by decide) (by decide) member
  exact absurd digit (by decide)

theorem clickText_toList (kind : Kind) (x y : Nat) :
    (clickText kind x y).toList = kind.word.toList ++ ' ' :: [' '].intercalate [Nat.toDigits 10 x,Nat.toDigits 10 y] := by
  unfold clickText
  simp [List.intercalate_cons_cons]

theorem swipeText_toList (x1 y1 : Nat) (ms : String) (x2 y2 : Nat) : (swipeText x1 y1 ms x2 y2).toList = "swipe".toList ++ ' ' ::
    [' '].intercalate [Nat.toDigits 10 x1,Nat.toDigits 10 y1,ms.toList,Nat.toDigits 10 x2,Nat.toDigits 10 y2] := by
  unfold swipeText
  simp [List.intercalate_cons_cons]

theorem parsePoint_toDigits {x y : Nat} (left : x < 1000) (right : y < 1000) :
    parsePoint ([' '].intercalate [Nat.toDigits 10 x,Nat.toDigits 10 y]) = some (x,y) := by
  unfold parsePoint
  rw [List.splitOn_intercalate ' ' (by simp [toDigits_solid]) (List.cons_ne_nil _ _)]
  dsimp only
  rw [shortNumber_toDigits left,shortNumber_toDigits right]
  rfl

theorem ofWord_word (kind : Kind) : Kind.ofWord kind.word = some kind := by cases kind <;> decide

theorem word_solid (kind : Kind) : ' ' ∉ kind.word.toList := by cases kind <;> decide

theorem parseAction_word (kind : Kind) (rest : List Char) :
    parseAction (kind.word.toList ++ ' ' :: rest) = parseArgs (kind.word.toList ++ ' ' :: rest) rest kind := by
  unfold parseAction
  rw [partition_append (word_solid kind),String.ofList_toList,ofWord_word]

theorem parseLine_clickText {kind : Kind} (touch : kind = .click ∨ kind = .longClick) {x y : Nat} (left : x ≤ AOA_TOUCH_MAX_X)
    (right : y ≤ AOA_TOUCH_MAX_Y) : parseLine (clickText kind x y).toList = .ok {kind := kind, x1 := x, y1 := y} := by
  have read := @parsePoint_toDigits x y (by unfold AOA_TOUCH_MAX_X at left; omega) (by unfold AOA_TOUCH_MAX_Y at right; omega)
  rw [clickText_toList,parseLine,parseAction_word]
  obtain rfl | rfl := touch
  · rw [parseArgs,read]
    simp [Except.bind,AoaCommand.points,Kind.touches,left,right]
  · rw [parseArgs,read]
    simp [Except.bind,AoaCommand.points,Kind.touches,left,right]

theorem parseLine_swipeText {x1 y1 x2 y2 n : Nat} {ms : String} (left : x1 ≤ AOA_TOUCH_MAX_X) (right : y1 ≤ AOA_TOUCH_MAX_Y)
    (left_ : x2 ≤ AOA_TOUCH_MAX_X) (right_ : y2 ≤ AOA_TOUCH_MAX_Y) (duration : digits ms.toList = true) (number : int ms.toList = .ok n) :
    parseLine (swipeText x1 y1 ms x2 y2).toList =
      .ok {kind := .swipe, x1 := x1, y1 := y1, durationMs := n, x2 := x2, y2 := y2} := by
  have solid : ' ' ∉ ms.toList := by
    intro member
    have visible := digits_visible (int_digits number) ' ' member
    exact absurd visible (by decide)
  have small : ∀ {x : Nat}, x ≤ AOA_TOUCH_MAX_X → x < 1000 := fun less => by unfold AOA_TOUCH_MAX_X at less; omega
  have small_ : ∀ {y : Nat}, y ≤ AOA_TOUCH_MAX_Y → y < 1000 := fun less => by unfold AOA_TOUCH_MAX_Y at less; omega
  have read : parseSwipe ([' '].intercalate [Nat.toDigits 10 x1,Nat.toDigits 10 y1,ms.toList,Nat.toDigits 10 x2,Nat.toDigits 10 y2]) =
      some ((x1,y1),ms.toList,(x2,y2)) := by
    unfold parseSwipe
    rw [List.splitOn_intercalate ' ' (by simp [toDigits_solid,solid]) (List.cons_ne_nil _ _)]
    dsimp only
    rw [if_pos duration,shortNumber_toDigits (small left),shortNumber_toDigits (small_ right),shortNumber_toDigits (small left_),
      shortNumber_toDigits (small_ right_)]
    rfl
  rw [swipeText_toList,parseLine,show "swipe".toList = Kind.swipe.word.toList from rfl,parseAction_word,parseArgs,read]
  dsimp only
  rw [number]
  simp [Except.bind,Except.map,AoaCommand.points,Kind.touches,left,right,left_,right_]

theorem intercalate_concat (pieces : List (List Char)) (last : List Char) :
    ∃ front, [' '].intercalate (pieces ++ [last]) = front ++ last := by
  induction pieces with
  | nil => exact ⟨[],List.intercalate_singleton⟩
  | cons piece pieces ih =>
    obtain ⟨front,same⟩ := ih
    refine ⟨piece ++ ' ' :: front,?_⟩
    rw [List.cons_append,List.intercalate_cons_of_ne_nil (by simp),same]
    simp

theorem strip_written {text : String} {kind : Kind} {pieces : List (List Char)} {n : Nat}
    (shape : text.toList = kind.word.toList ++ ' ' :: [' '].intercalate (pieces ++ [Nat.toDigits 10 n])) : strip text = text ∧ text ≠ "" := by
  obtain ⟨front,same⟩ := intercalate_concat pieces (Nat.toDigits 10 n)
  have last := List.dropLast_concat_getLast (Nat.toDigits_ne_nil : Nat.toDigits 10 n ≠ [])
  have digit := @decimal_visible ((Nat.toDigits 10 n).getLast Nat.toDigits_ne_nil) (by
    rw [decimal_isDigit (Nat.isDigit_of_mem_toDigits (by decide) (by decide) (List.getLast_mem _))]
    rfl)
  obtain ⟨first,rest,word,visible⟩ : ∃ first rest, kind.word.toList = first :: rest ∧ isSpace first = false := by
    cases kind <;> exact ⟨_,_,rfl,by decide⟩
  have ends : text.toList = (kind.word.toList ++ ' ' :: (front ++ (Nat.toDigits 10 n).dropLast)) ++
      [(Nat.toDigits 10 n).getLast Nat.toDigits_ne_nil] := by
    rw [shape,same,List.append_assoc,List.cons_append,List.append_assoc,last]
  have begins : text.toList = first :: (rest ++ ' ' :: [' '].intercalate (pieces ++ [Nat.toDigits 10 n])) := by
    rw [shape,word,List.cons_append]
  refine ⟨strip_between_visible begins ends visible digit,?_⟩
  rintro rfl
  cases begins

theorem clickText_strip (kind : Kind) (x y : Nat) : strip (clickText kind x y) = clickText kind x y ∧ clickText kind x y ≠ "" :=
  @strip_written _ kind [Nat.toDigits 10 x] y (clickText_toList kind x y)

theorem swipeText_strip (x1 y1 : Nat) (ms : String) (x2 y2 : Nat) :
    strip (swipeText x1 y1 ms x2 y2) = swipeText x1 y1 ms x2 y2 ∧ swipeText x1 y1 ms x2 y2 ≠ "" :=
  @strip_written _ .swipe [Nat.toDigits 10 x1,Nat.toDigits 10 y1,ms.toList,Nat.toDigits 10 x2] y2 (swipeText_toList x1 y1 ms x2 y2)

theorem ofWord_eq_some {head : String} {kind : Kind} (found : Kind.ofWord head = some kind) : kind.word = head := by
  have holds := List.find?_some found
  exact of_decide_eq_true holds

theorem parseLine_ok {text : List Char} {command : AoaCommand} (accepted : parseLine text = .ok command) :
    Kind.ofWord (String.ofList (partition text).1) = some command.kind ∧ parseArgs text (partition text).2 command.kind = .ok command ∧
      ∀ point ∈ command.points, point.1 ≤ AOA_TOUCH_MAX_X ∧ point.2 ≤ AOA_TOUCH_MAX_Y := by
  have kinds : ∀ {kind : Kind} {rest : List Char} {command : AoaCommand}, parseArgs text rest kind = .ok command → command.kind = kind := by
    intro kind rest command ran
    cases kind <;> simp only [parseArgs] at ran
    case key =>
      cases keys : parseKeyCombo (words rest) text with
      | error => simp [keys,Except.map] at ran
      | ok => simp only [keys,Except.map,Except.ok.injEq] at ran; rw [← ran]
    case swipe =>
      split at ran
      · rename_i ms _ _ _
        cases number : int ms with
        | error => simp [number,Except.map] at ran
        | ok => simp only [number,Except.map,Except.ok.injEq] at ran; rw [← ran]
      · cases ran
    case sleep =>
      split at ran
      · rename_i ms _
        split at ran
        · cases number : int ms with
          | error => simp [number,Except.bind] at ran
          | ok =>
            simp only [number,Except.bind] at ran
            split at ran
            · cases ran
              rfl
            · cases ran
        · cases ran
      · cases ran
    all_goals
      repeat' split at ran
      all_goals
        cases ran
        try rfl
  unfold parseLine parseAction at accepted
  cases found : Kind.ofWord (String.ofList (partition text).1) with
  | none =>
    rw [found] at accepted
    cases accepted
  | some kind =>
    rw [found] at accepted
    dsimp only at accepted
    cases ran : parseArgs text (partition text).2 kind with
    | error =>
      rw [ran] at accepted
      cases accepted
    | ok parsed =>
      rw [ran] at accepted
      simp only [Except.bind] at accepted
      split at accepted
      · cases accepted
      · rename_i inside
        cases accepted
        have same := kinds ran
        subst same
        exact ⟨rfl,ran,by simpa using inside⟩

theorem shortNumber_eq_some {chars : List Char} {n : Nat} (short : shortNumber chars = some n) : chars ≠ [] ∧ int chars = .ok n := by
  unfold shortNumber at short
  split at short
  · rename_i bounds
    refine ⟨List.ne_nil_of_length_pos bounds.1,?_⟩
    cases number : int chars with
    | error => simp [number,Except.toOption] at short
    | ok value =>
      simp only [number,Except.toOption,Option.some.injEq] at short
      rw [short]
  · cases short

theorem parsePoint_eq_some {rest : List Char} {x y : Nat} (read : parsePoint rest = some (x,y)) :
    ∃ first second, rest = [' '].intercalate [first,second] ∧ shortNumber first = some x ∧ shortNumber second = some y := by
  unfold parsePoint at read
  split at read
  · rename_i first second pieces
    obtain ⟨x_,left,read⟩ := Option.bind_eq_some_iff.mp read
    obtain ⟨y_,right,same⟩ := Option.map_eq_some_iff.mp read
    cases same
    exact ⟨first,second,by rw [← pieces,List.intercalate_splitOn],left,right⟩
  · cases read

theorem parseSwipe_eq_some {rest ms : List Char} {x1 y1 x2 y2 : Nat} (read : parseSwipe rest = some ((x1,y1),ms,(x2,y2))) :
    ∃ a b c d, rest = [' '].intercalate [a,b,ms,c,d] ∧ digits ms = true ∧ shortNumber a = some x1 ∧ shortNumber b = some y1 ∧
      shortNumber c = some x2 ∧ shortNumber d = some y2 := by
  unfold parseSwipe at read
  split at read
  · rename_i a b ms_ c d pieces
    split at read
    · rename_i duration
      obtain ⟨_,first,read⟩ := Option.bind_eq_some_iff.mp read
      obtain ⟨_,second,read⟩ := Option.bind_eq_some_iff.mp read
      obtain ⟨_,third,read⟩ := Option.bind_eq_some_iff.mp read
      obtain ⟨_,fourth,same⟩ := Option.map_eq_some_iff.mp read
      cases same
      exact ⟨a,b,c,d,by rw [← pieces,List.intercalate_splitOn],duration,first,second,third,fourth⟩
    · cases read
  · cases read

theorem mem_intercalate {pieces : List (List Char)} {c : Char} (member : c ∈ [' '].intercalate pieces) : c = ' ' ∨ ∃ piece ∈ pieces, c ∈ piece := by
  induction pieces with
  | nil => simp at member
  | cons piece pieces ih =>
    cases pieces with
    | nil => exact .inr ⟨piece,List.mem_cons_self,by rwa [List.intercalate_singleton] at member⟩
    | cons second pieces =>
      rw [List.intercalate_cons_cons,List.mem_append,List.mem_append,List.mem_singleton] at member
      obtain (own | blank) | later := member
      · exact .inr ⟨piece,List.mem_cons_self,own⟩
      · exact .inl blank
      · exact (ih later).imp id fun ⟨other,inside,own⟩ => ⟨other,List.mem_cons_of_mem _ inside,own⟩

theorem words_intercalate {pieces : List (List Char)} (some_ : pieces ≠ []) (solid : ∀ piece ∈ pieces, piece ≠ [] ∧ ∀ c ∈ piece, isSpace c = false) :
    words ([' '].intercalate pieces) = pieces := by
  have split : ([' '].intercalate pieces).splitOnP isSpace = pieces := by
    induction pieces with
    | nil => exact absurd rfl some_
    | cons piece pieces ih =>
      obtain ⟨first,rest⟩ := List.forall_mem_cons.mp solid
      cases pieces with
      | nil =>
        rw [List.intercalate_singleton]
        exact List.splitOnP_eq_singleton first.2
      | cons second pieces =>
        rw [List.intercalate_cons_cons,List.append_assoc,List.singleton_append,
          List.splitOnP_append_cons_of_forall_mem first.2 ' ' (by decide),ih (List.cons_ne_nil _ _) rest]
  unfold words
  rw [split,List.filter_eq_self]
  exact fun piece member => decide_eq_true (solid piece member).1

end GmsRemoteTest.AoaProfile
