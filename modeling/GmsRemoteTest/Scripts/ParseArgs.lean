import Mathlib.Data.List.Basic

/-! How the test script reads its arguments. -/
namespace GmsRemoteTest.ParseArgs

abbrev Word := List Char

inductive Valued
  | localServer
  | testSuite
  | deviceArgs
  | pgid
deriving DecidableEq

inductive ScriptOption
  | help
  | noRetry
  | copyRemote
  | valued (option : Valued)
deriving DecidableEq

def ScriptOption.text : ScriptOption → String
  | help => "--help"
  | noRetry => "--no-retry"
  | copyRemote => "--copy-remote"
  | valued .localServer => "--local-server"
  | valued .testSuite => "--test-suite"
  | valued .deviceArgs => "--device-args"
  | valued .pgid => "--pgid"

def scriptOptions : List ScriptOption :=
  [.help,.noRetry,.copyRemote,.valued .localServer,.valued .testSuite,.valued .deviceArgs,.valued .pgid]

def option (word : Word) : Option ScriptOption := scriptOptions.find? fun option => option.text.toList = word

/-- What the loop goes on with: the next argument, the value of an option, more words for `--device-args`, or nothing. -/
inductive Mode
  | head
  | value (option : Valued)
  | devices
  | died (message : String)
  | helped
deriving DecidableEq

/-- The variables of `parse_args`, and the arguments that it took for options. -/
structure Parser (α : Type) where
  mode : Mode := .head
  args : List Word := []
  deviceArgs : Word := []
  suitePath : Word := []
  localServer : Word := []
  processGroupId : Word := []
  retryFail : Bool := true
  copyToRemote : Bool := false
  options : List α := []

def isSpace (c : Char) : Bool := c ∈ [' ','\t','\n','\x0b','\x0c','\r']

def namesDevice (text : Word) : Bool := text.tails.any fun tail =>
  match tail with
  | '-' :: 's' :: c :: rest => isSpace c && rest.any fun d => !isSpace d
  | _ => false

namespace Parser
variable {α : Type} (word : α → Word)

def die (parser : Parser α) (message : String) : Parser α := {parser with mode := .died message}

def readHead (parser : Parser α) (part : α) : Parser α := match option (word part) with
  | some .help => {parser with mode := .helped, options := parser.options ++ [part]}
  | some .noRetry => {parser with retryFail := false, options := parser.options ++ [part]}
  | some .copyRemote => {parser with copyToRemote := true, options := parser.options ++ [part]}
  | some (.valued valued) => {parser with mode := .value valued, options := parser.options ++ [part]}
  | none =>
    if ['-'] <+: word part then parser.die ("未知参数: " ++ String.ofList (word part)) else {parser with args := parser.args ++ [word part]}

def closeDevices (parser : Parser α) : Parser α :=
  if parser.deviceArgs = [] then parser.die "缺少设备参数，请使用 --device-args 指定设备"
  else if namesDevice parser.deviceArgs then {parser with mode := .head}
  else parser.die "⚠️ 设备参数格式可能不正确，应为: -s DEVICE1 [-s DEVICE2 ...]"

def readValue (parser : Parser α) (text : Word) : Valued → Parser α
  | .localServer =>
    if '@' ∈ text then {parser with mode := .head, localServer := text} else parser.die "--local-server 格式错误，应为 user@host"
  | .testSuite => {parser with mode := .head, suitePath := text}
  | .deviceArgs => {parser with mode := .devices, deviceArgs := text}
  | .pgid => {parser with mode := .head, processGroupId := text}

def read (parser : Parser α) (part : α) : Parser α := match parser.mode with
  | .head => parser.readHead word part
  | .value option => parser.readValue (word part) option
  | .devices =>
    if ['-','-'] <+: word part then
      let closed := parser.closeDevices
      if closed.mode = .head then closed.readHead word part else closed
    else {parser with deviceArgs := parser.deviceArgs ++ ' ' :: word part}
  | .died _ => parser
  | .helped => parser

def close (parser : Parser α) : Parser α := match parser.mode with
  | .value .localServer => parser.die "--local-server 缺少参数（格式: user@host）"
  | .value .testSuite => parser.die "--test-suite 缺少路径参数"
  | .value .deviceArgs => parser.die "--device-args 缺少参数"
  | .value .pgid => parser.die "--pgid 缺少ID参数"
  | .devices => parser.closeDevices
  | _ => parser

end Parser

inductive Invocation
  | help
  | died (message : String)
  | run (testType module_ testCase : Word)
  | retry (testType timestamp : Word)
deriving DecidableEq

/-- `${text,,}`, as far as `retry` and the test types go. -/
def lower (text : Word) : Word := text.map Char.toLower

def remoteUser (server : Word) : Word := if '@' ∈ server then (server.reverse.dropWhile (· ≠ '@')).tail.reverse else []

def remoteHost (server : Word) : Word := (server.dropWhile (· ≠ '@')).tail

def supportedTypes : List Word := ["cts","gsi","gts","gts-root","sts","vts","apts"].map String.toList

def Parser.command {α : Type} (parser : Parser α) : Invocation := match parser.args with
  | [] => .died "缺少测试类型"
  | testType :: args =>
    let module_ := args.getD 0 []
    let testCase := args.getD 1 []
    if parser.suitePath = [] then .died "缺少必需参数: --test-suite"
    else if parser.copyToRemote ∧ (remoteHost parser.localServer = [] ∨ remoteUser parser.localServer = []) then
      .died "启用 --copy-remote 时必须提供 --local-server（格式: user@host）"
    else if lower module_ = "retry".toList ∧ testCase = [] then .died "retry 必须指定 RESULT_TIMESTAMP"
    else if ¬supportedTypes.contains (lower testType) then
      .died ("不支持的测试类型: " ++ String.ofList (lower testType) ++ " (目前仅支持: cts, gsi, gts, gts-root, sts, vts, apts)")
    else if lower module_ = "retry".toList then .retry (lower testType) testCase
    else .run (lower testType) module_ testCase

def Parser.invocation {α : Type} (parser : Parser α) : Invocation := match parser.mode with
  | .helped => .help
  | .died message => .died message
  | _ => parser.command

def parse {α : Type} (word : α → Word) (arguments : List α) : Parser α := (arguments.foldl (Parser.read word) {}).close

def parseArgs {α : Type} (word : α → Word) (arguments : List α) : Invocation := (parse word arguments).invocation

theorem option_text {word : Word} {found : ScriptOption} (its : option word = some found) : word = found.text.toList := by
  unfold option at its
  simpa [eq_comm] using List.find?_some its

theorem option_dash {word : Word} {found : ScriptOption} (its : option word = some found) : ['-'] <+: word := by
  rw [option_text its]
  obtain _ | _ | _ | (_ | _ | _ | _) := found <;> decide

theorem option_none {word : Word} {c : Char} (member : c ∈ word) (blank : isSpace c) : option word = none := by
  cases found : option word with
  | none => rfl
  | some its =>
    have solid : (its.text.toList.all fun d => !isSpace d) = true := by obtain _ | _ | _ | (_ | _ | _ | _) := its <;> decide
    rw [option_text found] at member
    have visible := List.all_eq_true.mp solid c member
    rw [blank] at visible
    cases visible

section
variable {α : Type} {word : α → Word}

theorem Parser.read_grows (parser : Parser α) (part : α) :
    (parser.read word part).args.length ≤ parser.args.length + 1 ∧ parser.options ⊆ (parser.read word part).options := by
  have head : ∀ parser : Parser α, (parser.readHead word part).args.length ≤ parser.args.length + 1 ∧
      parser.options ⊆ (parser.readHead word part).options := by
    intro parser
    unfold readHead
    cases option (word part) with
    | none => dsimp only; split_ifs <;> simp [die]
    | some found => cases found <;> simp
  unfold read
  cases parser.mode with
  | head => exact head parser
  | value valued =>
    cases valued <;> simp [readValue,die]
    split_ifs <;> simp
  | devices =>
    have closed : parser.closeDevices.args = parser.args ∧ parser.closeDevices.options = parser.options := by
      unfold closeDevices
      split_ifs <;> exact ⟨rfl,rfl⟩
    dsimp only
    split_ifs
    · have read := head parser.closeDevices
      rwa [closed.1,closed.2] at read
    · simp [closed.1,closed.2]
    · simp
  | died message => simp
  | helped => simp

theorem Parser.foldl_options (parser : Parser α) (parts : List α) : parser.options ⊆ (parts.foldl (read word) parser).options := by
  induction parts generalizing parser with
  | nil => exact List.Subset.refl _
  | cons part parts ih => exact fun _ member => ih _ ((parser.read_grows part).2 member)

theorem Parser.foldl_died {message : String} {parser : Parser α} (died : parser.mode = .died message) (parts : List α) :
    parts.foldl (read word) parser = parser := by
  induction parts with
  | nil => rfl
  | cons part parts ih =>
    have same : parser.read word part = parser := by simp [read,died]
    rw [List.foldl_cons,same,ih]

theorem Parser.foldl_helped {parser : Parser α} (helped : parser.mode = .helped) (parts : List α) : parts.foldl (read word) parser = parser := by
  induction parts with
  | nil => rfl
  | cons part parts ih =>
    have same : parser.read word part = parser := by simp [read,helped]
    rw [List.foldl_cons,same,ih]

theorem Parser.not_retry {parser : Parser α} (short : parser.args.length ≤ 2) (testType timestamp : Word) :
    parser.invocation ≠ .retry testType timestamp := by
  have none_ : ∀ first rest, parser.args = first::rest → rest.getD 1 [] = [] := by
    rintro first (_ | ⟨second,_ | ⟨third,rest⟩⟩) same
    · rfl
    · rfl
    · rw [same] at short
      simp at short
  have command : parser.command ≠ .retry testType timestamp := by
    unfold command
    cases its : parser.args with
    | nil => simp
    | cons first rest =>
      simp only [none_ first rest its]
      split_ifs <;> simp_all
  unfold invocation
  cases parser.mode with
  | helped => exact nofun
  | died message => exact nofun
  | head => exact command
  | value option => exact command
  | devices => exact command

end

end GmsRemoteTest.ParseArgs
