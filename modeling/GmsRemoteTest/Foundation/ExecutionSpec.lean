import Mathlib.Data.List.DropRight
import GmsRemoteTest.Lib.PosixPath
import GmsRemoteTest.Foundation.Text

/-! The argument list that Controller and Worker build from an execution spec. -/
namespace GmsRemoteTest.ExecutionSpec
open PosixPath (join normpath)

abbrev Word := List Char

/-- `str.strip`. -/
def strip (text : Word) : Word := (text.dropWhile Text.isSpace).rdropWhile Text.isSpace

/-- `str.lower`, as far as the test types go. -/
def lower (text : Word) : Word := text.map Char.toLower

structure Options where
  shardCount : ℤ := 0
  queueTimeoutSeconds : ℤ := 0
  executionTimeoutSeconds : ℤ := 0
  outputIdleTimeoutSeconds : ℤ := 0
  preparations : List String := []
deriving DecidableEq

structure Spec extends Options where
  testType : Word
  suitePath : Word
  module_ : Word := []
  testCase : Word := []
  retryDir : Word := []
  devices : List Word := []
  localServer : Word := []
  noRetry : Bool := false
  copyRemote : Bool := false
deriving DecidableEq

structure ExecutionSpecError where
  statusCode : ℕ
  detail : String
deriving DecidableEq

def preparationTemplates : List String := ["stay_awake","animations_off","wifi_on"]

def checkOption (key : String) (number maximum : ℤ) (timeout : Bool) : Except String Unit :=
  if ¬(0 ≤ number ∧ number ≤ maximum) then .error (key ++ " must be an integer between 0 and " ++ toString maximum)
  else if timeout = true ∧ 0 < number ∧ number < 60 then .error (key ++ " must be zero or at least 60 seconds")
  else .ok ()

def validateExecutionOptions (value : Options) (deviceCount : ℕ) : Except String Options := do
  checkOption "shard_count" value.shardCount 32 false
  checkOption "queue_timeout_seconds" value.queueTimeoutSeconds 604800 true
  checkOption "execution_timeout_seconds" value.executionTimeoutSeconds 604800 true
  checkOption "output_idle_timeout_seconds" value.outputIdleTimeoutSeconds 86400 true
  if deviceCount ≠ 0 ∧ deviceCount < value.shardCount then .error "shard_count cannot exceed the number of leased devices"
  else if 8 < value.preparations.length then .error "preparations must contain at most 8 templates"
  else if ∃ action ∈ value.preparations, action ∉ preparationTemplates then .error "Unknown preparation template"
  else if ¬value.preparations.Nodup then .error "Duplicate preparation template"
  else .ok value

/-- A full match of a character, and up to a number of characters after it. -/
def Matches (first rest : Char → Bool) (more : ℕ) : Word → Prop
  | [] => False
  | c :: text => first c ∧ (∀ d ∈ text, rest d) ∧ text.length ≤ more

instance (first rest : Char → Bool) (more : ℕ) : DecidablePred (Matches first rest more)
  | [] => inferInstanceAs (Decidable False)
  | _ :: text => @instDecidableAnd _ _ _ (@instDecidableAnd _ _ (List.decidableBAll (fun d => rest d = true) text) _)

def DeviceSerial (serial : Word) : Prop := Matches Char.isAlphanum (fun c => c.isAlphanum || c ∈ ['.','_',':','-']) 255 serial

instance : DecidablePred DeviceSerial := fun _ => inferInstanceAs (Decidable (Matches _ _ _ _))

def LocalServer (text : Word) : Prop :=
  Matches Char.isAlphanum (fun c => c.isAlphanum || c ∈ ['.','_','-']) 63 (text.takeWhile (· ≠ '@')) ∧
    Matches Char.isAlphanum (fun c => c.isAlphanum || c ∈ ['.',':','[',']','_','-']) 254 ((text.dropWhile (· ≠ '@')).drop 1)

instance : DecidablePred LocalServer := fun _ => inferInstanceAs (Decidable (Matches _ _ _ _ ∧ Matches _ _ _ _))

def withoutPrefix (start serial : Word) : Word := if start <+: serial then serial.drop start.length else serial

/-- `_device_serials`, after those already read. -/
def deviceSerials (worker : Word) (serials : List Word) : List Word → Except ExecutionSpecError (List Word)
  | [] => .ok serials
  | item :: devices =>
    let serial := if worker = [] then strip item else withoutPrefix (worker ++ [':']) (strip item)
    if ¬DeviceSerial serial then .error ⟨400,"invalid device serial in execution_spec: " ++ String.ofList serial⟩
    else if serial ∈ serials then .error ⟨400,"duplicate device in execution_spec: " ++ String.ofList serial⟩
    else deviceSerials worker (serials ++ [serial]) devices

def basename (path : Word) : Word := path.rtakeWhile (· ≠ '/')

def dirname (path : Word) : Word :=
  let head := path.rdropWhile (· ≠ '/')
  if head.all (· = '/') then head else head.rdropWhile (· = '/')

def scriptName : Word := "run_GMS_Test_Auto.sh".toList

def script (suitePath : Word) : Word :=
  let parts := (normpath suitePath).splitOn '/'
  if "GMS-Suite".toList ∈ parts then join (['/'].intercalate (parts.take (parts.idxOf "GMS-Suite".toList + 1))) scriptName
  else join (dirname (dirname (dirname suitePath))) scriptName

def validTestTypes : List Word := ["cts","gsi","gts","gts-root","sts","vts","apts"].map String.toList

inductive Field
  | module_
  | testCase
  | retryDir
  | suitePath
deriving DecidableEq

/-- An element of the list, with the free text that it comes from. -/
structure Part where
  word : Word
  field : Option Field := none
deriving DecidableEq

def fixed (text : String) : Part := {word := text.toList}

def retryName (retryDir : Word) : Word := basename ((strip retryDir).rdropWhile (· = '/'))

def shardFlag : Word := "--shard-count".toList

def serialFlag : Word := "-s".toList

def deviceWords (serials : List Word) (shardCount : ℕ) : List Word :=
  (if 1 < shardCount then [shardFlag,Nat.toDigits 10 shardCount] else []) ++ serials.flatMap fun serial => [serialFlag,serial]

def deviceArgs (serials : List Word) (shardCount : ℕ) : Word := [' '].intercalate (deviceWords serials shardCount)

def positionals (spec : Spec) : List Part :=
  if strip spec.retryDir ≠ [] then [fixed "retry",⟨retryName spec.retryDir,some .retryDir⟩]
  else (if strip spec.module_ ≠ [] then [⟨strip spec.module_,some .module_⟩] else []) ++
    (if strip spec.testCase ≠ [] then [⟨strip spec.testCase,some .testCase⟩] else [])

def server (spec : Spec) : List Part :=
  if strip spec.localServer ≠ [] then [fixed "--local-server",{word := strip spec.localServer}] else []

def switches (spec : Spec) : List Part :=
  (if spec.copyRemote then [fixed "--copy-remote"] else []) ++ (if spec.noRetry then [fixed "--no-retry"] else [])

def buildArgvFromSpec (spec : Spec) : Except ExecutionSpecError (List Part) :=
  let testType := lower spec.testType
  let suitePath := strip spec.suitePath
  if testType ∉ validTestTypes then .error ⟨400,"invalid test_type in execution_spec: " ++ String.ofList testType⟩
  else if suitePath = [] then .error ⟨400,"suite_path is required in execution_spec"⟩
  else if strip spec.retryDir ≠ [] ∧ (strip spec.module_ ≠ [] ∨ strip spec.testCase ≠ []) then
    .error ⟨400,"retry_dir cannot be combined with module or test_case"⟩
  else if strip spec.testCase ≠ [] ∧ strip spec.module_ = [] then .error ⟨400,"test_case requires module in execution_spec"⟩
  else if strip spec.retryDir ≠ [] ∧ retryName spec.retryDir ∈ [[],['.'],['.','.']] then .error ⟨400,"invalid retry_dir in execution_spec"⟩
  else match deviceSerials [] [] spec.devices with
    | .error error => .error error
    | .ok serials =>
      if serials = [] then .error ⟨400,"execution_spec requires at least one device"⟩
      else match validateExecutionOptions spec.toOptions serials.length with
        | .error detail => .error ⟨400,detail⟩
        | .ok options =>
          let shardCount := if options.shardCount ≠ 0 then options.shardCount.toNat else serials.length
          if strip spec.localServer ≠ [] ∧ ¬LocalServer (strip spec.localServer) then .error ⟨400,"invalid local_server in execution_spec"⟩
          else if spec.copyRemote ∧ strip spec.localServer = [] then .error ⟨400,"copy_remote requires local_server in execution_spec"⟩
          else .ok ([{word := script suitePath},{word := testType}] ++ positionals spec ++
            [fixed "--device-args",{word := deviceArgs serials shardCount},fixed "--test-suite",⟨suitePath,some .suitePath⟩] ++
            server spec ++ switches spec)

def argv (parts : List Part) : List Word := parts.map Part.word

structure Meaning where
  testType : Word
  retryName : Word
  module_ : Word
  testCase : Word
  devices : List Word
  shardCount : ℕ
  suitePath : Word
  localServer : Word
  copyRemote : Bool
  noRetry : Bool
deriving DecidableEq

def meaning (spec : Spec) : Meaning where
  testType := lower spec.testType
  retryName := if strip spec.retryDir = [] then [] else retryName spec.retryDir
  module_ := strip spec.module_
  testCase := strip spec.testCase
  devices := spec.devices.map strip
  shardCount := if spec.shardCount ≠ 0 then spec.shardCount.toNat else spec.devices.length
  suitePath := strip spec.suitePath
  localServer := strip spec.localServer
  copyRemote := spec.copyRemote
  noRetry := spec.noRetry

def Meaning.wordless (meaning : Meaning) : Meaning := {meaning with retryName := [], module_ := [], testCase := []}

structure Accepted (spec : Spec) : Prop where
  testType : lower spec.testType ∈ validTestTypes
  suitePath : strip spec.suitePath ≠ []
  alone : strip spec.retryDir ≠ [] → strip spec.module_ = [] ∧ strip spec.testCase = []
  testCase : strip spec.testCase ≠ [] → strip spec.module_ ≠ []
  retryName : strip spec.retryDir ≠ [] → retryName spec.retryDir ≠ []
  serials : ∀ serial ∈ spec.devices.map strip, DeviceSerial serial
  device : spec.devices ≠ []
  shardCount : 0 < (meaning spec).shardCount
  localServer : strip spec.localServer ≠ [] → LocalServer (strip spec.localServer)
  copyRemote : spec.copyRemote = true → strip spec.localServer ≠ []

def tail (spec : Spec) : List Part :=
  [fixed "--device-args",{word := deviceArgs (meaning spec).devices (meaning spec).shardCount},fixed "--test-suite",
    ⟨(meaning spec).suitePath,some .suitePath⟩] ++ server spec ++ switches spec

theorem deviceSerials_ok {serials devices found : List Word} (ok : deviceSerials [] serials devices = .ok found) :
    found = serials ++ devices.map strip ∧ ∀ serial ∈ devices.map strip, DeviceSerial serial := by
  induction devices generalizing serials with
  | nil =>
    cases ok
    simp
  | cons item devices ih =>
    unfold deviceSerials at ok
    dsimp only at ok
    rw [if_pos rfl] at ok
    split_ifs at ok with wrong twice
    obtain ⟨rfl,valid⟩ := ih ok
    refine ⟨by simp,?_⟩
    simpa using ⟨wrong,by simpa using valid⟩

theorem checkOption_ok {key : String} {number maximum : ℤ} {timeout : Bool} (ok : checkOption key number maximum timeout = .ok ()) : 0 ≤ number := by
  unfold checkOption at ok
  split_ifs at ok with outside
  exact outside.1

theorem validate_ok {value options : Options} {devices : ℕ} (ok : validateExecutionOptions value devices = .ok options) :
    options = value ∧ 0 ≤ value.shardCount := by
  unfold validateExecutionOptions at ok
  cases first : checkOption "shard_count" value.shardCount 32 false with
  | error detail => simp [first,bind,Except.bind] at ok
  | ok _ =>
    refine ⟨?_,checkOption_ok first⟩
    simp only [bind,Except.bind] at ok
    split at ok
    · cases ok
    · split at ok
      · cases ok
      · split at ok
        · cases ok
        · split at ok
          · cases ok
          · split_ifs at ok
            cases ok
            rfl

theorem build_ok {spec : Spec} {parts : List Part} (ok : buildArgvFromSpec spec = .ok parts) :
    Accepted spec ∧ parts = [{word := script (meaning spec).suitePath},{word := (meaning spec).testType}] ++ positionals spec ++ tail spec := by
  unfold buildArgvFromSpec at ok
  dsimp only at ok
  cases read : deviceSerials [] [] spec.devices with
  | error error =>
    simp only [read] at ok
    split_ifs at ok
  | ok serials =>
    obtain ⟨same,valid⟩ := deviceSerials_ok read
    rw [List.nil_append] at same
    subst same
    cases checked : validateExecutionOptions spec.toOptions (spec.devices.map strip).length with
    | error detail =>
      simp only [read,checked] at ok
      split_ifs at ok
    | ok options =>
      obtain ⟨rfl,positive⟩ := validate_ok checked
      have shards : (if spec.shardCount ≠ 0 then spec.shardCount.toNat else (spec.devices.map strip).length) = (meaning spec).shardCount := by
        simp [meaning]
      simp only [read,checked,shards] at ok
      split_ifs at ok with testType suitePath combined caseless name none_ server copy
      cases ok
      have device : spec.devices ≠ [] := fun none => none_ (by rw [none]; rfl)
      refine ⟨⟨testType,suitePath,fun retry => ?_,fun given missing => caseless ⟨given,missing⟩,fun retry empty => name ⟨retry,by simp [empty]⟩,
        valid,device,?_,fun given => ?_,fun given missing => copy ⟨given,missing⟩⟩,?_⟩
      · simpa [not_or] using fun both => combined ⟨retry,both⟩
      · unfold meaning
        dsimp only
        split_ifs with given
        · omega
        · exact List.length_pos_iff.mpr device
      · by_contra wrong
        exact server ⟨given,wrong⟩
      · simp [tail,meaning]

theorem Matches.all {first rest : Char → Bool} {more : ℕ} {text : Word} (matches_ : Matches first rest more text)
    (weaker : ∀ c, first c → rest c) : text ≠ [] ∧ ∀ c ∈ text, rest c := by
  cases text with
  | nil => exact absurd matches_ id
  | cons c text =>
    refine ⟨List.cons_ne_nil _ _,fun d member => ?_⟩
    obtain rfl | member := List.mem_cons.mp member
    · exact weaker d matches_.1
    · exact matches_.2.1 d member

theorem DeviceSerial.solid {serial : Word} (valid : DeviceSerial serial) : serial ≠ [] ∧ ' ' ∉ serial := by
  obtain ⟨some_,all⟩ := Matches.all valid fun c first => by simp [first]
  refine ⟨some_,fun blank => ?_⟩
  have wrong := all ' ' blank
  revert wrong
  decide

section
variable {serials others : List Word} {shardCount otherCount : ℕ}

theorem digits_solid (n : ℕ) : ' ' ∉ Nat.toDigits 10 n := by
  intro member
  have digit := Nat.isDigit_of_mem_toDigits (by decide) (by decide) member
  revert digit
  decide

theorem deviceWords_solid (valid : ∀ serial ∈ serials, DeviceSerial serial) : ∀ word ∈ deviceWords serials shardCount, ' ' ∉ word := by
  intro word member
  unfold deviceWords at member
  obtain front | back := List.mem_append.mp member
  · split_ifs at front
    · obtain rfl | rfl := List.mem_pair.mp front
      · decide
      · exact digits_solid _
    · cases front
  · obtain ⟨serial,its,same⟩ := List.mem_flatMap.mp back
    obtain rfl | rfl := List.mem_pair.mp same
    · decide
    · exact (valid _ its).solid.2

theorem deviceWords_inj (some_ : 0 < shardCount) (other : 0 < otherCount) (one : serials ≠ []) (two : others ≠ [])
    (same : deviceWords serials shardCount = deviceWords others otherCount) : serials = others ∧ shardCount = otherCount := by
  have serials_inj : ∀ {serials others : List Word},
      (serials.flatMap fun serial => [serialFlag,serial]) = (others.flatMap fun serial => [serialFlag,serial]) → serials = others := by
    intro serials others same
    induction serials generalizing others with
    | nil => cases others with
      | nil => rfl
      | cons _ _ => simp at same
    | cons serial serials ih => cases others with
      | nil => simp at same
      | cons other others =>
        simp only [List.flatMap_cons,List.cons_append,List.nil_append,List.cons.injEq,true_and] at same
        rw [same.1,ih same.2]
  obtain ⟨serial,serials,rfl⟩ := List.exists_cons_of_ne_nil one
  obtain ⟨other_,others,rfl⟩ := List.exists_cons_of_ne_nil two
  unfold deviceWords at same
  split_ifs at same with many more
  · simp only [List.cons_append,List.nil_append,List.cons.injEq,true_and] at same
    refine ⟨serials_inj same.2,?_⟩
    have digits := congrArg (fun text => Nat.ofDigitChars 10 text 0) same.1
    simpa [Nat.ofDigitChars_ten_toDigits] using digits
  · exact absurd (List.cons.inj same).1 (by decide)
  · exact absurd (List.cons.inj same).1 (by decide)
  · exact ⟨serials_inj same,by omega⟩

theorem deviceArgs_inj (valid : ∀ serial ∈ serials, DeviceSerial serial) (valid' : ∀ serial ∈ others, DeviceSerial serial)
    (some_ : 0 < shardCount) (other : 0 < otherCount) (one : serials ≠ []) (two : others ≠ [])
    (same : deviceArgs serials shardCount = deviceArgs others otherCount) : serials = others ∧ shardCount = otherCount := by
  have words : ∀ {serials : List Word} {count : ℕ}, serials ≠ [] → deviceWords serials count ≠ [] := by
    intro serials count some_
    obtain ⟨serial,serials,rfl⟩ := List.exists_cons_of_ne_nil some_
    simp [deviceWords]
  refine deviceWords_inj some_ other one two ?_
  rw [←List.splitOn_intercalate ' ' (deviceWords_solid valid) (words one),←List.splitOn_intercalate ' ' (deviceWords_solid valid') (words two)]
  exact congrArg (List.splitOn ' ') same

theorem deviceArgs_shape (some_ : serials ≠ []) (valid : ∀ serial ∈ serials, DeviceSerial serial) : ∃ front serial back,
    deviceArgs serials shardCount = front ++ (serialFlag ++ ' ' :: (serial ++ back)) ∧ DeviceSerial serial ∧
      (front = [] ∨ ∃ more, front = shardFlag ++ more) := by
  obtain ⟨serial,serials,rfl⟩ := List.exists_cons_of_ne_nil some_
  have names : ∃ back, [' '].intercalate (serial :: serials.flatMap fun serial => [serialFlag,serial]) = serial ++ back := by
    cases serials with
    | nil => exact ⟨[],by simp⟩
    | cons next serials => exact ⟨_,by simp only [List.flatMap_cons,List.cons_append,List.intercalate_cons_cons,List.append_assoc]; rfl⟩
  obtain ⟨back,names⟩ := names
  unfold deviceArgs deviceWords
  split_ifs
  · refine ⟨shardFlag ++ ' ' :: (Nat.toDigits 10 shardCount ++ [' ']),serial,back,?_,valid serial List.mem_cons_self,.inr ⟨_,rfl⟩⟩
    simp [List.flatMap_cons,List.intercalate_cons_cons,names]
  · refine ⟨[],serial,back,?_,valid serial List.mem_cons_self,.inl rfl⟩
    simp [List.flatMap_cons,List.intercalate_cons_cons,names]

end

/-- A module run that looks like a retry. -/
def Mistaken (retry run : Spec) : Prop :=
  strip retry.retryDir ≠ [] ∧ strip run.retryDir = [] ∧ strip run.module_ = "retry".toList ∧ strip run.testCase = retryName retry.retryDir ∧
    (meaning run).wordless = (meaning retry).wordless

section
variable {first second : Spec}

theorem flags_inj {a b c text text' : Word} {copy copy' quiet quiet' : Bool} (ab : a ≠ b) (ac : a ≠ c) (bc : b ≠ c)
    (same : (if text ≠ [] then [a,text] else []) ++ ((if copy then [b] else []) ++ if quiet then [c] else []) =
      (if text' ≠ [] then [a,text'] else []) ++ ((if copy' then [b] else []) ++ if quiet' then [c] else [])) :
    text = text' ∧ copy = copy' ∧ quiet = quiet' := by
  have ba := ab.symm
  have ca := ac.symm
  have cb := bc.symm
  by_cases given : text = [] <;> by_cases given' : text' = [] <;> cases copy <;> cases copy' <;> cases quiet <;> cases quiet' <;> simp_all

theorem tail_inj (one : Accepted first) (two : Accepted second) (same : argv (tail first) = argv (tail second)) :
    (meaning first).devices = (meaning second).devices ∧ (meaning first).shardCount = (meaning second).shardCount ∧
      (meaning first).suitePath = (meaning second).suitePath ∧ (meaning first).localServer = (meaning second).localServer ∧
      first.copyRemote = second.copyRemote ∧ first.noRetry = second.noRetry := by
  have flags : ∀ spec : Spec, argv (server spec ++ switches spec) = (if strip spec.localServer ≠ [] then
      [(fixed "--local-server").word,strip spec.localServer] else []) ++ ((if spec.copyRemote then [(fixed "--copy-remote").word] else []) ++
        if spec.noRetry then [(fixed "--no-retry").word] else []) := by
    intro spec
    unfold argv server switches
    rw [List.map_append,List.map_append]
    split_ifs <;> rfl
  unfold tail at same
  rw [List.append_assoc,List.append_assoc] at same
  obtain ⟨args,rest⟩ := (List.cons.inj (List.cons.inj same).2)
  obtain ⟨suite,rest⟩ := List.cons.inj (List.cons.inj rest).2
  obtain ⟨devices,shards⟩ := deviceArgs_inj one.serials two.serials one.shardCount two.shardCount
    (by simpa [meaning] using one.device) (by simpa [meaning] using two.device) args
  have flags' := (flags first).symm.trans (Eq.trans rest (flags second))
  obtain ⟨local_,copy,quiet⟩ := flags_inj (by decide) (by decide) (by decide) flags'
  exact ⟨devices,shards,suite,local_,copy,quiet⟩

theorem middle_inj {front front' : List Word} {args args' suite suite' : Word} {rest rest' : List Word} (short : front.length ≤ 2)
    (short' : front'.length ≤ 2) (apart : args ≠ "--device-args".toList) (apart' : args' ≠ "--device-args".toList)
    (same : front ++ "--device-args".toList :: args :: "--test-suite".toList :: suite :: rest =
      front' ++ "--device-args".toList :: args' :: "--test-suite".toList :: suite' :: rest') : front = front' := by
  have words : "--device-args".toList ≠ "--test-suite".toList := by decide
  generalize "--device-args".toList = a at *
  generalize "--test-suite".toList = b at *
  obtain _ | ⟨x,_ | ⟨y,_ | ⟨z,front⟩⟩⟩ := front <;> obtain _ | ⟨x',_ | ⟨y',_ | ⟨z',front'⟩⟩⟩ := front' <;> simp_all [eq_comm]

theorem words_retry {spec : Spec} (retry : strip spec.retryDir ≠ []) : argv (positionals spec) = ["retry".toList,(meaning spec).retryName] := by
  unfold positionals
  rw [if_pos retry]
  simp [argv,fixed,meaning,retry]

theorem words_run {spec : Spec} (run : strip spec.retryDir = []) : argv (positionals spec) =
    (if (meaning spec).module_ ≠ [] then [(meaning spec).module_] else []) ++
      if (meaning spec).testCase ≠ [] then [(meaning spec).testCase] else [] := by
  unfold positionals
  rw [if_neg (not_not.mpr run)]
  show argv ((if strip spec.module_ ≠ [] then _ else _) ++ if strip spec.testCase ≠ [] then _ else _) =
    (if strip spec.module_ ≠ [] then _ else _) ++ if strip spec.testCase ≠ [] then _ else _
  split_ifs <;> rfl

theorem words_short (spec : Spec) : (argv (positionals spec)).length ≤ 2 := by
  by_cases run : strip spec.retryDir = []
  · rw [words_run run]
    split_ifs <;> simp
  · rw [words_retry run]
    simp

theorem deviceArgs_apart {spec : Spec} (accepted : Accepted spec) :
    deviceArgs (meaning spec).devices (meaning spec).shardCount ≠ "--device-args".toList := by
  obtain ⟨front,serial,back,same,-⟩ := @deviceArgs_shape (meaning spec).devices (meaning spec).shardCount (by simpa [meaning] using accepted.device)
    accepted.serials
  rw [same]
  intro wrong
  have blank : ' ' ∈ "--device-args".toList := by rw [←wrong]; simp
  revert blank
  decide

theorem argv_eq (spec : Spec) : argv ([{word := script (meaning spec).suitePath},{word := (meaning spec).testType}] ++ positionals spec ++ tail spec) =
    script (meaning spec).suitePath :: (meaning spec).testType :: (argv (positionals spec) ++ argv (tail spec)) := by simp [argv]

theorem Meaning.wordless_eq {one two : Meaning} : one.wordless = two.wordless ↔ one.testType = two.testType ∧ one.devices = two.devices ∧
    one.shardCount = two.shardCount ∧ one.suitePath = two.suitePath ∧ one.localServer = two.localServer ∧ one.copyRemote = two.copyRemote ∧
    one.noRetry = two.noRetry := by simp [wordless]

theorem tail_congr (rest : (meaning first).wordless = (meaning second).wordless) : tail first = tail second := by
  obtain ⟨-,devices,shards,suite,text,copy,quiet⟩ := Meaning.wordless_eq.mp rest
  have text : strip first.localServer = strip second.localServer := text
  have copy : first.copyRemote = second.copyRemote := copy
  have quiet : first.noRetry = second.noRetry := quiet
  unfold tail server switches
  rw [text,copy,quiet,devices,shards,suite]

theorem build_inj {parts parts' : List Part} (one : buildArgvFromSpec first = .ok parts) (two : buildArgvFromSpec second = .ok parts')
    (same : argv parts = argv parts') : argv (positionals first) = argv (positionals second) ∧
      (meaning first).wordless = (meaning second).wordless := by
  obtain ⟨accepted,rfl⟩ := build_ok one
  obtain ⟨accepted',rfl⟩ := build_ok two
  rw [argv_eq,argv_eq] at same
  obtain ⟨type,rest⟩ := List.cons.inj (List.cons.inj same).2
  have words := middle_inj (words_short first) (words_short second) (deviceArgs_apart accepted) (deviceArgs_apart accepted') rest
  rw [words] at rest
  obtain ⟨devices,shards,suite,local_,copy,quiet⟩ := tail_inj accepted accepted' (List.append_cancel_left rest)
  exact ⟨words,Meaning.wordless_eq.mpr ⟨type,devices,shards,suite,local_,copy,quiet⟩⟩

theorem Meaning.ext_words {one two : Meaning} (rest : one.wordless = two.wordless) (name : one.retryName = two.retryName)
    (module_ : one.module_ = two.module_) (testCase : one.testCase = two.testCase) : one = two := by
  obtain ⟨type,devices,shards,suite,text,copy,quiet⟩ := Meaning.wordless_eq.mp rest
  cases one
  cases two
  simp_all

section
variable {parts parts' : List Part} (one : buildArgvFromSpec first = .ok parts) (two : buildArgvFromSpec second = .ok parts')
include one two

theorem mistaken_of_argv (same : argv parts = argv parts') (retry : strip first.retryDir ≠ []) (run : strip second.retryDir = []) : Mistaken first second := by
  obtain ⟨words,rest⟩ := build_inj one two same
  rw [words_retry retry,words_run run] at words
  obtain ⟨accepted,-⟩ := build_ok one
  have name : (meaning first).retryName = retryName first.retryDir := if_neg retry
  split_ifs at words with module_ testCase
  · obtain ⟨its,rest'⟩ := List.cons.inj words
    exact ⟨retry,run,its.symm,(List.cons.inj rest').1.symm.trans name,rest.symm⟩
  · simp at words
  · simp at words
  · simp at words

theorem Mistaken.same_argv (mistaken : Mistaken first second) : argv parts = argv parts' ∧ meaning first ≠ meaning second := by
  obtain ⟨retry,run,module_,testCase,rest⟩ := mistaken
  obtain ⟨accepted,rfl⟩ := build_ok one
  obtain ⟨-,rfl⟩ := build_ok two
  have name : (meaning first).retryName = retryName first.retryDir := if_neg retry
  have words : argv (positionals first) = argv (positionals second) := by
    have module_ : (meaning second).module_ = "retry".toList := module_
    have testCase : (meaning second).testCase = retryName first.retryDir := testCase
    rw [words_retry retry,words_run run,name,testCase,if_pos (accepted.retryName retry),module_,if_pos (by decide)]
    rfl
  obtain ⟨type,-,-,suite,-⟩ := Meaning.wordless_eq.mp rest
  refine ⟨by rw [argv_eq,argv_eq,words,tail_congr rest,type,suite],fun same => accepted.retryName retry ?_⟩
  rw [←name,same]
  exact if_pos run

theorem agree_iff :
    (argv parts = argv parts' → meaning first = meaning second) ↔ ¬Mistaken first second ∧ ¬Mistaken second first := by
  constructor
  · refine fun agree => ⟨fun mistaken => ?_,fun mistaken => ?_⟩
    · obtain ⟨same,apart⟩ := mistaken.same_argv one two
      exact apart (agree same)
    · obtain ⟨same,apart⟩ := mistaken.same_argv two one
      exact apart (agree same.symm).symm
  · intro ⟨not,not'⟩ same
    obtain ⟨words,rest⟩ := build_inj one two same
    obtain ⟨accepted,-⟩ := build_ok one
    obtain ⟨accepted',-⟩ := build_ok two
    by_cases run : strip first.retryDir = [] <;> by_cases run' : strip second.retryDir = []
    · rw [words_run run,words_run run'] at words
      have pair : (meaning first).module_ = (meaning second).module_ ∧ (meaning first).testCase = (meaning second).testCase := by
        have before := accepted.testCase
        have before' := accepted'.testCase
        by_cases some_ : (meaning first).module_ = [] <;> by_cases some_' : (meaning second).module_ = [] <;>
          by_cases case_ : (meaning first).testCase = [] <;> by_cases case_' : (meaning second).testCase = [] <;> simp_all [meaning]
      exact Meaning.ext_words rest ((if_pos run).trans (if_pos run').symm) pair.1 pair.2
    · exact absurd (mistaken_of_argv two one same.symm run' run) not'
    · exact absurd (mistaken_of_argv one two same run run') not
    · rw [words_retry run,words_retry run'] at words
      obtain ⟨none_,none'⟩ := accepted.alone run
      obtain ⟨none_',none''⟩ := accepted'.alone run'
      exact Meaning.ext_words rest (by simpa using words) (none_.trans none_'.symm) (none'.trans none''.symm)

end

end

end GmsRemoteTest.ExecutionSpec
