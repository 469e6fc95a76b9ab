import Mathlib.Data.List.Infix
import GmsRemoteTest.Foundation.ExecutionSpec
import GmsRemoteTest.Scripts.ParseArgs

/-! What the test script reads from the argument list of a spec. -/
namespace GmsRemoteTest.ExecutionSpec
open ParseArgs

def parsed (parts : List Part) : Parser Part := parse Part.word parts.tail

section
variable {spec : Spec}

abbrev devicesOf (spec : Spec) : Word := deviceArgs (meaning spec).devices (meaning spec).shardCount

theorem devicesOf_shape (accepted : Accepted spec) : ∃ front serial back, devicesOf spec = front ++ (serialFlag ++ ' ' :: (serial ++ back)) ∧
    DeviceSerial serial ∧ (front = [] ∨ ∃ more, front = shardFlag ++ more) :=
  deviceArgs_shape (by simpa [meaning] using accepted.device) accepted.serials

theorem devicesOf_option (accepted : Accepted spec) : option (devicesOf spec) = none := by
  obtain ⟨front,serial,back,same,-⟩ := devicesOf_shape accepted
  have blank : ' ' ∈ devicesOf spec := by simp [same]
  exact option_none blank rfl

theorem devicesOf_dash (accepted : Accepted spec) : ['-'] <+: devicesOf spec := by
  obtain ⟨front,serial,back,same,-,rfl | ⟨more,rfl⟩⟩ := devicesOf_shape accepted
  · rw [same]
    exact ⟨['s',' '] ++ (serial ++ back),rfl⟩
  · rw [same]
    exact ⟨_,rfl⟩

theorem visible {c : Char} (alphanum : c.isAlphanum) : isSpace c = false := by
  by_contra blank
  have its : c ∈ [' ','\t','\n','\x0b','\x0c','\r'] := of_decide_eq_true (eq_true_of_ne_false blank)
  have none_ : ([' ','\t','\n','\x0b','\x0c','\r'].all fun c => !c.isAlphanum) = true := by decide
  have wrong := List.all_eq_true.mp none_ c its
  rw [alphanum] at wrong
  cases wrong

theorem devicesOf_names (accepted : Accepted spec) : namesDevice (devicesOf spec) = true := by
  obtain ⟨front,serial,back,same,valid,-⟩ := devicesOf_shape accepted
  obtain ⟨some_,solid⟩ := valid.solid
  obtain ⟨c,rest,rfl⟩ := List.exists_cons_of_ne_nil some_
  unfold namesDevice
  refine List.any_eq_true.mpr ⟨serialFlag ++ ' ' :: (c :: rest ++ back),?_,?_⟩
  · rw [List.mem_tails,same]
    exact List.suffix_append _ _
  · have visible := visible valid.1
    show (isSpace ' ' && (c :: rest ++ back).any fun d => !isSpace d) = true
    simp only [List.cons_append,List.any_cons,visible]
    rfl

structure Stays (before after : Parser Part) : Prop where
  args : after.args = before.args
  options : ∀ part ∈ after.options, part ∈ before.options ∨ part.field = none

theorem Stays.refl (parser : Parser Part) : Stays parser parser := ⟨rfl,fun _ => .inl⟩

theorem Stays.trans {one two three : Parser Part} (first : Stays one two) (second : Stays two three) : Stays one three where
  args := second.args.trans first.args
  options part member := (second.options part member).elim (first.options part) .inr

/-- Nothing is expected of the next argument, or the script has stopped. -/
def Settled (parser : Parser Part) : Prop := parser.mode = .head ∨ (∃ message, parser.mode = .died message) ∨ parser.mode = .helped

theorem readHead_option {parser : Parser Part} {part : Part} {valued : Valued} (its : option part.word = some (.valued valued)) :
    parser.readHead Part.word part = {parser with mode := .value valued, options := parser.options ++ [part]} := by
  unfold Parser.readHead
  rw [its]

theorem read_devices (accepted : Accepted spec) {parser : Parser Part} (mode : parser.mode = .value .deviceArgs) :
    ([{word := devicesOf spec},fixed "--test-suite",⟨(meaning spec).suitePath,some .suitePath⟩].foldl (Parser.read Part.word) parser) =
      {parser with
        mode := .head, deviceArgs := devicesOf spec, suitePath := (meaning spec).suitePath, options := parser.options ++ [fixed "--test-suite"]} := by
  have some_ : devicesOf spec ≠ [] := by
    obtain ⟨rest,same⟩ := devicesOf_dash accepted
    simp [←same]
  have names := devicesOf_names accepted
  have first : parser.read Part.word {word := devicesOf spec} = {parser with mode := .devices, deviceArgs := devicesOf spec} := by
    simp [Parser.read,mode,Parser.readValue]
  rw [List.foldl_cons,first,List.foldl_cons]
  have second : Parser.read Part.word {parser with mode := .devices, deviceArgs := devicesOf spec} (fixed "--test-suite") =
      {parser with mode := .value .testSuite, deviceArgs := devicesOf spec, options := parser.options ++ [fixed "--test-suite"]} := by
    unfold Parser.read
    dsimp only
    rw [if_pos (by decide)]
    unfold Parser.closeDevices
    dsimp only
    rw [if_neg some_,if_pos names,if_pos rfl,@readHead_option _ _ .testSuite (by decide)]
  rw [second]
  rfl

theorem stopped {parser : Parser Part} (stop : (∃ message, parser.mode = .died message) ∨ parser.mode = .helped) (parts : List Part) :
    parts.foldl (Parser.read Part.word) parser = parser := by
  obtain ⟨message,died⟩ | helped := stop
  · exact Parser.foldl_died died parts
  · exact Parser.foldl_helped helped parts

theorem closeDevices_stays (parser : Parser Part) : Stays parser parser.closeDevices ∧
    (parser.closeDevices.mode = .head ∨ ∃ message, parser.closeDevices.mode = .died message) := by
  unfold Parser.closeDevices
  split_ifs
  · exact ⟨⟨rfl,fun _ => .inl⟩,.inr ⟨_,rfl⟩⟩
  · exact ⟨⟨rfl,fun _ => .inl⟩,.inl rfl⟩
  · exact ⟨⟨rfl,fun _ => .inl⟩,.inr ⟨_,rfl⟩⟩

theorem close_deviceArgs {parser : Parser Part} (args : parser.deviceArgs = "--device-args".toList) :
    parser.closeDevices = parser.die "⚠️ 设备参数格式可能不正确，应为: -s DEVICE1 [-s DEVICE2 ...]" := by
  have none_ : namesDevice "--device-args".toList = false := by rfl
  have some_ : "--device-args".toList ≠ [] := by decide
  unfold Parser.closeDevices
  rw [args,if_neg some_,none_]
  rfl

theorem readHead_stays {parser : Parser Part} {text : String} {valued : Valued} (its : option text.toList = some (.valued valued)) :
    Stays parser (parser.readHead Part.word (fixed text)) ∧ (parser.readHead Part.word (fixed text)).mode = .value valued := by
  rw [readHead_option its]
  refine ⟨⟨rfl,fun part member => ?_⟩,rfl⟩
  obtain before | rfl := by simpa using member
  · exact .inl before
  · exact .inr rfl

def fourWords (spec : Spec) : List Part :=
  [fixed "--device-args",{word := devicesOf spec},fixed "--test-suite",⟨(meaning spec).suitePath,some .suitePath⟩]

theorem four_of_head (accepted : Accepted spec) {parser : Parser Part} (mode : parser.mode = .head) :
    let after := (fourWords spec).foldl (Parser.read Part.word) parser
    Stays parser after ∧ after.mode = .head ∧ after.suitePath = (meaning spec).suitePath ∧ after.copyToRemote = parser.copyToRemote := by
  have first : parser.read Part.word (fixed "--device-args") = parser.readHead Part.word (fixed "--device-args") := by simp [Parser.read,mode]
  have option_ : option "--device-args".toList = some (.valued .deviceArgs) := by decide
  obtain ⟨stays,value⟩ := @readHead_stays parser "--device-args" .deviceArgs option_
  unfold fourWords
  rw [List.foldl_cons,first,read_devices accepted value]
  refine ⟨stays.trans ⟨rfl,fun part member => ?_⟩,rfl,rfl,by rw [readHead_option option_]⟩
  obtain before | rfl := by simpa using member
  · exact .inl before
  · exact .inr rfl

theorem closing_stays (parser : Parser Part) (mode : parser.mode = .devices) :
    let after := [fixed "--test-suite",⟨(meaning spec).suitePath,some .suitePath⟩].foldl (Parser.read Part.word) parser
    Stays parser after ∧ Settled after := by
  obtain ⟨stays,head | ⟨message,died⟩⟩ := closeDevices_stays parser
  · have first : parser.read Part.word (fixed "--test-suite") = parser.closeDevices.readHead Part.word (fixed "--test-suite") := by
      unfold Parser.read
      rw [mode]
      dsimp only
      rw [if_pos (by decide),if_pos head]
    obtain ⟨stays',value⟩ := @readHead_stays parser.closeDevices "--test-suite" .testSuite (by decide)
    have second : ∀ after : Parser Part, after.mode = .value .testSuite → Parser.read Part.word after ⟨(meaning spec).suitePath,some .suitePath⟩ =
        {after with mode := .head, suitePath := (meaning spec).suitePath} := by
      intro after mode
      unfold Parser.read
      rw [mode]
      rfl
    rw [List.foldl_cons,first,List.foldl_cons,second _ value]
    exact ⟨(stays.trans stays').trans ⟨rfl,fun _ => .inl⟩,.inl rfl⟩
  · have first : parser.read Part.word (fixed "--test-suite") = parser.closeDevices := by
      unfold Parser.read
      rw [mode]
      dsimp only
      rw [if_pos (by decide),if_neg (by rw [died]; exact nofun)]
    rw [List.foldl_cons,first,stopped (.inl ⟨message,died⟩)]
    exact ⟨stays,.inr (.inl ⟨message,died⟩)⟩

theorem four_stays (accepted : Accepted spec) (parser : Parser Part) :
    let after := (fourWords spec).foldl (Parser.read Part.word) parser
    Stays parser after ∧ Settled after := by
  have still : ∀ {after : Parser Part}, ((∃ message, after.mode = .died message) ∨ after.mode = .helped) → Stays parser after → ∀ parts : List Part,
      Stays parser (parts.foldl (Parser.read Part.word) after) ∧ Settled (parts.foldl (Parser.read Part.word) after) := by
    intro after stop stays parts
    rw [stopped stop]
    exact ⟨stays,.inr stop⟩
  have dead : ∀ message, Stays parser (parser.die message) := fun message => ⟨rfl,fun _ => .inl⟩
  cases mode : parser.mode with
  | head =>
    obtain ⟨stays,head,-⟩ := four_of_head accepted mode
    exact ⟨stays,.inl head⟩
  | died message => exact still (.inl ⟨message,mode⟩) (.refl _) _
  | helped => exact still (.inr mode) (.refl _) _
  | devices =>
    obtain ⟨stays,head | ⟨message,died⟩⟩ := closeDevices_stays parser
    · have first : parser.read Part.word (fixed "--device-args") = Parser.read Part.word parser.closeDevices (fixed "--device-args") := by
        unfold Parser.read
        rw [mode,head]
        dsimp only
        rw [if_pos (by decide),if_pos head]
      obtain ⟨stays',head',-⟩ := four_of_head accepted head
      unfold fourWords at stays' head' ⊢
      rw [List.foldl_cons] at stays' head' ⊢
      rw [first]
      exact ⟨stays.trans stays',.inl head'⟩
    · have first : parser.read Part.word (fixed "--device-args") = parser.closeDevices := by
        unfold Parser.read
        rw [mode]
        dsimp only
        rw [if_pos (by decide),if_neg (by rw [died]; exact nofun)]
      unfold fourWords
      rw [List.foldl_cons,first]
      exact still (.inl ⟨message,died⟩) stays _
  | value valued =>
    have unknown : ∀ {after : Parser Part}, after.mode = .head → Stays parser after →
        Stays parser (after.read Part.word {word := devicesOf spec}) ∧
          ∃ message, (after.read Part.word {word := devicesOf spec}).mode = .died message := by
      intro after head stays
      unfold Parser.read
      rw [head]
      dsimp only
      unfold Parser.readHead
      rw [devicesOf_option accepted]
      dsimp only
      rw [if_pos (devicesOf_dash accepted)]
      exact ⟨stays.trans ⟨rfl,fun _ => .inl⟩,_,rfl⟩
    unfold fourWords
    rw [List.foldl_cons]
    have first : parser.read Part.word (fixed "--device-args") = parser.readValue "--device-args".toList valued := by
      unfold Parser.read
      rw [mode]
      rfl
    rw [first]
    cases valued with
    | localServer =>
      have dies : parser.readValue "--device-args".toList .localServer = parser.die "--local-server 格式错误，应为 user@host" := by
        unfold Parser.readValue
        exact if_neg (by decide)
      rw [dies]
      exact still (.inl ⟨_,rfl⟩) (dead _) _
    | testSuite =>
      rw [List.foldl_cons]
      obtain ⟨stays,died⟩ := @unknown (parser.readValue "--device-args".toList .testSuite) rfl ⟨rfl,fun _ => .inl⟩
      exact still (.inl died) stays _
    | pgid =>
      rw [List.foldl_cons]
      obtain ⟨stays,died⟩ := @unknown (parser.readValue "--device-args".toList .pgid) rfl ⟨rfl,fun _ => .inl⟩
      exact still (.inl died) stays _
    | deviceArgs =>
      rw [List.foldl_cons]
      by_cases dashes : ['-','-'] <+: devicesOf spec
      · have dies : Parser.read Part.word (parser.readValue "--device-args".toList .deviceArgs) {word := devicesOf spec} =
            (parser.readValue "--device-args".toList .deviceArgs).closeDevices := by
          unfold Parser.read Parser.readValue
          dsimp only
          rw [if_pos dashes,close_deviceArgs rfl]
          exact if_neg nofun
        rw [dies,close_deviceArgs rfl]
        refine still (.inl ?_) ?_ _
        · exact ⟨_,rfl⟩
        · exact ⟨rfl,fun _ => .inl⟩
      · have swallows : Parser.read Part.word (parser.readValue "--device-args".toList .deviceArgs) {word := devicesOf spec} =
            {parser with mode := .devices, deviceArgs := "--device-args".toList ++ ' ' :: devicesOf spec} := by
          unfold Parser.read Parser.readValue
          dsimp only
          rw [if_neg dashes]
        rw [swallows]
        obtain ⟨stays,settled⟩ := @closing_stays spec
          {parser with mode := .devices, deviceArgs := "--device-args".toList ++ ' ' :: devicesOf spec} rfl
        exact ⟨⟨stays.args,stays.options⟩,settled⟩

theorem LocalServer.parts {text : Word} (valid : LocalServer text) : '@' ∈ text ∧ remoteHost text ≠ [] ∧ remoteUser text ≠ [] := by
  obtain ⟨user,host⟩ := valid
  obtain ⟨some_,-⟩ := Matches.all user fun c first => by simp [first]
  obtain ⟨some_',all⟩ := Matches.all host fun c first => by simp [first]
  have foreign : '@' ∉ (text.dropWhile (· ≠ '@')).drop 1 := by
    intro member
    have wrong := all '@' member
    revert wrong
    decide
  obtain ⟨c,host',rest⟩ : ∃ c host', text.dropWhile (· ≠ '@') = c :: host' := by
    cases rest : text.dropWhile (· ≠ '@') with
    | nil => exact absurd (by rw [rest]; rfl) some_'
    | cons c host' => exact ⟨c,host',rfl⟩
  have at_ : c = '@' := by
    have head := List.head?_dropWhile_not (fun c => decide (c ≠ '@')) text
    rw [rest] at head
    simpa using head
  subst at_
  have split := List.takeWhile_append_dropWhile (p := fun c => decide (c ≠ '@')) (l := text)
  rw [rest] at split foreign some_'
  refine ⟨by rw [←split]; simp,by unfold remoteHost; rw [rest]; exact some_',?_⟩
  unfold remoteUser
  rw [if_pos (by rw [←split]; simp)]
  have reversed : text.reverse = host'.reverse ++ '@' :: (text.takeWhile (· ≠ '@')).reverse := by
    conv_lhs => rw [←split]
    simp
  rw [reversed,List.dropWhile_append_of_pos fun c member => by
    simpa using fun same : c = '@' => foreign (by simpa [same] using member)]
  simpa using some_

theorem read_switch {parser : Parser Part} (mode : parser.mode = .head) :
    parser.read Part.word (fixed "--copy-remote") = {parser with copyToRemote := true, options := parser.options ++ [fixed "--copy-remote"]} ∧
    parser.read Part.word (fixed "--no-retry") = {parser with retryFail := false, options := parser.options ++ [fixed "--no-retry"]} := by
  have copy : option "--copy-remote".toList = some .copyRemote := by decide
  have quiet : option "--no-retry".toList = some .noRetry := by decide
  have head : ∀ part : Part, parser.read Part.word part = parser.readHead Part.word part := fun part => by simp [Parser.read,mode]
  rw [head,head]
  unfold Parser.readHead fixed
  rw [copy,quiet]
  exact ⟨rfl,rfl⟩

theorem read_server (accepted : Accepted spec) {parser : Parser Part} (mode : parser.mode = .head) :
    let after := (server spec).foldl (Parser.read Part.word) parser
    Stays parser after ∧ after.mode = .head ∧ after.suitePath = parser.suitePath ∧ after.copyToRemote = parser.copyToRemote ∧
      (strip spec.localServer ≠ [] → after.localServer = strip spec.localServer) := by
  unfold server
  split_ifs with given
  · have first : parser.read Part.word (fixed "--local-server") = parser.readHead Part.word (fixed "--local-server") := by simp [Parser.read,mode]
    have option_ : option "--local-server".toList = some (.valued .localServer) := by decide
    have second : ∀ after : Parser Part, after.mode = .value .localServer → after.read Part.word {word := strip spec.localServer} =
        {after with mode := .head, localServer := strip spec.localServer} := by
      intro after mode
      unfold Parser.read
      rw [mode]
      dsimp only
      unfold Parser.readValue
      exact if_pos (accepted.localServer given).parts.1
    obtain ⟨stays,value⟩ := @readHead_stays parser "--local-server" .localServer option_
    rw [List.foldl_cons,first,List.foldl_cons,second _ value]
    have same : parser.readHead Part.word (fixed "--local-server") =
        {parser with mode := .value .localServer, options := parser.options ++ [fixed "--local-server"]} := readHead_option option_
    exact ⟨stays.trans ⟨rfl,fun _ => .inl⟩,rfl,by rw [same]; rfl,by rw [same]; rfl,fun _ => rfl⟩
  · exact ⟨.refl _,mode,rfl,rfl,fun given' => absurd given' given⟩

theorem Stays.switch {before after : Parser Part} {text : String} (args : after.args = before.args)
    (options : after.options = before.options ++ [fixed text]) : Stays before after := by
  refine ⟨args,fun part member => ?_⟩
  rw [options] at member
  obtain before | rfl := by simpa using member
  · exact .inl before
  · exact .inr rfl

theorem read_switches {parser : Parser Part} (mode : parser.mode = .head) :
    let after := (switches spec).foldl (Parser.read Part.word) parser
    Stays parser after ∧ after.mode = .head ∧ after.suitePath = parser.suitePath ∧ after.localServer = parser.localServer ∧
      after.copyToRemote = (spec.copyRemote || parser.copyToRemote) := by
  unfold switches
  dsimp only
  rw [List.foldl_append]
  have copied : ∃ after, (if spec.copyRemote then [fixed "--copy-remote"] else []).foldl (Parser.read Part.word) parser = after ∧ Stays parser after ∧
      after.mode = .head ∧ after.suitePath = parser.suitePath ∧ after.localServer = parser.localServer ∧
      after.copyToRemote = (spec.copyRemote || parser.copyToRemote) := by
    cases spec.copyRemote
    · exact ⟨parser,rfl,.refl _,mode,rfl,rfl,rfl⟩
    · exact ⟨_,(read_switch mode).1,.switch rfl rfl,mode,rfl,rfl,rfl⟩
  obtain ⟨after,same,stays,head,suite,text,copy⟩ := copied
  rw [same]
  cases spec.noRetry
  · exact ⟨stays,head,suite,text,copy⟩
  · have quieted : (if true = true then [fixed "--no-retry"] else []).foldl (Parser.read Part.word) after = _ := (read_switch head).2
    rw [quieted]
    exact ⟨stays.trans (.switch rfl rfl),head,suite,text,copy⟩

theorem tail_eq (spec : Spec) : tail spec = fourWords spec ++ (server spec ++ switches spec) := List.append_assoc _ _ _

theorem tail_stays (accepted : Accepted spec) (parser : Parser Part) :
    let after := (tail spec).foldl (Parser.read Part.word) parser
    Stays parser after ∧ Settled after := by
  obtain ⟨stays,settled⟩ := four_stays accepted parser
  dsimp only
  rw [tail_eq,List.foldl_append]
  obtain head | stop := settled
  · rw [List.foldl_append]
    obtain ⟨stays',head',-⟩ := read_server accepted head
    obtain ⟨stays'',head'',-⟩ := @read_switches spec _ head'
    exact ⟨(stays.trans stays').trans stays'',.inl head''⟩
  · rw [stopped stop]
    exact ⟨stays,.inr stop⟩

theorem Settled.close {parser : Parser Part} (settled : Settled parser) : parser.close = parser := by
  unfold Parser.close
  obtain head | ⟨message,died⟩ | helped := settled
  · rw [head]
  · rw [died]
  · rw [helped]

theorem tail_command (accepted : Accepted spec) {parser : Parser Part} (mode : parser.mode = .head) (copy : parser.copyToRemote = false) :
    let after := (tail spec).foldl (Parser.read Part.word) parser
    after.mode = .head ∧ after.suitePath ≠ [] ∧
      ¬(after.copyToRemote = true ∧ (remoteHost after.localServer = [] ∨ remoteUser after.localServer = [])) := by
  obtain ⟨-,head,suite,copied⟩ := four_of_head accepted mode
  dsimp only
  rw [tail_eq,List.foldl_append,List.foldl_append]
  obtain ⟨-,head',suite',copied',text'⟩ := read_server accepted head
  obtain ⟨-,head'',suite'',text'',copied''⟩ := @read_switches spec _ head'
  refine ⟨head'',by rw [suite'',suite',suite]; exact accepted.suitePath,fun ⟨given,missing⟩ => ?_⟩
  rw [copied'',copied',copied,copy,Bool.or_false] at given
  have server := accepted.copyRemote given
  obtain ⟨-,host,user⟩ := (accepted.localServer server).parts
  rw [text'',text' server] at missing
  exact missing.elim host user

section
variable {parser : Parser Part} (mode : parser.mode = .head)
include mode

theorem read_head (part : Part) :
    parser.read Part.word part = parser.readHead Part.word part := by simp [Parser.read,mode]

theorem read_word {part : Part} (none_ : option part.word = none)
    (plain : ¬['-'] <+: part.word) : parser.read Part.word part = {parser with args := parser.args ++ [part.word]} := by
  rw [read_head mode]
  unfold Parser.readHead
  rw [none_]
  exact if_neg plain

theorem read_dash {part : Part} (none_ : option part.word = none)
    (dash : ['-'] <+: part.word) : ∃ message, parser.read Part.word part = parser.die message := by
  rw [read_head mode]
  unfold Parser.readHead
  rw [none_]
  exact ⟨_,if_pos dash⟩

theorem read_option {part : Part} {found : ScriptOption} (its : option part.word = some found) :
    part ∈ (parser.read Part.word part).options ∧ (parser.read Part.word part).args = parser.args := by
  rw [read_head mode]
  unfold Parser.readHead
  rw [its]
  cases found <;> simp

end

def begun (spec : Spec) : Parser Part := {args := [(meaning spec).testType]}

def middle (spec : Spec) : Parser Part := (positionals spec).foldl (Parser.read Part.word) (begun spec)

theorem valid_type {type : Word} (valid : type ∈ validTestTypes) :
    option type = none ∧ ¬['-'] <+: type ∧ ParseArgs.lower type ∈ supportedTypes := by
  have all : (validTestTypes.all fun type => decide (option type = none ∧ ¬['-'] <+: type ∧ ParseArgs.lower type ∈ supportedTypes)) = true := by
    decide
  exact of_decide_eq_true (List.all_eq_true.mp all type valid)

theorem parsed_eq {parts : List Part} (built : buildArgvFromSpec spec = .ok parts) :
    parsed parts = (tail spec).foldl (Parser.read Part.word) (middle spec) := by
  obtain ⟨accepted,rfl⟩ := build_ok built
  obtain ⟨none_,plain,-⟩ := valid_type accepted.testType
  have first : Parser.read Part.word {} {word := (meaning spec).testType} = begun spec := @read_word {} rfl {word := _} none_ plain
  unfold parsed parse
  rw [List.append_assoc]
  show (((({word := (meaning spec).testType} : Part) :: (positionals spec ++ tail spec)).foldl (Parser.read Part.word) {}).close) = _
  rw [List.foldl_cons,first,List.foldl_append]
  exact (tail_stays accepted (middle spec)).2.close

/-- Neither the module nor the retry name is an option, nor a test case that the script gets to. -/
def Plain (spec : Spec) : Prop :=
  if strip spec.retryDir ≠ [] then option (retryName spec.retryDir) = none
  else option (strip spec.module_) = none ∧ (¬['-'] <+: strip spec.module_ → option (strip spec.testCase) = none)

/-- No free text is read as an option. -/
def Unread (parts : List Part) : Prop := ∀ part ∈ (parsed parts).options, part.field = none

theorem unread_middle {parts : List Part} (built : buildArgvFromSpec spec = .ok parts) :
    Unread parts ↔ ∀ part ∈ (middle spec).options, part.field = none := by
  obtain ⟨accepted,-⟩ := build_ok built
  unfold Unread
  rw [parsed_eq built]
  refine ⟨fun unread part member => unread part (Parser.foldl_options _ _ member),fun unread part member => ?_⟩
  exact ((tail_stays accepted (middle spec)).1.options part member).elim (unread part) id

theorem unread_one {parser : Parser Part} (mode : parser.mode = .head) (clean : parser.options = []) {word : Word} {field : Field} :
    (∀ part ∈ (parser.read Part.word ⟨word,some field⟩).options, part.field = none) ↔ option word = none := by
  constructor
  · intro unread
    cases found : option word with
    | none => rfl
    | some its =>
      have wrong := unread _ (@read_option parser mode ⟨word,some field⟩ its found).1
      cases wrong
  · intro none_ part member
    by_cases dash : ['-'] <+: word
    · obtain ⟨message,dies⟩ := @read_dash parser mode ⟨word,some field⟩ none_ dash
      rw [dies] at member
      have member : part ∈ parser.options := member
      rw [clean] at member
      cases member
    · rw [@read_word parser mode ⟨word,some field⟩ none_ dash] at member
      have member : part ∈ parser.options := member
      rw [clean] at member
      cases member

theorem option_retry : option "retry".toList = none := by decide

theorem option_nil : option [] = none := by decide

theorem unread_iff {parts : List Part} (built : buildArgvFromSpec spec = .ok parts) : Unread parts ↔ Plain spec := by
  rw [unread_middle built]
  obtain ⟨accepted,-⟩ := build_ok built
  unfold middle positionals Plain
  by_cases retry : strip spec.retryDir ≠ []
  · rw [if_pos retry,if_pos retry,List.foldl_cons,@read_word (begun spec) rfl (fixed "retry") option_retry (by decide)]
    exact @unread_one {begun spec with args := (begun spec).args ++ [(fixed "retry").word]} rfl rfl _ _
  · rw [if_neg retry,if_neg retry]
    by_cases module_ : strip spec.module_ ≠ []
    · rw [if_pos module_]
      by_cases case_ : strip spec.testCase ≠ []
      · rw [if_pos case_]
        show (∀ part ∈ (Parser.read Part.word (Parser.read Part.word (begun spec) ⟨strip spec.module_,some .module_⟩)
          ⟨strip spec.testCase,some .testCase⟩).options, part.field = none) ↔ _
        cases found : option (strip spec.module_) with
        | some its =>
          refine ⟨fun unread => ?_,nofun⟩
          obtain ⟨member,-⟩ := @read_option (begun spec) rfl ⟨strip spec.module_,some .module_⟩ its found
          cases unread _ ((Parser.read_grows _ _).2 member)
        | none =>
          by_cases dash : ['-'] <+: strip spec.module_
          · obtain ⟨message,dies⟩ := @read_dash (begun spec) rfl ⟨strip spec.module_,some .module_⟩ found dash
            rw [dies]
            exact ⟨fun _ => ⟨rfl,fun plain => absurd dash plain⟩,fun _ => nofun⟩
          · rw [@read_word (begun spec) rfl ⟨strip spec.module_,some .module_⟩ found dash]
            rw [@unread_one {begun spec with args := (begun spec).args ++ [strip spec.module_]} rfl rfl _ _]
            exact ⟨fun none_ => ⟨rfl,fun _ => none_⟩,fun plain => plain.2 dash⟩
      · rw [if_neg case_,not_not.mp case_,option_nil,List.append_nil]
        refine (@unread_one (begun spec) rfl rfl _ _).trans ⟨fun none_ => ⟨none_,fun _ => rfl⟩,And.left⟩
    · have case_ : ¬strip spec.testCase ≠ [] := fun given => accepted.testCase given (not_not.mp module_)
      rw [if_neg module_,if_neg case_,not_not.mp module_,not_not.mp case_,option_nil]
      simp [begun]

/-- A module run is not turned into a retry. -/
def Kept (spec : Spec) (parts : List Part) : Prop :=
  strip spec.retryDir = [] → ∀ testType timestamp, (parsed parts).invocation ≠ .retry testType timestamp

/-- The module is not called retry, or no test case follows that the script takes for a timestamp. -/
def Loyal (spec : Spec) : Prop := strip spec.retryDir = [] →
  ¬(ParseArgs.lower (strip spec.module_) = "retry".toList ∧ strip spec.testCase ≠ [] ∧ ¬['-'] <+: strip spec.testCase)

theorem plain_retry {word : Word} (retry : ParseArgs.lower word = "retry".toList) : option word = none ∧ ¬['-'] <+: word := by
  have plain : ¬['-'] <+: word := by
    rintro ⟨rest,rfl⟩
    have head : some (Char.toLower '-') = some 'r' := congrArg List.head? retry
    revert head
    decide
  refine ⟨?_,plain⟩
  cases found : option word with
  | none => rfl
  | some its => exact absurd (option_dash found) plain

def Both (spec : Spec) : Prop := strip spec.module_ ≠ [] ∧ strip spec.testCase ≠ [] ∧ option (strip spec.module_) = none ∧
  ¬['-'] <+: strip spec.module_ ∧ ¬['-'] <+: strip spec.testCase

theorem read_args (parser : Parser Part) (part : Part) : (parser.read Part.word part).args.length ≤ parser.args.length + 1 :=
  (parser.read_grows part).1

theorem middle_both (run : strip spec.retryDir = []) (both : Both spec) :
    middle spec = {begun spec with args := [(meaning spec).testType,strip spec.module_,strip spec.testCase]} := by
  obtain ⟨module_,case_,none_,plain,plain'⟩ := both
  have none' : option (strip spec.testCase) = none := by
    cases found : option (strip spec.testCase) with
    | none => rfl
    | some its => exact absurd (option_dash found) plain'
  unfold middle positionals
  rw [if_neg (not_not.mpr run),if_pos module_,if_pos case_]
  show (Parser.read Part.word (Parser.read Part.word (begun spec) ⟨strip spec.module_,some .module_⟩) ⟨strip spec.testCase,some .testCase⟩) = _
  rw [@read_word (begun spec) rfl ⟨strip spec.module_,some .module_⟩ none_ plain,
    @read_word {begun spec with args := (begun spec).args ++ [strip spec.module_]} rfl ⟨strip spec.testCase,some .testCase⟩ none' plain']
  rfl

theorem middle_short (run : strip spec.retryDir = []) (single : ¬Both spec) : (middle spec).args.length ≤ 2 := by
  unfold middle positionals
  rw [if_neg (not_not.mpr run)]
  by_cases module_ : strip spec.module_ ≠ [] <;> by_cases case_ : strip spec.testCase ≠ []
  · rw [if_pos module_,if_pos case_]
    show (Parser.read Part.word (Parser.read Part.word (begun spec) ⟨strip spec.module_,some .module_⟩)
      ⟨strip spec.testCase,some .testCase⟩).args.length ≤ 2
    cases found : option (strip spec.module_) with
    | some its =>
      refine (read_args _ _).trans ?_
      rw [(@read_option (begun spec) rfl ⟨strip spec.module_,some .module_⟩ its found).2]
      rfl
    | none =>
      by_cases dash : ['-'] <+: strip spec.module_
      · obtain ⟨message,dies⟩ := @read_dash (begun spec) rfl ⟨strip spec.module_,some .module_⟩ found dash
        refine (read_args _ _).trans ?_
        rw [dies]
        rfl
      · have dash' : ['-'] <+: strip spec.testCase := by
          by_contra plain
          exact single ⟨module_,case_,found,dash,plain⟩
        rw [@read_word (begun spec) rfl ⟨strip spec.module_,some .module_⟩ found dash]
        cases found' : option (strip spec.testCase) with
        | some its =>
          have same := (@read_option {begun spec with args := (begun spec).args ++ [strip spec.module_]} rfl ⟨strip spec.testCase,some .testCase⟩
            its found').2
          rw [same]
          rfl
        | none =>
          obtain ⟨message,dies⟩ :=
            @read_dash {begun spec with args := (begun spec).args ++ [strip spec.module_]} rfl ⟨strip spec.testCase,some .testCase⟩ found' dash'
          rw [dies]
          rfl
  · rw [if_pos module_,if_neg case_]
    exact read_args (begun spec) ⟨strip spec.module_,some .module_⟩
  · rw [if_neg module_,if_pos case_]
    exact read_args (begun spec) ⟨strip spec.testCase,some .testCase⟩
  · rw [if_neg module_,if_neg case_]
    exact Nat.le_succ _

theorem retry_lower {α : Type} {parser : Parser α} {type module_ testCase testType timestamp : Word} (args : parser.args = [type,module_,testCase])
    (retry : parser.invocation = .retry testType timestamp) : ParseArgs.lower module_ = "retry".toList := by
  by_contra other
  have command : parser.command ≠ .retry testType timestamp := by
    unfold Parser.command
    rw [args]
    have first : [module_,testCase].getD 0 [] = module_ := rfl
    dsimp only
    rw [first,if_neg (fun both : _ ∧ _ => other both.1),if_neg other]
    split_ifs <;> exact nofun
  unfold Parser.invocation at retry
  cases mode : parser.mode <;> rw [mode] at retry <;> first | exact command retry | cases retry

theorem kept_iff {parts : List Part} (built : buildArgvFromSpec spec = .ok parts) : Kept spec parts ↔ Loyal spec := by
  obtain ⟨accepted,-⟩ := build_ok built
  refine forall_congr' fun run => ?_
  have args : (parsed parts).args = (middle spec).args := by
    rw [parsed_eq built]
    exact (tail_stays accepted (middle spec)).1.args
  by_cases both : Both spec
  · have middle_ := middle_both run both
    rw [middle_] at args
    have args : (parsed parts).args = [(meaning spec).testType,strip spec.module_,strip spec.testCase] := args
    obtain ⟨-,case_,-,-,plain⟩ := both
    constructor
    · rintro kept ⟨retry,-⟩
      obtain ⟨head,suite,copy⟩ := @tail_command spec accepted (middle spec) (by rw [middle_]; rfl) (by rw [middle_]; rfl)
      rw [←parsed_eq built] at head suite copy
      refine kept (ParseArgs.lower (meaning spec).testType) (strip spec.testCase) ?_
      unfold Parser.invocation
      rw [head]
      dsimp only
      unfold Parser.command
      rw [args]
      have first : [strip spec.module_,strip spec.testCase].getD 0 [] = strip spec.module_ := rfl
      have second : [strip spec.module_,strip spec.testCase].getD 1 [] = strip spec.testCase := rfl
      dsimp only
      have supported : supportedTypes.contains (ParseArgs.lower (meaning spec).testType) = true :=
        List.contains_iff_mem.mpr (valid_type accepted.testType).2.2
      rw [if_neg suite,if_neg copy,first,second,if_neg (fun given : _ ∧ _ => case_ given.2),if_neg (not_not.mpr supported),if_pos retry]
    · exact fun loyal testType timestamp retry => loyal ⟨retry_lower args retry,case_,plain⟩
  · have short := middle_short run both
    rw [←args] at short
    refine ⟨fun _ => ?_,fun _ => Parser.not_retry short⟩
    rintro ⟨retry,case_,plain⟩
    obtain ⟨none_,plain'⟩ := plain_retry retry
    refine both ⟨fun missing => ?_,case_,none_,plain',plain⟩
    rw [missing] at retry
    cases retry

/-- Equal lists come from specs that mean the same, no free text is an option of the script, and no module run becomes a retry: exactly when
neither spec is a module run that looks like the other one's retry, and their texts are plain and loyal. -/
theorem argv_contract {first second : Spec} {parts parts' : List Part} (one : buildArgvFromSpec first = .ok parts)
    (two : buildArgvFromSpec second = .ok parts') :
    ((argv parts = argv parts' → meaning first = meaning second) ∧ (Unread parts ∧ Unread parts') ∧ Kept first parts ∧ Kept second parts') ↔
      (¬Mistaken first second ∧ ¬Mistaken second first) ∧ (Plain first ∧ Plain second) ∧ Loyal first ∧ Loyal second := by
  rw [agree_iff one two,unread_iff one,unread_iff two,kept_iff one,kept_iff two]

end

def retrySpec : Spec where
  testType := "cts".toList
  suitePath := "/srv/GMS-Suite/android-cts/tools".toList
  retryDir := "/srv/results/2026.01.12_14.36.17".toList
  devices := ["ABC".toList]

def moduleSpec (module_ : String) : Spec :=
  {retrySpec with retryDir := [], module_ := module_.toList, testCase := "2026.01.12_14.36.17".toList}

def listOf (words : List Part) : List Part :=
  [{word := "/srv/GMS-Suite/run_GMS_Test_Auto.sh".toList},fixed "cts"] ++ words ++
    [fixed "--device-args",fixed "-s ABC",fixed "--test-suite",⟨"/srv/GMS-Suite/android-cts/tools".toList,some .suitePath⟩]

def timestamp (field : Field) : Part := ⟨"2026.01.12_14.36.17".toList,some field⟩

def runOf (module_ : String) : List Part := listOf [⟨module_.toList,some .module_⟩,timestamp .testCase]

/-- A module run with the list of a retry, a module run that becomes a retry, and a module that is read as an option. -/
theorem retry_collision :
    (buildArgvFromSpec retrySpec = .ok (listOf [fixed "retry",timestamp .retryDir]) ∧ buildArgvFromSpec (moduleSpec "retry") = .ok (runOf "retry") ∧
      argv (listOf [fixed "retry",timestamp .retryDir]) = argv (runOf "retry") ∧ meaning retrySpec ≠ meaning (moduleSpec "retry")) ∧
    (buildArgvFromSpec (moduleSpec "Retry") = .ok (runOf "Retry") ∧
      (parsed (runOf "Retry")).invocation = .retry "cts".toList "2026.01.12_14.36.17".toList) ∧
    buildArgvFromSpec (moduleSpec "--no-retry") = .ok (runOf "--no-retry") ∧
      ⟨"--no-retry".toList,some .module_⟩ ∈ (parsed (runOf "--no-retry")).options := by
  decide +kernel

theorem module_plain :
    (argv (runOf "CtsFooTestCases") = argv (listOf [fixed "retry",timestamp .retryDir]) →
        meaning (moduleSpec "CtsFooTestCases") = meaning retrySpec) ∧
      (Unread (runOf "CtsFooTestCases") ∧ Unread (listOf [fixed "retry",timestamp .retryDir])) ∧
      Kept (moduleSpec "CtsFooTestCases") (runOf "CtsFooTestCases") ∧ Kept retrySpec (listOf [fixed "retry",timestamp .retryDir]) := by
  have built : buildArgvFromSpec (moduleSpec "CtsFooTestCases") = .ok (runOf "CtsFooTestCases") := by decide +kernel
  have built' : buildArgvFromSpec retrySpec = .ok (listOf [fixed "retry",timestamp .retryDir]) := by decide +kernel
  refine (argv_contract built built').mpr ⟨⟨fun mistaken => mistaken.1 rfl,fun mistaken => ?_⟩,⟨?_,?_⟩,fun _ looks => ?_,fun run => ?_⟩
  · exact absurd mistaken.2.2.1 (by decide)
  · unfold Plain
    decide
  · unfold Plain
    decide
  · exact absurd looks.1 (by decide)
  · exact absurd run (by decide)

end GmsRemoteTest.ExecutionSpec
