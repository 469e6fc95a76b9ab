import GmsRemoteTest.Lib.Exits
import GmsRemoteTest.Firmware.HostSpelling
import GmsRemoteTest.Firmware.LoaderProbe

/-! `run_local_firmware_batch`: the boards on one Worker are flashed one after the other. The flash tool takes no
serial, so it is started only when two waits in a row found the board alone in Loader. -/
namespace GmsRemoteTest.Firmware
open Exits Exits.Program Text

/-- What the Worker was made to do, in its order: the probes that came back, and the runs of the flash tool. -/
inductive Event
  | probed (probe : Probe)
  | flashed (device : String) (result : Outcome CommandResult)
deriving DecidableEq

structure Polls where
  first : Outcome Probe
  later : List (Outcome Probe) := []

def Polls.readings (polls : Polls) : List (Outcome Probe) := polls.first::polls.later

structure DeviceCalls where
  reboot : Outcome CommandResult
  gate : Polls
  adb : Outcome CommandResult
  recheck : Polls
  lines : List String
  burn : Outcome CommandResult
  leave : Polls

structure Batch where
  protocols : String → Option String
  calls : String → DeviceCalls

structure DeviceResult where
  device : String
  success : Bool
  stage : String
  exitCode : Option Int := none
  error : Option String := none
  loaderOutput : Option String := none
  output : Option String := none

def lastChars (count : Nat) (text : String) : String := String.ofList (text.toList.drop (text.length-count))

/-- Where `_ANSI_ESCAPE_RE` stands in a sequence. -/
inductive Escape
  | none | started | parameters | intermediates
deriving DecidableEq

def stripEscapes (state : Escape) (held : List Char) : List Char → List Char
  | [] => held
  | c::rest =>
    let plain := if c = '\x1b' then held ++ stripEscapes .started [c] rest else held ++ c :: stripEscapes .none [] rest
    let final := 0x40 ≤ c.toNat && c.toNat ≤ 0x7e
    match state with
    | .none => plain
    | .started =>
      if c = '[' then stripEscapes .parameters (held++[c]) rest
      else if 0x40 ≤ c.toNat && c.toNat ≤ 0x5f then stripEscapes .none [] rest else plain
    | .parameters =>
      if 0x30 ≤ c.toNat && c.toNat ≤ 0x3f then stripEscapes .parameters (held++[c]) rest
      else if 0x20 ≤ c.toNat && c.toNat ≤ 0x2f then stripEscapes .intermediates (held++[c]) rest
      else if final then stripEscapes .none [] rest else plain
    | .intermediates =>
      if 0x20 ≤ c.toNat && c.toNat ≤ 0x2f then stripEscapes .intermediates (held++[c]) rest
      else if final then stripEscapes .none [] rest else plain

def stripAnsi (text : String) : String := String.ofList (stripEscapes .none [] text.toList)

def outputBuffer (lines : List String) : List String := (lines.map fun line => strip (stripAnsi line)).filter (· ≠ "")

section run
variable (lower : String → String)

def probeLoaders (reading : Outcome Probe) : Program (List Event) Empty Probe := do
  let probe ← await reading
  modify (· ++ [.probed probe])
  pure probe

def waitFor (accepts : Probe → Bool) : Outcome Probe → List (Outcome Probe) → Program (List Event) Empty (Bool × String)
  | reading,[] => do
    let probe ← probeLoaders reading
    pure (accepts probe,probe.detail)
  | reading,next::later => do
    let probe ← probeLoaders reading
    if accepts probe = true then pure (true,probe.detail) else waitFor accepts next later

def singleLoader (device : String) (probe : Probe) : Bool :=
  probe.ok && (probe.loaders lower == [device] || ((probe.loaders lower).length == 1 && (probe.loaders lower).contains device))

def waitForSingleRockusbLoader (device : String) (polls : Polls) : Program (List Event) Empty (Bool × String) :=
  waitFor (singleLoader lower device) polls.first polls.later

def loaderLeft (device : String) (probe : Probe) : Bool := probe.ok && !(probe.loaders lower).contains device

def waitForRockusbLoaderExit (device : String) (polls : Polls) : Program (List Event) Empty (Bool × String) :=
  waitFor (loaderLeft lower device) polls.first polls.later

def enterLoader (batch : Batch) (device : String) : Program (List Event) Empty (Option DeviceResult) :=
  if batch.protocols device = some "rockusb-loader" then pure none
  else do
    let reboot ← await (batch.calls device).reboot
    if reboot.ok = true then pure none
    else pure (some {
      device
      success := false
      stage := "ENTER_LOADER"
      exitCode := some reboot.code
      error := some (strip (orElse reboot.stderr reboot.stdout)) })

def flashDevice (batch : Batch) (device : String) : Program (List Event) Empty DeviceResult := do
  match ← enterLoader batch device with
  | some failed => pure failed
  | none => do
    let (ready,detail) ← waitForSingleRockusbLoader lower device (batch.calls device).gate
    if ready = false then do
      let adbProbe ← await (batch.calls device).adb
      pure {
        device
        success := false
        stage := "WAIT_LOADER"
        error := some (
          if adbProbe.ok = true ∧ (parseAdbDeviceStates lower adbProbe.stdout).get device ≠ none then
            "目标设备未停留在 Loader（已恢复 ADB，设备协议快照可能已过期，请刷新设备列表后重试）"
          else "未能确认目标设备是唯一 Loader")
        loaderOutput := some (lastChars 1000 detail) }
    else do
      let (reverified,detail) ← waitForSingleRockusbLoader lower device (batch.calls device).recheck
      if reverified = false then
        pure {
          device
          success := false
          stage := "RECONFIRM_LOADER"
          error := some "Loader 唯一性复核失败：烧写启动前检测到其他设备同时处于 Loader，为避免错烧已中止"
          loaderOutput := some (lastChars 1000 detail) }
      else do
        modify (· ++ [.flashed device (batch.calls device).burn])
        let burn ← await (batch.calls device).burn
        let output := "\n".intercalate (outputBuffer (batch.calls device).lines)
        if burn.code ≠ 0 then
          pure {
            device
            success := false
            stage := "FLASHING"
            exitCode := some burn.code
            error := some (lastChars 20000 (orElse output burn.stderr)) }
        else do
          let (exited,detail) ← waitForRockusbLoaderExit lower device (batch.calls device).leave
          if exited = false then
            pure {
              device
              success := false
              stage := "VERIFY"
              exitCode := some burn.code
              error := some "烧写命令返回成功但设备仍停留在 Loader"
              loaderOutput := some (lastChars 1000 detail)
              output := some (lastChars 20000 output) }
          else pure {
            device
            success := true
            stage := "SUCCEEDED"
            exitCode := some burn.code
            output := some (lastChars 20000 output) }

def flashEach (batch : Batch) : List String → Program (List Event) Empty (List DeviceResult)
  | [] => pure []
  | device::devices => do
    let result ← flashDevice lower batch device
    if result.success = false then pure [result]
    else do
      let results ← flashEach batch devices
      pure (result::results)

def skipped (device : String) : DeviceResult where
  device
  success := false
  stage := "SKIPPED"
  error := some "previous device failed"

def runLocalFirmwareBatch (batch : Batch) (devices : List String) : Program (List Event) Empty (List DeviceResult × Option String) := do
  let results ← flashEach lower batch devices
  let completed := results.map DeviceResult.device
  let results := results ++ (devices.filter fun device => device ∉ completed).map skipped
  pure (results,(results.find? fun result => result.success = false).bind DeviceResult.error)

def okProbes (log : List Event) : List Probe :=
  log.filterMap fun event => match event with
    | .probed probe => if probe.ok = true then some probe else none
    | .flashed _ _ => none

def LastTwoSingle (device : String) (log : List Event) : Prop :=
  ∃ earlier first second, okProbes log = earlier++[first,second] ∧ first.OnlyLoader lower device ∧ second.OnlyLoader lower device

def FlashesSingle (log : List Event) : Prop :=
  ∀ before device result, before++[.flashed device result] <+: log → LastTwoSingle lower device before

def Flashed (device : String) (log : List Event) : Prop :=
  ∃ before burn after probe, before ++ .flashed device (.returned burn)::after <+: log ∧ burn.code = 0 ∧ .probed probe ∈ after ∧
    probe.ok = true ∧ ∀ line ∈ probe.lines, probe.loaderLine lower line = true → (lineEntry line).serial ≠ device

def Returns {α : Type} (outcome : Outcome α) : Prop := ∃ value, outcome = .returned value

structure DeviceCalls.Returned (calls : DeviceCalls) : Prop where
  reboot : Returns calls.reboot
  gate : ∀ reading ∈ calls.gate.readings, Returns reading
  adb : Returns calls.adb
  recheck : ∀ reading ∈ calls.recheck.readings, Returns reading
  burn : Returns calls.burn
  leave : ∀ reading ∈ calls.leave.readings, Returns reading

/-- Each flash was safe, each success is one, there is one result a device, and the error says whether all of them succeeded; and
the batch comes to an end when its calls do. -/
structure Batch.Keeps (batch : Batch) (devices : List String) : Prop where
  flashes : FlashesSingle lower (runLocalFirmwareBatch lower batch devices []).2
  successes : ∀ results error, (runLocalFirmwareBatch lower batch devices []).1 = .ok (results,error) →
    ∀ result ∈ results, result.success = true → Flashed lower result.device (runLocalFirmwareBatch lower batch devices []).2
  results : ∀ results error, (runLocalFirmwareBatch lower batch devices []).1 = .ok (results,error) →
    results.map DeviceResult.device = devices ∧ (error = none ↔ ∀ result ∈ results, result.success = true)
  returns : (∀ device ∈ devices, (batch.calls device).Returned) →
    ∃ results error, (runLocalFirmwareBatch lower batch devices []).1 = .ok (results,error)

/-- The probes that a wait for the device accepts show the loaders they list, and no successful probe of the second
wait refuses before one accepts. -/
structure DeviceCalls.Clear (device : String) (calls : DeviceCalls) : Prop where
  gate : ∀ probe, .returned probe ∈ calls.gate.readings → singleLoader lower device probe = true → probe.Readable lower
  recheck : ∀ probe, .returned probe ∈ calls.recheck.readings → singleLoader lower device probe = true → probe.Readable lower
  settled : ∀ before probe after, calls.recheck.readings = before ++ .returned probe::after → singleLoader lower device probe = true →
    ∀ earlier, .returned earlier ∈ before → earlier.ok = true → singleLoader lower device earlier = true
  leave : ∀ probe, .returned probe ∈ calls.leave.readings → loaderLeft lower device probe = true → probe.Shows lower device

variable {lower}

theorem probeLoaders_ends (reading : Outcome Probe) (log : List Event) :
    Ends (probeLoaders reading) log (fun probe final => reading = .returned probe ∧ final = log++[.probed probe])
      fun final => final = log ∧ ¬Returns reading := by
  refine Ends.bind (ends_await (fun probe same => ?_) fun other => ⟨rfl,fun ⟨value,same⟩ => other value same⟩)
  exact Ends.bind (ends_modify (ends_pure ⟨same,rfl⟩))

theorem waitFor_ends (accepts : Probe → Bool) (reading : Outcome Probe) (later : List (Outcome Probe)) (log : List Event) :
    Ends (waitFor accepts reading later) log
      (fun answer final => ∃ seen : List Probe, final = log ++ seen.map .probed ∧ (answer.1 = true →
        ∃ refused accepted rest, seen = refused++[accepted] ∧ reading::later = refused.map .returned ++ .returned accepted::rest ∧
          accepts accepted = true ∧ ∀ probe ∈ refused, accepts probe = false))
      fun final => (∃ seen : List Probe, final = log ++ seen.map .probed) ∧ ¬∀ call ∈ reading::later, Returns call := by
  induction later generalizing reading log with
  | nil =>
    refine Ends.bind ((probeLoaders_ends reading log).mono ?_ ?_)
    · rintro probe _ ⟨rfl,rfl⟩
      exact ends_pure ⟨[probe],rfl,fun accepted => ⟨[],probe,[],rfl,rfl,accepted,by simp⟩⟩
    · rintro _ ⟨rfl,failed⟩
      exact ⟨⟨[],by simp⟩,fun all => failed (all _ (List.mem_cons_self ..))⟩
  | cons next later ih =>
    refine Ends.bind ((probeLoaders_ends reading log).mono ?_ ?_)
    · rintro probe _ ⟨rfl,rfl⟩
      refine Ends.ite (fun accepted => ?_) fun refusal => (ih next (log++[.probed probe])).mono ?_ ?_
      · exact ends_pure ⟨[probe],rfl,fun _ => ⟨[],probe,next::later,rfl,rfl,accepted,by simp⟩⟩
      · rintro answer _ ⟨seen,rfl,done⟩
        refine ⟨probe::seen,by simp,fun accepted => ?_⟩
        obtain ⟨refused,last,rest,rfl,whole,holds,none⟩ := done accepted
        refine ⟨probe::refused,last,rest,rfl,by rw [whole]; rfl,holds,fun earlier listed => ?_⟩
        rcases List.mem_cons.mp listed with rfl | listed
        · exact Bool.eq_false_iff.mpr refusal
        · exact none earlier listed
      · rintro _ ⟨⟨seen,rfl⟩,failed⟩
        exact ⟨⟨probe::seen,by simp⟩,fun all => failed fun call listed => all call (List.mem_cons_of_mem _ listed)⟩
    · rintro _ ⟨rfl,failed⟩
      exact ⟨⟨[],by simp⟩,fun all => failed (all _ (List.mem_cons_self ..))⟩

theorem okProbes_append (first second : List Event) : okProbes (first++second) = okProbes first ++ okProbes second :=
  List.filterMap_append

theorem okProbes_probed (seen : List Probe) : okProbes (seen.map .probed) = seen.filter Probe.ok := by
  unfold okProbes
  rw [List.filterMap_map,← List.filterMap_eq_filter]
  rfl

theorem FlashesSingle.concat {log : List Event} (safe : FlashesSingle lower log) {event : Event}
    (allowed : ∀ device result, event = .flashed device result → LastTwoSingle lower device log) : FlashesSingle lower (log++[event]) := by
  intro before device result short
  rcases List.prefix_concat_iff.mp short with whole | shorter
  · obtain ⟨rfl,same⟩ := List.append_inj' whole rfl
    exact allowed device result (List.singleton_inj.mp same).symm
  · exact safe before device result shorter

theorem FlashesSingle.probes {log : List Event} (safe : FlashesSingle lower log) (seen : List Probe) :
    FlashesSingle lower (log ++ seen.map .probed) := by
  induction seen generalizing log with
  | nil => simpa using safe
  | cons probe seen ih =>
    rw [List.map_cons,List.append_cons]
    exact ih (safe.concat fun _ _ none => by cases none)

theorem Flashed.mono {device : String} {log longer : List Event} (flashed : Flashed lower device log) (grows : log <+: longer) :
    Flashed lower device longer := by
  obtain ⟨before,burn,after,probe,short,rest⟩ := flashed
  exact ⟨before,burn,after,probe,short.trans grows,rest⟩

theorem loaders_of_single {device : String} {probe : Probe} (accepted : singleLoader lower device probe = true) :
    probe.ok = true ∧ probe.loaders lower = [device] := by
  unfold singleLoader at accepted
  rw [Bool.and_eq_true,Bool.or_eq_true,Bool.and_eq_true,beq_iff_eq,beq_iff_eq,List.contains_iff_mem] at accepted
  refine ⟨accepted.1,accepted.2.elim id fun ⟨single,listed⟩ => ?_⟩
  obtain ⟨serial,only⟩ := List.length_eq_one_iff.mp single
  rw [only] at listed ⊢
  rw [List.mem_singleton.mp listed]

section
variable {device : String} {calls : DeviceCalls} (clear : calls.Clear lower device)
include clear

theorem lastTwo_of_waits {log : List Event}
    {refused later : List Probe} {first second : Probe} {rest others : List (Outcome Probe)}
    (gate : calls.gate.readings = refused.map .returned ++ .returned first::rest)
    (recheck : calls.recheck.readings = later.map .returned ++ .returned second::others)
    (accepted : singleLoader lower device first = true) (again : singleLoader lower device second = true)
    (none : ∀ probe ∈ later, singleLoader lower device probe = false) :
    LastTwoSingle lower device (log ++ (refused++[first]).map .probed ++ (later++[second]).map .probed) := by
  have quiet : later.filter Probe.ok = [] := by
    rw [List.filter_eq_nil_iff]
    intro probe listed ok
    have settled := clear.settled _ _ _ recheck again probe (List.mem_map_of_mem listed) ok
    rw [none probe listed] at settled
    cases settled
  obtain ⟨firstOk,firstLoaders⟩ := loaders_of_single accepted
  obtain ⟨secondOk,secondLoaders⟩ := loaders_of_single again
  refine ⟨okProbes log ++ refused.filter Probe.ok,first,second,?_,(clear.gate first (by simp [gate]) accepted).onlyLoader firstLoaders,
    (clear.recheck second (by simp [recheck]) again).onlyLoader secondLoaders⟩
  rw [okProbes_append,okProbes_append,okProbes_probed,okProbes_probed,List.filter_append,List.filter_append,quiet]
  simp [firstOk,secondOk]

theorem flashed_of_wait (log : List Event)
    {refused : List Probe} {gone : Probe} {rest : List (Outcome Probe)} {burn : CommandResult}
    (leave : calls.leave.readings = refused.map .returned ++ .returned gone::rest) (left : loaderLeft lower device gone = true)
    (zero : burn.code = 0) :
    Flashed lower device (log ++ [.flashed device (.returned burn)] ++ (refused++[gone]).map .probed) := by
  have shown := clear.leave gone (by simp [leave]) left
  unfold loaderLeft at left
  rw [Bool.and_eq_true,Bool.not_eq_true'] at left
  refine ⟨log,burn,(refused++[gone]).map .probed,gone,?_,zero,by simp,left.1,fun line printed loader own => ?_⟩
  · rw [List.append_assoc]
    exact List.prefix_rfl
  · rw [List.contains_iff_mem.mpr (shown.mem_loaders printed loader own)] at left
    cases left.2

end

theorem enterLoader_ends (batch : Batch) (device : String) (log : List Event) :
    Ends (enterLoader batch device) log
      (fun answer final => final = log ∧ ∀ result ∈ answer, result.device = device ∧ result.success = false ∧ result.error ≠ none)
      fun final => final = log ∧ ¬(batch.calls device).Returned := by
  unfold enterLoader
  refine Ends.ite (fun _ => ends_pure ⟨rfl,fun _ none => by cases none⟩) fun _ => Ends.bind (ends_await (fun reboot _ => ?_) fun failed => ?_)
  · refine Ends.ite (fun _ => ends_pure ⟨rfl,fun _ none => by cases none⟩) fun _ => ends_pure ⟨rfl,fun result same => ?_⟩
    cases same
    exact ⟨rfl,rfl,by simp⟩
  · exact ⟨rfl,fun all => all.reboot.elim failed⟩

theorem flashDevice_ends {batch : Batch} {device : String} (clear : (batch.calls device).Clear lower device) {log : List Event}
    (safe : FlashesSingle lower log) :
    Ends (flashDevice lower batch device) log
      (fun result final => FlashesSingle lower final ∧ log <+: final ∧ result.device = device ∧
        (result.success = false → result.error ≠ none) ∧ (result.success = true → Flashed lower device final))
      fun final => FlashesSingle lower final ∧ ¬(batch.calls device).Returned := by
  refine Ends.bind ((enterLoader_ends batch device log).mono ?_ ?_)
  · rintro (_ | failed) log ⟨rfl,said⟩
    · refine Ends.bind ((waitFor_ends _ _ _ log).mono ?_ ?_)
      · rintro ⟨ready,detail⟩ _ ⟨seen,rfl,first⟩
        have probed := safe.probes seen
        refine Ends.ite (fun _ => ?_) fun ready => ?_
        · refine Ends.bind (ends_await (fun adbProbe _ => ends_pure ⟨probed,List.prefix_append ..,rfl,fun _ => by simp,fun none => by cases none⟩)
            fun failed => ⟨probed,fun all => all.adb.elim failed⟩)
        · refine Ends.bind ((waitFor_ends _ _ _ _).mono ?_ ?_)
          · rintro ⟨reverified,detail⟩ _ ⟨again,rfl,second⟩
            have rechecked := probed.probes again
            refine Ends.ite (fun _ => ends_pure ⟨rechecked,?_,rfl,fun _ => by simp,fun none => by cases none⟩) fun reverified => ?_
            · rw [List.append_assoc]
              exact List.prefix_append ..
            obtain ⟨refused,accepted,rest,rfl,gate,single,_⟩ := first (by simpa using ready)
            obtain ⟨later,last,others,rfl,recheck,unique,none⟩ := second (by simpa using reverified)
            have flashed := @FlashesSingle.concat lower _ rechecked (.flashed device (batch.calls device).burn) fun _ _ same => by
              cases same
              exact lastTwo_of_waits clear gate recheck single unique none
            refine Ends.bind (ends_modify (Ends.bind (ends_await (fun burn burnt => ?_) fun failed => ⟨flashed,fun all => all.burn.elim failed⟩)))
            refine Ends.ite (fun _ => ends_pure ⟨flashed,?_,rfl,fun _ => by simp,fun none => by cases none⟩) fun zero => ?_
            · simp only [List.append_assoc]
              exact List.prefix_append ..
            refine Ends.bind ((waitFor_ends _ _ _ _).mono ?_ ?_)
            · rintro ⟨exited,detail⟩ _ ⟨after,rfl,third⟩
              have grows : log <+: log ++ (refused++[accepted]).map .probed ++ (later++[last]).map .probed ++
                  [.flashed device (batch.calls device).burn] ++ after.map .probed := by
                simp only [List.append_assoc]
                exact List.prefix_append ..
              refine Ends.ite (fun _ => ends_pure ⟨flashed.probes after,grows,rfl,fun _ => by simp,fun none => by cases none⟩) fun exited => ?_
              obtain ⟨refused,gone,rest,rfl,leave,left,_⟩ := third (by simpa using exited)
              refine ends_pure ⟨flashed.probes _,grows,rfl,fun none => (by cases none),fun _ => ?_⟩
              rw [burnt]
              exact flashed_of_wait clear _ leave left (by simpa using zero)
            · rintro _ ⟨⟨after,rfl⟩,failed⟩
              exact ⟨flashed.probes after,fun all => failed all.leave⟩
          · rintro _ ⟨⟨again,rfl⟩,failed⟩
            exact ⟨probed.probes again,fun all => failed all.recheck⟩
      · rintro _ ⟨⟨seen,rfl⟩,failed⟩
        exact ⟨safe.probes seen,fun all => failed all.gate⟩
    · obtain ⟨own,unsuccessful,error⟩ := said failed rfl
      exact ends_pure ⟨safe,List.prefix_rfl,own,fun _ => error,fun success => by rw [unsuccessful] at success; cases success⟩
  · rintro _ ⟨rfl,failed⟩
    exact ⟨safe,failed⟩

structure Reported (devices : List String) (log : List Event) (results : List DeviceResult) : Prop where
  devices : results.map DeviceResult.device <+: devices
  errors : ∀ result ∈ results, result.success = false → result.error ≠ none
  successes : ∀ result ∈ results, result.success = true → Flashed lower result.device log

theorem flashEach_ends {batch : Batch} {devices : List String} (clear : ∀ device ∈ devices, (batch.calls device).Clear lower device)
    {log : List Event} (safe : FlashesSingle lower log) :
    Ends (flashEach lower batch devices) log
      (fun results final => FlashesSingle lower final ∧ log <+: final ∧ @Reported lower devices final results)
      fun final => FlashesSingle lower final ∧ ¬∀ device ∈ devices, (batch.calls device).Returned := by
  induction devices generalizing log with
  | nil => exact ends_pure ⟨safe,List.prefix_rfl,List.prefix_rfl,by simp,by simp⟩
  | cons device devices ih =>
    refine Ends.bind ((flashDevice_ends (clear device (List.mem_cons_self ..)) safe).mono ?_ ?_)
    · rintro result middle ⟨safe,grows,own,error,success⟩
      refine Ends.ite (fun failed => ends_pure ⟨safe,grows,?_⟩) fun succeeded => Ends.bind ((ih (fun device listed =>
        clear device (List.mem_cons_of_mem _ listed)) safe).mono ?_ ?_)
      · refine ⟨⟨devices,by simp [own]⟩,fun other listed _ => ?_,fun other listed good => ?_⟩
        · rw [List.mem_singleton.mp listed]
          exact error failed
        · rw [List.mem_singleton.mp listed,failed] at good
          cases good
      · rintro results final ⟨safe,further,done,errors,successes⟩
        rw [Bool.not_eq_false] at succeeded
        refine ends_pure ⟨safe,grows.trans further,by rw [List.map_cons,own]; exact List.prefix_cons_inj _ |>.mpr done,fun other listed => ?_,
          fun other listed good => ?_⟩
        · rcases List.mem_cons.mp listed with rfl | listed
          · exact error
          · exact errors other listed
        · rcases List.mem_cons.mp listed with rfl | listed
          · exact own ▸ (success succeeded).mono further
          · exact successes other listed good
      · rintro final ⟨safe,failed⟩
        exact ⟨safe,fun all => failed fun device listed => all device (List.mem_cons_of_mem _ listed)⟩
    · rintro final ⟨safe,failed⟩
      exact ⟨safe,fun all => failed (all device (List.mem_cons_self ..))⟩

theorem Reported.all {devices : List String} {log : List Event} {results : List DeviceResult} (distinct : devices.Nodup)
    (reported : @Reported lower devices log results) :
    let whole := results ++ (devices.filter fun device => device ∉ results.map DeviceResult.device).map skipped
    whole.map DeviceResult.device = devices ∧
      ((whole.find? fun result => result.success = false).bind DeviceResult.error = none ↔ ∀ result ∈ whole, result.success = true) ∧
      ∀ result ∈ whole, result.success = true → Flashed lower result.device log := by
  obtain ⟨rest,split⟩ := reported.devices
  have remaining : (devices.filter fun device => device ∉ results.map DeviceResult.device) = rest := by
    rw [← split] at distinct ⊢
    obtain ⟨_,_,apart⟩ := List.nodup_append.mp distinct
    rw [List.filter_append,List.filter_eq_nil_iff.mpr (by simp),List.nil_append,List.filter_eq_self]
    intro device listed
    simpa using fun result member same => apart _ (List.mem_map_of_mem member) _ listed same
  dsimp only
  rw [remaining]
  have errors : ∀ result ∈ results ++ rest.map skipped, result.success = false → result.error ≠ none := by
    intro result listed
    rcases List.mem_append.mp listed with done | left
    · exact reported.errors result done
    · obtain ⟨device,_,rfl⟩ := List.mem_map.mp left
      exact fun _ => by simp [skipped]
  refine ⟨?_,?_,fun result listed good => ?_⟩
  · rw [List.map_append,List.map_map,← split]
    congr 1
    exact List.map_id _
  · cases found : (results ++ rest.map skipped).find? fun result => result.success = false with
    | none =>
      rw [List.find?_eq_none] at found
      simpa using found
    | some failed =>
      have unsuccessful : failed.success = false := by simpa using List.find?_some found
      have listed := List.mem_of_find?_eq_some found
      constructor
      · exact fun none => absurd none (errors failed listed unsuccessful)
      · intro all
        rw [all failed listed] at unsuccessful
        cases unsuccessful
  · rcases List.mem_append.mp listed with done | left
    · exact reported.successes result done good
    · obtain ⟨device,_,rfl⟩ := List.mem_map.mp left
      cases good

/-- A batch flashes only a device that is the only loader, as long as the probes its waits accept can be read. -/
theorem batch_flashes_only_loader {batch : Batch} {devices : List String} (distinct : devices.Nodup)
    (clear : ∀ device ∈ devices, (batch.calls device).Clear lower device) : batch.Keeps lower devices := by
  have start : FlashesSingle lower [] := fun before device result short => by simpa using List.prefix_nil.mp short
  have ends : Ends (runLocalFirmwareBatch lower batch devices) []
      (fun answer final => FlashesSingle lower final ∧ answer.1.map DeviceResult.device = devices ∧
        (answer.2 = none ↔ ∀ result ∈ answer.1, result.success = true) ∧
        ∀ result ∈ answer.1, result.success = true → Flashed lower result.device final)
      fun final => FlashesSingle lower final ∧ ¬∀ device ∈ devices, (batch.calls device).Returned := by
    refine Ends.bind ((flashEach_ends clear start).mono ?_ fun _ left => left)
    rintro results final ⟨safe,_,reported⟩
    exact ends_pure ⟨safe,reported.all distinct⟩
  unfold Ends at ends
  split at ends
  · rename_i answer final run
    obtain ⟨safe,each,error,flashed⟩ := ends
    refine ⟨?_,fun results error done => ?_,fun results error done => ?_,fun _ => ⟨answer.1,answer.2,by rw [run]⟩⟩
    · rw [run]
      exact safe
    · rw [run] at done ⊢
      cases done
      exact flashed
    · rw [run] at done
      cases done
      exact ⟨each,error⟩
  · rename_i exit final run
    refine ⟨?_,fun results error done => ?_,fun results error done => ?_,fun all => absurd all ends.2⟩
    · rw [run]
      exact ends.1
    · rw [run] at done
      cases done
    · rw [run] at done
      cases done

end run

theorem Probe.readable_of_line {lower : String → String} {probe : Probe} {line : String} (lines : probe.lines = [line])
    (kept : Kept line []) : probe.Readable lower where
  columns printed listed := by
    rw [lines] at listed
    rw [List.mem_singleton.mp listed]
    exact kept.columns.le
  kept before printed after cut _ := by
    rw [lines] at cut
    obtain ⟨rfl,same⟩ | ⟨_,_,none⟩ := List.append_eq_cons_iff.mp cut.symm
    · obtain ⟨rfl,rfl⟩ := List.cons_eq_cons.mp same
      exact kept
    · simp at none
  distinct := by
    rw [lines]
    exact (List.pairwise_singleton _ line).sublist List.filter_sublist

def loaderProbe (boards : String) : Probe where
  sysfs := {stdout := boards}
  adb := {stdout := "List of devices attached\n\n"}

def oneProbeEach (boards : String) : Batch where
  protocols _ := some "adb"
  calls _ := {
    reboot := .returned {}
    gate := {first := .returned (loaderProbe boards)}
    adb := .returned {}
    recheck := {first := .returned (loaderProbe boards)}
    lines := ["Upgrade firmware ok."]
    burn := .returned {}
    leave := {first := .returned (loaderProbe "")} }

theorem batch_flashes_only_loader_gadget :
    (oneProbeEach "351a\tRK1\tUSB download gadget\n").Keeps lower ["RK1"] := by
  have readable : (loaderProbe "351a\tRK1\tUSB download gadget\n").Readable lower :=
    @Probe.readable_of_line lower _ "351a\tRK1\tUSB download gadget" (by decide +kernel)
      ⟨by decide +kernel,by decide +kernel,by decide +kernel,.inl (by decide +kernel)⟩
  refine batch_flashes_only_loader (by decide) fun device listed => ⟨fun probe read _ => ?_,fun probe read _ => ?_,?_,?_⟩
  · cases List.mem_singleton.mp read
    exact readable
  · cases List.mem_singleton.mp read
    exact readable
  · intro before probe after cut _ earlier listed
    have count := congrArg List.length cut
    rw [List.length_append,List.length_cons] at count
    change 1 = _ at count
    have none : before = [] := List.eq_nil_of_length_eq_zero (by omega)
    rw [none] at listed
    cases listed
  · intro probe read _ before line after cut
    cases List.mem_singleton.mp read
    have empty : (loaderProbe "").lines = [] := by decide +kernel
    rw [empty] at cut
    simp at cut

/-- A second board in Loader without a serial is dropped, and the flash tool is started all the same. -/
theorem flashes_beside_other_loader : ¬∀ (batch : Batch) (devices : List String), devices.Nodup → batch.Keeps lower devices := by
  intro all
  let probe := loaderProbe "351a\tRK1\tUSB download gadget\n351a\t\tUSB download gadget\n"
  have log : [Event.probed probe,.probed probe]++[.flashed "RK1" (.returned {})] <+:
      (runLocalFirmwareBatch lower (oneProbeEach "351a\tRK1\tUSB download gadget\n351a\t\tUSB download gadget\n") ["RK1"] []).2 := by
    decide +kernel
  obtain ⟨earlier,first,second,probes,⟨line,only,_⟩,_⟩ := (all _ ["RK1"] (by decide)).flashes _ _ _ log
  have two : okProbes [Event.probed probe,.probed probe] = [probe,probe] := by decide +kernel
  have both : (probe.lines.filter (probe.loaderLine lower)).length = 2 := by decide +kernel
  have same : first = probe := by
    rw [two] at probes
    have count := congrArg List.length probes
    have none : earlier = [] := by simpa using count
    rw [none] at probes
    exact (List.cons_eq_cons.mp probes).1.symm
  rw [same] at only
  rw [only] at both
  cases both

end GmsRemoteTest.Firmware
