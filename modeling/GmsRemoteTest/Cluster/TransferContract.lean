import Mathlib.Algebra.Order.BigOperators.Group.List
import Mathlib.Algebra.Order.Ring.Nat
import GmsRemoteTest.Cluster.TransferIngest

/-! What the upload of a transfer owes its worker: the quota, the artifact, and that nothing changes once it is complete. -/
namespace GmsRemoteTest.TransferIngest

theorem total_put (parts : Dict ℕ Bytes) (index : ℕ) (body : Bytes) :
    total (parts.put index body) + sizeAt parts index = total parts + body.length := by
  obtain ⟨entries,distinct⟩ := parts
  unfold total sizeAt Dict.put Dict.get
  dsimp only
  clear distinct
  induction entries with
  | nil => simp [Dict.putEntry]
  | cons entry entries ih =>
    obtain ⟨first,held⟩ := entry
    unfold Dict.putEntry
    by_cases same : first = index
    · subst same
      simp only [if_true,List.map_cons,List.sum_cons,List.lookup_cons_self,Option.map_some,Option.getD_some]
      omega
    · have apart : (index == first) = false := by simpa using Ne.symm same
      rw [if_neg same,List.lookup_cons,apart]
      simp only [List.map_cons,List.sum_cons]
      omega

theorem total_pop (parts : Dict ℕ Bytes) (index : ℕ) : total (parts.pop index) ≤ total parts :=
  (List.filter_sublist.map _).sum_le_sum fun _ _ => Nat.zero_le _

def lastStored : List Event → ℕ → Option Bytes
  | [], _ => none
  | .stored index body :: log, other => if other = index then some body else lastStored log other
  | _ :: log, other => lastStored log other

theorem lastStored_silent {event : Event} (silent : ∀ index body, event ≠ .stored index body) (log : List Event) :
    lastStored (event :: log) = lastStored log := by
  funext index
  cases event with
  | stored index body => exact absurd rfl (silent index body)
  | uploaded index size => rfl
  | recorded request content => rfl
  | succeeded request => rfl
  | refused status detail => rfl

theorem merged_congr {first second : ℕ → Option Bytes} {count : ℕ} (same : ∀ index < count, first index = second index) :
    merged first count = merged second count := by
  unfold merged
  rw [List.flatMap_def,List.flatMap_def]
  exact congrArg List.flatten (List.map_congr_left fun index member => by rw [same index (List.mem_range.mp member)])

structure Fits (settings : Settings) (request : TransferComplete) (content : Bytes) (at_ : ℕ → Option Bytes) : Prop where
  joined : content = merged at_ request.chunkCount
  present : ∀ index < request.chunkCount, (at_ index).isSome
  sized : content.length = request.sizeBytes
  digest : settings.sha256 content = request.sha256

structure Admitted (settings : Settings) (request : TransferComplete) : Prop where
  small : request.sizeBytes ≤ settings.maxBytes
  named : safeName request.filename ∉ ["",".",".."]

/-- Two requests announce the same artifact. -/
structure Same (first second : TransferComplete) : Prop where
  named : safeName first.filename = safeName second.filename
  sized : first.sizeBytes = second.sizeBytes
  digest : first.sha256 = second.sha256
  counted : first.chunkCount = second.chunkCount

structure Recorded (settings : Settings) (world : World) (request : TransferComplete) (content : Bytes) : Prop where
  status : world.transfer.status = .completed
  named : world.transfer.filename = safeName request.filename
  sized : world.transfer.sizeBytes = request.sizeBytes
  digest : world.transfer.sha256 = request.sha256
  kept : world.root (safeName request.filename) = some (.bytes content)
  fits : Fits settings request content (lastStored world.log)
  admitted : Admitted settings request

def Counted (settings : Settings) (world : World) : Prop :=
  world.transfer.status.Open → ∀ value, received settings (world.root accounting) = some value → (total world.parts : ℤ) ≤ value

def PhaseOk (settings : Settings) (world : World) : Option Phase → Prop
  | none => Counted settings world
  | some (.writing index body received previous) =>
    world.transfer.status.Open ∧ Counted settings world ∧ (total world.parts : ℤ) ≤ received ∧ previous = sizeAt world.parts index ∧
      received - previous + body.length ≤ settings.maxBytes
  | some (.replaced _ size previous value) =>
    world.transfer.status.Open ∧ (total world.parts : ℤ) ≤ value ∧
      ∀ value, received settings (world.root accounting) = some value → (total world.parts + previous : ℤ) ≤ value + size
  | some (.truncated _ _ value) => world.transfer.status.Open ∧ (total world.parts : ℤ) ≤ value
  | some (.accounted _ _) => world.transfer.status.Open ∧ Counted settings world
  | some (.merging request) =>
    world.transfer.status.Open ∧ Counted settings world ∧ Admitted settings request ∧ Whole world.parts request.chunkCount
  | some (.placed request content) =>
    world.transfer.status.Open ∧ (safeName request.filename ≠ accounting → Counted settings world) ∧ Admitted settings request ∧
      world.root (safeName request.filename) = some (.bytes content) ∧ Fits settings request content (lastStored world.log)
  | some (.cleaning request) => ∃ content, .recorded request content ∈ world.log

structure Inv (settings : Settings) (workerId : String) (world : World) : Prop where
  worker : world.transfer.workerId = workerId
  quota : total world.parts ≤ settings.maxBytes
  phase : PhaseOk settings world world.holder
  current : world.transfer.status.Open → ∀ index body, world.parts.get index = some body → lastStored world.log index = some body
  recorded : ∀ request content, .recorded request content ∈ world.log → Recorded settings world request content
  states : world.transfer.status.Open ∨ ∃ request content, .recorded request content ∈ world.log
  succeeded : ∀ request, .succeeded request ∈ world.log → ∃ first content, .recorded first content ∈ world.log ∧ Same first request

variable {settings : Settings} {workerId : String} {world : World}

theorem Inv.unrecorded (inv : Inv settings workerId world) (accepts : world.transfer.status.Open) (request : TransferComplete) (content : Bytes) :
    .recorded request content ∉ world.log := by
  intro member
  rw [(inv.recorded request content member).status] at accepts
  exact absurd accepts (by decide)

theorem Recorded.logged {request : TransferComplete} {content : Bytes} (recorded : Recorded settings world request content) {event : Event}
    (silent : ∀ index body, event ≠ .stored index body) : Recorded settings {world with log := event :: world.log} request content :=
  ⟨recorded.status,recorded.named,recorded.sized,recorded.digest,recorded.kept,by rw [lastStored_silent silent]; exact recorded.fits,
    recorded.admitted⟩

section
variable (inv : Inv settings workerId world)
include inv

theorem Inv.answer {event : Event} (silent : ∀ index body, event ≠ .stored index body)
    (other : ∀ request content, event ≠ .recorded request content)
    (success : ∀ request, event = .succeeded request → ∃ first content, .recorded first content ∈ world.log ∧ Same first request) :
    Inv settings workerId {world with log := event :: world.log} where
  worker := inv.worker
  quota := inv.quota
  phase := by
    have before := inv.phase
    show PhaseOk settings {world with log := event :: world.log} world.holder
    cases holder : world.holder with
    | none =>
      rw [holder] at before
      exact before
    | some phase =>
      rw [holder] at before
      cases phase with
      | placed request content =>
        obtain ⟨accepts,counted,admitted,kept,fits⟩ := before
        exact ⟨accepts,counted,admitted,kept,by rw [lastStored_silent silent]; exact fits⟩
      | cleaning request =>
        obtain ⟨content,member⟩ := before
        exact ⟨content,List.mem_cons_of_mem _ member⟩
      | writing index body received previous => exact before
      | replaced index size previous value => exact before
      | truncated index size value => exact before
      | accounted index size => exact before
      | merging request => exact before
  current accepts index body found := by
    rw [lastStored_silent silent]
    exact inv.current accepts index body found
  recorded request content member :=
    (inv.recorded request content ((List.mem_cons.mp member).resolve_left (other request content).symm)).logged silent
  states := inv.states.imp_right fun ⟨request,content,member⟩ => ⟨request,content,List.mem_cons_of_mem _ member⟩
  succeeded request member := by
    obtain new | old := List.mem_cons.mp member
    · obtain ⟨first,content,member,same⟩ := success request new.symm
      exact ⟨first,content,List.mem_cons_of_mem _ member,same⟩
    · obtain ⟨first,content,member,same⟩ := inv.succeeded request old
      exact ⟨first,content,List.mem_cons_of_mem _ member,same⟩

theorem Inv.refuse (status : ℕ) (detail : String) : Inv settings workerId (world.refuse status detail) :=
  inv.answer (fun _ _ => nofun) (fun _ _ => nofun) fun _ => nofun

theorem Inv.hold {phase : Option Phase} (ok : PhaseOk settings world phase) :
    Inv settings workerId {world with holder := phase} where
  worker := inv.worker
  quota := inv.quota
  phase := by
    cases phase with
    | none => exact ok
    | some phase => cases phase <;> exact ok
  current := inv.current
  recorded request content member :=
    have recorded := inv.recorded request content member
    ⟨recorded.status,recorded.named,recorded.sized,recorded.digest,recorded.kept,recorded.fits,recorded.admitted⟩
  states := inv.states
  succeeded := inv.succeeded

end

theorem Inv.upload (inv : Inv settings workerId world) (worker : String) (index : ℤ) (body : Bytes) :
    Inv settings workerId (world.upload settings worker index body) := by
  unfold World.upload
  split_ifs with stranger misplaced unfit busy accepts
  · exact inv.refuse _ _
  · exact inv.refuse _ _
  · exact inv.refuse _ _
  · exact inv.refuse _ _
  · dsimp only
    by_cases large : settings.maxBytes < (received settings (world.root accounting)).getD (total world.parts) -
        sizeAt world.parts index.toNat + body.length
    · rw [if_pos large]
      exact inv.refuse _ _
    · rw [if_neg large]
      have counted : Counted settings world := by
        have before := inv.phase
        rw [not_not.mp busy] at before
        exact before
      have known : (total world.parts : ℤ) ≤ (received settings (world.root accounting)).getD (total world.parts) := by
        cases read : received settings (world.root accounting) with
        | none => exact le_rfl
        | some value => exact counted accepts value read
      exact @Inv.hold _ _ _ inv (some (.writing ..)) ⟨accepts,counted,known,rfl,not_lt.mp large⟩
  · exact inv.refuse _ _

def Consistent (world : World) (request : TransferComplete) : Prop :=
  ∀ first content, .recorded first content ∈ world.log → safeName first.filename = safeName request.filename →
    first.sizeBytes = request.sizeBytes → first.sha256 = request.sha256 → first.chunkCount = request.chunkCount

theorem Inv.complete (inv : Inv settings workerId world) (worker : String) {request : TransferComplete} (consistent : Consistent world request) :
    Inv settings workerId (world.complete settings worker request) := by
  unfold World.complete
  split_ifs with large unnamed stranger busy done same accepts whole
  · exact inv.refuse _ _
  · exact inv.refuse _ _
  · exact inv.refuse _ _
  · exact inv.refuse _ _
  · refine inv.answer (fun _ _ => nofun) (fun _ _ => nofun) fun other equal => ?_
    cases equal
    obtain accepts | ⟨first,content,member⟩ := inv.states
    · rw [done] at accepts
      exact absurd accepts (by decide)
    · have recorded := inv.recorded first content member
      have named := recorded.named.symm.trans same.1
      have sized := recorded.sized.symm.trans same.2.1
      have digest := recorded.digest.symm.trans same.2.2
      exact ⟨first,content,member,named,sized,digest,consistent first content member named sized digest⟩
  · exact inv.refuse _ _
  · have before := inv.phase
    rw [not_not.mp busy] at before
    exact @Inv.hold _ _ _ inv (some (.merging request)) ⟨accepts,before,⟨not_lt.mp large,unnamed⟩,whole⟩
  · exact inv.refuse _ _
  · exact inv.refuse _ _

section
variable (inv : Inv settings workerId world)
include inv

theorem Inv.writing {index previous : ℕ} {body : Bytes} {received : ℤ}
    (phase : PhaseOk settings world (some (.writing index body received previous))) :
    Inv settings workerId {world with
      parts := world.parts.put index body
      holder := some (.replaced index body.length previous (received - previous + body.length))
      log := .stored index body :: world.log} := by
  obtain ⟨accepts,counted,known,rfl,fits⟩ := phase
  have sizes := total_put world.parts index body
  refine ⟨inv.worker,?_,⟨accepts,?_,fun value read => ?_⟩,fun _ other content found => ?_,fun request content member => ?_,.inl accepts,
    fun request member => ?_⟩
  · show total (world.parts.put index body) ≤ _
    omega
  · show (total (world.parts.put index body) : ℤ) ≤ _
    omega
  · have before := counted accepts value read
    show (total (world.parts.put index body) : ℤ) + _ ≤ _
    omega
  · have found : (if other = index then some body else world.parts.get other) = some content := (Dict.get_put _ _ _ _).symm.trans found
    show (if other = index then some body else lastStored world.log other) = some content
    split_ifs at found ⊢ with here
    · exact found
    · exact inv.current accepts other content found
  · exact absurd (by simpa using member) (inv.unrecorded accepts request content)
  · obtain ⟨first,content,recorded,_⟩ := inv.succeeded request (by simpa using member)
    exact absurd recorded (inv.unrecorded accepts first content)

theorem Inv.write (accepts : world.transfer.status.Open) {name : String} {content : Content} {phase : Phase}
    (ok : PhaseOk settings {world with root := Function.update world.root name (some content)} (some phase)) :
    Inv settings workerId {world with root := Function.update world.root name (some content), holder := some phase} where
  worker := inv.worker
  quota := inv.quota
  phase := by cases phase <;> exact ok
  current := inv.current
  recorded request content member := absurd member (inv.unrecorded accepts request content)
  states := .inl accepts
  succeeded := inv.succeeded

theorem Inv.accounted {index size : ℕ} (phase : PhaseOk settings world (some (.accounted index size))) :
    Inv settings workerId
      {world with transfer := {world.transfer with status := .uploading}, holder := none, log := .uploaded index size :: world.log} := by
  obtain ⟨accepts,counted⟩ := phase
  have opened : Inv settings workerId {world with transfer := {world.transfer with status := .uploading}, holder := none} :=
    ⟨inv.worker,inv.quota,fun _ => counted accepts,fun _ => inv.current accepts,
      fun request content member => absurd member (inv.unrecorded accepts request content),.inl (.inr rfl),inv.succeeded⟩
  exact opened.answer (fun _ _ => nofun) (fun _ _ => nofun) fun _ => nofun

theorem Inv.place {request : TransferComplete} (phase : PhaseOk settings world (some (.merging request))) :
    Inv settings workerId (world.place settings request) := by
  obtain ⟨accepts,counted,admitted,whole⟩ := phase
  unfold World.place
  dsimp only
  split_ifs with large wrong directory
  · exact (inv.refuse _ _).hold counted
  · exact (inv.refuse _ _).hold counted
  · exact inv.hold counted
  · obtain ⟨sized,digest⟩ := not_or.mp wrong
    have current : ∀ index < request.chunkCount, lastStored world.log index = world.parts.get index := by
      intro index below
      obtain ⟨body,found⟩ := Option.isSome_iff_exists.mp (whole.2 index (List.mem_range.mpr below))
      rw [found]
      exact inv.current accepts index body found
    refine inv.write accepts ⟨accepts,fun apart => ?_,admitted,Function.update_self _ _ _,(merged_congr current).symm,fun index below => ?_,
      not_not.mp sized,not_not.mp digest⟩
    · intro _ value read
      dsimp only at read
      rw [Function.update_of_ne (Ne.symm apart)] at read
      exact counted accepts value read
    · show (lastStored world.log index).isSome
      rw [current index below]
      exact whole.2 index (List.mem_range.mpr below)

theorem Inv.placed {request : TransferComplete} {content : Bytes}
    (phase : PhaseOk settings world (some (.placed request content))) :
    Inv settings workerId {world with
      transfer := {world.transfer with
        status := .completed, filename := safeName request.filename, sizeBytes := content.length, sha256 := request.sha256}
      holder := some (.cleaning request)
      log := .recorded request content :: world.log} := by
  obtain ⟨accepts,_,admitted,kept,fits⟩ := phase
  refine ⟨inv.worker,inv.quota,⟨content,List.mem_cons_self⟩,fun opened => absurd opened (by decide : ¬Status.completed.Open),
    fun other content' member => ?_,.inr ⟨request,content,List.mem_cons_self⟩,fun other member => ?_⟩
  · obtain new | old := List.mem_cons.mp member
    · cases new
      exact ⟨rfl,rfl,fits.sized,rfl,kept,fits,admitted⟩
    · exact absurd old (inv.unrecorded accepts other content')
  · obtain ⟨first,content',member,same⟩ := inv.succeeded other ((List.mem_cons.mp member).resolve_left nofun)
    exact ⟨first,content',List.mem_cons_of_mem _ member,same⟩

theorem Inv.cleaned {request : TransferComplete} (phase : PhaseOk settings world (some (.cleaning request))) :
    Inv settings workerId {world with holder := none, log := .succeeded request :: world.log} := by
  obtain ⟨content,member⟩ := phase
  have counted : Counted settings world := by
    intro accepts
    exact absurd member (inv.unrecorded accepts request content)
  refine Inv.answer (@Inv.hold _ _ _ inv none counted) (fun _ _ => nofun) (fun _ _ => nofun) fun other equal => ?_
  cases equal
  exact ⟨request,content,member,rfl,rfl,rfl,rfl⟩

theorem Inv.step : Inv settings workerId (world.step settings) := by
  have before := inv.phase
  unfold World.step
  split
  · exact inv
  · rename_i held
    rw [held] at before
    exact inv.writing before
  · rename_i held
    rw [held] at before
    exact inv.write before.1 ⟨before.1,before.2.1⟩
  · rename_i held
    rw [held] at before
    refine inv.write before.1 ⟨before.1,fun _ other read => ?_⟩
    dsimp only at read
    rw [Function.update_self] at read
    cases read
    exact before.2
  · rename_i held
    rw [held] at before
    exact inv.accounted before
  · rename_i held
    rw [held] at before
    exact inv.place before
  · rename_i held
    rw [held] at before
    exact inv.placed before
  · rename_i held
    rw [held] at before
    exact inv.cleaned before

theorem Inv.sweep (index : ℕ) : Inv settings workerId (world.sweep index) := by
  have before := inv.phase
  unfold World.sweep
  split
  · rename_i request held
    rw [held] at before
    obtain ⟨content,member⟩ := before
    have closed : ¬world.transfer.status.Open := fun accepts => inv.unrecorded accepts request content member
    exact ⟨inv.worker,(total_pop world.parts index).trans inv.quota,by
        show PhaseOk settings {world with parts := world.parts.pop index} world.holder
        rw [held]
        exact ⟨content,member⟩,
      fun accepts => absurd accepts closed,fun first content member =>
        have recorded := inv.recorded first content member
        ⟨recorded.status,recorded.named,recorded.sized,recorded.digest,recorded.kept,recorded.fits,recorded.admitted⟩,
      inv.states,inv.succeeded⟩
  · exact inv

end

/-- A request does not end between the replacement of a part and the end of the write of the accounting file, unless that was not
readable before or the part has not grown; nor between the placing of an artifact that is called like it and its record. -/
def Careful (settings : Settings) (world : World) : Op → Prop
  | .complete _ request => Consistent world request
  | .abort => match world.holder with
    | some (.replaced _ size previous _) => received settings (world.root accounting) = none ∨ size ≤ previous
    | some (.truncated _ _ _) => False
    | some (.placed request _) => safeName request.filename ≠ accounting
    | _ => True
  | _ => True

theorem Inv.abort (inv : Inv settings workerId world) (careful : Careful settings world .abort) :
    Inv settings workerId {world with holder := none} := by
  refine @Inv.hold _ _ _ inv none ?_
  have before := inv.phase
  unfold Careful at careful
  cases held : world.holder with
  | none =>
    rw [held] at before
    exact before
  | some phase =>
    rw [held] at before careful
    cases phase with
    | writing index body received previous => exact before.2.1
    | replaced index size previous value =>
      obtain ⟨_,_,stale⟩ := before
      intro _ value read
      obtain none_ | shrunk := careful
      · exact nomatch none_.symm.trans read
      · have bound := stale value read
        omega
    | truncated index size value => exact careful.elim
    | accounted index size => exact before.2
    | merging request => exact before.2.1
    | placed request content => exact before.2.1 careful
    | cleaning request =>
      obtain ⟨content,member⟩ := before
      exact fun accepts => absurd member (inv.unrecorded accepts request content)

theorem Inv.apply (inv : Inv settings workerId world) {op : Op} (careful : Careful settings world op) :
    Inv settings workerId (world.apply settings op) := by
  cases op with
  | upload worker index body => exact inv.upload worker index body
  | complete worker request => exact inv.complete worker careful
  | step => exact inv.step
  | sweep index => exact inv.sweep index
  | abort => exact inv.abort careful

theorem place_log (settings : Settings) (world : World) (request : TransferComplete) : world.log <:+ (world.place settings request).log := by
  unfold World.place
  dsimp only
  split_ifs
  · exact List.suffix_cons _ _
  · exact List.suffix_cons _ _
  · exact List.suffix_rfl
  · exact List.suffix_rfl

theorem apply_log (settings : Settings) (op : Op) (world : World) : world.log <:+ (world.apply settings op).log := by
  cases op with
  | upload worker index body =>
    show _ <:+ (world.upload settings worker index body).log
    unfold World.upload
    split_ifs
    · exact List.suffix_cons _ _
    · exact List.suffix_cons _ _
    · exact List.suffix_cons _ _
    · exact List.suffix_cons _ _
    · dsimp only
      split
      · exact List.suffix_cons _ _
      · exact List.suffix_rfl
    · exact List.suffix_cons _ _
  | complete worker request =>
    show _ <:+ (world.complete settings worker request).log
    unfold World.complete
    split_ifs
    · exact List.suffix_cons _ _
    · exact List.suffix_cons _ _
    · exact List.suffix_cons _ _
    · exact List.suffix_cons _ _
    · exact List.suffix_cons _ _
    · exact List.suffix_cons _ _
    · exact List.suffix_rfl
    · exact List.suffix_cons _ _
    · exact List.suffix_cons _ _
  | step =>
    show _ <:+ (world.step settings).log
    unfold World.step
    split
    · exact List.suffix_rfl
    · exact List.suffix_cons _ _
    · exact List.suffix_rfl
    · exact List.suffix_rfl
    · exact List.suffix_cons _ _
    · exact place_log settings world _
    · exact List.suffix_cons _ _
    · exact List.suffix_cons _ _
  | sweep index =>
    show _ <:+ (world.sweep index).log
    unfold World.sweep
    split
    · exact List.suffix_rfl
    · exact List.suffix_rfl
  | abort => exact List.suffix_rfl

theorem exec_log (settings : Settings) (world : World) (ops : List Op) : world.log <:+ (Runs.exec (World.apply settings) world ops).log := by
  induction ops generalizing world with
  | nil => exact List.suffix_rfl
  | cons op ops ih => exact (apply_log settings op world).trans (ih _)

theorem inv_new (settings : Settings) (workerId : String) : Inv settings workerId {transfer := {workerId}} where
  worker := rfl
  quota := Nat.zero_le _
  phase _ _ read := nomatch read
  current _ _ _ found := nomatch found
  recorded _ _ := nofun
  states := .inl (.inl rfl)
  succeeded _ := nofun

/-- What holds after some operations on a transfer that was just created. -/
structure Contract (settings : Settings) (workerId : String) (ops : List Op) : Prop where
  quota : total (World.run settings workerId ops).parts ≤ settings.maxBytes
  complete : ∀ request, .succeeded request ∈ (World.run settings workerId ops).log →
    (World.run settings workerId ops).transfer.status = .completed ∧
      ∃ content, (World.run settings workerId ops).root (safeName request.filename) = some (.bytes content) ∧
        Fits settings request content (lastStored (World.run settings workerId ops).log)
  fixed : ∀ first second, ops = first ++ second → (World.run settings workerId first).transfer.status = .completed →
    (World.run settings workerId ops).transfer = (World.run settings workerId first).transfer ∧
      (World.run settings workerId ops).root (World.run settings workerId first).transfer.filename =
        (World.run settings workerId first).root (World.run settings workerId first).transfer.filename
  repeated : ∀ request content, .recorded request content ∈ (World.run settings workerId ops).log →
    (World.run settings workerId ops).holder = none →
      ((World.run settings workerId ops).complete settings workerId request).log = .succeeded request :: (World.run settings workerId ops).log

theorem Recorded.transfer_eq {other : World} {request : TransferComplete} {content content' : Bytes}
    (one : Recorded settings world request content) (two : Recorded settings other request content')
    (worker : world.transfer.workerId = other.transfer.workerId) : world.transfer = other.transfer := by
  cases one' : world.transfer
  cases two' : other.transfer
  rw [one',two'] at worker
  have status := one.status.trans two.status.symm
  have named := one.named.trans two.named.symm
  have sized := one.sized.trans two.sized.symm
  have digest := one.digest.trans two.digest.symm
  rw [one',two'] at status named sized digest
  simp only [Transfer.mk.injEq]
  exact ⟨worker,status,named,sized,digest⟩

theorem Inv.repeated (inv : Inv settings workerId world) {request : TransferComplete} {content : Bytes}
    (member : .recorded request content ∈ world.log) (free : world.holder = none) :
    (world.complete settings workerId request).log = .succeeded request :: world.log := by
  have recorded := inv.recorded request content member
  unfold World.complete
  rw [if_neg (not_lt.mpr recorded.admitted.small),if_neg recorded.admitted.named,if_neg (not_not.mpr inv.worker),if_neg (not_not.mpr free),
    if_pos recorded.status,if_pos ⟨recorded.named,recorded.sized,recorded.digest⟩]

theorem ingest_contract (settings : Settings) (workerId : String) (ops : List Op)
    (careful : Runs.Along (fun world op => World.apply settings op world) (Careful settings) {transfer := {workerId}} ops) :
    Contract settings workerId ops := by
  have reached : ∀ ops : List Op,
      Runs.Along (fun world op => World.apply settings op world) (Careful settings) {transfer := {workerId}} ops →
        Inv settings workerId (World.run settings workerId ops) := by
    intro ops careful
    exact Runs.foldl_invariant (Inv settings workerId) (fun _ _ inv careful => inv.apply careful) ops (inv_new settings workerId) careful
  have inv := reached ops careful
  refine ⟨inv.quota,fun request member => ?_,fun first second split done => ?_,fun request content member free => inv.repeated member free⟩
  · obtain ⟨first,content,member,same⟩ := inv.succeeded request member
    have recorded := inv.recorded first content member
    have fits := recorded.fits
    exact ⟨recorded.status,content,same.named ▸ recorded.kept,same.counted ▸ fits.joined,same.counted ▸ fits.present,
      fits.sized.trans same.sized,fits.digest.trans same.digest⟩
  · rw [split] at careful
    have before := reached first ((Runs.along_append _ first second).mp careful).1
    obtain accepts | ⟨request,content,member⟩ := before.states
    · rw [done] at accepts
      exact absurd accepts (by decide)
    · have earlier := before.recorded request content member
      have grown : (World.run settings workerId first).log <:+ (World.run settings workerId ops).log := by
        rw [split]
        unfold World.run
        rw [Runs.exec_append]
        exact exec_log settings _ second
      have later := inv.recorded request content (grown.subset member)
      refine ⟨later.transfer_eq earlier (inv.worker.trans before.worker.symm),?_⟩
      rw [earlier.named,earlier.kept,later.kept]

def onePart : List Op :=
  [.upload "w" 0 [97],.step,.step,.step,.step,
    .complete "w" ⟨"log.txt",1,"ca978112ca1bbdcafac231b39a23dc4da786eff8147c4e72b9807785afee48bb",1,by decide,by decide⟩,
    .step,.step,.sweep 0,.step]

theorem onePart_contract :
    Contract ⟨8,8,fun _ => "ca978112ca1bbdcafac231b39a23dc4da786eff8147c4e72b9807785afee48bb",fun _ => none⟩ "w" onePart := by
  refine ingest_contract _ "w" onePart ⟨trivial,trivial,trivial,trivial,trivial,fun first content member => ?_,trivial,trivial,trivial,trivial,trivial⟩
  have member : Event.recorded first content ∈ [Event.uploaded 0 1,.stored 0 [97]] := member
  simp at member

def beyondQuota : List Op :=
  [.upload "w" 0 [1],.step,.step,.step,.step,.upload "w" 1 [1],.step,.abort,.upload "w" 2 [1],.step]

theorem stale_accounting : ¬Contract ⟨1,2,fun _ => "",fun _ => none⟩ "w" beyondQuota := fun contract =>
  absurd contract.quota (by decide)

end GmsRemoteTest.TransferIngest
