import GmsRemoteTest.Auth.TokenDatabase

/-! What any run leaves of the token tables. A caller that passed its SELECT knows an approval that binds what it
presents; its UPDATE, guarded by `used_at IS NULL`, spends a row only once and hits no deleted one. -/
namespace GmsRemoteTest.Auth
open Text

/-- The approval binds the tool, device and command of the consumption and had not expired at its clock reading. -/
def Consumption.Honours (consumption : Consumption) (issue : Issue) : Prop :=
  issue.token = consumption.presented.token ∧ issue.binding.tool = strip consumption.presented.tool ∧
    issue.binding.device = strip consumption.presented.device ∧ issue.binding.command = consumption.presented.command ∧
    consumption.now < issue.expiresAt

section
variable (hash lower upper : String → String)

structure TablesSound (world : World) : Prop where
  approvals : OneShot.Ledger ApprovalRow.tokenHash (fun row => row.usedAt.isSome) world.approvals
    (world.issues.map fun issue => hash issue.token) (world.consumed.map fun consumption => hash consumption.presented.token)
  enrollments : OneShot.Ledger EnrollmentRow.codeHash (fun row => row.usedAt.isSome) world.enrollments
    (world.codes.map hash) (world.redeemed.map fun redemption => hash redemption.code)
  issued : ∀ row ∈ world.approvals, ∃ issue ∈ world.issues, ∃ usedAt, row = {issue.row hash with usedAt}
  bound : ∀ issue ∈ world.issues, issue.request.bind lower = .ok issue.binding
  honoured : ∀ consumption ∈ world.consumed, ∃ issue ∈ world.issues, consumption.Honours issue
  agents : world.agentTokens = world.redeemed.map Redemption.agent

def PhaseSound (world : World) (caller : Nat) : Phase → Prop
  | .creating issue => issue.request.bind lower = .ok issue.binding
  | .inserting issue left =>
    world.writer = some caller ∧ issue.request.bind lower = .ok issue.binding ∧ left.Sublist world.approvals
  | .burning presented now => ∃ issue ∈ world.issues, Consumption.Honours ⟨presented,now⟩ issue
  | .listing _ left => world.writer = some caller ∧ left.Sublist world.enrollments
  | .granting code _ _ left => world.writer = some caller ∧ enrollmentHits hash code world.enrollments = 1 ∧
      ∃ now, left = claimEnrollments hash code now world.enrollments
  | _ => True

structure Sound (world : World) : Prop where
  tables : TablesSound hash lower world
  phases : ∀ caller, PhaseSound hash lower world caller (world.phases caller)

/-- What a step of one caller leaves to the others: their phases, the issued approvals, and all rows as long
as another caller holds the write lock. -/
structure Frame (world next : World) (caller : Nat) : Prop where
  phases : ∀ other, other ≠ caller → next.phases other = world.phases other
  issues : ∀ issue ∈ world.issues, issue ∈ next.issues
  locked : ∀ other, other ≠ caller → world.writer = some other →
    next.writer = some other ∧ next.approvals = world.approvals ∧ next.enrollments = world.enrollments

end

section
variable {hash lower upper : String → String} {world next : World} {caller : Nat}

theorem Frame.keeps (frame : Frame world next caller) {other : Nat} (apart : other ≠ caller) {phase : Phase}
    (sound : PhaseSound hash lower world other phase) : PhaseSound hash lower next other phase := by
  cases phase with
  | inserting issue left =>
    obtain ⟨writing,bound,left_rows⟩ := sound
    obtain ⟨kept,rows,_⟩ := frame.locked other apart writing
    exact ⟨kept,bound,by rw [rows]; exact left_rows⟩
  | burning presented now =>
    obtain ⟨issue,member,honours⟩ := sound
    exact ⟨issue,frame.issues issue member,honours⟩
  | listing enrollment left =>
    obtain ⟨kept,_,rows⟩ := frame.locked other apart sound.1
    exact ⟨kept,by rw [rows]; exact sound.2⟩
  | granting code token agent left =>
    obtain ⟨writing,hit,claimed⟩ := sound
    obtain ⟨kept,_,rows⟩ := frame.locked other apart writing
    rw [PhaseSound,rows]
    exact ⟨kept,hit,claimed⟩
  | _ => exact sound

theorem Sound.step (sound : Sound hash lower world) (frame : Frame world next caller) (tables : TablesSound hash lower next)
    (own : PhaseSound hash lower next caller (next.phases caller)) : Sound hash lower next where
  tables := tables
  phases := by
    intro other
    by_cases same : other = caller
    · rw [same]
      exact own
    · rw [frame.phases other same]
      exact frame.keeps same (sound.phases other)

theorem Sound.goto (sound : Sound hash lower world) {phase : Phase} {writer : Option Nat}
    (free : ∀ other, other ≠ caller → world.writer = some other → writer = some other)
    (own : PhaseSound hash lower {world.goto caller phase with writer} caller phase) :
    Sound hash lower {world.goto caller phase with writer} := by
  have moved : ({world.goto caller phase with writer} : World).phases caller = phase := Function.update_self ..
  refine sound.step ⟨fun other apart => Function.update_of_ne apart ..,fun _ member => member,fun other apart writing =>
    ⟨free other apart writing,rfl,rfl⟩⟩ ?_ (by rw [moved]; exact own)
  exact ⟨sound.tables.approvals,sound.tables.enrollments,sound.tables.issued,sound.tables.bound,sound.tables.honoured,sound.tables.agents⟩

theorem finish_writer {result : Result} {other : Nat} (apart : other ≠ caller) (writing : world.writer = some other) :
    (world.finish caller result).writer = some other := by
  have held : ¬ (some other = some caller) := by simpa using apart
  simp only [World.finish,World.goto,writing,if_neg held]

theorem Sound.finish (sound : Sound hash lower world) {result : Result}
    (frame : ∀ other, other ≠ caller → world.writer = some other → next.approvals = world.approvals ∧ next.enrollments = world.enrollments)
    (writer : next.writer = (world.finish caller result).writer) (phases : next.phases = (world.finish caller result).phases)
    (issues : ∀ issue ∈ world.issues, issue ∈ next.issues) (tables : TablesSound hash lower next) : Sound hash lower next := by
  have own : next.phases caller = .returned (some result) := by
    rw [phases]
    exact Function.update_self ..
  have framed : Frame world next caller := by
    refine ⟨fun other apart => ?_,issues,fun other apart writing => ?_⟩
    · rw [phases]
      exact Function.update_of_ne apart ..
    · exact ⟨by rw [writer]; exact finish_writer apart writing,frame other apart writing⟩
  exact sound.step framed tables (by rw [own]; trivial)

theorem Sound.leave (sound : Sound hash lower world) (result : Result) : Sound hash lower (world.finish caller result) := by
  refine sound.finish (fun _ _ _ => ⟨rfl,rfl⟩) rfl rfl (fun _ member => member) ?_
  exact ⟨sound.tables.approvals,sound.tables.enrollments,sound.tables.issued,sound.tables.bound,sound.tables.honoured,sound.tables.agents⟩

theorem free_elim (free : world.writer = none) {other : Nat} {Rows : Prop} (writing : world.writer = some other) : Rows := by
  rw [free] at writing
  cases writing

theorem held_elim (held : world.writer = some caller) {other : Nat} {Rows : Prop} (apart : other ≠ caller)
    (writing : world.writer = some other) : Rows := by
  rw [held] at writing
  exact absurd (Option.some.inj writing).symm apart

section commits
variable (tables : TablesSound hash lower world)
include tables

theorem TablesSound.insert {issue : Issue} {left : List ApprovalRow} (kept : left.Sublist world.approvals)
    (bound : issue.request.bind lower = .ok issue.binding) (free : hash issue.token ∉ left.map ApprovalRow.tokenHash)
    (result : Result) : TablesSound hash lower {world.finish caller result with
      approvals := left++[issue.row hash],issues := world.issues++[issue]} where
  approvals := by
    have unused : (issue.row hash).tokenHash ∉ left.map ApprovalRow.tokenHash := free
    rw [List.map_append]
    exact (tables.approvals.delete kept).issue unused
  enrollments := tables.enrollments
  issued := by
    intro row member
    rcases List.mem_append.mp member with old | new
    · obtain ⟨earlier,listed,usedAt,shape⟩ := tables.issued row (kept.mem old)
      exact ⟨earlier,List.mem_append_left _ listed,usedAt,shape⟩
    · exact ⟨issue,List.mem_append_right _ (List.mem_singleton_self issue),none,List.mem_singleton.mp new⟩
  bound := by
    intro other member
    rcases List.mem_append.mp member with old | new
    · exact tables.bound other old
    · rw [List.mem_singleton.mp new]
      exact bound
  honoured := by
    intro consumption member
    obtain ⟨earlier,listed,honours⟩ := tables.honoured consumption member
    exact ⟨earlier,List.mem_append_left _ listed,honours⟩
  agents := tables.agents

theorem TablesSound.burn_issued (token : String) (now : Nat) :
    ∀ row ∈ burnApprovals hash token now world.approvals, ∃ issue ∈ world.issues, ∃ usedAt, row = {issue.row hash with usedAt} := by
  intro row member
  obtain ⟨old,listed,marked⟩ := Table.mem_update.mp member
  obtain ⟨issue,issued,usedAt,shape⟩ := tables.issued old listed
  subst shape
  refine ⟨issue,issued,row.usedAt,?_⟩
  rw [← marked]
  split <;> rfl

theorem TablesSound.burn {presented : Presented} {now : Nat} (hit : approvalHits hash presented.token world.approvals = 1)
    (honoured : ∃ issue ∈ world.issues, Consumption.Honours ⟨presented,now⟩ issue) (result : Result) :
    TablesSound hash lower {world.finish caller result with
      approvals := burnApprovals hash presented.token now world.approvals
      consumed := world.consumed++[⟨presented,now⟩]} where
  approvals := by
    rw [List.map_append]
    refine tables.approvals.spend ?_ ?_ hit
    · exact fun _ => rfl
    · exact fun _ => rfl
  enrollments := tables.enrollments
  issued := tables.burn_issued presented.token now
  bound := tables.bound
  honoured := by
    intro consumption member
    rcases List.mem_append.mp member with old | new
    · exact tables.honoured consumption old
    · rw [List.mem_singleton.mp new]
      exact honoured
  agents := tables.agents

theorem TablesSound.burn_miss {presented : Presented} {now : Nat} (miss : approvalHits hash presented.token world.approvals ≠ 1)
    (result : Result) : TablesSound hash lower {world.finish caller result with
      approvals := burnApprovals hash presented.token now world.approvals} where
  approvals := tables.approvals.miss miss _
  enrollments := tables.enrollments
  issued := tables.burn_issued presented.token now
  bound := tables.bound
  honoured := tables.honoured
  agents := tables.agents

theorem TablesSound.list {row : EnrollmentRow} {code : String} {left : List EnrollmentRow} (kept : left.Sublist world.enrollments)
    (named : row.codeHash = hash code) (free : row.codeHash ∉ left.map EnrollmentRow.codeHash) (result : Result) :
    TablesSound hash lower {world.finish caller result with enrollments := left++[row],codes := world.codes++[code]} where
  approvals := tables.approvals
  enrollments := by
    rw [List.map_append,List.map_singleton,← named]
    exact (tables.enrollments.delete kept).issue free
  issued := tables.issued
  bound := tables.bound
  honoured := tables.honoured
  agents := tables.agents

theorem TablesSound.claim_miss {code : String} {now : Nat} (miss : enrollmentHits hash code world.enrollments ≠ 1)
    (result : Result) : TablesSound hash lower {world.finish caller result with
      enrollments := claimEnrollments hash code now world.enrollments} where
  approvals := tables.approvals
  enrollments := tables.enrollments.miss miss _
  issued := tables.issued
  bound := tables.bound
  honoured := tables.honoured
  agents := tables.agents

theorem TablesSound.grant {code : String} {now : Nat} (hit : enrollmentHits hash code world.enrollments = 1) (agent : AgentTokenRow)
    (result : Result) : TablesSound hash lower {world.finish caller result with
      enrollments := claimEnrollments hash code now world.enrollments
      agentTokens := world.agentTokens++[agent]
      redeemed := world.redeemed++[⟨code,agent⟩]} where
  approvals := tables.approvals
  enrollments := by
    rw [List.map_append]
    refine tables.enrollments.spend ?_ ?_ hit
    · exact fun _ => rfl
    · exact fun _ => rfl
  issued := tables.issued
  bound := tables.bound
  honoured := tables.honoured
  agents := by
    rw [List.map_append,tables.agents]
    rfl

end commits

theorem TablesSound.accepted (tables : TablesSound hash lower world) (injective : Function.Injective hash)
    {presented : Presented} {now : Nat} (accepted : presented.accepted hash now world.approvals = true) :
    ∃ issue ∈ world.issues, Consumption.Honours ⟨presented,now⟩ issue := by
  obtain ⟨row,member,named,_,early,command⟩ := Presented.accepted_row hash accepted
  obtain ⟨issue,issued,usedAt,rfl⟩ := tables.issued row member
  exact ⟨issue,issued,injective named.1,named.2.1,named.2.2,injective command,early⟩

theorem Sound.go (sound : Sound hash lower world) (injective : Function.Injective hash) (caller : Nat) :
    Sound hash lower (world.go hash caller) := by
  have tables := sound.tables
  have own := sound.phases caller
  unfold World.go
  cases phase : world.phases caller with
  | returned result => exact sound
  | creating issue =>
    rw [phase] at own
    dsimp only
    split
    · exact sound
    · rename_i free
      rw [not_not] at free
      exact sound.goto (fun other _ => free_elim free) ⟨rfl,own,List.filter_sublist ..⟩
  | inserting issue left =>
    rw [phase] at own
    obtain ⟨held,bound,kept⟩ := own
    dsimp only
    split
    · exact sound.leave _
    · rename_i unused
      exact sound.finish (fun other apart writing => held_elim held apart writing) rfl rfl
        (fun _ member => List.mem_append_left _ member) (tables.insert kept bound unused _)
  | validating presented now => exact sound.leave _
  | consuming presented now =>
    dsimp only
    split
    · rename_i accepted
      exact sound.goto (fun _ _ writing => writing) (tables.accepted injective accepted)
    · exact sound.leave _
  | burning presented now =>
    rw [phase] at own
    dsimp only
    split
    · exact sound
    · rename_i free
      rw [not_not] at free
      split
      · rename_i hit
        exact sound.finish (fun other _ writing => free_elim free writing) rfl rfl (fun _ member => member) (tables.burn hit own _)
      · rename_i miss
        exact sound.finish (fun other _ writing => free_elim free writing) rfl rfl (fun _ member => member) (tables.burn_miss miss _)
  | enrolling enrollment =>
    dsimp only
    split
    · exact sound
    · rename_i free
      rw [not_not] at free
      exact sound.goto (fun other _ => free_elim free) ⟨rfl,List.filter_sublist ..⟩
  | listing enrollment left =>
    rw [phase] at own
    obtain ⟨held,kept⟩ := own
    dsimp only
    split
    · exact sound.leave _
    · rename_i row compiled
      split
      · exact sound.leave _
      · rename_i unused
        exact sound.finish (fun other apart writing => held_elim held apart writing) rfl rfl (fun _ member => member)
          (tables.list kept (Enrollment.row_codeHash hash compiled) unused _)
  | redeeming code token tokenId now =>
    dsimp only
    split
    · exact sound.leave _
    · exact sound.goto (fun _ _ writing => writing) trivial
  | claiming code token tokenId now row =>
    dsimp only
    split
    · exact sound
    · rename_i free
      rw [not_not] at free
      split
      · rename_i miss
        exact sound.finish (fun other _ writing => free_elim free writing) rfl rfl (fun _ member => member) (tables.claim_miss miss _)
      · rename_i hit
        rw [not_not] at hit
        exact sound.goto (fun other _ => free_elim free) ⟨rfl,hit,now,rfl⟩
  | granting code token agent left =>
    rw [phase] at own
    obtain ⟨held,hit,now,rfl⟩ := own
    dsimp only
    split
    · exact sound.leave _
    · exact sound.finish (fun other apart writing => held_elim held apart writing) rfl rfl (fun _ member => member)
        (tables.grant hit agent _)

theorem Call.start_sound (call : Call) (now : Nat) (world : World) (caller : Nat) :
    PhaseSound hash lower world caller (call.start lower upper now) := by
  cases call with
  | createApproval request token =>
    dsimp only [Call.start]
    split
    · trivial
    · rename_i bound
      exact bound
  | validate presented | consume presented | createEnrollment request code | redeem code token tokenId =>
    dsimp only [Call.start]
    split <;> trivial

theorem Sound.apply (sound : Sound hash lower world) (injective : Function.Injective hash) (event : Event) :
    Sound hash lower (world.apply hash lower upper event) := by
  cases event with
  | invoke caller call now =>
    dsimp only [World.apply]
    split
    · exact sound.goto (fun _ _ writing => writing) (call.start_sound now _ caller)
    · exact sound
  | go caller => exact sound.go injective caller
  | fail caller message =>
    dsimp only [World.apply]
    split
    · exact sound
    · exact sound.leave _

theorem Sound.empty : Sound hash lower {} where
  tables := ⟨.empty,.empty,fun _ member => (List.not_mem_nil member).elim,fun _ member => (List.not_mem_nil member).elim,
    fun _ member => (List.not_mem_nil member).elim,rfl⟩
  phases := fun _ => trivial

theorem Sound.run (injective : Function.Injective hash) (events : List Event) :
    Sound hash lower (Runs.exec (World.apply hash lower upper) {} events) :=
  Runs.exec_invariant (fun _ event sound => sound.apply injective event) Sound.empty events

theorem issue_unique {issues : List Issue} (drawn : (issues.map Issue.token).Nodup) {first second : Issue}
    (left : first ∈ issues) (right : second ∈ issues) (same : first.token = second.token) : first = second :=
  List.inj_on_of_nodup_map drawn left right same

end

def knownHash (known : List (String × String)) (text : String) : String := (known.lookup text).getD ("x" ++ text)

theorem mem_of_lookup {known : List (String × String)} {text value : String} (found : known.lookup text = some value) :
    (text,value) ∈ known := by
  obtain ⟨earlier,later,rfl,_⟩ := List.lookup_eq_some_iff.mp found
  simp

theorem knownHash_injective {known : List (String × String)} (distinct : (known.map Prod.snd).Nodup)
    (digits : ∀ pair ∈ known, pair.2.toList.head? ≠ some 'x') : Function.Injective (knownHash known) := by
  have apart : ∀ first second value, known.lookup first = some value → value ≠ "x" ++ second := by
    intro first second value found same
    have member : (first,value) ∈ known := mem_of_lookup found
    refine digits _ member ?_
    rw [same,String.toList_append]
    rfl
  intro first second same
  unfold knownHash at same
  cases left : known.lookup first with
  | none => cases right : known.lookup second with
    | none =>
      rw [left,right] at same
      exact tag_inj "x" same
    | some value =>
      rw [left,right] at same
      exact (apart second first value right same.symm).elim
  | some value => cases right : known.lookup second with
    | none =>
      rw [left,right] at same
      exact (apart first second value left same).elim
    | some other =>
      rw [left,right] at same
      have one := List.inj_on_of_nodup_map distinct (mem_of_lookup left) (mem_of_lookup right) same
      exact congrArg Prod.fst one

def racingDigests : List (String × String) :=
  [("tok1","80b3ad2d438bfafa1ea690c5a59f54548dcc76ad6a839c6704ac1d9d565d9c80"),
    ("burn_firmware:10.0.0.2:5555,B1:ab:cd=e:wipe=true:mode=uf","7c91ea8f56bf9bb43f6aa971a975a100629f578635a1c31e4ca9467e3407b7ee"),
    ("A1B2C3-D4E5F6-A7B8C9","2b06c321b2b2c818c96753ba6eddab7eeb2828d753a48b503b6d6fc990676a30"),
    ("agent1","cd5078be17d044d575d02e11b9f77b2c9a3f053872d0484c752009a83f8b6dd8"),
    ("agent2","27d0d02378cc27e88dfe61c6f84dab41ab044874ff56f33c7986ed2a4de98d26")]

def asciiLower (text : String) : String := String.ofList (text.toList.map Char.toLower)

def asciiUpper (text : String) : String := String.ofList (text.toList.map Char.toUpper)

def racingRun : List Event :=
  let burn : Presented := ⟨"tok1",burnTool,"10.0.0.2:5555,B1","burn_firmware:10.0.0.2:5555,B1:ab:cd=e:wipe=true:mode=uf"⟩
  [.invoke 0 (.createApproval {userId := "u1",tool := burnTool,device := "B1, 10.0.0.2:5555",firmwareSha256 := "AB:cd=e",burnMode := "UF"} "tok1") 0,
    .go 0,.go 0,.invoke 1 (.consume burn) 5,.invoke 2 (.consume burn) 6,.go 1,.go 2,.go 1,.go 2,
    .invoke 0 (.createEnrollment {name := "builder",creator := "u1",scopes := some (.text "jobs.read")} "A1B2C3-D4E5F6-A7B8C9") 10,
    .go 0,.go 0,.invoke 3 (.redeem "a1b2c3-d4e5f6-a7b8c9" "agent1" "agt_1") 11,.invoke 4 (.redeem "a1b2c3-d4e5f6-a7b8c9" "agent2" "agt_2") 12,
    .go 3,.go 4,.go 3,.go 4,.go 3,.go 4]

def racingWorld : World := Runs.exec (World.apply (knownHash racingDigests) asciiLower asciiUpper) {} racingRun

end GmsRemoteTest.Auth
