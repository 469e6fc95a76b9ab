import GmsRemoteTest.Auth.ApprovalTokens
import GmsRemoteTest.Auth.Enrollment
import GmsRemoteTest.Lib.OneShot
import GmsRemoteTest.Lib.Runs

/-! The token tables under any number of callers in any number of processes. A call reads its clock and runs its
statements one at a time, with those of others in between. SQLite has one writer: the first writing statement of a
transaction takes the write lock, which is held to the commit, and readers see the rows committed before it. -/
namespace GmsRemoteTest.Auth
open Text

inductive Call where
  | createApproval (request : ApprovalRequest) (token : String)
  | validate (presented : Presented)
  | consume (presented : Presented)
  | createEnrollment (request : EnrollmentRequest) (code : String)
  | redeem (code token tokenId : String)

inductive Result where
  | token (token : String)
  | verdict (ok : Bool)
  | record (record : AgentRecord)
  | refused (refusal : Refusal)
  | raised (message : String)
deriving DecidableEq

inductive Phase where
  | returned (result : Option Result)
  | creating (issue : Issue)
  | inserting (issue : Issue) (left : List ApprovalRow)
  | validating (presented : Presented) (now : Nat)
  | consuming (presented : Presented) (now : Nat)
  | burning (presented : Presented) (now : Nat)
  | enrolling (enrollment : Enrollment)
  | listing (enrollment : Enrollment) (left : List EnrollmentRow)
  | redeeming (code token tokenId : String) (now : Nat)
  | claiming (code token tokenId : String) (now : Nat) (row : EnrollmentRow)
  | granting (code token : String) (agent : AgentTokenRow) (left : List EnrollmentRow)

structure Consumption where
  presented : Presented
  now : Nat

structure Redemption where
  code : String
  agent : AgentTokenRow

/-- The committed rows, the holder of the write lock and the phase of every caller, with what was
committed so far: approvals issued and consumed, codes drawn and redeemed. -/
structure World where
  approvals : List ApprovalRow := []
  enrollments : List EnrollmentRow := []
  agentTokens : List AgentTokenRow := []
  writer : Option Nat := none
  phases : Nat → Phase := fun _ => .returned none
  issues : List Issue := []
  consumed : List Consumption := []
  codes : List String := []
  redeemed : List Redemption := []

def World.goto (world : World) (caller : Nat) (phase : Phase) : World :=
  {world with phases := Function.update world.phases caller phase}

def World.finish (world : World) (caller : Nat) (result : Result) : World :=
  {world.goto caller (.returned (some result)) with writer := if world.writer = some caller then none else world.writer}

section
variable (hash lower upper : String → String)

/-- What a call does before its first statement, its clock reading included. -/
def Call.start (call : Call) (now : Nat) : Phase :=
  match call with
  | .createApproval request token => match request.bind lower with
    | .error message => .returned (some (.raised message))
    | .ok binding => .creating ⟨request,binding,token,now⟩
  | .validate presented => if presented.token = "" then .returned (some (.verdict false)) else .validating presented now
  | .consume presented => if presented.token = "" then .returned (some (.verdict false)) else .consuming presented now
  | .createEnrollment request code => match request.enroll code now with
    | .error message => .returned (some (.raised message))
    | .ok enrollment => .enrolling enrollment
  | .redeem code token tokenId =>
    if upper (strip code) = "" then .returned (some (.refused .invalid)) else .redeeming (upper (strip code)) token tokenId now

def burnApprovals (token : String) (now : Nat) : List ApprovalRow → List ApprovalRow :=
  OneShot.spend ApprovalRow.tokenHash (fun row => row.usedAt.isSome) (fun row => {row with usedAt := some now}) (hash token)

def claimEnrollments (code : String) (now : Nat) : List EnrollmentRow → List EnrollmentRow :=
  OneShot.spend EnrollmentRow.codeHash (fun row => row.usedAt.isSome) (fun row => {row with usedAt := some now}) (hash code)

def approvalHits (token : String) (rows : List ApprovalRow) : Nat :=
  OneShot.hits ApprovalRow.tokenHash (fun row => row.usedAt.isSome) (hash token) rows

def enrollmentHits (code : String) (rows : List EnrollmentRow) : Nat :=
  OneShot.hits EnrollmentRow.codeHash (fun row => row.usedAt.isSome) (hash code) rows

def World.go (world : World) (caller : Nat) : World :=
  match world.phases caller with
  | .returned _ => world
  | .creating issue =>
    if world.writer ≠ none then world
    else {world.goto caller (.inserting issue (purgeApprovals issue.now world.approvals)) with writer := some caller}
  | .inserting issue left =>
    if hash issue.token ∈ left.map ApprovalRow.tokenHash then
      world.finish caller (.raised "UNIQUE constraint failed: platform_approval_tokens.token_hash")
    else {world.finish caller (.token issue.token) with approvals := left++[issue.row hash],issues := world.issues++[issue]}
  | .validating presented now => world.finish caller (.verdict (presented.accepted hash now world.approvals))
  | .consuming presented now =>
    if presented.accepted hash now world.approvals then world.goto caller (.burning presented now)
    else world.finish caller (.verdict false)
  | .burning presented now =>
    if world.writer ≠ none then world
    else if approvalHits hash presented.token world.approvals = 1 then
      {world.finish caller (.verdict true) with
        approvals := burnApprovals hash presented.token now world.approvals
        consumed := world.consumed++[⟨presented,now⟩]}
    else {world.finish caller (.verdict false) with approvals := burnApprovals hash presented.token now world.approvals}
  | .enrolling enrollment =>
    if world.writer ≠ none then world
    else {world.goto caller (.listing enrollment (purgeEnrollments enrollment.now world.enrollments)) with writer := some caller}
  | .listing enrollment left => match enrollment.row hash with
    | .error message => world.finish caller (.raised message)
    | .ok row =>
      if row.codeHash ∈ left.map EnrollmentRow.codeHash then
        world.finish caller (.raised "UNIQUE constraint failed: platform_agent_enrollments.code_hash")
      else {world.finish caller (.token enrollment.code) with
        enrollments := left++[row],codes := world.codes++[enrollment.code]}
  | .redeeming code token tokenId now => match redeemable hash code now world.enrollments with
    | .error refusal => world.finish caller (.refused refusal)
    | .ok row => world.goto caller (.claiming code token tokenId now row)
  | .claiming code token tokenId now row =>
    if world.writer ≠ none then world
    else if enrollmentHits hash code world.enrollments ≠ 1 then
      {world.finish caller (.refused (.used now)) with enrollments := claimEnrollments hash code now world.enrollments}
    else {world.goto caller (.granting code token (row.grant hash token tokenId now) (claimEnrollments hash code now world.enrollments)) with
      writer := some caller}
  | .granting code token agent left =>
    if agent.id ∈ world.agentTokens.map AgentTokenRow.id ∨ agent.tokenHash ∈ world.agentTokens.map AgentTokenRow.tokenHash then
      world.finish caller (.raised "UNIQUE constraint failed: platform_agent_tokens")
    else {world.finish caller (.record (agent.record token)) with
      enrollments := left
      agentTokens := world.agentTokens++[agent]
      redeemed := world.redeemed++[⟨code,agent⟩]}

inductive Event where
  | invoke (caller : Nat) (call : Call) (now : Nat)
  | go (caller : Nat)
  | fail (caller : Nat) (message : String)

/-- A free caller starts a call, a caller runs its next statement, or a call ends with an exception or its process (a busy
timeout, an I/O error, a kill), which rolls its transaction back. -/
def World.apply (event : Event) (world : World) : World :=
  match event with
  | .invoke caller call now => match world.phases caller with
    | .returned _ => world.goto caller (call.start lower upper now)
    | _ => world
  | .go caller => world.go hash caller
  | .fail caller message => match world.phases caller with
    | .returned _ => world
    | _ => world.finish caller (.raised message)

end

end GmsRemoteTest.Auth
