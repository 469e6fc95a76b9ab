import GmsRemoteTest.Auth.TokenUses

/-! The gate before USB/IP connect, disconnect and automatic reconnect. It excludes by a scope text taken from the
request before that is resolved to a source host, and so keeps operations on one source apart as far as they name it
alike. `casefold` is `str.casefold` and `hash` the SHA-256 a lock file is named by. -/
namespace GmsRemoteTest.Devices
open Text

structure SourceConfig where
  usbipDeviceHost : String := ""
  deviceHost : String := ""
deriving DecidableEq

/-- What a connect or disconnect request is resolved by; an absent value is the empty text. `tunnel` is the
host of a request from the public origin, `display` the client's own `user@ip`, and `limited` whether the
user is no administrator. -/
structure SourceRequest where
  body : String := ""
  query : String := ""
  tunnel : String := ""
  display : String := ""
  limited : Bool := false
  config : SourceConfig := {}
deriving DecidableEq

/-- An operation that comes to the gate. A refused one passes it but ends before it acts on its source: no
access, a suppressed reconnect or no credentials. -/
inductive Invocation where
  | connect (request : SourceRequest) (refused : Bool)
  | disconnect (request : SourceRequest) (refused : Bool)
  | reconnect (deviceHost : String)
deriving DecidableEq

def resolveUsbipDeviceHost (request : SourceRequest) : String :=
  orElse request.tunnel (if request.limited then request.display
    else orElse request.config.usbipDeviceHost (orElse request.config.deviceHost request.display))

/-- The source host an operation acts on. A connect that names none needs a resolved `user@ip`. -/
def Invocation.source : Invocation → Option String
  | .connect request refused =>
    if refused then none
    else if request.body ≠ "" then some request.body
    else if request.tunnel ≠ "" then some request.tunnel
    else
      let host := resolveUsbipDeviceHost request
      if host = "" ∨ '@' ∉ host.toList then none else some host
  | .disconnect request refused =>
    if refused then none else some (orElse request.body (resolveUsbipDeviceHost request))
  | .reconnect deviceHost => some deviceHost

/-- The host an operation was sent with: in its body, else in its query, else none. -/
def Invocation.named : Invocation → String
  | .connect request _ | .disconnect request _ => orElse request.body request.query
  | .reconnect deviceHost => deviceHost

def Invocation.scope : Invocation → String
  | .connect request _ | .disconnect request _ => if request.body ≠ "" then request.body else orElse request.query "__default__"
  | .reconnect deviceHost => deviceHost

section
variable (casefold : String → String)

def normalizeScope (value : String) : String :=
  orElse (casefold (strip (orElse value "__default__"))) "__default__"

/-- Two operations are named alike: by the same host up to blanks around it and case, or by none. -/
def Invocation.NamedAlike (first second : Invocation) : Prop :=
  normalizeScope casefold first.named = normalizeScope casefold second.named

theorem normalizeScope_scope (invocation : Invocation) : normalizeScope casefold invocation.scope = normalizeScope casefold invocation.named := by
  have request : ∀ body query : String,
      normalizeScope casefold (if body ≠ "" then body else orElse query "__default__") = normalizeScope casefold (orElse body query) := by
    intro body query
    by_cases noBody : body = ""
    · by_cases noQuery : query = ""
      · simp [noBody,noQuery,normalizeScope,orElse]
      · simp [noBody,noQuery,orElse]
    · simp [noBody,orElse]
  cases invocation with
  | connect sent refused => exact request sent.body sent.query
  | disconnect sent refused => exact request sent.body sent.query
  | reconnect deviceHost => rfl

end

/-- `_active` and `_descriptors` of every process, and the process that has locked a lock file. -/
structure Gate where
  active : Nat → String → Bool := fun _ _ => false
  flocks : String → Option Nat := fun _ => none

section
variable (hash : String → String)

def Gate.tryAcquire (gate : Gate) (process : Nat) (key : String) : Option Gate :=
  if gate.active process key then none
  else if (gate.flocks (hash key)).isSome then none
  else some
    {active := Function.update gate.active process (Function.update (gate.active process) key true)
     flocks := Function.update gate.flocks (hash key) (some process)}

def Gate.release (gate : Gate) (process : Nat) (key : String) : Gate where
  active := Function.update gate.active process (Function.update (gate.active process) key false)
  flocks := if gate.active process key then Function.update gate.flocks (hash key) none else gate.flocks

def Gate.drop (gate : Gate) (process : Nat) : Gate where
  active := Function.update gate.active process fun _ => false
  flocks := fun file => if gate.flocks file = some process then none else gate.flocks file

structure Acting where
  process : Nat
  invocation : Invocation
deriving DecidableEq

structure Operations where
  gate : Gate := {}
  acting : List Acting := []

inductive GateStep where
  | enter (process : Nat) (invocation : Invocation)
  | leave (index : Nat)
  | die (process : Nat)

variable (casefold : String → String)

/-- An operation enters or is told to come back later, one of those past the gate ends, or a process dies. -/
def Operations.apply (step : GateStep) (operations : Operations) : Operations :=
  match step with
  | .enter process invocation =>
    match operations.gate.tryAcquire hash process (normalizeScope casefold invocation.scope) with
    | none => operations
    | some gate => {gate,acting := operations.acting++[⟨process,invocation⟩]}
  | .leave index => match operations.acting[index]? with
    | none => operations
    | some acting =>
      {gate := operations.gate.release hash acting.process (normalizeScope casefold acting.invocation.scope)
       acting := operations.acting.eraseIdx index}
  | .die process =>
    {gate := operations.gate.drop process,acting := operations.acting.filter fun acting => acting.process ≠ process}

def Acting.file (acting : Acting) : String := hash (normalizeScope casefold acting.invocation.scope)

/-- No two operations past the gate act on one source host. -/
def OnePerSource (operations : Operations) : Prop :=
  operations.acting.Pairwise fun first second => ∀ host, first.invocation.source = some host → second.invocation.source ≠ some host

structure Guarded (operations : Operations) : Prop where
  held : ∀ acting ∈ operations.acting, operations.gate.flocks (acting.file hash casefold) = some acting.process
  apart : operations.acting.Pairwise fun first second => first.file hash casefold ≠ second.file hash casefold

end

section
variable {hash casefold : String → String} {operations : Operations}

section
variable (guarded : Guarded hash casefold operations)
include guarded

theorem Guarded.enter {process : Nat} {invocation : Invocation} {gate : Gate}
    (acquired : operations.gate.tryAcquire hash process (normalizeScope casefold invocation.scope) = some gate) :
    Guarded hash casefold {gate,acting := operations.acting++[⟨process,invocation⟩]} := by
  unfold Gate.tryAcquire at acquired
  split at acquired
  · cases acquired
  · split at acquired
    · cases acquired
    · rename_i free
      cases acquired
      have unlocked : ∀ acting ∈ operations.acting, acting.file hash casefold ≠ hash (normalizeScope casefold invocation.scope) := by
        intro acting member same
        have holds := guarded.held acting member
        rw [same] at holds
        simp [holds] at free
      constructor
      · intro acting member
        rcases List.mem_append.mp member with old | new
        · have elsewhere : Function.update operations.gate.flocks (hash (normalizeScope casefold invocation.scope)) (some process)
              (acting.file hash casefold) = operations.gate.flocks (acting.file hash casefold) :=
            Function.update_of_ne (unlocked acting old) _ _
          exact elsewhere.trans (guarded.held acting old)
        · rw [List.mem_singleton.mp new]
          exact Function.update_self ..
      · rw [List.pairwise_append]
        refine ⟨guarded.apart,List.pairwise_singleton ..,?_⟩
        intro acting old last new
        rw [List.mem_singleton.mp new]
        exact unlocked acting old

theorem Guarded.leave {index : Nat} {acting : Acting}
    (found : operations.acting[index]? = some acting) : Guarded hash casefold
      {gate := operations.gate.release hash acting.process (normalizeScope casefold acting.invocation.scope)
       acting := operations.acting.eraseIdx index} := by
  obtain ⟨bound,rfl⟩ := List.getElem?_eq_some_iff.mp found
  constructor
  · intro other member
    obtain ⟨position,different,listed⟩ := List.mem_eraseIdx_iff_getElem?.mp member
    obtain ⟨inside,rfl⟩ := List.getElem?_eq_some_iff.mp listed
    have holds := guarded.held _ (List.getElem_mem inside)
    have apart : operations.acting[position].file hash casefold ≠ operations.acting[index].file hash casefold := by
      rcases Nat.lt_or_gt_of_ne different with before | after
      · exact List.pairwise_iff_getElem.mp guarded.apart position index inside bound before
      · exact (List.pairwise_iff_getElem.mp guarded.apart index position bound inside after).symm
    unfold Gate.release
    dsimp only
    split
    · exact (Function.update_of_ne apart ..).trans holds
    · exact holds
  · exact guarded.apart.sublist (List.eraseIdx_sublist ..)

theorem Guarded.die (process : Nat) : Guarded hash casefold
    {gate := operations.gate.drop process,acting := operations.acting.filter fun acting => acting.process ≠ process} := by
  constructor
  · intro acting member
    obtain ⟨listed,elsewhere⟩ := List.mem_filter.mp member
    have holds := guarded.held acting listed
    have other : ¬ some acting.process = some process := by simpa using elsewhere
    simp only [Gate.drop,holds,if_neg other]
  · exact guarded.apart.sublist (List.filter_sublist ..)

theorem Guarded.apply (step : GateStep) :
    Guarded hash casefold (operations.apply hash casefold step) := by
  cases step with
  | enter process invocation =>
    dsimp only [Operations.apply]
    split
    · exact guarded
    · rename_i acquired
      exact guarded.enter acquired
  | leave index =>
    dsimp only [Operations.apply]
    split
    · exact guarded
    · rename_i found
      exact guarded.leave found
  | die process => exact guarded.die process

end

end

/-- A run in which only operations of a kind come to the gate. -/
def Offers (offered : Invocation → Prop) (_ : Operations) : GateStep → Prop
  | .enter _ invocation => offered invocation
  | _ => True

section
variable {hash casefold : String → String} {offered : Invocation → Prop} {operations : Operations}

section
variable (reached : Runs.Reached (Operations.apply hash casefold) (Offers offered) {} operations)
include reached

theorem acting_offered :
    ∀ acting ∈ operations.acting, offered acting.invocation := by
  refine reached.invariant (fun operations => ∀ acting ∈ operations.acting, offered acting.invocation)
    (fun _ member => (List.not_mem_nil member).elim) ?_
  intro before step known allowed acting member
  cases step with
  | enter process invocation =>
    dsimp only [Operations.apply] at member
    split at member
    · exact known acting member
    · rcases List.mem_append.mp member with old | new
      · exact known acting old
      · rw [List.mem_singleton.mp new]
        exact allowed
  | leave index =>
    dsimp only [Operations.apply] at member
    split at member
    · exact known acting member
    · exact known acting (List.mem_of_mem_eraseIdx member)
  | die process => exact known acting (List.mem_filter.mp member).1

theorem guarded_reached :
    Guarded hash casefold operations :=
  reached.invariant (Guarded hash casefold) ⟨fun _ member => (List.not_mem_nil member).elim,.nil⟩
    fun _ step guarded _ => guarded.apply step

end

theorem enter_both {first second : Invocation} (offersFirst : offered first) (offersSecond : offered second)
    (apart : hash (normalizeScope casefold first.scope) ≠ hash (normalizeScope casefold second.scope)) :
    ∃ operations, Runs.Reached (Operations.apply hash casefold) (Offers offered) {} operations ∧
      operations.acting = [⟨0,first⟩,⟨1,second⟩] := by
  have entered : Runs.Reached (Operations.apply hash casefold) (Offers offered) {} (Operations.apply hash casefold (.enter 0 first) {}) :=
    Runs.Reached.start.step (GateStep.enter 0 first) offersFirst
  refine ⟨_,entered.step (.enter 1 second) offersSecond,?_⟩
  have free : ((Function.update (fun _ : String => (none : Option Nat)) (hash (normalizeScope casefold first.scope)) (some 0))
      (hash (normalizeScope casefold second.scope))).isSome = false := by
    rw [Function.update_of_ne apart.symm]
    rfl
  simp [Operations.apply,Gate.tryAcquire,free]

end

def defaultConnect : Invocation := .connect {config := {usbipDeviceHost := "gms@192.168.1.100"}} false

def defaultReconnect : Invocation := .reconnect "gms@192.168.1.100"

def scopeDigests : List (String × String) :=
  [("gms@192.168.1.100","79b6d932b431115517e9ee5e0074d1ef68c61139f1ed54f63dd07e67fc12ec60"),
   ("__default__","2f2d9de35f25e2c181e0595e6a7c0d707922fa20b522f67635d2359c19f66f75")]

def namedConnect : Invocation := .connect {body := "gms@192.168.1.100"} false

/-- Whatever enters, ends or dies: no two operations past the gate are named alike, and each has the lock of its file. -/
theorem named_apart (hash casefold : String → String) (steps : List GateStep) :
    let operations := Runs.exec (Operations.apply hash casefold) {} steps
    (operations.acting.Pairwise fun first second => ¬first.invocation.NamedAlike casefold second.invocation) ∧
      ∀ acting ∈ operations.acting, operations.gate.flocks (acting.file hash casefold) = some acting.process := by
  have guarded := @Runs.exec_invariant _ _ (Operations.apply hash casefold) (Guarded hash casefold)
    (fun _ step guarded => guarded.apply step) {} ⟨fun _ member => (List.not_mem_nil member).elim,.nil⟩ steps
  refine ⟨guarded.apart.imp fun apart alike => apart ?_,guarded.held⟩
  unfold Invocation.NamedAlike at alike
  rw [← normalizeScope_scope,← normalizeScope_scope] at alike
  exact congrArg hash alike

end GmsRemoteTest.Devices
