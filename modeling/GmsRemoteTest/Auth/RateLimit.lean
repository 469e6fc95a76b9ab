import Mathlib.Order.MinMax
import GmsRemoteTest.Foundation.Text
import GmsRemoteTest.Lib.FixedWindow

/-! The limiter of credential attempts. Times are microseconds: the texts of the table are ordered as the times, and a row is known by
its key. -/
namespace GmsRemoteTest.Auth.RateLimit
open Text Runs FixedWindow

structure Config where
  AUTH_FAILURE_WINDOW_MINUTES : Int
  AUTH_BLOCK_MINUTES : Int
  AUTH_MAX_ACCOUNT_IP_FAILURES : Int
  AUTH_MAX_IP_FAILURES : Int

def minutes (count : Int) : Int := count * 60000000

/-- The functions of texts that the keys are made with: `sha256(..).hexdigest()`, `casefold` and `lower`. -/
structure Texts where
  digest : String → String
  casefold : String → String
  lower : String → String

inductive Purpose
  | login
  | elevate
  | agentEnroll

def Purpose.text : Purpose → String
  | login => "login"
  | elevate => "elevate"
  | agentEnroll => "agent-enroll"

structure Row where
  failedCount : Nat
  windowStartedAt : Int
  blockedUntil : Option Int
  updatedAt : Int

abbrev AttemptTable := String → Option Row

section
variable (config : Config) (texts : Texts)

def accountKey (purpose : Purpose) (username sourceIp : String) : String :=
  let normalizedUser := texts.casefold (strip username)
  let normalizedIp := texts.lower (strip (orElse sourceIp "unknown"))
  texts.digest (purpose.text ++ ":account_ip:" ++ (normalizedUser ++ "@" ++ normalizedIp))

def ipKey (purpose : Purpose) (sourceIp : String) : String :=
  texts.digest (purpose.text ++ ":ip:" ++ texts.lower (strip (orElse sourceIp "unknown")))

def authAttemptKeys (purpose : Purpose) (username sourceIp : String) : List (String × Int) :=
  [(accountKey texts purpose username sourceIp,config.AUTH_MAX_ACCOUNT_IP_FAILURES),(ipKey texts purpose sourceIp,config.AUTH_MAX_IP_FAILURES)]

def authRetryAfter (purpose : Purpose) (username sourceIp : String) (table : AttemptTable) (now : Int) : Int :=
  let limits := (authAttemptKeys config texts purpose username sourceIp).filterMap fun entry => (table entry.1).bind (·.blockedUntil)
  let retryAfter := limits.foldl (fun retryAfter limit => max retryAfter ((limit - now + 999999) / 1000000)) 0
  max retryAfter 0

def counted (now : Int) (table : AttemptTable) (entry : String × Int) : AttemptTable :=
  let row := table entry.1
  let window := match row with
    | none => (1,now)
    | some row => if now - minutes config.AUTH_FAILURE_WINDOW_MINUTES < row.windowStartedAt then (row.failedCount + 1,row.windowStartedAt) else (1,now)
  let nextBlockedUntil := if max 1 entry.2 ≤ window.1 then some (now + minutes config.AUTH_BLOCK_MINUTES) else row.bind (·.blockedUntil)
  Function.update table entry.1 (some ⟨window.1,window.2,nextBlockedUntil,now⟩)

def Stale (now : Int) (row : Row) : Prop :=
  row.updatedAt < now - minutes config.AUTH_FAILURE_WINDOW_MINUTES ∧ ∀ limit ∈ row.blockedUntil, limit < now

instance (now : Int) : DecidablePred (Stale config now) := fun row =>
  inferInstanceAs (Decidable (_ ∧ ∀ limit ∈ row.blockedUntil, limit < now))

def recordAuthFailure (purpose : Purpose) (username sourceIp : String) (table : AttemptTable) (now : Int) : AttemptTable :=
  let recorded := (authAttemptKeys config texts purpose username sourceIp).foldl (counted config now) table
  fun key => (recorded key).filter fun row => ¬Stale config now row

def clearAuthFailures (purpose : Purpose) (username sourceIp : String) (table : AttemptTable) : AttemptTable :=
  Function.update table (accountKey texts purpose username sourceIp) none

end

/-- An attempt: `auth_retry_after` is asked, the credentials are checked, and the outcome is recorded. -/
structure Attempt where
  purpose : Purpose
  username : String
  sourceIp : String
  checkedAt : Int
  recordedAt : Int
  succeeded : Bool

structure Limiter where
  clock : Int
  table : AttemptTable

def Limiter.start (clock : Int) : Limiter := ⟨clock,fun _ => none⟩

section
variable (config : Config) (texts : Texts)

def step (limiter : Limiter) (attempt : Attempt) : Limiter :=
  ⟨attempt.recordedAt,
    if attempt.succeeded then clearAuthFailures texts attempt.purpose attempt.username attempt.sourceIp limiter.table
    else recordAuthFailure config texts attempt.purpose attempt.username attempt.sourceIp limiter.table attempt.recordedAt⟩

/-- The clock does not go back, and an attempt that fails was allowed. -/
def Permitted (limiter : Limiter) (attempt : Attempt) : Prop :=
  limiter.clock ≤ attempt.checkedAt ∧ attempt.checkedAt ≤ attempt.recordedAt ∧
    (attempt.succeeded = false →
      authRetryAfter config texts attempt.purpose attempt.username attempt.sourceIp limiter.table attempt.checkedAt = 0)

instance (limiter : Limiter) (attempt : Attempt) : Decidable (Permitted config texts limiter attempt) :=
  inferInstanceAs (Decidable (_ ∧ _ ∧ (_ → _)))

def Attempt.entries (attempt : Attempt) : List (String × Int) := authAttemptKeys config texts attempt.purpose attempt.username attempt.sourceIp

/-- A failure that is counted under the key. -/
def Attempt.Fails (entry : String × Int) (attempt : Attempt) : Prop := attempt.succeeded = false ∧ entry ∈ attempt.entries config texts

instance (entry : String × Int) : DecidablePred (Attempt.Fails config texts entry) := fun _ => inferInstanceAs (Decidable (_ ∧ _))

/-- The account of the key authenticates successfully from its address. -/
def Attempt.Clears (entry : String × Int) (attempt : Attempt) : Prop :=
  attempt.succeeded = true ∧ accountKey texts attempt.purpose attempt.username attempt.sourceIp = entry.1

instance (entry : String × Int) : DecidablePred (Attempt.Clears texts entry) := fun _ => inferInstanceAs (Decidable (_ ∧ _))

/-- No digest is that of an account and of an address. -/
def Apart (attempts : List Attempt) : Prop :=
  ∀ first ∈ attempts, ∀ second ∈ attempts,
    accountKey texts first.purpose first.username first.sourceIp ≠ ipKey texts second.purpose second.sourceIp

def limits (entry : String × Int) : Limits :=
  ⟨minutes config.AUTH_FAILURE_WINDOW_MINUTES,minutes config.AUTH_BLOCK_MINUTES,(max 1 entry.2).toNat⟩

def Attempt.event (entry : String × Int) (attempt : Attempt) : List FixedWindow.Event :=
  if attempt.Fails config texts entry then [.failure attempt.checkedAt attempt.recordedAt]
  else if attempt.Clears texts entry then [.cleared,.passed attempt.recordedAt]
  else [.passed attempt.recordedAt]

def tally (entry : String × Int) (clock : Int) (attempts : List Attempt) : FixedWindow.State :=
  exec (FixedWindow.apply (limits config entry)) ⟨clock,none⟩ (attempts.flatMap (Attempt.event config texts entry))

def windowFailures (entry : String × Int) (clock : Int) (attempts : List Attempt) : Nat :=
  (tally config texts entry clock attempts).counter.elim 0 (·.count)

end

def Blocks (row : Option Row) (time : Int) : Prop := ∃ known ∈ row, ∃ limit ∈ known.blockedUntil, time < limit

inductive Agrees (window clock : Int) : Option Row → Option Counter → Prop
  | absent : Agrees window clock none none
  | deleted (counter : Counter) (past : counter.startedAt ≤ clock - window) (free : ∀ limit ∈ counter.blockedUntil, limit ≤ clock) :
      Agrees window clock none (some counter)
  | kept (row : Row) (counter : Counter) (count : counter.count = row.failedCount) (started : counter.startedAt = row.windowStartedAt)
      (order : row.windowStartedAt ≤ row.updatedAt) (updated : row.updatedAt ≤ clock)
      (blocks : ∀ time, clock ≤ time → (Blocks (some row) time ↔ Blocked (some counter) time)) :
      Agrees window clock (some row) (some counter)

section
variable {config : Config} {texts : Texts} {window clock now : Int} {row : Option Row} {counter : Option Counter} {table : AttemptTable}

@[simp] theorem blocks_none {time : Int} : ¬Blocks none time := by
  simp [Blocks]

@[simp] theorem blocks_some {row : Row} {time : Int} : Blocks (some row) time ↔ ∃ limit ∈ row.blockedUntil, time < limit := by
  simp [Blocks]

theorem Agrees.blocks (agrees : Agrees window clock row counter) {time : Int} (later : clock ≤ time) :
    Blocks row time ↔ Blocked counter time := by
  cases agrees with
  | absent => simp
  | deleted counter past free =>
    rw [blocked_some]
    refine ⟨fun none => absurd none blocks_none,?_⟩
    rintro ⟨limit,blocks,ahead⟩
    have past := free limit blocks
    omega
  | kept row counter count started order updated blocks => exact blocks time later

theorem Agrees.passed (agrees : Agrees window clock row counter) {later : Int} (after : clock ≤ later) : Agrees window later row counter := by
  cases agrees with
  | absent => exact .absent
  | deleted counter past free =>
    refine .deleted counter (by omega) fun limit blocks => ?_
    have past := free limit blocks
    omega
  | kept row counter count started order updated blocks =>
    exact .kept row counter count started order (by omega) fun time following => blocks time (by omega)

theorem counted_other {entry : String × Int} {key : String} (other : key ≠ entry.1) : counted config now table entry key = table key :=
  Function.update_of_ne other ..

theorem Agrees.counted {entry : String × Int} (agrees : Agrees (minutes config.AUTH_FAILURE_WINDOW_MINUTES) clock (table entry.1) counter)
    (later : clock ≤ now) : Agrees (minutes config.AUTH_FAILURE_WINDOW_MINUTES) now (counted config now table entry entry.1)
      (some (failed (limits config entry) counter now)) := by
  have full : ∀ count : Nat, (limits config entry).threshold ≤ count ↔ max 1 entry.2 ≤ count := fun count => by
    show (max 1 entry.2).toNat ≤ count ↔ _
    omega
  unfold RateLimit.counted
  rw [Function.update_self]
  generalize table entry.1 = row at agrees
  cases agrees with
  | absent =>
    refine .kept _ _ rfl rfl (Int.le_refl _) (Int.le_refl _) fun time _ => ?_
    rw [blocks_some,blocked_some]
    simp only [failed,opened,full]
    rfl
  | deleted counter past free =>
    have opens : ¬Continues (limits config entry) counter now := by
      show ¬now - minutes config.AUTH_FAILURE_WINDOW_MINUTES < counter.startedAt
      omega
    have first : opened (limits config entry) (some counter) now = (1,now) := if_neg opens
    refine .kept _ _ (congrArg Prod.fst first) (congrArg Prod.snd first) (Int.le_refl _) (Int.le_refl _) fun time after => ?_
    rw [blocks_some,blocked_some]
    simp only [failed,first,full]
    by_cases fills : max 1 entry.2 ≤ ((1 : Nat) : Int)
    · rw [if_pos fills,if_pos fills]
      rfl
    · rw [if_neg fills,if_neg fills]
      simp only [Option.bind_none,Option.not_mem_none,false_and,exists_false,false_iff,not_exists,not_and]
      intro limit ends
      have past := free limit ends
      omega
  | kept row counter count started order updated blocks =>
    obtain ⟨total,since,limit⟩ := counter
    cases count
    cases started
    have same : opened (limits config entry) (some ⟨row.failedCount,row.windowStartedAt,limit⟩) now =
      if now - minutes config.AUTH_FAILURE_WINDOW_MINUTES < row.windowStartedAt then (row.failedCount + 1,row.windowStartedAt) else (1,now) := rfl
    refine .kept _ _ (congrArg Prod.fst same) (congrArg Prod.snd same) ?_ (Int.le_refl _) fun time after => ?_
    · dsimp only
      split
      · exact Int.le_trans order (Int.le_trans updated later)
      · exact Int.le_refl _
    · rw [blocks_some,blocked_some]
      simp only [failed,same,full]
      by_cases fills : max 1 entry.2 ≤ (((if now - minutes config.AUTH_FAILURE_WINDOW_MINUTES < row.windowStartedAt then
          (row.failedCount + 1,row.windowStartedAt) else (1,now)).1 : Nat) : Int)
      · rw [if_pos fills,if_pos fills]
        rfl
      · rw [if_neg fills,if_neg fills]
        exact (blocks_some.symm.trans (blocks time (by omega))).trans blocked_some

theorem Agrees.filter (agrees : Agrees (minutes config.AUTH_FAILURE_WINDOW_MINUTES) now row counter) :
    Agrees (minutes config.AUTH_FAILURE_WINDOW_MINUTES) now (row.filter fun row => ¬Stale config now row) counter := by
  cases agrees with
  | absent => exact .absent
  | deleted counter past free => exact .deleted counter past free
  | kept row counter count started order updated blocks =>
    by_cases stale : Stale config now row
    · rw [Option.filter_some_neg (by simpa using stale)]
      refine .deleted counter (by have := stale.1; omega) fun limit ends => ?_
      by_contra ahead
      obtain ⟨known,held,before⟩ := blocks_some.mp ((blocks now (Int.le_refl _)).mpr (blocked_some.mpr ⟨limit,ends,by omega⟩))
      have past := stale.2 known held
      omega
    · rw [Option.filter_some_pos (by simpa using stale)]
      exact .kept row counter count started order updated blocks

theorem foldl_max_pos {limits : List Int} {start : Int} :
    0 < limits.foldl (fun retryAfter limit => max retryAfter ((limit - now + 999999) / 1000000)) start ↔
      0 < start ∨ ∃ limit ∈ limits, now < limit := by
  induction limits generalizing start with
  | nil => simp
  | cons limit limits ih =>
    rw [List.foldl_cons,ih,List.exists_mem_cons_iff]
    have rounded : 0 < (limit - now + 999999) / 1000000 ↔ now < limit := by omega
    rw [lt_max_iff,rounded,or_assoc]

theorem authRetryAfter_pos {purpose : Purpose} {username sourceIp : String} :
    0 < authRetryAfter config texts purpose username sourceIp table now ↔
      ∃ entry ∈ authAttemptKeys config texts purpose username sourceIp, Blocks (table entry.1) now := by
  unfold authRetryAfter
  dsimp only
  rw [lt_max_iff,foldl_max_pos]
  simp only [lt_irrefl,false_or,or_false,List.mem_filterMap,Blocks]
  constructor
  · rintro ⟨limit,⟨entry,member,found⟩,ahead⟩
    obtain ⟨row,known,blocks⟩ := Option.bind_eq_some_iff.mp found
    exact ⟨entry,member,row,known,limit,blocks,ahead⟩
  · rintro ⟨entry,member,row,known,limit,blocks,ahead⟩
    exact ⟨limit,⟨entry,member,Option.bind_eq_some_iff.mpr ⟨row,known,blocks⟩⟩,ahead⟩

section
variable {limiter : Limiter} {attempt : Attempt} {entry : String × Int}

/-- The two keys of an attempt differ, and only the entry itself has its key. -/
structure Keyed (config : Config) (texts : Texts) (entry : String × Int) (attempt : Attempt) : Prop where
  apart : accountKey texts attempt.purpose attempt.username attempt.sourceIp ≠ ipKey texts attempt.purpose attempt.sourceIp
  own : ∀ other ∈ attempt.entries config texts, other.1 = entry.1 → other = entry

section
variable (keyed : Keyed config texts entry attempt)
include keyed

theorem Keyed.fails (member : entry ∈ attempt.entries config texts)
    (agrees : Agrees (minutes config.AUTH_FAILURE_WINDOW_MINUTES) clock (table entry.1) counter) (later : clock ≤ now) :
    Agrees (minutes config.AUTH_FAILURE_WINDOW_MINUTES) now
      (recordAuthFailure config texts attempt.purpose attempt.username attempt.sourceIp table now entry.1)
      (some (failed (limits config entry) counter now)) := by
  refine Agrees.filter ?_
  rw [authAttemptKeys,List.foldl_cons,List.foldl_cons,List.foldl_nil]
  rcases List.mem_cons.mp member with account | address
  · rw [account] at agrees ⊢
    rw [counted_other keyed.apart]
    exact agrees.counted later
  · rw [List.mem_singleton.mp address] at agrees ⊢
    refine Agrees.counted ?_ later
    rw [counted_other keyed.apart.symm]
    exact agrees

theorem Keyed.others (other : entry ∉ attempt.entries config texts)
    (agrees : Agrees (minutes config.AUTH_FAILURE_WINDOW_MINUTES) clock (table entry.1) counter) (later : clock ≤ now) :
    Agrees (minutes config.AUTH_FAILURE_WINDOW_MINUTES) now
      (recordAuthFailure config texts attempt.purpose attempt.username attempt.sourceIp table now entry.1) counter := by
  have different : ∀ known ∈ attempt.entries config texts, entry.1 ≠ known.1 := fun known member same =>
    other (keyed.own known member same.symm ▸ member)
  refine Agrees.filter ?_
  rw [authAttemptKeys,List.foldl_cons,List.foldl_cons,List.foldl_nil,
    counted_other (different _ (List.mem_cons_of_mem _ (List.mem_cons_self ..))),counted_other (different _ (List.mem_cons_self ..))]
  exact agrees.passed later

theorem step_agrees (permitted : Permitted config texts limiter attempt)
    (agrees : Agrees (minutes config.AUTH_FAILURE_WINDOW_MINUTES) limiter.clock (limiter.table entry.1) counter) :
    ∃ later, exec (FixedWindow.apply (limits config entry)) ⟨limiter.clock,counter⟩ (attempt.event config texts entry) =
        ⟨attempt.recordedAt,later⟩ ∧
      Along (fun state event => FixedWindow.apply (limits config entry) event state) Admitted ⟨limiter.clock,counter⟩
        (attempt.event config texts entry) ∧
      Agrees (minutes config.AUTH_FAILURE_WINDOW_MINUTES) attempt.recordedAt ((step config texts limiter attempt).table entry.1) later := by
  obtain ⟨after,recorded,free⟩ := permitted
  have forward : limiter.clock ≤ attempt.recordedAt := Int.le_trans after recorded
  unfold Attempt.event step
  by_cases fails : attempt.Fails config texts entry
  · rw [if_pos fails]
    have open_ : ¬Blocked counter attempt.checkedAt := fun blocked => by
      have waits := authRetryAfter_pos.mpr ⟨entry,fails.2,(agrees.blocks after).mpr blocked⟩
      rw [free fails.1] at waits
      exact absurd waits (Int.lt_irrefl 0)
    refine ⟨_,rfl,⟨⟨after,recorded,open_⟩,trivial⟩,?_⟩
    simpa only [fails.1,Bool.false_eq_true,if_false] using keyed.fails fails.2 agrees forward
  · rw [if_neg fails]
    by_cases clears : attempt.Clears texts entry
    · rw [if_pos clears]
      refine ⟨none,rfl,⟨trivial,forward,trivial⟩,?_⟩
      rw [clears.1,← clears.2]
      simpa [clearAuthFailures] using Agrees.absent
    · rw [if_neg clears]
      refine ⟨counter,rfl,⟨forward,trivial⟩,?_⟩
      cases outcome : attempt.succeeded with
      | true =>
        have other : entry.1 ≠ accountKey texts attempt.purpose attempt.username attempt.sourceIp := fun same => clears ⟨outcome,same.symm⟩
        simpa [clearAuthFailures,other] using agrees.passed forward
      | false => exact keyed.others (fun member => fails ⟨outcome,member⟩) agrees forward

end

theorem Apart.keyed {history : List Attempt} (apart : Apart texts history) {known : Attempt} (first : known ∈ history)
    (own : entry ∈ known.entries config texts) (second : attempt ∈ history) : Keyed config texts entry attempt := by
  refine ⟨apart attempt second attempt second,fun other member same => ?_⟩
  unfold Attempt.entries authAttemptKeys at own member
  rcases List.mem_cons.mp own with rfl | address <;> rcases List.mem_cons.mp member with rfl | ip
  · exact Prod.ext same rfl
  · rw [List.mem_singleton.mp ip] at same
    exact absurd same.symm (apart known first attempt second)
  · rw [List.mem_singleton.mp address] at same
    exact absurd same (apart attempt second known first)
  · rw [List.mem_singleton.mp address] at same ⊢
    rw [List.mem_singleton.mp ip] at same ⊢
    exact Prod.ext same rfl

theorem run_agrees {attempts : List Attempt} (keyed : ∀ attempt ∈ attempts, Keyed config texts entry attempt)
    (permitted : Along (step config texts) (Permitted config texts) limiter attempts)
    (agrees : Agrees (minutes config.AUTH_FAILURE_WINDOW_MINUTES) limiter.clock (limiter.table entry.1) counter) :
    ∃ later, exec (FixedWindow.apply (limits config entry)) ⟨limiter.clock,counter⟩ (attempts.flatMap (Attempt.event config texts entry)) =
        ⟨(attempts.foldl (step config texts) limiter).clock,later⟩ ∧
      Along (fun state event => FixedWindow.apply (limits config entry) event state) Admitted ⟨limiter.clock,counter⟩
        (attempts.flatMap (Attempt.event config texts entry)) ∧
      Agrees (minutes config.AUTH_FAILURE_WINDOW_MINUTES) (attempts.foldl (step config texts) limiter).clock
        ((attempts.foldl (step config texts) limiter).table entry.1) later := by
  induction attempts generalizing limiter counter with
  | nil => exact ⟨counter,rfl,trivial,agrees⟩
  | cons attempt attempts ih =>
    obtain ⟨next,moves,admitted,fits⟩ := step_agrees (keyed attempt (List.mem_cons_self ..)) permitted.1 agrees
    obtain ⟨later,ends,allowed,agree⟩ := ih (fun other member => keyed other (List.mem_cons_of_mem _ member)) permitted.2 fits
    refine ⟨later,?_,?_,agree⟩
    · rw [List.flatMap_cons,exec_append,moves]
      exact ends
    · rw [List.flatMap_cons,along_append]
      refine ⟨admitted,?_⟩
      have after := moves
      unfold exec at after
      rw [after]
      exact allowed

theorem event_keeps {attempts : List Attempt} (keeps : ∀ attempt ∈ attempts, ¬attempt.Clears texts entry) :
    ∀ event ∈ attempts.flatMap (Attempt.event config texts entry), event.Keeps := by
  intro event listed
  obtain ⟨attempt,member,own⟩ := List.mem_flatMap.mp listed
  unfold Attempt.event at own
  rw [if_neg (keeps attempt member)] at own
  split at own <;> rw [List.mem_singleton.mp own] <;> trivial

theorem event_within {attempts : List Attempt} {start : Int} (within : ∀ attempt ∈ attempts, attempt.Fails config texts entry →
      start ≤ attempt.checkedAt ∧ attempt.checkedAt < start + minutes config.AUTH_FAILURE_WINDOW_MINUTES) :
    ∀ event ∈ attempts.flatMap (Attempt.event config texts entry), event.Within start (limits config entry).window := by
  intro event listed
  obtain ⟨attempt,member,own⟩ := List.mem_flatMap.mp listed
  unfold Attempt.event at own
  split at own
  next fails =>
    rw [List.mem_singleton.mp own]
    exact within attempt member fails
  next =>
    split at own
    next =>
      rcases List.mem_cons.mp own with rfl | passed
      · trivial
      · rw [List.mem_singleton.mp passed]
        trivial
    next =>
      rw [List.mem_singleton.mp own]
      trivial

theorem filled {earlier : List Attempt} (fails : attempt.Fails config texts entry)
    (full : max 1 entry.2 ≤ windowFailures config texts entry clock (earlier++[attempt])) {last : Int}
    (moves : exec (FixedWindow.apply (limits config entry)) ⟨clock,none⟩ ((earlier++[attempt]).flatMap (Attempt.event config texts entry)) =
      ⟨last,counter⟩) : Held counter (attempt.recordedAt + minutes config.AUTH_BLOCK_MINUTES) := by
  have counted : max 1 entry.2 ≤ ((counter.elim 0 (·.count) : Nat) : Int) := by
    unfold windowFailures tally at full
    rwa [moves] at full
  have event : attempt.event config texts entry = [.failure attempt.checkedAt attempt.recordedAt] := if_pos fails
  rw [List.flatMap_append,exec_append,List.flatMap_singleton,event] at moves
  generalize exec (FixedWindow.apply (limits config entry)) ⟨clock,none⟩ (earlier.flatMap (Attempt.event config texts entry)) = before at moves
  have after : some (failed (limits config entry) before.counter attempt.recordedAt) = counter := congrArg FixedWindow.State.counter moves
  rw [← after] at counted ⊢
  refine failed_held ?_
  show (max 1 entry.2).toNat ≤ _
  have enough : max 1 entry.2 ≤ ((failed (limits config entry) before.counter attempt.recordedAt).count : Int) := counted
  omega

theorem failures_events (attempts : List Attempt) :
    failures (attempts.flatMap (Attempt.event config texts entry)) = (attempts.filter fun attempt => attempt.Fails config texts entry).length := by
  induction attempts with
  | nil => rfl
  | cons attempt attempts ih =>
    unfold failures at ih ⊢
    rw [List.flatMap_cons,List.countP_append,ih]
    unfold Attempt.event
    by_cases fails : attempt.Fails config texts entry
    · simp [fails,Event.fails,Nat.add_comm]
    · by_cases clears : attempt.Clears texts entry <;> simp [fails,clears,Event.fails]

theorem Along.pieces {first second third : List Attempt}
    (permitted : Along (step config texts) (Permitted config texts) limiter (first++second++third)) :
    Along (step config texts) (Permitted config texts) limiter first ∧
      Along (step config texts) (Permitted config texts) (first.foldl (step config texts) limiter) second ∧
      Along (step config texts) (Permitted config texts) ((first++second).foldl (step config texts) limiter) third := by
  rw [along_append,along_append] at permitted
  exact ⟨permitted.1.1,permitted.1.2,permitted.2⟩

theorem threshold_pos : 0 < (limits config entry).threshold := by
  show 0 < (max 1 entry.2).toNat
  omega

/-- In a permitted history, where a window of a key holds as many failures as its threshold, the key is blocked for the whole
block time, unless its account authenticates from its address; and without that, less than twice the threshold of failing attempts
are admitted within one window length. -/
theorem limiter_holds (config : Config) (texts : Texts) (long : config.AUTH_FAILURE_WINDOW_MINUTES ≤ config.AUTH_BLOCK_MINUTES)
    {clock : Int} {history : List Attempt} (apart : Apart texts history)
    (permitted : Along (step config texts) (Permitted config texts) (.start clock) history) (entry : String × Int) :
    (∀ earlier attempt later, history = earlier++attempt::later → attempt.Fails config texts entry →
      max 1 entry.2 ≤ windowFailures config texts entry clock (earlier++[attempt]) → (∀ other ∈ later, ¬other.Clears texts entry) →
      ∀ purpose username sourceIp, entry ∈ authAttemptKeys config texts purpose username sourceIp →
      ∀ now, (history.foldl (step config texts) (.start clock)).clock ≤ now →
        now < attempt.recordedAt + minutes config.AUTH_BLOCK_MINUTES →
        0 < authRetryAfter config texts purpose username sourceIp (history.foldl (step config texts) (.start clock)).table now) ∧
    (∀ earlier period later, history = earlier++period++later → (∀ attempt ∈ period, ¬attempt.Clears texts entry) →
      ∀ start, (∀ attempt ∈ period, attempt.Fails config texts entry →
        start ≤ attempt.checkedAt ∧ attempt.checkedAt < start + minutes config.AUTH_FAILURE_WINDOW_MINUTES) →
      ((period.filter fun attempt => attempt.Fails config texts entry).length : Int) ≤ 2 * max 1 entry.2 - 1) := by
  have blank : Agrees (minutes config.AUTH_FAILURE_WINDOW_MINUTES) (Limiter.start clock).clock ((Limiter.start clock).table entry.1) none :=
    .absent
  constructor
  · intro earlier attempt later split fails full keeps purpose username sourceIp asked now after before
    have keyed : ∀ other ∈ history, Keyed config texts entry other := fun other member =>
      apart.keyed (split ▸ List.mem_append_right _ (List.mem_cons_self ..)) fails.2 member
    have pieces : history = (earlier++[attempt])++later := by
      rw [split,List.append_assoc]
      rfl
    rw [pieces] at keyed permitted after ⊢
    obtain ⟨before_,along⟩ := (along_append _ _ _).mp permitted
    obtain ⟨counter,moves,_,agrees⟩ := run_agrees (fun other member => keyed other (List.mem_append_left _ member)) before_ blank
    obtain ⟨last,ends,admitted,agree⟩ := run_agrees (fun other member => keyed other (List.mem_append_right _ member)) along agrees
    -- the attempt that fills the window blocks the counter, and what follows keeps it blocked
    have held : Held counter (attempt.recordedAt + minutes config.AUTH_BLOCK_MINUTES) := filled fails full moves
    have near : attempt.recordedAt + minutes config.AUTH_BLOCK_MINUTES ≤
        ((earlier++[attempt]).foldl (step config texts) (.start clock)).clock + (limits config entry).block := by
      rw [List.foldl_append]
      exact Int.le_refl _
    have kept := @Held.run (limits config entry) ⟨_,counter⟩ _ _ held near admitted (event_keeps keeps)
    rw [ends] at kept
    rw [List.foldl_append] at after ⊢
    exact authRetryAfter_pos.mpr ⟨entry,asked,(agree.blocks after).mpr (kept.blocked before)⟩
  · intro earlier period later split keeps start within
    by_cases none : ∀ attempt ∈ period, ¬attempt.Fails config texts entry
    · have empty : (period.filter fun attempt => attempt.Fails config texts entry) = [] := by simpa using none
      rw [empty]
      show ((0 : Nat) : Int) ≤ _
      omega
    · simp only [not_forall,not_not] at none
      obtain ⟨known,member,fails⟩ := none
      have keyed : ∀ other ∈ history, Keyed config texts entry other := fun other listed =>
        apart.keyed (split ▸ List.mem_append_left _ (List.mem_append_right _ member)) fails.2 listed
      rw [split] at keyed permitted
      obtain ⟨first,second,_⟩ := Along.pieces permitted
      obtain ⟨counter,_,_,agrees⟩ := run_agrees
        (fun other listed => keyed other (List.mem_append_left _ (List.mem_append_left _ listed))) first blank
      obtain ⟨_,_,admitted,_⟩ := run_agrees
        (fun other listed => keyed other (List.mem_append_left _ (List.mem_append_right _ listed))) second agrees
      have bound := @failures_bound (limits config entry) _ start _ threshold_pos (by show _ * _ ≤ _ * _; omega) admitted
        (event_keeps keeps) (event_within within)
      rw [failures_events] at bound
      have threshold : (limits config entry).threshold = (max 1 entry.2).toNat := rfl
      omega

end

end

def twoFailures : List Attempt := [⟨.login,"bob","10.0.0.1",0,1,false⟩,⟨.login," Bob","10.0.0.1",60000000,60000001,false⟩]

def lowered (text : String) : String := String.ofList (text.toList.map Char.toLower)

theorem bob_blocked : 0 < authRetryAfter ⟨15,15,2,30⟩ ⟨id,lowered,lowered⟩ .login "BOB" "10.0.0.1"
    (twoFailures.foldl (step ⟨15,15,2,30⟩ ⟨id,lowered,lowered⟩) (.start 0)).table 960000000 := by
  have apart : Apart ⟨id,lowered,lowered⟩ twoFailures := by
    unfold Apart
    decide +kernel
  have permitted : Along (step ⟨15,15,2,30⟩ ⟨id,lowered,lowered⟩) (Permitted ⟨15,15,2,30⟩ ⟨id,lowered,lowered⟩) (.start 0) twoFailures := by
    decide +kernel
  refine (limiter_holds ⟨15,15,2,30⟩ ⟨id,lowered,lowered⟩ (by decide) apart permitted ("login:account_ip:bob@10.0.0.1",2)).1
    [⟨.login,"bob","10.0.0.1",0,1,false⟩] ⟨.login," Bob","10.0.0.1",60000000,60000001,false⟩ [] rfl (by decide +kernel) (by decide +kernel)
    (fun _ none => (nomatch none)) .login "BOB" "10.0.0.1" (by decide +kernel) 960000000 (by decide +kernel) (by decide +kernel)

end GmsRemoteTest.Auth.RateLimit
