import GmsRemoteTest.Lib.Calendar
import GmsRemoteTest.Lib.JsonWriter
import GmsRemoteTest.Lib.Numbered
import GmsRemoteTest.Lib.Runs

/-! The ledger of AI calls. A receipt covers one attempt of a logical call; while it is pending or received and renewed,
the same call is not begun again. -/
namespace GmsRemoteTest.Redmine.AIExecutionLedger
open Runs Calendar

def receiptLeaseSeconds : Nat := 4 * 3600

inductive Status
  | pending
  | received
  | completed
  | failed
  | unknown
deriving DecidableEq

def activeStatuses : List Status := [.pending,.received]

def terminalStatuses : List Status := [.completed,.failed,.unknown]

/-- What `_now()` reads from the clock, which counts from 1970 in some zone. -/
structure Reading where
  time : DateTime
  counted : 1969 ≤ time.date.year

/-- SHA-256 in hexadecimal digits, taken to be injective. -/
structure Sha256 where
  digest : String → String
  injective : Function.Injective digest
  hex : ∀ text, '\x00' ∉ (digest text).toList

inductive Material
  | object (fields : List (String × Json.Value))
  | text (text : String)

/-- What `begin` is called with. -/
structure Call where
  ownerId : String
  purpose : String
  issueId : Int
  subject : String
  provider : String
  model : String
  promptVersion : String
  analyzerVersion : String
  inputHash : Material

structure Components where
  ownerId : String
  purpose : String
  provider : String
  issueId : Int
  inputHash : String
  promptVersion : String
  analyzerVersion : String
  model : String
deriving DecidableEq

def Components.texts (components : Components) : List String :=
  [components.ownerId,components.purpose,components.provider,toString components.issueId,components.inputHash,
    components.promptVersion,components.analyzerVersion,components.model]

structure Receipt where
  receiptId : String
  logicalKey : String
  ownerId : String
  purpose : String
  subject : String
  issueId : Int
  provider : String
  model : String
  promptVersion : String
  analyzerVersion : String
  inputHash : String
  status : Status
  attempt : Nat
  sessionId : String
  providerRequestId : String
  usageJson : String
  latencyMs : Option Int
  error : String
  createdAt : Reading
  receivedAt : Option Reading
  finishedAt : Option Reading
  updatedAt : Reading

/-- `redmine_ai_execution_receipts` in the order of insertion. -/
abbrev Ledger := List Receipt

def Receipt.Active (receipt : Receipt) : Prop := receipt.status ∈ activeStatuses

instance (receipt : Receipt) : Decidable receipt.Active := inferInstanceAs (Decidable (_ ∈ _))

def Receipt.components (receipt : Receipt) : Components where
  ownerId := receipt.ownerId
  purpose := receipt.purpose
  provider := receipt.provider
  issueId := receipt.issueId
  inputHash := receipt.inputHash
  promptVersion := receipt.promptVersion
  analyzerVersion := receipt.analyzerVersion
  model := receipt.model

section keys
variable (sha : Sha256)

def logicalKey (components : Components) : String :=
  sha.digest (String.ofList (['\x00'].intercalate (components.texts.map String.toList)))

def payload : Material → String
  | .object fields => String.ofList (Json.dump (Json.sortKeys (.object fields)))
  | .text text => text

def inputDigest (material : Material) : String := sha.digest (payload material)

def Call.components (call : Call) : Components where
  ownerId := call.ownerId
  purpose := call.purpose
  provider := call.provider
  issueId := call.issueId
  inputHash := inputDigest sha call.inputHash
  promptVersion := call.promptVersion
  analyzerVersion := call.analyzerVersion
  model := call.model

def Call.key (call : Call) : String := logicalKey sha (call.components sha)

end keys

def leaseCutoff (now : Reading) : Option DateTime := now.time.minus receiptLeaseSeconds

def leaseExpired (receipt : Receipt) (now : Reading) : Bool :=
  (leaseCutoff now).any fun cutoff => receipt.updatedAt.time.isoformat < cutoff.isoformat

def shortened (limit : Nat) (text : String) : String := String.ofList (text.toList.take limit)

/-- A row under the `UPDATE` of a transition; `fields` sets the columns that are given. -/
def moved (receiptId : String) (toStatus : Status) (allowedFrom : List Status) (fields : Receipt → Receipt) (now : Reading)
    (receipt : Receipt) : Receipt :=
  if receipt.receiptId = receiptId ∧ receipt.status ∈ allowedFrom then {fields receipt with status := toStatus, updatedAt := now}
  else receipt

def transition (receiptId : String) (toStatus : Status) (allowedFrom : List Status) (fields : Receipt → Receipt) (now : Reading)
    (ledger : Ledger) : Ledger := ledger.map (moved receiptId toStatus allowedFrom fields now)

section operations
variable (sha : Sha256)

def rowsOf (ledger : Ledger) (ownerId key : String) : List Receipt :=
  ledger.filter fun receipt => receipt.ownerId = ownerId ∧ receipt.logicalKey = key

def activeRow (ledger : Ledger) (ownerId key : String) : Option Receipt :=
  (((rowsOf ledger ownerId key).filter (·.Active)).mergeSort
    fun first second => second.createdAt.time.isoformat ≤ first.createdAt.time.isoformat).head?

def nextAttempt (ledger : Ledger) (ownerId key : String) : Nat :=
  ((rowsOf ledger ownerId key).map (·.attempt)).foldl max 0 + 1

def newReceipt (ledger : Ledger) (call : Call) (receiptId : String) (now : Reading) : Receipt where
  receiptId := receiptId
  logicalKey := call.key sha
  ownerId := call.ownerId
  purpose := call.purpose
  subject := call.subject
  issueId := call.issueId
  provider := call.provider
  model := call.model
  promptVersion := call.promptVersion
  analyzerVersion := call.analyzerVersion
  inputHash := inputDigest sha call.inputHash
  status := .pending
  attempt := nextAttempt ledger call.ownerId (call.key sha)
  sessionId := ""
  providerRequestId := ""
  usageJson := ""
  latencyMs := none
  error := ""
  createdAt := now
  receivedAt := none
  finishedAt := none
  updatedAt := now

/-- What `begin` returns: the row with its `duplicate` bit, or the `IntegrityError` of a receipt id that is taken. -/
inductive Answer
  | duplicate (row : Receipt)
  | registered (row : Receipt)
  | conflict

def register (ledger kept : Ledger) (call : Call) (receiptId : String) (now : Reading) : Answer × Ledger :=
  if ∃ receipt ∈ kept, receipt.receiptId = receiptId then (.conflict,ledger)
  else (.registered (newReceipt sha kept call receiptId now),kept++[newReceipt sha kept call receiptId now])

/-- `begin(...)`: `now` is read before the transaction, `later` when an expired receipt is given up. -/
def begin (ledger : Ledger) (call : Call) (receiptId : String) (now later : Reading) : Answer × Ledger :=
  match activeRow ledger call.ownerId (call.key sha) with
  | some row =>
    if leaseExpired row now then
      register sha ledger (transition row.receiptId .unknown activeStatuses
        (fun receipt => {receipt with error := "lease expired after 14400s"}) later ledger) call receiptId now
    else (.duplicate row,ledger)
  | none => register sha ledger ledger call receiptId now

/-- The operations, each one transaction, with what they read from the clock. -/
inductive Op
  | begin (call : Call) (receiptId : String) (now later : Reading)
  | touch (receiptId : String) (now : Reading)
  | markReceived (receiptId sessionId providerRequestId : String) (now later : Reading)
  | finish (receiptId : String) (ok : Bool) (error usageJson : String) (latencyMs : Option Int) (sessionId : String)
    (now later : Reading)
  | failEarly (receiptId error : String) (now later : Reading)
  | markUnknown (receiptId reason : String) (now later : Reading)

def touch (receiptId : String) (now : Reading) (ledger : Ledger) : Ledger :=
  ledger.map fun receipt =>
    if receipt.receiptId = receiptId ∧ receipt.status ∈ activeStatuses then {receipt with updatedAt := now} else receipt

def apply (op : Op) (ledger : Ledger) : Ledger :=
  match op with
  | .begin call receiptId now later => (begin sha ledger call receiptId now later).2
  | .touch receiptId now => touch receiptId now ledger
  | .markReceived receiptId sessionId providerRequestId now later =>
    transition receiptId .received [.pending] (fun receipt => {receipt with sessionId, providerRequestId, receivedAt := some now}) later ledger
  | .finish receiptId ok error usageJson latencyMs sessionId now later =>
    transition receiptId (if ok then .completed else .failed) activeStatuses (fun receipt => {receipt with
      error, usageJson, latencyMs := latencyMs.or receipt.latencyMs, sessionId, finishedAt := some now}) later ledger
  | .failEarly receiptId error now later =>
    transition receiptId .failed [.pending]
      (fun receipt => {receipt with error := shortened 1000 error, finishedAt := some now}) later ledger
  | .markUnknown receiptId reason now later =>
    transition receiptId .unknown activeStatuses
      (fun receipt => {receipt with error := shortened 1000 reason, finishedAt := some now}) later ledger

end operations

/-- The texts a call brings into its key hold no NUL. -/
def Call.Clean (call : Call) : Prop :=
  ∀ text ∈ [call.ownerId,call.purpose,call.provider,call.promptVersion,call.analyzerVersion,call.model], '\x00' ∉ text.toList

instance (call : Call) : Decidable call.Clean := inferInstanceAs (Decidable (∀ text ∈ _, _))

def Components.Clean (components : Components) : Prop := ∀ text ∈ components.texts, '\x00' ∉ text.toList

theorem cut_inj {sign : Char} {first second rest others : List Char} (left : sign ∉ first) (right : sign ∉ second)
    (same : first ++ sign :: rest = second ++ sign :: others) : first = second ∧ rest = others := by
  induction first generalizing second with
  | nil =>
    cases second with
    | nil => exact ⟨rfl,(List.cons.inj same).2⟩
    | cons c second => exact absurd ((List.cons.inj same).1 ▸ List.mem_cons_self ..) right
  | cons c first ih =>
    cases second with
    | nil => exact absurd ((List.cons.inj same).1 ▸ List.mem_cons_self ..) left
    | cons d second =>
      obtain ⟨rfl,tails⟩ := List.cons.inj same
      obtain ⟨rfl,rest⟩ := ih (fun member => left (List.mem_cons_of_mem _ member))
        (fun member => right (List.mem_cons_of_mem _ member)) tails
      exact ⟨rfl,rest⟩

theorem intercalate_inj {sign : Char} {first second : List (List Char)} (length : first.length = second.length)
    (left : ∀ text ∈ first, sign ∉ text) (right : ∀ text ∈ second, sign ∉ text)
    (same : [sign].intercalate first = [sign].intercalate second) : first = second := by
  induction first generalizing second with
  | nil => exact (List.length_eq_zero_iff.mp length.symm).symm
  | cons text first ih =>
    obtain ⟨other,second,rfl⟩ := List.exists_cons_of_length_eq_add_one length.symm
    have tails : first.length = second.length := Nat.succ.inj length
    cases first with
    | nil =>
      obtain rfl := List.length_eq_zero_iff.mp tails.symm
      simpa using same
    | cons text' first =>
      obtain ⟨other',second,rfl⟩ := List.exists_cons_of_length_eq_add_one tails.symm
      rw [List.intercalate_cons_cons,List.intercalate_cons_cons,List.append_assoc,List.append_assoc,List.singleton_append,
        List.singleton_append] at same
      obtain ⟨rfl,rest⟩ := cut_inj (left _ (List.mem_cons_self ..)) (right _ (List.mem_cons_self ..)) same
      rw [ih tails (fun text member => left text (List.mem_cons_of_mem _ member))
        (fun text member => right text (List.mem_cons_of_mem _ member)) rest]

theorem toString_int_digits (value : Int) : '\x00' ∉ (toString value).toList := by
  have digits : ∀ n : Nat, '\x00' ∉ n.repr.toList := by
    intro n member
    rw [Nat.toList_repr] at member
    exact absurd (Nat.isDigit_of_mem_toDigits (by decide) (by decide) member) (by decide)
  cases value with
  | ofNat n => exact digits n
  | negSucc n =>
    change '\x00' ∉ ("-" ++ (n + 1).repr).toList
    rw [String.toList_append,List.mem_append]
    rintro (sign | digit)
    · exact absurd sign (by decide)
    · exact digits _ digit

theorem nat_repr_inj {first second : Nat} (same : first.repr = second.repr) : first = second := by
  have digits : Nat.toDigits 10 first = Nat.toDigits 10 second := by
    rw [← Nat.toList_repr,← Nat.toList_repr,same]
  rw [← @Nat.ofDigitChars_ten_toDigits first,digits,Nat.ofDigitChars_ten_toDigits]

theorem toString_int_inj {first second : Int} (same : toString first = toString second) : first = second := by
  have apart : ∀ positive negative : Nat, (Int.ofNat positive).repr ≠ (Int.negSucc negative).repr := by
    intro positive negative same
    change positive.repr = "-" ++ (negative + 1).repr at same
    have minus : '-' ∈ positive.repr.toList := by
      rw [same,String.toList_append]
      exact List.mem_append_left _ (by decide)
    rw [Nat.toList_repr] at minus
    exact absurd (Nat.isDigit_of_mem_toDigits (by decide) (by decide) minus) (by decide)
  cases first with
  | ofNat first =>
    cases second with
    | ofNat second => exact congrArg Int.ofNat (nat_repr_inj same)
    | negSucc second => exact absurd same (apart first second)
  | negSucc first =>
    cases second with
    | ofNat second => exact absurd same.symm (apart second first)
    | negSucc second =>
      have texts : "-" ++ (first + 1).repr = "-" ++ (second + 1).repr := same
      have tails : (first + 1).repr = (second + 1).repr := by
        rw [← String.toList_inj,String.toList_append,String.toList_append,List.append_cancel_left_eq] at texts
        exact String.toList_inj.mp texts
      exact congrArg Int.negSucc (Nat.succ.inj (nat_repr_inj tails))

variable {sha : Sha256} {call : Call}

theorem Call.Clean.components (clean : call.Clean) : (call.components sha).Clean := by
  unfold Clean at clean
  unfold Components.Clean Components.texts Call.components
  simp only [List.forall_mem_cons] at clean ⊢
  obtain ⟨owner,purpose,provider,prompt,analyzer,model,_⟩ := clean
  exact ⟨owner,purpose,provider,toString_int_digits _,sha.hex _,prompt,analyzer,model,List.forall_mem_nil _⟩

theorem logicalKey_inj {first second : Components} (left : first.Clean) (right : second.Clean)
    (same : logicalKey sha first = logicalKey sha second) : first = second := by
  have joined : ['\x00'].intercalate (first.texts.map String.toList) = ['\x00'].intercalate (second.texts.map String.toList) :=
    String.ofList_inj.mp (sha.injective same)
  have length : (first.texts.map String.toList).length = (second.texts.map String.toList).length := rfl
  have texts := intercalate_inj length (List.forall_mem_map.mpr left) (List.forall_mem_map.mpr right) joined
  have equal : first.texts = second.texts := List.map_injective_iff.mpr (fun _ _ => String.toList_inj.mp) texts
  unfold Components.texts at equal
  simp only [List.cons.injEq] at equal
  obtain ⟨owner,purpose,provider,issue,input,prompt,analyzer,model,_⟩ := equal
  cases first
  cases second
  simp only [Components.mk.injEq]
  exact ⟨owner,purpose,provider,toString_int_inj issue,input,prompt,analyzer,model⟩

/-- A change that keeps what identifies a receipt, brings none back to life and leaves those that are over. -/
structure Keeps (change : Receipt → Receipt) : Prop where
  id : ∀ receipt, (change receipt).receiptId = receipt.receiptId
  key : ∀ receipt, (change receipt).logicalKey = receipt.logicalKey
  components : ∀ receipt, (change receipt).components = receipt.components
  attempt : ∀ receipt, (change receipt).attempt = receipt.attempt
  active : ∀ receipt, (change receipt).Active → receipt.Active
  over_ : ∀ receipt, ¬receipt.Active → change receipt = receipt

def Sets (fields : Receipt → Receipt) : Prop := ∀ receipt, (fields receipt).receiptId = receipt.receiptId ∧
  (fields receipt).logicalKey = receipt.logicalKey ∧ (fields receipt).components = receipt.components ∧
  (fields receipt).attempt = receipt.attempt

theorem keeps_moved {receiptId : String} {toStatus : Status} {allowedFrom : List Status} {fields : Receipt → Receipt} {now : Reading}
    (allowed : ∀ status ∈ allowedFrom, status ∈ activeStatuses) (sets : Sets fields) :
    Keeps (moved receiptId toStatus allowedFrom fields now) where
  id receipt := by
    unfold moved
    split
    · exact (sets receipt).1
    · rfl
  key receipt := by
    unfold moved
    split
    · exact (sets receipt).2.1
    · rfl
  components receipt := by
    unfold moved
    split
    · exact (sets receipt).2.2.1
    · rfl
  attempt receipt := by
    unfold moved
    split
    · exact (sets receipt).2.2.2
    · rfl
  active receipt alive := by
    unfold moved at alive
    split at alive
    · rename_i met
      exact allowed _ met.2
    · exact alive
  over_ receipt dead := if_neg fun met => dead (allowed _ met.2)

theorem keeps_touch (receiptId : String) (now : Reading) : Keeps fun receipt =>
    if receipt.receiptId = receiptId ∧ receipt.status ∈ activeStatuses then {receipt with updatedAt := now} else receipt where
  id receipt := by split <;> rfl
  key receipt := by split <;> rfl
  components receipt := by split <;> rfl
  attempt receipt := by split <;> rfl
  active receipt alive := by
    split at alive
    · rename_i met
      exact met.2
    · exact alive
  over_ receipt dead := if_neg fun met => dead met.2

/-- One receipt for an id, each under the key of its components; of the receipts of a key at most one is active, and
they are numbered in order. -/
structure Sound (sha : Sha256) (ledger : Ledger) : Prop where
  ids : (ledger.map (·.receiptId)).Nodup
  keyed : ∀ receipt ∈ ledger, receipt.logicalKey = logicalKey sha receipt.components ∧ receipt.components.Clean
  single : ∀ ownerId key, ((rowsOf ledger ownerId key).filter (·.Active)).length ≤ 1
  attempts : ∀ ownerId key, (rowsOf ledger ownerId key).map (·.attempt) = List.range' 1 (rowsOf ledger ownerId key).length

variable {ledger kept : Ledger} {change : Receipt → Receipt} {ownerId key : String}

theorem Keeps.rowsOf (keeps : Keeps change) : rowsOf (ledger.map change) ownerId key = (rowsOf ledger ownerId key).map change := by
  have owner : ∀ receipt, (change receipt).ownerId = receipt.ownerId := fun receipt =>
    congrArg Components.ownerId (keeps.components receipt)
  unfold AIExecutionLedger.rowsOf
  rw [List.filter_map]
  congr 1
  refine List.filter_congr fun receipt _ => ?_
  simp [owner,keeps.key]

theorem Keeps.active_le (keeps : Keeps change) (rows : List Receipt) :
    ((rows.map change).filter (·.Active)).length ≤ (rows.filter (·.Active)).length := by
  rw [← List.countP_eq_length_filter,← List.countP_eq_length_filter,List.countP_map]
  refine List.countP_mono_left fun receipt _ alive => ?_
  simpa using keeps.active receipt (by simpa using alive)

theorem Sound.map (sound : Sound sha ledger) (keeps : Keeps change) : Sound sha (ledger.map change) where
  ids := by
    rw [List.map_map]
    have same : (fun receipt : Receipt => receipt.receiptId) ∘ change = fun receipt => receipt.receiptId := funext keeps.id
    rw [same]
    exact sound.ids
  keyed := by
    intro receipt member
    obtain ⟨before,stored,rfl⟩ := List.mem_map.mp member
    rw [keeps.key,keeps.components]
    exact sound.keyed before stored
  single ownerId key := by
    rw [keeps.rowsOf]
    exact (keeps.active_le _).trans (sound.single ownerId key)
  attempts ownerId key := by
    rw [keeps.rowsOf,List.map_map,List.length_map,← sound.attempts ownerId key]
    exact List.map_congr_left fun receipt _ => keeps.attempt receipt

theorem Reading.later (now : Reading) : receiptLeaseSeconds + 86400 ≤ now.time.seconds := by
  have counted := daysBeforeYear_mono (by decide : 1 ≤ 1969) now.counted
  have base : daysBeforeYear 1969 = 718797 := by decide
  have lease : receiptLeaseSeconds = 14400 := rfl
  rw [base] at counted
  rw [lease,DateTime.seconds,Date.toOrdinal]
  omega

theorem leaseExpired_iff (receipt : Receipt) (now : Reading) :
    leaseExpired receipt now = false ↔ now.time.seconds ≤ receipt.updatedAt.time.seconds + receiptLeaseSeconds := by
  obtain ⟨cutoff,found⟩ := Option.isSome_iff_exists.mp (DateTime.minus_isSome now.later)
  have before := DateTime.minus_seconds found
  unfold leaseExpired leaseCutoff
  rw [found,Option.any_some,decide_eq_false_iff_not,DateTime.isoformat_lt]
  omega

theorem mem_rowsOf {receipt : Receipt} : receipt ∈ rowsOf ledger ownerId key ↔
    receipt ∈ ledger ∧ receipt.ownerId = ownerId ∧ receipt.logicalKey = key := by
  simp [rowsOf]

theorem mem_of_activeRow {row : Receipt} (found : activeRow ledger ownerId key = some row) :
    row ∈ rowsOf ledger ownerId key ∧ row.Active := by
  have member := List.mem_of_head? found
  rw [List.mem_mergeSort,List.mem_filter] at member
  exact ⟨member.1,by simpa using member.2⟩

theorem activeRow_none : activeRow ledger ownerId key = none ↔ ∀ receipt ∈ rowsOf ledger ownerId key, ¬receipt.Active := by
  unfold activeRow
  rw [List.head?_eq_none_iff,← List.length_eq_zero_iff,List.length_mergeSort,List.length_eq_zero_iff,List.filter_eq_nil_iff]
  simp

theorem Sound.eq_activeRow (sound : Sound sha ledger) {row receipt : Receipt} (found : activeRow ledger ownerId key = some row)
    (member : receipt ∈ rowsOf ledger ownerId key) (alive : receipt.Active) : receipt = row := by
  obtain ⟨stored,active⟩ := mem_of_activeRow found
  have first : row ∈ (rowsOf ledger ownerId key).filter (·.Active) := List.mem_filter.mpr ⟨stored,by simpa using active⟩
  have second : receipt ∈ (rowsOf ledger ownerId key).filter (·.Active) := List.mem_filter.mpr ⟨member,by simpa using alive⟩
  have single := sound.single ownerId key
  generalize (rowsOf ledger ownerId key).filter (·.Active) = rows at first second single
  obtain ⟨only,rfl⟩ := List.length_eq_one_iff.mp (Nat.le_antisymm single (List.length_pos_of_mem first))
  rw [List.mem_singleton] at first second
  exact second.trans first.symm

theorem Sound.append (sound : Sound sha kept) (clean : call.Clean) {receiptId : String} {now : Reading}
    (fresh : ∀ receipt ∈ kept, receipt.receiptId ≠ receiptId)
    (idle : ∀ receipt ∈ rowsOf kept call.ownerId (call.key sha), ¬receipt.Active) :
    Sound sha (kept++[newReceipt sha kept call receiptId now]) := by
  have rows : ∀ ownerId key, rowsOf (kept++[newReceipt sha kept call receiptId now]) ownerId key =
      rowsOf kept ownerId key ++ if call.ownerId = ownerId ∧ call.key sha = key then [newReceipt sha kept call receiptId now] else [] := by
    intro ownerId key
    unfold rowsOf
    rw [List.filter_append]
    by_cases same : call.ownerId = ownerId ∧ call.key sha = key
    · rw [if_pos same]
      simp [newReceipt,same.1,same.2]
    · rw [if_neg same]
      simpa [newReceipt] using same
  refine ⟨?_,?_,fun ownerId key => ?_,fun ownerId key => ?_⟩
  · rw [List.map_append,List.nodup_append]
    refine ⟨sound.ids,by simp,?_⟩
    rintro _ stored _ added rfl
    obtain ⟨receipt,member,same⟩ := List.mem_map.mp stored
    rw [List.map_singleton,List.mem_singleton] at added
    exact fresh receipt member (same.trans added)
  · intro receipt member
    rcases List.mem_append.mp member with stored | added
    · exact sound.keyed receipt stored
    · rw [List.mem_singleton.mp added]
      exact ⟨rfl,clean.components⟩
  · rw [rows]
    by_cases same : call.ownerId = ownerId ∧ call.key sha = key
    · obtain ⟨rfl,rfl⟩ := same
      have none : (rowsOf kept call.ownerId (call.key sha)).filter (·.Active) = [] :=
        List.filter_eq_nil_iff.mpr (by simpa using idle)
      rw [List.filter_append,none,if_pos ⟨rfl,rfl⟩,List.nil_append]
      exact List.length_filter_le ..
    · rw [if_neg same,List.append_nil]
      exact sound.single ownerId key
  · rw [rows]
    by_cases same : call.ownerId = ownerId ∧ call.key sha = key
    · obtain ⟨rfl,rfl⟩ := same
      rw [if_pos ⟨rfl,rfl⟩]
      refine Numbered.From.append (sound.attempts _ _) ?_
      have next : nextAttempt kept call.ownerId (call.key sha) = (rowsOf kept call.ownerId (call.key sha)).length + 1 :=
        Numbered.From.next (sound.attempts _ _)
      rw [Numbered.From,List.map_singleton,newReceipt,next,Nat.add_comm]
      rfl
    · rw [if_neg same,List.append_nil]
      exact sound.attempts ownerId key

theorem begin_cases (sound : Sound sha ledger) (call : Call) (receiptId : String) (now later : Reading) :
    (∃ row, activeRow ledger call.ownerId (call.key sha) = some row ∧ leaseExpired row now = false ∧
      begin sha ledger call receiptId now later = (.duplicate row,ledger)) ∨
    (∀ row, activeRow ledger call.ownerId (call.key sha) = some row → leaseExpired row now = true) ∧
    ((begin sha ledger call receiptId now later = (.conflict,ledger)) ∨
      ∃ change, Keeps change ∧ (∀ receipt ∈ rowsOf (ledger.map change) call.ownerId (call.key sha), ¬receipt.Active) ∧
        (∀ receipt ∈ ledger.map change, receipt.receiptId ≠ receiptId) ∧
        begin sha ledger call receiptId now later = (.registered (newReceipt sha (ledger.map change) call receiptId now),
          ledger.map change ++ [newReceipt sha (ledger.map change) call receiptId now])) := by
  unfold begin
  cases found : activeRow ledger call.ownerId (call.key sha) with
  | none =>
    refine .inr ⟨(fun row same => nomatch same),?_⟩
    unfold register
    by_cases taken : ∃ receipt ∈ ledger, receipt.receiptId = receiptId
    · exact .inl (if_pos taken)
    · rw [if_neg taken]
      refine .inr ⟨id,⟨fun _ => rfl,fun _ => rfl,fun _ => rfl,fun _ => rfl,fun _ alive => alive,fun _ _ => rfl⟩,?_⟩
      rw [List.map_id]
      exact ⟨activeRow_none.mp found,fun receipt member same => taken ⟨receipt,member,same⟩,rfl⟩
  | some row =>
    dsimp only
    cases expired : leaseExpired row now with
    | false => exact .inl ⟨row,rfl,expired,if_neg Bool.false_ne_true⟩
    | true =>
      refine .inr ⟨fun other same => (Option.some.inj same) ▸ expired,?_⟩
      rw [if_pos rfl]
      unfold register transition
      generalize changed : moved row.receiptId .unknown activeStatuses
        (fun receipt => {receipt with error := "lease expired after 14400s"}) later = change
      have keeps : Keeps change := changed ▸ keeps_moved (fun _ member => member) (fun _ => ⟨rfl,rfl,rfl,rfl⟩)
      by_cases taken : ∃ receipt ∈ ledger.map change, receipt.receiptId = receiptId
      · exact .inl (if_pos taken)
      · rw [if_neg taken]
        refine .inr ⟨change,keeps,fun receipt member alive => ?_,fun receipt member same => taken ⟨receipt,member,same⟩,rfl⟩
        rw [keeps.rowsOf] at member
        obtain ⟨before,stored,rfl⟩ := List.mem_map.mp member
        have same := sound.eq_activeRow found stored (keeps.active before alive)
        have met : before.receiptId = row.receiptId ∧ before.status ∈ activeStatuses := ⟨congrArg _ same,keeps.active before alive⟩
        rw [← changed,Receipt.Active,moved,if_pos met] at alive
        change Status.unknown ∈ activeStatuses at alive
        exact absurd alive (by decide)

/-- Every call that is begun is clean. -/
def Permitted (_ : Ledger) : Op → Prop
  | .begin call _ _ _ => call.Clean
  | _ => True

theorem apply_shape (sound : Sound sha ledger) {op : Op} (permitted : Permitted ledger op) :
    Sound sha (apply sha op ledger) ∧ ∃ change added, Keeps change ∧ apply sha op ledger = ledger.map change ++ added := by
  have placed : ∀ change, Keeps change → apply sha op ledger = ledger.map change →
      Sound sha (apply sha op ledger) ∧ ∃ change added, Keeps change ∧ apply sha op ledger = ledger.map change ++ added :=
    fun change keeps same => ⟨same ▸ sound.map keeps,change,[],keeps,by rw [same,List.append_nil]⟩
  have one : ∀ status ∈ [Status.pending], status ∈ activeStatuses := by decide
  have both : ∀ status ∈ activeStatuses, status ∈ activeStatuses := fun _ member => member
  have nothing : Keeps id := ⟨fun _ => rfl,fun _ => rfl,fun _ => rfl,fun _ => rfl,fun _ alive => alive,fun _ _ => rfl⟩
  cases op with
  | begin call receiptId now later =>
    rcases begin_cases sound call receiptId now later with ⟨row,_,_,same⟩ | ⟨_,same | ⟨change,keeps,idle,fresh,same⟩⟩
    · exact placed id nothing (by rw [apply,same,List.map_id])
    · exact placed id nothing (by rw [apply,same,List.map_id])
    · rw [apply,same]
      exact ⟨(sound.map keeps).append permitted fresh idle,change,_,keeps,rfl⟩
  | touch receiptId now => exact placed _ (keeps_touch receiptId now) rfl
  | markReceived receiptId sessionId providerRequestId now later =>
    refine placed _ ?_ rfl
    exact keeps_moved one fun _ => ⟨rfl,rfl,rfl,rfl⟩
  | finish receiptId ok error usageJson latencyMs sessionId now later =>
    refine placed _ ?_ rfl
    exact keeps_moved both fun _ => ⟨rfl,rfl,rfl,rfl⟩
  | failEarly receiptId error now later =>
    refine placed _ ?_ rfl
    exact keeps_moved one fun _ => ⟨rfl,rfl,rfl,rfl⟩
  | markUnknown receiptId reason now later =>
    refine placed _ ?_ rfl
    exact keeps_moved both fun _ => ⟨rfl,rfl,rfl,rfl⟩

theorem sound_nil : Sound sha [] := ⟨List.nodup_nil,by simp,fun _ _ => Nat.zero_le _,fun _ _ => rfl⟩

theorem reached_sound (reached : Reached (apply sha) Permitted [] ledger) : Sound sha ledger :=
  reached.invariant (Sound sha) sound_nil fun _ _ sound permitted => (apply_shape sound permitted).1

theorem over_stays (sound : Sound sha ledger) {receipt : Receipt} (member : receipt ∈ ledger) (over_ : ¬receipt.Active)
    {later : Ledger} (reached : Reached (apply sha) Permitted ledger later) : receipt ∈ later := by
  refine (reached.invariant (fun later => Sound sha later ∧ receipt ∈ later) ⟨sound,member⟩ fun before op ⟨sound,stored⟩ permitted => ?_).2
  obtain ⟨after,change,added,keeps,same⟩ := apply_shape sound permitted
  refine ⟨after,?_⟩
  rw [same]
  exact List.mem_append_left _ (List.mem_map.mpr ⟨receipt,stored,keeps.over_ receipt over_⟩)

theorem Sound.unique (sound : Sound sha ledger) {first second : Receipt} (left : first ∈ ledger) (right : second ∈ ledger)
    (same : first.receiptId = second.receiptId) : first = second := List.inj_on_of_nodup_map sound.ids left right same

theorem Sound.mem_rowsOf_call (sound : Sound sha ledger) (clean : call.Clean) {receipt : Receipt} :
    receipt ∈ rowsOf ledger call.ownerId (call.key sha) ↔ receipt ∈ ledger ∧ receipt.components = call.components sha := by
  rw [mem_rowsOf]
  constructor
  · rintro ⟨member,_,key⟩
    obtain ⟨keyed,plain⟩ := sound.keyed receipt member
    exact ⟨member,logicalKey_inj plain clean.components (keyed.symm.trans key)⟩
  · rintro ⟨member,same⟩
    refine ⟨member,congrArg Components.ownerId same,?_⟩
    rw [(sound.keyed receipt member).1,same]
    rfl

def Answer.isDuplicate : Answer → Bool
  | .duplicate _ => true
  | _ => false

theorem Sound.isDuplicate_iff (sound : Sound sha ledger) (clean : call.Clean) (receiptId : String) (now later : Reading) :
    (begin sha ledger call receiptId now later).1.isDuplicate = true ↔
      ∃ receipt ∈ ledger, receipt.Active ∧ receipt.components = call.components sha ∧
        now.time.seconds ≤ receipt.updatedAt.time.seconds + receiptLeaseSeconds := by
  constructor
  · intro duplicate
    rcases begin_cases sound call receiptId now later with ⟨row,found,fresh,same⟩ | ⟨_,same | ⟨_,_,_,_,same⟩⟩
    · obtain ⟨stored,alive⟩ := mem_of_activeRow found
      obtain ⟨member,components⟩ := (sound.mem_rowsOf_call clean).mp stored
      exact ⟨row,member,alive,components,(leaseExpired_iff row now).mp fresh⟩
    · rw [same] at duplicate
      cases duplicate
    · rw [same] at duplicate
      cases duplicate
  · rintro ⟨receipt,member,alive,components,renewed⟩
    have stored := (sound.mem_rowsOf_call clean).mpr ⟨member,components⟩
    have unexpired := (leaseExpired_iff receipt now).mpr renewed
    rcases begin_cases sound call receiptId now later with ⟨row,_,_,same⟩ | ⟨expired,_⟩
    · rw [same]
      rfl
    · cases found : activeRow ledger call.ownerId (call.key sha) with
      | none => exact absurd alive (activeRow_none.mp found receipt stored)
      | some row =>
        have only := sound.eq_activeRow found stored alive
        rw [only,expired row found] at unexpired
        cases unexpired

/-- Of the receipts of an owner and a key at most one is active, one that is over never changes, they are numbered in the
order of insertion, and a call is a duplicate exactly while an active receipt of its components is renewed. -/
theorem ledger_sound (sha : Sha256) {ledger : Ledger} (reached : Reached (apply sha) Permitted [] ledger) :
    (∀ ownerId key, ((rowsOf ledger ownerId key).filter (·.status ∈ activeStatuses)).length ≤ 1) ∧
    (∀ receipt ∈ ledger, receipt.status ∈ terminalStatuses → ∀ later, Reached (apply sha) Permitted ledger later →
      receipt ∈ later ∧ ∀ other ∈ later, other.receiptId = receipt.receiptId → other = receipt) ∧
    (∀ ownerId key, (rowsOf ledger ownerId key).map (·.attempt) = List.range' 1 (rowsOf ledger ownerId key).length) ∧
    ∀ call : Call, call.Clean → ∀ receiptId now later,
      (begin sha ledger call receiptId now later).1.isDuplicate = true ↔
        ∃ receipt ∈ ledger, receipt.status ∈ activeStatuses ∧ receipt.components = call.components sha ∧
          now.time.seconds ≤ receipt.updatedAt.time.seconds + receiptLeaseSeconds := by
  have sound := reached_sound reached
  refine ⟨sound.single,fun receipt member terminal later further => ?_,sound.attempts,
    fun call clean receiptId now later => sound.isDuplicate_iff clean receiptId now later⟩
  have over_ : ¬receipt.Active := by
    have apart : ∀ status ∈ terminalStatuses, status ∉ activeStatuses := by decide
    exact apart _ terminal
  have stays := over_stays sound member over_ further
  have final : Sound sha later :=
    further.invariant (Sound sha) sound fun _ _ before permitted => (apply_shape before permitted).1
  exact ⟨stays,fun other stored same => final.unique stored stays same⟩

def unary (chars : List Char) : List Char := chars.flatMap fun c => List.replicate c.toNat '1' ++ ['0']

theorem unary_injective : Function.Injective unary := by
  intro first second same
  have apart : ∀ count, '0' ∉ List.replicate count '1' := fun count member =>
    absurd (List.eq_of_mem_replicate member) (by decide)
  induction first generalizing second with
  | nil =>
    cases second with
    | nil => rfl
    | cons d second => simp [unary] at same
  | cons c first ih =>
    cases second with
    | nil => simp [unary] at same
    | cons d second =>
      have cut : List.replicate c.toNat '1' ++ '0' :: unary first = List.replicate d.toNat '1' ++ '0' :: unary second := by
        simpa [unary] using same
      obtain ⟨ones,rest⟩ := cut_inj (apart _) (apart _) cut
      have code : c.toNat = d.toNat := by simpa using congrArg List.length ones
      rw [Char.toNat_inj.mp code,ih rest]

def unarySha : Sha256 where
  digest text := String.ofList (unary text.toList)
  injective first second same := String.toList_inj.mp (unary_injective (String.ofList_inj.mp same))
  hex text member := by
    rw [String.toList_ofList] at member
    obtain ⟨c,_,digit⟩ := List.mem_flatMap.mp member
    rcases List.mem_append.mp digit with one | zero
    · exact absurd (List.eq_of_mem_replicate one) (by decide)
    · exact absurd (List.mem_singleton.mp zero) (by decide)

def noon : Reading := ⟨⟨⟨2026,5,1,by decide,by decide,by decide⟩,43200,by decide⟩,by decide⟩

def oneCall : Call := ⟨"alice","daily_brief_issue",7,"","kkagent","m","p","a",.text "x"⟩

theorem ledger_sound_once :
    (begin unarySha (apply unarySha (Op.begin oneCall "r1" noon noon) []) oneCall "r2" noon noon).1.isDuplicate = true := by
  have reached : Reached (apply unarySha) Permitted [] (apply unarySha (Op.begin oneCall "r1" noon noon) []) :=
    .step .start (Op.begin oneCall "r1" noon noon) (show oneCall.Clean by decide)
  refine ((ledger_sound unarySha reached).2.2.2 oneCall (by decide) "r2" noon noon).mpr
    ⟨newReceipt unarySha [] oneCall "r1" noon,?_,by decide,rfl,Nat.le_add_right ..⟩
  have none : activeRow [] oneCall.ownerId (oneCall.key unarySha) = none :=
    activeRow_none.mpr fun receipt member => absurd (mem_rowsOf.mp member).1 (List.not_mem_nil)
  rw [apply,begin,none]
  exact List.mem_singleton.mpr rfl

end GmsRemoteTest.Redmine.AIExecutionLedger
