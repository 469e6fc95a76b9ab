import GmsRemoteTest.Automation.PlanStore
import GmsRemoteTest.Lib.Base64
import GmsRemoteTest.Lib.Json
import GmsRemoteTest.Lib.KeysetPages
import GmsRemoteTest.Lib.Utf8
import Mathlib.Data.List.Infix
import Mathlib.Data.Prod.Lex
import Mathlib.Data.String.Basic

/-! The history of the runs, page by page. A page goes on behind the cursor of the last run of the page before, whatever runs
were created between the two. -/
namespace GmsRemoteTest.Automation
open Text

/-- `RUN_STATUS_*`, as the rows hold them. -/
def RunStatus.text : RunStatus → String
  | .queued => "queued" | .jenkinsQueued => "jenkins_queued" | .jenkinsBuilding => "jenkins_building"
  | .artifactReady => "artifact_ready" | .waitingDevice => "waiting_device" | .deviceLocked => "device_locked"
  | .flashing => "flashing" | .flashCompleted => "flash_completed" | .postFlashVerifying => "post_flash_verifying"
  | .flashVerified => "flash_verified" | .aoaRecovering => "aoa_recovering" | .testing => "testing"
  | .testRunning => "test_running" | .reportCollecting => "report_collecting" | .analyzing => "analyzing"
  | .reporting => "reporting" | .completed => "completed" | .cancelled => "cancelled" | .failed => "failed"
  | .jenkinsFailed => "jenkins_failed" | .artifactMissing => "artifact_missing" | .flashFailed => "flash_failed"
  | .aoaFailed => "aoa_failed" | .testFailed => "test_failed" | .analysisFailed => "analysis_failed"
  | .reportingFailed => "reporting_failed"

namespace RunHistory

/-- The columns that the history reads; `test_plan_json` only adds display fields to a row. -/
structure HistoryRow where
  id : String
  createdAt : String
  status : RunStatus
  createdBy : String := ""
  profileId : String := ""
  workerId : String := ""
  project : String := ""
  branch : String := ""
  devicesJson : String := "[]"
  artifactPath : String := ""
  gerritChangeId : String := ""
  gerritSubject : String := ""
  retryOfRunId : String := ""
  reportTimestamp : String := ""
  testSummaryJson : String := "\x7b\x7d"
deriving DecidableEq

def encodeRunCursor (createdAt id : String) : List Char := Base64.encode (Utf8.encode (Json.dumps [createdAt,id]))

def wide (bytes : List UInt8) : Bool :=
  [0,0,254,255].isPrefixOf bytes || [255,254].isPrefixOf bytes || [254,255].isPrefixOf bytes || [239,187,191].isPrefixOf bytes ||
    match bytes with
    | a :: b :: _ :: _ :: _ => a == 0 || b == 0
    | [a,b] => a == 0 || b == 0
    | _ => false

section
variable (codec : List UInt8 → Option (List Char))

def loads (bytes : List UInt8) : Option Json.Value := (if wide bytes then codec bytes else Utf8.decode bytes).bind Json.loads

/-- `none` is `ValueError("Invalid run cursor")`. -/
def decodeRunCursor (cursor : List Char) : Option (String × String) :=
  if cursor = [] ∨ 2048 < cursor.length then none
  else match (Base64.decodeStrict cursor).bind (loads codec) with
    | some (.array [.string createdAt,.string id]) => if createdAt = "" ∨ id = "" then none else some (createdAt,id)
    | _ => none

/-- What `json_extract` finds; other values than texts equal none of the outcomes. -/
inductive Extracted
  | text (value : String)
  | other
deriving DecidableEq

variable (extract : String → Option Extracted)

structure Filters where
  status : String := ""
  createdBy : String := ""
  query : String := ""
  profileId : String := ""
  workerId : String := ""
  outcome : String := ""
  reportsOnly : Bool := false

def RESULT_OUTCOMES : List String := ["passed","failed","incomplete","unknown"]

def ofStatus (status : String) (run : HistoryRow) : Bool :=
  if status = "running" then !run.status.terminal
  else if status = "failed" then run.status.terminal && run.status ∉ [RunStatus.completed,.cancelled]
  else if status = "testing" then run.status ∈ [RunStatus.testing,.testRunning]
  else status = "" || run.status.text = status

/-- `lower` of SQLite changes ASCII letters only. -/
def lower (text : String) : List Char := text.toList.map Char.toLower

def searched (run : HistoryRow) : List String :=
  [run.id,run.profileId,run.project,run.branch,run.workerId,run.devicesJson,run.artifactPath,run.gerritChangeId,
    run.gerritSubject,run.retryOfRunId]

/-- The clauses of `history_predicate` without the cursor's. -/
def Filters.admits (filters : Filters) (run : HistoryRow) : Bool :=
  ofStatus filters.status run && (filters.createdBy = "" || run.createdBy = filters.createdBy) &&
  (filters.profileId = "" || run.profileId = filters.profileId) && (filters.workerId = "" || run.workerId = filters.workerId) &&
  (filters.query = "" || (searched run).any fun column => lower filters.query <:+: lower column) &&
  (filters.outcome = "" || (extract run.testSummaryJson).getD (.text "unknown") = .text filters.outcome) &&
  (!filters.reportsOnly || run.reportTimestamp ≠ "")

/-- The filters that `history_predicate` takes. -/
def Filters.known (filters : Filters) : Prop := filters.outcome = "" ∨ filters.outcome ∈ RESULT_OUTCOMES

instance (filters : Filters) : Decidable filters.known := instDecidableOr

def position (run : HistoryRow) : (String ×ₗ String)ᵒᵈ := OrderDual.toDual (toLex (run.createdAt,run.id))

def behind (last : String × String) (run : HistoryRow) : Bool :=
  run.createdAt < last.1 || (run.createdAt = last.1 && run.id < last.2)

def historyPredicate (filters : Filters) (cursor : List Char) : Option (HistoryRow → Bool) :=
  if filters.known then
    if cursor = [] then some (filters.admits extract)
    else (decodeRunCursor codec cursor).map fun last run => filters.admits extract run && behind last run
  else none

structure Page where
  items : List HistoryRow
  hasMore : Bool
  nextCursor : List Char

def pageSize (limit : Int) : Nat := (max 1 (min limit 500)).toNat

def listRunPage (limit : Int) (filters : Filters) (cursor : List Char) (runs : List HistoryRow) : Option Page :=
  (historyPredicate codec extract filters cursor).map fun predicate =>
    let rows := Pages.page position (pageSize limit + 1) (runs.filter predicate)
    let items := rows.take (pageSize limit)
    let hasMore := pageSize limit < rows.length
    { items,hasMore,
      nextCursor := if hasMore then (items.getLast?.map fun run => encodeRunCursor run.createdAt run.id).getD [] else [] }

/-- Page after page until none follows, the n-th from the n-th table. `none` is a `ValueError`, `some none` that pages are left. -/
def follow (limit : Int) (filters : Filters) (tables : Nat → List HistoryRow) : Nat → Nat → List Char → Option (Option (List HistoryRow))
  | 0, _, _ => some none
  | pages + 1, n, cursor => (listRunPage codec extract limit filters cursor (tables n)).bind fun page =>
    if page.hasMore then (follow limit filters tables pages (n + 1) page.nextCursor).map fun rest => rest.map (page.items ++ ·)
    else some (some page.items)

variable {codec : List UInt8 → Option (List Char)} {extract : String → Option Extracted} {filters : Filters} {limit : Int}

section
variable (createdAt id : String)

theorem bytes_pair : ∃ rest, Utf8.encode (Json.dumps [createdAt,id]) = 91::34::rest := ⟨_,rfl⟩

theorem wide_dumps : wide (Utf8.encode (Json.dumps [createdAt,id])) = false := by
  obtain ⟨rest,bytes⟩ := bytes_pair createdAt id
  rw [bytes]
  cases rest with
  | nil => rfl
  | cons third rest => cases rest <;> rfl

theorem encodeRunCursor_ne_nil : encodeRunCursor createdAt id ≠ [] := fun none => by
  have back := Base64.decodeStrict_encode (Utf8.encode (Json.dumps [createdAt,id]))
  obtain ⟨rest,bytes⟩ := bytes_pair createdAt id
  unfold encodeRunCursor at none
  rw [none,bytes] at back
  cases back

theorem decodeRunCursor_encode : decodeRunCursor codec (encodeRunCursor createdAt id) =
    if createdAt = "" ∨ id = "" ∨ 2048 < (encodeRunCursor createdAt id).length then none else some (createdAt,id) := by
  have read : (Base64.decodeStrict (encodeRunCursor createdAt id)).bind (loads codec) = some (.array [.string createdAt,.string id]) := by
    rw [encodeRunCursor,Base64.decodeStrict_encode,Option.bind_some,loads,wide_dumps,if_neg Bool.false_ne_true,Utf8.decode_encode,
      Option.bind_some,Json.loads_dumps]
    rfl
  have filled := encodeRunCursor_ne_nil createdAt id
  unfold decodeRunCursor
  rw [read]
  dsimp only
  split_ifs with invalid <;> grind

end

theorem decodeRunCursor_eq {createdAt id : String} {last : String × String}
    (read : decodeRunCursor codec (encodeRunCursor createdAt id) = some last) : last = (createdAt,id) := by
  rw [decodeRunCursor_encode] at read
  split_ifs at read
  exact (Option.some.inj read).symm

def Points (cursor : List Char) (last : Option (String ×ₗ String)ᵒᵈ) : Prop :=
  cursor = [] ∧ last = none ∨ ∃ run : HistoryRow, cursor = encodeRunCursor run.createdAt run.id ∧ last = some (position run)

theorem behind_iff {last run : HistoryRow} : behind (last.createdAt,last.id) run = true ↔ position last < position run := by
  unfold behind position
  rw [OrderDual.toDual_lt_toDual,Prod.Lex.toLex_lt_toLex]
  simp

variable {cursor : List Char} {last : Option (String ×ₗ String)ᵒᵈ} {runs : List HistoryRow}

theorem filter_predicate (points : Points cursor last) {predicate : HistoryRow → Bool}
    (found : historyPredicate codec extract filters cursor = some predicate) :
    runs.filter predicate = KeysetPages.beyond position last (runs.filter (filters.admits extract)) := by
  unfold historyPredicate at found
  split_ifs at found with known start
  · cases found
    rcases points with ⟨_,rfl⟩ | ⟨run,written,_⟩
    · simp [KeysetPages.beyond]
    · exact absurd (written ▸ start) (encodeRunCursor_ne_nil _ _)
  · obtain ⟨read,decoded,rfl⟩ := Option.map_eq_some_iff.mp found
    rcases points with ⟨none,_⟩ | ⟨run,rfl,rfl⟩
    · exact absurd none start
    · rw [decodeRunCursor_eq decoded,KeysetPages.beyond,List.filter_filter]
      refine List.filter_congr fun other _ => ?_
      rw [Bool.and_comm]
      congr 1
      exact Bool.eq_iff_iff.mpr (behind_iff.trans (by simp))

theorem listRunPage_served (points : Points cursor last) {page : Page}
    (served : listRunPage codec extract limit filters cursor runs = some page) :
    page.items = KeysetPages.served position (pageSize limit) last (runs.filter (filters.admits extract)) ∧
      page.hasMore = KeysetPages.more position (pageSize limit) last (runs.filter (filters.admits extract)) ∧
      (page.hasMore = true → Points page.nextCursor (page.items.getLast?.map position)) := by
  obtain ⟨predicate,found,rfl⟩ := Option.map_eq_some_iff.mp served
  dsimp only
  rw [filter_predicate points found]
  refine ⟨?_,?_,fun more => ?_⟩
  · simp [KeysetPages.served,Pages.page,List.take_take]
  · unfold KeysetPages.more Pages.page
    rw [List.length_take,Pages.length_ordered]
    congr 1
    exact propext (by omega)
  · rw [if_pos (of_decide_eq_true more)]
    cases List.getLast? _ with
    | none => exact .inl ⟨rfl,rfl⟩
    | some run => exact .inr ⟨run,rfl,rfl⟩

variable {tables : Nat → List HistoryRow} {pages n : Nat}

theorem follow_traverse (points : Points cursor last) {result : Option (List HistoryRow)}
    (done : follow codec extract limit filters tables pages n cursor = some result) :
    result = KeysetPages.traverse position (pageSize limit) (fun n => (tables n).filter (filters.admits extract)) pages n last := by
  induction pages generalizing n cursor last result with
  | zero => exact (Option.some.inj done).symm
  | succ pages ih =>
    unfold follow at done
    obtain ⟨page,served,further⟩ := Option.bind_eq_some_iff.mp done
    obtain ⟨items,more,next⟩ := listRunPage_served points served
    unfold KeysetPages.traverse
    dsimp only
    rw [← more,← items]
    split_ifs at further with hasMore
    · obtain ⟨rest,others,rfl⟩ := Option.map_eq_some_iff.mp further
      rw [if_pos hasMore,ih (next hasMore) others]
    · rw [if_neg hasMore]
      exact (Option.some.inj further).symm

/-- A run as `create_run` stores it: its cursor is one that is accepted. -/
def Written (run : HistoryRow) : Prop :=
  run.createdAt ≠ "" ∧ run.id ≠ "" ∧ (encodeRunCursor run.createdAt run.id).length ≤ 2048

theorem written_plain {run : HistoryRow} (created : run.createdAt ≠ "") (named : run.id ≠ "") (time : Json.Plain run.createdAt)
    (name : Json.Plain run.id) (short : run.createdAt.toList.length + run.id.toList.length ≤ 300) : Written run := by
  refine ⟨created,named,?_⟩
  have text : Json.dumps [run.createdAt,run.id] =
      '[' :: '"' :: (run.createdAt.toList ++ ['"',',','"'] ++ run.id.toList ++ ['"',']']) := by
    simp [Json.dumps,List.intercalate_cons_cons,Json.writeString,Json.Plain.flatMap_escape time,Json.Plain.flatMap_escape name]
  have bytes := Utf8.encode_length_le (Json.dumps [run.createdAt,run.id])
  have chars := Base64.encode_length_le (Utf8.encode (Json.dumps [run.createdAt,run.id]))
  rw [text] at bytes chars
  simp only [List.length_cons,List.length_append,List.length_nil] at bytes
  rw [encodeRunCursor,text]
  omega

def Usable (cursor : List Char) : Prop := cursor = [] ∨ ∃ run : HistoryRow, Written run ∧ cursor = encodeRunCursor run.createdAt run.id

theorem historyPredicate_usable (known : filters.known) (usable : Usable cursor) :
    ∃ predicate, historyPredicate codec extract filters cursor = some predicate := by
  unfold historyPredicate
  rw [if_pos known]
  split_ifs with start
  · exact ⟨_,rfl⟩
  · obtain ⟨run,⟨created,named,short⟩,rfl⟩ := usable.resolve_left start
    rw [decodeRunCursor_encode,if_neg (by simp [created,named,short])]
    exact ⟨_,rfl⟩

theorem listRunPage_usable (known : filters.known) (usable : Usable cursor) (written : ∀ run ∈ runs, Written run) :
    ∃ page, listRunPage codec extract limit filters cursor runs = some page ∧ Usable page.nextCursor := by
  obtain ⟨predicate,found⟩ := @historyPredicate_usable codec extract filters cursor known usable
  refine ⟨_,congrArg (Option.map _) found,?_⟩
  dsimp only
  split_ifs
  · cases last : List.getLast? _ with
    | none => exact .inl rfl
    | some run =>
      have listed := Pages.page_mem (List.mem_of_mem_take (List.mem_of_getLast? last))
      exact .inr ⟨run,written run (List.mem_of_mem_filter listed),rfl⟩
  · exact .inl rfl

theorem follow_returns (known : filters.known) (written : ∀ n, ∀ run ∈ tables n, Written run) (usable : Usable cursor) :
    ∃ result, follow codec extract limit filters tables pages n cursor = some result := by
  induction pages generalizing n cursor with
  | zero => exact ⟨_,rfl⟩
  | succ pages ih =>
    obtain ⟨page,served,next⟩ := @listRunPage_usable codec extract filters limit cursor (tables n) known usable (written n)
    unfold follow
    rw [served,Option.bind_some]
    split_ifs with more
    · obtain ⟨rest,others⟩ := @ih page.nextCursor (n + 1) next
      rw [others]
      exact ⟨_,rfl⟩
    · exact ⟨_,rfl⟩

theorem pageSize_pos (limit : Int) : 0 < pageSize limit := by
  unfold pageSize
  omega

theorem positions_nodup {runs : List HistoryRow} (distinct : (runs.map HistoryRow.id).Nodup) (admits : HistoryRow → Bool) :
    ((runs.filter admits).map position).Nodup := by
  have ids : (runs.map position).map (fun key => (ofLex (OrderDual.ofDual key)).2) = runs.map HistoryRow.id := by
    rw [List.map_map]
    rfl
  have positions : (runs.map position).Nodup := List.Nodup.of_map _ (ids ▸ distinct)
  exact positions.sublist (List.filter_sublist.map position)

def Newer (first second : HistoryRow) : Prop :=
  second.createdAt < first.createdAt ∨ second.createdAt = first.createdAt ∧ second.id < first.id

theorem newer_iff {first second : HistoryRow} : Newer first second ↔ position first < position second := by
  unfold Newer position
  rw [OrderDual.toDual_lt_toDual,Prod.Lex.toLex_lt_toLex]

/-- Following the cursors through tables that only gain runs serves every run that the filter admitted at the start exactly once,
in order. Over stored runs no page fails, and tables of a bounded size are gone through. -/
theorem history_pages (codec : List UInt8 → Option (List Char)) (extract : String → Option Extracted) (filters : Filters) (limit : Int)
    (tables : Nat → List HistoryRow) (distinct : ∀ n, ((tables n).map HistoryRow.id).Nodup)
    (grows : ∀ n, (tables n).Sublist (tables (n + 1))) :
    (∀ pages all, follow codec extract limit filters tables pages 0 [] = some (some all) →
      all.Pairwise Newer ∧ (∀ run ∈ all, filters.admits extract run = true ∧ ∃ n, run ∈ tables n) ∧
        ∀ run ∈ tables 0, filters.admits extract run = true → all.count run = 1) ∧
    (filters.known → (∀ n, ∀ run ∈ tables n, Written run) →
      (∀ pages, ∃ result, follow codec extract limit filters tables pages 0 [] = some result) ∧
      ∀ bound, (∀ n, (tables n).length ≤ bound) → ∃ all, follow codec extract limit filters tables (bound + 1) 0 [] = some (some all)) ∧
    ∀ createdAt id, createdAt ≠ "" → id ≠ "" → (encodeRunCursor createdAt id).length ≤ 2048 →
      decodeRunCursor codec (encodeRunCursor createdAt id) = some (createdAt,id) := by
  have unique := fun n => positions_nodup (distinct n) (filters.admits extract)
  have start : Points [] none := .inl ⟨rfl,rfl⟩
  refine ⟨fun pages all done => ?_,fun known written => ?_,fun createdAt id created named short => ?_⟩
  · have served := (follow_traverse start done).symm
    have sorted := (KeysetPages.traverse_sorted unique (pageSize_pos limit) served).1
    refine ⟨sorted.imp newer_iff.mpr,fun run member => ?_,fun run member admitted => ?_⟩
    · obtain ⟨n,_,listed⟩ := KeysetPages.traverse_mem served member
      obtain ⟨there,admitted⟩ := List.mem_filter.mp listed
      exact ⟨admitted,n,there⟩
    · have stays : ∀ m, run ∈ tables m := by
        intro m
        induction m with
        | zero => exact member
        | succ m ih => exact (grows m).subset ih
      have listed := KeysetPages.traverse_serves unique (pageSize_pos limit) served
        (fun m _ => List.mem_filter.mpr ⟨stays m,admitted⟩) (fun _ none => absurd none (by simp))
      have nodup : all.Nodup := sorted.imp fun before same => absurd (congrArg position same) (ne_of_lt before)
      exact List.count_eq_one_of_mem nodup listed
  · have returns := fun pages => @follow_returns codec extract filters limit [] tables pages 0 known written (.inl rfl)
    refine ⟨returns,fun bound bounded => ?_⟩
    obtain ⟨result,done⟩ := returns (bound + 1)
    have ends := @KeysetPages.traverse_ends _ _ _ position (pageSize limit) none (fun n => (tables n).filter (filters.admits extract))
      (bound + 1) 0 unique (pageSize_pos limit) (fun n => (grows n).filter _) bound
      (fun n => (List.length_filter_le ..).trans (bounded n)) (by omega)
    rw [← follow_traverse start done] at ends
    obtain ⟨all,rfl⟩ := Option.isSome_iff_exists.mp ends
    exact ⟨all,done⟩
  · rw [decodeRunCursor_encode,if_neg (by simp [created,named,short])]

end
def nightly (id createdAt : String) : HistoryRow := { id,createdAt,status := .completed,profileId := "nightly" }

def grown (n : Nat) : List HistoryRow :=
  [nightly "ats_1" "2026-10-31T00:00:00Z",nightly "ats_3" "2026-10-31T00:00:01Z",nightly "ats_2" "2026-10-31T00:00:01Z"] ++
    if n = 0 then [] else [nightly "ats_0" "2026-10-31T00:00:02Z"]

theorem grown_cases (n : Nat) : grown n = grown 0 ∨ grown n = grown 1 := by
  cases n with
  | zero => exact .inl rfl
  | succ n => exact .inr rfl

theorem grown_pages : ∃ all, follow (fun _ => none) (fun _ => none) 2 {} grown 5 0 [] = some (some all) ∧ all.Pairwise Newer ∧
    all.count (nightly "ats_2" "2026-10-31T00:00:01Z") = 1 := by
  have distinct : ∀ n, ((grown n).map HistoryRow.id).Nodup := by
    intro n
    rcases grown_cases n with same | same <;> rw [same] <;> decide
  have grows : ∀ n, (grown n).Sublist (grown (n + 1)) := by
    intro n
    rcases grown_cases n with same | same
    · exact same ▸ List.sublist_append_left ..
    · exact same ▸ List.Sublist.refl _
  have plain : ∀ n, ∀ run ∈ grown n, run.createdAt ≠ "" ∧ run.id ≠ "" ∧ Json.Plain run.createdAt ∧ Json.Plain run.id ∧
      run.createdAt.toList.length + run.id.toList.length ≤ 300 := by
    intro n
    rcases grown_cases n with same | same
    · rw [same]
      decide +kernel
    · rw [same]
      decide +kernel
  have bounded : ∀ n, (grown n).length ≤ 4 := by
    intro n
    rcases grown_cases n with same | same <;> rw [same] <;> decide
  obtain ⟨whole,returns,_⟩ := history_pages (fun _ => none) (fun _ => none) {} 2 grown distinct grows
  obtain ⟨all,done⟩ := (returns (.inl rfl) fun n run member =>
    have row := plain n run member
    written_plain row.1 row.2.1 row.2.2.1 row.2.2.2.1 row.2.2.2.2).2 4 bounded
  obtain ⟨ordered,_,once⟩ := whole 5 all done
  exact ⟨all,done,ordered,once _ (by simp [grown]) (by decide +kernel)⟩

end RunHistory
end GmsRemoteTest.Automation
