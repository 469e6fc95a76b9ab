import GmsRemoteTest.Lib.Numbered
import GmsRemoteTest.Lib.Runs
import Mathlib.Data.List.Sort

/-! The timeline of an issue's analysis and a client that polls it. Events are numbered from the current maximum, so a
new analysis numbers them from one again, whatever the client's cursor. -/
namespace GmsRemoteTest.Redmine.AnalysisEvents
open Runs Numbered

def eventTypes : List String :=
  ["analysis_started","session_started","stage_changed","tool_started","tool_completed","tool_failed","progress",
    "analysis_completed","analysis_failed"]

structure Event where
  eventType : String
  stage : String
  toolName : String
  status : String
  summary : String
  durationMs : Int
  createdAt : String
deriving DecidableEq

/-- The run and the issue of a timeline. -/
abbrev Key := String × Int

structure Row where
  key : Key
  sequence : Nat
  event : Event
deriving DecidableEq

/-- The rows of `redmine_daily_brief_analysis_events` in the order they were inserted. -/
abbrev Store := List Row

def timeline (store : Store) (key : Key) : List Row := store.filter (·.key = key)

def reset (key : Key) (store : Store) : Store := store.filter (·.key ≠ key)

def nextSequence (store : Store) (key : Key) : Nat := ((timeline store key).map (·.sequence)).foldl max 0 + 1

section append
variable (scrub : String → String)

def shortened (limit : Nat) (text : String) : String := String.ofList (text.toList.take limit)

def stored (event : Event) (now : String) : Event where
  eventType := event.eventType
  stage := shortened 64 (scrub event.stage)
  toolName := shortened 128 (scrub event.toolName)
  status := shortened 32 (scrub event.status)
  summary := scrub event.summary
  durationMs := max 0 event.durationMs
  createdAt := if event.createdAt = "" then now else event.createdAt

def newRow (store : Store) (key : Key) (event : Event) (now : String) : Row :=
  ⟨key,nextSequence store key,stored scrub event now⟩

/-- `append(run_id, issue_id, event)`; an event of an unknown type raises `ValueError`. -/
def append (store : Store) (key : Key) (event : Event) (now : String) : Except String (Nat × Store) :=
  if event.eventType ∉ eventTypes then .error ("unknown analysis event type: " ++ event.eventType)
  else .ok (nextSequence store key,store++[newRow scrub store key event now])

end append

def listAfter (store : Store) (key : Key) (after limit : Nat) : List Row :=
  (((timeline store key).filter (after < ·.sequence)).mergeSort (·.sequence ≤ ·.sequence)).take (max 1 (min limit 200))

def getIssueAnalysisEvents (store : Store) (key : Key) (after limit : Nat) : List Row × Nat :=
  let events := listAfter store key after limit
  (events,(events.getLast?.map (·.sequence)).getD after)

/-- The store, and a client of one timeline with all it received. -/
structure World where
  store : Store
  cursor : Nat
  received : List Row

inductive Step
  | append (key : Key) (event : Event) (now : String)
  | reset (key : Key)
  | poll (limit : Nat)
deriving DecidableEq

variable (scrub : String → String) (key : Key)

def apply (step : Step) (world : World) : World :=
  match step with
  | .append other event now => match append scrub world.store other event now with
    | .ok (_,store) => {world with store}
    | .error _ => world
  | .reset other => {world with store := reset other world.store}
  | .poll limit =>
    let (events,next) := getIssueAnalysisEvents world.store key world.cursor limit
    {world with cursor := next, received := world.received++events}

def start : World := ⟨[],0,[]⟩

def isPoll : Step → Bool
  | .poll _ => true
  | _ => false

def Quiet (steps : List Step) : Prop := .reset key ∉ steps

/-- In every continuation without a reset the client gets, in order and each once, what is behind its cursor; and it has got the
row by the time it has polled as often as the row's number. -/
def Delivered (world : World) (row : Row) : Prop :=
  ∀ steps, Quiet key steps →
    let later := exec (apply scrub key) world steps
    let got := later.received.drop world.received.length
    (got.map (·.sequence)).Pairwise (· < ·) ∧ got <+: (timeline later.store key).filter (world.cursor < ·.sequence) ∧
      (row.sequence ≤ steps.countP isPoll → row ∈ got)

variable {scrub key} {store : Store} {other : Key}

theorem timeline_reset : timeline (reset key store) key = [] := by
  simp [timeline,reset,List.filter_filter]

theorem timeline_reset_other (different : other ≠ key) : timeline (reset other store) key = timeline store key := by
  unfold timeline reset
  rw [List.filter_filter]
  refine List.filter_congr fun row _ => ?_
  by_cases same : row.key = key
  · simp [same,different.symm]
  · simp [same]

theorem timeline_append (event : Event) (now : String) :
    timeline (store++[newRow scrub store key event now]) key = timeline store key ++ [newRow scrub store key event now] := by
  simp [timeline,newRow]

theorem timeline_append_other (different : other ≠ key) (event : Event) (now : String) :
    timeline (store++[newRow scrub store other event now]) key = timeline store key := by
  simp [timeline,newRow,different]

def Consecutive (store : Store) (key : Key) : Prop := From (·.sequence) 1 (timeline store key)

section
variable (consecutive : Consecutive store key)
include consecutive

theorem Consecutive.nextSequence_eq :
    nextSequence store key = (timeline store key).length + 1 := From.next consecutive

theorem Consecutive.length_of_sequence {index : Nat} (bound : index < (timeline store key).length) :
    ((timeline store key)[index]).sequence = 1 + index := From.getElem consecutive index bound

theorem Consecutive.pairwise :
    (timeline store key).Pairwise fun first second => first.sequence < second.sequence := by
  have ordered : ((timeline store key).map (·.sequence)).Pairwise (· < ·) := by
    rw [show (timeline store key).map (·.sequence) = _ from consecutive]
    exact List.pairwise_lt_range'
  exact List.pairwise_map.mp ordered

theorem Consecutive.behind (cursor : Nat) :
    (timeline store key).filter (cursor < ·.sequence) = (timeline store key).drop cursor := by
  have before : ∀ row ∈ (timeline store key).take cursor, ¬cursor < row.sequence := by
    intro row member
    obtain ⟨index,bound,rfl⟩ := List.getElem_of_mem member
    rw [List.length_take] at bound
    rw [List.getElem_take,consecutive.length_of_sequence]
    omega
  have after : ∀ row ∈ (timeline store key).drop cursor, cursor < row.sequence := by
    intro row member
    obtain ⟨index,bound,rfl⟩ := List.getElem_of_mem member
    rw [List.length_drop] at bound
    rw [List.getElem_drop,consecutive.length_of_sequence (by omega)]
    omega
  calc (timeline store key).filter (cursor < ·.sequence)
      = ((timeline store key).take cursor ++ (timeline store key).drop cursor).filter (cursor < ·.sequence) := by
        rw [List.take_append_drop]
    _ = (timeline store key).drop cursor := by
        rw [List.filter_append,List.filter_eq_nil_iff.mpr (by simpa using before),List.filter_eq_self.mpr (by simpa using after),
          List.nil_append]

theorem Consecutive.listAfter_eq (after limit : Nat) :
    listAfter store key after limit = ((timeline store key).drop after).take (max 1 (min limit 200)) := by
  have sorted : ((timeline store key).drop after).Pairwise fun first second => (first.sequence ≤ second.sequence) = true := by
    refine (consecutive.pairwise.sublist (List.drop_sublist ..)).imp fun before => ?_
    simpa using Nat.le_of_lt before
  rw [listAfter,consecutive.behind,List.mergeSort_of_pairwise]
  simpa using sorted

theorem Consecutive.page (after limit : Nat) :
    ∃ count, getIssueAnalysisEvents store key after limit = (((timeline store key).drop after).take count,after + count) ∧
      count ≤ (timeline store key).length - after ∧ (after < (timeline store key).length → 0 < count) := by
  have page := consecutive.listAfter_eq after limit
  rw [List.take_eq_take_min,List.length_drop] at page
  generalize size : min (max 1 (min limit 200)) ((timeline store key).length - after) = count at page
  refine ⟨count,?_,by omega,by omega⟩
  rw [getIssueAnalysisEvents,page]
  refine Prod.ext rfl ?_
  rw [List.getLast?_eq_getElem?,List.length_take,List.length_drop]
  cases count with
  | zero => simp
  | succ count =>
    have bound : after + count < (timeline store key).length := by omega
    have last : min (count + 1) ((timeline store key).length - after) - 1 = count := by omega
    rw [last,List.getElem?_take_of_lt (Nat.lt_succ_self _),List.getElem?_drop,List.getElem?_eq_getElem bound]
    change ((timeline store key)[after + count]).sequence = _
    rw [consecutive.length_of_sequence bound]
    omega

theorem Consecutive.reset : Consecutive (reset other store) key := by
  by_cases same : other = key
  · rw [same,Consecutive,timeline_reset]
    rfl
  · rwa [Consecutive,timeline_reset_other same]

theorem Consecutive.append (event : Event) (now : String) :
    Consecutive (store++[newRow scrub store other event now]) key := by
  by_cases same : other = key
  · subst same
    rw [Consecutive,timeline_append]
    refine From.append consecutive ?_
    rw [From,List.map_singleton,newRow,consecutive.nextSequence_eq,Nat.add_comm]
    rfl
  · rwa [Consecutive,timeline_append_other same]

end

theorem apply_append (world : World) (event : Event) (now : String) : apply scrub key (.append other event now) world =
    if event.eventType ∈ eventTypes then {world with store := world.store++[newRow scrub world.store other event now]} else world := by
  by_cases known : event.eventType ∈ eventTypes
  · simp [apply,append,known]
  · simp [apply,append,known]

section
variable {world : World} (consecutive : Consecutive world.store key)
include consecutive

theorem apply_quiet {step : Step} (quiet : step ≠ .reset key) :
    (∃ more, timeline (apply scrub key step world).store key = timeline world.store key ++ more) ∧
    ∃ count, (apply scrub key step world).cursor = world.cursor + count ∧
      (apply scrub key step world).received = world.received ++ ((timeline world.store key).drop world.cursor).take count ∧
      count ≤ (timeline world.store key).length - world.cursor ∧
      (isPoll step → world.cursor < (timeline world.store key).length → 0 < count) := by
  cases step with
  | append other event now =>
    rw [apply_append]
    by_cases known : event.eventType ∈ eventTypes
    · rw [if_pos known]
      refine ⟨?_,0,rfl,by simp,Nat.zero_le _,by simp [isPoll]⟩
      by_cases same : other = key
      · subst same
        exact ⟨_,timeline_append event now⟩
      · exact ⟨[],by rw [List.append_nil]; exact timeline_append_other same event now⟩
    · rw [if_neg known]
      exact ⟨⟨[],(List.append_nil _).symm⟩,0,rfl,by simp,Nat.zero_le _,by simp [isPoll]⟩
  | reset other =>
    have different : other ≠ key := fun same => quiet (same ▸ rfl)
    exact ⟨⟨[],by rw [List.append_nil]; exact timeline_reset_other different⟩,0,rfl,by simp [apply],Nat.zero_le _,by simp [isPoll]⟩
  | poll limit =>
    obtain ⟨count,page,within,some⟩ := consecutive.page world.cursor limit
    refine ⟨⟨[],(List.append_nil _).symm⟩,count,?_,?_,within,fun _ => some⟩
    · simp only [apply,page]
    · simp only [apply,page]

theorem Consecutive.apply (step : Step) :
    Consecutive (AnalysisEvents.apply scrub key step world).store key := by
  cases step with
  | append other event now =>
    rw [apply_append]
    split
    · exact Consecutive.append consecutive event now
    · exact consecutive
  | reset other => exact Consecutive.reset consecutive
  | poll limit => exact consecutive

theorem exec_quiet {steps : List Step} (quiet : Quiet key steps) :
    Consecutive (exec (apply scrub key) world steps).store key ∧
    (∃ more, timeline (exec (apply scrub key) world steps).store key = timeline world.store key ++ more) ∧
    ∃ count, (exec (apply scrub key) world steps).received =
        world.received ++ ((timeline (exec (apply scrub key) world steps).store key).drop world.cursor).take count ∧
      count ≤ (timeline (exec (apply scrub key) world steps).store key).length - world.cursor ∧
      min (steps.countP isPoll) ((timeline world.store key).length - world.cursor) ≤ count := by
  induction steps generalizing world with
  | nil => exact ⟨consecutive,⟨[],(List.append_nil _).symm⟩,0,by simp,Nat.zero_le _,by simp⟩
  | cons step steps ih =>
    have ⟨first,rest⟩ : step ≠ .reset key ∧ Quiet key steps := by
      simpa [Quiet,eq_comm] using quiet
    obtain ⟨⟨more,grown⟩,count,cursor,received,within,some⟩ := @apply_quiet scrub key world consecutive step first
    obtain ⟨final,⟨others,last⟩,further,got,most,least⟩ := ih (consecutive.apply step) rest
    rw [exec_cons]
    rw [grown] at last least
    refine ⟨final,⟨more++others,by rw [last,List.append_assoc]⟩,count + further,?_,?_,?_⟩
    · rw [got,received,cursor,last,List.append_assoc,List.take_add,List.drop_drop]
      congr 2
      rw [List.append_assoc,List.drop_append,List.take_append_of_le_length]
      rw [List.length_drop]
      omega
    · rw [cursor] at most
      rw [last] at most ⊢
      simp only [List.length_append] at most ⊢
      omega
    · rw [List.countP_cons]
      rw [cursor,List.length_append] at least
      cases poll : isPoll step with
      | true =>
        have := some (by rw [poll])
        simp only [if_true]
        omega
      | false =>
        simp only [Bool.false_eq_true,if_false]
        omega

end

theorem consecutive_nil : Consecutive [] key := rfl

theorem reached_consecutive {world : World} (reached : Reached (apply scrub key) (fun _ _ => True) start world) :
    Consecutive world.store key :=
  reached.invariant (fun world => Consecutive world.store key) consecutive_nil fun _ step consecutive _ => consecutive.apply step

theorem not_delivered {world : World} {row : Row} (passed : row.sequence ≤ world.cursor) : ¬Delivered scrub key world row := by
  intro delivered
  obtain ⟨_,page,arrives⟩ := delivered (List.replicate row.sequence (.poll 100)) (by simp [Quiet,List.mem_replicate])
  have member := page.subset (arrives (by simp [List.countP_replicate,isPoll]))
  have behind := (List.mem_filter.mp member).2
  rw [decide_eq_true_eq] at behind
  exact Nat.not_lt_of_le passed behind

/-- An event reaches the client exactly when the cursor is not beyond the timeline it is appended to. -/
theorem delivered_iff_cursor (scrub : String → String) (key : Key) {world : World}
    (reached : Reached (apply scrub key) (fun _ _ => True) start world) (event : Event) (known : event.eventType ∈ eventTypes)
    (now : String) :
    Delivered scrub key (apply scrub key (.append key event now) world) (newRow scrub world.store key event now) ↔
      world.cursor ≤ (timeline world.store key).length := by
  have before := reached_consecutive reached
  have consecutive : Consecutive (apply scrub key (.append key event now) world).store key := before.apply _
  have number : (newRow scrub world.store key event now).sequence = (timeline world.store key).length + 1 := before.nextSequence_eq
  rw [apply_append,if_pos known] at consecutive ⊢
  have grown := @timeline_append scrub key world.store event now
  constructor
  · intro delivered
    by_contra beyond
    refine not_delivered ?_ delivered
    change (newRow scrub world.store key event now).sequence ≤ world.cursor
    omega
  · intro within steps quiet
    obtain ⟨final,⟨more,last⟩,count,received,most,least⟩ := @exec_quiet scrub key _ consecutive steps quiet
    dsimp only
    rw [received,List.drop_left]
    refine ⟨?_,?_,fun polled => ?_⟩
    · exact List.pairwise_map.mpr (final.pairwise.sublist ((List.take_sublist ..).trans (List.drop_sublist ..)))
    · rw [final.behind]
      exact List.take_prefix ..
    · dsimp only at last least most ⊢
      rw [grown] at last least
      rw [number] at polled
      rw [List.length_append,List.length_singleton] at least
      rw [last,List.append_assoc,List.drop_append_of_le_length within,List.take_append]
      refine List.mem_append_right _ ?_
      obtain ⟨extra,enough⟩ : ∃ extra, count - ((timeline world.store key).drop world.cursor).length = extra + 1 := by
        rw [List.length_drop]
        exact ⟨count - ((timeline world.store key).length - world.cursor) - 1,by omega⟩
      rw [enough]
      exact List.mem_cons_self ..

def progressEvent : Event := ⟨"progress","","","","",0,""⟩

theorem delivered_first : Delivered id ("run",1) (apply id ("run",1) (.append ("run",1) progressEvent "") start)
    (newRow id [] ("run",1) progressEvent "") :=
  (delivered_iff_cursor id ("run",1) .start progressEvent (by decide) "").mpr (Nat.zero_le _)

def reanalysed : World :=
  exec (apply id ("run",1)) start [.append ("run",1) progressEvent "",.poll 100,.reset ("run",1)]

theorem lost_after_reset : Reached (apply id ("run",1)) (fun _ _ => True) start reanalysed ∧
    ¬Delivered id ("run",1) (apply id ("run",1) (.append ("run",1) progressEvent "") reanalysed)
      (newRow id reanalysed.store ("run",1) progressEvent "") := by
  refine ⟨Reached.start.along _ (Along.all (fun _ _ => trivial) _ _),not_delivered ?_⟩
  have read : listAfter [newRow id [] ("run",1) progressEvent ""] ("run",1) 0 100 = [newRow id [] ("run",1) progressEvent ""] := by
    have consecutive : Consecutive [newRow id [] ("run",1) progressEvent ""] ("run",1) := consecutive_nil.append progressEvent ""
    rw [consecutive.listAfter_eq]
    rfl
  have cursor : reanalysed.cursor = 1 := by
    change (getIssueAnalysisEvents [newRow id [] ("run",1) progressEvent ""] ("run",1) 0 100).2 = 1
    rw [getIssueAnalysisEvents,read]
    rfl
  have cleared : timeline reanalysed.store ("run",1) = [] := timeline_reset
  change nextSequence reanalysed.store ("run",1) ≤ reanalysed.cursor
  rw [nextSequence,cleared,cursor]
  rfl

end GmsRemoteTest.Redmine.AnalysisEvents
