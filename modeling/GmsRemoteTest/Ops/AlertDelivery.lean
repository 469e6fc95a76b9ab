import Mathlib.Data.String.Basic
import Mathlib.Data.Prod.Lex
import GmsRemoteTest.Lib.Pages
import GmsRemoteTest.Lib.Runs
import GmsRemoteTest.Lib.Table

/-! Delivery of the recorded alerts. Each pass takes the oldest undelivered events, leaves out those whose backoff is not
over, and dispatches the others. A sweep makes a pass before it evaluates the snapshot and one after. -/
namespace GmsRemoteTest.Ops
open Runs

inductive NotifyState
  | pending
  | failed
  | sent
  | skipped
deriving DecidableEq

/-- The columns of `ops_events` that delivery reads and writes. -/
structure Event where
  id : String
  createdAt : String
  notifiedAt : String
  notifyState : NotifyState
  notifyAttempts : Nat

def Event.Undelivered (event : Event) : Prop := event.notifyState = .pending ∨ event.notifyState = .failed

instance (event : Event) : Decidable event.Undelivered := inferInstanceAs (Decidable (_ ∨ _))

def Event.marked (state : NotifyState) (attempts : Nat) (stamp : String) (event : Event) : Event :=
  {event with notifyState := state, notifyAttempts := attempts, notifiedAt := if state = .sent then stamp else ""}

/-- The table; `id` is its primary key. -/
structure Ledger where
  events : List Event
  distinct : (events.map (·.id)).Nodup

namespace Ledger
variable (ledger : Ledger)

/-- `created_at ASC, id ASC`. -/
def key (event : Event) : String ×ₗ String := toLex (event.createdAt,event.id)

def undelivered : List Event := Table.select (·.Undelivered) ledger.events

def pendingEvents (limit : Nat) : List Event := Pages.page key (max 1 (min limit 100)) ledger.undelivered

def recordIncident (id createdAt : String) : Ledger :=
  if fresh : ∀ event ∈ ledger.events, event.id ≠ id then
    ⟨ledger.events++[⟨id,createdAt,"",.pending,0⟩],Table.nodup_insert ledger.distinct fresh⟩
  else ledger

def markDeliveryState (id : String) (state : NotifyState) (attempts : Nat) (stamp : String) : Ledger where
  events := Table.update (·.id = id) (Event.marked state attempts stamp) ledger.events
  distinct := by
    have same : ∀ event : Event, event.id = id → (event.marked state attempts stamp).id = event.id := fun _ _ => rfl
    rw [Table.map_update _ same]
    exact ledger.distinct

end Ledger

inductive OverflowError
  | intTooLarge
deriving DecidableEq

def maxExponent : Nat := 1024

def float (power : Nat) : Except OverflowError Nat := if power < 2 ^ maxExponent then .ok power else .error .intTooLarge

/-- `ops_alerts` of the configuration, and whether each transport succeeds when it is called. -/
structure Transports where
  enabled : Bool
  webhookUrl : Bool
  emailTo : Bool
  webhookSent : Bool
  emailSent : Bool

def notifyIncident (transports : Transports) : List Bool × Option Bool :=
  if transports.enabled then
    let results := (if transports.webhookUrl then [transports.webhookSent] else []) ++
      (if transports.emailTo then [transports.emailSent] else [])
    (results,some (if results.isEmpty then true else results.all id))
  else ([],none)

/-- The outcome `_dispatch` makes of an answer; none when the call raised. -/
def outcome : Option (List Bool × Option Bool) → Bool
  | none => false
  | some (_,some ok) => ok
  | some (sent,none) => !sent.isEmpty && sent.all id

/-- What an event meets when its turn comes: the clock in microseconds and its text, the transports, and whether
`notify_incident` raises. -/
structure Visit where
  now : Int
  stamp : String
  transports : Transports
  raises : Bool

def Visit.ok (visit : Visit) : Bool := outcome (if visit.raises then none else some (notifyIncident visit.transports))

/-- A call of `notify_incident`, with the attempts that are recorded after it. -/
structure Dispatch where
  id : String
  sweep : Nat
  now : Int
  attempts : Nat
  ok : Bool

/-- The ledger, how many sweeps have begun, and the dispatches made, the last one first. -/
structure World where
  ledger : Ledger
  sweeps : Nat
  dispatches : List Dispatch

def World.start (ledger : Ledger) : World := ⟨ledger,0,[]⟩

def lastOf (dispatches : List Dispatch) (id : String) : Option Dispatch := dispatches.find? (·.id = id)

abbrev Pass := String → Visit

inductive Act
  | begins
  | deliver (pass : Pass)
  | record (id createdAt : String)
  | skip (id stamp : String)

def maxRetryEvents : Nat := 20

def backoff (failures : Nat) : Int := (min 1800 (60 * 2 ^ (failures - 1)) : Nat) * 1000000

section
-- the instant `_parse_iso` reads from a text, in microseconds
variable (parseIso : String → Option Int)

def notifyBackoffReady (event : Event) (now : Int) : Except OverflowError Bool :=
  if event.notifyAttempts = 0 then .ok true
  else match float (2 ^ (event.notifyAttempts - 1)) with
    | .error error => .error error
    | .ok factor => match parseIso event.createdAt with
      | none => .ok true
      | some created => .ok (decide ((min 1800 (60 * factor) : Nat) * 1000000 ≤ now - created))

def dispatch (world : World) (event : Event) (visit : Visit) : World :=
  ⟨world.ledger.markDeliveryState event.id (if visit.ok then .sent else .failed) (event.notifyAttempts + 1) visit.stamp,
    world.sweeps,⟨event.id,world.sweeps,visit.now,event.notifyAttempts + 1,visit.ok⟩ :: world.dispatches⟩

def turn (pass : Pass) (world : World) (event : Event) : World :=
  match notifyBackoffReady parseIso event (pass event.id).now with
  | .ok true => dispatch world event (pass event.id)
  | .ok false | .error _ => world

def deliverPending (pass : Pass) (world : World) : World :=
  (world.ledger.pendingEvents maxRetryEvents).foldl (turn parseIso pass) world

def apply (act : Act) (world : World) : World :=
  match act with
  | .begins => {world with sweeps := world.sweeps + 1}
  | .deliver pass => deliverPending parseIso pass world
  | .record id createdAt => {world with ledger := world.ledger.recordIncident id createdAt}
  | .skip id stamp => {world with ledger := world.ledger.markDeliveryState id .skipped 0 stamp}

end

def runOpsSweep (first : Pass) : Option (List (String × String) × Pass) → List Act
  | none => [.begins,.deliver first]
  | some (recorded,second) =>
    .begins :: .deliver first :: recorded.map (fun incident => .record incident.1 incident.2) ++ [.deliver second]

/-- Of two consecutive dispatches of an event, the second comes no sooner than the backoff after the first, if that failed. -/
def Spaced (dispatches : List Dispatch) : Prop :=
  ∀ after between before first second, dispatches = after ++ second :: between ++ first :: before → second.id = first.id →
    (∀ other ∈ between, other.id ≠ first.id) → first.ok = false → backoff first.attempts ≤ second.now - first.now

/-- No event is dispatched twice in a sweep. -/
def OncePerSweep (dispatches : List Dispatch) : Prop := (dispatches.map fun dispatch => (dispatch.sweep,dispatch.id)).Nodup

theorem sent_over (event : Event) (sent : event.notifyState = .sent) : ¬event.Undelivered := by
  simp [Event.Undelivered,sent]

theorem skipped_over (event : Event) (skipped : event.notifyState = .skipped) : ¬event.Undelivered := by
  simp [Event.Undelivered,skipped]

theorem float_ok {power : Nat} : (∃ factor, float power = .ok factor) ↔ power < 2 ^ maxExponent := by
  unfold float
  split
  next small => exact ⟨fun _ => small,fun _ => ⟨power,rfl⟩⟩
  next large => exact ⟨fun ⟨_,same⟩ => (nomatch same),fun small => absurd small large⟩

namespace Ledger
variable {ledger : Ledger} {event row : Event} {id createdAt stamp : String} {state : NotifyState} {attempts : Nat}

theorem mem_undelivered : row ∈ ledger.undelivered ↔ row ∈ ledger.events ∧ row.Undelivered := Table.mem_select

theorem eq_of_id {first second : Event} (left : first ∈ ledger.events) (right : second ∈ ledger.events) (same : first.id = second.id) :
    first = second := Table.eq_of_key ledger.distinct left right same

theorem pending_mem {limit : Nat} (member : row ∈ ledger.pendingEvents limit) : row ∈ ledger.undelivered := Pages.page_mem member

theorem undelivered_nodup : ledger.undelivered.Nodup := (ledger.distinct.of_map _).filter _

theorem pending_nodup {limit : Nat} : (ledger.pendingEvents limit).Nodup := Pages.nodup_page undelivered_nodup

theorem mark_other (different : row.id ≠ id) : row ∈ (ledger.markDeliveryState id state attempts stamp).events ↔ row ∈ ledger.events := by
  simp only [markDeliveryState,Table.mem_update]
  constructor
  · rintro ⟨old,member,same⟩
    split at same
    next chosen => exact absurd (same ▸ chosen) different
    next => exact same ▸ member
  · intro member
    exact ⟨row,member,if_neg different⟩

theorem mark_same (member : event ∈ ledger.events) :
    event.marked state attempts stamp ∈ (ledger.markDeliveryState event.id state attempts stamp).events :=
  Table.mem_update.mpr ⟨event,member,if_pos rfl⟩

theorem mark_undelivered (different : row.id ≠ id) :
    row ∈ (ledger.markDeliveryState id state attempts stamp).undelivered ↔ row ∈ ledger.undelivered := by
  rw [mem_undelivered,mem_undelivered,mark_other different]

theorem mark_over (final : ∀ event : Event, event.notifyState = state → ¬event.Undelivered) :
    row ∈ (ledger.markDeliveryState id state attempts stamp).undelivered ↔ row ∈ ledger.undelivered ∧ row.id ≠ id := by
  by_cases same : row.id = id
  · refine ⟨fun member => ?_,fun ⟨_,different⟩ => absurd same different⟩
    obtain ⟨stored,waits⟩ := mem_undelivered.mp member
    obtain ⟨old,_,rewritten⟩ := Table.mem_update.mp stored
    split at rewritten
    next => exact absurd waits (final row (rewritten ▸ rfl))
    next other => exact absurd (rewritten ▸ same) other
  · rw [mark_undelivered same]
    exact ⟨fun member => ⟨member,same⟩,And.left⟩

theorem record_events : ledger.recordIncident id createdAt = ledger ∨ (∀ event ∈ ledger.events, event.id ≠ id) ∧
    (ledger.recordIncident id createdAt).events = ledger.events ++ [⟨id,createdAt,"",.pending,0⟩] := by
  by_cases fresh : ∀ event ∈ ledger.events, event.id ≠ id
  · exact .inr ⟨fresh,by rw [recordIncident,dif_pos fresh]⟩
  · exact .inl (by rw [recordIncident,dif_neg fresh])

end Ledger

theorem backoffReady_ok (parseIso : String → Option Int) (event : Event) (now : Int) :
    (∃ ready, notifyBackoffReady parseIso event now = .ok ready) ↔ event.notifyAttempts ≤ 1024 := by
  unfold notifyBackoffReady
  by_cases fresh : event.notifyAttempts = 0
  · rw [if_pos fresh,fresh]
    exact ⟨fun _ => Nat.zero_le _,fun _ => ⟨true,rfl⟩⟩
  · have range : (∃ factor, float (2 ^ (event.notifyAttempts - 1)) = .ok factor) ↔ event.notifyAttempts - 1 < maxExponent :=
      float_ok.trans (Nat.pow_lt_pow_iff_right (by decide))
    have within : event.notifyAttempts ≤ 1024 ↔ event.notifyAttempts - 1 < maxExponent := by
      unfold maxExponent
      omega
    rw [if_neg fresh,within,← range]
    cases float (2 ^ (event.notifyAttempts - 1)) with
    | error error => exact ⟨fun ⟨_,same⟩ => (nomatch same),fun ⟨_,same⟩ => (nomatch same)⟩
    | ok factor =>
      refine ⟨fun _ => ⟨factor,rfl⟩,fun _ => ?_⟩
      cases parseIso event.createdAt with
      | none => exact ⟨_,rfl⟩
      | some created => exact ⟨_,rfl⟩

section
variable {parseIso : String → Option Int} {pass : Pass} {world : World} {event row : Event}

theorem turn_cases : (notifyBackoffReady parseIso event (pass event.id).now = .ok true ∧
    turn parseIso pass world event = dispatch world event (pass event.id)) ∨ turn parseIso pass world event = world := by
  unfold turn
  cases check : notifyBackoffReady parseIso event (pass event.id).now with
  | error error => exact .inr rfl
  | ok ready =>
    cases ready with
    | false => exact .inr rfl
    | true => exact .inl ⟨rfl,rfl⟩

theorem turn_undelivered (different : row.id ≠ event.id) :
    row ∈ (turn parseIso pass world event).ledger.undelivered ↔ row ∈ world.ledger.undelivered := by
  rcases @turn_cases parseIso pass world event with ⟨_,sent⟩ | same
  · rw [sent]
    exact Ledger.mark_undelivered different
  · rw [same]

end

def OnTime (parseIso : String → Option Int) (pass : Pass) (world : World) (event : Event) : Prop :=
  notifyBackoffReady parseIso event (pass event.id).now = .ok true → ∀ last, lastOf world.dispatches event.id = some last →
    last.sweep ≠ world.sweeps ∧ backoff event.notifyAttempts ≤ (pass event.id).now - last.now

/-- Every pass is on time, event by event. -/
def Timely (parseIso : String → Option Int) (world : World) : Act → Prop
  | .deliver pass => Along (turn parseIso pass) (OnTime parseIso pass) world (world.ledger.pendingEvents maxRetryEvents)
  | _ => True

structure Sound (world : World) : Prop where
  failed : ∀ row ∈ world.ledger.undelivered, ∀ last, lastOf world.dispatches row.id = some last →
    last.ok = false ∧ last.attempts = row.notifyAttempts
  known : ∀ dispatch ∈ world.dispatches, ∃ row ∈ world.ledger.events, row.id = dispatch.id
  ordered : world.dispatches.Pairwise fun newer older => older.sweep ≤ newer.sweep
  bound : ∀ dispatch ∈ world.dispatches, dispatch.sweep ≤ world.sweeps
  spaced : Spaced world.dispatches
  once : OncePerSweep world.dispatches

theorem lastOf_cons_same {dispatches : List Dispatch} {first : Dispatch} : lastOf (first::dispatches) first.id = some first := by
  simp [lastOf]

theorem lastOf_cons_other {dispatches : List Dispatch} {first : Dispatch} {id : String} (different : first.id ≠ id) :
    lastOf (first::dispatches) id = lastOf dispatches id := by
  simp [lastOf,different]

theorem lastOf_append {between before : List Dispatch} {last : Dispatch} (others : ∀ other ∈ between, other.id ≠ last.id) :
    lastOf (between ++ last :: before) last.id = some last := by
  have none : between.find? (·.id = last.id) = none := by simpa using others
  simp [lastOf,List.find?_append,none]

theorem lastOf_isSome {dispatches : List Dispatch} {dispatch : Dispatch} (member : dispatch ∈ dispatches) :
    ∃ last, lastOf dispatches dispatch.id = some last ∧ last ∈ dispatches ∧
      (dispatches.Pairwise (fun newer older => older.sweep ≤ newer.sweep) → dispatch.sweep ≤ last.sweep) := by
  induction dispatches with
  | nil => exact nomatch member
  | cons first rest ih =>
    by_cases same : first.id = dispatch.id
    · refine ⟨first,same ▸ lastOf_cons_same,List.mem_cons_self ..,fun ordered => ?_⟩
      rcases List.mem_cons.mp member with rfl | later
      · exact le_rfl
      · exact (List.pairwise_cons.mp ordered).1 dispatch later
    · have later : dispatch ∈ rest := (List.mem_cons.mp member).resolve_left fun equal => same (equal ▸ rfl)
      obtain ⟨last,found,there,newer⟩ := ih later
      exact ⟨last,(lastOf_cons_other same).trans found,List.mem_cons_of_mem _ there,fun ordered =>
        newer (List.pairwise_cons.mp ordered).2⟩

theorem spaced_nil : Spaced [] := by
  intro after between before first second split
  cases after with
  | nil => exact nomatch split
  | cons later after => exact nomatch split

theorem Spaced.cons {dispatches : List Dispatch} {newest : Dispatch} (spaced : Spaced dispatches)
    (apart : ∀ last, lastOf dispatches newest.id = some last → last.ok = false → backoff last.attempts ≤ newest.now - last.now) :
    Spaced (newest::dispatches) := by
  intro after between before first second split same others failed
  cases after with
  | nil =>
    obtain ⟨rfl,rest⟩ := List.cons.inj split
    have found : lastOf dispatches newest.id = some first := by
      rw [rest,same]
      exact lastOf_append others
    exact apart first found failed
  | cons later after =>
    obtain ⟨_,rest⟩ := List.cons.inj split
    exact spaced after between before first second rest same others failed

theorem Sound.dispatched {world : World} {event : Event} {visit : Visit} (sound : Sound world) (member : event ∈ world.ledger.undelivered)
    (due : ∀ last, lastOf world.dispatches event.id = some last →
      last.sweep ≠ world.sweeps ∧ backoff event.notifyAttempts ≤ visit.now - last.now) : Sound (dispatch world event visit) := by
  have held := Ledger.mem_undelivered.mp member
  refine ⟨fun row there last found => ?_,fun made newer => ?_,List.pairwise_cons.mpr ⟨sound.bound,sound.ordered⟩,fun made newer => ?_,
    sound.spaced.cons fun last found _ => ?_,List.nodup_cons.mpr ⟨fun again => ?_,sound.once⟩⟩
  · by_cases same : row.id = event.id
    · have marked := @Ledger.mark_same world.ledger event visit.stamp (if visit.ok then .sent else .failed)
        (event.notifyAttempts + 1) held.1
      obtain ⟨stored,waits⟩ := Ledger.mem_undelivered.mp there
      have equal : row = event.marked (if visit.ok then .sent else .failed) (event.notifyAttempts + 1) visit.stamp :=
        Ledger.eq_of_id stored marked same
      subst equal
      cases lastOf_cons_same.symm.trans found
      refine ⟨?_,rfl⟩
      by_contra ok
      simp [show visit.ok = true by simpa using ok,Event.marked,Event.Undelivered] at waits
    · exact sound.failed row ((Ledger.mark_undelivered same).mp there) last ((lastOf_cons_other (Ne.symm same)).symm.trans found)
  · have ids : ∀ id, (∃ row ∈ world.ledger.events, row.id = id) → ∃ row ∈ (dispatch world event visit).ledger.events, row.id = id := by
      rintro id ⟨row,stored,rfl⟩
      by_cases same : row.id = event.id
      · exact ⟨_,Ledger.mark_same held.1,same.symm⟩
      · exact ⟨row,(Ledger.mark_other same).mpr stored,rfl⟩
    rcases List.mem_cons.mp newer with rfl | earlier
    · exact ids _ ⟨event,held.1,rfl⟩
    · exact ids _ (sound.known made earlier)
  · rcases List.mem_cons.mp newer with rfl | earlier
    · exact le_rfl
    · exact sound.bound made earlier
  · rw [(sound.failed event member last found).2]
    exact (due last found).2
  · obtain ⟨old,earlier,same⟩ := List.mem_map.mp again
    obtain ⟨last,found,there,newer⟩ := lastOf_isSome earlier
    have sweep : old.sweep = world.sweeps := congrArg Prod.fst same
    rw [show old.id = event.id from congrArg Prod.snd same] at found
    have between := newer sound.ordered
    have bound := sound.bound last there
    exact (due last found).1 (by omega)

section
variable {parseIso : String → Option Int} {pass : Pass} {world : World}

theorem Sound.turn {event : Event} (sound : Sound world) (member : event ∈ world.ledger.undelivered)
    (timely : OnTime parseIso pass world event) : Sound (turn parseIso pass world event) := by
  rcases @turn_cases parseIso pass world event with ⟨ready,sent⟩ | same
  · rw [sent]
    exact sound.dispatched member (timely ready)
  · rw [same]
    exact sound

theorem page_apart {ledger : Ledger} {page : List Event} (nodup : page.Nodup) (members : ∀ event ∈ page, event ∈ ledger.undelivered) :
    page.Pairwise fun first second => first.id ≠ second.id :=
  nodup.pairwise_of_forall_ne fun first left second right different same =>
    different (Ledger.eq_of_id (Ledger.mem_undelivered.mp (members first left)).1 (Ledger.mem_undelivered.mp (members second right)).1 same)

theorem Sound.page {page : List Event} (sound : Sound world) (apart : page.Pairwise fun first second => first.id ≠ second.id)
    (members : ∀ event ∈ page, event ∈ world.ledger.undelivered) (timely : Along (Ops.turn parseIso pass) (OnTime parseIso pass) world page) :
    Sound (page.foldl (Ops.turn parseIso pass) world) := by
  induction page generalizing world with
  | nil => exact sound
  | cons event page ih =>
    obtain ⟨different,apart⟩ := List.pairwise_cons.mp apart
    refine ih (sound.turn (members event (List.mem_cons_self ..)) timely.1) apart (fun other later => ?_) timely.2
    exact (turn_undelivered (different other later).symm).mpr (members other (List.mem_cons_of_mem _ later))

theorem Sound.recorded {id createdAt : String} (sound : Sound world) :
    Sound {world with ledger := world.ledger.recordIncident id createdAt} := by
  rcases @Ledger.record_events world.ledger id createdAt with same | ⟨fresh,events⟩
  · rw [same]
    exact sound
  · refine ⟨fun row there last found => ?_,fun made member => ?_,sound.ordered,sound.bound,sound.spaced,sound.once⟩
    · obtain ⟨stored,waits⟩ := Ledger.mem_undelivered.mp there
      rw [events] at stored
      rcases List.mem_append.mp stored with old | new
      · exact sound.failed row (Ledger.mem_undelivered.mpr ⟨old,waits⟩) last found
      · rw [List.mem_singleton.mp new] at found
        obtain ⟨old,held,same⟩ := sound.known last (List.mem_of_find?_eq_some found)
        have key : last.id = id := by simpa using List.find?_some found
        exact absurd (same.trans key) (fresh old held)
    · obtain ⟨row,held,same⟩ := sound.known made member
      exact ⟨row,by rw [events]; exact List.mem_append_left _ held,same⟩

theorem Sound.skipped {id stamp : String} (sound : Sound world) :
    Sound {world with ledger := world.ledger.markDeliveryState id .skipped 0 stamp} := by
  refine ⟨fun row there => ?_,fun made member => ?_,sound.ordered,sound.bound,sound.spaced,sound.once⟩
  · exact sound.failed row ((Ledger.mark_over skipped_over).mp there).1
  · obtain ⟨row,held,same⟩ := sound.known made member
    by_cases marked : row.id = id
    · subst marked
      exact ⟨_,Ledger.mark_same held,same⟩
    · exact ⟨row,(Ledger.mark_other marked).mpr held,same⟩

theorem Sound.apply {act : Act} (sound : Sound world) (timely : Timely parseIso world act) : Sound (apply parseIso act world) := by
  cases act with
  | begins =>
    exact ⟨sound.failed,sound.known,sound.ordered,fun made member => Nat.le_succ_of_le (sound.bound made member),sound.spaced,sound.once⟩
  | deliver pass =>
    exact sound.page (page_apart Ledger.pending_nodup fun _ => Ledger.pending_mem) (fun _ => Ledger.pending_mem) timely
  | record id createdAt => exact sound.recorded
  | skip id stamp => exact sound.skipped

theorem Sound.start (ledger : Ledger) : Sound (.start ledger) :=
  ⟨fun _ _ _ found => (nomatch found),fun _ member => (nomatch member),.nil,fun _ member => (nomatch member),spaced_nil,
    List.nodup_nil⟩

end

structure Visit.Succeeds (visit : Visit) : Prop where
  quiet : visit.raises = false
  enabled : visit.transports.enabled = true
  webhook : visit.transports.webhookUrl = true → visit.transports.webhookSent = true
  email : visit.transports.emailTo = true → visit.transports.emailSent = true

theorem Visit.Succeeds.ok {visit : Visit} (succeeds : visit.Succeeds) : visit.ok = true := by
  obtain ⟨quiet,enabled,webhook,email⟩ := succeeds
  simp only [Visit.ok,quiet,notifyIncident,enabled]
  cases url : visit.transports.webhookUrl <;> cases address : visit.transports.emailTo <;>
    simp [outcome,webhook,email,url,address]

def Elapsed (parseIso : String → Option Int) (event : Event) (now : Int) : Prop :=
  event.notifyAttempts = 0 ∨ ∀ created, parseIso event.createdAt = some created → backoff event.notifyAttempts ≤ now - created

theorem Elapsed.ready {parseIso : String → Option Int} {event : Event} {now : Int} (elapsed : Elapsed parseIso event now)
    (few : event.notifyAttempts ≤ 1024) : notifyBackoffReady parseIso event now = .ok true := by
  unfold notifyBackoffReady
  by_cases fresh : event.notifyAttempts = 0
  · rw [if_pos fresh]
  · have small : event.notifyAttempts - 1 < maxExponent := by
      unfold maxExponent
      omega
    have due := elapsed.resolve_left fresh
    rw [if_neg fresh,float,if_pos (Nat.pow_lt_pow_right (by decide) small)]
    dsimp only
    cases read : parseIso event.createdAt with
    | none => rfl
    | some created => exact congrArg Except.ok (decide_eq_true (due created read))

def timesSent (world : World) (id : String) : Nat := world.dispatches.countP (·.id = id)

section
variable {parseIso : String → Option Int} {pass : Pass} {world : World} {page : List Event}

/-- Every event of a page is ready when its turn comes, and its dispatch succeeds. -/
def Served (parseIso : String → Option Int) (pass : Pass) (page : List Event) : Prop :=
  ∀ event ∈ page, event.notifyAttempts ≤ 1024 ∧ Elapsed parseIso event (pass event.id).now ∧ (pass event.id).Succeeds

theorem turn_served {event : Event} (few : event.notifyAttempts ≤ 1024) (elapsed : Elapsed parseIso event (pass event.id).now) :
    turn parseIso pass world event = dispatch world event (pass event.id) := by
  rw [turn,elapsed.ready few]

theorem deliver_single {event : Event} (single : world.ledger.pendingEvents maxRetryEvents = [event])
    (few : event.notifyAttempts ≤ 1024) (elapsed : Elapsed parseIso event (pass event.id).now) :
    deliverPending parseIso pass world = dispatch world event (pass event.id) := by
  rw [deliverPending,single]
  exact turn_served few elapsed

theorem dispatch_ledger {event : Event} {visit : Visit} (succeeds : visit.Succeeds) :
    (dispatch world event visit).ledger = world.ledger.markDeliveryState event.id .sent (event.notifyAttempts + 1) visit.stamp := by
  rw [dispatch,succeeds.ok,if_pos rfl]

section
variable (served : Served parseIso pass page)
include served

theorem served_undelivered (row : Event) :
    row ∈ (page.foldl (turn parseIso pass) world).ledger.undelivered ↔
      row ∈ world.ledger.undelivered ∧ ∀ event ∈ page, row.id ≠ event.id := by
  induction page generalizing world with
  | nil => simp
  | cons event page ih =>
    obtain ⟨few,elapsed,succeeds⟩ := served event (List.mem_cons_self ..)
    rw [List.foldl_cons,ih fun other later => served other (List.mem_cons_of_mem _ later),turn_served few elapsed,
      dispatch_ledger succeeds,Ledger.mark_over sent_over,List.forall_mem_cons,and_assoc]

theorem served_events {row : Event} (others : ∀ event ∈ page, row.id ≠ event.id) :
    row ∈ (page.foldl (turn parseIso pass) world).ledger.events ↔ row ∈ world.ledger.events := by
  induction page generalizing world with
  | nil => rfl
  | cons event page ih =>
    obtain ⟨few,elapsed,succeeds⟩ := served event (List.mem_cons_self ..)
    obtain ⟨different,others⟩ := List.forall_mem_cons.mp others
    rw [List.foldl_cons,ih (fun other later => served other (List.mem_cons_of_mem _ later)) others,turn_served few elapsed,
      dispatch_ledger succeeds,Ledger.mark_other different]

theorem served_sent (apart : page.Pairwise fun first second => first.id ≠ second.id)
    {event : Event} (member : event ∈ page) (held : event ∈ world.ledger.events) :
    ∃ row ∈ (page.foldl (turn parseIso pass) world).ledger.events, row.id = event.id ∧ row.notifyState = .sent := by
  induction page generalizing world with
  | nil => exact nomatch member
  | cons first page ih =>
    obtain ⟨few,elapsed,succeeds⟩ := served first (List.mem_cons_self ..)
    obtain ⟨different,apart⟩ := List.pairwise_cons.mp apart
    have rest : Served parseIso pass page := fun other later => served other (List.mem_cons_of_mem _ later)
    rw [List.foldl_cons,turn_served few elapsed]
    rcases List.mem_cons.mp member with rfl | later
    · have others : ∀ other ∈ page, (event.marked .sent (event.notifyAttempts + 1) (pass event.id).stamp).id ≠ other.id := different
      refine ⟨_,(served_events rest others).mpr ?_,rfl,rfl⟩
      rw [dispatch_ledger succeeds]
      exact Ledger.mark_same held
    · refine ih rest apart later ?_
      rw [dispatch_ledger succeeds,Ledger.mark_other (different event later).symm]
      exact held

theorem served_times (id : String) :
    timesSent (page.foldl (turn parseIso pass) world) id = timesSent world id + page.countP (·.id = id) := by
  induction page generalizing world with
  | nil => rfl
  | cons event page ih =>
    obtain ⟨few,elapsed,_⟩ := served event (List.mem_cons_self ..)
    rw [List.foldl_cons,ih fun other later => served other (List.mem_cons_of_mem _ later),turn_served few elapsed,
      timesSent,dispatch,List.countP_cons,List.countP_cons,timesSent]
    dsimp only
    omega

end

end

/-- Only passes that succeed, with every backoff over; new events come behind those that wait, and none of these is skipped. -/
def Clear (parseIso : String → Option Int) (waiting : List Event) (world : World) : Act → Prop
  | .begins => True
  | .deliver pass => ∀ event ∈ world.ledger.pendingEvents maxRetryEvents,
    Elapsed parseIso event (pass event.id).now ∧ (pass event.id).Succeeds
  | .record id createdAt => ∀ event ∈ waiting, Ledger.key event < toLex (createdAt,id)
  | .skip id _ => ∀ event ∈ waiting, event.id ≠ id

def passes (acts : List Act) : Nat := acts.countP fun
  | .deliver _ => true
  | _ => false

def Few (world : World) : Prop := ∀ event ∈ world.ledger.undelivered, event.notifyAttempts ≤ 1024

/-- An event waits with fewer than `left` events before it, or was sent by one dispatch more. -/
def Progress (event : Event) (before left : Nat) (world : World) : Prop :=
  event ∈ world.ledger.undelivered ∧ Pages.ahead Ledger.key world.ledger.undelivered event < left ∧ timesSent world event.id = before ∨
    (∃ row ∈ world.ledger.events, row.id = event.id ∧ row.notifyState = .sent) ∧ timesSent world event.id = before + 1

theorem key_nodup {ledger : Ledger} : (ledger.undelivered.map Ledger.key).Nodup := by
  have ids : (ledger.undelivered.map (·.id)).Nodup := ledger.distinct.sublist (List.filter_sublist.map _)
  have composed : ledger.undelivered.map (·.id) = (ledger.undelivered.map Ledger.key).map fun key => (ofLex key).2 := by
    rw [List.map_map]
    rfl
  exact (composed ▸ ids).of_map

section
variable {parseIso : String → Option Int} {world : World}

theorem page_served {pass : Pass} {waiting : List Event} (few : Few world) (clear : Clear parseIso waiting world (.deliver pass)) :
    Served parseIso pass (world.ledger.pendingEvents maxRetryEvents) :=
  fun event member => ⟨few event (Ledger.pending_mem member),clear event member⟩

theorem Few.apply {waiting : List Event} {act : Act} (few : Few world) (clear : Clear parseIso waiting world act) :
    Few (apply parseIso act world) := by
  intro row there
  cases act with
  | begins => exact few row there
  | deliver pass => exact few row ((served_undelivered (page_served few clear) row).mp there).1
  | record id createdAt =>
    rcases @Ledger.record_events world.ledger id createdAt with same | ⟨_,events⟩
    · rw [Ops.apply,same] at there
      exact few row there
    · obtain ⟨stored,waits⟩ := Ledger.mem_undelivered.mp there
      rw [Ops.apply,events] at stored
      rcases List.mem_append.mp stored with old | new
      · exact few row (Ledger.mem_undelivered.mpr ⟨old,waits⟩)
      · rw [List.mem_singleton.mp new]
        exact Nat.zero_le _
  | skip id stamp => exact few row ((Ledger.mark_over skipped_over).mp there).1

theorem Progress.deliver {event : Event} {waiting : List Event} {before left : Nat} {pass : Pass} (few : Few world)
    (clear : Clear parseIso waiting world (.deliver pass)) (progress : Progress event before left world) :
    Progress event before (left - maxRetryEvents) (deliverPending parseIso pass world) := by
  have served := page_served few clear
  have members : ∀ other ∈ world.ledger.pendingEvents maxRetryEvents, other ∈ world.ledger.undelivered := fun _ => Ledger.pending_mem
  have apart := page_apart Ledger.pending_nodup members
  have times := @served_times parseIso pass world _ served event.id
  rcases progress with ⟨waits,fewer,count⟩ | ⟨⟨row,stored,same,sent⟩,count⟩
  · have held := (Ledger.mem_undelivered.mp waits).1
    by_cases on : event ∈ world.ledger.pendingEvents maxRetryEvents
    · refine .inr ⟨served_sent served apart on held,times.trans ?_⟩
      have once : (world.ledger.pendingEvents maxRetryEvents).countP (·.id = event.id) = 1 := by
        have ids : ((world.ledger.pendingEvents maxRetryEvents).map (·.id)).Nodup := List.pairwise_map.mpr apart
        have one := List.count_eq_one_of_mem ids (List.mem_map_of_mem on)
        rw [List.count,List.countP_map] at one
        exact one
      rw [count,once]
    · have others : ∀ other ∈ world.ledger.pendingEvents maxRetryEvents, event.id ≠ other.id := fun other listed same =>
        on (Ledger.eq_of_id held (Ledger.mem_undelivered.mp (members other listed)).1 same ▸ listed)
      have closer : Pages.ahead Ledger.key (deliverPending parseIso pass world).ledger.undelivered event + maxRetryEvents =
          Pages.ahead Ledger.key world.ledger.undelivered event := by
        refine Pages.ahead_served key_nodup Ledger.undelivered_nodup (fun other => ?_) waits on
        rw [deliverPending,served_undelivered served]
        refine and_congr_right fun there => ⟨fun apart listed => apart other listed rfl,fun off first listed same => off ?_⟩
        exact Ledger.eq_of_id (Ledger.mem_undelivered.mp there).1 (Ledger.mem_undelivered.mp (members first listed)).1 same ▸ listed
      refine .inl ⟨(served_undelivered served event).mpr ⟨waits,others⟩,by omega,times.trans ?_⟩
      have none : (world.ledger.pendingEvents maxRetryEvents).countP (·.id = event.id) = 0 :=
        List.countP_eq_zero.mpr fun other listed same => others other listed (of_decide_eq_true same).symm
      rw [count,none,Nat.add_zero]
  · have others : ∀ other ∈ world.ledger.pendingEvents maxRetryEvents, row.id ≠ other.id := by
      intro other listed equal
      obtain ⟨there,waits⟩ := Ledger.mem_undelivered.mp (members other listed)
      exact sent_over row sent (Ledger.eq_of_id stored there equal ▸ waits)
    refine .inr ⟨⟨row,(served_events served others).mpr stored,same,sent⟩,times.trans ?_⟩
    have none : (world.ledger.pendingEvents maxRetryEvents).countP (·.id = event.id) = 0 :=
      List.countP_eq_zero.mpr fun other listed equal => others other listed (same.trans (of_decide_eq_true equal).symm)
    rw [count,none,Nat.add_zero]

theorem Progress.record {event : Event} {before left : Nat} {id createdAt : String} (behind : Ledger.key event < toLex (createdAt,id))
    (progress : Progress event before left world) :
    Progress event before left {world with ledger := world.ledger.recordIncident id createdAt} := by
  rcases @Ledger.record_events world.ledger id createdAt with same | ⟨_,events⟩
  · rw [same]
    exact progress
  · rcases progress with ⟨waits,fewer,count⟩ | ⟨⟨row,stored,same,sent⟩,count⟩
    · obtain ⟨held,undelivered⟩ := Ledger.mem_undelivered.mp waits
      have listed : (world.ledger.recordIncident id createdAt).undelivered =
          world.ledger.undelivered ++ [⟨id,createdAt,"",.pending,0⟩] := by
        rw [Ledger.undelivered,Table.select,events,List.filter_append]
        rfl
      refine .inl ⟨?_,?_,count⟩
      · show event ∈ (world.ledger.recordIncident id createdAt).undelivered
        rw [listed]
        exact List.mem_append_left _ waits
      · show Pages.ahead Ledger.key (world.ledger.recordIncident id createdAt).undelivered event < left
        rw [listed,Pages.ahead_append fun other new => List.mem_singleton.mp new ▸ behind]
        exact fewer
    · refine .inr ⟨⟨row,?_,same,sent⟩,count⟩
      show row ∈ (world.ledger.recordIncident id createdAt).events
      rw [events]
      exact List.mem_append_left _ stored

theorem Progress.skip {event : Event} {before left : Nat} {id stamp : String} (different : event.id ≠ id)
    (progress : Progress event before left world) :
    Progress event before left {world with ledger := world.ledger.markDeliveryState id .skipped 0 stamp} := by
  rcases progress with ⟨waits,fewer,count⟩ | ⟨⟨row,stored,same,sent⟩,count⟩
  · refine .inl ⟨(Ledger.mark_over skipped_over).mpr ⟨waits,different⟩,lt_of_le_of_lt ?_ fewer,count⟩
    have part : (world.ledger.markDeliveryState id .skipped 0 stamp).undelivered.Subperm world.ledger.undelivered :=
      List.subperm_of_subset Ledger.undelivered_nodup fun other there => ((Ledger.mark_over skipped_over).mp there).1
    exact part.countP_le _
  · exact .inr ⟨⟨row,(Ledger.mark_other (same ▸ different)).mpr stored,same,sent⟩,count⟩

theorem Progress.run {event : Event} {waiting : List Event} (member : event ∈ waiting) {before left : Nat} (acts : List Act) (few : Few world)
    (clear : Along (fun world act => apply parseIso act world) (Clear parseIso waiting) world acts)
    (progress : Progress event before left world) :
    Progress event before (left - maxRetryEvents * passes acts) (exec (apply parseIso) world acts) := by
  induction acts generalizing world left with
  | nil => exact progress
  | cons act acts ih =>
    obtain ⟨now,later⟩ := clear
    have next := @ih _ (left - maxRetryEvents * passes [act]) (few.apply now) later ?_
    · have total : passes (act::acts) = passes [act] + passes acts := @List.countP_append _ _ [act] acts
      rw [total,Nat.mul_add,← Nat.sub_sub]
      exact next
    · cases act with
      | begins => exact progress
      | deliver pass => exact progress.deliver few now
      | record id createdAt => exact progress.record (now event member)
      | skip id stamp => exact progress.skip (now event member)

end

def readNoon (text : String) : Option Int := if text = "2026-05-01T12:00:00Z" then some (1777636800 * 1000000) else none

def noonAlert : Event := ⟨"ops-1","2026-05-01T12:00:00Z","",.pending,0⟩

def noonWorld : World := .start ⟨[noonAlert],List.nodup_singleton _⟩

def sendingPass : Pass := fun _ => ⟨1777636800 * 1000000,"2026-05-01T12:00:00Z",⟨true,true,false,true,false⟩,false⟩

def exhaustedAlert : Event := ⟨"ops-2","2026-05-01T12:00:00Z","",.failed,1025⟩

def failingPass (seconds : Int) : Pass := fun _ => ⟨(1777636800 + seconds) * 1000000,"",⟨true,true,false,false,false⟩,false⟩

def failingSweep : World := exec (apply readNoon) noonWorld (runOpsSweep (failingPass 600) (some ([],failingPass 601)))

theorem failingSweep_dispatches : failingSweep.dispatches =
    [⟨"ops-1",1,1777637401 * 1000000,2,false⟩,⟨"ops-1",1,1777637400 * 1000000,1,false⟩] := by
  let begun : World := {noonWorld with sweeps := 1}
  have first : deliverPending readNoon (failingPass 600) begun = dispatch begun noonAlert (failingPass 600 "ops-1") :=
    deliver_single rfl (Nat.zero_le _) (.inl rfl)
  let failed : World := dispatch begun noonAlert (failingPass 600 "ops-1")
  have overdue : Elapsed readNoon (noonAlert.marked .failed 1 "") (failingPass 601 "ops-1").now := by
    refine .inr fun created read => ?_
    cases read
    decide
  have page : failed.ledger.pendingEvents maxRetryEvents = [noonAlert.marked .failed 1 ""] := rfl
  have second := deliver_single page (Nat.succ_le_succ (Nat.zero_le _)) overdue
  have both : failingSweep = deliverPending readNoon (failingPass 601) (deliverPending readNoon (failingPass 600) begun) := by
    simp only [failingSweep,runOpsSweep,List.map_nil,List.cons_append,List.nil_append,exec_cons,exec_nil,apply]
    rfl
  rw [both,first,second]
  rfl

end GmsRemoteTest.Ops
