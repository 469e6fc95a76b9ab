import GmsRemoteTest.Foundation.Text
import GmsRemoteTest.Redmine.DailyBriefRepository

/-! The migration of owner ids to the names of their directories. Spellings of one owner may meet on a date and a mode; then the runs that
are still spelled otherwise are deleted, with the rows of their child tables. -/
namespace GmsRemoteTest.Redmine.DailyBrief
open Text

/-- `str.isalnum` of a character: at least the letters and digits of ASCII, and no blank. -/
structure Isalnum where
  holds : Char → Bool
  ascii : ∀ c : Char, c.isAlphanum = true → holds c = true
  blanks : ∀ c, isSpace c = true → holds c = false

structure AiExecution where
  executionId : String
  runId : String
  issueId : Int
  attemptNo : Int
  payloadJson : String
  createdAt : String
  finishedAt : String

structure Brief where
  db : Db
  executions : List AiExecution

def RunRow.identity (row : RunRow) : String × String × String := (row.run.ownerId,row.run.briefDate,row.run.mode)

def RunRow.owned (row : RunRow) (ownerId : String) : RunRow := {row with run := {row.run with ownerId := ownerId}}

namespace Brief

def runIds (brief : Brief) : List String := brief.db.runs.map (·.run.runId)

def Stale (brief : Brief) (raw canon : String) (legacy : RunRow) : Prop :=
  legacy.run.ownerId = raw ∧ ∃ twin ∈ brief.db.runs, twin.identity = (canon,legacy.run.briefDate,legacy.run.mode)

instance (brief : Brief) (raw canon : String) : DecidablePred (brief.Stale raw canon) := fun _ => inferInstanceAs (Decidable (_ ∧ _))

def staleRunIds (brief : Brief) (raw canon : String) : List String := (Table.select (brief.Stale raw canon) brief.db.runs).map (·.run.runId)

def deleteRun (brief : Brief) (runId : String) : Brief where
  db := {
    issues := Table.delete (·.runId = runId) brief.db.issues
    snapshots := Table.delete (·.runId = runId) brief.db.snapshots
    jobs := Table.delete (·.runId = runId) brief.db.jobs
    runs := Table.delete (·.run.runId = runId) brief.db.runs }
  executions := Table.delete (·.runId = runId) brief.executions

def updateOwner (brief : Brief) (raw canon : String) : Option Brief :=
  let runs := Table.update (·.run.ownerId = raw) (·.owned canon) brief.db.runs
  if (runs.map RunRow.identity).Nodup then some {brief with db := {brief.db with runs := runs}} else none

end Brief

section
variable (isalnum : Isalnum)

def safe (c : Char) : Bool := isalnum.holds c || c = '-' || c = '_'

@[irreducible] def sanitizeOwnerId (ownerId : String) : String :=
  orElse (String.ofList ((strip ownerId).toList.map fun c => if safe isalnum c then c else '_')) "anonymous"

def Brief.migrateOwner (brief : Brief) (raw : String) : Option Brief :=
  let canon := sanitizeOwnerId isalnum raw
  if canon = raw then some brief
  else ((brief.staleRunIds raw canon).foldl Brief.deleteRun brief).updateOwner raw canon

/-- The migration, over the distinct owners in the order in which the database lists them. -/
def Brief.migrateOwners (brief : Brief) (owners : List String) : Option Brief := owners.foldlM (Brief.migrateOwner isalnum) brief

theorem safe_anonymous : ∀ c ∈ "anonymous".toList, safe isalnum c = true := by
  intro c member
  have ascii : ("anonymous".toList.all Char.isAlphanum) = true := by decide
  simp [safe,isalnum.ascii c (List.all_eq_true.mp ascii c member)]

theorem safe_sanitized (ownerId : String) : ∀ c ∈ (sanitizeOwnerId isalnum ownerId).toList, safe isalnum c = true := by
  unfold sanitizeOwnerId orElse
  split
  · exact safe_anonymous isalnum
  · intro c member
    rw [String.toList_ofList] at member
    obtain ⟨old,-,rfl⟩ := List.mem_map.mp member
    split
    · assumption
    · simp [safe]

theorem isSpace_of_safe {c : Char} (holds : safe isalnum c = true) : isSpace c = false := by
  cases blank : isSpace c with
  | false => rfl
  | true =>
    have dash : c ≠ '-' := by
      rintro rfl
      cases blank
    have under : c ≠ '_' := by
      rintro rfl
      cases blank
    simp [safe,isalnum.blanks c blank,dash,under] at holds

theorem sanitize_safe {ownerId : String} (all : ∀ c ∈ ownerId.toList, safe isalnum c = true) (nonempty : ownerId ≠ "") :
    sanitizeOwnerId isalnum ownerId = ownerId := by
  have solid : Solid ownerId := fun c member => isSpace_of_safe isalnum (all c member)
  have kept : ownerId.toList.map (fun c => if safe isalnum c then c else '_') = ownerId.toList := by
    refine (List.map_congr_left fun c member => ?_).trans (List.map_id _)
    rw [if_pos (all c member)]
    rfl
  unfold sanitizeOwnerId
  rw [solid.strip_eq,kept,String.ofList_toList,orElse,if_neg nonempty]

theorem sanitize_ne_empty (ownerId : String) : sanitizeOwnerId isalnum ownerId ≠ "" := by
  unfold sanitizeOwnerId orElse
  split
  · decide
  · assumption

theorem sanitize_sanitize (ownerId : String) : sanitizeOwnerId isalnum (sanitizeOwnerId isalnum ownerId) = sanitizeOwnerId isalnum ownerId :=
  sanitize_safe isalnum (safe_sanitized isalnum ownerId) (sanitize_ne_empty isalnum ownerId)

end

/-- The tables with what their primary key and their index keep distinct. -/
structure Brief.Keyed (brief : Brief) : Prop where
  runIds : brief.runIds.Nodup
  identities : (brief.db.runs.map RunRow.identity).Nodup

section
variable (isalnum : Isalnum)

def RunRow.canonical (row : RunRow) : RunRow := row.owned (sanitizeOwnerId isalnum row.run.ownerId)

def RunRow.Canonical (row : RunRow) : Prop := sanitizeOwnerId isalnum row.run.ownerId = row.run.ownerId

def Dropped (first second : Brief) (runId : String) : Prop := runId ∈ first.runIds ∧ runId ∉ second.runIds

instance (first second : Brief) : DecidablePred (Dropped first second) := fun _ => inferInstanceAs (Decidable (_ ∧ _))

structure Evolves (first second : Brief) : Prop where
  from_ : ∀ kept ∈ second.db.runs, ∃ row ∈ first.db.runs, kept = row ∨ kept = row.canonical isalnum
  stays : ∀ row ∈ first.db.runs, row.Canonical isalnum → row ∈ second.db.runs
  covers : ∀ row ∈ first.db.runs, ∃ kept ∈ second.db.runs, (kept.canonical isalnum).identity = (row.canonical isalnum).identity
  issues : second.db.issues = first.db.issues.filter fun child => ¬Dropped first second child.runId
  snapshots : second.db.snapshots = first.db.snapshots.filter fun child => ¬Dropped first second child.runId
  jobs : second.db.jobs = first.db.jobs.filter fun child => ¬Dropped first second child.runId
  executions : second.executions = first.executions.filter fun child => ¬Dropped first second child.runId

variable {isalnum}

theorem owned_owned (row : RunRow) (first second : String) : (row.owned first).owned second = row.owned second := rfl

theorem owned_self (row : RunRow) : row.owned row.run.ownerId = row := rfl

theorem canonical_canonical (row : RunRow) : (row.canonical isalnum).canonical isalnum = row.canonical isalnum := by
  have again := sanitize_sanitize isalnum row.run.ownerId
  unfold RunRow.canonical
  rw [owned_owned]
  exact congrArg row.owned again

theorem RunRow.Canonical.eq {row : RunRow} (canonical : row.Canonical isalnum) : row.canonical isalnum = row :=
  (congrArg row.owned canonical).trans (owned_self row)

theorem Evolves.runIds {first second : Brief} (evolves : Evolves isalnum first second) {runId : String} (member : runId ∈ second.runIds) :
    runId ∈ first.runIds := by
  obtain ⟨kept,held,named⟩ := List.mem_map.mp member
  obtain ⟨row,before,same⟩ := evolves.from_ kept held
  have own : row.run.runId = kept.run.runId := by
    obtain rfl | rfl := same
    · rfl
    · rfl
  exact List.mem_map.mpr ⟨row,before,own.trans named⟩

theorem filter_true {Child : Type} {children : List Child} {keeps : Child → Prop} [DecidablePred keeps] (all : ∀ child, keeps child) :
    children.filter (fun child => keeps child) = children := List.filter_eq_self.mpr fun child _ => decide_eq_true (all child)

theorem Evolves.refl (brief : Brief) : Evolves isalnum brief brief := by
  have none_ : ∀ runId, ¬Dropped brief brief runId := fun _ gone => gone.2 gone.1
  exact ⟨fun kept held => ⟨kept,held,.inl rfl⟩,fun _ held _ => held,fun row held => ⟨row,held,rfl⟩,(filter_true fun _ => none_ _).symm,
    (filter_true fun _ => none_ _).symm,(filter_true fun _ => none_ _).symm,(filter_true fun _ => none_ _).symm⟩

theorem Evolves.trans {first second third : Brief} (left : Evolves isalnum first second) (right : Evolves isalnum second third) :
    Evolves isalnum first third := by
  have gone : ∀ runId, ¬Dropped second third runId ∧ ¬Dropped first second runId ↔ ¬Dropped first third runId := by
    intro runId
    have earlier := @left.runIds
    have later := @right.runIds
    unfold Dropped
    by_cases inThird : runId ∈ third.runIds
    · have inSecond := later inThird
      simp [inThird,inSecond]
    · by_cases inSecond : runId ∈ second.runIds
      · have inFirst := earlier inSecond
        simp [inThird,inSecond,inFirst]
      · simp [inThird,inSecond]
  have twice : ∀ {Child : Type} (runId : Child → String) {children between after : List Child},
      between = children.filter (fun child => ¬Dropped first second (runId child)) →
      after = between.filter (fun child => ¬Dropped second third (runId child)) →
      after = children.filter fun child => ¬Dropped first third (runId child) := by
    rintro Child runId children _ _ rfl rfl
    rw [List.filter_filter]
    refine List.filter_congr fun child _ => ?_
    simpa using Bool.eq_iff_iff.mpr (by simpa using gone (runId child))
  refine ⟨fun kept held => ?_,fun row held canonical => right.stays row (left.stays row held canonical) canonical,fun row held => ?_,
    twice DailyBriefIssue.runId left.issues right.issues,twice Snapshot.runId left.snapshots right.snapshots,
    twice Job.runId left.jobs right.jobs,twice AiExecution.runId left.executions right.executions⟩
  · obtain ⟨between,held,after⟩ := right.from_ kept held
    obtain ⟨row,held,before⟩ := left.from_ between held
    refine ⟨row,held,?_⟩
    obtain rfl | rfl := after
    · exact before
    · obtain rfl | rfl := before
      · exact .inr rfl
      · exact .inr (canonical_canonical row)
  · obtain ⟨between,held,same⟩ := left.covers row held
    obtain ⟨kept,held,same'⟩ := right.covers between held
    exact ⟨kept,held,same'.trans same⟩

theorem filter_deleted {Child : Type} (runId : Child → String) (children : List Child) (id : String) (ids : List String) :
    (Table.delete (fun child => runId child = id) children).filter (fun child => runId child ∉ ids) =
      children.filter fun child => runId child ∉ id :: ids := by
  unfold Table.delete
  rw [List.filter_filter]
  refine List.filter_congr fun child _ => ?_
  simp [not_or,Bool.and_comm]

theorem deleteRuns (brief : Brief) (runIds : List String) :
    (runIds.foldl Brief.deleteRun brief).db.runs = brief.db.runs.filter (fun row => row.run.runId ∉ runIds) ∧
      (runIds.foldl Brief.deleteRun brief).db.issues = brief.db.issues.filter (fun child => child.runId ∉ runIds) ∧
      (runIds.foldl Brief.deleteRun brief).db.snapshots = brief.db.snapshots.filter (fun child => child.runId ∉ runIds) ∧
      (runIds.foldl Brief.deleteRun brief).db.jobs = brief.db.jobs.filter (fun child => child.runId ∉ runIds) ∧
      (runIds.foldl Brief.deleteRun brief).executions = brief.executions.filter fun child => child.runId ∉ runIds := by
  induction runIds generalizing brief with
  | nil => simp
  | cons runId runIds ih =>
    obtain ⟨runs,issues,snapshots,jobs,executions⟩ := ih (brief.deleteRun runId)
    rw [List.foldl_cons,runs,issues,snapshots,jobs,executions]
    exact ⟨filter_deleted (fun row : RunRow => row.run.runId) _ runId runIds,filter_deleted DailyBriefIssue.runId _ runId runIds,
      filter_deleted Snapshot.runId _ runId runIds,filter_deleted Job.runId _ runId runIds,filter_deleted AiExecution.runId _ runId runIds⟩

variable {brief : Brief}

theorem stale_iff (keyed : brief.Keyed) {raw canon : String} {row : RunRow} (held : row ∈ brief.db.runs) :
    row.run.runId ∈ brief.staleRunIds raw canon ↔ brief.Stale raw canon row := by
  unfold Brief.staleRunIds
  constructor
  · intro member
    obtain ⟨other,chosen,same⟩ := List.mem_map.mp member
    obtain ⟨there,stale⟩ := Table.mem_select.mp chosen
    rwa [Table.eq_of_key keyed.runIds there held same] at stale
  · exact fun stale => List.mem_map.mpr ⟨row,Table.mem_select.mpr ⟨held,stale⟩,rfl⟩

def moved (raw canon : String) (row : RunRow) : RunRow := if row.run.ownerId = raw then row.owned canon else row

theorem moved_runId (raw canon : String) (row : RunRow) : (moved raw canon row).run.runId = row.run.runId := by
  unfold moved
  split <;> rfl

theorem moved_other {raw canon : String} {row : RunRow} (other : row.run.ownerId ≠ raw) : moved raw canon row = row := if_neg other

theorem moved_canonical {raw : String} {row : RunRow} (own : row.run.ownerId = raw) :
    moved raw (sanitizeOwnerId isalnum raw) row = row.canonical isalnum := by
  subst own
  exact if_pos rfl

theorem moved_identities (keyed : brief.Keyed) (raw canon : String) :
    (((brief.db.runs.filter fun row => ¬brief.Stale raw canon row).map (moved raw canon)).map RunRow.identity).Nodup := by
  rw [List.map_map]
  refine (keyed.runIds.of_map.filter _).map_on fun first left second right same => ?_
  obtain ⟨left,fresh⟩ := List.mem_filter.mp left
  obtain ⟨right,fresh'⟩ := List.mem_filter.mp right
  have fresh := of_decide_eq_true fresh
  have fresh' := of_decide_eq_true fresh'
  refine Table.eq_of_key keyed.identities left right ?_
  have same : (moved raw canon first).identity = (moved raw canon second).identity := same
  by_cases own : first.run.ownerId = raw
  · by_cases own' : second.run.ownerId = raw
    · rw [moved,if_pos own,moved,if_pos own'] at same
      have rest : (first.run.briefDate,first.run.mode) = (second.run.briefDate,second.run.mode) := congrArg Prod.snd same
      exact Prod.ext (own.trans own'.symm) rest
    · rw [moved,if_pos own,moved_other own'] at same
      exact absurd ⟨own,second,right,same.symm⟩ fresh
  · by_cases own' : second.run.ownerId = raw
    · rw [moved_other own,moved,if_pos own'] at same
      exact absurd ⟨own',first,left,same⟩ fresh'
    · rwa [moved_other own,moved_other own'] at same

def Brief.renamed (brief : Brief) (raw canon : String) : Brief where
  db := {
    runs := (brief.db.runs.filter fun row => ¬brief.Stale raw canon row).map (moved raw canon)
    issues := brief.db.issues.filter fun child => child.runId ∉ brief.staleRunIds raw canon
    snapshots := brief.db.snapshots.filter fun child => child.runId ∉ brief.staleRunIds raw canon
    jobs := brief.db.jobs.filter fun child => child.runId ∉ brief.staleRunIds raw canon }
  executions := brief.executions.filter fun child => child.runId ∉ brief.staleRunIds raw canon

theorem migrateOwner_eq (keyed : brief.Keyed) {raw : String} (renamed : sanitizeOwnerId isalnum raw ≠ raw) :
    brief.migrateOwner isalnum raw = some (brief.renamed raw (sanitizeOwnerId isalnum raw)) := by
  unfold Brief.migrateOwner Brief.updateOwner
  dsimp only
  rw [if_neg renamed]
  obtain ⟨runs,issues,snapshots,jobs,executions⟩ := deleteRuns brief (brief.staleRunIds raw (sanitizeOwnerId isalnum raw))
  have left : brief.db.runs.filter (fun row => row.run.runId ∉ brief.staleRunIds raw (sanitizeOwnerId isalnum raw)) =
      brief.db.runs.filter fun row => ¬brief.Stale raw (sanitizeOwnerId isalnum raw) row :=
    List.filter_congr fun row held => decide_eq_decide.mpr (not_congr (stale_iff keyed held))
  rw [runs,issues,snapshots,jobs,executions,left]
  exact if_pos (moved_identities keyed raw _)

theorem mem_renamed {raw canon : String} {kept : RunRow} : kept ∈ (brief.renamed raw canon).db.runs ↔
    ∃ row ∈ brief.db.runs, ¬brief.Stale raw canon row ∧ moved raw canon row = kept := by
  show kept ∈ (brief.db.runs.filter _).map _ ↔ _
  simp [and_assoc]

theorem dropped_iff (keyed : brief.Keyed) {raw canon : String} (runId : String) :
    Dropped brief (brief.renamed raw canon) runId ↔ runId ∈ brief.staleRunIds raw canon := by
  constructor
  · rintro ⟨before,after⟩
    obtain ⟨row,held,rfl⟩ := List.mem_map.mp before
    refine (stale_iff keyed held).mpr (by_contra fun fresh => after ?_)
    exact List.mem_map.mpr ⟨_,mem_renamed.mpr ⟨row,held,fresh,rfl⟩,moved_runId raw canon row⟩
  · intro stale
    obtain ⟨row,chosen,rfl⟩ := List.mem_map.mp stale
    obtain ⟨held,legacy⟩ := Table.mem_select.mp chosen
    refine ⟨List.mem_map.mpr ⟨row,held,rfl⟩,fun after => ?_⟩
    obtain ⟨kept,left,same⟩ := List.mem_map.mp after
    obtain ⟨other,there,fresh,rfl⟩ := mem_renamed.mp left
    rw [moved_runId] at same
    rw [Table.eq_of_key keyed.runIds there held same] at fresh
    exact fresh legacy

theorem renamed_keyed (keyed : brief.Keyed) (raw canon : String) : (brief.renamed raw canon).Keyed := by
  refine ⟨?_,moved_identities keyed raw canon⟩
  show (((brief.db.runs.filter _).map (moved raw canon)).map fun row => row.run.runId).Nodup
  rw [List.map_map,show (fun row : RunRow => row.run.runId) ∘ moved raw canon = fun row => row.run.runId from funext (moved_runId raw canon)]
  exact keyed.runIds.sublist (List.filter_sublist.map _)

theorem renamed_evolves (keyed : brief.Keyed) {raw : String} (renamed : sanitizeOwnerId isalnum raw ≠ raw) :
    Evolves isalnum brief (brief.renamed raw (sanitizeOwnerId isalnum raw)) := by
  have children : ∀ {Child : Type} (runId : Child → String) (rows : List Child),
      rows.filter (fun child => runId child ∉ brief.staleRunIds raw (sanitizeOwnerId isalnum raw)) =
        rows.filter fun child => ¬Dropped brief (brief.renamed raw (sanitizeOwnerId isalnum raw)) (runId child) :=
    fun runId rows => List.filter_congr fun child _ => decide_eq_decide.mpr (not_congr (dropped_iff keyed (runId child)).symm)
  refine ⟨fun kept held => ?_,fun row held canonical => ?_,fun row held => ?_,children DailyBriefIssue.runId _,children Snapshot.runId _,
    children Job.runId _,children AiExecution.runId _⟩
  · obtain ⟨row,before,-,rfl⟩ := mem_renamed.mp held
    refine ⟨row,before,?_⟩
    by_cases own : row.run.ownerId = raw
    · exact .inr (moved_canonical own)
    · exact .inl (moved_other own)
  · have other : row.run.ownerId ≠ raw := by
      rintro rfl
      exact renamed canonical
    exact mem_renamed.mpr ⟨row,held,fun stale => other stale.1,moved_other other⟩
  · by_cases stale : brief.Stale raw (sanitizeOwnerId isalnum raw) row
    · obtain ⟨own,twin,there,same⟩ := stale
      have owner : twin.run.ownerId = sanitizeOwnerId isalnum raw := congrArg Prod.fst same
      have other : twin.run.ownerId ≠ raw := owner ▸ renamed
      have canonical : twin.Canonical isalnum := by
        unfold RunRow.Canonical
        rw [owner,sanitize_sanitize]
      refine ⟨twin,mem_renamed.mpr ⟨twin,there,fun legacy => other legacy.1,moved_other other⟩,?_⟩
      rw [canonical.eq,same,← own]
      rfl
    · refine ⟨_,mem_renamed.mpr ⟨row,held,stale,rfl⟩,?_⟩
      by_cases own : row.run.ownerId = raw
      · rw [moved_canonical own,canonical_canonical]
      · rw [moved_other own]

theorem migrateOwner_step (keyed : brief.Keyed) (raw : String) : ∃ next, brief.migrateOwner isalnum raw = some next ∧ next.Keyed ∧
    Evolves isalnum brief next ∧ ∀ owners, (∀ row ∈ brief.db.runs, row.Canonical isalnum ∨ row.run.ownerId ∈ raw :: owners) →
      ∀ row ∈ next.db.runs, row.Canonical isalnum ∨ row.run.ownerId ∈ owners := by
  by_cases same : sanitizeOwnerId isalnum raw = raw
  · refine ⟨brief,if_pos same,keyed,.refl brief,fun owners listed row held => ?_⟩
    obtain canonical | member := listed row held
    · exact .inl canonical
    · obtain own | later := List.mem_cons.mp member
      · exact .inl (by rw [RunRow.Canonical,own,same])
      · exact .inr later
  · refine ⟨_,migrateOwner_eq keyed same,renamed_keyed keyed raw _,renamed_evolves keyed same,fun owners listed kept held => ?_⟩
    obtain ⟨row,before,-,rfl⟩ := mem_renamed.mp held
    by_cases own : row.run.ownerId = raw
    · rw [moved_canonical own]
      exact .inl (sanitize_sanitize isalnum row.run.ownerId)
    · rw [moved_other own]
      obtain canonical | member := listed row before
      · exact .inl canonical
      · exact .inr ((List.mem_cons.mp member).resolve_left own)

theorem migrateOwners_run (owners : List String) {brief : Brief} (keyed : brief.Keyed)
    (listed : ∀ row ∈ brief.db.runs, row.Canonical isalnum ∨ row.run.ownerId ∈ owners) :
    ∃ final, brief.migrateOwners isalnum owners = some final ∧ final.Keyed ∧ Evolves isalnum brief final ∧
      ∀ row ∈ final.db.runs, row.Canonical isalnum := by
  induction owners generalizing brief with
  | nil => exact ⟨brief,rfl,keyed,.refl brief,fun row held => (listed row held).resolve_right (List.not_mem_nil)⟩
  | cons raw owners ih =>
    obtain ⟨next,moved,keyed,evolves,left⟩ := @migrateOwner_step isalnum _ keyed raw
    obtain ⟨final,done,keyed,later,canonical⟩ := ih keyed (left owners listed)
    refine ⟨final,?_,keyed,evolves.trans later,canonical⟩
    show (brief.migrateOwner isalnum raw >>= fun next => next.migrateOwners isalnum owners) = some final
    rw [moved]
    exact done

theorem migrateOwners_idle {owners : List String} (canonical : ∀ owner ∈ owners, sanitizeOwnerId isalnum owner = owner) (brief : Brief) :
    brief.migrateOwners isalnum owners = some brief := by
  induction owners with
  | nil => rfl
  | cons raw owners ih =>
    show (brief.migrateOwner isalnum raw >>= fun next => next.migrateOwners isalnum owners) = some brief
    have here : brief.migrateOwner isalnum raw = some brief := if_pos (canonical raw List.mem_cons_self)
    rw [here]
    exact ih fun owner member => canonical owner (List.mem_cons_of_mem _ member)

end

/-- A database whose keys are distinct, as its primary key and its unique index require. -/
structure BriefStore where
  brief : Brief
  keyed : brief.Keyed

/-- `SELECT DISTINCT owner_id`, in whatever order. -/
structure DistinctOwners (brief : Brief) where
  owners : List String
  distinct : owners.Nodup
  all : ∀ owner, owner ∈ owners ↔ ∃ row ∈ brief.db.runs, row.run.ownerId = owner

structure Migrated (isalnum : Isalnum) (before after : Brief) : Prop where
  keyed : after.Keyed
  canonical : ∀ row ∈ after.db.runs, row.Canonical isalnum
  covered : ∀ row ∈ before.db.runs, ∃! kept, kept ∈ after.db.runs ∧ kept.identity = (row.canonical isalnum).identity
  stays : ∀ row ∈ before.db.runs, row.Canonical isalnum → row ∈ after.db.runs
  from_ : ∀ kept ∈ after.db.runs, ∃ row ∈ before.db.runs, kept = row.canonical isalnum
  issues : after.db.issues = before.db.issues.filter fun child => ¬Dropped before after child.runId
  snapshots : after.db.snapshots = before.db.snapshots.filter fun child => ¬Dropped before after child.runId
  jobs : after.db.jobs = before.db.jobs.filter fun child => ¬Dropped before after child.runId
  executions : after.executions = before.executions.filter fun child => ¬Dropped before after child.runId

theorem owners_migrated (isalnum : Isalnum) (store : BriefStore) (listed : DistinctOwners store.brief) :
    ∃ final, store.brief.migrateOwners isalnum listed.owners = some final ∧ Migrated isalnum store.brief final ∧
      ∀ again : DistinctOwners final, final.migrateOwners isalnum again.owners = some final := by
  obtain ⟨final,done,keyed,evolves,canonical⟩ := @migrateOwners_run isalnum listed.owners store.brief store.keyed
    fun row held => .inr ((listed.all row.run.ownerId).mpr ⟨row,held,rfl⟩)
  refine ⟨final,done,⟨keyed,canonical,fun row held => ?_,evolves.stays,fun kept held => ?_,evolves.issues,evolves.snapshots,evolves.jobs,
    evolves.executions⟩,fun again => ?_⟩
  · obtain ⟨kept,there,same⟩ := evolves.covers row held
    rw [(canonical kept there).eq] at same
    exact ⟨kept,⟨there,same⟩,fun other found => Table.eq_of_key keyed.identities found.1 there (found.2.trans same.symm)⟩
  · obtain ⟨row,before,rfl | rfl⟩ := evolves.from_ kept held
    · exact ⟨kept,before,(canonical kept held).eq.symm⟩
    · exact ⟨row,before,rfl⟩
  · refine migrateOwners_idle (fun owner member => ?_) final
    obtain ⟨row,held,rfl⟩ := (again.all owner).mp member
    exact canonical row held

end GmsRemoteTest.Redmine.DailyBrief
