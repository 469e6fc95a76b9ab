import Mathlib.Data.UInt
import Mathlib.Data.Rat.Defs
import GmsRemoteTest.Lib.Runs

/-! Retention of the logs of terminal jobs. Each operation prepares a file, journals what it is about to do, renames a file and changes the
row in one transaction, and removes what is left; a recovery undoes or finishes what the journal says was not completed. -/
namespace GmsRemoteTest.ArtifactRetention

abbrev Bytes := List UInt8

/-- SHA-256 and gzip; the header of an archive has the time and the name of its operation. -/
structure Codec where
  sha256 : Bytes → String
  gzip : ℕ → Bytes → Bytes
  gunzip : Bytes → Option Bytes
  inverse : ∀ operation content, gunzip (gzip operation content) = some content

inductive Operation
  | archive
  | delete
deriving DecidableEq

inductive Path
  | log (artifact : ℕ)
  | gz (operation : ℕ)
  | trash (operation : ℕ)
  | temp (operation : ℕ)
deriving DecidableEq

def Operation.target : Operation → ℕ → Path
  | .archive => .gz
  | .delete => .trash

structure Artifact where
  ownerId : String
  jobStatus : String
  createdAt : Option ℚ
  filename : String
  artifactType : String
  sizeBytes : ℕ
  sha256 : String
  path : Path
deriving DecidableEq

/-- The `UPDATE` of an archived artifact. -/
def Artifact.archived (row : Artifact) (operation : ℕ) (filename : String) (sizeBytes : ℕ) (sha256 : String) : Artifact :=
  {row with filename := filename ++ ".gz", path := .gz operation, artifactType := "retained_log", sizeBytes, sha256}

structure Policy where
  archiveDays : ℕ := 7
  deleteDays : ℕ := 30
deriving DecidableEq

structure Selection where
  id : ℕ
  operation : Operation
  sha256 : String
deriving DecidableEq

inductive Status
  | pending
  | completed
  | recovered
deriving DecidableEq

structure Entry where
  owner : String
  artifact : ℕ
  operation : Operation
  old : Path
  new : Path
  status : Status
  createdAt : ℚ
deriving DecidableEq

inductive Phase
  | checked
  | prepared (checksum : String)
  | journaled (checksum : String)
  | renamed (checksum : String)
  | committed
  | unlinked
  | failed
deriving DecidableEq

/-- An `_apply_one` under way, with the row that it began with and the content that it saw then. -/
structure Flight where
  owner : String
  selection : Selection
  item : Artifact
  identity : Option Bytes
  phase : Phase
deriving DecidableEq

/-- A journal entry or a change of a row that was committed, with whether the artifact was pinned, or the death of a process. -/
inductive Event
  | journaled (operation artifact : ℕ) (pinned : Bool)
  | applied (operation artifact : ℕ) (pinned : Bool)
  | died (operation : ℕ)
deriving DecidableEq

/-- The files, the database with the operation that holds its write lock, and the operations under way. -/
structure World where
  files : Path → Option Bytes
  rows : ℕ → Option Artifact
  pins : ℕ → Bool := fun _ => false
  policies : String → Policy := fun _ => {}
  journal : ℕ → Option Entry := fun _ => none
  lock : Option ℕ := none
  flights : ℕ → Option Flight := fun _ => none
  started : ℕ := 0
  log : List Event := []

def Fingerprint (text : String) : Prop := text.toList.length = 64 ∧ ∀ c ∈ text.toList, c ∈ "0123456789abcdef".toList

instance (text : String) : Decidable (Fingerprint text) := @instDecidableAnd _ _ _ (List.decidableBAll (· ∈ "0123456789abcdef".toList) text.toList)

def logNames : List String := ["stdout.log","stderr.log"]

def archivedNames : List String := ["stdout.log.gz","stderr.log.gz"]

def operation (pinned : Bool) (item : Artifact) (policy : Policy) (now : ℚ) : Option Operation :=
  if pinned ∨ item.jobStatus ∉ ["completed","failed","cancelled"] ∨ ¬Fingerprint item.sha256 then none
  else match item.createdAt with
    | none => none
    | some created =>
      let age := (now - created) / 86400
      if item.filename ∈ logNames ∧ policy.archiveDays ≤ age ∧ item.sizeBytes ≤ 256 * 1024 ^ 2 then some .archive
      else if item.filename ∈ archivedNames ∧ item.artifactType = "retained_log" ∧ policy.deleteDays ≠ 0 ∧ policy.deleteDays ≤ age then some .delete
      else none

namespace World

def check (world : World) (owner : String) (selection : Selection) (now : ℚ) : Except String Artifact := match world.rows selection.id with
  | none => .error "Artifact not found"
  | some item =>
    if item.ownerId ≠ owner then .error "Artifact not found"
    else if operation (world.pins selection.id) item (world.policies owner) now ≠ some selection.operation ∨ selection.sha256 ≠ item.sha256 then
      .error "Artifact, pin or retention policy changed; refresh the preview"
    else if world.files item.path = none then .error "Artifact file is unavailable"
    else .ok item

def goto (world : World) (id : ℕ) (flight : Flight) (phase : Phase) : World :=
  {world with flights := Function.update world.flights id (some {flight with phase := phase})}

def unlock (world : World) (id : ℕ) : World := if world.lock = some id then {world with lock := none} else world

def fail (world : World) (id : ℕ) (flight : Flight) : World := (world.unlock id).goto id flight .failed

def finish (world : World) (id : ℕ) : World :=
  {world with flights := Function.update world.flights id none, files := Function.update world.files (.temp id) none}

def begin_ (world : World) (owner : String) (selection : Selection) (now : ℚ) : World := match world.check owner selection now with
  | .error _ => world
  | .ok item =>
    {world with
      flights := Function.update world.flights world.started (some ⟨owner,selection,item,world.files item.path,.checked⟩)
      started := world.started + 1}

def prepare (codec : Codec) (world : World) (id : ℕ) (flight : Flight) : World := match world.files flight.item.path with
  | none => world.fail id flight
  | some content =>
    if codec.sha256 content ≠ flight.item.sha256 then world.fail id flight
    else match flight.selection.operation with
      | .archive =>
        {world with files := Function.update world.files (.temp id) (some (codec.gzip id content))}.goto id flight
          (.prepared (codec.sha256 (codec.gzip id content)))
      | .delete => world.goto id flight (.prepared (codec.sha256 content))

def journalize (world : World) (id : ℕ) (flight : Flight) (checksum : String) (now : ℚ) : World :=
  match world.check flight.owner flight.selection now with
  | .error _ => world.fail id flight
  | .ok _ =>
    if world.files flight.item.path ≠ flight.identity then world.fail id flight
    else
      {world with
        journal := Function.update world.journal id (some ⟨flight.owner,flight.selection.id,flight.selection.operation,flight.item.path,
          flight.selection.operation.target id,.pending,now⟩)
        log := .journaled id flight.selection.id (world.pins flight.selection.id) :: world.log}.goto id flight (.journaled checksum)

def rename (world : World) (id : ℕ) (flight : Flight) (checksum : String) (now : ℚ) : World :=
  match world.check flight.owner flight.selection now with
  | .error _ => world.fail id flight
  | .ok _ =>
    if world.files flight.item.path ≠ flight.identity then world.fail id flight
    else
      let source := match flight.selection.operation with
        | .archive => Path.temp id
        | .delete => flight.item.path
      {world with
        files := Function.update (Function.update world.files (flight.selection.operation.target id) (world.files source)) source none
        lock := some id}.goto id flight (.renamed checksum)

def commit (world : World) (id : ℕ) (flight : Flight) (checksum : String) : World :=
  {world with
    rows := Function.update world.rows flight.selection.id (match flight.selection.operation with
      | .archive => (world.rows flight.selection.id).map fun (row : Artifact) =>
        row.archived id flight.item.filename (((world.files (.gz id)).map List.length).getD 0) checksum
      | .delete => none)
    lock := none
    log := .applied id flight.selection.id (world.pins flight.selection.id) :: world.log}.goto id flight .committed

def unlink (world : World) (id : ℕ) (flight : Flight) : World :=
  let left := match flight.selection.operation with
    | .archive => flight.item.path
    | .delete => Path.trash id
  {world with files := Function.update world.files left none}.goto id flight .unlinked

def mark (world : World) (id : ℕ) (status : Status) : World :=
  {world with journal := Function.update world.journal id ((world.journal id).map fun entry => {entry with status := status})}

def recovered (world : World) (entry : Entry) : Path → Option Bytes := match entry.operation, world.rows entry.artifact with
  | .archive, row =>
    if row.any (fun row => row.path = entry.new) ∧ world.files entry.new ≠ none then Function.update world.files entry.old none
    else if world.files entry.old ≠ none then Function.update world.files entry.new none
    else world.files
  | .delete, some _ =>
    if world.files entry.old = none ∧ world.files entry.new ≠ none then
      Function.update (Function.update world.files entry.old (world.files entry.new)) entry.new none
    else world.files
  | .delete, none => Function.update world.files entry.new none

def recoverOne (world : World) (lives : Bool) (id : ℕ) : World := match world.journal id with
  | none => world
  | some entry =>
    if entry.status = .pending then
      let changed := {world with files := world.recovered entry}
      if lives then changed.mark id .recovered else changed
    else world

def Stale (world : World) (now : ℚ) (id : ℕ) : Prop := (world.journal id).any fun entry => entry.createdAt < now - 300

instance (world : World) (now : ℚ) (id : ℕ) : Decidable (world.Stale now id) := inferInstanceAs (Decidable (_ = true))

def recover (world : World) (now : ℚ) (lives : Bool) (ids : List ℕ) : World :=
  ids.foldl (fun world id => if world.Stale now id then world.recoverOne lives id else world) world

/-- The next step of an operation; a transaction waits for the write lock. -/
def step (codec : Codec) (world : World) (id : ℕ) (now : ℚ) : World := match world.flights id with
  | none => world
  | some flight => match flight.phase with
    | .checked => world.prepare codec id flight
    | .prepared checksum => if world.lock = none then world.journalize id flight checksum now else world
    | .journaled checksum => if world.lock = none then world.rename id flight checksum now else world
    | .renamed checksum => world.commit id flight checksum
    | .committed => world.unlink id flight
    | .unlinked => if world.lock = none then (world.mark id .completed).finish id else world
    | .failed => if world.lock = none then (world.recoverOne true id).finish id else world

end World

inductive Op
  | begin_ (owner : String) (selection : Selection) (now : ℚ)
  | step (id : ℕ) (now : ℚ)
  /-- An operation raises. -/
  | raise (id : ℕ)
  /-- The process of an operation dies; one that recovers itself may have done so but for the commit. -/
  | crash (id : ℕ) (halfway : Bool)
  /-- A recovery by anybody, over these rows of the journal; it may die before it commits. -/
  | recover (now : ℚ) (lives : Bool) (ids : List ℕ)
  | pin (owner : String) (artifact : ℕ) (pinned : Bool)
  | setJob (artifact : ℕ) (status : String)
  | savePolicy (owner : String) (policy : Policy)

namespace World

def raise (world : World) (id : ℕ) : World := match world.flights id with
  | none => world
  | some flight => if flight.phase = .failed then world.finish id else world.fail id flight

def crash (world : World) (id : ℕ) (halfway : Bool) : World :=
  let recovering := (world.flights id).any fun flight => flight.phase = .failed
  let free := if recovering ∧ halfway ∧ world.lock = none then world.recoverOne false id else world.unlock id
  {free with flights := Function.update free.flights id none, log := .died id :: free.log}

def pin (world : World) (owner : String) (artifact : ℕ) (pinned : Bool) : World :=
  if (world.rows artifact).any fun row => row.ownerId = owner then {world with pins := Function.update world.pins artifact pinned} else world

def setJob (world : World) (artifact : ℕ) (status : String) : World :=
  {world with rows := Function.update world.rows artifact ((world.rows artifact).map fun row => {row with jobStatus := status})}

/-- Whoever writes to the database waits until nobody holds its write lock. -/
def apply (codec : Codec) : Op → World → World
  | .begin_ owner selection now, world => world.begin_ owner selection now
  | .step id now, world => world.step codec id now
  | .raise id, world => world.raise id
  | .crash id halfway, world => world.crash id halfway
  | .recover now lives ids, world => if world.lock = none then world.recover now lives ids else world
  | .pin owner artifact pinned, world => if world.lock = none then world.pin owner artifact pinned else world
  | .setJob artifact status, world => if world.lock = none then world.setJob artifact status else world
  | .savePolicy owner policy, world =>
    if world.lock = none then {world with policies := Function.update world.policies owner policy} else world

end World

/-- What there was before the first operation: each row has its file, of the announced digest. -/
structure Start (codec : Codec) where
  files : Path → Option Bytes
  rows : ℕ → Option Artifact
  own : ∀ id row, rows id = some row → row.path = .log id ∧ ∃ content, files (.log id) = some content ∧ codec.sha256 content = row.sha256
  only : ∀ id, rows id = none → files (.log id) = none
  fresh : ∀ id, files (.gz id) = none ∧ files (.trash id) = none ∧ files (.temp id) = none

def Start.world {codec : Codec} (start : Start codec) : World := {files := start.files, rows := start.rows}

def World.run {codec : Codec} (start : Start codec) (ops : List Op) : World := Runs.exec (World.apply codec) start.world ops

end GmsRemoteTest.ArtifactRetention
