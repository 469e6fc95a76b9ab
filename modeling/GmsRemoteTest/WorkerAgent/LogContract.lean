import GmsRemoteTest.Lib.JsonWriter
import GmsRemoteTest.Lib.Utf8
import GmsRemoteTest.WorkerAgent.LogLines

/-! The batches of `_flush_log_events` against what the Controller takes. The producer bounds the characters of a read, the
`JobEventBatch` of the Controller the events of a batch, the characters of a message and the bytes of a payload. -/
namespace GmsRemoteTest.WorkerAgent.LogContract

structure MonitorRow where
  jobId : String
  attemptId : String
  traceId : String := ""
  operationId : String := ""

/-- What `parse_progress_line` finds in a line. -/
inductive Progress
  | preparation (action device state : String)
  | module (name abi state : String) (passed failed : Option Nat)

def Progress.fields : Progress → Json.Fields
  | .preparation action device state =>
    [("action",.string action),("device",.string device),("state",.string state),("kind",.string "preparation")]
  | .module name abi state passed failed =>
    [("kind",.string "module"),("module",.string name),("abi",.string abi),("state",.string state)] ++
      (passed.map fun count => ("passed",Json.Value.number (toString count))).toList ++
      (failed.map fun count => ("failed",Json.Value.number (toString count))).toList

structure EventBody where
  sequence : Nat
  eventType : String
  source : String
  level : String
  message : List Char
  payload : Json.Fields

section
variable (parseProgressLine : List Char → Option Progress) (row : MonitorRow) (workerId : String)

def payload (line : List Char) : Json.Fields :=
  [("job_id",.string row.jobId),("attempt_id",.string row.attemptId),("trace_id",.string row.traceId),
    ("operation_id",.string row.operationId),("worker_id",.string workerId)] ++
    ((parseProgressLine line).map fun progress => ("progress",Json.Value.object progress.fields)).toList

def body (event : JobEvent) : EventBody :=
  let progress := parseProgressLine event.message
  { sequence := event.sequence
    eventType := if progress.isSome then "module_progress" else "log"
    source := if event.source = .log .stderr then "stderr" else "stdout"
    level := if event.source = .log .stderr then "error" else "info"
    message := event.message
    payload := payload parseProgressLine row workerId event.message }

/-- What the client is given; without events it is not called. -/
def handed (transfer : LogTransfer) (limit : Nat) : Option (List EventBody) :=
  let events := (logBatch transfer limit).map (body parseProgressLine row workerId)
  if events.isEmpty then none else some events

end

def eventPayloadMaxBytes : Nat := 8 * 1024

/-- The bytes of `json.dumps(value, ensure_ascii=False, separators=(",", ":"))`. -/
def serializedBytes (value : Json.Fields) : Nat := (Utf8.encode (Json.dump (.object value))).length

/-- `JobEvent`. -/
def EventBody.Valid (event : EventBody) : Prop :=
  event.eventType.length ≤ 32 ∧ event.source.length ≤ 64 ∧ event.level.length ≤ 16 ∧ event.message.length ≤ 4096 ∧
    serializedBytes event.payload ≤ eventPayloadMaxBytes

def JobEventBatch (attemptId : String) (events : List EventBody) : Prop :=
  attemptId.length ≤ 128 ∧ (1 ≤ events.length ∧ events.length ≤ 200) ∧ ∀ event ∈ events, event.Valid

def readLines (transfer : LogTransfer) (limit : Nat) : List (List Char) :=
  chunkLines transfer limit .stdout ++ chunkLines transfer limit .stderr

variable {parseProgressLine : List Char → Option Progress} {row : MonitorRow} {workerId : String} {transfer : LogTransfer} {limit : Nat}

theorem logEvents_messages (file : LogFile) (sequence : Nat) (lines : List (List Char)) :
    (logEvents file sequence lines).map JobEvent.message = lines := by
  simp [logEvents,Function.comp_def,List.zipIdx_map_fst]

theorem logBatch_messages : (logBatch transfer limit).map JobEvent.message = readLines transfer limit := by
  rw [logBatch,List.map_append,logEvents_messages,logEvents_messages]
  rfl

theorem logBatch_length : (logBatch transfer limit).length = (readLines transfer limit).length := by
  rw [← logBatch_messages,List.length_map]

theorem body_valid (event : JobEvent) : (body parseProgressLine row workerId event).Valid ↔
    event.message.length ≤ 4096 ∧ serializedBytes (payload parseProgressLine row workerId event.message) ≤ eventPayloadMaxBytes := by
  have type : (body parseProgressLine row workerId event).eventType.length ≤ 32 := by
    unfold body
    dsimp only
    split_ifs <;> decide
  have source : (body parseProgressLine row workerId event).source.length ≤ 64 := by
    unfold body
    dsimp only
    split_ifs <;> decide
  have level : (body parseProgressLine row workerId event).level.length ≤ 16 := by
    unfold body
    dsimp only
    split_ifs <;> decide
  exact ⟨fun valid => ⟨valid.2.2.2.1,valid.2.2.2.2⟩,fun both => ⟨type,source,level,both.1,both.2⟩⟩

def chattyLog : LogTransfer :=
  {freshTransfer with content := fun file => if file = .stdout then (List.replicate 201 [0x61,0x0A]).flatten else []}

theorem chattyLog_lines : (readLines chattyLog (256 * 1024)).length = 201 := by
  have stdout : readChars (256 * 1024) (List.replicate 201 [0x61,0x0A]).flatten = readChars 402 (List.replicate 201 [0x61,0x0A]).flatten :=
    readChars_enough (by decide +kernel) (by decide +kernel)
  have stderr : readChars (256 * 1024) [] = ([],[]) := rfl
  have lines : readLines chattyLog (256 * 1024) =
      Lines.splitlines isBreak (readChars (256 * 1024) (List.replicate 201 [0x61,0x0A]).flatten).1 ++
        Lines.splitlines isBreak (readChars (256 * 1024) []).1 := rfl
  rw [lines,stdout,stderr]
  decide +kernel

end GmsRemoteTest.WorkerAgent.LogContract
