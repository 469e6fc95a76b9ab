import GmsRemoteTest.Lib.Lines
import GmsRemoteTest.Lib.Numbered
import GmsRemoteTest.Lib.Runs
import GmsRemoteTest.Foundation.Text

/-! Upload of the two log files of an attempt. The monitor of a job reads both from its offsets, numbers the lines and
sends them in one batch; the Controller keeps the first event of each number. A file is its bytes: a read can meet a
line, a character or a pair `\r\n` of which only the first part is written. -/
namespace GmsRemoteTest.WorkerAgent
open Text

def replacement : Char := '\uFFFD'

def leadByte (byte : UInt8) : Option (Nat × List (UInt8 × UInt8)) :=
  if 0xC2 ≤ byte ∧ byte ≤ 0xDF then some (byte.toNat % 32,[(0x80,0xBF)])
  else if byte = 0xE0 then some (0,[(0xA0,0xBF),(0x80,0xBF)])
  else if byte = 0xED then some (13,[(0x80,0x9F),(0x80,0xBF)])
  else if 0xE1 ≤ byte ∧ byte ≤ 0xEF then some (byte.toNat % 16,[(0x80,0xBF),(0x80,0xBF)])
  else if byte = 0xF0 then some (0,[(0x90,0xBF),(0x80,0xBF),(0x80,0xBF)])
  else if 0xF1 ≤ byte ∧ byte ≤ 0xF3 then some (byte.toNat % 8,[(0x80,0xBF),(0x80,0xBF),(0x80,0xBF)])
  else if byte = 0xF4 then some (4,[(0x80,0x8F),(0x80,0xBF),(0x80,0xBF)])
  else none

def continuation : List (UInt8 × UInt8) → Nat → List UInt8 → Char × List UInt8
  | [], bits, bytes => (Char.ofNat bits,bytes)
  | _ :: _, _, [] => (replacement,[])
  | (low,high) :: ranges, bits, byte :: bytes =>
    if low ≤ byte ∧ byte ≤ high then continuation ranges (bits*64+byte.toNat % 64) bytes
    else (replacement,byte :: bytes)

def nextChar : List UInt8 → Option (Char × List UInt8)
  | [] => none
  | byte :: bytes =>
    if byte = 0x0D then some ('\n',if bytes.head? = some 0x0A then bytes.tail else bytes)
    else if byte < 0x80 then some (Char.ofNat byte.toNat,bytes)
    else
      match leadByte byte with
      | none => some (replacement,bytes)
      | some (bits,ranges) => some (continuation ranges bits bytes)

def readChars : Nat → List UInt8 → List Char × List UInt8
  | 0, bytes => ([],bytes)
  | limit+1, bytes =>
    match nextChar bytes with
    | none => ([],bytes)
    | some (c,rest) => (c :: (readChars limit rest).1,(readChars limit rest).2)

def decode (bytes : List UInt8) : List Char := (readChars bytes.length bytes).1

/-- Where `str.splitlines` ends a line; universal newlines leave no carriage return. -/
def isBreak (c : Char) : Bool :=
  c ∈ ['\n','\x0b','\x0c','\x1c','\x1d','\x1e','\u0085','\u2028','\u2029']

inductive LogFile
  | stdout | stderr
deriving DecidableEq, Repr

inductive EventSource
  | log (file : LogFile) | worker
deriving DecidableEq, Repr

structure JobEvent where
  sequence : Nat
  source : EventSource
  message : List Char
deriving DecidableEq, Repr

inductive Upload
  | confirmed | lost | failed
deriving DecidableEq, Repr

def validBatch (events : List JobEvent) : Prop := events.length ≤ 200 ∧ ∀ event ∈ events, event.message.length ≤ 4096

instance (events : List JobEvent) : Decidable (validBatch events) :=
  inferInstanceAs (Decidable (events.length ≤ 200 ∧ ∀ event ∈ events, event.message.length ≤ 4096))

def addEvents (stored events : List JobEvent) : List JobEvent := events.foldl (Numbered.insert JobEvent.sequence) stored

def listEvents (stored : List JobEvent) : List JobEvent := stored.insertionSort fun first second => first.sequence ≤ second.sequence

/-- The row a monitor works from; `devices` is `none` when the row has no column `devices_json`. -/
structure MonitorRow where
  devices : Option (List String)

def monitorRow : MonitorRow := ⟨none⟩

def jobDeviceSerials (row : MonitorRow) : List String :=
  ((row.devices.getD []).map fun item =>
    let serial := strip item
    if ':' ∈ serial.toList then (partition serial).2 else serial).filter (· ≠ "")

def reportDeviceFingerprints (fingerprint : String → Bool) (upload : String → Upload) :
    List String → Nat → List JobEvent → Nat × List JobEvent
  | [], used, stored => (used,stored)
  | serial :: serials, used, stored =>
    if fingerprint serial then
      let reported := addEvents stored [⟨used,.worker,("device fingerprint for " ++ serial).toList⟩]
      match upload serial with
      | .confirmed => reportDeviceFingerprints fingerprint upload serials (used+1) reported
      | .lost => (used,reported)
      | .failed => (used,stored)
    else reportDeviceFingerprints fingerprint upload serials used stored

/-- The log files of one attempt, the monitor that uploads them and the events the Controller has stored. -/
structure LogTransfer where
  content : LogFile → List UInt8
  offset : LogFile → Nat
  sequence : Nat
  stored : List JobEvent

section
variable (transfer : LogTransfer) (limit : Nat)

def chunk (file : LogFile) : List Char × List UInt8 :=
  readChars limit ((transfer.content file).drop (transfer.offset file))

def chunkLines (file : LogFile) : List (List Char) := Lines.splitlines isBreak (chunk transfer limit file).1

def logEvents (file : LogFile) (sequence : Nat) (lines : List (List Char)) : List JobEvent :=
  (lines.zipIdx sequence).map fun (line,number) => ⟨number,.log file,line⟩

def logBatch : List JobEvent :=
  let stdout := chunkLines transfer limit .stdout
  logEvents .stdout transfer.sequence stdout ++
    logEvents .stderr (transfer.sequence+stdout.length) (chunkLines transfer limit .stderr)

def newOffset (file : LogFile) : Nat :=
  (transfer.content file).length-(chunk transfer limit file).2.length

def flushLogEvents (upload : Upload) : LogTransfer :=
  let events := logBatch transfer limit
  if events = [] ∨ ¬ validBatch events then transfer
  else
    match upload with
    | .confirmed =>
      {transfer with
        offset := newOffset transfer limit
        sequence := transfer.sequence+events.length
        stored := addEvents transfer.stored events}
    | .lost => {transfer with stored := addEvents transfer.stored events}
    | .failed => transfer

def startMonitor (fingerprint : String → Bool) (upload : String → Upload) : LogTransfer :=
  let (used,stored) := reportDeviceFingerprints fingerprint upload (jobDeviceSerials monitorRow) 0 transfer.stored
  {transfer with
    offset := fun _ => 0
    sequence := used
    stored := stored}

def growLog (file : LogFile) (bytes : List UInt8) : LogTransfer :=
  {transfer with content := Function.update transfer.content file (transfer.content file ++ bytes)}

end

inductive LogOp
  | grow (file : LogFile) (bytes : List UInt8)
  | flush (limit : Nat) (upload : Upload)
  | start (fingerprint : String → Bool) (upload : String → Upload)

def LogOp.apply : LogOp → LogTransfer → LogTransfer
  | .grow file bytes, transfer => growLog transfer file bytes
  | .flush limit upload, transfer => flushLogEvents transfer limit upload
  | .start fingerprint upload, transfer => startMonitor transfer fingerprint upload

def freshTransfer : LogTransfer := ⟨fun _ => [],fun _ => 0,0,[]⟩

def messages (source : EventSource) (events : List JobEvent) : List (List Char) :=
  (events.filter (·.source = source)).map (·.message)

/-- The messages stored for one log file, in the order of their numbers. -/
def storedLines (transfer : LogTransfer) (file : LogFile) : List (List Char) :=
  messages (.log file) (listEvents transfer.stored)

end GmsRemoteTest.WorkerAgent
