import Mathlib.Data.UInt
import GmsRemoteTest.Lib.Dict
import GmsRemoteTest.Lib.Runs

/-! The upload of one transfer. A request that holds the lock of the transfer goes on by one file system or database step at a time
and may end after each of them, by an exception or with its process. -/
namespace GmsRemoteTest.TransferIngest

abbrev Bytes := List UInt8

inductive Status
  | created
  | uploading
  | completed
  | failed
  | consumed
deriving DecidableEq

def Status.Open (status : Status) : Prop := status = .created ∨ status = .uploading

instance (status : Status) : Decidable status.Open := inferInstanceAs (Decidable (_ ∨ _))

structure Transfer where
  workerId : String
  status : Status := .created
  filename : String := ""
  sizeBytes : ℕ := 0
  sha256 : String := ""
deriving DecidableEq

structure TransferComplete where
  filename : String
  sizeBytes : ℕ
  sha256 : String
  chunkCount : ℕ
  sized : 1 ≤ sizeBytes := by decide
  counted : 1 ≤ chunkCount ∧ chunkCount ≤ 100000 := by decide
deriving DecidableEq

/-- The limits, and what SHA-256 and `int` make of bytes. -/
structure Settings where
  maxChunk : ℕ
  maxBytes : ℕ
  sha256 : Bytes → String
  int : Bytes → Option ℤ

inductive Content
  | bytes (content : Bytes)
  | number (value : ℤ)
deriving DecidableEq

def accounting : String := ".received-bytes"

/-- `int(accounting.read_text() or "0")`, where it does not raise. -/
def received (settings : Settings) : Option Content → Option ℤ
  | none => none
  | some (.bytes content) => if content = [] then some 0 else settings.int content
  | some (.number value) => some value

def pathName (filename : List Char) : List Char :=
  ((filename.splitOn '/').filter fun part => part ≠ [] ∧ part ≠ ['.']).getLast?.getD []

def safeName (filename : String) : String :=
  String.ofList ((pathName filename.toList).map fun c =>
    if 'A' ≤ c ∧ c ≤ 'Z' ∨ 'a' ≤ c ∧ c ≤ 'z' ∨ '0' ≤ c ∧ c ≤ '9' ∨ c ∈ "._+-".toList then c else '_')

inductive Phase
  | writing (index : ℕ) (body : Bytes) (received : ℤ) (previous : ℕ)
  | replaced (index size previous : ℕ) (value : ℤ)
  | truncated (index size : ℕ) (value : ℤ)
  | accounted (index size : ℕ)
  | merging (request : TransferComplete)
  | placed (request : TransferComplete) (content : Bytes)
  | cleaning (request : TransferComplete)
deriving DecidableEq

inductive Event
  | stored (index : ℕ) (body : Bytes)
  | uploaded (index size : ℕ)
  | recorded (request : TransferComplete) (content : Bytes)
  | succeeded (request : TransferComplete)
  | refused (status : ℕ) (detail : String)
deriving DecidableEq

/-- The row, the parts, the files beside them and, newest first, what happened. -/
structure World where
  transfer : Transfer
  parts : Dict ℕ Bytes := .empty
  root : String → Option Content := fun _ => none
  holder : Option Phase := none
  log : List Event := []

inductive Op
  | upload (workerId : String) (index : ℤ) (body : Bytes)
  | complete (workerId : String) (request : TransferComplete)
  /-- The next step of the request that holds the lock. -/
  | step
  /-- `shutil.rmtree` takes one part away. -/
  | sweep (index : ℕ)
  /-- The request that holds the lock raises, or its process dies. -/
  | abort

def total (parts : Dict ℕ Bytes) : ℕ := (parts.entries.map fun entry => entry.2.length).sum

def sizeAt (parts : Dict ℕ Bytes) (index : ℕ) : ℕ := ((parts.get index).map List.length).getD 0

def Whole (parts : Dict ℕ Bytes) (count : ℕ) : Prop :=
  (∀ entry ∈ parts.entries, entry.1 < count) ∧ ∀ index ∈ List.range count, (parts.get index).isSome

instance (parts : Dict ℕ Bytes) (count : ℕ) : Decidable (Whole parts count) := inferInstanceAs (Decidable (_ ∧ _))

def merged (at_ : ℕ → Option Bytes) (count : ℕ) : Bytes := (List.range count).flatMap fun index => (at_ index).getD []

namespace World

def refuse (world : World) (status : ℕ) (detail : String) : World := {world with log := .refused status detail :: world.log}

/-- `upload_transfer_chunk`, until its first write. -/
def upload (settings : Settings) (world : World) (workerId : String) (index : ℤ) (body : Bytes) : World :=
  if world.transfer.workerId ≠ workerId then world.refuse 404 "transfer not found for worker"
  else if index < 0 ∨ 100000 ≤ index then world.refuse 400 "invalid chunk index"
  else if body = [] ∨ settings.maxChunk < body.length then world.refuse 413 "invalid transfer chunk size"
  else if world.holder ≠ none then world.refuse 409 "transfer operation is already in progress"
  else if ¬world.transfer.status.Open then world.refuse 409 "transfer no longer accepts chunks"
  else
    let received := (received settings (world.root accounting)).getD (total world.parts)
    let previous := sizeAt world.parts index.toNat
    if settings.maxBytes < received - previous + body.length then world.refuse 413 "transfer is too large"
    else {world with holder := some (.writing index.toNat body received previous)}

/-- `complete_transfer`, until it merges the parts. -/
def complete (settings : Settings) (world : World) (workerId : String) (request : TransferComplete) : World :=
  if settings.maxBytes < request.sizeBytes then world.refuse 413 "transfer is too large"
  else if safeName request.filename ∈ ["",".",".."] then world.refuse 400 "invalid transfer filename"
  else if world.transfer.workerId ≠ workerId then world.refuse 404 "transfer not found for worker"
  else if world.holder ≠ none then world.refuse 409 "transfer operation is already in progress"
  else if world.transfer.status = .completed then
    if world.transfer.filename = safeName request.filename ∧ world.transfer.sizeBytes = request.sizeBytes ∧
        world.transfer.sha256 = request.sha256 then {world with log := .succeeded request :: world.log}
    else world.refuse 409 "transfer completion does not match stored artifact"
  else if ¬world.transfer.status.Open then world.refuse 409 "transfer cannot be completed from its current state"
  else if ¬Whole world.parts request.chunkCount then world.refuse 409 "transfer chunks are incomplete or inconsistent"
  else {world with holder := some (.merging request)}

def place (settings : Settings) (world : World) (request : TransferComplete) : World :=
  let content := merged world.parts.get request.chunkCount
  if settings.maxBytes < content.length then {world.refuse 413 "transfer is too large" with holder := none}
  else if content.length ≠ request.sizeBytes ∨ settings.sha256 content ≠ request.sha256 then
    {world.refuse 409 "transfer checksum or size mismatch" with holder := none}
  else if safeName request.filename = "chunks" then {world with holder := none}
  else {world with
    root := Function.update world.root (safeName request.filename) (some (.bytes content))
    holder := some (.placed request content)}

def step (settings : Settings) (world : World) : World := match world.holder with
  | none => world
  | some (.writing index body received previous) =>
    {world with
      parts := world.parts.put index body
      holder := some (.replaced index body.length previous (received - previous + body.length))
      log := .stored index body :: world.log}
  | some (.replaced index size _ value) =>
    {world with
      root := Function.update world.root accounting (some (.bytes []))
      holder := some (.truncated index size value)}
  | some (.truncated index size value) =>
    {world with
      root := Function.update world.root accounting (some (.number value))
      holder := some (.accounted index size)}
  | some (.accounted index size) =>
    {world with transfer := {world.transfer with status := .uploading}, holder := none, log := .uploaded index size :: world.log}
  | some (.merging request) => world.place settings request
  | some (.placed request content) =>
    {world with
      transfer := {world.transfer with
        status := .completed, filename := safeName request.filename, sizeBytes := content.length, sha256 := request.sha256}
      holder := some (.cleaning request)
      log := .recorded request content :: world.log}
  | some (.cleaning request) => {world with holder := none, log := .succeeded request :: world.log}

def sweep (world : World) (index : ℕ) : World := match world.holder with
  | some (.cleaning _) => {world with parts := world.parts.pop index}
  | _ => world

def apply (settings : Settings) : Op → World → World
  | .upload workerId index body, world => world.upload settings workerId index body
  | .complete workerId request, world => world.complete settings workerId request
  | .step, world => world.step settings
  | .sweep index, world => world.sweep index
  | .abort, world => {world with holder := none}

/-- The world after some operations on a transfer that was just created. -/
def run (settings : Settings) (workerId : String) (ops : List Op) : World :=
  Runs.exec (apply settings) {transfer := {workerId}} ops

end World

end GmsRemoteTest.TransferIngest
