import GmsRemoteTest.Lib.JsonText
import GmsRemoteTest.Lib.JsonWriter
import GmsRemoteTest.Lib.Lines
import GmsRemoteTest.Lib.Utf8

/-! The security audit log: one signed record a line, each bound to the one before it by its hash. A file is its bytes,
whoever has written them. -/
namespace GmsRemoteTest.Foundation
open Json

def MAX_LOG_BYTES : Nat := 50*1024*1024
def ROTATE_KEEP_BYTES : Nat := 10*1024*1024

abbrev Line := List UInt8

def translate (afterReturn : Bool) : List UInt8 → List UInt8
  | [] => []
  | byte :: rest =>
    if byte = 0x0D then 0x0A :: translate true rest
    else if byte = 0x0A ∧ afterReturn then translate false rest
    else byte :: translate false rest

def isNewline (byte : UInt8) : Bool := byte = 0x0A

def lines (file : List UInt8) : List Line := Lines.splitlines isNewline (translate false file)

/-- What the logger works with under one key: `_record_hash` of a canonical record, `str(value or "")` of a number, an
array or an object, and what `json.loads` makes of bytes in another encoding. -/
structure SecurityAuditLogger where
  sign : List Char → String
  str : Value → String
  loadOther : Line → Option Value

inductive VerifyError
  | invalidJson | unsigned | previousHash | recordHmac
deriving DecidableEq, Repr

def VerifyError.message : VerifyError → String
  | .invalidJson => "invalid JSON"
  | .unsigned => "unsigned audit record"
  | .previousHash => "previous hash mismatch"
  | .recordHmac => "record HMAC mismatch"

inductive Verification
  | valid (signedRecords : Nat) (headHash : String)
  | invalid (line : Nat) (error : VerifyError)
  /-- `UnicodeDecodeError`, `AttributeError` of a line that is no object, or `TypeError` of a hash that is not ASCII. -/
  | raised
deriving DecidableEq, Repr

def Verification.isValid : Verification → Bool
  | .valid .. => true
  | _ => false

namespace SecurityAuditLogger
variable (logger : SecurityAuditLogger)

/-- `str(record.get(key) or "")`. -/
def text (record : Fields) (key : String) : String :=
  match record.lookup key with
  | none | some .null | some (.bool false) => ""
  | some (.bool true) => "True"
  | some (.string text) => text
  | some value => logger.str value

def canonicalRecord (record : Fields) : List Char := dump (sortKeys (.object (record.filter fun field => field.1 ≠ "record_hash")))

def recordHash (record : Fields) : String := logger.sign (canonicalRecord record)

def loadText (line : Line) : Option Value := (Utf8.decode line).bind loads

def marked (chars : List Char) : Bool := chars.head? = some '\uFEFF' || '\x00' ∈ chars.take 2

def loadBytes (line : Line) : Option Value :=
  match Utf8.decode line with
  | none => logger.loadOther line
  | some chars => if marked chars then logger.loadOther line else loads chars

def verifyFrom (previous : String) (number : Nat) : List Line → Verification
  | [] => .valid number previous
  | line :: rest => match Utf8.decode line with
    | none => .raised
    | some chars => match loads chars with
      | none => .invalid (number+1) .invalidJson
      | some (.object record) =>
        let expected := logger.text record "record_hash"
        if expected = "" then .invalid (number+1) .unsigned
        else if logger.text record "previous_hash" ≠ previous then .invalid (number+1) .previousHash
        else if expected ≠ logger.recordHash record then
          -- `compare_digest` takes ASCII only
          if expected.toList.all (·.toNat < 128) then .invalid (number+1) .recordHmac else .raised
        else verifyFrom expected (number+1) rest
      | some _ => .raised

/-- `verify_chain`; there may be no file yet. -/
def verifyChain (file : Option (List UInt8)) : Verification := logger.verifyFrom "GENESIS" 0 (lines (file.getD []))

def headMatches (file : List UInt8) : Bool :=
  match (lines file).getLast? with
  | none => true
  | some line => match logger.loadBytes line with
    | some (.object record) =>
      logger.text record "record_hash" ≠ "" && logger.text record "record_hash" = logger.recordHash record
    | _ => false

def lastHash (file : List UInt8) : String :=
  match (lines file).getLast? with
  | none => "GENESIS"
  | some line => match logger.loadBytes line with
    | some (.object record) => if logger.text record "record_hash" = "" then "GENESIS" else logger.text record "record_hash"
    | _ => "GENESIS"

def keep (keptBytes : Nat) (kept : List (Nat × Value)) : List (Line × Nat) → List (Nat × Value)
  | [] => kept
  | (rawLine,place) :: rest =>
    if ROTATE_KEEP_BYTES ≤ keptBytes ∧ kept ≠ [] then kept
    else match logger.loadBytes rawLine with
      | none => keep keptBytes kept rest
      | some record => keep (keptBytes + rawLine.length + 1) ((place,record)::kept) rest

def kept (file : List UInt8) : List (Nat × Value) := logger.keep 0 [] (lines file).zipIdx.reverse

def rehash (previous : String) : List Value → Option (List (List Char))
  | [] => some []
  | .object rec :: rest =>
    let unsigned := put "previous_hash" (.string previous) (rec.filter fun field => field.1 ≠ "record_hash" ∧ field.1 ≠ "previous_hash")
    let newHash := logger.recordHash unsigned
    (rehash newHash rest).map fun out => dump (.object (put "record_hash" (.string newHash) unsigned)) :: out
  | _ :: _ => none

def writeLine (line : List Char) : List UInt8 := Utf8.encode (line ++ ['\n'])

def rotates (file : List UInt8) : Prop := MAX_LOG_BYTES < file.length

instance (file : List UInt8) : Decidable (rotates file) := inferInstanceAs (Decidable (_ < _))

def rotateIfNeeded (file : List UInt8) : Option (List UInt8) :=
  if rotates file then (logger.rehash "GENESIS" ((logger.kept file).map Prod.snd)).map fun out => out.flatMap writeLine
  else some file

def logEvent (file : Option (List UInt8)) (record : Fields) : Option (List UInt8) :=
  if logger.headMatches (file.getD []) = true then
    (logger.rotateIfNeeded (file.getD [])).map fun log =>
      let chained := put "previous_hash" (.string (logger.lastHash log)) record
      log ++ writeLine (dump (.object (put "record_hash" (.string (logger.recordHash chained)) chained)))
  else none

end SecurityAuditLogger

end GmsRemoteTest.Foundation
