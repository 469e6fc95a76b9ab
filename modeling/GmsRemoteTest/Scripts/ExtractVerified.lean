import Mathlib.Data.UInt
import GmsRemoteTest.Lib.JsonText
import GmsRemoteTest.Lib.Utf8
import GmsRemoteTest.Scripts.DecryptingReader

/-! Extracting a backup. The archive reader takes the decrypted stream as far as the end of the archive, wherever the
ciphertext ends; only a request beyond the last whole block of it makes the tag count. -/
namespace GmsRemoteTest.Scripts.GmsBackup
open GuardedStream Json

inductive Kind
  | file
  | directory
  | symlink
  | hardlink
  | other
deriving DecidableEq

structure Member where
  name : String
  kind : Kind

inductive TarEvent
  | member (member : Member)
  | data (bytes : List UInt8)

abbrev TarReader := Consumer UInt8 TarEvent Failure

structure Target where
  files : List (List String × List UInt8)
  directories : List (List String)
  seen : List String

def Target.empty : Target := ⟨[],[],[]⟩

/-- What the file system does with a name, inside the target and elsewhere. -/
structure Host where
  denied : List String → Bool
  isDir : String → Bool
  chmod : String → Bool

/-- What the values of a manifest are to Python: `==` and `int()`, which take floats in, and SHA-256. -/
structure Python where
  eq : Value → Value → Bool
  int : Value → Option Int
  sha256 : List UInt8 → String

/-- `PurePosixPath(name).parts` of a relative name. -/
def parts (name : String) : List String :=
  ((name.toList.splitOn '/').map String.ofList).filter fun part => part ≠ "" ∧ part ≠ "."

def asPosix (parts : List String) : String := "/".intercalate parts

def isAbsolute (name : String) : Bool := name.toList.head? = some '/'

def safeMemberName (name : String) : Except Failure (List String) :=
  let normalized := parts name
  if isAbsolute name ∨ ".." ∈ normalized then .error (.backup ("unsafe archive member: " ++ name))
  else match normalized with
    | "manifest.json" :: _ | "payload" :: _ => .ok normalized
    | _ => .error (.backup ("unexpected archive member: " ++ name))

def mkdir (host : Host) (target : Target) (path : List String) : Except Failure Target :=
  let made := path.inits.filter (· ≠ [])
  if made.any fun path => (target.files.lookup path).isSome || host.denied path && path ∉ target.directories then .error (.other "OSError")
  else .ok {target with directories := target.directories ++ made.filter (· ∉ target.directories)}

def createFile (host : Host) (target : Target) (path : List String) : Except Failure Target :=
  if host.denied path ∨ (target.files.lookup path).isSome ∨ path ∈ target.directories then .error (.other "OSError")
  else .ok {target with files := (path,[]) :: target.files}

/-- The body of the loop over the members. The name of a file is added before its content, which only a failure that
ends the extraction can cut short. -/
def extract (host : Host) (target : Target) : TarEvent → Except Failure Target
  | .member member => (safeMemberName member.name).bind fun relative => match member.kind with
    | .symlink | .hardlink => .error (.backup ("backup archive contains a forbidden link: " ++ member.name))
    | .directory => mkdir host target relative
    | .other => .error (.backup ("backup archive contains unsupported entry: " ++ member.name))
    | .file => (mkdir host target relative.dropLast).bind fun target => (createFile host target relative).map fun target =>
      {target with seen := if asPosix relative ∈ target.seen then target.seen else asPosix relative :: target.seen}
  | .data bytes => match target.files with
    | (path,content) :: files => .ok {target with files := (path,content++bytes) :: files}
    | [] => .error (.other "no file is open")

section manifest
variable (python : Python) (host : Host)

def items : Value → Except Failure (List Value)
  | .array items => .ok items
  | .object fields => .ok (fields.map fun field => .string field.1)
  | .string text => .ok (text.toList.map fun c => .string c.toString)
  | _ => .error (.other "TypeError")

def putEntry (path entry : Value) : List (Value × Value) → List (Value × Value)
  | [] => [(path,entry)]
  | field :: fields => if python.eq field.1 path then (field.1,entry) :: fields else field :: putEntry path entry fields

def expectedOf (expected : List (Value × Value)) : List Value → Except Failure (List (Value × Value))
  | [] => .ok expected
  | .object fields :: entries => match (fields.lookup "path").getD .null with
    | .array _ | .object _ => .error (.other "TypeError")
    | path => expectedOf (putEntry python path (.object fields) expected) entries
  | _ :: _ => .error (.other "AttributeError")

def typeIs (type : String) (default : Value) (entry : Value) : Bool := python.eq ((entry.get "type").getD default) (.string type)

def checkFile (target : Target) (entry : Value × Value) : Except Failure Unit :=
  match entry with
  | (.string relative,entry) =>
    let content := (target.files.lookup (parts relative)).getD []
    if ¬python.eq (.number (toString content.length)) ((entry.get "size").getD .null) ∨
        ¬python.eq (.string (python.sha256 content)) ((entry.get "sha256").getD .null) then
      .error (.backup ("backup integrity check failed: " ++ relative))
    else if (python.int ((entry.get "mode").getD (.number "384"))).isNone then .error (.other "TypeError") else .ok ()
  | _ => .error (.other "TypeError")

def checkDirectory (target : Target) (entry : Value × Value) : Except Failure Unit :=
  match entry with
  | (.string relative,entry) =>
    let outside := isAbsolute relative ∨ ".." ∈ parts relative
    if ¬(if outside then host.isDir relative else parts relative = [] ∨ parts relative ∈ target.directories) then
      .error (.backup ("backup directory is absent: " ++ relative))
    else if (python.int ((entry.get "mode").getD (.number "448"))).isNone then .error (.other "TypeError")
    else if outside ∧ ¬host.chmod relative then .error (.other "OSError") else .ok ()
  | _ => .error (.other "TypeError")

def isString (name : String) : Value → Bool
  | .string text => text = name
  | _ => false

def readManifest (target : Target) : Except Failure Value :=
  match target.files.lookup ["manifest.json"] with
  | none => .error (.backup "backup manifest is absent or invalid")
  | some bytes => match Utf8.decode bytes with
    | none => .error (.other "UnicodeDecodeError")
    | some chars => match loads chars with
      | none => .error (.backup "backup manifest is absent or invalid")
      | some manifest => .ok manifest

def checkManifest (target : Target) : Except Failure Value :=
  (readManifest target).bind fun manifest =>
    if ¬manifest.isObject then .error (.other "AttributeError")
    else if ¬python.eq ((manifest.get "schema_version").getD .null) (.number "1") then
      .error (.backup "unsupported backup manifest schema")
    else (items ((manifest.get "entries").getD (.array []))).bind fun entries =>
      (expectedOf python [] entries).bind fun expected =>
        if expected = [] ∨ expected.any (fun entry => python.eq entry.1 .null) then
          .error (.backup "backup manifest has no valid entries")
        else
          let expectedFiles := expected.filter fun entry => typeIs python "file" (.string "file") entry.2
          let expectedDirectories := expected.filter fun entry => typeIs python "directory" .null entry.2
          let actualPayload := target.seen.filter (· ≠ "manifest.json")
          if ¬(expectedFiles.all (fun entry => actualPayload.any fun name => isString name entry.1) ∧
              actualPayload.all fun name => expectedFiles.any fun entry => isString name entry.1) then
            .error (.backup "backup contents do not match the manifest")
          else (expectedFiles.forM (checkFile python target)).bind fun _ =>
            (expectedDirectories.forM (checkDirectory python host target)).map fun _ => manifest

end manifest

section extraction
variable (gcm : Gcm) (python : Python) (host : Host) (tar : TarReader)

def wrapped {α : Type} : Except Failure α → Except Failure α
  | .error (.other text) => .error (.backup ("cannot decrypt or extract backup: " ++ text))
  | result => result

def extractRun (archive key : List UInt8) : Except Failure (Value × Target × DecryptingReader) :=
  (DecryptingReader.init ⟨archive,0⟩ key).bind fun reader =>
    (wrapped (tar.run (DecryptingReader.readinto gcm) blockSize (extract host) ⟨reader,[]⟩ Target.empty)).bind fun (target,decrypted) =>
      (checkManifest python host target).map fun manifest => (manifest,target,decrypted.raw)

/-- `verify_backup`, for the key that was loaded. -/
def verifyBackup (loaded : Except Failure (List UInt8)) (archive : List UInt8) : Except Failure Value :=
  loaded.bind fun key => (extractRun gcm python host tar archive key).map fun (manifest,_) => manifest

/-- What `restore_backup` asks for before it touches the data. -/
def restoreChecks (confirm : String) (loaded : Except Failure (List UInt8)) (archive : List UInt8) : Except Failure Value :=
  if confirm ≠ "RESTORE" then .error (.backup "restore requires --confirm RESTORE")
  else loaded.bind fun key => (extractRun gcm python host tar archive key).bind fun (manifest,target,_) =>
    if ["payload","project","data"] ∈ target.directories then .ok manifest
    else .error (.backup "backup does not contain project runtime data")

/-- A manifest is returned only when the tag of the entire ciphertext was verified. -/
def Verified (archive key : List UInt8) : Prop :=
  ∀ manifest target reader, extractRun gcm python host tar archive key = .ok (manifest,target,reader) →
    reader.finished = true ∧ reader.decryptor.absorbed = ciphertextOf archive ∧ Authentic gcm archive key

/-- Where the plaintext alone reads as a backup, the archive reader asks for bytes behind its last whole block. -/
def ReadsOn (archive key : List UInt8) : Prop :=
  Supported archive → ∀ target asked, tar.through (plaintextOf gcm archive key) (extract host) 0 Target.empty = .ok (target,asked) →
    (∃ manifest, checkManifest python host target = .ok manifest) →
    blockSize * ((ciphertextOf archive).length / blockSize) < asked

end extraction

variable {gcm : Gcm} {python : Python} {host : Host} {tar : TarReader} {archive key : List UInt8}

theorem ahead_start : Ahead (plaintextOf gcm archive key) (At gcm archive key) blockSize 0
    (⟨stage gcm archive key 0 0,[]⟩ : Buffered DecryptingReader UInt8) 0 where
  blocks := Nat.dvd_zero _
  after := Nat.le_refl _
  near := by decide
  fits := Nat.zero_le _
  raw := ⟨0,Nat.le_refl _,Nat.zero_le _,rfl⟩
  held := by simp

theorem extractRun_supported (supported : Supported archive) : extractRun gcm python host tar archive key =
    (wrapped (tar.run (DecryptingReader.readinto gcm) blockSize (extract host) ⟨stage gcm archive key 0 0,[]⟩ Target.empty)).bind
      fun (target,decrypted) => (checkManifest python host target).map fun manifest => (manifest,target,decrypted.raw) := by
  unfold extractRun
  rw [init_supported supported]
  rfl

theorem extractRun_through (supported : Supported archive) {target : Target} {asked : Nat}
    (through : tar.through (plaintextOf gcm archive key) (extract host) 0 Target.empty = .ok (target,asked)) :
    (asked ≤ blockSize * ((ciphertextOf archive).length / blockSize) → ∃ reader : DecryptingReader, reader.finished = false ∧
      extractRun gcm python host tar archive key = (checkManifest python host target).map fun manifest => (manifest,target,reader)) ∧
    (blockSize * ((ciphertextOf archive).length / blockSize) < asked → Authentic gcm archive key →
      extractRun gcm python host tar archive key =
        (checkManifest python host target).map fun manifest => (manifest,target,spent archive key)) ∧
    (blockSize * ((ciphertextOf archive).length / blockSize) < asked → ¬Authentic gcm archive key →
      ∃ failure, extractRun gcm python host tar archive key = .error failure) := by
  have start := @ahead_start gcm archive key
  have count : (plaintextOf gcm archive key).length = (ciphertextOf archive).length := length_plaintextOf
  rw [extractRun_supported supported]
  refine ⟨fun within => ?_,fun past authentic => ?_,fun past forged => ?_⟩
  · obtain ⟨last,position,run,absorbed,_,_,place⟩ := guarded.run_inside start through (by rwa [count])
    exact ⟨last.raw,by rw [place]; rfl,by rw [run]; rfl⟩
  · obtain ⟨last,run,place⟩ := (guarded.run_past start through (Nat.zero_le _) (by rwa [count])).1 authentic
    rw [run,← place]
    rfl
  · rw [(guarded.run_past start through (Nat.zero_le _) (by rwa [count])).2 forged]
    exact ⟨_,rfl⟩

theorem through_of_extractRun {manifest : Value} {target : Target} {reader : DecryptingReader}
    (run : extractRun gcm python host tar archive key = .ok (manifest,target,reader)) :
    Supported archive ∧ ∃ asked, tar.through (plaintextOf gcm archive key) (extract host) 0 Target.empty = .ok (target,asked) ∧
      checkManifest python host target = .ok manifest := by
  have supported : Supported archive := by
    by_contra unsupported
    obtain ⟨failure,refused⟩ := @init_unsupported archive key unsupported
    rw [extractRun,refused] at run
    cases run
  refine ⟨supported,?_⟩
  cases through : tar.through (plaintextOf gcm archive key) (extract host) 0 Target.empty with
  | error error =>
    obtain ⟨failure,failed⟩ := guarded.run_error (.inr ⟨0,@ahead_start gcm archive key⟩) through
    rw [extractRun_supported supported,failed] at run
    cases failure <;> cases run
  | ok result =>
    obtain ⟨found,asked⟩ := result
    obtain ⟨inside,past,refused⟩ := @extractRun_through gcm python host tar archive key supported found asked through
    have checked : ∃ last, extractRun gcm python host tar archive key =
        (checkManifest python host found).map fun manifest => (manifest,found,last) := by
      by_cases within : asked ≤ blockSize * ((ciphertextOf archive).length / blockSize)
      · obtain ⟨last,_,result⟩ := inside within
        exact ⟨last,result⟩
      · by_cases authentic : Authentic gcm archive key
        · exact ⟨_,past (Nat.lt_of_not_le within) authentic⟩
        · obtain ⟨failure,failed⟩ := refused (Nat.lt_of_not_le within) authentic
          rw [failed] at run
          cases run
    obtain ⟨last,result⟩ := checked
    rw [result] at run
    cases valid : checkManifest python host found with
    | error failure =>
      rw [valid] at run
      cases run
    | ok value =>
      rw [valid] at run
      cases run
      exact ⟨asked,rfl,valid⟩

theorem verified_iff_readsOn : Verified gcm python host tar archive key ↔ ReadsOn gcm python host tar archive key := by
  constructor
  · rintro verified supported target asked through ⟨manifest,valid⟩
    by_contra within
    obtain ⟨reader,unfinished,run⟩ := (extractRun_through supported through).1 (Nat.le_of_not_lt within)
    rw [valid] at run
    have finished := (verified manifest target reader run).1
    rw [unfinished] at finished
    cases finished
  · intro readsOn manifest target reader run
    obtain ⟨supported,asked,through,valid⟩ := through_of_extractRun run
    have past := readsOn supported target asked through ⟨manifest,valid⟩
    obtain ⟨_,accepted,refused⟩ := @extractRun_through gcm python host tar archive key supported target asked through
    by_cases authentic : Authentic gcm archive key
    · rw [accepted past authentic,valid] at run
      cases run
      exact ⟨rfl,rfl,authentic⟩
    · obtain ⟨failure,failed⟩ := refused past authentic
      rw [failed] at run
      cases run

theorem Verified.verifyBackup (verified : Verified gcm python host tar archive key) {manifest : Value}
    (accepted : verifyBackup gcm python host tar (.ok key) archive = .ok manifest) : Authentic gcm archive key := by
  cases run : extractRun gcm python host tar archive key with
  | error failure =>
    unfold GmsBackup.verifyBackup at accepted
    rw [Except.bind,run] at accepted
    cases accepted
  | ok result => exact (verified _ _ _ run).2.2

theorem Verified.restoreChecks (verified : Verified gcm python host tar archive key) {confirm : String} {manifest : Value}
    (accepted : restoreChecks gcm python host tar confirm (.ok key) archive = .ok manifest) : Authentic gcm archive key := by
  unfold GmsBackup.restoreChecks at accepted
  split at accepted
  · cases accepted
  · cases run : extractRun gcm python host tar archive key with
    | error failure =>
      rw [Except.bind,run] at accepted
      cases accepted
    | ok result => exact (verified _ _ _ run).2.2

/-- `_extract_verified` returns a manifest only with a verified tag exactly when, for a plaintext that reads as a backup, the
archive reader goes on behind the last whole block of ciphertext; then nothing altered is accepted. -/
theorem extractVerified_iff (gcm : Gcm) (python : Python) (host : Host) (tar : TarReader) (archive key : List UInt8) :
    (Verified gcm python host tar archive key ↔ ReadsOn gcm python host tar archive key) ∧
    (ReadsOn gcm python host tar archive key →
      (∀ manifest, verifyBackup gcm python host tar (.ok key) archive = .ok manifest → Authentic gcm archive key) ∧
      ∀ confirm manifest, restoreChecks gcm python host tar confirm (.ok key) archive = .ok manifest → Authentic gcm archive key) :=
  ⟨verified_iff_readsOn,fun readsOn =>
    ⟨fun _ accepted => (verified_iff_readsOn.mpr readsOn).verifyBackup accepted,
      fun _ _ accepted => (verified_iff_readsOn.mpr readsOn).restoreChecks accepted⟩⟩

def pad (width : Nat) (bytes : List UInt8) : List UInt8 := bytes ++ List.replicate (width - bytes.length) 0
def ascii (chars : List Char) : List UInt8 := chars.map fun c => UInt8.ofNat c.toNat

def manifestText : List Char :=
  ['{','"','s','c','h','e','m','a','_','v','e','r','s','i','o','n','"',':','1',',','"','e','n','t','r','i','e','s','"',':','[',
    '{','"','p','a','t','h','"',':','"','p','a','y','l','o','a','d','"',',','"','t','y','p','e','"',':',
    '"','d','i','r','e','c','t','o','r','y','"','}',']','}']

def tarHeader (name size checksum : List Char) (kind : Char) : List UInt8 :=
  pad 124 (ascii name) ++ pad 24 (ascii size) ++ ascii checksum ++ [0,32] ++ pad 356 (ascii [kind])

def tarball : List UInt8 :=
  tarHeader ['m','a','n','i','f','e','s','t','.','j','s','o','n'] ['0','0','0','0','0','0','0','0','1','0','6']
    ['0','0','4','2','0','6'] '0' ++ pad 512 (ascii manifestText) ++
  tarHeader ['p','a','y','l','o','a','d'] ['0','0','0','0','0','0','0','0','0','0','0'] ['0','0','3','0','5','7'] '5' ++
  List.replicate 1024 0

def tarGz : List UInt8 :=
  [31,139,8,0,0,0,0,0,0,255,1,0,10,255,245] ++ tarball ++ [255,159,176,61,0,10,0,0]

def appended (gcm : Gcm) (key : List UInt8) : List UInt8 :=
  let nonce := List.replicate nonceSize 0
  let ciphertext := gcm.crypt key nonce 0 tarGz
  magic ++ (nonce ++ (ciphertext ++ (gcm.tagOf key nonce magic ciphertext ++ List.replicate (2 * blockSize) 0)))

def tarGzReader : TarReader :=
  .read 10240 fun bytes =>
    if tarGz.isPrefixOf bytes then
      .emit (.member ⟨"manifest.json",.file⟩) (.emit (.data (ascii manifestText)) (.emit (.member ⟨"payload",.directory⟩) .stop))
    else .fail (.other "ReadError")

def plainPython : Python where
  eq
    | .null, .null => true
    | .bool first, .bool second => first = second
    | .number first, .number second => first = second
    | .string first, .string second => first = second
    | _, _ => false
  int
    | .number text => if text = "448" then some 448 else none
    | _ => none
  sha256 _ := ""

def openHost : Host := ⟨fun _ => false,fun _ => false,fun _ => false⟩

theorem crypt_crypt (nonce bytes : List UInt8) (start : Nat) :
    gcm.crypt key nonce start (gcm.crypt key nonce start bytes) = bytes := by
  apply List.ext_getElem?
  intro index
  simp only [Gcm.crypt,List.getElem?_mapIdx,Option.map_map]
  cases bytes[index]? with
  | none => rfl
  | some byte => simp [UInt8.xor_assoc]

theorem length_appended : headerSize + tagSize + tarGz.length + 2 * blockSize ≤ (appended gcm key).length + tagSize := by
  have header : headerSize = magic.length + nonceSize := rfl
  unfold appended
  simp only [List.length_append,List.length_replicate,length_crypt]
  omega

theorem appended_supported : Supported (appended gcm key) := by
  have := @length_appended gcm key
  have : blockSize = 1048576 := rfl
  have : tagSize = 16 := rfl
  exact ⟨List.isPrefixOf_iff_prefix.mpr (List.prefix_append ..),by omega⟩

theorem nonceOf_appended : nonceOf (appended gcm key) = List.replicate nonceSize 0 := by
  unfold nonceOf appended
  rw [List.drop_left,List.take_left' List.length_replicate]

theorem plaintextOf_appended : (plaintextOf gcm (appended gcm key) key).take tarGz.length = tarGz := by
  have long := @length_appended gcm key
  have tag : tagSize = 16 := rfl
  have block : blockSize = 1048576 := rfl
  have front : (ciphertextOf (appended gcm key)).take tarGz.length = gcm.crypt key (List.replicate nonceSize 0) 0 tarGz := by
    have body : (appended gcm key).drop headerSize = gcm.crypt key (List.replicate nonceSize 0) 0 tarGz ++
        (gcm.tagOf key (List.replicate nonceSize 0) magic (gcm.crypt key (List.replicate nonceSize 0) 0 tarGz) ++
          List.replicate (2 * blockSize) 0) := by
      unfold appended headerSize
      rw [← List.drop_drop,List.drop_left,List.drop_left' List.length_replicate]
    rw [ciphertextOf,List.take_take,Nat.min_eq_left (by omega),body,List.take_left' (length_crypt ..)]
  have piece := @crypt_piece gcm key (nonceOf (appended gcm key)) (ciphertextOf (appended gcm key)) 0 tarGz.length
  rw [List.drop_zero,List.drop_zero,front,nonceOf_appended,crypt_crypt] at piece
  rw [plaintextOf,nonceOf_appended,← piece]

theorem length_pad {width : Nat} {bytes : List UInt8} (fits : bytes.length ≤ width) : (pad width bytes).length = width := by
  rw [pad,List.length_append,List.length_replicate]
  omega

theorem length_ascii (chars : List Char) : (ascii chars).length = chars.length := List.length_map ..

theorem length_tarHeader {name size checksum : List Char} {kind : Char} (short : name.length ≤ 124) (digits : size.length ≤ 24)
    (sum : checksum.length = 6) : (tarHeader name size checksum kind).length = 512 := by
  simp only [tarHeader,List.length_append,length_ascii,sum,List.length_cons,List.length_nil]
  rw [length_pad (by rwa [length_ascii]),length_pad (by rwa [length_ascii]),length_pad (by simp [length_ascii])]

theorem length_tarGz : tarGz.length = 2583 := by
  have manifest : (pad 512 (ascii manifestText)).length = 512 := length_pad (by rw [length_ascii]; decide)
  simp only [tarGz,tarball,List.length_append,List.length_replicate,manifest]
  rw [length_tarHeader (by decide) (by decide) rfl,length_tarHeader (by decide) (by decide) rfl]
  rfl

theorem tarGz_first : tarGz.isPrefixOf (((plaintextOf gcm (appended gcm key) key).drop 0).take 10240) = true := by
  have length : tarGz.length ≤ 10240 := by
    have := length_tarGz
    omega
  have front : tarGz = (((plaintextOf gcm (appended gcm key) key).drop 0).take 10240).take tarGz.length := by
    rw [List.drop_zero,List.take_take,Nat.min_eq_left length,plaintextOf_appended]
  have within := List.take_prefix tarGz.length (((plaintextOf gcm (appended gcm key) key).drop 0).take 10240)
  rw [← front] at within
  exact List.isPrefixOf_iff_prefix.mpr within

def extracted : Target := ⟨[(["manifest.json"],ascii manifestText)],[["payload"]],["manifest.json"]⟩

theorem through_appended : tarGzReader.through (plaintextOf gcm (appended gcm key) key) (extract openHost) 0 Target.empty =
    .ok (extracted,10240) := by
  rw [tarGzReader,Consumer.through,tarGz_first]
  rfl

theorem loads_manifestText : loads manifestText = some (.object [("schema_version",.number "1"),
    ("entries",.array [.object [("path",.string "payload"),("type",.string "directory")]])]) := rfl

theorem readManifest_extracted : readManifest extracted = .ok (.object [("schema_version",.number "1"),
    ("entries",.array [.object [("path",.string "payload"),("type",.string "directory")]])]) := by
  have bytes : ascii manifestText = Utf8.encode manifestText := by decide
  have decoded : Utf8.decode (ascii manifestText) = some manifestText := by rw [bytes,Utf8.decode_encode]
  unfold readManifest extracted
  rw [List.lookup_cons_self]
  dsimp only
  rw [decoded]
  dsimp only
  rw [loads_manifestText]

theorem checkManifest_extracted : ∃ manifest, checkManifest plainPython openHost extracted = .ok manifest := by
  unfold checkManifest
  rw [readManifest_extracted]
  exact ⟨_,rfl⟩

theorem appended_unverified (gcm : Gcm) (key : List UInt8) :
    ¬Verified gcm plainPython openHost tarGzReader (appended gcm key) key := by
  intro verified
  have long := @length_appended gcm key
  have count : (ciphertextOf (appended gcm key)).length = (appended gcm key).length - headerSize - tagSize := length_ciphertextOf
  have block : blockSize = 1048576 := rfl
  have tag : tagSize = 16 := rfl
  have past := verified_iff_readsOn.mp verified appended_supported extracted 10240 through_appended checkManifest_extracted
  have whole : blockSize ≤ blockSize * ((ciphertextOf (appended gcm key)).length / blockSize) :=
    dvd_le_blocks (Nat.dvd_refl _) (by omega)
  omega

def sumGcm : Gcm where
  keystream key nonce index := key.getD (index % 32) 0 + nonce.getD (index % 12) 0 + UInt8.ofNat index
  tagOf key nonce additional ciphertext := pad tagSize [(key ++ nonce ++ additional ++ ciphertext).sum]

theorem extractVerified_appended :
    ¬Verified sumGcm plainPython openHost tarGzReader (appended sumGcm (List.replicate 32 7)) (List.replicate 32 7) :=
  appended_unverified _ _

end GmsRemoteTest.Scripts.GmsBackup
