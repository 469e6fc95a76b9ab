import GmsRemoteTest.Lib.GuardedStream

/-! The reader of an encrypted backup. A tag is compared by `finalize` alone, which the reader calls when it is asked for
more than is left of the ciphertext. -/
namespace GmsRemoteTest.Scripts.GmsBackup
open GuardedStream

def magic : List UInt8 := [71,77,83,66,65,67,75,85,80,1]
def nonceSize : Nat := 12
def tagSize : Nat := 16
def blockSize : Nat := 1024 * 1024

/-- A `BackupError`, or any other exception. -/
inductive Failure where
  | backup (text : String)
  | other (text : String)
deriving DecidableEq

/-- AES in Galois counter mode: a key stream, and the tag of a whole ciphertext. -/
structure Gcm where
  keystream : (key nonce : List UInt8) → Nat → UInt8
  tagOf : (key nonce additional ciphertext : List UInt8) → List UInt8

def Gcm.crypt (gcm : Gcm) (key nonce : List UInt8) (start : Nat) (bytes : List UInt8) : List UInt8 :=
  bytes.mapIdx fun index byte => byte ^^^ gcm.keystream key nonce (start + index)

/-- `Cipher(algorithms.AES(key), modes.GCM(nonce, tag)).decryptor()`, with what was fed to it. -/
structure Decryptor where
  key : List UInt8
  nonce : List UInt8
  tag : List UInt8
  additional : List UInt8
  absorbed : List UInt8

def Decryptor.update (gcm : Gcm) (decryptor : Decryptor) (chunk : List UInt8) : List UInt8 × Decryptor :=
  (gcm.crypt decryptor.key decryptor.nonce decryptor.absorbed.length chunk,{decryptor with absorbed := decryptor.absorbed++chunk})

def Decryptor.Accepts (gcm : Gcm) (decryptor : Decryptor) : Prop :=
  gcm.tagOf decryptor.key decryptor.nonce decryptor.additional decryptor.absorbed = decryptor.tag

instance (gcm : Gcm) (decryptor : Decryptor) : Decidable (decryptor.Accepts gcm) := inferInstanceAs (Decidable (_ = _))

structure Source where
  content : List UInt8
  position : Nat

def Source.read (source : Source) (n : Nat) : List UInt8 × Source :=
  ((source.content.drop source.position).take n,
    {source with position := source.position + ((source.content.drop source.position).take n).length})

def Source.seek (source : Source) (position : Nat) : Source := {source with position}

structure DecryptingReader where
  source : Source
  remaining : Nat
  decryptor : Decryptor
  buffer : List UInt8
  finished : Bool

def DecryptingReader.init (source : Source) (key : List UInt8) : Except Failure DecryptingReader :=
  let (header,source) := source.read (magic.length + nonceSize)
  if header.length ≠ magic.length + nonceSize ∨ ¬magic.isPrefixOf header then
    .error (.backup "not a supported GMS backup archive")
  else
    let nonce := header.drop magic.length
    let archiveSize := source.content.length
    let ciphertextStart := magic.length + nonceSize
    if archiveSize ≤ ciphertextStart + tagSize then .error (.backup "backup archive is truncated")
    else
      let (tag,source) := (source.seek (archiveSize - tagSize)).read tagSize
      .ok ⟨source.seek ciphertextStart,archiveSize - ciphertextStart - tagSize,⟨key,nonce,tag,magic,[]⟩,[],false⟩

variable (gcm : Gcm)

def DecryptingReader.fill (requested : Nat) (reader : DecryptingReader) : Except Failure DecryptingReader :=
  if _wanted : reader.buffer.length < requested ∧ reader.finished = false then
    if reader.remaining ≠ 0 then
      let (chunk,source) := reader.source.read (min blockSize reader.remaining)
      if _empty : chunk = [] then .error (.backup "backup ciphertext is truncated")
      else
        let (decrypted,decryptor) := reader.decryptor.update gcm chunk
        fill requested {reader with
          source, remaining := reader.remaining - chunk.length, decryptor, buffer := reader.buffer++decrypted}
    else if reader.decryptor.Accepts gcm then fill requested {reader with finished := true}
    else .error (.backup "backup authentication failed (wrong key or corrupted archive)")
  else .ok reader
termination_by reader.remaining + if reader.finished then 0 else 1
decreasing_by
  · have some : 0 < chunk.length := List.length_pos_iff.mpr _empty
    omega
  · simp [_wanted.2]

def DecryptingReader.readinto (requested : Nat) (reader : DecryptingReader) : Except Failure (List UInt8 × DecryptingReader) :=
  (reader.fill gcm requested).map fun reader =>
    let count := min requested reader.buffer.length
    (reader.buffer.take count,{reader with buffer := reader.buffer.drop count})

section parts
variable (archive key : List UInt8)

def headerSize : Nat := magic.length + nonceSize

def nonceOf : List UInt8 := (archive.drop magic.length).take nonceSize
def ciphertextOf : List UInt8 := (archive.drop headerSize).take (archive.length - headerSize - tagSize)
def tagOf : List UInt8 := archive.drop (archive.length - tagSize)
def plaintextOf : List UInt8 := gcm.crypt key (nonceOf archive) 0 (ciphertextOf archive)

structure Supported : Prop where
  magic : magic.isPrefixOf archive = true
  holds : headerSize + tagSize < archive.length

/-- The tag is that of the entire ciphertext. -/
def Authentic : Prop := gcm.tagOf key (nonceOf archive) magic (ciphertextOf archive) = tagOf archive

/-- The reader after it has decrypted up to one position and given out the bytes before another. -/
def stage (given absorbed : Nat) : DecryptingReader where
  source := ⟨archive,headerSize + absorbed⟩
  remaining := (ciphertextOf archive).length - absorbed
  decryptor := ⟨key,nonceOf archive,tagOf archive,magic,(ciphertextOf archive).take absorbed⟩
  buffer := ((plaintextOf gcm archive key).drop given).take (absorbed - given)
  finished := false

def spent : DecryptingReader where
  source := ⟨archive,headerSize + (ciphertextOf archive).length⟩
  remaining := 0
  decryptor := ⟨key,nonceOf archive,tagOf archive,magic,ciphertextOf archive⟩
  buffer := []
  finished := true

end parts

variable {gcm : Gcm} {archive key : List UInt8}

theorem length_crypt (nonce : List UInt8) (start : Nat) (bytes : List UInt8) :
    (gcm.crypt key nonce start bytes).length = bytes.length := List.length_mapIdx

theorem crypt_piece (nonce bytes : List UInt8) (start count : Nat) :
    gcm.crypt key nonce start ((bytes.drop start).take count) = ((gcm.crypt key nonce 0 bytes).drop start).take count := by
  apply List.ext_getElem?
  intro index
  simp only [Gcm.crypt,List.getElem?_mapIdx,List.getElem?_take,List.getElem?_drop]
  split
  · simp
  · rfl

theorem length_plaintextOf : (plaintextOf gcm archive key).length = (ciphertextOf archive).length := length_crypt ..

theorem length_ciphertextOf : (ciphertextOf archive).length = archive.length - headerSize - tagSize := by
  rw [ciphertextOf,List.length_take,List.length_drop]
  omega

theorem init_supported (supported : Supported archive) :
    DecryptingReader.init ⟨archive,0⟩ key = .ok (stage gcm archive key 0 0) := by
  have := supported.holds
  have header : headerSize = 22 := rfl
  have tag : tagSize = 16 := rfl
  have long : (archive.take headerSize).length = headerSize := by
    rw [List.length_take]
    omega
  have opens : magic.isPrefixOf (archive.take headerSize) = true := by
    obtain ⟨rest,shape⟩ := List.isPrefixOf_iff_prefix.mp supported.magic
    rw [← shape,List.take_append,List.take_of_length_le (by decide)]
    exact List.isPrefixOf_iff_prefix.mpr (List.prefix_append ..)
  unfold DecryptingReader.init Source.read Source.seek
  change (if (archive.take headerSize).length ≠ headerSize ∨ ¬magic.isPrefixOf (archive.take headerSize) = true then _
    else if archive.length ≤ headerSize + tagSize then _ else _) = _
  rw [if_neg (by simp [long,opens]),if_neg (by omega)]
  have nonce : (archive.take headerSize).drop magic.length = nonceOf archive := List.drop_take ..
  have last : (archive.drop (archive.length - tagSize)).take tagSize = tagOf archive :=
    List.take_of_length_le (by rw [List.length_drop]; omega)
  change Except.ok (DecryptingReader.mk ⟨archive,headerSize⟩ _ ⟨key,(archive.take headerSize).drop magic.length,
    (archive.drop (archive.length - tagSize)).take tagSize,magic,[]⟩ [] false) = _
  rw [nonce,last]
  unfold stage
  rw [length_ciphertextOf]
  simp [headerSize]

theorem init_unsupported (unsupported : ¬Supported archive) : ∃ failure, DecryptingReader.init ⟨archive,0⟩ key = .error failure := by
  unfold DecryptingReader.init
  dsimp only
  split
  · exact ⟨_,rfl⟩
  · rename_i known
    have header : headerSize = 22 := rfl
    have ⟨long,opens⟩ := not_or.mp known
    refine ⟨.backup "backup archive is truncated",if_pos (Nat.le_of_not_lt fun room => unsupported ⟨?_,room⟩)⟩
    obtain ⟨rest,shape⟩ := List.isPrefixOf_iff_prefix.mp (not_not.mp opens)
    have front : magic ++ rest = archive.take headerSize := shape
    exact List.isPrefixOf_iff_prefix.mpr ((List.prefix_append ..).trans (front ▸ List.take_prefix headerSize archive))

theorem fill_chunk {requested : Nat} {reader : DecryptingReader} {chunk : List UInt8} {source : Source}
    (wanted : reader.buffer.length < requested ∧ reader.finished = false) (remains : reader.remaining ≠ 0)
    (read : reader.source.read (min blockSize reader.remaining) = (chunk,source)) (some : chunk ≠ []) :
    reader.fill gcm requested = DecryptingReader.fill gcm requested {reader with
      source, remaining := reader.remaining - chunk.length, decryptor := (reader.decryptor.update gcm chunk).2,
      buffer := reader.buffer++(reader.decryptor.update gcm chunk).1} := by
  rw [DecryptingReader.fill,dif_pos wanted,if_pos remains]
  simp only [read]
  rw [dif_neg some]

theorem fill_block {requested given absorbed : Nat} (before : given ≤ absorbed) (left : absorbed < (ciphertextOf archive).length)
    (wanted : absorbed < given + requested) :
    (stage gcm archive key given absorbed).fill gcm requested =
      (stage gcm archive key given (absorbed + min blockSize ((ciphertextOf archive).length - absorbed))).fill gcm requested := by
  have count : (ciphertextOf archive).length = archive.length - headerSize - tagSize := length_ciphertextOf
  have short : (stage gcm archive key given absorbed).buffer.length < requested := by
    unfold stage
    rw [List.length_take,List.length_drop,length_plaintextOf]
    omega
  have remains : (stage gcm archive key given absorbed).remaining ≠ 0 := Nat.sub_ne_zero_of_lt left
  have positive : 0 < blockSize := by decide
  generalize size : min blockSize ((ciphertextOf archive).length - absorbed) = block
  have chunk : (archive.drop (headerSize + absorbed)).take block = ((ciphertextOf archive).drop absorbed).take block := by
    rw [ciphertextOf,List.drop_take,List.take_take,List.drop_drop,Nat.min_eq_left (by omega)]
  have length : (((ciphertextOf archive).drop absorbed).take block).length = block := by
    rw [List.length_take,List.length_drop]
    omega
  have some : ((ciphertextOf archive).drop absorbed).take block ≠ [] := List.ne_nil_of_length_pos (by omega)
  have read : (stage gcm archive key given absorbed).source.read (min blockSize (stage gcm archive key given absorbed).remaining) =
      (((ciphertextOf archive).drop absorbed).take block,⟨archive,headerSize + (absorbed + block)⟩) := by
    unfold stage Source.read
    rw [size,chunk,length,Nat.add_assoc]
  have fed : ((ciphertextOf archive).take absorbed).length = absorbed := by
    rw [List.length_take]
    omega
  have decrypted : gcm.crypt key (nonceOf archive) absorbed (((ciphertextOf archive).drop absorbed).take block) =
      ((plaintextOf gcm archive key).drop absorbed).take block := crypt_piece ..
  rw [fill_chunk ⟨short,rfl⟩ remains read some]
  refine congrArg (DecryptingReader.fill gcm requested) ?_
  unfold Decryptor.update stage
  dsimp only
  rw [fed,decrypted,length]
  congr 1
  · omega
  · rw [List.take_add]
  · have pieces := take_drop_append (plaintextOf gcm archive key) given (absorbed - given) block
    rwa [Nat.add_sub_of_le before,← Nat.sub_add_comm before] at pieces

theorem fill_enough {requested given absorbed : Nat} (enough : given + requested ≤ absorbed)
    (within : absorbed ≤ (ciphertextOf archive).length) :
    (stage gcm archive key given absorbed).fill gcm requested = .ok (stage gcm archive key given absorbed) := by
  have length : requested ≤ (stage gcm archive key given absorbed).buffer.length := by
    unfold stage
    rw [List.length_take,List.length_drop,length_plaintextOf]
    omega
  rw [DecryptingReader.fill,dif_neg fun wanted => absurd wanted.1 (Nat.not_lt_of_le length)]

theorem fill_inside {requested given absorbed : Nat} (before : given ≤ absorbed) (within : absorbed ≤ (ciphertextOf archive).length)
    (fits : given + requested ≤ (ciphertextOf archive).length) :
    ∃ later, given + requested ≤ later ∧ later ≤ (ciphertextOf archive).length ∧
      (stage gcm archive key given absorbed).fill gcm requested = .ok (stage gcm archive key given later) := by
  have positive : 0 < blockSize := by decide
  by_cases enough : given + requested ≤ absorbed
  · exact ⟨absorbed,enough,within,fill_enough enough within⟩
  · rw [fill_block before (by omega) (by omega)]
    exact fill_inside (by omega) (by omega) fits
termination_by (ciphertextOf archive).length - absorbed

theorem fill_end {requested given : Nat} (within : given ≤ (ciphertextOf archive).length)
    (past : (ciphertextOf archive).length < given + requested) :
    (Authentic gcm archive key → (stage gcm archive key given (ciphertextOf archive).length).fill gcm requested =
      .ok {stage gcm archive key given (ciphertextOf archive).length with finished := true}) ∧
    (¬Authentic gcm archive key → (stage gcm archive key given (ciphertextOf archive).length).fill gcm requested =
      .error (.backup "backup authentication failed (wrong key or corrupted archive)")) := by
  have short : (stage gcm archive key given (ciphertextOf archive).length).buffer.length < requested := by
    unfold stage
    rw [List.length_take,List.length_drop,length_plaintextOf]
    omega
  have none : (stage gcm archive key given (ciphertextOf archive).length).remaining = 0 := Nat.sub_self _
  have verdict : (stage gcm archive key given (ciphertextOf archive).length).decryptor.Accepts gcm ↔ Authentic gcm archive key := by
    unfold stage Decryptor.Accepts Authentic
    rw [List.take_length]
  rw [DecryptingReader.fill,dif_pos ⟨short,rfl⟩,if_neg (not_not.mpr none)]
  refine ⟨fun authentic => ?_,fun forged => ?_⟩
  · rw [if_pos (verdict.mpr authentic),DecryptingReader.fill,dif_neg (by simp)]
  · rw [if_neg fun accepted => forged (verdict.mp accepted)]

theorem fill_past {requested given absorbed : Nat} (before : given ≤ absorbed) (within : absorbed ≤ (ciphertextOf archive).length)
    (past : (ciphertextOf archive).length < given + requested) :
    (stage gcm archive key given absorbed).fill gcm requested =
      (stage gcm archive key given (ciphertextOf archive).length).fill gcm requested := by
  have positive : 0 < blockSize := by decide
  by_cases all : absorbed = (ciphertextOf archive).length
  · rw [all]
  · rw [fill_block before (by omega) (by omega)]
    exact fill_past (by omega) (by omega) past
termination_by (ciphertextOf archive).length - absorbed

def At (gcm : Gcm) (archive key : List UInt8) (position : Nat) (reader : DecryptingReader) : Prop :=
  ∃ absorbed, position ≤ absorbed ∧ absorbed ≤ (ciphertextOf archive).length ∧ reader = stage gcm archive key position absorbed

theorem readinto_filled {requested : Nat} {reader filled : DecryptingReader} (loop : reader.fill gcm requested = .ok filled) :
    reader.readinto gcm requested = .ok (filled.buffer.take (min requested filled.buffer.length),
      {filled with buffer := filled.buffer.drop (min requested filled.buffer.length)}) := by
  rw [DecryptingReader.readinto,loop]
  rfl

theorem guarded : Guarded (DecryptingReader.readinto gcm) (plaintextOf gcm archive key) (Authentic gcm archive key)
    (.backup "backup authentication failed (wrong key or corrupted archive)") (At gcm archive key) (· = spent archive key) where
  inside := by
    rintro position n _ ⟨absorbed,before,within,rfl⟩ fits
    rw [length_plaintextOf] at fits
    obtain ⟨later,enough,within,filled⟩ := fill_inside before within fits
    have count : min n (stage gcm archive key position later).buffer.length = n := by
      unfold stage
      rw [List.length_take,List.length_drop,length_plaintextOf]
      omega
    rw [readinto_filled filled,count]
    refine ⟨_,congrArg Except.ok (Prod.ext ?_ rfl),later,enough,within,?_⟩
    · unfold stage
      rw [List.take_take,Nat.min_eq_left (by omega)]
    · unfold stage
      rw [List.drop_take,List.drop_drop,Nat.sub_sub]
  past := by
    rintro position n _ ⟨absorbed,before,within,rfl⟩ inside past authentic
    have all : ((plaintextOf gcm archive key).drop position).take ((ciphertextOf archive).length - position) =
        (plaintextOf gcm archive key).drop position :=
      List.take_of_length_le (Nat.le_of_eq (by rw [List.length_drop,length_plaintextOf]))
    have count : min n ((plaintextOf gcm archive key).drop position).length = ((plaintextOf gcm archive key).drop position).length := by
      rw [List.length_drop]
      omega
    rw [length_plaintextOf] at inside past
    rw [readinto_filled ((fill_past before within past).trans ((fill_end inside past).1 authentic))]
    refine ⟨_,congrArg Except.ok (Prod.ext ?_ rfl),?_⟩
    · unfold stage
      rw [all,count,List.take_length]
    · unfold stage spent
      rw [all,count,List.drop_length,List.take_length,Nat.sub_self]
  refuses := by
    rintro position n _ ⟨absorbed,before,within,rfl⟩ inside past forged
    rw [length_plaintextOf] at inside past
    rw [DecryptingReader.readinto,fill_past before within past,(fill_end inside past).2 forged]
    rfl
  ended := by
    rintro n _ rfl
    refine ⟨spent archive key,?_,rfl⟩
    rw [DecryptingReader.readinto,DecryptingReader.fill,dif_neg (by simp [spent])]
    simp [spent,Except.map]

end GmsRemoteTest.Scripts.GmsBackup
