import Mathlib.Data.List.Basic

/-! UTF-8 read strictly, on lists of bytes: a text that goes on with an ASCII character is read as what stands before
that character and what follows it. -/
namespace Utf8

def encode (chars : List Char) : List UInt8 := chars.flatMap String.utf8EncodeChar

def decode (bytes : List UInt8) : Option (List Char) := bytes.toByteArray.utf8Decode?.map Array.toList

theorem decode_encode (chars : List Char) : decode (encode chars) = some chars := by
  have whole : (encode chars).toByteArray = chars.utf8Encode := rfl
  rw [decode,whole,List.utf8Decode?_utf8Encode]
  rfl

theorem decode_eq_some {bytes : List UInt8} {chars : List Char} : decode bytes = some chars ↔ bytes = encode chars := by
  constructor
  · intro read
    obtain ⟨array,valid,rfl⟩ := Option.map_eq_some_iff.mp read
    have back := @ByteArray.utf8Encode_get_utf8Decode? bytes.toByteArray (by simp [valid])
    simp only [valid,Option.get_some] at back
    exact (List.toByteArray_inj.mp back).symm
  · rintro rfl
    exact decode_encode chars

theorem encode_ascii {c : Char} (ascii : c.toNat < 128) : String.utf8EncodeChar c = [UInt8.ofNat c.toNat] := by
  unfold String.utf8EncodeChar
  exact if_pos (Nat.le_of_lt_succ ascii)

theorem length_encode (chars : List Char) : chars.length ≤ (encode chars).length := by
  induction chars with
  | nil => simp
  | cons c chars ih =>
    have one : 1 ≤ (String.utf8EncodeChar c).length := List.length_pos_of_ne_nil String.utf8EncodeChar_ne_nil
    rw [encode] at ih ⊢
    rw [List.flatMap_cons,List.length_append,List.length_cons]
    omega

theorem encode_length_le (chars : List Char) : (encode chars).length ≤ 4 * chars.length := by
  induction chars with
  | nil => simp [encode]
  | cons c chars ih =>
    have one : (String.utf8EncodeChar c).length ≤ 4 := by
      unfold String.utf8EncodeChar
      dsimp only
      split_ifs <;> simp
    rw [encode] at ih ⊢
    rw [List.flatMap_cons,List.length_append,List.length_cons]
    omega

theorem tail_encodeChar (c : Char) : ∀ byte ∈ (String.utf8EncodeChar c).tail, 128 ≤ byte.toNat := by
  have high : ∀ n : Nat, 128 ≤ (n % 64 + 128) % 256 := by
    intro n
    rw [Nat.mod_eq_of_lt (by omega : n % 64 + 128 < 256)]
    omega
  unfold String.utf8EncodeChar
  dsimp only
  split
  · simp
  · split
    · simpa using high _
    · split
      · simpa using ⟨high _,high _⟩
      · simpa using ⟨high _,high _,high _⟩

theorem encodeChar_low {c : Char} {byte : UInt8} {rest : List UInt8} (bytes : String.utf8EncodeChar c = byte::rest)
    (low : byte.toNat < 128) : c.toNat = byte.toNat := by
  unfold String.utf8EncodeChar at bytes
  dsimp only at bytes
  split at bytes
  · rename_i ascii
    obtain ⟨rfl,_⟩ := List.cons_eq_cons.mp bytes
    have small : c.val.toNat < UInt8.size := Nat.lt_of_le_of_lt ascii (by decide)
    exact (UInt8.toNat_ofNat_of_lt' small).symm
  · have high : ∀ first more, more < 0x40 → 0x80 ≤ first → first + more < 256 → (UInt8.ofNat (more + first)).toNat ≥ 128 := by
      intro first more _ lead small
      have byte : more + first < UInt8.size := by
        change _ < 256
        omega
      rw [UInt8.toNat_ofNat_of_lt' byte]
      omega
    split at bytes
    · obtain ⟨rfl,_⟩ := List.cons_eq_cons.mp bytes
      have := high 0xc0 (c.val.toNat / 64 % 0x20) (by omega) (by omega) (by omega)
      omega
    · split at bytes
      · obtain ⟨rfl,_⟩ := List.cons_eq_cons.mp bytes
        have := high 0xe0 (c.val.toNat / 4096 % 0x10) (by omega) (by omega) (by omega)
        omega
      · obtain ⟨rfl,_⟩ := List.cons_eq_cons.mp bytes
        have := high 0xf0 (c.val.toNat / 262144 % 0x08) (by omega) (by omega) (by omega)
        omega

section
variable {front rest : List UInt8} {ascii : UInt8} (low : ascii.toNat < 128) {chars : List Char}
include low

theorem encode_split (whole : front ++ ascii::rest = encode chars) :
    ∃ before after, chars = before++after ∧ front = encode before ∧ ascii::rest = encode after := by
  induction chars generalizing front with
  | nil =>
    have none : (front ++ ascii::rest).length = 0 := by rw [whole]; rfl
    simp at none
  | cons c chars ih =>
    rcases front with _ | ⟨byte,front⟩
    · exact ⟨[],c::chars,rfl,rfl,whole⟩
    · have cut : byte::front ++ ascii::rest = String.utf8EncodeChar c ++ encode chars := by
        rw [whole]
        rfl
      rcases List.append_eq_append_iff.mp cut with ⟨middle,first,second⟩ | ⟨middle,first,second⟩
      · rcases middle with _ | ⟨next,middle⟩
        · refine ⟨[c],chars,rfl,?_,second⟩
          rw [encode,List.flatMap_singleton,first,List.append_nil]
        · -- the byte would stand within the character
          obtain ⟨rfl,_⟩ := List.cons_eq_cons.mp second
          have within := tail_encodeChar c ascii (by simp [first])
          omega
      · obtain ⟨before,after,rfl,rfl,same⟩ := ih second.symm
        refine ⟨c::before,after,rfl,?_,same⟩
        rw [first]
        rfl

theorem decode_append (read : decode (front ++ ascii::rest) = some chars) :
    ∃ before after, chars = before ++ Char.ofNat ascii.toNat :: after ∧ decode front = some before := by
  obtain ⟨before,after,rfl,first,second⟩ := encode_split low (decode_eq_some.mp read)
  cases after with
  | nil => cases second
  | cons c after =>
    obtain ⟨byte,bytes,shape⟩ := List.exists_cons_of_ne_nil (@String.utf8EncodeChar_ne_nil c)
    have same : ascii::rest = byte::(bytes ++ encode after) := by
      rw [second,encode,List.flatMap_cons,shape]
      rfl
    obtain ⟨rfl,_⟩ := List.cons_eq_cons.mp same
    refine ⟨before,after,?_,decode_eq_some.mpr first⟩
    rw [← encodeChar_low shape low,Char.ofNat_toNat]

end

end Utf8
