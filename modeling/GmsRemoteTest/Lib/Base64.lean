import Mathlib.Data.List.GetD
import Mathlib.Data.List.Nodup

/-! URL-safe Base64 without padding, the decoder that skips what is in neither alphabet and stops at a pad, and the
strict one, which refuses both. Encoded bytes are read back once the pads are put there again. -/
namespace Base64

def alphabet : List Char :=
  "ABCDEFGHIJKLMNOPQRSTUVWXYZabcdefghijklmnopqrstuvwxyz0123456789-_".toList

def digit (n : Nat) : Char := alphabet.getD n 'A'

/-- The six bits of a character, in the URL-safe or the standard alphabet. -/
def value (c : Char) : Option Nat :=
  if c = '+' then some 62
  else if c = '/' then some 63
  else if alphabet.idxOf c < 64 then some (alphabet.idxOf c) else none

def encode : List UInt8 → List Char
  | [] => []
  | [a] => [digit (a.toNat / 4),digit (a.toNat % 4 * 16)]
  | [a,b] => [digit (a.toNat / 4),digit (a.toNat % 4 * 16 + b.toNat / 16),digit (b.toNat % 16 * 4)]
  | a :: b :: c :: rest =>
    digit (a.toNat / 4) :: digit (a.toNat % 4 * 16 + b.toNat / 16) :: digit (b.toNat % 16 * 4 + c.toNat / 64) ::
      digit (c.toNat % 64) :: encode rest

def scan : Nat → Nat → Nat → List Char → Option (List UInt8)
  | quad, _, _, [] => if quad = 0 then some [] else none
  | quad, left, pads, c :: rest =>
    if c = '=' then
      if 2 ≤ quad then
        if 4 ≤ quad + (pads + 1) then some [] else scan quad left (pads + 1) rest
      else scan quad left pads rest
    else match value c with
    | none => scan quad left pads rest
    | some v =>
      if quad = 0 then scan 1 v 0 rest
      else if quad = 1 then (scan 2 (v % 16) 0 rest).map (UInt8.ofNat (left * 4 + v / 16) :: ·)
      else if quad = 2 then (scan 3 (v % 4) 0 rest).map (UInt8.ofNat (left * 16 + v / 4) :: ·)
      else (scan 0 0 0 rest).map (UInt8.ofNat (left * 64 + v) :: ·)

def padding (length : Nat) : List Char := List.replicate ((4 - length % 4) % 4) '='

def decode (chars : List Char) : Option (List UInt8) := scan 0 0 0 (chars ++ padding chars.length)

def isStrict (chars : List Char) : Bool :=
  (chars.takeWhile (· != '=')).all (fun c => (value c).isSome) && (chars.dropWhile (· != '=')).all (· == '=') &&
    (chars.dropWhile (· != '=')).length ≤ 2

def decodeStrict (chars : List Char) : Option (List UInt8) :=
  if isStrict (chars ++ padding chars.length) then decode chars else none

theorem alphabet_chars : alphabet = ['A','B','C','D','E','F','G','H','I','J','K','L','M','N','O','P','Q','R','S','T','U','V','W','X','Y','Z',
    'a','b','c','d','e','f','g','h','i','j','k','l','m','n','o','p','q','r','s','t','u','v','w','x','y','z',
    '0','1','2','3','4','5','6','7','8','9','-','_'] := by
  unfold alphabet
  exact String.toList_ofList

theorem alphabet_length : alphabet.length = 64 := by rw [alphabet_chars]; rfl

theorem alphabet_nodup : alphabet.Nodup := by
  rw [alphabet_chars]
  exact List.Nodup.of_map Char.toNat (by decide +kernel)

theorem value_digit : ∀ n < 64, value (digit n) = some n ∧ digit n ≠ '=' := by
  intro n small
  have bound : n < alphabet.length := by rw [alphabet_length]; exact small
  have nth : digit n = alphabet[n] := List.getD_eq_getElem _ _ bound
  have all : alphabet.all (fun c => c ≠ '+' ∧ c ≠ '/' ∧ c ≠ '=') = true := by rw [alphabet_chars]; rfl
  obtain ⟨plus,slash,pad⟩ := of_decide_eq_true (List.all_eq_true.mp all _ (List.getElem_mem bound))
  rw [← nth] at plus slash pad
  refine ⟨?_,pad⟩
  unfold value
  rw [if_neg plus,if_neg slash,nth,alphabet_nodup.idxOf_getElem n bound,if_pos small]

theorem digit_mem (n : Nat) : digit n ∈ alphabet := by
  unfold digit
  by_cases inside : n < alphabet.length
  · rw [List.getD_eq_getElem _ _ inside]
    exact List.getElem_mem inside
  · rw [List.getD_eq_default _ _ (Nat.le_of_not_lt inside)]
    decide

theorem encode_mem (bytes : List UInt8) : ∀ c ∈ encode bytes, c ∈ alphabet := by
  fun_induction encode bytes with
  | case1 => simp
  | case2 a => simp [digit_mem]
  | case3 a b => simp [digit_mem]
  | case4 a b c rest ih =>
    intro x member
    simp only [List.mem_cons] at member
    rcases member with rfl | rfl | rfl | rfl | member
    · exact digit_mem _
    · exact digit_mem _
    · exact digit_mem _
    · exact digit_mem _
    · exact ih x member

section
variable {left pads n : Nat} (small : n < 64) (rest : List Char)
include small

theorem scan_digit {quad : ℕ} : scan quad left pads (digit n::rest) =
    if quad = 0 then scan 1 n 0 rest
    else if quad = 1 then (scan 2 (n % 16) 0 rest).map (UInt8.ofNat (left * 4 + n / 16) :: ·)
    else if quad = 2 then (scan 3 (n % 4) 0 rest).map (UInt8.ofNat (left * 16 + n / 4) :: ·)
    else (scan 0 0 0 rest).map (UInt8.ofNat (left * 64 + n) :: ·) := by
  obtain ⟨read,pad⟩ := value_digit n small
  rw [scan,if_neg pad,read]

theorem scan_zero : scan 0 left pads (digit n::rest) = scan 1 n 0 rest := scan_digit small rest

theorem scan_one : scan 1 left pads (digit n::rest) = (scan 2 (n % 16) 0 rest).map (UInt8.ofNat (left * 4 + n / 16) :: ·) :=
  scan_digit small rest

theorem scan_two : scan 2 left pads (digit n::rest) = (scan 3 (n % 4) 0 rest).map (UInt8.ofNat (left * 16 + n / 4) :: ·) :=
  scan_digit small rest

theorem scan_three : scan 3 left pads (digit n::rest) = (scan 0 0 0 rest).map (UInt8.ofNat (left * 64 + n) :: ·) :=
  scan_digit small rest

end

theorem ofNat_toNat {byte : UInt8} {n : Nat} (same : n = byte.toNat) : UInt8.ofNat n = byte := by
  rw [same,UInt8.ofNat_toNat]

theorem decode_encode (bytes : List UInt8) : decode (encode bytes) = some bytes := by
  unfold decode
  fun_induction encode bytes with
  | case1 => rfl
  | case2 a =>
    have bound := a.toNat_lt
    have pads : padding [digit (a.toNat / 4),digit (a.toNat % 4 * 16)].length = ['=','='] := rfl
    have first : UInt8.ofNat (a.toNat / 4 * 4 + a.toNat % 4 * 16 / 16) = a := ofNat_toNat (by omega)
    rw [pads,List.cons_append,List.cons_append,scan_zero (by omega),scan_one (by omega),first]
    rfl
  | case3 a b =>
    have boundA := a.toNat_lt
    have boundB := b.toNat_lt
    have pads : padding [digit (a.toNat / 4),digit (a.toNat % 4 * 16 + b.toNat / 16),digit (b.toNat % 16 * 4)].length = ['='] := rfl
    have first : UInt8.ofNat (a.toNat / 4 * 4 + (a.toNat % 4 * 16 + b.toNat / 16) / 16) = a := ofNat_toNat (by omega)
    have second : UInt8.ofNat ((a.toNat % 4 * 16 + b.toNat / 16) % 16 * 16 + b.toNat % 16 * 4 / 4) = b := ofNat_toNat (by omega)
    rw [pads,List.cons_append,List.cons_append,List.cons_append,scan_zero (by omega),scan_one (by omega),scan_two (by omega),
      first,second]
    rfl
  | case4 a b c rest ih =>
    have boundA := a.toNat_lt
    have boundB := b.toNat_lt
    have boundC := c.toNat_lt
    have pads : ∀ length, padding (length + 4) = padding length := by
      intro length
      unfold padding
      rw [Nat.add_mod_right]
    have first : UInt8.ofNat (a.toNat / 4 * 4 + (a.toNat % 4 * 16 + b.toNat / 16) / 16) = a := ofNat_toNat (by omega)
    have second : UInt8.ofNat ((a.toNat % 4 * 16 + b.toNat / 16) % 16 * 16 + (b.toNat % 16 * 4 + c.toNat / 64) / 4) = b :=
      ofNat_toNat (by omega)
    have third : UInt8.ofNat ((b.toNat % 16 * 4 + c.toNat / 64) % 4 * 64 + c.toNat % 64) = c := ofNat_toNat (by omega)
    simp only [List.length_cons,Nat.add_assoc,Nat.reduceAdd,pads,List.cons_append]
    rw [scan_zero (by omega),scan_one (by omega),scan_two (by omega),scan_three (by omega),ih,first,second,third]
    rfl

theorem encode_length (bytes : List UInt8) : (encode bytes).length % 4 ≠ 1 := by
  fun_induction encode bytes with
  | case1 => decide
  | case2 | case3 => simp
  | case4 a b c rest ih =>
    simp only [List.length_cons]
    omega

theorem encode_length_le (bytes : List UInt8) : 3 * (encode bytes).length ≤ 4 * bytes.length + 2 := by
  fun_induction encode bytes with
  | case1 | case2 | case3 => simp
  | case4 a b c rest ih =>
    simp only [List.length_cons]
    omega

theorem alphabet_value (c : Char) (member : c ∈ alphabet) : c ≠ '=' ∧ (value c).isSome := by
  obtain ⟨n,bound,rfl⟩ := List.mem_iff_getElem.mp member
  have nth : digit n = alphabet[n] := List.getD_eq_getElem _ _ bound
  obtain ⟨read,other⟩ := value_digit n (alphabet_length ▸ bound)
  rw [← nth]
  exact ⟨other,by rw [read]; rfl⟩

theorem decodeStrict_encode (bytes : List UInt8) : decodeStrict (encode bytes) = some bytes := by
  have body : ∀ c ∈ encode bytes, (c != '=') = true := fun c member => bne_iff_ne.mpr (alphabet_value c (encode_mem bytes c member)).1
  have first : (encode bytes ++ padding (encode bytes).length).takeWhile (· != '=') = encode bytes := by
    rw [List.takeWhile_append_of_pos body,padding,List.takeWhile_replicate]
    simp
  have pads : (encode bytes ++ padding (encode bytes).length).dropWhile (· != '=') = padding (encode bytes).length := by
    rw [List.dropWhile_append_of_pos body,padding,List.dropWhile_replicate]
    simp
  have length := encode_length bytes
  have strict : isStrict (encode bytes ++ padding (encode bytes).length) = true := by
    unfold isStrict
    rw [first,pads,Bool.and_eq_true,Bool.and_eq_true,decide_eq_true_eq]
    refine ⟨⟨List.all_eq_true.mpr fun c member => (alphabet_value c (encode_mem bytes c member)).2,?_⟩,?_⟩
    · simp [padding]
    · simp only [padding,List.length_replicate]
      omega
  rw [decodeStrict,if_pos strict,decode_encode]

end Base64
