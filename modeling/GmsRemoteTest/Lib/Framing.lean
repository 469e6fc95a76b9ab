import Mathlib.Data.List.Basic

/-! A stream of frames, each of which tells its length in a head of fixed size. What is read of the stream is cut anywhere; the frames that
have arrived whole can be taken off the front. -/
namespace Framing

variable {β : Type} (head : ℕ) (size : List β → ℕ)

/-- The bytes of one frame; `size` reads their number off the head. -/
structure Framed (bytes : List β) : Prop where
  bounds : 0 < head ∧ head ≤ bytes.length
  told : size (bytes.take head) = bytes.length

/-- The first frame of a buffer and what stands behind it, once the frame is whole. -/
def next (buffer : List β) : Option (List β × List β) :=
  if head ≤ buffer.length ∧ size (buffer.take head) ≤ buffer.length then
    some (buffer.take (size (buffer.take head)),buffer.drop (size (buffer.take head)))
  else none

def whole : List (List β) → ℕ → ℕ
  | [], _ => 0
  | frame :: frames, count => if frame.length ≤ count then whole frames (count - frame.length) + 1 else 0

variable {head : ℕ} {size : List β → ℕ} {buffer rest : List β} {frames : List (List β)}

section
variable {frame : List β} (framed : Framed head size frame) (stream : buffer ++ rest = frame ++ frames.flatten)
include framed stream

theorem take_head (enough : head ≤ buffer.length) : size (buffer.take head) = frame.length := by
  have same : buffer.take head = frame.take head := by
    have taken := congrArg (List.take head) stream
    rwa [List.take_append_of_le_length enough,List.take_append_of_le_length framed.bounds.2] at taken
  rw [same,framed.told]

theorem next_some (enough : frame.length ≤ buffer.length) : ∃ later, next head size buffer = some (frame,later) ∧ later ++ rest = frames.flatten ∧
      buffer = frame ++ later := by
  have length := take_head framed stream (Nat.le_trans framed.bounds.2 enough)
  have front : buffer.take frame.length = frame := by
    have taken := congrArg (List.take frame.length) stream
    rwa [List.take_append_of_le_length enough,List.take_left] at taken
  have back : buffer.drop frame.length ++ rest = frames.flatten := by
    have dropped := congrArg (List.drop frame.length) stream
    rwa [List.drop_append_of_le_length enough,List.drop_left] at dropped
  refine ⟨buffer.drop frame.length,?_,back,?_⟩
  · unfold next
    rw [length,if_pos ⟨Nat.le_trans framed.bounds.2 enough,enough⟩,front]
  · rw [← List.take_append_drop frame.length buffer,front,List.drop_left]

theorem next_none :
    next head size buffer = none ↔ buffer.length < frame.length := by
  constructor
  · intro ended
    by_contra enough
    obtain ⟨later,taken,-⟩ := next_some framed stream (Nat.le_of_not_lt enough)
    rw [taken] at ended
    cases ended
  · intro short
    unfold next
    refine if_neg fun taken => ?_
    rw [take_head framed stream taken.1] at taken
    omega

end

theorem whole_eq {count : ℕ} {front back : List (List β)} (first : ∀ frame, back.head? = some frame → count < frame.length) :
    whole (front ++ back) (front.flatten.length + count) = front.length := by
  induction front with
  | nil =>
    cases back with
    | nil => rfl
    | cons frame back =>
      have short := first frame rfl
      rw [List.nil_append,whole,List.flatten_nil,List.length_nil,Nat.zero_add,if_neg (Nat.not_le.mpr short)]
      rfl
  | cons frame front ih =>
    rw [List.cons_append,whole,List.flatten_cons,List.length_append,if_pos (by omega),
      show frame.length + front.flatten.length + count - frame.length = front.flatten.length + count by omega,ih,List.length_cons]

section
variable {Frame : Type} (key : Frame → Bool)

def sinceKey : List Frame → List Frame
  | [] => []
  | frame :: frames => if frames.any key then sinceKey frames else frame :: frames

theorem sinceKey_concat (frames : List Frame) (frame : Frame) :
    sinceKey key (frames ++ [frame]) = if key frame then [frame] else sinceKey key frames ++ [frame] := by
  induction frames with
  | nil => cases found : key frame <;> simp [sinceKey]
  | cons first frames ih =>
    rw [List.cons_append,sinceKey,ih,List.any_append]
    cases found : key frame with
    | true => simp [found]
    | false =>
      simp only [List.any_cons,List.any_nil,found,Bool.or_false,Bool.false_eq_true,if_false]
      rw [sinceKey]
      split <;> rfl

end

end Framing
