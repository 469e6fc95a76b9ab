import Mathlib.Data.List.Basic

/-! A raw stream whose end is guarded: only a request past its last item finds out whether the stream is sound. A reader
between it and the consumer buffers a block. What the consumer is given does not depend on the blocks; whether the end
is ever reached does. -/
namespace GuardedStream

variable {σ β ε ω S : Type}

structure Buffered (σ β : Type) where
  raw : σ
  held : List β

section buffered
variable (readinto : Nat → σ → Except ε (List β × σ)) (size : Nat)

def readBlocks (remaining : Nat) (raw : σ) : Except ε (List β × σ × Bool) :=
  if _whole : size * (remaining / size) = 0 then .ok ([],raw,false)
  else (readinto (size * (remaining / size)) raw).bind fun (got,raw) =>
    if _empty : got = [] then .ok ([],raw,true)
    else (readBlocks (remaining - got.length) raw).bind fun (more,raw,ended) => .ok (got++more,raw,ended)
termination_by remaining
decreasing_by
  have some : 0 < got.length := List.length_pos_iff.mpr _empty
  have wanted : remaining ≠ 0 := by
    rintro rfl
    simp at _whole
  omega

def fillBuffer (remaining filled : Nat) (raw : σ) : Except ε (List β × σ) :=
  if _missing : remaining = 0 ∨ size ≤ filled then .ok ([],raw)
  else (readinto (size - filled) raw).bind fun (got,raw) =>
    if _empty : got = [] then .ok ([],raw)
    else (fillBuffer (remaining - got.length) (filled + got.length) raw).bind fun (more,raw) => .ok (got++more,raw)
termination_by remaining
decreasing_by
  have some : 0 < got.length := List.length_pos_iff.mpr _empty
  omega

/-- `read(n)` of a reader with a buffer of `size` items. -/
def Buffered.read (n : Nat) (stream : Buffered σ β) : Except ε (List β × Buffered σ β) :=
  if n ≤ stream.held.length then .ok (stream.held.take n,⟨stream.raw,stream.held.drop n⟩)
  else (readBlocks readinto size (n - stream.held.length) stream.raw).bind fun (blocks,raw,ended) =>
    if ended then .ok (stream.held++blocks,⟨raw,[]⟩)
    else
      let remaining := n - stream.held.length - blocks.length
      (fillBuffer readinto size remaining 0 raw).bind fun (buffer,raw) =>
        .ok (stream.held++blocks++buffer.take remaining,⟨raw,buffer.drop remaining⟩)

end buffered

inductive Consumer (β ω ε : Type) where
  | read (n : Nat) (next : List β → Consumer β ω ε)
  | emit (event : ω) (next : Consumer β ω ε)
  | stop
  | fail (error : ε)

/-- A consumer reads a buffered stream; `handle` takes its events. -/
def Consumer.run (readinto : Nat → σ → Except ε (List β × σ)) (size : Nat) (handle : S → ω → Except ε S) :
    Consumer β ω ε → Buffered σ β → S → Except ε (S × Buffered σ β)
  | .read n next, stream, state => (stream.read readinto size n).bind fun (items,stream) =>
    run readinto size handle (next items) stream state
  | .emit event next, stream, state => (handle state event).bind fun state => run readinto size handle next stream state
  | .stop, stream, state => .ok (state,stream)
  | .fail error, _, _ => .error error

def Consumer.through (content : List β) (handle : S → ω → Except ε S) : Consumer β ω ε → Nat → S → Except ε (S × Nat)
  | .read n next, asked, state => through content handle (next ((content.drop asked).take n)) (asked + n) state
  | .emit event next, asked, state => (handle state event).bind fun state => through content handle next asked state
  | .stop, asked, state => .ok (state,asked)
  | .fail error, _, _ => .error error

/-- `At` describes the raw stream before its end is reached, `Ended` after. -/
structure Guarded (readinto : Nat → σ → Except ε (List β × σ)) (content : List β) (sound : Prop) (refused : ε)
    (At : Nat → σ → Prop) (Ended : σ → Prop) : Prop where
  inside : ∀ position n raw, At position raw → position + n ≤ content.length →
    ∃ next, readinto n raw = .ok ((content.drop position).take n,next) ∧ At (position + n) next
  past : ∀ position n raw, At position raw → position ≤ content.length → content.length < position + n → sound →
    ∃ next, readinto n raw = .ok (content.drop position,next) ∧ Ended next
  refuses : ∀ position n raw, At position raw → position ≤ content.length → content.length < position + n → ¬sound →
    readinto n raw = .error refused
  ended : ∀ n raw, Ended raw → ∃ next, readinto n raw = .ok ([],next) ∧ Ended next

section blocks
variable {size length : Nat}

theorem dvd_le_blocks {front : Nat} (blocks : size ∣ front) (fits : front ≤ length) : front ≤ size * (length / size) := by
  obtain ⟨count,rfl⟩ := blocks
  rcases Nat.eq_zero_or_pos size with rfl | positive
  · simp
  · exact Nat.mul_le_mul_left _ ((Nat.le_div_iff_mul_le positive).mpr (by rwa [Nat.mul_comm]))

theorem dvd_next {front later : Nat} (first : size ∣ front) (second : size ∣ later) (before : front < later) : front + size ≤ later := by
  obtain ⟨count,rfl⟩ := first
  obtain ⟨others,rfl⟩ := second
  have more : count < others := Nat.lt_of_mul_lt_mul_left before
  calc size * count + size = size * (count + 1) := by rw [Nat.mul_succ]
    _ ≤ size * others := Nat.mul_le_mul_left _ more

end blocks

variable {readinto : Nat → σ → Except ε (List β × σ)} {content : List β} {sound : Prop} {refused : ε} {At : Nat → σ → Prop}
  {Ended : σ → Prop} {size position : Nat} {raw : σ}

section raw
variable (guarded : Guarded readinto content sound refused At Ended)
include guarded

theorem Guarded.readBlocks_ended (finished : Ended raw) (remaining : Nat) :
    ∃ next ended, readBlocks readinto size remaining raw = .ok ([],next,ended) ∧ Ended next := by
  unfold readBlocks
  split
  · exact ⟨raw,false,rfl,finished⟩
  · obtain ⟨next,empty,finished⟩ := guarded.ended (size * (remaining / size)) raw finished
    exact ⟨next,true,by rw [empty]; rfl,finished⟩

theorem Guarded.readBlocks_inside (here : At position raw) {remaining : Nat}
    (fits : position + size * (remaining / size) ≤ content.length) :
    ∃ next, readBlocks readinto size remaining raw = .ok ((content.drop position).take (size * (remaining / size)),next,false) ∧
      At (position + size * (remaining / size)) next := by
  unfold readBlocks
  by_cases whole : size * (remaining / size) = 0
  · rw [dif_pos whole,whole]
    exact ⟨raw,by simp,here⟩
  · obtain ⟨next,got,there⟩ := guarded.inside position _ raw here fits
    have length : ((content.drop position).take (size * (remaining / size))).length = size * (remaining / size) := by
      rw [List.length_take,List.length_drop]
      omega
    have some : (content.drop position).take (size * (remaining / size)) ≠ [] := by
      intro empty
      rw [empty] at length
      exact whole length.symm
    have rest : size * ((remaining - size * (remaining / size)) / size) = 0 := by
      have positive : 0 < size := Nat.pos_of_ne_zero fun zero => whole (by rw [zero,Nat.zero_mul])
      have small : remaining - size * (remaining / size) < size := by
        have := Nat.mod_lt remaining positive
        have := Nat.div_add_mod remaining size
        omega
      rw [Nat.div_eq_of_lt small,Nat.mul_zero]
    refine ⟨next,?_,there⟩
    rw [dif_neg whole,got]
    change dite _ _ _ = _
    rw [dif_neg some,length]
    unfold readBlocks
    rw [dif_pos rest]
    change Except.ok (_++[],_) = _
    rw [List.append_nil]

section
variable (here : At position raw) (within : position ≤ content.length) {remaining : Nat}
  (past : content.length < position + size * (remaining / size))
include here within past

theorem Guarded.readBlocks_past (holds : sound) :
    ∃ next ended, readBlocks readinto size remaining raw = .ok (content.drop position,next,ended) ∧ Ended next := by
  obtain ⟨next,got,finished⟩ := guarded.past position _ raw here within past holds
  unfold readBlocks
  rw [dif_neg (by omega),got]
  change ∃ next ended, dite _ _ _ = _ ∧ _
  by_cases empty : content.drop position = []
  · rw [dif_pos empty,empty]
    exact ⟨next,true,rfl,finished⟩
  · rw [dif_neg empty]
    obtain ⟨last,ended,nothing,finished⟩ := guarded.readBlocks_ended finished (remaining - (content.drop position).length)
    refine ⟨last,ended,?_,finished⟩
    rw [nothing]
    change Except.ok (_++[],_) = _
    rw [List.append_nil]

theorem Guarded.readBlocks_refuses (broken : ¬sound) :
    readBlocks readinto size remaining raw = .error refused := by
  unfold readBlocks
  rw [dif_neg (by omega),guarded.refuses position _ raw here within past broken]
  rfl

end

theorem Guarded.fillBuffer_ended (finished : Ended raw) (remaining filled : Nat) :
    ∃ next, fillBuffer readinto size remaining filled raw = .ok ([],next) ∧ Ended next := by
  unfold fillBuffer
  split
  · exact ⟨raw,rfl,finished⟩
  · obtain ⟨next,empty,finished⟩ := guarded.ended (size - filled) raw finished
    exact ⟨next,by rw [empty]; rfl,finished⟩

theorem Guarded.fillBuffer_inside (here : At position raw) {remaining : Nat} (wanted : 0 < remaining) (small : remaining ≤ size)
    (fits : position + size ≤ content.length) :
    ∃ next, fillBuffer readinto size remaining 0 raw = .ok ((content.drop position).take size,next) ∧ At (position + size) next := by
  obtain ⟨next,got,there⟩ := guarded.inside position size raw here fits
  have length : ((content.drop position).take size).length = size := by
    rw [List.length_take,List.length_drop]
    omega
  have some : (content.drop position).take size ≠ [] := by
    intro empty
    rw [empty] at length
    exact absurd length (by simp only [List.length_nil]; omega)
  refine ⟨next,?_,there⟩
  unfold fillBuffer
  rw [dif_neg (by omega),Nat.sub_zero,got]
  change dite _ _ _ = _
  rw [dif_neg some]
  unfold fillBuffer
  rw [dif_pos (.inl (by omega))]
  change Except.ok (_++[],_) = _
  rw [List.append_nil]

section
variable (here : At position raw) (within : position ≤ content.length) {remaining : Nat} (wanted : 0 < remaining)
  (past : content.length < position + size)
include here within wanted past

theorem Guarded.fillBuffer_past (holds : sound) :
    ∃ next, fillBuffer readinto size remaining 0 raw = .ok (content.drop position,next) ∧ Ended next := by
  obtain ⟨next,got,finished⟩ := guarded.past position size raw here within past holds
  unfold fillBuffer
  rw [dif_neg (by omega),Nat.sub_zero,got]
  change ∃ next, dite _ _ _ = _ ∧ _
  by_cases empty : content.drop position = []
  · rw [dif_pos empty,empty]
    exact ⟨next,rfl,finished⟩
  · rw [dif_neg empty]
    obtain ⟨last,nothing,finished⟩ := guarded.fillBuffer_ended finished (remaining - (content.drop position).length)
      (0 + (content.drop position).length)
    refine ⟨last,?_,finished⟩
    rw [nothing]
    change Except.ok (_++[],_) = _
    rw [List.append_nil]

theorem Guarded.fillBuffer_refuses (broken : ¬sound) : fillBuffer readinto size remaining 0 raw = .error refused := by
  unfold fillBuffer
  rw [dif_neg (by omega),Nat.sub_zero,guarded.refuses position size raw here within past broken]
  rfl

end

end raw

structure Ahead (content : List β) (At : Nat → σ → Prop) (size asked : Nat) (stream : Buffered σ β) (front : Nat) : Prop where
  blocks : size ∣ front
  after : asked ≤ front
  near : front < asked + size
  fits : front ≤ content.length
  raw : At front stream.raw
  held : stream.held = (content.drop asked).take (front - asked)

/-- The end was reached; what is left is held. -/
structure Finished (content : List β) (Ended : σ → Prop) (asked : Nat) (stream : Buffered σ β) : Prop where
  raw : Ended stream.raw
  held : stream.held = content.drop asked

variable {asked n front : Nat} {stream : Buffered σ β}

theorem Ahead.length_held (ahead : Ahead content At size asked stream front) : stream.held.length = front - asked := by
  have := ahead.fits
  rw [ahead.held,List.length_take,List.length_drop]
  omega

theorem take_drop_append (content : List β) (start first second : Nat) :
    (content.drop start).take first ++ (content.drop (start + first)).take second = (content.drop start).take (first + second) := by
  rw [List.take_add,List.drop_drop]

theorem Guarded.read_inside (guarded : Guarded readinto content sound refused At Ended) (ahead : Ahead content At size asked stream front)
    (fits : asked + n ≤ size * (content.length / size)) :
    ∃ next later, stream.read readinto size n = .ok ((content.drop asked).take n,next) ∧
      Ahead content At size (asked + n) next later := by
  have whole : size * (content.length / size) ≤ content.length := Nat.mul_div_le _ _
  have ⟨blocks,after,near,_,here,held⟩ := ahead
  have length := ahead.length_held
  unfold Buffered.read
  by_cases ready : n ≤ stream.held.length
  · rw [if_pos ready]
    refine ⟨_,front,congrArg _ (Prod.ext ?_ rfl),⟨blocks,by omega,by omega,ahead.fits,here,?_⟩⟩
    · rw [held,List.take_take,Nat.min_eq_left (by omega)]
    · rw [held,List.drop_take,List.drop_drop,Nat.sub_sub]
  · rw [if_neg ready,length]
    -- The rest is asked for in whole blocks first; what is then missing is less than a block.
    have divided := Nat.div_add_mod (n - (front - asked)) size
    have small := Nat.mod_lt (n - (front - asked)) (by omega : 0 < size)
    obtain ⟨raw,got,there⟩ := guarded.readBlocks_inside here
      (show front + size * ((n - (front - asked)) / size) ≤ content.length by omega)
    generalize taken : size * ((n - (front - asked)) / size) = direct at got there divided
    have multiple : size ∣ front + direct := Nat.dvd_add blocks (taken ▸ Nat.dvd_mul_right _ _)
    have count : ((content.drop front).take direct).length = direct := by
      rw [List.length_take,List.length_drop]
      omega
    rw [got]
    change ∃ next later, ((fillBuffer readinto size (n - (front - asked) - ((content.drop front).take direct).length) 0 raw).bind _) = _ ∧ _
    rw [count]
    by_cases done : n - (front - asked) - direct = 0
    · unfold fillBuffer
      rw [dif_pos (.inl done),done]
      refine ⟨_,front + direct,congrArg Except.ok (Prod.ext ?_ rfl),⟨multiple,by omega,by omega,by omega,there,?_⟩⟩
      · have place : asked + (front - asked) = front := by omega
        have all : front - asked + direct = n := by omega
        have pieces := take_drop_append content asked (front - asked) direct
        rw [place,all] at pieces
        simpa [held] using pieces
      · rw [show front + direct - (asked + n) = 0 by omega]
        rfl
    · have room : front + direct + size ≤ size * (content.length / size) :=
        dvd_next multiple (Nat.dvd_mul_right _ _) (by omega)
      have missing : n - (front - asked) - direct ≤ size := by omega
      have within : front + direct + size ≤ content.length := by omega
      obtain ⟨raw,buffer,there⟩ := guarded.fillBuffer_inside there (Nat.pos_of_ne_zero done) missing within
      rw [buffer]
      refine ⟨_,front + direct + size,congrArg Except.ok (Prod.ext ?_ rfl),
        ⟨Nat.dvd_add multiple (Nat.dvd_refl _),by omega,by omega,by omega,there,?_⟩⟩
      · have place : asked + (front - asked) = front := by omega
        have first := take_drop_append content asked (front - asked) direct
        have second := take_drop_append content asked (front - asked + direct) (n - (front - asked) - direct)
        rw [place] at first
        rw [show asked + (front - asked + direct) = front + direct by omega,
          show front - asked + direct + (n - (front - asked) - direct) = n by omega] at second
        change stream.held++(content.drop front).take direct++(((content.drop (front + direct)).take size).take _) = _
        rw [List.take_take,Nat.min_eq_left (by omega),held,first,second]
      · change ((content.drop (front + direct)).take size).drop _ = _
        have place : front + direct + (n - (front - asked) - direct) = asked + n := by omega
        have left : size - (n - (front - asked) - direct) = front + direct + size - (asked + n) := by omega
        rw [List.drop_take,List.drop_drop,place,left]

theorem Ahead.crosses (ahead : Ahead content At size asked stream front) (past : size * (content.length / size) < asked + n) :
    ¬n ≤ stream.held.length ∧ (front + size * ((n - (front - asked)) / size) ≤ content.length →
      n - (front - asked) - size * ((n - (front - asked)) / size) ≠ 0 ∧
      content.length < front + size * ((n - (front - asked)) / size) + size) := by
  have ⟨blocks,after,near,fits,_,_⟩ := ahead
  have within := dvd_le_blocks blocks fits
  refine ⟨by rw [ahead.length_held]; omega,fun direct => ?_⟩
  have divided := Nat.div_add_mod (n - (front - asked)) size
  have small := Nat.mod_lt (n - (front - asked)) (by omega : 0 < size)
  have multiple : size ∣ front + size * ((n - (front - asked)) / size) := Nat.dvd_add blocks (Nat.dvd_mul_right _ _)
  have before := dvd_le_blocks multiple direct
  refine ⟨by omega,Nat.lt_of_not_le fun room => ?_⟩
  have := dvd_le_blocks (Nat.dvd_add multiple (Nat.dvd_refl size)) room
  omega

section
variable (guarded : Guarded readinto content sound refused At Ended) (ahead : Ahead content At size asked stream front)
  (past : size * (content.length / size) < asked + n)
include guarded ahead past

theorem Guarded.read_past (holds : sound) :
    ∃ next, stream.read readinto size n = .ok ((content.drop asked).take n,next) ∧ Finished content Ended (asked + n) next := by
  obtain ⟨short,crosses⟩ := ahead.crosses past
  have ⟨_,after,_,fits,here,held⟩ := ahead
  have length := ahead.length_held
  have joined : stream.held ++ content.drop front = content.drop asked := by
    have pieces := List.take_append_drop (front - asked) (content.drop asked)
    rwa [List.drop_drop,show asked + (front - asked) = front by omega,← held] at pieces
  unfold Buffered.read
  rw [if_neg short,length]
  by_cases direct : content.length < front + size * ((n - (front - asked)) / size)
  · obtain ⟨raw,ended,got,finished⟩ := guarded.readBlocks_past here fits direct holds
    have most : size * ((n - (front - asked)) / size) ≤ n - (front - asked) := Nat.mul_div_le _ _
    have all : (content.drop asked).take n = content.drop asked := List.take_of_length_le (by rw [List.length_drop]; omega)
    have none : content.drop (asked + n) = [] := List.drop_eq_nil_of_le (by omega)
    rw [got]
    cases ended with
    | true => exact ⟨_,congrArg Except.ok (Prod.ext (joined.trans all.symm) rfl),⟨finished,none.symm⟩⟩
    | false =>
      obtain ⟨last,nothing,finished⟩ := guarded.fillBuffer_ended finished (n - (front - asked) - (content.drop front).length) 0
      change ∃ next, (Except.bind (fillBuffer readinto size _ 0 raw) _) = _ ∧ _
      rw [nothing]
      refine ⟨_,congrArg Except.ok (Prod.ext ?_ rfl),⟨finished,?_⟩⟩
      · change stream.held++content.drop front++List.take _ [] = _
        rw [List.take_nil,List.append_nil,joined,all]
      · rw [none]
        exact List.drop_nil
  · obtain ⟨missing,end_⟩ := crosses (by omega)
    obtain ⟨raw,got,there⟩ := guarded.readBlocks_inside here (Nat.le_of_not_lt direct)
    generalize size * ((n - (front - asked)) / size) = blocks at missing end_ got there direct
    have count : ((content.drop front).take blocks).length = blocks := by
      rw [List.length_take,List.length_drop]
      omega
    have place : front + blocks + (n - (front - asked) - blocks) = asked + n := by omega
    obtain ⟨last,buffer,finished⟩ := guarded.fillBuffer_past there (Nat.le_of_not_lt direct) (Nat.pos_of_ne_zero missing) end_ holds
    rw [got]
    change ∃ next, (Except.bind (fillBuffer readinto size (_ - ((content.drop front).take blocks).length) 0 raw) _) = _ ∧ _
    rw [count,buffer]
    refine ⟨_,congrArg Except.ok (Prod.ext ?_ rfl),⟨finished,?_⟩⟩
    · change stream.held++(content.drop front).take blocks++(content.drop (front + blocks)).take _ = _
      have sum : blocks + (n - (front - asked) - blocks) = n - (front - asked) := by omega
      rw [List.append_assoc,take_drop_append,sum]
      change _ = (content.drop asked).take n
      have full : stream.held.take n = stream.held := List.take_of_length_le (by omega)
      rw [← joined,List.take_append,length,full]
    · change (content.drop (front + blocks)).drop _ = _
      rw [List.drop_drop,place]

theorem Guarded.read_refuses (broken : ¬sound) : stream.read readinto size n = .error refused := by
  obtain ⟨short,crosses⟩ := ahead.crosses past
  have ⟨_,_,_,fits,here,_⟩ := ahead
  have length := ahead.length_held
  unfold Buffered.read
  rw [if_neg short,length]
  by_cases direct : content.length < front + size * ((n - (front - asked)) / size)
  · rw [guarded.readBlocks_refuses here fits direct broken]
    rfl
  · obtain ⟨missing,end_⟩ := crosses (by omega)
    obtain ⟨raw,got,there⟩ := guarded.readBlocks_inside here (Nat.le_of_not_lt direct)
    generalize size * ((n - (front - asked)) / size) = blocks at missing end_ got there direct
    have count : ((content.drop front).take blocks).length = blocks := by
      rw [List.length_take,List.length_drop]
      omega
    rw [got]
    change Except.bind (fillBuffer readinto size (_ - ((content.drop front).take blocks).length) 0 raw) _ = _
    rw [count,guarded.fillBuffer_refuses there (Nat.le_of_not_lt direct) (Nat.pos_of_ne_zero missing) end_ broken]
    rfl

end

theorem Guarded.read_finished (guarded : Guarded readinto content sound refused At Ended) (finished : Finished content Ended asked stream)
    (n : Nat) :
    ∃ next, stream.read readinto size n = .ok ((content.drop asked).take n,next) ∧ Finished content Ended (asked + n) next := by
  have ⟨ended,held⟩ := finished
  unfold Buffered.read
  by_cases ready : n ≤ stream.held.length
  · rw [if_pos ready,held,List.drop_drop]
    exact ⟨_,rfl,⟨ended,rfl⟩⟩
  · rw [if_neg ready]
    rw [held,List.length_drop] at ready
    have all : (content.drop asked).take n = content.drop asked := List.take_of_length_le (by rw [List.length_drop]; omega)
    have none : content.drop (asked + n) = [] := List.drop_eq_nil_of_le (by omega)
    obtain ⟨raw,flag,got,ended⟩ := guarded.readBlocks_ended ended (n - stream.held.length)
    rw [got,all]
    cases flag with
    | true => exact ⟨_,congrArg Except.ok (Prod.ext (by rw [held,List.append_nil]) rfl),⟨ended,none.symm⟩⟩
    | false =>
      obtain ⟨last,nothing,ended⟩ := guarded.fillBuffer_ended ended (n - stream.held.length - 0) 0
      change ∃ next, (Except.bind (fillBuffer readinto size _ 0 raw) _) = _ ∧ _
      rw [List.length_nil,nothing]
      refine ⟨_,congrArg Except.ok (Prod.ext ?_ rfl),⟨ended,?_⟩⟩
      · change stream.held++[]++List.take _ [] = _
        rw [List.take_nil,List.append_nil,List.append_nil,held]
      · rw [none]
        exact List.drop_nil

variable {handle : S → ω → Except ε S} {consumer : Consumer β ω ε} {state final : S} {total : Nat}

theorem Consumer.asked_le (through : consumer.through content handle asked state = .ok (final,total)) : asked ≤ total := by
  induction consumer generalizing asked state with
  | read n next ih => exact Nat.le_trans (Nat.le_add_right ..) (ih _ through)
  | emit event next ih =>
    rw [Consumer.through] at through
    cases handled : handle state event with
    | error _ => rw [handled] at through; cases through
    | ok after => exact ih (by rwa [handled] at through)
  | stop =>
    cases through
    exact Nat.le_refl _
  | fail error => cases through

theorem Guarded.run_finished (guarded : Guarded readinto content sound refused At Ended) (finished : Finished content Ended asked stream)
    (through : consumer.through content handle asked state = .ok (final,total)) :
    ∃ last, consumer.run readinto size handle stream state = .ok (final,last) ∧ Ended last.raw := by
  induction consumer generalizing asked state stream with
  | read n next ih =>
    obtain ⟨after,got,finished⟩ := guarded.read_finished finished n
    rw [Consumer.run,got]
    exact ih _ finished through
  | emit event next ih =>
    rw [Consumer.through] at through
    rw [Consumer.run]
    cases handled : handle state event with
    | error _ => rw [handled] at through; cases through
    | ok after => exact ih finished (by rwa [handled] at through)
  | stop =>
    cases through
    exact ⟨stream,rfl,finished.raw⟩
  | fail error => cases through

section
variable (guarded : Guarded readinto content sound refused At Ended) (ahead : Ahead content At size asked stream front)
  (through : consumer.through content handle asked state = .ok (final,total))
include guarded ahead through

theorem Guarded.run_inside (within : total ≤ size * (content.length / size)) :
    ∃ last position, consumer.run readinto size handle stream state = .ok (final,last) ∧ At position last.raw := by
  induction consumer generalizing asked state stream front with
  | read n next ih =>
    have far : asked + n ≤ total := Consumer.asked_le (by exact through)
    obtain ⟨after,_,got,ahead⟩ := guarded.read_inside ahead (Nat.le_trans far within)
    rw [Consumer.run,got]
    exact ih _ ahead through
  | emit event next ih =>
    rw [Consumer.through] at through
    rw [Consumer.run]
    cases handled : handle state event with
    | error _ => rw [handled] at through; cases through
    | ok after => exact ih ahead (by rwa [handled] at through)
  | stop =>
    cases through
    exact ⟨stream,_,rfl,ahead.raw⟩
  | fail error => cases through

theorem Guarded.run_past (before : asked ≤ size * (content.length / size))
    (past : size * (content.length / size) < total) :
    (sound → ∃ last, consumer.run readinto size handle stream state = .ok (final,last) ∧ Ended last.raw) ∧
    (¬sound → consumer.run readinto size handle stream state = .error refused) := by
  induction consumer generalizing asked state stream front with
  | read n next ih =>
    rw [Consumer.run]
    by_cases within : asked + n ≤ size * (content.length / size)
    · obtain ⟨after,_,got,ahead⟩ := guarded.read_inside ahead within
      rw [got]
      exact ih _ ahead through within
    · refine ⟨fun holds => ?_,fun broken => ?_⟩
      · obtain ⟨after,got,finished⟩ := guarded.read_past ahead (Nat.lt_of_not_le within) holds
        rw [got]
        exact guarded.run_finished finished through
      · rw [guarded.read_refuses ahead (Nat.lt_of_not_le within) broken]
        rfl
  | emit event next ih =>
    rw [Consumer.through] at through
    rw [Consumer.run]
    cases handled : handle state event with
    | error _ => rw [handled] at through; cases through
    | ok after => exact ih ahead (by rwa [handled] at through) before
  | stop =>
    cases through
    omega
  | fail error => cases through

end

theorem Guarded.run_error (guarded : Guarded readinto content sound refused At Ended)
    (place : Finished content Ended asked stream ∨ ∃ front, Ahead content At size asked stream front) {error : ε}
    (through : consumer.through content handle asked state = .error error) :
    ∃ error, consumer.run readinto size handle stream state = .error error := by
  induction consumer generalizing asked state stream with
  | read n next ih =>
    rw [Consumer.run]
    rcases place with finished | ⟨front,ahead⟩
    · obtain ⟨after,got,finished⟩ := guarded.read_finished finished n
      rw [got]
      exact ih _ (.inl finished) through
    · by_cases within : asked + n ≤ size * (content.length / size)
      · obtain ⟨after,_,got,ahead⟩ := guarded.read_inside ahead within
        rw [got]
        exact ih _ (.inr ⟨_,ahead⟩) through
      · by_cases holds : sound
        · obtain ⟨after,got,finished⟩ := guarded.read_past ahead (Nat.lt_of_not_le within) holds
          rw [got]
          exact ih _ (.inl finished) through
        · exact ⟨refused,by rw [guarded.read_refuses ahead (Nat.lt_of_not_le within) holds]; rfl⟩
  | emit event next ih =>
    rw [Consumer.through] at through
    rw [Consumer.run]
    cases handled : handle state event with
    | error failure => exact ⟨failure,rfl⟩
    | ok after => exact ih place (by rwa [handled] at through)
  | stop => cases through
  | fail error => exact ⟨error,rfl⟩

end GuardedStream
