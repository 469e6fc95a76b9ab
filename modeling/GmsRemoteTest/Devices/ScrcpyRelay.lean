import Mathlib.Data.List.Induction
import GmsRemoteTest.Lib.Framing
import GmsRemoteTest.Lib.Runs

/-! The relay of a scrcpy session. The thread that reads the video socket keeps the frames since the last key frame for those who join later
and passes every chunk on to those who are there. The list it publishes is the list it goes on appending to. -/
namespace GmsRemoteTest.Devices.ScrcpyStream
open Framing

abbrev Bytes := List UInt8

def fromBytes (bytes : Bytes) : ℕ := bytes.foldl (fun value byte => 256 * value + byte.toNat) 0

def lengthBytes (length : ℕ) : Bytes :=
  [UInt8.ofNat (length / 16777216),UInt8.ofNat (length / 65536),UInt8.ofNat (length / 256),UInt8.ofNat length]

def MAX_FRAME : ℕ := 512 * 1024

/-- A frame of the stream: a time stamp, the length of the payload, and the payload. -/
structure Frame where
  stamp : Bytes
  payload : Bytes
  stamped : stamp.length = 8
  small : payload.length ≤ MAX_FRAME
deriving DecidableEq

def Frame.bytes (frame : Frame) : Bytes := frame.stamp ++ lengthBytes frame.payload.length ++ frame.payload

inductive Codec
  | h264
  | h265

def nalHeaders : Bytes → Bytes
  | [] => []
  | byte :: rest => match byte,rest with
    | 0,0 :: 1 :: header :: _ => header :: nalHeaders rest
    | _,_ => nalHeaders rest

/-- A parameter set or an IDR picture, by the type that the codec puts into the header. -/
def Codec.entry (codec : Codec) (header : UInt8) : Bool := match codec with
  | .h264 => ([5,7,8] : Bytes).contains (header &&& 0x1F)
  | .h265 => ([19,20,32,33,34] : Bytes).contains ((header >>> 1) &&& 0x3F)

def Codec.key (codec : Codec) (frame : Frame) : Bool := (nalHeaders frame.payload).any codec.entry

def scan (payload : Bytes) : ℕ → ℕ → Bool
  | 0, _ => false
  | turns + 1, cursor =>
    let found := fun nalStart => ([5,7] : Bytes).contains (payload.getD nalStart 0 &&& 0x1F) || scan payload turns nalStart
    if payload.length - 4 ≤ cursor then false
    else if (payload.drop cursor).take 3 = [0,0,1] then found (cursor + 3)
    else if (payload.drop cursor).take 4 = [0,0,0,1] then found (cursor + 4)
    else scan payload turns (cursor + 1)

def frameCarriesSpsOrIdr (payload : Bytes) : Bool := scan payload payload.length 0

def coded (frame : Frame) : Bool := frameCarriesSpsOrIdr frame.payload

def REPLAY_BUFFER_BYTES : ℕ := 4 * 1024 * 1024

structure Subscriber where
  joined : ℕ
  received : Bytes
deriving DecidableEq

/-- The variables of the relay thread and what it shares. `aliased` says that the published list is the thread's own list, and `ahead` that
a frame has been appended to it since. -/
structure Relay where
  streamBuf : Bytes := []
  recent : List Bytes := []
  recentBytes : ℕ := 0
  chunk : Option Bytes := none
  sharedRecent : List Bytes := []
  aliased : Bool := false
  ahead : Bool := false
  streamTail : Bytes := []
  subscribers : List Subscriber := []
deriving DecidableEq

def frameSize (head : Bytes) : ℕ := 12 + fromBytes (head.drop 8)

def Relay.takeFrame (relay : Relay) (frame rest : Bytes) : Relay :=
  if frameCarriesSpsOrIdr (frame.drop 12) then {relay with streamBuf := rest, recent := [frame], recentBytes := frame.length, aliased := false}
  else if relay.recentBytes + frame.length ≤ REPLAY_BUFFER_BYTES then
    {relay with
      streamBuf := rest
      recent := relay.recent ++ [frame]
      recentBytes := relay.recentBytes + frame.length
      sharedRecent := if relay.aliased then relay.sharedRecent ++ [frame] else relay.sharedRecent
      ahead := relay.ahead || relay.aliased}
  else {relay with streamBuf := rest}

def Relay.demux (relay : Relay) : Option Relay :=
  if 12 ≤ relay.streamBuf.length ∧ MAX_FRAME < fromBytes ((relay.streamBuf.take 12).drop 8) then
    some {relay with streamBuf := [], recent := [], recentBytes := 0, aliased := false}
  else (next 12 frameSize relay.streamBuf).map fun (frame,rest) => relay.takeFrame frame rest

/-- The relay with the bytes that are still to come and the number of those passed on. -/
structure World where
  relay : Relay := {}
  coming : Bytes
  published : ℕ := 0

inductive Step
  | receive (count : ℕ)
  | frame
  | publish
  | join
  | leave (index : ℕ)
deriving DecidableEq

def Enabled (world : World) : Step → Prop
  | .receive count => world.relay.chunk = none ∧ 0 < count ∧ world.coming ≠ []
  | .frame => world.relay.chunk.isSome ∧ world.relay.demux.isSome
  | .publish => world.relay.chunk.isSome ∧ world.relay.demux = none
  | .join => True
  | .leave _ => True

instance (world : World) : ∀ step, Decidable (Enabled world step)
  | .receive _ => inferInstanceAs (Decidable (_ ∧ _ ∧ _))
  | .frame => inferInstanceAs (Decidable (_ ∧ _))
  | .publish => inferInstanceAs (Decidable (_ ∧ _))
  | .join => inferInstanceAs (Decidable True)
  | .leave _ => inferInstanceAs (Decidable True)

def apply : Step → World → World
  | .receive count,world => {world with
      relay := {world.relay with streamBuf := world.relay.streamBuf ++ world.coming.take count, chunk := some (world.coming.take count)}
      coming := world.coming.drop count}
  | .frame,world => {world with relay := world.relay.demux.getD world.relay}
  | .publish,world =>
    let chunk := world.relay.chunk.getD []
    {world with
      relay := {world.relay with
        chunk := none
        sharedRecent := world.relay.recent
        aliased := true
        ahead := false
        streamTail := world.relay.streamBuf
        subscribers := world.relay.subscribers.map fun subscriber => {subscriber with received := subscriber.received ++ chunk}}
      published := world.published + chunk.length}
  | .join,world => {world with relay := {world.relay with
      subscribers := world.relay.subscribers ++ [⟨world.published,world.relay.sharedRecent.flatten ++ world.relay.streamTail⟩]}}
  | .leave index,world => {world with relay := {world.relay with subscribers := world.relay.subscribers.eraseIdx index}}

def start (frames : List Frame) : World where
  coming := frames.flatMap Frame.bytes

section
variable (codec : Codec) (frames : List Frame)

def passed (count : ℕ) : List Frame := frames.take (whole (frames.map Frame.bytes) count)

/-- The bytes that have been read and not passed on, and those that come. -/
def World.pending (world : World) : Bytes := world.relay.chunk.getD [] ++ world.coming

/-- With what is still to come it makes up the frames since the key frame before it joined, and all frames after them. -/
def Sound (world : World) (subscriber : Subscriber) : Prop :=
  subscriber.received ++ world.pending = (sinceKey codec.key (passed frames subscriber.joined) ++
    frames.drop (whole (frames.map Frame.bytes) subscriber.joined)).flatMap Frame.bytes

instance (world : World) (subscriber : Subscriber) : Decidable (Sound codec frames world subscriber) := inferInstanceAs (Decidable (_ = _))

def Fits (world : World) : Prop := ((sinceKey codec.key (passed frames world.published)).flatMap Frame.bytes).length ≤ REPLAY_BUFFER_BYTES

instance (world : World) : Decidable (Fits codec frames world) := inferInstanceAs (Decidable (_ ≤ _))

def Allowed (world : World) (step : Step) : Prop := Enabled world step ∧ (step = .join → Fits codec frames world)

instance (world : World) (step : Step) : Decidable (Allowed codec frames world step) := inferInstanceAs (Decidable (_ ∧ _))

def Recognised (world : World) : Prop :=
  sinceKey coded (passed frames world.published) = sinceKey codec.key (passed frames world.published)

instance (world : World) : Decidable (Recognised codec frames world) := inferInstanceAs (Decidable (_ = _))

/-- Nobody joins between an append to the published list and the next publication, nor where the relay mistakes the key frame. -/
def Met (world : World) (step : Step) : Prop :=
  Allowed codec frames world step ∧ (step = .join → world.relay.ahead = false ∧ Recognised codec frames world)

instance (world : World) (step : Step) : Decidable (Met codec frames world step) := inferInstanceAs (Decidable (_ ∧ _))

end

theorem fromBytes_lengthBytes {length : ℕ} (small : length < 4294967296) : fromBytes (lengthBytes length) = length := by
  show 256 * (256 * (256 * (256 * 0 + (UInt8.ofNat (length / 16777216)).toNat) + (UInt8.ofNat (length / 65536)).toNat) +
    (UInt8.ofNat (length / 256)).toNat) + (UInt8.ofNat length).toNat = length
  simp only [UInt8.toNat_ofNat']
  omega

theorem Frame.bytes_length (frame : Frame) : frame.bytes.length = 12 + frame.payload.length := by
  unfold Frame.bytes
  rw [List.length_append,List.length_append,frame.stamped]
  rfl

theorem Frame.head (frame : Frame) : (frame.bytes.take 12).drop 8 = lengthBytes frame.payload.length := by
  have length : (frame.stamp ++ lengthBytes frame.payload.length).length = 12 := by
    rw [List.length_append,frame.stamped]
    rfl
  unfold Frame.bytes
  rw [← length,List.take_left,← frame.stamped,List.drop_left]

theorem Frame.payload_eq (frame : Frame) : frame.bytes.drop 12 = frame.payload := by
  have length : (frame.stamp ++ lengthBytes frame.payload.length).length = 12 := by
    rw [List.length_append,frame.stamped]
    rfl
  unfold Frame.bytes
  rw [← length,List.drop_left]

theorem Frame.told (frame : Frame) : fromBytes ((frame.bytes.take 12).drop 8) = frame.payload.length := by
  have small := frame.small
  unfold MAX_FRAME at small
  rw [frame.head,fromBytes_lengthBytes (by omega)]

theorem Frame.framed (frame : Frame) : Framed 12 frameSize frame.bytes := by
  refine ⟨⟨by decide,?_⟩,?_⟩
  · rw [frame.bytes_length]
    omega
  · rw [frameSize,frame.told,frame.bytes_length]

def keepFrame (kept : List Bytes × ℕ) (frame : Frame) : List Bytes × ℕ :=
  if coded frame then ([frame.bytes],frame.bytes.length)
  else if kept.2 + frame.bytes.length ≤ REPLAY_BUFFER_BYTES then (kept.1 ++ [frame.bytes],kept.2 + frame.bytes.length) else kept

def keep (frames : List Frame) : List Bytes × ℕ := frames.foldl keepFrame ([],0)

theorem keep_concat (frames : List Frame) (frame : Frame) : keep (frames ++ [frame]) = keepFrame (keep frames) frame := by
  unfold keep
  rw [List.foldl_append]
  rfl

theorem keep_eq {frames : List Frame} (fits : ((sinceKey coded frames).flatMap Frame.bytes).length ≤ REPLAY_BUFFER_BYTES) :
    keep frames = ((sinceKey coded frames).map Frame.bytes,((sinceKey coded frames).flatMap Frame.bytes).length) := by
  induction frames using List.reverseRecOn with
  | nil => rfl
  | append_singleton frames frame ih =>
    rw [sinceKey_concat] at fits ⊢
    rw [keep_concat]
    by_cases key : coded frame = true
    · rw [if_pos key,keepFrame,if_pos key]
      simp
    · rw [if_neg key] at fits ⊢
      rw [List.flatMap_append,List.length_append,List.flatMap_singleton] at fits
      rw [ih (by omega),keepFrame,if_neg key,if_pos fits]
      simp

variable {codec : Codec} {frames : List Frame} {world : World}

theorem flatten_bytes (frames : List Frame) : (frames.map Frame.bytes).flatten = frames.flatMap Frame.bytes := List.flatMap_def.symm

structure Split (codec : Codec) (frames : List Frame) (world : World) (shown taken left : List Frame) : Prop where
  all : frames = shown ++ (taken ++ left)
  stream : world.relay.streamBuf ++ world.coming = left.flatMap Frame.bytes
  tail : world.relay.streamTail ++ world.pending = (taken ++ left).flatMap Frame.bytes
  recent : (world.relay.recent,world.relay.recentBytes) = keep (shown ++ taken)
  shared : world.relay.ahead = false → world.relay.sharedRecent = (keep shown).1
  published : world.published = (shown.flatMap Frame.bytes).length + world.relay.streamTail.length
  idle : world.relay.chunk = none → taken = [] ∧ world.relay.streamBuf = world.relay.streamTail
  short : ∀ frame, (taken ++ left).head? = some frame → world.relay.streamTail.length < frame.bytes.length
  sound : ∀ subscriber ∈ world.relay.subscribers, Sound codec frames world subscriber

variable {shown taken left : List Frame}

section
variable (split : Split codec frames world shown taken left)
include split

theorem Split.whole : whole (frames.map Frame.bytes) world.published = shown.length := by
  have first : ∀ bytes, ((taken ++ left).map Frame.bytes).head? = some bytes → world.relay.streamTail.length < bytes.length := by
    intro bytes start
    rw [List.head?_map] at start
    obtain ⟨frame,head,rfl⟩ := Option.map_eq_some_iff.mp start
    exact split.short frame head
  have counted : Framing.whole (shown.map Frame.bytes ++ (taken ++ left).map Frame.bytes)
      ((shown.map Frame.bytes).flatten.length + world.relay.streamTail.length) = (shown.map Frame.bytes).length := whole_eq first
  rw [flatten_bytes,List.length_map,← List.map_append,← split.all,← split.published] at counted
  exact counted

theorem Split.passed : passed frames world.published = shown := by
  unfold ScrcpyStream.passed
  rw [split.whole,split.all,List.take_left]

theorem Split.front (some_ : world.relay.streamBuf ≠ []) :
    ∃ frame later, left = frame :: later ∧ world.relay.streamBuf ++ world.coming = frame.bytes ++ (later.map Frame.bytes).flatten := by
  have stream := split.stream
  cases left with
  | nil => exact absurd (List.append_eq_nil_iff.mp stream).1 some_
  | cons frame later =>
    rw [List.flatMap_cons,← flatten_bytes] at stream
    exact ⟨frame,later,rfl,stream⟩

theorem Split.receive {count : ℕ} (enabled : Enabled world (.receive count)) :
    Split codec frames (apply (.receive count) world) shown taken left := by
  obtain ⟨none_,-,-⟩ := enabled
  have pending : (apply (.receive count) world).pending = world.pending := by
    unfold World.pending
    rw [none_]
    exact List.take_append_drop count world.coming
  refine ⟨split.all,?_,?_,split.recent,split.shared,split.published,fun none_ => ?_,split.short,fun subscriber held => ?_⟩
  · show world.relay.streamBuf ++ world.coming.take count ++ world.coming.drop count = _
    rw [List.append_assoc,List.take_append_drop]
    exact split.stream
  · rw [pending]
    exact split.tail
  · cases none_
  · unfold Sound
    rw [pending]
    exact split.sound subscriber held

theorem Split.demux :
    (world.relay.demux = none ∧ ∀ frame, left.head? = some frame → world.relay.streamBuf.length < frame.bytes.length) ∨
      ∃ frame later rest, left = frame :: later ∧ rest ++ world.coming = later.flatMap Frame.bytes ∧
        world.relay.demux = some (world.relay.takeFrame frame.bytes rest) := by
  by_cases some_ : world.relay.streamBuf = []
  · refine .inl ⟨?_,fun frame _ => ?_⟩
    · unfold Relay.demux
      rw [some_]
      rfl
    · rw [some_,frame.bytes_length,List.length_nil]
      omega
  · obtain ⟨frame,later,rfl,stream⟩ := split.front some_
    have fits : ¬(12 ≤ world.relay.streamBuf.length ∧ MAX_FRAME < fromBytes ((world.relay.streamBuf.take 12).drop 8)) := by
      rintro ⟨enough,large⟩
      have length : 12 + fromBytes ((world.relay.streamBuf.take 12).drop 8) = frame.bytes.length := take_head frame.framed stream enough
      have small := frame.small
      rw [frame.bytes_length] at length
      omega
    by_cases enough : frame.bytes.length ≤ world.relay.streamBuf.length
    · obtain ⟨rest,taken_,after,-⟩ := next_some frame.framed stream enough
      refine .inr ⟨frame,later,rest,rfl,after.trans (flatten_bytes later),?_⟩
      unfold Relay.demux
      rw [if_neg fits,taken_,Option.map_some]
    · refine .inl ⟨?_,fun other head => ?_⟩
      · unfold Relay.demux
        rw [if_neg fits,(next_none frame.framed stream).mpr (Nat.lt_of_not_le enough),Option.map_none]
      · obtain rfl := Option.some.inj head
        exact Nat.lt_of_not_le enough

end

theorem keepFrame_take (relay : Relay) (frame : Frame) (rest : Bytes) :
    ((relay.takeFrame frame.bytes rest).recent,(relay.takeFrame frame.bytes rest).recentBytes) =
      keepFrame (relay.recent,relay.recentBytes) frame := by
  unfold Relay.takeFrame keepFrame coded
  rw [frame.payload_eq]
  split
  · rfl
  · split <;> rfl

theorem takeFrame_frame (relay : Relay) (frame rest : Bytes) : (relay.takeFrame frame rest).streamBuf = rest ∧
    (relay.takeFrame frame rest).chunk = relay.chunk ∧ (relay.takeFrame frame rest).streamTail = relay.streamTail ∧
    (relay.takeFrame frame rest).subscribers = relay.subscribers := by
  unfold Relay.takeFrame
  split
  · exact ⟨rfl,rfl,rfl,rfl⟩
  · split
    · exact ⟨rfl,rfl,rfl,rfl⟩
    · exact ⟨rfl,rfl,rfl,rfl⟩

theorem takeFrame_shared (relay : Relay) (frame rest : Bytes) (behind : (relay.takeFrame frame rest).ahead = false) :
    relay.ahead = false ∧ (relay.takeFrame frame rest).sharedRecent = relay.sharedRecent := by
  unfold Relay.takeFrame at behind ⊢
  split at behind
  · rename_i key
    rw [if_pos key]
    exact ⟨behind,rfl⟩
  · rename_i key
    rw [if_neg key]
    split at behind
    · rename_i fits
      rw [if_pos fits]
      obtain ⟨before,own⟩ := Bool.or_eq_false_iff.mp behind
      refine ⟨before,?_⟩
      show (if relay.aliased = true then _ else relay.sharedRecent) = _
      rw [own]
      rfl
    · rename_i full
      rw [if_neg full]
      exact ⟨behind,rfl⟩

section
variable (split : Split codec frames world shown taken left)
include split

theorem Split.frame (enabled : Enabled world .frame) :
    ∃ taken left, Split codec frames (apply .frame world) shown taken left := by
  obtain ⟨working,some_⟩ := enabled
  obtain ⟨none_,-⟩ | ⟨frame,later,rest,rfl,after,read⟩ := split.demux
  · rw [none_] at some_
    cases some_
  · have next : apply .frame world = {world with relay := world.relay.takeFrame frame.bytes rest} := by
      show {world with relay := world.relay.demux.getD world.relay} = _
      rw [read]
      rfl
    obtain ⟨buffer,chunk,tail,subscribers⟩ := takeFrame_frame world.relay frame.bytes rest
    have pending : (apply .frame world).pending = world.pending := by
      rw [next]
      unfold World.pending
      rw [chunk]
    have regroup : (taken ++ [frame]) ++ later = taken ++ frame :: later := List.append_assoc taken [frame] later
    refine ⟨taken ++ [frame],later,?_,?_,?_,?_,?_,?_,?_,?_,?_⟩
    · rw [regroup]
      exact split.all
    · rw [next]
      show (world.relay.takeFrame frame.bytes rest).streamBuf ++ world.coming = _
      rw [buffer]
      exact after
    · rw [pending,regroup,next]
      show (world.relay.takeFrame frame.bytes rest).streamTail ++ world.pending = _
      rw [tail]
      exact split.tail
    · rw [next,← List.append_assoc,keep_concat,← split.recent]
      exact keepFrame_take world.relay frame rest
    · rw [next]
      intro behind
      obtain ⟨before,same⟩ := takeFrame_shared world.relay frame.bytes rest behind
      exact same.trans (split.shared before)
    · rw [next]
      show world.published = (shown.flatMap Frame.bytes).length + (world.relay.takeFrame frame.bytes rest).streamTail.length
      rw [tail]
      exact split.published
    · rw [next]
      intro none_
      have none_ : (world.relay.takeFrame frame.bytes rest).chunk = none := none_
      rw [chunk] at none_
      rw [none_] at working
      cases working
    · rw [regroup,next]
      show ∀ first, (taken ++ frame :: later).head? = some first → (world.relay.takeFrame frame.bytes rest).streamTail.length < first.bytes.length
      rw [tail]
      exact split.short
    · intro subscriber held
      unfold Sound
      rw [pending]
      rw [next] at held
      have held : subscriber ∈ (world.relay.takeFrame frame.bytes rest).subscribers := held
      rw [subscribers] at held
      exact split.sound subscriber held

theorem Split.publish (enabled : Enabled world .publish) :
    Split codec frames (apply .publish world) (shown ++ taken) [] left := by
  obtain ⟨working,ended⟩ := enabled
  obtain ⟨chunk,given⟩ := Option.isSome_iff_exists.mp working
  have short : ∀ frame, left.head? = some frame → world.relay.streamBuf.length < frame.bytes.length := by
    obtain ⟨-,short⟩ | ⟨_,_,_,_,_,read⟩ := split.demux
    · exact short
    · rw [ended] at read
      cases read
  have pending : world.pending = chunk ++ world.coming := by
    unfold World.pending
    rw [given]
    rfl
  have stream := split.stream
  have tail := split.tail
  rw [pending,List.flatMap_append,← stream,← List.append_assoc,← List.append_assoc] at tail
  have buffered : world.relay.streamTail ++ chunk = taken.flatMap Frame.bytes ++ world.relay.streamBuf := List.append_cancel_right tail
  refine ⟨?_,stream,stream,?_,fun _ => ?_,?_,fun _ => ⟨rfl,rfl⟩,short,fun subscriber held => ?_⟩
  · rw [List.nil_append,List.append_assoc]
    exact split.all
  · rw [List.append_nil]
    exact split.recent
  · show world.relay.recent = _
    rw [← split.recent]
  · show world.published + (world.relay.chunk.getD []).length = _ + world.relay.streamBuf.length
    have length := congrArg List.length buffered
    rw [List.length_append,List.length_append] at length
    rw [given,split.published,List.flatMap_append,List.length_append]
    dsimp only [Option.getD_some]
    omega
  · obtain ⟨before,there,rfl⟩ := List.mem_map.mp held
    have sound := split.sound before there
    unfold Sound at sound ⊢
    rw [pending,← List.append_assoc] at sound
    show before.received ++ world.relay.chunk.getD [] ++ ([] ++ world.coming) = _
    rw [given]
    exact sound

theorem Split.join (fits : Fits codec frames world) (behind : world.relay.ahead = false)
    (recognised : Recognised codec frames world) : Split codec frames (apply .join world) shown taken left := by
  refine ⟨split.all,split.stream,split.tail,split.recent,split.shared,split.published,split.idle,split.short,fun subscriber held => ?_⟩
  obtain before | new := List.mem_append.mp held
  · exact split.sound subscriber before
  · obtain rfl := List.mem_singleton.mp new
    have same : sinceKey coded shown = sinceKey codec.key shown := by
      unfold Recognised at recognised
      rwa [split.passed] at recognised
    have kept : world.relay.sharedRecent = (sinceKey codec.key shown).map Frame.bytes := by
      unfold Fits at fits
      rw [split.passed,← same] at fits
      rw [split.shared behind,keep_eq fits,same]
    show world.relay.sharedRecent.flatten ++ world.relay.streamTail ++ world.pending =
      (sinceKey codec.key (ScrcpyStream.passed frames world.published) ++
        frames.drop (Framing.whole (frames.map Frame.bytes) world.published)).flatMap Frame.bytes
    have behind : frames.drop shown.length = taken ++ left := by rw [split.all,List.drop_left]
    rw [split.passed,split.whole,behind,kept,flatten_bytes,List.append_assoc,split.tail,← List.flatMap_append]

end

theorem Split.start (codec : Codec) (frames : List Frame) : Split codec frames (start frames) [] [] frames := by
  refine ⟨rfl,rfl,rfl,rfl,fun _ => rfl,rfl,fun _ => ⟨rfl,rfl⟩,fun frame _ => ?_,fun _ held => ?_⟩
  · show 0 < frame.bytes.length
    rw [frame.bytes_length]
    omega
  · cases held

/-- In every run in which nobody joins at a wrong moment, everyone gets the frames since the key frame and all that follow. -/
theorem relayed_whole (codec : Codec) (frames : List Frame) {world : World} (reached : Runs.Reached apply (Met codec frames) (start frames) world) :
    ∀ subscriber ∈ world.relay.subscribers, Sound codec frames world subscriber := by
  have split : ∃ shown taken left, Split codec frames world shown taken left := by
    refine reached.invariant (fun world => ∃ shown taken left, Split codec frames world shown taken left)
      ⟨[],[],frames,.start codec frames⟩ fun world step held met => ?_
    obtain ⟨shown,taken,left,split⟩ := held
    obtain ⟨⟨enabled,fits⟩,right⟩ := met
    cases step with
    | receive count => exact ⟨shown,taken,left,split.receive enabled⟩
    | frame => exact ⟨shown,split.frame enabled⟩
    | publish => exact ⟨_,_,left,split.publish enabled⟩
    | join =>
      obtain ⟨behind,recognised⟩ := right rfl
      exact ⟨shown,taken,left,split.join (fits rfl) behind recognised⟩
    | leave index =>
      refine ⟨shown,taken,left,split.all,split.stream,split.tail,split.recent,split.shared,split.published,split.idle,split.short,?_⟩
      exact fun subscriber held => split.sound subscriber (List.mem_of_mem_eraseIdx held)
  obtain ⟨_,_,_,split⟩ := split
  exact split.sound

def sampleFrame (header value : UInt8) : Frame where
  stamp := List.replicate 8 0
  payload := [0,0,0,1,header,value,value]
  stamped := rfl
  small := show 7 ≤ MAX_FRAME by decide

def avc : List Frame := [sampleFrame 0x67 1,sampleFrame 0x41 2]

def hevc : List Frame := [sampleFrame 0x42 1,sampleFrame 0x42 2]

def joinBetween : List Step := [.receive 19,.frame,.publish,.join,.receive 7,.publish,.receive 30,.join]

theorem relayed_between : Runs.Reached apply (Met .h264 avc) (start avc) (Runs.exec apply (start avc) joinBetween) ∧
    ∀ subscriber ∈ (Runs.exec apply (start avc) joinBetween).relay.subscribers, Sound .h264 avc (Runs.exec apply (start avc) joinBetween) subscriber :=
  have reached := Runs.Reached.start.along joinBetween (by decide +kernel)
  ⟨reached,relayed_whole .h264 avc reached⟩

def joinAhead : List Step := [.receive 19,.frame,.publish,.receive 30,.frame,.join,.publish]

def joinLate : List Step := [.receive 100,.frame,.frame,.publish,.join]

/-- Such a subscriber gets the picture twice; and with H.265 it starts with an older parameter set. -/
theorem relay_fails : (∃ world, Runs.Reached apply (Allowed .h264 avc) (start avc) world ∧
      ∃ subscriber ∈ world.relay.subscribers, ¬Sound .h264 avc world subscriber) ∧
    ∃ world, Runs.Reached apply (Allowed .h265 hevc) (start hevc) world ∧
      ∃ subscriber ∈ world.relay.subscribers, ¬Sound .h265 hevc world subscriber := by
  refine ⟨⟨Runs.exec apply (start avc) joinAhead,Runs.Reached.start.along joinAhead (by decide +kernel),?_⟩,
    Runs.exec apply (start hevc) joinLate,Runs.Reached.start.along joinLate (by decide +kernel),?_⟩
  · decide +kernel
  · decide +kernel

end GmsRemoteTest.Devices.ScrcpyStream
