import Mathlib.Data.List.Infix
import GmsRemoteTest.WorkerAgent.LogUpload

/-! What the Controller holds of the log files, over every growth of the files, every outcome of an
upload and every restart of the Worker. -/
namespace GmsRemoteTest.WorkerAgent
open Lines (Whole completeLines)

section
variable {ranges : List (UInt8 × UInt8)} {bits : Nat} {bytes rest : List UInt8} {c : Char} (read : continuation ranges bits bytes = (c,rest))
include read

theorem continuation_used :
    ∃ used, bytes = used++rest ∧ ∀ front, front <+: rest → continuation ranges bits (used++front) = (c,front) := by
  induction ranges generalizing bits bytes with
  | nil =>
    cases read
    exact ⟨[],rfl,fun _ _ => rfl⟩
  | cons range ranges ih =>
    cases bytes with
    | nil =>
      cases read
      refine ⟨[],rfl,fun front short => ?_⟩
      rw [List.prefix_nil.mp short]
      rfl
    | cons byte bytes =>
      rw [continuation] at read
      split at read
      case isTrue valid =>
        obtain ⟨used,split,cut⟩ := ih read
        refine ⟨byte::used,by simp [split],fun front short => ?_⟩
        simp [continuation,valid,cut front short]
      case isFalse invalid =>
        cases read
        refine ⟨[],rfl,fun front short => ?_⟩
        cases front with
        | nil => rfl
        | cons head front =>
          obtain ⟨rfl,_⟩ := List.cons_prefix_cons.mp short
          simp [continuation,invalid]

theorem continuation_extend (settled : rest ≠ [] ∨ c ≠ replacement) (more : List UInt8) :
    continuation ranges bits (bytes++more) = (c,rest++more) := by
  induction ranges generalizing bits bytes with
  | nil =>
    cases read
    rfl
  | cons range ranges ih =>
    cases bytes with
    | nil =>
      cases read
      simp at settled
    | cons byte bytes =>
      rw [List.cons_append,continuation]
      rw [continuation] at read
      split at read
      case isTrue valid =>
        rw [if_pos valid]
        exact ih read
      case isFalse invalid =>
        cases read
        rw [if_neg invalid]
        rfl

end

theorem nextChar_used {bytes rest : List UInt8} {c : Char} (read : nextChar bytes = some (c,rest)) :
    ∃ used, used ≠ [] ∧ bytes = used++rest ∧ ∀ front, front <+: rest → nextChar (used++front) = some (c,front) := by
  cases bytes with
  | nil => cases read
  | cons byte bytes =>
    rw [nextChar] at read
    split at read
    case isTrue returns =>
      cases bytes with
      | nil =>
        cases read
        refine ⟨[byte],by simp,rfl,fun front short => ?_⟩
        rw [List.prefix_nil.mp short]
        simp [nextChar,returns]
      | cons head bytes =>
        by_cases feed : head = 0x0A
        · simp only [feed,List.head?_cons,if_true,List.tail_cons,Option.some.injEq,Prod.mk.injEq] at read
          obtain ⟨rfl,rfl⟩ := read
          refine ⟨[byte,head],by simp,rfl,fun front short => ?_⟩
          simp [nextChar,returns,feed]
        · simp only [List.head?_cons,Option.some.injEq,feed,if_false,Prod.mk.injEq] at read
          obtain ⟨rfl,rfl⟩ := read
          refine ⟨[byte],by simp,rfl,fun front short => ?_⟩
          cases front with
          | nil => simp [nextChar,returns]
          | cons first front =>
            obtain ⟨rfl,_⟩ := List.cons_prefix_cons.mp short
            simp [nextChar,returns,feed]
    case isFalse plain =>
      split at read
      case isTrue ascii =>
        cases read
        exact ⟨[byte],by simp,rfl,fun front _ => by simp [nextChar,plain,ascii]⟩
      case isFalse wide =>
        cases lead : leadByte byte with
        | none =>
          rw [lead] at read
          cases read
          exact ⟨[byte],by simp,rfl,fun front _ => by simp [nextChar,plain,wide,lead]⟩
        | some shape =>
          simp only [lead,Option.some.injEq] at read
          obtain ⟨used,split,cut⟩ := continuation_used read
          refine ⟨byte::used,by simp,by simp [split],fun front short => ?_⟩
          simp [nextChar,plain,wide,lead,cut front short]

theorem isBreak_replacement : isBreak replacement = false := by decide

theorem nextChar_extend {bytes rest more : List UInt8} {c : Char} (read : nextChar bytes = some (c,rest))
    (settled : rest ≠ [] ∨ isBreak c ∧ ¬ (bytes.getLast? = some 0x0D ∧ more.head? = some 0x0A)) :
    nextChar (bytes++more) = some (c,rest++more) := by
  cases bytes with
  | nil => cases read
  | cons byte bytes =>
    rw [nextChar] at read
    rw [List.cons_append,nextChar]
    split at read
    case isTrue returns =>
      rw [if_pos returns]
      cases bytes with
      | nil =>
        cases read
        simp [returns] at settled
        simp [settled]
      | cons head bytes =>
        by_cases feed : head = 0x0A
        · simp only [feed,List.head?_cons,if_true,List.tail_cons,Option.some.injEq,Prod.mk.injEq] at read
          obtain ⟨rfl,rfl⟩ := read
          simp [feed]
        · simp only [List.head?_cons,Option.some.injEq,feed,if_false,Prod.mk.injEq] at read
          obtain ⟨rfl,rfl⟩ := read
          simp [feed]
    case isFalse plain =>
      rw [if_neg plain]
      split at read
      case isTrue ascii =>
        cases read
        rw [if_pos ascii]
      case isFalse wide =>
        rw [if_neg wide]
        cases lead : leadByte byte with
        | none =>
          rw [lead] at read
          cases read
          rfl
        | some shape =>
          simp only [lead,Option.some.injEq] at read ⊢
          apply continuation_extend read
          refine settled.imp_right fun ends same => ?_
          rw [same,isBreak_replacement] at ends
          cases ends.1

theorem readChars_enough {bytes : List UInt8} {first second : Nat} (left : bytes.length ≤ first)
    (right : bytes.length ≤ second) : readChars first bytes = readChars second bytes := by
  induction first generalizing bytes second with
  | zero =>
    have empty : bytes = [] := by simpa using left
    cases second <;> simp [empty,readChars,nextChar]
  | succ first ih =>
    cases bytes with
    | nil => cases second <;> simp [readChars,nextChar]
    | cons byte bytes =>
      cases second with
      | zero => simp at right
      | succ second =>
        cases read : nextChar (byte::bytes) with
        | none => simp [readChars,read]
        | some result =>
          obtain ⟨c,rest⟩ := result
          obtain ⟨used,nonempty,split,_⟩ := nextChar_used read
          have shorter : rest.length < (byte::bytes).length := by
            have size := List.length_pos_of_ne_nil nonempty
            rw [split,List.length_append]
            omega
          have same := @ih rest second (by omega) (by omega)
          simp [readChars,read,same]

theorem decode_cons {bytes rest : List UInt8} {c : Char} (read : nextChar bytes = some (c,rest)) :
    decode bytes = c :: decode rest := by
  obtain ⟨used,nonempty,split,_⟩ := nextChar_used read
  obtain ⟨size,shorter⟩ : ∃ size, bytes.length = size+1 ∧ rest.length ≤ size := by
    have positive := List.length_pos_of_ne_nil nonempty
    refine ⟨bytes.length-1,?_,?_⟩ <;> rw [split,List.length_append] <;> omega
  rw [decode,shorter.1,readChars,read,decode]
  simp [@readChars_enough rest size rest.length shorter.2 le_rfl]

theorem nextChar_some {bytes : List UInt8} (nonempty : bytes ≠ []) : ∃ c rest, nextChar bytes = some (c,rest) := by
  cases read : nextChar bytes with
  | some result => exact ⟨result.1,result.2,rfl⟩
  | none =>
    exfalso
    unfold nextChar at read
    split at read
    · exact nonempty rfl
    · split at read
      · cases read
      · split at read
        · cases read
        · split at read <;> cases read

theorem decode_append {bytes more : List UInt8} (whole : Whole isBreak (decode bytes))
    (apart : ¬ (bytes.getLast? = some 0x0D ∧ more.head? = some 0x0A)) :
    decode (bytes++more) = decode bytes ++ decode more := by
  induction length : bytes.length using Nat.strong_induction_on generalizing bytes with
  | _ size ih =>
    by_cases empty : bytes = []
    · simp [empty,decode,readChars]
    · obtain ⟨c,rest,read⟩ := nextChar_some empty
      obtain ⟨used,nonempty,split,_⟩ := nextChar_used read
      rw [decode_cons read] at whole ⊢
      by_cases last : rest = []
      · have ends : isBreak c := whole c (by simp [last,decode,readChars])
        rw [decode_cons (nextChar_extend read (.inr ⟨ends,apart⟩)),last]
        simp [decode,readChars]
      · rw [decode_cons (nextChar_extend read (.inl last)),List.cons_append]
        have shorter : rest.length < size := by
          have positive := List.length_pos_of_ne_nil nonempty
          rw [← length,split,List.length_append]
          omega
        have same : bytes.getLast? = rest.getLast? := by
          rw [split,List.getLast?_append_of_ne_nil used last]
        rw [ih rest.length shorter whole.tail (same ▸ apart) rfl]

theorem readChars_used (limit : Nat) (bytes : List UInt8) :
    ∃ used, bytes = used++(readChars limit bytes).2 ∧ decode used = (readChars limit bytes).1 := by
  induction limit generalizing bytes with
  | zero => exact ⟨[],rfl,rfl⟩
  | succ limit ih =>
    rw [readChars]
    cases read : nextChar bytes with
    | none => exact ⟨[],rfl,rfl⟩
    | some result =>
      obtain ⟨c,rest⟩ := result
      obtain ⟨first,_,split,cut⟩ := nextChar_used read
      obtain ⟨later,remains,text⟩ := ih rest
      refine ⟨first++later,?_,?_⟩
      · rw [List.append_assoc,← remains]
        exact split
      · have front : later <+: rest := ⟨_,remains.symm⟩
        rw [decode_cons (cut later front),text]

theorem logEvents_from (file : LogFile) (sequence : Nat) (lines : List (List Char)) :
    Numbered.From JobEvent.sequence sequence (logEvents file sequence lines) := by
  simp [Numbered.From,logEvents,Function.comp_def,List.zipIdx_map_snd]

theorem logEvents_length (file : LogFile) (sequence : Nat) (lines : List (List Char)) :
    (logEvents file sequence lines).length = lines.length := by
  simp [logEvents]

theorem messages_append (source : EventSource) (first second : List JobEvent) :
    messages source (first++second) = messages source first ++ messages source second := by
  simp [messages]

theorem messages_logEvents (file : LogFile) (sequence : Nat) (lines : List (List Char)) :
    messages (.log file) (logEvents file sequence lines) = lines := by
  induction lines generalizing sequence with
  | nil => rfl
  | cons line lines ih =>
    have later := ih (sequence+1)
    simp only [messages,logEvents] at later
    simp [messages,logEvents,later]

theorem messages_logEvents_other {file other : LogFile} (different : other ≠ file) (sequence : Nat) (lines : List (List Char)) :
    messages (.log file) (logEvents other sequence lines) = [] := by
  have unselected : (logEvents other sequence lines).filter (·.source = .log file) = [] := by
    simp only [List.filter_eq_nil_iff,logEvents,List.mem_map]
    rintro event ⟨⟨line,number⟩,_,rfl⟩
    simp [different]
  simp [messages,unselected]

section
variable (transfer : LogTransfer) (limit : Nat)

theorem logBatch_from : Numbered.From JobEvent.sequence transfer.sequence (logBatch transfer limit) := by
  apply (logEvents_from _ _ _).append
  rw [logEvents_length]
  exact logEvents_from _ _ _

theorem messages_logBatch (file : LogFile) :
    messages (.log file) (logBatch transfer limit) = chunkLines transfer limit file := by
  rw [logBatch,messages_append]
  cases file with
  | stdout | stderr => simp [messages_logEvents,messages_logEvents_other]

def ReadsLines (file : LogFile) : Prop :=
  Whole isBreak (chunk transfer limit file).1 ∧
    ¬ (((transfer.content file).take (transfer.offset file)).getLast? = some 0x0D ∧
      ((transfer.content file).drop (transfer.offset file)).head? = some 0x0A)

instance (file : LogFile) : Decidable (ReadsLines transfer limit file) :=
  inferInstanceAs (Decidable (_ ∧ ¬ (_ ∧ _)))

end

/-- An upload that reaches the Controller carries whole lines, and where the Controller already has
an event of a number in use, the line to be sent under it is that event. -/
def Intact (transfer : LogTransfer) : LogOp → Prop
  | .flush limit upload =>
    upload = .failed ∨ ReadsLines transfer limit .stdout ∧ ReadsLines transfer limit .stderr ∧
      Numbered.Agrees JobEvent.sequence transfer.stored (logBatch transfer limit)
  | _ => True

instance (transfer : LogTransfer) : ∀ op, Decidable (Intact transfer op)
  | .flush _ _ => inferInstanceAs (Decidable (_ ∨ _ ∧ _ ∧ _))
  | .grow _ _ | .start _ _ => inferInstanceAs (Decidable True)

structure Uploaded (transfer : LogTransfer) : Prop where
  dense : Numbered.Dense JobEvent.sequence transfer.stored
  inside : transfer.sequence ≤ transfer.stored.length
  bounded : ∀ file, transfer.offset file ≤ (transfer.content file).length
  whole : ∀ file, Whole isBreak (decode ((transfer.content file).take (transfer.offset file)))
  sent : ∀ file, messages (.log file) (transfer.stored.take transfer.sequence) =
    completeLines isBreak (decode ((transfer.content file).take (transfer.offset file)))
  kept : ∀ file, ∃ read, read <+: transfer.content file ∧
    messages (.log file) transfer.stored = completeLines isBreak (decode read)

theorem freshTransfer_uploaded : Uploaded freshTransfer where
  dense := Numbered.dense_nil
  inside := le_rfl
  bounded _ := le_rfl
  whole _ := Lines.whole_nil
  sent _ := rfl
  kept _ := ⟨[],List.nil_prefix,rfl⟩

section
variable {transfer : LogTransfer}

theorem growLog_content (transfer : LogTransfer) (grown : LogFile) (bytes : List UInt8) (file : LogFile) :
    transfer.content file <+: (growLog transfer grown bytes).content file := by
  by_cases same : file = grown
  · subst same
    simp [growLog]
  · simp [growLog,same]

theorem Uploaded.grow (uploaded : Uploaded transfer) (grown : LogFile) (bytes : List UInt8) :
    Uploaded (growLog transfer grown bytes) := by
  have taken (file : LogFile) : ((growLog transfer grown bytes).content file).take (transfer.offset file) =
      (transfer.content file).take (transfer.offset file) := by
    obtain ⟨more,longer⟩ := growLog_content transfer grown bytes file
    rw [← longer,List.take_append_of_le_length (uploaded.bounded file)]
  refine ⟨uploaded.dense,uploaded.inside,fun file => ?_,fun file => ?_,fun file => ?_,fun file => ?_⟩
  · exact (uploaded.bounded file).trans (growLog_content transfer grown bytes file).length_le
  · change Whole isBreak (decode (((growLog transfer grown bytes).content file).take (transfer.offset file)))
    rw [taken]
    exact uploaded.whole file
  · change _ = completeLines isBreak (decode (((growLog transfer grown bytes).content file).take (transfer.offset file)))
    rw [taken]
    exact uploaded.sent file
  · obtain ⟨read,front,same⟩ := uploaded.kept file
    exact ⟨read,front.trans (growLog_content transfer grown bytes file),same⟩

theorem startMonitor_eq (fingerprint : String → Bool) (upload : String → Upload) :
    startMonitor transfer fingerprint upload = {transfer with offset := fun _ => 0, sequence := 0} := rfl

theorem Uploaded.start (uploaded : Uploaded transfer) (fingerprint : String → Bool) (upload : String → Upload) :
    Uploaded (startMonitor transfer fingerprint upload) := by
  rw [startMonitor_eq]
  exact ⟨uploaded.dense,Nat.zero_le _,fun _ => Nat.zero_le _,fun _ => Lines.whole_nil,fun _ => rfl,uploaded.kept⟩

section
variable {limit : Nat} {file : LogFile} (reads : ReadsLines transfer limit file)
include reads

theorem ReadsLines.advance (whole : Whole isBreak (decode ((transfer.content file).take (transfer.offset file)))) :
    decode ((transfer.content file).take (newOffset transfer limit file)) =
      decode ((transfer.content file).take (transfer.offset file)) ++ (chunk transfer limit file).1 := by
  obtain ⟨used,split,text⟩ := readChars_used limit ((transfer.content file).drop (transfer.offset file))
  have parts : transfer.content file =
      ((transfer.content file).take (transfer.offset file) ++ used) ++ (chunk transfer limit file).2 := by
    rw [List.append_assoc,chunk,← split,List.take_append_drop]
  have reached : (transfer.content file).take (newOffset transfer limit file) =
      (transfer.content file).take (transfer.offset file) ++ used := by
    rw [newOffset]
    generalize (transfer.content file).take (transfer.offset file) ++ used = front at parts
    rw [parts]
    simp
  have apart : ¬ (((transfer.content file).take (transfer.offset file)).getLast? = some 0x0D ∧ used.head? = some 0x0A) := by
    intro both
    apply reads.2
    refine ⟨both.1,?_⟩
    rw [split]
    cases used with
    | nil => cases both.2
    | cons head used => exact both.2
  rw [reached,decode_append whole apart,text,chunk]

theorem ReadsLines.lines :
    chunkLines transfer limit file = completeLines isBreak (chunk transfer limit file).1 :=
  reads.1.splitlines_eq

end

theorem newOffset_le (transfer : LogTransfer) (limit : Nat) (file : LogFile) :
    newOffset transfer limit file ≤ (transfer.content file).length := Nat.sub_le _ _

section
variable (uploaded : Uploaded transfer) {limit : Nat} (reads : ∀ file, ReadsLines transfer limit file)
  (agrees : Numbered.Agrees JobEvent.sequence transfer.stored (logBatch transfer limit)) (file : LogFile)
include uploaded reads agrees

theorem Uploaded.store :
    messages (.log file) ((addEvents transfer.stored (logBatch transfer limit)).take
        (transfer.sequence+(logBatch transfer limit).length)) =
      completeLines isBreak (decode ((transfer.content file).take (newOffset transfer limit file))) := by
  have taken := agrees.take_foldl_insert uploaded.dense (logBatch_from transfer limit) uploaded.inside
  rw [addEvents,taken,messages_append,uploaded.sent,messages_logBatch,(reads file).lines,
    (reads file).advance (uploaded.whole file),(uploaded.whole file).completeLines_append]

theorem Uploaded.store_kept :
    ∃ read, read <+: transfer.content file ∧
      messages (.log file) (addEvents transfer.stored (logBatch transfer limit)) = completeLines isBreak (decode read) := by
  have grown := Numbered.foldl_insert uploaded.dense (logBatch_from transfer limit) uploaded.inside
  by_cases beyond : transfer.stored.length < transfer.sequence+(logBatch transfer limit).length
  · -- the batch reaches beyond the last event, so the events are those below its end
    refine ⟨_,List.take_prefix (newOffset transfer limit file) _,?_⟩
    rw [← uploaded.store reads agrees,List.take_of_length_le]
    rw [addEvents,grown,List.length_append,List.length_drop]
    have inside := uploaded.inside
    omega
  · -- every number of the batch is taken
    have nothing : (logBatch transfer limit).drop (transfer.stored.length-transfer.sequence) = [] := by
      rw [List.drop_eq_nil_iff]
      omega
    rw [addEvents,grown,nothing,List.append_nil]
    exact uploaded.kept file

end

theorem Uploaded.flush (uploaded : Uploaded transfer) {limit : Nat} {upload : Upload}
    (intact : Intact transfer (.flush limit upload)) : Uploaded (flushLogEvents transfer limit upload) := by
  rw [flushLogEvents.eq_def]
  dsimp only
  by_cases refused : logBatch transfer limit = [] ∨ ¬ validBatch (logBatch transfer limit)
  · rw [if_pos refused]
    exact uploaded
  · rw [if_neg refused]
    obtain rfl | ⟨stdout,stderr,agrees⟩ := intact
    · exact uploaded
    · have reads (file : LogFile) : ReadsLines transfer limit file := by
        cases file with
        | stdout => exact stdout
        | stderr => exact stderr
      have numbered := logBatch_from transfer limit
      have dense := uploaded.dense.foldl_insert numbered uploaded.inside
      cases upload with
      | failed => exact uploaded
      | lost =>
        have grown := Numbered.foldl_insert uploaded.dense numbered uploaded.inside
        refine ⟨dense,?_,uploaded.bounded,uploaded.whole,?_,uploaded.store_kept reads agrees⟩
        · change _ ≤ (addEvents _ _).length
          rw [addEvents,grown,List.length_append]
          exact uploaded.inside.trans (Nat.le_add_right _ _)
        · intro file
          change messages _ ((addEvents _ _).take _) = _
          rw [addEvents,grown,List.take_append_of_le_length uploaded.inside]
          exact uploaded.sent file
      | confirmed =>
        have taken := congrArg List.length (agrees.take_foldl_insert uploaded.dense numbered uploaded.inside)
        refine ⟨dense,?_,newOffset_le transfer limit,?_,uploaded.store reads agrees,uploaded.store_kept reads agrees⟩
        · change transfer.sequence+(logBatch transfer limit).length ≤ (addEvents _ _).length
          have inside := uploaded.inside
          rw [List.length_take,List.length_append,List.length_take] at taken
          rw [addEvents]
          omega
        · intro file
          change Whole isBreak (decode ((transfer.content file).take (newOffset transfer limit file)))
          rw [(reads file).advance (uploaded.whole file)]
          exact (uploaded.whole file).append (reads file).1

theorem Uploaded.step (uploaded : Uploaded transfer) {op : LogOp} (intact : Intact transfer op) :
    Uploaded (op.apply transfer) := by
  cases op with
  | grow file bytes => exact uploaded.grow file bytes
  | flush limit upload => exact uploaded.flush intact
  | start fingerprint upload => exact uploaded.start fingerprint upload

theorem Uploaded.listEvents_eq (uploaded : Uploaded transfer) : listEvents transfer.stored = transfer.stored := by
  apply List.Pairwise.insertionSort_eq
  have increasing : (transfer.stored.map JobEvent.sequence).Pairwise (· < ·) := by
    rw [uploaded.dense]
    exact List.pairwise_lt_range
  rw [List.pairwise_map] at increasing
  exact increasing.imp fun less => Nat.le_of_lt less

end

/-- The stored events of a log file are the complete lines of a part of it that was read from the start. -/
theorem stored_lines_are_complete {transfer : LogTransfer}
    (reached : Runs.Reached LogOp.apply Intact freshTransfer transfer) (file : LogFile) :
    ∃ read, read <+: transfer.content file ∧ storedLines transfer file = completeLines isBreak (decode read) := by
  have uploaded := reached.invariant Uploaded freshTransfer_uploaded fun _ _ uploaded intact => uploaded.step intact
  rw [storedLines,uploaded.listEvents_eq]
  exact uploaded.kept file

def replayedUpload : List LogOp :=
  [.start (fun _ => true) (fun _ => .confirmed),.grow .stdout [97,13,10,98,10],.grow .stderr [120,10],
    .flush 262144 .lost,.flush 262144 .confirmed,.start (fun _ => true) (fun _ => .failed),.flush 262144 .confirmed,
    .grow .stdout [195,169,10],.flush 262144 .confirmed]

theorem stored_lines_are_complete_replayed :
    storedLines (Runs.exec LogOp.apply freshTransfer replayedUpload) .stdout = [['a'],['b'],['é']] ∧
      ∃ read, read <+: (Runs.exec LogOp.apply freshTransfer replayedUpload).content .stdout ∧
        storedLines (Runs.exec LogOp.apply freshTransfer replayedUpload) .stdout = completeLines isBreak (decode read) :=
  ⟨by decide +kernel,stored_lines_are_complete (Runs.Reached.start.along replayedUpload (by decide +kernel)) .stdout⟩

def halfLine : List LogOp :=
  [.start (fun _ => true) (fun _ => .confirmed),.grow .stdout [97,98],.flush 262144 .confirmed,
    .grow .stdout [99,10],.flush 262144 .confirmed]

theorem half_line_is_stored :
    ¬ ∃ read, read <+: (Runs.exec LogOp.apply freshTransfer halfLine).content .stdout ∧
      storedLines (Runs.exec LogOp.apply freshTransfer halfLine) .stdout = completeLines isBreak (decode read) := by
  have other : ∀ read ∈ ((Runs.exec LogOp.apply freshTransfer halfLine).content .stdout).inits,
      storedLines (Runs.exec LogOp.apply freshTransfer halfLine) .stdout ≠ completeLines isBreak (decode read) := by
    decide +kernel
  rintro ⟨read,front,same⟩
  exact other read ((List.mem_inits _ _).mpr front) same

end GmsRemoteTest.WorkerAgent
