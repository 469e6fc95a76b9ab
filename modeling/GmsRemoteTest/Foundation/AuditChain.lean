import GmsRemoteTest.Foundation.AuditLog
import GmsRemoteTest.Lib.Runs

/-! What is wrong with the lines of an audit log, and what becomes of it. An append leaves every line and every link as
it is; a rotation signs what it keeps anew, so that only what was right before it may be kept. -/
namespace GmsRemoteTest.Foundation
open Json

namespace SecurityAuditLogger
variable (logger : SecurityAuditLogger)

structure Flaw where
  record : Bool := false
  link : Bool := false
deriving DecidableEq, Repr

def Flaw.Present (flaw : Flaw) : Prop := flaw.record = true ∨ flaw.link = true

def readRecord (line : Line) : Option Fields :=
  match loadText line with
  | some (.object record) => some record
  | _ => none

def signed (record : Fields) : Bool :=
  logger.text record "record_hash" ≠ "" && logger.text record "record_hash" = logger.recordHash record

/-- `previous` is the hash of the line before, when that line has one. -/
def flaw (previous : Option String) (line : Line) : Flaw :=
  match readRecord line with
  | none => {record := true}
  | some record => {
      record := !logger.signed record
      link := previous.any fun hash => logger.text record "previous_hash" ≠ hash }

def flaws (previous : Option String) : List Line → List Flaw
  | [] => []
  | line :: rest => logger.flaw previous line :: flaws ((readRecord line).map fun record => logger.text record "record_hash") rest

def fileFlaws (file : List UInt8) : List Flaw := logger.flaws (some "GENESIS") (lines file)

theorem verifyFrom_isValid (previous : String) (number : Nat) (lines : List Line) :
    (logger.verifyFrom previous number lines).isValid = true ↔ ∀ flaw ∈ logger.flaws (some previous) lines, ¬flaw.Present := by
  induction lines generalizing previous number with
  | nil => simp [verifyFrom,flaws,Verification.isValid]
  | cons line rest ih =>
    rw [flaws,List.forall_mem_cons,verifyFrom]
    cases decoded : Utf8.decode line with
    | none => simp [flaw,readRecord,loadText,decoded,Flaw.Present,Verification.isValid]
    | some chars =>
      dsimp only
      cases loaded : loads chars with
      | none => simp [flaw,readRecord,loadText,decoded,loaded,Flaw.Present,Verification.isValid]
      | some value =>
        cases value with
        | object record =>
          have read : readRecord line = some record := by simp [readRecord,loadText,decoded,loaded]
          rw [read,Option.map_some,flaw,read]
          dsimp only
          by_cases unsigned : logger.text record "record_hash" = ""
          · simp [unsigned,signed,Flaw.Present,Verification.isValid]
          · rw [if_neg unsigned]
            by_cases linked : logger.text record "previous_hash" = previous
            · rw [if_neg (not_not.mpr linked)]
              by_cases same : logger.text record "record_hash" = logger.recordHash record
              · have made : logger.recordHash record ≠ "" := fun none => unsigned (same.trans none)
                rw [if_neg (not_not.mpr same),ih]
                simp [signed,Flaw.Present,linked,same,made]
              · rw [if_pos same]
                constructor
                · intro valid
                  split at valid <;> cases valid
                · intro clean
                  simp [signed,Flaw.Present,same] at clean
            · rw [if_pos linked]
              simp [linked,Flaw.Present,Verification.isValid]
        | _ => simp [flaw,readRecord,loadText,decoded,loaded,Flaw.Present,Verification.isValid]

theorem verifyChain_isValid (file : Option (List UInt8)) :
    (logger.verifyChain file).isValid = true ↔ ∀ flaw ∈ logger.fileFlaws (file.getD []), ¬flaw.Present :=
  logger.verifyFrom_isValid "GENESIS" 0 (lines (file.getD []))

theorem translate_append (afterReturn : Bool) (file : List UInt8) {byte : UInt8} (printed : byte ≠ 0x0D ∧ byte ≠ 0x0A) (rest : List UInt8) :
    translate afterReturn (file ++ byte::rest) = translate afterReturn file ++ byte::translate false rest := by
  induction file generalizing afterReturn with
  | nil => simp [translate,printed]
  | cons first file ih =>
    simp only [List.cons_append,translate,ih]
    split
    · rfl
    · split <;> rfl

theorem lines_append (file rest : List UInt8) :
    (∃ more, lines (file ++ 0x7B::rest) = lines file ++ more) ∨
      ∃ earlier last head more, lines file = earlier ++ [last] ∧ lines (file ++ 0x7B::rest) = earlier ++ (last ++ 0x7B::head) :: more := by
  unfold lines
  rw [translate_append false file (by decide) rest]
  by_cases closed : Lines.unfinished isNewline (translate false file) = []
  · exact .inl ⟨_,Lines.splitlines_append closed _⟩
  · obtain ⟨earlier,head,more,before,after⟩ := @Lines.splitlines_within _ isNewline _ closed 0x7B (by decide) (translate false rest)
    exact .inr ⟨earlier,_,head,more,before,after⟩

theorem marked_loads {chars : List Char} (found : marked chars = true) (more : List Char) : loads (chars ++ more) = none := by
  match chars with
  | [] => simp [marked] at found
  | [c] =>
    simp only [marked,List.head?_cons,List.take,Bool.or_eq_true,decide_eq_true_eq,Option.some.injEq,List.mem_singleton] at found
    rcases found with rfl | zero
    · exact (⟨by decide,by decide,by decide,by decide,by decide⟩ : Alien '\uFEFF').loads _
    · rw [← zero]
      exact alien_zero.loads _
  | c::d::chars =>
    simp only [marked,List.head?_cons,List.take,Bool.or_eq_true,decide_eq_true_eq,Option.some.injEq,List.mem_cons,List.not_mem_nil,or_false] at found
    rcases found with rfl | rfl | rfl
    · exact (⟨by decide,by decide,by decide,by decide,by decide⟩ : Alien '\uFEFF').loads _
    · exact alien_zero.loads _
    · exact loads_zero c _

theorem readRecord_append {line : Line} {record : Fields} (loaded : logger.loadBytes line = some (.object record)) (head : Line) :
    readRecord (line ++ 0x7B::head) = none := by
  have unread : loadText (line ++ 0x7B::head) = none := by
    unfold loadText
    cases decoded : Utf8.decode (line ++ 0x7B::head) with
    | none => rfl
    | some chars =>
      obtain ⟨before,after,rfl,front⟩ := Utf8.decode_append (by decide) decoded
      rw [Option.bind_some]
      unfold loadBytes at loaded
      rw [front] at loaded
      dsimp only at loaded
      split at loaded
      · rename_i found
        exact marked_loads found _
      · exact loads_object_append loaded (by decide) after
  unfold readRecord
  rw [unread]

def Covers (marks flaws : List Flaw) : Prop :=
  ∀ (place : Nat) (mark : Flaw), marks[place]? = some mark → mark.Present →
    ∃ flaw, flaws[place]? = some flaw ∧ (mark.record = true → flaw.record = true) ∧ flaw.Present

theorem Covers.refl (marks : List Flaw) : Covers marks marks := fun _ mark found present => ⟨mark,found,id,present⟩

theorem Covers.trans {marks between flaws : List Flaw} (first : Covers marks between) (second : Covers between flaws) :
    Covers marks flaws := by
  intro place mark found present
  obtain ⟨flaw,there,record,still⟩ := first place mark found present
  obtain ⟨last,here,kept,stays⟩ := second place flaw there still
  exact ⟨last,here,fun wrong => kept (record wrong),stays⟩

theorem Covers.cons {marks flaws : List Flaw} (rest : Covers marks flaws) (flaw : Flaw) : Covers (flaw::marks) (flaw::flaws) := by
  intro place mark found present
  cases place with
  | zero => exact Covers.refl (flaw::marks) 0 mark found present
  | succ place => exact rest place mark found present

theorem Covers.of_clean {marks flaws : List Flaw} (clean : ∀ mark ∈ marks, ¬mark.Present) : Covers marks flaws :=
  fun _ mark found present => absurd present (clean mark (List.mem_of_getElem? found))

theorem flaws_append (previous : Option String) (first second : List Line) :
    Covers (logger.flaws previous first) (logger.flaws previous (first++second)) := by
  induction first generalizing previous with
  | nil => exact .of_clean fun mark listed => by cases listed
  | cons line first ih => exact (ih _).cons _

theorem flaws_last (previous : Option String) (earlier : List Line) (last : Line) {longer : Line} (unread : readRecord longer = none)
    (more : List Line) : Covers (logger.flaws previous (earlier ++ [last])) (logger.flaws previous (earlier ++ longer::more)) := by
  induction earlier generalizing previous with
  | nil =>
    intro place mark found present
    cases place with
    | zero => exact ⟨logger.flaw previous longer,rfl,fun _ => by simp [flaw,unread],.inl (by simp [flaw,unread])⟩
    | succ place => cases found
  | cons line earlier ih => exact (ih _).cons _

theorem writeLine_dump (fields : Fields) : ∃ rest, writeLine (dump (.object fields)) = 0x7B::rest := by
  refine ⟨Utf8.encode (dumpFields fields ++ ['}'] ++ ['\n']),?_⟩
  rw [writeLine,dump_object]
  rfl

theorem fileFlaws_append {file : List UInt8} (matched : logger.headMatches file = true) (fields : Fields) :
    Covers (logger.fileFlaws file) (logger.fileFlaws (file ++ writeLine (dump (.object fields)))) := by
  obtain ⟨rest,written⟩ := writeLine_dump fields
  rw [written]
  unfold fileFlaws
  rcases lines_append file rest with ⟨more,appended⟩ | ⟨earlier,last,head,more,before,after⟩
  · rw [appended]
    exact logger.flaws_append _ _ _
  · rw [before,after]
    refine logger.flaws_last _ earlier last ?_ more
    unfold headMatches at matched
    rw [before,List.getLast?_concat] at matched
    dsimp only at matched
    split at matched
    · rename_i record loaded
      exact logger.readRecord_append loaded head
    · cases matched

def linked (before : Option Nat) (place : Nat) : Bool :=
  match before with
  | none => place = 0
  | some earlier => place = earlier + 1

def retain (flaws : List Flaw) (before : Option Nat) : List Nat → List Flaw
  | [] => []
  | place :: rest =>
    let flaw := flaws.getD place {}
    {record := flaw.record,link := flaw.link && linked before place} :: retain flaws (some place) rest

theorem Covers.retain {marks flaws : List Flaw} (covers : Covers marks flaws) {before : Option Nat} {places : List Nat}
    (clean : ∀ flaw ∈ retain flaws before places, ¬flaw.Present) : ∀ mark ∈ retain marks before places, ¬mark.Present := by
  induction places generalizing before with
  | nil =>
    intro mark listed
    cases listed
  | cons place rest ih =>
    obtain ⟨first,later⟩ := List.forall_mem_cons.mp clean
    refine List.forall_mem_cons.mpr ⟨?_,ih later⟩
    cases found : marks[place]? with
    | none =>
      rw [List.getD_eq_getElem?_getD,found]
      rintro (wrong | wrong) <;> cases wrong
    | some mark =>
      rw [List.getD_eq_getElem?_getD,found,Option.getD_some]
      intro retained
      have present : mark.Present := retained.imp id fun wrong => ((Bool.and_eq_true _ _).mp wrong).1
      obtain ⟨flaw,there,record,still⟩ := covers place mark found present
      rw [List.getD_eq_getElem?_getD,there,Option.getD_some] at first
      rcases retained with wrong | wrong
      · exact first (.inl (record wrong))
      · rcases still with wrongly | broken
        · exact first (.inl wrongly)
        · exact first (.inr ((Bool.and_eq_true _ _).mpr ⟨broken,((Bool.and_eq_true _ _).mp wrong).2⟩))

/-- The log, with what was wrong at the start with the lines that are still in it. -/
structure World where
  file : Option (List UInt8)
  standing : List Flaw

def start (file : Option (List UInt8)) : World := ⟨file,logger.fileFlaws (file.getD [])⟩

def step (record : Fields) (world : World) : World :=
  match logger.logEvent world.file record with
  | none => world
  | some file => {
      file := some file
      standing :=
        if rotates (world.file.getD []) then retain world.standing none ((logger.kept (world.file.getD [])).map Prod.fst)
        else world.standing }

/-- If the call rotates the log, every record that it keeps verifies, and so does every link between two of them that
were neighbours. -/
def KeepsSound (world : World) (_record : Fields) : Prop :=
  logger.headMatches (world.file.getD []) = true → rotates (world.file.getD []) →
    ∀ flaw ∈ retain (logger.fileFlaws (world.file.getD [])) none ((logger.kept (world.file.getD [])).map Prod.fst), ¬flaw.Present

variable {logger}

theorem Covers.afterEvent {world : World} (covers : Covers world.standing (logger.fileFlaws (world.file.getD []))) {record : Fields}
    (sound : logger.KeepsSound world record) :
    Covers (logger.step record world).standing (logger.fileFlaws ((logger.step record world).file.getD [])) := by
  unfold step
  cases logged : logger.logEvent world.file record with
  | none => exact covers
  | some file =>
    dsimp only
    unfold logEvent at logged
    split at logged
    · rename_i matched
      split
      · rename_i large
        exact .of_clean (covers.retain (sound matched large))
      · rename_i small
        unfold rotateIfNeeded at logged
        rw [if_neg small,Option.map_some] at logged
        cases logged
        exact covers.trans (logger.fileFlaws_append matched _)
    · cases logged

variable (logger)

theorem lines_line {line : Line} (printed : ∀ byte ∈ line, byte ≠ 0x0D ∧ byte ≠ 0x0A) (rest : List UInt8) :
    lines (line ++ 0x0A::rest) = line :: lines rest := by
  have translated : translate false (line ++ 0x0A::rest) = line ++ 0x0A::translate false rest := by
    induction line with
    | nil => simp [translate]
    | cons byte line ih =>
      obtain ⟨first,others⟩ := List.forall_mem_cons.mp printed
      rw [List.cons_append,translate,if_neg first.1,if_neg (fun newline => first.2 newline.1),ih others]
      rfl
  have scanned : ∀ current text, Lines.scan isNewline current (line ++ 0x0A::text) =
      ((current++line) :: (Lines.scan isNewline [] text).1,(Lines.scan isNewline [] text).2) := by
    intro current text
    clear translated
    induction line generalizing current with
    | nil => simp [Lines.scan,isNewline]
    | cons byte line ih =>
      obtain ⟨first,others⟩ := List.forall_mem_cons.mp printed
      rw [List.cons_append,Lines.scan,if_neg (by simpa [isNewline] using first.2),ih others]
      simp
  unfold lines
  rw [translated]
  unfold Lines.splitlines Lines.completeLines Lines.unfinished
  rw [scanned]
  rfl

def OneLine (text : List Char) : Prop := ∀ byte ∈ Utf8.encode text, byte ≠ 0x0D ∧ byte ≠ 0x0A

theorem writeLine_eq (text : List Char) : writeLine text = Utf8.encode text ++ [0x0A] := by
  rw [writeLine,Utf8.encode,List.flatMap_append]
  rfl

theorem lines_written {texts : List (List Char)} (oneLine : ∀ text ∈ texts, OneLine text) :
    lines (texts.flatMap writeLine) = texts.map Utf8.encode := by
  induction texts with
  | nil => rfl
  | cons text texts ih =>
    obtain ⟨first,others⟩ := List.forall_mem_cons.mp oneLine
    rw [List.flatMap_cons,writeLine_eq,List.append_assoc,List.singleton_append,lines_line first,ih others,List.map_cons]

def verifyTexts (previous : String) (number : Nat) : List (List Char) → Verification
  | [] => .valid number previous
  | chars :: rest => match loads chars with
    | none => .invalid (number+1) .invalidJson
    | some (.object record) =>
      let expected := logger.text record "record_hash"
      if expected = "" then .invalid (number+1) .unsigned
      else if logger.text record "previous_hash" ≠ previous then .invalid (number+1) .previousHash
      else if expected ≠ logger.recordHash record then
        if expected.toList.all (·.toNat < 128) then .invalid (number+1) .recordHmac else .raised
      else verifyTexts expected (number+1) rest
    | some _ => .raised

theorem verifyFrom_written (previous : String) (number : Nat) (texts : List (List Char)) :
    logger.verifyFrom previous number (texts.map Utf8.encode) = logger.verifyTexts previous number texts := by
  induction texts generalizing previous number with
  | nil => rfl
  | cons chars rest ih =>
    rw [List.map_cons,verifyFrom,verifyTexts,Utf8.decode_encode]
    dsimp only
    cases loads chars with
    | none => rfl
    | some value =>
      cases value with
      | object record =>
        dsimp only
        rw [ih]
      | _ => rfl

theorem oneLine_of_printable {text : List Char} (printable : ∀ c ∈ text, Printable c) : OneLine text := by
  intro byte listed
  obtain ⟨c,member,bytes⟩ := List.mem_flatMap.mp listed
  have range : 32 ≤ c.toNat ∧ c.toNat < 128 := by
    rcases printable c member with plainChar | rfl
    · simp only [plain,Bool.and_eq_true,decide_eq_true_eq] at plainChar
      omega
    · decide
  rw [Utf8.encode_ascii range.2,List.mem_singleton] at bytes
  have back : byte.toNat = c.toNat := by
    rw [bytes]
    exact UInt8.toNat_ofNat_of_lt' (Nat.lt_trans range.2 (by decide))
  constructor
  · rintro rfl
    change 13 = _ at back
    omega
  · rintro rfl
    change 10 = _ at back
    omega

theorem OneLine.blanks {text : List Char} (oneLine : OneLine text) (count : Nat) : OneLine (List.replicate count ' ' ++ text) := by
  intro byte listed
  rw [Utf8.encode,List.flatMap_append,List.mem_append] at listed
  rcases listed with blank | inner
  · obtain ⟨c,repeated,member⟩ := List.mem_flatMap.mp blank
    rw [List.eq_of_mem_replicate repeated,Utf8.encode_ascii (by decide)] at member
    rw [List.mem_singleton.mp member]
    decide
  · exact oneLine byte inner

theorem loadBytes_encode {text : List Char} (unmarked : marked text = false) : logger.loadBytes (Utf8.encode text) = loads text := by
  unfold loadBytes
  rw [Utf8.decode_encode]
  simp [unmarked]

def withHash (unsigned : Fields) : Fields := put "record_hash" (.string (logger.recordHash unsigned)) unsigned

def Readable (record : Fields) : Prop := loads (dump (.object record)) = some (.object record)

theorem filter_put (key : String) (value : Value) (fields : Fields) :
    (put key value fields).filter (fun field => field.1 ≠ key) = fields.filter fun field => field.1 ≠ key := by
  induction fields with
  | nil => simp [put]
  | cons field fields ih =>
    unfold put
    split
    · rename_i same
      simp [same]
    · rw [List.filter_cons,List.filter_cons,ih]

theorem recordHash_withHash (unsigned : Fields) : logger.recordHash (logger.withHash unsigned) = logger.recordHash unsigned := by
  unfold recordHash canonicalRecord withHash
  rw [filter_put]

theorem text_withHash (unsigned : Fields) : logger.text (logger.withHash unsigned) "record_hash" = logger.recordHash unsigned := by
  unfold text withHash
  rw [lookup_put,if_pos rfl]

theorem verifyTexts_withHash {unsigned : Fields} {previous : String} (chained : unsigned.lookup "previous_hash" = some (.string previous))
    (readable : Readable (logger.withHash unsigned)) (made : logger.recordHash unsigned ≠ "") (number : Nat) (rest : List (List Char)) :
    logger.verifyTexts previous number (dump (.object (logger.withHash unsigned)) :: rest) =
      logger.verifyTexts (logger.recordHash unsigned) (number+1) rest := by
  have before : logger.text (logger.withHash unsigned) "previous_hash" = previous := by
    unfold text withHash
    rw [lookup_put,if_neg (by decide),chained]
  rw [verifyTexts,readable]
  dsimp only
  rw [logger.text_withHash,logger.recordHash_withHash,before,if_neg made,if_neg (not_not.mpr rfl),if_neg (not_not.mpr rfl)]

def lastTextHash (texts : List (List Char)) : String :=
  match texts.getLast? with
  | none => "GENESIS"
  | some text => match loads text with
    | some (.object record) => if logger.text record "record_hash" = "" then "GENESIS" else logger.text record "record_hash"
    | _ => "GENESIS"

theorem lastTextHash_withHash (texts : List (List Char)) {unsigned : Fields} (readable : Readable (logger.withHash unsigned))
    (made : logger.recordHash unsigned ≠ "") :
    logger.lastTextHash (texts ++ [dump (.object (logger.withHash unsigned))]) = logger.recordHash unsigned := by
  unfold lastTextHash
  rw [List.getLast?_concat]
  dsimp only
  rw [readable]
  dsimp only
  rw [logger.text_withHash,if_neg made]

theorem lastHash_written {texts : List (List Char)} (oneLine : ∀ text ∈ texts, OneLine text) (unmarked : ∀ text ∈ texts, marked text = false) :
    logger.lastHash (texts.flatMap writeLine) = logger.lastTextHash texts := by
  unfold lastHash lastTextHash
  rw [lines_written oneLine,List.getLast?_map]
  cases last : texts.getLast? with
  | none => rfl
  | some text =>
    rw [Option.map_some]
    dsimp only
    have loaded := logger.loadBytes_encode (unmarked text (List.mem_of_getLast? last))
    cases found : loads text with
    | none => simp only [loaded.trans found]
    | some value => cases value <;> simp only [loaded.trans found]

variable {logger}

/-- Where rotations keep what is sound, a record or a link that was wrong at the start and is still in the log makes the
verification fail. -/
theorem standing_flaw_fails (file : Option (List UInt8)) {world : World}
    (reached : Runs.Reached logger.step logger.KeepsSound (logger.start file) world) (standing : ∃ flaw ∈ world.standing, flaw.Present) :
    (logger.verifyChain world.file).isValid = false := by
  have covers := reached.invariant (fun world => Covers world.standing (logger.fileFlaws (world.file.getD []))) (.refl _)
    fun _ _ covers sound => covers.afterEvent sound
  obtain ⟨flaw,listed,present⟩ := standing
  obtain ⟨place,_,found⟩ := List.mem_iff_getElem.mp listed
  obtain ⟨last,there,_,still⟩ := covers place flaw (List.getElem?_eq_some_iff.mpr ⟨_,found⟩) present
  rw [Bool.eq_false_iff]
  intro valid
  exact (logger.verifyChain_isValid world.file).mp valid last (List.mem_of_getElem? there) still

def plainSign (canonical : List Char) : String :=
  String.ofList (canonical.flatMap fun c => if c = '"' then ['\'','q'] else if c = '\'' then ['\'','\''] else [c])

def plainLogger : SecurityAuditLogger := ⟨plainSign,fun _ => "",fun _ => none⟩

def entry (field previous : String) : Fields := textFields [(field,"x"),("previous_hash",previous)]

def forged : Fields := textFields [("note","x")]

theorem plain_x : Plain "x" := by decide

theorem entry_plain {field previous : String} (name : Plain field) (before : Plain previous) : PlainFields (entry field previous) := by
  refine plainFields_texts ?_
  intro text listed
  simp only [List.mem_cons,List.not_mem_nil,or_false] at listed
  rcases listed with rfl | rfl
  · exact ⟨name,plain_x⟩
  · exact ⟨(by decide : Plain "previous_hash"),before⟩

theorem plainSign_plain {canonical : List Char} (printable : ∀ c ∈ canonical, Printable c) : Plain (plainSign canonical) := by
  intro c listed
  rw [plainSign,String.toList_ofList] at listed
  obtain ⟨source,member,coded⟩ := List.mem_flatMap.mp listed
  split at coded
  · simp only [List.mem_cons,List.not_mem_nil,or_false] at coded
    rcases coded with rfl | rfl <;> decide
  · rename_i unquoted
    split at coded
    · simp only [List.mem_cons,List.not_mem_nil,or_false] at coded
      rcases coded with rfl | rfl <;> decide
    · rw [List.mem_singleton.mp coded]
      exact (printable source member).resolve_right unquoted

theorem recordHash_plain {fields : Fields} (all : PlainFields fields) : Plain (plainLogger.recordHash fields) :=
  plainSign_plain (printable_sorted fun field listed => all field (List.mem_of_mem_filter listed))

theorem recordHash_made (fields : Fields) : plainLogger.recordHash fields ≠ "" := by
  intro none
  have empty : (plainSign (canonicalRecord fields)).toList = [] := by
    rw [show plainSign (canonicalRecord fields) = "" from none]
    rfl
  rw [plainSign,String.toList_ofList,canonicalRecord,sortKeys,dump_object,List.flatMap_cons] at empty
  cases empty

theorem withHash_entry {field : String} (other : field ≠ "record_hash") (previous : String) : plainLogger.withHash (entry field previous) =
    textFields [(field,"x"),("previous_hash",previous),("record_hash",plainLogger.recordHash (entry field previous))] := by
  unfold withHash
  rw [put_fresh]
  · rfl
  · simp [entry,textFields,keys,other.symm]

/-- A signed record in its line. -/
structure Entry (field previous : String) : Prop where
  name : Plain field ∧ field ≠ "previous_hash" ∧ field ≠ "record_hash"
  before : Plain previous

section
variable {field previous : String} (entry_ : Entry field previous)
include entry_

theorem Entry.texts :
    ∀ text ∈ [(field,"x"),("previous_hash",previous),("record_hash",plainLogger.recordHash (entry field previous))], Plain text.1 ∧ Plain text.2 := by
  intro text listed
  simp only [List.mem_cons,List.not_mem_nil,or_false] at listed
  rcases listed with rfl | rfl | rfl
  · exact ⟨entry_.name.1,plain_x⟩
  · exact ⟨(by decide : Plain "previous_hash"),entry_.before⟩
  · exact ⟨(by decide : Plain "record_hash"),recordHash_plain (entry_plain entry_.name.1 entry_.before)⟩

theorem Entry.readable : Readable (plainLogger.withHash (entry field previous)) := by
  unfold Readable
  rw [withHash_entry entry_.name.2.2]
  exact loads_dump_texts entry_.texts (by simp [entry_.name.2.1,entry_.name.2.2])

theorem Entry.oneLine :
    OneLine (dump (.object (plainLogger.withHash (entry field previous)))) := by
  rw [withHash_entry entry_.name.2.2]
  exact oneLine_of_printable (printable_object (plainFields_texts entry_.texts))

end

theorem unmarked_object {texts : List (String × String)} (some : texts ≠ []) : marked (dump (.object (textFields texts))) = false := by
  obtain ⟨first,texts,rfl⟩ := List.exists_cons_of_ne_nil some
  obtain ⟨tail,opens⟩ := dumpFields_opens first texts ['}']
  rw [dump_object,opens]
  rfl

def forgedFile (blanks : Nat) : List (List Char) :=
  [List.replicate blanks ' ' ++ dump (.object forged),dump (.object (plainLogger.withHash (entry "id" "GENESIS")))]

def noteHash : String := plainLogger.recordHash (entry "note" "GENESIS")
def idHash : String := plainLogger.recordHash (entry "id" noteHash)

def rehashed : List (List Char) :=
  [dump (.object (plainLogger.withHash (entry "note" "GENESIS"))),dump (.object (plainLogger.withHash (entry "id" noteHash)))]

theorem entry_genuine : Entry "id" "GENESIS" := ⟨by decide,by decide⟩

theorem entry_note : Entry "note" "GENESIS" := ⟨by decide,by decide⟩

theorem entry_id : Entry "id" noteHash := ⟨by decide,recordHash_plain (entry_plain entry_note.name.1 entry_note.before)⟩

theorem entry_user : Entry "user" idHash := ⟨by decide,recordHash_plain (entry_plain entry_id.name.1 entry_id.before)⟩

theorem forgedFile_lines (blanks : Nat) : lines ((forgedFile blanks).flatMap writeLine) = (forgedFile blanks).map Utf8.encode := by
  have note : PlainFields forged := plainFields_texts (List.forall_mem_singleton.mpr ⟨by decide,plain_x⟩)
  exact lines_written (List.forall_mem_cons.mpr ⟨OneLine.blanks (oneLine_of_printable (printable_object note)) blanks,
    List.forall_mem_singleton.mpr entry_genuine.oneLine⟩)

theorem loads_forged (blanks : Nat) : loads (List.replicate blanks ' ' ++ dump (.object forged)) = some (.object forged) :=
  loads_blanks (loads_dump_texts (List.forall_mem_singleton.mpr ⟨by decide,plain_x⟩) (List.nodup_singleton _)) blanks

theorem forged_flaw (blanks : Nat) : ∃ rest, plainLogger.fileFlaws ((forgedFile blanks).flatMap writeLine) = ⟨true,true⟩::rest := by
  unfold fileFlaws
  rw [forgedFile_lines]
  have unsigned : plainLogger.flaw (some "GENESIS") (Utf8.encode (List.replicate blanks ' ' ++ dump (.object forged))) = ⟨true,true⟩ := by
    unfold flaw readRecord loadText
    rw [Utf8.decode_encode,Option.bind_some,loads_forged]
    rfl
  exact ⟨_,congrArg (· :: _) unsigned⟩

theorem forged_unmarked (blanks : Nat) : marked (List.replicate blanks ' ' ++ dump (.object forged)) = false := by
  match blanks with
  | 0 => exact unmarked_object (List.cons_ne_nil _ _)
  | 1 => exact rfl
  | blanks+2 => rfl

theorem genuine_loaded : plainLogger.loadBytes (Utf8.encode (dump (.object (plainLogger.withHash (entry "id" "GENESIS"))))) =
    some (.object (plainLogger.withHash (entry "id" "GENESIS"))) := by
  rw [plainLogger.loadBytes_encode,entry_genuine.readable]
  rw [withHash_entry entry_genuine.name.2.2]
  exact unmarked_object (List.cons_ne_nil _ _)

theorem forgedFile_head (blanks : Nat) : plainLogger.headMatches ((forgedFile blanks).flatMap writeLine) = true := by
  unfold headMatches
  have last : ((forgedFile blanks).map Utf8.encode).getLast? =
      some (Utf8.encode (dump (.object (plainLogger.withHash (entry "id" "GENESIS"))))) := rfl
  rw [forgedFile_lines,last]
  dsimp only
  rw [genuine_loaded]
  dsimp only
  rw [plainLogger.text_withHash,plainLogger.recordHash_withHash]
  simp [recordHash_made]

theorem forgedFile_kept (blanks : Nat) : plainLogger.kept ((forgedFile blanks).flatMap writeLine) =
    [(0,.object forged),(1,.object (plainLogger.withHash (entry "id" "GENESIS")))] := by
  unfold kept
  rw [forgedFile_lines]
  change plainLogger.keep 0 [] [(Utf8.encode (dump (.object (plainLogger.withHash (entry "id" "GENESIS")))),1),
    (Utf8.encode (List.replicate blanks ' ' ++ dump (.object forged)),0)] = _
  rw [keep,if_neg (by decide),genuine_loaded]
  dsimp only
  have small : ¬ROTATE_KEEP_BYTES ≤ 0 + (Utf8.encode (dump (.object (plainLogger.withHash (entry "id" "GENESIS"))))).length + 1 := by
    decide +kernel
  rw [keep,if_neg fun large => small large.1,plainLogger.loadBytes_encode (forged_unmarked blanks),loads_forged]
  rfl

theorem rehash_forged :
    plainLogger.rehash "GENESIS" [.object forged,.object (plainLogger.withHash (entry "id" "GENESIS"))] = some rehashed := by
  have first : put "previous_hash" (.string "GENESIS") (forged.filter fun field => field.1 ≠ "record_hash" ∧ field.1 ≠ "previous_hash") =
      entry "note" "GENESIS" := by
    simp [forged,entry,textFields,put]
  have second : put "previous_hash" (.string noteHash)
      ((plainLogger.withHash (entry "id" "GENESIS")).filter fun field => field.1 ≠ "record_hash" ∧ field.1 ≠ "previous_hash") =
        entry "id" noteHash := by
    rw [withHash_entry (by decide)]
    simp [entry,textFields,put]
  unfold rehash
  dsimp only
  rw [first]
  unfold rehash
  dsimp only
  change Option.map _ (Option.map _ (plainLogger.rehash (plainLogger.recordHash (put "previous_hash" (.string noteHash) _)) [])) = _
  rw [second]
  rfl

theorem forgedFile_length (blanks : Nat) : blanks < ((forgedFile blanks).flatMap writeLine).length := by
  have first := Utf8.length_encode (List.replicate blanks ' ' ++ dump (.object forged))
  rw [List.length_append,List.length_replicate] at first
  rw [forgedFile,List.flatMap_cons,List.length_append,writeLine_eq,List.length_append,List.length_singleton]
  omega

theorem step_standing {file : List UInt8} (small : ¬rotates file) (record : Fields) :
    (logger.step record (logger.start (some file))).standing = logger.fileFlaws file := by
  unfold step
  split
  · rfl
  · exact if_neg small

theorem standing_flaw_fails_forged :
    (plainLogger.verifyChain
      (plainLogger.step (textFields [("user","x")]) (plainLogger.start (some ((forgedFile 0).flatMap writeLine)))).file).isValid = false := by
  have small : ¬rotates ((forgedFile 0).flatMap writeLine) := by decide +kernel
  refine standing_flaw_fails (some ((forgedFile 0).flatMap writeLine)) (.step .start _ fun _ large => absurd large small) ?_
  obtain ⟨rest,flaws⟩ := forged_flaw 0
  rw [step_standing small,flaws]
  exact ⟨_,List.mem_cons_self ..,.inl rfl⟩

def signedFile : List (List Char) := rehashed ++ [dump (.object (plainLogger.withHash (entry "user" idHash)))]

theorem signedFile_oneLine : ∀ text ∈ signedFile, OneLine text :=
  List.forall_mem_cons.mpr ⟨entry_note.oneLine,List.forall_mem_cons.mpr ⟨entry_id.oneLine,List.forall_mem_singleton.mpr entry_user.oneLine⟩⟩

theorem rehashed_lastHash : plainLogger.lastHash (rehashed.flatMap writeLine) = idHash := by
  rw [plainLogger.lastHash_written]
  · exact plainLogger.lastTextHash_withHash [dump (.object (plainLogger.withHash (entry "note" "GENESIS")))] entry_id.readable (recordHash_made _)
  · exact fun text listed => signedFile_oneLine text (List.mem_append_left _ listed)
  · refine List.forall_mem_cons.mpr ⟨?_,List.forall_mem_singleton.mpr ?_⟩
    · rw [withHash_entry entry_note.name.2.2]
      exact unmarked_object (List.cons_ne_nil _ _)
    · rw [withHash_entry entry_id.name.2.2]
      exact unmarked_object (List.cons_ne_nil _ _)

section
variable {blanks : Nat} (large : rotates ((forgedFile blanks).flatMap writeLine))
include large

theorem forgedFile_logged :
    plainLogger.logEvent (some ((forgedFile blanks).flatMap writeLine)) (textFields [("user","x")]) = some (signedFile.flatMap writeLine) := by
  have user : put "previous_hash" (.string idHash) (textFields [("user","x")]) = entry "user" idHash := by
    simp [entry,textFields,put]
  unfold logEvent rotateIfNeeded
  rw [Option.getD_some,if_pos (forgedFile_head _),if_pos large,forgedFile_kept]
  change Option.map _ (Option.map _ (plainLogger.rehash "GENESIS" [.object forged,.object (plainLogger.withHash (entry "id" "GENESIS"))])) = _
  rw [rehash_forged,Option.map_some,Option.map_some,rehashed_lastHash]
  dsimp only
  rw [user,signedFile,List.flatMap_append,List.flatMap_singleton]
  rfl

theorem forgedFile_rotates :
    let world := plainLogger.start (some ((forgedFile blanks).flatMap writeLine))
    let rotated := plainLogger.step (textFields [("user","x")]) world
    (plainLogger.verifyChain world.file).isValid = false ∧ (∃ flaw ∈ rotated.standing, flaw.Present) ∧
      (plainLogger.verifyChain rotated.file).isValid = true := by
  obtain ⟨rest,flaws⟩ := forged_flaw blanks
  intro world rotated
  have stepped : rotated = ⟨some (signedFile.flatMap writeLine),
      retain (plainLogger.fileFlaws ((forgedFile blanks).flatMap writeLine)) none [0,1]⟩ := by
    change plainLogger.step _ (plainLogger.start _) = _
    unfold step start
    dsimp only
    rw [forgedFile_logged large]
    dsimp only
    rw [Option.getD_some,if_pos large,forgedFile_kept]
    rfl
  refine ⟨?_,?_,?_⟩
  · rw [Bool.eq_false_iff]
    intro valid
    refine (plainLogger.verifyChain_isValid world.file).mp valid ⟨true,true⟩ ?_ (.inl rfl)
    change _ ∈ plainLogger.fileFlaws ((forgedFile blanks).flatMap writeLine)
    rw [flaws]
    exact List.mem_cons_self ..
  · rw [stepped,flaws]
    exact ⟨_,List.mem_cons_self ..,.inl rfl⟩
  · rw [stepped]
    unfold verifyChain
    rw [Option.getD_some,lines_written signedFile_oneLine,plainLogger.verifyFrom_written]
    change (plainLogger.verifyTexts "GENESIS" 0 [dump (.object (plainLogger.withHash (entry "note" "GENESIS"))),
      dump (.object (plainLogger.withHash (entry "id" noteHash))),dump (.object (plainLogger.withHash (entry "user" idHash)))]).isValid = _
    have note := @verifyTexts_withHash plainLogger _ "GENESIS" rfl entry_note.readable (recordHash_made _)
    have id_ := @verifyTexts_withHash plainLogger _ noteHash rfl entry_id.readable (recordHash_made _)
    have user := @verifyTexts_withHash plainLogger _ idHash rfl entry_user.readable (recordHash_made _)
    rw [note]
    change (plainLogger.verifyTexts noteHash _ _).isValid = _
    rw [id_]
    change (plainLogger.verifyTexts idHash _ _).isValid = _
    rw [user]
    rfl

end

theorem rotation_signs_forged :
    let world := plainLogger.start (some ((forgedFile MAX_LOG_BYTES).flatMap writeLine))
    let rotated := plainLogger.step (textFields [("user","x")]) world
    (plainLogger.verifyChain world.file).isValid = false ∧ (∃ flaw ∈ rotated.standing, flaw.Present) ∧
      (plainLogger.verifyChain rotated.file).isValid = true :=
  forgedFile_rotates (forgedFile_length MAX_LOG_BYTES)

end SecurityAuditLogger

end GmsRemoteTest.Foundation
