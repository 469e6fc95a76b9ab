import GmsRemoteTest.Lib.Languages
import GmsRemoteTest.Redmine.FailureIdentity

/-! Which exception names the assertion class of a failure shows: what `_ASSERTION_LINE` reads, and when it is the leftmost name of the reason. -/
namespace GmsRemoteTest.Redmine.FailureIdentity
open Text Regex Regex.Pattern
open UsbipTransaction (wordBoundary isWord)

def root : Pattern :=
  alts [literal "junit.framework",literal "org.junit",
    .seq (literal "java.lang.") (alts (["Runtime","IllegalArgument","IllegalState","NullPointer","AssertionError"].map literal)),
    seqs [literal "android",optional (only 'x'),literal ".test"]]

def nameLetter (c : Char) : Bool := c.isAlphanum || c = '_' || c = '.'

def ending : Pattern := alts [literal "Exception",literal "Error"]

def exceptionName : Pattern := .alt (seqs [root,only '.',.star (.char nameLetter),ending]) (literal "AssertionError")

variable {isalnum : Char → Bool}

theorem assertionLine_eq : ASSERTION_LINE isalnum = seqs [wordBoundary isalnum,.group "1" exceptionName,wordBoundary isalnum] := rfl

def frameworks : List String := ["junit.framework","org.junit","android.test","androidx.test"]

def stems : List String :=
  ["java.lang.Runtime","java.lang.IllegalArgument","java.lang.IllegalState","java.lang.NullPointer","java.lang.AssertionError"]

def javaLang : List String :=
  ["java.lang.AssertionError","java.lang.RuntimeException","java.lang.IllegalArgumentException","java.lang.IllegalStateException",
    "java.lang.NullPointerException"]

/-- A dotted name under one of some roots that ends in `Exception` or `Error`. -/
def Below (roots : List String) : Language Char :=
  oneOf roots * (oneOf ["."] * (madeOf nameLetter * oneOf ["Exception","Error"]))

/-- The exception types that are to be told apart. -/
def Listed : Language Char := Below frameworks + oneOf javaLang

def Named : Language Char := Listed + oneOf ["AssertionError"]

def Recognised : Language Char := Below (frameworks ++ stems) + oneOf ["AssertionError"]

theorem ending_spells : Spells ending (oneOf ["Exception","Error"]) := by
  have both : Spells ending (oneOf ["Exception"] + oneOf ["Error"]) := (Spells.literal _).alt (Spells.literal _)
  rwa [oneOf_add] at both

theorem root_spells : Spells root (oneOf (frameworks ++ stems)) := by
  have java := (Spells.literal "java.lang.").seq ((Spells.literal "Runtime").alt ((Spells.literal "IllegalArgument").alt
    ((Spells.literal "IllegalState").alt ((Spells.literal "NullPointer").alt (Spells.literal "AssertionError")))))
  have android := (Spells.literal "android").seq (((Spells.only 'x').alt Spells.empty).seq ((Spells.literal ".test").seq Spells.empty))
  have all : Spells root _ := (Spells.literal _).alt ((Spells.literal _).alt (java.alt android))
  simp only [oneOf_add,oneOf_mul] at all
  rwa [@oneOf_perm _ (frameworks ++ stems) (by decide)] at all

theorem last_spells : Spells (.seq ending .empty) (oneOf ["Exception","Error"]) := by
  have last := ending_spells.seq Spells.empty
  rwa [oneOf_mul] at last

theorem below_spells : Spells (seqs [root,only '.',.star (.char nameLetter),ending]) (Below (frameworks ++ stems)) :=
  root_spells.seq ((Spells.only '.').seq (Spells.star_char.seq last_spells))

theorem name_spells : Spells exceptionName Recognised := below_spells.alt (Spells.literal _)

theorem below_longest : Longest (seqs [root,only '.',.star (.char nameLetter),ending]) := by
  have ends : Advancing (.seq ending .empty) := ⟨⟨advancing_literal _,advancing_literal _⟩,trivial⟩
  have headed : ∀ word ∈ oneOf ["Exception","Error"], ∃ tail, word = 'E' :: tail ∧ 'E' ∉ tail := by
    rintro _ ⟨word,member,rfl⟩
    simp only [List.mem_cons,List.not_mem_nil,or_false] at member
    obtain rfl | rfl := member
    · exact ⟨"xception".toList,rfl,by decide⟩
    · exact ⟨"rror".toList,rfl,by decide⟩
  have tail : Longest (.seq (.star (.char nameLetter)) (.seq ending .empty)) :=
    .tail last_spells (.single (last_spells.unique (by decide))) ends headed
  have dot := Longest.after ((Spells.only '.').unique (by decide)) tail ⟨Longest.advancing_char,ends⟩
  exact dot.after (root_spells.unique (by decide)) ⟨trivial,Longest.advancing_char,ends⟩

theorem mem_below {roots : List String} {name : List Char} : name ∈ Below roots ↔ ∃ root ∈ roots, ∃ stem ∈ madeOf nameLetter,
    ∃ ending ∈ ["Exception","Error"], name = (root ++ ".").toList ++ (stem ++ ending.toList) := by
  unfold Below
  simp only [Language.mem_mul]
  constructor
  · rintro ⟨_,⟨root,member,rfl⟩,_,⟨_,⟨_,dot,rfl⟩,_,⟨stem,letters,_,⟨ending,last,rfl⟩,rfl⟩,rfl⟩,rfl⟩
    obtain rfl := List.mem_singleton.mp dot
    exact ⟨root,member,stem,letters,ending,last,by rw [String.toList_append,List.append_assoc]⟩
  · rintro ⟨root,member,stem,letters,ending,last,rfl⟩
    exact ⟨_,⟨root,member,rfl⟩,_,⟨_,⟨".",List.mem_singleton_self _,rfl⟩,_,⟨stem,letters,_,⟨ending,last,rfl⟩,rfl⟩,rfl⟩,
      by rw [String.toList_append,List.append_assoc]⟩

def Starts (words : List String) (text : List Char) : Prop := ∃ word ∈ words, word.toList <+: text

theorem Starts.apart {words words' : List String} {text : List Char} (starts : Starts words text) (starts' : Starts words' text)
    (free : ∀ word ∈ words, ∀ word' ∈ words', ¬word.toList <+: word'.toList ∧ ¬word'.toList <+: word.toList) : False := by
  obtain ⟨word,member,start⟩ := starts
  obtain ⟨word',member',start'⟩ := starts'
  obtain first | second := List.prefix_or_prefix_of_prefix start start'
  · exact (free word member word' member').1 first
  · exact (free word member word' member').2 second

theorem starts_below {roots : List String} {name text : List Char} (held : name ∈ Below roots) (start : name <+: text) :
    Starts (roots.map (· ++ ".")) text := by
  obtain ⟨root,member,stem,-,ending,-,rfl⟩ := mem_below.mp held
  exact ⟨_,List.mem_map_of_mem member,(List.prefix_append _ _).trans start⟩

theorem starts_oneOf {words : List String} {name text : List Char} (held : name ∈ oneOf words) (start : name <+: text) : Starts words text := by
  obtain ⟨word,member,rfl⟩ := held
  exact ⟨word,member,start⟩

theorem name_longest : Longest exceptionName := by
  refine below_longest.alt (.single ((Spells.literal _).unique (by decide))) fun {place later later'} read read' => ?_
  obtain ⟨_,held,moved⟩ := below_spells.reads.mp read
  obtain ⟨_,held',moved'⟩ := (Spells.literal _).reads.mp read'
  exact (starts_below held moved.start).apart (starts_oneOf held' moved'.start) (by decide)

/-- A name begins and ends with a letter or a digit, and holds only letters of names. -/
def whole (name : List Char) : Bool := name.all nameLetter && name.head?.any Char.isAlphanum && name.getLast?.any Char.isAlphanum

theorem whole_oneOf {words : List String} {name : List Char} (held : name ∈ oneOf words) (all : ∀ word ∈ words, whole word.toList = true) :
    whole name = true := by
  obtain ⟨word,member,rfl⟩ := held
  exact all word member

theorem whole_below {roots : List String} {name : List Char} (held : name ∈ Below roots) (all : ∀ root ∈ roots, whole root.toList = true) :
    whole name = true := by
  obtain ⟨root,member,stem,letters,ending,last,rfl⟩ := mem_below.mp held
  have ends : whole ending.toList = true := (show ∀ word ∈ ["Exception","Error"], whole word.toList = true by decide) ending last
  have starts := all root member
  unfold whole at ends starts ⊢
  simp only [Bool.and_eq_true] at ends starts ⊢
  refine ⟨⟨?_,?_⟩,?_⟩
  · rw [String.toList_append,List.all_append,List.all_append,List.all_append,starts.1.1,ends.1.1,List.all_eq_true.mpr letters]
    rfl
  · rw [String.toList_append,List.append_assoc,List.head?_append]
    cases head : root.toList.head? with
    | none => simp [head] at starts
    | some c => simpa [head] using starts.1.2
  · rw [← List.append_assoc,List.getLast?_append]
    cases last : ending.toList.getLast? with
    | none => simp [last] at ends
    | some c => simpa [last] using ends.2

/-- All that is listed or recognised. -/
def Spelled : Language Char := Below (frameworks ++ stems) + oneOf (javaLang ++ ["AssertionError"])

theorem whole_spelled {name : List Char} (held : name ∈ Spelled) : whole name = true := by
  obtain below | word := held
  · exact whole_below below (by decide)
  · exact whole_oneOf word (by decide)

theorem below_mono {roots roots' : List String} (sub : roots ⊆ roots') {name : List Char} (held : name ∈ Below roots) : name ∈ Below roots' := by
  obtain ⟨root,member,rest⟩ := mem_below.mp held
  exact mem_below.mpr ⟨root,sub member,rest⟩

theorem oneOf_mono {words words' : List String} (sub : words ⊆ words') {name : List Char} (held : name ∈ oneOf words) : name ∈ oneOf words' := by
  obtain ⟨word,member,rfl⟩ := held
  exact ⟨word,sub member,rfl⟩

theorem spelled_of_recognised {name : List Char} (held : name ∈ Recognised) : name ∈ Spelled :=
  held.imp_right (oneOf_mono (List.subset_append_right _ _))

theorem spelled_of_named {name : List Char} (held : name ∈ Named) : name ∈ Spelled := by
  obtain (below | java) | own := held
  · exact .inl (below_mono (List.subset_append_left _ _) below)
  · exact .inr (oneOf_mono (List.subset_append_left _ _) java)
  · exact .inr (oneOf_mono (List.subset_append_right _ _) own)

theorem isWord_alphanum {c : Char} (alphanum : c.isAlphanum = true) : isWord isalnum c = true := by
  simp [isWord,alphanum]

/-- A name stands in a text as a whole word. -/
structure Occurs (isalnum : Char → Bool) (text front name back : List Char) : Prop where
  text : text = front ++ (name ++ back)
  left : front.getLast?.any (isWord isalnum) = false
  right : back.head?.any (isWord isalnum) = false

theorem word_ends {name : List Char} (held : name ∈ Spelled) (front back : List Char) :
    (name ++ back).head?.any (isWord isalnum) = true ∧ (front ++ name).getLast?.any (isWord isalnum) = true := by
  have ends := whole_spelled held
  unfold whole at ends
  simp only [Bool.and_eq_true] at ends
  constructor
  · cases head : name.head? with
    | none => simp [head] at ends
    | some c =>
      rw [List.head?_append,head]
      exact isWord_alphanum (by simpa [head] using ends.1.2)
  · cases last : name.getLast? with
    | none => simp [last] at ends
    | some c =>
      rw [List.getLast?_append,last]
      exact isWord_alphanum (by simpa [last] using ends.2)

theorem reads_boundary {front rest : List Char} {groups : List (String × List Char)} {later : Place} :
    Reads (wordBoundary isalnum) ⟨front.reverse,rest,groups⟩ later ↔
      later = ⟨front.reverse,rest,groups⟩ ∧ front.getLast?.any (isWord isalnum) ≠ rest.head?.any (isWord isalnum) := by
  rw [← List.head?_reverse]
  constructor
  · rintro ⟨⟩
    rename_i held
    exact ⟨rfl,bne_iff_ne.mp held⟩
  · rintro ⟨rfl,apart⟩
    exact .assertion (bne_iff_ne.mpr apart)

theorem reads_line {front rest : List Char} {later : Place} : Reads (ASSERTION_LINE isalnum) ⟨front.reverse,rest,[]⟩ later ↔
    ∃ name ∈ Recognised, ∃ back, Occurs isalnum (front ++ rest) front name back ∧ later = ⟨name.reverse ++ front.reverse,back,[("1",name)]⟩ := by
  rw [assertionLine_eq]
  constructor
  · intro reads
    obtain ⟨_,start,reads⟩ := reads_seq.mp reads
    obtain ⟨_,read,reads⟩ := reads_seq.mp reads
    obtain ⟨_,stop,⟨⟩⟩ := reads_seq.mp reads
    obtain ⟨rfl,begins⟩ := reads_boundary.mp start
    obtain ⟨name,held,back,rfl,rfl⟩ := name_spells.group.mp read
    rw [← List.reverse_append] at stop
    obtain ⟨rfl,ends⟩ := reads_boundary.mp stop
    obtain ⟨head,last⟩ := word_ends (spelled_of_recognised held) front back
    rw [head] at begins
    rw [last] at ends
    exact ⟨name,held,back,⟨rfl,Bool.eq_false_iff.mpr begins,Bool.eq_false_iff.mpr ends.symm⟩,by rw [List.reverse_append]⟩
  · rintro ⟨name,held,back,occurs,rfl⟩
    obtain rfl := List.append_cancel_left occurs.text
    obtain ⟨head,last⟩ := word_ends (spelled_of_recognised held) front back
    refine .seq (reads_boundary.mpr ⟨rfl,?_⟩) (.seq (name_spells.group.mpr ⟨name,held,back,rfl,rfl⟩) (.seq ?_ (.empty _)))
    · rw [occurs.left,head]
      exact Bool.false_ne_true
    · rw [← List.reverse_append]
      refine reads_boundary.mpr ⟨rfl,?_⟩
      rw [occurs.right,last]
      exact Bool.false_ne_true.symm

theorem boundary_unique : Unique (wordBoundary isalnum) := by
  rintro place later other ⟨⟩ ⟨⟩
  rfl

theorem name_advancing : Advancing exceptionName := by
  refine ⟨⟨?_,trivial,Longest.advancing_char,⟨advancing_literal _,advancing_literal _⟩,trivial⟩,advancing_literal _⟩
  exact ⟨advancing_literal _,advancing_literal _,⟨advancing_literal _,advancing_literal _,advancing_literal _,advancing_literal _,advancing_literal _,
    advancing_literal _⟩,advancing_literal _,⟨trivial,trivial⟩,advancing_literal _,trivial⟩

theorem line_advancing : Advancing (ASSERTION_LINE isalnum) := by
  rw [assertionLine_eq]
  exact ⟨trivial,name_advancing,trivial,trivial⟩

theorem line_longest : Longest (ASSERTION_LINE isalnum) := by
  rw [assertionLine_eq]
  have stop : Longest (.seq (wordBoundary isalnum) .empty) := by
    refine .after boundary_unique (.single ?_) trivial
    rintro place later other ⟨⟩ ⟨⟩
    rfl
  refine .after boundary_unique (name_longest.group.seq stop ⟨trivial,trivial⟩ ?_) ⟨name_advancing,trivial,trivial⟩
  intro place between between' later later' _ _ shorter reads reads'
  obtain ⟨_,⟨⟩,⟨⟩⟩ := reads_seq.mp reads
  obtain ⟨_,⟨⟩,⟨⟩⟩ := reads_seq.mp reads'
  exact .inr shorter

/-- Some name of a language stands in a text. -/
def Mentions (isalnum : Char → Bool) (names : Language Char) (text : List Char) : Prop :=
  ∃ front, ∃ name ∈ names, ∃ back, Occurs isalnum text front name back

/-- The name that stands first in a text, and the longest of those there. -/
def First (isalnum : Char → Bool) (names : Language Char) (text name : List Char) : Prop :=
  name ∈ names ∧ ∃ front back, Occurs isalnum text front name back ∧ ∀ front', ∀ name' ∈ names, ∀ back', Occurs isalnum text front' name' back' →
    front.length < front'.length ∨ front.length = front'.length ∧ name'.length ≤ name.length

variable {names : Language Char} {text name name' : List Char}

theorem First.unique (first : First isalnum names text name) (first' : First isalnum names text name') : name = name' := by
  obtain ⟨held,front,back,occurs,most⟩ := first
  obtain ⟨held',front',back',occurs',most'⟩ := first'
  have least := most front' name' held' back' occurs'
  have least' := most' front name held back occurs
  obtain ⟨rfl,rest⟩ := List.append_inj (occurs.text.symm.trans occurs'.text) (by omega)
  exact (List.append_inj rest (by omega)).1

theorem class_cases (isalnum : Char → Bool) (reason : String) : assertionClass isalnum reason = "" ∧ ¬Mentions isalnum Recognised reason.toList ∨
    First isalnum Recognised reason.toList (assertionClass isalnum reason).toList := by
  cases found : (ASSERTION_LINE isalnum).search [] reason.toList with
  | none =>
    refine .inl ⟨by rw [assertionClass,found],?_⟩
    rintro ⟨front,name,held,back,occurs⟩
    have reads := reads_line.mpr ⟨name,held,back,occurs.text ▸ occurs,rfl⟩
    have fails := search_none line_advancing found occurs.text
    rw [List.append_nil] at fails
    exact fails _ reads
  | some place =>
    obtain ⟨front,rest,split,reads,most⟩ := search_foremost line_longest line_advancing found
    rw [List.append_nil] at reads
    obtain ⟨name,held,back,occurs,rfl⟩ := reads_line.mp reads
    have read : assertionClass isalnum reason = String.ofList name := by rw [assertionClass,found]; rfl
    rw [← split] at occurs
    refine .inr ⟨by rwa [read,String.toList_ofList],front,back,by rwa [read,String.toList_ofList],fun front' name' held' back' occurs' => ?_⟩
    have reads' := reads_line.mpr ⟨name',held',back',occurs'.text ▸ occurs',rfl⟩
    rw [read,String.toList_ofList]
    obtain earlier | ⟨same,less⟩ := most front' _ _ occurs'.text (by rwa [List.append_nil])
    · exact .inl earlier
    · refine .inr ⟨same,?_⟩
      have lengths := congrArg List.length (occurs.text.symm.trans occurs'.text)
      simp only [List.length_append] at lengths less
      omega

/-- The names that are both recognised and to be told apart. -/
def Shared : Language Char := Below frameworks + oneOf ["AssertionError"]

theorem below_append (roots roots' : List String) : Below (roots ++ roots') = Below roots + Below roots' := by
  unfold Below
  rw [← oneOf_add,add_mul]

theorem recognised_eq : Recognised = Shared + Below stems := by
  unfold Recognised Shared
  rw [below_append,add_right_comm]

theorem named_eq : Named = Shared + oneOf javaLang := by
  unfold Named Listed Shared
  rw [add_right_comm]

theorem not_recognised (java : name ∈ oneOf javaLang) : name ∉ Recognised := by
  obtain ⟨word,member,rfl⟩ := java
  rintro (below | ⟨_,own,same⟩)
  · obtain ⟨start,held,begins⟩ := starts_below below (List.prefix_refl _)
    exact (show ∀ start ∈ (frameworks ++ stems).map (· ++ "."), ∀ word ∈ javaLang, ¬start.toList <+: word.toList by decide) start held word member begins
  · obtain rfl := List.mem_singleton.mp own
    exact (show ∀ word ∈ javaLang, word.toList ≠ "AssertionError".toList by decide) word member same

theorem not_at_once {back back' : List Char} (held : name ∈ Shared) (held' : name' ∈ Below stems + oneOf javaLang) (same : name ++ back = name' ++ back') :
    False := by
  have starts : Starts (frameworks ++ ["AssertionError"]) (name ++ back) := by
    obtain below | own := held
    · obtain ⟨_,member,start⟩ := starts_below below (List.prefix_append name back)
      obtain ⟨root,held,rfl⟩ := List.mem_map.mp member
      rw [String.toList_append] at start
      exact ⟨root,List.mem_append_left _ held,(List.prefix_append _ _).trans start⟩
    · obtain ⟨word,member,start⟩ := starts_oneOf own (List.prefix_append name back)
      exact ⟨word,List.mem_append_right _ member,start⟩
  have starts' : Starts (stems.map (· ++ ".") ++ javaLang) (name' ++ back') := by
    obtain below | java := held'
    · obtain ⟨word,member,start⟩ := starts_below below (List.prefix_append name' back')
      exact ⟨word,List.mem_append_left _ member,start⟩
    · obtain ⟨word,member,start⟩ := starts_oneOf java (List.prefix_append name' back')
      exact ⟨word,List.mem_append_right _ member,start⟩
  exact starts.apart (same ▸ starts') (by decide)

/-- A name below a framework, or `AssertionError` alone, stands before every name of `java.lang`. -/
def Shown (isalnum : Char → Bool) (text : List Char) : Prop :=
  ∃ front, ∃ name ∈ Shared, ∃ back, Occurs isalnum text front name back ∧
    ∀ front', ∀ name' ∈ Below stems + oneOf javaLang, ∀ back', Occurs isalnum text front' name' back' → front.length < front'.length

theorem class_first {reason : String} : First isalnum Named reason.toList (assertionClass isalnum reason).toList ↔ Shown isalnum reason.toList := by
  have cases_ := class_cases isalnum reason
  generalize assertionClass isalnum reason = name at cases_ ⊢
  constructor
  · rintro ⟨named,front,back,occurs,most⟩
    obtain ⟨rfl,-⟩ | ⟨recognised,start,rest,occurs',most'⟩ := cases_
    · exact absurd (whole_spelled (spelled_of_named named)) (by decide)
    have shared : name.toList ∈ Shared := by
      obtain shared | java := named_eq ▸ named
      · exact shared
      · exact absurd recognised (not_recognised java)
    refine ⟨front,_,shared,back,occurs,fun front' name' held back' there => ?_⟩
    have here := most start _ named rest occurs'
    have reached : front.length ≤ front'.length := by
      obtain below | java := held
      · have := most' front' name' (recognised_eq ▸ .inr below) back' there
        omega
      · have := most front' name' (named_eq ▸ .inr java) back' there
        omega
    refine lt_of_le_of_ne reached fun same => ?_
    exact not_at_once shared held (List.append_inj (occurs.text.symm.trans there.text) same).2
  · rintro ⟨front,name',shared,back,occurs,clear⟩
    have recognised : name' ∈ Recognised := recognised_eq ▸ .inl shared
    obtain ⟨-,none_⟩ | ⟨held,start,rest,occurs',most⟩ := cases_
    · exact absurd ⟨front,name',recognised,back,occurs⟩ none_
    have early := most front name' recognised back occurs
    have own : name.toList ∈ Shared := by
      obtain own | below := recognised_eq ▸ held
      · exact own
      · have := clear start _ (.inl below) rest occurs'
        omega
    refine ⟨named_eq ▸ .inl own,start,rest,occurs',fun front' other listed back' there => ?_⟩
    obtain shared | java := named_eq ▸ listed
    · exact most front' other (recognised_eq ▸ .inl shared) back' there
    · have := clear front' other (.inr java) back' there
      exact .inl (by omega)

theorem class_plain (reason : String) : Plain (assertionClass isalnum reason) := by
  obtain ⟨none_,-⟩ | ⟨held,-⟩ := class_cases isalnum reason
  · rw [none_]
    exact List.not_mem_nil
  · have ends := whole_spelled (spelled_of_recognised held)
    unfold whole at ends
    simp only [Bool.and_eq_true] at ends
    exact fun nul => absurd (List.all_eq_true.mp ends.1.1 _ nul) (by decide)

/-- The NULs before the assertion class in what a fingerprint is taken of, less the two that separate. -/
def Fields.nuls (fields : Fields) : ℕ := (fields.suite.toList ++ fields.module_.toList ++ fields.testcase.toList).count '\x00'

theorem level_append {mark : Char} {front front' back back' : List Char} (level : front.count mark = front'.count mark)
    (same : front ++ mark :: back = front' ++ mark :: back') : front = front' ∧ back = back' := by
  induction front generalizing front' with
  | nil =>
    cases front' with
    | nil => exact ⟨rfl,(List.cons.inj same).2⟩
    | cons c front' =>
      obtain rfl : mark = c := (List.cons.inj same).1
      simp at level
  | cons c front ih =>
    cases front' with
    | nil =>
      obtain rfl : c = mark := (List.cons.inj same).1
      simp at level
    | cons d front' =>
      obtain ⟨rfl,rest⟩ := List.cons.inj same
      obtain ⟨rfl,rfl⟩ := ih (by simpa [List.count_cons] using level) rest
      exact ⟨rfl,rfl⟩

theorem fingerprint_class {sha256 : Sha256} {first second : Fields} (plain : Plain first.assertionClass) (plain' : Plain second.assertionClass)
    (level : first.nuls = second.nuls) (same : fingerprint sha256 first = fingerprint sha256 second) :
    first.assertionClass = second.assertionClass := by
  have spread : ∀ fields : Fields, (join '\x00' fields.texts).toList =
      (fields.suite.toList ++ '\x00' :: (fields.module_.toList ++ '\x00' :: fields.testcase.toList)) ++ '\x00' ::
        (fields.assertionClass.toList ++ '\x00' :: (fields.errorSignature.toList ++ '\x00' ::
          (fields.androidVersion.toList ++ '\x00' :: fields.deviceClass.toList))) := by
    intro fields
    simp [join,Fields.texts,List.intercalate]
  have lists := congrArg String.toList (sha256.injective same)
  rw [spread,spread] at lists
  unfold Fields.nuls at level
  simp only [List.count_append] at level
  have inner := (level_append (by simp only [List.count_append,List.count_cons_self]; omega) lists).2
  exact String.toList_inj.mp (level_append (by rw [List.count_eq_zero.mpr plain,List.count_eq_zero.mpr plain']) inner).1

def Arguments.reason (arguments : Arguments) : String := strip (arguments.row.reason.or arguments.row.message).text

theorem fields_class (arguments : Arguments) : (arguments.fields isalnum).assertionClass = assertionClass isalnum arguments.reason := by
  unfold Arguments.fields
  dsimp only
  rfl

def Fields.Informative (fields : Fields) : Prop :=
  (strip fields.errorSignature).toLower ∉ (["","fail","failed","failure","error","unknown"] : List String)

theorem clusterable_of_class {fields : Fields} (module_ : fields.module_ ≠ "") (class_ : fields.assertionClass ≠ "")
    (informative : fields.Informative) : clusterable fields = true := by
  unfold Fields.Informative at informative
  simp [clusterable,informative,module_,class_]

/-- A reason is told by its leftmost exception name. -/
structure Told (sha256 : Sha256) (isalnum : Char → Bool) (reason : String) : Prop where
  some_ : assertionClass isalnum reason ≠ ""
  leftmost : First isalnum Named reason.toList (assertionClass isalnum reason).toList
  clusterable : ∀ arguments : Arguments, arguments.reason = reason → (arguments.fields isalnum).module_ ≠ "" →
    (arguments.fields isalnum).Informative → (failureIdentity sha256 isalnum arguments).clusterable = true

/-- Failures of two reasons with different leftmost names have different fingerprints. -/
def Apart (sha256 : Sha256) (isalnum : Char → Bool) (reason reason' : String) : Prop :=
  ∀ first second : Arguments, first.reason = reason → second.reason = reason' →
    (first.fields isalnum).nuls = (second.fields isalnum).nuls → ∀ name name', First isalnum Named reason.toList name →
      First isalnum Named reason'.toList name' → name ≠ name' →
        (failureIdentity sha256 isalnum first).fingerprint ≠ (failureIdentity sha256 isalnum second).fingerprint

variable {sha256 : Sha256} {reason reason' : String}

theorem told_iff : Told sha256 isalnum reason ↔ Shown isalnum reason.toList := by
  refine ⟨fun told => class_first.mp told.leftmost,fun shown => ?_⟩
  have leftmost := class_first.mpr shown
  have some_ : assertionClass isalnum reason ≠ "" := by
    intro none_
    rw [none_] at leftmost
    exact absurd (whole_spelled (spelled_of_named leftmost.1)) (by decide)
  refine ⟨some_,leftmost,fun arguments given module_ informative => ?_⟩
  have class_ : (arguments.fields isalnum).assertionClass ≠ "" := by rwa [fields_class,given]
  exact clusterable_of_class module_ class_ informative

theorem apart_of_shown (shown : Shown isalnum reason.toList) (shown' : Shown isalnum reason'.toList) : Apart sha256 isalnum reason reason' := by
  intro first second given given' level name name' leftmost leftmost' other same
  have classes := fingerprint_class (by rw [fields_class]; exact class_plain _) (by rw [fields_class]; exact class_plain _) level same
  rw [fields_class,fields_class,given,given'] at classes
  refine other ((leftmost.unique (class_first.mpr shown)).trans ?_)
  rw [classes]
  exact (class_first.mpr shown').unique leftmost'

theorem exceptions_told (sha256 : Sha256) (isalnum : Char → Bool) (reason reason' : String) :
    ((Mentions isalnum Listed reason.toList → Told sha256 isalnum reason) ∧ (Mentions isalnum Listed reason'.toList → Told sha256 isalnum reason') ∧
      (Mentions isalnum Listed reason.toList → Mentions isalnum Listed reason'.toList → Apart sha256 isalnum reason reason')) ↔
    (Mentions isalnum Listed reason.toList → Shown isalnum reason.toList) ∧
      (Mentions isalnum Listed reason'.toList → Shown isalnum reason'.toList) := by
  simp only [told_iff]
  constructor
  · exact fun kept => ⟨kept.1,kept.2.1⟩
  · exact fun shown => ⟨shown.1,shown.2,fun mentions mentions' => apart_of_shown (shown.1 mentions) (shown.2 mentions')⟩

theorem runtime_exception_missed : Mentions Char.isAlphanum Listed "java.lang.RuntimeException".toList ∧
    assertionClass Char.isAlphanum "java.lang.RuntimeException" = "" := by
  refine ⟨⟨[],_,.inr ⟨"java.lang.RuntimeException",by decide,rfl⟩,[],⟨by rw [List.append_nil,List.nil_append],rfl,rfl⟩⟩,?_⟩
  decide

end GmsRemoteTest.Redmine.FailureIdentity
