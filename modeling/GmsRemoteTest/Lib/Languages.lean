import Mathlib.Computability.Language
import GmsRemoteTest.Lib.Substitution

/-! What a pattern spells, as a language, and which of its readings a run settles on: a run succeeds whenever a reading does, and a pattern
whose repetitions are greedy comes out at the longest one. -/
namespace Regex
open Pattern

variable {pattern first second inner : Pattern} {place between later other : Place} {next : Place → Option Place} {result : Place}
  {accepts : Char → Bool} {before text : List Char}

/-- No repetition goes round on the spot. -/
def Advancing : Pattern → Prop
  | .empty | .char _ | .assertion _ => True
  | .seq first second | .alt first second => Advancing first ∧ Advancing second
  | .star inner => Advancing inner ∧ ∀ {place later : Place}, Reads inner place later → later.rest.length < place.rest.length
  | .group _ inner => Advancing inner

theorem Reads.shorter (reads : Reads pattern place later) : later.rest.length ≤ place.rest.length := by
  obtain ⟨consumed,same⟩ := reads.forward
  rw [same,List.length_append]
  exact Nat.le_add_left _ _

theorem run_complete (advancing : Advancing pattern) (reads : Reads pattern place later) (succeeds : next later ≠ none) :
    pattern.run place next ≠ none := by
  induction reads generalizing next with
  | empty => exact succeeds
  | stop place =>
    rw [run_star]
    cases place.rest.length with
    | zero => exact succeeds
    | succ turns =>
      rw [repeated_succ,Ne,Option.or_eq_none_iff]
      exact fun failed => succeeds failed.2
  | char accepted => rwa [run_char,if_pos accepted]
  | seq _ _ left right => exact left advancing.1 (right advancing.2 succeeds)
  | left _ ih =>
    rw [run_alt,Ne,Option.or_eq_none_iff]
    exact fun failed => ih advancing.1 succeeds failed.1
  | right _ ih =>
    rw [run_alt,Ne,Option.or_eq_none_iff]
    exact fun failed => ih advancing.2 succeeds failed.2
  | @more inner place between later read _ step rest =>
    have forward := advancing.2 read
    obtain ⟨turns,length⟩ : ∃ turns, place.rest.length = turns + 1 := ⟨place.rest.length - 1,by omega⟩
    rw [run_star,length,repeated_succ,Ne,Option.or_eq_none_iff]
    refine fun failed => step advancing.1 ?_ failed.1
    rw [if_pos forward,repeated_turns (show between.rest.length ≤ turns by omega) (Nat.le_refl _)]
    exact rest advancing succeeds
  | group _ ih => exact ih advancing succeeds
  | assertion held => rwa [run_assertion,if_pos held]

theorem advancing_literal (word : String) : Advancing (literal word) := by
  unfold Pattern.literal
  induction word.toList with
  | nil => trivial
  | cons c chars ih => exact ⟨trivial,ih⟩

/-- A run comes out at the longest of the readings that succeed. -/
structure Longest (pattern : Pattern) : Prop where
  settles : ∀ {place result : Place} {next : Place → Option Place}, pattern.run place next = some result →
    ∃ later, Reads pattern place later ∧ next later = some result ∧
      ∀ other, Reads pattern place other → next other ≠ none → later.rest.length ≤ other.rest.length

def Unique (pattern : Pattern) : Prop := ∀ place later other, Reads pattern place later → Reads pattern place other → later = other

namespace Longest

theorem single (unique : Unique pattern) : Longest pattern := by
  refine ⟨fun {place result next} found => ?_⟩
  obtain ⟨later,reads,ended⟩ := run_reads found
  exact ⟨later,reads,ended,fun other reads' _ => by rw [unique place later other reads reads']⟩

theorem seq (left : Longest first) (right : Longest second) (advancing : Advancing second)
    (ordered : ∀ {place between between' later later' : Place}, Reads first place between → Reads first place between' →
      between'.rest.length ≤ between.rest.length → Reads second between later → Reads second between' later' →
        between = between' ∨ later'.rest.length ≤ later.rest.length) : Longest (.seq first second) := by
  refine ⟨fun {place result next} found => ?_⟩
  obtain ⟨between,read,found,most⟩ := left.settles found
  obtain ⟨later,read',ended,most'⟩ := right.settles found
  refine ⟨later,.seq read read',ended,fun other reads succeeds => ?_⟩
  obtain ⟨between',begin_,end_⟩ := reads_seq.mp reads
  obtain rfl | shorter := ordered begin_ read (most between' begin_ (run_complete advancing end_ succeeds)) end_ read'
  · exact most' other end_ succeeds
  · exact shorter

theorem after (unique : Unique first) (right : Longest second) (advancing : Advancing second) : Longest (.seq first second) :=
  (single unique).seq right advancing fun read read' _ _ _ => .inl (unique _ _ _ read read')

theorem alt (left : Longest first) (right : Longest second)
    (apart : ∀ {place later later' : Place}, Reads first place later → ¬Reads second place later') : Longest (.alt first second) := by
  refine ⟨fun {place result next} found => ?_⟩
  rw [run_alt] at found
  obtain found | ⟨-,found⟩ := Option.or_eq_some_iff.mp found
  · obtain ⟨later,read,ended,most⟩ := left.settles found
    refine ⟨later,.left read,ended,fun other reads succeeds => ?_⟩
    cases reads with
    | left reads => exact most other reads succeeds
    | right reads => exact absurd reads (apart read)
  · obtain ⟨later,read,ended,most⟩ := right.settles found
    refine ⟨later,.right read,ended,fun other reads succeeds => ?_⟩
    cases reads with
    | left reads => exact absurd read (apart reads)
    | right reads => exact most other reads succeeds

theorem group {name : String} (inner_ : Longest inner) : Longest (.group name inner) := by
  refine ⟨fun {place result next} found => ?_⟩
  obtain ⟨later,read,ended,most⟩ := inner_.settles found
  refine ⟨_,.group read,ended,fun other reads succeeds => ?_⟩
  obtain ⟨⟩ := reads
  rename_i other reads
  exact most other reads succeeds

theorem advancing_char : Advancing (.star (.char accepts)) := by
  refine ⟨trivial,fun {place later} reads => ?_⟩
  obtain ⟨c,start,-⟩ := reads_char reads
  rw [start]
  exact Nat.lt_succ_self _

theorem run_star_char {c : Char} {groups : List (String × List Char)} : (Pattern.star (.char accepts)).run ⟨before,c :: text,groups⟩ next =
    (if accepts c then (Pattern.star (.char accepts)).run ⟨c :: before,text,groups⟩ next else none).or (next ⟨before,c :: text,groups⟩) := by
  rw [run_star,List.length_cons,repeated_succ,run_char]
  congr 2
  exact if_pos (Nat.lt_succ_self _)

theorem star_char : Longest (.star (.char accepts)) := by
  refine ⟨fun {place result next} found => ?_⟩
  obtain ⟨before,text,groups⟩ := place
  induction text generalizing before with
  | nil => exact ⟨⟨before,[],groups⟩,.stop _,found,fun other _ _ => Nat.zero_le _⟩
  | cons c text ih =>
    rw [run_star_char] at found
    obtain found | ⟨failed,found⟩ := Option.or_eq_some_iff.mp found
    · split at found
      · rename_i accepted
        obtain ⟨later,read,ended,most⟩ := ih _ found
        refine ⟨later,.more (.char accepted) read,ended,fun other reads succeeds => ?_⟩
        cases reads with
        | stop => exact (read.shorter).trans (Nat.le_succ _)
        | more start reads =>
          cases start
          exact most other reads succeeds
      · cases found
    · refine ⟨⟨before,c :: text,groups⟩,.stop _,found,fun other reads succeeds => ?_⟩
      cases reads with
      | stop => exact Nat.le_refl _
      | more start reads =>
        cases start with
        | char accepted =>
          rw [if_pos accepted] at failed
          exact absurd failed (run_complete advancing_char reads succeeds)

end Longest

/-- A place moves on over a text. -/
structure Over (word : List Char) (place later : Place) : Prop where
  rest : place.rest = word ++ later.rest
  before : later.before = word.reverse ++ place.before
  groups : later.groups = place.groups

namespace Over

variable {word word' : List Char}

theorem trans (left : Over word place between) (right : Over word' between later) : Over (word ++ word') place later :=
  ⟨by rw [left.rest,right.rest,List.append_assoc],by rw [right.before,left.before,List.reverse_append,List.append_assoc],
    right.groups.trans left.groups⟩

theorem split (moved : Over (word ++ word') place later) : ∃ between, Over word place between ∧ Over word' between later :=
  ⟨⟨word.reverse ++ place.before,word' ++ later.rest,place.groups⟩,⟨by rw [moved.rest,List.append_assoc],rfl,rfl⟩,
    ⟨rfl,by rw [moved.before,List.reverse_append,List.append_assoc],moved.groups⟩⟩

theorem unique (moved : Over word place later) (moved' : Over word place other) : later = other := by
  have rest : later.rest = other.rest := List.append_cancel_left (moved.rest.symm.trans moved'.rest)
  obtain ⟨_,_,_⟩ := later
  obtain ⟨_,_,_⟩ := other
  rw [Place.mk.injEq]
  exact ⟨moved.before.trans moved'.before.symm,rest,moved.groups.trans moved'.groups.symm⟩

theorem start (moved : Over word place later) : word <+: place.rest := ⟨later.rest,moved.rest.symm⟩

end Over

/-- The words of a language are what a pattern reads. -/
structure Spells (pattern : Pattern) (language : Language Char) : Prop where
  reads : ∀ {place later : Place}, Reads pattern place later ↔ ∃ word ∈ language, Over word place later

/-- The texts of some letters. -/
def madeOf (accepts : Char → Bool) : Language Char := {word | ∀ c ∈ word, accepts c = true}

def oneOf (words : List String) : Language Char := {text | ∃ word ∈ words, text = word.toList}

section
variable {words words' : List String}

theorem oneOf_add : oneOf words + oneOf words' = oneOf (words ++ words') := by
  ext text
  show (∃ word ∈ words, text = word.toList) ∨ (∃ word ∈ words', text = word.toList) ↔ ∃ word ∈ words ++ words', text = word.toList
  simp [or_and_right,exists_or]

theorem oneOf_mul : oneOf words * oneOf words' = oneOf (words.flatMap fun word => words'.map (word ++ ·)) := by
  ext text
  rw [Language.mem_mul]
  constructor
  · rintro ⟨_,⟨word,member,rfl⟩,_,⟨word',member',rfl⟩,rfl⟩
    exact ⟨word ++ word',List.mem_flatMap.mpr ⟨word,member,List.mem_map_of_mem member'⟩,String.toList_append.symm⟩
  · rintro ⟨_,held,rfl⟩
    obtain ⟨word,member,joined⟩ := List.mem_flatMap.mp held
    obtain ⟨word',member',rfl⟩ := List.mem_map.mp joined
    exact ⟨_,⟨word,member,rfl⟩,_,⟨word',member',rfl⟩,String.toList_append.symm⟩

theorem oneOf_perm (perm : words.Perm words') : oneOf words = oneOf words' := by
  ext text
  exact exists_congr fun word => and_congr_left fun _ => perm.mem_iff

end

namespace Spells

variable {language language' : Language Char}

theorem empty : Spells .empty (oneOf [""]) := by
  refine ⟨fun {place later} => ⟨?_,?_⟩⟩
  · rintro ⟨⟩
    exact ⟨[],⟨"",List.mem_singleton_self _,rfl⟩,rfl,rfl,rfl⟩
  · rintro ⟨_,⟨_,member,rfl⟩,moved⟩
    obtain rfl := List.mem_singleton.mp member
    rw [moved.unique ⟨rfl,rfl,rfl⟩]
    exact .empty _

theorem seq (left : Spells first language) (right : Spells second language') : Spells (.seq first second) (language * language') := by
  refine ⟨fun {place later} => reads_seq.trans ⟨?_,?_⟩⟩
  · rintro ⟨between,read,read'⟩
    obtain ⟨word,member,moved⟩ := left.reads.mp read
    obtain ⟨word',member',moved'⟩ := right.reads.mp read'
    exact ⟨word ++ word',Language.append_mem_mul member member',moved.trans moved'⟩
  · rintro ⟨_,held,moved⟩
    obtain ⟨word,member,word',member',rfl⟩ := Language.mem_mul.mp held
    obtain ⟨between,moved,moved'⟩ := moved.split
    exact ⟨between,left.reads.mpr ⟨word,member,moved⟩,right.reads.mpr ⟨word',member',moved'⟩⟩

theorem alt (left : Spells first language) (right : Spells second language') : Spells (.alt first second) (language + language') := by
  refine ⟨fun {place later} => ⟨fun reads => ?_,?_⟩⟩
  · cases reads with
    | left reads =>
      obtain ⟨word,member,moved⟩ := left.reads.mp reads
      exact ⟨word,.inl member,moved⟩
    | right reads =>
      obtain ⟨word,member,moved⟩ := right.reads.mp reads
      exact ⟨word,.inr member,moved⟩
  · rintro ⟨word,member | member,moved⟩
    · exact .left (left.reads.mpr ⟨word,member,moved⟩)
    · exact .right (right.reads.mpr ⟨word,member,moved⟩)

theorem reads_char_iff : Reads (.char accepts) place later ↔ ∃ c, accepts c = true ∧ Over [c] place later := by
  constructor
  · rintro ⟨⟩
    rename_i c accepted
    exact ⟨c,accepted,rfl,rfl,rfl⟩
  · rintro ⟨c,accepted,moved⟩
    obtain ⟨before,rest,groups⟩ := place
    obtain rfl : rest = [c] ++ later.rest := moved.rest
    rw [moved.unique (show Over [c] _ ⟨c :: before,later.rest,groups⟩ from ⟨rfl,rfl,rfl⟩)]
    exact .char accepted

theorem star_char : Spells (.star (.char accepts)) (madeOf accepts) := by
  refine ⟨fun {place later} => ⟨fun reads => ?_,?_⟩⟩
  · generalize shape : Pattern.star (.char accepts) = pattern at reads
    induction reads with
    | stop place => exact ⟨[],fun _ member => (List.not_mem_nil member).elim,rfl,rfl,rfl⟩
    | more read _ _ ih =>
      cases shape
      obtain ⟨word,all,moved⟩ := ih rfl
      obtain ⟨c,accepted,moved'⟩ := reads_char_iff.mp read
      exact ⟨c :: word,List.forall_mem_cons.mpr ⟨accepted,all⟩,moved'.trans moved⟩
    | _ => cases shape
  · rintro ⟨word,all,moved⟩
    induction word generalizing place with
    | nil =>
      rw [moved.unique ⟨rfl,rfl,rfl⟩]
      exact .stop _
    | cons c word ih =>
      obtain ⟨between,moved,moved'⟩ := Over.split (show Over ([c] ++ word) place later from moved)
      have all := List.forall_mem_cons.mp all
      exact .more (reads_char_iff.mpr ⟨c,all.1,moved⟩) (ih all.2 moved')

theorem only (c : Char) : Spells (only c) (oneOf [String.ofList [c]]) := by
  refine ⟨fun {place later} => reads_char_iff.trans ⟨?_,?_⟩⟩
  · rintro ⟨d,same,moved⟩
    obtain rfl := of_decide_eq_true same
    exact ⟨[d],⟨_,List.mem_singleton_self _,String.toList_ofList.symm⟩,moved⟩
  · rintro ⟨_,⟨_,member,rfl⟩,moved⟩
    obtain rfl := List.mem_singleton.mp member
    rw [String.toList_ofList] at moved
    exact ⟨c,decide_eq_true rfl,moved⟩

theorem literal (word : String) : Spells (literal word) (oneOf [word]) := by
  have every : ∀ chars : List Char, Spells (seqs (chars.map Pattern.only)) (oneOf [String.ofList chars]) := by
    intro chars
    induction chars with
    | nil => exact empty
    | cons c chars ih =>
      have both := (only c).seq ih
      rw [oneOf_mul] at both
      rwa [show String.ofList (c :: chars) = String.ofList [c] ++ String.ofList chars from @String.ofList_append [c] chars]
  have spelled := every word.toList
  rwa [String.ofList_toList] at spelled

theorem unique {words : List String} (spells : Spells pattern (oneOf words))
    (free : ∀ word ∈ words, ∀ word' ∈ words, word.toList <+: word'.toList → word = word') : Unique pattern := by
  intro place later other reads reads'
  obtain ⟨_,⟨word,member,rfl⟩,moved⟩ := spells.reads.mp reads
  obtain ⟨_,⟨word',member',rfl⟩,moved'⟩ := spells.reads.mp reads'
  obtain start | start := List.prefix_or_prefix_of_prefix moved.start moved'.start
  · obtain rfl := free word member word' member' start
    exact moved.unique moved'
  · obtain rfl := free word' member' word member start
    exact moved.unique moved'

theorem group {name : String} {groups : List (String × List Char)} (spells : Spells inner language) :
    Reads (.group name inner) ⟨before,text,groups⟩ later ↔
      ∃ word ∈ language, ∃ back, text = word ++ back ∧ later = ⟨word.reverse ++ before,back,(name,word) :: groups⟩ := by
  have captured : ∀ word back : List Char, (word ++ back).take ((word ++ back).length - back.length) = word := by simp
  constructor
  · intro reads
    obtain ⟨⟩ := reads
    rename_i between read
    obtain ⟨word,member,moved⟩ := spells.reads.mp read
    obtain ⟨back,rfl⟩ : ∃ back, text = word ++ back := ⟨_,moved.rest⟩
    obtain rfl := moved.unique (show Over word ⟨before,word ++ back,groups⟩ ⟨word.reverse ++ before,back,groups⟩ from ⟨rfl,rfl,rfl⟩)
    exact ⟨word,member,back,rfl,by rw [captured]⟩
  · rintro ⟨word,member,back,rfl,rfl⟩
    have read : Reads inner ⟨before,word ++ back,groups⟩ ⟨word.reverse ++ before,back,groups⟩ :=
      spells.reads.mpr ⟨word,member,⟨rfl,rfl,rfl⟩⟩
    have whole := @Reads.group name _ _ _ read
    rwa [captured] at whole

end Spells

/-- A repeated letter and then a word whose first letter comes only once: a later end leaves less. -/
theorem Longest.tail {language : Language Char} (spells : Spells second language) (right : Longest second) (advancing : Advancing second) {mark : Char}
    (headed : ∀ word ∈ language, ∃ tail, word = mark :: tail ∧ mark ∉ tail) : Longest (.seq (.star (.char accepts)) second) := by
  refine star_char.seq right advancing fun {place between between' later later'} read read' most ended ended' => ?_
  obtain ⟨word,-,moved⟩ := Spells.star_char.reads.mp read
  obtain ⟨word',-,moved'⟩ := Spells.star_char.reads.mp read'
  obtain ⟨last,member,left⟩ := spells.reads.mp ended
  obtain ⟨last',member',left'⟩ := spells.reads.mp ended'
  obtain ⟨tail,rfl,once⟩ := headed last member
  obtain ⟨tail',rfl,-⟩ := headed last' member'
  have shorter : word.length ≤ word'.length := by
    have lengths := congrArg List.length (moved.rest.symm.trans moved'.rest)
    rw [List.length_append,List.length_append] at lengths
    omega
  obtain ⟨middle,rfl⟩ := List.prefix_of_prefix_length_le moved.start moved'.start shorter
  obtain ⟨start,moved_,onward⟩ := moved'.split
  obtain rfl := moved.unique moved_
  cases middle with
  | nil => exact .inl (onward.unique ⟨rfl,rfl,rfl⟩).symm
  | cons c middle =>
    refine .inr (Nat.le_of_not_lt fun longer => once ?_)
    have whole := onward.trans left'
    have lengths := congrArg List.length (left.rest.symm.trans whole.rest)
    rw [List.length_append,List.length_append] at lengths
    obtain ⟨more,same⟩ := List.prefix_of_prefix_length_le whole.start left.start (by omega)
    rw [← (List.cons.inj same).2]
    simp

variable {front back : List Char}

theorem search_none (advancing : Advancing pattern) (missed : pattern.search before text = none) (split : text = front ++ back) :
    Fails pattern ⟨front.reverse ++ before,back,[]⟩ := by
  induction text generalizing before front with
  | nil =>
    obtain ⟨rfl,rfl⟩ := List.append_eq_nil_iff.mp split.symm
    exact fun later reads => run_complete advancing reads (Option.some_ne_none later) missed
  | cons c text ih =>
    obtain ⟨here,later_⟩ := Option.or_eq_none_iff.mp missed
    cases front with
    | nil =>
      obtain rfl : c :: text = back := split
      exact fun later reads => run_complete advancing reads (Option.some_ne_none later) here
    | cons d front =>
      obtain ⟨rfl,rest⟩ := List.cons.inj split
      rw [List.reverse_cons,List.append_assoc]
      exact ih later_ rest

/-- The reading at the first place of a text there is one at, and the longest there. -/
def Foremost (pattern : Pattern) (before text : List Char) (result : Place) : Prop :=
  ∃ front back, text = front ++ back ∧ Reads pattern ⟨front.reverse ++ before,back,[]⟩ result ∧
    ∀ front' back' other, text = front' ++ back' → Reads pattern ⟨front'.reverse ++ before,back',[]⟩ other →
      front.length < front'.length ∨ front.length = front'.length ∧ result.rest.length ≤ other.rest.length

theorem search_foremost (longest : Longest pattern) (advancing : Advancing pattern) (found : pattern.search before text = some result) :
    Foremost pattern before text result := by
  have here : ∀ {before text : List Char}, pattern.run ⟨before,text,[]⟩ some = some result → Foremost pattern before text result := by
    intro before text found
    obtain ⟨later,reads,same,most⟩ := longest.settles found
    obtain rfl := Option.some.inj same
    refine ⟨[],text,rfl,reads,fun front' back' other split reads' => ?_⟩
    cases front' with
    | nil =>
      obtain rfl : text = back' := split
      exact .inr ⟨rfl,most other reads' (Option.some_ne_none other)⟩
    | cons => exact .inl (Nat.succ_pos _)
  induction text generalizing before with
  | nil => exact here found
  | cons c text ih =>
    obtain found | ⟨missed,found⟩ := Option.or_eq_some_iff.mp found
    · exact here found
    · obtain ⟨front,back,rfl,reads,most⟩ := ih found
      refine ⟨c :: front,back,rfl,by rwa [List.reverse_cons,List.append_assoc],fun front' back' other split reads' => ?_⟩
      cases front' with
      | nil =>
        obtain rfl : c :: (front ++ back) = back' := split
        exact absurd missed (run_complete advancing reads' (Option.some_ne_none other))
      | cons d front' =>
        obtain ⟨rfl,rest⟩ := List.cons.inj split
        rw [List.reverse_cons,List.append_assoc] at reads'
        obtain further | ⟨same,less⟩ := most front' back' other rest reads'
        · exact .inl (Nat.succ_lt_succ further)
        · exact .inr ⟨congrArg Nat.succ same,less⟩

end Regex
