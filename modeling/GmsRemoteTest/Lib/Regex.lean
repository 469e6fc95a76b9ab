import Mathlib.Data.List.Basic

/-! Regular expressions as a backtracking engine tries them: alternatives in their order, repetitions greedily, and the first success counts.
`Takes` follows the path that is tried first, `Reads` all the paths there are. -/
namespace Regex

structure Place where
  before : List Char := []
  rest : List Char
  groups : List (String × List Char) := []

inductive Pattern
  | empty
  | char (accepts : Char → Bool)
  | seq (first second : Pattern)
  | alt (first second : Pattern)
  | star (inner : Pattern)
  | group (name : String) (inner : Pattern)
  | assertion (holds : List Char → List Char → Bool)

def repeated (inner : Place → (Place → Option Place) → Option Place) (next : Place → Option Place) : Nat → Place → Option Place
  | 0, place => next place
  | turns + 1, place =>
    (inner place fun later => if later.rest.length < place.rest.length then repeated inner next turns later else none).or (next place)

/-- The first success of a pattern and what comes next. -/
def Pattern.run : Pattern → Place → (Place → Option Place) → Option Place
  | .empty, place, next => next place
  | .char accepts, place, next => match place.rest with
    | [] => none
    | c :: rest => if accepts c then next ⟨c :: place.before,rest,place.groups⟩ else none
  | .seq first second, place, next => first.run place fun later => second.run later next
  | .alt first second, place, next => (first.run place next).or (second.run place next)
  | .star inner, place, next => repeated inner.run next place.rest.length place
  | .group name inner, place, next => inner.run place fun later =>
    next {later with groups := (name,place.rest.take (place.rest.length - later.rest.length)) :: later.groups}
  | .assertion holds, place, next => if holds place.before place.rest then next place else none

section
variable {inner first second : Pattern} {place : Place} {next : Place → Option Place}

theorem repeated_succ {run : Place → (Place → Option Place) → Option Place} {turns : ℕ} : repeated run next (turns + 1) place =
    (run place fun later => if later.rest.length < place.rest.length then repeated run next turns later else none).or (next place) := rfl

theorem run_char {accepts : Char → Bool} {before rest : List Char} {groups : List (String × List Char)} {c : Char} :
    (Pattern.char accepts).run ⟨before,c :: rest,groups⟩ next = if accepts c then next ⟨c :: before,rest,groups⟩ else none := rfl

theorem run_alt : (Pattern.alt first second).run place next = (first.run place next).or (second.run place next) := rfl

theorem run_star : (Pattern.star inner).run place next = repeated inner.run next place.rest.length place := rfl

theorem run_group {name : String} : (Pattern.group name inner).run place next = inner.run place fun later =>
    next {later with groups := (name,place.rest.take (place.rest.length - later.rest.length)) :: later.groups} := rfl

theorem run_assertion {holds : List Char → List Char → Bool} :
    (Pattern.assertion holds).run place next = if holds place.before place.rest then next place else none := rfl

end

namespace Pattern

def seqs : List Pattern → Pattern
  | [] => .empty
  | first :: rest => .seq first (seqs rest)

def plus (inner : Pattern) : Pattern := .seq inner (.star inner)

def optional (inner : Pattern) : Pattern := .alt inner .empty

def only (c : Char) : Pattern := .char (· = c)

def literal (text : String) : Pattern := seqs (text.toList.map only)

def matchStart (pattern : Pattern) (text : List Char) : Option Place := pattern.run ⟨[],text,[]⟩ some

def search (pattern : Pattern) (before : List Char) : List Char → Option Place
  | [] => pattern.run ⟨before,[],[]⟩ some
  | c :: rest => (pattern.run ⟨before,c :: rest,[]⟩ some).or (pattern.search (c :: before) rest)

end Pattern

open Pattern

inductive Reads : Pattern → Place → Place → Prop
  | empty (place : Place) : Reads .empty place place
  | char {accepts : Char → Bool} {before rest : List Char} {groups : List (String × List Char)} {c : Char} (accepted : accepts c = true) :
      Reads (.char accepts) ⟨before,c :: rest,groups⟩ ⟨c :: before,rest,groups⟩
  | seq {first second : Pattern} {place between later : Place} (left : Reads first place between) (right : Reads second between later) :
      Reads (.seq first second) place later
  | left {first second : Pattern} {place later : Place} (inner : Reads first place later) : Reads (.alt first second) place later
  | right {first second : Pattern} {place later : Place} (inner : Reads second place later) : Reads (.alt first second) place later
  | stop {inner : Pattern} (place : Place) : Reads (.star inner) place place
  | more {inner : Pattern} {place between later : Place} (first : Reads inner place between) (rest : Reads (.star inner) between later) :
      Reads (.star inner) place later
  | group {name : String} {inner : Pattern} {place later : Place} (read : Reads inner place later) :
      Reads (.group name inner) place
        {later with groups := (name,place.rest.take (place.rest.length - later.rest.length)) :: later.groups}
  | assertion {holds : List Char → List Char → Bool} {place : Place} (held : holds place.before place.rest = true) :
      Reads (.assertion holds) place place

variable {pattern first second inner : Pattern} {place between later : Place} {next : Place → Option Place} {result : Place}

theorem repeated_reads (sound : ∀ {place : Place} {next : Place → Option Place}, inner.run place next = some result →
      ∃ later, Reads inner place later ∧ next later = some result) {turns : Nat}
    (found : repeated inner.run next turns place = some result) : ∃ later, Reads (.star inner) place later ∧ next later = some result := by
  induction turns generalizing place with
  | zero => exact ⟨place,.stop place,found⟩
  | succ turns ih =>
    rw [repeated_succ] at found
    obtain again | ⟨_,ended⟩ := Option.or_eq_some_iff.mp found
    · obtain ⟨between,read,again⟩ := sound again
      split at again
      · obtain ⟨later,reads,ended⟩ := ih again
        exact ⟨later,.more read reads,ended⟩
      · cases again
    · exact ⟨place,.stop place,ended⟩

theorem run_reads (found : pattern.run place next = some result) : ∃ later, Reads pattern place later ∧ next later = some result := by
  induction pattern generalizing place next with
  | empty => exact ⟨place,.empty place,found⟩
  | char accepts =>
    obtain ⟨before,rest,groups⟩ := place
    cases rest with
    | nil => cases found
    | cons c rest =>
      rw [run_char] at found
      split at found
      · rename_i accepted
        exact ⟨_,.char accepted,found⟩
      · cases found
  | seq first second left right =>
    obtain ⟨between,read,found⟩ := left found
    obtain ⟨later,reads,ended⟩ := right found
    exact ⟨later,.seq read reads,ended⟩
  | alt first second left right =>
    obtain found | ⟨_,found⟩ := Option.or_eq_some_iff.mp found
    · obtain ⟨later,read,ended⟩ := left found
      exact ⟨later,.left read,ended⟩
    · obtain ⟨later,read,ended⟩ := right found
      exact ⟨later,.right read,ended⟩
  | star inner ih => exact repeated_reads ih found
  | group name inner ih =>
    obtain ⟨later,read,ended⟩ := ih found
    exact ⟨_,.group read,ended⟩
  | assertion holds =>
    rw [run_assertion] at found
    split at found
    · rename_i held
      exact ⟨place,.assertion held,found⟩
    · cases found

theorem Reads.forward (reads : Reads pattern place later) : ∃ text, place.rest = text ++ later.rest := by
  induction reads with
  | empty | stop | assertion => exact ⟨[],rfl⟩
  | @char _ _ _ _ c => exact ⟨[c],rfl⟩
  | seq _ _ left right | more _ _ left right =>
    obtain ⟨before,same⟩ := left
    obtain ⟨after,same'⟩ := right
    exact ⟨before ++ after,by rw [same,same',List.append_assoc]⟩
  | left _ ih | right _ ih | group _ ih => exact ih

theorem reads_seq : Reads (.seq first second) place later ↔ ∃ between, Reads first place between ∧ Reads second between later := by
  constructor
  · rintro ⟨⟩
    exact ⟨_,‹_›,‹_›⟩
  · rintro ⟨between,left,right⟩
    exact .seq left right

theorem reads_char {accepts : Char → Bool} (reads : Reads (.char accepts) place later) :
    ∃ c, place.rest = c :: later.rest ∧ accepts c = true := by
  cases reads with
  | @char _ _ _ _ c accepted => exact ⟨c,rfl,accepted⟩

theorem reads_star_char {accepts : Char → Bool} (reads : Reads (.star (.char accepts)) place later) :
    ∃ text, place.rest = text ++ later.rest ∧ ∀ c ∈ text, accepts c = true := by
  generalize shape : Pattern.star (.char accepts) = pattern at reads
  induction reads with
  | stop => exact ⟨[],rfl,fun _ member => (List.not_mem_nil member).elim⟩
  | more first _ _ ih =>
    cases shape
    obtain ⟨c,start,accepted⟩ := reads_char first
    obtain ⟨text,rest,all⟩ := ih rfl
    refine ⟨c :: text,by rw [start,rest]; rfl,fun other member => ?_⟩
    obtain rfl | member := List.mem_cons.mp member
    · exact accepted
    · exact all other member
  | _ => cases shape

def Takes (pattern : Pattern) (place later : Place) : Prop :=
  ∀ (next : Place → Option Place) (result : Place), next later = some result → pattern.run place next = some result

/-- A pattern leads nowhere. -/
def Fails (pattern : Pattern) (place : Place) : Prop := ∀ later, ¬Reads pattern place later

theorem Fails.run (fails : Fails pattern place) (next : Place → Option Place) : pattern.run place next = none := by
  cases found : pattern.run place next with
  | none => rfl
  | some result =>
    obtain ⟨later,reads,_⟩ := run_reads found
    exact absurd reads (fails later)

theorem repeated_turns {turns others : Nat} (enough : place.rest.length ≤ turns) (enough' : place.rest.length ≤ others) :
    repeated inner.run next turns place = repeated inner.run next others place := by
  have none_ : ∀ {place : Place}, place.rest.length = 0 → ∀ turns, repeated inner.run next turns place = next place := by
    intro place short turns
    cases turns with
    | zero => rfl
    | succ turns =>
      rw [repeated_succ]
      cases found : inner.run place _ with
      | none => rfl
      | some result =>
        obtain ⟨later,_,ended⟩ := run_reads found
        rw [if_neg (by omega)] at ended
        cases ended
  induction turns generalizing place others with
  | zero => rw [none_ (by omega),none_ (by omega)]
  | succ turns ih =>
    cases others with
    | zero => rw [none_ (by omega),none_ (by omega)]
    | succ others =>
      rw [repeated_succ,repeated_succ]
      refine congrArg (fun continue_ => (inner.run place continue_).or (next place)) (funext fun later => ?_)
      split
      · exact ih (by omega) (by omega)
      · rfl

namespace Takes

theorem empty (place : Place) : Takes .empty place place := fun _ _ found => found

theorem char {accepts : Char → Bool} {before rest : List Char} {groups : List (String × List Char)} {c : Char} (accepted : accepts c = true) :
    Takes (.char accepts) ⟨before,c :: rest,groups⟩ ⟨c :: before,rest,groups⟩ := by
  intro next result found
  rw [run_char,if_pos accepted,found]

theorem seq (left : Takes first place between) (right : Takes second between later) : Takes (.seq first second) place later :=
  fun next result found => left _ result (right next result found)

theorem left (inner : Takes first place later) : Takes (.alt first second) place later := by
  intro next result found
  rw [run_alt,inner next result found,Option.some_or]

theorem right (fails : Fails first place) (inner : Takes second place later) : Takes (.alt first second) place later := by
  intro next result found
  rw [run_alt,fails.run,Option.none_or,inner next result found]

theorem assertion {holds : List Char → List Char → Bool} (held : holds place.before place.rest = true) :
    Takes (.assertion holds) place place := by
  intro next result found
  rw [run_assertion,if_pos held,found]

theorem stop (fails : Fails inner place) : Takes (.star inner) place place := by
  intro next result found
  rw [run_star]
  cases place.rest.length with
  | zero => exact found
  | succ turns => rw [repeated_succ,fails.run,Option.none_or,found]

theorem more (reads : Takes inner place between) (forward : between.rest.length < place.rest.length) (rest : Takes (.star inner) between later) :
    Takes (.star inner) place later := by
  intro next result found
  obtain ⟨turns,length⟩ : ∃ turns, place.rest.length = turns + 1 := ⟨place.rest.length - 1,by omega⟩
  rw [run_star,length,repeated_succ]
  have first : inner.run place (fun later => if later.rest.length < place.rest.length then repeated inner.run next turns later else none) =
      some result := by
    refine reads _ result ?_
    rw [if_pos forward,repeated_turns (show between.rest.length ≤ turns by omega) (Nat.le_refl _)]
    exact rest next result found
  rw [first,Option.some_or]

theorem group {name : String} {before text rest : List Char} {groups groups' : List (String × List Char)}
    (inner_ : Takes inner ⟨before,text ++ rest,groups⟩ ⟨text.reverse ++ before,rest,groups'⟩) :
    Takes (.group name inner) ⟨before,text ++ rest,groups⟩ ⟨text.reverse ++ before,rest,(name,text) :: groups'⟩ := by
  intro next result found
  rw [run_group]
  refine inner_ _ result ?_
  have length : (text ++ rest).length - rest.length = text.length := by rw [List.length_append]; omega
  rw [length,List.take_left]
  exact found

end Takes

variable {accepts : Char → Bool} {before text rest : List Char} {groups : List (String × List Char)}

theorem fails_char (rejected : ∀ c, rest.head? = some c → accepts c = false) : Fails (.char accepts) ⟨before,rest,groups⟩ := by
  intro later reads
  obtain ⟨c,start,accepted⟩ := reads_char reads
  dsimp only at start
  rw [rejected c (by rw [start]; rfl)] at accepted
  cases accepted

theorem Fails.seq (fails : Fails first place) : Fails (.seq first second) place := by
  intro later reads
  obtain ⟨between,left,_⟩ := reads_seq.mp reads
  exact fails between left

theorem Takes.star_char (all : ∀ c ∈ text, accepts c = true) (rejected : ∀ c, rest.head? = some c → accepts c = false) :
    Takes (.star (.char accepts)) ⟨before,text ++ rest,groups⟩ ⟨text.reverse ++ before,rest,groups⟩ := by
  induction text generalizing before with
  | nil => exact .stop (fails_char rejected)
  | cons c text ih =>
    rw [List.reverse_cons,List.append_assoc]
    exact .more (.char (all c List.mem_cons_self)) (Nat.lt_succ_self _) (ih fun other member => all other (List.mem_cons_of_mem _ member))

theorem Takes.plus_char (some_ : text ≠ []) (all : ∀ c ∈ text, accepts c = true) (rejected : ∀ c, rest.head? = some c → accepts c = false) :
    Takes (plus (.char accepts)) ⟨before,text ++ rest,groups⟩ ⟨text.reverse ++ before,rest,groups⟩ := by
  obtain ⟨c,text,rfl⟩ := List.exists_cons_of_ne_nil some_
  rw [List.reverse_cons,List.append_assoc]
  exact .seq (.char (all c List.mem_cons_self)) (.star_char (fun other member => all other (List.mem_cons_of_mem _ member)) rejected)

theorem Takes.only (c : Char) : Takes (only c) ⟨before,c :: rest,groups⟩ ⟨c :: before,rest,groups⟩ := .char (decide_eq_true rfl)

theorem Takes.literal (word : String) :
    Takes (literal word) ⟨before,word.toList ++ rest,groups⟩ ⟨word.toList.reverse ++ before,rest,groups⟩ := by
  unfold Pattern.literal
  induction word.toList generalizing before with
  | nil => exact .empty _
  | cons c chars ih =>
    rw [List.reverse_cons,List.append_assoc]
    exact .seq (.only c) ih

theorem fails_only {c : Char} (other : rest.head? ≠ some c) : Fails (only c) ⟨before,rest,groups⟩ :=
  fails_char fun _ head => decide_eq_false fun same => other (head.trans (congrArg some same))

theorem matchStart_eq (takes : Takes pattern ⟨[],text,[]⟩ later) : pattern.matchStart text = some later := takes some later rfl

theorem matchStart_none (fails : Fails pattern ⟨[],text,[]⟩) : pattern.matchStart text = none := fails.run some

theorem search_eq (takes : Takes pattern ⟨before,text,[]⟩ later) : pattern.search before text = some later := by
  cases text with
  | nil => exact takes some later rfl
  | cons c text =>
    unfold search
    rw [takes some later rfl,Option.some_or]

theorem search_skip {skipped : List Char} (fails : ∀ front c back, skipped = front ++ c :: back →
      Fails pattern ⟨front.reverse ++ before,c :: (back ++ rest),[]⟩) :
    pattern.search before (skipped ++ rest) = pattern.search (skipped.reverse ++ before) rest := by
  induction skipped generalizing before with
  | nil => rfl
  | cons c skipped ih =>
    have here : Fails pattern ⟨before,c :: (skipped ++ rest),[]⟩ := fails [] c skipped rfl
    rw [List.cons_append,List.reverse_cons,List.append_assoc,search,here.run some,Option.none_or]
    refine ih fun front d back same => ?_
    have there := fails (c :: front) d back (by rw [same]; rfl)
    rwa [List.reverse_cons,List.append_assoc] at there

end Regex
