import GmsRemoteTest.Lib.Regex

/-! Patterns with counted repetitions, and `pattern.sub(text, …)`. What a search captures, and what a substitution leaves, was in the text. -/
namespace Regex
open Pattern

namespace Pattern

def times (count : ℕ) (pattern : Pattern) : Pattern := seqs (List.replicate count pattern)

def atLeast (count : ℕ) (pattern : Pattern) : Pattern := .seq (times count pattern) (.star pattern)

def upTo : ℕ → Pattern → Pattern
  | 0, _ => .empty
  | count + 1, pattern => optional (.seq pattern (upTo count pattern))

def between (least most : ℕ) (pattern : Pattern) : Pattern := .seq (times least pattern) (upTo (most - least) pattern)

def alts : List Pattern → Pattern
  | [] => .empty
  | [last] => last
  | first :: rest => .alt first (alts rest)

def subFrom (pattern : Pattern) (by_ : List Char) : ℕ → List Char → List Char → List Char
  | turns + 1, before, c :: rest => match pattern.run ⟨before,c :: rest,[]⟩ some with
    | some later =>
      if later.rest.length ≤ rest.length then by_ ++ subFrom pattern by_ turns later.before later.rest
      else c :: subFrom pattern by_ turns (c :: before) rest
    | none => c :: subFrom pattern by_ turns (c :: before) rest
  | _, _, rest => rest

def sub (pattern : Pattern) (by_ : List Char) (text : List Char) : List Char := subFrom pattern by_ text.length [] text

end Pattern

variable {pattern : Pattern} {place later : Place}

theorem Reads.mem (reads : Reads pattern place later) {c : Char} (member : c ∈ later.rest) : c ∈ place.rest := by
  obtain ⟨text,same⟩ := reads.forward
  rw [same]
  exact List.mem_append_right _ member

theorem Reads.captured (reads : Reads pattern place later) {text : List Char} (within : ∀ c ∈ place.rest, c ∈ text)
    (before : ∀ group ∈ place.groups, ∀ c ∈ group.2, c ∈ text) : ∀ group ∈ later.groups, ∀ c ∈ group.2, c ∈ text := by
  induction reads with
  | empty | char | stop | assertion => exact before
  | seq left _ first second | more left _ first second => exact second (fun c member => within c (left.mem member)) (first within before)
  | left _ ih | right _ ih => exact ih within before
  | group _ ih =>
    intro group member
    obtain rfl | earlier := List.mem_cons.mp member
    · exact fun c held => within c (List.mem_of_mem_take held)
    · exact ih within before group earlier

theorem search_captured {before text : List Char} (found : pattern.search before text = some later) :
    ∀ group ∈ later.groups, ∀ c ∈ group.2, c ∈ text := by
  have here : ∀ {before rest : List Char} {later : Place}, pattern.run ⟨before,rest,[]⟩ some = some later →
      ∀ group ∈ later.groups, ∀ c ∈ group.2, c ∈ rest := by
    intro before rest later found
    obtain ⟨result,reads,same⟩ := run_reads found
    obtain rfl := Option.some.inj same
    exact reads.captured (fun _ member => member) fun _ member => (List.not_mem_nil member).elim
  induction text generalizing before with
  | nil => exact here found
  | cons c rest ih =>
    obtain first | ⟨-,found⟩ := Option.or_eq_some_iff.mp found
    · exact here first
    · exact fun group member c held => List.mem_cons_of_mem _ (ih found group member c held)

theorem mem_sub {by_ text : List Char} {c : Char} (member : c ∈ pattern.sub by_ text) : c ∈ by_ ∨ c ∈ text := by
  have every : ∀ turns {before rest : List Char}, c ∈ pattern.subFrom by_ turns before rest → c ∈ by_ ∨ c ∈ rest := by
    intro turns
    induction turns with
    | zero => exact fun member => .inr member
    | succ turns ih =>
      intro before rest member
      cases rest with
      | nil => cases member
      | cons first rest =>
        have kept : c ∈ first :: pattern.subFrom by_ turns (first :: before) rest → c ∈ by_ ∨ c ∈ first :: rest := by
          intro member
          obtain rfl | later := List.mem_cons.mp member
          · exact .inr List.mem_cons_self
          · exact (ih later).imp_right (List.mem_cons_of_mem _)
        unfold subFrom at member
        split at member
        · rename_i later found
          split at member
          · obtain new | old := List.mem_append.mp member
            · exact .inl new
            · obtain ⟨result,reads,same⟩ := run_reads found
              obtain rfl := Option.some.inj same
              exact (ih old).imp_right reads.mem
          · exact kept member
        · exact kept member
  exact every text.length member

end Regex
