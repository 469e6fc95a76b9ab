import Mathlib.Data.List.TakeWhile

/-! POSIX paths as text: how they are joined and normalised, and when two of them are one. -/
namespace GmsRemoteTest.PosixPath

abbrev Text := List Char

def Rooted (path : Text) : Prop := path.head? = some '/'

instance (path : Text) : Decidable (Rooted path) := inferInstanceAs (Decidable (_ = _))

def join (base path : Text) : Text :=
  if Rooted path then path else if base = [] ∨ base.getLast? = some '/' then base ++ path else base ++ '/' :: path

def leading (path : Text) : ℕ :=
  let slashes := (path.takeWhile (· = '/')).length
  if slashes = 2 then 2 else min slashes 1

def step (rooted : Bool) (stack : List Text) (part : Text) : List Text :=
  if part = [] ∨ part = ['.'] then stack
  else if part ≠ ['.','.'] ∨ (rooted = false ∧ stack = []) ∨ stack.getLast? = some ['.','.'] then stack ++ [part]
  else stack.dropLast

def walk (rooted : Bool) (stack : List Text) (path : Text) : List Text := (path.splitOn '/').foldl (step rooted) stack

def render (slashes : ℕ) (parts : List Text) : Text := List.replicate slashes '/' ++ ['/'].intercalate parts

def place (path : Text) : ℕ × List Text := (leading path,walk (leading path ≠ 0) [] path)

def normpath (path : Text) : Text :=
  if path = [] then ['.'] else
    let text := render (place path).1 (place path).2
    if text = [] then ['.'] else text

def abspath (cwd path : Text) : Text := normpath (join cwd path)

example : abspath "/srv".toList "a//b/./../c".toList = "/srv/a/c".toList := by decide

/-- What a component may be. -/
def Named (part : Text) : Prop := part ≠ [] ∧ '/' ∉ part ∧ part ≠ ['.']

theorem splitOn_slashless (path : Text) : ∀ part ∈ path.splitOn '/', '/' ∉ part := by
  induction path with
  | nil =>
    intro part member
    rw [List.splitOn_nil] at member
    rw [List.mem_singleton.mp member]
    exact List.not_mem_nil
  | cons c rest ih =>
    intro part member
    rw [List.splitOn_cons_eq_if_modifyHead] at member
    split at member
    · obtain rfl | later := List.mem_cons.mp member
      · exact List.not_mem_nil
      · exact ih part later
    · rename_i other
      cases first : rest.splitOn '/' with
      | nil => exact absurd first (List.splitOn_ne_nil _ _)
      | cons head tail =>
        rw [first,List.modifyHead_cons] at member
        obtain rfl | later := List.mem_cons.mp member
        · intro slash
          obtain here | there := List.mem_cons.mp slash
          · exact other (beq_iff_eq.mpr here.symm)
          · exact ih head (by rw [first]; exact List.mem_cons_self) there
        · exact ih part (by rw [first]; exact List.mem_cons_of_mem _ later)

theorem step_named {rooted : Bool} {stack : List Text} {part : Text} (slashless : '/' ∉ part) (named : ∀ part ∈ stack, Named part) :
    ∀ other ∈ step rooted stack part, Named other := by
  intro other member
  unfold step at member
  split at member
  · exact named other member
  · rename_i something
    rw [not_or] at something
    split at member
    · obtain old | new := List.mem_append.mp member
      · exact named other old
      · rw [List.mem_singleton.mp new]
        exact ⟨something.1,slashless,something.2⟩
    · exact named other (List.dropLast_subset _ member)

theorem walk_named {rooted : Bool} {stack : List Text} (path : Text) (named : ∀ part ∈ stack, Named part) :
    ∀ part ∈ walk rooted stack path, Named part := by
  unfold walk
  have slashless := splitOn_slashless path
  generalize path.splitOn '/' = parts at slashless
  induction parts generalizing stack with
  | nil => exact named
  | cons part parts ih =>
    exact ih (step_named (slashless part List.mem_cons_self) named) fun other member => slashless other (List.mem_cons_of_mem _ member)

theorem place_named (path : Text) : ∀ part ∈ (place path).2, Named part := walk_named path fun _ => nofun

theorem walk_slash (rooted : Bool) (stack : List Text) (first second : Text) :
    walk rooted stack (first ++ '/' :: second) = walk rooted (walk rooted stack first) second := by
  unfold walk
  rw [List.splitOn_append_cons_self,List.foldl_append]

@[simp] theorem walk_nil (rooted : Bool) (stack : List Text) : walk rooted stack [] = stack := rfl

theorem intercalate_head {parts : List Text} (named : ∀ part ∈ parts, Named part) : ¬Rooted (['/'].intercalate parts) := by
  cases parts with
  | nil => exact nofun
  | cons part parts =>
    obtain ⟨nonempty,slashless,_⟩ := named part List.mem_cons_self
    cases part with
    | nil => exact absurd rfl nonempty
    | cons c rest =>
      have other : c ≠ '/' := fun same => slashless (same ▸ List.mem_cons_self)
      cases parts with
      | nil => simpa [Rooted,List.intercalate_singleton] using other
      | cons next parts => simpa [Rooted,List.intercalate_cons_cons] using other

theorem intercalate_inj {first second : List Text} (one : ∀ part ∈ first, Named part) (two : ∀ part ∈ second, Named part)
    (same : ['/'].intercalate first = ['/'].intercalate second) : first = second := by
  have nothing : ∀ parts : List Text, (∀ part ∈ parts, Named part) → ['/'].intercalate parts = [] → parts = [] := by
    intro parts named empty
    cases parts with
    | nil => rfl
    | cons part parts =>
      obtain ⟨nonempty,_⟩ := named part List.mem_cons_self
      cases parts with
      | nil => exact absurd (List.intercalate_singleton.symm.trans empty) nonempty
      | cons next parts => simp [List.intercalate_cons_cons] at empty
  by_cases none_ : first = []
  · subst none_
    exact (nothing second two same.symm).symm
  · by_cases none' : second = []
    · subst none'
      exact nothing first one same
    · rw [← List.splitOn_intercalate '/' (fun part member => (one part member).2.1) none_,same,
        List.splitOn_intercalate '/' (fun part member => (two part member).2.1) none']

theorem slashes_inj {m n : ℕ} {first second : Text} (one : ¬Rooted first) (two : ¬Rooted second)
    (same : List.replicate m '/' ++ first = List.replicate n '/' ++ second) : m = n ∧ first = second := by
  induction m generalizing n with
  | zero =>
    cases n with
    | zero => exact ⟨rfl,same⟩
    | succ n =>
      refine absurd ?_ one
      rw [show first = _ from same]
      rfl
  | succ m ih =>
    cases n with
    | zero =>
      refine absurd ?_ two
      rw [show second = _ from same.symm]
      rfl
    | succ n =>
      obtain ⟨counts,rest⟩ := ih (List.cons.inj same).2
      exact ⟨congrArg _ counts,rest⟩

theorem render_inj {m n : ℕ} {first second : List Text} (one : ∀ part ∈ first, Named part) (two : ∀ part ∈ second, Named part)
    (same : render m first = render n second) : m = n ∧ first = second := by
  obtain ⟨counts,rest⟩ := slashes_inj (intercalate_head one) (intercalate_head two) same
  exact ⟨counts,intercalate_inj one two rest⟩

theorem normpath_eq (path : Text) : normpath path =
    if render (place path).1 (place path).2 = [] then ['.'] else render (place path).1 (place path).2 := by
  unfold normpath
  by_cases empty : path = []
  · subst empty
    rfl
  · rw [if_neg empty]

theorem render_ne_dot {slashes : ℕ} {parts : List Text} (named : ∀ part ∈ parts, Named part) : render slashes parts ≠ ['.'] := by
  intro dot
  have alone : render slashes parts = List.replicate 0 '/' ++ ['.'] := dot
  have rest := (slashes_inj (intercalate_head named) (by decide) alone).2
  have part : parts = [['.']] := by
    have split := congrArg (List.splitOn '/') rest
    rw [List.splitOn_intercalate '/' fun part member => (named part member).2.1] at split
    · exact split
    · rintro rfl
      exact nomatch rest
  subst part
  exact (named _ List.mem_cons_self).2.2 rfl

theorem normpath_inj {first second : Text} : normpath first = normpath second ↔ place first = place second := by
  refine ⟨fun same => ?_,fun same => by rw [normpath_eq,normpath_eq,same]⟩
  rw [normpath_eq,normpath_eq] at same
  have texts : render (place first).1 (place first).2 = render (place second).1 (place second).2 := by
    split_ifs at same with none_ none' none'
    · rw [none_,none']
    · exact absurd same.symm (render_ne_dot (place_named second))
    · exact absurd same (render_ne_dot (place_named first))
    · exact same
  obtain ⟨slashes,parts⟩ := render_inj (place_named first) (place_named second) texts
  exact Prod.ext slashes parts

section
variable {base path : Text}

theorem rooted_append (some_ : base ≠ []) : Rooted (base ++ path) ↔ Rooted base := by
  cases base with
  | nil => exact absurd rfl some_
  | cons c rest => rfl

theorem join_rooted (rooted : Rooted path) : join base path = path := if_pos rooted

theorem join_relative (relative : ¬Rooted path) :
    join base path = if base = [] ∨ base.getLast? = some '/' then base ++ path else base ++ '/' :: path := if_neg relative

theorem leading_append (ends : ¬Rooted path ∨ base ≠ [] ∧ base.getLast? ≠ some '/') : leading (base ++ path) = leading base := by
  have same : (base ++ path).takeWhile (· = '/') = base.takeWhile (· = '/') := by
    rw [List.takeWhile_append]
    split
    · rename_i all
      have whole : base.takeWhile (· = '/') = base := (List.takeWhile_prefix _).eq_of_length all
      obtain relative | ⟨some_,other⟩ := ends
      · have nothing : path.takeWhile (· = '/') = [] := by
          cases path with
          | nil => rfl
          | cons c rest => exact List.takeWhile_cons_of_neg (by simpa [Rooted] using relative)
        rw [nothing,List.append_nil,whole]
      · have slash := List.mem_takeWhile_imp (whole.symm ▸ List.getLast_mem some_ : base.getLast some_ ∈ base.takeWhile (· = '/'))
        exact absurd (List.getLast?_eq_some_getLast some_) (by rw [of_decide_eq_true slash]; exact other)
    · rfl
  unfold leading
  rw [same]

theorem place_join (relative : ¬Rooted path) :
    place (join base path) = (leading base,walk (leading base ≠ 0) (place base).2 path) := by
  rw [join_relative relative]
  by_cases empty : base = []
  · subst empty
    rw [if_pos (.inl rfl)]
    have none_ : leading path = 0 := @leading_append [] path (.inl relative)
    unfold place
    rw [List.nil_append,none_]
    rfl
  · by_cases slash : base.getLast? = some '/'
    · rw [if_pos (.inr slash)]
      obtain ⟨front,rfl⟩ := List.getLast?_eq_some_iff.mp slash
      unfold place
      rw [leading_append (.inl relative),List.append_assoc,List.singleton_append,walk_slash,walk_slash,walk_nil]
    · rw [if_neg (not_or.mpr ⟨empty,slash⟩)]
      unfold place
      rw [leading_append (.inr ⟨empty,slash⟩),walk_slash]

end

theorem join_assoc (first second third : Text) : join first (join second third) = join (join first second) third := by
  by_cases far : Rooted third
  · rw [join_rooted far,join_rooted far,join_rooted far]
  · by_cases near : Rooted second
    · have some_ : second ≠ [] := by
        rintro rfl
        exact nomatch near
      rw [join_rooted near]
      refine join_rooted ?_
      rw [join_relative far]
      split
      · exact (rooted_append some_).mpr near
      · exact (rooted_append some_).mpr near
    · by_cases empty : second = []
      · subst empty
        have inner : join [] third = third := (join_relative far).trans (if_pos (.inl rfl))
        rw [inner,join_relative near,join_relative far,join_relative far]
        by_cases open_ : first = [] ∨ first.getLast? = some '/'
        · rw [if_pos open_,if_pos open_,List.append_nil,if_pos open_]
        · rw [if_neg open_,if_neg open_,if_pos (.inr List.getLast?_concat),List.append_assoc,List.singleton_append]
      · have inner : ¬Rooted (join second third) := by
          rw [join_relative far]
          split
          · exact fun rooted => near ((rooted_append empty).mp rooted)
          · exact fun rooted => near ((rooted_append empty).mp rooted)
        have last : (join first second).getLast? = second.getLast? := by
          rw [join_relative near]
          split
          · rw [List.getLast?_append,List.getLast?_eq_some_getLast empty,Option.some_or]
          · rw [List.append_cons,List.getLast?_append,List.getLast?_eq_some_getLast empty,Option.some_or]
        have some_ : join first second ≠ [] := by
          rw [join_relative near]
          split
          · exact List.append_ne_nil_of_right_ne_nil _ empty
          · exact List.append_ne_nil_of_right_ne_nil _ (List.cons_ne_nil _ _)
        rw [join_relative inner,join_relative far,join_relative far,last]
        simp only [empty,some_,false_or]
        rw [join_relative near]
        split_ifs
        · rw [List.append_assoc]
        · rw [List.append_assoc]
        · rw [List.append_assoc,List.cons_append]
        · rw [List.append_assoc,List.cons_append]

end GmsRemoteTest.PosixPath
