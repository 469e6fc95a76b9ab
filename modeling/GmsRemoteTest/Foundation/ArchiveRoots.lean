import Mathlib.Data.List.Dedup
import GmsRemoteTest.Lib.PosixPath

/-! Where the members of an archive go when the directory that they share is taken away. -/
namespace GmsRemoteTest.ArchiveRoots
open PosixPath
open scoped List

/-- `name and not name.endswith('/')`. -/
def Plain (name : Text) : Prop := name ≠ [] ∧ name.getLast? ≠ some '/'

instance (name : Text) : Decidable (Plain name) := inferInstanceAs (Decidable (_ ∧ _))

def topLevels (names : List Text) : List Text :=
  ((names.filter fun name => Plain name ∧ '/' ∈ name).map fun name => name.takeWhile (· ≠ '/')).dedup

def commonRoot (names : List Text) : Option Text := match topLevels names with
  | [root] => some root
  | _ => none

def stripCommonArchiveRoot (names : List Text) : Text × List (Text × Text) := match commonRoot names with
  | some root =>
    let start := root ++ ['/']
    (root,(names.filter fun name => name ≠ root ∧ name ≠ start).map fun name =>
      (name,if start <+: name then name.drop start.length else name))
  | none => ([],names.map fun name => (name,name))

def safeExtractMemberPath (cwd baseDir memberName : Text) : Except Text Text :=
  let target := abspath cwd (join baseDir memberName)
  let base := abspath cwd baseDir
  if target ≠ base ∧ ¬(base ++ ['/']) <+: target then .error ("压缩包包含不安全路径: ".toList ++ memberName) else .ok target

def File (regular : Text → Prop) (name : Text) : Prop := regular name ∧ Plain name

/-- No file is left out, two files have two places inside the destination, and what is below the common root keeps its path. -/
structure Faithful (regular : Text → Prop) (cwd baseDir : Text) (names : List Text) : Prop where
  kept : ∀ name ∈ names, File regular name → ∃ target, (name,target) ∈ (stripCommonArchiveRoot names).2
  inside : ∀ pair ∈ (stripCommonArchiveRoot names).2, ∀ path, safeExtractMemberPath cwd baseDir pair.2 = .ok path →
    path = abspath cwd baseDir ∨ (abspath cwd baseDir ++ ['/']) <+: path
  apart : ∀ first ∈ (stripCommonArchiveRoot names).2, ∀ second ∈ (stripCommonArchiveRoot names).2, File regular first.1 → File regular second.1 →
    first.1 ≠ second.1 → ∀ path, safeExtractMemberPath cwd baseDir first.2 = .ok path → safeExtractMemberPath cwd baseDir second.2 ≠ .ok path
  below : ∀ root rest target, commonRoot names = some root → (root ++ '/' :: rest,target) ∈ (stripCommonArchiveRoot names).2 →
    File regular (root ++ '/' :: rest) → ∀ path, safeExtractMemberPath cwd baseDir target = .ok path →
      path = abspath cwd (join baseDir (rest.dropWhile (· = '/')))

def spot (cwd baseDir name : Text) : ℕ × List Text :=
  if Rooted name then place name
  else (leading (join cwd baseDir),walk (leading (join cwd baseDir) ≠ 0) (place (join cwd baseDir)).2 name)

def Accepted (cwd baseDir name : Text) : Prop :=
  abspath cwd (join baseDir name) = abspath cwd baseDir ∨ (abspath cwd baseDir ++ ['/']) <+: abspath cwd (join baseDir name)

variable {regular : Text → Prop} {cwd baseDir : Text} {names : List Text}

theorem abspath_eq {first second : Text} :
    abspath cwd (join baseDir first) = abspath cwd (join baseDir second) ↔ spot cwd baseDir first = spot cwd baseDir second := by
  have leads (name : Text) : place (join (join cwd baseDir) name) = spot cwd baseDir name := by
    unfold spot
    by_cases rooted : Rooted name
    · rw [if_pos rooted,join_rooted rooted]
    · rw [if_neg rooted,place_join rooted]
  unfold abspath
  rw [join_assoc,join_assoc,normpath_inj,leads,leads]

theorem safe_ok {name path : Text} :
    safeExtractMemberPath cwd baseDir name = .ok path ↔ Accepted cwd baseDir name ∧ abspath cwd (join baseDir name) = path := by
  unfold safeExtractMemberPath Accepted
  dsimp only
  by_cases within : abspath cwd (join baseDir name) = abspath cwd baseDir ∨ (abspath cwd baseDir ++ ['/']) <+: abspath cwd (join baseDir name)
  · rw [if_neg (by rw [not_and_not_right,← or_iff_not_imp_left]; exact within),Except.ok.injEq]
    exact ⟨fun same => ⟨within,same⟩,And.right⟩
  · rw [if_pos (not_or.mp within)]
    exact ⟨nofun,fun both => absurd both.1 within⟩

def Collide (cwd baseDir first second : Text) : Prop := Accepted cwd baseDir first ∧ spot cwd baseDir first = spot cwd baseDir second

theorem collide_iff {first second : Text} : Collide cwd baseDir first second ↔
    ∃ path, safeExtractMemberPath cwd baseDir first = .ok path ∧ safeExtractMemberPath cwd baseDir second = .ok path := by
  constructor
  · rintro ⟨accepted,same⟩
    have same := abspath_eq.mpr same
    exact ⟨_,safe_ok.mpr ⟨accepted,rfl⟩,safe_ok.mpr ⟨by unfold Accepted; rw [← same]; exact accepted,same.symm⟩⟩
  · rintro ⟨path,one,two⟩
    obtain ⟨accepted,one⟩ := safe_ok.mp one
    exact ⟨accepted,abspath_eq.mp (one.trans (safe_ok.mp two).2.symm)⟩

theorem commonRoot_some {root : Text} (common : commonRoot names = some root) {name : Text} (member : name ∈ names) (plain : Plain name)
    (slash : '/' ∈ name) : ∃ rest, name = root ++ '/' :: rest := by
  have inside : name.takeWhile (· ≠ '/') ∈ topLevels names :=
    List.mem_dedup.mpr (List.mem_map.mpr ⟨name,List.mem_filter.mpr ⟨member,decide_eq_true ⟨plain,slash⟩⟩,rfl⟩)
  unfold commonRoot at common
  split at common
  · rename_i only tops
    cases common
    rw [tops] at inside
    rw [← List.mem_singleton.mp inside]
    clear inside member plain
    induction name with
    | nil => cases slash
    | cons c rest ih =>
      by_cases here : c = '/'
      · subst here
        exact ⟨rest,rfl⟩
      · obtain ⟨more,shape⟩ := ih ((List.mem_cons.mp slash).resolve_left (Ne.symm here))
        refine ⟨more,?_⟩
        rw [List.takeWhile_cons_of_pos (by simpa using here),List.cons_append,← shape]
  · exact nomatch common

theorem mem_rootless (common : commonRoot names = none) {name target : Text} :
    (name,target) ∈ (stripCommonArchiveRoot names).2 ↔ name ∈ names ∧ target = name := by
  unfold stripCommonArchiveRoot
  rw [common]
  constructor
  · intro member
    obtain ⟨_,inside,same⟩ := List.mem_map.mp member
    cases same
    exact ⟨inside,rfl⟩
  · rintro ⟨inside,rfl⟩
    exact List.mem_map_of_mem inside

section
variable {root : Text} (common : commonRoot names = some root)
include common

theorem mem_strip {name target : Text} : (name,target) ∈ (stripCommonArchiveRoot names).2 ↔
    name ∈ names ∧ name ≠ root ∧ name ≠ root ++ ['/'] ∧ target = if (root ++ ['/']) <+: name then name.drop (root ++ ['/']).length else name := by
  unfold stripCommonArchiveRoot
  rw [common]
  dsimp only
  rw [List.mem_map]
  constructor
  · rintro ⟨_,inside,same⟩
    cases same
    obtain ⟨member,other⟩ := List.mem_filter.mp inside
    obtain ⟨other,other'⟩ := of_decide_eq_true other
    exact ⟨member,other,other',rfl⟩
  · rintro ⟨member,other,other',rfl⟩
    exact ⟨name,List.mem_filter.mpr ⟨member,decide_eq_true ⟨other,other'⟩⟩,rfl⟩

theorem mem_under {rest target : Text} (plain : Plain (root ++ '/' :: rest)) :
    (root ++ '/' :: rest,target) ∈ (stripCommonArchiveRoot names).2 ↔ root ++ '/' :: rest ∈ names ∧ target = rest := by
  have start : (root ++ ['/']) <+: root ++ '/' :: rest := ⟨rest,by rw [List.append_assoc,List.singleton_append]⟩
  have drop : (root ++ '/' :: rest).drop (root ++ ['/']).length = rest := by
    rw [show root ++ '/' :: rest = (root ++ ['/']) ++ rest by rw [List.append_assoc,List.singleton_append]]
    exact List.drop_left
  rw [mem_strip common,if_pos start,drop]
  refine ⟨fun ⟨member,_,_,same⟩ => ⟨member,same⟩,fun ⟨member,same⟩ => ⟨member,fun root_ => ?_,fun root_ => ?_,same⟩⟩
  · have lengths := congrArg List.length root_
    rw [List.length_append,List.length_cons] at lengths
    omega
  · rw [root_] at plain
    exact plain.2 List.getLast?_concat

theorem mem_beside {name target : Text} (top : '/' ∉ name) :
    (name,target) ∈ (stripCommonArchiveRoot names).2 ↔ name ∈ names ∧ name ≠ root ∧ target = name := by
  have far : ¬(root ++ ['/']) <+: name := fun start => top (start.subset (List.mem_append_right _ List.mem_cons_self))
  rw [mem_strip common,if_neg far]
  refine ⟨fun ⟨member,other,_,same⟩ => ⟨member,other,same⟩,fun ⟨member,other,same⟩ => ⟨member,other,fun root_ => ?_,same⟩⟩
  exact top (root_ ▸ List.mem_append_right _ List.mem_cons_self)

end

/-- No file is named like the common root or lies beside it where another one is below it, no two files on the same side spell one
path, and no path below the root starts with a slash and still leads into the destination, elsewhere. -/
structure Unmistakable (regular : Text → Prop) (cwd baseDir : Text) (names : List Text) : Prop where
  rootFree : ∀ root, commonRoot names = some root → root ∈ names → ¬File regular root
  beside : ∀ root, commonRoot names = some root → ∀ rest, root ++ '/' :: rest ∈ names → ∀ top ∈ names, File regular (root ++ '/' :: rest) →
    File regular top → '/' ∉ top → ¬Collide cwd baseDir rest top
  under : ∀ root, commonRoot names = some root → ∀ first second, root ++ '/' :: first ∈ names → root ++ '/' :: second ∈ names →
    File regular (root ++ '/' :: first) → File regular (root ++ '/' :: second) → first ≠ second → ¬Collide cwd baseDir first second
  outside : ∀ first ∈ names, ∀ second ∈ names, File regular first → File regular second → first ≠ second →
    commonRoot names = none ∨ '/' ∉ first ∧ '/' ∉ second → ¬Collide cwd baseDir first second
  relative : ∀ root, commonRoot names = some root → ∀ rest, root ++ '/' :: rest ∈ names → File regular (root ++ '/' :: rest) → Rooted rest →
    Accepted cwd baseDir rest → spot cwd baseDir rest = spot cwd baseDir (rest.dropWhile (· = '/'))

theorem Collide.symm {first second : Text} (collide : Collide cwd baseDir first second) : Collide cwd baseDir second first := by
  obtain ⟨path,one,two⟩ := collide_iff.mp collide
  exact collide_iff.mpr ⟨path,two,one⟩

theorem Faithful.unmistakable (faithful : Faithful regular cwd baseDir names) : Unmistakable regular cwd baseDir names := by
  have free : ∀ root, commonRoot names = some root → root ∈ names → ¬File regular root := by
    intro root common member file
    obtain ⟨target,pair⟩ := faithful.kept root member file
    exact ((mem_strip common).mp pair).2.1 rfl
  have apart : ∀ {first second one two}, (first,one) ∈ (stripCommonArchiveRoot names).2 → (second,two) ∈ (stripCommonArchiveRoot names).2 →
      File regular first → File regular second → first ≠ second → ¬Collide cwd baseDir one two := by
    intro first second one two pair pair' file file' other collide
    obtain ⟨path,ok,ok'⟩ := collide_iff.mp collide
    exact faithful.apart _ pair _ pair' file file' other path ok ok'
  refine ⟨free,fun root common rest member top member' file file' slashless => ?_,fun root common first second member member' file file' other => ?_,
    fun first member second member' file file' other away => ?_,fun root common rest member file rooted accepted => ?_⟩
  · refine apart ((mem_under common file.2).mpr ⟨member,rfl⟩) ((mem_beside common slashless).mpr ⟨member',?_,rfl⟩) file file' ?_
    · rintro rfl
      exact free top common member' file'
    · rintro rfl
      exact slashless (List.mem_append_right _ List.mem_cons_self)
  · refine apart ((mem_under common file.2).mpr ⟨member,rfl⟩) ((mem_under common file'.2).mpr ⟨member',rfl⟩) file file' fun same => other ?_
    exact (List.cons.inj (List.append_cancel_left same)).2
  · cases common : commonRoot names with
    | none => exact apart ((mem_rootless common).mpr ⟨member,rfl⟩) ((mem_rootless common).mpr ⟨member',rfl⟩) file file' other
    | some root =>
      obtain none_ | ⟨top,top'⟩ := away
      · exact nomatch common.symm.trans none_
      · refine apart ((mem_beside common top).mpr ⟨member,?_,rfl⟩) ((mem_beside common top').mpr ⟨member',?_,rfl⟩) file file' other
        · rintro rfl
          exact free first common member file
        · rintro rfl
          exact free second common member' file'
  · exact abspath_eq.mp (faithful.below root rest rest common ((mem_under common file.2).mpr ⟨member,rfl⟩) file _ (safe_ok.mpr ⟨accepted,rfl⟩))

theorem Unmistakable.apart (clear : Unmistakable regular cwd baseDir names) {first second one two : Text}
    (pair : (first,one) ∈ (stripCommonArchiveRoot names).2) (pair' : (second,two) ∈ (stripCommonArchiveRoot names).2)
    (file : File regular first) (file' : File regular second) (other : first ≠ second) : ¬Collide cwd baseDir one two := by
  cases common : commonRoot names with
  | none =>
    obtain ⟨member,rfl⟩ := (mem_rootless common).mp pair
    obtain ⟨member',rfl⟩ := (mem_rootless common).mp pair'
    exact clear.outside _ member _ member' file file' other (.inl common)
  | some root =>
    have inside : first ∈ names ∧ second ∈ names := ⟨((mem_strip common).mp pair).1,((mem_strip common).mp pair').1⟩
    by_cases slash : '/' ∈ first
    · obtain ⟨rest,rfl⟩ := commonRoot_some common inside.1 file.2 slash
      obtain ⟨member,rfl⟩ := (mem_under common file.2).mp pair
      by_cases slash' : '/' ∈ second
      · obtain ⟨rest',rfl⟩ := commonRoot_some common inside.2 file'.2 slash'
        obtain ⟨member',rfl⟩ := (mem_under common file'.2).mp pair'
        exact clear.under root common _ _ member member' file file' fun same => other (by rw [same])
      · obtain ⟨member',_,rfl⟩ := (mem_beside common slash').mp pair'
        exact clear.beside root common _ member _ member' file file' slash'
    · obtain ⟨member,_,rfl⟩ := (mem_beside common slash).mp pair
      by_cases slash' : '/' ∈ second
      · obtain ⟨rest',rfl⟩ := commonRoot_some common inside.2 file'.2 slash'
        obtain ⟨member',rfl⟩ := (mem_under common file'.2).mp pair'
        exact fun collide => clear.beside root common _ member' _ member file' file slash collide.symm
      · obtain ⟨member',_,rfl⟩ := (mem_beside common slash').mp pair'
        exact clear.outside _ member _ member' file file' other (.inr ⟨slash,slash'⟩)

theorem Unmistakable.kept (clear : Unmistakable regular cwd baseDir names) {name : Text} (member : name ∈ names) (file : File regular name) :
    ∃ target, (name,target) ∈ (stripCommonArchiveRoot names).2 := by
  cases common : commonRoot names with
  | none => exact ⟨name,(mem_rootless common).mpr ⟨member,rfl⟩⟩
  | some root =>
    by_cases slash : '/' ∈ name
    · obtain ⟨rest,rfl⟩ := commonRoot_some common member file.2 slash
      exact ⟨rest,(mem_under common file.2).mpr ⟨member,rfl⟩⟩
    · refine ⟨name,(mem_beside common slash).mpr ⟨member,?_,rfl⟩⟩
      rintro rfl
      exact clear.rootFree name common member file

theorem dropWhile_relative {rest : Text} (relative : ¬Rooted rest) : rest.dropWhile (· = '/') = rest := by
  cases rest with
  | nil => rfl
  | cons c rest => exact List.dropWhile_cons_of_neg (by simpa [Rooted] using relative)

theorem faithful_iff_unmistakable (regular : Text → Prop) (cwd baseDir : Text) (names : List Text) :
    Faithful regular cwd baseDir names ↔ Unmistakable regular cwd baseDir names := by
  refine ⟨Faithful.unmistakable,fun clear => ⟨fun name => clear.kept,fun pair _ path ok => ?_,fun first pair second pair' file file' other path ok ok' => ?_,
    fun root rest target common pair file path ok => ?_⟩⟩
  · obtain ⟨accepted,rfl⟩ := safe_ok.mp ok
    exact accepted
  · exact clear.apart pair pair' file file' other (collide_iff.mpr ⟨path,ok,ok'⟩)
  · obtain ⟨member,rfl⟩ := (mem_under common file.2).mp pair
    obtain ⟨accepted,rfl⟩ := safe_ok.mp ok
    by_cases rooted : Rooted target
    · exact abspath_eq.mpr (clear.relative root common target member file rooted accepted)
    · rw [dropWhile_relative rooted]

/-- A file beside the root takes the place of one below it. -/
theorem beside_overwrites : ¬Faithful (fun _ => True) "/".toList "/suite".toList ["root/a".toList,"a".toList] := by
  intro faithful
  exact faithful.apart ("root/a".toList,"a".toList) (by decide) ("a".toList,"a".toList) (by decide) ⟨trivial,by decide⟩ ⟨trivial,by decide⟩
    (by decide) "/suite/a".toList (by decide) (by decide)

end GmsRemoteTest.ArchiveRoots
