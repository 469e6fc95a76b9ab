import Mathlib.Data.List.DropRight
import GmsRemoteTest.Foundation.Text

/-! Texts that hold a list of names between separators: `text.split(",")` and `",".join(names)`. Blanks around the whole
text are blanks around its first and last name. -/
namespace GmsRemoteTest.Text

def split (sep : Char) (text : String) : List String := (text.toList.splitOn sep).map String.ofList

def join (sep : Char) (parts : List String) : String := String.ofList ([sep].intercalate (parts.map String.toList))

theorem split_empty (sep : Char) : split sep "" = [""] := rfl

theorem join_nil (sep : Char) : join sep [] = "" := rfl

theorem split_join {sep : Char} {parts : List String} (clean : ∀ part ∈ parts, sep ∉ part.toList) (nonempty : parts ≠ []) :
    split sep (join sep parts) = parts := by
  have pieces : ∀ piece ∈ parts.map String.toList, sep ∉ piece := by
    intro piece member
    obtain ⟨part,listed,rfl⟩ := List.mem_map.mp member
    exact clean part listed
  unfold split join
  rw [String.toList_ofList,List.splitOn_intercalate sep pieces (by simpa using nonempty),List.map_map]
  simp [Function.comp_def]

theorem join_concat {sep : Char} {text : String} (single : text.toList = [sep]) {parts : List String} (nonempty : parts ≠ []) (last : String) :
    join sep (parts++[last]) = join sep parts ++ text ++ last := by
  have pieces : ∀ pieces : List (List Char), pieces ≠ [] →
      [sep].intercalate (pieces++[last.toList]) = [sep].intercalate pieces++[sep]++last.toList := by
    intro pieces some
    induction pieces with
    | nil => exact absurd rfl some
    | cons first pieces ih => cases pieces with
      | nil => simp [List.intercalate_cons_cons]
      | cons second pieces =>
        have later := ih (List.cons_ne_nil second pieces)
        rw [List.cons_append,List.cons_append,List.intercalate_cons_cons,List.intercalate_cons_cons,← List.cons_append,later]
        simp
  apply String.toList_inj.mp
  unfold join
  rw [String.toList_append,String.toList_append,String.toList_ofList,String.toList_ofList,List.map_append,List.map_singleton,single]
  exact pieces _ (by simpa using nonempty)

theorem not_mem_split {sep : Char} {text part : String} (member : part ∈ split sep text) : sep ∉ part.toList := by
  have pieces : ∀ chars : List Char, ∀ piece ∈ chars.splitOn sep, sep ∉ piece := by
    intro chars
    induction chars with
    | nil => simp
    | cons c chars ih =>
      rw [List.splitOn_cons_eq_if_modifyHead]
      cases rest : chars.splitOn sep with
      | nil => exact absurd rest (List.splitOn_ne_nil sep chars)
      | cons first others =>
        rw [rest] at ih
        have head := ih first (List.mem_cons_self ..)
        split
        · simpa using ih
        · rename_i other
          have distinct : sep ≠ c := by
            rintro rfl
            simp at other
          intro piece listed
          rw [List.modifyHead_cons,List.mem_cons] at listed
          rcases listed with rfl | listed
          · simp [distinct,head]
          · exact ih piece (List.mem_cons_of_mem _ listed)
  obtain ⟨piece,listed,rfl⟩ := List.mem_map.mp member
  rw [String.toList_ofList]
  exact pieces _ piece listed

theorem fromkeys_of_nodup {values : List String} (distinct : values.Nodup) : fromkeys values = values := by
  induction values with
  | nil => rfl
  | cons value values ih =>
    obtain ⟨absent,rest⟩ := List.nodup_cons.mp distinct
    rw [fromkeys,ih rest,List.filter_eq_self.mpr]
    intro other member
    have apart : other ≠ value := by
      rintro rfl
      exact absent member
    simpa using apart

theorem sorted_sorted (values : List String) : sorted (sorted values) = sorted values :=
  (List.pairwise_insertionSort (· ≤ ·) values).insertionSort_eq

theorem append_right_inj {first second tail : String} (same : first ++ tail = second ++ tail) : first = second := by
  have lists := congrArg String.toList same
  rw [String.toList_append,String.toList_append] at lists
  exact String.toList_inj.mp (List.append_cancel_right lists)

theorem append_ne_of_last {first second left right : String}
    (apart : (left.toList.reverse.take 2).length = 2 ∧ (right.toList.reverse.take 2).length = 2 ∧
      left.toList.reverse.take 2 ≠ right.toList.reverse.take 2) : first ++ left ≠ second ++ right := by
  intro same
  have lists := congrArg (fun text : String => text.toList.reverse.take 2) same
  simp only [String.toList_append,List.reverse_append] at lists
  simp only [List.length_take] at apart
  rw [List.take_append_of_le_length (by omega),List.take_append_of_le_length (by omega)] at lists
  exact apart.2.2 lists

section strip
variable (chars : List Char)

def lstrip : List Char := chars.dropWhile isSpace

def rstrip : List Char := chars.rdropWhile isSpace

theorem rstrip_cons (c : Char) :
    rstrip (c::chars) = if rstrip chars = [] then (if isSpace c then [] else [c]) else c::rstrip chars := by
  unfold rstrip
  induction chars using List.reverseRecOn with
  | nil => by_cases blank : isSpace c <;> simp [List.rdropWhile,blank]
  | append_singleton chars last ih =>
    rw [← List.cons_append,List.rdropWhile_concat,List.rdropWhile_concat]
    by_cases blank : isSpace last
    · rw [if_pos blank,if_pos blank,ih]
    · simp [blank]

theorem lstrip_rstrip : lstrip (rstrip chars) = rstrip (lstrip chars) := by
  induction chars with
  | nil => rfl
  | cons c chars ih =>
    rw [rstrip_cons]
    by_cases blank : isSpace c
    · have skipped : lstrip (c::chars) = lstrip chars := by simp [lstrip,blank]
      rw [skipped,← ih,if_pos blank]
      split
      · rename_i none
        rw [none]
      · simp [lstrip,blank]
    · have kept : lstrip (c::chars) = c::chars := by simp [lstrip,blank]
      rw [kept,rstrip_cons]
      split <;> simp [lstrip,blank]

theorem strip_toList (text : String) : (strip text).toList = rstrip (lstrip text.toList) := by
  unfold strip
  rw [String.toList_ofList]
  rfl

theorem strip_strip (text : String) : strip (strip text) = strip text := by
  apply String.toList_inj.mp
  rw [strip_toList,strip_toList,lstrip_rstrip]
  unfold rstrip lstrip
  rw [List.dropWhile_idempotent,List.rdropWhile_idempotent]

theorem mem_strip {c : Char} {text : String} (member : c ∈ (strip text).toList) : c ∈ text.toList := by
  rw [strip_toList] at member
  exact (List.dropWhile_sublist isSpace).mem ((List.rdropWhile_prefix isSpace _).sublist.mem member)

end strip

theorem strip_between (text : String) :
    ∃ left right, text.toList = left++((strip text).toList++right) ∧ (∀ c ∈ left, isSpace c = true) ∧ ∀ c ∈ right, isSpace c = true := by
  refine ⟨text.toList.takeWhile isSpace,(lstrip text.toList).rtakeWhile isSpace,?_,fun c member => List.mem_takeWhile_imp member,
    fun c member => List.mem_rtakeWhile_imp member⟩
  rw [strip_toList]
  unfold rstrip lstrip
  rw [List.rdropWhile_append_rtakeWhile,List.takeWhile_append_dropWhile]

theorem strip_between_visible {text : String} {first last : Char} {rest front : List Char} (shape : text.toList = first :: rest)
    (shape_ : text.toList = front ++ [last]) (visible : isSpace first = false) (visible_ : isSpace last = false) : strip text = text := by
  apply String.toList_inj.mp
  have left : lstrip text.toList = text.toList := by simp [lstrip,shape,visible]
  rw [strip_toList,left]
  unfold rstrip
  rw [shape_,List.rdropWhile_concat,if_neg (by simp [visible_])]

theorem trimmed_cons {text : String} (trimmed : strip text = text) (nonempty : text ≠ "") :
    ∃ first rest, text.toList = first :: rest ∧ isSpace first = false := by
  cases shape : text.toList with
  | nil => exact absurd (String.toList_inj.mp shape) nonempty
  | cons first rest =>
    refine ⟨first,rest,rfl,?_⟩
    by_contra blank
    have short : (strip text).toList.length ≤ rest.length := by
      rw [strip_toList,shape,lstrip,List.dropWhile_cons_of_pos (by simpa using blank)]
      exact ((List.rdropWhile_prefix isSpace _).length_le).trans (List.dropWhile_sublist isSpace).length_le
    rw [trimmed,shape,List.length_cons] at short
    omega

theorem strip_key {worker serial : String} (trimmed : strip worker = worker) (nonempty : worker ≠ "") (solid : Solid serial)
    (named : serial ≠ "") : strip (key worker serial) = key worker serial := by
  obtain ⟨first,rest,front,visible⟩ := trimmed_cons trimmed nonempty
  obtain ⟨start,last,back⟩ := (List.eq_nil_or_concat serial.toList).resolve_left fun empty => named (String.toList_inj.mp empty)
  have whole : (key worker serial).toList = worker.toList ++ (':' :: serial.toList) := by
    unfold key
    rw [String.toList_append,String.toList_append,List.append_assoc]
    rfl
  have begins : (key worker serial).toList = first :: (rest ++ ':' :: serial.toList) := by rw [whole,front,List.cons_append]
  have ends : (key worker serial).toList = (worker.toList ++ ':' :: start) ++ [last] := by
    rw [whole,back,List.concat_eq_append,List.append_assoc,List.cons_append]
  exact strip_between_visible begins ends visible (solid last (by simp [back]))

theorem strip_ne_empty {text : String} : strip text ≠ "" ↔ ∃ c ∈ text.toList, isSpace c = false := by
  constructor
  · intro solid
    by_contra hidden
    push Not at hidden
    have blank : ∀ c ∈ text.toList, isSpace c = true := fun c member => by simpa using hidden c member
    apply solid
    apply String.toList_inj.mp
    have front : lstrip text.toList = [] := List.dropWhile_eq_nil_iff.mpr blank
    rw [strip_toList,front]
    rfl
  · rintro ⟨c,member,visible⟩ empty
    obtain ⟨left,right,whole,leftBlank,rightBlank⟩ := strip_between text
    rw [whole,empty] at member
    simp only [String.toList_empty,List.nil_append,List.mem_append] at member
    rw [member.elim (leftBlank c) (rightBlank c)] at visible
    cases visible

section between
variable {sep : Char}

theorem splitOn_blank_front {front : List Char} (blank : ∀ c ∈ front, isSpace c = true) (absent : sep ∉ front) (chars : List Char) :
    ((front++chars).splitOn sep).map lstrip = (chars.splitOn sep).map lstrip := by
  induction front with
  | nil => rfl
  | cons c front ih =>
    have others := ih (fun c member => blank c (List.mem_cons_of_mem _ member)) fun member => absent (List.mem_cons_of_mem _ member)
    have inside : (c == sep) = false := by
      rw [beq_eq_false_iff_ne]
      rintro rfl
      exact absent (List.mem_cons_self ..)
    rw [← others,List.cons_append,List.splitOn_cons_eq_if_modifyHead,if_neg (by simp [inside])]
    cases (front++chars).splitOn sep <;> simp [lstrip,blank c (List.mem_cons_self ..)]

theorem splitOn_blank_tail {tail : List Char} (blank : ∀ c ∈ tail, isSpace c = true) (absent : sep ∉ tail) (chars : List Char) :
    ((chars++tail).splitOn sep).map rstrip = (chars.splitOn sep).map rstrip := by
  induction chars with
  | nil =>
    rw [List.nil_append,List.splitOn_eq_singleton absent]
    simpa [rstrip,List.rdropWhile_eq_nil_iff] using blank
  | cons c chars ih =>
    rw [List.cons_append,List.splitOn_cons_eq_if_modifyHead,List.splitOn_cons_eq_if_modifyHead]
    split
    · rw [List.map_cons,List.map_cons,ih]
    · cases left : (chars++tail).splitOn sep with
      | nil => exact absurd left (List.splitOn_ne_nil sep _)
      | cons first others =>
        cases right : chars.splitOn sep with
        | nil => exact absurd right (List.splitOn_ne_nil sep _)
        | cons second rest =>
          rw [left,right,List.map_cons,List.map_cons,List.cons_eq_cons] at ih
          simp only [List.modifyHead_cons,List.map_cons,rstrip_cons,ih.1,ih.2]

theorem split_between {text inner : String} {left right : List Char} (whole : text.toList = left++(inner.toList++right))
    (leftBlank : ∀ c ∈ left, isSpace c = true) (rightBlank : ∀ c ∈ right, isSpace c = true) (leftPlain : sep ∉ left)
    (rightPlain : sep ∉ right) : (split sep text).map strip = (split sep inner).map strip := by
  have swap : rstrip ∘ lstrip = lstrip ∘ rstrip := funext fun piece => (lstrip_rstrip piece).symm
  have stripped : strip ∘ String.ofList = String.ofList ∘ rstrip ∘ lstrip := by
    funext piece
    apply String.toList_inj.mp
    simp [strip_toList]
  have pieces : (text.toList.splitOn sep).map (rstrip ∘ lstrip) = (inner.toList.splitOn sep).map (rstrip ∘ lstrip) := calc
    (text.toList.splitOn sep).map (rstrip ∘ lstrip)
      = ((inner.toList++right).splitOn sep).map (rstrip ∘ lstrip) := by
        rw [whole,← List.map_map,splitOn_blank_front leftBlank leftPlain,List.map_map]
    _ = (inner.toList.splitOn sep).map (rstrip ∘ lstrip) := by
        rw [swap,← List.map_map,splitOn_blank_tail rightBlank rightPlain,List.map_map]
  unfold split
  rw [List.map_map,List.map_map,stripped,← List.map_map,pieces,List.map_map]

theorem split_strip (visible : isSpace sep = false) (text : String) : (split sep (strip text)).map strip = (split sep text).map strip := by
  obtain ⟨left,right,whole,leftBlank,rightBlank⟩ := strip_between text
  have absent : ∀ {blanks : List Char}, (∀ c ∈ blanks, isSpace c = true) → sep ∉ blanks := by
    intro blanks blank member
    rw [blank sep member] at visible
    cases visible
  exact (split_between whole leftBlank rightBlank (absent leftBlank) (absent rightBlank)).symm

theorem mem_of_split {c : Char} {text part : String} (listed : part ∈ split sep text) (member : c ∈ part.toList) : c ∈ text.toList := by
  have pieces : ∀ chars : List Char, ∀ piece ∈ chars.splitOn sep, c ∈ piece → c ∈ chars := by
    intro chars
    induction chars with
    | nil => simp
    | cons d chars ih =>
      intro piece listed member
      rw [List.splitOn_cons_eq_if_modifyHead] at listed
      split at listed
      · rcases List.mem_cons.mp listed with rfl | later
        · cases member
        · exact List.mem_cons_of_mem _ (ih piece later member)
      · cases rest : chars.splitOn sep with
        | nil => exact absurd rest (List.splitOn_ne_nil sep chars)
        | cons first others =>
          rw [rest,List.modifyHead_cons] at listed
          rw [rest] at ih
          rcases List.mem_cons.mp listed with rfl | later
          · rcases List.mem_cons.mp member with rfl | inside
            · exact List.mem_cons_self ..
            · exact List.mem_cons_of_mem _ (ih first (List.mem_cons_self ..) inside)
          · exact List.mem_cons_of_mem _ (ih piece (List.mem_cons_of_mem _ later) member)
  obtain ⟨piece,among,rfl⟩ := List.mem_map.mp listed
  rw [String.toList_ofList] at member
  exact pieces _ piece among member

theorem split_append_cons {text : String} {left right : List Char} (whole : text.toList = left++sep::right) :
    split sep text = split sep (String.ofList left) ++ split sep (String.ofList right) := by
  unfold split
  rw [whole,List.splitOn_append_cons_self,List.map_append,String.toList_ofList,String.toList_ofList]

theorem length_split (text : String) : (split sep text).length = text.toList.count sep + 1 := by
  unfold split
  rw [List.length_map]
  induction text.toList with
  | nil => rfl
  | cons c chars ih =>
    rw [List.splitOn_cons_eq_if_modifyHead,List.count_cons]
    split <;> simp [ih]

end between

end GmsRemoteTest.Text
