import Mathlib.Data.List.Basic

/-! Splitting a text into lines. The items for which `isBreak` holds end a line; what follows
the last of them is unfinished and may still grow. -/
namespace Lines

variable {α : Type} (isBreak : α → Bool)

def scan (current : List α) : List α → List (List α) × List α
  | [] => ([],current)
  | item :: rest =>
    if isBreak item then (current :: (scan [] rest).1,(scan [] rest).2) else scan (current++[item]) rest

/-- The lines of the text that are ended by a break, without the break. -/
def completeLines (text : List α) : List (List α) := (scan isBreak [] text).1

def unfinished (text : List α) : List α := (scan isBreak [] text).2

def splitlines (text : List α) : List (List α) :=
  completeLines isBreak text ++ if unfinished isBreak text = [] then [] else [unfinished isBreak text]

def Whole (text : List α) : Prop := ∀ item ∈ text.getLast?, isBreak item

instance (text : List α) : Decidable (Whole isBreak text) :=
  inferInstanceAs (Decidable (∀ item ∈ text.getLast?, isBreak item = true))

variable {isBreak}

theorem scan_append (current first second : List α) :
    scan isBreak current (first++second) =
      ((scan isBreak current first).1 ++ (scan isBreak (scan isBreak current first).2 second).1,
        (scan isBreak (scan isBreak current first).2 second).2) := by
  induction first generalizing current with
  | nil => simp [scan]
  | cons item first ih =>
    by_cases ends : isBreak item
    · simp [scan,ends,ih]
    · simp [scan,ends,ih]

theorem whole_nil : Whole isBreak [] := by
  intro item member
  cases member

theorem Whole.unfinished_eq {text : List α} (whole : Whole isBreak text) : unfinished isBreak text = [] := by
  obtain rfl | ⟨text,item,rfl⟩ := List.eq_nil_or_concat text
  · rfl
  · have ends : isBreak item := whole item (by simp)
    simp [unfinished,scan_append,scan,ends]

theorem Whole.splitlines_eq {text : List α} (whole : Whole isBreak text) :
    splitlines isBreak text = completeLines isBreak text := by
  simp [splitlines,whole.unfinished_eq]

theorem Whole.completeLines_append {first : List α} (whole : Whole isBreak first) (second : List α) :
    completeLines isBreak (first++second) = completeLines isBreak first ++ completeLines isBreak second := by
  have closed := whole.unfinished_eq
  rw [unfinished] at closed
  simp [completeLines,scan_append,closed]

theorem Whole.append {first second : List α} (left : Whole isBreak first) (right : Whole isBreak second) :
    Whole isBreak (first++second) := by
  intro item member
  cases second with
  | nil => exact left item (by simpa using member)
  | cons head second => exact right item (by simpa [List.getLast?_append] using member)

theorem Whole.tail {item : α} {text : List α} (whole : Whole isBreak (item::text)) : Whole isBreak text := by
  intro last member
  cases text with
  | nil => cases member
  | cons head text => exact whole last (by simpa using member)

theorem scan_current (text : List α) :
    (∃ last, ∀ current, scan isBreak current text = ([],current++last)) ∨
      ∃ head tail last, ∀ current, scan isBreak current text = ((current++head)::tail,last) := by
  induction text with
  | nil => exact .inl ⟨[],fun current => by simp [scan]⟩
  | cons item rest ih =>
    by_cases ends : isBreak item
    · exact .inr ⟨[],(scan isBreak [] rest).1,(scan isBreak [] rest).2,fun current => by simp [scan,ends]⟩
    · rcases ih with ⟨last,read⟩ | ⟨head,tail,last,read⟩
      · exact .inl ⟨item::last,fun current => by simp [scan,ends,read]⟩
      · exact .inr ⟨item::head,tail,last,fun current => by simp [scan,ends,read]⟩

theorem splitlines_append {first : List α} (closed : unfinished isBreak first = []) (second : List α) :
    splitlines isBreak (first++second) = splitlines isBreak first ++ splitlines isBreak second := by
  have ended : (scan isBreak [] first).2 = [] := closed
  unfold splitlines completeLines unfinished
  rw [scan_append,ended]
  simp

theorem splitlines_within {first : List α} (opened : unfinished isBreak first ≠ []) {item : α} (inner : isBreak item = false)
    (second : List α) : ∃ earlier head rest, splitlines isBreak first = earlier ++ [unfinished isBreak first] ∧
      splitlines isBreak (first ++ item::second) = earlier ++ (unfinished isBreak first ++ item::head) :: rest := by
  have lines : splitlines isBreak first = completeLines isBreak first ++ [unfinished isBreak first] := by
    unfold splitlines
    rw [if_neg opened]
  unfold splitlines completeLines unfinished at lines ⊢
  rw [scan_append]
  simp only [scan,inner,Bool.false_eq_true,if_false]
  rcases @scan_current α isBreak second with ⟨last,read⟩ | ⟨head,tail,last,read⟩
  · refine ⟨_,last,[],lines,?_⟩
    rw [read,List.append_nil,if_neg (by simp)]
    simp
  · refine ⟨_,head,tail ++ (if last = [] then [] else [last]),lines,?_⟩
    rw [read]
    simp

def join (mark : α) (ended : Bool) : List (List α) → List α
  | [] => []
  | [line] => line ++ if ended then [mark] else []
  | line :: lines => line ++ mark :: join mark ended lines

theorem scan_line {line : List α} (inner : ∀ item ∈ line, isBreak item = false) (current rest : List α) :
    scan isBreak current (line ++ rest) = scan isBreak (current ++ line) rest := by
  induction line generalizing current with
  | nil => rw [List.nil_append,List.append_nil]
  | cons item line ih =>
    rw [List.cons_append,scan,if_neg (by rw [inner item List.mem_cons_self]; exact Bool.false_ne_true),
      ih fun other member => inner other (List.mem_cons_of_mem _ member),List.append_assoc]
    rfl

theorem splitlines_join {mark : α} (breaks : isBreak mark = true) (ended : Bool) {lines : List (List α)}
    (inner : ∀ line ∈ lines, line ≠ [] ∧ ∀ item ∈ line, isBreak item = false) : splitlines isBreak (join mark ended lines) = lines := by
  unfold splitlines completeLines unfinished
  induction lines with
  | nil => rfl
  | cons line lines ih =>
    obtain ⟨some_,within⟩ := inner line List.mem_cons_self
    have rest := ih fun other member => inner other (List.mem_cons_of_mem _ member)
    cases lines with
    | nil =>
      unfold join
      rw [scan_line within,List.nil_append]
      cases ended with
      | true => simp [scan,breaks]
      | false => simp [scan,some_]
    | cons second lines =>
      rw [join,scan_line within,List.nil_append,scan,if_pos breaks]
      · exact congrArg (line :: ·) rest
      · exact List.cons_ne_nil _ _

variable (isBreak) in
def pieces (current text : List α) : List (List α) := (scan isBreak current text).1 ++ [(scan isBreak current text).2]

theorem pieces_append (current first second : List α) :
    pieces isBreak current (first++second) = (scan isBreak current first).1 ++ pieces isBreak (scan isBreak current first).2 second := by
  simp [pieces,scan_append]

theorem pieces_cons (current rest : List α) (item : α) :
    pieces isBreak current (item::rest) = if isBreak item then current :: pieces isBreak [] rest else pieces isBreak (current++[item]) rest := by
  by_cases ends : isBreak item <;> simp [pieces,scan,ends]

theorem mem_splitlines {line : List α} {text : List α} (member : line ∈ splitlines isBreak text) : line ∈ pieces isBreak [] text := by
  change line ∈ completeLines isBreak text ++ _ at member
  rcases List.mem_append.mp member with complete | last
  · exact List.mem_append_left _ complete
  · split at last
    · cases last
    · exact List.mem_append_right _ last

theorem pieces_splitlines (text : List α) : ∃ rest, pieces isBreak [] text = splitlines isBreak text ++ rest ∧ ∀ line ∈ rest, line = [] := by
  by_cases whole : unfinished isBreak text = []
  · refine ⟨[[]],?_,by simp⟩
    change completeLines isBreak text ++ [unfinished isBreak text] = completeLines isBreak text ++ (if _ then [] else _) ++ [[]]
    rw [if_pos whole,whole,List.append_nil]
  · refine ⟨[],?_,by simp⟩
    change completeLines isBreak text ++ [unfinished isBreak text] = completeLines isBreak text ++ (if _ then [] else _) ++ []
    rw [if_neg whole,List.append_nil]

theorem pieces_current (text : List α) :
    ∃ head tail, pieces isBreak [] text = head::tail ∧ ∀ current, pieces isBreak current text = (current++head)::tail := by
  induction text with
  | nil => exact ⟨[],[],rfl,fun current => by simp [pieces,scan]⟩
  | cons item rest ih =>
    obtain ⟨head,tail,_,later⟩ := ih
    by_cases ends : isBreak item
    · exact ⟨[],pieces isBreak [] rest,by simp [pieces_cons,ends],fun current => by simp [pieces_cons,ends]⟩
    · exact ⟨item::head,tail,by simp [pieces_cons,ends,later],fun current => by simp [pieces_cons,ends,later]⟩

theorem mem_piece {item : α} {current text line : List α} (listed : line ∈ pieces isBreak current text) (member : item ∈ line) :
    item ∈ current ∨ item ∈ text := by
  induction text generalizing current with
  | nil =>
    rw [List.mem_singleton.mp (show line ∈ [current] from listed)] at member
    exact .inl member
  | cons first rest ih =>
    rw [pieces_cons] at listed
    split at listed
    · rcases List.mem_cons.mp listed with rfl | later
      · exact .inl member
      · rcases ih later with none | inside
        · cases none
        · exact .inr (List.mem_cons_of_mem _ inside)
    · rcases ih listed with before | inside
      · rcases List.mem_append.mp before with old | new
        · exact .inl old
        · exact .inr (List.mem_cons.mpr (.inl (List.mem_singleton.mp new)))
      · exact .inr (List.mem_cons_of_mem _ inside)

variable {blank : α → Bool}

theorem pieces_front {front : List α} (blanks : ∀ item ∈ front, blank item = true) (text : List α) :
    ∃ before left head tail, (∀ piece ∈ before, ∀ item ∈ piece, blank item = true) ∧ (∀ item ∈ left, blank item = true) ∧
      pieces isBreak [] text = head::tail ∧ pieces isBreak [] (front++text) = before ++ (left++head)::tail := by
  obtain ⟨head,tail,first,later⟩ := @pieces_current _ isBreak text
  have inside : ∀ piece ∈ pieces isBreak [] front, ∀ item ∈ piece, blank item = true := fun piece listed item member =>
    (mem_piece listed member).elim (fun none => by cases none) (blanks item)
  exact ⟨(scan isBreak [] front).1,(scan isBreak [] front).2,head,tail,
    fun piece listed => inside piece (List.mem_append_left _ listed),
    inside _ (List.mem_append_right _ (List.mem_singleton_self _)),first,by rw [pieces_append,later]⟩

theorem pieces_back {back : List α} (blanks : ∀ item ∈ back, blank item = true) (text : List α) :
    ∃ before last right after, (∀ piece ∈ after, ∀ item ∈ piece, blank item = true) ∧ (∀ item ∈ right, blank item = true) ∧
      pieces isBreak [] text = before++[last] ∧ pieces isBreak [] (text++back) = before ++ (last++right)::after := by
  obtain ⟨head,tail,first,later⟩ := @pieces_current _ isBreak back
  have inside : ∀ piece ∈ head::tail, ∀ item ∈ piece, blank item = true := fun piece listed item member =>
    (mem_piece (first ▸ listed) member).elim (fun none => by cases none) (blanks item)
  exact ⟨(scan isBreak [] text).1,(scan isBreak [] text).2,head,tail,
    fun piece listed => inside piece (List.mem_cons_of_mem _ listed),inside _ (List.mem_cons_self ..),rfl,by rw [pieces_append,later]⟩

theorem piece_between {front back text line : List α} (ahead : ∀ item ∈ front, blank item = true)
    (behind : ∀ item ∈ back, blank item = true) (listed : line ∈ pieces isBreak [] text) :
    ∃ left right, (∀ item ∈ left, blank item = true) ∧ (∀ item ∈ right, blank item = true) ∧
      left++line++right ∈ pieces isBreak [] (front++(text++back)) := by
  obtain ⟨before,last,right,after,_,rightBlank,alone,longer⟩ := @pieces_back _ isBreak _ _ behind text
  obtain ⟨skipped,left,head,tail,_,leftBlank,joined,whole⟩ := @pieces_front _ isBreak _ _ ahead (text++back)
  have second : ∃ right, (∀ item ∈ right, blank item = true) ∧ line++right ∈ head::tail := by
    rw [← joined,longer]
    rw [alone] at listed
    rcases List.mem_append.mp listed with earlier | final
    · exact ⟨[],by simp,by simp [earlier]⟩
    · rw [List.mem_singleton.mp final]
      exact ⟨right,rightBlank,by simp⟩
  obtain ⟨right,rightBlank,listed⟩ := second
  rw [whole]
  rcases List.mem_cons.mp listed with first | later
  · exact ⟨left,right,leftBlank,rightBlank,by rw [List.append_assoc,first]; simp⟩
  · exact ⟨[],right,by simp,rightBlank,by simp [later]⟩

theorem two_places {β : Type} {before earlier after later : List β} {first second : β}
    (same : before ++ first::after = earlier ++ second::later) :
    (∃ between, earlier = before ++ first::between ∧ after = between ++ second::later) ∨
      (before = earlier ∧ first = second ∧ after = later) ∨ ∃ between, before = earlier ++ second::between := by
  rcases List.append_eq_append_iff.mp same with ⟨between,start,rest⟩ | ⟨between,start,rest⟩
  · cases between with
    | nil => exact .inr (.inl ⟨by simpa using start.symm,List.cons_eq_cons.mp rest⟩)
    | cons _ between =>
      obtain ⟨rfl,others⟩ := List.cons_eq_cons.mp rest
      exact .inl ⟨between,start,others⟩
  · cases between with
    | nil => exact .inr (.inl ⟨by simpa using start,(List.cons_eq_cons.mp rest).1.symm,(List.cons_eq_cons.mp rest).2.symm⟩)
    | cons _ between =>
      obtain ⟨rfl,_⟩ := List.cons_eq_cons.mp rest
      exact .inr (.inr ⟨between,start⟩)

theorem between_piece {front back text line : List α} {before after : List (List α)} (ahead : ∀ item ∈ front, blank item = true)
    (behind : ∀ item ∈ back, blank item = true) (cut : pieces isBreak [] (front++(text++back)) = before ++ line::after)
    (visible : ∃ item ∈ line, blank item = false) :
    ∃ left middle right, line = left++middle++right ∧ (∀ item ∈ left, blank item = true) ∧ (∀ item ∈ right, blank item = true) ∧
      middle ∈ pieces isBreak [] text ∧ (right = [] ∨ ∀ piece ∈ after, ∀ item ∈ piece, blank item = true) := by
  obtain ⟨skipped,left,head,tail,skippedBlank,leftBlank,joined,whole⟩ := @pieces_front _ isBreak _ _ ahead (text++back)
  obtain ⟨initial,last,right,rest,restBlank,rightBlank,alone,longer⟩ := @pieces_back _ isBreak _ _ behind text
  obtain ⟨seen,member,visible⟩ := visible
  have shown : ∀ {line : List α}, seen ∈ line → ¬∀ item ∈ line, blank item = true := by
    intro line member blanks
    rw [blanks seen member] at visible
    cases visible
  -- the blanks in front
  have later : ∃ left piece earlier, line = left++piece ∧ (∀ item ∈ left, blank item = true) ∧ head::tail = earlier ++ piece::after := by
    rcases two_places (whole.symm.trans cut) with ⟨between,_,rest⟩ | ⟨_,same,rest⟩ | ⟨between,start⟩
    · exact ⟨[],line,head::between,by simp,by simp,by rw [rest]; rfl⟩
    · exact ⟨left,head,[],same.symm,leftBlank,by rw [rest]; rfl⟩
    · exact absurd (skippedBlank line (by simp [start])) (shown member)
  obtain ⟨left,piece,earlier,split,leftBlank,cut⟩ := later
  have seenHere : seen ∈ piece := by
    rw [split] at member
    exact (List.mem_append.mp member).resolve_left fun inLeft => shown (List.mem_singleton_self seen) (by simpa using leftBlank seen inLeft)
  -- the blanks behind
  rw [← joined,longer] at cut
  rcases two_places cut with ⟨between,_,others⟩ | ⟨_,same,others⟩ | ⟨between,start⟩
  · exact absurd (restBlank piece (by simp [others])) (shown seenHere)
  · exact ⟨left,last,right,by rw [split,← same,List.append_assoc],leftBlank,rightBlank,by rw [alone]; simp,.inr (others ▸ restBlank)⟩
  · exact ⟨left,piece,[],by rw [split,List.append_nil],leftBlank,by simp,by rw [alone,start]; simp,.inl rfl⟩

end Lines
