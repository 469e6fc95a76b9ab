import Mathlib.Data.List.Sort

/-! The string operations the sources use, with the behaviour Python documents:
`str.strip`, `str.startswith`, `str.partition(":")` and the `worker:serial` keys. -/
namespace GmsRemoteTest.Text

def isSpace (c : Char) : Bool :=
  let n := c.toNat
  (9 ≤ n && n ≤ 13) || (28 ≤ n && n ≤ 32) || n == 0x85 || n == 0xA0 || n == 0x1680 ||
    (0x2000 ≤ n && n ≤ 0x200A) || n == 0x2028 || n == 0x2029 || n == 0x202F || n == 0x205F || n == 0x3000

def strip (text : String) : String :=
  String.ofList ((text.toList.dropWhile isSpace).reverse.dropWhile isSpace).reverse

def startsWith (start text : String) : Bool := start.toList.isPrefixOf text.toList

def partition (text : String) : String × String :=
  (String.ofList (text.toList.takeWhile (· != ':')),String.ofList ((text.toList.dropWhile (· != ':')).drop 1))

/-- `f"{worker}:{serial}"`. -/
def key (worker serial : String) : String := worker ++ ":" ++ serial

def qualified (worker value : String) : String :=
  if startsWith (worker ++ ":") value then value else key worker value

def orElse (first second : String) : String := if first = "" then second else first

def fromkeys : List String → List String
  | [] => []
  | value :: values => value :: (fromkeys values).filter (· ≠ value)

def sorted (values : List String) : List String := values.insertionSort (· ≤ ·)

@[simp] theorem mem_fromkeys {value : String} {values : List String} : value ∈ fromkeys values ↔ value ∈ values := by
  induction values with
  | nil => simp [fromkeys]
  | cons first values ih =>
    simp only [fromkeys,List.mem_cons,List.mem_filter,ih]
    by_cases same : value = first <;> simp [same]

@[simp] theorem mem_sorted {value : String} {values : List String} : value ∈ sorted values ↔ value ∈ values :=
  (List.perm_insertionSort _ values).mem_iff

theorem fromkeys_nodup (values : List String) : (fromkeys values).Nodup := by
  induction values with
  | nil => exact .nil
  | cons value values ih =>
    refine List.nodup_cons.mpr ⟨?_,ih.filter _⟩
    intro repeated
    simpa using List.of_mem_filter repeated

theorem sorted_nodup {values : List String} (distinct : values.Nodup) : (sorted values).Nodup :=
  (List.perm_insertionSort (· ≤ ·) values).nodup_iff.mpr distinct

theorem append_ne_empty (first second : String) (nonempty : first ≠ "") : first ++ second ≠ "" := by
  intro empty
  apply nonempty
  have lists := congrArg String.toList empty
  rw [String.toList_append] at lists
  rw [← String.toList_inj]
  exact (List.append_eq_nil_iff.mp lists).1

theorem tag_inj (tag : String) {first second : String} (same : tag ++ first = tag ++ second) : first = second := by
  have lists := congrArg String.toList same
  rw [String.toList_append,String.toList_append] at lists
  exact String.toList_inj.mp (List.append_cancel_left lists)

theorem alphanum_solid {c : Char} (alphanum : c.isAlphanum = true) : isSpace c = false := by
  have ranges : ((decide (c.val ≥ 65 ∧ c.val ≤ 90) || (decide (c.val ≥ 97) && decide (c.val ≤ 122))) ||
      (decide (c.val ≥ 48) && decide (c.val ≤ 57))) = true := alphanum
  simp only [Bool.or_eq_true,Bool.and_eq_true,decide_eq_true_eq,ge_iff_le,UInt32.le_iff_toNat_le] at ranges
  have bounds : (48 ≤ c.toNat ∧ c.toNat ≤ 57) ∨ (65 ≤ c.toNat ∧ c.toNat ≤ 90) ∨ (97 ≤ c.toNat ∧ c.toNat ≤ 122) := by
    rcases ranges with (upper | lower) | digit
    · exact .inr (.inl upper)
    · exact .inr (.inr lower)
    · exact .inl digit
  simp only [isSpace,Bool.or_eq_false_iff,Bool.and_eq_false_iff,decide_eq_false_iff_not,beq_eq_false_iff_ne]
  omega

def Solid (text : String) : Prop := ∀ c ∈ text.toList, isSpace c = false

instance (text : String) : Decidable (Solid text) := List.decidableBAll (fun c => isSpace c = false) text.toList

theorem Solid.append {first second : String} (left : Solid first) (right : Solid second) : Solid (first ++ second) := by
  intro c member
  rw [String.toList_append,List.mem_append] at member
  exact member.elim (left c) (right c)

theorem Solid.strip_eq {text : String} (solid : Solid text) : strip text = text := by
  have idle : ∀ chars : List Char, (∀ c ∈ chars, isSpace c = false) → chars.dropWhile isSpace = chars := by
    intro chars none
    cases chars with
    | nil => rfl
    | cons c chars => simp [none c (List.mem_cons_self ..)]
  have backwards : ∀ c ∈ text.toList.reverse, isSpace c = false :=
    fun c member => solid c (List.mem_reverse.mp member)
  unfold strip
  rw [idle _ solid,idle _ backwards,List.reverse_reverse,String.ofList_toList]

theorem strip_head {text : String} {c : Char} {rest : List Char} (shape : text.toList = c :: rest) (visible : isSpace c = false) :
    (strip text).toList.head? = some c := by
  have front : (c :: rest).dropWhile isSpace = c :: rest := by simp [visible]
  have back : ∀ chars : List Char, (chars++[c]).dropWhile isSpace = chars.dropWhile isSpace++[c] := by
    intro chars
    induction chars with
    | nil => simp [visible]
    | cons first chars ih =>
      by_cases blank : isSpace first
      · simp [blank,ih]
      · simp [blank]
  unfold strip
  rw [shape,front,List.reverse_cons,back,List.reverse_append,String.toList_ofList]
  rfl

end GmsRemoteTest.Text
