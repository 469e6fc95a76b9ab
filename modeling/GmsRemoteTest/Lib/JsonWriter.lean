import Mathlib.Data.List.Sort
import GmsRemoteTest.Lib.JsonObject

/-! The compact writer of JSON values, and objects with their keys in order. A number keeps the text it was read from. -/
namespace Json

def escapeText (c : Char) : List Char :=
  if c = '"' then ['\\','"']
  else if c = '\\' then ['\\','\\']
  else if c = '\n' then ['\\','n']
  else if c = '\r' then ['\\','r']
  else if c = '\t' then ['\\','t']
  else if c.toNat = 8 then ['\\','b']
  else if c.toNat = 12 then ['\\','f']
  else if c.toNat < 32 then writeUnit c.toNat else [c]

def dumpString (text : String) : List Char := '"' :: text.toList.flatMap escapeText ++ ['"']

def dumpNumber (text : String) : List Char :=
  if text = "nan" then "NaN".toList else if text = "inf" then "Infinity".toList else if text = "-inf" then "-Infinity".toList else text.toList

mutual

def dump : Value → List Char
  | .null => "null".toList
  | .bool true => "true".toList
  | .bool false => "false".toList
  | .number text => dumpNumber text
  | .string text => dumpString text
  | .array items => '[' :: dumpItems items ++ [']']
  | .object fields => '{' :: dumpFields fields ++ ['}']

def dumpItems : List Value → List Char
  | [] => []
  | [item] => dump item
  | item :: items => dump item ++ ',' :: dumpItems items

def dumpFields : List (String × Value) → List Char
  | [] => []
  | [(key,value)] => dumpString key ++ ':' :: dump value
  | (key,value) :: fields => dumpString key ++ ':' :: dump value ++ ',' :: dumpFields fields

end

mutual

def sortKeys : Value → Value
  | .array items => .array (sortItems items)
  | .object fields => .object ((sortFields fields).insertionSort fun first second => first.1 ≤ second.1)
  | value => value

def sortItems : List Value → List Value
  | [] => []
  | item :: items => sortKeys item :: sortItems items

def sortFields : List (String × Value) → List (String × Value)
  | [] => []
  | (key,value) :: fields => (key,sortKeys value) :: sortFields fields

end

theorem dump_object (fields : Fields) : dump (.object fields) = '{' :: (dumpFields fields ++ ['}']) := by
  rw [dump,List.cons_append]

theorem plain_escapeText {c : Char} (plainChar : plain c = true) : escapeText c = [c] := by
  simp only [plain,Bool.and_eq_true,decide_eq_true_eq,bne_iff_ne] at plainChar
  obtain ⟨⟨⟨low,_⟩,quote⟩,escape⟩ := plainChar
  unfold escapeText
  have newline : c ≠ '\n' := by rintro rfl; exact absurd low (by decide)
  have return_ : c ≠ '\r' := by rintro rfl; exact absurd low (by decide)
  have tab : c ≠ '\t' := by rintro rfl; exact absurd low (by decide)
  rw [if_neg quote,if_neg escape,if_neg newline,if_neg return_,if_neg tab,if_neg (by omega),if_neg (by omega),if_neg (by omega)]

theorem dumpString_plain {text : String} (all : Plain text) : dumpString text = '"' :: (text.toList ++ ['"']) := by
  have body : ∀ chars : List Char, (∀ c ∈ chars, plain c = true) → chars.flatMap escapeText = chars := by
    intro chars all
    induction chars with
    | nil => rfl
    | cons c chars ih =>
      obtain ⟨first,others⟩ := List.forall_mem_cons.mp all
      rw [List.flatMap_cons,plain_escapeText first,ih others]
      rfl
  rw [dumpString,body _ all,List.cons_append]

theorem put_fresh {key : String} {fields : Fields} (fresh : key ∉ keys fields) (value : Value) :
    put key value fields = fields ++ [(key,value)] := by
  induction fields with
  | nil => rfl
  | cons field fields ih =>
    have other : field.1 ≠ key := fun same => fresh (same ▸ List.mem_cons_self ..)
    have later : key ∉ keys fields := fun member => fresh (List.mem_cons_of_mem _ member)
    rw [put,if_neg other,ih later]
    rfl

def textFields (texts : List (String × String)) : Fields := texts.map fun text => (text.1,.string text.2)

theorem dumpFields_opens (first : String × String) (texts : List (String × String)) (rest : List Char) :
    ∃ tail, dumpFields (textFields (first::texts)) ++ rest = '"'::tail := by
  cases texts <;> exact ⟨_,rfl⟩

theorem dumpFields_length (first : String × String) (texts : List (String × String)) :
    texts.length + 2 ≤ (dumpFields (textFields (first::texts))).length := by
  induction texts generalizing first with
  | nil =>
    change _ ≤ (dumpString first.1 ++ ':'::dump (.string first.2)).length
    simp [dumpString]
    omega
  | cons second texts ih =>
    have later := ih second
    change _ ≤ (dumpString first.1 ++ ':'::dump (.string first.2) ++ ','::dumpFields (textFields (second::texts))).length
    simp only [List.length_append,List.length_cons] at later ⊢
    omega

theorem readFields_texts (texts : List (String × String)) (first : String × String) (before : Fields)
    (plain : ∀ text ∈ first::texts, Plain text.1 ∧ Plain text.2) (distinct : (keys before ++ (first::texts).map Prod.fst).Nodup)
    (rest : List Char) {fuel : Nat} (enough : texts.length + 1 < fuel) :
    readFields fuel before (dumpFields (textFields (first::texts)) ++ '}'::rest) = some (before ++ textFields (first::texts),rest) := by
  induction texts generalizing first before fuel with
  | nil =>
    obtain ⟨fuel,rfl⟩ : ∃ less, fuel = less + 1 + 1 := ⟨fuel - 2,by simp at enough; omega⟩
    obtain ⟨key,value⟩ := plain first (List.mem_cons_self ..)
    have fresh : first.1 ∉ keys before := fun member => (List.nodup_append.mp distinct).2.2 _ member _ (List.mem_cons_self ..) rfl
    have shape : dumpFields (textFields [first]) ++ '}'::rest =
        '"'::(first.1.toList ++ '"':: ':':: '"'::(first.2.toList ++ '"':: '}'::rest)) := by
      change dumpString first.1 ++ ':'::dump (.string first.2) ++ _ = _
      rw [dump,dumpString_plain key,dumpString_plain value]
      simp
    rw [shape,readFields,readString_plain key _ (by simp only [List.length_append,List.length_cons]; omega),Option.bind_some]
    change (readValue (fuel+1) ('"'::(first.2.toList ++ '"':: '}'::rest))).bind _ = _
    rw [readValue,if_pos rfl,readString_plain value _ (by simp only [List.length_append,List.length_cons]; omega)]
    change some (put (String.ofList first.1.toList) (.string (String.ofList first.2.toList)) before,rest) = _
    rw [String.ofList_toList,String.ofList_toList,put_fresh fresh]
    rfl
  | cons second texts ih =>
    obtain ⟨fuel,rfl⟩ : ∃ less, fuel = less + 1 + 1 := ⟨fuel - 2,by simp at enough; omega⟩
    obtain ⟨key,value⟩ := plain first (List.mem_cons_self ..)
    have fresh : first.1 ∉ keys before := fun member => (List.nodup_append.mp distinct).2.2 _ member _ (List.mem_cons_self ..) rfl
    have later := @ih second (before ++ [(first.1,.string first.2)]) (fun text listed => plain text (List.mem_cons_of_mem _ listed))
      (by simpa [keys] using distinct) (fuel+1) (by simp at enough; omega)
    have shape : dumpFields (textFields (first::second::texts)) ++ '}'::rest =
        '"'::(first.1.toList ++ '"':: ':':: '"'::(first.2.toList ++ '"':: ','::(dumpFields (textFields (second::texts)) ++ '}'::rest))) := by
      change dumpString first.1 ++ ':'::dump (.string first.2) ++ ','::dumpFields (textFields (second::texts)) ++ _ = _
      rw [dump,dumpString_plain key,dumpString_plain value]
      simp
    rw [shape,readFields,readString_plain key _ (by simp only [List.length_append,List.length_cons]; omega),Option.bind_some]
    change (readValue (fuel+1) ('"'::(first.2.toList ++ '"'::_))).bind _ = _
    rw [readValue,if_pos rfl,readString_plain value _ (by simp only [List.length_append,List.length_cons]; omega)]
    change readFields (fuel+1) (put (String.ofList first.1.toList) (.string (String.ofList first.2.toList)) before)
      (skip (dumpFields (textFields (second::texts)) ++ '}'::rest)) = _
    obtain ⟨tail,opens⟩ := dumpFields_opens second texts ('}'::rest)
    have moved : skip (dumpFields (textFields (second::texts)) ++ '}'::rest) = dumpFields (textFields (second::texts)) ++ '}'::rest := by
      rw [opens]
      rfl
    rw [moved,String.ofList_toList,String.ofList_toList,put_fresh fresh,later,List.append_assoc]
    rfl

theorem loads_dump_texts {texts : List (String × String)} (plain : ∀ text ∈ texts, Plain text.1 ∧ Plain text.2)
    (distinct : (texts.map Prod.fst).Nodup) : loads (dump (.object (textFields texts))) = some (.object (textFields texts)) := by
  rw [dump_object]
  cases texts with
  | nil => rfl
  | cons first texts =>
    have long := dumpFields_length first texts
    have fields := @readFields_texts texts first [] plain distinct [] (dumpFields (textFields (first::texts)) ++ ['}']).length.succ
      (by simp only [List.length_append]; omega)
    obtain ⟨tail,opens⟩ := dumpFields_opens first texts ['}']
    rw [opens] at fields ⊢
    unfold loads
    change ((readFields ('"'::tail).length.succ [] ('"'::tail)).map _).bind _ = _
    rw [fields]
    rfl

def PlainFields (fields : Fields) : Prop := ∀ field ∈ fields, Plain field.1 ∧ ∃ text, field.2 = .string text ∧ Plain text

theorem plainFields_texts {texts : List (String × String)} (plain : ∀ text ∈ texts, Plain text.1 ∧ Plain text.2) :
    PlainFields (textFields texts) := by
  intro field listed
  obtain ⟨text,member,rfl⟩ := List.mem_map.mp listed
  exact ⟨(plain text member).1,text.2,rfl,(plain text member).2⟩

def Printable (c : Char) : Prop := plain c = true ∨ c = '"'

theorem printable_string {text : String} (all : Plain text) : ∀ c ∈ dumpString text, Printable c := by
  rw [dumpString_plain all]
  intro c listed
  simp only [List.mem_cons,List.mem_append,List.not_mem_nil,or_false] at listed
  rcases listed with quote | inner | quote
  · exact .inr quote
  · exact .inl (all c inner)
  · exact .inr quote

section
variable {fields : Fields} (all : PlainFields fields)
include all

theorem printable_fields : ∀ c ∈ dumpFields fields, Printable c := by
  have colon : Printable ':' := .inl (by decide)
  have comma : Printable ',' := .inl (by decide)
  induction fields with
  | nil => intro c listed; cases listed
  | cons field fields ih =>
    obtain ⟨⟨key,text,value,plain⟩,others⟩ := List.forall_mem_cons.mp all
    obtain ⟨name,value'⟩ := field
    cases value
    have one : ∀ c ∈ dumpString name ++ ':'::dump (.string text), Printable c := by
      intro c listed
      rw [dump] at listed
      rcases List.mem_append.mp listed with inner | inner
      · exact printable_string key c inner
      · rcases List.mem_cons.mp inner with rfl | inner
        · exact colon
        · exact printable_string plain c inner
    cases fields with
    | nil => exact one
    | cons second fields =>
      intro c listed
      rcases List.mem_append.mp (show c ∈ (dumpString name ++ ':'::dump (.string text)) ++ ','::dumpFields (second::fields) from listed) with
        inner | inner
      · exact one c inner
      · rcases List.mem_cons.mp inner with rfl | inner
        · exact comma
        · exact ih others c inner

theorem printable_object : ∀ c ∈ dump (.object fields), Printable c := by
  intro c listed
  rw [dump_object,List.mem_cons,List.mem_append,List.mem_singleton] at listed
  rcases listed with rfl | inner | rfl
  · exact .inl (by decide)
  · exact printable_fields all c inner
  · exact .inl (by decide)

theorem sortFields_plain : sortFields fields = fields := by
  induction fields with
  | nil => rfl
  | cons field fields ih =>
    obtain ⟨⟨_,text,value,_⟩,others⟩ := List.forall_mem_cons.mp all
    obtain ⟨name,value'⟩ := field
    cases value
    rw [sortFields,sortKeys,ih others]
    · intro items same
      cases same
    · intro fields same
      cases same

theorem printable_sorted : ∀ c ∈ dump (sortKeys (.object fields)), Printable c := by
  rw [sortKeys,sortFields_plain all]
  exact printable_object fun field listed => all field ((List.mem_insertionSort _).mp listed)

end

end Json
