import Mathlib.Data.List.Basic

/-! JSON texts: the reader with its values, and the compact writer of a list of strings. A reader gets fuel
for the values that are nested in the text or follow one another in it; the length of the text is enough. -/
namespace Json

inductive Value where
  | null
  | bool (value : Bool)
  | number (text : String)
  | string (text : String)
  | array (items : List Value)
  | object (fields : List (String × Value))

def put {α : Type} (key : String) (value : α) : List (String × α) → List (String × α)
  | [] => [(key,value)]
  | field :: fields => if field.1 = key then (key,value) :: fields else field :: put key value fields

/-- `value.get(key)` of an object. -/
def Value.get (value : Value) (key : String) : Option Value :=
  match value with
  | .object fields => fields.lookup key
  | _ => none

def Value.isObject : Value → Bool
  | .object _ => true
  | _ => false

def hexDigit (n : Nat) : Char := "0123456789abcdef".toList.getD n '0'

def writeUnit (unit : Nat) : List Char :=
  ['\\','u',hexDigit (unit / 4096),hexDigit (unit / 256 % 16),hexDigit (unit / 16 % 16),hexDigit (unit % 16)]

def plain (c : Char) : Bool := 32 ≤ c.toNat && c.toNat ≤ 126 && c != '"' && c != '\\'

def escape (c : Char) : List Char :=
  if plain c then [c]
  else if c = '"' then ['\\','"']
  else if c = '\\' then ['\\','\\']
  else if c = '\n' then ['\\','n']
  else if c = '\r' then ['\\','r']
  else if c = '\t' then ['\\','t']
  else if c.toNat = 8 then ['\\','b']
  else if c.toNat = 12 then ['\\','f']
  else if c.toNat < 65536 then writeUnit c.toNat
  else writeUnit (55296 + (c.toNat - 65536) / 1024) ++ writeUnit (56320 + (c.toNat - 65536) % 1024)

def writeString (text : String) : List Char := '"' :: text.toList.flatMap escape ++ ['"']

def dumps (names : List String) : List Char := '[' :: [','].intercalate (names.map writeString) ++ [']']

def skip (chars : List Char) : List Char := chars.dropWhile fun c => c == ' ' || c == '\t' || c == '\n' || c == '\r'

def hexValue (c : Char) : Option Nat :=
  if '0' ≤ c ∧ c ≤ '9' then some (c.toNat - 48)
  else if 'a' ≤ c ∧ c ≤ 'f' then some (c.toNat - 87)
  else if 'A' ≤ c ∧ c ≤ 'F' then some (c.toNat - 55) else none

def readUnit : List Char → Option (Nat × List Char)
  | a :: b :: c :: d :: rest => match hexValue a, hexValue b, hexValue c, hexValue d with
    | some a, some b, some c, some d => some (((a * 16 + b) * 16 + c) * 16 + d,rest)
    | _, _, _, _ => none
  | _ => none

def unescape (c : Char) : Option Char :=
  if c = '"' ∨ c = '\\' ∨ c = '/' then some c
  else if c = 'b' then some (Char.ofNat 8)
  else if c = 'f' then some (Char.ofNat 12)
  else if c = 'n' then some '\n'
  else if c = 'r' then some '\r'
  else if c = 't' then some '\t' else none

def readLow : List Char → Option (Nat × List Char)
  | '\\' :: 'u' :: rest => (readUnit rest).filter fun (low,_) => 56320 ≤ low && low ≤ 57343
  | _ => none

def readEscaped (chars : List Char) : Option (Char × List Char) :=
  (readUnit chars).map fun (unit,rest) =>
    if 55296 ≤ unit ∧ unit ≤ 56319 then match readLow rest with
      | some (low,rest) => (Char.ofNat (65536 + (unit - 55296) * 1024 + (low - 56320)),rest)
      | none => (Char.ofNat 65533,rest)
    else if 56320 ≤ unit ∧ unit ≤ 57343 then (Char.ofNat 65533,rest)
    else (Char.ofNat unit,rest)

def readString : Nat → List Char → Option (List Char × List Char)
  | 0, _ => none
  | _ + 1, [] => none
  | fuel + 1, c :: rest =>
    if c = '"' then some ([],rest)
    else if c = '\\' then match rest with
      | [] => none
      | e :: rest =>
        if e = 'u' then (readEscaped rest).bind fun (read,rest) => (readString fuel rest).map fun (text,rest) => (read :: text,rest)
        else (unescape e).bind fun read => (readString fuel rest).map fun (text,rest) => (read :: text,rest)
    else if c.toNat < 32 then none
    else (readString fuel rest).map fun (text,rest) => (c :: text,rest)

def digits (chars : List Char) : List Char × List Char := (chars.takeWhile Char.isDigit,chars.dropWhile Char.isDigit)

def readFraction (chars : List Char) : List Char × List Char :=
  match chars with
  | '.' :: rest => if (digits rest).1 = [] then ([],chars) else ('.' :: (digits rest).1,(digits rest).2)
  | _ => ([],chars)

def readExponent (chars : List Char) : List Char × List Char :=
  match chars with
  | e :: sign :: rest =>
    if e ≠ 'e' ∧ e ≠ 'E' then ([],chars)
    else if sign = '+' ∨ sign = '-' then
      if (digits rest).1 = [] then ([],chars) else (e :: sign :: (digits rest).1,(digits rest).2)
    else if (digits (sign :: rest)).1 = [] then ([],chars)
    else (e :: (digits (sign :: rest)).1,(digits (sign :: rest)).2)
  | _ => ([],chars)

def readNumber (chars : List Char) : Option (List Char × List Char) :=
  let (sign,rest) := match chars with
    | '-' :: rest => (['-'],rest)
    | _ => ([],chars)
  let (whole,rest) := match rest with
    | '0' :: rest => (['0'],rest)
    | _ => digits rest
  if whole = [] then none
  else
    let (fraction,rest) := readFraction rest
    let (exponent,rest) := readExponent rest
    some (sign ++ whole ++ fraction ++ exponent,rest)

def readWord (word : String) (value : Value) (chars : List Char) : Option (Value × List Char) :=
  if word.toList.isPrefixOf chars then some (value,chars.drop word.length) else none

def readScalar (chars : List Char) : Option (Value × List Char) :=
  (readWord "null" .null chars).or <| (readWord "true" (.bool true) chars).or <| (readWord "false" (.bool false) chars).or <|
    ((readNumber chars).map fun (text,rest) => (Value.number (String.ofList text),rest)).or <|
    (readWord "NaN" (.number "nan") chars).or <| (readWord "Infinity" (.number "inf") chars).or <|
    readWord "-Infinity" (.number "-inf") chars

mutual

def readValue : Nat → List Char → Option (Value × List Char)
  | 0, _ => none
  | _ + 1, [] => none
  | fuel + 1, c :: rest =>
    if c = '"' then (readString (rest.length + 1) rest).map fun (text,rest) => (.string (String.ofList text),rest)
    else if c = '[' then match skip rest with
      | ']' :: rest => some (.array [],rest)
      | rest => (readItems fuel rest).map fun (items,rest) => (.array items,rest)
    else if c = '{' then match skip rest with
      | '}' :: rest => some (.object [],rest)
      | rest => (readFields fuel [] rest).map fun (fields,rest) => (.object fields,rest)
    else readScalar (c :: rest)

def readItems : Nat → List Char → Option (List Value × List Char)
  | 0, _ => none
  | fuel + 1, chars => (readValue fuel chars).bind fun (item,rest) => match skip rest with
    | ']' :: rest => some ([item],rest)
    | ',' :: rest => (readItems fuel (skip rest)).map fun (items,rest) => (item :: items,rest)
    | _ => none

def readFields : Nat → List (String × Value) → List Char → Option (List (String × Value) × List Char)
  | 0, _, _ => none
  | fuel + 1, fields, chars => match chars with
    | '"' :: rest => (readString (rest.length + 1) rest).bind fun (key,rest) => match skip rest with
      | ':' :: rest => (readValue fuel (skip rest)).bind fun (value,rest) =>
        let fields := put (String.ofList key) value fields
        match skip rest with
        | '}' :: rest => some (fields,rest)
        | ',' :: rest => readFields fuel fields (skip rest)
        | _ => none
      | _ => none
    | _ => none

end

def loads (chars : List Char) : Option Value :=
  (readValue (chars.length + 1) (skip chars)).bind fun (value,rest) => if skip rest = [] then some value else none

def Plain (text : String) : Prop := ∀ c ∈ text.toList, plain c = true

instance (text : String) : Decidable (Plain text) := List.decidableBAll (fun c => plain c = true) text.toList

theorem Plain.flatMap_escape {text : String} (all : Plain text) : text.toList.flatMap escape = text.toList := by
  have each : ∀ chars : List Char, (∀ c ∈ chars, plain c = true) → chars.flatMap escape = chars := by
    intro chars all
    induction chars with
    | nil => rfl
    | cons c chars ih =>
      obtain ⟨first,rest⟩ := List.forall_mem_cons.mp all
      rw [List.flatMap_cons,ih rest,escape,if_pos first]
      rfl
  exact each _ all

theorem readString_plain {chars : List Char} (all : ∀ c ∈ chars, plain c = true) (rest : List Char) {fuel : Nat}
    (enough : chars.length < fuel) : readString fuel (chars ++ '"' :: rest) = some (chars,rest) := by
  induction chars generalizing fuel with
  | nil =>
    obtain ⟨fuel,rfl⟩ : ∃ less, fuel = less + 1 := ⟨fuel - 1,by omega⟩
    rfl
  | cons c chars ih =>
    obtain ⟨fuel,rfl⟩ : ∃ less, fuel = less + 1 := ⟨fuel - 1,by omega⟩
    obtain ⟨first,others⟩ := List.forall_mem_cons.mp all
    have later := ih others (Nat.lt_of_succ_lt_succ enough)
    simp only [plain,Bool.and_eq_true,decide_eq_true_eq,bne_iff_ne] at first
    rw [List.cons_append,readString.eq_def]
    dsimp only
    rw [if_neg first.1.2,if_neg first.2,if_neg (by omega),later]
    rfl

theorem hexValue_digit : ∀ n < 16, hexValue (hexDigit n) = some n := by decide

def unitDigits (unit : Nat) : List Char :=
  [hexDigit (unit / 4096),hexDigit (unit / 256 % 16),hexDigit (unit / 16 % 16),hexDigit (unit % 16)]

theorem readUnit_digits {unit : Nat} (small : unit < 65536) (rest : List Char) : readUnit (unitDigits unit ++ rest) = some (unit,rest) := by
  simp only [unitDigits,List.cons_append,List.nil_append,readUnit,hexValue_digit (unit / 4096) (by omega),
    hexValue_digit (unit / 256 % 16) (by omega),hexValue_digit (unit / 16 % 16) (by omega),hexValue_digit (unit % 16) (by omega),
    Option.some.injEq,Prod.mk.injEq,and_true]
  omega

theorem readLow_unit {low : Nat} (least : 56320 ≤ low) (most : low ≤ 57343) (rest : List Char) :
    readLow (writeUnit low ++ rest) = some (low,rest) := by
  show (readUnit (unitDigits low ++ rest)).filter _ = _
  rw [readUnit_digits (by omega)]
  simp [least,most]

theorem readEscaped_unit {c : Char} (small : c.toNat < 65536) (rest : List Char) :
    readEscaped (unitDigits c.toNat ++ rest) = some (c,rest) := by
  have valid : c.toNat < 55296 ∨ 57343 < c.toNat ∧ c.toNat < 1114112 := c.valid
  unfold readEscaped
  rw [readUnit_digits small,Option.map_some]
  dsimp only
  rw [if_neg (by omega),if_neg (by omega),Char.ofNat_toNat]

theorem readEscaped_pair {c : Char} (large : ¬c.toNat < 65536) (rest : List Char) :
    readEscaped (unitDigits (55296 + (c.toNat - 65536) / 1024) ++ (writeUnit (56320 + (c.toNat - 65536) % 1024) ++ rest)) = some (c,rest) := by
  have valid : c.toNat < 55296 ∨ 57343 < c.toNat ∧ c.toNat < 1114112 := c.valid
  unfold readEscaped
  rw [readUnit_digits (by omega),Option.map_some]
  dsimp only
  rw [if_pos (by omega),readLow_unit (by omega) (by omega)]
  dsimp only
  have whole : 65536 + (55296 + (c.toNat - 65536) / 1024 - 55296) * 1024 + (56320 + (c.toNat - 65536) % 1024 - 56320) = c.toNat := by
    omega
  rw [whole,Char.ofNat_toNat]

theorem readString_unescape {e : Char} (other : e ≠ 'u') (fuel : Nat) (tail : List Char) :
    readString (fuel + 1) ('\\'::e::tail) = (unescape e).bind fun read => (readString fuel tail).map fun (text,rest) => (read::text,rest) := by
  rw [readString.eq_def]
  dsimp only
  rw [if_neg (by decide),if_pos rfl,if_neg other]

theorem readString_escape (c : Char) (fuel : Nat) (tail : List Char) :
    readString (fuel + 1) (escape c ++ tail) = (readString fuel tail).map fun (text,rest) => (c::text,rest) := by
  have named : ∀ n : Nat, c.toNat = n → c = Char.ofNat n := fun n same => same ▸ (Char.ofNat_toNat c).symm
  have short : ∀ e read : Char, e ≠ 'u' → unescape e = some read → c = read →
      readString (fuel + 1) (['\\',e] ++ tail) = (readString fuel tail).map fun (text,rest) => (c::text,rest) := by
    rintro e read other reads rfl
    rw [List.cons_append,List.cons_append,List.nil_append,readString_unescape other,reads,Option.bind_some]
  have unit : ∀ unit rest, readEscaped (unitDigits unit ++ rest) = some (c,tail) →
      readString (fuel + 1) (writeUnit unit ++ rest) = (readString fuel tail).map fun (text,rest) => (c::text,rest) := by
    intro unit rest reads
    show readString (fuel + 1) ('\\' :: 'u' :: (unitDigits unit ++ rest)) = _
    rw [readString.eq_def]
    dsimp only
    rw [if_neg (by decide),if_pos rfl,if_pos rfl,reads,Option.bind_some]
  unfold escape
  split_ifs with first quote slash newline back tab bell feed small
  · simp only [plain,Bool.and_eq_true,decide_eq_true_eq,bne_iff_ne] at first
    rw [List.cons_append,List.nil_append,readString.eq_def]
    dsimp only
    rw [if_neg first.1.2,if_neg first.2,if_neg (by omega)]
  · exact short '"' _ (by decide) rfl quote
  · exact short '\\' _ (by decide) rfl slash
  · exact short 'n' _ (by decide) rfl newline
  · exact short 'r' _ (by decide) rfl back
  · exact short 't' _ (by decide) rfl tab
  · exact short 'b' _ (by decide) rfl (named 8 bell)
  · exact short 'f' _ (by decide) rfl (named 12 feed)
  · exact unit _ _ (readEscaped_unit small tail)
  · rw [List.append_assoc]
    exact unit _ _ (readEscaped_pair small tail)

theorem readString_written (chars rest : List Char) {fuel : Nat} (enough : chars.length < fuel) :
    readString fuel (chars.flatMap escape ++ '"'::rest) = some (chars,rest) := by
  induction chars generalizing fuel with
  | nil =>
    obtain ⟨fuel,rfl⟩ : ∃ less, fuel = less + 1 := ⟨fuel - 1,by omega⟩
    rfl
  | cons c chars ih =>
    obtain ⟨fuel,rfl⟩ : ∃ less, fuel = less + 1 := ⟨fuel - 1,by omega⟩
    have later := ih (Nat.lt_of_succ_lt_succ enough)
    rw [List.flatMap_cons,List.append_assoc,readString_escape,later]
    rfl

theorem escape_length (c : Char) : 1 ≤ (escape c).length := by
  unfold escape
  split_ifs <;> simp [writeUnit]

theorem flatMap_escape_length (chars : List Char) : chars.length ≤ (chars.flatMap escape).length := by
  induction chars with
  | nil => exact Nat.le_refl _
  | cons c chars ih =>
    have first := escape_length c
    rw [List.flatMap_cons,List.length_append,List.length_cons]
    omega

theorem readValue_string (text : String) (rest : List Char) (fuel : Nat) :
    readValue (fuel + 1) (writeString text ++ rest) = some (.string text,rest) := by
  have body : writeString text ++ rest = '"' :: (text.toList.flatMap escape ++ '"' :: rest) := by
    simp [writeString]
  have enough : text.toList.length < (text.toList.flatMap escape ++ '"' :: rest).length + 1 := by
    have written := flatMap_escape_length text.toList
    rw [List.length_append]
    omega
  rw [body,readValue,if_pos rfl,readString_written text.toList rest enough]
  simp

def writeItems (names : List String) : List Char := [','].intercalate (names.map writeString)

section
variable (first : String) (names : List String)

theorem writeItems_opens (rest : List Char) :
    ∃ tail, writeItems (first::names) ++ rest = '"' :: tail := by
  cases names <;> exact ⟨_,rfl⟩

theorem skip_items (rest : List Char) :
    skip (writeItems (first::names) ++ rest) = writeItems (first::names) ++ rest := by
  obtain ⟨tail,opens⟩ := writeItems_opens first names rest
  rw [opens]
  rfl

theorem writeItems_length : names.length + 1 ≤ (writeItems (first::names)).length := by
  induction names generalizing first with
  | nil =>
    have alone : writeItems [first] = writeString first := List.intercalate_singleton
    simp [alone,writeString]
  | cons second names ih =>
    have later := ih second
    unfold writeItems at later ⊢
    rw [List.map_cons,List.map_cons,List.intercalate_cons_cons]
    rw [List.map_cons] at later
    simp only [List.length_append,List.length_cons,List.length_nil] at later ⊢
    omega

end

theorem readItems_strings (names : List String) (first : String) (rest : List Char)
    {fuel : Nat} (enough : names.length + 1 < fuel) :
    readItems fuel (writeItems (first::names) ++ ']' :: rest) = some ((first::names).map .string,rest) := by
  obtain ⟨more,rfl⟩ : ∃ more, fuel = more + 1 + 1 := ⟨fuel - 2,by omega⟩
  induction names generalizing first more with
  | nil =>
    have alone : writeItems [first] = writeString first := List.intercalate_singleton
    rw [alone,readItems,readValue_string]
    rfl
  | cons second names ih =>
    simp only [List.length_cons] at enough
    obtain ⟨less,rfl⟩ : ∃ less, more = less + 1 := ⟨more - 1,by omega⟩
    have later := ih second less (by omega)
    have shape : writeItems (first::second::names) ++ ']' :: rest =
        writeString first ++ ',' :: (writeItems (second::names) ++ ']' :: rest) := by
      unfold writeItems
      rw [List.map_cons,List.map_cons,List.intercalate_cons_cons]
      simp
    rw [shape,readItems,readValue_string,Option.bind_some]
    change (readItems (less + 1 + 1) (skip (writeItems (second::names) ++ ']' :: rest))).map _ = _
    rw [skip_items,later]
    rfl

theorem loads_dumps (names : List String) : loads (dumps names) = some (.array (names.map .string)) := by
  cases names with
  | nil => rfl
  | cons first names =>
    have longer : names.length + 1 < (dumps (first::names)).length := by
      have items : names.length + 1 ≤ (writeItems (first::names)).length := writeItems_length first names
      have whole : (dumps (first::names)).length = (writeItems (first::names)).length + 2 := by
        simp [dumps,writeItems]
      omega
    have items := readItems_strings names first [] longer
    obtain ⟨tail,opens⟩ := writeItems_opens first names [']']
    have text : dumps (first::names) = '[' :: '"' :: tail := by
      rw [← opens]
      rfl
    rw [opens] at items
    unfold loads
    rw [text] at items ⊢
    change ((readItems ('[' :: '"' :: tail).length ('"' :: tail)).map _).bind _ = _
    rw [items]
    rfl

end Json
