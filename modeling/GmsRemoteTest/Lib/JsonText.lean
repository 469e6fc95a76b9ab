import GmsRemoteTest.Lib.Json

/-! JSON texts that go on: what is read at the front of a text is read there when more follows. A text that holds one
object is therefore no JSON text once another one is written behind it. -/
namespace Json

def Stops (rest more : List Char) : Prop :=
  more = [] ∨ ∃ c tail, rest = c::tail ∧ (c ∈ [' ','\t','\n','\r'] ∨ c ∈ [',',']','}'])

variable {chars rest more : List Char}

theorem Stops.ne_nil (stops : Stops rest more) (follows : more ≠ []) : rest ≠ [] := by
  obtain none | ⟨c,tail,rfl,_⟩ := stops
  · exact absurd none follows
  · exact List.cons_ne_nil c tail

theorem Stops.head {c : Char} {tail : List Char} (stops : Stops (c::tail) more) (follows : more ≠ []) :
    c.isDigit = false ∧ c ≠ '.' ∧ c ≠ 'e' ∧ c ≠ 'E' := by
  obtain none | ⟨first,_,same,stop⟩ := stops
  · exact absurd none follows
  · obtain ⟨rfl,_⟩ := List.cons_eq_cons.mp same
    simp only [List.mem_cons,List.not_mem_nil,or_false] at stop
    rcases stop with (rfl | rfl | rfl | rfl) | rfl | rfl | rfl <;> decide

theorem skip_append (held : skip chars ≠ []) (more : List Char) : skip (chars++more) = skip chars ++ more := by
  unfold skip at held ⊢
  rw [List.dropWhile_append,if_neg]
  simpa using held

theorem stops_of_skip {c : Char} {tail : List Char} (follows : skip rest = c::tail) (stop : c ∈ [',',']','}']) (more : List Char) :
    Stops rest more := by
  cases rest with
  | nil => cases follows
  | cons first others =>
    refine .inr ⟨first,others,rfl,?_⟩
    unfold skip at follows
    rw [List.dropWhile_cons] at follows
    split at follows
    · rename_i blank
      exact .inl (by simpa [or_assoc] using blank)
    · obtain ⟨rfl,_⟩ := List.cons_eq_cons.mp follows
      exact .inr stop

theorem digits_append (held : more = [] ∨ (digits chars).2 ≠ []) :
    digits (chars++more) = ((digits chars).1,(digits chars).2 ++ more) := by
  rcases held with rfl | held
  · simp
  · unfold digits at held ⊢
    induction chars with
    | nil => exact absurd rfl held
    | cons c chars ih =>
      dsimp only at held ih ⊢
      rw [List.cons_append,List.takeWhile_cons,List.dropWhile_cons,List.takeWhile_cons,List.dropWhile_cons]
      rw [List.dropWhile_cons] at held
      by_cases digit : c.isDigit
      · rw [if_pos digit] at held
        rw [if_pos digit,if_pos digit,if_pos digit,if_pos digit]
        obtain ⟨first,second⟩ := Prod.ext_iff.mp (ih held)
        exact Prod.ext (congrArg (c :: ·) first) second
      · rw [if_neg digit,if_neg digit,if_neg digit,if_neg digit]
        rfl

theorem readExponent_append (stops : Stops (readExponent chars).2 more) :
    readExponent (chars++more) = ((readExponent chars).1,(readExponent chars).2 ++ more) := by
  by_cases follows : more = []
  · simp [follows]
  have held := stops.ne_nil follows
  match chars with
  | [] => exact absurd rfl held
  | [e] =>
    obtain ⟨_,_,lower,upper⟩ := stops.head follows
    obtain ⟨c,tail,rfl⟩ := List.exists_cons_of_ne_nil follows
    change (if e ≠ 'e' ∧ e ≠ 'E' then _ else _) = _
    rw [if_pos ⟨lower,upper⟩]
    rfl
  | e::sign::rest =>
    rw [List.cons_append,List.cons_append]
    unfold readExponent at stops held ⊢
    dsimp only at stops held ⊢
    by_cases other : e ≠ 'e' ∧ e ≠ 'E'
    · rw [if_pos other,if_pos other]
      rfl
    · rw [if_neg other] at stops held
      rw [if_neg other,if_neg other]
      -- without digits the text would go on with the letter
      have letter : ∀ tail, Stops (e::tail) more → False := fun tail stops => other (stops.head follows).2.2
      split
      · rename_i signed
        rw [if_pos signed] at stops held
        by_cases none : (digits rest).1 = []
        · rw [if_pos none] at stops
          exact (letter _ stops).elim
        · rw [if_neg none] at held
          rw [digits_append (.inr held),if_neg none,if_neg none]
      · rename_i unsigned
        rw [if_neg unsigned] at stops held
        by_cases none : (digits (sign::rest)).1 = []
        · rw [if_pos none] at stops
          exact (letter _ stops).elim
        · rw [if_neg none] at held
          have longer := @digits_append (sign::rest) more (.inr held)
          rw [List.cons_append] at longer
          rw [longer,if_neg none,if_neg none]

theorem readFraction_point (rest : List Char) : readFraction ('.'::rest) =
    if (digits rest).1 = [] then ([],'.'::rest) else ('.' :: (digits rest).1,(digits rest).2) := rfl

theorem readFraction_stays {c : Char} (pointless : c ≠ '.') (tail : List Char) : readFraction (c::tail) = ([],c::tail) := by
  unfold readFraction
  split
  · rename_i same
    exact absurd (List.cons_eq_cons.mp same).1 pointless
  · rfl

theorem readFraction_append (held : more = [] ∨ (readFraction chars).2 ≠ [] ∧ ∀ tail, (readFraction chars).2 ≠ '.'::tail) :
    readFraction (chars++more) = ((readFraction chars).1,(readFraction chars).2 ++ more) := by
  rcases held with rfl | ⟨held,pointless⟩
  · simp
  · cases chars with
    | nil => exact absurd rfl held
    | cons c rest =>
      rw [List.cons_append]
      by_cases point : c = '.'
      · subst point
        rw [readFraction_point] at held pointless ⊢
        rw [readFraction_point]
        by_cases none : (digits rest).1 = []
        · rw [if_pos none] at pointless
          exact absurd rfl (pointless rest)
        · rw [if_neg none] at held
          rw [digits_append (.inr held),if_neg none,if_neg none]
      · rw [readFraction_stays point,readFraction_stays point]
        rfl

theorem readExponent_stays {c : Char} (lower : c ≠ 'e') (upper : c ≠ 'E') (tail : List Char) : readExponent (c::tail) = ([],c::tail) := by
  cases tail with
  | nil => rfl
  | cons => exact if_pos ⟨lower,upper⟩

def readDecimals (chars : List Char) : List Char × List Char :=
  ((readFraction chars).1 ++ (readExponent (readFraction chars).2).1,(readExponent (readFraction chars).2).2)

theorem readDecimals_append (stops : Stops (readDecimals chars).2 more) :
    readDecimals (chars++more) = ((readDecimals chars).1,(readDecimals chars).2 ++ more) := by
  unfold readDecimals at stops ⊢
  have fraction : readFraction (chars++more) = ((readFraction chars).1,(readFraction chars).2 ++ more) := by
    refine readFraction_append ?_
    by_cases follows : more = []
    · exact .inl follows
    · refine .inr ⟨fun none => ?_,fun tail point => ?_⟩
      · rw [none] at stops
        exact stops.ne_nil follows rfl
      · rw [point,readExponent_stays (by decide) (by decide)] at stops
        exact (stops.head follows).2.1 rfl
  rw [fraction,readExponent_append stops]

theorem readDecimals_nil : readDecimals [] = ([],[]) := rfl

def readWhole (chars : List Char) : List Char × List Char :=
  match chars with
  | '0' :: rest => (['0'],rest)
  | _ => digits chars

theorem readWhole_digits {c : Char} (other : c ≠ '0') (tail : List Char) : readWhole (c::tail) = digits (c::tail) := by
  unfold readWhole
  split
  · rename_i same
    exact absurd (List.cons_eq_cons.mp same).1 other
  · rfl

def readUnsigned (sign chars : List Char) : Option (List Char × List Char) :=
  if (readWhole chars).1 = [] then none
  else some (sign ++ (readWhole chars).1 ++ (readDecimals (readWhole chars).2).1,(readDecimals (readWhole chars).2).2)

theorem readNumber_minus (chars : List Char) : readNumber ('-'::chars) = readUnsigned ['-'] chars := by
  change (if (readWhole chars).1 = [] then none else some (['-'] ++ (readWhole chars).1 ++ (readFraction (readWhole chars).2).1 ++ _,_)) = _
  rw [List.append_assoc]
  rfl

theorem readNumber_unsigned {c : Char} (positive : c ≠ '-') (chars : List Char) : readNumber (c::chars) = readUnsigned [] (c::chars) := by
  unfold readNumber
  split
  · rename_i same
    split at same
    · rename_i minus
      exact absurd (List.cons_eq_cons.mp minus).1 positive
    · cases same
      change (if (readWhole (c::chars)).1 = [] then none else
        some ([] ++ (readWhole (c::chars)).1 ++ (readFraction (readWhole (c::chars)).2).1 ++ _,_)) = _
      rw [List.append_assoc]
      rfl

theorem readWhole_append (held : more = [] ∨ (readWhole chars).2 ≠ []) (some : (readWhole chars).1 ≠ []) :
    readWhole (chars++more) = ((readWhole chars).1,(readWhole chars).2 ++ more) := by
  cases chars with
  | nil => exact absurd rfl some
  | cons c chars =>
    by_cases zero : c = '0'
    · subst zero
      rfl
    · rw [readWhole_digits zero] at held ⊢
      rw [List.cons_append,readWhole_digits zero]
      exact @digits_append (c::chars) more held

theorem readUnsigned_append {sign text : List Char} (read : readUnsigned sign chars = some (text,rest)) (stops : Stops rest more) :
    readUnsigned sign (chars++more) = some (text,rest++more) := by
  unfold readUnsigned at read
  split at read
  · cases read
  · rename_i some
    cases read
    have held : more = [] ∨ (readWhole chars).2 ≠ [] := by
      by_cases follows : more = []
      · exact .inl follows
      · refine .inr fun none => ?_
        rw [none,readDecimals_nil] at stops
        exact stops.ne_nil follows rfl
    unfold readUnsigned
    rw [readWhole_append held some,if_neg some,readDecimals_append stops]

theorem readNumber_append {text : List Char} (read : readNumber chars = some (text,rest)) (stops : Stops rest more) :
    readNumber (chars++more) = some (text,rest++more) := by
  cases chars with
  | nil => cases read
  | cons c chars =>
    by_cases minus : c = '-'
    · subst minus
      rw [readNumber_minus] at read
      rw [List.cons_append,readNumber_minus]
      exact readUnsigned_append read stops
    · rw [readNumber_unsigned minus] at read
      rw [List.cons_append,readNumber_unsigned minus]
      exact @readUnsigned_append (c::chars) _ _ _ _ read stops

theorem readWord_append {word : String} {value read : Value} (found : readWord word value chars = some (read,rest)) (more : List Char) :
    readWord word value (chars++more) = some (read,rest++more) := by
  unfold readWord at found ⊢
  split at found
  · rename_i front
    cases found
    obtain ⟨tail,rfl⟩ := List.isPrefixOf_iff_prefix.mp front
    have longer : word.toList.isPrefixOf (word.toList ++ tail ++ more) = true :=
      List.isPrefixOf_iff_prefix.mpr ⟨tail++more,by simp⟩
    have size : word.length = word.toList.length := String.length_toList.symm
    rw [if_pos longer,size,List.append_assoc,List.drop_left,List.drop_left]
  · cases found

theorem readWord_head {word : String} {value : Value} {first c : Char} {letters : List Char} (spelt : word.toList = first::letters)
    (other : c ≠ first) (tail : List Char) : readWord word value (c::tail) = none := by
  unfold readWord
  rw [if_neg]
  intro front
  obtain ⟨after,whole⟩ := List.isPrefixOf_iff_prefix.mp front
  rw [spelt] at whole
  exact other (List.cons_eq_cons.mp whole).1.symm

theorem readWord_first {word : String} {value : Value} {first c : Char} {letters tail : List Char} {read : Value × List Char}
    (found : readWord word value (c::tail) = some read) (spelt : word.toList = first::letters) : c = first := by
  by_contra other
  rw [readWord_head spelt other] at found
  cases found

theorem readNumber_first {c : Char} {tail : List Char} {read : List Char × List Char} (found : readNumber (c::tail) = some read) :
    c = '-' ∨ c.isDigit := by
  by_cases minus : c = '-'
  · exact .inl minus
  · refine .inr ?_
    rw [readNumber_unsigned minus] at found
    by_cases zero : c = '0'
    · rw [zero]
      rfl
    · by_contra letter
      unfold readUnsigned at found
      rw [if_pos] at found
      · cases found
      · rw [readWhole_digits zero]
        exact List.takeWhile_cons_of_neg letter

theorem readScalar_append {value : Value} (read : readScalar chars = some (value,rest)) (stops : Stops rest more) :
    readScalar (chars++more) = some (value,rest++more) := by
  cases chars with
  | nil => cases read
  | cons c chars =>
    have head : ∀ {word : String} {value : Value} {first : Char} {letters : List Char}, word.toList = first::letters → c ≠ first →
        readWord word value (c::chars ++ more) = none := fun spelt other => readWord_head spelt other _
    unfold readScalar at read ⊢
    simp only [Option.or_eq_some_iff] at read ⊢
    rcases read with read | ⟨_,read | ⟨_,read | ⟨_,read | ⟨_,read | ⟨_,read | ⟨_,read⟩⟩⟩⟩⟩⟩
    · exact .inl (readWord_append read more)
    · obtain rfl := readWord_first read rfl
      exact .inr ⟨head rfl (by decide),.inl (readWord_append read more)⟩
    · obtain rfl := readWord_first read rfl
      exact .inr ⟨head rfl (by decide),.inr ⟨head rfl (by decide),.inl (readWord_append read more)⟩⟩
    · obtain ⟨⟨text,after⟩,number,same⟩ := Option.map_eq_some_iff.mp read
      cases same
      have other : ∀ letter : Char, letter ≠ '-' → letter.isDigit = false → c ≠ letter := by
        rintro letter unsigned letters rfl
        rcases readNumber_first number with minus | digit
        · exact unsigned minus
        · rw [letters] at digit
          cases digit
      refine .inr ⟨head rfl (other 'n' (by decide) rfl),.inr ⟨head rfl (other 't' (by decide) rfl),
        .inr ⟨head rfl (other 'f' (by decide) rfl),.inl ?_⟩⟩⟩
      rw [readNumber_append number stops]
      rfl
    · obtain rfl := readWord_first read rfl
      exact .inr ⟨head rfl (by decide),.inr ⟨head rfl (by decide),.inr ⟨head rfl (by decide),.inr ⟨rfl,.inl (readWord_append read more)⟩⟩⟩⟩
    · obtain rfl := readWord_first read rfl
      exact .inr ⟨head rfl (by decide),.inr ⟨head rfl (by decide),.inr ⟨head rfl (by decide),.inr ⟨rfl,.inr ⟨head rfl (by decide),
        .inl (readWord_append read more)⟩⟩⟩⟩⟩
    · obtain rfl := readWord_first read rfl
      refine .inr ⟨head rfl (by decide),.inr ⟨head rfl (by decide),.inr ⟨head rfl (by decide),.inr ⟨?_,.inr ⟨head rfl (by decide),
        .inr ⟨head rfl (by decide),readWord_append read more⟩⟩⟩⟩⟩⟩
      -- a minus before a letter is no number
      unfold readWord at read
      split at read
      · rename_i front
        obtain ⟨tail,whole⟩ := List.isPrefixOf_iff_prefix.mp front
        rw [← whole]
        rfl
      · cases read

theorem readUnit_append {unit : Nat} (read : readUnit chars = some (unit,rest)) (more : List Char) :
    readUnit (chars++more) = some (unit,rest++more) := by
  match chars with
  | [] | [_] | [_,_] | [_,_,_] => cases read
  | a::b::c::d::tail =>
    simp only [List.cons_append,readUnit] at read ⊢
    split at read
    · cases read
      rfl
    · cases read

theorem readLow_pair (chars : List Char) :
    readLow ('\\':: 'u'::chars) = (readUnit chars).filter fun read => 56320 ≤ read.1 && read.1 ≤ 57343 := rfl

theorem readLow_other {e : Char} (other : e ≠ 'u') (chars : List Char) : readLow ('\\'::e::chars) = none := by
  unfold readLow
  split
  · rename_i same
    exact absurd (List.cons_eq_cons.mp (List.cons_eq_cons.mp same).2).1 other
  · rfl

theorem readLow_plain {c : Char} (other : c ≠ '\\') (chars : List Char) : readLow (c::chars) = none := by
  unfold readLow
  split
  · rename_i same
    exact absurd (List.cons_eq_cons.mp same).1 other
  · rfl

theorem readLow_append {low : Nat} (read : readLow chars = some (low,rest)) (more : List Char) :
    readLow (chars++more) = some (low,rest++more) := by
  match chars with
  | [] => cases read
  | [c] =>
    unfold readLow at read
    split at read
    · rename_i same
      cases same
    · cases read
  | c::e::chars =>
    by_cases escape : c = '\\'
    · subst escape
      by_cases unit : e = 'u'
      · subst unit
        rw [readLow_pair] at read
        obtain ⟨read,half⟩ := Option.filter_eq_some_iff.mp read
        rw [List.cons_append,List.cons_append,readLow_pair,readUnit_append read more]
        exact Option.filter_eq_some_iff.mpr ⟨rfl,half⟩
      · rw [readLow_other unit] at read
        cases read
    · rw [readLow_plain escape] at read
      cases read

theorem readLow_none {fuel : Nat} {text : List Char} (alone : readLow chars = none) (read : readString fuel chars = some (text,rest))
    (more : List Char) : readLow (chars++more) = none := by
  obtain ⟨fuel,rfl⟩ : ∃ less, fuel = less + 1 := by
    cases fuel with
    | zero => cases read
    | succ less => exact ⟨less,rfl⟩
  match chars with
  | [] => cases read
  | c::chars =>
    by_cases escape : c = '\\'
    · subst escape
      match chars with
      | [] => cases read
      | e::chars =>
        by_cases unit : e = 'u'
        · subst unit
          rw [readString.eq_def] at read
          dsimp only at read
          rw [if_neg (by decide),if_pos rfl,if_pos rfl] at read
          obtain ⟨⟨c,after⟩,escaped,_⟩ := Option.bind_eq_some_iff.mp read
          obtain ⟨⟨half,others⟩,found,_⟩ := Option.map_eq_some_iff.mp escaped
          rw [readLow_pair,found] at alone
          rw [List.cons_append,List.cons_append,readLow_pair,readUnit_append found more]
          simpa [Option.filter] using alone
        · exact readLow_other unit _
    · exact readLow_plain escape _

theorem readEscaped_append {fuel : Nat} {c : Char} {text after : List Char} (read : readEscaped chars = some (c,rest))
    (string : readString fuel rest = some (text,after)) (more : List Char) :
    readEscaped (chars++more) = some (c,rest++more) := by
  unfold readEscaped at read ⊢
  obtain ⟨⟨unit,others⟩,found,same⟩ := Option.map_eq_some_iff.mp read
  rw [readUnit_append found more,Option.map_some]
  dsimp only at same ⊢
  split at same
  · rename_i high
    rw [if_pos high]
    cases half : readLow others with
    | some low =>
      rw [half] at same
      obtain ⟨rfl,rfl⟩ := Prod.mk.inj same
      rw [readLow_append half more]
    | none =>
      rw [half] at same
      obtain ⟨rfl,rfl⟩ := Prod.mk.inj same
      rw [readLow_none half string more]
  · rename_i high
    rw [if_neg high]
    split at same
    · rename_i low
      obtain ⟨rfl,rfl⟩ := Prod.mk.inj same
      rw [if_pos low]
    · rename_i low
      obtain ⟨rfl,rfl⟩ := Prod.mk.inj same
      rw [if_neg low]

theorem readString_append {fuel longer : Nat} {text : List Char} (read : readString fuel chars = some (text,rest))
    (enough : fuel ≤ longer) (more : List Char) : readString longer (chars++more) = some (text,rest++more) := by
  induction fuel generalizing chars text longer with
  | zero => cases read
  | succ fuel ih =>
    obtain ⟨longer,rfl⟩ : ∃ less, longer = less + 1 := ⟨longer - 1,by omega⟩
    have less : fuel ≤ longer := Nat.le_of_succ_le_succ enough
    cases chars with
    | nil => cases read
    | cons c chars =>
      rw [List.cons_append]
      rw [readString.eq_def] at read ⊢
      dsimp only at read ⊢
      by_cases quote : c = '"'
      · rw [if_pos quote] at read ⊢
        cases read
        rfl
      · rw [if_neg quote] at read ⊢
        by_cases escape : c = '\\'
        · rw [if_pos escape] at read ⊢
          cases chars with
          | nil => cases read
          | cons e chars =>
            rw [List.cons_append]
            dsimp only at read ⊢
            by_cases unit : e = 'u'
            · rw [if_pos unit] at read ⊢
              obtain ⟨⟨c,after⟩,escaped,later⟩ := Option.bind_eq_some_iff.mp read
              obtain ⟨⟨text,last⟩,string,same⟩ := Option.map_eq_some_iff.mp later
              cases same
              rw [readEscaped_append escaped string more,Option.bind_some]
              dsimp only
              rw [ih string less]
              rfl
            · rw [if_neg unit] at read ⊢
              obtain ⟨c,escaped,later⟩ := Option.bind_eq_some_iff.mp read
              obtain ⟨⟨text,last⟩,string,same⟩ := Option.map_eq_some_iff.mp later
              cases same
              rw [escaped,Option.bind_some,ih string less]
              rfl
        · rw [if_neg escape] at read ⊢
          split at read
          · cases read
          · rename_i printed
            rw [if_neg printed]
            obtain ⟨⟨text,last⟩,string,same⟩ := Option.map_eq_some_iff.mp read
            cases same
            rw [ih string less]
            rfl

def Extends {α : Type} (read : Nat → List Char → Option (α × List Char)) (fuel : Nat) : Prop :=
  ∀ chars value rest, read fuel chars = some (value,rest) → ∀ longer more, fuel ≤ longer → read longer (chars++more) = some (value,rest++more)

theorem skip_found {α : Type} {read : List Char → Option α} {result : α} (empty : read [] = none)
    (found : read (skip chars) = some result) (more : List Char) : skip (chars++more) = skip chars ++ more := by
  refine skip_append (fun none => ?_) more
  rw [none,empty] at found
  cases found

theorem skip_open {α : Type} {read : List Char → Option α} {result : α} {closing : Char} (empty : read [] = none)
    (opened : ∀ tail, skip chars = closing::tail → False) (found : read (skip chars) = some result) (more : List Char) :
    ∀ tail, skip chars ++ more = closing::tail → False := by
  intro tail closed
  cases shape : skip chars with
  | nil =>
    rw [shape,empty] at found
    cases found
  | cons first others =>
    rw [shape] at closed
    obtain ⟨rfl,_⟩ := List.cons_eq_cons.mp closed
    exact opened others shape

theorem readScalar_object {fields : List (String × Value)} : readScalar chars ≠ some (.object fields,rest) := by
  have word : ∀ {word : String} {value : Value}, readWord word value chars = some (.object fields,rest) → value = .object fields := by
    intro word value found
    unfold readWord at found
    split at found
    · exact (Prod.mk.inj (Option.some.inj found)).1
    · cases found
  intro read
  simp only [readScalar,Option.or_eq_some_iff] at read
  rcases read with read | ⟨_,read | ⟨_,read | ⟨_,read | ⟨_,read | ⟨_,read | ⟨_,read⟩⟩⟩⟩⟩⟩
  · cases word read
  · cases word read
  · cases word read
  · obtain ⟨_,_,same⟩ := Option.map_eq_some_iff.mp read
    cases same
  · cases word read
  · cases word read
  · cases word read

theorem readItems_nil (fuel : Nat) : readItems fuel [] = none := by
  match fuel with
  | 0 | 1 | fuel+2 => rfl

theorem readFields_nil (fuel : Nat) (fields : List (String × Value)) : readFields fuel fields [] = none := by
  cases fuel <;> rfl

theorem readValue_append {fuel : Nat} (items : Extends readItems fuel) (fields : ∀ before, Extends (fun fuel => readFields fuel before) fuel)
    {value : Value} (read : readValue (fuel+1) chars = some (value,rest)) {longer : Nat} (enough : fuel + 1 ≤ longer)
    (stops : Stops rest more ∨ ∃ fields, value = .object fields) : readValue longer (chars++more) = some (value,rest++more) := by
  obtain ⟨longer,rfl⟩ : ∃ less, longer = less + 1 := ⟨longer - 1,by omega⟩
  have less : fuel ≤ longer := Nat.le_of_succ_le_succ enough
  cases chars with
  | nil => cases read
  | cons c chars =>
    rw [List.cons_append]
    rw [readValue] at read ⊢
    by_cases quote : c = '"'
    · rw [if_pos quote] at read ⊢
      obtain ⟨⟨text,after⟩,string,same⟩ := Option.map_eq_some_iff.mp read
      obtain ⟨rfl,rfl⟩ := Prod.mk.inj same
      rw [readString_append string (by simp) more]
      rfl
    · rw [if_neg quote] at read ⊢
      by_cases list : c = '['
      · rw [if_pos list] at read ⊢
        split at read
        · rename_i after closed
          obtain ⟨rfl,rfl⟩ := Prod.mk.inj (Option.some.inj read)
          rw [skip_append (by simp [closed]),closed]
          rfl
        · rename_i opened
          obtain ⟨⟨listed,after⟩,found,same⟩ := Option.map_eq_some_iff.mp read
          obtain ⟨rfl,rfl⟩ := Prod.mk.inj same
          rw [skip_found (readItems_nil fuel) found more]
          split
          · rename_i closed
            exact (skip_open (readItems_nil fuel) opened found more _ closed).elim
          · rw [items _ _ _ found longer more less]
            rfl
      · rw [if_neg list] at read ⊢
        by_cases object : c = '{'
        · rw [if_pos object] at read ⊢
          split at read
          · rename_i after closed
            obtain ⟨rfl,rfl⟩ := Prod.mk.inj (Option.some.inj read)
            rw [skip_append (by simp [closed]),closed]
            rfl
          · rename_i opened
            obtain ⟨⟨listed,after⟩,found,same⟩ := Option.map_eq_some_iff.mp read
            obtain ⟨rfl,rfl⟩ := Prod.mk.inj same
            rw [skip_found (readFields_nil fuel []) found more]
            split
            · rename_i closed
              exact (skip_open (readFields_nil fuel []) opened found more _ closed).elim
            · have later : readFields longer [] _ = _ := fields [] _ _ _ found longer more less
              rw [later]
              rfl
        · rw [if_neg object] at read ⊢
          refine readScalar_append read (stops.resolve_right ?_)
          rintro ⟨listed,rfl⟩
          exact readScalar_object read

structure ReadersExtend (fuel : Nat) : Prop where
  value : ∀ chars value rest, readValue fuel chars = some (value,rest) → ∀ longer more, fuel ≤ longer →
    (Stops rest more ∨ ∃ fields, value = .object fields) → readValue longer (chars++more) = some (value,rest++more)
  items : Extends readItems fuel
  fields : ∀ before, Extends (fun fuel => readFields fuel before) fuel

theorem ReadersExtend.nextItems {fuel : Nat} (extend : ReadersExtend fuel) : Extends readItems (fuel+1) := by
  intro chars listed rest read longer more enough
  obtain ⟨longer,rfl⟩ : ∃ less, longer = less + 1 := ⟨longer - 1,by omega⟩
  have less : fuel ≤ longer := Nat.le_of_succ_le_succ enough
  rw [readItems] at read ⊢
  obtain ⟨⟨item,after⟩,found,later⟩ := Option.bind_eq_some_iff.mp read
  dsimp only at later
  split at later
  · rename_i tail closed
    cases later
    rw [extend.value _ _ _ found longer more less (.inl (stops_of_skip closed (by simp) more)),Option.bind_some]
    dsimp only
    rw [skip_append (by simp [closed]),closed]
    rfl
  · rename_i tail next
    rw [extend.value _ _ _ found longer more less (.inl (stops_of_skip next (by simp) more)),Option.bind_some]
    dsimp only
    rw [skip_append (by simp [next]),next]
    obtain ⟨⟨items,last⟩,others,same⟩ := Option.map_eq_some_iff.mp later
    obtain ⟨rfl,rfl⟩ := Prod.mk.inj same
    change (readItems longer (skip (tail++more))).map _ = _
    rw [skip_found (readItems_nil fuel) others more,extend.items _ _ _ others longer more less]
    rfl
  · cases later

theorem ReadersExtend.nextFields {fuel : Nat} (extend : ReadersExtend fuel) (before : List (String × Value)) :
    Extends (fun fuel => readFields fuel before) (fuel+1) := by
  intro chars listed rest read longer more enough
  obtain ⟨longer,rfl⟩ : ∃ less, longer = less + 1 := ⟨longer - 1,by omega⟩
  have less : fuel ≤ longer := Nat.le_of_succ_le_succ enough
  dsimp only at read ⊢
  match chars with
  | [] => cases read
  | c::chars =>
    rw [List.cons_append]
    by_cases quote : c = '"'
    · subst quote
      rw [readFields] at read ⊢
      obtain ⟨⟨key,after⟩,name,later⟩ := Option.bind_eq_some_iff.mp read
      rw [readString_append name (by simp) more,Option.bind_some]
      dsimp only at later ⊢
      split at later
      · rename_i tail colon
        rw [skip_append (by simp [colon]),colon]
        obtain ⟨⟨value,last⟩,found,others⟩ := Option.bind_eq_some_iff.mp later
        have unread : readValue fuel [] = none := by cases fuel <;> rfl
        change (readValue longer (skip (tail++more))).bind _ = _
        rw [skip_found unread found more]
        dsimp only at others
        split at others
        · rename_i closed
          cases others
          rw [extend.value _ _ _ found longer more less (.inl (stops_of_skip closed (by simp) more)),Option.bind_some]
          dsimp only
          rw [skip_append (by simp [closed]),closed]
          rfl
        · rename_i next
          rw [extend.value _ _ _ found longer more less (.inl (stops_of_skip next (by simp) more)),Option.bind_some]
          dsimp only
          rw [skip_append (by simp [next]),next]
          change readFields longer (put (String.ofList key) value before) (skip (_++more)) = _
          rw [skip_found (readFields_nil fuel _) others more]
          exact extend.fields _ _ _ _ others longer more less
        · cases others
      · cases later
    · rw [readFields.eq_def] at read
      dsimp only at read
      split at read
      · rename_i same
        exact absurd (List.cons_eq_cons.mp same).1 quote
      · cases read

theorem readersExtend (fuel : Nat) : ReadersExtend fuel := by
  induction fuel with
  | zero => exact ⟨fun _ _ _ read => (by cases read),fun _ _ _ read => (by cases read),fun _ _ _ _ read => (by cases read)⟩
  | succ fuel ih =>
    exact ⟨fun _ _ _ read _ _ enough stops => readValue_append ih.items ih.fields read enough stops,ih.nextItems,ih.nextFields⟩

theorem loads_object_append {fields : List (String × Value)} (read : loads chars = some (.object fields)) {c : Char}
    (printed : skip [c] ≠ []) (more : List Char) : loads (chars ++ c::more) = none := by
  unfold loads at read
  obtain ⟨⟨value,rest⟩,found,ends⟩ := Option.bind_eq_some_iff.mp read
  dsimp only at ends
  split at ends
  · rename_i blank
    cases ends
    have held : skip chars ≠ [] := by
      intro none
      rw [none] at found
      cases found
    have longer := (readersExtend _).value _ _ _ found ((chars ++ c::more).length + 1) (c::more) (by simp) (.inr ⟨fields,rfl⟩)
    have behind : skip (rest ++ c::more) ≠ [] := by
      unfold skip at blank printed ⊢
      rw [List.dropWhile_append,if_pos (by simpa using blank),List.dropWhile_cons]
      rw [List.dropWhile_cons] at printed
      split
      · rename_i white
        rw [if_pos white] at printed
        exact absurd rfl printed
      · exact List.cons_ne_nil _ _
    unfold loads
    rw [skip_append held,longer,Option.bind_some]
    exact if_neg behind
  · cases ends

theorem loads_blanks {value : Value} (read : loads chars = some value) (count : Nat) :
    loads (List.replicate count ' ' ++ chars) = some value := by
  have dropped : skip (List.replicate count ' ' ++ chars) = skip chars := by
    induction count with
    | zero => rfl
    | succ count ih => exact ih
  unfold loads at read ⊢
  obtain ⟨⟨value,rest⟩,found,ends⟩ := Option.bind_eq_some_iff.mp read
  have longer := (readersExtend _).value _ _ _ found ((List.replicate count ' ' ++ chars).length + 1) [] (by simp) (.inl (.inl rfl))
  rw [List.append_nil,List.append_nil] at longer
  rw [dropped,longer,Option.bind_some]
  exact ends

structure Alien (c : Char) : Prop where
  printed : skip [c] ≠ []
  unquoted : c ≠ '"'
  unbracketed : c ≠ '[' ∧ c ≠ '{'
  unsigned : c ≠ '-' ∧ c.isDigit = false
  wordless : c ≠ 'n' ∧ c ≠ 't' ∧ c ≠ 'f' ∧ c ≠ 'N' ∧ c ≠ 'I'

theorem skip_printed {c : Char} (printed : skip [c] ≠ []) (chars : List Char) : skip (c::chars) = c::chars := by
  unfold skip at printed ⊢
  rw [List.dropWhile_cons] at printed ⊢
  split
  · rename_i blank
    rw [if_pos blank] at printed
    exact absurd rfl printed
  · rfl

theorem Alien.readNumber {c : Char} (alien : Alien c) (sign chars : List Char) : readUnsigned sign (c::chars) = none := by
  have zero : c ≠ '0' := by
    rintro rfl
    exact absurd alien.unsigned.2 (by decide)
  unfold readUnsigned
  rw [readWhole_digits zero,if_pos]
  exact List.takeWhile_cons_of_neg (by simp [alien.unsigned.2])

theorem Alien.readValue {c : Char} (alien : Alien c) (fuel : Nat) (chars : List Char) : readValue fuel (c::chars) = none := by
  cases fuel with
  | zero => rfl
  | succ fuel =>
    obtain ⟨null,true_,false_,nan,infinity⟩ := alien.wordless
    rw [Json.readValue,if_neg alien.unquoted,if_neg alien.unbracketed.1,if_neg alien.unbracketed.2]
    unfold readScalar
    rw [readWord_head rfl null,readWord_head rfl true_,readWord_head rfl false_,readWord_head rfl nan,readWord_head rfl infinity,
      readWord_head rfl alien.unsigned.1,readNumber_unsigned alien.unsigned.1,alien.readNumber]
    rfl

theorem Alien.loads {c : Char} (alien : Alien c) (chars : List Char) : loads (c::chars) = none := by
  unfold Json.loads
  rw [skip_printed alien.printed,alien.readValue]
  rfl

theorem readWord_second {word : String} {value : Value} {first second c d : Char} {letters : List Char}
    (spelt : word.toList = first::second::letters) (other : d ≠ second) (tail : List Char) : readWord word value (c::d::tail) = none := by
  unfold readWord
  rw [if_neg]
  intro front
  obtain ⟨after,whole⟩ := List.isPrefixOf_iff_prefix.mp front
  rw [spelt] at whole
  exact other (List.cons_eq_cons.mp (List.cons_eq_cons.mp whole).2).1.symm

theorem readNumber_zero {c : Char} {chars text rest : List Char} (read : readNumber (c:: '\x00'::chars) = some (text,rest)) :
    rest = '\x00'::chars := by
  have decimals : readDecimals ('\x00'::chars) = ([],'\x00'::chars) := by
    unfold readDecimals
    rw [readFraction_stays (by decide),readExponent_stays (by decide) (by decide)]
    rfl
  have ends : (readWhole (c:: '\x00'::chars)).1 ≠ [] → (readWhole (c:: '\x00'::chars)).2 = '\x00'::chars := by
    intro some
    by_cases zero : c = '0'
    · subst zero
      rfl
    · rw [readWhole_digits zero] at some ⊢
      have digit : c.isDigit = true := by
        by_contra letter
        exact some (List.takeWhile_cons_of_neg letter)
      unfold digits
      rw [List.dropWhile_cons_of_pos digit,List.dropWhile_cons_of_neg (by decide)]
  by_cases minus : c = '-'
  · subst minus
    rw [readNumber_minus] at read
    cases read
  · rw [readNumber_unsigned minus] at read
    unfold readUnsigned at read
    split at read
    · cases read
    · rename_i some
      rw [ends some,decimals] at read
      exact (Prod.mk.inj (Option.some.inj read)).2.symm

theorem alien_zero : Alien '\x00' := ⟨by decide,by decide,by decide,by decide,by decide⟩

theorem loads_zero (c : Char) (chars : List Char) : loads (c:: '\x00'::chars) = none := by
  by_cases printed : skip [c] = []
  · have dropped : skip (c:: '\x00'::chars) = '\x00'::chars := by
      unfold skip at printed ⊢
      rw [List.dropWhile_cons] at printed ⊢
      split at printed
      · rename_i blank
        rw [if_pos blank]
        exact List.dropWhile_cons_of_neg (by decide)
      · cases printed
    unfold loads
    rw [dropped,alien_zero.readValue]
    rfl
  · unfold loads
    rw [skip_printed printed,readValue]
    by_cases quote : c = '"'
    · rw [if_pos quote]
      rfl
    · rw [if_neg quote]
      have moved : skip ('\x00'::chars) = '\x00'::chars := skip_printed alien_zero.printed chars
      have unread : ∀ fuel, readItems fuel ('\x00'::chars) = none ∧ readFields fuel [] ('\x00'::chars) = none := by
        intro fuel
        cases fuel with
        | zero => exact ⟨rfl,rfl⟩
        | succ fuel =>
          rw [readItems,alien_zero.readValue]
          exact ⟨rfl,rfl⟩
      by_cases list : c = '['
      · rw [if_pos list,moved]
        change ((readItems _ ('\x00'::chars)).map _).bind _ = _
        rw [(unread _).1]
        rfl
      · rw [if_neg list]
        by_cases object : c = '{'
        · rw [if_pos object,moved]
          change ((readFields _ [] ('\x00'::chars)).map _).bind _ = _
          rw [(unread _).2]
          rfl
        · rw [if_neg object]
          unfold readScalar
          rw [readWord_second rfl (by decide),readWord_second rfl (by decide),readWord_second rfl (by decide),
            readWord_second rfl (by decide),readWord_second rfl (by decide),readWord_second rfl (by decide)]
          cases number : readNumber (c:: '\x00'::chars) with
          | none => rfl
          | some read =>
            obtain ⟨text,rest⟩ := read
            rw [readNumber_zero number]
            change (if skip ('\x00'::chars) = [] then some (Value.number (String.ofList text)) else none) = _
            rw [moved]
            rfl

end Json
