import GmsRemoteTest.Foundation.TouchMapping
import GmsRemoteTest.Lib.Mapped

/-! `convert_commands`: the touches of a command list are taken from the mapping of one device to that of another, and nothing else of the
list changes. -/
namespace GmsRemoteTest.AoaCalibration
open AoaProfile Text

def touchCommand (text : List Char) : Option (Kind × List Char) :=
  [.click,.longClick,.swipe].findSome? fun kind : Kind =>
    if kind.word.toList.isPrefixOf text then match text.drop kind.word.toList.length with
      | [] => some (kind,[])
      | ' ' :: args => if '\n' ∈ args then none else some (kind,args)
      | _ => none
    else none

def signedInt (chars : List Char) : Except String ℤ :=
  let (sign,body) : ℤ × List Char := match chars with
    | '-' :: body => (-1,body)
    | '+' :: body => (1,body)
    | body => (1,body)
  if (body.splitOn '_').all (· ≠ []) then (int (body.splitOn '_').flatten).map fun n => sign * n
  else .error ("invalid literal for int() with base 10: '" ++ String.ofList chars ++ "'")

section conversion
variable (source target : TouchMapping)

def convertWords (x y : List Char) : Except String (Nat × Nat) :=
  (signedInt x).bind fun u => (signedInt y).bind fun v => convertPoint source target u v

def convertLine (text : List Char) : Except String String :=
  match touchCommand text with
  | none => .ok (String.ofList text)
  | some (kind,args) => match kind,words args with
    | .swipe,[x1,y1,ms,x2,y2] =>
      (convertWords source target x1 y1).bind fun (nx1,ny1) =>
        (convertWords source target x2 y2).map fun (nx2,ny2) => swipeText nx1 ny1 (String.ofList ms) nx2 ny2
    | .swipe,_ => .error (invalidAction text)
    | kind,[x,y] => (convertWords source target x y).map fun (nx,ny) => clickText kind nx ny
    | _,_ => .error (invalidAction text)

def convertCommands (commands : List String) : Except String (List String) :=
  commands.mapM fun raw => convertLine source target (strip raw).toList

end conversion

variable {source target : TouchMapping}

def Reprojected (source target : TouchMapping) (hid : Nat × Nat) (nearest : Nat × Nat) : Prop :=
  ∃ exact : ℚ × ℚ, target.hidToScreen exact.1 exact.2 = rescale source target (source.hidToScreen hid.1 hid.2) ∧
    |(nearest.1 : ℚ) - exact.1| ≤ 1 / 2 ∧ |(nearest.2 : ℚ) - exact.2| ≤ 1 / 2

theorem clamped_spec {u : ℚ} {most : Nat} (low : -TouchMapping.SLACK ≤ u) (high : u ≤ most + TouchMapping.SLACK) :
    TouchMapping.clamped u most ≤ most ∧ |(TouchMapping.clamped u most : ℚ) - u| ≤ 1 / 2 := by
  have slack : TouchMapping.SLACK < 1 / 2 := by norm_num [TouchMapping.SLACK]
  have above : 0 ≤ HalfEven.nearest u := HalfEven.le_nearest (by push_cast; linarith)
  have below : HalfEven.nearest u ≤ most := HalfEven.nearest_le (by push_cast; linarith)
  have same : TouchMapping.clamped u most = (HalfEven.nearest u).toNat := by
    unfold TouchMapping.clamped
    rw [max_eq_left above,min_eq_left below]
  have cast : ((HalfEven.nearest u).toNat : ℚ) = HalfEven.nearest u := by
    rw [← Int.cast_natCast,Int.toNat_of_nonneg above]
  rw [same,cast]
  exact ⟨by omega,HalfEven.abs_nearest_sub u⟩

theorem convertPoint_ok {u v : Nat} {hid : Nat × Nat} (converts : convertPoint source target u v = .ok hid) :
    hid.1 ≤ AOA_TOUCH_MAX_X ∧ hid.2 ≤ AOA_TOUCH_MAX_Y ∧ Reprojected source target (u,v) hid ∧
      0 < source.displayPixels.1 ∧ 0 < source.displayPixels.2 := by
  unfold convertPoint at converts
  dsimp only at converts
  split at converts
  · cases converts
  rename_i positive
  split at converts
  · cases converts
  split at converts
  · cases converts
  unfold TouchMapping.screenToHid at converts
  dsimp only at converts
  split at converts
  · cases converts
  rename_i reachable
  cases converts
  simp only [true_and,not_not] at reachable
  obtain ⟨left,right,top,bottom⟩ := reachable
  obtain ⟨fits,near⟩ := clamped_spec left right
  obtain ⟨fits_,near_⟩ := clamped_spec top bottom
  rw [not_le,lt_min_iff,lt_min_iff] at positive
  exact ⟨fits,fits_,⟨_,(inversePoint_eq_iff target _ _ _).mp rfl,near,near_⟩,positive.1⟩

theorem Reprojected.eq {hid near : Nat × Nat} (reprojected : Reprojected source target hid near)
    (exact_ : target.hidToScreen hid.1 hid.2 = rescale source target (source.hidToScreen hid.1 hid.2)) : near = hid := by
  obtain ⟨exact,screen,first,second⟩ := reprojected
  have same : exact = ((hid.1 : ℚ),(hid.2 : ℚ)) := by
    have one := (inversePoint_eq_iff target _ _ exact).mpr screen
    have two := (inversePoint_eq_iff target _ _ ((hid.1 : ℚ),(hid.2 : ℚ))).mpr exact_
    exact one.symm.trans two
  have whole : ∀ {n m : Nat}, |(n : ℚ) - m| ≤ 1 / 2 → n = m := by
    intro n m close
    by_contra other
    have apart : (1 : ℚ) ≤ |(n : ℚ) - m| := by
      have integers : (1 : ℤ) ≤ |(n : ℤ) - m| := Int.one_le_abs (by omega)
      calc (1 : ℚ) = ((1 : ℤ) : ℚ) := by norm_num
        _ ≤ ((|(n : ℤ) - m| : ℤ) : ℚ) := Int.cast_le.mpr integers
        _ = |(n : ℚ) - m| := by push_cast; rfl
    linarith
  rw [same] at first second
  exact Prod.ext (whole first) (whole second)

theorem rescale_self {mapping : TouchMapping} (width : 0 < mapping.displayPixels.1) (height : 0 < mapping.displayPixels.2) (pixel : ℚ × ℚ) :
    rescale mapping mapping pixel = pixel := by
  have first : (mapping.displayPixels.1 : ℚ) ≠ 0 := by exact_mod_cast width.ne'
  have second : (mapping.displayPixels.2 : ℚ) ≠ 0 := by exact_mod_cast height.ne'
  unfold rescale
  rw [mul_div_cancel_right₀ _ first,mul_div_cancel_right₀ _ second]

/-- An estimate from the size of some display. -/
def PerAxis (mapping : TouchMapping) : Prop :=
  ∃ width height mode policy, perAxisMapping width height mode policy = .ok mapping

theorem PerAxis.point {mapping : TouchMapping} (perAxis : PerAxis mapping) (u v : ℚ) :
    mapping.hidToScreen u v = (mapping.displayPixels.1 / 361 * u,mapping.displayPixels.2 / 641 * v) := by
  obtain ⟨width,height,mode,policy,made⟩ := perAxis
  unfold perAxisMapping at made
  split at made
  · cases made
  dsimp only at made
  generalize (if mode = .pointer ∧ policy.getD .directUnverified = .directUnverified then MappingPolicy.estimated
    else policy.getD .directUnverified) = claimed at made
  split at made
  · cases made
  split at made
  · cases made
    unfold TouchMapping.hidToScreen screenPoint AOA_TOUCH_MAX_X AOA_TOUCH_MAX_Y
    dsimp only
    push_cast
    rw [zero_mul,zero_mul,add_zero,add_zero,zero_add,add_zero]
  · cases made

theorem PerAxis.rescale_point (first : PerAxis source) (second : PerAxis target) (width : 0 < source.displayPixels.1)
    (height : 0 < source.displayPixels.2) (u v : ℚ) : target.hidToScreen u v = rescale source target (source.hidToScreen u v) := by
  have left : (source.displayPixels.1 : ℚ) ≠ 0 := by exact_mod_cast width.ne'
  have right : (source.displayPixels.2 : ℚ) ≠ 0 := by exact_mod_cast height.ne'
  rw [first.point,second.point,rescale]
  refine Prod.ext ?_ ?_
  · dsimp only
    field_simp
  · dsimp only
    field_simp

/-- A command differs from another in its touch coordinates at most, which are the nearest to where they are on the target. -/
structure Converted (source target : TouchMapping) (before after : AoaCommand) : Prop where
  rest : after = {before with x1 := after.x1, y1 := after.y1, x2 := after.x2, y2 := after.y2}
  first : if before.kind.touches then Reprojected source target (before.x1,before.y1) (after.x1,after.y1)
    else (after.x1,after.y1) = (before.x1,before.y1)
  second : if before.kind = .swipe then Reprojected source target (before.x2,before.y2) (after.x2,after.y2)
    else (after.x2,after.y2) = (before.x2,before.y2)

theorem Converted.refl {command : AoaCommand} (still : command.kind.touches = false) : Converted source target command command where
  rest := rfl
  first := by rw [still]; exact if_neg Bool.false_ne_true ▸ rfl
  second := by
    rw [if_neg]
    rintro swipe
    rw [swipe] at still
    cases still

theorem touchCommand_none {text : List Char} {command : AoaCommand} (accepted : parseLine text = .ok command)
    (still : command.kind.touches = false) : touchCommand text = none := by
  have word := (parseLine_ok accepted).1
  unfold touchCommand
  rw [List.findSome?_eq_none_iff]
  intro kind member
  split
  · rename_i front
    obtain ⟨rest,rfl⟩ := List.isPrefixOf_iff_prefix.mp front
    rw [List.drop_left]
    have touches : kind.touches = true := by
      simp only [List.mem_cons,List.not_mem_nil,or_false] at member
      obtain rfl | rfl | rfl := member <;> rfl
    have other : ∀ rest, rest = [] ∨ rest.head? = some ' ' → (AoaProfile.partition (kind.word.toList ++ rest)).1 = kind.word.toList := by
      rintro rest (rfl | space)
      · have all : ∀ c ∈ kind.word.toList, decide (c ≠ ' ') = true :=
          fun c inside => decide_eq_true fun same => word_solid kind (same ▸ inside)
        unfold AoaProfile.partition
        rw [List.append_nil]
        exact List.takeWhile_eq_self_iff.mpr all
      · cases rest with
        | nil => cases space
        | cons c rest =>
          cases space
          rw [partition_append (word_solid kind)]
    have apart : ¬(rest = [] ∨ rest.head? = some ' ') := by
      intro shape
      rw [other rest shape,String.ofList_toList,ofWord_word] at word
      cases word
      rw [touches] at still
      cases still
    split
    · exact absurd (.inl rfl) apart
    · exact absurd (.inr rfl) apart
    · rfl
  · rfl

theorem touchCommand_some {kind : Kind} (touches : kind.touches = true) {pieces : List (List Char)}
    (solid : ∀ piece ∈ pieces, piece ≠ [] ∧ ∀ c ∈ piece, isSpace c = false) :
    touchCommand (kind.word.toList ++ ' ' :: [' '].intercalate pieces) = some (kind,[' '].intercalate pieces) := by
  have line : '\n' ∉ [' '].intercalate pieces := by
    intro member
    obtain blank | ⟨piece,inside,member⟩ := mem_intercalate member
    · exact absurd blank (by decide)
    · have visible := (solid piece inside).2 _ member
      exact absurd visible (by decide)
  generalize [' '].intercalate pieces = args at *
  cases kind with
  | click | longClick | swipe => simp [touchCommand,Kind.word,line]
  | write | key | wake | home | back | sleep => cases touches

theorem signedInt_digits {chars : List Char} {n : Nat} (some_ : chars ≠ []) (number : int chars = .ok n) : signedInt chars = .ok n := by
  have digits := int_digits number
  have apart : ∀ c, (decimal c).isSome = false → c ∉ chars := by
    intro c other member
    have digit := List.all_eq_true.mp digits c member
    rw [other] at digit
    cases digit
  have whole : chars.splitOn '_' = [chars] := List.splitOn_eq_singleton (apart '_' (by decide))
  have plus := apart '+' (by decide)
  have minus := apart '-' (by decide)
  unfold signedInt
  cases chars with
  | nil => exact absurd rfl some_
  | cons c chars =>
    rw [List.mem_cons,not_or] at plus minus
    have shape : (match c :: chars with
        | '-' :: body => ((-1 : ℤ),body)
        | '+' :: body => (1,body)
        | body => (1,body)) = (1,c :: chars) := by
      split
      · rename_i same
        cases same
        exact absurd rfl minus.1
      · rename_i same
        cases same
        exact absurd rfl plus.1
      · rfl
    rw [shape]
    dsimp only
    rw [whole]
    simp [number,Except.map]

theorem convertWords_digits {x y : List Char} {u v : Nat} (first : shortNumber x = some u) (second : shortNumber y = some v) :
    convertWords source target x y = convertPoint source target u v := by
  obtain ⟨some_,number⟩ := shortNumber_eq_some first
  obtain ⟨some_',number'⟩ := shortNumber_eq_some second
  unfold convertWords
  rw [signedInt_digits some_ number,signedInt_digits some_' number']
  rfl

theorem shortNumber_solid {chars : List Char} {n : Nat} (short : shortNumber chars = some n) : chars ≠ [] ∧ ∀ c ∈ chars, isSpace c = false :=
  (shortNumber_eq_some short).imp id fun number => digits_visible (int_digits number)

theorem convertLine_click {kind : Kind} (touch : kind = .click ∨ kind = .longClick) {rest : List Char} {x y : Nat} {out : String}
    (read : parsePoint rest = some (x,y)) (converts : convertLine source target (kind.word.toList ++ ' ' :: rest) = .ok out) :
    ∃ hid, convertPoint source target x y = .ok hid ∧ out = clickText kind hid.1 hid.2 := by
  obtain ⟨first,second,rfl,left,right⟩ := parsePoint_eq_some read
  have solid : ∀ piece ∈ [first,second], piece ≠ [] ∧ ∀ c ∈ piece, isSpace c = false := by
    simpa using ⟨shortNumber_solid left,shortNumber_solid right⟩
  have touches : kind.touches = true := by obtain rfl | rfl := touch <;> rfl
  unfold convertLine at converts
  rw [touchCommand_some touches solid] at converts
  dsimp only at converts
  rw [words_intercalate (List.cons_ne_nil _ _) solid] at converts
  have ran : (convertWords source target first second).map (fun (nx,ny) => clickText kind nx ny) = .ok out := by
    obtain rfl | rfl := touch <;> exact converts
  rw [convertWords_digits left right] at ran
  cases point : convertPoint source target x y with
  | error failure =>
    rw [point] at ran
    cases ran
  | ok hid =>
    rw [point] at ran
    exact ⟨hid,rfl,(Except.ok.inj ran).symm⟩

theorem convertLine_swipe {rest ms : List Char} {x1 y1 x2 y2 : Nat} {out : String} (read : parseSwipe rest = some ((x1,y1),ms,(x2,y2)))
    (converts : convertLine source target (Kind.swipe.word.toList ++ ' ' :: rest) = .ok out) :
    ∃ hid hid', convertPoint source target x1 y1 = .ok hid ∧ convertPoint source target x2 y2 = .ok hid' ∧
      out = swipeText hid.1 hid.2 (String.ofList ms) hid'.1 hid'.2 := by
  obtain ⟨a,b,c,d,rfl,duration,first,second,third,fourth⟩ := parseSwipe_eq_some read
  have some_ : ms ≠ [] ∧ ms.all (fun c => (decimal c).isSome) = true := by simpa [digits] using duration
  have solid : ∀ piece ∈ [a,b,ms,c,d], piece ≠ [] ∧ ∀ c ∈ piece, isSpace c = false := by
    simp only [List.forall_mem_cons]
    exact ⟨shortNumber_solid first,shortNumber_solid second,⟨some_.1,digits_visible some_.2⟩,shortNumber_solid third,shortNumber_solid fourth,
      fun _ none => absurd none List.not_mem_nil⟩
  unfold convertLine at converts
  rw [@touchCommand_some .swipe rfl _ solid] at converts
  dsimp only at converts
  rw [words_intercalate (List.cons_ne_nil _ _) solid] at converts
  dsimp only at converts
  rw [convertWords_digits first second,convertWords_digits third fourth] at converts
  cases point : convertPoint source target x1 y1 with
  | error failure =>
    rw [point] at converts
    cases converts
  | ok hid =>
    cases point_ : convertPoint source target x2 y2 with
    | error failure =>
      rw [point,point_] at converts
      cases converts
    | ok hid' =>
      rw [point,point_] at converts
      exact ⟨hid,hid',rfl,rfl,(Except.ok.inj converts).symm⟩

structure Reread (source target : TouchMapping) (command : AoaCommand) (out : String) : Prop where
  stripped : strip out = out
  visible : out ≠ ""
  after : ∃ after, parseLine out.toList = .ok after ∧ Converted source target command after
  width : 0 < source.displayPixels.1
  height : 0 < source.displayPixels.2

theorem convertLine_ok {text : List Char} {out : String} {command : AoaCommand} (accepted : parseLine text = .ok command)
    (converts : convertLine source target text = .ok out) :
    (command.kind.touches = false ∧ out = String.ofList text) ∨ Reread source target command out := by
  obtain ⟨word,parsed,_⟩ := parseLine_ok accepted
  cases touches : command.kind.touches with
  | false =>
    unfold convertLine at converts
    rw [touchCommand_none accepted touches] at converts
    cases converts
    exact .inl ⟨rfl,rfl⟩
  | true =>
    have shape : (AoaProfile.partition text).2 ≠ [] → text = command.kind.word.toList ++ ' ' :: (AoaProfile.partition text).2 := by
      intro some_
      rw [ofWord_eq_some word,String.toList_ofList]
      exact partition_text some_
    generalize (AoaProfile.partition text).2 = rest at shape parsed
    have click : ∀ kind x y, kind = .click ∨ kind = .longClick → command = {kind := kind, x1 := x, y1 := y} → parsePoint rest = some (x,y) →
        Reread source target command out := by
      rintro kind x y touch rfl read
      obtain ⟨first,second,written,_,_⟩ := parsePoint_eq_some read
      rw [shape (by rw [written,List.intercalate_cons_cons]; simp)] at converts
      obtain ⟨hid,point,rfl⟩ := convertLine_click touch read converts
      obtain ⟨left,right,near,wide,high⟩ := convertPoint_ok point
      have other : kind ≠ .swipe := by obtain rfl | rfl := touch <;> decide
      refine ⟨(clickText_strip _ _ _).1,(clickText_strip _ _ _).2,⟨_,parseLine_clickText touch left right,rfl,?_,?_⟩,wide,high⟩
      · rw [if_pos touches]
        exact near
      · rw [if_neg other]
    refine .inr ?_
    cases kind : command.kind with
    | click =>
      rw [kind,parseArgs] at parsed
      split at parsed
      · rename_i x y read
        exact click .click x y (.inl rfl) (Except.ok.inj parsed).symm read
      · cases parsed
    | longClick =>
      rw [kind,parseArgs] at parsed
      split at parsed
      · rename_i x y read
        exact click .longClick x y (.inr rfl) (Except.ok.inj parsed).symm read
      · cases parsed
    | swipe =>
      rw [kind,parseArgs] at parsed
      split at parsed
      · rename_i x1 y1 ms x2 y2 read
        cases number : int ms with
        | error failure =>
          rw [number] at parsed
          cases parsed
        | ok duration =>
          rw [number] at parsed
          cases parsed
          obtain ⟨_,_,_,_,written,digits_,_,_,_,_⟩ := parseSwipe_eq_some read
          rw [shape (by rw [written,List.intercalate_cons_cons]; simp)] at converts
          obtain ⟨hid,hid',point,point',rfl⟩ := convertLine_swipe read converts
          obtain ⟨left,right,near,wide,high⟩ := convertPoint_ok point
          obtain ⟨left',right',near',_,_⟩ := convertPoint_ok point'
          exact ⟨(swipeText_strip ..).1,(swipeText_strip ..).2,⟨_,parseLine_swipeText left right left' right' (by rwa [String.toList_ofList])
            (by rwa [String.toList_ofList]),rfl,near,near'⟩,wide,high⟩
      · cases parsed
    | write | key | wake | home | back | sleep => rw [kind] at touches; cases touches

def Follows (source target : TouchMapping) (before after : AoaCommand) : Prop :=
  Converted source target before after ∧ (before.kind.touches = true → 0 < source.displayPixels.1 ∧ 0 < source.displayPixels.2)

theorem visible_cons_blank {raw : String} {commands : List String} (blank : strip raw = "") : visible (raw :: commands) = visible commands := by
  unfold visible
  rw [List.map_cons,List.filter_cons_of_neg]
  simp [blank]

theorem visible_cons {raw : String} {commands : List String} (some_ : strip raw ≠ "") :
    visible (raw :: commands) = (strip raw).toList :: visible commands := by
  unfold visible
  rw [List.map_cons,List.filter_cons_of_pos]
  simpa using some_

theorem visible_converted {commands converted : List String}
    (converts : List.Forall₂ (fun raw out => convertLine source target (strip raw).toList = .ok out) commands converted) {parsed : List AoaCommand}
    (read : List.Forall₂ (fun text command => parseLine text = .ok command) (visible commands) parsed) :
    ∃ parsed', List.Forall₂ (fun text command => parseLine text = .ok command) (visible converted) parsed' ∧
      List.Forall₂ (Follows source target) parsed parsed' := by
  induction converts generalizing parsed with
  | nil =>
    cases read
    exact ⟨[],.nil,.nil⟩
  | @cons raw out commands converted line _ ih =>
    by_cases blank : strip raw = ""
    · rw [visible_cons_blank blank] at read
      rw [blank] at line
      cases line
      rw [visible_cons_blank (by rfl)]
      exact ih read
    · rw [visible_cons blank] at read
      obtain ⟨command,rest,accepted,others,rfl⟩ := List.forall₂_cons_left_iff.mp read
      obtain ⟨parsed',reread,follows⟩ := ih others
      obtain ⟨still,rfl⟩ | again := convertLine_ok accepted line
      · have same : strip (String.ofList (strip raw).toList) = strip raw := by rw [String.ofList_toList,strip_strip]
        rw [visible_cons (by rwa [same]),same]
        refine ⟨command :: parsed',.cons accepted reread,.cons ⟨.refl still,?_⟩ follows⟩
        rw [still]
        nofun
      · obtain ⟨after,written,change⟩ := again.after
        rw [visible_cons (by rw [again.stripped]; exact again.visible),again.stripped]
        exact ⟨after :: parsed',.cons written reread,.cons ⟨change,fun _ => ⟨again.width,again.height⟩⟩ follows⟩

section
variable {before after : AoaCommand} (converted : Converted source target before after)
include converted

theorem Converted.estimateRuntimeMs :
    AoaProfile.estimateRuntimeMs after = AoaProfile.estimateRuntimeMs before := by
  rw [converted.rest]
  rfl

theorem Converted.eq (still : before.kind.touches = true → ∀ u v : ℚ, target.hidToScreen u v = rescale source target (source.hidToScreen u v)) : after = before := by
  obtain ⟨rest,first,second⟩ := converted
  have one : (after.x1,after.y1) = (before.x1,before.y1) := by
    split at first
    · rename_i touches
      exact first.eq (still touches _ _)
    · exact first
  have two : (after.x2,after.y2) = (before.x2,before.y2) := by
    split at second
    · rename_i swipe
      exact second.eq (still (by rw [swipe]; rfl) _ _)
    · exact second
  rw [Prod.mk.injEq] at one two
  rw [rest,one.1,one.2,two.1,two.2]

end

/-- The commands of a converted list are those of the list, with the coordinates nearest to where they are on the target; they are the same
commands when both mappings are one, or both are estimates. -/
theorem convertCommands_reprojects {commands converted : List String} {parsed : List AoaCommand}
    (accepted : parseProfileCommands commands = .ok parsed) (converts : convertCommands source target commands = .ok converted) :
    converted.length = commands.length ∧ ∃ parsed', parseProfileCommands converted = .ok parsed' ∧
      List.Forall₂ (Converted source target) parsed parsed' ∧ (source = target ∨ (PerAxis source ∧ PerAxis target) → parsed' = parsed) := by
  unfold parseProfileCommands at accepted
  split at accepted
  · cases accepted
  rename_i nonempty
  split at accepted
  · cases accepted
  rename_i short
  cases read : (visible commands).mapM parseLine with
  | error failure =>
    rw [read] at accepted
    cases accepted
  | ok found =>
    rw [read] at accepted
    dsimp only [Except.bind] at accepted
    split at accepted
    · cases accepted
    rename_i some_
    split at accepted
    · cases accepted
    rename_i quick
    cases accepted
    have lines := Mapped.mapM_ok.mp converts
    have length : converted.length = commands.length := lines.length_eq.symm
    obtain ⟨parsed',reread,follows⟩ := visible_converted lines (Mapped.mapM_ok.mp read)
    have total : parsed'.map estimateRuntimeMs = parsed.map estimateRuntimeMs := by
      clear reread read some_ quick
      induction follows with
      | nil => rfl
      | cons head _ ih => rw [List.map_cons,List.map_cons,head.1.estimateRuntimeMs,ih]
    refine ⟨length,parsed',?_,follows.imp fun _ _ follow => follow.1,?_⟩
    · have some' : converted ≠ [] := by
        rintro rfl
        exact nonempty (List.length_eq_zero_iff.mp length.symm)
      have parsed_ : parsed' ≠ [] := by
        rintro rfl
        cases follows
        exact some_ rfl
      unfold parseProfileCommands
      rw [if_neg some',if_neg (by rwa [length]),Mapped.mapM_ok.mpr reread]
      dsimp only [Except.bind]
      rw [if_neg parsed_,total,if_neg quick]
    · intro kept
      have same : List.Forall₂ Eq parsed parsed' := follows.imp fun before after follow => Eq.symm <|
        follow.1.eq fun touches u v => by
          obtain ⟨width,height⟩ := follow.2 touches
          obtain rfl | ⟨first,second⟩ := kept
          · exact (rescale_self width height _).symm
          · exact first.rescale_point second width height u v
      rw [List.forall₂_eq_eq_eq] at same
      exact same.symm

def shifted : TouchMapping :=
  {hidTouchMode := .direct, matrix := (3,0,0,3), offset := (10,20), displayPixels := (1100,2000), invertible := by decide +kernel}

def tablet : TouchMapping :=
  {hidTouchMode := .direct, matrix := (2,0,0,2), offset := (0,0), displayPixels := (800,1400), invertible := by decide +kernel}

theorem convertCommands_reprojects_tablet :
    ["click 200 322","","home"].length = [" click 180 300 ","","home"].length ∧
      ∃ parsed', parseProfileCommands ["click 200 322","","home"] = .ok parsed' ∧
        List.Forall₂ (Converted shifted tablet) [{kind := .click, x1 := 180, y1 := 300},{kind := .home}] parsed' ∧
          (shifted = tablet ∨ (PerAxis shifted ∧ PerAxis tablet) → parsed' = [{kind := .click, x1 := 180, y1 := 300},{kind := .home}]) :=
  convertCommands_reprojects (by decide +kernel) (by decide +kernel)

end GmsRemoteTest.AoaCalibration
