import Mathlib.Data.List.DropRight
import GmsRemoteTest.Foundation.Text

/-! How hosts of USB/IP sources are written: `host`, `user@host` or `user@host:port` in the configuration, and the
host alone in the listing of ports. `_normalize_usbip_host` is to bring both to one form; it leaves a user name
where it is. Host texts are ASCII. -/
namespace GmsRemoteTest.Firmware
open Text

def lowerChar (c : Char) : Char := if 65 ≤ c.toNat ∧ c.toNat ≤ 90 then Char.ofNat (c.toNat + 32) else c

/-- `str.lower` of an ASCII text. -/
def lower (text : String) : String := String.ofList (text.toList.map lowerChar)

def isBracket (c : Char) : Bool := c == '[' || c == ']'

def stripBrackets (text : String) : String := String.ofList ((text.toList.dropWhile isBracket).rdropWhile isBracket)

def beforeColon (chars : List Char) : List Char := ((chars.reverse.dropWhile (· ≠ ':')).drop 1).reverse

def afterColon (chars : List Char) : List Char := (chars.reverse.takeWhile (· ≠ ':')).reverse

def normalizeUsbipHost (value : String) : String :=
  let text := lower (stripBrackets (strip value))
  let head := beforeColon text.toList
  let tail := afterColon text.toList
  if ':' ∈ text.toList ∧ tail ≠ [] ∧ tail.all Char.isDigit ∧ '.' ∈ head then String.ofList head else text

def hostChar (c : Char) : Bool := 33 ≤ c.toNat && c.toNat ≤ 126 && c != '@' && c != '[' && c != ']'

structure HostName where
  text : String
  nonempty : text ≠ ""
  plain : ∀ c ∈ text.toList, hostChar c = true
  dots : '.' ∉ beforeColon text.toList

structure Address where
  user : Option String := none
  host : HostName
  bracketed : Bool := false
  port : Option String := none
  named : ∀ name ∈ user, name ≠ "" ∧ ∀ c ∈ name.toList, hostChar c = true
  digits : ∀ number ∈ port, number ≠ "" ∧ ∀ c ∈ number.toList, c.isDigit = true
  login : port.isSome → user.isSome
  literal : bracketed = true → ':' ∈ host.text.toList
  separated : port.isSome → ':' ∈ host.text.toList → bracketed = true

def Address.text (address : Address) : String :=
  (address.user.elim "" fun user => user ++ "@") ++
    (if address.bracketed then "[" ++ address.host.text ++ "]" else address.host.text) ++
    address.port.elim "" fun port => ":" ++ port

theorem lowerChar_eq {c d : Char} (small : d.toNat < 97) (notUpper : ¬(65 ≤ d.toNat ∧ d.toNat ≤ 90)) : lowerChar c = d ↔ c = d := by
  unfold lowerChar
  split
  · rename_i upper
    have code := (by decide : ∀ n < 128, (Char.ofNat n).toNat = n) (c.toNat + 32) (by omega)
    constructor
    · intro same
      rw [same] at code
      omega
    · intro same
      subst same
      exact (notUpper upper).elim
  · exact Iff.rfl

theorem mem_lower {d : Char} (small : d.toNat < 97) (notUpper : ¬(65 ≤ d.toNat ∧ d.toNat ≤ 90)) {chars : List Char} :
    d ∈ chars.map lowerChar ↔ d ∈ chars := by
  rw [List.mem_map]
  constructor
  · rintro ⟨c,member,same⟩
    rw [← (lowerChar_eq small notUpper).mp same]
    exact member
  · intro member
    exact ⟨d,member,(lowerChar_eq small notUpper).mpr rfl⟩

theorem beforeColon_lower (chars : List Char) : beforeColon (chars.map lowerChar) = (beforeColon chars).map lowerChar := by
  have colon : (fun c => decide (lowerChar c ≠ ':')) = fun c => decide (c ≠ ':') := by
    funext c
    rw [decide_eq_decide]
    exact not_congr (lowerChar_eq (by decide) (by decide))
  unfold beforeColon
  rw [← List.map_reverse,List.dropWhile_map,← List.map_drop,List.map_reverse]
  simp only [Function.comp_def,colon]

section
variable {p : Char → Bool} {c : Char} (kept : p c = false) {chars : List Char} (member : c ∈ chars)
include kept member

theorem mem_dropWhile :
    c ∈ chars.dropWhile p := by
  rw [← @List.takeWhile_append_dropWhile _ p chars,List.mem_append] at member
  refine member.elim (fun dropped => ?_) id
  rw [List.mem_takeWhile_imp dropped] at kept
  cases kept

theorem mem_rdropWhile :
    c ∈ chars.rdropWhile p := by
  unfold List.rdropWhile
  rw [List.mem_reverse]
  exact mem_dropWhile kept (List.mem_reverse.mpr member)

end

theorem beforeColon_append {chars : List Char} (colon : ':' ∈ chars) : beforeColon chars ++ ':' :: afterColon chars = chars := by
  have whole := @List.takeWhile_append_dropWhile _ (· ≠ ':') chars.reverse
  have stops := List.head?_dropWhile_not (· ≠ ':') chars.reverse
  unfold beforeColon afterColon
  cases rest : chars.reverse.dropWhile (· ≠ ':') with
  | nil =>
    have none := List.dropWhile_eq_nil_iff.mp rest ':' (List.mem_reverse.mpr colon)
    simp at none
  | cons first others =>
    rw [rest] at whole stops
    have first : first = ':' := by simpa using stops
    subst first
    have flipped := congrArg List.reverse whole
    rw [List.reverse_append,List.reverse_cons,List.reverse_reverse] at flipped
    simpa using flipped

theorem at_mem_normalize {value : String} (given : '@' ∈ value.toList) : '@' ∈ (normalizeUsbipHost value).toList := by
  have stripped : '@' ∈ (strip value).toList := by
    unfold strip
    rw [String.toList_ofList]
    exact mem_rdropWhile (by decide) (mem_dropWhile (by decide) given)
  have text : '@' ∈ (lower (stripBrackets (strip value))).toList := by
    unfold lower stripBrackets
    rw [String.toList_ofList,String.toList_ofList,mem_lower (by decide) (by decide)]
    exact mem_rdropWhile (by decide) (mem_dropWhile (by decide) stripped)
  unfold normalizeUsbipHost
  dsimp only
  split
  · rename_i cut
    obtain ⟨colon,-,number,-⟩ := cut
    rw [String.toList_ofList]
    rw [← beforeColon_append colon] at text
    rcases List.mem_append.mp text with head | rest
    · exact head
    · rcases List.mem_cons.mp rest with same | tail
      · exact absurd same (by decide)
      · exact absurd (List.all_eq_true.mp number _ tail) (by decide)
  · exact text

theorem strip_plain {text : String} (visible : ∀ c ∈ text.toList, isSpace c = false) : strip text = text :=
  Solid.strip_eq visible

theorem hostChar_visible {c : Char} (plain : hostChar c = true) : isSpace c = false ∧ isBracket c = false ∧ c ≠ '@' := by
  unfold hostChar at plain
  simp only [Bool.and_eq_true,decide_eq_true_eq,bne_iff_ne] at plain
  obtain ⟨⟨⟨⟨low,high⟩,at_⟩,left⟩,right⟩ := plain
  refine ⟨?_,by simp [isBracket,left,right],at_⟩
  unfold isSpace
  simp only [Bool.or_eq_false_iff,Bool.and_eq_false_iff,decide_eq_false_iff_not,beq_eq_false_iff_ne]
  omega

theorem normalize_host (host : HostName) {value : String} (stripped : stripBrackets (strip value) = host.text) :
    normalizeUsbipHost value = lower host.text := by
  unfold normalizeUsbipHost
  dsimp only
  rw [stripped]
  refine if_neg fun cut => ?_
  have dot := cut.2.2.2
  unfold lower at dot
  rw [String.toList_ofList,beforeColon_lower,mem_lower (by decide) (by decide)] at dot
  exact host.dots dot

section
variable {p : Char → Bool} {chars : List Char} (none : ∀ c ∈ chars, p c = false)
include none

theorem dropWhile_none : chars.dropWhile p = chars := by
  cases chars with
  | nil => rfl
  | cons c rest => exact List.dropWhile_cons_of_neg (by simp [none c (List.mem_cons_self ..)])

theorem rdropWhile_none : chars.rdropWhile p = chars := by
  unfold List.rdropWhile
  rw [dropWhile_none fun c member => none c (List.mem_reverse.mp member),List.reverse_reverse]

end

section
variable (host : HostName)

theorem stripBrackets_host : stripBrackets host.text = host.text := by
  have none : ∀ c ∈ host.text.toList, isBracket c = false := fun c member => (hostChar_visible (host.plain c member)).2.1
  unfold stripBrackets
  rw [dropWhile_none none,rdropWhile_none none,String.ofList_toList]

theorem stripBrackets_bracketed : stripBrackets ("[" ++ host.text ++ "]") = host.text := by
  have none : ∀ c ∈ host.text.toList, isBracket c = false := fun c member => (hostChar_visible (host.plain c member)).2.1
  have chars : ("[" ++ host.text ++ "]").toList = '[' :: (host.text.toList ++ [']']) := by simp
  have ends : (host.text.toList ++ [']']).dropWhile isBracket = host.text.toList ++ [']'] := by
    cases text : host.text.toList with
    | nil => exact (host.nonempty (String.toList_eq_nil_iff.mp text)).elim
    | cons c rest =>
      rw [text] at none
      exact List.dropWhile_cons_of_neg (by simp [none c (List.mem_cons_self ..)])
  unfold stripBrackets
  rw [chars,List.dropWhile_cons_of_pos (by decide),ends,List.rdropWhile_concat_pos _ _ _ (by decide),rdropWhile_none none,
    String.ofList_toList]

theorem host_solid : ∀ c ∈ host.text.toList, isSpace c = false :=
  fun c member => (hostChar_visible (host.plain c member)).1

theorem normalize_hostName : normalizeUsbipHost host.text = lower host.text :=
  normalize_host host (by rw [strip_plain (host_solid host),stripBrackets_host])

theorem at_notMem_lower : '@' ∉ (lower host.text).toList := by
  unfold lower
  rw [String.toList_ofList,mem_lower (by decide) (by decide)]
  exact fun member => (hostChar_visible (host.plain _ member)).2.2 rfl

end

theorem normalize_address (address : Address) (anonymous : address.user = none) :
    normalizeUsbipHost address.text = lower address.host.text := by
  obtain ⟨user,host,bracketed,port,named,digits,login,literal,separated⟩ := address
  cases anonymous
  cases port with
  | some port => cases login rfl
  | none =>
    refine normalize_host host ?_
    unfold Address.text
    cases bracketed with
    | false => simpa [strip_plain (host_solid host)] using stripBrackets_host host
    | true =>
      have visible : ∀ c ∈ ("[" ++ host.text ++ "]").toList, isSpace c = false := by
        intro c member
        simp only [String.toList_append,List.mem_append] at member
        rcases member with (left | inner) | right
        · rw [List.mem_singleton.mp left]
          decide
        · exact host_solid host c inner
        · rw [List.mem_singleton.mp right]
          decide
      simpa [strip_plain visible] using stripBrackets_bracketed host

theorem normalize_named (address : Address) (named : address.user ≠ none) (host : HostName) :
    normalizeUsbipHost address.text ≠ lower host.text := by
  intro same
  obtain ⟨user,given⟩ := Option.ne_none_iff_exists'.mp named
  have written : '@' ∈ address.text.toList := by
    unfold Address.text
    rw [given]
    simp
  exact at_notMem_lower host (same ▸ at_mem_normalize written)

theorem strip_address (address : Address) : strip address.text = address.text := by
  refine strip_plain ?_
  have digit : ∀ c : Char, c.isDigit = true → isSpace c = false := by
    intro c number
    have both : (decide (48 ≤ c.val) && decide (c.val ≤ 57)) = true := number
    rw [Bool.and_eq_true,decide_eq_true_eq,decide_eq_true_eq,UInt32.le_iff_toNat_le,UInt32.le_iff_toNat_le] at both
    have range : 48 ≤ c.toNat ∧ c.toNat ≤ 57 := both
    unfold isSpace
    simp only [Bool.or_eq_false_iff,Bool.and_eq_false_iff,decide_eq_false_iff_not,beq_eq_false_iff_ne]
    omega
  unfold Address.text
  refine Solid.append (Solid.append ?_ ?_) ?_
  · cases given : address.user with
    | none => exact fun c member => by cases member
    | some user => exact Solid.append (fun c member => (hostChar_visible ((address.named user given).2 c member)).1) (by decide)
  · split
    · exact Solid.append (Solid.append (by decide) (host_solid address.host)) (by decide)
    · exact host_solid address.host
  · cases given : address.port with
    | none => exact fun c member => by cases member
    | some port => exact Solid.append (by decide) fun c member => digit c ((address.digits port given).2 c member)

end GmsRemoteTest.Firmware
