import GmsRemoteTest.Devices.UsbipPortEntries
import GmsRemoteTest.WorkerNative.UsbipPorts

/-! Listings of ports with their URLs, and what the parsers of the Controller and of the Worker read of them. -/
namespace GmsRemoteTest.UsbipTransaction
open Regex Regex.Pattern

structure Digits where
  chars : List Char
  some_ : chars ≠ []
  decimal : ∀ c ∈ chars, isDecimal c = true

structure Busid where
  first : Digits
  others : List (Char × Digits)
  some_ : others ≠ []
  separated : ∀ part ∈ others, isSeparator part.1 = true

def otherText (others : List (Char × Digits)) : List Char := others.flatMap fun part => part.1 :: part.2.chars

def Busid.text (busid : Busid) : List Char := busid.first.chars ++ otherText busid.others

/-- A host: a name or an address with dots, or an address in brackets. -/
inductive Host
  | name (chars : List Char) (some_ : chars ≠ []) (plain : ∀ c ∈ chars, isHostChar c = true ∧ c ∉ ['[',']','|'])
  | bracketed (chars : List Char) (some_ : chars ≠ []) (hex : ∀ c ∈ chars, isHexOrColon c = true)

def Host.text : Host → List Char
  | .name chars _ _ => chars
  | .bracketed chars _ _ => '[' :: (chars ++ [']'])

def Host.address : Host → List Char
  | .name chars _ _ | .bracketed chars _ _ => chars

structure Blanks where
  chars : List Char
  blank : ∀ c ∈ chars, c = ' ' ∨ c = '\t'

/-- A line `<local busid> -> usbip://<host>[:port]/<busid>`. -/
structure Detail where
  indent : Blanks
  localBusid : Busid
  host : Host
  hostPort : Option Digits
  busid : Busid

def portText : Option Digits → List Char
  | none => []
  | some number => ':' :: number.chars

def Detail.url (detail : Detail) : List Char :=
  "usbip://".toList ++ (detail.host.text ++ (portText detail.hostPort ++ '/' :: detail.busid.text))

def Detail.line (detail : Detail) : List Char :=
  detail.indent.chars ++ (detail.localBusid.text ++ ' ' :: ("->".toList ++ ' ' :: detail.url))

/-- A line `Port <number>:` with a text that names no URL. -/
structure Header where
  indent : Blanks
  gap : Blanks
  gap_some : gap.chars ≠ []
  number : Digits
  tail : List Char
  whole : ∀ c ∈ tail, isLineBreak c = false
  plain : ¬"usbip://".toList <:+: tail

def Header.line (header : Header) : List Char :=
  header.indent.chars ++ ("Port".toList ++ (header.gap.chars ++ (header.number.chars ++ ':' :: header.tail)))

structure Listed where
  header : Header
  details : List Detail

def Listed.lines (listed : Listed) : List (List Char) := listed.header.line :: listed.details.map Detail.line

def output (ended : Bool) (ports : List Listed) : List Char := Lines.join '\n' ended (ports.flatMap Listed.lines)

variable {isalnum : Char → Bool} {before rest : List Char} {groups : List (String × List Char)}

theorem space_of_blank {c : Char} (blank : c = ' ' ∨ c = '\t') : Text.isSpace c = true := by
  obtain rfl | rfl := blank
  all_goals decide

theorem Blanks.space (blanks : Blanks) : ∀ c ∈ blanks.chars, Text.isSpace c = true := fun c member => space_of_blank (blanks.blank c member)

theorem Digits.visible (digits : Digits) : ∀ c ∈ digits.chars, Text.isSpace c = false :=
  fun c member => AoaProfile.decimal_visible (digits.decimal c member)

theorem separator_other {c : Char} (separator : isSeparator c = true) : isDecimal c = false := by
  have either : c = '-' ∨ c = '.' := by simpa [isSeparator] using separator
  obtain rfl | rfl := either
  all_goals decide

theorem Digits.head (digits : Digits) : ∃ c rest, digits.chars = c :: rest ∧ isDecimal c = true := by
  obtain ⟨c,rest,shape⟩ := List.exists_cons_of_ne_nil digits.some_
  exact ⟨c,rest,shape,digits.decimal c (by rw [shape]; exact List.mem_cons_self)⟩

theorem takes_digits (number : Digits) (stops : ∀ c, rest.head? = some c → isDecimal c = false) :
    Takes digits ⟨before,number.chars ++ rest,groups⟩ ⟨number.chars.reverse ++ before,rest,groups⟩ :=
  .plus_char number.some_ number.decimal stops

section
variable {others : List (Char × Digits)} (separated : ∀ part ∈ others, isSeparator part.1 = true)
include separated

theorem others_stop (stops : ∀ c, rest.head? = some c → isDecimal c = false) : ∀ c, (otherText others ++ rest).head? = some c → isDecimal c = false := by
  intro c head
  cases others with
  | nil => exact stops c head
  | cons next others =>
    cases head
    exact separator_other (separated next List.mem_cons_self)

theorem takes_others (stops : ∀ c, rest.head? = some c → isDecimal c = false ∧ isSeparator c = false) :
    Takes (.star (.seq (.char isSeparator) digits)) ⟨before,otherText others ++ rest,groups⟩
      ⟨(otherText others).reverse ++ before,rest,groups⟩ := by
  induction others generalizing before with
  | nil => exact .stop (.seq (fails_char fun c head => (stops c head).2))
  | cons part others ih =>
    have later : ∀ c, (otherText others ++ rest).head? = some c → isDecimal c = false :=
      others_stop (fun other member => separated other (List.mem_cons_of_mem part member)) fun c head => (stops c head).1
    have shape : otherText (part :: others) = part.1 :: (part.2.chars ++ otherText others) := rfl
    rw [shape,List.cons_append,List.append_assoc,List.reverse_cons,List.reverse_append,List.append_assoc,List.append_assoc]
    refine .more (.seq (.char (separated part List.mem_cons_self)) (takes_digits part.2 later)) ?_ (ih fun other member =>
      separated other (List.mem_cons_of_mem _ member))
    simp only [List.length_cons,List.length_append]
    omega

end

theorem takes_busid (busid : Busid) (stops : ∀ c, rest.head? = some c → isDecimal c = false ∧ isSeparator c = false) :
    Takes busidPattern ⟨before,busid.text ++ rest,groups⟩ ⟨busid.text.reverse ++ before,rest,groups⟩ := by
  obtain ⟨first,others,some_,separated⟩ := busid
  obtain ⟨part,others,rfl⟩ := List.exists_cons_of_ne_nil some_
  have opening : isSeparator part.1 = true := separated part List.mem_cons_self
  have later : ∀ c, (otherText others ++ rest).head? = some c → isDecimal c = false :=
    others_stop (fun other member => separated other (List.mem_cons_of_mem part member)) fun c head => (stops c head).1
  have shape : Busid.text ⟨first,part :: others,some_,separated⟩ = first.chars ++ part.1 :: (part.2.chars ++ otherText others) := rfl
  rw [shape,List.append_assoc,List.cons_append,List.append_assoc,List.reverse_append,List.reverse_cons,List.reverse_append,List.append_assoc,
    List.append_assoc,List.append_assoc]
  refine .seq (takes_digits first fun c head => ?_) (.seq (.seq (.char opening) (takes_digits part.2 later))
    (takes_others (fun other member => separated other (List.mem_cons_of_mem _ member)) stops))
  cases head
  exact separator_other opening

theorem takes_literalIgnoringCase {word : List Char} (same : word.all (fun c => sameLetter c c) = true) :
    Takes (seqs (word.map fun letter => .char (sameLetter letter))) ⟨before,word ++ rest,groups⟩ ⟨word.reverse ++ before,rest,groups⟩ := by
  induction word generalizing before with
  | nil => exact .empty _
  | cons c word ih =>
    obtain ⟨first,rest⟩ := Bool.and_eq_true_iff.mp same
    rw [List.reverse_cons,List.append_assoc]
    exact .seq (.char first) (ih rest)

theorem takes_host (host : Host) (stops : ∀ c, rest.head? = some c → c = ':' ∨ c = '/') :
    Takes (.alt (seqs [only '[',plus (.char isHexOrColon),only ']']) (plus (.char isHostChar))) ⟨before,host.text ++ rest,groups⟩
      ⟨host.text.reverse ++ before,rest,groups⟩ := by
  cases host with
  | name chars some_ plain =>
    obtain ⟨c,others,rfl⟩ := List.exists_cons_of_ne_nil some_
    refine .right (.seq (fails_only fun same => ?_)) (.plus_char some_ (fun other member => (plain other member).1) fun other head => ?_)
    · have free := (plain c List.mem_cons_self).2
      rw [show c = '[' from Option.some.inj same] at free
      exact free List.mem_cons_self
    · obtain rfl | rfl := stops other head
      all_goals decide
  | bracketed chars some_ hex =>
    have shape : (Host.bracketed chars some_ hex).text ++ rest = '[' :: (chars ++ ']' :: rest) := by simp [Host.text]
    have reversed : (Host.bracketed chars some_ hex).text.reverse ++ before = ']' :: (chars.reverse ++ '[' :: before) := by simp [Host.text]
    rw [shape,reversed]
    refine .left (.seq (.only '[') (.seq (.plus_char some_ hex fun c head => ?_) (.seq (.only ']') (.empty _))))
    cases head
    decide

theorem takes_hostPort (number : Option Digits) :
    Takes (optional (seqs [only ':',digits])) ⟨before,portText number ++ '/' :: rest,groups⟩
      ⟨(portText number).reverse ++ before,'/' :: rest,groups⟩ := by
  cases number with
  | none => exact .right (.seq (fails_only (show some '/' ≠ some ':' by decide))) (.empty _)
  | some number =>
    have reversed : (portText (some number)).reverse ++ before = number.chars.reverse ++ ':' :: before := by simp [portText]
    rw [reversed]
    refine .left (.seq (.only ':') (.seq (takes_digits number fun c head => ?_) (.empty _)))
    cases head
    decide

theorem word_of_decimal {c : Char} (decimal : isDecimal c = true) : isWord isalnum c = true := by
  unfold isWord
  rw [decimal]
  simp

theorem Busid.head (busid : Busid) : ∃ c rest, busid.text = c :: rest ∧ isDecimal c = true := by
  obtain ⟨c,rest,shape,decimal⟩ := busid.first.head
  exact ⟨c,rest ++ otherText busid.others,by rw [Busid.text,shape]; rfl,decimal⟩

theorem Busid.last (busid : Busid) : ∃ front c, busid.text = front ++ [c] ∧ isDecimal c = true := by
  obtain ⟨first,others,some_,separated⟩ := busid
  obtain ⟨init,part,rfl⟩ := (List.eq_nil_or_concat others).resolve_left some_
  obtain ⟨front,c,shape⟩ := (List.eq_nil_or_concat part.2.chars).resolve_left part.2.some_
  refine ⟨first.chars ++ (otherText init ++ part.1 :: front),c,?_,part.2.decimal c (by rw [shape]; simp)⟩
  simp [Busid.text,otherText,shape]

theorem boundary_before (busid : Busid) (apart : ∀ c, before.head? = some c → c = ' ' ∨ c = '\t') :
    Takes (wordBoundary isalnum) ⟨before,busid.text ++ rest,groups⟩ ⟨before,busid.text ++ rest,groups⟩ := by
  obtain ⟨d,others,shape,decimal⟩ := busid.head
  refine .assertion ?_
  have inner : (busid.text ++ rest).head?.any (isWord isalnum) = true := by
    rw [shape]
    exact word_of_decimal decimal
  have outer : before.head?.any (isWord isalnum) = false := by
    cases head : before.head? with
    | none => rfl
    | some c =>
      obtain rfl | rfl := apart c head
      all_goals rfl
  show (before.head?.any (isWord isalnum) != (busid.text ++ rest).head?.any (isWord isalnum)) = true
  rw [inner,outer]
  rfl

theorem boundary_after (busid : Busid) : Takes (wordBoundary isalnum) ⟨busid.text.reverse ++ before,[],groups⟩ ⟨busid.text.reverse ++ before,[],groups⟩ := by
  obtain ⟨front,c,shape,decimal⟩ := busid.last
  refine .assertion ?_
  show ((busid.text.reverse ++ before).head?.any (isWord isalnum) != false) = true
  rw [shape,List.reverse_append]
  show (isWord isalnum c != false) = true
  rw [word_of_decimal decimal]
  rfl

theorem takes_space {c : Char} (visible : Text.isSpace c = false) :
    Takes spaces ⟨before,[' '] ++ c :: rest,groups⟩ ⟨[' '].reverse ++ before,c :: rest,groups⟩ :=
  .star_char (fun d member => List.mem_singleton.mp member ▸ by decide) fun _ head => Option.some.inj head ▸ visible

theorem takes_url (detail : Detail) (apart : ∀ c, before.head? = some c → c = ' ' ∨ c = '\t') :
    ∃ last, Takes (USBIP_PORT_URL_RE isalnum) ⟨before,detail.localBusid.text ++ ' ' :: ("->".toList ++ ' ' :: detail.url),[]⟩
      ⟨last,[],[("busid",detail.busid.text),("host",detail.host.text),("local_busid",detail.localBusid.text)]⟩ := by
  have busid_ : ∀ {before groups}, Takes busidPattern ⟨before,detail.busid.text,groups⟩ ⟨detail.busid.text.reverse ++ before,[],groups⟩ := by
    intro before groups
    have whole : Takes busidPattern ⟨before,detail.busid.text ++ [],groups⟩ ⟨detail.busid.text.reverse ++ before,[],groups⟩ :=
      takes_busid detail.busid nofun
    rwa [List.append_nil] at whole
  have captured : ∀ {before groups}, Takes (.group "busid" busidPattern) ⟨before,detail.busid.text,groups⟩
      ⟨detail.busid.text.reverse ++ before,[],("busid",detail.busid.text) :: groups⟩ := by
    intro before groups
    have whole : Takes (.group "busid" busidPattern) ⟨before,detail.busid.text ++ [],groups⟩
        ⟨detail.busid.text.reverse ++ before,[],("busid",detail.busid.text) :: groups⟩ :=
      .group (by rw [List.append_nil]; exact busid_)
    rwa [List.append_nil] at whole
  have hostStops : ∀ c, (portText detail.hostPort ++ '/' :: detail.busid.text).head? = some c → c = ':' ∨ c = '/' := by
    intro c head
    cases number : detail.hostPort with
    | none =>
      rw [number] at head
      exact .inr (Option.some.inj head).symm
    | some digits =>
      rw [number] at head
      exact .inl (Option.some.inj head).symm
  exact ⟨_,.seq (boundary_before detail.localBusid apart) (.seq (.group (takes_busid detail.localBusid fun c head => Option.some.inj head ▸ by decide))
    (.seq (takes_space (by decide)) (.seq (.literal "->") (.seq (takes_space (by decide)) (.seq (takes_literalIgnoringCase (by decide))
      (.seq (.group (takes_host detail.host hostStops)) (.seq (takes_hostPort detail.hostPort) (.seq (.only '/') (.seq captured
        (.seq (boundary_after detail.busid) (.empty _)))))))))))⟩

theorem search_detail (detail : Detail) : ∃ last, (USBIP_PORT_URL_RE isalnum).search [] detail.line =
    some ⟨last,[],[("busid",detail.busid.text),("host",detail.host.text),("local_busid",detail.localBusid.text)]⟩ := by
  have skipped : (USBIP_PORT_URL_RE isalnum).search [] detail.line =
      (USBIP_PORT_URL_RE isalnum).search (detail.indent.chars.reverse ++ []) (detail.localBusid.text ++ ' ' :: ("->".toList ++ ' ' :: detail.url)) := by
    refine search_skip fun front c back shape => ?_
    have blank := detail.indent.blank c (by rw [shape]; exact List.mem_append_right _ List.mem_cons_self)
    intro later reads
    obtain ⟨place,boundary,reads⟩ := reads_seq.mp reads
    cases boundary
    obtain ⟨place,local_,_⟩ := reads_seq.mp reads
    cases local_ with
    | group inner =>
      obtain ⟨place,first,_⟩ := reads_seq.mp inner
      obtain ⟨place,digit,_⟩ := reads_seq.mp first
      obtain ⟨d,start,decimal⟩ := reads_char digit
      obtain ⟨rfl,_⟩ := List.cons.inj start
      have visible := AoaProfile.decimal_visible decimal
      rw [space_of_blank blank] at visible
      cases visible
  have apart : ∀ c, (detail.indent.chars.reverse ++ []).head? = some c → c = ' ' ∨ c = '\t' := by
    intro c head
    rw [List.append_nil] at head
    exact detail.indent.blank c (List.mem_reverse.mp (List.mem_of_mem_head? head))
  obtain ⟨last,takes⟩ := @takes_url isalnum _ detail apart
  exact ⟨last,skipped.trans (search_eq takes)⟩

theorem match_header (header : Header) : ∃ last, portPattern.matchStart header.line = some ⟨last,header.tail,[("port",header.number.chars)]⟩ := by
  obtain ⟨c,others,shape,decimal⟩ := header.number.head
  refine ⟨_,matchStart_eq (.seq (.star_char header.indent.space fun c head => ?_) (.seq (.literal "Port")
    (.seq (.plus_char header.gap_some header.gap.space fun c head => ?_)
      (.seq (.group (takes_digits header.number fun c head => ?_)) (.seq (.only ':') (.empty _))))))⟩
  · exact Option.some.inj head ▸ by decide
  · rw [shape] at head
    exact Option.some.inj head ▸ AoaProfile.decimal_visible decimal
  · exact Option.some.inj head ▸ by decide

theorem detail_start (detail : Detail) : ∃ c rest, detail.line.dropWhile Text.isSpace = c :: rest ∧ isDecimal c = true := by
  obtain ⟨c,others,shape,decimal⟩ := detail.localBusid.head
  refine ⟨c,others ++ ' ' :: ("->".toList ++ ' ' :: detail.url),?_,decimal⟩
  unfold Detail.line
  rw [List.dropWhile_append_of_pos detail.indent.space,shape,List.cons_append,List.dropWhile_cons_of_neg]
  rw [AoaProfile.decimal_visible decimal]
  exact Bool.false_ne_true

theorem detail_no_header (detail : Detail) : portPattern.matchStart detail.line = none := by
  refine matchStart_none fun later reads => ?_
  obtain ⟨place,blank,reads⟩ := reads_seq.mp reads
  obtain ⟨text,start,all⟩ := reads_star_char blank
  obtain ⟨between,word,_⟩ := reads_seq.mp reads
  obtain ⟨between,letter,_⟩ := reads_seq.mp word
  obtain ⟨p,first,same⟩ := reads_char letter
  obtain rfl : p = 'P' := of_decide_eq_true same
  obtain ⟨c,rest,shape,decimal⟩ := detail_start detail
  dsimp only at start
  rw [start,first,List.dropWhile_append_of_pos all,List.dropWhile_cons_of_neg (by decide)] at shape
  obtain ⟨rfl,_⟩ := List.cons.inj shape
  revert decimal
  decide

theorem bar_digits (digits : Digits) : '|' ∉ digits.chars := by
  intro member
  have decimal := digits.decimal _ member
  revert decimal
  decide

theorem bar_busid (busid : Busid) : '|' ∉ busid.text := by
  unfold Busid.text otherText
  rw [List.mem_append,List.mem_flatMap]
  rintro (member | ⟨part,inside,member⟩)
  · exact bar_digits _ member
  · obtain same | member := List.mem_cons.mp member
    · have separator := busid.separated part inside
      rw [← same] at separator
      revert separator
      decide
    · exact bar_digits _ member

theorem bar_host (host : Host) : '|' ∉ host.text := by
  cases host with
  | name chars _ plain => exact fun member => (plain _ member).2 (by decide)
  | bracketed chars _ hex =>
    have free : '|' ∉ chars := fun member => by
      have wrong := hex _ member
      revert wrong
      decide
    simp [Host.text,free]

theorem bar_port (number : Option Digits) : '|' ∉ portText number := by
  cases number with
  | none => exact List.not_mem_nil
  | some number => simp [portText,bar_digits]

theorem bar_url (detail : Detail) : '|' ∉ detail.url := by
  unfold Detail.url
  rw [List.mem_append,List.mem_append,List.mem_append,List.mem_cons]
  rintro (member | member | member | same | member)
  · revert member
    decide
  · exact bar_host _ member
  · exact bar_port _ member
  · revert same
    decide
  · exact bar_busid _ member

theorem bar_detail (detail : Detail) : '|' ∉ detail.line := by
  unfold Detail.line
  rw [List.mem_append,List.mem_append,List.mem_cons,List.mem_append,List.mem_cons]
  rintro (member | member | same | member | same | member)
  · obtain wrong | wrong := detail.indent.blank _ member
    all_goals
      revert wrong
      decide
  · exact bar_busid _ member
  · revert same
    decide
  · revert member
    decide
  · revert same
    decide
  · exact bar_url _ member

theorem detail_no_device (detail : Detail) : USBIP_PORT_DEVICE_RE.matchStart detail.line = none := by
  refine matchStart_none fun later reads => ?_
  obtain ⟨place,start,reads⟩ := reads_seq.mp reads
  cases start
  obtain ⟨place,blank,reads⟩ := reads_seq.mp reads
  obtain ⟨place',busid,reads⟩ := reads_seq.mp reads
  obtain ⟨place'',blank',reads⟩ := reads_seq.mp reads
  obtain ⟨_,bar,_⟩ := reads_seq.mp reads
  obtain ⟨c,first,same⟩ := reads_char bar
  obtain rfl : c = '|' := of_decide_eq_true same
  obtain ⟨front,shape⟩ := blank.forward
  obtain ⟨front',shape'⟩ := busid.forward
  obtain ⟨front'',shape''⟩ := blank'.forward
  refine bar_detail detail ?_
  dsimp only at shape
  rw [shape,shape',shape'',first]
  simp

theorem space_of_lineBreak {c : Char} (break_ : isLineBreak c = true) : Text.isSpace c = true := by
  have listed : c ∈ ['\n','\r','\x0b','\x0c','\x1c','\x1d','\x1e','\u0085','\u2028','\u2029'] := of_decide_eq_true break_
  have all : ['\n','\r','\x0b','\x0c','\x1c','\x1d','\x1e','\u0085','\u2028','\u2029'].all Text.isSpace = true := by decide
  exact List.all_eq_true.mp all c listed

theorem of_all {text : List Char} {p : Char → Bool} (all : text.all (fun c => p c = false) = true) {c : Char} (member : c ∈ text) : p c = false :=
  of_decide_eq_true (List.all_eq_true.mp all c member)

theorem whole_visible {c : Char} (visible : Text.isSpace c = false) : isLineBreak c = false := by
  rw [← Bool.not_eq_true]
  intro break_
  rw [space_of_lineBreak break_] at visible
  cases visible

theorem whole_blank {c : Char} (blank : c = ' ' ∨ c = '\t') : isLineBreak c = false := by
  obtain rfl | rfl := blank
  all_goals decide

theorem visible_busid (busid : Busid) : ∀ c ∈ busid.text, Text.isSpace c = false := by
  intro c member
  obtain member | member := List.mem_append.mp member
  · exact busid.first.visible c member
  · obtain ⟨part,inside,member⟩ := List.mem_flatMap.mp member
    obtain rfl | member := List.mem_cons.mp member
    · have either : part.1 = '-' ∨ part.1 = '.' := by simpa [isSeparator] using busid.separated part inside
      obtain same | same := either
      all_goals
        rw [same]
        decide
    · exact part.2.visible c member

theorem visible_hex {c : Char} (hex : isHexOrColon c = true) : Text.isSpace c = false := by
  have visible : 33 ≤ c.toNat ∧ c.toNat ≤ 102 := by
    simp only [isHexOrColon,Char.isDigit,Bool.or_eq_true,Bool.and_eq_true,decide_eq_true_eq,Char.le_def,UInt32.le_iff_toNat_le] at hex
    have code : c.toNat = c.val.toNat := rfl
    obtain ((⟨low,high⟩ | ⟨low,high⟩) | ⟨low,high⟩) | rfl := hex
    · exact ⟨code ▸ le_trans (by decide) low,code ▸ le_trans high (by decide)⟩
    · exact ⟨code ▸ le_trans (by decide) low,code ▸ le_trans high (by decide)⟩
    · exact ⟨code ▸ le_trans (by decide) low,code ▸ le_trans high (by decide)⟩
    · decide
  unfold Text.isSpace
  simp
  omega

theorem visible_host (host : Host) : ∀ c ∈ host.text, Text.isSpace c = false := by
  intro c member
  cases host with
  | name chars _ plain =>
    have host := (plain c member).1
    simp only [isHostChar,Bool.and_eq_true,Bool.not_eq_true'] at host
    exact host.2
  | bracketed chars _ hex =>
    obtain rfl | member := List.mem_cons.mp member
    · decide
    · obtain member | member := List.mem_append.mp member
      · exact visible_hex (hex c member)
      · rw [List.mem_singleton.mp member]
        decide

theorem visible_url (detail : Detail) : ∀ c ∈ detail.url, Text.isSpace c = false := by
  intro c member
  unfold Detail.url at member
  rw [List.mem_append,List.mem_append,List.mem_append,List.mem_cons] at member
  obtain member | member | member | rfl | member := member
  · exact of_all (by decide) member
  · exact visible_host detail.host c member
  · cases number : detail.hostPort with
    | none =>
      rw [number] at member
      cases member
    | some digits =>
      rw [number] at member
      obtain rfl | member := List.mem_cons.mp member
      · decide
      · exact digits.visible c member
  · decide
  · exact visible_busid detail.busid c member

theorem whole_detail (detail : Detail) : ∀ c ∈ detail.line, isLineBreak c = false := by
  intro c member
  unfold Detail.line at member
  rw [List.mem_append,List.mem_append,List.mem_cons,List.mem_append,List.mem_cons] at member
  obtain member | member | rfl | member | rfl | member := member
  · exact whole_blank (detail.indent.blank c member)
  · exact whole_visible (visible_busid _ c member)
  · decide
  · exact of_all (by decide) member
  · decide
  · exact whole_visible (visible_url detail c member)

theorem whole_header (header : Header) : ∀ c ∈ header.line, isLineBreak c = false := by
  intro c member
  unfold Header.line at member
  rw [List.mem_append,List.mem_append,List.mem_append,List.mem_append,List.mem_cons] at member
  obtain member | member | member | member | rfl | member := member
  · exact whole_blank (header.indent.blank c member)
  · exact of_all (by decide) member
  · exact whole_blank (header.gap.blank c member)
  · exact whole_visible (header.number.visible c member)
  · decide
  · exact header.whole c member

theorem whole_lines (ports : List Listed) : ∀ line ∈ ports.flatMap Listed.lines, line ≠ [] ∧ ∀ c ∈ line, isLineBreak c = false := by
  intro line member
  obtain ⟨listed,_,member⟩ := List.mem_flatMap.mp member
  obtain rfl | member := List.mem_cons.mp member
  · exact ⟨by simp [Header.line],whole_header listed.header⟩
  · obtain ⟨detail,_,rfl⟩ := List.mem_map.mp member
    exact ⟨by simp [Detail.line],whole_detail detail⟩

theorem joinReturns_eq {text : List Char} (free : '\r' ∉ text) : joinReturns text = text := by
  induction text with
  | nil => rfl
  | cons c text ih =>
    rw [List.mem_cons,not_or] at free
    unfold joinReturns
    rw [if_neg fun both => free.1 both.1.symm,ih free.2]

theorem mem_join {mark : Char} {ended : Bool} {lines : List (List Char)} {c : Char} (member : c ∈ Lines.join mark ended lines) :
    c = mark ∨ ∃ line ∈ lines, c ∈ line := by
  induction lines with
  | nil => cases member
  | cons line lines ih =>
    cases lines with
    | nil =>
      obtain member | member := List.mem_append.mp member
      · exact .inr ⟨line,List.mem_cons_self,member⟩
      · cases ended with
        | true => exact .inl (List.mem_singleton.mp member)
        | false => cases member
    | cons second lines =>
      obtain member | member := List.mem_append.mp member
      · exact .inr ⟨line,List.mem_cons_self,member⟩
      · obtain same | member := List.mem_cons.mp member
        · exact .inl same
        · exact (ih member).imp_right fun ⟨other,inside,held⟩ => ⟨other,List.mem_cons_of_mem _ inside,held⟩

theorem splitlines_output (ended : Bool) (ports : List Listed) : splitlines (output ended ports) = ports.flatMap Listed.lines := by
  have whole := whole_lines ports
  have free : '\r' ∉ output ended ports := by
    intro member
    obtain wrong | ⟨line,inside,held⟩ := mem_join member
    · revert wrong
      decide
    · have wrong := (whole line inside).2 _ held
      revert wrong
      decide
  unfold splitlines
  rw [joinReturns_eq free]
  exact Lines.splitlines_join (by decide) ended whole

theorem stripBrackets_host (host : Host) : stripBrackets host.text = host.address := by
  have kept : ∀ {chars : List Char}, chars ≠ [] → (∀ c ∈ chars, (c = '[' || c = ']') = false) →
      (chars.reverse.dropWhile fun c => c = '[' || c = ']').reverse = chars := by
    intro chars some_ free
    obtain ⟨front,last,rfl⟩ := (List.eq_nil_or_concat' chars).resolve_left some_
    rw [List.reverse_concat,List.dropWhile_cons_of_neg,← List.reverse_concat,List.reverse_reverse]
    rw [free last (by simp)]
    exact Bool.false_ne_true
  cases host with
  | name chars some_ plain =>
    have free : ∀ c ∈ chars, (c = '[' || c = ']') = false := fun c member => by
      have bracket := (plain c member).2
      simp only [List.mem_cons,not_or] at bracket
      simp [bracket.1,bracket.2.1]
    show (((chars.dropWhile fun c => c = '[' || c = ']')).reverse.dropWhile fun c => c = '[' || c = ']').reverse = chars
    have first : (chars.dropWhile fun c => c = '[' || c = ']') = chars := by
      obtain ⟨c,others,rfl⟩ := List.exists_cons_of_ne_nil some_
      rw [List.dropWhile_cons_of_neg]
      rw [free c List.mem_cons_self]
      exact Bool.false_ne_true
    rw [first]
    exact kept some_ free
  | bracketed chars some_ hex =>
    have free : ∀ c ∈ chars, (c = '[' || c = ']') = false := fun c member => by
      have held := hex c member
      rw [← Bool.not_eq_true,Bool.or_eq_true,decide_eq_true_eq,decide_eq_true_eq]
      rintro (rfl | rfl)
      all_goals
        revert held
        decide
    show ((('[' :: (chars ++ [']'])).dropWhile fun c => c = '[' || c = ']').reverse.dropWhile fun c => c = '[' || c = ']').reverse = chars
    have first : (('[' :: (chars ++ [']'])).dropWhile fun c => c = '[' || c = ']') = chars ++ [']'] := by
      obtain ⟨c,others,rfl⟩ := List.exists_cons_of_ne_nil some_
      rw [List.dropWhile_cons_of_pos (by decide),List.cons_append,List.dropWhile_cons_of_neg]
      rw [free c List.mem_cons_self]
      exact Bool.false_ne_true
    rw [first,List.reverse_append]
    show (((']' :: chars.reverse)).dropWhile fun c => c = '[' || c = ']').reverse = chars
    rw [List.dropWhile_cons_of_pos (by decide)]
    exact kept some_ free

def Detail.entry (port : List Char) (detail : Detail) : Entry := ⟨port,detail.busid.text,detail.host.address,detail.localBusid.text⟩

def Listed.entry (listed : Listed) : Entry :=
  (listed.details.getLast?.map (Detail.entry listed.header.number.chars)).getD {port := listed.header.number.chars}

theorem line_header (reading : Reading) (header : Header) :
    reading.line isalnum header.line = {entries := reading.all, current := some {port := header.number.chars}} := by
  obtain ⟨last,found⟩ := match_header header
  unfold Reading.line
  rw [found]
  rfl

theorem line_detail (entries : List Entry) (entry : Entry) (detail : Detail) :
    Reading.line isalnum ⟨entries,some entry⟩ detail.line = ⟨entries,some (detail.entry entry.port)⟩ := by
  obtain ⟨last,found⟩ := @search_detail isalnum detail
  unfold Reading.line
  rw [detail_no_header,detail_no_device,found]
  show Reading.mk entries (some ⟨entry.port,detail.busid.text,stripBrackets detail.host.text,detail.localBusid.text⟩) = _
  rw [stripBrackets_host]
  rfl

theorem lines_details (entries : List Entry) (entry : Entry) (details : List Detail) :
    (details.map Detail.line).foldl (Reading.line isalnum) ⟨entries,some entry⟩ =
      ⟨entries,some ((details.getLast?.map (Detail.entry entry.port)).getD entry)⟩ := by
  induction details generalizing entry with
  | nil => rfl
  | cons detail details ih =>
    rw [List.map_cons,List.foldl_cons,line_detail,ih,List.getLast?_cons]
    cases details.getLast? with
    | none => rfl
    | some last => rfl

theorem parse_output (ended : Bool) (ports : List Listed) : parseUsbipPortEntries isalnum (output ended ports) = ports.map Listed.entry := by
  have fold : ∀ (ports : List Listed) (reading : Reading),
      ((ports.flatMap Listed.lines).foldl (Reading.line isalnum) reading).all = reading.all ++ ports.map Listed.entry := by
    intro ports
    induction ports with
    | nil => exact fun reading => (List.append_nil _).symm
    | cons listed ports ih =>
      intro reading
      rw [List.flatMap_cons,List.foldl_append,ih]
      unfold Listed.lines
      rw [List.foldl_cons,line_header,lines_details]
      exact List.append_assoc _ _ _
  unfold parseUsbipPortEntries
  rw [splitlines_output,fold]
  rfl

end GmsRemoteTest.UsbipTransaction
