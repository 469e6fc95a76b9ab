import GmsRemoteTest.Devices.UsbipPortListings

/-! The parser of the Worker on the same listings: a port has every host and busid that a line under it names, where the Controller keeps the
last; with one host and busid under each port the two agree. -/
namespace GmsRemoteTest.UsbipTransaction
open WorkerUsbip (isWhitespace splitWhitespace urlHostAndPath portHeader portBlocks portMatches Blocks)

variable {isalnum : Char → Bool}

theorem whitespace_space {c : Char} (blank : isWhitespace c = true) : Text.isSpace c = true := by
  simp only [isWhitespace,Bool.or_eq_true,Bool.and_eq_true,decide_eq_true_eq,beq_iff_eq] at blank
  simp only [Text.isSpace,Bool.or_eq_true,Bool.and_eq_true,decide_eq_true_eq,beq_iff_eq]
  omega

theorem visible_whitespace {c : Char} (visible : Text.isSpace c = false) : isWhitespace c = false := by
  rw [← Bool.not_eq_true]
  intro blank
  rw [whitespace_space blank] at visible
  cases visible

theorem Blanks.whitespace (blanks : Blanks) : ∀ c ∈ blanks.chars, isWhitespace c = true := by
  intro c member
  obtain rfl | rfl := blanks.blank c member
  all_goals decide

theorem dropReturn_eq {line : List Char} (free : '\r' ∉ line) : WorkerUsbip.dropReturn line = line := by
  unfold WorkerUsbip.dropReturn
  exact if_neg fun last => free (List.mem_of_getLast? last)

theorem lines_output (ended : Bool) (ports : List Listed) : WorkerUsbip.lines (output ended ports) = ports.flatMap Listed.lines := by
  have whole := whole_lines ports
  have joined : Lines.splitlines WorkerUsbip.isNewline (output ended ports) = ports.flatMap Listed.lines := by
    refine Lines.splitlines_join (by decide) ended fun line member => ⟨(whole line member).1,fun c inside => ?_⟩
    rw [← Bool.not_eq_true]
    intro newline
    have free := (whole line member).2 c inside
    rw [of_decide_eq_true newline] at free
    revert free
    decide
  have kept : (Lines.completeLines WorkerUsbip.isNewline (output ended ports)).map WorkerUsbip.dropReturn =
      Lines.completeLines WorkerUsbip.isNewline (output ended ports) := by
    refine (List.map_congr_left fun line member => ?_).trans (List.map_id _)
    refine dropReturn_eq fun carriage => ?_
    have inside : line ∈ ports.flatMap Listed.lines := by
      rw [← joined]
      exact List.mem_append_left _ member
    have free := (whole line inside).2 _ carriage
    revert free
    decide
  unfold WorkerUsbip.lines
  rw [kept]
  exact joined

theorem portHeader_header (header : Header) : portHeader header.line = some header.number.chars := by
  obtain ⟨d,others,shape,decimal⟩ := header.number.head
  have visible := visible_whitespace (AoaProfile.decimal_visible decimal)
  have line : header.line.dropWhile isWhitespace = "Port".toList ++ (header.gap.chars ++ (header.number.chars ++ ':' :: header.tail)) := by
    unfold Header.line
    rw [List.dropWhile_append_of_pos header.indent.whitespace]
    exact List.dropWhile_cons_of_neg (by decide)
  have blanks : (header.gap.chars ++ (header.number.chars ++ ':' :: header.tail)).takeWhile isWhitespace = header.gap.chars := by
    rw [List.takeWhile_append_of_pos header.gap.whitespace,shape,List.cons_append,List.takeWhile_cons_of_neg (by rw [visible]; exact Bool.false_ne_true),
      List.append_nil]
  have number : (header.gap.chars ++ (header.number.chars ++ ':' :: header.tail)).dropWhile isWhitespace = header.number.chars ++ ':' :: header.tail := by
    rw [List.dropWhile_append_of_pos header.gap.whitespace,shape,List.cons_append,List.dropWhile_cons_of_neg (by rw [visible]; exact Bool.false_ne_true)]
  have decimals : ∀ c ∈ header.number.chars, WorkerUsbip.isDecimal c = true := header.number.decimal
  have digits : (header.number.chars ++ ':' :: header.tail).takeWhile WorkerUsbip.isDecimal = header.number.chars := by
    rw [List.takeWhile_append_of_pos decimals,List.takeWhile_cons_of_neg (by decide),List.append_nil]
  have colon : (header.number.chars ++ ':' :: header.tail).dropWhile WorkerUsbip.isDecimal = ':' :: header.tail := by
    rw [List.dropWhile_append_of_pos decimals,List.dropWhile_cons_of_neg (by decide)]
  unfold portHeader
  rw [line]
  dsimp only
  rw [if_neg (not_not.mpr (List.isPrefixOf_iff_prefix.mpr (List.prefix_append _ _)))]
  rw [show ("Port".toList ++ (header.gap.chars ++ (header.number.chars ++ ':' :: header.tail))).drop 4 =
    header.gap.chars ++ (header.number.chars ++ ':' :: header.tail) from rfl]
  rw [blanks,number,digits,colon]
  refine if_neg ?_
  rintro (wrong | wrong | wrong)
  · exact header.gap_some wrong
  · exact header.number.some_ wrong
  · exact wrong rfl

theorem portHeader_detail (detail : Detail) : portHeader detail.line = none := by
  obtain ⟨d,others,shape,decimal⟩ := detail.localBusid.head
  have line : detail.line.dropWhile isWhitespace = d :: (others ++ ' ' :: ("->".toList ++ ' ' :: detail.url)) := by
    unfold Detail.line
    rw [List.dropWhile_append_of_pos detail.indent.whitespace,shape,List.cons_append,List.dropWhile_cons_of_neg]
    rw [visible_whitespace (AoaProfile.decimal_visible decimal)]
    exact Bool.false_ne_true
  unfold portHeader
  rw [line]
  refine if_pos fun word => ?_
  obtain ⟨rest,same⟩ := List.isPrefixOf_iff_prefix.mp word
  obtain ⟨rfl,_⟩ := List.cons.inj same
  revert decimal
  decide

def Listed.block (listed : Listed) : List Char × List Char := (listed.header.number.chars,['\n'].intercalate listed.lines)

theorem read_details (blocks : List (List Char × List Char)) (port : List Char) (some_ : port ≠ []) (read : List (List Char)) (details : List Detail) :
    (details.map Detail.line).foldl Blocks.read ⟨blocks,port,read⟩ = ⟨blocks,port,read ++ details.map Detail.line⟩ := by
  induction details generalizing read with
  | nil => simp
  | cons detail details ih =>
    have first : Blocks.read ⟨blocks,port,read⟩ detail.line = ⟨blocks,port,read ++ [detail.line]⟩ := by
      unfold Blocks.read
      rw [portHeader_detail]
      exact if_neg some_
    rw [List.map_cons,List.foldl_cons,first,ih,List.append_assoc]
    rfl

theorem closed_ports (ports : List Listed) (state : Blocks) :
    ((ports.flatMap Listed.lines).foldl Blocks.read state).closed = state.closed ++ ports.map Listed.block := by
  induction ports generalizing state with
  | nil => exact (List.append_nil _).symm
  | cons listed ports ih =>
    have first : Blocks.read state listed.header.line = ⟨state.closed,listed.header.number.chars,[listed.header.line]⟩ := by
      unfold Blocks.read
      rw [portHeader_header]
    rw [List.flatMap_cons,List.foldl_append,ih]
    unfold Listed.lines
    rw [List.foldl_cons,first,read_details _ _ listed.header.number.some_]
    unfold Blocks.closed
    rw [if_neg listed.header.number.some_,List.map_cons,List.append_assoc]
    rfl

theorem portBlocks_output (ended : Bool) (ports : List Listed) : portBlocks (output ended ports) = ports.map Listed.block := by
  have last : ∀ state : Blocks, (state.read "Port 999999:".toList).blocks = state.closed := by
    intro state
    unfold Blocks.read
    rw [show portHeader "Port 999999:".toList = some "999999".toList by decide +kernel]
  unfold portBlocks
  rw [lines_output,List.foldl_append,List.foldl_cons,List.foldl_nil,last,closed_ports]
  rfl

theorem splitWhitespace_append (first second : List Char) :
    splitWhitespace (first ++ '\n' :: second) = splitWhitespace first ++ splitWhitespace second := by
  unfold splitWhitespace
  rw [List.splitOnP_append_cons first second (by decide),List.filter_append]

theorem splitWhitespace_lines (lines : List (List Char)) : splitWhitespace (['\n'].intercalate lines) = lines.flatMap splitWhitespace := by
  induction lines with
  | nil => rfl
  | cons line lines ih =>
    cases lines with
    | nil =>
      rw [List.intercalate_singleton]
      exact (List.append_nil _).symm
    | cons second lines =>
      rw [List.intercalate_cons_cons,List.append_assoc,List.singleton_append,splitWhitespace_append,ih]
      rfl

theorem splitOnP_within (p : Char → Bool) (text : List Char) :
    (∀ piece ∈ (text.splitOnP p).head?, piece <+: text) ∧ ∀ piece ∈ text.splitOnP p, piece <:+: text := by
  induction text with
  | nil => simp
  | cons c text ih =>
    obtain ⟨start,within⟩ := ih
    rw [List.splitOnP_cons_eq_if_modifyHead]
    split
    · refine ⟨fun piece first => ?_,fun piece member => ?_⟩
      · cases first
        exact List.nil_prefix
      · obtain rfl | member := List.mem_cons.mp member
        · exact List.nil_infix
        · exact List.infix_cons (within piece member)
    · cases pieces : text.splitOnP p with
      | nil => simp
      | cons piece others =>
        rw [pieces] at start within
        have first : c :: piece <+: c :: text := List.cons_prefix_cons.mpr ⟨rfl,start piece rfl⟩
        refine ⟨fun other head => ?_,fun other member => ?_⟩
        · cases head
          exact first
        · obtain rfl | member := List.mem_cons.mp member
          · exact first.isInfix
          · exact List.infix_cons (within other (List.mem_cons_of_mem _ member))

theorem url_scheme {token : List Char} {found : List Char × List Char} (url : urlHostAndPath token = some found) : "usbip://".toList <+: token := by
  unfold urlHostAndPath at url
  dsimp only at url
  split at url
  · cases url
  · rename_i scheme
    exact (List.isPrefixOf_iff_prefix.mp (not_not.mp scheme)).trans (List.rdropWhile_prefix _ _)

theorem header_plain (header : Header) : ¬"usbip://".toList <:+: header.line := by
  rintro ⟨before,after,same⟩
  have split_ : header.line = (header.indent.chars ++ ("Port".toList ++ (header.gap.chars ++ (header.number.chars ++ [':'])))) ++ header.tail := by
    simp [Header.line]
  have free : 'u' ∉ header.indent.chars ++ ("Port".toList ++ (header.gap.chars ++ (header.number.chars ++ [':']))) := by
    rw [List.mem_append,List.mem_append,List.mem_append,List.mem_append]
    rintro (member | member | member | member | member)
    · obtain wrong | wrong := header.indent.blank _ member
      all_goals
        revert wrong
        decide
    · revert member
      decide
    · obtain wrong | wrong := header.gap.blank _ member
      all_goals
        revert wrong
        decide
    · have decimal := header.number.decimal _ member
      revert decimal
      decide
    · revert member
      decide
  rw [split_,List.append_assoc] at same
  obtain ⟨middle,shape,rest⟩ | ⟨middle,shape,rest⟩ := List.append_eq_append_iff.mp same
  · cases middle with
    | nil => exact header.plain ⟨[],after,rest⟩
    | cons c middle =>
      obtain ⟨rfl,_⟩ := List.cons.inj rest
      refine free ?_
      rw [shape]
      exact List.mem_append_right _ List.mem_cons_self
  · exact header.plain ⟨middle,after,by rw [rest,List.append_assoc]⟩

theorem header_urls (header : Header) : ∀ token ∈ splitWhitespace header.line, urlHostAndPath token = none := by
  intro token member
  cases url : urlHostAndPath token with
  | none => rfl
  | some found =>
    have within := (splitOnP_within isWhitespace header.line).2 token (List.mem_of_mem_filter member)
    exact absurd ((url_scheme url).isInfix.trans within) (header_plain header)

theorem splitWhitespace_blanks {blanks : List Char} (blank : ∀ c ∈ blanks, isWhitespace c = true) (text : List Char) :
    splitWhitespace (blanks ++ text) = splitWhitespace text := by
  induction blanks with
  | nil => rfl
  | cons c blanks ih =>
    rw [List.cons_append,← ih fun other member => blank other (List.mem_cons_of_mem _ member)]
    unfold splitWhitespace
    rw [List.splitOnP_cons_eq_if_modifyHead,if_pos (blank c List.mem_cons_self)]
    exact List.filter_cons_of_neg (by decide)

section
variable {word : List Char} (some_ : word ≠ []) (visible : ∀ c ∈ word, isWhitespace c = false)
include some_ visible

theorem splitWhitespace_word (text : List Char) :
    splitWhitespace (word ++ ' ' :: text) = word :: splitWhitespace text := by
  unfold splitWhitespace
  rw [List.splitOnP_append_cons_of_forall_mem visible ' ' (by decide),List.filter_cons_of_pos (p := fun piece => decide (piece ≠ [])) (decide_eq_true some_)]

theorem splitWhitespace_last : splitWhitespace word = [word] := by
  unfold splitWhitespace
  rw [List.splitOnP_eq_singleton visible,List.filter_cons_of_pos (p := fun piece => decide (piece ≠ [])) (decide_eq_true some_)]
  rfl

end

theorem words_detail (detail : Detail) : splitWhitespace detail.line = [detail.localBusid.text,"->".toList,detail.url] := by
  obtain ⟨d,others,shape,_⟩ := detail.localBusid.head
  have some_ : detail.localBusid.text ≠ [] := by
    rw [shape]
    exact List.cons_ne_nil _ _
  have url : detail.url ≠ [] := List.append_ne_nil_of_left_ne_nil (by decide) _
  unfold Detail.line
  rw [splitWhitespace_blanks detail.indent.whitespace,splitWhitespace_word some_ fun c member => visible_whitespace (visible_busid _ c member),
    splitWhitespace_word (by decide) fun c => of_all (by decide),
    splitWhitespace_last url fun c member => visible_whitespace (visible_url detail c member)]

theorem until_mark {mark : Char} {text : List Char} (free : mark ∉ text) (rest : List Char) :
    (text ++ mark :: rest).takeWhile (· ≠ mark) = text ∧ (text ++ mark :: rest).dropWhile (· ≠ mark) = mark :: rest := by
  have other : ∀ c ∈ text, decide (c ≠ mark) = true := fun c member => decide_eq_true fun same => free (same ▸ member)
  constructor
  · rw [List.takeWhile_append_of_pos other,List.takeWhile_cons_of_neg (by simp),List.append_nil]
  · rw [List.dropWhile_append_of_pos other,List.dropWhile_cons_of_neg (by simp)]

theorem trim_end {p : Char → Bool} {front : List Char} {last : Char} (stays : p last = false) :
    ((front ++ [last]).reverse.dropWhile p).reverse = front ++ [last] := by
  rw [List.reverse_append,List.reverse_singleton,List.singleton_append,List.dropWhile_cons_of_neg (by rw [stays]; exact Bool.false_ne_true),
    List.reverse_cons,List.reverse_reverse]

theorem decimal_not {c d : Char} (decimal : isDecimal c = true) (other : isDecimal d = false) : c ≠ d := by
  rintro rfl
  rw [decimal] at other
  cases other

theorem slash_host (host : Host) : '/' ∉ host.text := by
  cases host with
  | name chars _ plain =>
    intro member
    have held := (plain _ member).1
    revert held
    decide
  | bracketed chars _ hex =>
    intro member
    obtain same | member := List.mem_cons.mp member
    · revert same
      decide
    · obtain member | member := List.mem_append.mp member
      · have held := hex _ member
        revert held
        decide
      · revert member
        decide

theorem free_digits {mark : Char} (other : isDecimal mark = false) (digits : Digits) : mark ∉ digits.chars :=
  fun member => decimal_not (digits.decimal _ member) other rfl

theorem slash_port (number : Option Digits) : '/' ∉ portText number := by
  cases number with
  | none => exact List.not_mem_nil
  | some number =>
    intro member
    obtain same | member := List.mem_cons.mp member
    · revert same
      decide
    · exact free_digits (by decide) number member

theorem urlHostAndPath_url (detail : Detail) : urlHostAndPath detail.url = some (detail.host.address,detail.busid.text) := by
  obtain ⟨front,last,end_,decimal⟩ := detail.busid.last
  obtain ⟨head,others,start,decimal'⟩ := detail.busid.head
  have whole : (detail.url.reverse.dropWhile fun c => c = ',' || c = ';' || c = ')').reverse = detail.url := by
    have shape : detail.url = ("usbip://".toList ++ (detail.host.text ++ (portText detail.hostPort ++ '/' :: front))) ++ [last] := by
      unfold Detail.url
      rw [end_,List.append_assoc,List.append_assoc,List.append_assoc]
      rfl
    rw [shape]
    refine trim_end ?_
    have comma := decimal_not decimal (show isDecimal ',' = false by decide)
    have semicolon := decimal_not decimal (show isDecimal ';' = false by decide)
    have bracket := decimal_not decimal (show isDecimal ')' = false by decide)
    simp [comma,semicolon,bracket]
  have path : ((detail.busid.text.dropWhile (· = '/')).reverse.dropWhile (· = '/')).reverse = detail.busid.text := by
    have opening : detail.busid.text.dropWhile (· = '/') = detail.busid.text := by
      rw [start,List.dropWhile_cons_of_neg]
      exact fun slash => decimal_not decimal' (show isDecimal '/' = false by decide) (of_decide_eq_true slash)
    rw [opening,end_]
    exact trim_end (decide_eq_false (decimal_not decimal (by decide)))
  have rest : detail.url.drop 8 = (detail.host.text ++ portText detail.hostPort) ++ '/' :: detail.busid.text := by
    rw [List.append_assoc]
    rfl
  have free : '/' ∉ detail.host.text ++ portText detail.hostPort := by
    rw [List.mem_append]
    exact fun member => member.elim (slash_host _) (slash_port _)
  obtain ⟨authority,after⟩ := until_mark free detail.busid.text
  have scheme : "usbip://".toList.isPrefixOf detail.url = true := List.isPrefixOf_iff_prefix.mpr (List.prefix_append _ _)
  unfold urlHostAndPath
  rw [whole]
  dsimp only
  rw [if_neg (not_not.mpr scheme),rest,authority,after,
    if_neg (not_not.mpr (List.mem_append_right _ List.mem_cons_self)),List.drop_one,List.tail_cons,path]
  cases host : detail.host with
  | name chars some_ plain =>
    obtain ⟨c,others,rfl⟩ := List.exists_cons_of_ne_nil some_
    have bracket : c ≠ '[' := fun same => (plain c List.mem_cons_self).2 (same ▸ List.mem_cons_self)
    have colon : ':' ∉ c :: others := fun member => by
      have held := (plain _ member).1
      revert held
      decide
    split
    · rename_i bracketed same
      exact absurd (List.cons.inj same).1 bracket
    · refine congrArg (fun found => some (found,detail.busid.text)) ?_
      show (if ':' ∈ (c :: others) ++ portText detail.hostPort then
        ((((c :: others) ++ portText detail.hostPort).reverse.dropWhile (· ≠ ':')).drop 1).reverse else (c :: others) ++ portText detail.hostPort) = c :: others
      cases detail.hostPort with
      | none =>
        rw [show portText none = [] from rfl,List.append_nil,if_neg colon]
      | some number =>
        have digits : ':' ∉ number.chars.reverse := fun member => free_digits (by decide) number (List.mem_reverse.mp member)
        have reversed : ((c :: others) ++ portText (some number)).reverse = number.chars.reverse ++ ':' :: (c :: others).reverse := by simp [portText]
        have listed : ':' ∈ (c :: others) ++ portText (some number) := List.mem_append_right _ List.mem_cons_self
        rw [if_pos listed,reversed,(until_mark digits _).2,List.drop_one,List.tail_cons,List.reverse_reverse]
  | bracketed chars some_ hex =>
    have close : ']' ∉ chars := fun member => by
      have held := hex _ member
      revert held
      decide
    have shape : (Host.bracketed chars some_ hex).text ++ portText detail.hostPort = '[' :: (chars ++ ']' :: portText detail.hostPort) := by
      simp [Host.text]
    rw [shape]
    show (if ']' ∈ chars ++ ']' :: portText detail.hostPort then
      some ((chars ++ ']' :: portText detail.hostPort).takeWhile (· ≠ ']'),detail.busid.text) else none) = some (chars,detail.busid.text)
    rw [if_pos (List.mem_append_right _ List.mem_cons_self),(until_mark close _).1]

theorem portMatches_block (listed : Listed) (host busid : String) : portMatches listed.block.2 host busid = true ↔
    ∃ detail ∈ listed.details, detail.host.address = host.toList ∧ detail.busid.text = busid.toList := by
  have local_ : ∀ busid : Busid, urlHostAndPath busid.text = none := by
    intro busid
    obtain ⟨d,others,shape,decimal⟩ := busid.head
    cases url : urlHostAndPath busid.text with
    | none => rfl
    | some found =>
      obtain ⟨rest,same⟩ := url_scheme url
      have start : 'u' = d := (List.cons.inj (same.trans shape)).1
      rw [← start] at decimal
      exact absurd decimal (by decide)
  unfold portMatches Listed.block
  rw [List.any_eq_true,splitWhitespace_lines]
  constructor
  · rintro ⟨token,member,found⟩
    have url := of_decide_eq_true found
    obtain ⟨line,inside,member⟩ := List.mem_flatMap.mp member
    obtain rfl | inside := List.mem_cons.mp inside
    · rw [header_urls listed.header token member] at url
      cases url
    · obtain ⟨detail,under,rfl⟩ := List.mem_map.mp inside
      rw [words_detail,List.mem_cons,List.mem_cons,List.mem_singleton] at member
      obtain rfl | rfl | rfl := member
      · rw [local_] at url
        cases url
      · revert url
        rw [show urlHostAndPath "->".toList = none by decide]
        exact nofun
      · rw [urlHostAndPath_url,Option.some.injEq,Prod.mk.injEq] at url
        exact ⟨detail,under,url⟩
  · rintro ⟨detail,inside,address,path⟩
    refine ⟨detail.url,List.mem_flatMap.mpr ⟨detail.line,List.mem_cons_of_mem _ (List.mem_map_of_mem inside),?_⟩,decide_eq_true ?_⟩
    · rw [words_detail]
      exact List.mem_cons_of_mem _ (List.mem_cons_of_mem _ List.mem_cons_self)
    · rw [urlHostAndPath_url,address,path]

/-- Some block of a port satisfies `port_matches`. -/
def workerAttributes (text : List Char) (host busid : String) (port : List Char) : Bool :=
  (portBlocks text).any fun entry => entry.1 = port && portMatches entry.2 host busid

/-- Some entry has the port, the host and the busid. -/
def controllerAttributes (isalnum : Char → Bool) (text : List Char) (host busid : String) (port : List Char) : Bool :=
  (parseUsbipPortEntries isalnum text).any fun entry => entry.port = port && entry.host = host.toList && entry.busid = busid.toList

/-- A line under the port names the host and the busid. -/
def Named (ports : List Listed) (host busid : String) (port : List Char) : Prop :=
  ∃ listed ∈ ports, listed.header.number.chars = port ∧
    ∃ detail ∈ listed.details, detail.host.address = host.toList ∧ detail.busid.text = busid.toList

/-- There are lines under the port, and they name one host and busid. -/
def Listed.Settled (listed : Listed) : Prop :=
  listed.details ≠ [] ∧ ∀ detail ∈ listed.details, ∀ other ∈ listed.details,
    detail.host.address = other.host.address ∧ detail.busid.text = other.busid.text

section
variable (ended : Bool) (ports : List Listed) (host busid : String) (port : List Char)

theorem worker_named :
    workerAttributes (output ended ports) host busid port = true ↔ Named ports host busid port := by
  unfold workerAttributes Named
  rw [portBlocks_output,List.any_map,List.any_eq_true]
  refine exists_congr fun listed => and_congr_right fun _ => ?_
  show (listed.block.1 = port && portMatches listed.block.2 host busid) = true ↔ _
  rw [Bool.and_eq_true,decide_eq_true_eq,portMatches_block]
  rfl

theorem controller_named :
    controllerAttributes isalnum (output ended ports) host busid port = true ↔ ∃ listed ∈ ports,
      listed.header.number.chars = port ∧ listed.entry.host = host.toList ∧ listed.entry.busid = busid.toList := by
  unfold controllerAttributes
  rw [parse_output,List.any_map,List.any_eq_true]
  refine exists_congr fun listed => and_congr_right fun _ => ?_
  have same : listed.entry.port = listed.header.number.chars := by
    unfold Listed.entry
    cases listed.details.getLast? with
    | none => rfl
    | some detail => rfl
  show (listed.entry.port = port && listed.entry.host = host.toList && listed.entry.busid = busid.toList) = true ↔ _
  rw [Bool.and_eq_true,Bool.and_eq_true,decide_eq_true_eq,decide_eq_true_eq,decide_eq_true_eq,same,and_assoc]

end

theorem Listed.Settled.entry {listed : Listed} (settled : listed.Settled) (host busid : String) :
    (listed.entry.host = host.toList ∧ listed.entry.busid = busid.toList) ↔
      ∃ detail ∈ listed.details, detail.host.address = host.toList ∧ detail.busid.text = busid.toList := by
  obtain ⟨some_,same⟩ := settled
  have last := List.getLast?_eq_getLast_of_ne_nil some_
  have member := List.getLast_mem some_
  unfold Listed.entry
  rw [last]
  constructor
  · exact fun held => ⟨_,member,held⟩
  · rintro ⟨detail,inside,address,path⟩
    obtain ⟨address',path'⟩ := same detail inside _ member
    exact ⟨address'.symm.trans address,path'.symm.trans path⟩

/-- Both parsers give a port exactly the host and the busid that the lines under it name. -/
theorem parsers_agree (isalnum : Char → Bool) (ended : Bool) {ports : List Listed} (settled : ∀ listed ∈ ports, listed.Settled)
    (host busid : String) (port : List Char) :
    workerAttributes (output ended ports) host busid port = controllerAttributes isalnum (output ended ports) host busid port ∧
      (workerAttributes (output ended ports) host busid port = true ↔ Named ports host busid port) := by
  have worker := worker_named ended ports host busid port
  have controller : controllerAttributes isalnum (output ended ports) host busid port = true ↔ Named ports host busid port := by
    rw [controller_named]
    exact exists_congr fun listed => and_congr_right fun member => and_congr_right fun _ => (settled listed member).entry host busid
  exact ⟨Bool.eq_iff_iff.mpr (worker.trans controller.symm),worker⟩

def digit (c : Char) (decimal : isDecimal c = true) : Digits := ⟨[c],List.cons_ne_nil _ _,fun _ member => List.mem_singleton.mp member ▸ decimal⟩

def pairBusid (first second : Digits) : Busid := ⟨first,[('-',second)],List.cons_ne_nil _ _,by simp [isSeparator]⟩

def noBlanks : Blanks := ⟨[],nofun⟩

def oneBlank : Blanks := ⟨[' '],by simp⟩

def plainHeader : Header := ⟨noBlanks,oneBlank,List.cons_ne_nil _ _,digit '0' (by decide),[],nofun,by decide⟩

def detailOf (host : Host) (busid : Digits) : Detail :=
  ⟨oneBlank,pairBusid (digit '1' (by decide)) (digit '1' (by decide)),host,none,pairBusid (digit '1' (by decide)) busid⟩

def addressHost : Host := .bracketed "fe80::1".toList (by decide) (List.all_eq_true.mp (by decide))

theorem parsers_agree_address : output true [⟨plainHeader,[detailOf addressHost (digit '4' (by decide))]⟩] =
      "Port 0:\n 1-1 -> usbip://[fe80::1]/1-4\n".toList ∧
    workerAttributes "Port 0:\n 1-1 -> usbip://[fe80::1]/1-4\n".toList "fe80::1" "1-4" "0".toList =
      controllerAttributes (fun _ => false) "Port 0:\n 1-1 -> usbip://[fe80::1]/1-4\n".toList "fe80::1" "1-4" "0".toList := by
  have text : output true [⟨plainHeader,[detailOf addressHost (digit '4' (by decide))]⟩] =
      "Port 0:\n 1-1 -> usbip://[fe80::1]/1-4\n".toList := by decide +kernel
  have settled : ∀ listed ∈ [Listed.mk plainHeader [detailOf addressHost (digit '4' (by decide))]], listed.Settled := by
    intro listed member
    rw [List.mem_singleton.mp member]
    refine ⟨List.cons_ne_nil _ _,fun detail inside other inside' => ?_⟩
    rw [List.mem_singleton.mp inside,List.mem_singleton.mp inside']
    exact ⟨rfl,rfl⟩
  refine ⟨text,?_⟩
  rw [← text]
  exact (parsers_agree (fun _ => false) true settled "fe80::1" "1-4" "0".toList).1

/-- Two lines under one port: the Worker gives it both busids, the Controller the second. An address with dots in brackets is a host for the
Worker alone. -/
theorem parsers_differ :
    (output false [⟨plainHeader,[detailOf addressHost (digit '4' (by decide)),detailOf addressHost (digit '5' (by decide))]⟩] =
        "Port 0:\n 1-1 -> usbip://[fe80::1]/1-4\n 1-1 -> usbip://[fe80::1]/1-5".toList ∧
      workerAttributes "Port 0:\n 1-1 -> usbip://[fe80::1]/1-4\n 1-1 -> usbip://[fe80::1]/1-5".toList "fe80::1" "1-4" "0".toList = true ∧
      controllerAttributes (fun _ => false) "Port 0:\n 1-1 -> usbip://[fe80::1]/1-4\n 1-1 -> usbip://[fe80::1]/1-5".toList "fe80::1" "1-4" "0".toList =
        false) ∧
    workerAttributes "Port 0:\n 1-1 -> usbip://[::ffff:10.0.0.1]/1-4".toList "::ffff:10.0.0.1" "1-4" "0".toList = true ∧
      controllerAttributes (fun _ => false) "Port 0:\n 1-1 -> usbip://[::ffff:10.0.0.1]/1-4".toList "::ffff:10.0.0.1" "1-4" "0".toList = false := by
  decide +kernel

end GmsRemoteTest.UsbipTransaction
