import Mathlib.Data.List.GetD
import GmsRemoteTest.Lib.Dict
import GmsRemoteTest.Lib.Lines
import GmsRemoteTest.Foundation.Fields

/-! The probe for boards in RockUSB Loader: the listing of the Rockchip boards in sysfs and that of adb, each one
command on the Worker. The listing prints one line a board, with its product id, its serial and its product name
between tabs. `lower` is `str.lower`. -/
namespace GmsRemoteTest.Firmware
open Text

def isLineBreak (c : Char) : Bool :=
  c ∈ ['\n','\r','\x0b','\x0c','\x1c','\x1d','\x1e','\u0085','\u2028','\u2029']

def splitlines (text : String) : List String := (Lines.splitlines isLineBreak text.toList).map String.ofList

def words (text : String) : List String := ((text.toList.splitOnP isSpace).filter (· ≠ [])).map String.ofList

def inside (part text : String) : Bool := text.toList.tails.any fun rest => part.toList.isPrefixOf rest

structure CommandResult where
  stdout : String := ""
  stderr : String := ""
  code : Int := 0
deriving DecidableEq

def CommandResult.ok (result : CommandResult) : Bool := result.code = 0

structure Entry where
  pid : String
  serial : String
  product : String
deriving DecidableEq

def DEFAULT_ANDROID_USBIP_VID_PID_ADB : String := "2207:0006"

def DEFAULT_ANDROID_USBIP_VID_PID_FASTBOOT : String := "18d1:4d00"

def DEFAULT_ANDROID_USBIP_VID_PIDS : List String :=
  [DEFAULT_ANDROID_USBIP_VID_PID_ADB,DEFAULT_ANDROID_USBIP_VID_PID_FASTBOOT,"2207:351a","2207:350e"]

def ROCKUSB_LOADER_PRODUCT_MARKERS : List String := ["usb download gadget","maskrom","rockusb device"]

def ROCKUSB_HEALTHY_FUNCTION_PIDS : List String := ["0006","0007"]

section readers
variable (lower : String → String)

def parseAdbDeviceStates (output : String) : Dict String String :=
  (splitlines output).foldl (fun states rawLine =>
    let line := strip rawLine
    if line = "" ∨ startsWith "list of devices" (lower line) then states
    else match words line with
      | serial::state::_ => states.put serial state
      | _ => states) Dict.empty

def rockusbLoaderVidPids (vidPids : List String) : List String :=
  vidPids.filterMap fun vidPid =>
    let candidate := lower (strip vidPid)
    if candidate = DEFAULT_ANDROID_USBIP_VID_PID_ADB ∨ candidate = DEFAULT_ANDROID_USBIP_VID_PID_FASTBOOT then none
    else if (partition candidate).1 = "2207" ∧ (partition candidate).2 ≠ "" then some (partition candidate).2 else none

def isRockusbLoaderProduct (product : String) : Bool :=
  ROCKUSB_LOADER_PRODUCT_MARKERS.any fun marker => inside marker (lower (strip product))

def parseEntry (line : String) : Option Entry :=
  match (split '\t' line).map strip with
  | [pid,serial,product] => if pid = "" ∨ serial = "" then none else some ⟨pid,serial,product⟩
  | _ => none

def parseRockusbProbeOutput (output : String) : List Entry := (splitlines output).filterMap parseEntry

def loaderPids (configured : Option (List String)) : List String :=
  match configured with
  | some vidPids => ((rockusbLoaderVidPids lower vidPids).filter fun pid => strip pid ≠ "").map fun pid => lower (strip pid)
  | none => rockusbLoaderVidPids lower DEFAULT_ANDROID_USBIP_VID_PIDS

def loaderEntry (pids : List String) (entry : Entry) : Bool :=
  lower entry.pid ∉ ROCKUSB_HEALTHY_FUNCTION_PIDS && (lower entry.pid ∈ pids || isRockusbLoaderProduct lower entry.product)

def rockusbLoaderSerials (output : String) (excluded pids : List String) : List String :=
  (parseRockusbProbeOutput output).foldl (fun serials entry =>
    if loaderEntry lower pids entry = false then serials
    else if entry.serial ∈ excluded ∨ entry.serial ∈ serials then serials
    else serials++[entry.serial]) []

end readers

structure Probe where
  sysfs : CommandResult
  adb : CommandResult
  vidPids : Option (List String) := none
deriving DecidableEq

namespace Probe
variable (lower : String → String) (probe : Probe)

def ok : Bool := probe.sysfs.ok && probe.adb.ok

def printed : String := orElse probe.sysfs.stdout probe.sysfs.stderr

def detail : String := strip probe.printed

def pids : List String := loaderPids lower probe.vidPids

def adbSerials : List String :=
  ((parseAdbDeviceStates lower probe.adb.stdout).entries.map Prod.fst).filter fun serial => strip serial ≠ ""

def loaders : List String := rockusbLoaderSerials lower probe.detail (probe.adbSerials lower) (probe.pids lower)

end Probe

def columns (line : String) : List String := (split '\t' line).map strip

def lineEntry (line : String) : Entry := ⟨(columns line).getD 0 "",(columns line).getD 1 "",(columns line).getD 2 ""⟩

def Probe.lines (probe : Probe) : List String := splitlines probe.printed

def Probe.loaderLine (lower : String → String) (probe : Probe) (line : String) : Bool :=
  loaderEntry lower (probe.pids lower) (lineEntry line) && (lineEntry line).serial ∉ probe.adbSerials lower

/-- The parser keeps the line: it has its three columns with a product id and a serial, and with a product name when
nothing but blanks follows. -/
structure Kept (line : String) (after : List String) : Prop where
  columns : (columns line).length = 3
  pid : (lineEntry line).pid ≠ ""
  serial : (lineEntry line).serial ≠ ""
  product : (lineEntry line).product ≠ "" ∨ ∃ later ∈ after, strip later ≠ ""

structure Probe.Readable (lower : String → String) (probe : Probe) : Prop where
  columns : ∀ line ∈ probe.lines, (columns line).length ≤ 3
  kept : ∀ before line after, probe.lines = before ++ line::after → probe.loaderLine lower line = true → Kept line after
  distinct : (probe.lines.filter (probe.loaderLine lower)).Pairwise fun first second =>
    (lineEntry first).serial ≠ (lineEntry second).serial

def Probe.Shows (lower : String → String) (device : String) (probe : Probe) : Prop :=
  ∀ before line after, probe.lines = before ++ line::after → probe.loaderLine lower line = true →
    (lineEntry line).serial = device → Kept line after

def Probe.OnlyLoader (lower : String → String) (device : String) (probe : Probe) : Prop :=
  ∃ line, probe.lines.filter (probe.loaderLine lower) = [line] ∧ (lineEntry line).serial = device

theorem mem_rockusbLoaderSerials {lower : String → String} {output serial : String} {excluded pids : List String} :
    serial ∈ rockusbLoaderSerials lower output excluded pids ↔
      ∃ entry ∈ parseRockusbProbeOutput output, loaderEntry lower pids entry = true ∧ entry.serial ∉ excluded ∧ entry.serial = serial := by
  have loop : ∀ (entries : List Entry) (serials : List String),
      serial ∈ entries.foldl (fun serials entry =>
        if loaderEntry lower pids entry = false then serials
        else if entry.serial ∈ excluded ∨ entry.serial ∈ serials then serials
        else serials++[entry.serial]) serials ↔
      serial ∈ serials ∨ ∃ entry ∈ entries, loaderEntry lower pids entry = true ∧ entry.serial ∉ excluded ∧ entry.serial = serial := by
    intro entries
    induction entries with
    | nil => simp
    | cons entry entries ih =>
      intro serials
      rw [List.foldl_cons,ih]
      simp only [List.mem_cons,or_and_right,exists_or,exists_eq_left]
      rw [← or_assoc]
      refine or_congr ?_ Iff.rfl
      split
      · rename_i other
        simp [other]
      · rename_i loader
        rw [Bool.not_eq_false] at loader
        split
        · rename_i known
          constructor
          · exact .inl
          · rintro (listed | ⟨-,kept,rfl⟩)
            · exact listed
            · exact known.resolve_left kept
        · rename_i new
          push Not at new
          simp only [List.mem_append,List.mem_singleton,loader,new.1,not_false_eq_true,true_and]
          exact or_congr Iff.rfl eq_comm
  rw [rockusbLoaderSerials,loop]
  simp

theorem lineEntry_eq {line pid serial product : String} (three : columns line = [pid,serial,product]) :
    lineEntry line = Entry.mk pid serial product := by
  simp [lineEntry,three]

theorem parseEntry_eq_some {line : String} {entry : Entry} :
    parseEntry line = some entry ↔ (columns line).length = 3 ∧ lineEntry line = entry ∧ entry.pid ≠ "" ∧ entry.serial ≠ "" := by
  unfold parseEntry
  change (match columns line with | [pid,serial,product] => if pid = "" ∨ serial = "" then none else some (Entry.mk pid serial product) | _ => none) =
    _ ↔ _
  constructor
  · intro parsed
    split at parsed
    · rename_i pid serial product three
      split at parsed
      · cases parsed
      · rename_i given
        cases parsed
        push Not at given
        exact ⟨by rw [three]; rfl,lineEntry_eq three,given⟩
    · cases parsed
  · rintro ⟨count,rfl,pid,serial⟩
    obtain ⟨first,second,third,three⟩ := List.length_eq_three.mp count
    rw [lineEntry_eq three] at pid serial ⊢
    rw [three]
    exact if_neg (not_or.mpr ⟨pid,serial⟩)

theorem columns_length (line : String) : (columns line).length = line.toList.count '\t' + 1 := by
  unfold columns
  rw [List.length_map,length_split]

theorem blank_column {text : String} {column : String} (blank : ∀ c ∈ text.toList, isSpace c = true)
    (listed : column ∈ (split '\t' text).map strip) : column = "" := by
  obtain ⟨piece,among,rfl⟩ := List.mem_map.mp listed
  by_contra solid
  obtain ⟨c,member,visible⟩ := strip_ne_empty.mp solid
  rw [blank c (mem_of_split among member)] at visible
  cases visible

theorem columns_append {line : String} {left right : List Char} (whole : line.toList = left++ '\t'::right) :
    columns line = columns (String.ofList left) ++ columns (String.ofList right) := by
  unfold columns
  rw [split_append_cons whole,List.map_append]

theorem columns_ne_nil (line : String) : columns line ≠ [] := by
  have count := columns_length line
  intro none
  rw [none] at count
  cases count

section
variable {line : String} {left right : List Char} (whole : line.toList = left++right)
include whole

theorem plain_front (blank : ∀ c ∈ left, isSpace c = true) (pid : (lineEntry line).pid ≠ "") : '\t' ∉ left := by
  intro tab
  obtain ⟨first,second,rfl⟩ := List.append_of_mem tab
  apply pid
  change (columns line).getD 0 "" = ""
  rw [columns_append (whole.trans (List.append_assoc ..))]
  cases pieces : columns (String.ofList first) with
  | nil => exact absurd pieces (columns_ne_nil _)
  | cons column rest =>
    refine @blank_column (String.ofList first) column (fun c member => blank c ?_) ?_
    · rw [String.toList_ofList] at member
      exact List.mem_append_left _ member
    · change column ∈ columns _
      rw [pieces]
      exact List.mem_cons_self ..

theorem plain_back (blank : ∀ c ∈ right, isSpace c = true) (three : (columns line).length = 3) (product : (lineEntry line).product ≠ "") :
    '\t' ∉ right := by
  intro tab
  obtain ⟨first,second,rfl⟩ := List.append_of_mem tab
  have cut : line.toList = (left++first)++ '\t'::second := by rw [whole,List.append_assoc]
  have last : (lineEntry line).product ∈ columns (String.ofList second) := by
    change (columns line).getD 2 "" ∈ _
    rw [columns_append cut,List.length_append] at three
    have some := List.length_pos_iff.mpr (columns_ne_nil (String.ofList second))
    have bound : 2-(columns (String.ofList (left++first))).length < (columns (String.ofList second)).length := by omega
    rw [columns_append cut,List.getD_append_right _ _ _ _ (by omega),List.getD_eq_getElem _ _ bound]
    exact List.getElem_mem _
  refine product (@blank_column (String.ofList second) _ (fun c member => blank c ?_) last)
  rw [String.toList_ofList] at member
  exact List.mem_append_right _ (List.mem_cons_of_mem _ member)

end

theorem line_of_parsed {probe : Probe} {inner : String} {entry : Entry} (narrow : ∀ line ∈ probe.lines, (columns line).length ≤ 3)
    (listed : inner ∈ splitlines probe.detail) (parsed : parseEntry inner = some entry) : ∃ line ∈ probe.lines, lineEntry line = entry := by
  obtain ⟨count,rfl,_,_⟩ := parseEntry_eq_some.mp parsed
  obtain ⟨chars,among,rfl⟩ := List.mem_map.mp listed
  obtain ⟨front,back,whole,frontBlank,backBlank⟩ := strip_between probe.printed
  obtain ⟨left,right,leftBlank,rightBlank,piece⟩ := Lines.piece_between frontBlank backBlank (Lines.mem_splitlines among)
  change probe.printed.toList = front++(probe.detail.toList++back) at whole
  rw [← whole] at piece
  have printed : String.ofList (left++chars++right) ∈ probe.lines := by
    obtain ⟨rest,pieces,empty⟩ := @Lines.pieces_splitlines _ isLineBreak probe.printed.toList
    rw [pieces] at piece
    refine List.mem_map_of_mem ((List.mem_append.mp piece).resolve_right fun none => ?_)
    have gone : chars = [] := by simpa using (List.append_eq_nil_iff.mp (List.append_eq_nil_iff.mp (empty _ none)).1).2
    rw [gone] at count
    cases count
  have tabs := narrow _ printed
  rw [columns_length,String.toList_ofList,List.count_append,List.count_append] at tabs
  rw [columns_length,String.toList_ofList] at count
  have same : columns (String.ofList (left++chars++right)) = columns (String.ofList chars) :=
    split_between (by simp) leftBlank rightBlank (List.count_eq_zero.mp (by omega)) (List.count_eq_zero.mp (by omega))
  exact ⟨_,printed,by unfold lineEntry; rw [same]⟩

theorem parsed_of_line {probe : Probe} {before after : List String} {line : String} (cut : probe.lines = before ++ line::after)
    (kept : Kept line after) : ∃ inner ∈ splitlines probe.detail, parseEntry inner = some (lineEntry line) := by
  obtain ⟨earlier,others,pieces,rfl,same⟩ := List.map_eq_append_iff.mp cut
  obtain ⟨chars,later,rfl,rfl,rfl⟩ := List.map_eq_cons_iff.mp same
  obtain ⟨front,back,whole,frontBlank,backBlank⟩ := strip_between probe.printed
  change probe.printed.toList = front++(probe.detail.toList++back) at whole
  have visible : ∃ c ∈ chars, isSpace c = false := by
    by_contra hidden
    push Not at hidden
    refine kept.pid (@blank_column (String.ofList chars) _ (fun c member => ?_) ?_)
    · rw [String.toList_ofList] at member
      simpa using hidden c member
    · change (columns (String.ofList chars)).getD 0 "" ∈ columns _
      rw [List.getD_eq_getElem _ _ (by rw [kept.columns]; decide)]
      exact List.getElem_mem _
  obtain ⟨rest,all,empty⟩ := @Lines.pieces_splitlines _ isLineBreak probe.printed.toList
  rw [pieces,List.append_assoc,List.cons_append,whole] at all
  obtain ⟨left,middle,right,rfl,leftBlank,rightBlank,piece,ending⟩ := Lines.between_piece frontBlank backBlank all visible
  have plainRight : '\t' ∉ right := by
    rcases ending with rfl | blanks
    · exact List.not_mem_nil
    · rcases kept.product with product | ⟨text,listed,solid⟩
      · exact plain_back (String.toList_ofList ..) rightBlank kept.columns product
      · obtain ⟨follower,among,rfl⟩ := List.mem_map.mp listed
        obtain ⟨c,member,visible⟩ := strip_ne_empty.mp solid
        rw [String.toList_ofList] at member
        rw [blanks follower (List.mem_append_left _ among) c member] at visible
        cases visible
  have plainLeft : '\t' ∉ left := plain_front (by rw [String.toList_ofList,List.append_assoc]) leftBlank kept.pid
  have same : columns (String.ofList (left++middle++right)) = columns (String.ofList middle) :=
    split_between (by simp) leftBlank rightBlank plainLeft plainRight
  have entry : lineEntry (String.ofList (left++middle++right)) = lineEntry (String.ofList middle) := by
    unfold lineEntry
    rw [same]
  refine ⟨String.ofList middle,?_,parseEntry_eq_some.mpr ⟨same ▸ kept.columns,entry.symm,kept.pid,kept.serial⟩⟩
  obtain ⟨rest,pieces,empty⟩ := @Lines.pieces_splitlines _ isLineBreak probe.detail.toList
  rw [pieces] at piece
  refine List.mem_map_of_mem ((List.mem_append.mp piece).resolve_right fun none => ?_)
  have count := kept.columns
  rw [same,empty _ none] at count
  cases count

namespace Probe
variable {lower : String → String} {device : String} {probe : Probe}

theorem Readable.shows (readable : probe.Readable lower) : probe.Shows lower device :=
  fun before line after cut loader _ => readable.kept before line after cut loader

theorem Shows.mem_loaders (shows_ : probe.Shows lower device) {line : String} (printed : line ∈ probe.lines)
    (loader : probe.loaderLine lower line = true) (own : (lineEntry line).serial = device) : device ∈ probe.loaders lower := by
  obtain ⟨before,after,cut⟩ := List.append_of_mem printed
  obtain ⟨inner,listed,parsed⟩ := parsed_of_line cut (shows_ before line after cut loader own)
  rw [loaderLine,Bool.and_eq_true,decide_eq_true_iff] at loader
  exact mem_rockusbLoaderSerials.mpr ⟨_,List.mem_filterMap.mpr ⟨inner,listed,parsed⟩,loader.1,loader.2,own⟩

theorem Readable.line_of_loader (readable : probe.Readable lower) (loader : device ∈ probe.loaders lower) :
    ∃ line ∈ probe.lines, probe.loaderLine lower line = true ∧ (lineEntry line).serial = device := by
  obtain ⟨entry,listed,described,outside,own⟩ := mem_rockusbLoaderSerials.mp loader
  obtain ⟨inner,among,parsed⟩ := List.mem_filterMap.mp listed
  obtain ⟨line,printed,rfl⟩ := line_of_parsed readable.columns among parsed
  exact ⟨line,printed,by rw [loaderLine,described,Bool.true_and,decide_eq_true_iff]; exact outside,own⟩

theorem Readable.onlyLoader (readable : probe.Readable lower) (single : probe.loaders lower = [device]) :
    probe.OnlyLoader lower device := by
  have own : ∀ line ∈ probe.lines.filter (probe.loaderLine lower), (lineEntry line).serial = device := by
    intro line listed
    obtain ⟨printed,loader⟩ := List.mem_filter.mp listed
    exact List.mem_singleton.mp (single ▸ readable.shows.mem_loaders printed loader rfl)
  have distinct := readable.distinct
  obtain ⟨line,printed,loader,_⟩ := readable.line_of_loader (single ▸ List.mem_singleton_self device)
  have listed := List.mem_filter.mpr ⟨printed,loader⟩
  unfold OnlyLoader
  cases lines : probe.lines.filter (probe.loaderLine lower) with
  | nil =>
    rw [lines] at listed
    cases listed
  | cons first others =>
    rw [lines] at own distinct
    cases others with
    | nil => exact ⟨first,rfl,own first (List.mem_cons_self ..)⟩
    | cons second others =>
      refine absurd ?_ ((List.pairwise_cons.mp distinct).1 second (List.mem_cons_self ..))
      rw [own first (by simp),own second (by simp)]

end Probe

end GmsRemoteTest.Firmware
