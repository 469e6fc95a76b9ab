import Mathlib.Data.Multiset.Basic
import GmsRemoteTest.Devices.UsbipPortEntries
import GmsRemoteTest.Lib.Buckets
import GmsRemoteTest.Lib.Substitution

/-! The identity of a failure, as `failure_identity` reads it off the rows of a report, and the clusters of failures with one fingerprint. -/
namespace GmsRemoteTest.Redmine.FailureIdentity
open Text Regex Regex.Pattern
open UsbipTransaction (isDecimal wordBoundary sameLetter)

section
variable (isalnum : Char → Bool)

def ignoringCase (word : String) : Pattern :=
  seqs (word.toList.map fun letter => .char fun c => sameLetter letter c || (letter = 'k' && c = '\u212A'))

def isHex (c : Char) : Bool := c.isDigit || ('a' ≤ c && c ≤ 'f') || ('A' ≤ c && c ≤ 'F')

def digit : Pattern := .char isDecimal

def numberAfter : Pattern := seqs [optional (.char fun c => c = '=' || c = ':' || c = '：'),.star (.char isSpace),plus digit]

def UUID : Pattern :=
  let hex := fun count => times count (.char isHex)
  seqs [wordBoundary isalnum,hex 8,only '-',hex 4,only '-',hex 4,only '-',hex 4,only '-',hex 12,wordBoundary isalnum]

def HEX : Pattern := seqs [wordBoundary isalnum,literal "0x",plus (.char isHex),wordBoundary isalnum]

def HEX_BLOB : Pattern := seqs [wordBoundary isalnum,atLeast 16 (.char isHex),wordBoundary isalnum]

def IPV4 : Pattern :=
  seqs [wordBoundary isalnum,between 1 3 digit,times 3 (.seq (only '.') (between 1 3 digit)),optional (.seq (only ':') (plus digit)),
    wordBoundary isalnum]

/-- `(?::\d{2})?(?:\.\d+)?`. -/
def seconds : Pattern := .seq (optional (.seq (only ':') (times 2 digit))) (optional (.seq (only '.') (plus digit)))

def DATE_TIME : Pattern :=
  seqs [wordBoundary isalnum,times 4 digit,only '-',times 2 digit,only '-',times 2 digit,
    optional (seqs [.char fun c => c = 'T' || c = ' ',times 2 digit,only ':',times 2 digit,seconds]),
    optional (.alt (only 'Z') (seqs [.char fun c => c = '+' || c = '-',times 2 digit,optional (only ':'),times 2 digit])),wordBoundary isalnum]

def TIME_OF_DAY : Pattern := seqs [wordBoundary isalnum,between 1 2 digit,only ':',times 2 digit,seconds,wordBoundary isalnum]

def REF_ID : Pattern := seqs [only '#',atLeast 3 digit,wordBoundary isalnum]

def PID_TID : Pattern :=
  seqs [wordBoundary isalnum,alts (["pid","tid","uid"].map ignoringCase),wordBoundary isalnum,numberAfter]

def DURATION : Pattern :=
  seqs [wordBoundary isalnum,plus digit,optional (.seq (only '.') (plus digit)),optional (.char isSpace),
    alts (["ms","us","μs","ns"].map literal),wordBoundary isalnum]

def COUNTER : Pattern :=
  seqs [wordBoundary isalnum,
    alts (["count","attempt","attempts","retry","retries","elapsed","took","iteration","seq"].map ignoringCase ++
      [.seq (ignoringCase "line") (optional (ignoringCase "no"))]),
    wordBoundary isalnum,numberAfter]

def EPOCH : Pattern :=
  .alt (seqs [wordBoundary isalnum,only '1',times 9 digit,wordBoundary isalnum])
    (seqs [wordBoundary isalnum,only '1',times 12 digit,wordBoundary isalnum])

def SEP : Pattern := plus (.char fun c => !(c.isAlphanum || c = '_' || c = '.'))

def COLLAPSE_DOT : Pattern := atLeast 2 (only '.')

def noise : List Pattern :=
  [UUID isalnum,HEX isalnum,HEX_BLOB isalnum,IPV4 isalnum,DATE_TIME isalnum,TIME_OF_DAY isalnum,REF_ID isalnum,PID_TID isalnum,
    DURATION isalnum,COUNTER isalnum,EPOCH isalnum,SEP,COLLAPSE_DOT]

def normalizeErrorSignature (reason : String) : String :=
  let text := (noise isalnum).foldl (fun text pattern => pattern.sub [' '] text) reason.toList
  String.ofList (([' '].intercalate (AoaProfile.words (text.map Char.toLower))).take 400)

def ASSERTION_LINE : Pattern :=
  let java := .seq (literal "java.lang.") (alts (["Runtime","IllegalArgument","IllegalState","NullPointer","AssertionError"].map literal))
  let androidTest := seqs [literal "android",optional (only 'x'),literal ".test"]
  let tail := .star (.char fun c => c.isAlphanum || c = '_' || c = '.')
  let qualified := seqs [alts [literal "junit.framework",literal "org.junit",java,androidTest],only '.',tail,
    alts [literal "Exception",literal "Error"]]
  seqs [wordBoundary isalnum,.group "1" (.alt qualified (literal "AssertionError")),wordBoundary isalnum]

def assertionClass (reason : String) : String := match (ASSERTION_LINE isalnum).search [] reason.toList with
  | some found => String.ofList ((found.groups.lookup "1").getD [])
  | none => ""

end

/-- A value of a row or an argument: only `bool(value)` and `str(value)` are looked at. -/
structure Scalar where
  truthy : Bool
  str : String

/-- `str(value or "")`. -/
def Scalar.text (value : Scalar) : String := if value.truthy then value.str else ""

def Scalar.or (first second : Scalar) : Scalar := if first.truthy then first else second

/-- What a row holds under the names that are asked for; `None` where it holds nothing. -/
structure Row where
  module_ : Scalar
  name : Scalar
  testcase : Scalar
  reason : Scalar
  message : Scalar

def Row.empty : Row :=
  let none_ : Scalar := ⟨false,"None"⟩
  ⟨none_,none_,none_,none_,none_⟩

/-- The arguments of `failure_identity`; an entry of the list that is no dictionary is none. -/
structure Arguments where
  failures : List (Option Row)
  suite : Scalar
  androidVersion : Scalar
  deviceClass : Scalar
  deviceSerial : Scalar

structure Fields where
  suite : String
  module_ : String
  testcase : String
  assertionClass : String
  errorSignature : String
  androidVersion : String
  deviceClass : String
deriving DecidableEq

def Fields.texts (fields : Fields) : List String :=
  [fields.suite,fields.module_,fields.testcase,fields.assertionClass,fields.errorSignature,fields.androidVersion,fields.deviceClass]

structure Identity where
  fields : Fields
  deviceSerial : String
  fingerprint : String
  clusterable : Bool

/-- SHA-256 of a text, in hexadecimal digits. -/
structure Sha256 where
  hexdigest : String → String
  injective : Function.Injective hexdigest
  some_ : ∀ text, hexdigest text ≠ ""

def fingerprint (sha256 : Sha256) (fields : Fields) : String := sha256.hexdigest (join '\x00' fields.texts)

def clusterable (fields : Fields) : Bool :=
  let signature := strip fields.errorSignature
  let informative := !(["","fail","failed","failure","error","unknown"] : List String).contains signature.toLower
  let strong := fields.assertionClass ≠ "" || (12 ≤ signature.length && 2 ≤ (AoaProfile.words signature.toList).length)
  informative && (fields.testcase ≠ "" || (fields.module_ ≠ "" && strong))

/-- The first row with a test and a reason, or the first row, or none. -/
def Arguments.row (arguments : Arguments) : Row :=
  let rows := arguments.failures.filterMap id
  ((rows.find? fun row => (row.name.truthy || row.testcase.truthy) && (row.reason.truthy || row.message.truthy)).or rows.head?).getD .empty

def Arguments.fields (isalnum : Char → Bool) (arguments : Arguments) : Fields :=
  let row := arguments.row
  let reason := strip (row.reason.or row.message).text
  { suite := strip arguments.suite.text
    module_ := strip row.module_.text
    testcase := strip (row.name.or row.testcase).text
    assertionClass := assertionClass isalnum reason
    errorSignature := normalizeErrorSignature isalnum reason
    androidVersion := strip arguments.androidVersion.text
    deviceClass := strip arguments.deviceClass.text }

def failureIdentity (sha256 : Sha256) (isalnum : Char → Bool) (arguments : Arguments) : Identity :=
  let fields := arguments.fields isalnum
  ⟨fields,strip arguments.deviceSerial.text,fingerprint sha256 fields,clusterable fields⟩

inductive Relation
  | sameFailure
  | sameTestDifferentCause
  | similarSymptom
  | unrelated
deriving DecidableEq

def relationClass (first second : Identity) : Relation :=
  if !clusterable first.fields || !clusterable second.fields || !first.clusterable || !second.clusterable then .unrelated
  else if first.fingerprint ≠ "" ∧ first.fingerprint = second.fingerprint then .sameFailure
  else if first.fields.module_ = second.fields.module_ ∧ first.fields.testcase = second.fields.testcase ∧ first.fields.testcase ≠ "" then
    .sameTestDifferentCause
  else if first.fields.errorSignature ≠ "" ∧ first.fields.errorSignature = second.fields.errorSignature then .similarSymptom
  else .unrelated

structure Cluster where
  fingerprint : String
  members : List ℤ
  fields : Fields
  deviceSerial : String
  size : ℕ
deriving DecidableEq

def subject (subjectIds : Option (List ℤ)) (index : ℕ) : ℤ := ((subjectIds.getD [])[index]?).getD index

def item (subjectIds : Option (List ℤ)) (indexed : Identity × ℕ) : Option (Buckets.Item String (Fields × String) ℤ) :=
  if indexed.1.fingerprint = "" ∨ !clusterable indexed.1.fields ∨ !indexed.1.clusterable then none
  else some ⟨indexed.1.fingerprint,(indexed.1.fields,indexed.1.deviceSerial),subject subjectIds indexed.2⟩

def items (identities : List Identity) (subjectIds : Option (List ℤ)) : List (Buckets.Item String (Fields × String) ℤ) :=
  identities.zipIdx.filterMap (item subjectIds)

def Cluster.of (bucket : Buckets.Bucket String (Fields × String) ℤ) : Cluster :=
  ⟨bucket.key,bucket.members,bucket.record.1,bucket.record.2,bucket.members.length⟩

def buildFailureClusters (identities : List Identity) (subjectIds : Option (List ℤ)) : List Cluster :=
  ((Buckets.gather (items identities subjectIds)).insertionSort fun first second => second.members.length ≤ first.members.length).map Cluster.of

def Plain (text : String) : Prop := '\x00' ∉ text.toList

/-- An identity as `failure_identity` builds it from texts without a NUL. -/
structure Genuine (sha256 : Sha256) (identity : Identity) : Prop where
  fingerprint : identity.fingerprint = FailureIdentity.fingerprint sha256 identity.fields
  clusterable : identity.clusterable = FailureIdentity.clusterable identity.fields
  plain : ∀ text ∈ identity.fields.texts, Plain text

variable {sha256 : Sha256} {isalnum : Char → Bool} {first second identity : Identity}

theorem Fields.texts_injective : Function.Injective Fields.texts := by
  rintro ⟨⟩ ⟨⟩ same
  simpa [Fields.texts] using same

theorem Genuine.some_ (genuine : Genuine sha256 identity) : identity.fingerprint ≠ "" := by
  rw [genuine.fingerprint]
  exact sha256.some_ _

theorem Genuine.same_iff (genuine : Genuine sha256 first) (genuine' : Genuine sha256 second) :
    first.fingerprint = second.fingerprint ↔ first.fields = second.fields := by
  rw [genuine.fingerprint,genuine'.fingerprint]
  refine ⟨fun same => Fields.texts_injective ?_,congrArg _⟩
  have joined : join '\x00' first.fields.texts = join '\x00' second.fields.texts := sha256.injective same
  rw [← split_join genuine.plain (List.cons_ne_nil _ _),joined,split_join genuine'.plain (List.cons_ne_nil _ _)]

def Row.Plain (row : Row) : Prop :=
  FailureIdentity.Plain row.module_.str ∧ FailureIdentity.Plain row.name.str ∧ FailureIdentity.Plain row.testcase.str ∧
    FailureIdentity.Plain row.reason.str ∧ FailureIdentity.Plain row.message.str

/-- The arguments of a call whose texts hold no NUL. -/
structure Observed where
  arguments : Arguments
  rows : ∀ row, some row ∈ arguments.failures → row.Plain
  suite : Plain arguments.suite.str
  androidVersion : Plain arguments.androidVersion.str
  deviceClass : Plain arguments.deviceClass.str

theorem plain_strip {text : String} (plain : Plain text) : Plain (strip text) := fun member => plain (mem_strip member)

theorem plain_text {value : Scalar} (plain : Plain value.str) : Plain value.text := by
  unfold Scalar.text
  split
  · exact plain
  · intro member
    cases member

theorem plain_or {first second : Scalar} (plain : Plain first.str) (plain' : Plain second.str) : Plain (first.or second).str := by
  unfold Scalar.or
  split
  · exact plain
  · exact plain'

theorem Row.empty_plain : Row.empty.Plain := by
  have none_ : FailureIdentity.Plain "None" := by
    unfold FailureIdentity.Plain
    decide
  exact ⟨none_,none_,none_,none_,none_⟩

theorem Observed.row_plain (observed : Observed) : observed.arguments.row.Plain := by
  have chosen : ∀ row, row ∈ observed.arguments.failures.filterMap id → row.Plain := by
    intro row member
    obtain ⟨_,held,rfl⟩ := List.mem_filterMap.mp member
    exact observed.rows row held
  unfold Arguments.row
  dsimp only
  cases found : List.find? _ (observed.arguments.failures.filterMap id) with
  | some row => exact chosen row (List.mem_of_find?_eq_some found)
  | none =>
    cases start : (observed.arguments.failures.filterMap id).head? with
    | some row => exact chosen row (List.mem_of_head? start)
    | none => exact Row.empty_plain

theorem toLower_nul {c : Char} (lowered : c.toLower = '\x00') : c = '\x00' := by
  unfold Char.toLower at lowered
  split at lowered
  · rename_i upper
    have value : c.val + ('a'.val - 'A'.val) = 0 := congrArg Char.val lowered
    have range : 65 ≤ c.val.toNat ∧ c.val.toNat ≤ 90 := ⟨upper.1,upper.2⟩
    have sum := congrArg UInt32.toNat value
    rw [UInt32.toNat_add] at sum
    have gap : ('a'.val - 'A'.val).toNat = 32 := rfl
    rw [gap] at sum
    have zero : (0 : UInt32).toNat = 0 := rfl
    omega
  · exact lowered

theorem mem_splitOnP {p : Char → Bool} {text word : List Char} (held : word ∈ text.splitOnP p) {c : Char} (inside : c ∈ word) : c ∈ text := by
  induction text generalizing word with
  | nil =>
    rw [List.splitOnP_nil,List.mem_singleton] at held
    exact held ▸ inside
  | cons first text ih =>
    rw [List.splitOnP_cons_eq_if_modifyHead] at held
    split at held
    · obtain rfl | later := List.mem_cons.mp held
      · cases inside
      · exact List.mem_cons_of_mem _ (ih later inside)
    · obtain ⟨head,tail,split_⟩ := List.exists_cons_of_ne_nil (List.splitOnP_ne_nil p text)
      rw [split_,List.modifyHead_cons] at held
      obtain rfl | later := List.mem_cons.mp held
      · obtain rfl | own := List.mem_cons.mp inside
        · exact List.mem_cons_self
        · exact List.mem_cons_of_mem _ (ih (split_ ▸ List.mem_cons_self) own)
      · exact List.mem_cons_of_mem _ (ih (split_ ▸ List.mem_cons_of_mem _ later) inside)

theorem normalize_plain {reason : String} (plain : Plain reason) : Plain (normalizeErrorSignature isalnum reason) := by
  have substituted : ∀ (patterns : List Pattern) (text : List Char), '\x00' ∉ text →
      '\x00' ∉ patterns.foldl (fun text pattern => pattern.sub [' '] text) text := by
    intro patterns
    induction patterns with
    | nil => exact fun _ plain => plain
    | cons pattern patterns ih =>
      refine fun text plain => ih _ fun member => ?_
      obtain blank | before := mem_sub member
      · cases List.mem_singleton.mp blank
      · exact plain before
  have lower : ∀ text : List Char, '\x00' ∉ text → '\x00' ∉ text.map Char.toLower := by
    intro text plain member
    obtain ⟨c,held,lowered⟩ := List.mem_map.mp member
    obtain rfl : c = '\x00' := toLower_nul lowered
    exact plain held
  have joined : ∀ text : List Char, '\x00' ∉ text → '\x00' ∉ [' '].intercalate (AoaProfile.words text) := by
    intro text plain member
    obtain blank | ⟨word,held,inside⟩ := AoaProfile.mem_intercalate member
    · cases blank
    · exact plain (mem_splitOnP (List.mem_of_mem_filter held) inside)
  unfold Plain normalizeErrorSignature
  rw [String.toList_ofList]
  exact fun member => joined _ (lower _ (substituted _ _ plain)) (List.mem_of_mem_take member)

theorem assertionClass_plain {reason : String} (plain : Plain reason) : Plain (assertionClass isalnum reason) := by
  unfold Plain assertionClass
  split
  · rename_i found search
    rw [String.toList_ofList]
    cases captured : found.groups.lookup "1" with
    | none => exact List.not_mem_nil
    | some text =>
      obtain ⟨_,_,groups,-⟩ := List.lookup_eq_some_iff.mp captured
      have held : ("1",text) ∈ found.groups := groups ▸ List.mem_append_right _ List.mem_cons_self
      exact fun member => plain (search_captured search _ held _ member)
  · intro member
    cases member

theorem Observed.genuine (observed : Observed) : Genuine sha256 (failureIdentity sha256 isalnum observed.arguments) := by
  refine ⟨rfl,rfl,?_⟩
  obtain ⟨module_,name,testcase,reason,message⟩ := observed.row_plain
  have told := plain_strip (plain_text (plain_or reason message))
  have texts : ∀ text ∈ (observed.arguments.fields isalnum).texts, Plain text := by
    simp only [Fields.texts,Arguments.fields,List.forall_mem_cons]
    exact ⟨plain_strip (plain_text observed.suite),plain_strip (plain_text module_),plain_strip (plain_text (plain_or name testcase)),
      assertionClass_plain told,normalize_plain told,plain_strip (plain_text observed.androidVersion),
      plain_strip (plain_text observed.deviceClass),fun _ member => (List.not_mem_nil member).elim⟩
  exact texts

theorem relationClass_comm (first second : Identity) : relationClass first second = relationClass second first := by
  have ineligible : (!clusterable first.fields || !clusterable second.fields || !first.clusterable || !second.clusterable) =
      (!clusterable second.fields || !clusterable first.fields || !second.clusterable || !first.clusterable) := by
    grind
  have prints : (first.fingerprint ≠ "" ∧ first.fingerprint = second.fingerprint) ↔
      (second.fingerprint ≠ "" ∧ second.fingerprint = first.fingerprint) := by
    grind
  have tests : (first.fields.module_ = second.fields.module_ ∧ first.fields.testcase = second.fields.testcase ∧ first.fields.testcase ≠ "") ↔
      (second.fields.module_ = first.fields.module_ ∧ second.fields.testcase = first.fields.testcase ∧ second.fields.testcase ≠ "") := by
    grind
  have signatures : (first.fields.errorSignature ≠ "" ∧ first.fields.errorSignature = second.fields.errorSignature) ↔
      (second.fields.errorSignature ≠ "" ∧ second.fields.errorSignature = first.fields.errorSignature) := by
    grind
  unfold relationClass
  rw [ineligible]
  simp only [prints,tests,signatures]

theorem sameFailure_iff (genuine : Genuine sha256 first) (genuine' : Genuine sha256 second) :
    relationClass first second = .sameFailure ↔ first.clusterable = true ∧ second.clusterable = true ∧ first.fingerprint = second.fingerprint := by
  have named := genuine.some_
  unfold relationClass
  rw [← genuine.clusterable,← genuine'.clusterable]
  cases first.clusterable <;> cases second.clusterable <;> by_cases same : first.fingerprint = second.fingerprint <;> grind

variable {identities : List Identity}

def AllGenuine (sha256 : Sha256) (identities : List Identity) : Prop := ∀ identity ∈ identities, Genuine sha256 identity

theorem item_eq (genuine : Genuine sha256 identity) (index : ℕ) : item none (identity,index) =
    if identity.clusterable = true then some ⟨identity.fingerprint,(identity.fields,identity.deviceSerial),(index : ℤ)⟩ else none := by
  have named := genuine.some_
  unfold item
  dsimp only
  rw [← genuine.clusterable]
  cases identity.clusterable
  · simp
  · simp [named,subject]

theorem mem_items (all : AllGenuine sha256 identities) {found : Buckets.Item String (Fields × String) ℤ} : found ∈ items identities none ↔
    ∃ (index : ℕ) (identity : Identity), identities[index]? = some identity ∧ identity.clusterable = true ∧
      found = ⟨identity.fingerprint,(identity.fields,identity.deviceSerial),(index : ℤ)⟩ := by
  unfold items
  rw [List.mem_filterMap]
  constructor
  · rintro ⟨⟨identity,index⟩,member,read⟩
    have held := List.mem_zipIdx_iff_getElem?.mp member
    rw [item_eq (all identity (List.mem_of_getElem? held))] at read
    split at read
    · rename_i eligible
      exact ⟨index,identity,held,eligible,(Option.some.inj read).symm⟩
    · cases read
  · rintro ⟨index,identity,held,eligible,rfl⟩
    refine ⟨(identity,index),List.mem_zipIdx_iff_getElem?.mpr held,?_⟩
    rw [item_eq (all identity (List.mem_of_getElem? held)),if_pos eligible]

def clusterableIndices (identities : List Identity) : List ℤ :=
  (identities.zipIdx.filter fun indexed => indexed.1.clusterable).map fun indexed => (indexed.2 : ℤ)

theorem items_members (all : AllGenuine sha256 identities) : (items identities none).map Buckets.Item.member = clusterableIndices identities := by
  unfold items clusterableIndices
  rw [List.map_filterMap,← List.filterMap_eq_map,List.filterMap_filter]
  refine List.filterMap_congr fun indexed member => ?_
  rw [item_eq (all indexed.1 (List.mem_of_getElem? (List.mem_zipIdx_iff_getElem?.mp member)))]
  split <;> simp_all

theorem clusterableIndices_nodup (identities : List Identity) : (clusterableIndices identities).Nodup := by
  have indices : ((identities.zipIdx.filter fun indexed => indexed.1.clusterable).map Prod.snd).Nodup := by
    refine List.Nodup.sublist (List.filter_sublist.map _) ?_
    rw [List.zipIdx_map_snd]
    exact List.nodup_range'
  have cast := indices.map (f := fun index : ℕ => (index : ℤ)) fun _ _ same => Int.ofNat_inj.mp same
  rwa [List.map_map] at cast

theorem mem_clusters {subjectIds : Option (List ℤ)} {cluster : Cluster} : cluster ∈ buildFailureClusters identities subjectIds ↔
    ∃ bucket ∈ Buckets.gather (items identities subjectIds), Cluster.of bucket = cluster := by
  unfold buildFailureClusters
  rw [List.mem_map]
  exact exists_congr fun bucket => and_congr_left fun _ => (List.perm_insertionSort _ _).mem_iff

theorem clusters_partition (all : AllGenuine sha256 identities) :
    ((buildFailureClusters identities none).flatMap (·.members)).Perm (clusterableIndices identities) := by
  unfold buildFailureClusters
  rw [List.flatMap_map,← items_members all]
  exact ((List.perm_insertionSort _ _).flatMap_right _).trans (Buckets.gather_gathered (items identities none)).all

theorem clusters_keys (identities : List Identity) : ((buildFailureClusters identities none).map (·.fingerprint)).Nodup := by
  unfold buildFailureClusters
  rw [List.map_map]
  exact ((List.perm_insertionSort _ _).map _).nodup_iff.mpr (Buckets.gather_gathered (items identities none)).keys

theorem mem_cluster (all : AllGenuine sha256 identities) {cluster : Cluster} (held : cluster ∈ buildFailureClusters identities none) {member : ℤ} :
    member ∈ cluster.members ↔ ∃ (index : ℕ) (identity : Identity), identities[index]? = some identity ∧ identity.clusterable = true ∧
      identity.fingerprint = cluster.fingerprint ∧ (index : ℤ) = member := by
  obtain ⟨bucket,gathered,rfl⟩ := mem_clusters.mp held
  refine ((Buckets.gather_gathered _).mem_members gathered).trans ⟨?_,?_⟩
  · rintro ⟨_,listed,same,rfl⟩
    obtain ⟨index,identity,there,eligible,rfl⟩ := (mem_items all).mp listed
    exact ⟨index,identity,there,eligible,same,rfl⟩
  · rintro ⟨index,identity,there,eligible,same,rfl⟩
    exact ⟨_,(mem_items all).mpr ⟨index,identity,there,eligible,rfl⟩,same,rfl⟩

theorem mem_fingerprints (all : AllGenuine sha256 identities) {print : String} :
    print ∈ (buildFailureClusters identities none).map (·.fingerprint) ↔
      ∃ (index : ℕ) (identity : Identity), identities[index]? = some identity ∧ identity.clusterable = true ∧ identity.fingerprint = print := by
  constructor
  · intro listed
    obtain ⟨cluster,held,rfl⟩ := List.mem_map.mp listed
    obtain ⟨bucket,gathered,rfl⟩ := mem_clusters.mp held
    obtain ⟨_,listed,same,-⟩ := (Buckets.gather_gathered _).first gathered
    obtain ⟨index,identity,there,eligible,rfl⟩ := (mem_items all).mp listed
    exact ⟨index,identity,there,eligible,same⟩
  · rintro ⟨index,identity,there,eligible,rfl⟩
    obtain ⟨bucket,gathered,same⟩ := (Buckets.gather_gathered _).bucket ((mem_items all).mpr ⟨index,identity,there,eligible,rfl⟩)
    exact List.mem_map.mpr ⟨_,mem_clusters.mpr ⟨bucket,gathered,rfl⟩,same⟩

section
variable (all : AllGenuine sha256 identities) {cluster : Cluster} (held : cluster ∈ buildFailureClusters identities none)
include all held

theorem cluster_nodup :
    cluster.members.Nodup := by
  have distinct := (clusters_partition all).nodup_iff.mpr (clusterableIndices_nodup identities)
  exact (List.nodup_flatMap.mp distinct).1 cluster held

theorem cluster_first :
    ∃ (index : ℕ) (identity : Identity), cluster.members.head? = some (index : ℤ) ∧ identities[index]? = some identity ∧
      cluster.fingerprint = identity.fingerprint ∧ cluster.fields = identity.fields ∧ cluster.deviceSerial = identity.deviceSerial ∧
      cluster.size = cluster.members.length := by
  obtain ⟨bucket,gathered,rfl⟩ := mem_clusters.mp held
  have members := (Buckets.gather_gathered _).members bucket gathered
  have record := (Buckets.gather_gathered _).record bucket gathered
  rw [← List.head?_filter] at record
  cases start : ((items identities none).filter (·.key = bucket.key)).head? with
  | none => simp [start] at record
  | some first =>
    rw [start] at record
    have own := List.mem_filter.mp (List.mem_of_head? start)
    obtain ⟨index,identity,there,-,rfl⟩ := (mem_items all).mp own.1
    have record : bucket.record = (identity.fields,identity.deviceSerial) := (Option.some.inj record).symm
    refine ⟨index,identity,?_,there,(of_decide_eq_true own.2).symm,congrArg Prod.fst record,congrArg Prod.snd record,rfl⟩
    show bucket.members.head? = _
    rw [members,List.head?_map,start]
    rfl

end

def Together (clusters : List Cluster) (first second : ℕ) : Prop :=
  ∃ cluster ∈ clusters, (first : ℤ) ∈ cluster.members ∧ (second : ℤ) ∈ cluster.members

theorem together_iff (all : AllGenuine sha256 identities) {i j : ℕ} (here : identities[i]? = some first) (there : identities[j]? = some second) :
    Together (buildFailureClusters identities none) i j ↔
      first.clusterable = true ∧ second.clusterable = true ∧ first.fingerprint = second.fingerprint := by
  constructor
  · rintro ⟨cluster,held,left,right⟩
    obtain ⟨index,identity,found,eligible,same,cast⟩ := (mem_cluster all held).mp left
    obtain ⟨index',identity',found',eligible',same',cast'⟩ := (mem_cluster all held).mp right
    obtain rfl : index = i := Int.ofNat_inj.mp cast
    obtain rfl : index' = j := Int.ofNat_inj.mp cast'
    obtain rfl := Option.some.inj (here.symm.trans found)
    obtain rfl := Option.some.inj (there.symm.trans found')
    exact ⟨eligible,eligible',same.trans same'.symm⟩
  · rintro ⟨eligible,eligible',same⟩
    obtain ⟨cluster,held,named⟩ := List.mem_map.mp ((mem_fingerprints all).mpr ⟨i,first,here,eligible,rfl⟩)
    exact ⟨cluster,held,(mem_cluster all held).mpr ⟨i,first,here,eligible,named.symm,rfl⟩,
      (mem_cluster all held).mpr ⟨j,second,there,eligible',same.symm.trans named.symm,rfl⟩⟩

def Cluster.unobserved (cluster : Cluster) : Cluster := {cluster with deviceSerial := ""}

def Bucket.cluster (bucket : Buckets.Bucket String Fields ℤ) : Cluster := ⟨bucket.key,bucket.members,bucket.record,"",bucket.members.length⟩

theorem clusters_unobserved (identities : List Identity) (subjectIds : Option (List ℤ)) :
    (buildFailureClusters identities subjectIds).map Cluster.unobserved =
      ((Buckets.gather ((items identities subjectIds).map (Buckets.Item.map Prod.fst))).insertionSort
        fun first second => second.members.length ≤ first.members.length).map Bucket.cluster := by
  unfold buildFailureClusters
  have sorted := List.map_insertionSort (r := fun first second : Buckets.Bucket String (Fields × String) ℤ => second.members.length ≤ first.members.length)
    (s := fun first second => second.members.length ≤ first.members.length) (Buckets.Bucket.map Prod.fst)
    (Buckets.gather (items identities subjectIds)) fun _ _ _ _ => Iff.rfl
  rw [Buckets.gather_map,← sorted,List.map_map,List.map_map]
  rfl

def Identity.unobserved (identity : Identity) : Identity := {identity with deviceSerial := ""}

theorem item_unobserved (subjectIds : Option (List ℤ)) (identity : Identity) (index : ℕ) :
    (item subjectIds (identity.unobserved,index)).map (Buckets.Item.map Prod.fst) = (item subjectIds (identity,index)).map (Buckets.Item.map Prod.fst) := by
  unfold item Identity.unobserved
  dsimp only
  split
  · rfl
  · rfl

theorem items_unobserved (identities : List Identity) (subjectIds : Option (List ℤ)) :
    (items (identities.map Identity.unobserved) subjectIds).map (Buckets.Item.map Prod.fst) =
      (items identities subjectIds).map (Buckets.Item.map Prod.fst) := by
  unfold items
  rw [List.map_filterMap,List.map_filterMap,List.zipIdx_map,List.filterMap_map]
  exact List.filterMap_congr fun indexed _ => item_unobserved subjectIds indexed.1 indexed.2

theorem clusters_serials {others : List Identity} (same : others.map Identity.unobserved = identities.map Identity.unobserved)
    (subjectIds : Option (List ℤ)) : (buildFailureClusters others subjectIds).map Cluster.unobserved =
      (buildFailureClusters identities subjectIds).map Cluster.unobserved := by
  rw [clusters_unobserved,clusters_unobserved,← items_unobserved others,← items_unobserved identities,same]

def Cluster.renamed (σ : Equiv.Perm ℕ) (cluster : Cluster) : String × Fields × ℕ × Multiset ℤ :=
  (cluster.fingerprint,cluster.fields,cluster.size,((cluster.members.map fun member => (σ member.toNat : ℤ) : List ℤ) : Multiset ℤ))

section
variable {others : List Identity} (all : AllGenuine sha256 identities) (all' : AllGenuine sha256 others) {σ : Equiv.Perm ℕ}
  (shuffled : ∀ index : ℕ, others[index]? = identities[σ index]?)
include all all' shuffled

theorem renamed_eq {cluster other : Cluster}
    (held : cluster ∈ buildFailureClusters identities none) (held' : other ∈ buildFailureClusters others none)
    (same : other.fingerprint = cluster.fingerprint) : other.renamed σ = cluster.renamed (Equiv.refl ℕ) := by
  have bags : (other.members.map fun member => (σ member.toNat : ℤ)).Perm
      (cluster.members.map fun member => ((Equiv.refl ℕ) member.toNat : ℤ)) := by
    have injective : ∀ {identities : List Identity}, AllGenuine sha256 identities → ∀ {cluster : Cluster},
        cluster ∈ buildFailureClusters identities none → ∀ σ : Equiv.Perm ℕ, (cluster.members.map fun member => (σ member.toNat : ℤ)).Nodup := by
      intro identities all cluster held σ
      refine (cluster_nodup all held).map_on fun first left second right same => ?_
      obtain ⟨index,_,_,_,_,rfl⟩ := (mem_cluster all held).mp left
      obtain ⟨index',_,_,_,_,rfl⟩ := (mem_cluster all held).mp right
      exact congrArg _ (σ.injective (Int.ofNat_inj.mp same))
    refine (List.perm_ext_iff_of_nodup (injective all' held' σ) (injective all held _)).mpr fun member => ?_
    simp only [List.mem_map,mem_cluster all held,mem_cluster all' held',same]
    constructor
    · rintro ⟨_,⟨index,identity,there,eligible,named,rfl⟩,rfl⟩
      exact ⟨_,⟨σ index,identity,(shuffled index).symm.trans there,eligible,named,rfl⟩,rfl⟩
    · rintro ⟨_,⟨index,identity,there,eligible,named,rfl⟩,rfl⟩
      refine ⟨_,⟨σ.symm index,identity,(shuffled _).trans ?_,eligible,named,rfl⟩,?_⟩
      · rw [Equiv.apply_symm_apply]
        exact there
      · show ((σ (σ.symm index) : ℕ) : ℤ) = (index : ℤ)
        rw [Equiv.apply_symm_apply]
  obtain ⟨_,_,-,there,named,fields,-,size⟩ := cluster_first all held
  obtain ⟨_,_,-,there',named',fields',-,size'⟩ := cluster_first all' held'
  have genuine := all _ (List.mem_of_getElem? there)
  have genuine' := all' _ (List.mem_of_getElem? there')
  have fields : other.fields = cluster.fields := by
    rw [fields,fields']
    exact (genuine'.same_iff genuine).mp (named'.symm.trans (same.trans named))
  have size : other.size = cluster.size := by
    rw [size,size']
    simpa using bags.length_eq
  exact Prod.ext same (Prod.ext fields (Prod.ext size (Multiset.coe_eq_coe.mpr bags)))

theorem clusters_shuffled :
    ((buildFailureClusters others none).map (Cluster.renamed σ)).Perm
      ((buildFailureClusters identities none).map (Cluster.renamed (Equiv.refl ℕ))) := by
  have distinct : ∀ (identities : List Identity) (σ : Equiv.Perm ℕ), ((buildFailureClusters identities none).map (Cluster.renamed σ)).Nodup := by
    intro identities σ
    refine List.Nodup.of_map Prod.fst ?_
    rw [List.map_map]
    exact clusters_keys identities
  have prints : ∀ print, print ∈ (buildFailureClusters others none).map (·.fingerprint) ↔
      print ∈ (buildFailureClusters identities none).map (·.fingerprint) := by
    intro print
    rw [mem_fingerprints all,mem_fingerprints all']
    constructor
    · rintro ⟨index,identity,there,rest⟩
      exact ⟨σ index,identity,(shuffled index).symm.trans there,rest⟩
    · rintro ⟨index,identity,there,rest⟩
      refine ⟨σ.symm index,identity,(shuffled _).trans ?_,rest⟩
      rw [Equiv.apply_symm_apply]
      exact there
  refine (List.perm_ext_iff_of_nodup (distinct others σ) (distinct identities _)).mpr fun view => ?_
  constructor
  · intro member
    obtain ⟨other,held',rfl⟩ := List.mem_map.mp member
    obtain ⟨cluster,held,same⟩ := List.mem_map.mp ((prints _).mp (List.mem_map_of_mem held'))
    exact List.mem_map.mpr ⟨cluster,held,(renamed_eq all all' shuffled held held' same.symm).symm⟩
  · intro member
    obtain ⟨cluster,held,rfl⟩ := List.mem_map.mp member
    obtain ⟨other,held',same⟩ := List.mem_map.mp ((prints _).mpr (List.mem_map_of_mem held))
    exact List.mem_map.mpr ⟨other,held',renamed_eq all all' shuffled held held' same⟩

end

def Arguments.unobserved (arguments : Arguments) : Arguments := {arguments with deviceSerial := ⟨false,"None"⟩}

def identitiesOf (sha256 : Sha256) (isalnum : Char → Bool) (calls : List Observed) : List Identity :=
  calls.map fun call => failureIdentity sha256 isalnum call.arguments

/-- Fingerprints, relations and clusters of the identities of some calls agree. -/
structure Agree (sha256 : Sha256) (isalnum : Char → Bool) (calls : List Observed) : Prop where
  partition : ((buildFailureClusters (identitiesOf sha256 isalnum calls) none).flatMap (·.members)).Perm
    (clusterableIndices (identitiesOf sha256 isalnum calls))
  pairs : ∀ (i j : ℕ) (first second : Identity), (identitiesOf sha256 isalnum calls)[i]? = some first →
    (identitiesOf sha256 isalnum calls)[j]? = some second →
      (Together (buildFailureClusters (identitiesOf sha256 isalnum calls) none) i j ↔ relationClass first second = .sameFailure) ∧
      (relationClass first second = .sameFailure ↔ first.clusterable = true ∧ second.clusterable = true ∧ first.fields = second.fields)
  symmetric : ∀ first second : Identity, relationClass first second = relationClass second first
  first : ∀ cluster ∈ buildFailureClusters (identitiesOf sha256 isalnum calls) none, ∃ (index : ℕ) (identity : Identity),
    cluster.members.head? = some (index : ℤ) ∧ (identitiesOf sha256 isalnum calls)[index]? = some identity ∧
      cluster.fingerprint = identity.fingerprint ∧ cluster.fields = identity.fields ∧ cluster.deviceSerial = identity.deviceSerial ∧
      cluster.size = cluster.members.length
  serials : ∀ others : List Observed, others.map (·.arguments.unobserved) = calls.map (·.arguments.unobserved) →
    (buildFailureClusters (identitiesOf sha256 isalnum others) none).map Cluster.unobserved =
      (buildFailureClusters (identitiesOf sha256 isalnum calls) none).map Cluster.unobserved
  shuffled : ∀ (others : List Observed) (σ : Equiv.Perm ℕ), (∀ index : ℕ, others[index]? = calls[σ index]?) →
    ((buildFailureClusters (identitiesOf sha256 isalnum others) none).map (Cluster.renamed σ)).Perm
      ((buildFailureClusters (identitiesOf sha256 isalnum calls) none).map (Cluster.renamed (Equiv.refl ℕ)))

theorem row_unobserved (arguments : Arguments) : arguments.unobserved.row = arguments.row := rfl

theorem fields_unobserved (isalnum : Char → Bool) (arguments : Arguments) : arguments.unobserved.fields isalnum = arguments.fields isalnum := by
  unfold Arguments.fields
  rw [row_unobserved]
  rfl

theorem identity_unobserved (sha256 : Sha256) (isalnum : Char → Bool) (arguments : Arguments) :
    (failureIdentity sha256 isalnum arguments).unobserved = (failureIdentity sha256 isalnum arguments.unobserved).unobserved := by
  unfold Identity.unobserved failureIdentity
  dsimp only
  rw [fields_unobserved]

theorem identities_unobserved (sha256 : Sha256) (isalnum : Char → Bool) {calls others : List Observed}
    (same : others.map (·.arguments.unobserved) = calls.map (·.arguments.unobserved)) :
    (identitiesOf sha256 isalnum others).map Identity.unobserved = (identitiesOf sha256 isalnum calls).map Identity.unobserved := by
  have read : ∀ calls : List Observed, (identitiesOf sha256 isalnum calls).map Identity.unobserved =
      (calls.map (·.arguments.unobserved)).map fun arguments => (failureIdentity sha256 isalnum arguments).unobserved := by
    intro calls
    unfold identitiesOf
    rw [List.map_map,List.map_map]
    exact List.map_congr_left fun call _ => identity_unobserved sha256 isalnum call.arguments
  rw [read,read,same]

theorem failures_agree (sha256 : Sha256) (isalnum : Char → Bool) (calls : List Observed) : Agree sha256 isalnum calls := by
  have genuine : ∀ calls, AllGenuine sha256 (identitiesOf sha256 isalnum calls) := by
    intro calls identity member
    obtain ⟨call,-,rfl⟩ := List.mem_map.mp member
    exact call.genuine
  have pairs : ∀ (i j : ℕ) (first second : Identity), (identitiesOf sha256 isalnum calls)[i]? = some first →
      (identitiesOf sha256 isalnum calls)[j]? = some second →
        (Together (buildFailureClusters (identitiesOf sha256 isalnum calls) none) i j ↔ relationClass first second = .sameFailure) ∧
        (relationClass first second = .sameFailure ↔ first.clusterable = true ∧ second.clusterable = true ∧ first.fields = second.fields) := by
    intro i j first second here there
    have left := genuine calls first (List.mem_of_getElem? here)
    have right := genuine calls second (List.mem_of_getElem? there)
    have related := sameFailure_iff left right
    exact ⟨(together_iff (genuine calls) here there).trans related.symm,by rw [related,left.same_iff right]⟩
  have shuffled : ∀ (others : List Observed) (σ : Equiv.Perm ℕ), (∀ index : ℕ, others[index]? = calls[σ index]?) →
      ((buildFailureClusters (identitiesOf sha256 isalnum others) none).map (Cluster.renamed σ)).Perm
        ((buildFailureClusters (identitiesOf sha256 isalnum calls) none).map (Cluster.renamed (Equiv.refl ℕ))) := by
    intro others σ shuffled
    refine clusters_shuffled (genuine calls) (genuine others) fun index => ?_
    unfold identitiesOf
    rw [List.getElem?_map,List.getElem?_map,shuffled]
  exact {
    partition := clusters_partition (genuine calls)
    pairs := pairs
    symmetric := relationClass_comm
    first := fun cluster held => cluster_first (genuine calls) held
    serials := fun others same => clusters_serials (identities_unobserved sha256 isalnum same) none
    shuffled := shuffled }

end GmsRemoteTest.Redmine.FailureIdentity
