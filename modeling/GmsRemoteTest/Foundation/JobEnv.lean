import GmsRemoteTest.Lib.Dict
import GmsRemoteTest.Lib.Regex

/-! The environment of a job. The Controller refuses a job with a key or a value that is not allowed, and the Worker filters what it
receives once more. -/
namespace GmsRemoteTest.JobEnv
open Regex Regex.Pattern

def ALLOWED_JOB_ENV_KEYS : List String :=
  ["GMS_TRANSPORT_REQUIREMENT","GMS_COPY_ROUTE_NETWORK","GMS_COPY_ROUTE_GATEWAY","GMS_LOCAL_SERVER","LOCAL_SERVER","TERM"]

def JOB_ENV_VALUE_MAX_LEN : ℕ := 4096

def plain (c : Char) : Bool := c ≠ '\r' && c ≠ '\n' && c ≠ '\x00'

def JOB_ENV_VALUE_RE : Pattern := .seq (.star (.char plain)) (.assertion fun _ rest => rest = [] || rest = ['\n'])

def Allowed (key value : String) : Prop :=
  key ∈ ALLOWED_JOB_ENV_KEYS ∧ value.length ≤ JOB_ENV_VALUE_MAX_LEN ∧ (JOB_ENV_VALUE_RE.matchStart value.toList).isSome

instance (key value : String) : Decidable (Allowed key value) := inferInstanceAs (Decidable (_ ∧ _ ∧ _ = true))

section
variable {Value : Type} (str : Value → String)

def filterEntry (filtered : Dict String String × List String) (entry : String × Value) : Dict String String × List String :=
  if Allowed entry.1 (str entry.2) then (filtered.1.put entry.1 (str entry.2),filtered.2) else (filtered.1,filtered.2 ++ [entry.1])

/-- The allowed part, and the keys of the rest; `str` makes texts of the values. -/
def filterJobEnv (env : Option (Dict String Value)) : Dict String String × List String :=
  (env.getD Dict.empty).entries.foldl (filterEntry str) (Dict.empty,[])

def createJobEnv (env : Option (Dict String Value)) : Except (List String) (Dict String String) :=
  let (allowed,rejected) := filterJobEnv str env
  if rejected ≠ [] then .error rejected else .ok allowed

def startProcessEnv (environ : Dict String String) (env : Option (Dict String Value)) (exitCodePath : String) : Dict String String :=
  ((filterJobEnv str env).1.entries.foldl (fun process entry => process.put entry.1 entry.2) environ).put "GMS_EXIT_CODE_FILE" exitCodePath

theorem filterEntry_fold {entries : List (String × Value)} (distinct : (entries.map Prod.fst).Nodup) (filtered : Dict String String × List String)
    (fresh : ∀ entry ∈ entries, entry.1 ∉ filtered.1.entries.map Prod.fst) :
    (entries.foldl (filterEntry str) filtered).1.entries =
        filtered.1.entries ++ (entries.filter fun entry => Allowed entry.1 (str entry.2)).map (fun entry => (entry.1,str entry.2)) ∧
      (entries.foldl (filterEntry str) filtered).2 = filtered.2 ++ (entries.filter fun entry => ¬Allowed entry.1 (str entry.2)).map Prod.fst := by
  induction entries generalizing filtered with
  | nil => simp
  | cons entry entries ih =>
    rw [List.map_cons,List.nodup_cons] at distinct
    have here := fresh entry List.mem_cons_self
    rw [List.foldl_cons]
    by_cases allowed : Allowed entry.1 (str entry.2)
    · have taken : filterEntry str filtered entry = (filtered.1.put entry.1 (str entry.2),filtered.2) := if_pos allowed
      have added := Dict.put_entries (str entry.2) here
      obtain ⟨kept,rejected⟩ := ih distinct.2 (filterEntry str filtered entry) (by
        rw [taken,added]
        intro other member
        rw [List.map_append,List.mem_append,not_or]
        refine ⟨fresh other (List.mem_cons_of_mem _ member),fun same => distinct.1 ?_⟩
        rw [← List.mem_singleton.mp same]
        exact List.mem_map_of_mem member)
      rw [kept,rejected,taken,added]
      simp [allowed]
    · have dropped : filterEntry str filtered entry = (filtered.1,filtered.2 ++ [entry.1]) := if_neg allowed
      obtain ⟨kept,rejected⟩ := ih distinct.2 (filterEntry str filtered entry) (by
        rw [dropped]
        exact fun other member => fresh other (List.mem_cons_of_mem _ member))
      rw [kept,rejected,dropped]
      simp [allowed]

variable (env : Option (Dict String Value))

theorem filterJobEnv_allowed : (filterJobEnv str env).1.entries =
    ((env.getD Dict.empty).entries.filter fun entry => Allowed entry.1 (str entry.2)).map fun entry => (entry.1,str entry.2) :=
  (filterEntry_fold str (env.getD Dict.empty).distinct (Dict.empty,[]) (by simp [Dict.empty])).1

theorem filterJobEnv_rejected : (filterJobEnv str env).2 =
    ((env.getD Dict.empty).entries.filter fun entry => ¬Allowed entry.1 (str entry.2)).map Prod.fst :=
  (filterEntry_fold str (env.getD Dict.empty).distinct (Dict.empty,[]) (by simp [Dict.empty])).2

theorem mem_filterJobEnv {key value : String} : (key,value) ∈ (filterJobEnv str env).1.entries ↔
    Allowed key value ∧ ∃ raw, (key,raw) ∈ (env.getD Dict.empty).entries ∧ str raw = value := by
  rw [filterJobEnv_allowed,List.mem_map]
  constructor
  · rintro ⟨⟨_,raw⟩,member,⟨⟩⟩
    rw [List.mem_filter] at member
    exact ⟨of_decide_eq_true member.2,raw,member.1,rfl⟩
  · rintro ⟨allowed,raw,member,rfl⟩
    exact ⟨(key,raw),List.mem_filter.mpr ⟨member,decide_eq_true allowed⟩,rfl⟩

theorem filterJobEnv_again : filterJobEnv id (some (filterJobEnv str env).1) = ((filterJobEnv str env).1,[]) := by
  have all : ∀ entry ∈ (filterJobEnv str env).1.entries, Allowed entry.1 entry.2 := fun entry member => ((mem_filterJobEnv str env).mp member).1
  refine Prod.ext (Dict.ext ?_) ?_
  · rw [filterJobEnv_allowed]
    show ((filterJobEnv str env).1.entries.filter fun entry => Allowed entry.1 entry.2).map (fun entry => entry) = _
    rw [List.filter_eq_self.mpr fun entry member => decide_eq_true (all entry member)]
    exact List.map_id _
  · rw [filterJobEnv_rejected]
    show ((filterJobEnv str env).1.entries.filter _).map _ = _
    rw [List.filter_eq_nil_iff.mpr fun entry member => by simpa using all entry member,List.map_nil]

end

def Clean (text : List Char) : Prop := ∀ c ∈ text, plain c = true

theorem plain_newline : plain '\n' = false := rfl

theorem matches_iff {text : List Char} : (JOB_ENV_VALUE_RE.matchStart text).isSome ↔ Clean text ∨ ∃ line, Clean line ∧ text = line ++ ['\n'] := by
  constructor
  · intro found
    obtain ⟨result,found⟩ := Option.isSome_iff_exists.mp found
    obtain ⟨later,reads,-⟩ := run_reads found
    obtain ⟨between,left,right⟩ := reads_seq.mp reads
    obtain ⟨line,start,all⟩ := reads_star_char left
    cases right with
    | assertion held =>
      dsimp only at start
      obtain ended | ended : later.rest = [] ∨ later.rest = ['\n'] := by simpa using held
      · rw [start,ended,List.append_nil]
        exact .inl all
      · exact .inr ⟨line,all,by rw [start,ended]⟩
  · intro shape
    have takes : ∀ line, Clean line → ∀ rest, rest = [] ∨ rest = ['\n'] → (JOB_ENV_VALUE_RE.matchStart (line ++ rest)).isSome := by
      intro line all rest ended
      have rejected : ∀ c, rest.head? = some c → plain c = false := by
        intro c head
        obtain rfl | rfl := ended
        · cases head
        · cases head
          exact plain_newline
      have found : JOB_ENV_VALUE_RE.matchStart (line ++ rest) = some ⟨line.reverse ++ [],rest,[]⟩ :=
        matchStart_eq ((Takes.star_char all rejected).seq (.assertion (by simpa using ended)))
      rw [found]
      rfl
    obtain all | ⟨line,all,rfl⟩ := shape
    · simpa using takes text all [] (.inl rfl)
    · exact takes line all ['\n'] (.inr rfl)

/-- What a filter must come to: clean values under allowed keys, which the Worker takes over as they are. -/
structure Contained {Value : Type} (str : Value → String) (env : Option (Dict String Value)) : Prop where
  values : ∀ key value, (filterJobEnv str env).1.get key = some value → Clean value.toList ∧ value.length ≤ 4096
  keys : ∀ key value, (filterJobEnv str env).1.get key = some value → key ∈ ALLOWED_JOB_ENV_KEYS
  again : filterJobEnv id (some (filterJobEnv str env).1) = ((filterJobEnv str env).1,[])
  passed : ∀ queued environ path, createJobEnv str env = .ok queued →
    startProcessEnv id environ (some queued) path =
      (queued.entries.foldl (fun process entry => process.put entry.1 entry.2) environ).put "GMS_EXIT_CODE_FILE" path

/-- An allowed value that is clean but for a line feed at its end. -/
def Trailing (key value : String) : Prop :=
  key ∈ ALLOWED_JOB_ENV_KEYS ∧ value.length ≤ 4096 ∧ ∃ line, Clean line ∧ value.toList = line ++ ['\n']

theorem contained_iff {Value : Type} (str : Value → String) (env : Option (Dict String Value)) :
    Contained str env ↔ ∀ key raw, (env.getD Dict.empty).get key = some raw → ¬Trailing key (str raw) := by
  constructor
  · rintro contained key raw found ⟨known,short,line,clean,ends⟩
    have allowed : Allowed key (str raw) := ⟨known,short,matches_iff.mpr (.inr ⟨line,clean,ends⟩)⟩
    have through : (filterJobEnv str env).1.get key = some (str raw) :=
      Dict.get_eq_some_iff.mpr ((mem_filterJobEnv str env).mpr ⟨allowed,raw,Dict.get_eq_some_iff.mp found,rfl⟩)
    have last := (contained.values key (str raw) through).1 '\n' (by rw [ends]; simp)
    cases plain_newline.symm.trans last
  · intro untrailed
    have through : ∀ key value, (filterJobEnv str env).1.get key = some value →
        Allowed key value ∧ ∃ raw, (key,raw) ∈ (env.getD Dict.empty).entries ∧ str raw = value :=
      fun key value found => (mem_filterJobEnv str env).mp (Dict.get_eq_some_iff.mp found)
    refine ⟨fun key value found => ?_,fun key value found => (through key value found).1.1,filterJobEnv_again str env,?_⟩
    · obtain ⟨⟨known,short,matched⟩,raw,member,rfl⟩ := through key value found
      obtain clean | trailing := matches_iff.mp matched
      · exact ⟨clean,short⟩
      · exact absurd ⟨known,short,trailing⟩ (untrailed key raw (Dict.get_eq_some_iff.mpr member))
    · intro queued environ path made
      have same : (filterJobEnv str env).1 = queued := by
        unfold createJobEnv at made
        dsimp only at made
        split at made
        · cases made
        · exact Except.ok.inj made
      unfold startProcessEnv
      rw [← same,filterJobEnv_again]

def trailingTerm : Dict String String := Dict.empty.put "TERM" "xterm\n"

theorem trailing_term_passes : (filterJobEnv id (some trailingTerm)).1.get "TERM" = some "xterm\n" ∧ ¬Contained id (some trailingTerm) := by
  have through : (filterJobEnv id (some trailingTerm)).1.get "TERM" = some "xterm\n" := by decide +kernel
  refine ⟨through,fun contained => ?_⟩
  have last := (contained.values "TERM" "xterm\n" through).1 '\n' (by decide)
  cases plain_newline.symm.trans last

end GmsRemoteTest.JobEnv
