import GmsRemoteTest.Foundation.CacheItems

/-! What the cache owes its callers about loads, over every run. -/
namespace GmsRemoteTest.TtlCache
open scoped List

variable {κ ν : Type} {settings : Settings} {world : World κ ν}

def users (flights : List (Load κ × Phase)) (version : ℕ) : ℕ := flights.countP fun flight => flight.2 ≠ .ended ∧ flight.1.version = version

structure Booked (cache : TTLCache κ ν) (flights : List (Load κ × Phase)) (started : ℕ) : Prop where
  ids : (flights.map fun flight => flight.1.id).Nodup
  begun : ∀ flight ∈ flights, flight.1.id < started ∧ flight.1.version < started
  counted : ∀ version, cache.users version = users flights version
  used : ∀ key version, cache.keyVersions key = some version → 0 < cache.users version
  owned : ∀ key version, cache.keyVersions key = some version → ∀ flight ∈ flights, flight.1.version = version → flight.1.key = key
  paired : ∀ key, cache.keyVersions key = none → cache.loadSeq key = none
  behind : ∀ flight ∈ flights, cache.keyVersions flight.1.key = some flight.1.version →
    ∃ seq, cache.loadSeq flight.1.key = some seq ∧ flight.1.seq ≤ seq
  generations : ∀ flight ∈ flights, flight.1.generation ≤ cache.generation
  waiting : ∀ loop key id, cache.pending loop key = some id →
    ∃ flight ∈ flights, flight.1.id = id ∧ flight.1.key = key ∧ flight.1.loop = some loop

theorem users_append (first second : List (Load κ × Phase)) (version : ℕ) :
    users (first ++ second) version = users first version + users second version := List.countP_append

theorem users_pos {flights : List (Load κ × Phase)} {version : ℕ} (some_ : 0 < users flights version) :
    ∃ flight ∈ flights, flight.1.version = version := by
  obtain ⟨flight,member,both⟩ := List.countP_pos_iff.mp some_
  exact ⟨flight,member,(of_decide_eq_true both).2⟩

theorem users_filter {flights : List (Load κ × Phase)} (ids : (flights.map fun flight => flight.1.id).Nodup) {flight : Load κ × Phase}
    (member : flight ∈ flights) (version : ℕ) : users flights version =
      users (flights.filter fun other => other.1.id ≠ flight.1.id) version + users [flight] version := by
  induction flights with
  | nil => cases member
  | cons first rest ih =>
    obtain ⟨fresh,ids⟩ := List.nodup_cons.mp ids
    obtain rfl | later := List.mem_cons.mp member
    · have others : rest.filter (fun other => other.1.id ≠ flight.1.id) = rest :=
        List.filter_eq_self.mpr fun other inside => decide_eq_true fun same => fresh (List.mem_map.mpr ⟨other,inside,same⟩)
      rw [List.filter_cons_of_neg (by simp),others,Nat.add_comm]
      exact users_append [flight] rest version
    · have apart : first.1.id ≠ flight.1.id := fun same => fresh (List.mem_map.mpr ⟨flight,later,same.symm⟩)
      rw [List.filter_cons_of_pos (by simpa using apart)]
      have split := users_append [first] rest version
      have split' := users_append [first] (rest.filter fun other => other.1.id ≠ flight.1.id) version
      rw [List.singleton_append] at split split'
      rw [split,split',ih ids later]
      omega

def shift (flights : List (Load κ × Phase)) (id : ℕ) (phase : Phase) : List (Load κ × Phase) :=
  flights.map fun flight => if flight.1.id = id then (flight.1,phase) else flight

theorem mem_shift {flights : List (Load κ × Phase)} {id : ℕ} {phase : Phase} {flight : Load κ × Phase} (member : flight ∈ shift flights id phase) :
    ∃ phase, (flight.1,phase) ∈ flights := by
  obtain ⟨before,inside,same⟩ := List.mem_map.mp member
  refine ⟨before.2,?_⟩
  split at same
  · rw [← same]
    exact inside
  · rw [← same]
    exact inside

theorem ids_shift (flights : List (Load κ × Phase)) (id : ℕ) (phase : Phase) :
    (shift flights id phase).map (fun flight => flight.1.id) = flights.map fun flight => flight.1.id := by
  unfold shift
  rw [List.map_map]
  refine List.map_congr_left fun flight _ => ?_
  dsimp only [Function.comp]
  split
  · rfl
  · rfl

theorem shift_mem {flights : List (Load κ × Phase)} {id : ℕ} {phase : Phase} {flight : Load κ × Phase} (member : flight ∈ flights) :
    ∃ phase', (flight.1,phase') ∈ shift flights id phase := by
  have inside : (if flight.1.id = id then (flight.1,phase) else flight) ∈ shift flights id phase := List.mem_map_of_mem member
  split at inside
  · exact ⟨phase,inside⟩
  · exact ⟨flight.2,inside⟩

theorem users_shift {flights : List (Load κ × Phase)} (ids : (flights.map fun flight => flight.1.id).Nodup) {load : Load κ} {phase after : Phase}
    (member : (load,phase) ∈ flights) (version : ℕ) : users (shift flights load.id after) version + users [(load,phase)] version =
      users flights version + users [(load,after)] version := by
  have before := users_filter ids member version
  obtain ⟨_,inside⟩ : ∃ _ : True, (load,after) ∈ shift flights load.id after :=
    ⟨trivial,List.mem_map.mpr ⟨_,member,if_pos rfl⟩⟩
  have later := users_filter (by rw [ids_shift]; exact ids) inside version
  have same : (shift flights load.id after).filter (fun other => other.1.id ≠ load.id) = flights.filter fun other => other.1.id ≠ load.id := by
    clear before later inside member ids
    induction flights with
    | nil => rfl
    | cons first rest ih =>
      unfold shift at *
      rw [List.map_cons]
      by_cases here : first.1.id = load.id
      · rw [if_pos here,List.filter_cons_of_neg (by simp [here]),List.filter_cons_of_neg (by simp [here]),ih]
      · rw [if_neg here,List.filter_cons_of_pos (by simpa using here),List.filter_cons_of_pos (by simpa using here),ih]
  dsimp only at before later
  rw [same] at later
  omega

section
variable {cache : TTLCache κ ν} {flights : List (Load κ × Phase)} {started : ℕ}

structure Fewer (cache : TTLCache κ ν) (flights : List (Load κ × Phase)) (other : TTLCache κ ν) (rest : List (Load κ × Phase)) : Prop where
  kept : ∀ flight ∈ rest, ∃ phase, (flight.1,phase) ∈ flights
  keys : ∀ key, other.keyVersions key = cache.keyVersions key ∧ other.loadSeq key = cache.loadSeq key ∨
    other.keyVersions key = none ∧ other.loadSeq key = none
  generations : cache.generation ≤ other.generation

section
variable (booked : Booked cache flights started)
include booked

theorem Booked.narrow {other : TTLCache κ ν} {rest : List (Load κ × Phase)}
    (fewer : Fewer cache flights other rest) (ids : (rest.map fun flight => flight.1.id).Nodup)
    (counted : ∀ version, other.users version = users rest version)
    (used : ∀ key version, other.keyVersions key = some version → 0 < other.users version)
    (waiting : ∀ loop key id, other.pending loop key = some id →
      ∃ flight ∈ rest, flight.1.id = id ∧ flight.1.key = key ∧ flight.1.loop = some loop) : Booked other rest started where
  ids := ids
  begun flight member := by
    obtain ⟨phase,member⟩ := fewer.kept flight member
    exact booked.begun (flight.1,phase) member
  counted := counted
  used := used
  owned key version known flight member same := by
    obtain ⟨phase,member⟩ := fewer.kept flight member
    obtain ⟨as,_⟩ | ⟨gone,_⟩ := fewer.keys key
    · exact booked.owned key version (as.symm.trans known) (flight.1,phase) member same
    · exact nomatch gone.symm.trans known
  paired key unknown := by
    obtain ⟨as,seq⟩ | ⟨_,seq⟩ := fewer.keys key
    · exact seq.trans (booked.paired key (as.symm.trans unknown))
    · exact seq
  behind flight member known := by
    obtain ⟨phase,member⟩ := fewer.kept flight member
    obtain ⟨as,seq⟩ | ⟨gone,_⟩ := fewer.keys flight.1.key
    · rw [seq]
      exact booked.behind (flight.1,phase) member (as.symm.trans known)
    · exact nomatch gone.symm.trans known
  generations flight member := by
    obtain ⟨phase,member⟩ := fewer.kept flight member
    exact (booked.generations (flight.1,phase) member).trans fewer.generations
  waiting := waiting

theorem Booked.shared {key other : κ} {version : ℕ} (known : cache.keyVersions other = some version)
    (same : (cache.keyVersions key).getD started = version) : other = key ∧ cache.keyVersions key = some version := by
  obtain ⟨flight,member,its⟩ := users_pos (booked.counted version ▸ booked.used other version known)
  cases present : cache.keyVersions key with
  | none =>
    rw [present] at same
    have before := (booked.begun flight member).2
    rw [its,← same] at before
    exact (lt_irrefl _ before).elim
  | some there =>
    rw [present] at same
    cases same
    exact ⟨(booked.owned other there known flight member its).symm.trans (booked.owned key there present flight member its),rfl⟩

theorem Booked.joined {key : κ} {flight : Load κ × Phase} (member : flight ∈ flights)
    (same : (cache.keyVersions key).getD started = flight.1.version) : flight.1.key = key ∧ cache.keyVersions key = some flight.1.version := by
  cases present : cache.keyVersions key with
  | none =>
    rw [present] at same
    have before := (booked.begun flight member).2
    rw [← same] at before
    exact (lt_irrefl _ before).elim
  | some there =>
    rw [present] at same
    cases same
    exact ⟨booked.owned key _ present flight member rfl,rfl⟩

end

theorem users_one (load : Load κ) (phase : Phase) (version : ℕ) :
    users [(load,phase)] version = if phase ≠ .ended ∧ load.version = version then 1 else 0 := by
  unfold users
  rw [List.countP_cons,List.countP_nil,Nat.zero_add]
  simp only [decide_eq_true_eq]

variable [DecidableEq κ]

theorem Booked.begin_ (booked : Booked cache flights started) (key : κ) (loop : Option ℕ) :
    Booked (cache.beginLoad started key loop).2 (flights ++ [((cache.beginLoad started key loop).1,.loading)]) (started + 1) where
  ids := by
    rw [List.map_append,List.nodup_append]
    refine ⟨booked.ids,List.nodup_singleton _,fun id member new fresh same => ?_⟩
    obtain ⟨flight,inside,rfl⟩ := List.mem_map.mp member
    have before := (booked.begun flight inside).1
    rw [same,List.mem_singleton.mp fresh] at before
    exact lt_irrefl _ before
  begun flight member := by
    obtain old | new := List.mem_append.mp member
    · obtain ⟨id,version⟩ := booked.begun flight old
      exact ⟨id.trans started.lt_succ_self,version.trans started.lt_succ_self⟩
    · cases List.mem_singleton.mp new
      refine ⟨started.lt_succ_self,?_⟩
      show (cache.keyVersions key).getD started < started + 1
      cases known : cache.keyVersions key with
      | none => exact started.lt_succ_self
      | some version =>
        obtain ⟨flight,member,rfl⟩ := users_pos (booked.counted version ▸ booked.used key version known)
        exact (booked.begun flight member).2.trans started.lt_succ_self
  counted version := by
    rw [users_append,users_one,← booked.counted]
    show Function.update cache.users ((cache.keyVersions key).getD started) _ version = _
    by_cases same : version = (cache.keyVersions key).getD started
    · rw [same,Function.update_self,if_pos ⟨nofun,rfl⟩]
    · rw [Function.update_of_ne same,if_neg fun both => same both.2.symm,Nat.add_zero]
  used other version known := by
    show 0 < Function.update cache.users ((cache.keyVersions key).getD started) _ version
    by_cases same : version = (cache.keyVersions key).getD started
    · rw [same,Function.update_self]
      exact Nat.succ_pos _
    · rw [Function.update_of_ne same]
      refine booked.used other version ?_
      by_cases here : other = key
      · subst here
        exact absurd (Option.some.inj ((Function.update_self other _ _).symm.trans known)).symm same
      · exact (Function.update_of_ne here _ _).symm.trans known
  owned other version known flight member same := by
    obtain old | new := List.mem_append.mp member
    · by_cases here : other = key
      · subst here
        have shared := Option.some.inj ((Function.update_self other _ _).symm.trans known)
        exact (booked.joined old (shared.trans same.symm)).1
      · exact booked.owned other version ((Function.update_of_ne here _ _).symm.trans known) flight old same
    · cases List.mem_singleton.mp new
      by_cases here : other = key
      · exact here.symm
      · exact (booked.shared ((Function.update_of_ne here _ _).symm.trans known) same).1.symm
  paired other unknown := by
    by_cases here : other = key
    · subst here
      exact nomatch (Function.update_self other _ _).symm.trans unknown
    · exact (Function.update_of_ne here _ _).trans (booked.paired other ((Function.update_of_ne here _ _).symm.trans unknown))
  behind flight member known := by
    obtain old | new := List.mem_append.mp member
    · by_cases here : flight.1.key = key
      · subst here
        have shared := Option.some.inj ((Function.update_self flight.1.key _ _).symm.trans known)
        obtain ⟨seq,last,least⟩ := booked.behind flight old (booked.joined old shared).2
        refine ⟨seq + 1,(Function.update_self _ _ _).trans ?_,least.trans seq.le_succ⟩
        rw [last]
        rfl
      · obtain ⟨seq,last,least⟩ := booked.behind flight old ((Function.update_of_ne here _ _).symm.trans known)
        exact ⟨seq,(Function.update_of_ne here _ _).trans last,least⟩
    · cases List.mem_singleton.mp new
      exact ⟨_,Function.update_self _ _ _,le_rfl⟩
  generations flight member := by
    obtain old | new := List.mem_append.mp member
    · exact booked.generations flight old
    · cases List.mem_singleton.mp new
      exact le_rfl
  waiting other key' id waits := by
    obtain ⟨flight,member,its⟩ := booked.waiting other key' id waits
    exact ⟨flight,List.mem_append_left _ member,its⟩

theorem Booked.await (booked : Booked cache flights started) {loop : ℕ} {load : Load κ} {phase : Phase} (member : (load,phase) ∈ flights)
    (its : load.loop = some loop) : Booked (cache.await loop load) flights started where
  ids := booked.ids
  begun := booked.begun
  counted := booked.counted
  used := booked.used
  owned := booked.owned
  paired := booked.paired
  behind := booked.behind
  generations := booked.generations
  waiting other key id waits := by
    by_cases here : other = loop
    · subst here
      have waits := (congrFun (Function.update_self other _ _) key).symm.trans waits
      by_cases there : key = load.key
      · subst there
        exact ⟨_,member,Option.some.inj ((Function.update_self load.key _ _).symm.trans waits),rfl,its⟩
      · exact booked.waiting other key id ((Function.update_of_ne there _ _).symm.trans waits)
    · exact booked.waiting other key id ((congrFun (Function.update_of_ne here _ _) key).symm.trans waits)

omit [DecidableEq κ] in
theorem Booked.forget (booked : Booked cache flights started) {pending : ℕ → κ → Option ℕ}
    (waits : ∀ loop key id, pending loop key = some id → cache.pending loop key = some id) : Booked {cache with pending} flights started where
  ids := booked.ids
  begun := booked.begun
  counted := booked.counted
  used := booked.used
  owned := booked.owned
  paired := booked.paired
  behind := booked.behind
  generations := booked.generations
  waiting loop key id known := booked.waiting loop key id (waits loop key id known)

theorem Fewer.endLoad (cache : TTLCache κ ν) {load : Load κ} {rest : List (Load κ × Phase)}
    (kept : ∀ flight ∈ rest, ∃ phase, (flight.1,phase) ∈ flights) : Fewer cache flights (cache.endLoad load) rest := by
  unfold TTLCache.endLoad
  dsimp only
  split
  · refine ⟨kept,fun key => ?_,le_rfl⟩
    by_cases here : key = load.key
    · subst here
      exact .inr ⟨Function.update_self _ _ _,Function.update_self _ _ _⟩
    · exact .inl ⟨Function.update_of_ne here _ _,Function.update_of_ne here _ _⟩
  · exact ⟨kept,fun _ => .inl ⟨rfl,rfl⟩,le_rfl⟩

theorem endLoad_users (cache : TTLCache κ ν) (load : Load κ) :
    (cache.endLoad load).users = Function.update cache.users load.version (cache.users load.version - 1) := by
  unfold TTLCache.endLoad
  dsimp only
  split
  · rfl
  · rfl

theorem endLoad_pending (cache : TTLCache κ ν) (load : Load κ) : (cache.endLoad load).pending = cache.pending := by
  unfold TTLCache.endLoad
  dsimp only
  split
  · rfl
  · rfl

theorem endLoad_used {load : Load κ} {key : κ} {version : ℕ} (known : (cache.endLoad load).keyVersions key = some version) :
    cache.keyVersions key = some version ∧ (version = load.version → key = load.key → cache.users load.version - 1 ≠ 0) := by
  unfold TTLCache.endLoad at known
  dsimp only at known
  by_cases last : Function.update cache.users load.version (cache.users load.version - 1) load.version = 0 ∧
      cache.keyVersions load.key = some load.version
  · rw [if_pos last] at known
    by_cases here : key = load.key
    · subst here
      exact nomatch (Function.update_self load.key _ _).symm.trans known
    · exact ⟨(Function.update_of_ne here _ _).symm.trans known,fun _ same => absurd same here⟩
  · rw [if_neg last] at known
    rw [Function.update_self] at last
    refine ⟨known,fun same here none_ => last ⟨none_,?_⟩⟩
    rw [← here,← same]
    exact known

theorem Booked.endLoad (booked : Booked cache flights started) {load : Load κ} {phase : Phase} (member : (load,phase) ∈ flights)
    {rest : List (Load κ × Phase)} (ids : (rest.map fun flight => flight.1.id).Nodup)
    (kept : ∀ flight ∈ rest, ∃ phase, (flight.1,phase) ∈ flights)
    (counted : ∀ version, users flights version = users rest version + if load.version = version then 1 else 0)
    (waiting : ∀ flight ∈ flights, flight.1.loop ≠ none → ∃ phase, (flight.1,phase) ∈ rest) : Booked (cache.endLoad load) rest started := by
  refine booked.narrow (.endLoad cache kept) ids (fun version => ?_) (fun key version known => ?_) fun loop key id waits => ?_
  · have before := booked.counted version
    rw [counted] at before
    rw [endLoad_users]
    by_cases same : version = load.version
    · subst same
      rw [Function.update_self,before,if_pos rfl,Nat.add_sub_cancel]
    · rw [Function.update_of_ne same,before,if_neg (Ne.symm same),Nat.add_zero]
  · obtain ⟨known,last⟩ := endLoad_used known
    rw [endLoad_users]
    by_cases same : version = load.version
    · subst same
      rw [Function.update_self]
      exact Nat.pos_of_ne_zero (last rfl (booked.owned key _ known _ member rfl).symm)
    · rw [Function.update_of_ne same]
      exact booked.used key version known
  · rw [endLoad_pending] at waits
    obtain ⟨flight,inside,same,its,where_⟩ := booked.waiting loop key id waits
    obtain ⟨phase,there⟩ := waiting flight inside fun none_ => nomatch none_.symm.trans where_
    exact ⟨_,there,same,its,where_⟩

end

theorem unmoved {event first : Event κ ν} {rest log : List (Event κ ν)} (told : first :: rest <+ event :: log) (apart : event ≠ first) :
    first :: rest <+ log := (List.cons_sublist_cons'.mp told).resolve_right fun both => apart both.1.symm

theorem last_of_two {event first : Event κ ν} {log : List (Event κ ν)} (told : [event,first] <+ log) : first ∈ log :=
  told.subset (List.mem_cons_of_mem _ List.mem_cons_self)

structure Told (world : World κ ν) : Prop where
  booked : Booked world.cache world.flights world.started
  begun : ∀ load, .began load ∈ world.log → load.id < world.started
  stale : ∀ flight ∈ world.flights, [.invalidated flight.1.key,.began flight.1] <+ world.log →
    world.cache.keyVersions flight.1.key ≠ some flight.1.version
  older : ∀ flight ∈ world.flights, [.cleared,.began flight.1] <+ world.log → flight.1.generation < world.cache.generation
  behind : ∀ flight ∈ world.flights, ∀ later : Load κ, later.key = flight.1.key → [.began later,.began flight.1] <+ world.log →
    world.cache.keyVersions flight.1.key = some flight.1.version →
      ∃ seq, world.cache.loadSeq flight.1.key = some seq ∧ flight.1.seq < seq
  neverInvalidated : ∀ load, ¬[.populated load,.invalidated load.key,.began load] <+ world.log
  neverCleared : ∀ load, ¬[.populated load,.cleared,.began load] <+ world.log
  neverOvertaken : ∀ earlier later, later.key = earlier.key → ¬[.populated earlier,.began later,.began earlier] <+ world.log

theorem Told.narrow (told : Told world) {other : TTLCache κ ν} {rest : List (Load κ × Phase)} (fewer : Fewer world.cache world.flights other rest)
    (booked : Booked other rest world.started) : Told {world with cache := other, flights := rest} where
  booked := booked
  begun := told.begun
  stale flight member cut known := by
    obtain ⟨phase,member⟩ := fewer.kept flight member
    obtain ⟨as,_⟩ | ⟨gone,_⟩ := fewer.keys flight.1.key
    · exact told.stale (flight.1,phase) member cut (as.symm.trans known)
    · exact nomatch gone.symm.trans known
  older flight member cut := by
    obtain ⟨phase,member⟩ := fewer.kept flight member
    exact (told.older (flight.1,phase) member cut).trans_le fewer.generations
  behind flight member later same after known := by
    obtain ⟨phase,member⟩ := fewer.kept flight member
    obtain ⟨as,seq⟩ | ⟨gone,_⟩ := fewer.keys flight.1.key
    · obtain ⟨last,its,more⟩ := told.behind (flight.1,phase) member later same after (as.symm.trans known)
      exact ⟨last,seq.trans its,more⟩
    · exact nomatch gone.symm.trans known
  neverInvalidated := told.neverInvalidated
  neverCleared := told.neverCleared
  neverOvertaken := told.neverOvertaken

theorem Told.noted (told : Told world) {event : Event κ ν}
    (item : ∃ key value now, event = .stored key value now ∨ event = .got key value now) : Told {world with log := event :: world.log} := by
  have apart : (∀ load, event ≠ .began load) ∧ (∀ load, event ≠ .populated load) ∧ (∀ key, event ≠ .invalidated key) ∧ event ≠ .cleared := by
    obtain ⟨key,value,now,rfl | rfl⟩ := item
    · exact ⟨nofun,nofun,nofun,nofun⟩
    · exact ⟨nofun,nofun,nofun,nofun⟩
  obtain ⟨began,populated,invalidated,cleared⟩ := apart
  exact ⟨told.booked,fun load member => told.begun load ((List.mem_cons.mp member).resolve_left (began load).symm),
    fun flight member cut => told.stale flight member (unmoved cut (invalidated _)),
    fun flight member cut => told.older flight member (unmoved cut cleared),
    fun flight member later same after => told.behind flight member later same (unmoved after (began _)),
    fun load cut => told.neverInvalidated load (unmoved cut (populated _)),
    fun load cut => told.neverCleared load (unmoved cut (populated _)),
    fun earlier later same cut => told.neverOvertaken earlier later same (unmoved cut (populated _))⟩

theorem Told.invalidated (told : Told world) {key : κ} (gone : world.cache.keyVersions key = none) :
    Told {world with log := .invalidated key :: world.log} where
  booked := told.booked
  begun load member := told.begun load ((List.mem_cons.mp member).resolve_left nofun)
  stale flight member cut := by
    by_cases here : key = flight.1.key
    · rw [← here]
      exact fun known => nomatch gone.symm.trans known
    · exact told.stale flight member (unmoved cut fun same => here (Event.invalidated.inj same))
  older flight member cut := told.older flight member (unmoved cut nofun)
  behind flight member later same after := told.behind flight member later same (unmoved after nofun)
  neverInvalidated load cut := told.neverInvalidated load (unmoved cut nofun)
  neverCleared load cut := told.neverCleared load (unmoved cut nofun)
  neverOvertaken earlier later same cut := told.neverOvertaken earlier later same (unmoved cut nofun)

theorem Told.cleared (told : Told world) (newer : ∀ flight ∈ world.flights, flight.1.generation < world.cache.generation) :
    Told {world with log := .cleared :: world.log} where
  booked := told.booked
  begun load member := told.begun load ((List.mem_cons.mp member).resolve_left nofun)
  stale flight member cut := told.stale flight member (unmoved cut nofun)
  older flight member _ := newer flight member
  behind flight member later same after := told.behind flight member later same (unmoved after nofun)
  neverInvalidated load cut := told.neverInvalidated load (unmoved cut nofun)
  neverCleared load cut := told.neverCleared load (unmoved cut nofun)
  neverOvertaken earlier later same cut := told.neverOvertaken earlier later same (unmoved cut nofun)

theorem Told.populated [DecidableEq κ] (told : Told world) {flight : Load κ × Phase} (member : flight ∈ world.flights)
    (current : world.cache.current flight.1) : Told {world with log := .populated flight.1 :: world.log} where
  booked := told.booked
  begun load member := told.begun load ((List.mem_cons.mp member).resolve_left nofun)
  stale other member cut := told.stale other member (unmoved cut nofun)
  older other member cut := told.older other member (unmoved cut nofun)
  behind other member later same after := told.behind other member later same (unmoved after nofun)
  neverInvalidated load cut := by
    obtain later | ⟨same,cut⟩ := List.cons_sublist_cons'.mp cut
    · exact told.neverInvalidated load later
    · cases same
      exact told.stale flight member cut current.2.1
  neverCleared load cut := by
    obtain later | ⟨same,cut⟩ := List.cons_sublist_cons'.mp cut
    · exact told.neverCleared load later
    · cases same
      exact (told.older flight member cut).ne current.1
  neverOvertaken earlier later its cut := by
    obtain rest | ⟨same,cut⟩ := List.cons_sublist_cons'.mp cut
    · exact told.neverOvertaken earlier later its rest
    · cases same
      obtain ⟨seq,last,more⟩ := told.behind flight member later its cut current.2.1
      exact more.ne (Option.some.inj (current.2.2.symm.trans last))

variable [DecidableEq κ]

theorem Told.begin_ (told : Told world) (key : κ) (loop : Option ℕ) : Told (world.begin_ key loop).2 := by
  have fresh : ∀ log : List (Event κ ν), log <+ world.log → .began (world.begin_ key loop).1 ∉ log := fun log some_ member =>
    lt_irrefl _ (told.begun _ (some_.subset member))
  have within : ∀ flight ∈ world.flights, (world.begin_ key loop).2.cache.keyVersions flight.1.key = some flight.1.version →
      world.cache.keyVersions flight.1.key = some flight.1.version := by
    intro flight member known
    by_cases here : flight.1.key = key
    · subst here
      exact (told.booked.joined member (Option.some.inj ((Function.update_self flight.1.key _ _).symm.trans known))).2
    · exact (Function.update_of_ne here _ _).symm.trans known
  refine ⟨told.booked.begin_ key loop,fun load member => ?_,fun flight member cut known => ?_,fun flight member cut => ?_,
    fun flight member later its after known => ?_,fun load cut => told.neverInvalidated load (unmoved cut nofun),
    fun load cut => told.neverCleared load (unmoved cut nofun),
    fun earlier later same cut => told.neverOvertaken earlier later same (unmoved cut nofun)⟩
  · obtain new | old := List.mem_cons.mp member
    · cases new
      exact Nat.lt_succ_self _
    · exact (told.begun load old).trans (Nat.lt_succ_self _)
  · have cut := unmoved cut nofun
    obtain old | new := List.mem_append.mp member
    · exact told.stale flight old cut (within flight old known)
    · cases List.mem_singleton.mp new
      exact fresh _ cut (List.mem_cons_of_mem _ List.mem_cons_self)
  · have cut := unmoved cut nofun
    obtain old | new := List.mem_append.mp member
    · exact told.older flight old cut
    · cases List.mem_singleton.mp new
      exact (fresh _ cut (List.mem_cons_of_mem _ List.mem_cons_self)).elim
  · have before : .began flight.1 ∈ world.log := by
      obtain cut | ⟨_,cut⟩ := List.cons_sublist_cons'.mp after
      · exact last_of_two cut
      · exact List.singleton_sublist.mp cut
    obtain old | new := List.mem_append.mp member
    · have knew := within flight old known
      by_cases here : flight.1.key = key
      · subst here
        obtain ⟨seq,last,least⟩ := told.booked.behind flight old knew
        refine ⟨seq + 1,(Function.update_self flight.1.key _ _).trans ?_,Nat.lt_succ_of_le least⟩
        rw [last]
        rfl
      · have apart : Event.began (world.begin_ key loop).1 ≠ (.began later : Event κ ν) := by
          intro same
          rw [← Event.began.inj same] at its
          exact here its.symm
        obtain ⟨seq,last,more⟩ := told.behind flight old later its (unmoved after apart) knew
        exact ⟨seq,(Function.update_of_ne here _ _).trans last,more⟩
    · cases List.mem_singleton.mp new
      exact (fresh _ (List.Sublist.refl _) before).elim

omit [DecidableEq κ] in
theorem flight_some {id : ℕ} {phases : List Phase} {load : Load κ} (found : world.flight id phases = some load) :
    load.id = id ∧ ∃ phase ∈ phases, (load,phase) ∈ world.flights := by
  obtain ⟨flight,there,rfl⟩ := Option.map_eq_some_iff.mp found
  obtain ⟨same,phase⟩ : flight.1.id = id ∧ flight.2 ∈ phases := by simpa using List.find?_some there
  exact ⟨same,flight.2,phase,List.mem_of_find?_eq_some there⟩

omit [DecidableEq κ] in
theorem filter_ids {flights : List (Load κ × Phase)} (ids : (flights.map fun flight => flight.1.id).Nodup) (id : ℕ) :
    ((flights.filter fun flight => flight.1.id ≠ id).map fun flight => flight.1.id).Nodup :=
  ids.sublist (List.filter_sublist.map _)

omit [DecidableEq κ] in
theorem Booked.load_eq {cache : TTLCache κ ν} {flights : List (Load κ × Phase)} {started : ℕ} (booked : Booked cache flights started)
    {first second : Load κ × Phase} (one : first ∈ flights) (two : second ∈ flights) (same : first.1.id = second.1.id) : first = second :=
  List.inj_on_of_nodup_map booked.ids one two same

theorem set_only_items (cache : TTLCache κ ν) (key : κ) (value : ν) (now : ℚ) :
    ∃ items, cache.set settings key value now = {cache with items} := by
  unfold TTLCache.set
  dsimp only
  split
  · exact ⟨_,rfl⟩
  · exact ⟨_,rfl⟩

theorem get_only_items (cache : TTLCache κ ν) (key : κ) (now : ℚ) : ∃ items, (cache.get settings key now).2 = {cache with items} := by
  unfold TTLCache.get
  split
  · exact ⟨_,rfl⟩
  · split
    · exact ⟨_,rfl⟩
    · exact ⟨_,rfl⟩

omit [DecidableEq κ] in
theorem Booked.items {cache : TTLCache κ ν} {flights : List (Load κ × Phase)} {started : ℕ} (booked : Booked cache flights started)
    (items : List (κ × ℚ × ν)) : Booked {cache with items} flights started :=
  ⟨booked.ids,booked.begun,booked.counted,booked.used,booked.owned,booked.paired,booked.behind,booked.generations,booked.waiting⟩

omit [DecidableEq κ] in
theorem Told.items (told : Told world) (items : List (κ × ℚ × ν)) : Told {world with cache := {world.cache with items}} :=
  told.narrow ⟨fun flight member => ⟨flight.2,member⟩,fun _ => .inl ⟨rfl,rfl⟩,le_rfl⟩ (told.booked.items items)

theorem Told.get (told : Told world) (key : κ) (now : ℚ) : Told (world.get settings key now) := by
  obtain ⟨items,same⟩ := @get_only_items _ _ settings _ world.cache key now
  unfold World.get
  split
  · rename_i got
    rw [got] at same
    dsimp only at same
    rw [same]
    exact told.items items
  · rename_i value _ got
    rw [got] at same
    dsimp only at same
    rw [same]
    exact (told.items items).noted ⟨key,value,now,.inr rfl⟩

theorem Told.set (told : Told world) (key : κ) (value : ν) (now : ℚ) : Told (world.set settings key value now) := by
  obtain ⟨items,same⟩ := @set_only_items _ _ settings _ world.cache key value now
  unfold World.set
  rw [same]
  exact (told.items items).noted ⟨key,value,now,.inl rfl⟩

theorem Told.invalidate (told : Told world) (key : κ) : Told (world.invalidate key) := by
  have gone : (world.cache.invalidate key).keyVersions key = none := Function.update_self key _ _
  have fewer : Fewer world.cache world.flights (world.cache.invalidate key) world.flights := by
    refine ⟨fun flight member => ⟨flight.2,member⟩,fun other => ?_,le_rfl⟩
    by_cases here : other = key
    · subst here
      exact .inr ⟨gone,Function.update_self other _ _⟩
    · exact .inl ⟨Function.update_of_ne here _ _,Function.update_of_ne here _ _⟩
  refine (told.narrow fewer (told.booked.narrow fewer told.booked.ids told.booked.counted (fun other version known => ?_)
    fun loop other id waits => ?_)).invalidated gone
  · by_cases here : other = key
    · subst here
      exact nomatch gone.symm.trans known
    · exact told.booked.used other version ((Function.update_of_ne here _ _).symm.trans known)
  · by_cases here : other = key
    · subst here
      exact nomatch (Function.update_self other _ _).symm.trans waits
    · exact told.booked.waiting loop other id ((Function.update_of_ne here _ _).symm.trans waits)

omit [DecidableEq κ] in
theorem Told.clear (told : Told world) : Told world.clear := by
  have fewer : Fewer world.cache world.flights world.cache.clear world.flights :=
    ⟨fun flight member => ⟨flight.2,member⟩,fun _ => .inr ⟨rfl,rfl⟩,Nat.le_succ _⟩
  exact (told.narrow fewer (told.booked.narrow fewer told.booked.ids told.booked.counted nofun nofun)).cleared
    fun flight member => Nat.lt_succ_of_le (told.booked.generations flight member)

theorem Told.load {stripe : κ → ℕ} (told : Told world) (key : κ) : Told (world.load stripe key) := by
  unfold World.load
  split
  · exact told
  · exact told.begin_ key none

theorem Told.loadAsync (told : Told world) (loop : ℕ) (key : κ) : Told (world.loadAsync loop key) := by
  unfold World.loadAsync
  split
  · exact told
  · have begun := told.begin_ key (some loop)
    have inside : ((world.begin_ key (some loop)).1,Phase.loading) ∈ (world.begin_ key (some loop)).2.flights :=
      List.mem_append_right _ List.mem_cons_self
    exact begun.narrow ⟨fun flight member => ⟨flight.2,member⟩,fun _ => .inl ⟨rfl,rfl⟩,le_rfl⟩ (begun.booked.await inside rfl)

omit [DecidableEq κ] in
theorem Told.advance (told : Told world) {load : Load κ} {phase after : Phase} (member : (load,phase) ∈ world.flights)
    (going : phase ≠ .ended) (still : after ≠ .ended) : Told {world with flights := world.advance load.id after} := by
  have fewer : Fewer world.cache world.flights world.cache (shift world.flights load.id after) :=
    ⟨fun _ => mem_shift,fun _ => .inl ⟨rfl,rfl⟩,le_rfl⟩
  refine told.narrow fewer (told.booked.narrow fewer ?_ (fun version => ?_) told.booked.used fun loop key id waits => ?_)
  · show ((shift world.flights load.id after).map _).Nodup
    rw [ids_shift]
    exact told.booked.ids
  · have same := @users_shift _ _ told.booked.ids _ _ after member version
    rw [users_one,users_one] at same
    simp only [going,still,ne_eq,not_false_eq_true,true_and,Nat.add_right_cancel_iff] at same
    exact (told.booked.counted version).trans same.symm
  · obtain ⟨flight,inside,its⟩ := told.booked.waiting loop key id waits
    obtain ⟨phase',there⟩ := @shift_mem _ _ load.id after _ inside
    exact ⟨_,there,its⟩

theorem Told.store (told : Told world) (id : ℕ) (value : ν) (now : ℚ) : Told (world.store settings id value now) := by
  unfold World.store TTLCache.storeLoaded
  split
  · exact told
  · rename_i load found
    obtain ⟨rfl,phase,going,member⟩ := flight_some found
    have going : phase ≠ .ended := by
      rw [List.mem_singleton.mp going]
      exact nofun
    have advanced := @Told.advance _ _ _ told _ _ .loaded member going nofun
    by_cases current : world.cache.current load
    · rw [if_pos current,if_pos current]
      obtain ⟨after,inside⟩ := @shift_mem _ _ load.id .loaded _ member
      obtain ⟨items,same⟩ := @set_only_items _ _ settings _ world.cache load.key value now
      rw [same]
      have noted := (advanced.items items).noted ⟨load.key,value,now,.inl rfl⟩
      exact @Told.populated _ _ _ _ noted _ inside current
    · rw [if_neg current,if_neg current]
      exact advanced

theorem Told.finish (told : Told world) (id : ℕ) : Told (world.finish id) := by
  unfold World.finish
  split
  · exact told
  · rename_i load found
    obtain ⟨rfl,phase,going,member⟩ := flight_some found
    have going : phase ≠ .ended := by
      rintro rfl
      simp at going
    by_cases sync : load.loop = none
    · rw [if_pos sync]
      have kept : ∀ flight ∈ world.flights.filter (fun flight => flight.1.id ≠ load.id), ∃ phase, (flight.1,phase) ∈ world.flights :=
        fun flight inside => ⟨flight.2,List.mem_of_mem_filter inside⟩
      refine told.narrow (.endLoad _ kept) (told.booked.endLoad member (filter_ids told.booked.ids _) kept (fun version => ?_)
        fun flight inside async => ?_)
      · rw [users_filter told.booked.ids member version,users_one]
        simp only [going,ne_eq,not_false_eq_true,true_and]
      · refine ⟨flight.2,List.mem_filter.mpr ⟨inside,?_⟩⟩
        have apart : flight.1.id ≠ load.id := by
          intro same
          rw [told.booked.load_eq inside member same] at async
          exact async sync
        simpa using apart
    · rw [if_neg sync]
      refine told.narrow (.endLoad _ fun _ => mem_shift) (told.booked.endLoad member ?_ (fun _ => mem_shift) (fun version => ?_)
        fun flight inside _ => shift_mem inside)
      · show ((shift world.flights load.id .ended).map _).Nodup
        rw [ids_shift]
        exact told.booked.ids
      · have same := @users_shift _ _ told.booked.ids _ _ .ended member version
        rw [users_one,users_one] at same
        simp only [going,ne_eq,not_false_eq_true,not_true,false_and,true_and,if_false,Nat.add_zero] at same
        exact same.symm

theorem Told.settle (told : Told world) (id : ℕ) : Told (world.settle id) := by
  unfold World.settle
  split
  · exact told
  · rename_i load found
    obtain ⟨rfl,phase,ended,member⟩ := flight_some found
    cases List.mem_singleton.mp ended
    have kept : ∀ flight ∈ world.flights.filter (fun flight => flight.1.id ≠ load.id), ∃ phase, (flight.1,phase) ∈ world.flights :=
      fun flight inside => ⟨flight.2,List.mem_of_mem_filter inside⟩
    have same (version : ℕ) : users world.flights version = users (world.flights.filter fun flight => flight.1.id ≠ load.id) version := by
      rw [users_filter told.booked.ids member version,users_one]
      rfl
    -- Nobody waits for the task any more, so whoever waits does so for another.
    have others : ∀ pending : ℕ → κ → Option ℕ, (∀ loop key id, pending loop key = some id → world.cache.pending loop key = some id) →
        (∀ loop, load.loop = some loop → pending loop load.key ≠ some load.id) →
        Told {world with
          cache := {world.cache with pending}
          flights := world.flights.filter fun flight => flight.1.id ≠ load.id} := by
      intro pending waits gone
      have fewer : Fewer world.cache world.flights {world.cache with pending} (world.flights.filter fun flight => flight.1.id ≠ load.id) :=
        ⟨kept,fun _ => .inl ⟨rfl,rfl⟩,le_rfl⟩
      refine told.narrow fewer (told.booked.narrow fewer (filter_ids told.booked.ids _) (fun version => ?_) told.booked.used
        fun loop key id known => ?_)
      · rw [← same]
        exact told.booked.counted version
      · obtain ⟨flight,inside,its,of_,where_⟩ := told.booked.waiting loop key id (waits loop key id known)
        refine ⟨flight,List.mem_filter.mpr ⟨inside,?_⟩,its,of_,where_⟩
        have apart : flight.1.id ≠ load.id := by
          intro here
          cases told.booked.load_eq inside member here
          exact gone loop where_ (of_ ▸ its ▸ known)
        simpa using apart
    cases async : load.loop with
    | none =>
      exact others world.cache.pending (fun _ _ _ => id) fun loop there => nomatch async.symm.trans there
    | some loop =>
      dsimp only
      unfold TTLCache.settle
      by_cases mine : world.cache.pending loop load.key = some load.id
      · rw [if_pos mine]
        refine others _ (fun other key id known => ?_) fun other there => ?_
        · by_cases here : other = loop
          · subst here
            rw [Function.update_self] at known
            by_cases same_ : key = load.key
            · subst same_
              exact nomatch (Function.update_self load.key _ _).symm.trans known
            · exact (Function.update_of_ne same_ _ _).symm.trans known
          · exact (congrFun (Function.update_of_ne here _ _) key).symm.trans known
        · cases async.symm.trans there
          rw [Function.update_self,Function.update_self]
          exact nofun
      · rw [if_neg mine]
        refine others world.cache.pending (fun _ _ _ => id) fun other there => ?_
        cases async.symm.trans there
        exact mine

omit [DecidableEq κ] in
theorem Told.drop (told : Told world) (loop : ℕ) : Told (world.drop loop) := by
  refine told.narrow ⟨fun flight member => ⟨flight.2,member⟩,fun _ => .inl ⟨rfl,rfl⟩,le_rfl⟩ (told.booked.forget fun other key id known => ?_)
  by_cases here : other = loop
  · subst here
    exact nomatch (congrFun (Function.update_self other _ _) key).symm.trans known
  · exact (congrFun (Function.update_of_ne here _ _) key).symm.trans known

theorem Told.apply {stripe : κ → ℕ} (told : Told world) (op : Op κ ν) : Told (world.apply settings stripe op) := by
  cases op with
  | get key now => exact told.get key now
  | set key value now => exact told.set key value now
  | invalidate key => exact told.invalidate key
  | clear => exact told.clear
  | load key => exact told.load key
  | loadAsync loop key => exact told.loadAsync loop key
  | store id value now => exact told.store id value now
  | finish id => exact told.finish id
  | settle id => exact told.settle id
  | drop loop => exact told.drop loop

/-- What holds of a cache and of everything that happened to it; the log has the newest event first. -/
structure Contract (settings : Settings) (world : World κ ν) : Prop where
  invalidated : ∀ load, ¬[.populated load,.invalidated load.key,.began load] <+ world.log
  cleared : ∀ load, ¬[.populated load,.cleared,.began load] <+ world.log
  newest : ∀ earlier later, earlier.key = later.key → ¬[.populated earlier,.populated later,.began later,.began earlier] <+ world.log
  young : ∀ key value now rest, .got key value now :: rest <:+ world.log →
    ∃ createdAt, .stored key value createdAt ∈ rest ∧ now - createdAt < settings.ttlSeconds
  bounded : ∀ most, settings.maxEntries = some most → world.cache.items.length ≤ most
  idle : world.flights = [] → ∀ key, world.cache.keyVersions key = none ∧ world.cache.loadSeq key = none ∧
    ∀ loop, world.cache.pending loop key = none

omit [DecidableEq κ] in
theorem timed_new (settings : Settings) : Timed settings ({} : World κ ν) where
  bounded _ _ := Nat.zero_le _
  stored _ _ _ := nofun
  young _ _ _ _ suffix := nomatch List.eq_nil_of_suffix_nil suffix

omit [DecidableEq κ] in
theorem told_new : Told ({} : World κ ν) where
  booked := ⟨List.nodup_nil,nofun,fun _ => rfl,nofun,nofun,fun _ _ => rfl,nofun,nofun,nofun⟩
  begun _ := nofun
  stale := nofun
  older := nofun
  behind := nofun
  neverInvalidated _ := nofun
  neverCleared _ := nofun
  neverOvertaken _ _ _ := nofun

theorem cache_contract (settings : Settings) (stripe : κ → ℕ) (ops : List (Op κ ν)) : Contract settings (World.run settings stripe ops) := by
  have timed : Timed settings (World.run settings stripe ops) :=
    Runs.exec_invariant (fun _ op timed => timed.apply op) (timed_new settings) ops
  have told : Told (World.run settings stripe ops) := Runs.exec_invariant (fun _ op told => told.apply op) told_new ops
  refine ⟨told.neverInvalidated,told.neverCleared,fun earlier later same cut => ?_,timed.young,timed.bounded,fun idle key => ?_⟩
  · exact told.neverOvertaken earlier later same.symm (((List.sublist_cons_self _ _).cons_cons _).trans cut)
  · have unknown : (World.run settings stripe ops).cache.keyVersions key = none := by
      refine Option.eq_none_iff_forall_ne_some.mpr fun version known => ?_
      have used := told.booked.used key version known
      rw [told.booked.counted,idle] at used
      exact lt_irrefl _ used
    refine ⟨unknown,told.booked.paired key unknown,fun loop => Option.eq_none_iff_forall_ne_some.mpr fun id waits => ?_⟩
    obtain ⟨flight,member,_⟩ := told.booked.waiting loop key id waits
    rw [idle] at member
    exact List.not_mem_nil member

end GmsRemoteTest.TtlCache
