import GmsRemoteTest.Foundation.TtlCache

/-! The items of the cache, over every run: there are never too many, and none is returned past its time. -/
namespace GmsRemoteTest.TtlCache
variable {κ ν : Type} {settings : Settings} {world : World κ ν}

structure Timed (settings : Settings) (world : World κ ν) : Prop where
  bounded : ∀ most, settings.maxEntries = some most → world.cache.items.length ≤ most
  stored : ∀ key createdAt value, (key,createdAt,value) ∈ world.cache.items → .stored key value createdAt ∈ world.log
  young : ∀ key value now rest, .got key value now :: rest <:+ world.log →
    ∃ createdAt, .stored key value createdAt ∈ rest ∧ now - createdAt < settings.ttlSeconds

theorem mem_trim {items : List (κ × ℚ × ν)} {item : κ × ℚ × ν} (member : item ∈ TTLCache.trim settings items) : item ∈ items := by
  unfold TTLCache.trim at member
  split at member
  · exact member
  · exact List.mem_of_mem_drop member

theorem length_trim {items : List (κ × ℚ × ν)} {most : ℕ} (limit : settings.maxEntries = some most) :
    (TTLCache.trim settings items).length ≤ most := by
  unfold TTLCache.trim
  rw [limit]
  simp only [List.length_drop]
  omega

section
variable [DecidableEq κ]

theorem set_items {cache : TTLCache κ ν} {key : κ} {value : ν} {now : ℚ} {item : κ × ℚ × ν}
    (member : item ∈ (cache.set settings key value now).items) : item ∈ cache.items ∨ item = (key,now,value) := by
  unfold TTLCache.set at member
  dsimp only at member
  split at member
  · exact .inl (List.mem_of_mem_filter member)
  · obtain old | new := List.mem_append.mp (mem_trim member)
    · exact .inl (List.mem_of_mem_filter (List.mem_of_mem_filter old))
    · exact .inr (List.mem_singleton.mp new)

theorem set_length {cache : TTLCache κ ν} {key : κ} {value : ν} {now : ℚ} {most : ℕ} (limit : settings.maxEntries = some most)
    (before : cache.items.length ≤ most) : (cache.set settings key value now).items.length ≤ most := by
  unfold TTLCache.set
  dsimp only
  split
  · exact (List.length_filter_le _ _).trans before
  · exact length_trim limit

end

theorem Timed.silent {log : List (Event κ ν)} {event : Event κ ν} (young : ∀ key value now rest, .got key value now :: rest <:+ log →
      ∃ createdAt, .stored key value createdAt ∈ rest ∧ now - createdAt < settings.ttlSeconds)
    (other : ∀ key value now, event ≠ .got key value now) : ∀ key value now rest, .got key value now :: rest <:+ event :: log →
      ∃ createdAt, .stored key value createdAt ∈ rest ∧ now - createdAt < settings.ttlSeconds := by
  intro key value now rest suffix
  obtain same | suffix := List.suffix_cons_iff.mp suffix
  · exact absurd (List.cons.inj same).1.symm (other key value now)
  · exact young key value now rest suffix

theorem Timed.same {other : World κ ν} (timed : Timed settings world) (items : other.cache.items = world.cache.items)
    (log : other.log = world.log) : Timed settings other := by
  obtain ⟨bounded,stored,young⟩ := timed
  rw [← items,← log] at stored
  rw [← items] at bounded
  rw [← log] at young
  exact ⟨bounded,stored,young⟩

theorem Timed.noted {other : World κ ν} {event : Event κ ν} (timed : Timed settings world) (items : other.cache.items = world.cache.items)
    (log : other.log = event :: world.log) (silent : ∀ key value now, event ≠ .got key value now) : Timed settings other := by
  have young := Timed.silent timed.young silent
  obtain ⟨bounded,stored,_⟩ := timed
  rw [← items] at bounded stored
  rw [← log] at young
  exact ⟨bounded,fun key createdAt value member => by rw [log]; exact List.mem_cons_of_mem _ (stored key createdAt value member),young⟩

section
variable [DecidableEq κ]

theorem Timed.set (timed : Timed settings world) (key : κ) (value : ν) (now : ℚ) : Timed settings (world.set settings key value now) where
  bounded most limit := set_length limit (timed.bounded most limit)
  stored other createdAt value' member := by
    obtain old | new := set_items member
    · exact List.mem_cons_of_mem _ (timed.stored _ _ _ old)
    · cases new
      exact List.mem_cons_self
  young := Timed.silent timed.young fun _ _ _ same => nomatch same

theorem Timed.get (timed : Timed settings world) (key : κ) (now : ℚ) : Timed settings (world.get settings key now) := by
  unfold World.get TTLCache.get
  cases found : world.cache.items.find? (fun item => item.1 = key) with
  | none => exact timed
  | some item =>
    obtain ⟨other,createdAt,value⟩ := item
    have member := List.mem_of_find?_eq_some found
    have same : other = key := by simpa using List.find?_some found
    subst same
    dsimp only
    by_cases young : settings.ttlSeconds ≤ now - createdAt
    · rw [if_pos young]
      exact ⟨fun most limit => (List.length_filter_le _ _).trans (timed.bounded most limit),
        fun _ _ _ kept => timed.stored _ _ _ (List.mem_of_mem_filter kept),timed.young⟩
    · rw [if_neg young]
      refine ⟨fun most limit => ?_,fun other' createdAt' value' kept => List.mem_cons_of_mem _ ?_,fun key' value' now' rest suffix => ?_⟩
      · have removed : (world.cache.items.filter fun item => item.1 ≠ other).length < world.cache.items.length :=
          List.length_filter_lt_length_iff_exists.mpr ⟨_,member,by simp⟩
        rw [List.length_append,List.length_singleton]
        exact (Nat.succ_le_of_lt removed).trans (timed.bounded most limit)
      · obtain old | new := List.mem_append.mp kept
        · exact timed.stored _ _ _ (List.mem_of_mem_filter old)
        · cases List.mem_singleton.mp new
          exact timed.stored _ _ _ member
      · obtain same | suffix := List.suffix_cons_iff.mp suffix
        · cases same
          exact ⟨createdAt,timed.stored _ _ _ member,Rat.not_le.mp young⟩
        · exact timed.young _ _ _ _ suffix

theorem Timed.apply {stripe : κ → ℕ} (timed : Timed settings world) (op : Op κ ν) : Timed settings (world.apply settings stripe op) := by
  cases op with
  | get key now => exact timed.get key now
  | set key value now => exact timed.set key value now
  | invalidate key =>
    exact ⟨fun most limit => (List.length_filter_le _ _).trans (timed.bounded most limit),
      fun _ _ _ kept => List.mem_cons_of_mem _ (timed.stored _ _ _ (List.mem_of_mem_filter kept)),
      Timed.silent timed.young fun _ _ _ same => nomatch same⟩
  | clear =>
    exact ⟨fun _ _ => Nat.zero_le _,fun _ _ _ member => (List.not_mem_nil member).elim,Timed.silent timed.young fun _ _ _ same => nomatch same⟩
  | load key =>
    show Timed settings (world.load stripe key)
    unfold World.load
    split
    · exact timed
    · exact timed.noted rfl rfl fun _ _ _ same => nomatch same
  | loadAsync loop key =>
    show Timed settings (world.loadAsync loop key)
    unfold World.loadAsync
    split
    · exact timed
    · exact timed.noted rfl rfl fun _ _ _ same => nomatch same
  | store id value now =>
    show Timed settings (world.store settings id value now)
    unfold World.store TTLCache.storeLoaded
    split
    · exact timed
    · rename_i load _
      by_cases fits : world.cache.current load
      · rw [if_pos fits,if_pos fits]
        exact (timed.set load.key value now).noted rfl rfl fun _ _ _ same => nomatch same
      · rw [if_neg fits,if_neg fits]
        exact timed.same rfl rfl
  | finish id =>
    show Timed settings (world.finish id)
    unfold World.finish TTLCache.endLoad
    split
    · exact timed
    · refine timed.same ?_ rfl
      dsimp only
      split
      · rfl
      · rfl
  | settle id =>
    show Timed settings (world.settle id)
    unfold World.settle TTLCache.settle
    split
    · exact timed
    · refine timed.same ?_ rfl
      dsimp only
      split
      · rfl
      · split
        · rfl
        · rfl
  | drop loop => exact timed.same rfl rfl

end

end GmsRemoteTest.TtlCache
