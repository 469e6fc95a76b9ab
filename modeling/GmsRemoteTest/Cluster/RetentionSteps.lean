import GmsRemoteTest.Cluster.RetentionShapes

/-! The steps of an operation keep every artifact in a shape, whoever else is at work. -/
namespace GmsRemoteTest.ArtifactRetention

def Event.Unpinned : Event → Prop
  | .journaled _ _ pinned => pinned = false
  | .applied _ _ pinned => pinned = false
  | .died _ => True

section
variable {codec : Codec} (start : Start codec) (shapes : ℕ → Shape) (world : World)

def Prepared (operation : ℕ) (flight : Flight) (checksum : String) : Prop :=
  flight.selection.operation = .archive → ∃ original, start.files (.log flight.selection.id) = some original ∧
    world.files (.temp operation) = some (codec.gzip operation original) ∧ checksum = codec.sha256 (codec.gzip operation original)

def PhaseOk (operation : ℕ) (flight : Flight) : Prop := match flight.phase with
  | .checked => world.journal operation = none
  | .prepared checksum => world.journal operation = none ∧ Prepared start world operation flight checksum
  | .journaled checksum => ¬(shapes flight.selection.id).Mentions operation ∧ Prepared start world operation flight checksum ∧
    Pending world.journal operation flight.selection.id flight.selection.operation flight.item.path
  | .renamed checksum => world.lock = some operation ∧ world.pins flight.selection.id = false ∧ match flight.selection.operation with
    | .archive => shapes flight.selection.id = .copied operation ∧
      ∀ original, start.files (.log flight.selection.id) = some original → checksum = codec.sha256 (codec.gzip operation original)
    | .delete => shapes flight.selection.id = .moved operation flight.item.path
  | .committed => match flight.selection.operation with
    | .archive => (shapes flight.selection.id).Past flight.selection.id operation
    | .delete => Belongs world.journal flight.selection.id (.trash operation) ∧
      (shapes flight.selection.id = .dropped operation ∨ shapes flight.selection.id = .gone)
  | .unlinked => ∀ kind, (shapes flight.selection.id).owner ≠ some (operation,kind)
  | .failed => True

structure FlightOk (operation : ℕ) (flight : Flight) : Prop where
  archive : flight.selection.operation = .archive → flight.item.path = .log flight.selection.id ∧ flight.item.filename ∈ logNames
  delete : flight.selection.operation = .delete → ∀ row, world.rows flight.selection.id = some row →
    row.path = flight.item.path ∧ row.filename ∉ logNames
  entry : ∀ entry, world.journal operation = some entry → entry.artifact = flight.selection.id
  phase : PhaseOk start shapes world operation flight

structure Inv : Prop where
  holds : ∀ id, ∃ bytes, Holds start world.journal world.files (world.rows id) id (shapes id) bytes
  entries : ∀ operation entry, world.journal operation = some entry →
    entry.new = entry.operation.target operation ∧ (entry.operation = .archive → entry.old = .log entry.artifact)
  flights : ∀ operation flight, world.flights operation = some flight → FlightOk start shapes world operation flight
  fresh : ∀ operation, world.journal operation = none → ∀ kind : Operation, world.files (kind.target operation) = none
  later : ∀ operation, world.started ≤ operation → world.flights operation = none ∧ world.journal operation = none
  locked : ∀ operation, world.lock = some operation → ∃ flight checksum, world.flights operation = some flight ∧ flight.phase = .renamed checksum
  log : ∀ event ∈ world.log, event.Unpinned
  temps : ∀ operation, world.files (.temp operation) ≠ none → (∃ flight, world.flights operation = some flight) ∨ .died operation ∈ world.log

end

section
variable {codec : Codec} {start : Start codec} {shapes shapes' : ℕ → Shape} {world world' : World} {operation : ℕ} {flight : Flight}

/-- A row keeps its path and its name unless it is the row of a log. -/
def Named (before after : Option Artifact) : Prop :=
  ∀ row', after = some row' → ∃ row, before = some row ∧ (row.filename ∉ logNames → row'.path = row.path ∧ row'.filename = row.filename)

theorem Named.refl (row : Option Artifact) : Named row row := fun row' found => ⟨row',found,fun _ => ⟨rfl,rfl⟩⟩

theorem FlightOk.keep (ok : FlightOk start shapes world operation flight)
    (rows : Named (world.rows flight.selection.id) (world'.rows flight.selection.id))
    (temp : world'.files (.temp operation) = world.files (.temp operation))
    (entries : ∀ entry', world'.journal operation = some entry' → ∃ entry, world.journal operation = some entry ∧ entry'.artifact = entry.artifact)
    (belongs : Belongs world.journal flight.selection.id (.trash operation) → Belongs world'.journal flight.selection.id (.trash operation))
    (pending : ∀ checksum, flight.phase = .journaled checksum → world'.journal operation = world.journal operation)
    (lock : world.lock = some operation → world'.lock = some operation ∧ world'.pins = world.pins)
    (shape : shapes' flight.selection.id = shapes flight.selection.id ∨
      ∃ other, Shape.Next flight.selection.id other (shapes flight.selection.id) (shapes' flight.selection.id) ∧
        (other = operation → world.lock = none ∧ ∃ kind, (shapes flight.selection.id).owner = some (operation,kind))) :
    FlightOk start shapes' world' operation flight := by
  have prepared : ∀ checksum, Prepared start world operation flight checksum → Prepared start world' operation flight checksum := by
    intro checksum prepared archive
    rw [temp]
    exact prepared archive
  have unwritten : world.journal operation = none → world'.journal operation = none := by
    intro none_
    cases found : world'.journal operation with
    | none => rfl
    | some entry' =>
      obtain ⟨entry,before,-⟩ := entries entry' found
      cases none_.symm.trans before
  refine ⟨ok.archive,fun delete row' found => ?_,fun entry' found => ?_,?_⟩
  · obtain ⟨row,found,same⟩ := rows row' found
    obtain ⟨path,name⟩ := ok.delete delete row found
    obtain ⟨path',name'⟩ := same name
    exact ⟨path'.trans path,by rw [name']; exact name⟩
  · obtain ⟨entry,before,same⟩ := entries entry' found
    exact same.trans (ok.entry entry before)
  · have phase := ok.phase
    unfold PhaseOk at phase ⊢
    cases at_ : flight.phase with
    | checked => simpa only [at_] using unwritten (by simpa only [at_] using phase)
    | prepared checksum =>
      simp only [at_] at phase ⊢
      exact ⟨unwritten phase.1,prepared checksum phase.2⟩
    | journaled checksum =>
      simp only [at_] at phase ⊢
      refine ⟨fun mentions => ?_,prepared checksum phase.2.1,by unfold Pending; rw [pending checksum at_]; exact phase.2.2⟩
      obtain same | ⟨other,next,mine⟩ := shape
      · rw [same] at mentions
        exact phase.1 mentions
      · obtain before | rfl := next.mentions mentions
        · exact phase.1 before
        · obtain ⟨-,kind,owner⟩ := mine rfl
          exact phase.1 (Shape.mentions_owner owner)
    | renamed checksum =>
      simp only [at_] at phase ⊢
      obtain ⟨held,free,its⟩ := phase
      obtain ⟨held',pins⟩ := lock held
      refine ⟨held',by rw [pins]; exact free,?_⟩
      obtain same | ⟨other,next,mine⟩ := shape
      · rw [same]
        exact its
      · have owner : ∃ kind, (shapes flight.selection.id).owner = some (operation,kind) := by
          cases kind : flight.selection.operation <;> simp only [kind] at its
          · exact ⟨.archive,by rw [its.1]; rfl⟩
          · exact ⟨.delete,by rw [its]; rfl⟩
        obtain ⟨kind,owner⟩ := owner
        obtain ⟨unlocked,-⟩ := mine (next.owner_eq owner).symm
        rw [held] at unlocked
        cases unlocked
    | committed =>
      simp only [at_] at phase ⊢
      cases kind : flight.selection.operation <;> simp only [kind] at phase ⊢
      · obtain same | ⟨other,next,mine⟩ := shape
        · rw [same]
          exact phase
        · exact next.past phase fun same => (mine same).2
      · refine ⟨belongs phase.1,?_⟩
        obtain same | ⟨other,next,-⟩ := shape
        · rw [same]
          exact phase.2
        · exact next.ended phase.2
    | unlinked =>
      simp only [at_] at phase ⊢
      obtain same | ⟨other,next,mine⟩ := shape
      · rw [same]
        exact phase
      · intro kind owner
        cases next.becomes_owner owner
        obtain ⟨-,kind',owner'⟩ := mine rfl
        exact phase kind' owner'
    | failed => trivial

structure Turn (start : Start codec) (shapes : ℕ → Shape) (world : World) (operation id : ℕ) (second : Shape) (world' : World) : Prop where
  next : second = shapes id ∨ Shape.Next id operation (shapes id) second
  holds : ∃ bytes, Holds start world.journal world'.files (world'.rows id) id second bytes
  rows : ∀ other, other ≠ id → world'.rows other = world.rows other
  names : Named (world.rows id) (world'.rows id)
  files : ∀ path, ¬Belongs world.journal id path → path ≠ .temp operation → world'.files path = world.files path
  journal : world'.journal = world.journal
  started : world'.started = world.started
  pins : world'.pins = world.pins
  past : world.log ⊆ world'.log
  log : ∀ event ∈ world'.log, event.Unpinned

variable {id : ℕ} {second : Shape}

theorem Turn.names' (turn : Turn start shapes world operation id second world') (artifact : ℕ) :
    Named (world.rows artifact) (world'.rows artifact) := by
  by_cases here : artifact = id
  · subst here
    exact turn.names
  · rw [turn.rows artifact here]
    exact .refl _

theorem not_belongs_temp {journal : ℕ → Option Entry} {id n : ℕ} : ¬Belongs journal id (.temp n) := fun belongs => belongs.ne_temp n rfl

theorem Turn.others (turn : Turn start shapes world operation id second world') {other : ℕ} (apart : other ≠ operation)
    (ok : FlightOk start shapes world other flight) (lock : world.lock = some other → world'.lock = some other) :
    FlightOk start (Function.update shapes id second) world' other flight := by
  refine ok.keep (turn.names' _) (turn.files _ not_belongs_temp (by simpa using apart))
    (fun entry' found => ⟨entry',by rw [←turn.journal]; exact found,rfl⟩) (fun mine => by rw [turn.journal]; exact mine) (fun _ _ => by rw [turn.journal]) (fun held => ⟨lock held,turn.pins⟩) ?_
  by_cases here : flight.selection.id = id
  · rw [here,Function.update_self]
    exact turn.next.imp_right fun next => ⟨operation,next,fun same => absurd same.symm apart⟩
  · exact .inl (Function.update_of_ne here _ _)

theorem Turn.inv (turn : Turn start shapes world operation id second world') (inv : Inv start shapes world)
    (flights : ∀ other, other ≠ operation → world'.flights other = world.flights other) (alive : world.flights operation = none →
      world'.flights operation = none)
    (own : ∀ flight, world'.flights operation = some flight → FlightOk start (Function.update shapes id second) world' operation flight)
    (lock : ∀ other, other ≠ operation → (world'.lock = some other ↔ world.lock = some other))
    (locked : world'.lock = some operation → ∃ flight checksum, world'.flights operation = some flight ∧ flight.phase = .renamed checksum)
    (temp : world'.files (.temp operation) ≠ none → (∃ flight, world'.flights operation = some flight) ∨ .died operation ∈ world'.log) :
    Inv start (Function.update shapes id second) world' where
  holds other := by
    rw [turn.journal]
    by_cases here : other = id
    · subst here
      rw [Function.update_self]
      exact turn.holds
    · obtain ⟨bytes,holds⟩ := inv.holds other
      rw [Function.update_of_ne here,turn.rows other here]
      exact ⟨bytes,holds.frame fun path belongs => turn.files path (fun mine => here (belongs.unique mine)) (belongs.ne_temp _)⟩
  entries := by rw [turn.journal]; exact inv.entries
  flights other flight found := by
    by_cases here : other = operation
    · subst here
      exact own flight found
    · rw [flights other here] at found
      exact turn.others here (inv.flights other flight found) (lock other here).mpr
  fresh other unwritten kind := by
    rw [turn.journal] at unwritten
    rw [turn.files _ ?_ (target_ne_temp _ _ _)]
    · exact inv.fresh other unwritten kind
    · rintro (log | ⟨_,entry,found,-,same⟩)
      · exact target_ne_log _ _ _ log
      · obtain ⟨-,rfl⟩ := target_inj same
        rw [unwritten] at found
        cases found
  later other late := by
    rw [turn.started] at late
    rw [turn.journal]
    obtain ⟨grounded,unwritten⟩ := inv.later other late
    refine ⟨?_,unwritten⟩
    by_cases here : other = operation
    · subst here
      exact alive grounded
    · rw [flights other here]
      exact grounded
  locked other held := by
    by_cases here : other = operation
    · subst here
      exact locked held
    · rw [flights other here]
      exact inv.locked other ((lock other here).mp held)
  log := turn.log
  temps other there := by
    by_cases here : other = operation
    · subst here
      exact temp there
    · rw [turn.files _ not_belongs_temp (by simpa using here)] at there
      rw [flights other here]
      exact (inv.temps other there).imp_right fun died => turn.past died

theorem Turn.goto (turn : Turn start shapes world operation flight.selection.id second world') (inv : Inv start shapes world)
    (found : world.flights operation = some flight) (phase : Phase)
    (flights : world'.flights = Function.update world.flights operation (some {flight with phase := phase}))
    (ok : PhaseOk start (Function.update shapes flight.selection.id second) world' operation {flight with phase := phase})
    (lock : ∀ other, other ≠ operation → (world'.lock = some other ↔ world.lock = some other))
    (locked : world'.lock = some operation → ∃ checksum, phase = .renamed checksum) :
    Inv start (Function.update shapes flight.selection.id second) world' := by
  have before := inv.flights operation flight found
  refine turn.inv inv (fun other apart => by rw [flights,Function.update_of_ne apart]) (fun grounded => ?_) (fun _ same => ?_) lock (fun held => ?_)
    fun _ => .inl ⟨_,by rw [flights,Function.update_self]⟩
  · rw [found] at grounded
    cases grounded
  · rw [flights,Function.update_self] at same
    cases same
    refine ⟨before.archive,fun delete row' found' => ?_,by rw [turn.journal]; exact before.entry,ok⟩
    obtain ⟨row,there,same⟩ := turn.names row' found'
    obtain ⟨path,name⟩ := before.delete delete row there
    obtain ⟨path',name'⟩ := same name
    exact ⟨path'.trans path,by rw [name']; exact name⟩
  · obtain ⟨checksum,same⟩ := locked held
    exact ⟨_,checksum,by rw [flights,Function.update_self],same⟩

theorem Inv.stay (inv : Inv start shapes world) (operation id : ℕ) (files : ∀ path, path ≠ .temp operation → world'.files path = world.files path)
    (rows : world'.rows = world.rows) (journal : world'.journal = world.journal) (started : world'.started = world.started)
    (pins : world'.pins = world.pins) (past : world.log ⊆ world'.log) (log : ∀ event ∈ world'.log, event.Unpinned) :
    Turn start shapes world operation id (shapes id) world' where
  next := .inl rfl
  holds := by
    obtain ⟨bytes,holds⟩ := inv.holds id
    rw [rows]
    exact ⟨bytes,holds.frame fun path belongs => files path (belongs.ne_temp _)⟩
  rows _ _ := by rw [rows]
  names := by rw [rows]; exact .refl _
  files path _ := files path
  journal := journal
  started := started
  pins := pins
  past := past
  log := log

section
variable (world : World) (operation : ℕ)

theorem unlock_lock : (world.unlock operation).lock = if world.lock = some operation then none else world.lock := by
  unfold World.unlock
  split_ifs <;> rfl

@[simp] theorem unlock_files : (world.unlock operation).files = world.files := by unfold World.unlock; split_ifs <;> rfl

@[simp] theorem unlock_rows : (world.unlock operation).rows = world.rows := by unfold World.unlock; split_ifs <;> rfl

@[simp] theorem unlock_journal : (world.unlock operation).journal = world.journal := by unfold World.unlock; split_ifs <;> rfl

@[simp] theorem unlock_flights : (world.unlock operation).flights = world.flights := by unfold World.unlock; split_ifs <;> rfl

@[simp] theorem unlock_started : (world.unlock operation).started = world.started := by unfold World.unlock; split_ifs <;> rfl

@[simp] theorem unlock_pins : (world.unlock operation).pins = world.pins := by unfold World.unlock; split_ifs <;> rfl

@[simp] theorem unlock_log : (world.unlock operation).log = world.log := by unfold World.unlock; split_ifs <;> rfl

theorem unlock_held {other : ℕ} (apart : other ≠ operation) : (world.unlock operation).lock = some other ↔ world.lock = some other := by
  rw [unlock_lock]
  split_ifs with held
  · simp [held,Ne.symm apart]
  · rfl

theorem unlock_free : (world.unlock operation).lock ≠ some operation := by
  rw [unlock_lock]
  split_ifs with held
  · exact nofun
  · exact held

end

theorem Inv.fail (inv : Inv start shapes world) (found : world.flights operation = some flight) : Inv start shapes (world.fail operation flight) := by
  have turn : Turn start shapes world operation flight.selection.id (shapes flight.selection.id) (world.fail operation flight) := by
    apply inv.stay <;> simp [World.fail,World.goto]
    exact inv.log
  have failed := turn.goto inv found .failed (by simp [World.fail,World.goto]) trivial (fun other apart => unlock_held world operation apart)
    fun held => absurd held (unlock_free world operation)
  rwa [Function.update_eq_self] at failed

theorem check_ok {owner : String} {selection : Selection} {now : ℚ} {item : Artifact} (ok : world.check owner selection now = .ok item) :
    world.rows selection.id = some item ∧
      ArtifactRetention.operation (world.pins selection.id) item (world.policies owner) now = some selection.operation ∧
      world.files item.path ≠ none := by
  unfold World.check at ok
  cases found : world.rows selection.id with
  | none => simp [found] at ok
  | some row =>
    rw [found] at ok
    dsimp only at ok
    split_ifs at ok with owned changed there
    cases ok
    exact ⟨rfl,not_not.mp (not_or.mp changed).1,there⟩

theorem operation_some {pinned : Bool} {item : Artifact} {policy : Policy} {now : ℚ} {kind : Operation}
    (chosen : ArtifactRetention.operation pinned item policy now = some kind) :
    pinned = false ∧ (kind = .archive → item.filename ∈ logNames) ∧ (kind = .delete → item.filename ∉ logNames) := by
  unfold ArtifactRetention.operation at chosen
  split_ifs at chosen with excluded
  have unpinned : pinned = false := by simpa using (not_or.mp excluded).1
  cases created : item.createdAt with
  | none => simp [created] at chosen
  | some time =>
    rw [created] at chosen
    dsimp only at chosen
    split_ifs at chosen with archive delete <;> cases chosen
    · exact ⟨unpinned,fun _ => archive.1,nofun⟩
    · refine ⟨unpinned,nofun,fun _ => ?_⟩
      obtain name | name : item.filename = "stdout.log.gz" ∨ item.filename = "stderr.log.gz" := by simpa [archivedNames] using delete.1
      · rw [name]
        decide
      · rw [name]
        decide

theorem Inv.begin_ (inv : Inv start shapes world) (owner : String) (selection : Selection) (now : ℚ) :
    Inv start shapes (world.begin_ owner selection now) := by
  unfold World.begin_
  cases checked : world.check owner selection now with
  | error _ => exact inv
  | ok item =>
    obtain ⟨found,chosen,-⟩ := check_ok checked
    obtain ⟨-,archive,delete⟩ := operation_some chosen
    obtain ⟨grounded,unwritten⟩ := inv.later _ le_rfl
    refine ⟨inv.holds,inv.entries,fun other flight its => ?_,inv.fresh,fun other late => ?_,fun other held => ?_,inv.log,
      fun other there => ?_⟩
    · by_cases here : other = world.started
      · subst here
        cases (Function.update_self _ _ _).symm.trans its
        refine ⟨fun kind => ⟨?_,archive kind⟩,fun kind row same => ?_,fun entry its => ?_,unwritten⟩
        · obtain ⟨bytes,holds⟩ := inv.holds selection.id
          exact holds.log_of_name found (archive kind)
        · cases found.symm.trans same
          exact ⟨rfl,delete kind⟩
        · cases unwritten.symm.trans its
      · have ok := inv.flights other flight ((Function.update_of_ne here _ _).symm.trans its)
        exact ok.keep (.refl _) rfl (fun entry' its => ⟨entry',its,rfl⟩) id
          (fun _ _ => rfl) (fun held => ⟨held,rfl⟩) (.inl rfl)
    · have before : world.started ≤ other := Nat.le_of_succ_le late
      exact ⟨(Function.update_of_ne (Nat.lt_of_succ_le late).ne' _ _).trans (inv.later other before).1,(inv.later other before).2⟩
    · obtain ⟨flight,checksum,its,phase⟩ := inv.locked other held
      refine ⟨flight,checksum,(Function.update_of_ne ?_ _ _).trans its,phase⟩
      rintro rfl
      rw [grounded] at its
      cases its
    · refine (inv.temps other there).imp_left fun ⟨flight,its⟩ => ⟨flight,(Function.update_of_ne ?_ _ _).trans its⟩
      rintro rfl
      cases grounded.symm.trans its

section
variable (inv : Inv start shapes world) (found : world.flights operation = some flight)
include inv found

theorem Inv.unlocked (busy : ∀ checksum, flight.phase ≠ .renamed checksum) : world.lock ≠ some operation := by
  intro held
  obtain ⟨flight',checksum,found',renamed⟩ := inv.locked operation held
  cases found.symm.trans found'
  exact busy checksum renamed

theorem Inv.prepare (at_ : flight.phase = .checked) :
    Inv start shapes (world.prepare codec operation flight) := by
  have ok := inv.flights operation flight found
  have unwritten : world.journal operation = none := by simpa only [PhaseOk,at_] using ok.phase
  have unlocked : ∀ phase, world.lock = some operation → ∃ checksum, phase = Phase.renamed checksum :=
    fun _ held => absurd held (inv.unlocked found (by simp [at_]))
  unfold World.prepare
  cases there : world.files flight.item.path with
  | none => exact inv.fail found
  | some content =>
    dsimp only
    split_ifs with differs
    · exact inv.fail found
    · cases kind : flight.selection.operation with
      | archive =>
        obtain ⟨bytes,holds⟩ := inv.holds flight.selection.id
        have original := holds.original (by rw [←(ok.archive kind).1]; exact there)
        have turn := @Inv.stay codec start shapes world
          ({world with files := Function.update world.files (.temp operation) (some (codec.gzip operation content))}.goto operation flight
            (.prepared (codec.sha256 (codec.gzip operation content)))) inv operation flight.selection.id
          (fun path apart => Function.update_of_ne apart _ _) rfl rfl rfl rfl (fun _ same => same) inv.log
        have prepared := turn.goto inv found _ rfl ⟨unwritten,fun _ => ⟨content,original,Function.update_self _ _ _,rfl⟩⟩
          (fun _ _ => Iff.rfl) (unlocked _)
        rwa [Function.update_eq_self] at prepared
      | delete =>
        have turn := @Inv.stay codec start shapes world (world.goto operation flight (.prepared (codec.sha256 content))) inv operation
          flight.selection.id (fun path apart => rfl) rfl rfl rfl rfl (fun _ same => same) inv.log
        have prepared := turn.goto inv found _ rfl ⟨unwritten,fun archive => absurd archive (by simp [kind])⟩ (fun _ _ => Iff.rfl) (unlocked _)
        rwa [Function.update_eq_self] at prepared

theorem Inv.journalize {checksum : String}
    (at_ : flight.phase = .prepared checksum) (now : ℚ) : Inv start shapes (world.journalize operation flight checksum now) := by
  have ok := inv.flights operation flight found
  obtain ⟨unwritten,prepared⟩ : world.journal operation = none ∧ Prepared start world operation flight checksum := by
    simpa only [PhaseOk,at_] using ok.phase
  unfold World.journalize
  cases checked : world.check flight.owner flight.selection now with
  | error _ => exact inv.fail found
  | ok item =>
    dsimp only
    split_ifs with changed
    · exact inv.fail found
    · obtain ⟨-,chosen,-⟩ := check_ok checked
      obtain ⟨unpinned,-,-⟩ := operation_some chosen
      have other_entry : ∀ other entry, world.journal other = some entry → other ≠ operation := by
        rintro other entry its rfl
        cases unwritten.symm.trans its
      refine ⟨fun id => ?_,fun other entry its => ?_,fun other flight' its => ?_,fun other none_ kind => ?_,fun other late => ?_,fun other held => ?_,
        fun event member => ?_,fun other there => ?_⟩
      · obtain ⟨bytes,holds⟩ := inv.holds id
        refine ⟨bytes,holds.rejournal ?_ fun other entry its => ⟨entry,?_,rfl,rfl,rfl,fun _ => rfl⟩⟩
        · rintro path (log | ⟨other,entry,its,artifact,rfl⟩)
          · exact .inl (.inl log)
          · by_cases here : other = operation
            · subst here
              exact .inr (inv.fresh other unwritten _)
            · exact .inl (.inr ⟨other,entry,(Function.update_of_ne here _ _).symm.trans its,artifact,rfl⟩)
        · exact (Function.update_of_ne (other_entry other entry its) _ _).trans its
      · by_cases here : other = operation
        · subst here
          cases (Function.update_self _ _ _).symm.trans its
          exact ⟨rfl,fun kind => (ok.archive kind).1⟩
        · exact inv.entries other entry ((Function.update_of_ne here _ _).symm.trans its)
      · by_cases here : other = operation
        · subst here
          cases (Function.update_self _ _ _).symm.trans its
          obtain ⟨bytes,holds⟩ := inv.holds flight.selection.id
          refine ⟨ok.archive,ok.delete,fun entry its => ?_,holds.unmentioned unwritten,prepared,_,Function.update_self _ _ _,rfl,rfl,rfl,rfl⟩
          cases (Function.update_self _ _ _).symm.trans its
          rfl
        · refine (inv.flights other flight' ((Function.update_of_ne here _ _).symm.trans its)).keep (.refl _)
            rfl (fun entry' its => ⟨entry',(Function.update_of_ne here _ _).symm.trans its,rfl⟩) ?_
            (fun _ _ => Function.update_of_ne here _ _) (fun held => ⟨held,rfl⟩) (.inl rfl)
          exact .imp_right fun ⟨third,entry,its,rest⟩ =>
            ⟨third,entry,(Function.update_of_ne (other_entry third entry its) _ _).trans its,rest⟩
      · by_cases here : other = operation
        · subst here
          cases (Function.update_self _ _ _).symm.trans none_
        · exact inv.fresh other ((Function.update_of_ne here _ _).symm.trans none_) kind
      · obtain ⟨grounded,none_⟩ := inv.later other late
        have here : other ≠ operation := by
          rintro rfl
          cases grounded.symm.trans found
        exact ⟨(Function.update_of_ne here _ _).trans grounded,(Function.update_of_ne here _ _).trans none_⟩
      · have here : other ≠ operation := by
          rintro rfl
          exact inv.unlocked found (by simp [at_]) held
        obtain ⟨flight',checksum',its,phase⟩ := inv.locked other held
        exact ⟨flight',checksum',(Function.update_of_ne here _ _).trans its,phase⟩
      · obtain rfl | member := List.mem_cons.mp member
        · exact unpinned
        · exact inv.log event member
      · by_cases here : other = operation
        · subst here
          exact .inl ⟨_,Function.update_self _ _ _⟩
        · exact (inv.temps other there).imp (fun ⟨flight,its⟩ => ⟨flight,(Function.update_of_ne here _ _).trans its⟩)
            fun died => List.mem_cons_of_mem _ died

end

/-- No other archive of the artifact has left both the log and the archive. -/
def Tidy (world : World) (operation id : ℕ) : Prop :=
  ∀ other entry, other ≠ operation → world.journal other = some entry → entry.artifact = id → entry.operation = .archive →
    entry.status = .pending → world.files entry.old = none ∨ world.files entry.new = none

theorem Inv.at_rest (inv : Inv start shapes world) {item : Artifact} (tidy : Tidy world operation id) (row : world.rows id = some item)
    (there : world.files item.path ≠ none) (unmentioned : ¬(shapes id).Mentions operation) : shapes id = .kept item.path := by
  obtain ⟨bytes,holds⟩ := inv.holds id
  have both : ∀ other, (shapes id).owner = some (other,.archive) → other ≠ operation →
      world.files (.log id) = none ∨ world.files (.gz other) = none := by
    intro other owner apart
    obtain ⟨entry,found,pending,artifact,kind,-⟩ := holds.owned other .archive owner
    obtain ⟨new,old⟩ := inv.entries other entry found
    have files := tidy other entry apart found artifact kind pending
    rwa [old kind,new,artifact,kind] at files
  have log := holds.content _ (.inl rfl)
  cases at_ : shapes id with
  | kept path =>
    obtain ⟨item',row',same,-⟩ := holds.its path (by rw [at_]; rfl)
    cases row.symm.trans row'
    rw [same]
  | copied other =>
    have gz := holds.content (.gz other) (holds.target .archive (by rw [at_]; rfl))
    have := both other (by rw [at_]; rfl) fun same => unmentioned (by rw [at_]; exact same)
    simp [log,gz,at_,Shape.files] at this
  | switched other =>
    have gz := holds.content (.gz other) (holds.target .archive (by rw [at_]; rfl))
    obtain ⟨item',row',same,good,-⟩ := holds.its _ (by rw [at_]; rfl)
    obtain ⟨-,original,first,-⟩ := good.zipped other same
    have := both other (by rw [at_]; rfl) fun same => unmentioned (by rw [at_]; exact same)
    simp [log,gz,at_,Shape.files,first] at this
  | moved other old =>
    obtain ⟨item',row',same,-⟩ := holds.its old (by rw [at_]; rfl)
    cases row.symm.trans row'
    refine absurd ?_ there
    rw [same,holds.content old (holds.belongs (by rw [at_]; rfl)),at_]
    obtain rfl | ⟨_,_,rfl,-⟩ := holds.known old (by rw [at_]; rfl) <;> simp [Shape.files]
  | dropped other => cases row.symm.trans (holds.rowless (by rw [at_]; rfl))
  | gone => cases row.symm.trans (holds.rowless (by rw [at_]; rfl))

section
variable (inv : Inv start shapes world) (found : world.flights operation = some flight)
include inv found

theorem Inv.rename {checksum : String}
    (at_ : flight.phase = .journaled checksum) (now : ℚ) (free : world.lock = none) (tidy : Tidy world operation flight.selection.id) :
    ∃ shapes', Inv start shapes' (world.rename operation flight checksum now) := by
  have ok := inv.flights operation flight found
  obtain ⟨unmentioned,prepared,pending⟩ : ¬(shapes flight.selection.id).Mentions operation ∧ Prepared start world operation flight checksum ∧
    Pending world.journal operation flight.selection.id flight.selection.operation flight.item.path := by simpa only [PhaseOk,at_] using ok.phase
  have belongs := pending.belongs
  unfold World.rename
  cases checked : world.check flight.owner flight.selection now with
  | error _ => exact ⟨shapes,inv.fail found⟩
  | ok item =>
    dsimp only
    split_ifs with changed
    · exact ⟨shapes,inv.fail found⟩
    · obtain ⟨row,chosen,there⟩ := check_ok checked
      obtain ⟨unpinned,archive,delete⟩ := operation_some chosen
      have at_rest := inv.at_rest tidy row there unmentioned
      obtain ⟨bytes,holds⟩ := inv.holds flight.selection.id
      rw [at_rest] at holds
      have unlocked : ∀ other, other ≠ operation → ((some operation : Option ℕ) = some other ↔ world.lock = some other) := by
        intro other apart
        rw [free]
        exact ⟨fun same => absurd (Option.some.inj same).symm apart,nofun⟩
      cases kind : flight.selection.operation with
      | archive =>
        rw [kind] at pending belongs
        have log := holds.log_of_name row (archive kind)
        rw [(ok.archive kind).1] at pending
        rw [log] at holds at_rest
        obtain ⟨original,first,temp,digest⟩ := prepared kind
        obtain ⟨item',row',path,good,-⟩ := holds.its _ rfl
        cases first.symm.trans (good.first path)
        refine ⟨Function.update shapes flight.selection.id (.copied operation),
          Turn.goto ⟨.inr (by rw [at_rest]; exact .copy),⟨bytes,holds.copy pending temp fun item' its => ?_⟩,fun _ _ => rfl,.refl _,
          fun path away apart => ?_,rfl,rfl,rfl,fun _ same => same,inv.log⟩ inv found _ rfl ?_ unlocked fun _ => ⟨checksum,rfl⟩⟩
        · cases row.symm.trans its
          exact archive kind
        · have other : path ≠ .gz operation := by
            rintro rfl
            exact away belongs
          exact (Function.update_of_ne apart _ _).trans (Function.update_of_ne other _ _)
        · refine ⟨rfl,unpinned,?_⟩
          simp only [kind,Function.update_self]
          refine ⟨trivial,fun original' first' => ?_⟩
          cases first.symm.trans first'
          exact digest
      | delete =>
        rw [kind] at pending belongs
        have path := (ok.delete kind item row).1
        rw [path] at holds at_rest
        refine ⟨Function.update shapes flight.selection.id (.moved operation flight.item.path),
          Turn.goto ⟨.inr (by rw [at_rest]; exact .move _),⟨bytes,holds.move pending⟩,fun _ _ => rfl,.refl _,
          fun mine away _ => ?_,rfl,rfl,rfl,fun _ same => same,inv.log⟩ inv found _ rfl ?_ unlocked fun _ => ⟨checksum,rfl⟩⟩
        · have trash : mine ≠ .trash operation := by
            rintro rfl
            exact away belongs
          have old : mine ≠ flight.item.path := by
            rintro rfl
            exact away (holds.belongs rfl)
          exact (Function.update_of_ne old _ _).trans (Function.update_of_ne trash _ _)
        · refine ⟨rfl,unpinned,?_⟩
          simp only [kind,Function.update_self]

theorem Inv.commit {checksum : String}
    (at_ : flight.phase = .renamed checksum) : ∃ shapes', Inv start shapes' (world.commit operation flight checksum) := by
  have ok := inv.flights operation flight found
  have phase := ok.phase
  simp only [PhaseOk,at_] at phase
  obtain ⟨held,unpinned,shape⟩ := phase
  obtain ⟨bytes,holds⟩ := inv.holds flight.selection.id
  have lock : ∀ other, other ≠ operation → ((none : Option ℕ) = some other ↔ world.lock = some other) := by
    intro other apart
    rw [held]
    exact ⟨nofun,fun same => absurd (Option.some.inj same).symm apart⟩
  have log : ∀ event ∈ Event.applied operation flight.selection.id (world.pins flight.selection.id) :: world.log, event.Unpinned := by
    intro event member
    obtain rfl | member := List.mem_cons.mp member
    · exact unpinned
    · exact inv.log event member
  unfold World.commit
  cases kind : flight.selection.operation with
  | archive =>
    simp only [kind] at shape
    obtain ⟨shape,digest⟩ := shape
    rw [shape] at holds
    obtain ⟨item,row,path,good,name⟩ := holds.its _ rfl
    refine ⟨Function.update shapes flight.selection.id (.switched operation),Turn.goto ⟨.inr (by rw [shape]; exact .switch),
      ⟨codec.gzip operation bytes,?_⟩,fun other apart => Function.update_of_ne apart _ _,fun row' _ => ⟨item,row,fun away => absurd name away⟩,
      fun _ _ _ => rfl,rfl,rfl,rfl,List.subset_cons_self _ _,log⟩ inv found .committed rfl ?_ lock nofun⟩
    · show Holds start world.journal world.files (Function.update world.rows flight.selection.id _ flight.selection.id) _ _ _
      rw [Function.update_self,row]
      exact holds.switch row (ok.archive kind).2 (digest bytes (good.first path))
    · unfold PhaseOk
      simp only [kind,Function.update_self]
      rfl
  | delete =>
    simp only [kind] at shape
    rw [shape] at holds
    refine ⟨Function.update shapes flight.selection.id (.dropped operation),
      Turn.goto ⟨.inr (by rw [shape]; exact .drop _),⟨bytes,?_⟩,fun other apart => Function.update_of_ne apart _ _,
      fun row' none_ => ?_,fun _ _ _ => rfl,rfl,rfl,rfl,List.subset_cons_self _ _,log⟩ inv found .committed rfl ?_ lock nofun⟩
    · show Holds start world.journal world.files (Function.update world.rows flight.selection.id none flight.selection.id) _ _ _
      rw [Function.update_self]
      exact holds.drop
    · cases (Function.update_self _ _ _).symm.trans none_
    · unfold PhaseOk
      simp only [kind,Function.update_self]
      exact ⟨holds.target .delete rfl,.inl trivial⟩

theorem Inv.unlink (at_ : flight.phase = .committed) :
    ∃ shapes', Inv start shapes' (world.unlink operation flight) := by
  have ok := inv.flights operation flight found
  have phase := ok.phase
  simp only [PhaseOk,at_] at phase
  obtain ⟨bytes,holds⟩ := inv.holds flight.selection.id
  have lock : world.lock = some operation → ∃ checksum, Phase.unlinked = .renamed checksum :=
    fun held => absurd held (inv.unlocked found (by simp [at_]))
  unfold World.unlink
  cases kind : flight.selection.operation with
  | archive =>
    simp only [kind] at phase ⊢
    rw [(ok.archive kind).1]
    by_cases shape : shapes flight.selection.id = .switched operation
    · rw [shape] at holds
      refine ⟨Function.update shapes flight.selection.id (.kept (.gz operation)),Turn.goto ⟨.inr (by rw [shape]; exact .clear),⟨bytes,holds.clear⟩,
        fun _ _ => rfl,.refl _,fun path away _ => ?_,rfl,rfl,rfl,fun _ same => same,inv.log⟩ inv found .unlinked rfl ?_ (fun _ _ => Iff.rfl) lock⟩
      · refine Function.update_of_ne ?_ _ _
        rintro rfl
        exact away (.inl rfl)
      · show ∀ kind, (Function.update shapes flight.selection.id (.kept (.gz operation)) flight.selection.id).owner ≠ _
        rw [Function.update_self]
        exact nofun
    · rw [update_none ((holds.content _ (.inl rfl)).trans (Shape.files_past phase shape))]
      have turn := @Inv.stay codec start shapes world (world.goto operation flight .unlinked) inv operation flight.selection.id
        (fun path apart => rfl) rfl rfl rfl rfl (fun _ same => same) inv.log
      refine ⟨_,turn.goto inv found .unlinked rfl ?_ (fun _ _ => Iff.rfl) lock⟩
      rw [Function.update_eq_self]
      exact phase.unowned.resolve_left shape
  | delete =>
    simp only [kind] at phase ⊢
    obtain ⟨belongs,shape | shape⟩ := phase
    · rw [shape] at holds
      refine ⟨Function.update shapes flight.selection.id .gone,Turn.goto ⟨.inr (by rw [shape]; exact .empty),⟨bytes,holds.empty⟩,
        fun _ _ => rfl,.refl _,fun path away _ => ?_,rfl,rfl,rfl,fun _ same => same,inv.log⟩ inv found .unlinked rfl ?_ (fun _ _ => Iff.rfl) lock⟩
      · refine Function.update_of_ne ?_ _ _
        rintro rfl
        exact away belongs
      · show ∀ kind, (Function.update shapes flight.selection.id .gone flight.selection.id).owner ≠ _
        rw [Function.update_self]
        exact nofun
    · rw [update_none ((holds.content _ belongs).trans (by rw [shape]; rfl))]
      have turn := @Inv.stay codec start shapes world (world.goto operation flight .unlinked) inv operation flight.selection.id
        (fun path apart => rfl) rfl rfl rfl rfl (fun _ same => same) inv.log
      refine ⟨_,turn.goto inv found .unlinked rfl ?_ (fun _ _ => Iff.rfl) lock⟩
      rw [Function.update_eq_self]
      show ∀ kind, (shapes flight.selection.id).owner ≠ _
      rw [shape]
      exact nofun

end

theorem Inv.leave (inv : Inv start shapes world)
    (flights : world'.flights = Function.update world.flights operation none)
    (files : ∀ path, path ≠ .temp operation → world'.files path = world.files path) (rows : world'.rows = world.rows)
    (journal : world'.journal = world.journal) (started : world'.started = world.started) (pins : world'.pins = world.pins)
    (past : world.log ⊆ world'.log) (log : ∀ event ∈ world'.log, event.Unpinned) (free : world'.lock ≠ some operation)
    (lock : ∀ other, other ≠ operation → (world'.lock = some other ↔ world.lock = some other))
    (temp : world'.files (.temp operation) = none ∨ .died operation ∈ world'.log) : Inv start shapes world' := by
  have turn := inv.stay operation 0 files rows journal started pins past log
  have left := turn.inv inv (fun other apart => by rw [flights,Function.update_of_ne apart]) (fun _ => by rw [flights,Function.update_self])
    (fun flight found => by rw [flights,Function.update_self] at found; cases found) lock
    (fun held => absurd held free) fun there => .inr (temp.resolve_left there)
  rwa [Function.update_eq_self] at left

theorem Inv.finish (inv : Inv start shapes world) (free : world.lock ≠ some operation) : Inv start shapes (world.finish operation) :=
  inv.leave rfl (fun _ apart => Function.update_of_ne apart _ _) rfl rfl rfl rfl (fun _ same => same) inv.log free (fun _ _ => Iff.rfl)
    (.inl (Function.update_self _ _ _))

end

end GmsRemoteTest.ArtifactRetention
