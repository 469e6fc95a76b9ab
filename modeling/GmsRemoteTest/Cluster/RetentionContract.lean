import GmsRemoteTest.Cluster.RetentionSteps

/-! Careful runs of the retention keep every artifact in a shape, whatever fails on the way; after a recovery nothing is lost or left over. -/
namespace GmsRemoteTest.ArtifactRetention

section
variable {codec : Codec} {start : Start codec} {shapes : ℕ → Shape} {world : World} {operation id : ℕ} {second : Shape}

theorem mark_found {status : Status} {other : ℕ} {entry' : Entry} (found : (world.mark operation status).journal other = some entry') :
    ∃ entry, world.journal other = some entry ∧ entry' = if other = operation then {entry with status := status} else entry := by
  unfold World.mark at found
  by_cases here : other = operation
  · subst here
    obtain ⟨entry,its,rfl⟩ : ∃ entry, world.journal other = some entry ∧ {entry with status := status} = entry' := by simpa using found
    exact ⟨entry,its,(if_pos rfl).symm⟩
  · exact ⟨entry',(Function.update_of_ne here _ _).symm.trans found,(if_neg here).symm⟩

theorem found_mark (status : Status) {other : ℕ} {entry : Entry} (found : world.journal other = some entry) :
    (world.mark operation status).journal other = some (if other = operation then {entry with status := status} else entry) := by
  unfold World.mark
  by_cases here : other = operation
  · subst here
    simp [found]
  · simp [here,found]

theorem mark_belongs (status : Status) (path : Path) :
    Belongs (world.mark operation status).journal id path ↔ Belongs world.journal id path := by
  refine or_congr_right ⟨?_,?_⟩
  · rintro ⟨other,entry',found,artifact,same⟩
    obtain ⟨entry,its,rfl⟩ := mark_found found
    refine ⟨other,entry,its,?_,?_⟩
    · split_ifs at artifact <;> exact artifact
    · split_ifs at same <;> exact same
  · rintro ⟨other,entry,found,artifact,same⟩
    refine ⟨other,_,found_mark status found,?_,?_⟩
    · split_ifs <;> exact artifact
    · split_ifs <;> exact same

theorem mark_none (status : Status) {other : ℕ} : (world.mark operation status).journal other = none ↔ world.journal other = none := by
  unfold World.mark
  by_cases here : other = operation
  · subst here
    simp
  · simp [here]

section
variable (inv : Inv start shapes world)
include inv

theorem Inv.mark (status : Status) (free : ∀ id kind, (shapes id).owner ≠ some (operation,kind))
    (idle : ∀ flight, world.flights operation = some flight → ∀ checksum, flight.phase ≠ .journaled checksum) :
    Inv start shapes (world.mark operation status) where
  holds id := by
    obtain ⟨bytes,holds⟩ := inv.holds id
    refine ⟨bytes,holds.rejournal (fun path belongs => .inl ((mark_belongs status path).mp belongs)) fun other entry found =>
      ⟨_,found_mark status found,?_⟩⟩
    by_cases here : other = operation
    · subst here
      rw [if_pos rfl]
      exact ⟨rfl,rfl,rfl,fun ⟨kind,owner⟩ => absurd owner (free id kind)⟩
    · rw [if_neg here]
      exact ⟨rfl,rfl,rfl,fun _ => rfl⟩
  entries other entry' found := by
    obtain ⟨entry,its,rfl⟩ := mark_found found
    split_ifs <;> exact inv.entries other entry its
  flights other flight found := by
    refine (inv.flights other flight found).keep (.refl _) rfl (fun entry' its => ?_)
      (mark_belongs status _).mpr (fun checksum phase => ?_) (fun held => ⟨held,rfl⟩) (.inl rfl)
    · obtain ⟨entry,before,rfl⟩ := mark_found its
      exact ⟨entry,before,by split_ifs <;> rfl⟩
    · refine Function.update_of_ne ?_ _ _
      rintro rfl
      exact idle flight found checksum phase
  fresh other none_ := inv.fresh other ((mark_none status).mp none_)
  later other late := ⟨(inv.later other late).1,(mark_none status).mpr (inv.later other late).2⟩
  locked := inv.locked
  log := inv.log
  temps := inv.temps

theorem Inv.owner_eq {entry : Entry} (found : world.journal operation = some entry) {kind : Operation}
    (owner : (shapes id).owner = some (operation,kind)) : entry.artifact = id := by
  obtain ⟨bytes,holds⟩ := inv.holds id
  obtain ⟨entry',found',-,artifact,-⟩ := holds.owned operation kind owner
  cases found.symm.trans found'
  exact artifact

theorem Inv.changed (free : world.lock = none) {entry : Entry} (found : world.journal operation = some entry) :
    ∃ shapes', Inv start shapes' {world with files := world.recovered entry} ∧ ∀ id kind, (shapes' id).owner ≠ some (operation,kind) := by
  obtain ⟨bytes,holds⟩ := inv.holds entry.artifact
  obtain ⟨new,old⟩ := inv.entries operation entry found
  have recovered : Recovered world.files entry.artifact operation (shapes entry.artifact) (world.recovered entry) := by
    cases kind : entry.operation with
    | archive => exact recovered_archive holds found kind (by rw [new,kind]; rfl) (old kind)
    | delete => exact recovered_delete holds found kind (by rw [new,kind]; rfl)
  obtain ⟨second,next,after,done⟩ := recovered.holds holds
  have turn : Turn start shapes world operation entry.artifact second {world with files := world.recovered entry} :=
    ⟨next.imp_right And.left,⟨bytes,after⟩,fun _ _ => rfl,.refl _,fun path away _ => recovered.apart holds away,
      rfl,rfl,rfl,fun _ same => same,inv.log⟩
  have changed := turn.inv inv (fun _ _ => rfl) (fun grounded => grounded) (fun flight its => ?_) (fun _ _ => Iff.rfl)
    (fun held => absurd (free.symm.trans held) nofun) fun there => inv.temps operation (by rw [←recovered.apart holds not_belongs_temp]; exact there)
  · refine ⟨_,changed,fun id kind => ?_⟩
    by_cases here : id = entry.artifact
    · subst here
      rw [Function.update_self]
      exact done kind
    · intro owner
      exact here (changed.owner_eq found owner).symm
  · refine (inv.flights operation flight its).keep (turn.names' _) (recovered.apart holds not_belongs_temp) (fun entry' its => ⟨entry',its,rfl⟩)
      (fun mine => mine) (fun _ _ => rfl) (fun held => ⟨held,rfl⟩) ?_
    by_cases here : flight.selection.id = entry.artifact
    · rw [here,Function.update_self]
      exact next.imp_right fun ⟨next,owned⟩ => ⟨operation,next,fun _ => ⟨free,owned⟩⟩
    · exact .inl (Function.update_of_ne here _ _)

theorem Inv.recoverOne (free : world.lock = none) (lives : Bool)
    (idle : lives = true → ∀ flight, world.flights operation = some flight → ∀ checksum, flight.phase ≠ .journaled checksum) :
    ∃ shapes', Inv start shapes' (world.recoverOne lives operation) := by
  unfold World.recoverOne
  cases found : world.journal operation with
  | none => exact ⟨shapes,inv⟩
  | some entry =>
    dsimp only
    split_ifs with pending living
    · obtain ⟨shapes',changed,done⟩ := inv.changed free found
      exact ⟨shapes',changed.mark .recovered done (idle living)⟩
    · obtain ⟨shapes',changed,-⟩ := inv.changed free found
      exact ⟨shapes',changed⟩
    · exact ⟨shapes,inv⟩

end

theorem recoverOne_flights (lives : Bool) : (world.recoverOne lives operation).flights = world.flights := by
  unfold World.recoverOne
  cases world.journal operation with
  | none => rfl
  | some entry => dsimp only; split_ifs <;> rfl

theorem recoverOne_lock (lives : Bool) : (world.recoverOne lives operation).lock = world.lock := by
  unfold World.recoverOne
  cases world.journal operation with
  | none => rfl
  | some entry => dsimp only; split_ifs <;> rfl

theorem recoverOne_found {lives : Bool} {other : ℕ} {entry' : Entry} (found : (world.recoverOne lives operation).journal other = some entry') :
    ∃ entry, world.journal other = some entry ∧ entry'.artifact = entry.artifact ∧ entry'.createdAt = entry.createdAt ∧
      (entry'.status = .pending → entry' = entry ∧ (lives = true → other ≠ operation)) := by
  unfold World.recoverOne at found
  cases its : world.journal operation with
  | none =>
    rw [its] at found
    refine ⟨entry',found,rfl,rfl,fun _ => ⟨rfl,?_⟩⟩
    rintro - rfl
    cases its.symm.trans found
  | some entry =>
    rw [its] at found
    dsimp only at found
    split_ifs at found with pending living
    · obtain ⟨before,there,rfl⟩ := mark_found found
      by_cases here : other = operation
      · simp only [if_pos here]
        exact ⟨before,there,rfl,rfl,nofun⟩
      · simp only [if_neg here]
        exact ⟨before,there,rfl,rfl,fun _ => ⟨rfl,fun _ => here⟩⟩
    · exact ⟨entry',found,rfl,rfl,fun _ => ⟨rfl,fun living' => absurd living' living⟩⟩
    · refine ⟨entry',found,rfl,rfl,fun still => ⟨rfl,?_⟩⟩
      rintro - rfl
      cases its.symm.trans found
      exact pending still

theorem stale_iff {now : ℚ} : world.Stale now operation ↔ ∃ entry, world.journal operation = some entry ∧ entry.createdAt < now - 300 := by
  unfold World.Stale
  cases world.journal operation <;> simp

theorem recoverOne_stale {now : ℚ} {lives : Bool} {other : ℕ} (stale : (world.recoverOne lives operation).Stale now other) :
    world.Stale now other := by
  obtain ⟨entry',found,old⟩ := stale_iff.mp stale
  obtain ⟨entry,before,-,created,-⟩ := recoverOne_found found
  exact stale_iff.mpr ⟨entry,before,by rwa [←created]⟩

def Patient (world : World) (now : ℚ) (lives : Bool) (ids : List ℕ) : Prop :=
  lives = true → ∀ operation ∈ ids, world.Stale now operation → ∀ flight, world.flights operation = some flight →
    ∀ checksum, flight.phase ≠ .journaled checksum

theorem recover_cons (now : ℚ) (lives : Bool) (ids : List ℕ) : world.recover now lives (operation::ids) =
    World.recover (if world.Stale now operation then world.recoverOne lives operation else world) now lives ids := rfl

theorem Inv.recover (inv : Inv start shapes world) (free : world.lock = none) {now : ℚ} {lives : Bool} {ids : List ℕ}
    (patient : Patient world now lives ids) : ∃ shapes', Inv start shapes' (world.recover now lives ids) := by
  induction ids generalizing world shapes with
  | nil => exact ⟨shapes,inv⟩
  | cons operation ids ih =>
    rw [recover_cons]
    split_ifs with stale
    · obtain ⟨shapes',turned⟩ := inv.recoverOne free lives fun living => patient living operation List.mem_cons_self stale
      refine ih turned (by rw [recoverOne_lock]; exact free) fun living other member stale' => ?_
      rw [recoverOne_flights]
      exact patient living other (List.mem_cons_of_mem _ member) (recoverOne_stale stale')
    · exact ih inv free fun living other member => patient living other (List.mem_cons_of_mem _ member)

theorem recover_found {now : ℚ} {ids : List ℕ} {entry : Entry} (found : (world.recover now true ids).journal operation = some entry)
    (pending : entry.status = .pending) : world.journal operation = some entry ∧ ¬(operation ∈ ids ∧ entry.createdAt < now - 300) := by
  induction ids generalizing world with
  | nil => exact ⟨found,fun taken => by simpa using taken.1⟩
  | cons other ids ih =>
    rw [recover_cons] at found
    obtain ⟨before,untaken⟩ := ih found
    by_cases stale : world.Stale now other
    · rw [if_pos stale] at before
      obtain ⟨entry',its,-,-,same⟩ := recoverOne_found before
      obtain ⟨rfl,apart⟩ := same pending
      refine ⟨its,fun ⟨member,old⟩ => untaken ⟨(List.mem_cons.mp member).resolve_left (apart rfl),old⟩⟩
    · rw [if_neg stale] at before
      refine ⟨before,fun ⟨member,old⟩ => ?_⟩
      obtain rfl | member := List.mem_cons.mp member
      · exact stale (stale_iff.mpr ⟨entry,before,old⟩)
      · exact untaken ⟨member,old⟩

theorem Inv.raise (inv : Inv start shapes world) (operation : ℕ) : Inv start shapes (world.raise operation) := by
  unfold World.raise
  cases found : world.flights operation with
  | none => exact inv
  | some flight =>
    dsimp only
    split_ifs with failed
    · exact inv.finish (inv.unlocked found (by simp [failed]))
    · exact inv.fail found

theorem Inv.crash (inv : Inv start shapes world) (operation : ℕ) (halfway : Bool) : ∃ shapes', Inv start shapes' (world.crash operation halfway) := by
  unfold World.crash
  dsimp only
  split_ifs with undoing
  · obtain ⟨shapes',turned⟩ := inv.recoverOne undoing.2.2 false nofun
    refine ⟨shapes',turned.leave rfl (fun _ _ => rfl) rfl rfl rfl rfl (List.subset_cons_self _ _) (fun event member => ?_) ?_ (fun _ _ => Iff.rfl)
      (.inr List.mem_cons_self)⟩
    · obtain rfl | member := List.mem_cons.mp member
      · trivial
      · exact turned.log event member
    · rw [recoverOne_lock,undoing.2.2]
      exact nofun
  · refine ⟨shapes,inv.leave (by simp) (by simp) (by simp) (by simp) (by simp) (by simp) (by simp) (fun event member => ?_)
      (unlock_free world operation) (fun other apart => unlock_held world operation apart) (.inr List.mem_cons_self)⟩
    obtain rfl | member := List.mem_cons.mp member
    · trivial
    · exact inv.log event (by simpa using member)

theorem Inv.pin (inv : Inv start shapes world) (free : world.lock = none) (owner : String) (artifact : ℕ) (pinned : Bool) :
    Inv start shapes (world.pin owner artifact pinned) := by
  unfold World.pin
  split_ifs
  · refine ⟨inv.holds,inv.entries,fun other flight found => ?_,inv.fresh,inv.later,inv.locked,inv.log,inv.temps⟩
    exact (inv.flights other flight found).keep (.refl _) rfl (fun entry its => ⟨entry,its,rfl⟩)
      (fun mine => mine) (fun _ _ => rfl) (fun held => absurd (free.symm.trans held) nofun) (.inl rfl)
  · exact inv

theorem setJob_rows (artifact : ℕ) (status : String) (other : ℕ) : (world.setJob artifact status).rows other =
    (world.rows other).map fun row => if other = artifact then {row with jobStatus := status} else row := by
  unfold World.setJob
  by_cases here : other = artifact
  · subst here
    simp
  · simp [here]

theorem Inv.setJob (inv : Inv start shapes world) (artifact : ℕ) (status : String) : Inv start shapes (world.setJob artifact status) := by
  refine ⟨fun other => ?_,inv.entries,fun other flight found => ?_,inv.fresh,inv.later,inv.locked,inv.log,inv.temps⟩
  · obtain ⟨bytes,holds⟩ := inv.holds other
    rw [setJob_rows]
    refine ⟨bytes,fun none_ => by rw [holds.rowless none_]; rfl,fun path some_ => ?_,holds.content,holds.owned,holds.known⟩
    obtain ⟨item,found,same,good,names⟩ := holds.its path some_
    rw [found]
    refine ⟨_,rfl,?_⟩
    split_ifs
    · exact ⟨same,⟨good.digest,good.first,good.zipped⟩,names⟩
    · exact ⟨same,good,names⟩
  · refine (inv.flights other flight found).keep (fun row' its => ?_) rfl (fun entry its => ⟨entry,its,rfl⟩) (fun mine => mine) (fun _ _ => rfl)
      (fun held => ⟨held,rfl⟩) (.inl rfl)
    rw [setJob_rows] at its
    obtain ⟨row,before,rfl⟩ := Option.map_eq_some_iff.mp its
    refine ⟨row,before,fun _ => ?_⟩
    split_ifs <;> exact ⟨rfl,rfl⟩

theorem Inv.savePolicy (inv : Inv start shapes world) (policies : String → Policy) : Inv start shapes {world with policies := policies} :=
  ⟨inv.holds,inv.entries,fun other flight found => (inv.flights other flight found).keep (.refl _) rfl
    (fun entry its => ⟨entry,its,rfl⟩) (fun mine => mine) (fun _ _ => rfl) (fun held => ⟨held,rfl⟩) (.inl rfl),inv.fresh,inv.later,inv.locked,
    inv.log,inv.temps⟩

/-- No recovery takes up an entry whose operation is still to rename, and no operation renames while another archive of its artifact has left
both the log and the archive. -/
def Careful (world : World) : Op → Prop
  | .recover now lives ids => Patient world now lives ids
  | .step operation _ => ∀ flight, world.flights operation = some flight → ∀ checksum, flight.phase = .journaled checksum →
    Tidy world operation flight.selection.id
  | _ => True

theorem Inv.step (inv : Inv start shapes world) (operation : ℕ) (now : ℚ) (careful : Careful world (.step operation now)) :
    ∃ shapes', Inv start shapes' (world.step codec operation now) := by
  unfold World.step
  cases found : world.flights operation with
  | none => exact ⟨shapes,inv⟩
  | some flight =>
    dsimp only
    have ok := (inv.flights operation flight found).phase
    cases at_ : flight.phase with
    | checked => exact ⟨shapes,inv.prepare found at_⟩
    | prepared checksum =>
      dsimp only
      split_ifs
      · exact ⟨shapes,inv.journalize found at_ now⟩
      · exact ⟨shapes,inv⟩
    | journaled checksum =>
      dsimp only
      split_ifs with free
      · exact inv.rename found at_ now free (careful flight found checksum at_)
      · exact ⟨shapes,inv⟩
    | renamed checksum => exact inv.commit found at_
    | committed => exact inv.unlink found at_
    | unlinked =>
      dsimp only
      split_ifs with free
      · have idle : ∀ flight, world.flights operation = some flight → ∀ checksum, flight.phase ≠ .journaled checksum := by
          intro flight' found' checksum
          cases found.symm.trans found'
          simp [at_]
        simp only [PhaseOk,at_] at ok
        refine ⟨shapes,(inv.mark .completed (fun id kind owner => ?_) idle).finish (by show world.lock ≠ _; rw [free]; simp)⟩
        obtain ⟨bytes,holds⟩ := inv.holds id
        obtain ⟨entry,its,-,rfl,-⟩ := holds.owned operation kind owner
        rw [(inv.flights operation flight found).entry entry its] at owner
        exact ok kind owner
      · exact ⟨shapes,inv⟩
    | failed =>
      dsimp only
      split_ifs with free
      · obtain ⟨shapes',turned⟩ := inv.recoverOne free true fun _ flight' (found' : world.flights operation = some flight') checksum => by
          cases found.symm.trans found'
          simp [at_]
        exact ⟨shapes',turned.finish (by rw [recoverOne_lock,free]; simp)⟩
      · exact ⟨shapes,inv⟩

theorem Inv.apply (inv : Inv start shapes world) (op : Op) (careful : Careful world op) : ∃ shapes', Inv start shapes' (world.apply codec op) := by
  cases op with
  | begin_ owner selection now => exact ⟨shapes,inv.begin_ owner selection now⟩
  | step operation now => exact inv.step operation now careful
  | raise operation => exact ⟨shapes,inv.raise operation⟩
  | crash operation halfway => exact inv.crash operation halfway
  | recover now lives ids =>
    show ∃ shapes', Inv start shapes' (if world.lock = none then world.recover now lives ids else world)
    split_ifs with free
    · exact inv.recover free careful
    · exact ⟨shapes,inv⟩
  | pin owner artifact pinned =>
    show ∃ shapes', Inv start shapes' (if world.lock = none then world.pin owner artifact pinned else world)
    split_ifs with free
    · exact ⟨shapes,inv.pin free owner artifact pinned⟩
    · exact ⟨shapes,inv⟩
  | setJob artifact status =>
    show ∃ shapes', Inv start shapes' (if world.lock = none then world.setJob artifact status else world)
    split_ifs
    · exact ⟨shapes,inv.setJob artifact status⟩
    · exact ⟨shapes,inv⟩
  | savePolicy owner policy =>
    show ∃ shapes', Inv start shapes' (if world.lock = none then {world with policies := Function.update world.policies owner policy} else world)
    split_ifs
    · exact ⟨shapes,inv.savePolicy _⟩
    · exact ⟨shapes,inv⟩

theorem Start.inv (start : Start codec) : Inv start (fun id => if (start.rows id).isSome then .kept (.log id) else .gone) start.world := by
  refine ⟨fun id => ?_,nofun,nofun,fun operation _ kind => ?_,fun _ _ => ⟨rfl,rfl⟩,nofun,nofun,fun operation there => ?_⟩
  · show ∃ bytes, Holds start (fun _ => none) start.files (start.rows id) id _ bytes
    have only : ∀ path, Belongs (fun _ => none) id path → path = .log id := fun path belongs => belongs.resolve_right (by simp)
    cases found : start.rows id with
    | none =>
      refine ⟨[],fun _ => rfl,nofun,fun path belongs => ?_,nofun,nofun⟩
      rw [only path belongs]
      exact start.only id found
    | some row =>
      obtain ⟨its,content,there,digest⟩ := start.own id row found
      refine ⟨content,nofun,?_,fun path belongs => ?_,nofun,?_⟩
      · rintro _ ⟨⟩
        exact ⟨row,rfl,its,⟨digest,fun _ => there,fun operation gz => by cases its.symm.trans gz⟩,trivial⟩
      · rw [only path belongs]
        simpa [Shape.files] using there
      · rintro _ ⟨⟩
        exact .inl rfl
  · cases kind
    · exact (start.fresh operation).1
    · exact (start.fresh operation).2.1
  · exact absurd (start.fresh operation).2.2 there

theorem reached_inv {start : Start codec} (reached : Runs.Reached (World.apply codec) Careful start.world world) : ∃ shapes, Inv start shapes world :=
  reached.invariant (fun world => ∃ shapes, Inv start shapes world) ⟨_,start.inv⟩ fun _ op ⟨_,inv⟩ careful => inv.apply op careful

/-- A row has its file, which is the log or decompresses to it, and no other; an artifact without a row has none. -/
structure Settled (start : Start codec) (world : World) (id : ℕ) : Prop where
  kept : ∀ row, world.rows id = some row → ∃ content, world.files row.path = some content ∧ codec.sha256 content = row.sha256 ∧
    (row.path = .log id ∧ start.files (.log id) = some content ∨
      ∃ operation original, row.path = .gz operation ∧ start.files (.log id) = some original ∧ codec.gunzip content = some original) ∧
    ∀ path, Belongs world.journal id path → path ≠ row.path → world.files path = none
  gone : world.rows id = none → ∀ path, Belongs world.journal id path → world.files path = none

theorem Holds.settled {bytes : Bytes} (holds : Holds start world.journal world.files (world.rows id) id second bytes)
    (free : ∀ operation kind, second.owner ≠ some (operation,kind)) : Settled start world id := by
  cases second with
  | kept path =>
    obtain ⟨item,row,rfl,good,-⟩ := holds.its path rfl
    refine ⟨fun row' found => ?_,fun none_ => by cases none_.symm.trans row⟩
    cases row.symm.trans found
    refine ⟨bytes,by rw [holds.content _ (holds.belongs rfl)]; simp [Shape.files],good.digest,?_,fun path belongs apart => ?_⟩
    · obtain log | ⟨operation,_,gz,-⟩ := holds.known item.path rfl
      · exact .inl ⟨log,good.first log⟩
      · obtain ⟨-,original,first,zipped⟩ := good.zipped operation gz
        exact .inr ⟨operation,original,gz,first,by rw [zipped,codec.inverse]⟩
    · rw [holds.content path belongs]
      simp [Shape.files,apart]
  | copied operation => exact absurd rfl (free operation .archive)
  | switched operation => exact absurd rfl (free operation .archive)
  | moved operation _ => exact absurd rfl (free operation .delete)
  | dropped operation => exact absurd rfl (free operation .delete)
  | gone =>
    refine ⟨fun row found => ?_,fun _ path belongs => holds.content path belongs⟩
    cases (holds.rowless rfl).symm.trans found

/-- In careful runs nothing is archived or deleted that is pinned, only a process that dies leaves a temporary file, and an artifact is settled
once a recovery has taken up all that is pending of it. -/
theorem retention_contract {start : Start codec} (reached : Runs.Reached (World.apply codec) Careful start.world world) :
    (∀ event ∈ world.log, event.Unpinned) ∧
      (∀ operation, world.files (.temp operation) ≠ none → (∃ flight, world.flights operation = some flight) ∨ .died operation ∈ world.log) ∧
      ∀ now ids id, world.lock = none → Careful world (.recover now true ids) →
        (∀ operation entry, world.journal operation = some entry → entry.artifact = id → entry.status = .pending →
          operation ∈ ids ∧ entry.createdAt < now - 300) →
        Settled start (world.recover now true ids) id := by
  obtain ⟨shapes,inv⟩ := reached_inv reached
  refine ⟨inv.log,inv.temps,fun now ids id free careful all => ?_⟩
  obtain ⟨shapes',recovered⟩ := inv.recover free careful
  obtain ⟨bytes,holds⟩ := recovered.holds id
  refine holds.settled fun operation kind owner => ?_
  obtain ⟨entry,found,pending,artifact,-⟩ := holds.owned operation kind owner
  obtain ⟨before,untaken⟩ := recover_found found pending
  exact untaken (all operation entry before artifact pending)

end

def emptyGz : Bytes := [31,139,8,0,0,0,0,0,0,255,3,0,0,0,0,0,0,0,0,0]

def emptyCodec : Codec where
  sha256 content :=
    if content = [] then "e3b0c44298fc1c149afbf4c8996fb92427ae41e4649b934ca495991b7852b855"
    else if content = emptyGz then "ac73670af3abed54ac6fb4695131f4099be9fbe39d6076c5d0264a6bbdae9d83"
    else "0000000000000000000000000000000000000000000000000000000000000000"
  gzip _ content := emptyGz ++ content
  gunzip content := content.dropPrefix? emptyGz
  inverse _ content := List.dropPrefix?_eq_some_iff.mpr ⟨emptyGz,rfl,by simp⟩

def emptyLog : Artifact where
  ownerId := "alice"
  jobStatus := "completed"
  createdAt := some 0
  filename := "stdout.log"
  artifactType := "log"
  sizeBytes := 0
  sha256 := emptyCodec.sha256 []
  path := .log 0

def emptyStart : Start emptyCodec where
  files path := if path = .log 0 then some [] else none
  rows id := if id = 0 then some emptyLog else none
  own id row found := by
    obtain ⟨rfl,rfl⟩ : id = 0 ∧ emptyLog = row := by simpa using found
    exact ⟨rfl,[],rfl,rfl⟩
  only id absent := by
    have apart : id ≠ 0 := by simpa using absent
    simp [apart]
  fresh _ := ⟨rfl,rfl,rfl⟩

def archiving : Selection := ⟨0,.archive,emptyCodec.sha256 []⟩

def deleting : Selection := ⟨0,.delete,emptyCodec.sha256 emptyGz⟩

def pausedDelete : List Op :=
  [.begin_ "alice" archiving 3000000,.step 0 3000000,.step 0 3000000,.step 0 3000000,.step 0 3000000,.step 0 3000000,.step 0 3000000,
    .begin_ "alice" deleting 3000010,.step 1 3000010,.step 1 3000010,.recover 3000320 true [1],.step 1 3000330,.crash 1 false]

/-- The only copy is in the trash for good: nothing is pending any more. -/
theorem paused_delete_loses :
    ((World.run emptyStart pausedDelete).recover 3001000 true [0,1]).rows 0 =
      some (emptyLog.archived 0 "stdout.log" 20 (emptyCodec.sha256 emptyGz)) ∧
    ((World.run emptyStart pausedDelete).recover 3001000 true [0,1]).files (.gz 0) = none ∧
    ((World.run emptyStart pausedDelete).recover 3001000 true [0,1]).files (.trash 1) = some emptyGz ∧
    ∀ id ∈ [0,1], (((World.run emptyStart pausedDelete).recover 3001000 true [0,1]).journal id).all fun entry => entry.status ≠ .pending := by
  decide +kernel

def deadArchive : List Op :=
  [.begin_ "alice" archiving 3000000,.step 0 3000000,.step 0 3000000,.step 0 3000000,.crash 0 false]

theorem dead_archive_settles : Settled emptyStart ((World.run emptyStart deadArchive).recover 3000301 true [0]) 0 := by
  have first : ∀ world, Runs.Reached (World.apply emptyCodec) Careful emptyStart.world world → world.started = 1 →
      ∀ other entry, world.journal other = some entry → other = 0 := by
    intro world reached started other entry found
    obtain ⟨shapes,inv⟩ := reached_inv reached
    by_contra apart
    cases (inv.later other (by omega)).2.symm.trans found
  have goes : ∀ world, Runs.Reached (World.apply emptyCodec) Careful emptyStart.world world → world.started = 1 →
      Runs.Reached (World.apply emptyCodec) Careful emptyStart.world (world.step emptyCodec 0 3000000) :=
    fun world reached started => reached.step (.step 0 3000000) fun _ _ _ _ other entry apart found =>
      absurd (first world reached started other entry found) apart
  have begun : Runs.Reached (World.apply emptyCodec) Careful emptyStart.world (emptyStart.world.begin_ "alice" archiving 3000000) :=
    Runs.Reached.start.step (Op.begin_ "alice" archiving 3000000) trivial
  have renamed := goes _ (goes _ (goes _ begun (by decide +kernel)) (by decide +kernel)) (by decide +kernel)
  have reached : Runs.Reached (World.apply emptyCodec) Careful emptyStart.world (World.run emptyStart deadArchive) :=
    renamed.step (.crash 0 false) trivial
  refine (retention_contract reached).2.2 3000301 [0] 0 (by decide +kernel) (fun _ operation member _ flight found => ?_)
    fun operation entry found _ _ => ?_
  · have left : (World.run emptyStart deadArchive).flights 0 = none := by decide +kernel
    cases List.mem_singleton.mp member
    cases left.symm.trans found
  · cases first _ reached (by decide +kernel) operation entry found
    have old : ((World.run emptyStart deadArchive).journal 0).all fun entry => entry.createdAt < 3000301 - 300 := by decide +kernel
    rw [found] at old
    exact ⟨List.mem_singleton_self 0,by simpa using old⟩

/-- The content of an artifact is at its place, or in the trash of a deletion that is pending. -/
def Stays {codec : Codec} (start : Start codec) (world : World) (id : ℕ) (row : Artifact) : Prop :=
  ∃ bytes, Good start id row bytes ∧ (world.files row.path = some bytes ∨ ∃ operation entry, world.files (.trash operation) = some bytes ∧
    world.journal operation = some entry ∧ entry.status = .pending ∧ entry.artifact = id ∧ entry.operation = .delete)

theorem content_stays {codec : Codec} {world : World} {start : Start codec}
    (reached : Runs.Reached (World.apply codec) Careful start.world world) {id : ℕ} {row : Artifact} (listed : world.rows id = some row) :
    Stays start world id row := by
  obtain ⟨shapes,inv⟩ := reached_inv reached
  obtain ⟨bytes,holds⟩ := inv.holds id
  refine ⟨bytes,?_⟩
  generalize shapes id = shape at holds
  cases shape with
  | dropped | gone => cases listed.symm.trans (holds.rowless rfl)
  | moved operation old =>
    obtain ⟨item,found,-,good,-⟩ := holds.its old rfl
    cases listed.symm.trans found
    obtain ⟨entry,journaled,pending,artifact,kind,-⟩ := holds.owned operation .delete rfl
    have trashed := holds.content _ (holds.target .delete rfl)
    exact ⟨good,.inr ⟨operation,entry,trashed.trans (by simp [Shape.files,Operation.target]),journaled,pending,artifact,kind⟩⟩
  | _ =>
    obtain ⟨item,found,same,good,-⟩ := holds.its _ rfl
    cases listed.symm.trans found
    refine ⟨good,.inl ?_⟩
    rw [same,holds.content _ (holds.belongs rfl)]
    simp [Shape.files]

theorem content_stays_empty : Stays emptyStart (emptyStart.world.begin_ "alice" archiving 3000000) 0 emptyLog := by
  have begun : Runs.Reached (World.apply emptyCodec) Careful emptyStart.world (emptyStart.world.begin_ "alice" archiving 3000000) :=
    Runs.Reached.start.step (Op.begin_ "alice" archiving 3000000) trivial
  exact content_stays begun (by decide +kernel)

end GmsRemoteTest.ArtifactRetention
