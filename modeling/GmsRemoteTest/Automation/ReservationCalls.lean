import GmsRemoteTest.Automation.DeviceStages

/-! What the calls of the executor make of the reservation rows. Only the choice of devices takes a
reservation; a release and a started test leave none of the rows of the id they were given active. -/
namespace GmsRemoteTest.Automation
open Text Cluster

def Known (items : List Reservation) (reservationId : String) : Prop :=
  reservationId = "" ∨ ∃ item ∈ items, item.reservationId = reservationId

def Spent (items : List Reservation) (reservationId : String) : Prop :=
  Known items reservationId ∧ ¬ Reserved items reservationId

def Held (items : List Reservation) (sourceId : String) : Prop := ∃ item ∈ items, item.sourceId = sourceId ∧ item.status = .active

instance (items : List Reservation) (sourceId : String) : Decidable (Held items sourceId) :=
  inferInstanceAs (Decidable (∃ item ∈ items, item.sourceId = sourceId ∧ item.status = .active))

def Named (items : List Reservation) : Prop := ∀ item ∈ items, item.status = .active → item.reservationId ≠ ""

structure Carried (taken : String → Prop) (before after : List Reservation) : Prop where
  known : ∀ item ∈ before, ∃ later ∈ after, later.reservationId = item.reservationId
  active : ∀ item ∈ after, item.status = .active →
    (∃ earlier ∈ before, earlier.status = .active ∧ earlier.reservationId = item.reservationId ∧ earlier.sourceId = item.sourceId) ∨
      taken item.sourceId ∧ item.reservationId ≠ "" ∧ ∀ old ∈ before, old.reservationId ≠ item.reservationId

section
variable {taken : String → Prop} {before middle after : List Reservation} {reservationId : String}

theorem Carried.refl (items : List Reservation) : Carried taken items items :=
  ⟨fun item member => ⟨item,member,rfl⟩,fun item member active => .inl ⟨item,member,active,rfl,rfl⟩⟩

theorem Carried.of_none (follows : Carried (fun _ => False) before after) : Carried taken before after :=
  ⟨follows.known,fun item member active => .inl ((follows.active item member active).resolve_right fun new => new.1)⟩

theorem Carried.trans (first : Carried (fun _ => False) before middle) (second : Carried taken middle after) :
    Carried taken before after := by
  refine ⟨?_,?_⟩
  · intro item member
    obtain ⟨later,inside,same⟩ := first.known item member
    obtain ⟨last,present,named⟩ := second.known later inside
    exact ⟨last,present,named.trans same⟩
  · intro item member active
    rcases second.active item member active with ⟨earlier,inside,held,named,source⟩ | ⟨allowed,name,fresh⟩
    · obtain ⟨old,present,alive,same,origin⟩ := (first.active earlier inside held).resolve_right fun new => new.1
      exact .inl ⟨old,present,alive,same.trans named,origin.trans source⟩
    · refine .inr ⟨allowed,name,fun old inside => ?_⟩
      obtain ⟨later,present,same⟩ := first.known old inside
      rw [← same]
      exact fresh later present

theorem Carried.update {items : List Reservation} {selects : Reservation → Prop} [DecidablePred selects] {set : Reservation → Reservation}
    (names : ∀ item, (set item).reservationId = item.reservationId ∧ (set item).sourceId = item.sourceId)
    (fades : ∀ item, selects item → (set item).status = .active → item.status = .active) :
    Carried taken items (Table.update selects set items) := by
  refine ⟨?_,?_⟩
  · intro item member
    refine ⟨_,Table.mem_update.mpr ⟨item,member,rfl⟩,?_⟩
    split
    · exact (names item).1
    · rfl
  · intro item member active
    obtain ⟨old,inside,rfl⟩ := Table.mem_update.mp member
    split at active
    · rename_i chosen
      refine .inl ⟨old,inside,fades old chosen active,?_⟩
      rw [if_pos chosen]
      exact ⟨(names old).1.symm,(names old).2.symm⟩
    · rename_i left
      rw [if_neg left]
      exact .inl ⟨old,inside,active,rfl,rfl⟩

theorem Carried.close {items : List Reservation} {selects : Reservation → Prop} [DecidablePred selects] {status : ReservationStatus}
    (closing : status ≠ .active) (now : Nat) : Carried taken items (Table.update selects (closedReservation status now) items) :=
  .update (fun _ => ⟨rfl,rfl⟩) fun _ _ active => absurd active closing

theorem Known.follows (known : Known before reservationId) (follows : Carried taken before after) : Known after reservationId := by
  rcases known with none | ⟨item,member,rfl⟩
  · exact .inl none
  · exact .inr (follows.known item member)

theorem Spent.follows (spent : Spent before reservationId) (follows : Carried taken before after) : Spent after reservationId := by
  refine ⟨spent.1.follows follows,?_⟩
  rintro ⟨item,member,rfl,active⟩
  rcases follows.active item member active with ⟨earlier,inside,held,named,-⟩ | ⟨-,name,fresh⟩
  · exact spent.2 ⟨earlier,inside,named,held⟩
  · rcases spent.1 with none | ⟨old,inside,named⟩
    · exact name none
    · exact fresh old inside named

theorem Named.follows (names : Named before) (follows : Carried taken before after) : Named after := by
  intro item member active
  rcases follows.active item member active with ⟨earlier,inside,held,named,-⟩ | ⟨-,name,-⟩
  · rw [← named]
    exact names earlier inside held
  · exact name

theorem Named.spent (names : Named before) : Spent before "" := by
  refine ⟨.inl rfl,?_⟩
  rintro ⟨item,member,none,active⟩
  exact names item member active none

theorem Held.earlier {sourceId : String} (held : Held after sourceId) (follows : Carried taken before after) :
    Held before sourceId ∨ taken sourceId := by
  obtain ⟨item,member,rfl,active⟩ := held
  rcases follows.active item member active with ⟨earlier,inside,alive,-,source⟩ | ⟨allowed,-,-⟩
  · exact .inl ⟨earlier,inside,source,alive⟩
  · exact .inr allowed

theorem spent_close {items : List Reservation} {status : ReservationStatus} (closing : status ≠ .active) {now : Nat}
    (known : Known items reservationId) :
    Spent (Table.update (fun item => item.reservationId = reservationId ∧ item.status = .active) (closedReservation status now) items)
      reservationId := by
  have follows : Carried (fun _ => False) items (Table.update (fun item => item.reservationId = reservationId ∧ item.status = .active)
      (closedReservation status now) items) := .close closing now
  refine ⟨known.follows follows,?_⟩
  rintro ⟨item,member,named,active⟩
  obtain ⟨old,inside,rfl⟩ := Table.mem_update.mp member
  split at active
  · exact closing active
  · rename_i left
    rw [if_neg left] at named
    exact left ⟨named,active⟩

end

section
variable (state : State) (reservationId : String) (now : Nat)

theorem expire_follows : Carried (fun _ => False) state.db.reservations (expireDeviceReservations state now).db.reservations := by
  rw [expire_reservations]
  exact .close (by decide) now

theorem renew_follows (ttl : Int) : Carried (fun _ => False) state.db.reservations (renewReservation state reservationId ttl now).2.db.reservations := by
  have expired := expire_follows state now
  unfold renewReservation
  dsimp only
  split
  · exact expired
  split
  · exact .refl _
  split
  · refine expired.trans (.update ?_ ?_)
    · exact fun _ => ⟨rfl,rfl⟩
    · exact fun _ _ active => active
  · exact expired.trans (.close (by decide) now)

theorem release_follows : Carried (fun _ => False) state.db.reservations
    (releaseReservation state reservationId .cancelled now).2.db.reservations := by
  unfold releaseReservation
  rw [if_neg (by decide)]
  dsimp only
  split
  · exact .refl _
  · exact .close (by decide) now

theorem release_spent (known : Known state.db.reservations reservationId) :
    Spent (releaseReservation state reservationId .cancelled now).2.db.reservations reservationId := by
  unfold releaseReservation
  rw [if_neg (by decide)]
  dsimp only
  split
  · rename_i none
    refine ⟨known,?_⟩
    rintro ⟨item,member,named,active⟩
    exact Table.select_eq_nil.mp none item member ⟨named,active⟩
  · exact spent_close (by decide) known

theorem payload_known {db : Db} {reservationId : String} {reservation : ReservationPayload}
    (found : reservationPayload db reservationId = some reservation) : reservation.id = reservationId ∧ Known db.reservations reservationId := by
  unfold reservationPayload at found
  split at found
  · cases found
  · rename_i first rest listed
    have chosen : first ∈ byDevice (Table.select (fun item => item.reservationId = reservationId) db.reservations) := by
      rw [listed]
      exact List.mem_cons_self
    rw [byDevice,List.mem_insertionSort,Table.mem_select] at chosen
    cases found
    exact ⟨rfl,.inr ⟨first,chosen⟩⟩

theorem insertReservedLoop_sources {request : ReservationRequest} {reservationId : String} {now : Nat} {db next : Db}
    {devices : List Device} (done : devices.foldlM (insertReserved request reservationId now) db = .ok next) :
    ∃ news : List Reservation, (∀ item ∈ news, item.reservationId = reservationId ∧ item.sourceId = request.sourceId) ∧
      next.reservations = db.reservations++news := by
  refine Runs.foldlM_invariant (fun current : Db => ∃ news : List Reservation, (∀ item ∈ news,
    item.reservationId = reservationId ∧ item.sourceId = request.sourceId) ∧ current.reservations = db.reservations++news) ?_ devices
    ⟨[],by simp,by simp⟩ done
  rintro current device after ⟨news,named,same⟩ turn
  unfold insertReserved insertReservation at turn
  dsimp only at turn
  split at turn
  · cases turn
  split at turn
  · cases turn
  · cases turn
    refine ⟨news++[_],?_,by rw [← List.append_assoc,← same]⟩
    intro item member
    rcases List.mem_append.mp member with old | new
    · exact named item old
    · rw [List.mem_singleton.mp new]
      exact ⟨rfl,rfl⟩

theorem reserve_follows (request : ReservationRequest)
    (fresh : state.db.reservations.length < (reserveDevices state request now).2.db.reservations.length →
      ∀ item ∈ state.db.reservations, item.reservationId ≠ "reservation-" ++ request.reservationUuid) :
    Carried (fun source => source = request.sourceId ∧
        state.db.reservations.length < (reserveDevices state request now).2.db.reservations.length)
      state.db.reservations (reserveDevices state request now).2.db.reservations := by
  have expired := expire_follows state now
  have length : (expireDeviceReservations state now).db.reservations.length = state.db.reservations.length := by
    rw [expire_reservations,Table.length_update]
  generalize made : reserveDevices state request now = outcome at fresh ⊢
  unfold reserveDevices at made
  dsimp only at made
  split at made
  · cases made
    exact .refl _
  split at made
  · split at made
    · split at made
      · cases made
        exact .refl _
      · cases made
        refine expired.trans (.update ?_ ?_)
        · exact fun _ => ⟨rfl,rfl⟩
        · exact fun _ _ active => active
    · cases made
      exact .refl _
  · split at made
    · cases made
      exact .refl _
    split at made
    · cases made
      exact .refl _
    split at made
    · cases made
      exact .refl _
    · rename_i db inserted
      cases made
      obtain ⟨news,named,rows⟩ := insertReservedLoop_sources inserted
      dsimp only at fresh ⊢
      rw [rows] at fresh ⊢
      rw [List.length_append,length] at fresh ⊢
      refine ⟨?_,?_⟩
      · intro item member
        obtain ⟨later,inside,same⟩ := expired.known item member
        exact ⟨later,List.mem_append_left _ inside,same⟩
      · intro item member active
        rcases List.mem_append.mp member with old | new
        · exact .inl ((expired.active item old active).resolve_right fun new => new.1)
        · have grew : state.db.reservations.length < state.db.reservations.length+news.length :=
            Nat.lt_add_of_pos_right (List.length_pos_of_mem new)
          obtain ⟨id,source⟩ := named item new
          rw [id]
          refine .inr ⟨⟨source,grew⟩,?_,fresh grew⟩
          intro empty
          have letters := congrArg String.toList empty
          rw [String.toList_append] at letters
          simp at letters

end

theorem insertJob_reservations {db inserted : Db} {data : JobCreate} {now : Nat} (done : insertJob db data now = .ok inserted) :
    inserted.reservations = db.reservations := by
  unfold insertJob at done
  split at done
  · cases done
  split at done
  · cases done
  split at done
  · cases done
  · cases done
    rfl

theorem reservedIds_known {db : Db} {data : JobCreate} {devices : List String} (listed : reservedIds db data = .ok devices) :
    Known db.reservations data.deviceReservationId := by
  unfold reservedIds at listed
  split at listed
  · rename_i none
    exact .inl none
  · dsimp only at listed
    split at listed
    · cases listed
    · rename_i some
      obtain ⟨item,chosen⟩ := List.exists_mem_of_ne_nil _ some
      obtain ⟨member,named,-⟩ := Table.mem_select.mp chosen
      exact .inr ⟨item,member,named⟩

theorem insertJob_spent {settings : Settings} {db after : Db} {data : JobCreate} {claims : List DeviceClaims.Claim} {now : Nat}
    (names : Named db.reservations) (done : insertJobWithLeases settings db data claims now = .ok after) :
    Carried (fun _ => False) db.reservations after.reservations ∧ Spent after.reservations data.deviceReservationId := by
  unfold insertJobWithLeases at done
  simp only [bind,Except.bind,pure,Except.pure] at done
  split at done
  · cases done
  split at done
  · cases done
  rename_i devices listed
  split at done
  · cases done
  rename_i inserted wrote
  split at done
  · cases done
  rename_i leased loop
  cases done
  have rows : leased.reservations = db.reservations :=
    (congrArg Records.reservations (leaseLoop_records loop)).trans (insertJob_reservations wrote)
  change Carried _ _ (if data.deviceReservationId = "" then leased.reservations else _) ∧
    Spent (if data.deviceReservationId = "" then leased.reservations else _) _
  rw [rows]
  split
  · rename_i none
    rw [none]
    exact ⟨.refl _,names.spent⟩
  · exact ⟨.close (by decide) now,spent_close (by decide) (reservedIds_known listed)⟩

def Receipted (fingerprint : TestRequest → String) (db : Db) : Prop :=
  ∀ receipt ∈ db.receipts, ∃ request : TestRequest, receipt.requestHash = fingerprint request ∧
    Spent db.reservations request.deviceReservationId

theorem Receipted.follows {fingerprint : TestRequest → String} {taken : String → Prop} {before after : Db}
    (receipted : Receipted fingerprint before) (same : after.receipts = before.receipts)
    (follows : Carried taken before.reservations after.reservations) : Receipted fingerprint after := by
  intro receipt member
  rw [same] at member
  obtain ⟨request,hash,spent⟩ := receipted receipt member
  exact ⟨request,hash,spent.follows follows⟩

theorem create_spent (settings : Settings) {fingerprint : TestRequest → String} {state : State} (names : Named state.db.reservations)
    (receipted : Receipted fingerprint state.db) (data : JobCreate) (request : TestRequest)
    (asked : data.requestHash = fingerprint request ∧ data.deviceReservationId = request.deviceReservationId) (now : Nat) :
    let created := createJobWithLeases settings state data now
    Carried (fun _ => False) state.db.reservations created.2.db.reservations ∧ Receipted fingerprint created.2.db ∧
      (created.1 = .ok () → Spent created.2.db.reservations data.deviceReservationId) := by
  have unchanged : ∀ error claims, Carried (fun _ => False) state.db.reservations state.db.reservations ∧
      Receipted fingerprint (⟨state.db,claims⟩ : State).db ∧ ((.error error : Except ClusterError Unit) = .ok () →
        Spent state.db.reservations data.deviceReservationId) := by
    refine fun _ _ => ⟨.refl _,receipted,fun done => ?_⟩
    cases done
  unfold createJobWithLeases
  split
  · exact unchanged _ _
  rename_i claims registry _
  have expired := expire_follows {state with claims := registry} now
  have receipts := expire_receipts {state with claims := registry} now
  unfold createJobMetadata
  dsimp only
  generalize made : insertJobWithLeases settings (expireDeviceReservations {state with claims := registry} now).db data _ now = outcome
  cases outcome with
  | error error => exact unchanged _ _
  | ok db =>
    obtain ⟨follows,spent⟩ := insertJob_spent (names.follows expired) made
    refine ⟨expired.trans follows,?_,fun _ => spent⟩
    -- the receipt of the job is the only new one
    have kept := (receipted.follows receipts expired)
    intro receipt member
    rcases (insertJobWithLeases_submitted made).receipts with ⟨-,same⟩ | ⟨-,-,same⟩
    · exact kept.follows same follows receipt member
    · change db.receipts = _ at same
      rw [same] at member
      rcases List.mem_append.mp member with old | new
      · obtain ⟨request,hash,halted⟩ := kept receipt old
        exact ⟨request,hash,halted.follows follows⟩
      · rw [List.mem_singleton.mp new]
        exact ⟨request,asked.1,asked.2 ▸ spent⟩

/-- What an answer says about the reservations. -/
def Settled (items : List Reservation) (run : AutomationRun) : ExecutorCall → Option Answer → Prop
  | .selectDevices, some answer => answer.success.holds = true → Known items (answer.reservationId.getD "")
  | .startTest, some answer | .cancel, some answer => answer.success.holds = true → Spent items run.deviceReservationId
  | .releaseResources, some _ => Spent items run.deviceReservationId
  | _, _ => True

structure CallKeeps (fingerprint : TestRequest → String) (taken : String → Prop) (env : State) (run : AutomationRun) (call : ExecutorCall)
    (outcome : State × (DeviceCall ⊕ Option Answer)) : Prop where
  follows : Carried taken env.db.reservations outcome.1.db.reservations
  receipts : Receipted fingerprint outcome.1.db
  goes : ∀ reservation, outcome.2 = .inl (.renewing reservation) → Known outcome.1.db.reservations reservation.id
  answers : ∀ answer, outcome.2 = .inr answer → Settled outcome.1.db.reservations run call answer

section
variable {settings : Settings} {fingerprint : TestRequest → String} {taken : String → Prop} {env : State} {run : AutomationRun}
  {call : ExecutorCall}

section
variable {after : State} (receipts : Receipted fingerprint after.db) (follows : Carried (fun _ => False) env.db.reservations after.db.reservations)
include receipts follows

theorem CallKeeps.told {answer : Option Answer}
    (settled : Settled after.db.reservations run call answer) : CallKeeps fingerprint taken env run call (after,.inr answer) := by
  refine ⟨follows.of_none,receipts,?_,?_⟩
  · intro reservation gone
    cases gone
  · intro given held
    cases held
    exact settled

theorem CallKeeps.goesOn {next : DeviceCall}
    (known : ∀ reservation, next = .renewing reservation → Known after.db.reservations reservation.id) :
    CallKeeps fingerprint taken env run call (after,.inl next) := by
  refine ⟨follows.of_none,receipts,?_,?_⟩
  · intro reservation gone
    exact known reservation (Sum.inl.inj gone)
  · intro given held
    cases held

theorem CallKeeps.refuses {answer : Answer} (failed : answer.success.holds = false)
    (asks : call ≠ .releaseResources) : CallKeeps fingerprint taken env run call (after,.inr (some answer)) := by
  refine .told receipts follows ?_
  cases call <;> simp_all [Settled]

end

variable (names : Named env.db.reservations) (receipted : Receipted fingerprint env.db)
include receipted

theorem renewSelected_keeps {reservation : ReservationPayload} (known : Known env.db.reservations reservation.id) (input : DeviceInput) :
    CallKeeps fingerprint taken env run .selectDevices (renewSelected reservation input env) := by
  have follows := renew_follows env reservation.id input.now reservationTtl
  have same := (renewReservation_calm env reservation.id reservationTtl input.now).1
  unfold renewSelected
  split
  · exact .refuses receipted (.refl _) rfl (by decide)
  dsimp only
  split
  · exact .refuses (receipted.follows same follows) follows rfl (by decide)
  split
  · exact .refuses (receipted.follows same follows) follows rfl (by decide)
  · refine .told (receipted.follows same follows) follows ?_
    exact fun _ => known.follows follows

def takes (env after : State) : Prop := env.db.reservations.length < after.db.reservations.length

instance (env after : State) : Decidable (takes env after) := inferInstanceAs (Decidable (_ < _))

omit receipted in
theorem reserve_known {request : ReservationRequest} {now : Nat} {reservation : ReservationPayload}
    (done : (reserveDevices env request now).1 = .ok (some reservation)) :
    Known (reserveDevices env request now).2.db.reservations reservation.id := by
  generalize made : reserveDevices env request now = outcome at done ⊢
  unfold reserveDevices at made
  dsimp only at made
  repeat' (split at made)
  all_goals
    cases made
    first
      | cases done
      | (have found := payload_known (Except.ok.inj done)
         exact found.1 ▸ found.2)

theorem reserveSelected_keeps (input : DeviceInput)
    (fresh : takes env (reserveSelected run input env).1 → ∀ request ∈ input.request, ∀ item ∈ env.db.reservations,
      item.reservationId ≠ "reservation-" ++ request.reservationUuid) :
    CallKeeps fingerprint (fun source => source = run.id ∧ takes env (reserveSelected run input env).1) env run .selectDevices
      (reserveSelected run input env) := by
  cases refuses : input.refuses with
  | true =>
    have same : reserveSelected run input env = (env,.inr (some input.failure)) := by simp [reserveSelected,refuses]
    rw [same]
    exact .refuses receipted (.refl _) rfl (by decide)
  | false =>
  cases given : input.request with
  | none =>
    have same : reserveSelected run input env = (env,.inr (some input.failure)) := by simp [reserveSelected,refuses,given]
    rw [same]
    exact .refuses receipted (.refl _) rfl (by decide)
  | some chosen =>
    have told : ∃ request : ReservationRequest, request.reservationUuid = chosen.reservationUuid ∧ request.sourceId = run.id ∧
        (reserveSelected run input env).1 = (reserveDevices env request input.now).2 ∧
        ∃ answer, (reserveSelected run input env).2 = .inr (some answer) ∧ (answer.success.holds = true →
          ∃ reservation, (reserveDevices env request input.now).1 = .ok (some reservation) ∧ answer.reservationId = some reservation.id) := by
      unfold reserveSelected
      rw [refuses,given]
      dsimp only
      refine ⟨{chosen with
        sourceId := run.id
        ownerId := orElse run.createdBy (orElse run.owner "automation")
        ttlSeconds := reservationTtl},rfl,rfl,?_⟩
      split
      · rename_i reservation granted
        exact ⟨rfl,_,rfl,fun _ => ⟨reservation,granted,rfl⟩⟩
      · refine ⟨rfl,_,rfl,fun held => ?_⟩
        cases held
    obtain ⟨request,uuid,source,after,answer,answered,granted⟩ := told
    have follows := reserve_follows env input.now request
    rw [← after,uuid,source] at follows
    have rows := follows fun grew => fresh grew chosen (by rw [given]; rfl)
    refine ⟨rows,?_,?_,?_⟩
    · refine receipted.follows ?_ rows
      rw [after]
      exact reserveDevices_receipts env request input.now
    · intro reservation gone
      rw [answered] at gone
      cases gone
    · intro told held
      rw [answered] at held
      cases held
      intro succeeded
      obtain ⟨reservation,done,id⟩ := granted succeeded
      rw [id,after]
      exact reserve_known done

theorem releaseSelected_keeps (names : Named env.db.reservations) (known : Known env.db.reservations run.deviceReservationId)
    (input : DeviceInput) (releases : call = .cancel ∨ call = .releaseResources) :
    CallKeeps fingerprint taken env run call (releaseSelected run input env) := by
  have spends : ∀ {items : List Reservation} {answer : Answer}, Spent items run.deviceReservationId → Settled items run call (some answer) := by
    intro items answer spent
    rcases releases with rfl | rfl
    · exact fun _ => spent
    · exact spent
  unfold releaseSelected
  split
  · rename_i none
    refine .told receipted (.refl _) ?_
    exact spends (none ▸ names.spent)
  split
  · refine .told receipted (.refl _) ?_
    rcases releases with rfl | rfl <;> trivial
  · refine .told (receipted.follows (releaseReservation_calm ..).1 (release_follows ..)) (release_follows ..) ?_
    exact spends (release_spent _ _ _ known)

theorem flashSelected_keeps (input : DeviceInput) : CallKeeps fingerprint taken env run .flash (flashSelected run input env) := by
  have follows := renew_follows env run.deviceReservationId input.now reservationTtl
  have same := (renewReservation_calm env run.deviceReservationId reservationTtl input.now).1
  have settled : ∀ items answer, Settled items run .flash answer := fun _ _ => trivial
  unfold flashSelected
  split
  · exact .told receipted (.refl _) (settled _ _)
  split
  · exact .told receipted (.refl _) (settled _ _)
  split
  · exact .told receipted (.refl _) (settled _ _)
  dsimp only
  split
  all_goals first
    | exact .told (receipted.follows same follows) follows (settled _ _)
    | (refine .goesOn (receipted.follows same follows) follows ?_
       intro reservation same
       cases same)

theorem cancelSelected_keeps (input : DeviceInput) : CallKeeps fingerprint taken env run .cancel (cancelSelected run input env) := by
  unfold cancelSelected
  split
  · exact .refuses receipted (.refl _) rfl (by decide)
  · exact .refuses receipted (.refl _) rfl (by decide)
  iterate 4
    · split
      · refine .told receipted (.refl _) ?_
        trivial
      · rename_i answer _
        split
        · refine .goesOn receipted (.refl _) ?_
          intro reservation same
          cases same
        · rename_i failed
          exact .refuses receipted (.refl _) (by simpa using failed) (by decide)
  · refine .goesOn receipted (.refl _) ?_
    intro reservation same
    cases same

theorem startSelected_keeps (names : Named env.db.reservations)
    (apart : ∀ first second, fingerprint first = fingerprint second → first.deviceReservationId = second.deviceReservationId)
    (input : DeviceInput) : CallKeeps fingerprint taken env run .startTest (startSelected settings fingerprint run input env) := by
  have raises : ∀ {after : State}, after.db.receipts = env.db.receipts ∧
      Carried (fun _ => False) env.db.reservations after.db.reservations → CallKeeps fingerprint taken env run .startTest (after,.inr none) := by
    intro after kept
    exact .told (receipted.follows kept.1 kept.2) kept.2 trivial
  unfold startSelected
  dsimp only
  split
  · rename_i job _ _
    split
    · exact raises ⟨rfl,.refl _⟩
    split
    · rename_i receipt found
      split
      · rename_i hash
        refine .told receipted (.refl _) ?_
        obtain ⟨request,known,spent⟩ := receipted receipt (Table.fetch_mem found)
        have same : request.deviceReservationId = run.deviceReservationId := apart request (testRequest run) (known.symm.trans hash)
        exact fun _ => same ▸ spent
      · exact raises ⟨rfl,.refl _⟩
    · generalize asked : ({job with
        workerId := run.workerId
        devices := run.devices
        ownerId := orElse run.createdBy run.owner
        deviceReservationId := run.deviceReservationId
        automationRunId := run.id
        idempotencyKey := run.id
        requestHash := fingerprint (testRequest run)} : JobCreate) = data
      have request : data.requestHash = fingerprint (testRequest run) ∧ data.deviceReservationId = (testRequest run).deviceReservationId := by
        rw [← asked]
        exact ⟨rfl,rfl⟩
      obtain ⟨follows,receipts,spent⟩ := create_spent settings names receipted data (testRequest run) request input.now
      have named : data.deviceReservationId = run.deviceReservationId := by rw [← asked]
      have step : ∀ {answer : Option Answer}, (answer = none ∨ (createJobWithLeases settings env data input.now).1 = .ok ()) →
          CallKeeps fingerprint taken env run .startTest ((createJobWithLeases settings env data input.now).2,.inr answer) := by
        intro answer made
        refine .told receipts follows ?_
        rcases made with rfl | done
        · trivial
        · cases answer with
          | none => trivial
          | some answer => exact fun _ => named ▸ spent done
      split
      · exact step (.inl rfl)
      · rename_i done
        split
        · exact step (.inl rfl)
        · exact step (.inr done)
  · cases answer : input.answer with
    | none => exact raises ⟨rfl,.refl _⟩
    | some answer => exact .refuses receipted (.refl _) rfl (by decide)

theorem looking_keeps (input : DeviceInput) :
    CallKeeps fingerprint taken env run call (deviceProceed settings fingerprint run .looking input env) := by
  have kept : Carried (fun _ => False) env.db.reservations (getReservationBySource env run.id input.now).2.db.reservations ∧
      (getReservationBySource env run.id input.now).2.db.receipts = env.db.receipts ∧
      ∀ reservation, (getReservationBySource env run.id input.now).1 = some reservation →
        Known (getReservationBySource env run.id input.now).2.db.reservations reservation.id := by
    unfold getReservationBySource
    split
    · refine ⟨.refl _,rfl,fun _ found => ?_⟩
      cases found
    dsimp only
    split
    · refine ⟨expire_follows env input.now,expire_receipts env input.now,fun _ found => ?_⟩
      cases found
    · refine ⟨expire_follows env input.now,expire_receipts env input.now,fun reservation found => ?_⟩
      have known := payload_known found
      exact known.1 ▸ known.2
  obtain ⟨follows,same,known⟩ := kept
  refine .goesOn (receipted.follows same follows) follows ?_
  intro reservation gone
  split at gone
  · cases gone
  · rename_i found
    cases gone
    exact known reservation found

def chosenFor (settings : Settings) (fingerprint : TestRequest → String) (run : AutomationRun) (state : DeviceCall) (input : DeviceInput)
    (env : State) (source : String) : Prop :=
  source = run.id ∧ state = .choosing ∧ takes env (deviceProceed settings fingerprint run state input env).1

omit receipted in
theorem deviceProceed_keeps (receipted : Receipted fingerprint env.db) (names : Named env.db.reservations) (known : Known env.db.reservations run.deviceReservationId)
    (apart : ∀ first second, fingerprint first = fingerprint second → first.deviceReservationId = second.deviceReservationId)
    {state : DeviceCall} (fits : state.fits call) (found : ∀ reservation, state = .renewing reservation → Known env.db.reservations reservation.id)
    (input : DeviceInput) (fresh : state = .choosing → takes env (deviceProceed settings fingerprint run state input env).1 →
      ∀ request ∈ input.request, ∀ item ∈ env.db.reservations, item.reservationId ≠ "reservation-" ++ request.reservationUuid) :
    CallKeeps fingerprint (chosenFor settings fingerprint run state input env) env run call
      (deviceProceed settings fingerprint run state input env) := by
  cases state with
  | asking =>
    refine .told receipted (.refl _) ?_
    obtain ⟨selects,starts,cancels,releases⟩ := fits
    cases call <;> first | contradiction | (cases input.answer <;> trivial)
  | looking => exact looking_keeps receipted input
  | renewing reservation =>
    cases (show call = .selectDevices from fits)
    exact renewSelected_keeps receipted (found reservation rfl) input
  | choosing =>
    cases (show call = .selectDevices from fits)
    have kept : CallKeeps fingerprint _ env run .selectDevices (reserveSelected run input env) :=
      reserveSelected_keeps receipted input (fresh rfl)
    refine ⟨?_,kept.receipts,kept.goes,kept.answers⟩
    refine ⟨kept.follows.known,fun item member active => ?_⟩
    rcases kept.follows.active item member active with old | ⟨⟨source,grew⟩,new⟩
    · exact .inl old
    · exact .inr ⟨⟨source,rfl,grew⟩,new⟩
  | flashing =>
    cases (show call = .flash from fits)
    exact flashSelected_keeps receipted input
  | starting =>
    cases (show call = .startTest from fits)
    exact startSelected_keeps receipted names apart input
  | cancelling =>
    cases (show call = .cancel from fits)
    exact cancelSelected_keeps receipted input
  | releasing => exact releaseSelected_keeps receipted names known input fits

end

end GmsRemoteTest.Automation
