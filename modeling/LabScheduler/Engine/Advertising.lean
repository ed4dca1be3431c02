import LabScheduler.Engine.Rejections

namespace LabScheduler

open Foundation

/-- The code of a failure that tells no client to publish instead. -/
abbrev PlainCode (code : ErrorCode) : Prop := code ≠ .ok ∧ code ≠ .duplicateIdentity

theorem StrongId.validate_plain {kind : IdKind} (id : StrongId kind) : Fails PlainCode id.validate := .check (by decide)

theorem checkText_plain {value field : Text} {maximum : UInt32} {required : Bool} :
    Fails PlainCode (checkText value field maximum required) := .bind (.check (by decide)) fun _ => .check (by decide)

theorem validateCapabilityName_plain (name : Text) : Fails PlainCode (validateCapabilityName name) := by
  unfold validateCapabilityName
  repeat first
    | exact .check (by decide)
    | refine .bind (.check (by decide)) fun _ => ?_

theorem CapabilitySet.validate_plain (set : CapabilitySet) (limits : Limits) :
    Fails PlainCode (set.validate limits) := by
  refine .bind (.check (by decide)) fun _ => ?_
  generalize (none : Option Capability) = previous
  induction set.entries generalizing previous with
  | nil => exact .ok ()
  | cons capability rest ih =>
    refine .bind ?_ fun _ => .bind (.check (by decide)) fun _ => ih _
    exact .bind (validateCapabilityName_plain _) fun _ => .check (by decide)

theorem TopologyDescriptor.validate_plain (topology : TopologyDescriptor) (limits : Limits) :
    Fails PlainCode (topology.validate limits) :=
  .forM fun _ => .bind (.check (by decide)) fun _ => .check (by decide)

theorem validateLocality_plain (locality : LocalityDescriptor) (limits : Limits) :
    Fails PlainCode (validateLocality locality limits) := by
  refine .bind (.check (by decide)) fun _ => .bind (.check (by decide)) fun _ => .bind (.check (by decide)) fun _ => ?_
  exact .bind (.forM StrongId.validate_plain) fun _ => .bind (.forM StrongId.validate_plain) fun _ =>
    .forM StrongId.validate_plain

theorem validateClass_plain (advertisement : ResourceAdvertisement) (limits : Limits) :
    Fails PlainCode (validateClass advertisement limits) := by
  unfold validateClass
  cases advertisement.resourceClass with
  | model =>
    change Fails PlainCode (validateModel advertisement.model limits)
    cases advertisement.model with
    | none => exact .fail (by decide) _
    | some model =>
      exact .bind model.id.validate_plain fun _ => .bind checkText_plain fun _ => CapabilitySet.validate_plain _ _
  | gpu => exact .check (by decide)
  | simulator =>
    change Fails PlainCode (validateSimulator advertisement.simulator advertisement.capacity limits)
    cases advertisement.simulator with
    | none => exact .fail (by decide) _
    | some simulator =>
      refine .bind simulator.id.validate_plain fun _ => .bind checkText_plain fun _ => ?_
      exact .bind (.check (by decide)) fun _ => .bind (.forM fun _ => checkText_plain) fun _ => .check (by decide)
  | dataset =>
    change Fails PlainCode (validateDataset advertisement.dataset limits)
    cases advertisement.dataset with
    | none => exact .fail (by decide) _
    | some dataset =>
      exact .bind dataset.id.validate_plain fun _ => .bind dataset.version.validate_plain fun _ => checkText_plain
  | physicalEnvironment =>
    change Fails PlainCode (validatePhysicalEnvironment advertisement.environment limits)
    cases advertisement.environment with
    | none => exact .fail (by decide) _
    | some environment =>
      exact .bind environment.id.validate_plain fun _ => .bind environment.physicalEnvironment.validate_plain fun _ =>
        checkText_plain
  | virtualEnvironment =>
    change Fails PlainCode (validateVirtualEnvironment advertisement.environment limits)
    cases advertisement.environment with
    | none => exact .fail (by decide) _
    | some environment =>
      exact .bind environment.id.validate_plain fun _ => .bind environment.virtualEnvironment.validate_plain fun _ =>
        checkText_plain
  | worker => exact .ok ()

theorem validateAdvertisement_plain (advertisement : ResourceAdvertisement) (limits : Limits) :
    Fails PlainCode (validateAdvertisement advertisement limits) := by
  refine .bind advertisement.id.validate_plain fun _ => .bind checkText_plain fun _ => .bind checkText_plain fun _ =>
    .bind checkText_plain fun _ => .bind (.check (by decide)) fun _ => .bind (.check (by decide)) fun _ =>
    .bind (CapabilitySet.validate_plain _ _) fun _ => .bind (.check (by decide)) fun _ =>
    .bind (.check (by decide)) fun _ => .bind (.check (by decide)) fun _ =>
    .bind (TopologyDescriptor.validate_plain _ _) fun _ => .bind (.check (by decide)) fun _ =>
    .bind (.forM fun item => ?_) fun _ => .bind (validateLocality_plain _ _) fun _ => .bind (.check (by decide)) fun _ =>
    .bind (.forM fun _ => checkText_plain) fun _ => validateClass_plain _ _
  exact .bind item.id.validate_plain fun _ => checkText_plain

theorem registerChecks_fails {state : SchedulerState} {config : EngineConfig} {advertisement : ResourceAdvertisement}
    {status : Status} (refused : registerChecks state config advertisement = .error status) :
    status.code ≠ .ok ∧
      (status.code = .duplicateIdentity → state.resources.size < config.limits.maxResources.toNat ∧
        state.resources.find? advertisement.id ≠ none ∧
        status.message = ascii "resource is already registered: " ++ advertisement.id.toText) := by
  rcases check_bind_error refused with invalid | refused
  · have plain := validateAdvertisement_plain _ _ status invalid
    exact ⟨plain.1, fun duplicate => absurd duplicate plain.2⟩
  rcases check_then_error.mp refused with ⟨-, rfl⟩ | ⟨-, refused⟩
  · exact ⟨fun same => (by cases same), fun duplicate => by cases duplicate⟩
  rcases check_then_error.mp refused with ⟨-, rfl⟩ | ⟨room, refused⟩
  · exact ⟨fun same => (by cases same), fun duplicate => by cases duplicate⟩
  obtain ⟨known, rfl⟩ := check_error.mp refused
  exact ⟨fun same => (by cases same), fun _ => ⟨room, known, rfl⟩⟩

theorem publishChecks_plain (state : SchedulerState) (config : EngineConfig) (advertisement : ResourceAdvertisement) :
    Fails PlainCode (publishChecks state config advertisement) := by
  refine .bind (validateAdvertisement_plain _ _) fun _ => .bind (.check (by decide)) fun _ => ?_
  cases state.resources.find? advertisement.id with
  | none => exact .fail (by decide) _
  | some record => exact .bind (.check (by decide)) fun _ => .bind (.check (by decide)) fun _ => .ok record

theorem publishLiveChecks_plain (advertisement : ResourceAdvertisement) (live : ResourceRecord) :
    Fails PlainCode (publishLiveChecks advertisement live) :=
  .bind (.check (by decide)) fun _ => .bind (.check (by decide)) fun _ => .check (by decide)

section Resources

variable {state : SchedulerState} {config : EngineConfig} {advertisement : ResourceAdvertisement}

theorem registerResource_error {after : SchedulerState} {status : Status}
    (refused : registerResource state config advertisement = (after, .error status)) :
    after = state ∧ registerChecks state config advertisement = .error status := by
  unfold registerResource at refused
  cases checked : registerChecks state config advertisement with
  | error reason =>
    simp only [checked] at refused
    cases refused
    exact ⟨rfl, rfl⟩
  | ok =>
    simp only [checked, registeredRecord_valid _ checked] at refused
    cases refused

theorem validateResourceRecord_plain (record : ResourceRecord) (limits : Limits) :
    Fails PlainCode (validateResourceRecord record limits) :=
  .bind (validateAdvertisement_plain _ _) fun _ => .bind (.check (by decide)) fun _ => .check (by decide)

theorem publishResourceState_plain (state : SchedulerState) (config : EngineConfig)
    (advertisement : ResourceAdvertisement) : Fails PlainCode (publishResourceState state config advertisement).2 := by
  unfold publishResourceState
  split
  · rename_i status refused
    intro other same
    cases same
    exact publishChecks_plain _ _ _ _ refused
  · dsimp only
    split
    · exact .fail (by decide) _
    · split
      · rename_i status refused
        intro other same
        cases same
        exact publishLiveChecks_plain _ _ _ refused
      · split
        · rename_i status refused
          intro other same
          cases same
          exact validateResourceRecord_plain _ _ _ refused
        · exact .ok _

end Resources

/-- A record that the publication of the advertisement may renew. -/
structure ResourceRecord.Admits (record : ResourceRecord) (advertisement : ResourceAdvertisement) : Prop where
  worker : record.worker = advertisement.worker
  lifecycle : record.lifecycle ≠ .retired
  resourceClass : record.resourceClass = advertisement.resourceClass
  fits : advertisement.advertisedOccupancy.toNat + record.reservedSlots.toNat ≤ advertisement.capacity.slots.toNat

/-- The coordinator takes the advertisement, with `size` resources registered. -/
structure SchedulerState.Takes (state : SchedulerState) (limits : Limits) (size : Nat)
    (advertisement : ResourceAdvertisement) : Prop where
  valid : validateAdvertisement advertisement limits = .ok ()
  running : state.shuttingDown = false
  room : size < limits.maxResources.toNat
  admits : ∀ record, state.resources.find? advertisement.id = some record → record.Admits advertisement

def SchedulerState.Entered (state : SchedulerState) (worker : WorkerId) (boot : WorkerBootId) : Prop :=
  ∃ record, state.workers.find? worker = some record ∧ record.boot = boot

/-- A registration, and a publication if the resource is registered already. -/
def advertised (state : SchedulerState) (config : EngineConfig) (advertisement : ResourceAdvertisement) :
    SchedulerState × Bool :=
  match registerResource state config advertisement with
  | (state, .ok _) => (state, true)
  | (state, .error status) =>
    if status.code = .duplicateIdentity then
      ((publishResourceState state config advertisement).1, (publishResourceState state config advertisement).2.isOk)
    else (state, false)

/-- What the advertisement leaves: nothing but worker records, audit records and one resource are touched. -/
structure Advertised (before after : SchedulerState) (worker : WorkerId) (boot : WorkerBootId)
    (resources : ResourceTable) : Prop where
  resources : after.resources = resources
  same : after.epoch = before.epoch ∧ after.shuttingDown = before.shuttingDown
  placements : after.placements = before.placements
  reservations : after.reservations = before.reservations
  requests : after.requests = before.requests
  entered : after.Entered worker boot

/-- The record of the resource once the advertisement is taken. -/
def SchedulerState.announced (state : SchedulerState) (advertisement : ResourceAdvertisement) : ResourceRecord :=
  match state.resources.find? advertisement.id with
  | none => registeredRecord state.epoch (normalizeAdvertisement advertisement)
  | some record => publishedRecord state.epoch (normalizeAdvertisement advertisement) record

section Advertising

variable {state : SchedulerState} {config : EngineConfig} {advertisement : ResourceAdvertisement} {worker : WorkerId}
  {boot : WorkerBootId}

theorem adoptWorkerIncarnation_entered (entered : state.Entered worker boot) (config : EngineConfig) (detail : Text) :
    Advertised state (adoptWorkerIncarnation state config worker boot detail).1 worker boot state.resources := by
  have still := adoptWorkerIncarnation_boot state config worker boot detail
  obtain ⟨record, found, same⟩ := entered
  unfold adoptWorkerIncarnation at still ⊢
  simp only [found, if_pos same] at still ⊢
  exact ⟨rfl, ⟨rfl, rfl⟩, rfl, rfl, rfl, still⟩

theorem adoptOwner_entered (named : advertisement.worker.isNull = false)
    (entered : state.Entered advertisement.worker advertisement.boot) :
    Advertised state (adoptOwner state config advertisement) advertisement.worker advertisement.boot
      state.resources := by
  unfold adoptOwner
  rw [if_neg (by rw [named]; exact Bool.false_ne_true)]
  exact adoptWorkerIncarnation_entered entered ..

theorem adoptPublisher_entered (entered : state.Entered advertisement.worker advertisement.boot)
    (record : ResourceRecord) :
    Advertised state (adoptPublisher state config advertisement record) advertisement.worker advertisement.boot
      state.resources := by
  unfold adoptPublisher
  split
  · exact adoptWorkerIncarnation_entered entered ..
  · exact ⟨rfl, ⟨rfl, rfl⟩, rfl, rfl, rfl, entered⟩

theorem registerResource_taken (named : advertisement.worker.isNull = false)
    (entered : state.Entered advertisement.worker advertisement.boot)
    (accepted : registerChecks state config advertisement = .ok ()) :
    (registerResource state config advertisement).2.isOk ∧
      Advertised state (registerResource state config advertisement).1 advertisement.worker advertisement.boot
        (state.resources.set (registeredRecord state.epoch (normalizeAdvertisement advertisement))) := by
  have owner : Advertised state (adoptOwner state config (normalizeAdvertisement advertisement)) advertisement.worker
      advertisement.boot state.resources := 
        @adoptOwner_entered state config (normalizeAdvertisement advertisement) named entered
  have absent : state.resources.find? advertisement.id = none := by
    simp only [registerChecks, check_bind_ok, check_ok] at accepted
    exact accepted.2.2.2
  unfold registerResource
  simp only [accepted, registeredRecord_valid _ accepted]
  refine ⟨rfl, ?_, owner.same, owner.placements, owner.reservations, owner.requests, owner.entered⟩
  change (adoptOwner state config (normalizeAdvertisement advertisement)).resources.emplace _ = _
  rw [owner.resources, owner.same.1]
  exact Table.emplace_fresh absent

theorem publishLiveChecks_admits {live : ResourceRecord} :
    publishLiveChecks (normalizeAdvertisement advertisement) live = .ok () ↔
      live.resourceClass = advertisement.resourceClass ∧
        advertisement.advertisedOccupancy.toNat + live.reservedSlots.toNat ≤ advertisement.capacity.slots.toNat := by
  have occupancy := advertisement.advertisedOccupancy.toNat_lt
  have reserved := live.reservedSlots.toNat_lt
  simp only [publishLiveChecks, check_bind_ok, check_ok, UInt64.le_iff_toNat_le, UInt32.le_iff_toNat_le,
    UInt64.toNat_add, UInt32.toNat_toUInt64]
  change live.resourceClass = advertisement.resourceClass ∧
    live.reservedSlots.toNat ≤ advertisement.capacity.slots.toNat ∧
    (advertisement.advertisedOccupancy.toNat + live.reservedSlots.toNat) % 2 ^ 64 ≤
      advertisement.capacity.slots.toNat ↔ _
  refine and_congr_right fun _ => ?_
  omega

theorem publishResourceState_taken {record : ResourceRecord}
    (entered : state.Entered advertisement.worker advertisement.boot)
    (found : state.resources.find? advertisement.id = some record) :
    ((publishResourceState state config advertisement).2.isOk ↔
      validateAdvertisement advertisement config.limits = .ok () ∧ state.shuttingDown = false ∧
        record.Admits advertisement) ∧
      Advertised state (publishResourceState state config advertisement).1 advertisement.worker advertisement.boot
        (if (publishResourceState state config advertisement).2.isOk then
          state.resources.set (publishedRecord state.epoch (normalizeAdvertisement advertisement) record)
        else state.resources) := by
  have checks : publishChecks state config advertisement = .ok record ↔
      validateAdvertisement advertisement config.limits = .ok () ∧ state.shuttingDown = false ∧
        record.worker = advertisement.worker ∧ record.lifecycle ≠ .retired := by
    simp only [publishChecks, found, check_bind_ok, check_ok]
    have plain : (pure record : Except Status ResourceRecord) = .ok record := rfl
    simp only [plain, and_true]
  by_cases accepted : publishChecks state config advertisement = .ok record
  · have taken := checks.mp accepted
    have owner : Advertised state (adoptPublisher state config (normalizeAdvertisement advertisement) record)
        advertisement.worker advertisement.boot state.resources :=
      @adoptPublisher_entered state config (normalizeAdvertisement advertisement) entered record
    have there : (adoptPublisher state config (normalizeAdvertisement advertisement) record).resources.find?
        (normalizeAdvertisement advertisement).id = some record := by
      rw [owner.resources]
      exact found
    unfold publishResourceState
    simp only [accepted, there]
    cases lives : publishLiveChecks (normalizeAdvertisement advertisement) record with
    | error status =>
      have unfit : ¬ record.Admits advertisement := by
        intro admits
        rw [publishLiveChecks_admits.mpr ⟨admits.resourceClass, admits.fits⟩] at lives
        cases lives
      exact ⟨⟨fun taken => (by cases taken), fun taken => absurd taken.2.2 unfit⟩, owner⟩
    | ok =>
      obtain ⟨resourceClass, fits⟩ := publishLiveChecks_admits.mp lives
      simp only [publishedRecord_valid _ accepted lives]
      refine ⟨⟨fun _ => ⟨taken.1, taken.2.1, taken.2.2.1, taken.2.2.2, resourceClass, fits⟩, fun _ => rfl⟩, ?_⟩
      refine ⟨?_, owner.same, owner.placements, owner.reservations, owner.requests, owner.entered⟩
      change (adoptPublisher state config (normalizeAdvertisement advertisement) record).resources.set _ = _
      rw [owner.resources, owner.same.1]
      rfl
  · have refused : ∃ status, publishChecks state config advertisement = .error status := by
      cases checked : publishChecks state config advertisement with
      | error status => exact ⟨status, rfl⟩
      | ok other =>
        cases (publishChecks_found checked).symm.trans found
        exact absurd checked accepted
    obtain ⟨status, refused⟩ := refused
    unfold publishResourceState
    simp only [refused]
    refine ⟨⟨fun taken => (by cases taken), fun taken => ?_⟩, rfl, ⟨rfl, rfl⟩, rfl, rfl, rfl, entered⟩
    exact absurd (checks.mpr ⟨taken.1, taken.2.1, taken.2.2.worker, taken.2.2.lifecycle⟩) accepted

theorem advertised_takes (named : advertisement.worker.isNull = false)
    (entered : state.Entered advertisement.worker advertisement.boot) :
    ((advertised state config advertisement).2 = true ↔ state.Takes config.limits state.resources.size advertisement) ∧
      Advertised state (advertised state config advertisement).1 advertisement.worker advertisement.boot
        (if (advertised state config advertisement).2 then state.resources.set (state.announced advertisement)
        else state.resources) := by
  have checks (takes : state.Takes config.limits state.resources.size advertisement) :
      registerChecks state config advertisement =
        check (state.resources.find? advertisement.id = none) .duplicateIdentity
          (ascii "resource is already registered: " ++ advertisement.id.toText) := by
    unfold registerChecks
    rw [takes.valid, check_ok.mpr takes.running, check_ok.mpr takes.room]
    rfl
  have same : Advertised state state advertisement.worker advertisement.boot state.resources :=
    ⟨rfl, ⟨rfl, rfl⟩, rfl, rfl, rfl, entered⟩
  cases registers : registerChecks state config advertisement with
  | ok =>
    have whole := registers
    simp only [registerChecks, check_bind_ok, check_ok] at whole
    obtain ⟨valid, running, room, absent⟩ := whole
    have absent := check_ok.mp absent
    obtain ⟨taken, after⟩ := registerResource_taken named entered registers
    have record :
        state.announced advertisement = registeredRecord state.epoch (normalizeAdvertisement advertisement) := by
      unfold SchedulerState.announced
      rw [absent]
    unfold advertised
    rw [record]
    generalize registerResource state config advertisement = registered at taken after ⊢
    obtain ⟨later, result | result⟩ := registered
    · cases taken
    · refine ⟨⟨fun _ => ⟨valid, running, room, fun other found => ?_⟩, fun _ => rfl⟩, after⟩
      rw [absent] at found
      cases found
  | error status =>
    obtain ⟨-, duplicates⟩ := registerChecks_fails registers
    have refused : registerResource state config advertisement = (state, .error status) := by
      unfold registerResource
      simp only [registers]
    by_cases duplicate : status.code = .duplicateIdentity
    · obtain ⟨room, known, -⟩ := duplicates duplicate
      obtain ⟨record, found⟩ := Option.ne_none_iff_exists'.mp known
      obtain ⟨taken, after⟩ := @publishResourceState_taken _ config _ _ entered found
      have announced : state.announced advertisement =
          publishedRecord state.epoch (normalizeAdvertisement advertisement) record := by
        unfold SchedulerState.announced
        rw [found]
      simp only [advertised, refused, if_pos duplicate, announced]
      refine ⟨taken.trans ⟨fun taken => ⟨taken.1, taken.2.1, room, fun other there => ?_⟩, fun takes => ?_⟩, after⟩
      · cases found.symm.trans there
        exact taken.2.2
      · exact ⟨takes.valid, takes.running, takes.admits record found⟩
    · simp only [advertised, refused, if_neg duplicate]
      refine ⟨⟨fun taken => (by cases taken), fun takes => ?_⟩, same⟩
      rw [checks takes] at registers
      exact absurd (check_code registers) duplicate

end Advertising

/-- The coordinator takes one advertisement after the other, the resources that are new counted as they come. -/
def SchedulerState.TakesAll (state : SchedulerState) (limits : Limits) : Nat → List ResourceAdvertisement → Prop
  | _, [] => True
  | size, advertisement :: rest =>
    state.Takes limits size advertisement ∧
      state.TakesAll limits (size + if (state.resources.find? advertisement.id).isNone then 1 else 0) rest

/-- What the advertisements that were taken leave of the state: their resources are announced, and the other resources,
    the requests, the placements and the reservations are as they were. -/
structure Announced (start state : SchedulerState) (worker : WorkerId) (boot : WorkerBootId)
    (taken : List ResourceAdvertisement) : Prop where
  same : state.epoch = start.epoch ∧ state.shuttingDown = start.shuttingDown
  requests : state.requests = start.requests
  placements : state.placements = start.placements
  reservations : state.reservations = start.reservations
  entered : state.Entered worker boot
  announced : ∀ advertisement ∈ taken, state.resources.find? advertisement.id = some (start.announced advertisement)
  others : ∀ id, id ∉ taken.map Description.id → state.resources.find? id = start.resources.find? id

namespace Announced

variable {start state : SchedulerState} {config : EngineConfig} {worker : WorkerId} {boot : WorkerBootId}
  {taken : List ResourceAdvertisement} {advertisement : ResourceAdvertisement}

theorem announced_id (state : SchedulerState) (advertisement : ResourceAdvertisement) :
    (state.announced advertisement).id = advertisement.id := by
  unfold SchedulerState.announced
  cases state.resources.find? advertisement.id <;> rfl

theorem step (announced : Announced start state worker boot taken)
    (named : worker.isNull = false) (owned : advertisement.worker = worker ∧ advertisement.boot = boot)
    (new : advertisement.id ∉ taken.map Description.id) :
    ((advertised state config advertisement).2 = true ↔ start.Takes config.limits state.resources.size advertisement) ∧
      ((advertised state config advertisement).2 = true →
        Announced start (advertised state config advertisement).1 worker boot (taken ++ [advertisement]) ∧
          (advertised state config advertisement).1.resources.size =
            state.resources.size + if (start.resources.find? advertisement.id).isNone then 1 else 0) ∧
      ((advertised state config advertisement).2 = false →
        Announced start (advertised state config advertisement).1 worker boot taken) := by
  obtain ⟨rfl, rfl⟩ := owned
  have found := announced.others advertisement.id new
  have takes : state.Takes config.limits state.resources.size advertisement ↔
      start.Takes config.limits state.resources.size advertisement := by
    constructor
    · intro takes
      exact ⟨takes.valid, announced.same.2 ▸ takes.running, takes.room, found ▸ takes.admits⟩
    · intro takes
      exact ⟨takes.valid, announced.same.2.trans takes.running, takes.room, found.symm ▸ takes.admits⟩
  have record : state.announced advertisement = start.announced advertisement := by
    unfold SchedulerState.announced
    rw [found, announced.same.1]
  obtain ⟨exactly, after⟩ := @advertised_takes state config _ named announced.entered
  refine ⟨exactly.trans takes, fun taken' => ?_, fun refused => ?_⟩
  · rw [if_pos taken', record] at after
    have key := announced_id start advertisement
    refine ⟨⟨⟨after.same.1.trans announced.same.1, after.same.2.trans announced.same.2⟩,
      after.requests.trans announced.requests, after.placements.trans announced.placements,
      after.reservations.trans announced.reservations, after.entered, fun other member => ?_, fun id apart => ?_⟩, ?_⟩
    · rw [after.resources]
      rcases List.mem_append.mp member with earlier | last
      · have apart : (start.announced advertisement).id ≠ other.id := by
          rw [key]
          exact fun same => new (same ▸ List.mem_map_of_mem earlier)
        exact (Table.find?_set_ne state.resources apart).trans (announced.announced other earlier)
      · obtain rfl := List.mem_singleton.mp last
        rw [← key]
        exact Table.find?_set_self ..
    · rw [List.map_append, List.mem_append, not_or] at apart
      have other : (start.announced advertisement).id ≠ id := by
        rw [key]
        exact fun same => apart.2 (List.mem_singleton.mpr same.symm)
      rw [after.resources]
      exact (Table.find?_set_ne state.resources other).trans (announced.others id apart.1)
    · rw [after.resources, Table.size_set]
      rw [key, found]
  · rw [refused, if_neg Bool.false_ne_true] at after
    exact ⟨⟨after.same.1.trans announced.same.1, after.same.2.trans announced.same.2⟩,
      after.requests.trans announced.requests, after.placements.trans announced.placements,
      after.reservations.trans announced.reservations, after.entered,
      fun other member => after.resources ▸ announced.announced other member,
      fun id apart => after.resources ▸ announced.others id apart⟩

end Announced

end LabScheduler
