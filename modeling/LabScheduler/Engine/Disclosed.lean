import LabScheduler.Engine.Soundness
import LabScheduler.Engine.Validated

namespace LabScheduler

open Foundation

def TopologyDescriptor.Disclosed (topology : TopologyDescriptor) : Prop :=
  topology.supplied = false → ∀ scope, (topology.domain scope).id.isNull

structure Disclosed (state : SchedulerState) : Prop where
  resources : ∀ resource ∈ state.resources.entries, resource.topology.Disclosed

/-- What an operation brings into the tables names no domain it did not supply. -/
def Engine.Discloses (engine : Engine) : Operation → Prop
  | .registerResource advertisement => ∀ mid record,
      Registers engine.state engine.config advertisement mid record → advertisement.topology.Disclosed
  | .publishResourceState advertisement => ∀ mid live,
      Publishes engine.state engine.config advertisement mid live → advertisement.topology.Disclosed
  | .importState durable => importChecks engine.state durable = .ok () →
      ∀ resource ∈ durable.resources, resource.topology.Disclosed
  | _ => True

namespace Disclosed

variable {state after : SchedulerState}

theorem evolve (disclosed : Disclosed state)
    (resources : Table.Evolves ResourceRecord.Lapses state.resources after.resources) : Disclosed after := by
  constructor
  intro resource member
  obtain ⟨before, there, -, lapses⟩ := resources.of_mem member
  have same : resource.topology = before.topology := congrArg (fun offer => offer.topology) lapses.offer
  rw [same]
  exact disclosed.resources before there

theorem change (change : Change state after) (disclosed : Disclosed state) : Disclosed after :=
  disclosed.evolve change.resources

theorem write (write : RequestWrite state after) (disclosed : Disclosed state) : Disclosed after := by
  cases write <;> exact ⟨disclosed.resources⟩

theorem register {record : ResourceRecord} (disclosed : Disclosed state) (named : record.topology.Disclosed) :
    Disclosed { state with resources := state.resources.emplace record } := by
  refine ⟨fun resource member => ?_⟩
  rcases Table.mem_emplace member with rfl | there
  · exact named
  · exact disclosed.resources resource there

theorem publish {advertisement : ResourceAdvertisement} {live : ResourceRecord} (disclosed : Disclosed state)
    (named : advertisement.topology.Disclosed) : Disclosed (publishWrite state advertisement live) := by
  refine ⟨fun resource member => ?_⟩
  rcases Table.mem_set.mp member with rfl | ⟨there, -⟩
  · exact named
  · exact disclosed.resources resource there

theorem recover {durable : DurableState} (rebuilt : Rebuilt durable state after)
    (named : ∀ resource ∈ durable.resources, resource.topology.Disclosed) : Disclosed after := by
  refine ⟨fun resource member => ?_⟩
  obtain ⟨persisted, there, rfl⟩ := rebuilt.resources resource member
  have disclosed := named persisted there
  simp only [recoveredResource]
  split <;> exact disclosed

theorem booked {turns : List (CandidateResource × ResourceRequirement)} {selected : List SelectedResource}
    {claims : List ReservationClaim} (disclosed : Disclosed state)
    (booked : Booked state.resources turns after.resources selected claims) : Disclosed after := by
  refine ⟨fun resource member => ?_⟩
  obtain ⟨before, there, reserved, rfl⟩ := booked.of_mem member
  exact disclosed.resources before there

theorem scheduled {config : EngineConfig} {ids : IdGenerator} {stored : StoredRequest}
    {generation : PlacementGeneration} {reassignments : UInt32} {scheduled : Scheduled}
    (result : ScheduleResult state config ids stored generation reassignments scheduled)
    (disclosed : Disclosed state) : Disclosed scheduled.state := by
  obtain ⟨turns, selected, claims, booked⟩ := result.booked
  exact disclosed.booked booked

theorem step {engine : Engine} {operation : Operation} (disclosed : Disclosed engine.state)
    (discloses : engine.Discloses operation) : Disclosed (engine.step operation).1.state := by
  refine Engine.step_preserves Disclosed.change Disclosed.write ?_ ?_ ?_ ?_ disclosed
  · rintro advertisement mid record rfl registers disclosed
    refine disclosed.register ?_
    rw [registers.made]
    exact discloses mid record registers
  · rintro advertisement mid live rfl publishes disclosed
    exact disclosed.publish (discloses mid live publishes)
  · intro call _ disclosed
    exact disclosed.scheduled scheduleLocked_result
  · rintro durable rfl accepted
    exact Disclosed.recover (rebuildState_rebuilt accepted) (discloses accepted)

theorem runs {engine : Engine} {operations : List Operation}
    (guarded : Guarded Engine.step Engine.Discloses engine operations) (disclosed : Disclosed engine.state) :
    Disclosed (engine.runs operations).state := by
  exact Engine.runs_preserve (fun _ _ _ sofar discloses => Disclosed.step sofar discloses) guarded disclosed

theorem fresh (config : EngineConfig) : Disclosed (Engine.fresh config).state :=
  ⟨fun _ member => absurd member List.not_mem_nil⟩

end Disclosed

/-- The constraint holds between position `i` and another position. -/
def GroupConstraint.Covers (constraint : GroupConstraint) (requirements : List ResourceRequirement) (i : Nat) : Prop :=
  ∃ j first second, j ≠ i ∧ requirements[i]? = some first ∧ requirements[j]? = some second ∧
    (first.affinityGroup = constraint.groupA ∧ second.affinityGroup = constraint.groupB ∨
      first.affinityGroup = constraint.groupB ∧ second.affinityGroup = constraint.groupA)

theorem Colocated.known {a b : ResourceRecord} {scope : TopologyScope} (colocated : Colocated a b scope) :
    (a.topology.domain scope).id.isNull = false ∧ (b.topology.domain scope).id.isNull = false :=
  ⟨colocated.1, colocated.2 ▸ colocated.1⟩

theorem Separated.known {a b : ResourceRecord} {scope : TopologyScope} (separated : Separated a b scope) :
    (a.topology.domain scope).id.isNull = false ∧ (b.topology.domain scope).id.isNull = false :=
  ⟨separated.1, separated.2.1⟩

theorem BetweenGroups.known {records : List ResourceRecord} {requirements : List ResourceRequirement}
    {constraint : GroupConstraint} {holds : ResourceRecord → ResourceRecord → TopologyScope → Prop}
    (between : BetweenGroups (records.zip requirements) constraint holds)
    (both : ∀ {a b}, holds a b constraint.scope → (a.topology.domain constraint.scope).id.isNull = false ∧
      (b.topology.domain constraint.scope).id.isNull = false)
    (length : records.length = requirements.length) {i : Nat} {resource : ResourceRecord}
    (here : records[i]? = some resource) (covers : constraint.Covers requirements i) :
    (resource.topology.domain constraint.scope).id.isNull = false := by
  obtain ⟨j, first, second, -, at_i, at_j, groups⟩ := covers
  have inside : j < records.length := length ▸ (List.getElem?_eq_some_iff.mp at_j).1
  have there : records[j]? = some records[j] := List.getElem?_eq_getElem inside
  have pair : (resource, first) ∈ records.zip requirements :=
    List.mem_of_getElem? (List.getElem?_zip_eq_some.mpr ⟨here, at_i⟩)
  have other : (records[j], second) ∈ records.zip requirements :=
    List.mem_of_getElem? (List.getElem?_zip_eq_some.mpr ⟨there, at_j⟩)
  rcases groups with ⟨groupA, groupB⟩ | ⟨groupB, groupA⟩
  · exact (both (between _ pair _ other groupA groupB)).1
  · exact (both (between _ other _ pair groupA groupB)).2

theorem Pinned.none_of_isNull {requirement : ResourceRequirement} {domain : TopologyDomainId}
    (pinned : Pinned requirement.requiredDomain domain) (unknown : domain.isNull)
    (known : ∀ id, requirement.requiredDomain = some id → id.isNull = false) :
    requirement.requiredDomain = none := by
  cases wanted : requirement.requiredDomain with
  | none => rfl
  | some id =>
    have same := pinned id wanted
    rw [same, known id wanted] at unknown
    cases unknown

theorem domainTest_mem (request : ScheduleRequest) (requirement : ResourceRequirement) (resource : ResourceRecord) :
    (mismatches requirement.requiredDomain (resource.topology.domain requirement.requiredDomainScope).id,
      RejectReason.topologyMismatch) ∈ hardTests request requirement resource := by
  have tenth : (hardTests request requirement resource)[9]? = some (mismatches requirement.requiredDomain
    (resource.topology.domain requirement.requiredDomainScope).id, .topologyMismatch) := rfl
  exact List.mem_of_getElem? tenth

/-- While nothing unsupplied names a domain, no unsupplied topology meets a pinned domain, and none is
    committed where an affinity or an anti-affinity constraint looks. -/
theorem unsupplied_no_evidence {config : EngineConfig} (reasons : 1 ≤ config.limits.maxRejectionReasonsPerEntry)
    {operations : List Operation} (guarded : Guarded Engine.step Engine.Discloses (Engine.fresh config) operations)
    {operation : Operation} {call : SchedulingCall}
    (calls : ((Engine.fresh config).runs operations).Calls operation call) :
    (∀ requirement ∈ call.stored.request.requirements, requirement.requiredDomain ≠ none →
      ∀ resource ∈ call.state.resources.entries, resource.topology.supplied = false →
        (evaluateResource call.stored.request requirement resource config.limits).eligible = false) ∧
    ∀ decision, (call.scheduled config ((Engine.fresh config).runs operations).ids).result = .ok decision →
      decision.outcome = .placed → ∀ (i : Nat) requirement selected resource,
        call.stored.request.requirements[i]? = some requirement →
        decision.placement.resources[i]? = some selected →
        call.state.resources.find? selected.resource = some resource → resource.topology.supplied = false →
        requirement.requiredDomain = none ∧
          ∀ constraint ∈ call.stored.request.affinity ++ call.stored.request.antiAffinity,
            ¬ constraint.Covers call.stored.request.requirements i := by
  have disclosed : Disclosed call.state :=
    calls.preserve Disclosed.change Disclosed.write (.runs guarded (.fresh config))
  obtain ⟨bounds, valid⟩ :=
    (Validated.call calls (.runs config operations)).requests call.stored (Table.mem_of_find? calls.recorded)
  obtain ⟨-, requirements⟩ := validateScheduleRequest_requirements valid
  have known (requirement) (member : requirement ∈ call.stored.request.requirements) (id)
      (pinned : requirement.requiredDomain = some id) : id.isNull = false :=
    validateRequirements_domain requirements member pinned
  constructor
  · intro requirement member pinned resource there unsupplied
    by_contra eligible
    obtain ⟨-, passed⟩ := evaluateResource_eligible reasons (Bool.eq_true_of_not_eq_false eligible)
    have unknown := disclosed.resources resource there unsupplied requirement.requiredDomainScope
    have domain : Pinned requirement.requiredDomain (resource.topology.domain requirement.requiredDomainScope).id :=
      mismatches_eq_false.mp (passed _ (domainTest_mem ..))
    exact pinned (domain.none_of_isNull unknown (known requirement member))
  · intro decision decided placed i requirement selected resource demanded chosen found unsupplied
    obtain ⟨records, looked, each, together⟩ := calls.meetsConstraints reasons decided placed
    obtain ⟨record, here, there⟩ := forall₂_getElem? looked chosen
    cases there.symm.trans found
    have unknown := disclosed.resources resource (Table.mem_of_find? found) unsupplied
    have length : records.length = call.stored.request.requirements.length := by
      have pairs := each.length_eq
      rw [List.length_zip, looked.length_eq, Nat.min_self] at pairs
      exact pairs.symm
    refine ⟨?_, fun constraint member covers => ?_⟩
    · obtain ⟨pair, paired, meets⟩ := forall₂_getElem? each demanded
      obtain ⟨first, -⟩ := List.getElem?_zip_eq_some.mp paired
      cases first.symm.trans here
      exact meets.domain.none_of_isNull (unknown _) (known requirement (List.mem_of_getElem? demanded))
    · have seen : (resource.topology.domain constraint.scope).id.isNull = false := by
        rcases List.mem_append.mp member with affinity | antiAffinity
        · exact (together.affinity constraint affinity).known Colocated.known length here covers
        · exact (together.antiAffinity constraint antiAffinity).known Separated.known length here covers
      rw [unknown constraint.scope] at seen
      cases seen

namespace Bench

/-- The bench on a host it names, and says it did not supply. -/
def undisclosed : ResourceAdvertisement :=
  { advertisement with topology := { host := { id := ⟨3⟩ } } }

def pinned (id experiment : UInt64) : ScheduleRequest :=
  { request id experiment with
    requirements := [{ name := ascii "slot", requiredDomain := some ⟨3⟩ }] }

end Bench

theorem unsupplied_no_evidence_bench :
    (∀ requirement ∈ Bench.survey.requirements, requirement.requiredDomain ≠ none →
      ∀ resource ∈ Bench.surveyCall.state.resources.entries, resource.topology.supplied = false →
        (evaluateResource Bench.survey requirement resource {}).eligible = false) ∧
    ∃ decision : Decision, decision.placement.resources.map SelectedResource.resource = [⟨9⟩, ⟨8⟩, ⟨7⟩] ∧
      ∀ (i : Nat) requirement selected resource, Bench.survey.requirements[i]? = some requirement →
        decision.placement.resources[i]? = some selected →
        Bench.surveyCall.state.resources.find? selected.resource = some resource →
        resource.topology.supplied = false →
        requirement.requiredDomain = none ∧
          ∀ constraint ∈ Bench.survey.affinity ++ Bench.survey.antiAffinity,
            ¬ constraint.Covers Bench.survey.requirements i := by
  have silent : Bench.advertisement.topology.Disclosed := fun _ scope => by cases scope <;> rfl
  have supplied (id : UInt64) (slots : UInt32) : (Bench.probing id slots).topology.Disclosed := nofun
  have guarded : Guarded Engine.step Engine.Discloses (Engine.fresh {}) Bench.lab :=
    ⟨fun _ _ _ => silent, fun _ _ _ => supplied 8 1, fun _ _ _ => supplied 9 2, trivial⟩
  obtain ⟨decision, result, placed, chosen⟩ := Bench.surveyCall_placed
  obtain ⟨ineligible, uncovered⟩ := unsupplied_no_evidence (by decide) guarded Bench.surveyCall_calls
  exact ⟨ineligible, decision, chosen, uncovered decision result placed⟩

/-- The host counts although it was not supplied. -/
theorem unsupplied_domain_pinned :
    ((Engine.fresh {}).runs [.registerResource Bench.undisclosed]).state.resources.entries.map
        (fun resource => (resource.id, resource.topology.supplied)) = [(⟨7⟩, false)] ∧
      validateScheduleRequest (Bench.pinned 5 1) {} = .ok () ∧
      ((submitRequest ((Engine.fresh {}).runs [.registerResource Bench.undisclosed]).state {} {}
          (Bench.pinned 5 1)).result.toOption.map fun decision =>
        (decision.outcome, decision.placement.resources.map SelectedResource.resource)) =
        some (.placed, [⟨7⟩]) := by
  decide

end LabScheduler
