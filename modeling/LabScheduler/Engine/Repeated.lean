import LabScheduler.Engine.Rejections

namespace LabScheduler

open Foundation

def WorkerRecord.undetailed (worker : WorkerId) (record : WorkerRecord) : WorkerRecord :=
  if record.id = worker then { record with detail := [] } else record

theorem WorkerRecord.undetailed_id (worker : WorkerId) (record : WorkerRecord) :
    (record.undetailed worker).id = record.id := by
  unfold undetailed
  split <;> rfl

/-- The state without its audit log and without the text of one worker's record. -/
def SchedulerState.undetailed (state : SchedulerState) (worker : WorkerId) : SchedulerState :=
  { state.unaudited with
    workers := state.workers.mapEntries (WorkerRecord.undetailed worker) (WorkerRecord.undetailed_id worker) }

structure ResourceLossReport.TookNothing (report : ResourceLossReport) : Prop where
  resources : report.invalidatedResources = []
  placements : report.affectedPlacements = []
  reservations : report.releasedReservations = []

section Loss

variable {state after : SchedulerState} {worker : WorkerId} {boot : WorkerBootId}

theorem ResourceRecord.Rebooked.heldBy {before later : ResourceRecord} (rebooked : before.Rebooked later) :
    later.heldBy worker boot = before.heldBy worker boot := by
  unfold ResourceRecord.Rebooked at rebooked
  rw [← rebooked]
  rfl

theorem ResourceRecord.loseIncarnation_heldBy (resource : ResourceRecord) :
    (resource.loseIncarnation worker boot).heldBy worker boot = false := by
  unfold loseIncarnation
  split
  · simp [ResourceRecord.heldBy, invalidate]
  · rename_i free
    exact Bool.eq_false_of_not_eq_true free

theorem PlacementRecord.touches_mono {placement : PlacementRecord} {affected others : List ResourceId}
    (part : affected ⊆ others) (touches : placement.touches worker boot affected) :
    placement.touches worker boot others := by
  unfold PlacementRecord.touches at *
  simp only [Bool.or_eq_true, List.any_eq_true, List.contains_iff_mem] at *
  rcases touches with own | ⟨selected, member, held⟩
  · exact .inl own
  · exact .inr ⟨selected, member, part held⟩

theorem Swept.unbound
    (swept : Swept (invalidateResources state worker boot) (takes worker boot (state.heldBy (worker, boot)))
      state.placements.keys after) : ¬ after.Binds (worker, boot) := by
  have free : ∀ resource ∈ after.resources.entries, resource.heldBy worker boot = false := by
    intro resource member
    obtain ⟨before, there, -, rebooked⟩ := swept.resources.of_mem member
    obtain ⟨original, -, rfl⟩ := List.mem_map.mp there
    rw [ResourceRecord.Rebooked.heldBy rebooked]
    exact original.loseIncarnation_heldBy
  have none : after.heldBy (worker, boot) = [] := by
    unfold SchedulerState.heldBy
    rw [List.map_eq_nil_iff, List.filter_eq_nil_iff]
    intro resource member
    rw [free resource member]
    exact Bool.false_ne_true
  intro binds
  rcases binds with ⟨resource, member, held⟩ | ⟨placement, member, taken⟩
  · rw [free resource member] at held
    cases held
  · rw [none] at taken
    obtain ⟨live, touches⟩ := Bool.and_eq_true_iff.mp taken
    have spared : takes worker boot (state.heldBy (worker, boot)) placement = false :=
      (@Swept.remains state after (worker, boot) swept placement member live).2
    have taken : takes worker boot (state.heldBy (worker, boot)) placement = true :=
      Bool.and_eq_true_iff.mpr ⟨live, PlacementRecord.touches_mono (List.nil_subset _) touches⟩
    rw [spared] at taken
    cases taken

theorem pushAudit_undetailed (state : SchedulerState) (config : EngineConfig) (kind detail : Text) :
    (pushAudit state config kind detail).undetailed worker = state.undetailed worker := rfl

theorem disconnectWorker_again (state : SchedulerState) (detail : Text)
    (gone : ∀ record, state.workers.find? worker = some record → record.boot = boot → record.connected = false) :
    (disconnectWorker state worker boot detail).undetailed worker = state.undetailed worker := by
  unfold disconnectWorker
  split
  · rfl
  · rename_i record found
    split
    · rename_i current
      have named : record.id = worker := Table.key_of_find? found
      have away := gone record found current
      let written : WorkerRecord := { record with connected := false, detail := detail }
      have there : state.workers.find? written.id = some record := named ▸ found
      have same : written.undetailed worker = record.undetailed worker := by
        unfold WorkerRecord.undetailed
        rw [if_pos named, if_pos (show written.id = worker from named)]
        change { record with connected := false, detail := [] } = ({ record with detail := [] } : WorkerRecord)
        rw [← away]
      have workers : (state.workers.set written).mapEntries (WorkerRecord.undetailed worker)
          (WorkerRecord.undetailed_id worker) = state.workers.mapEntries (WorkerRecord.undetailed worker)
          (WorkerRecord.undetailed_id worker) := Table.mapEntries_set there same
      change { state.unaudited with
        workers := (state.workers.set written).mapEntries (WorkerRecord.undetailed worker)
          (WorkerRecord.undetailed_id worker) } = _
      rw [workers]
      rfl
    · rfl

theorem disconnectWorker_gone (state : SchedulerState) (detail : Text) :
    ∀ record, (disconnectWorker state worker boot detail).workers.find? worker = some record → record.boot = boot →
      record.connected = false := by
  intro record there current
  unfold disconnectWorker at there
  cases found : state.workers.find? worker with
  | none =>
    rw [found] at there
    cases found.symm.trans there
  | some before =>
    have named : before.id = worker := Table.key_of_find? found
    simp only [found] at there
    split at there
    · rw [Table.find?_set, if_pos named] at there
      cases there
      rfl
    · rename_i other
      cases found.symm.trans there
      exact absurd current other

theorem invalidateWorkerIncarnation_gone (state : SchedulerState) (config : EngineConfig) (detail : Text) :
    ∀ record, (invalidateWorkerIncarnation state config worker boot detail).1.workers.find? worker = some record →
      record.boot = boot → record.connected = false := by
  unfold invalidateWorkerIncarnation
  exact disconnectWorker_gone _ detail

end Loss

/-- A loss reported again changes nothing but the audit log and the text of the worker's record, and takes nothing. -/
theorem loss_idempotent (state : SchedulerState) (config : EngineConfig) (worker : WorkerId) (boot : WorkerBootId)
    (detail again : Text) :
    let once := (markWorkerLost state config worker boot detail).1
    let twice := markWorkerLost once config worker boot again
    twice.1.undetailed worker = once.undetailed worker ∧ twice.2.TookNothing := by
  intro once twice
  cases accepted : lostChecks state worker boot with
  | error status =>
    have same : once = state := by simp only [once, markWorkerLost, accepted]
    have refused : twice = (state, { status := status }) := by simp only [twice, markWorkerLost, same, accepted]
    rw [refused, same]
    exact ⟨rfl, ⟨rfl, rfl, rfl⟩⟩
  | ok =>
    have lost : once = (invalidateWorkerIncarnation state config worker boot detail).1 := by
      simp only [once, markWorkerLost, accepted]
    have unbound : ¬ once.Binds (worker, boot) := by
      rw [lost]
      exact (invalidateWorkerIncarnation_swept state config worker boot detail).unbound
    have gone : ∀ record, once.workers.find? worker = some record → record.boot = boot → record.connected = false := by
      rw [lost]
      exact invalidateWorkerIncarnation_gone state config detail
    cases checked : lostChecks once worker boot with
    | error status =>
      have refused : twice = (once, { status := status }) := by simp only [twice, markWorkerLost, checked]
      rw [refused]
      exact ⟨rfl, ⟨rfl, rfl, rfl⟩⟩
    | ok =>
      have lost : twice = invalidateWorkerIncarnation once config worker boot again := by
        simp only [twice, markWorkerLost, checked]
      rw [lost, invalidateWorkerIncarnation_idle config again unbound]
      exact ⟨(pushAudit_undetailed ..).trans (disconnectWorker_again once again gone), ⟨rfl, rfl, rfl⟩⟩

end LabScheduler
