import LabScheduler.Cluster.Acknowledged
import LabScheduler.Engine.Loss
import LabScheduler.Engine.Refused

namespace LabScheduler

open Foundation

def Message.announces : Message → Option Incarnation
  | .hello message => some (message.worker, message.boot)
  | _ => none

def Connection.announced (connection : Connection) : Option Incarnation :=
  if connection.isWorker then some (connection.worker, connection.boot) else none

def Named (incarnation : Incarnation) : Prop := incarnation.1.isNull = false ∧ incarnation.2.isNull = false

instance (incarnation : Incarnation) : Decidable (Named incarnation) := inferInstanceAs (Decidable (_ ∧ _))

namespace CoordinatorServer

def Ready (server : CoordinatorServer) (connection : Nat) : Prop :=
  (server.connections connection).serving ∧ (server.connections connection).todo.isEmpty

instance (server : CoordinatorServer) (connection : Nat) : Decidable (server.Ready connection) :=
  inferInstanceAs (Decidable (_ ∧ _))

def heard (server : CoordinatorServer) (connection : Nat) : Turn → List Incarnation
  | .receive other frame =>
    if other = connection ∧ server.Ready connection then frame.message.announces.toList else []
  | _ => []

/-- The incarnations that the turns of a run announce on a connection, in order. -/
def announcements (server : CoordinatorServer) (connection : Nat) : List Turn → List Incarnation
  | [] => []
  | turn :: rest => server.heard connection turn ++ (server.step turn).1.announcements connection rest

def Current (server : CoordinatorServer) (incarnation : Incarnation) : Prop :=
  ∃ record, server.engine.state.workers.find? incarnation.1 = some record ∧ record.boot = incarnation.2

/-- The end of the connection makes the engine lose the incarnation. -/
def Invalidates (server : CoordinatorServer) (connection : Nat) (incarnation : Incarnation) : Prop :=
  ∃ operation, (server.hangUp connection).performed = server.performed ++ [operation] ∧
    server.engine.Loses operation incarnation (server.hangUp connection).engine.state

section Announced

variable (server : CoordinatorServer) (announced : Nat → List Incarnation) (connection : Nat)

/-- The incarnation is announced on another connection that is open. -/
def Elsewhere (incarnation : Incarnation) : Prop :=
  ∃ other, other ≠ connection ∧ (server.connections other).serving ∧ incarnation ∈ announced other

/-- The end of the connection revokes the incarnations that it alone announced, and no other. -/
structure EndsExactly : Prop where
  exact : ∀ incarnation, server.Invalidates connection incarnation ↔
    incarnation ∈ announced connection ∧ server.Current incarnation ∧ ¬ server.Elsewhere announced connection incarnation
  revoked : ∀ incarnation ∈ announced connection, ¬ server.Elsewhere announced connection incarnation →
    Silent (server.hangUp connection).engine.state incarnation

/-- The connection owns its last announcement alone, and has no other to answer for. -/
structure OwnsLast : Prop where
  alone : ∀ last ∈ (announced connection).getLast?, Named last → server.Current last →
    ¬ server.Elsewhere announced connection last
  last : ∀ incarnation ∈ announced connection, server.Current incarnation →
    ¬ server.Elsewhere announced connection incarnation →
      (announced connection).getLast? = some incarnation ∧ Named incarnation
  quiet : ∀ incarnation ∈ announced connection, ¬ server.Elsewhere announced connection incarnation →
    ¬ server.Current incarnation → Silent server.engine.state incarnation

end Announced

section Threads

variable {server : CoordinatorServer}

theorem step_remembers (fresh : ∀ connection, server.accepted ≤ connection → server.connections connection = {})
    {turn : Turn} (other : ∀ connection frame, turn ≠ .receive connection frame) (connection : Nat) :
    ((server.step turn).1.connections connection).announced = (server.connections connection).announced := by
  have thread {after : CoordinatorServer} {turned : Nat} {changed : Connection}
      (connections : after.connections = Function.update server.connections turned changed)
      (same : changed.announced = (server.connections turned).announced) :
      (after.connections connection).announced = (server.connections connection).announced :=
    @turn_threads server after turned changed (fun before after => after.announced = before.announced) connections same
      (fun _ => rfl) connection
  cases turn with
  | accept =>
    simp only [step]
    split
    · rfl
    · refine thread rfl ?_
      rw [fresh server.accepted (Nat.le_refl _)]
      rfl
  | receive turned frame => exact absurd rfl (other turned frame)
  | act turned =>
    simp only [step, act]
    split
    · rfl
    · exact thread rfl (by rfl)
    · exact thread rfl (by rfl)
    case h_4 target rest busy =>
      cases held : (server.connections turned).snapshot with
      | none =>
        by_cases empty : target = []
        · simp only [save, held, if_pos empty]
          exact thread rfl (by rfl)
        · simp only [save, held, if_neg empty]
          exact thread rfl (by rfl)
      | some snapshot =>
        simp only [save, held]
        exact thread rfl (by rfl)
    · exact thread rfl (by rfl)
    · exact thread rfl (by rfl)
  | failSave turned status =>
    simp only [step, failSave]
    split
    · exact thread rfl (by rfl)
    · rfl
  | hangUp turned =>
    simp only [step, hangUp]
    split
    · split
      · exact thread rfl (by rfl)
      · exact thread rfl (by rfl)
    · rfl
  | finish =>
    simp only [step, finish]
    split
    · exact thread rfl (by rfl)
    · rfl

theorem receive_announced (turned : Nat) (frame : FrameView) (connection : Nat) :
    ((server.receive turned frame).1.connections connection).announced =
      (server.heard connection (.receive turned frame)).getLast?.or (server.connections connection).announced := by
  by_cases same : turned = connection
  · subst same
    by_cases ready : server.Ready turned
    · have listens : server.heard turned (.receive turned frame) = frame.message.announces.toList := if_pos ⟨rfl, ready⟩
      have busy : (server.connections turned).serving = true ∧ (server.connections turned).todo.isEmpty := ready
      rw [listens]
      simp only [receive, if_pos busy, update, Function.update_self]
      cases frame.message <;> rfl
    · have deaf : server.heard turned (.receive turned frame) = [] := if_neg fun both => ready both.2
      have idle : ¬ ((server.connections turned).serving = true ∧ (server.connections turned).todo.isEmpty) := ready
      rw [deaf]
      simp only [receive, if_neg idle]
      rfl
  · have deaf : server.heard connection (.receive turned frame) = [] := if_neg fun both => same both.1
    rw [deaf]
    simp only [receive]
    split
    · simp only [update, Function.update_of_ne (Ne.symm same)]
      rfl
    · rfl

theorem step_announced (fresh : ∀ connection, server.accepted ≤ connection → server.connections connection = {})
    (turn : Turn) (connection : Nat) :
    ((server.step turn).1.connections connection).announced =
      (server.heard connection turn).getLast?.or (server.connections connection).announced := by
  cases turn with
  | receive turned frame => exact receive_announced turned frame connection
  | _ => exact step_remembers fresh (fun _ _ same => by cases same) connection

theorem runs_announced {path : Text} (orderly : Orderly path server) (turns : List Turn) (connection : Nat) :
    ((server.runs turns).connections connection).announced =
      (server.announcements connection turns).getLast?.or (server.connections connection).announced := by
  induction turns generalizing server with
  | nil => rfl
  | cons turn rest ih =>
    have after : Orderly path (server.step turn).1 := (simulates path).keeps server turn orderly
    rw [runs, run_cons, ih after, step_announced orderly.unused, announcements, List.getLast?_append, Option.or_assoc]

theorem lostChecks_ok (incarnation : Incarnation) :
    lostChecks server.engine.state incarnation.1 incarnation.2 = .ok () ↔
      Named incarnation ∧ server.Current incarnation := by
  have named : workerChecks incarnation.1 incarnation.2 = .ok () ↔ Named incarnation := by
    unfold workerChecks Named
    rw [check_bind_ok, StrongId.validate_ok, StrongId.validate_ok, ← Bool.not_eq_true, ← Bool.not_eq_true,
      StrongId.isNull_iff, StrongId.isNull_iff]
  unfold lostChecks Current
  rw [check_bind_ok, named]
  cases found : server.engine.state.workers.find? incarnation.1 with
  | none => simp [fail]
  | some record => simp

theorem engine_loses_iff {operation : Operation} {worker : WorkerId} {boot : WorkerBootId} {detail : Text}
    (marks : operation = .markWorkerLost worker boot detail) (incarnation : Incarnation) :
    server.engine.Loses operation incarnation (server.engine.step operation).1.state ↔
      (worker, boot) = incarnation ∧ Named incarnation ∧ server.Current incarnation := by
  subst marks
  rw [← lostChecks_ok]
  constructor
  · intro loses
    generalize left : (server.engine.step (.markWorkerLost worker boot detail)).1.state = after at loses
    cases loses with
    | marked reported => exact ⟨rfl, (markWorkerLost_reported ..).mp reported⟩
  · intro both
    obtain ⟨same, accepted⟩ := both
    subst same
    exact .marked ((markWorkerLost_reported ..).mpr accepted)

theorem hangUp_cases {connection : Nat} (ready : server.Ready connection) :
    (∃ incarnation : Incarnation,
      let operation := Operation.markWorkerLost incarnation.1 incarnation.2 (ascii "worker connection ended")
      (server.connections connection).announced = some incarnation ∧ Named incarnation ∧
        (server.hangUp connection).performed = server.performed ++ [operation] ∧
        (server.hangUp connection).engine = (server.engine.step operation).1) ∨
      ((∀ incarnation, (server.connections connection).announced = some incarnation → ¬ Named incarnation) ∧
        (server.hangUp connection).performed = server.performed ∧
        (server.hangUp connection).engine = server.engine) := by
  have busy : (server.connections connection).serving = true ∧ (server.connections connection).todo.isEmpty := ready
  by_cases ends : (server.connections connection).isWorker ∧ ¬ (server.connections connection).worker.isNull ∧
      ¬ (server.connections connection).boot.isNull
  · have named : Named ((server.connections connection).worker, (server.connections connection).boot) :=
      ⟨Bool.eq_false_iff.mpr ends.2.1, Bool.eq_false_iff.mpr ends.2.2⟩
    refine .inl ⟨((server.connections connection).worker, (server.connections connection).boot), if_pos ends.1, named, ?_⟩
    unfold hangUp
    simp only [if_pos busy, if_pos ends, and_self]
  · refine .inr ?_
    simp only [hangUp, if_pos busy, if_neg ends]
    refine ⟨fun incarnation remembered named => ends ?_, rfl, rfl⟩
    unfold Connection.announced at remembered
    by_cases worker : (server.connections connection).isWorker
    · rw [if_pos worker] at remembered
      cases remembered
      exact ⟨worker, Bool.eq_false_iff.mp named.1, Bool.eq_false_iff.mp named.2⟩
    · rw [if_neg worker] at remembered
      cases remembered

theorem invalidates_iff {connection : Nat} (ready : server.Ready connection) (incarnation : Incarnation) :
    server.Invalidates connection incarnation ↔
      (server.connections connection).announced = some incarnation ∧ Named incarnation ∧
        server.Current incarnation := by
  unfold Invalidates
  rcases hangUp_cases ready with ⟨last, remembered, named, performed, engine⟩ | ⟨unnamed, performed, engine⟩
  · rw [remembered, performed, engine, Option.some_inj]
    constructor
    · intro loses
      obtain ⟨operation, same, loses⟩ := loses
      have marks := List.singleton_inj.mp (List.append_cancel_left same)
      subst marks
      exact (engine_loses_iff rfl incarnation).mp loses
    · intro lost
      exact ⟨_, rfl, (engine_loses_iff rfl incarnation).mpr lost⟩
  · rw [performed]
    constructor
    · intro loses
      obtain ⟨operation, longer, -⟩ := loses
      exact absurd longer (by simp)
    · intro lost
      exact absurd lost.2.1 (unnamed incarnation lost.1)

theorem markWorkerLost_silent_iff {last incarnation : Incarnation} {detail : Text} :
    Silent (markWorkerLost server.engine.state server.engine.config last.1 last.2 detail).1 incarnation ↔
      (last = incarnation ∧ Named last ∧ server.Current last) ∨ Silent server.engine.state incarnation := by
  by_cases lost : Named last ∧ server.Current last
  · have reported := (markWorkerLost_reported server.engine.state server.engine.config last.1 last.2 detail).mpr
      ((lostChecks_ok last).mpr lost)
    have swept := markWorkerLost_swept reported
    by_cases same : last = incarnation
    · subst same
      exact iff_of_true swept.silent (.inl ⟨rfl, lost⟩)
    · rw [or_iff_right fun both => same both.1]
      refine ⟨fun silent resource member owner boot => ?_, (markWorkerLost_changes ..).silent⟩
      have other : ¬ (resource.worker = last.1 ∧ resource.boot = last.2) := by
        intro both
        exact same (Prod.ext (both.1.symm.trans owner) (both.2.symm.trans boot))
      obtain ⟨later, found, rebooked⟩ := swept.elsewhere member other
      rw [← rebooked] at owner boot ⊢
      exact silent later (Table.mem_of_find? found) owner boot
  · have refused : (markWorkerLost server.engine.state server.engine.config last.1 last.2 detail).2.status.code ≠ .ok := by
      rw [ne_eq, markWorkerLost_reported, lostChecks_ok]
      exact lost
    rw [markWorkerLost_refused last.1 last.2 detail refused, or_iff_right fun both => lost both.2]

theorem hangUp_silent {connection : Nat} (ready : server.Ready connection) (incarnation : Incarnation) :
    Silent (server.hangUp connection).engine.state incarnation ↔
      server.Invalidates connection incarnation ∨ Silent server.engine.state incarnation := by
  rw [invalidates_iff ready]
  rcases hangUp_cases ready with ⟨last, remembered, named, -, engine⟩ | ⟨unnamed, -, engine⟩
  · rw [engine, remembered, Option.some_inj]
    refine (@markWorkerLost_silent_iff server last incarnation (ascii "worker connection ended")).trans ?_
    refine or_congr_left (and_congr_right fun same => ?_)
    rw [same]
  · rw [engine, or_iff_right fun lost => unnamed incarnation lost.1 lost.2.1]

/-- The end of a connection revokes what is its own exactly if it owns its last announcement alone. -/
theorem endsExactly_iff {announced : Nat → List Incarnation} {connection : Nat} (ready : server.Ready connection)
    (remembers : (server.connections connection).announced = (announced connection).getLast?) :
    server.EndsExactly announced connection ↔ server.OwnsLast announced connection := by
  have invalidates (incarnation : Incarnation) := invalidates_iff ready incarnation
  rw [remembers] at invalidates
  constructor
  · intro ends
    constructor
    case alone =>
      intro last lies named current
      exact ((ends.exact last).mp ((invalidates last).mpr ⟨lies, named, current⟩)).2.2
    case last =>
      intro incarnation member current apart
      have lost := (invalidates incarnation).mp ((ends.exact incarnation).mpr ⟨member, current, apart⟩)
      exact ⟨lost.1, lost.2.1⟩
    case quiet =>
      intro incarnation member apart past
      have silent := (hangUp_silent ready incarnation).mp (ends.revoked incarnation member apart)
      exact silent.resolve_left fun lost => past ((invalidates incarnation).mp lost).2.2
  · intro owns
    have exact (incarnation : Incarnation) : server.Invalidates connection incarnation ↔
        incarnation ∈ announced connection ∧ server.Current incarnation ∧
          ¬ server.Elsewhere announced connection incarnation := by
      rw [invalidates]
      constructor
      · intro lost
        obtain ⟨last, named, current⟩ := lost
        exact ⟨List.mem_of_getLast? last, current, owns.alone incarnation last named current⟩
      · intro own
        obtain ⟨member, current, apart⟩ := own
        obtain ⟨last, named⟩ := owns.last incarnation member current apart
        exact ⟨last, named, current⟩
    refine ⟨exact, fun incarnation member apart => (hangUp_silent ready incarnation).mpr ?_⟩
    by_cases current : server.Current incarnation
    · exact .inl ((exact incarnation).mpr ⟨member, current, apart⟩)
    · exact .inr (owns.quiet incarnation member apart current)

end Threads

end CoordinatorServer

/-- In every run, the end of a connection revokes exactly the current incarnations that it alone announced, if and
    only if it owns its last announcement alone. -/
theorem connection_owns_incarnations {config : CoordinatorConfig} {disk : Disk} {server : CoordinatorServer}
    (started : CoordinatorServer.start config disk = .ok server) (turns : List Turn) {connection : Nat}
    (ready : (server.runs turns).Ready connection) :
    (server.runs turns).EndsExactly (fun connection => server.announcements connection turns) connection ↔
      (server.runs turns).OwnsLast (fun connection => server.announcements connection turns) connection := by
  apply CoordinatorServer.endsExactly_iff ready
  have remembered := CoordinatorServer.runs_announced (CoordinatorServer.start_orderly started) turns connection
  have silent : (server.connections connection).announced = none := by
    rw [CoordinatorServer.start_server started]
    rfl
  rw [remembered, silent, Option.or_none]

def Bench.greeting (boot : UInt64) : FrameView := { correlation := 1, message := .hello { worker := ⟨21⟩, boot := ⟨boot⟩ } }

/-- A worker reconnects, and its first connection is not closed yet. -/
def Bench.reconnected : List Turn :=
  [.accept, .receive 1 (Bench.greeting 1), .act 1, .accept, .receive 2 (Bench.greeting 1), .act 2]

/-- It reconnects with another boot once its first connection is closed. -/
def Bench.rejoined : List Turn :=
  [.accept, .receive 1 (Bench.greeting 1), .act 1, .hangUp 1, .accept, .receive 2 (Bench.greeting 2), .act 2]

theorem CoordinatorServer.announcements_received {server : CoordinatorServer} {connection : Nat} {turns : List Turn}
    {incarnation : Incarnation} (member : incarnation ∈ server.announcements connection turns) :
    ∃ frame, .receive connection frame ∈ turns := by
  induction turns generalizing server with
  | nil => cases member
  | cons turn rest ih =>
    rcases List.mem_append.mp member with here | later
    · unfold heard at here
      split at here
      · rename_i other frame
        split at here
        · rename_i both
          exact ⟨frame, both.1 ▸ List.mem_cons_self⟩
        · cases here
      · cases here
    · obtain ⟨frame, received⟩ := ih later
      exact ⟨frame, List.mem_cons_of_mem _ received⟩

theorem connection_owns_incarnations_bench :
    let server := Bench.coordinator.runs Bench.rejoined
    server.Invalidates 2 (⟨21⟩, ⟨2⟩) ∧
      server.EndsExactly (fun connection => Bench.coordinator.announcements connection Bench.rejoined) 2 := by
  intro server
  have ready : server.Ready 2 := by decide +kernel
  have said : Bench.coordinator.announcements 2 Bench.rejoined = [(⟨21⟩, ⟨2⟩)] := by decide +kernel
  have known : (server.engine.state.workers.find? ⟨21⟩).any (fun record => record.boot = ⟨2⟩) := by decide +kernel
  have current : server.Current (⟨21⟩, ⟨2⟩) := by
    obtain ⟨record, found, boot⟩ := (Option.any_eq_true ..).mp known
    exact ⟨record, found, by simpa using boot⟩
  have apart (incarnation : Incarnation) : ¬ server.Elsewhere
      (fun connection => Bench.coordinator.announcements connection Bench.rejoined) 2 incarnation := by
    rintro ⟨other, differs, serving, announced⟩
    obtain ⟨frame, received⟩ := CoordinatorServer.announcements_received announced
    have first : other = 1 ∧ frame = Bench.greeting 1 := by simpa [Bench.rejoined, differs] using received
    obtain ⟨rfl, -⟩ := first
    revert serving
    decide +kernel
  have started : CoordinatorServer.start Bench.coordination (fun _ => none) = .ok Bench.coordinator := rfl
  have exact := (connection_owns_incarnations started Bench.rejoined ready).mpr
    { alone := fun last _ _ _ => apart last
      last := fun incarnation member _ _ => by
        obtain rfl := List.mem_singleton.mp (said ▸ member)
        exact ⟨congrArg List.getLast? said, rfl, rfl⟩
      quiet := fun incarnation member _ past => by
        obtain rfl := List.mem_singleton.mp (said ▸ member)
        exact absurd current past }
  exact ⟨(exact.exact _).mpr ⟨said ▸ List.mem_cons_self, current, apart _⟩, exact⟩

/-- The end of the first connection revokes the incarnation that the second one announces. -/
theorem reconnected_incarnation_revoked :
    CoordinatorServer.start Bench.coordination (fun _ => none) = .ok Bench.coordinator ∧
      (Bench.coordinator.runs Bench.reconnected).Ready 1 ∧
      ((Bench.coordinator.runs Bench.reconnected).connections 2).serving ∧
      (⟨21⟩, ⟨1⟩) ∈ Bench.coordinator.announcements 2 Bench.reconnected ∧
      (Bench.coordinator.runs Bench.reconnected).Invalidates 1 (⟨21⟩, ⟨1⟩) ∧
      ¬ (Bench.coordinator.runs Bench.reconnected).EndsExactly
        (fun connection => Bench.coordinator.announcements connection Bench.reconnected) 1 := by
  have ready : (Bench.coordinator.runs Bench.reconnected).Ready 1 := by decide +kernel
  have serving : ((Bench.coordinator.runs Bench.reconnected).connections 2).serving := by decide +kernel
  have announced : (⟨21⟩, ⟨1⟩) ∈ Bench.coordinator.announcements 2 Bench.reconnected := by decide +kernel
  have remembered : ((Bench.coordinator.runs Bench.reconnected).connections 1).announced = some (⟨21⟩, ⟨1⟩) := by
    decide +kernel
  have known : ((Bench.coordinator.runs Bench.reconnected).engine.state.workers.find? ⟨21⟩).any
      (fun record => record.boot = ⟨1⟩) := by decide +kernel
  have current : (Bench.coordinator.runs Bench.reconnected).Current (⟨21⟩, ⟨1⟩) := by
    obtain ⟨record, found, boot⟩ := (Option.any_eq_true ..).mp known
    exact ⟨record, found, by simpa using boot⟩
  have invalidates := (CoordinatorServer.invalidates_iff ready (⟨21⟩, ⟨1⟩)).mpr ⟨remembered, ⟨rfl, rfl⟩, current⟩
  refine ⟨rfl, ready, serving, announced, invalidates, fun ends => ?_⟩
  have apart := ((ends.exact _).mp invalidates).2.2
  exact apart ⟨2, by decide, serving, announced⟩

end LabScheduler
