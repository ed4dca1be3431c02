import LabScheduler.Cluster.Assignments
import LabScheduler.Cluster.Worker

namespace LabScheduler

open Foundation

/-- What a frame was sent for: the call that it answers, by its number, or none. -/
inductive Origin
  | reply (request : Nat)
  | push

structure Incoming where
  frame : Sent
  origin : Origin

/-- A frame that a worker took off the stream: as the reply to a call, in its loop, or in vain. -/
inductive Taken
  | reply (request : Nat) (incoming : Incoming)
  | heard (incoming : Incoming) (hearing : Hearing)
  | refused (incoming : Incoming)

/-- A coordinator, and a worker on one of its connections. `requests` and `stream` are the frames in flight. The last
    two fields are history: the call whose request the thread was last given, and the calls that ended without a
    reply. -/
structure WorkerLink where
  server : CoordinatorServer
  connection : Nat
  config : WorkerConfig
  agent : WorkerAgent
  requests : List (Nat × FrameView) := []
  stream : List Incoming := []
  serving : Nat := 0
  abandoned : List Nat := []

/-- `coordinate` is any other turn of the coordinator. A frame may be refused, or its receipt fail before there is
    one. -/
inductive LinkTurn
  | coordinate (turn : Turn)
  | serve (refusal : Option Status)
  | work
  | refuse (status : Status)
  | fail (status : Status)
  | requestExit

def Action.replies : Action → Bool
  | .send .. | .answerSave .. => true
  | _ => false

namespace WorkerLink

def connect (server : CoordinatorServer) (config : WorkerConfig) : Option WorkerLink :=
  if server.finished then none
  else
    some
      { server := (server.step .accept).1
        connection := server.accepted
        config := config
        agent := WorkerAgent.launch config }

variable (link : WorkerLink)

def thread : Connection := link.server.connections link.connection

def origin : Turn → Origin
  | .act connection =>
    if connection = link.connection ∧ link.thread.todo.head?.any Action.replies then .reply link.serving else .push
  | _ => .push

def incoming (origin : Origin) : Event → Option Incoming
  | .sent frame => if frame.recipient = link.connection then some ⟨frame, origin⟩ else none
  | _ => none

/-- Its requests reach the coordinator by `serve` only. -/
def coordinate (turn : Turn) : WorkerLink :=
  match turn with
  | .receive connection _ => if connection = link.connection then link else turned
  | _ => turned
where
  turned : WorkerLink :=
    let (server, events) := link.server.step turn
    { link with server := server, stream := link.stream ++ events.filterMap (link.incoming (link.origin turn)) }

def received (frame : FrameView) (refusal : Option Status) : FrameView :=
  match refusal with
  | none => frame
  | some status => { frame with message := .refused status }

def serve (refusal : Option Status) : WorkerLink :=
  match link.requests with
  | [] => link
  | (request, frame) :: rest =>
    if link.thread.serving ∧ link.thread.todo.isEmpty then
      { link with
        server := (link.server.receive link.connection (received frame refusal)).1
        serving := request
        requests := rest }
    else link

/-- The worker takes its next step, if it can: it sends, takes the next frame, or turns to its loop. -/
def work : WorkerLink × Option Taken :=
  let agent := link.agent
  match agent.program with
  | .ask message next =>
    if agent.awaiting then
      match link.stream with
      | [] => (link, none)
      | incoming :: rest =>
        ({ link with
            agent := { agent with program := next (.ok incoming.frame.payload), awaiting := false }
            stream := rest }, some (.reply agent.correlation incoming))
    else
      let request := agent.correlation + 1
      ({ link with
          agent := { agent with awaiting := true, correlation := request }
          requests := link.requests ++ [(request, { correlation := UInt64.ofNat request, message := message })] }, none)
  | .done (.loop tally) =>
    if agent.reading then
      match link.stream with
      | [] => (link, none)
      | incoming :: rest =>
        let hearing := hear link.config.codec incoming.frame
        ({ link with agent := agent.hears link.config tally hearing, stream := rest },
          some (.heard incoming hearing))
    else if agent.exitRequested then
      ({ link with agent := { agent with program := .done (.ended (.ok ()) tally) } }, none)
    else ({ link with agent := { agent with reading := true } }, none)
  | .done (.ended ..) => (link, none)

/-- What the worker does when a frame could not be sent or received. -/
def failed (status : Status) : WorkerLink :=
  let agent := link.agent
  match agent.program with
  | .ask _ next =>
    if agent.awaiting then
      { link with
        agent := { agent with program := next (.error status), awaiting := false }
        abandoned := link.abandoned ++ [agent.correlation] }
    else { link with agent := { agent with program := next (.error status), correlation := agent.correlation + 1 } }
  | .done (.loop tally) =>
    if agent.reading then
      { link with agent := { agent with program := .done (.ended (.error status) tally), reading := false } }
    else link
  | .done (.ended ..) => link

def receiving : Bool :=
  match link.agent.program with
  | .ask .. => link.agent.awaiting
  | .done (.loop _) => link.agent.reading
  | .done (.ended ..) => false

def refuse (status : Status) : WorkerLink × Option Taken :=
  match link.stream with
  | [] => (link, none)
  | incoming :: rest =>
    if link.receiving then ({ link with stream := rest }.failed status, some (.refused incoming)) else (link, none)

def step (link : WorkerLink) : LinkTurn → WorkerLink × Option Taken
  | .coordinate turn => (link.coordinate turn, none)
  | .serve refusal => (link.serve refusal, none)
  | .work => link.work
  | .refuse status => link.refuse status
  | .fail status => (link.failed status, none)
  | .requestExit => ({ link with agent := { link.agent with exitRequested := true } }, none)

/-- A call waits for the frame that comes next only if it is its reply, and the loop reads no assignment that it cannot
    decode. -/
def Receivable (link : WorkerLink) (turn : LinkTurn) : Prop :=
  ∀ incoming rest, link.stream = incoming :: rest → link.receiving = true →
    match turn, link.agent.program with
    | .work, .ask .. => ∃ request, incoming.origin = .reply request ∧ request ∉ link.abandoned
    | .work, .done _ =>
      incoming.frame.type = .assign → ∃ message, link.config.codec.assign incoming.frame.payload = .ok message
    | .refuse _, _ => incoming.frame.type ≠ .assign
    | _, _ => True

end WorkerLink

/-- A call takes the reply to its own request, and the assignments that are taken are handled. -/
def Taken.Right (codec : ClientCodec) : Taken → Prop
  | .reply request incoming => incoming.origin = .reply request ∧ incoming.frame.type ≠ .assign
  | .heard incoming hearing => incoming.frame.type = .assign ↔
    ∃ message, codec.assign incoming.frame.payload = .ok message ∧ hearing = .handle message
  | .refused incoming => incoming.frame.type ≠ .assign

section Answering

variable {config : CoordinatorConfig} {engine : Engine} {correlation : UInt64} {message : Message}

theorem countP_reply {action : Action} {pushed : List Action} (silent : ∀ push ∈ pushed, push.replies = false) :
    (action :: pushed).countP Action.replies ≤ 1 := by
  have none : pushed.countP Action.replies = 0 := by
    apply List.countP_eq_zero.mpr
    intro push member
    rw [silent push member]
    exact Bool.false_ne_true
  rw [List.countP_cons, none]
  split <;> omega

theorem Message.handle_replies : (message.handle config engine correlation).2.actions.countP Action.replies ≤ 1 := by
  have answered (reply : Reply) (epoch : CoordinatorEpoch) :
      (message.answer config correlation epoch reply).actions.countP Action.replies ≤ 1 := by
    unfold Message.answer
    split
    case h_1 | h_8 | h_9 | h_10 | h_13 => exact List.countP_le_length
    case h_2 | h_3 | h_4 =>
      unfold resourceAnswer
      split <;> exact List.countP_le_length
    case h_5 =>
      unfold decisionAnswer
      split
      · exact countP_reply (by simp [Action.replies])
      · exact List.countP_le_length
    case h_6 | h_7 =>
      unfold placementAnswer
      split <;> exact List.countP_le_length
    case h_11 | h_12 =>
      unfold reassignmentAnswer
      split
      · apply countP_reply
        intro push member
        split at member
        · rw [List.mem_singleton.mp member]
          rfl
        · cases member
      · exact List.countP_le_length
    case h_14 => exact Nat.zero_le _
  have direct (epoch : CoordinatorEpoch) :
      (message.directAnswer config correlation epoch).actions.countP Action.replies ≤ 1 := by
    cases message with
    | saveState path => exact Nat.le_refl 1
    | shutdown => exact countP_reply (by simp [Action.replies])
    | inspect | refused | other => exact List.countP_le_length
    | _ => exact Nat.zero_le _
  unfold Message.handle
  split
  · exact direct _
  · exact answered _ _

end Answering

def Connection.owed (connection : Connection) : Nat := connection.todo.countP Action.replies

namespace CoordinatorServer

section Threads

variable {server : CoordinatorServer} {connection : Nat}

theorem owed_update {turned : Nat} {changed : Connection}
    (fewer : turned = connection → changed.owed ≤ (server.connections connection).owed) :
    (Function.update server.connections turned changed connection).owed ≤ (server.connections connection).owed := by
  by_cases same : connection = turned
  · subst same
    rw [Function.update_self]
    exact fewer rfl
  · rw [Function.update_of_ne same]

theorem save_owed {turned : Nat} {target : Text} {rest : List Action}
    (fewer : turned = connection → rest.countP Action.replies ≤ (server.connections connection).owed) :
    ((server.save turned target rest).1.connections connection).owed ≤ (server.connections connection).owed := by
  cases held : (server.connections turned).snapshot with
  | none =>
    by_cases empty : target = []
    · simp only [save, held, if_pos empty]
      exact owed_update fewer
    · simp only [save, held, if_neg empty]
      apply owed_update
      intro same
      exact same ▸ Nat.le_refl _
  | some snapshot =>
    simp only [save, held]
    exact owed_update fewer

theorem step_owed {turn : Turn} (other : ∀ frame, turn ≠ .receive connection frame) :
    ((server.step turn).1.connections connection).owed ≤ (server.connections connection).owed := by
  have fewer {turned : Nat} {action : Action} {rest : List Action}
      (busy : (server.connections turned).todo = action :: rest) (same : turned = connection) :
      rest.countP Action.replies ≤ (server.connections connection).owed := by
    subst same
    unfold Connection.owed
    rw [busy, List.countP_cons]
    omega
  cases turn with
  | accept =>
    simp only [step]
    split
    · exact Nat.le_refl _
    · exact owed_update fun _ => Nat.zero_le _
  | receive turned frame =>
    simp only [step, receive]
    split
    · apply owed_update
      intro same
      exact absurd (same ▸ rfl) (other frame)
    · exact Nat.le_refl _
  | act turned =>
    simp only [step, act]
    split
    · exact Nat.le_refl _
    · rename_i busy
      exact owed_update (fewer busy)
    · rename_i busy
      exact owed_update (fewer busy)
    · rename_i busy
      exact save_owed (fewer busy)
    · rename_i busy
      exact owed_update (fewer busy)
    · rename_i busy
      exact owed_update (fewer busy)
  | failSave turned status =>
    simp only [step, failSave]
    split
    · rename_i busy held
      exact owed_update (fewer busy)
    · exact Nat.le_refl _
  | hangUp turned =>
    have saving (saves : Prop) [Decidable saves] (path : Text) :
        (if saves then [Action.save path] else []).countP Action.replies = 0 := by
      split <;> rfl
    simp only [step, hangUp]
    split
    · split
      · apply owed_update
        intro _
        exact Nat.le_trans (Nat.le_of_eq (saving ..)) (Nat.zero_le _)
      · apply owed_update
        intro same
        exact same ▸ Nat.le_refl _
    · exact Nat.le_refl _
  | finish =>
    have saving (saves : Prop) [Decidable saves] (path : Text) :
        (if saves then [] else [Action.save path]).countP Action.replies = 0 := by
      split <;> rfl
    simp only [step, finish]
    split
    · apply owed_update
      intro _
      exact Nat.le_trans (Nat.le_of_eq (saving ..)) (Nat.zero_le _)
    · exact Nat.le_refl _

theorem receive_owed {frame : FrameView} (idle : (server.connections connection).todo = []) :
    ((server.receive connection frame).1.connections connection).owed ≤ 1 := by
  simp only [receive]
  split
  · show (Function.update server.connections connection _ connection).owed ≤ 1
    rw [Function.update_self]
    unfold Connection.owed
    rw [Connection.hears_todo]
    show List.countP Action.replies (_ ++ _) ≤ 1
    rw [List.countP_append]
    have answered : (frame.message.handle server.config server.engine frame.correlation).2.actions.countP
      Action.replies ≤ 1 := Message.handle_replies
    split
    · exact answered
    · exact answered
  · unfold Connection.owed
    rw [idle]
    exact Nat.zero_le _

theorem act_reply {action : Action} {rest : List Action} (backed : server.Backed)
    (busy : (server.connections connection).todo = action :: rest) (replies : action.replies = true) :
    ((server.act connection).1.connections connection).todo = rest ∧
      ((server.act connection).2 = [] ∨
        ∃ frame, (server.act connection).2 = [.sent frame] ∧ frame.type ≠ .assign) := by
  have put {type : MessageType} {correlation : UInt64} {payload : Payload} (other : type ≠ .assign) :
      server.send connection connection type correlation payload = [] ∨
        ∃ frame, server.send connection connection type correlation payload = [.sent frame] ∧ frame.type ≠ .assign := by
    unfold send
    split
    · exact .inr ⟨_, rfl, other⟩
    · exact .inl rfl
  cases action with
  | send type correlation payload =>
    have first : Action.Backed server.engine (.send type correlation payload) :=
      backed connection _ (by rw [busy]; exact List.mem_cons_self)
    simp only [act, busy]
    refine ⟨?_, put first.1⟩
    show (Function.update server.connections connection _ connection).todo = rest
    rw [Function.update_self]
  | answerSave correlation path =>
    simp only [act, busy]
    refine ⟨?_, put (by decide)⟩
    show (Function.update server.connections connection _ connection).todo = rest
    rw [Function.update_self]
  | pushAssignment | save | pushShutdown => cases replies

end Threads

end CoordinatorServer

def Incoming.answers (incoming : Incoming) : Option Nat :=
  match incoming.origin with
  | .reply request => some request
  | .push => none

namespace WorkerLink

/-- The calls whose replies may still come: those on the stream, owed by the thread, or asked for. -/
def flight (link : WorkerLink) : List Nat :=
  link.stream.filterMap Incoming.answers ++
    (List.replicate link.thread.owed link.serving ++ link.requests.map Prod.fst)

/-- The replies on their way are to calls that are still waiting or were given up, and none is an assignment. -/
structure Settled (codec : ClientCodec) (link : WorkerLink) : Prop where
  codec : link.config.codec = codec
  backed : link.server.Backed
  spoken : ∀ incoming ∈ link.stream, ∀ request, incoming.origin = .reply request → incoming.frame.type ≠ .assign
  outstanding : Outstanding link.agent.correlation link.agent.awaiting link.abandoned link.flight

section Steps

variable {link : WorkerLink} {codec : ClientCodec}

theorem incoming_origin {origin : Origin} {events : List Event} {incoming : Incoming}
    (member : incoming ∈ events.filterMap (link.incoming origin)) :
    incoming.origin = origin ∧ .sent incoming.frame ∈ events := by
  obtain ⟨event, shown, carries⟩ := List.mem_filterMap.mp member
  cases event with
  | sent frame =>
    simp only [WorkerLink.incoming] at carries
    split at carries
    · cases carries
      exact ⟨rfl, shown⟩
    · cases carries
  | issued | wrote => cases carries

theorem origin_cases (link : WorkerLink) (turn : Turn) : link.origin turn = .push ∨
    link.origin turn = .reply link.serving ∧ turn = .act link.connection ∧
      ∃ action rest, link.thread.todo = action :: rest ∧ action.replies = true := by
  cases turn with
  | act connection =>
    simp only [origin]
    split
    · rename_i replying
      obtain ⟨same, owes⟩ := replying
      refine .inr ⟨rfl, congrArg Turn.act same, ?_⟩
      cases busy : link.thread.todo with
      | nil =>
        rw [busy] at owes
        cases owes
      | cons action rest =>
        rw [busy] at owes
        exact ⟨action, rest, rfl, owes⟩
    · exact .inl rfl
  | accept | receive | failSave | hangUp | finish => exact .inl rfl

def arrivals (link : WorkerLink) (turn : Turn) : List Incoming :=
  (link.server.step turn).2.filterMap (link.incoming (link.origin turn))

/-- No assignment arrives as a reply, and what arrives and is owed still answers no more than what was owed. -/
structure Arrives (link : WorkerLink) (turn : Turn) : Prop where
  spoken : ∀ incoming ∈ link.arrivals turn, ∀ request, incoming.origin = .reply request →
    incoming.frame.type ≠ .assign
  fewer : ((link.arrivals turn).filterMap Incoming.answers ++
    List.replicate ((link.server.step turn).1.connections link.connection).owed link.serving).Sublist
      (List.replicate link.thread.owed link.serving)

theorem arrives_pushed {turn : Turn} (other : ∀ frame, turn ≠ .receive link.connection frame)
    (pushed : link.origin turn = .push) : link.Arrives turn := by
  have silent : (link.arrivals turn).filterMap Incoming.answers = [] := by
    apply List.filterMap_eq_nil_iff.mpr
    intro incoming member
    unfold Incoming.answers
    rw [(incoming_origin member).1, pushed]
  constructor
  · intro incoming member request answers
    rw [(incoming_origin member).1, pushed] at answers
    cases answers
  · rw [silent, List.nil_append]
    exact (List.replicate_sublist_replicate _).mpr (CoordinatorServer.step_owed other)

theorem arrives_reply {action : Action} {rest : List Action} (backed : link.server.Backed)
    (busy : link.thread.todo = action :: rest) (owes : action.replies = true)
    (origin : link.origin (.act link.connection) = .reply link.serving) : link.Arrives (.act link.connection) := by
  obtain ⟨left, sent⟩ := CoordinatorServer.act_reply backed busy owes
  have owed : link.thread.owed =
      ((link.server.step (.act link.connection)).1.connections link.connection).owed + 1 := by
    show link.thread.owed = ((link.server.act link.connection).1.connections link.connection).owed + 1
    unfold Connection.owed
    rw [left, busy, List.countP_cons, if_pos owes]
  rcases sent with none | ⟨frame, some, other⟩
  · have nothing : link.arrivals (.act link.connection) = [] := by
      show (link.server.act link.connection).2.filterMap _ = []
      rw [none]
      rfl
    constructor
    · rw [nothing]
      intro incoming member
      cases member
    · rw [nothing, owed]
      exact (List.replicate_sublist_replicate _).mpr (Nat.le_succ _)
  · constructor
    · intro incoming member _ _
      have carried : .sent incoming.frame ∈ (link.server.act link.connection).2 := (incoming_origin member).2
      rw [some] at carried
      cases List.mem_singleton.mp carried
      exact other
    · have one : ((link.arrivals (.act link.connection)).filterMap Incoming.answers).Sublist [link.serving] := by
        show (((link.server.act link.connection).2.filterMap _).filterMap Incoming.answers).Sublist _
        rw [some, origin]
        by_cases ours : frame.recipient = link.connection
        · simp only [List.filterMap_cons, List.filterMap_nil, WorkerLink.incoming, if_pos ours]
          exact List.Sublist.refl _
        · simp only [List.filterMap_cons, List.filterMap_nil, WorkerLink.incoming, if_neg ours]
          exact List.nil_sublist _
      rw [owed, List.replicate_succ]
      exact one.append (List.Sublist.refl _)

theorem Settled.turned (settled : link.Settled codec) {turn : Turn}
    (other : ∀ frame, turn ≠ .receive link.connection frame) : (coordinate.turned link turn).Settled codec := by
  have arrives : link.Arrives turn := by
    rcases link.origin_cases turn with pushed | ⟨origin, same, action, rest, busy, owes⟩
    · exact arrives_pushed other pushed
    · rw [same] at origin ⊢
      exact arrives_reply settled.backed busy owes origin
  refine ⟨settled.codec, CoordinatorServer.step_backed settled.backed turn, ?_, settled.outstanding.fewer ?_⟩
  · intro incoming member
    rcases List.mem_append.mp member with before | new
    · exact settled.spoken incoming before
    · exact arrives.spoken incoming new
  · show ((link.stream ++ link.arrivals turn).filterMap Incoming.answers ++ (_ ++ _)).Sublist _
    rw [List.filterMap_append, List.append_assoc, ← List.append_assoc ((link.arrivals turn).filterMap _)]
    exact (List.Sublist.refl _).append (arrives.fewer.append (List.Sublist.refl _))

theorem Settled.serve (settled : link.Settled codec) (refusal : Option Status) :
    (link.serve refusal).Settled codec := by
  cases asked : link.requests with
  | nil =>
    simp only [WorkerLink.serve, asked]
    exact settled
  | cons asking rest =>
    obtain ⟨request, frame⟩ := asking
    by_cases ready : link.thread.serving ∧ link.thread.todo.isEmpty
    · have idle : link.thread.todo = [] := List.isEmpty_iff.mp ready.2
      have quiet : link.thread.owed = 0 := by
        unfold Connection.owed
        rw [idle]
        rfl
      have owed : (List.replicate
          ((link.server.receive link.connection (received frame refusal)).1.connections link.connection).owed
            request).Sublist [request] :=
        (List.replicate_sublist_replicate request).mpr (CoordinatorServer.receive_owed idle)
      simp only [WorkerLink.serve, asked, if_pos ready]
      refine ⟨settled.codec, CoordinatorServer.receive_backed settled.backed _ _, settled.spoken,
        settled.outstanding.fewer ?_⟩
      apply (List.Sublist.refl _).append
      rw [quiet, asked]
      exact owed.append (List.Sublist.refl _)
    · simp only [WorkerLink.serve, asked, if_neg ready]
      exact settled

theorem flight_cons {incoming : Incoming} {rest : List Incoming} (arriving : link.stream = incoming :: rest) :
    link.flight = incoming.answers.toList ++ { link with stream := rest }.flight := by
  unfold flight
  rw [arriving]
  cases answers : incoming.answers with
  | none =>
    rw [List.filterMap_cons_none answers]
    rfl
  | some request =>
    rw [List.filterMap_cons_some answers]
    rfl

theorem Settled.arrived (settled : link.Settled codec) {incoming : Incoming} {rest : List Incoming}
    (arriving : link.stream = incoming :: rest) : { link with stream := rest }.Settled codec := by
  refine ⟨settled.codec, settled.backed, ?_, settled.outstanding.fewer ?_⟩
  · intro later member
    exact settled.spoken later (by rw [arriving]; exact List.mem_cons_of_mem _ member)
  · rw [flight_cons arriving]
    exact List.sublist_append_right ..

theorem Settled.solicited (settled : link.Settled codec) {incoming : Incoming} {rest : List Incoming} {request : Nat}
    (arriving : link.stream = incoming :: rest) (answers : incoming.origin = .reply request)
    (kept : request ∉ link.abandoned) : request = link.agent.correlation := by
  refine settled.outstanding.answers ?_ kept
  rw [flight_cons arriving]
  unfold Incoming.answers
  rw [answers]
  exact List.mem_cons_self

theorem Settled.work (settled : link.Settled codec) (receivable : link.Receivable .work) :
    link.work.1.Settled codec := by
  cases program : link.agent.program with
  | ask message next =>
    by_cases waiting : link.agent.awaiting = true
    · cases arriving : link.stream with
      | nil =>
        simp only [WorkerLink.work, program, if_pos waiting, arriving]
        exact settled
      | cons incoming rest =>
        have receiving : link.receiving = true := by
          simp only [WorkerLink.receiving, program]
          exact waiting
        have takes := receivable incoming rest arriving receiving
        simp only [program] at takes
        obtain ⟨request, answers, kept⟩ := takes
        have ours := settled.solicited arriving answers kept
        have before := settled.outstanding
        rw [waiting, flight_cons arriving, Incoming.answers, answers, ours] at before
        have left := settled.arrived arriving
        simp only [WorkerLink.work, program, if_pos waiting, arriving]
        exact ⟨left.codec, left.backed, left.spoken, before.take⟩
    · have before := settled.outstanding
      rw [Bool.eq_false_iff.mpr waiting] at before
      have asked : link.flight ++ [link.agent.correlation + 1] = link.stream.filterMap Incoming.answers ++
          (List.replicate link.thread.owed link.serving ++
            (link.requests ++ [(link.agent.correlation + 1,
              ({ correlation := UInt64.ofNat (link.agent.correlation + 1), message := message } : FrameView))]).map
                Prod.fst) := by
        unfold flight
        rw [List.map_append, List.append_assoc, List.append_assoc]
        rfl
      have sent := before.send
      rw [asked] at sent
      simp only [WorkerLink.work, program, if_neg waiting]
      exact ⟨settled.codec, settled.backed, settled.spoken, sent⟩
  | done place =>
    cases place with
    | loop tally =>
      by_cases reading : link.agent.reading = true
      · cases arriving : link.stream with
        | nil =>
          simp only [WorkerLink.work, program, if_pos reading, arriving]
          exact settled
        | cons incoming rest =>
          have left := settled.arrived arriving
          simp only [WorkerLink.work, program, if_pos reading, arriving]
          refine ⟨left.codec, left.backed, left.spoken, ?_⟩
          cases hear link.config.codec incoming.frame <;> exact left.outstanding
      · by_cases exits : link.agent.exitRequested = true
        · simp only [WorkerLink.work, program, if_neg reading, if_pos exits]
          exact ⟨settled.codec, settled.backed, settled.spoken, settled.outstanding⟩
        · simp only [WorkerLink.work, program, if_neg reading, if_neg exits]
          exact ⟨settled.codec, settled.backed, settled.spoken, settled.outstanding⟩
    | ended =>
      simp only [WorkerLink.work, program]
      exact settled

theorem Settled.failed (settled : link.Settled codec) (status : Status) : (link.failed status).Settled codec := by
  have before := settled.outstanding
  cases program : link.agent.program with
  | ask message next =>
    by_cases waiting : link.agent.awaiting = true
    · rw [waiting] at before
      simp only [WorkerLink.failed, program, if_pos waiting]
      exact ⟨settled.codec, settled.backed, settled.spoken, before.abandon⟩
    · rw [Bool.eq_false_iff.mpr waiting] at before
      have skipped := before.skip
      rw [← Bool.eq_false_iff.mpr waiting] at skipped
      simp only [WorkerLink.failed, program, if_neg waiting]
      exact ⟨settled.codec, settled.backed, settled.spoken, skipped⟩
  | done place =>
    cases place with
    | loop tally =>
      simp only [WorkerLink.failed, program]
      split
      · exact ⟨settled.codec, settled.backed, settled.spoken, before⟩
      · exact settled
    | ended =>
      simp only [WorkerLink.failed, program]
      exact settled

theorem Settled.refuse (settled : link.Settled codec) (status : Status) : (link.refuse status).1.Settled codec := by
  cases arriving : link.stream with
  | nil =>
    simp only [WorkerLink.refuse, arriving]
    exact settled
  | cons incoming rest =>
    simp only [WorkerLink.refuse, arriving]
    split
    · exact (settled.arrived arriving).failed status
    · exact settled

theorem Settled.step (settled : link.Settled codec) {turn : LinkTurn} (receivable : link.Receivable turn) :
    (link.step turn).1.Settled codec := by
  cases turn with
  | coordinate turn =>
    show (link.coordinate turn).Settled codec
    unfold WorkerLink.coordinate
    split
    · rename_i connection frame
      split
      · exact settled
      · rename_i apart
        apply settled.turned
        intro other same
        cases same
        exact apart rfl
    · rename_i other
      exact settled.turned fun frame same => other _ _ same
  | serve refusal => exact settled.serve refusal
  | work => exact settled.work receivable
  | refuse status => exact settled.refuse status
  | fail status => exact settled.failed status
  | requestExit => exact ⟨settled.codec, settled.backed, settled.spoken, settled.outstanding⟩

theorem hear_right {incoming : Incoming} : (Taken.heard incoming (hear codec incoming.frame)).Right codec ↔
    (incoming.frame.type = .assign → ∃ message, codec.assign incoming.frame.payload = .ok message) := by
  constructor
  · intro right assigns
    obtain ⟨message, decoded, -⟩ := right.mp assigns
    exact ⟨message, decoded⟩
  · intro decodes
    constructor
    · intro assigns
      obtain ⟨message, decoded⟩ := decodes assigns
      exact ⟨message, decoded, hear_handles.mpr ⟨assigns, decoded⟩⟩
    · intro handled
      obtain ⟨message, -, handles⟩ := handled
      exact (hear_handles.mp handles).1

def TakesRight (codec : ClientCodec) (link : WorkerLink) (turn : LinkTurn) : Prop :=
  ∀ taken, (link.step turn).2 = some taken → taken.Right codec

theorem refused_iff (codec : ClientCodec) (status : Status) :
    link.TakesRight codec (.refuse status) ↔ link.Receivable (.refuse status) := by
  constructor
  · intro right incoming rest arriving receiving
    refine right (.refused incoming) ?_
    simp only [WorkerLink.step, WorkerLink.refuse, arriving, if_pos receiving]
  · intro receivable taken takes
    simp only [WorkerLink.step, WorkerLink.refuse] at takes
    split at takes
    · cases takes
    · rename_i incoming rest arriving
      split at takes
      · rename_i receiving
        cases takes
        exact receivable incoming rest arriving receiving
      · cases takes

theorem Settled.called_iff (settled : link.Settled codec) {message : Message}
    {next : Except Status Payload → Conversation WorkerRest} (program : link.agent.program = .ask message next) :
    link.TakesRight codec .work ↔ link.Receivable .work := by
  constructor
  · intro right incoming rest arriving receiving
    simp only [WorkerLink.receiving, program] at receiving
    have took : (Taken.reply link.agent.correlation incoming).Right codec := by
      apply right
      simp only [WorkerLink.step, WorkerLink.work, program, if_pos receiving, arriving]
    simp only [program]
    exact ⟨link.agent.correlation, took.1, settled.outstanding.current receiving⟩
  · intro receivable taken takes
    simp only [WorkerLink.step, WorkerLink.work, program] at takes
    split at takes
    · rename_i waiting
      split at takes
      · cases takes
      · rename_i incoming rest arriving
        cases takes
        have receiving : link.receiving = true := by
          simp only [WorkerLink.receiving, program]
          exact waiting
        have may := receivable incoming rest arriving receiving
        simp only [program] at may
        obtain ⟨request, answers, kept⟩ := may
        have ours := settled.solicited arriving answers kept
        have spoken := settled.spoken incoming (by rw [arriving]; exact List.mem_cons_self) request answers
        exact ⟨ours ▸ answers, spoken⟩
    · cases takes

theorem Settled.looped_iff (settled : link.Settled codec) {tally : WorkerTally}
    (program : link.agent.program = .done (.loop tally)) : link.TakesRight codec .work ↔ link.Receivable .work := by
  constructor
  · intro right incoming rest arriving receiving
    simp only [WorkerLink.receiving, program] at receiving
    have took : (Taken.heard incoming (hear codec incoming.frame)).Right codec := by
      apply right
      simp only [WorkerLink.step, WorkerLink.work, program, if_pos receiving, arriving, settled.codec]
    simp only [program, settled.codec]
    exact hear_right.mp took
  · intro receivable taken takes
    simp only [WorkerLink.step, WorkerLink.work, program] at takes
    split at takes
    · rename_i reading
      split at takes
      · cases takes
      · rename_i incoming rest arriving
        cases takes
        have receiving : link.receiving = true := by
          simp only [WorkerLink.receiving, program]
          exact reading
        have may := receivable incoming rest arriving receiving
        simp only [program] at may
        rw [settled.codec] at may ⊢
        exact hear_right.mpr may
    · split at takes <;> cases takes

/-- What is taken in a turn is right if and only if it may be taken. -/
theorem Settled.right_iff (settled : link.Settled codec) (turn : LinkTurn) :
    link.TakesRight codec turn ↔ link.Receivable turn := by
  cases turn with
  | coordinate | serve | fail | requestExit =>
    constructor
    · intro _ incoming rest _ _
      trivial
    · intro _ taken takes
      cases takes
  | refuse status => exact refused_iff codec status
  | work =>
    cases program : link.agent.program with
    | ask message next => exact settled.called_iff program
    | done place =>
      cases place with
      | loop tally => exact settled.looped_iff program
      | ended =>
        constructor
        · intro _ incoming rest _ receiving
          simp only [WorkerLink.receiving, program] at receiving
          cases receiving
        · intro _ taken takes
          simp only [WorkerLink.step, WorkerLink.work, program] at takes
          cases takes

end Steps

theorem connect_settled {server : CoordinatorServer} {worker : WorkerConfig} {link : WorkerLink}
    (backed : server.Backed) (connected : connect server worker = some link) : link.Settled worker.codec := by
  unfold connect at connected
  split at connected
  · cases connected
  · rename_i listening
    cases connected
    refine ⟨rfl, CoordinatorServer.step_backed backed .accept, List.forall_mem_nil _, ?_⟩
    have quiet : ((server.step .accept).1.connections server.accepted).owed = 0 := by
      simp only [CoordinatorServer.step, if_neg listening]
      show (Function.update server.connections server.accepted _ server.accepted).owed = 0
      rw [Function.update_self]
      rfl
    unfold flight thread
    rw [quiet]
    exact Outstanding.initial

end WorkerLink

/-- In every run, the calls of a worker take the replies to their own requests, and its loop handles every assignment
    that is taken, if and only if no call finds another frame first and every assignment that is read is decoded. -/
theorem replies_match {config : CoordinatorConfig} {disk : Disk} {server : CoordinatorServer}
    (started : CoordinatorServer.start config disk = .ok server) (earlier : List Turn) {worker : WorkerConfig}
    {link : WorkerLink} (connected : WorkerLink.connect (server.runs earlier) worker = some link)
    (turns : List LinkTurn) :
    (∀ taken, some taken ∈ replies WorkerLink.step link turns → taken.Right worker.codec) ↔
      Guarded WorkerLink.step WorkerLink.Receivable link turns := by
  have backed := (CoordinatorServer.start_backed started).run earlier
  have settled := WorkerLink.connect_settled backed connected
  have spread : (∀ taken, some taken ∈ replies WorkerLink.step link turns → taken.Right worker.codec) ↔
      ∀ reply ∈ replies WorkerLink.step link turns, ∀ taken, reply = some taken → taken.Right worker.codec := by
    constructor
    · intro right reply member taken same
      exact right taken (same ▸ member)
    · intro right taken member
      exact right _ member taken rfl
  rw [spread, guarded_replies]
  constructor
  · intro right
    exact right.along (fun link turn settled ok => settled.step ((settled.right_iff turn).mp ok))
      (fun link turn settled ok => (settled.right_iff turn).mp ok) settled
  · intro receivable
    exact receivable.along (fun link turn settled ok => settled.step ok)
      (fun link turn settled ok => (settled.right_iff turn).mpr ok) settled

def Taken.stray : Taken → Bool
  | .reply _ incoming => incoming.answers.isNone && incoming.frame.type = .assign
  | _ => false

theorem Taken.Right.straight {codec : ClientCodec} {taken : Taken} (right : taken.Right codec) :
    taken.stray = false := by
  cases taken with
  | reply request incoming =>
    show (incoming.answers.isNone && decide (incoming.frame.type = .assign)) = false
    rw [decide_eq_false right.2, Bool.and_false]
  | heard | refused => rfl

namespace Bench

/-- A client that decodes each payload by its own decoder only. -/
def client : ClientCodec :=
  let undecodable : Status := ⟨.protocolError, ascii "payload is of another type"⟩
  { encodes := fun _ => .ok ()
    helloAck := fun payload => match payload with | .helloAck message => .ok message | _ => .error undecodable
    resourceAck := fun payload => match payload with | .resourceAck message => .ok message | _ => .error undecodable
    lifecycleAck := fun payload => match payload with | .lifecycleAck message => .ok message | _ => .error undecodable
    completionAck := fun payload => match payload with | .completionAck message => .ok message | _ => .error undecodable
    assign := fun payload => match payload with | .assign message => .ok message | _ => .error undecodable
    error := fun payload => match payload with | .error message => .ok message | _ => .error undecodable }

/-- Worker 21, with a resource of two slots. -/
def employee : WorkerConfig := { worker := ⟨21⟩, boot := ⟨1⟩, resources := .ok [owned 1], codec := client }

def employed : WorkerLink :=
  { server := (scheduler.step .accept).1, connection := 1, config := employee, agent := WorkerAgent.launch employee }

def exchange : List LinkTurn := [.work, .serve none, .coordinate (.act 1), .work]

/-- A controller on the second connection has a request placed. -/
def placement (id experiment : UInt64) : List LinkTurn :=
  let demand : FrameView := { correlation := 1, message := .scheduleRequest (request id experiment) }
  [.coordinate (.receive 2 demand), .coordinate (.act 2), .coordinate (.act 2)]

/-- The worker starts, and reads the assignment of a placement. -/
def handed : List LinkTurn :=
  exchange ++ exchange ++ [.coordinate .accept] ++ placement 5 1 ++ [.work, .work]

/-- A second request is placed while the acknowledgement of the first assignment is on its way. -/
def crossed : List LinkTurn :=
  handed ++ [.work] ++ placement 6 2 ++ [.serve none, .coordinate (.act 1), .work]

end Bench

theorem replies_match_bench :
    (∀ taken, some taken ∈ replies WorkerLink.step Bench.employed (Bench.handed ++ Bench.exchange) →
        taken.Right Bench.client) ↔
      Guarded WorkerLink.step WorkerLink.Receivable Bench.employed (Bench.handed ++ Bench.exchange) :=
  @replies_match Bench.unfiled (fun _ => none) Bench.scheduler rfl [] Bench.employee Bench.employed rfl
    (Bench.handed ++ Bench.exchange)

/-- The call that acknowledges the first assignment takes the second for its reply. -/
theorem assignment_taken_as_reply :
    CoordinatorServer.start Bench.unfiled (fun _ => none) = .ok Bench.scheduler ∧
      WorkerLink.connect Bench.scheduler Bench.employee = some Bench.employed ∧
      ¬ ∀ taken, some taken ∈ replies WorkerLink.step Bench.employed Bench.crossed → taken.Right Bench.client := by
  have strays : (replies WorkerLink.step Bench.employed Bench.crossed).any (fun taken => taken.any Taken.stray) := by
    decide +kernel
  refine ⟨rfl, rfl, fun right => ?_⟩
  obtain ⟨reply, member, strayed⟩ := List.any_eq_true.mp strays
  obtain ⟨taken, same, stray⟩ := (Option.any_eq_true ..).mp strayed
  have straight := (right taken (same ▸ member)).straight
  rw [straight] at stray
  cases stray

end LabScheduler
