import LabScheduler.Engine.Calls
import LabScheduler.Engine.Rebuilt

namespace LabScheduler

open Foundation

/-- What the life of a scheduler is made of: its operations, and restarts. -/
inductive LifeEvent
  | operation (operation : Operation)
  | restart (config : EngineConfig)

namespace Engine

variable (engine : Engine)

def exported : DurableState := exportState engine.state engine.config engine.ids

/-- A restart: a fresh engine imports what this one exports. Where it refuses, there is nothing to go on with, and
    the life stays where it was. -/
def live : LifeEvent → Engine × Reply
  | .operation operation => engine.step operation
  | .restart config =>
    match (Engine.fresh config).step (.importState engine.exported) with
    | (recovered, .recovery (.ok report)) => (recovered, .recovery (.ok report))
    | (_, reply) => (engine, reply)

abbrev lives (events : List LifeEvent) : Engine := run live engine events

end Engine

section Restart

variable {engine : Engine} {config : EngineConfig}

theorem Engine.live_restart (engine : Engine) (config : EngineConfig) :
    (engine.live (.restart config)).1 = engine ∨
      importChecks (Engine.fresh config).state engine.exported = .ok () ∧
        (engine.live (.restart config)).1.config = config ∧
        ∃ kind detail, (engine.live (.restart config)).1.state =
          pushAudit (rebuildState (Engine.fresh config).state engine.exported).state config kind detail := by
  cases accepted : importChecks (Engine.fresh config).state engine.exported with
  | error status =>
    left
    simp only [Engine.live, Engine.step, importState, accepted]
  | ok =>
    right
    refine ⟨rfl, ?_, ?_⟩
    · simp only [Engine.live, Engine.step, importState, accepted]
      rfl
    · simp only [Engine.live, Engine.step, importState, accepted]
      exact ⟨_, _, rfl⟩

theorem Engine.live_restart_envelope (engine : Engine) (config : EngineConfig) :
    (engine.live (.restart config)).2.envelope = none := by
  cases accepted : importChecks (Engine.fresh config).state engine.exported with
  | error status =>
    simp only [Engine.live, Engine.step, importState, accepted]
    rfl
  | ok =>
    simp only [Engine.live, Engine.step, importState, accepted]
    rfl

end Restart

end LabScheduler
