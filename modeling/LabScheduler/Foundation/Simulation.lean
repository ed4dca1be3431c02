import LabScheduler.Foundation.Run

namespace Foundation

variable {σ op reply τ mv out : Type*}

/-- On the states where the invariant holds, a step of the concrete system makes its moves in the abstract one,
    and shows what they put out. -/
structure Simulates (step : σ → op → σ × reply) (abstract : τ → mv → τ × List out) (holds : σ → Prop) (view : σ → τ)
    (moves : σ → op → List mv) (seen : reply → List out) : Prop where
  keeps : ∀ s o, holds s → holds (step s o).1
  commutes : ∀ s o, holds s → view (step s o).1 = run abstract (view s) (moves s o)
  shows : ∀ s o, holds s → seen (step s o).2 = (replies abstract (view s) (moves s o)).flatten

def runMoves (step : σ → op → σ × reply) (moves : σ → op → List mv) : σ → List op → List mv
  | _, [] => []
  | s, o :: rest => moves s o ++ runMoves step moves (step s o).1 rest

namespace Simulates

variable {step : σ → op → σ × reply} {abstract : τ → mv → τ × List out} {holds : σ → Prop} {view : σ → τ}
  {moves : σ → op → List mv} {seen : reply → List out} {s : σ}
  (simulates : Simulates step abstract holds view moves seen) (initial : holds s) (ops : List op)

include simulates initial

theorem run : holds (run step s ops) ∧
    view (Foundation.run step s ops) = Foundation.run abstract (view s) (runMoves step moves s ops) := by
  induction ops generalizing s with
  | nil => exact ⟨initial, rfl⟩
  | cons o rest ih =>
    obtain ⟨kept, follows⟩ := ih (simulates.keeps s o initial)
    refine ⟨kept, ?_⟩
    rw [run_cons, follows, simulates.commutes s o initial, runMoves, run_append]

theorem trace : (replies step s ops).flatMap seen =
    (replies abstract (view s) (runMoves step moves s ops)).flatten := by
  induction ops generalizing s with
  | nil => rfl
  | cons o rest ih =>
    rw [replies, List.flatMap_cons, runMoves, replies_append, List.flatten_append, ih (simulates.keeps s o initial),
      simulates.commutes s o initial, simulates.shows s o initial]

/-- A guard of the moves that says of each step what another guard says. -/
theorem guarded {ok : τ → mv → Prop} {allowed : σ → op → Prop}
    (same : ∀ s o, holds s → (Guarded abstract ok (view s) (moves s o) ↔ allowed s o)) :
    Guarded abstract ok (view s) (runMoves step moves s ops) ↔ Guarded step allowed s ops := by
  induction ops generalizing s with
  | nil => rfl
  | cons o rest ih =>
    have later := ih (simulates.keeps s o initial)
    rw [runMoves, guarded_append, ← simulates.commutes s o initial, later, same s o initial]
    rfl

end Simulates

end Foundation
