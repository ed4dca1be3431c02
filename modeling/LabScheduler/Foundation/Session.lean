import Mathlib.Data.List.Nodup

namespace Foundation

/-- A program that asks questions of `ρ`, is told answers of `σ`, and ends with a value of `α`. -/
inductive Session (ρ σ α : Type) : Type
  | done (value : α)
  | ask (request : ρ) (next : σ → Session ρ σ α)

namespace Session

variable {ρ σ α β : Type}

def bind (session : Session ρ σ α) (after : α → Session ρ σ β) : Session ρ σ β :=
  match session with
  | .done value => after value
  | .ask request next => .ask request fun answer => (next answer).bind after

instance : Monad (Session ρ σ) where
  pure := .done
  bind := bind

/-- The program against a server that answers each question at once. -/
def serve {γ : Type} (answer : γ → ρ → γ × σ) (session : Session ρ σ α) (server : γ) : γ × α :=
  match session with
  | .done value => (server, value)
  | .ask request next => (next (answer server request).2).serve answer (answer server request).1

theorem serve_bind {γ : Type} (answer : γ → ρ → γ × σ) (session : Session ρ σ α) (after : α → Session ρ σ β)
    (server : γ) :
    (session >>= after).serve answer server =
      (after (session.serve answer server).2).serve answer (session.serve answer server).1 := by
  induction session generalizing server with
  | done value => rfl
  | ask request next ih => exact ih (answer server request).2 (answer server request).1

end Session

/-- Of the requests numbered up to `sent`, one at a time was waited for. Those in flight are the one that is waited
    for, and ones that were given up, each at most once. -/
structure Outstanding (sent : Nat) (awaiting : Bool) (abandoned flight : List Nat) : Prop where
  distinct : flight.Nodup
  known : ∀ request ∈ flight, request ∈ abandoned ∨ awaiting = true ∧ request = sent
  past : ∀ request ∈ abandoned, request ≤ sent
  current : awaiting = true → sent ∉ abandoned

namespace Outstanding

variable {sent : Nat} {awaiting : Bool} {abandoned flight rest : List Nat}

theorem initial : Outstanding 0 false [] [] := by
  constructor
  · exact List.nodup_nil
  · intro request member
    cases member
  · intro request member
    cases member
  · intro waiting
    cases waiting

theorem fewer (outstanding : Outstanding sent awaiting abandoned flight) (fewer : rest.Sublist flight) :
    Outstanding sent awaiting abandoned rest := by
  constructor
  · exact outstanding.distinct.sublist fewer
  · exact fun request member => outstanding.known request (fewer.subset member)
  · exact outstanding.past
  · exact outstanding.current

theorem send (outstanding : Outstanding sent false abandoned flight) :
    Outstanding (sent + 1) true abandoned (flight ++ [sent + 1]) := by
  have old (request : Nat) (member : request ∈ flight) : request ∈ abandoned ∧ request ≤ sent := by
    rcases outstanding.known request member with given | ⟨waiting, -⟩
    · exact ⟨given, outstanding.past request given⟩
    · cases waiting
  constructor
  · apply List.nodup_append.mpr
    refine ⟨outstanding.distinct, List.nodup_singleton _, fun request member other only same => ?_⟩
    have below := (old request member).2
    rw [List.mem_singleton.mp only] at same
    omega
  · intro request member
    rcases List.mem_append.mp member with before | only
    · exact .inl (old request before).1
    · exact .inr ⟨rfl, List.mem_singleton.mp only⟩
  · intro request given
    have below := outstanding.past request given
    omega
  · intro _ given
    have below := outstanding.past _ given
    omega

theorem skip (outstanding : Outstanding sent false abandoned flight) :
    Outstanding (sent + 1) false abandoned flight := by
  constructor
  · exact outstanding.distinct
  · intro request member
    rcases outstanding.known request member with given | ⟨waiting, -⟩
    · exact .inl given
    · cases waiting
  · intro request given
    have below := outstanding.past request given
    omega
  · intro waiting
    cases waiting

theorem take (outstanding : Outstanding sent true abandoned (sent :: rest)) :
    Outstanding sent false abandoned rest := by
  obtain ⟨apart, distinct⟩ := List.nodup_cons.mp outstanding.distinct
  constructor
  · exact distinct
  · intro request member
    rcases outstanding.known request (List.mem_cons_of_mem _ member) with given | ⟨-, same⟩
    · exact .inl given
    · exact absurd (same ▸ member) apart
  · exact outstanding.past
  · intro waiting
    cases waiting

theorem abandon (outstanding : Outstanding sent true abandoned flight) :
    Outstanding sent false (abandoned ++ [sent]) flight := by
  constructor
  · exact outstanding.distinct
  · intro request member
    rcases outstanding.known request member with given | ⟨-, same⟩
    · exact .inl (List.mem_append_left _ given)
    · exact .inl (List.mem_append_right _ (List.mem_singleton.mpr same))
  · intro request given
    rcases List.mem_append.mp given with before | only
    · exact outstanding.past request before
    · exact Nat.le_of_eq (List.mem_singleton.mp only)
  · intro waiting
    cases waiting

/-- An answer that is in flight and was not given up is the one that is waited for. -/
theorem answers (outstanding : Outstanding sent awaiting abandoned flight) {request : Nat}
    (member : request ∈ flight) (kept : request ∉ abandoned) : request = sent := by
  rcases outstanding.known request member with given | ⟨-, same⟩
  · exact absurd given kept
  · exact same

end Outstanding

end Foundation
