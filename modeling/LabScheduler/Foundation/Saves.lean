import LabScheduler.Foundation.Run
import Mathlib.Data.List.Chain
import Mathlib.Logic.Function.Basic

namespace Foundation

/-- An export: how many exports and how many changes came before it. -/
structure Export where
  ticket : Nat
  version : Nat

@[ext] structure Saves (ι : Type*) where
  version : Nat := 0
  exports : Nat := 0
  owes : ι → Option Nat := fun _ => none
  pending : ι → Option Export := fun _ => none
  file : Option Export := none

namespace Saves

/-- `change` is a change that no thread will save, `pass` an export that goes elsewhere, `drop` a write that
    fails. -/
inductive Move (ι : Type*)
  | change
  | pass
  | mutate (i : ι)
  | take (i : ι)
  | put (i : ι)
  | drop (i : ι)

variable {ι : Type*} [DecidableEq ι]

def step (s : Saves ι) : Move ι → Saves ι × List Export
  | .change => ({ s with version := s.version + 1 }, [])
  | .pass => ({ s with exports := s.exports + 1 }, [])
  | .mutate i =>
    if s.owes i = none ∧ s.pending i = none then
      ({ s with version := s.version + 1, owes := Function.update s.owes i (some (s.version + 1)) }, [])
    else (s, [])
  | .take i =>
    match s.pending i with
    | some _ => (s, [])
    | none =>
      ({ s with
          exports := s.exports + 1
          owes := Function.update s.owes i none
          pending := Function.update s.pending i (some ⟨s.exports, s.version⟩) }, [])
  | .put i =>
    match s.pending i with
    | none => (s, [])
    | some held => ({ s with file := some held, pending := Function.update s.pending i none }, [held])
  | .drop i => ({ s with pending := Function.update s.pending i none }, [])

def Holds (s : Saves ι) (held : Export) : Prop := (∃ i, s.pending i = some held) ∨ s.file = some held

structure Sound (s : Saves ι) : Prop where
  bound : ∀ held, s.Holds held → held.ticket < s.exports ∧ held.version ≤ s.version
  ordered : ∀ older newer, s.Holds older → s.Holds newer → older.ticket < newer.ticket → older.version ≤ newer.version
  distinct : ∀ i j held other, s.pending i = some held → s.pending j = some other → held.ticket = other.ticket → i = j
  apart : ∀ i held written, s.pending i = some held → s.file = some written → written.ticket ≠ held.ticket
  owed : ∀ i version, s.owes i = some version → version ≤ s.version

def Current (s : Saves ι) : Prop :=
  ∀ i held written, s.pending i = some held → s.file = some written → written.ticket < held.ticket

def InTurn (s : Saves ι) : Move ι → Prop
  | .put i => ∀ j held other, j ≠ i → s.pending i = some held → s.pending j = some other → held.ticket < other.ticket
  | _ => True

def Forward (s : Saves ι) : Move ι → Prop
  | .put i => ∀ held written, s.pending i = some held → s.file = some written → written.ticket < held.ticket
  | _ => True

section Steps

variable {s : Saves ι}

theorem step_mutate {i : ι} (free : s.owes i = none ∧ s.pending i = none) : s.step (.mutate i) =
    ({ s with version := s.version + 1, owes := Function.update s.owes i (some (s.version + 1)) }, []) := by
  simp only [step, if_pos free]

theorem step_take {i : ι} (free : s.pending i = none) : s.step (.take i) =
    ({ s with
        exports := s.exports + 1
        owes := Function.update s.owes i none
        pending := Function.update s.pending i (some ⟨s.exports, s.version⟩) }, []) := by
  simp only [step, free]

theorem step_put {i : ι} {held : Export} (pending : s.pending i = some held) : s.step (.put i) =
    ({ s with file := some held, pending := Function.update s.pending i none }, [held]) := by
  simp only [step, pending]

theorem pending_step {move : Move ι} {i : ι} {held : Export} (pending : (s.step move).1.pending i = some held) :
    s.pending i = some held ∨ move = .take i ∧ s.pending i = none ∧ held = ⟨s.exports, s.version⟩ := by
  cases move with
  | change => exact .inl pending
  | pass => exact .inl pending
  | mutate j =>
    simp only [step] at pending
    split at pending <;> exact .inl pending
  | take j =>
    cases found : s.pending j with
    | some other =>
      simp only [step, found] at pending
      exact .inl pending
    | none =>
      simp only [step, found, Function.update_apply] at pending
      split at pending
      · rename_i same
        cases pending
        subst same
        exact .inr ⟨rfl, found, rfl⟩
      · exact .inl pending
  | put j =>
    cases found : s.pending j with
    | none =>
      simp only [step, found] at pending
      exact .inl pending
    | some other =>
      simp only [step, found, Function.update_apply] at pending
      split at pending
      · cases pending
      · exact .inl pending
  | drop j =>
    simp only [step, Function.update_apply] at pending
    split at pending
    · cases pending
    · exact .inl pending

theorem file_step {move : Move ι} {written : Export} (file : (s.step move).1.file = some written) :
    s.file = some written ∨ ∃ i, move = .put i ∧ s.pending i = some written := by
  cases move with
  | change => exact .inl file
  | pass => exact .inl file
  | mutate j =>
    simp only [step] at file
    split at file <;> exact .inl file
  | take j =>
    cases found : s.pending j with
    | some other =>
      simp only [step, found] at file
      exact .inl file
    | none =>
      simp only [step, found] at file
      exact .inl file
  | put j =>
    cases found : s.pending j with
    | none =>
      simp only [step, found] at file
      exact .inl file
    | some other =>
      simp only [step, found] at file
      cases file
      exact .inr ⟨j, rfl, found⟩
  | drop j => exact .inl file

theorem owes_step {move : Move ι} {i : ι} {version : Nat} (owes : (s.step move).1.owes i = some version) :
    s.owes i = some version ∨ version = (s.step move).1.version := by
  cases move with
  | change => exact .inl owes
  | pass => exact .inl owes
  | mutate j =>
    simp only [step] at owes ⊢
    split at owes
    · rename_i free
      rw [if_pos free]
      simp only [Function.update_apply] at owes
      split at owes
      · cases owes
        exact .inr rfl
      · exact .inl owes
    · exact .inl owes
  | take j =>
    cases found : s.pending j with
    | some other =>
      simp only [step, found] at owes
      exact .inl owes
    | none =>
      simp only [step, found, Function.update_apply] at owes
      split at owes
      · cases owes
      · exact .inl owes
  | put j =>
    cases found : s.pending j with
    | none =>
      simp only [step, found] at owes
      exact .inl owes
    | some other =>
      simp only [step, found] at owes
      exact .inl owes
  | drop j => exact .inl owes

theorem holds_step {move : Move ι} {held : Export} (holds : (s.step move).1.Holds held) :
    s.Holds held ∨ ∃ i, move = .take i ∧ s.pending i = none ∧ held = ⟨s.exports, s.version⟩ := by
  rcases holds with ⟨i, pending⟩ | written
  · rcases pending_step pending with before | ⟨same, free, made⟩
    · exact .inl (.inl ⟨i, before⟩)
    · exact .inr ⟨i, same, free, made⟩
  · rcases file_step written with before | ⟨i, -, pending⟩
    · exact .inl (.inr before)
    · exact .inl (.inl ⟨i, pending⟩)

theorem counters_step (s : Saves ι) (move : Move ι) :
    s.version ≤ (s.step move).1.version ∧ s.exports ≤ (s.step move).1.exports ∧
      ∀ i, move = .take i → s.pending i = none → (s.step move).1.exports = s.exports + 1 := by
  cases move with
  | change => exact ⟨Nat.le_succ _, Nat.le_refl _, nofun⟩
  | pass => exact ⟨Nat.le_refl _, Nat.le_succ _, nofun⟩
  | mutate j =>
    simp only [step]
    split
    · exact ⟨Nat.le_succ _, Nat.le_refl _, nofun⟩
    · exact ⟨Nat.le_refl _, Nat.le_refl _, nofun⟩
  | take j =>
    cases found : s.pending j with
    | some other =>
      simp only [step, found]
      refine ⟨Nat.le_refl _, Nat.le_refl _, fun i same free => ?_⟩
      cases same
      rw [found] at free
      cases free
    | none =>
      simp only [step, found]
      exact ⟨Nat.le_refl _, Nat.le_succ _, fun _ _ _ => trivial⟩
  | put j =>
    cases found : s.pending j with
    | none =>
      simp only [step, found]
      exact ⟨Nat.le_refl _, Nat.le_refl _, nofun⟩
    | some other =>
      simp only [step, found]
      exact ⟨Nat.le_refl _, Nat.le_refl _, nofun⟩
  | drop j => exact ⟨Nat.le_refl _, Nat.le_refl _, nofun⟩

theorem Sound.step (sound : Sound s) (move : Move ι) : Sound (s.step move).1 := by
  obtain ⟨versions, exports, counted⟩ := counters_step s move
  constructor
  case bound =>
    intro held holds
    rcases holds_step holds with before | ⟨i, same, free, rfl⟩
    · have within := sound.bound held before
      omega
    · have more := counted i same free
      constructor
      · change s.exports < _
        omega
      · exact versions
  case ordered =>
    intro older newer first second below
    rcases holds_step first with before | ⟨i, same, free, rfl⟩
    · rcases holds_step second with earlier | ⟨j, -, -, rfl⟩
      · exact sound.ordered older newer before earlier below
      · exact (sound.bound older before).2
    · rcases holds_step second with earlier | ⟨j, -, -, rfl⟩
      · have within := (sound.bound newer earlier).1
        have below : s.exports < newer.ticket := below
        omega
      · exact Nat.le_refl _
  case distinct =>
    intro i j held other first second same
    rcases pending_step first with before | ⟨rfl, free, rfl⟩
    · rcases pending_step second with earlier | ⟨rfl, free, rfl⟩
      · exact sound.distinct i j held other before earlier same
      · have within := (sound.bound held (.inl ⟨i, before⟩)).1
        have same : held.ticket = s.exports := same
        omega
    · rcases pending_step second with earlier | ⟨again, -, -⟩
      · have within := (sound.bound other (.inl ⟨j, earlier⟩)).1
        have same : s.exports = other.ticket := same
        omega
      · cases again
        rfl
  case apart =>
    intro i held written pending file same
    rcases pending_step pending with before | ⟨rfl, free, rfl⟩
    · rcases file_step file with earlier | ⟨j, rfl, there⟩
      · exact sound.apart i held written before earlier same
      · have one := sound.distinct i j held written before there same.symm
        subst one
        rw [before] at there
        cases there
        have gone : (s.step (.put i)).1.pending i = none := by
          simp only [Saves.step, before, Function.update_self]
        rw [gone] at pending
        cases pending
    · rcases file_step file with earlier | ⟨j, same, -⟩
      · have within := (sound.bound written (.inr earlier)).1
        have same : written.ticket = s.exports := same
        omega
      · cases same

  case owed =>
    intro i version owes
    rcases owes_step owes with before | rfl
    · exact (sound.owed i version before).trans versions
    · exact Nat.le_refl _

theorem Current.step (current : Current s) (sound : Sound s) {move : Move ι} (turn : s.InTurn move) :
    Current (s.step move).1 := by
  intro i held written pending file
  rcases file_step file with earlier | ⟨j, rfl, there⟩
  · rcases pending_step pending with before | ⟨-, -, rfl⟩
    · exact current i held written before earlier
    · exact (sound.bound written (.inr earlier)).1
  · rcases pending_step pending with before | ⟨same, -, -⟩
    · by_cases one : i = j
      · subst one
        have gone : (s.step (.put i)).1.pending i = none := by
          simp only [Saves.step, there, Function.update_self]
        rw [gone] at pending
        cases pending
      · exact turn i written held one there before
    · cases same

omit [DecidableEq ι] in
theorem Current.forward (current : Current s) (move : Move ι) : s.Forward move := by
  cases move with
  | put i => exact fun held written pending file => current i held written pending file
  | _ => trivial

end Steps

omit [DecidableEq ι] in
theorem Sound.start : Sound ({} : Saves ι) := by
  have nothing (held : Export) : ¬ ({} : Saves ι).Holds held := by
    intro holds
    rcases holds with ⟨i, pending⟩ | file
    · cases pending
    · cases file
  constructor
  case bound => exact fun held holds => absurd holds (nothing held)
  case ordered => exact fun older _ holds => absurd holds (nothing older)
  case distinct => exact fun _ _ _ _ pending => nomatch pending
  case apart => exact fun _ _ _ pending => nomatch pending
  case owed => exact fun _ _ owes => nomatch owes

omit [DecidableEq ι] in
theorem Current.start : Current ({} : Saves ι) := fun _ _ _ pending => nomatch pending

section Runs

variable {s : Saves ι} {moves : List (Move ι)}

theorem forward_of_inTurn (sound : Sound s) (current : Current s) (turns : Guarded step InTurn s moves) :
    Guarded step Forward s moves := by
  induction moves generalizing s with
  | nil => trivial
  | cons move rest ih =>
    obtain ⟨turn, later⟩ := turns
    exact ⟨current.forward move, ih (sound.step move) (current.step sound turn) later⟩

theorem run_current (sound : Sound s) (current : Current s) (turns : Guarded step InTurn s moves) :
    Sound (run step s moves) ∧ Current (run step s moves) := by
  induction moves generalizing s with
  | nil => exact ⟨sound, current⟩
  | cons move rest ih => exact ih (sound.step move) (current.step sound turns.1) turns.2

theorem overtaken_step {move : Move ι} {i : ι} {held written : Export} (pending : s.pending i = some held)
    (file : s.file = some written) (overtaken : held.ticket < written.ticket) (forward : s.Forward move)
    (succeeds : ∀ j, move ≠ .drop j) :
    (s.step move).1.pending i = some held ∧
      ∃ later, (s.step move).1.file = some later ∧ held.ticket < later.ticket := by
  cases move with
  | change => exact ⟨pending, written, file, overtaken⟩
  | pass => exact ⟨pending, written, file, overtaken⟩
  | mutate j =>
    simp only [step]
    split <;> exact ⟨pending, written, file, overtaken⟩
  | take j =>
    cases found : s.pending j with
    | some other =>
      simp only [step, found]
      exact ⟨pending, written, file, overtaken⟩
    | none =>
      have away : i ≠ j := by
        intro same
        rw [← same, pending] at found
        cases found
      simp only [step, found, Function.update_of_ne away]
      exact ⟨pending, written, file, overtaken⟩
  | put j =>
    cases found : s.pending j with
    | none =>
      simp only [step, found]
      exact ⟨pending, written, file, overtaken⟩
    | some other =>
      have newer := forward other written found file
      have away : i ≠ j := by
        intro same
        rw [← same, pending] at found
        cases found
        omega
      simp only [step, found, Function.update_of_ne away]
      exact ⟨pending, other, rfl, by omega⟩
  | drop j => exact absurd rfl (succeeds j)

theorem overtaken_runs {i : ι} {held written : Export} (pending : s.pending i = some held)
    (file : s.file = some written) (overtaken : held.ticket < written.ticket) (forward : Guarded step Forward s moves)
    (succeeds : ∀ j, Move.drop j ∉ moves) : (run step s moves).pending i = some held := by
  induction moves generalizing s written with
  | nil => exact pending
  | cons move rest ih =>
    obtain ⟨here, later⟩ := forward
    have head : ∀ j, move ≠ .drop j := fun j same => succeeds j (same ▸ List.mem_cons_self)
    obtain ⟨kept, newer, there, still⟩ := overtaken_step pending file overtaken here head
    exact ih kept there still later fun j member => succeeds j (List.mem_cons_of_mem _ member)

/-- When every write succeeds and every thread comes to the end of its save, the file goes back as soon as one
    write overtakes an older export. -/
theorem inTurn_of_forward (sound : Sound s) (forward : Guarded step Forward s moves)
    (succeeds : ∀ j, Move.drop j ∉ moves) (finished : ∀ i, (run step s moves).pending i = none) :
    Guarded step InTurn s moves := by
  induction moves generalizing s with
  | nil => trivial
  | cons move rest ih =>
    obtain ⟨here, later⟩ := forward
    have tail : ∀ j, Move.drop j ∉ rest := fun j member => succeeds j (List.mem_cons_of_mem _ member)
    refine ⟨?_, ih (sound.step move) later tail finished⟩
    cases move with
    | put i =>
      intro j held other away pending waiting
      by_contra overtakes
      have apart : held.ticket ≠ other.ticket := fun same => away (sound.distinct i j held other pending waiting same).symm
      have kept : (s.step (.put i)).1.pending j = some other := by
        simp only [step, pending, Function.update_of_ne away]
        exact waiting
      have written : (s.step (.put i)).1.file = some held := by
        simp only [step, pending]
      have stuck := overtaken_runs kept written (by omega) later tail
      have gone := finished j
      rw [run_cons, stuck] at gone
      cases gone
    | _ => trivial

theorem step_writes (s : Saves ι) (move : Move ι) :
    ((s.step move).2 = [] ∧ (s.step move).1.file = s.file ∧ s.Forward move) ∨
      ∃ i held, move = .put i ∧ s.pending i = some held ∧ (s.step move).2 = [held] ∧
        (s.step move).1.file = some held := by
  cases move with
  | change => exact .inl ⟨rfl, rfl, trivial⟩
  | pass => exact .inl ⟨rfl, rfl, trivial⟩
  | mutate j =>
    left
    simp only [step]
    split <;> exact ⟨rfl, rfl, trivial⟩
  | take j =>
    left
    simp only [step]
    split <;> exact ⟨rfl, rfl, trivial⟩
  | put j =>
    cases found : s.pending j with
    | none =>
      left
      simp only [step, found]
      refine ⟨trivial, trivial, fun held written pending => ?_⟩
      rw [found] at pending
      cases pending
    | some held =>
      right
      simp only [step, found]
      exact ⟨j, held, rfl, found, rfl, rfl⟩
  | drop j => exact .inl ⟨rfl, rfl, trivial⟩

/-- The file goes forward exactly when each export written is newer than the one before it. -/
theorem forward_iff_ascending : Guarded step Forward s moves ↔
    (s.file.toList ++ (replies step s moves).flatten).IsChain fun older newer => older.ticket < newer.ticket := by
  induction moves generalizing s with
  | nil =>
    refine iff_of_true trivial ?_
    cases s.file <;> simp [replies]
  | cons move rest ih =>
    rw [replies, List.flatten_cons]
    rcases step_writes s move with ⟨nothing, same, forward⟩ | ⟨i, held, rfl, pending, out, written⟩
    · rw [nothing, List.nil_append, ← same, ← ih]
      exact and_iff_right forward
    · have tail := ih (s := (s.step (.put i)).1)
      rw [written] at tail
      rw [out]
      have later : (Option.some held).toList ++ (replies step (s.step (.put i)).1 rest).flatten =
          held :: (replies step (s.step (.put i)).1 rest).flatten := rfl
      rw [later] at tail
      have guarded : Guarded step Forward s (.put i :: rest) ↔
          s.Forward (.put i) ∧ (held :: (replies step (s.step (.put i)).1 rest).flatten).IsChain
            fun older newer => older.ticket < newer.ticket := and_congr_right' tail
      rw [guarded]
      cases file : s.file with
      | none =>
        refine and_iff_right fun held written _ there => ?_
        rw [file] at there
        cases there
      | some before =>
        change _ ↔ (before :: held :: _).IsChain _
        rw [List.isChain_cons_cons]
        refine and_congr_left' ⟨fun forward => forward held before pending file, fun newer other written waiting there => ?_⟩
        rw [pending] at waiting
        rw [file] at there
        cases waiting
        cases there
        exact newer

def Due (s : Saves ι) (i : ι) (version : Nat) : Prop :=
  s.owes i = some version ∨ (∃ held, s.pending i = some held ∧ version ≤ held.version) ∨
    ∃ written, s.file = some written ∧ version ≤ written.version

theorem Due.step {i : ι} {version : Nat} (due : s.Due i version) (sound : Sound s) (current : Current s) {move : Move ι}
    (succeeds : move ≠ .drop i) : (s.step move).1.Due i version := by
  have settled {written : Export} (file : s.file = some written) (within : version ≤ written.version) :
      (s.step move).1.Due i version := by
    rcases step_writes s move with ⟨-, same, -⟩ | ⟨j, held, rfl, pending, -, now⟩
    · exact .inr (.inr ⟨written, same.trans file, within⟩)
    · have newer := sound.ordered written held (.inr file) (.inl ⟨j, pending⟩) (current j held written pending file)
      exact .inr (.inr ⟨held, now, within.trans newer⟩)
  rcases due with owes | ⟨held, pending, within⟩ | ⟨written, file, within⟩
  · cases move with
    | change => exact .inl owes
    | pass => exact .inl owes
    | mutate j =>
      simp only [Saves.step]
      split
      · rename_i free
        have away : i ≠ j := by
          intro same
          rw [← same, owes] at free
          cases free.1
        left
        simp only [Function.update_of_ne away]
        exact owes
      · exact .inl owes
    | take j =>
      cases found : s.pending j with
      | some other =>
        simp only [Saves.step, found]
        exact .inl owes
      | none =>
        by_cases same : i = j
        · subst same
          refine .inr (.inl ⟨⟨s.exports, s.version⟩, ?_, sound.owed i version owes⟩)
          simp only [Saves.step, found, Function.update_self]
        · left
          simp only [Saves.step, found, Function.update_of_ne same]
          exact owes
    | put j =>
      cases found : s.pending j with
      | none =>
        simp only [Saves.step, found]
        exact .inl owes
      | some other =>
        simp only [Saves.step, found]
        exact .inl owes
    | drop j => exact .inl owes
  · cases move with
    | change => exact .inr (.inl ⟨held, pending, within⟩)
    | pass => exact .inr (.inl ⟨held, pending, within⟩)
    | mutate j =>
      simp only [Saves.step]
      split <;> exact .inr (.inl ⟨held, pending, within⟩)
    | take j =>
      cases found : s.pending j with
      | some other =>
        simp only [Saves.step, found]
        exact .inr (.inl ⟨held, pending, within⟩)
      | none =>
        have away : i ≠ j := by
          intro same
          rw [← same, pending] at found
          cases found
        refine .inr (.inl ⟨held, ?_, within⟩)
        simp only [Saves.step, found, Function.update_of_ne away]
        exact pending
    | put j =>
      cases found : s.pending j with
      | none =>
        simp only [Saves.step, found]
        exact .inr (.inl ⟨held, pending, within⟩)
      | some other =>
        by_cases same : i = j
        · subst same
          rw [pending] at found
          cases found
          refine .inr (.inr ⟨held, ?_, within⟩)
          simp only [Saves.step, pending]
        · refine .inr (.inl ⟨held, ?_, within⟩)
          simp only [Saves.step, found, Function.update_of_ne same]
          exact pending
    | drop j =>
      have away : i ≠ j := fun same => succeeds (same ▸ rfl)
      refine .inr (.inl ⟨held, ?_, within⟩)
      simp only [Saves.step, Function.update_of_ne away]
      exact pending
  · exact settled file within

omit [DecidableEq ι] in
theorem Due.settled {i : ι} {version : Nat} (due : s.Due i version) (paid : s.owes i = none)
    (free : s.pending i = none) : ∃ written, s.file = some written ∧ version ≤ written.version := by
  rcases due with owes | ⟨held, pending, -⟩ | settled
  · rw [paid] at owes
    cases owes
  · rw [free] at pending
    cases pending
  · exact settled

theorem run_due {i : ι} {version : Nat} (due : s.Due i version) (sound : Sound s) (current : Current s)
    (turns : Guarded step InTurn s moves) (succeeds : ∀ j, Move.drop j ∉ moves) : (run step s moves).Due i version := by
  induction moves generalizing s with
  | nil => exact due
  | cons move rest ih =>
    obtain ⟨turn, later⟩ := turns
    have head : move ≠ .drop i := fun same => succeeds i (same ▸ List.mem_cons_self)
    exact ih (due.step sound current head) (sound.step move) (current.step sound turn) later
      fun j member => succeeds j (List.mem_cons_of_mem _ member)

end Runs

end Saves

end Foundation
