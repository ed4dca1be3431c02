import LabScheduler.Foundation.Decoding

namespace Foundation

universe u

/-- A source with a code for its own failures, and the readers that touch its input. -/
class Boundary (σ ε : Type u) {β : outParam (Type*)} [Source σ β] (κ : outParam (Type*)) where
  own : σ → κ
  code : ε → κ
  own_skip : ∀ s n, own (Source.skip s n) = own s
  Basic : {α : Type u} → Reader σ ε α → Prop
  takes : ∀ {α : Type u} {read : Reader σ ε α}, Basic read → ∀ {s after : σ} {a : α},
    read s = .ok (a, after) → ∃ symbols, Consumes symbols s after

variable {σ ε α γ : Type u} {β ω κ : Type*}

namespace Reader

theorem bind_error {first : Reader σ ε α} {next : α → Reader σ ε γ} {s : σ} {e : ε} :
    (first >>= next) s = .error e ↔
      first s = .error e ∨ ∃ a mid, first s = .ok (a, mid) ∧ next a mid = .error e := by
  change (first s >>= fun both => next both.1 both.2) = _ ↔ _
  cases first s with
  | error status =>
    change Except.error status = _ ↔ _
    constructor
    · intro fails
      exact .inl (Except.error.inj fails ▸ rfl)
    · intro cases
      obtain fails | ⟨_, _, reads, -⟩ := cases
      · exact Except.error.inj fails ▸ rfl
      · cases reads
  | ok both =>
    constructor
    · intro fails
      exact .inr ⟨both.1, both.2, rfl, fails⟩
    · intro cases
      obtain fails | ⟨_, _, reads, fails⟩ := cases
      · cases fails
      · cases reads
        exact fails

theorem check_error {test : Except ε α} {s : σ} {e : ε} :
    (check test : Reader σ ε α) s = .error e ↔ test = .error e := by
  cases test with
  | error status => simp [check, Except.map]
  | ok a => simp [check, Except.map]

end Reader

variable [Source σ β] [Boundary σ ε κ]

open Boundary

/-- A reader that touches the input through basic readers alone. -/
inductive Made : {α : Type u} → Reader σ ε α → Prop
  | basic {α : Type u} {read : Reader σ ε α} (touches : Basic read) : Made read
  | check {α : Type u} (test : Except ε α) : Made (Reader.check test)
  | bind {α γ : Type u} {first : Reader σ ε α} {next : α → Reader σ ε γ} (made : Made first)
      (later : ∀ s a after, first s = .ok (a, after) → Made (next a)) : Made (first >>= next)

theorem Made.takes {read : Reader σ ε α} (made : Made read) {s after : σ} {a : α} (accepted : read s = .ok (a, after)) :
    ∃ symbols, Consumes symbols s after := by
  induction made generalizing s after with
  | basic touches => exact Boundary.takes touches accepted
  | check test => exact ⟨[], Consumes.nil.mpr (Reader.check_ok.mp accepted).2⟩
  | bind _ _ first later =>
    obtain ⟨b, mid, here, others⟩ := Reader.bind_ok.mp accepted
    obtain ⟨symbols, consumes⟩ := first here
    obtain ⟨rest, consumed⟩ := later s b mid here others
    exact ⟨symbols ++ rest, Consumes.append.mpr ⟨mid, consumes, consumed⟩⟩

theorem Consumes.own (ε : Type u) [Boundary σ ε κ] {symbols : List β} {s after : σ} (consumes : Consumes symbols s after) :
    Boundary.own ε after = Boundary.own ε s := by
  rw [consumes.2, own_skip]

/-- The reader fails with another code than that of its source exactly where the input is refused with it. -/
structure Stops (read : Reader σ ε α) (refusal : κ → List β → Prop) : Prop where
  made : Made read
  refuses : ∀ s k, k ≠ own ε s → ((∃ e, read s = .error e ∧ code σ e = k) ↔ refusal k (Source.rest s))

structure Judges (write : ω → List β) (value : ω → α) (read : Reader σ ε α) (bounds : ω → Prop)
    (refusal : κ → List β → Prop) : Prop where
  decodes : Decodes write value read bounds
  stops : Stops read refusal

/-- A part of a format: what it accepts, and what it refuses. -/
structure Part (κ β : Type*) where
  accepts : List β → Prop
  refuses : κ → List β → Prop

def Part.of (write : ω → List β) (bounds : ω → Prop) (refusal : κ → List β → Prop) : Part κ β where
  accepts front := ∃ w, bounds w ∧ write w = front
  refuses := refusal

/-- Some of the parts are accepted one after another, and the next one is refused. -/
def refusedIn : List (Part κ β) → κ → List β → Prop
  | [], _, _ => False
  | part :: parts, k, input =>
    part.refuses k input ∨ ∃ front rest, part.accepts front ∧ input = front ++ rest ∧ refusedIn parts k rest

namespace Stops

variable {read : Reader σ ε α} {refusal other : κ → List β → Prop}

theorem congr (stops : Stops read refusal) (same : ∀ k input, refusal k input ↔ other k input) : Stops read other where
  made := stops.made
  refuses s k foreign := (stops.refuses s k foreign).trans (same k _)

/-- Every failure has the code of the source, exactly if no input is refused with another one. -/
theorem own_iff (stops : Stops read refusal) (s : σ) :
    (∀ e, read s = .error e → code σ e = own ε s) ↔ ∀ k, k ≠ own ε s → ¬ refusal k (Source.rest s) := by
  constructor
  · intro all k foreign refused
    obtain ⟨e, fails, rfl⟩ := (stops.refuses s k foreign).mpr refused
    exact foreign (all e fails)
  · intro none e fails
    by_contra foreign
    exact none _ foreign ((stops.refuses s _ foreign).mp ⟨e, fails, rfl⟩)

theorem silent (made : Made read) (fails : ∀ s e, read s = .error e → code σ e = own ε s) :
    Stops read (fun _ _ => False) where
  made
  refuses s k foreign := by
    refine iff_of_false (fun failure => ?_) id
    obtain ⟨e, failed, rfl⟩ := failure
    exact foreign (fails s e failed)

theorem check (test : Except ε α) :
    Stops (Reader.check test : Reader σ ε α) (fun k _ => ∃ e, test = .error e ∧ code σ e = k) where
  made := .check test
  refuses s k _ := by simp only [Reader.check_error]

theorem pure (a : α) : Stops (Pure.pure a : Reader σ ε α) (fun _ _ => False) :=
  (check (Except.ok a)).congr fun _ _ => by simp

theorem quiet {next : α → Reader σ ε γ} (head : Stops read refusal) (tail : ∀ a, Stops (next a) (fun _ _ => False)) :
    Stops (read >>= next) refusal where
  made := .bind head.made fun _ a _ _ => (tail a).made
  refuses s k foreign := by
    rw [← head.refuses s k foreign]
    constructor
    · intro failure
      obtain ⟨e, fails, same⟩ := failure
      obtain fails | ⟨a, mid, accepted, fails⟩ := Reader.bind_error.mp fails
      · exact ⟨e, fails, same⟩
      · obtain ⟨symbols, consumes⟩ := head.made.takes accepted
        have foreign : k ≠ own ε mid := (consumes.own ε).symm ▸ foreign
        exact (((tail a).refuses mid k foreign).mp ⟨e, fails, same⟩).elim
    · intro failure
      obtain ⟨e, fails, same⟩ := failure
      exact ⟨e, Reader.bind_error.mpr (.inl fails), same⟩

theorem after {write : ω → List β} {value : ω → α} {bounds : ω → Prop} {next : α → Reader σ ε γ}
    {later : ω → κ → List β → Prop} (head : Judges write value read bounds refusal)
    (tail : ∀ w, bounds w → Stops (next (value w)) (later w)) :
    Stops (read >>= next) (fun k input =>
      refusal k input ∨ ∃ w rest, bounds w ∧ input = write w ++ rest ∧ later w k rest) where
  made := .bind head.stops.made fun s a mid accepted => by
    obtain ⟨w, within, rfl, -⟩ := head.decodes.written accepted
    exact (tail w within).made
  refuses s k foreign := by
    constructor
    · intro failure
      obtain ⟨e, fails, same⟩ := failure
      obtain fails | ⟨a, mid, accepted, fails⟩ := Reader.bind_error.mp fails
      · exact .inl ((head.stops.refuses s k foreign).mp ⟨e, fails, same⟩)
      · obtain ⟨w, within, rfl, consumes⟩ := head.decodes.written accepted
        have foreign : k ≠ own ε mid := (consumes.own ε).symm ▸ foreign
        exact .inr ⟨w, _, within, consumes.rest, ((tail w within).refuses mid k foreign).mp ⟨e, fails, same⟩⟩
    · intro refused
      obtain refused | ⟨w, rest, within, there, refused⟩ := refused
      · obtain ⟨e, fails, same⟩ := (head.stops.refuses s k foreign).mpr refused
        exact ⟨e, Reader.bind_error.mpr (.inl fails), same⟩
      · have consumes : Consumes (write w) s (Source.skip s (write w).length) := ⟨⟨rest, there.symm⟩, rfl⟩
        have left : Source.rest (Source.skip s (write w).length) = rest :=
          List.append_cancel_left (consumes.rest.symm.trans there)
        have foreign : k ≠ own ε (Source.skip s (write w).length) := (consumes.own ε).symm ▸ foreign
        obtain ⟨e, fails, same⟩ := ((tail w within).refuses _ k foreign).mpr (left ▸ refused)
        exact ⟨e, Reader.bind_error.mpr (.inr ⟨_, _, head.decodes.reads within consumes, fails⟩), same⟩

theorem checked {test : Except ε α} {next : α → Reader σ ε γ} {later : α → κ → List β → Prop}
    (tail : ∀ a, test = .ok a → Stops (next a) (later a)) :
    Stops (Reader.check test >>= next) (fun k input =>
      (∃ e, test = .error e ∧ code σ e = k) ∨ ∃ a, test = .ok a ∧ later a k input) where
  made := .bind (.check test) fun s a mid accepted => (tail a (Reader.check_ok.mp accepted).1).made
  refuses s k foreign := by
    simp only [Reader.bind_error, Reader.check_error, Reader.check_ok]
    constructor
    · intro failure
      obtain ⟨e, fails | ⟨a, mid, ⟨passes, rfl⟩, fails⟩, same⟩ := failure
      · exact .inl ⟨e, fails, same⟩
      · exact .inr ⟨a, passes, ((tail a passes).refuses mid k foreign).mp ⟨e, fails, same⟩⟩
    · intro refused
      obtain ⟨e, fails, same⟩ | ⟨a, passes, refused⟩ := refused
      · exact ⟨e, .inl fails, same⟩
      · obtain ⟨e, fails, same⟩ := ((tail a passes).refuses s k foreign).mpr refused
        exact ⟨e, .inr ⟨a, s, ⟨passes, rfl⟩, fails⟩, same⟩

theorem field {write : ω → List β} {value : ω → α} {bounds : ω → Prop} {next : α → Reader σ ε γ}
    {parts : List (Part κ β)} (head : Judges write value read bounds refusal)
    (tail : ∀ w, bounds w → Stops (next (value w)) (refusedIn parts)) :
    Stops (read >>= next) (refusedIn (.of write bounds refusal :: parts)) := by
  refine (after head tail).congr fun k input => or_congr_right ?_
  constructor
  · intro refused
    obtain ⟨w, rest, within, there, refused⟩ := refused
    exact ⟨write w, rest, ⟨w, within, rfl⟩, there, refused⟩
  · intro refused
    obtain ⟨_, rest, ⟨w, within, rfl⟩, there, refused⟩ := refused
    exact ⟨w, rest, within, there, refused⟩

theorem done (a : α) : Stops (Pure.pure a : Reader σ ε α) (refusedIn []) := pure a

theorem loop {write : ω → List β} {value : ω → α} {bounds : ω → Prop} (item : Judges write value read bounds refusal)
    {add : γ → α → Except ε γ} (n : Nat) (made : γ) :
    Stops (Reader.loop read add n made) (fun k input =>
      ∃ (items : List ω) (rest : List β) (result : γ), items.length < n ∧ (∀ w ∈ items, bounds w) ∧
        Reader.fold add (items.map value) made = .ok result ∧ input = (items.map write).flatten ++ rest ∧
        (refusal k rest ∨
          ∃ w tail e, bounds w ∧ rest = write w ++ tail ∧ add result (value w) = .error e ∧ code σ e = k)) := by
  induction n generalizing made with
  | zero => exact (pure made).congr fun k input => by simp
  | succ n ih =>
    refine (after item fun w _ => checked fun next _ => ih next).congr fun k input => ?_
    constructor
    · intro refused
      obtain refused | ⟨w, rest, within, rfl, ⟨e, fails, same⟩ | ⟨next, added, refused⟩⟩ := refused
      · exact ⟨[], input, made, Nat.succ_pos n, fun _ absent => absurd absent List.not_mem_nil, rfl, rfl, .inl refused⟩
      · exact ⟨[], _, made, Nat.succ_pos n, fun _ absent => absurd absent List.not_mem_nil, rfl, rfl,
          .inr ⟨w, rest, e, within, rfl, fails, same⟩⟩
      · obtain ⟨items, later, result, fewer, all, folded, rfl, refused⟩ := refused
        refine ⟨w :: items, later, result, Nat.succ_lt_succ fewer, List.forall_mem_cons.mpr ⟨within, all⟩, ?_, ?_,
          refused⟩
        · simp only [List.map_cons, Reader.fold, added]
          exact folded
        · rw [List.map_cons, List.flatten_cons, List.append_assoc]
    · intro refused
      obtain ⟨items, later, result, fewer, all, folded, rfl, refused⟩ := refused
      cases items with
      | nil =>
        cases folded
        obtain refused | ⟨w, tail, e, within, rfl, fails, same⟩ := refused
        · exact .inl refused
        · exact .inr ⟨w, tail, within, rfl, .inl ⟨e, fails, same⟩⟩
      | cons w items =>
        obtain ⟨within, all⟩ := List.forall_mem_cons.mp all
        simp only [List.map_cons, Reader.fold] at folded
        cases added : add made (value w) with
        | error e =>
          rw [added] at folded
          cases folded
        | ok next =>
          rw [added] at folded
          refine .inr ⟨w, _, within, ?_, .inr ⟨next, added, items, later, result, Nat.lt_of_succ_lt_succ fewer, all,
            folded, rfl, refused⟩⟩
          rw [List.map_cons, List.flatten_cons, List.append_assoc]

end Stops

section Owned

/-- From a source with this code the reader fails with it alone. -/
structure Owned (k : κ) (read : Reader σ ε α) : Prop where
  made : Made read
  fails : ∀ s e, own ε s = k → read s = .error e → code σ e = k

namespace Owned

variable {k : κ} {read : Reader σ ε α}

theorem of_stops {refusal : κ → List β → Prop} (stops : Stops read refusal)
    (only : ∀ other input, refusal other input → other = k) : Owned k read where
  made := stops.made
  fails s e same failure := by
    by_contra differs
    have foreign : code σ e ≠ own ε s := same.symm ▸ differs
    exact differs (only _ _ ((stops.refuses s _ foreign).mp ⟨e, failure, rfl⟩))

theorem check {test : Except ε α} (fails : ∀ e, test = .error e → code σ e = k) :
    Owned k (Reader.check test : Reader σ ε α) where
  made := .check test
  fails _ e _ failure := fails e (Reader.check_error.mp failure)

theorem bind {next : α → Reader σ ε γ} (head : Owned k read) (tail : ∀ a, Owned k (next a)) :
    Owned k (read >>= next) where
  made := .bind head.made fun _ a _ _ => (tail a).made
  fails s e same failure := by
    obtain fails | ⟨a, mid, accepted, fails⟩ := Reader.bind_error.mp failure
    · exact head.fails s e same fails
    · obtain ⟨symbols, consumes⟩ := head.made.takes accepted
      exact (tail a).fails mid e ((consumes.own ε).trans same) fails

theorem pure (a : α) : Owned k (Pure.pure a : Reader σ ε α) := by
  have passes (e : ε) (fails : (Except.ok a : Except ε α) = .error e) : code σ e = k := by cases fails
  exact check passes

end Owned

end Owned

end Foundation
