import Mathlib.Data.List.Basic

namespace Foundation

/-- A source, and what is left of its input. -/
class Source (σ : Type*) (β : outParam Type*) where
  rest : σ → List β
  skip : σ → Nat → σ
  skip_zero : ∀ s, skip s 0 = s
  skip_skip : ∀ s m n, skip (skip s m) n = skip s (m + n)
  rest_skip : ∀ s n, rest (skip s n) = (rest s).drop n

universe u

abbrev Reader (σ ε α : Type u) := StateT σ (Except ε) α

variable {σ ε α γ : Type u} {β ω υ : Type*}

namespace Reader

theorem bind_ok {first : Reader σ ε α} {next : α → Reader σ ε γ} {s after : σ} {result : γ} :
    (first >>= next) s = .ok (result, after) ↔ ∃ a mid, first s = .ok (a, mid) ∧ next a mid = .ok (result, after) := by
  change (first s >>= fun both => next both.1 both.2) = _ ↔ _
  cases first s with
  | error status => exact iff_of_false nofun (by simp)
  | ok both =>
    constructor
    · intro reads
      exact ⟨both.1, both.2, rfl, reads⟩
    · intro reads
      obtain ⟨a, mid, same, reads⟩ := reads
      cases same
      exact reads

theorem pure_ok {a result : α} {s after : σ} :
    (pure a : Reader σ ε α) s = .ok (result, after) ↔ a = result ∧ after = s := by
  change Except.ok (a, s) = _ ↔ _
  simp [eq_comm]

def check (test : Except ε α) : Reader σ ε α := fun s => test.map fun a => (a, s)

theorem check_ok {test : Except ε α} {s after : σ} {result : α} :
    (check test : Reader σ ε α) s = .ok (result, after) ↔ test = .ok result ∧ after = s := by
  cases test with
  | error status => simp [check, Except.map]
  | ok a => simp [check, Except.map, eq_comm]

/-- Reads `n` items, and folds each into what the items before it made. -/
def loop (read : Reader σ ε α) (add : γ → α → Except ε γ) : Nat → γ → Reader σ ε γ
  | 0, made => pure made
  | n + 1, made => do
    let item ← read
    let made ← check (add made item)
    loop read add n made

def fold (add : γ → α → Except ε γ) : List α → γ → Except ε γ
  | [], made => .ok made
  | item :: rest, made => do fold add rest (← add made item)

end Reader

variable [Source σ β]

/-- The source begins with the symbols, and is then read past them. -/
def Consumes (symbols : List β) (s after : σ) : Prop :=
  symbols <+: Source.rest s ∧ after = Source.skip s symbols.length

namespace Consumes

variable {s mid after : σ} {first second symbols : List β}

@[simp] theorem nil : Consumes [] s after ↔ after = s := by
  unfold Consumes
  rw [List.length_nil, Source.skip_zero]
  simp

theorem append : Consumes (first ++ second) s after ↔ ∃ mid, Consumes first s mid ∧ Consumes second mid after := by
  constructor
  · intro consumes
    obtain ⟨⟨tail, there⟩, same⟩ := consumes
    refine ⟨Source.skip s first.length, ⟨⟨second ++ tail, by simp [← there]⟩, rfl⟩, ⟨tail, ?_⟩, ?_⟩
    · rw [Source.rest_skip, ← there, List.append_assoc, List.drop_left]
    · rw [same, Source.skip_skip, List.length_append]
  · intro consumes
    obtain ⟨mid, ⟨⟨rest, there⟩, same⟩, ⟨tail, later⟩, last⟩ := consumes
    subst same last
    rw [Source.rest_skip, ← there, List.drop_left] at later
    exact ⟨⟨tail, by rw [← there, ← later, List.append_assoc]⟩, by rw [Source.skip_skip, List.length_append]⟩

theorem rest (consumes : Consumes symbols s after) : Source.rest s = symbols ++ Source.rest after := by
  obtain ⟨⟨tail, there⟩, same⟩ := consumes
  rw [same, Source.rest_skip, ← there, List.drop_left]

end Consumes

/-- The reader accepts what is written for a wire value in bounds, and gives the value it stands for. -/
def Decodes (write : ω → List β) (value : ω → α) (read : Reader σ ε α) (bounds : ω → Prop) : Prop :=
  ∀ s a after, read s = .ok (a, after) ↔ ∃ w, bounds w ∧ value w = a ∧ Consumes (write w) s after

namespace Decodes

variable {write : ω → List β} {value : ω → α} {read : Reader σ ε α} {bounds : ω → Prop}

theorem congr {other : ω → Prop} (decodes : Decodes write value read bounds) (same : ∀ w, bounds w ↔ other w) :
    Decodes write value read other := by
  intro s a after
  rw [decodes]
  simp only [same]

theorem reads (decodes : Decodes write value read bounds) {w : ω} (within : bounds w) {s after : σ}
    (consumes : Consumes (write w) s after) : read s = .ok (value w, after) :=
  (decodes s (value w) after).mpr ⟨w, within, rfl, consumes⟩

/-- What is read was written in bounds. -/
theorem written (decodes : Decodes write value read bounds) {s after : σ} {a : α} (accepted : read s = .ok (a, after)) :
    ∃ w, bounds w ∧ value w = a ∧ Consumes (write w) s after := (decodes s a after).mp accepted

/-- A source begins with the encoding of one value at most. -/
theorem determined (decodes : Decodes write value read bounds) {first second : ω} {s after last : σ}
    (here : bounds first) (there : bounds second) (consumes : Consumes (write first) s after)
    (other : Consumes (write second) s last) : value first = value second ∧ after = last := by
  have same := (decodes.reads here consumes).symm.trans (decodes.reads there other)
  exact Prod.ext_iff.mp (Except.ok.inj same)

theorem rewritten {write : α → List β} {value : α → α} {read : Reader σ ε α} {bounds : α → Prop}
    (decodes : Decodes write value read bounds) {Canonical : α → Prop}
    (length : ∀ w, (write (value w)).length = (write w).length)
    (canonical : ∀ w, bounds w → (write (value w) = write w ↔ Canonical w)) {s after : σ} {result : α}
    (accepted : read s = .ok (result, after)) :
    Consumes (write result) s after ↔ ∀ w, bounds w → write w <+: Source.rest s → Canonical w := by
  constructor
  · intro again w within begins
    obtain ⟨rfl, rfl⟩ := Prod.ext_iff.mp (Except.ok.inj ((decodes.reads within ⟨begins, rfl⟩).symm.trans accepted))
    have front : write (value w) <+: write w := List.prefix_of_prefix_length_le again.1 begins (Nat.le_of_eq (length w))
    exact (canonical w within).mp (front.eq_of_length (length w))
  · intro all
    obtain ⟨w, within, rfl, consumes⟩ := decodes.written accepted
    rw [(canonical w within).mpr (all w within consumes.1)]
    exact consumes

theorem convert {part : υ → ω} {view : υ → γ} {others : υ → Prop} {next : α → Reader σ ε γ}
    (decodes : Decodes write value read bounds)
    (inverse : ∀ w, bounds w → ∀ s c after,
      next (value w) s = .ok (c, after) ↔ (∃ u, others u ∧ part u = w ∧ view u = c) ∧ after = s) :
    Decodes (fun u => write (part u)) view (read >>= next) (fun u => bounds (part u) ∧ others u) := by
  intro s c after
  rw [Reader.bind_ok]
  constructor
  · intro accepted
    obtain ⟨a, mid, accepted, made⟩ := accepted
    obtain ⟨w, within, rfl, consumes⟩ := decodes.written accepted
    obtain ⟨⟨u, fits, rfl, view⟩, same⟩ := (inverse w within mid c after).mp made
    exact ⟨u, ⟨within, fits⟩, view, same ▸ consumes⟩
  · intro wire
    obtain ⟨u, ⟨within, fits⟩, view, consumes⟩ := wire
    have made := (inverse (part u) within after c after).mpr ⟨⟨u, fits, rfl, view⟩, rfl⟩
    exact ⟨value (part u), after, decodes.reads within consumes, made⟩

theorem along (decodes : Decodes write value read bounds) (part : υ → ω) (names : ∀ w, ∃ u, part u = w) :
    Decodes (fun u => write (part u)) (fun u => value (part u)) read (fun u => bounds (part u)) := by
  intro s c after
  rw [decodes]
  constructor
  · intro wire
    obtain ⟨w, within, view, consumes⟩ := wire
    obtain ⟨u, rfl⟩ := names w
    exact ⟨u, within, view, consumes⟩
  · intro wire
    obtain ⟨u, within, view, consumes⟩ := wire
    exact ⟨part u, within, view, consumes⟩

end Decodes

def Reads (known : ω → Prop) (chunks : ω → List (List β)) (value : ω → α) (read : Reader σ ε α) (bounds : ω → Prop) :
    Prop :=
  Decodes (fun w => (chunks w).flatten) value read (fun w => known w ∧ bounds w)

namespace Reads

variable {known bounds : ω → Prop} {chunks : ω → List (List β)} {value : ω → α}

theorem field (part : ω → υ) {write : υ → List β} {view : υ → γ} {read : Reader σ ε γ} {fits : υ → Prop}
    {next : γ → Reader σ ε α} (head : Decodes write view read fits)
    (tail : ∀ v, fits v → Reads (fun w => known w ∧ part w = v) chunks value (next (view v)) bounds) :
    Reads known (fun w => write (part w) :: chunks w) value (read >>= next) (fun w => fits (part w) ∧ bounds w) := by
  intro s a after
  rw [Reader.bind_ok]
  constructor
  · intro accepted
    obtain ⟨c, mid, first, others⟩ := accepted
    obtain ⟨v, within, rfl, consumes⟩ := head.written first
    obtain ⟨w, ⟨⟨here, rfl⟩, later⟩, result, consumed⟩ := (tail v within).written others
    exact ⟨w, ⟨here, within, later⟩, result, Consumes.append.mpr ⟨mid, consumes, consumed⟩⟩
  · intro wire
    obtain ⟨w, ⟨here, within, later⟩, result, consumes⟩ := wire
    obtain ⟨mid, consumes, consumed⟩ := Consumes.append.mp consumes
    have others := (tail (part w) within).reads ⟨⟨here, rfl⟩, later⟩ consumed
    exact ⟨view (part w), mid, head.reads within consumes, result ▸ others⟩

theorem done {w : ω} {a : α} (only : ∀ other, known other ↔ other = w) (result : value w = a) :
    Reads known (fun _ => []) value (pure a : Reader σ ε α) (fun _ => True) := by
  intro s c after
  rw [Reader.pure_ok]
  constructor
  · intro same
    obtain ⟨rfl, rfl⟩ := same
    exact ⟨w, ⟨(only w).mpr rfl, trivial⟩, result, Consumes.nil.mpr rfl⟩
  · intro wire
    obtain ⟨other, ⟨here, -⟩, same, consumes⟩ := wire
    cases (only other).mp here
    exact ⟨result.symm.trans same, Consumes.nil.mp consumes⟩

theorem decodes {read : Reader σ ε α} (reads : Reads (fun _ => True) chunks value read bounds) :
    Decodes (fun w => (chunks w).flatten) value read bounds := by
  refine Decodes.congr reads fun w => ?_
  exact and_iff_right trivial

end Reads

/-- A loop reads a list of items that can be folded. -/
theorem Reader.loop_ok {write : ω → List β} {value : ω → α} {read : Reader σ ε α} {bounds : ω → Prop}
    (item : Decodes write value read bounds) {add : γ → α → Except ε γ} {n : Nat} {made result : γ} {s after : σ} :
    Reader.loop read add n made s = .ok (result, after) ↔
      ∃ items : List ω, items.length = n ∧ (∀ w ∈ items, bounds w) ∧
        Reader.fold add (items.map value) made = .ok result ∧ Consumes (items.map write).flatten s after := by
  induction n generalizing made s with
  | zero =>
    simp only [Reader.loop, Reader.pure_ok, List.length_eq_zero_iff]
    constructor
    · intro same
      obtain ⟨rfl, rfl⟩ := same
      exact ⟨[], rfl, nofun, rfl, Consumes.nil.mpr rfl⟩
    · intro items
      obtain ⟨_, rfl, -, folded, consumes⟩ := items
      cases folded
      exact ⟨rfl, Consumes.nil.mp consumes⟩
  | succ n ih =>
    simp only [Reader.loop, Reader.bind_ok, Reader.check_ok]
    constructor
    · intro turns
      obtain ⟨a, mid, accepted, next, _, ⟨added, rfl⟩, others⟩ := turns
      obtain ⟨w, within, rfl, consumes⟩ := item.written accepted
      obtain ⟨items, rfl, fits, folded, consumed⟩ := ih.mp others
      refine ⟨w :: items, rfl, List.forall_mem_cons.mpr ⟨within, fits⟩, ?_, ?_⟩
      · simp only [List.map_cons, Reader.fold, added]
        exact folded
      · rw [List.map_cons, List.flatten_cons, Consumes.append]
        exact ⟨_, consumes, consumed⟩
    · intro items
      obtain ⟨items, length, fits, folded, consumes⟩ := items
      cases items with
      | nil => cases length
      | cons w items =>
        obtain ⟨within, fits⟩ := List.forall_mem_cons.mp fits
        rw [List.map_cons, List.flatten_cons, Consumes.append] at consumes
        obtain ⟨mid, consumes, consumed⟩ := consumes
        simp only [List.map_cons, Reader.fold] at folded
        cases added : add made (value w) with
        | error status =>
          rw [added] at folded
          cases folded
        | ok next =>
          rw [added] at folded
          exact ⟨value w, mid, item.reads within consumes, next, mid, ⟨added, rfl⟩,
            ih.mpr ⟨items, Nat.succ.inj length, fits, folded, consumed⟩⟩

end Foundation
