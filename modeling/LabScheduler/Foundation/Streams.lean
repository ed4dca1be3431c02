import LabScheduler.Foundation.Decoding
import Mathlib.Data.Nat.Init
import Mathlib.Logic.Function.Iterate

namespace Foundation

universe u

/-- What a call finds on a connection: some symbols, or a failure. -/
inductive Arrival (β κ : Type u)
  | piece (first : β) (others : List β)
  | failure (code : κ)

abbrev Incoming (β κ : Type u) := List (Arrival β κ)

namespace Incoming

variable {β κ ε : Type u}

def symbols : Incoming β κ → List β
  | [] => []
  | .piece first others :: later => first :: others ++ symbols later
  | .failure _ :: _ => []

def ending : Incoming β κ → Option κ
  | [] => none
  | .piece _ _ :: later => ending later
  | .failure code :: _ => some code

def pop : Incoming β κ → Incoming β κ
  | .piece _ [] :: later => later
  | .piece _ (next :: others) :: later => .piece next others :: later
  | .failure code :: later => .failure code :: later
  | [] => []

theorem symbols_pop (incoming : Incoming β κ) : incoming.pop.symbols = incoming.symbols.drop 1 := by
  unfold pop
  split <;> simp [symbols]

theorem ending_pop (incoming : Incoming β κ) : incoming.pop.ending = incoming.ending := by
  unfold pop
  split <;> rfl

instance : Source (Incoming β κ) β where
  rest := symbols
  skip incoming count := pop^[count] incoming
  skip_zero _ := rfl
  skip_skip incoming first second := by rw [Nat.add_comm, Function.iterate_add_apply]
  rest_skip incoming count := by
    induction count generalizing incoming with
    | zero => rfl
    | succ count ih => rw [Function.iterate_succ_apply, ih, symbols_pop, List.drop_drop, Nat.add_comm]

theorem ending_skip (incoming : Incoming β κ) (count : Nat) : (Source.skip incoming count).ending = incoming.ending := by
  change (pop^[count] incoming).ending = _
  induction count with
  | zero => rfl
  | succ count ih => rw [Function.iterate_succ_apply', ending_pop, ih]

theorem skip_piece (first : β) (others : List β) (later : Incoming β κ) (count : Nat) :
    Source.skip (.piece first others :: later : Incoming β κ) (count + 1) =
      match others.drop count with
      | [] => Source.skip later (count - others.length)
      | next :: rest => .piece next rest :: later := by
  change pop^[count + 1] _ = _
  induction others generalizing first count with
  | nil => simp [Function.iterate_succ_apply, pop, Source.skip]
  | cons next others ih =>
    rw [Function.iterate_succ_apply]
    cases count with
    | zero => rfl
    | succ count =>
      rw [List.drop_succ_cons, List.length_cons, Nat.add_sub_add_right]
      exact ih next count

/-- Calls until as many symbols have come as are asked for. Each call gives what the next piece has of them. -/
def receive (closed : ε) (failed : κ → ε) : (incoming : Incoming β κ) → Nat → Except ε (List β × Incoming β κ)
  | incoming, 0 => .ok ([], incoming)
  | [], _ + 1 => .error closed
  | .failure code :: _, _ + 1 => .error (failed code)
  | .piece first others :: later, count + 1 =>
    match others.drop count with
    | [] => do
      let (rest, after) ← receive closed failed later (count - others.length)
      .ok (first :: others ++ rest, after)
    | next :: rest => .ok (first :: others.take count, .piece next rest :: later)

def broken (closed : ε) (failed : κ → ε) (incoming : Incoming β κ) : ε := (incoming.ending.map failed).getD closed

theorem receive_eq (closed : ε) (failed : κ → ε) (incoming : Incoming β κ) (count : Nat) :
    receive closed failed incoming count =
      if count ≤ incoming.symbols.length then .ok (incoming.symbols.take count, Source.skip incoming count)
      else .error (broken closed failed incoming) := by
  induction incoming, count using receive.induct with
  | case1 incoming => simp [receive, Source.skip_zero]
  | case2 count => simp [receive, symbols, broken, ending]
  | case3 code later count => simp [receive, symbols, broken, ending]
  | case4 first others later count past ih =>
    have long : others.length ≤ count := List.drop_eq_nil_iff.mp past
    simp only [receive, past, ih, symbols, skip_piece, List.length_append, List.length_cons]
    have taken : (first :: others ++ symbols later).take (count + 1) =
        first :: others ++ (symbols later).take (count - others.length) := by
      rw [List.cons_append, List.take_succ_cons, List.take_append, List.take_of_length_le long, List.cons_append]
    by_cases enough : count - others.length ≤ (symbols later).length
    · rw [if_pos enough, if_pos (by omega), taken]
      rfl
    · rw [if_neg enough, if_neg (by omega)]
      rfl
  | case5 first others later count next rest inside =>
    have short : count < others.length := by
      by_contra long
      rw [List.drop_eq_nil_of_le (Nat.not_lt.mp long)] at inside
      cases inside
    have taken : (first :: others ++ symbols later).take (count + 1) = first :: others.take count := by
      rw [List.cons_append, List.take_succ_cons, List.take_append_of_le_length (Nat.le_of_lt short)]
    simp only [receive, inside, symbols, skip_piece, taken]
    rw [if_pos (by simp only [List.length_append, List.length_cons]; omega)]

theorem receive_length {closed : ε} {failed : κ → ε} {incoming after : Incoming β κ} {count : Nat} {taken : List β}
    (given : receive closed failed incoming count = .ok (taken, after)) : taken.length = count := by
  rw [receive_eq] at given
  split at given
  · cases given
    rwa [List.length_take, Nat.min_eq_left]
  · cases given

def exactly (closed : ε) (failed : κ → ε) (count : Nat) : Reader (Incoming β κ) ε { taken : List β // taken.length = count } :=
  fun incoming =>
    match given : receive closed failed incoming count with
    | .ok (taken, after) => .ok (⟨taken, receive_length given⟩, after)
    | .error status => .error status

theorem exactly_receive {closed : ε} {failed : κ → ε} {count : Nat} {incoming : Incoming β κ} :
    (exactly closed failed count incoming).map (fun both => (both.1.1, both.2)) =
      receive closed failed incoming count := by
  unfold exactly
  split <;> rename_i given <;> exact given.symm

theorem exactly_ok {closed : ε} {failed : κ → ε} {count : Nat} {incoming after : Incoming β κ}
    {taken : { taken : List β // taken.length = count }} :
    exactly closed failed count incoming = .ok (taken, after) ↔ Consumes taken.1 incoming after := by
  have symbols : Source.rest incoming = incoming.symbols := rfl
  have plain : exactly closed failed count incoming = .ok (taken, after) ↔
      receive closed failed incoming count = .ok (taken.1, after) := by
    rw [← exactly_receive]
    cases exactly closed failed count incoming with
    | error status => simp [Except.map]
    | ok both => simp [Except.map, Prod.ext_iff, Subtype.ext_iff]
  obtain ⟨taken, size⟩ := taken
  rw [plain, receive_eq, Consumes, symbols]
  by_cases enough : count ≤ incoming.symbols.length
  · rw [if_pos enough]
    constructor
    · intro given
      obtain ⟨front, later⟩ := Prod.ext_iff.mp (Except.ok.inj given)
      subst front later
      rw [size]
      exact ⟨List.take_prefix _ _, rfl⟩
    · intro both
      obtain ⟨front, rfl⟩ := both
      have whole := List.prefix_iff_eq_take.mp front
      rw [size] at whole ⊢
      rw [whole]
  · rw [if_neg enough]
    refine iff_of_false (fun given => by cases given) fun both => ?_
    have bound := both.1.length_le
    dsimp only at bound
    omega

theorem exactly_short {closed : ε} {failed : κ → ε} {count : Nat} {incoming : Incoming β κ}
    (short : incoming.symbols.length < count) :
    exactly closed failed count incoming = .error (broken closed failed incoming) := by
  have refused : receive closed failed incoming count = .error (broken closed failed incoming) := by
    rw [receive_eq, if_neg (Nat.not_le.mpr short)]
  rw [← exactly_receive] at refused
  cases given : exactly closed failed count incoming with
  | ok both =>
    rw [given] at refused
    cases refused
  | error status =>
    rw [given] at refused
    exact congrArg _ (Except.error.inj refused)

end Incoming

inductive Drains {σ ε α : Type u} (read : Reader σ ε α) : σ → List α → ε → Prop
  | refused {s : σ} {status : ε} (refuses : read s = .error status) : Drains read s [] status
  | next {s mid : σ} {a : α} {others : List α} {status : ε} (reads : read s = .ok (a, mid))
      (drains : Drains read mid others status) : Drains read s (a :: others) status

namespace Drains

variable {σ ε α : Type u} {β ω : Type*} [Source σ β] {write : ω → List β} {value : ω → α} {read : Reader σ ε α}
  {bounds : ω → Prop} {s mid : σ}

theorem unique {first second : List α} {here there : ε} (one : Drains read s first here)
    (other : Drains read s second there) : first = second ∧ here = there := by
  induction one generalizing second with
  | refused refuses =>
    cases other with
    | refused refuses' =>
      rw [refuses] at refuses'
      exact ⟨rfl, Except.error.inj refuses'⟩
    | next reads =>
      rw [refuses] at reads
      cases reads
  | next reads _ ih =>
    cases other with
    | refused refuses =>
      rw [reads] at refuses
      cases refuses
    | next reads' drains =>
      rw [reads] at reads'
      cases reads'
      obtain ⟨rfl, rfl⟩ := ih drains
      exact ⟨rfl, rfl⟩

/-- A connection is read to an end, since every record takes a symbol at least. -/
theorem exists_of_decodes (decodes : Decodes write value read bounds) (some : ∀ w, write w ≠ []) (s : σ) :
    ∃ records status, Drains read s records status := by
  induction size : (Source.rest s).length using Nat.strong_induction_on generalizing s with
  | _ size ih =>
    cases found : read s with
    | error status => exact ⟨[], status, .refused found⟩
    | ok both =>
      obtain ⟨a, mid⟩ := both
      obtain ⟨w, -, -, consumes⟩ := decodes.written found
      have rest := congrArg List.length consumes.rest
      rw [List.length_append] at rest
      have positive := List.length_pos_iff.mpr (some w)
      obtain ⟨records, status, drains⟩ := ih (Source.rest mid).length (by omega) mid rfl
      exact ⟨a :: records, status, .next found drains⟩

/-- What is read was written in bounds, one record after the other from the start of the connection, and what follows
    them on the connection is no such record. -/
theorem written (decodes : Decodes write value read bounds) {records : List α} {status : ε}
    (drains : Drains read s records status) :
    ∃ ws : List ω, (∀ w ∈ ws, bounds w) ∧ ws.map value = records ∧
      ∃ mid, Consumes (ws.map write).flatten s mid ∧ read mid = .error status := by
  induction drains with
  | refused refuses => exact ⟨[], nofun, rfl, _, Consumes.nil.mpr rfl, refuses⟩
  | next reads _ ih =>
    obtain ⟨w, within, rfl, consumes⟩ := decodes.written reads
    obtain ⟨ws, all, rfl, mid, others, refuses⟩ := ih
    refine ⟨w :: ws, List.forall_mem_cons.mpr ⟨within, all⟩, rfl, mid, ?_, refuses⟩
    rw [List.map_cons, List.flatten_cons, Consumes.append]
    exact ⟨_, consumes, others⟩

theorem whole (decodes : Decodes write value read bounds) {ws : List ω} (all : ∀ w ∈ ws, bounds w)
    (consumes : Consumes (ws.map write).flatten s mid) {records : List α} {status : ε}
    (drains : Drains read mid records status) : Drains read s (ws.map value ++ records) status := by
  induction ws generalizing s with
  | nil =>
    rw [Consumes.nil.mp consumes] at drains
    exact drains
  | cons w ws ih =>
    obtain ⟨within, all⟩ := List.forall_mem_cons.mp all
    rw [List.map_cons, List.flatten_cons, Consumes.append] at consumes
    obtain ⟨first, here, later⟩ := consumes
    exact .next (decodes.reads within here) (ih all later)

theorem cut (decodes : Decodes write value read bounds) {other : σ} (same : Source.rest other = Source.rest s)
    {records : List α} {status : ε} (drains : Drains read s records status) : ∃ stop, Drains read other records stop := by
  obtain ⟨ws, all, rfl, mid, consumes, refuses⟩ := written decodes drains
  have begins : Consumes (ws.map write).flatten other (Source.skip other (ws.map write).flatten.length) :=
    ⟨same ▸ consumes.1, rfl⟩
  have left : Source.rest (Source.skip other (ws.map write).flatten.length) = Source.rest mid := by
    rw [consumes.2, Source.rest_skip, Source.rest_skip, same]
  cases found : read (Source.skip other (ws.map write).flatten.length) with
  | error stop =>
    have drains := whole decodes all begins (.refused found)
    rw [List.append_nil] at drains
    exact ⟨stop, drains⟩
  | ok both =>
    obtain ⟨w, within, -, next, -⟩ := decodes.written found
    rw [left] at next
    have reads := decodes.reads within (⟨next, rfl⟩ : Consumes (write w) mid _)
    rw [refuses] at reads
    cases reads

/-- The records at the front of those that were sent, as far as they are in bounds and arrive whole. -/
def arriving (write : ω → List β) (bounds : ω → Prop) [DecidablePred bounds] : List ω → Nat → List ω
  | [], _ => []
  | w :: ws, count =>
    if bounds w ∧ (write w).length ≤ count then w :: arriving write bounds ws (count - (write w).length) else []

theorem arriving_within [DecidablePred bounds] (ws : List ω) (count : Nat) :
    ∀ w ∈ arriving write bounds ws count, bounds w := by
  induction ws generalizing count with
  | nil => exact fun _ member => absurd member List.not_mem_nil
  | cons w ws ih =>
    unfold arriving
    split
    · rename_i whole
      exact List.forall_mem_cons.mpr ⟨whole.1, ih _⟩
    · exact fun _ member => absurd member List.not_mem_nil

theorem arriving_split [DecidablePred bounds] {ws : List ω} (arrives : Source.rest s <+: (ws.map write).flatten) :
    ∃ later mid, ws = arriving write bounds ws (Source.rest s).length ++ later ∧
      Consumes ((arriving write bounds ws (Source.rest s).length).map write).flatten s mid ∧
      Source.rest mid <+: (later.map write).flatten ∧
      ∀ w others, later = w :: others → ¬ (bounds w ∧ (write w).length ≤ (Source.rest mid).length) := by
  induction ws generalizing s with
  | nil => exact ⟨[], s, rfl, Consumes.nil.mpr rfl, arrives, fun _ _ same => by cases same⟩
  | cons w ws ih =>
    unfold arriving
    split
    · rename_i whole
      rw [List.map_cons, List.flatten_cons] at arrives
      have begins : write w <+: Source.rest s :=
        List.prefix_of_prefix_length_le (List.prefix_append _ _) arrives whole.2
      have consumes : Consumes (write w) s (Source.skip s (write w).length) := ⟨begins, rfl⟩
      have rest := consumes.rest
      have left : (Source.rest (Source.skip s (write w).length)).length =
          (Source.rest s).length - (write w).length := by
        rw [rest, List.length_append, Nat.add_sub_cancel_left]
      rw [rest] at arrives
      obtain ⟨later, mid, split, others, part, stops⟩ := ih ((List.prefix_append_right_inj _).mp arrives)
      rw [left] at split others
      refine ⟨later, mid, congrArg (w :: ·) split, ?_, part, stops⟩
      rw [List.map_cons, List.flatten_cons, Consumes.append]
      exact ⟨_, consumes, others⟩
    · rename_i part
      refine ⟨w :: ws, s, rfl, Consumes.nil.mpr rfl, arrives, fun first others same => ?_⟩
      obtain ⟨rfl, rfl⟩ := List.cons.inj same
      exact part

theorem stopped (decodes : Decodes write value read bounds) (some : ∀ w, write w ≠ [])
    {ws : List ω} (free : ∀ v, bounds v → ∀ w ∈ ws, write v <+: write w ∨ write w <+: write v → v = w)
    (part : Source.rest s <+: (ws.map write).flatten)
    (stops : ∀ w others, ws = w :: others → ¬ (bounds w ∧ (write w).length ≤ (Source.rest s).length)) :
    ∃ status, read s = .error status := by
  cases found : read s with
  | error status => exact ⟨status, rfl⟩
  | ok both =>
    obtain ⟨v, within, -, begins, -⟩ := decodes.written found
    cases ws with
    | nil => exact absurd (List.prefix_nil.mp (begins.trans part)) (some v)
    | cons w others =>
      have comparable := List.prefix_or_prefix_of_prefix (begins.trans part) (List.prefix_append (write w) _)
      obtain rfl := free v within w List.mem_cons_self comparable
      exact absurd ⟨within, begins.length_le⟩ (stops v others rfl)

end Drains

end Foundation
