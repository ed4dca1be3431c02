import LabScheduler.Codec.Bounds
import LabScheduler.Foundation.Bisect
import LabScheduler.Foundation.Run

namespace LabScheduler

open Foundation RecordCodec

namespace CapabilitySet

/-- The overload of `add` that makes the entry of a name. -/
def addName (set : CapabilitySet) (name : Text) (limits : Limits) : Except Status CapabilitySet := do
  validateCapabilityName name
  set.add ⟨capabilityIdFromName name, name⟩ limits

/-- A call of one of the two overloads of `add`. -/
inductive AddCall
  | named (name : Text) (limits : Limits)
  | entry (capability : Capability) (limits : Limits)

def AddCall.capability : AddCall → Capability
  | .named name _ => ⟨capabilityIdFromName name, name⟩
  | .entry capability _ => capability

def AddCall.limits : AddCall → Limits
  | .named _ limits => limits
  | .entry _ limits => limits

def addStep (set : CapabilitySet) (call : AddCall) : CapabilitySet × Check :=
  let result :=
    match call with
    | .named name limits => set.addName name limits
    | .entry capability limits => set.add capability limits
  match result with
  | .ok after => (after, .ok ())
  | .error status => (set, .error status)

def added : CapabilitySet → List AddCall → List Capability
  | _, [] => []
  | set, call :: rest =>
    let (after, answer) := addStep set call
    (if answer = .ok () then [call.capability] else []) ++ added after rest

theorem add_named {set after : CapabilitySet} {capability : Capability} {limits : Limits} (canonical : CanonicalSet set)
    (accepted : set.add capability limits = .ok after) : capabilityIdFromName capability.name = capability.id := by
  have valid := ((add_ok canonical).mp accepted).1.1
  unfold validateEntry at valid
  simp only [check_bind_ok, check_ok] at valid
  exact valid.2.2

theorem addName_ok {set after : CapabilitySet} {name : Text} {limits : Limits} (canonical : CanonicalSet set) :
    set.addName name limits = .ok after ↔ set.add ⟨capabilityIdFromName name, name⟩ limits = .ok after := by
  unfold addName
  rw [except_bind_ok]
  constructor
  · intro both
    obtain ⟨_, -, accepted⟩ := both
    exact accepted
  · intro accepted
    have valid := ((add_ok canonical).mp accepted).1.1
    unfold validateEntry at valid
    obtain ⟨_, named, -⟩ := except_bind_ok.mp valid
    exact ⟨(), named, accepted⟩

theorem contains_iff {set : CapabilitySet} (canonical : CanonicalSet set) (id : CapabilityId) :
    set.contains id ↔ ∃ capability ∈ set.entries, capability.id = id := by
  have held := holdsAt_iff canonical id
  unfold contains lowerBound
  rw [List.span_eq_takeWhile_dropWhile, ← Bool.not_eq_false, held, not_not, List.mem_map]

/-- The binary search of the code stops where the scan of the model stops. -/
theorem lowerBound_bisect {set : CapabilitySet} (canonical : CanonicalSet set) (id : CapabilityId) :
    lowerBound set.entries id =
      set.entries.splitAt (bisect (fun entry => entry.id < id) set.entries 0 set.entries.length) := by
  have turns : Turns (fun entry : Capability => decide (entry.id < id)) set.entries := by
    refine canonical.imp fun below other => ?_
    exact decide_eq_true (below.trans (of_decide_eq_true other))
  exact turns.splitAt_bisect.symm

theorem addStep_cases {set : CapabilitySet} (canonical : CanonicalSet set) (call : AddCall) :
    (∃ after, addStep set call = (after, .ok ()) ∧ set.add call.capability call.limits = .ok after) ∨
      ∃ status, addStep set call = (set, .error status) := by
  cases call with
  | named name limits =>
    cases result : set.addName name limits with
    | ok after =>
      refine .inl ⟨after, ?_, (addName_ok canonical).mp result⟩
      simp only [addStep, result]
    | error status =>
      refine .inr ⟨status, ?_⟩
      simp only [addStep, result]
  | entry capability limits =>
    cases result : set.add capability limits with
    | ok after =>
      refine .inl ⟨after, ?_, result⟩
      simp only [addStep, result]
    | error status =>
      refine .inr ⟨status, ?_⟩
      simp only [addStep, result]

theorem addStep_canonical {set : CapabilitySet} (canonical : CanonicalSet set) (call : AddCall) :
    CanonicalSet (addStep set call).1 := by
  obtain ⟨after, stepped, accepted⟩ | ⟨status, stepped⟩ := addStep_cases canonical call
  · obtain ⟨⟨-, -, fresh⟩, rfl⟩ := (add_ok canonical).mp accepted
    rw [stepped]
    exact insert_ordered canonical fresh
  · rw [stepped]
    exact canonical

theorem run_entries {set : CapabilitySet} (canonical : CanonicalSet set) (calls : List AddCall) :
    CanonicalSet (run addStep set calls) ∧
      (∀ capability, capability ∈ (run addStep set calls).entries ↔
        capability ∈ set.entries ∨ capability ∈ added set calls) ∧
      ∀ capability ∈ added set calls, capabilityIdFromName capability.name = capability.id := by
  induction calls generalizing set with
  | nil => simpa [added] using canonical
  | cons call rest ih =>
    obtain ⟨ordered, entries, named⟩ := ih (addStep_canonical canonical call)
    refine ⟨ordered, fun capability => ?_, fun capability member => ?_⟩
    · rw [run_cons, entries]
      obtain ⟨after, stepped, accepted⟩ | ⟨status, stepped⟩ := addStep_cases canonical call
      · obtain ⟨-, rfl⟩ := (add_ok canonical).mp accepted
        simp only [added, stepped, if_true, List.mem_append, List.mem_singleton, List.mem_orderedInsert]
        tauto
      · simp [added, stepped]
    · obtain ⟨after, stepped, accepted⟩ | ⟨status, stepped⟩ := addStep_cases canonical call
      · simp only [added, stepped, if_true, List.mem_append, List.mem_singleton] at member
        rcases member with rfl | later
        · exact add_named canonical accepted
        · rw [stepped] at named
          exact named capability later
      · simp only [added, stepped, reduceCtorEq, if_false, List.nil_append] at member
        rw [stepped] at named
        exact named capability member

theorem eq_of_entries {first second : CapabilitySet} (ordered : CanonicalSet first) (canonical : CanonicalSet second)
    (same : ∀ capability, capability ∈ first.entries ↔ capability ∈ second.entries) : first = second := by
  have distinct : first.entries.Nodup := .of_map _ ordered.distinct
  have separate : second.entries.Nodup := .of_map _ canonical.distinct
  have perm : first.entries.Perm second.entries := (List.perm_ext_iff_of_nodup distinct separate).mpr same
  have sorted : first.entries.Pairwise ById := ordered.imp le_of_lt
  have entries : first.entries = second.entries := by
    rw [← sorted.insertionSort_eq]
    exact sorted_unique perm (canonical.imp le_of_lt) canonical.distinct
  exact congrArg CapabilitySet.mk entries

/-- From the empty set on, `add` keeps the entries in order, whatever it is called with. -/
theorem capability_set_behaves (calls : List AddCall) :
    let set := run addStep {} calls
    CanonicalSet set ∧
      (∀ id, set.contains id ↔ ∃ capability ∈ added {} calls, capability.id = id) ∧
      (∀ required : CapabilitySet, set.containsAll required ↔
        ∀ capability ∈ required.entries, set.contains capability.id) ∧
      (∀ call status, (addStep set call).2 = .error status → (addStep set call).1 = set) ∧
      (∀ others, (∀ name, name ∈ (added {} calls).map Capability.name ↔ name ∈ (added {} others).map Capability.name) →
        set = run addStep {} others) ∧
      ∀ id, lowerBound set.entries id =
        set.entries.splitAt (bisect (fun entry => entry.id < id) set.entries 0 set.entries.length) := by
  intro set
  have empty : CanonicalSet {} := List.Pairwise.nil
  obtain ⟨canonical, entries, named⟩ := run_entries empty calls
  have inserted (capability : Capability) : capability ∈ set.entries ↔ capability ∈ added {} calls := by
    exact (entries capability).trans (or_iff_right List.not_mem_nil)
  refine ⟨canonical, fun id => ?_, fun required => List.all_eq_true, fun call status refused => ?_,
    fun others same => ?_, lowerBound_bisect canonical⟩
  · refine (contains_iff canonical id).trans (exists_congr fun capability => ?_)
    rw [inserted]
  · obtain ⟨after, stepped, -⟩ | ⟨_, stepped⟩ := addStep_cases canonical call
    · rw [stepped] at refused
      cases refused
    · rw [stepped]
  · obtain ⟨ordered, listed, called⟩ := run_entries empty others
    -- an entry is its name, for the identity is that of the name
    have known {all : List Capability} (named : ∀ capability ∈ all, capabilityIdFromName capability.name = capability.id)
        (capability : Capability) : capability ∈ all ↔
          capability.name ∈ all.map Capability.name ∧ capabilityIdFromName capability.name = capability.id := by
      constructor
      · intro member
        exact ⟨List.mem_map_of_mem member, named capability member⟩
      · intro both
        obtain ⟨both, own⟩ := both
        obtain ⟨other, member, equal⟩ := List.mem_map.mp both
        have id : other.id = capability.id := by rw [← named other member, ← own, equal]
        have whole : other = capability := by
          cases other
          cases capability
          exact congrArg₂ Capability.mk id equal
        exact whole ▸ member
    refine eq_of_entries canonical ordered fun capability => ?_
    rw [inserted, listed, known named, known called, same]
    simp

end CapabilitySet

end LabScheduler
