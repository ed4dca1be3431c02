import LabScheduler.Identity
import LabScheduler.Limits

namespace LabScheduler

def isCanonicalCapabilityName (name : Text) : Bool :=
  !name.isEmpty && decide (name.length ≤ 64) &&
    name.all fun c =>
      (decide (97 ≤ c) && decide (c ≤ 122)) || (decide (48 ≤ c) && decide (c ≤ 57)) ||
        c == 46 || c == 95 || c == 45

def validateCapabilityName (name : Text) : Check := do
  check (name ≠ []) .invalidArgument (ascii "capability name is empty")
  check (name.length ≤ 64) .invalidArgument (ascii "capability name exceeds 64 characters")
  check (isCanonicalCapabilityName name) .invalidArgument
    (ascii "capability name is not canonical lowercase ascii: " ++ name)

structure Capability where
  id : CapabilityId := {}
  name : Text := []
  deriving DecidableEq

structure CapabilitySet where
  entries : List Capability := []
  deriving DecidableEq

namespace CapabilitySet

/-- Where `std::lower_bound` splits the entries: those below `id`, and the rest. On entries in
    ascending order the binary search and this scan stop at the same place. -/
def lowerBound (entries : List Capability) (id : CapabilityId) : List Capability × List Capability :=
  entries.span (fun entry => entry.id < id)

def holdsAt (rest : List Capability) (id : CapabilityId) : Bool :=
  match rest with
  | [] => false
  | found :: _ => found.id == id

def add (set : CapabilitySet) (capability : Capability) (limits : Limits) : Except Status CapabilitySet := do
  check (capability.id.value ≠ 0) .invalidIdentity (ascii "capability identity is null")
  validateCapabilityName capability.name
  check (capabilityIdFromName capability.name = capability.id) .invalidIdentity
    (ascii "capability identity does not match its canonical name: " ++ capability.name)
  check (set.entries.length < limits.maxCapabilitiesPerResource.toNat) .limitExceeded
    (ascii "capability set exceeds configured maximum")
  let (below, rest) := lowerBound set.entries capability.id
  check (holdsAt rest capability.id = false) .duplicateIdentity
    (ascii "duplicate capability: " ++ capability.name)
  return ⟨below ++ capability :: rest⟩

def contains (set : CapabilitySet) (id : CapabilityId) : Bool :=
  holdsAt (lowerBound set.entries id).2 id

def containsAll (set required : CapabilitySet) : Bool :=
  required.entries.all fun capability => set.contains capability.id

def validateEntry (capability : Capability) : Check := do
  validateCapabilityName capability.name
  check (capability.id.value ≠ 0 ∧ capabilityIdFromName capability.name = capability.id) .invalidIdentity
    (ascii "capability identity does not match its canonical name: " ++ capability.name)

def validateFrom : Option Capability → List Capability → Check
  | _, [] => .ok ()
  | previous, capability :: rest => do
    validateEntry capability
    check (∀ earlier ∈ previous, earlier.id < capability.id) .invalidArgument
      (ascii "capability set is not canonically ordered")
    validateFrom (some capability) rest

def validate (set : CapabilitySet) (limits : Limits) : Check := do
  check (set.entries.length ≤ limits.maxCapabilitiesPerResource.toNat) .limitExceeded
    (ascii "capability set exceeds configured maximum")
  validateFrom none set.entries

end CapabilitySet

end LabScheduler
