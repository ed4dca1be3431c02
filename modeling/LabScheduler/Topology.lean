import LabScheduler.Identity
import LabScheduler.Limits

namespace LabScheduler

inductive TopologyScope
  | host
  | numaDomain
  | rootComplex
  | rack
  | cluster
  deriving DecidableEq

structure TopologyDomain where
  id : TopologyDomainId := {}
  name : Text := []
  deriving DecidableEq

structure TopologyDescriptor where
  host : TopologyDomain := {}
  numa : TopologyDomain := {}
  rootComplex : TopologyDomain := {}
  rack : TopologyDomain := {}
  cluster : TopologyDomain := {}
  supplied : Bool := false
  deriving DecidableEq

namespace TopologyDescriptor

def domain (topology : TopologyDescriptor) : TopologyScope → TopologyDomain
  | .host => topology.host
  | .numaDomain => topology.numa
  | .rootComplex => topology.rootComplex
  | .rack => topology.rack
  | .cluster => topology.cluster

def validate (topology : TopologyDescriptor) (limits : Limits) : Check :=
  forM [topology.host, topology.numa, topology.rootComplex, topology.rack, topology.cluster] fun domain => do
    check (domain.name.length ≤ limits.maxStringLength.toNat) .invalidArgument
      (ascii "topology domain name exceeds maximum length")
    check (¬ (domain.id.isNull ∧ domain.name ≠ [])) .invalidArgument
      (ascii "topology domain name supplied without a domain identity")

end TopologyDescriptor

def topologyDomainsEqual (a b : TopologyDomain) : Bool := !a.id.isNull && a.id == b.id

end LabScheduler
