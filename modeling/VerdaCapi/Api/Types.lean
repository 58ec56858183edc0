import VerdaCapi.Go.Time

/-!
# The custom resources and the Cluster API objects around them

Reference: `api/v1beta1/verdamachine_types.go` and `api/v1beta1/verdacluster_types.go`.

Optional pointers are `Option`, and a string that may be unset is empty when it is. Conditions are
kept per type, without their timestamps. Of the Cluster API's own objects only what the reconcilers
read is here.
-/

namespace VerdaCapi.Api

open Go (StrMap)

/-- `MachineFinalizer`. -/
def machineFinalizer : String := "verdamachine.infrastructure.cluster.x-k8s.io"

/-- `ClusterFinalizer`. -/
def clusterFinalizer : String := "verdacluster.infrastructure.cluster.x-k8s.io"

/-- `ProviderIDPrefix`. -/
def providerIDPrefix : String := "verda://"

/-- `ProviderID`. -/
def providerID (hostname : String) : String := providerIDPrefix ++ hostname

theorem providerID_ne_empty (hostname : String) : providerID hostname ≠ "" := by
  simp [providerID, providerIDPrefix]

/-- The parts of `metav1.ObjectMeta` the reconcilers use. -/
structure ObjectMeta where
  ns : String := ""
  name : String
  labels : StrMap := []
  annotations : StrMap := []
  finalizers : List String := []
  deletionTimestamp : Option Go.Time := none
deriving DecidableEq

/-- `metav1.Condition`, less its type and its timestamps. -/
structure Condition where
  status : Bool
  reason : String
  message : String := ""
deriving DecidableEq

/-- `conditions.IsTrue`. -/
def Condition.isTrue : Option Condition → Bool
  | some c => c.status
  | none => false

/-- `conditions.GetMessage`. -/
def Condition.getMessage : Option Condition → String
  | some c => c.message
  | none => ""

/-! ## VerdaMachine -/

structure AdditionalVolume where
  name : String
  sizeGB : Int
  type : String := ""
deriving DecidableEq

structure VerdaMachineSpec where
  providerID : String := ""
  instanceType : String
  image : String := ""
  osVolumeID : String := ""
  sshKeyIDs : List String := []
  osVolumeSizeGB : Int := 0
  contract : String := ""
  spot : Option Bool := none
  spotDiscontinuePolicy : String := ""
  additionalVolumes : List AdditionalVolume := []
deriving DecidableEq

/-- `clusterv1.MachineAddressType`. -/
inductive AddressType where
  | hostName | externalIP | internalIP | externalDNS | internalDNS
deriving DecidableEq

structure MachineAddress where
  type : AddressType
  address : String
deriving DecidableEq

/-- The conditions of a VerdaMachine, by type. -/
structure MachineConditions where
  ready : Option Condition := none
  instanceReady : Option Condition := none
  osVolumeReady : Option Condition := none
deriving DecidableEq

structure VerdaMachineStatus where
  provisioned : Option Bool := none
  conditions : MachineConditions := {}
  addresses : List MachineAddress := []
  failureDomain : String := ""
  instanceID : String := ""
  instanceState : String := ""
  osVolumeID : String := ""
  startupScriptID : String := ""
deriving DecidableEq

structure VerdaMachine where
  metadata : ObjectMeta
  spec : VerdaMachineSpec
  status : VerdaMachineStatus := {}
deriving DecidableEq

/-! ## VerdaCluster -/

/-- `clusterv1.APIEndpoint`. -/
structure APIEndpoint where
  host : String := ""
  port : Int := 0
deriving DecidableEq

/-- `IdentityReference`. -/
structure IdentityReference where
  name : String
deriving DecidableEq

structure ControlPlaneLoadBalancer where
  enabled : Option Bool := none
  instanceType : String := ""
  image : String := ""
  sshKeyIDs : List String := []
deriving DecidableEq

structure VerdaClusterSpec where
  location : String
  controlPlaneEndpoint : APIEndpoint := {}
  identityRef : Option IdentityReference := none
  controlPlaneLoadBalancer : ControlPlaneLoadBalancer := {}
  serviceLoadBalancer : ControlPlaneLoadBalancer := {}
deriving DecidableEq

structure LoadBalancerStatus where
  instanceID : String := ""
  startupScriptID : String := ""
  address : String := ""
  backends : List String := []
  secretPublished : Option Bool := none
deriving DecidableEq

/-- `clusterv1.FailureDomain`. -/
structure FailureDomain where
  name : String
  controlPlane : Option Bool := none
deriving DecidableEq

/-- The conditions of a VerdaCluster, by type. -/
structure ClusterConditions where
  ready : Option Condition := none
  controlPlaneEndpointReady : Option Condition := none
  loadBalancerReady : Option Condition := none
  serviceLoadBalancerReady : Option Condition := none
deriving DecidableEq

structure VerdaClusterStatus where
  provisioned : Option Bool := none
  conditions : ClusterConditions := {}
  loadBalancer : LoadBalancerStatus := {}
  serviceLoadBalancer : LoadBalancerStatus := {}
  failureDomains : List FailureDomain := []
deriving DecidableEq

structure VerdaCluster where
  metadata : ObjectMeta
  spec : VerdaClusterSpec
  status : VerdaClusterStatus := {}
deriving DecidableEq

/-- `VerdaCluster.IdentitySecretName`. -/
def VerdaCluster.identitySecretName (c : VerdaCluster) : String :=
  match c.spec.identityRef with
  | none => ""
  | some ref => ref.name

/-- `ptr.Deref(b, false)`, also written `b != nil && *b`. -/
def isSet (b : Option Bool) : Bool := b.getD false

/-- `VerdaCluster.LoadBalancerEnabled`. -/
def VerdaCluster.loadBalancerEnabled (c : VerdaCluster) : Bool :=
  isSet c.spec.controlPlaneLoadBalancer.enabled

/-- `VerdaCluster.ServiceLoadBalancerEnabled`. -/
def VerdaCluster.serviceLoadBalancerEnabled (c : VerdaCluster) : Bool :=
  isSet c.spec.serviceLoadBalancer.enabled

/-- `DefaultLoadBalancerInstanceType`. -/
def defaultLoadBalancerInstanceType : String := "CPU.4V.16G"

/-- `DefaultLoadBalancerImage`. -/
def defaultLoadBalancerImage : String := "24.04.base"

/-! ## Cluster API objects -/

/-- `clusterv1.Cluster`. -/
structure Cluster where
  ns : String
  name : String
  infrastructureRefName : String := ""
  infrastructureProvisioned : Option Bool := none
  controlPlaneEndpoint : APIEndpoint := {}
deriving DecidableEq

/-- `clusterv1.Machine`. -/
structure Machine where
  ns : String
  name : String
  dataSecretName : Option String := none
  controlPlane : Bool := false
deriving DecidableEq

end VerdaCapi.Api
