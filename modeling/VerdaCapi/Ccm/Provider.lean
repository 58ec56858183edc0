import VerdaCapi.Cloud.Client
import VerdaCapi.Api.Types

/-!
# The instance methods of the cloud controller manager

`Provider` of `internal/ccm/provider.go`: how the cloud controller manager finds the instance of a
Node, and what it reports about it. Log lines are left out.
-/

namespace VerdaCapi.Ccm

open Remote Go Cloud

/-- `ProviderName`. -/
def providerName : String := "verda"

/-- `providerIDPrefix`. -/
def providerIDPrefix : String := providerName ++ "://"

/-- The parts of `corev1.Node` the provider reads. -/
structure Node where
  name : String
  providerID : String := ""
deriving DecidableEq

/-- `corev1.NodeAddressType`, as far as it is used. -/
inductive NodeAddressType where
  | hostName | externalIP | internalIP
deriving DecidableEq

/-- `corev1.NodeAddress`. -/
structure NodeAddress where
  type : NodeAddressType
  address : String
deriving DecidableEq

/-- `cloudprovider.InstanceMetadata`. -/
structure InstanceMetadata where
  providerID : String
  instanceType : String
  nodeAddresses : List NodeAddress
  zone : String
  region : String
deriving DecidableEq

/-- `lookup`. -/
def lookup (node : Node) : ClientM (Except Err Instance) := do
  if node.providerID ≠ "" then
    if !hasPrefix node.providerID providerIDPrefix then
      return .error
        ⟨.other, "node " ++ node.name ++ " has foreign provider ID " ++ quote node.providerID⟩
    else findInstanceByHostname (trimPrefix node.providerID providerIDPrefix)
  else findInstanceByHostname node.name

/-- `InstanceExists`. -/
def instanceExists (node : Node) : ClientM (Except Err Bool) := do
  match ← lookup node with
  | .error e => if e.kind = .notFound then return .ok false else return .error e
  | .ok inst =>
    if inst.status = statusDiscontinued ∨ inst.status = statusDeleted ∨
        inst.status = statusNotFound then
      return .ok false
    else return .ok true

/-- What `InstanceMetadata` reports about the instance it found. -/
def metadataOf (inst : Instance) : InstanceMetadata where
  providerID := providerIDPrefix ++ inst.hostname
  instanceType := inst.instanceType
  nodeAddresses :=
    { type := .hostName, address := inst.hostname } ::
      if inst.ip ≠ "" then
        [{ type := .externalIP, address := inst.ip }, { type := .internalIP, address := inst.ip }]
      else []
  zone := inst.location
  region := inst.location

/-- `InstanceMetadata`. -/
def instanceMetadata (node : Node) : ClientM (Except Err InstanceMetadata) := do
  match ← lookup node with
  | .error e => return .error e
  | .ok inst => return .ok (metadataOf inst)

/-- `InstanceMetadata` reports the instance that the lookup finds. -/
theorem runs_instanceMetadata {node : Node} {inst : Instance} {tr : List (Σ c : Call, c.Res)}
    (h : (lookup node).Runs tr (.ok inst)) : (instanceMetadata node).Runs tr (.ok (metadataOf inst)) := by
  rw [← List.append_nil tr]
  exact Prog.runs_bind_iff.2 ⟨tr, _, [], rfl, h, .ret _⟩

/-- The machine controller and the cloud controller manager agree on provider IDs. -/
theorem metadataOf_providerID (inst : Instance) :
    (metadataOf inst).providerID = Api.providerID inst.hostname := by
  have hstart : providerIDPrefix = Api.providerIDPrefix := by decide
  show providerIDPrefix ++ inst.hostname = Api.providerIDPrefix ++ inst.hostname
  rw [hstart]

end VerdaCapi.Ccm
