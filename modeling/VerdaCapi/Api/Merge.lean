import VerdaCapi.Api.Types

/-!
# Merge patches

The reconcilers store what they did with `patch.Helper` of the Cluster API, which sends the difference
between the object as it was read and as it is now. What is stored by then may be another version, and
the API server merges the difference into it: a field that the pass did not change stays as it is
stored. Lists are replaced as a whole, maps key by key.

`merge` takes the object that was read, the one that is stored and the one that is sent.
-/

namespace VerdaCapi.Api

open Go (StrMap)

section

variable {α : Type} [DecidableEq α]

/-- A field of a merge patch. -/
def merged (seen stored sent : α) : α := if sent = seen then stored else sent

/-- As long as nobody else wrote, what is sent is what is stored. -/
@[simp]
theorem merged_self (seen sent : α) : merged seen seen sent = sent := by
  unfold merged
  split
  · rename_i heq
    exact heq.symm
  · rfl

/-- What may be stored there, and what is sent, may be stored afterwards. -/
theorem merged_cases {P : α → Prop} {seen stored sent : α} (hstored : P stored) (hsent : P sent) :
    P (merged seen stored sent) := by
  unfold merged
  split
  · exact hstored
  · exact hsent

/-- How two versions differ in a field is how they differ after the patch, or they do not. -/
theorem merged_rel {R : α → α → Prop} (hrefl : ∀ x, R x x) {seen stored stored' sent : α}
    (h : R stored stored') : R (merged seen stored sent) (merged seen stored' sent) := by
  unfold merged
  split
  · exact h
  · exact hrefl sent

end

/-- A map in a merge patch. -/
def mergedMap (seen stored sent : StrMap) : StrMap :=
  if sent = seen then stored
  else if stored = seen then sent
  else
    stored.filter (fun e => decide (seen.lookup e.1 = sent.lookup e.1)) ++
      sent.filter fun e => decide (seen.lookup e.1 ≠ sent.lookup e.1)

/-- `merged_self` for maps. -/
@[simp]
theorem mergedMap_self (seen sent : StrMap) : mergedMap seen seen sent = sent := by
  unfold mergedMap
  split
  · rename_i heq
    exact heq.symm
  · exact if_pos rfl

/-- A deletion that was asked for meanwhile stays: `deletionTimestamp` is a field like the others, and
no pass changes it. -/
def ObjectMeta.merge (seen stored sent : ObjectMeta) : ObjectMeta where
  ns := merged seen.ns stored.ns sent.ns
  name := merged seen.name stored.name sent.name
  labels := mergedMap seen.labels stored.labels sent.labels
  annotations := mergedMap seen.annotations stored.annotations sent.annotations
  finalizers := merged seen.finalizers stored.finalizers sent.finalizers
  deletionTimestamp := merged seen.deletionTimestamp stored.deletionTimestamp sent.deletionTimestamp

@[simp]
theorem ObjectMeta.merge_self (seen sent : ObjectMeta) : seen.merge seen sent = sent := by
  simp [ObjectMeta.merge]

/-- Field by field; the lists of keys and volumes are replaced as a whole. -/
def VerdaMachineSpec.merge (seen stored sent : VerdaMachineSpec) : VerdaMachineSpec where
  providerID := merged seen.providerID stored.providerID sent.providerID
  instanceType := merged seen.instanceType stored.instanceType sent.instanceType
  image := merged seen.image stored.image sent.image
  osVolumeID := merged seen.osVolumeID stored.osVolumeID sent.osVolumeID
  sshKeyIDs := merged seen.sshKeyIDs stored.sshKeyIDs sent.sshKeyIDs
  osVolumeSizeGB := merged seen.osVolumeSizeGB stored.osVolumeSizeGB sent.osVolumeSizeGB
  contract := merged seen.contract stored.contract sent.contract
  spot := merged seen.spot stored.spot sent.spot
  spotDiscontinuePolicy :=
    merged seen.spotDiscontinuePolicy stored.spotDiscontinuePolicy sent.spotDiscontinuePolicy
  additionalVolumes := merged seen.additionalVolumes stored.additionalVolumes sent.additionalVolumes

@[simp]
theorem VerdaMachineSpec.merge_self (seen sent : VerdaMachineSpec) : seen.merge seen sent = sent := by
  simp [VerdaMachineSpec.merge]

/-- Host and port are fields of their own. -/
def APIEndpoint.merge (seen stored sent : APIEndpoint) : APIEndpoint where
  host := merged seen.host stored.host sent.host
  port := merged seen.port stored.port sent.port

@[simp]
theorem APIEndpoint.merge_self (seen sent : APIEndpoint) : seen.merge seen sent = sent := by
  simp [APIEndpoint.merge]

def ControlPlaneLoadBalancer.merge (seen stored sent : ControlPlaneLoadBalancer) :
    ControlPlaneLoadBalancer where
  enabled := merged seen.enabled stored.enabled sent.enabled
  instanceType := merged seen.instanceType stored.instanceType sent.instanceType
  image := merged seen.image stored.image sent.image
  sshKeyIDs := merged seen.sshKeyIDs stored.sshKeyIDs sent.sshKeyIDs

/-- The control plane endpoint, which the reconciler sets itself, is merged like what the user writes. -/
def VerdaClusterSpec.merge (seen stored sent : VerdaClusterSpec) : VerdaClusterSpec where
  location := merged seen.location stored.location sent.location
  controlPlaneEndpoint :=
    seen.controlPlaneEndpoint.merge stored.controlPlaneEndpoint sent.controlPlaneEndpoint
  identityRef := merged seen.identityRef stored.identityRef sent.identityRef
  controlPlaneLoadBalancer :=
    seen.controlPlaneLoadBalancer.merge stored.controlPlaneLoadBalancer sent.controlPlaneLoadBalancer
  serviceLoadBalancer :=
    seen.serviceLoadBalancer.merge stored.serviceLoadBalancer sent.serviceLoadBalancer

@[simp]
theorem VerdaClusterSpec.merge_self (seen sent : VerdaClusterSpec) : seen.merge seen sent = sent := by
  simp [VerdaClusterSpec.merge, ControlPlaneLoadBalancer.merge]

end VerdaCapi.Api
