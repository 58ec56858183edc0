import VerdaCapi.Api.Types

/-!
# The admission webhooks

Reference: `internal/webhook/v1beta1/validation.go`, `verdamachine_webhook.go` and
`verdacluster_webhook.go`. An object is admitted when the list of field errors is empty. The two load
balancers are checked in the order in which the source writes them; Go ranges over them in any order.
-/

namespace VerdaCapi.Webhook

open Api

/-! ## Field errors -/

/-- `field.ErrorType`, the ones used here. -/
inductive ErrorType where
  | required
  | invalid (badValue : String)
  | forbidden
deriving DecidableEq

/-- `field.Error`. -/
structure FieldError where
  type : ErrorType
  field : String
  detail : String
deriving DecidableEq

/-- `path.Child(names...)`. -/
def child (path : String) (names : List String) : String :=
  names.foldl (fun p name => p ++ "." ++ name) path

/-- Report an error when a condition holds. -/
def report (bad : Prop) [Decidable bad] (e : FieldError) : List FieldError := if bad then [e] else []

@[simp]
theorem report_eq_nil {bad : Prop} [Decidable bad] {e : FieldError} :
    report bad e = [] ↔ ¬ bad := by
  simp [report]

/-- A field of an update that must be left alone. -/
def immutable {α : Type} [DecidableEq α] (path : String) (names : List String) (detail : String)
    (old new : α) : List FieldError :=
  report (old ≠ new) ⟨.forbidden, child path names, detail⟩

@[simp]
theorem immutable_eq_nil {α : Type} [DecidableEq α] {path : String} {names : List String}
    {detail : String} {old new : α} : immutable path names detail old new = [] ↔ old = new := by
  simp [immutable]

/-! ## VerdaMachine -/

/-- `defaultMachineSpec`. -/
def defaultMachineSpec (spec : VerdaMachineSpec) : VerdaMachineSpec :=
  if isSet spec.spot ∧ spec.contract = "" then { spec with contract := "SPOT" } else spec

/-- `validateMachineSpec`. -/
def validateMachineSpec (spec : VerdaMachineSpec) (path : String) : List FieldError :=
  report (spec.instanceType = "")
    ⟨.required, child path ["instanceType"], "instanceType is required"⟩ ++
  report (spec.image = "" ∧ spec.osVolumeID = "")
    ⟨.required, child path ["image"], "one of image or osVolumeID is required"⟩ ++
  report (spec.image ≠ "" ∧ spec.osVolumeID ≠ "")
    ⟨.forbidden, child path ["osVolumeID"], "osVolumeID cannot be set together with image"⟩ ++
  report (spec.osVolumeID ≠ "" ∧ spec.osVolumeSizeGB ≠ 0)
    ⟨.forbidden, child path ["osVolumeSizeGB"],
      "osVolumeSizeGB cannot be set with osVolumeID; a clone keeps the size of its source"⟩ ++
  report (spec.spotDiscontinuePolicy ≠ "" ∧ !isSet spec.spot)
    ⟨.forbidden, child path ["spotDiscontinuePolicy"],
      "spotDiscontinuePolicy requires spot to be true"⟩ ++
  report (isSet spec.spot ∧ spec.contract ≠ "" ∧ spec.contract ≠ "SPOT")
    ⟨.invalid spec.contract, child path ["contract"],
      "contract must be SPOT or empty when spot is true"⟩

/-- `validateMachineSpecUpdate`. -/
def validateMachineSpecUpdate (oldSpec newSpec : VerdaMachineSpec) (path : String) :
    List FieldError :=
  immutable path ["instanceType"] "instanceType is immutable"
    oldSpec.instanceType newSpec.instanceType ++
  immutable path ["image"] "image is immutable" oldSpec.image newSpec.image ++
  immutable path ["osVolumeID"] "osVolumeID is immutable" oldSpec.osVolumeID newSpec.osVolumeID ++
  immutable path ["osVolumeSizeGB"] "osVolumeSizeGB is immutable"
    oldSpec.osVolumeSizeGB newSpec.osVolumeSizeGB ++
  immutable path ["contract"] "contract is immutable" oldSpec.contract newSpec.contract ++
  immutable path ["spot"] "spot is immutable" (isSet oldSpec.spot) (isSet newSpec.spot) ++
  immutable path ["additionalVolumes"] "additionalVolumes is immutable"
    oldSpec.additionalVolumes newSpec.additionalVolumes ++
  immutable path ["spotDiscontinuePolicy"] "spotDiscontinuePolicy is immutable"
    oldSpec.spotDiscontinuePolicy newSpec.spotDiscontinuePolicy ++
  report (oldSpec.providerID ≠ "" ∧ oldSpec.providerID ≠ newSpec.providerID)
    ⟨.forbidden, child path ["providerID"], "providerID cannot be changed once set"⟩

/-- `VerdaMachineCustomValidator.ValidateCreate`. -/
def validateMachineCreate (spec : VerdaMachineSpec) : List FieldError :=
  validateMachineSpec spec "spec"

/-- `VerdaMachineCustomValidator.ValidateUpdate`. -/
def validateMachineUpdate (oldSpec newSpec : VerdaMachineSpec) : List FieldError :=
  validateMachineSpec newSpec "spec" ++ validateMachineSpecUpdate oldSpec newSpec "spec"

/-- The webhooks accept an update: it is defaulted, then validated against the old spec. -/
def machineUpdateAccepted (oldSpec newSpec : VerdaMachineSpec) : Prop :=
  validateMachineUpdate oldSpec (defaultMachineSpec newSpec) = []

instance (oldSpec newSpec : VerdaMachineSpec) : Decidable (machineUpdateAccepted oldSpec newSpec) :=
  inferInstanceAs (Decidable (_ = _))

/-- An accepted update leaves a provider ID that is set. -/
theorem providerID_of_accepted {oldSpec newSpec : VerdaMachineSpec}
    (h : machineUpdateAccepted oldSpec newSpec) (hset : oldSpec.providerID ≠ "") :
    (defaultMachineSpec newSpec).providerID = oldSpec.providerID := by
  simp only [machineUpdateAccepted, validateMachineUpdate, validateMachineSpecUpdate, List.append_eq_nil_iff,
    report_eq_nil, not_and, not_not] at h
  exact (h.2.2 hset).symm

/-- An update of a valid spec that only sets the provider ID is accepted when the spec was defaulted,
and the ID was not set or stays. -/
theorem machineUpdateAccepted_iff_of_valid {spec : VerdaMachineSpec}
    (h : validateMachineCreate spec = []) (id : String) :
    machineUpdateAccepted spec { spec with providerID := id } ↔
      defaultMachineSpec spec = spec ∧ (spec.providerID = "" ∨ spec.providerID = id) := by
  have hvalid : validateMachineSpec { spec with providerID := id } "spec" = [] := h
  unfold machineUpdateAccepted validateMachineUpdate defaultMachineSpec
  by_cases hspot : isSet spec.spot ∧ spec.contract = ""
  · -- the contract is defaulted now, and contracts are immutable
    rw [if_pos hspot, if_pos hspot]
    have hcontract : ({ spec with contract := "SPOT" } : VerdaMachineSpec) ≠ spec := by
      intro heq
      have hc : spec.contract = "SPOT" := (congrArg VerdaMachineSpec.contract heq).symm
      rw [hspot.2] at hc
      exact absurd hc (by decide)
    have himmutable : spec.contract ≠ "SPOT" := by
      rw [hspot.2]
      decide
    simp [validateMachineSpecUpdate, hcontract, himmutable]
  · rw [if_neg hspot, if_neg hspot, hvalid]
    simp [validateMachineSpecUpdate, or_iff_not_imp_left]

/-! ## VerdaCluster -/

/-- `defaultLoadBalancer`. -/
def defaultLoadBalancer (lb : ControlPlaneLoadBalancer) : ControlPlaneLoadBalancer :=
  if !isSet lb.enabled then lb
  else
    { lb with
      instanceType := if lb.instanceType = "" then defaultLoadBalancerInstanceType
        else lb.instanceType
      image := if lb.image = "" then defaultLoadBalancerImage else lb.image }

/-- `defaultClusterSpec`. -/
def defaultClusterSpec (spec : VerdaClusterSpec) : VerdaClusterSpec :=
  { spec with
    controlPlaneEndpoint :=
      if spec.controlPlaneEndpoint.host ≠ "" ∧ spec.controlPlaneEndpoint.port = 0 then
        { spec.controlPlaneEndpoint with port := 6443 }
      else spec.controlPlaneEndpoint
    controlPlaneLoadBalancer := defaultLoadBalancer spec.controlPlaneLoadBalancer
    serviceLoadBalancer := defaultLoadBalancer spec.serviceLoadBalancer }

/-- `locationCodeRe`: three upper-case letters, a dash, two digits. -/
def isLocationCode (s : String) : Bool :=
  let upper := fun (c : Char) => 'A' ≤ c && c ≤ 'Z'
  let digit := fun (c : Char) => '0' ≤ c && c ≤ '9'
  match s.toList with
  | [a, b, c, '-', d, e] => upper a && upper b && upper c && digit d && digit e
  | _ => false

/-- The load balancer settings that make no sense: some are set, but `enabled` is false. -/
def loadBalancerConflict (lb : ControlPlaneLoadBalancer) : Prop :=
  lb.enabled = some false ∧ (lb.instanceType ≠ "" ∨ lb.image ≠ "" ∨ lb.sshKeyIDs ≠ [])

instance (lb : ControlPlaneLoadBalancer) : Decidable (loadBalancerConflict lb) :=
  inferInstanceAs (Decidable (_ ∧ _))

/-- The check of one load balancer. -/
def validateLoadBalancer (path name : String) (lb : ControlPlaneLoadBalancer) : List FieldError :=
  report (loadBalancerConflict lb)
    ⟨.invalid "false", child path [name, "enabled"],
      "load balancer settings are set but enabled is false"⟩

/-- `validateClusterSpec`. -/
def validateClusterSpec (spec : VerdaClusterSpec) (path : String) : List FieldError :=
  report (spec.location = "") ⟨.required, child path ["location"], "location is required"⟩ ++
  report (spec.location ≠ "" ∧ !isLocationCode spec.location)
    ⟨.invalid spec.location, child path ["location"],
      "must be a Verda location code such as FIN-01"⟩ ++
  report (spec.controlPlaneEndpoint.host ≠ "" ∧ spec.controlPlaneEndpoint.port = 0)
    ⟨.required, child path ["controlPlaneEndpoint", "port"], "port is required when host is set"⟩ ++
  validateLoadBalancer path "controlPlaneLoadBalancer" spec.controlPlaneLoadBalancer ++
  validateLoadBalancer path "serviceLoadBalancer" spec.serviceLoadBalancer

/-- `validateClusterSpecUpdate`. -/
def validateClusterSpecUpdate (oldSpec newSpec : VerdaClusterSpec) (path : String) :
    List FieldError :=
  immutable path ["location"] "location is immutable" oldSpec.location newSpec.location ++
  immutable path ["controlPlaneLoadBalancer", "enabled"]
    ("the load balancer cannot be enabled or disabled after creation; the control plane endpoint " ++
      "is baked into the cluster's certificates")
    (isSet oldSpec.controlPlaneLoadBalancer.enabled)
    (isSet newSpec.controlPlaneLoadBalancer.enabled) ++
  report (oldSpec.controlPlaneEndpoint.host ≠ "" ∧
      oldSpec.controlPlaneEndpoint ≠ newSpec.controlPlaneEndpoint)
    ⟨.forbidden, child path ["controlPlaneEndpoint"],
      "controlPlaneEndpoint is immutable once set"⟩

/-- `VerdaClusterCustomValidator.ValidateCreate`. -/
def validateClusterCreate (spec : VerdaClusterSpec) : List FieldError :=
  validateClusterSpec spec "spec"

/-- `VerdaClusterCustomValidator.ValidateUpdate`. -/
def validateClusterUpdate (oldSpec newSpec : VerdaClusterSpec) : List FieldError :=
  validateClusterSpec newSpec "spec" ++ validateClusterSpecUpdate oldSpec newSpec "spec"

/-- A spec that has gone through the defaulter and the validator. -/
structure ClusterAdmitted (spec : VerdaClusterSpec) : Prop where
  defaulted : defaultClusterSpec spec = spec
  valid : validateClusterCreate spec = []

/-- The webhooks accept an update: it is defaulted, then validated against the old spec. -/
def clusterUpdateAccepted (oldSpec newSpec : VerdaClusterSpec) : Prop :=
  validateClusterUpdate oldSpec (defaultClusterSpec newSpec) = []

instance (oldSpec newSpec : VerdaClusterSpec) : Decidable (clusterUpdateAccepted oldSpec newSpec) :=
  inferInstanceAs (Decidable (_ = _))

/-- The endpoint the defaulter leaves. -/
def defaultEndpoint (e : APIEndpoint) : APIEndpoint :=
  if e.host ≠ "" ∧ e.port = 0 then { e with port := 6443 } else e

/-- The endpoint of an admitted spec was defaulted. -/
theorem ClusterAdmitted.endpoint {spec : VerdaClusterSpec} (h : ClusterAdmitted spec) :
    defaultEndpoint spec.controlPlaneEndpoint = spec.controlPlaneEndpoint :=
  congrArg VerdaClusterSpec.controlPlaneEndpoint h.defaulted

/-- An update that only sets the endpoint is accepted when no host was set, or when the endpoint
stays. -/
theorem clusterUpdateAccepted_endpoint_iff {spec : VerdaClusterSpec} (h : ClusterAdmitted spec)
    (e : APIEndpoint) : clusterUpdateAccepted spec { spec with controlPlaneEndpoint := e } ↔
      spec.controlPlaneEndpoint.host = "" ∨ spec.controlPlaneEndpoint = defaultEndpoint e := by
  have hcp : defaultLoadBalancer spec.controlPlaneLoadBalancer = spec.controlPlaneLoadBalancer :=
    congrArg VerdaClusterSpec.controlPlaneLoadBalancer h.defaulted
  have hsvc : defaultLoadBalancer spec.serviceLoadBalancer = spec.serviceLoadBalancer :=
    congrArg VerdaClusterSpec.serviceLoadBalancer h.defaulted
  have hdef : defaultClusterSpec { spec with controlPlaneEndpoint := e } =
      { spec with controlPlaneEndpoint := defaultEndpoint e } := by
    simp only [defaultClusterSpec, defaultEndpoint, hcp, hsvc]
  have hport : ¬ ((defaultEndpoint e).host ≠ "" ∧ (defaultEndpoint e).port = 0) := by
    unfold defaultEndpoint
    split <;> simp_all
  have hvalid : validateClusterSpec { spec with controlPlaneEndpoint := defaultEndpoint e } "spec"
      = [] := by
    have hv := h.valid
    simp only [validateClusterCreate, validateClusterSpec, List.append_eq_nil_iff,
      report_eq_nil] at hv ⊢
    exact ⟨⟨⟨hv.1.1.1, hport⟩, hv.1.2⟩, hv.2⟩
  unfold clusterUpdateAccepted validateClusterUpdate
  rw [hdef, hvalid]
  simp [validateClusterSpecUpdate, or_iff_not_imp_left]

/-! ## Switching the service load balancer off -/

/-- The update that only sets `serviceLoadBalancer.enabled` to false. -/
def disableService (spec : VerdaClusterSpec) : VerdaClusterSpec :=
  { spec with serviceLoadBalancer := { spec.serviceLoadBalancer with enabled := some false } }

/-- The defaulter gives every load balancer that is enabled an instance type. -/
theorem instanceType_of_defaulted {lb : ControlPlaneLoadBalancer} (henabled : lb.enabled = some true)
    (hdefaulted : defaultLoadBalancer lb = lb) : lb.instanceType ≠ "" := by
  intro hempty
  have hset : ¬ (!isSet lb.enabled) = true := by simp [henabled, isSet]
  have htype := congrArg ControlPlaneLoadBalancer.instanceType hdefaulted
  rw [defaultLoadBalancer, if_neg hset, if_pos hempty, hempty] at htype
  exact absurd htype (show defaultLoadBalancerInstanceType ≠ "" by decide)

/-- Defaults are only filled in where they make sense. -/
theorem loadBalancerConflict_default (lb : ControlPlaneLoadBalancer) :
    loadBalancerConflict (defaultLoadBalancer lb) ↔ loadBalancerConflict lb := by
  unfold defaultLoadBalancer
  split
  · rfl
  · rename_i hset
    -- an enabled load balancer has no conflict, whatever its settings are
    have henabled : lb.enabled ≠ some false := fun h => hset (by rw [h]; rfl)
    exact ⟨fun h => absurd h.1 henabled, fun h => absurd h.1 henabled⟩

/-- The validator takes a valid spec with the service load balancer switched off if and only if the
settings that were made while it was enabled are gone. -/
theorem disableService_accepted_iff {spec : VerdaClusterSpec} (h : validateClusterCreate spec = []) :
    clusterUpdateAccepted spec (disableService spec) ↔
      spec.serviceLoadBalancer.instanceType = "" ∧ spec.serviceLoadBalancer.image = "" ∧
        spec.serviceLoadBalancer.sshKeyIDs = [] := by
  simp only [validateClusterCreate, validateClusterSpec, validateLoadBalancer, List.append_eq_nil_iff,
    report_eq_nil] at h
  obtain ⟨⟨⟨⟨hlocation, hcode⟩, hport⟩, hlb⟩, -⟩ := h
  have hendpoint : defaultEndpoint spec.controlPlaneEndpoint = spec.controlPlaneEndpoint := if_neg hport
  have hdefault : defaultClusterSpec (disableService spec) = { disableService spec with
      controlPlaneLoadBalancer := defaultLoadBalancer spec.controlPlaneLoadBalancer } := by
    show { disableService spec with
      controlPlaneEndpoint := defaultEndpoint spec.controlPlaneEndpoint
      controlPlaneLoadBalancer := defaultLoadBalancer spec.controlPlaneLoadBalancer } = _
    rw [hendpoint]
    rfl
  have hset : isSet (defaultLoadBalancer spec.controlPlaneLoadBalancer).enabled =
      isSet spec.controlPlaneLoadBalancer.enabled := by
    unfold defaultLoadBalancer
    split <;> rfl
  unfold clusterUpdateAccepted validateClusterUpdate
  rw [hdefault]
  simp only [validateClusterSpec, validateClusterSpecUpdate, validateLoadBalancer,
    List.append_eq_nil_iff, report_eq_nil, immutable_eq_nil, loadBalancerConflict_default]
  have hservice : ¬ loadBalancerConflict (disableService spec).serviceLoadBalancer ↔
      spec.serviceLoadBalancer.instanceType = "" ∧ spec.serviceLoadBalancer.image = "" ∧
        spec.serviceLoadBalancer.sshKeyIDs = [] := by
    simp [disableService, loadBalancerConflict]
  rw [← hservice]
  constructor
  · intro hall
    exact hall.1.2
  · intro hnone
    exact ⟨⟨⟨⟨⟨hlocation, hcode⟩, hport⟩, hlb⟩, hnone⟩, ⟨rfl, hset.symm⟩, fun hchanged => hchanged.2 rfl⟩

/-- **Whether the service load balancer can be switched off.** An update that changes only
`serviceLoadBalancer.enabled` to false is accepted if and only if no other setting of the service load
balancer is left. The defaulter makes such settings whenever the load balancer is enabled, so no spec
that was admitted with it can ever be updated that way. -/
theorem serviceLB_switchedOff_iff {spec : VerdaClusterSpec} (h : validateClusterCreate spec = [])
    (henabled : spec.serviceLoadBalancer.enabled = some true) :
    (clusterUpdateAccepted spec (disableService spec) ↔
      spec.serviceLoadBalancer.instanceType = "" ∧ spec.serviceLoadBalancer.image = "" ∧
        spec.serviceLoadBalancer.sshKeyIDs = []) ∧
    (ClusterAdmitted spec → ¬ clusterUpdateAccepted spec (disableService spec)) := by
  refine ⟨disableService_accepted_iff h, fun hadmitted haccepted => ?_⟩
  have hdefaulted : defaultLoadBalancer spec.serviceLoadBalancer = spec.serviceLoadBalancer :=
    congrArg VerdaClusterSpec.serviceLoadBalancer hadmitted.defaulted
  exact instanceType_of_defaulted henabled hdefaulted ((disableService_accepted_iff h).1 haccepted).1

/-- A cluster that asks for a service load balancer and leaves its settings to the defaulter. -/
def serviceLBSpec : VerdaClusterSpec where
  location := "FIN-01"
  serviceLoadBalancer := { enabled := some true }

/-- Stored without the defaulter, it can be switched off. -/
theorem serviceLB_switchedOff_sample : validateClusterCreate serviceLBSpec = [] ∧
    clusterUpdateAccepted serviceLBSpec (disableService serviceLBSpec) := by
  have hvalid : validateClusterCreate serviceLBSpec = [] := by decide
  exact ⟨hvalid, (serviceLB_switchedOff_iff hvalid rfl).1.2 ⟨rfl, rfl, rfl⟩⟩

/-- Admitted through the webhooks, it cannot. -/
theorem serviceLB_staysOn : ClusterAdmitted (defaultClusterSpec serviceLBSpec) ∧
    (defaultClusterSpec serviceLBSpec).serviceLoadBalancer.enabled = some true ∧
    ¬ clusterUpdateAccepted (defaultClusterSpec serviceLBSpec)
      (disableService (defaultClusterSpec serviceLBSpec)) :=
  ⟨⟨by decide, by decide⟩, rfl, by decide⟩

end VerdaCapi.Webhook
