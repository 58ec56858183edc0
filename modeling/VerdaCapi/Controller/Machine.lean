import VerdaCapi.Api.Types
import VerdaCapi.Cloud.Factory

/-!
# The VerdaMachine reconciler

Reference: `internal/controller/verdamachine_controller.go`.

The reconciler mutates the object it was given and reports an error besides; both survive to the
deferred patch, so every function that touches the object returns it together with its outcome.
Log lines are left out. What a pass reads from the Kubernetes API is an input of the pass
(`MachineInput`); requests to Verda are the program it runs.
-/

namespace VerdaCapi.Controller

open Remote Go Api Cloud

/-! ## Shared helpers -/

/-- `ctrl.Result`, in seconds; zero means no requeue. -/
structure Result where
  requeueAfter : Nat := 0
deriving DecidableEq

/-- What a reconcile function returns. -/
abbrev Reply := Except Err Result

def instancePollInterval : Nat := 15
def deletePollInterval : Nat := 10
def instanceResyncInterval : Nat := 300
def noCapacityRetryInterval : Nat := 120

/-- `deleteRetryInterval`, in nanoseconds. -/
def deleteRetryInterval : Int := 20 * second

/-- `deleteRequestedAnnotation`. -/
def deleteRequestedAnnotation : String := "verda.cluster.x-k8s.io/delete-requested-at"

/-- `deleteRequestDue`: whether a delete request should be sent now, and the object with the request
recorded if so. The clock is read twice: `time.Since` compares the record with `since`, and a new record
holds `now`. A pass of a reconciler has one reading for both. -/
def deleteRequestDue (now : Time) (m : ObjectMeta) (suffix state : String) (since : Time := now) :
    Bool × ObjectMeta :=
  let key :=
    if suffix ≠ "" then deleteRequestedAnnotation ++ "-" ++ suffix else deleteRequestedAnnotation
  let recent : Bool :=
    match cut (m.annotations.get key) '@' with
    | some (lastState, lastAt) =>
      lastState == state &&
        match parseRFC3339 lastAt with
        | some last => since - last < deleteRetryInterval
        | none => false
    | none => false
  if recent then (false, m)
  else
    (true, { m with annotations := m.annotations.set key (state ++ "@" ++ formatRFC3339 now) })

/-- `truncateTag`. -/
def truncateTag (v : String) : String :=
  toLower (if v.length > 127 then String.ofList (v.toList.take 127) else v)

/-- `instanceGone`. -/
def instanceGone (instance_ : Instance) : Bool :=
  instance_.status == statusNotFound || instance_.status == statusDiscontinued ||
    instance_.status == statusDeleted

/-- Change the status of a machine. -/
def withStatus (vm : VerdaMachine) (f : VerdaMachineStatus → VerdaMachineStatus) : VerdaMachine :=
  { vm with status := f vm.status }

/-- Set or replace the `InstanceReady` condition. -/
def setInstanceReady (vm : VerdaMachine) (c : Condition) : VerdaMachine :=
  withStatus vm fun s => { s with conditions := { s.conditions with instanceReady := some c } }

/-- `setInstanceReadyFalse`. -/
def setInstanceReadyFalse (vm : VerdaMachine) (reason message : String) : VerdaMachine :=
  setInstanceReady vm { status := false, reason, message }

/-- Set or replace the `OSVolumeReady` condition. -/
def setOSVolumeReady (vm : VerdaMachine) (c : Condition) : VerdaMachine :=
  withStatus vm fun s => { s with conditions := { s.conditions with osVolumeReady := some c } }

/-- `clusterv1.ReadyReason`, with a true condition. -/
def readyCondition : Condition := { status := true, reason := "Ready" }

/-- `machineTagValue`. -/
def machineTagValue (vm : VerdaMachine) : String :=
  truncateTag (vm.metadata.ns ++ "/" ++ vm.metadata.name)

/-- `osVolumeName`. -/
def osVolumeName (vm : VerdaMachine) : String :=
  vm.metadata.ns ++ "-" ++ vm.metadata.name ++ "-os"

/-- `osVolumeSize`. -/
def osVolumeSize (vm : VerdaMachine) : Int :=
  if vm.spec.osVolumeID ≠ "" then 0 else vm.spec.osVolumeSizeGB

/-- `dataVolumes`. -/
def dataVolumes (vm : VerdaMachine) : List DataVolumeSpec :=
  vm.spec.additionalVolumes.map fun v => { name := v.name, sizeGB := v.sizeGB, type := v.type }

/-- `instanceAddresses`. -/
def instanceAddresses (inst : Instance) : List MachineAddress :=
  { type := .hostName, address := inst.hostname } ::
    if inst.ip ≠ "" then
      [{ type := .externalIP, address := inst.ip }, { type := .internalIP, address := inst.ip }]
    else []

/-- `fmt.Sprintf("Verda instance %s is in state %q", id, status)`. -/
def stateMessage (inst : Instance) : String :=
  "Verda instance " ++ inst.id ++ " is in state " ++ quote inst.status

/-! ## Finding the instance -/

/-- `findInstance`. -/
def findInstance (vm : VerdaMachine) : ClientM (Except Err (Option Instance)) := do
  if vm.status.instanceID ≠ "" then
    match ← getInstance vm.status.instanceID with
    | .ok inst => return .ok (some inst)
    | .error e =>
      if e.kind ≠ .notFound then return .error e
      else return .ok (some { id := vm.status.instanceID, status := statusNotFound })
  else
    match ← findInstanceByTag tagMachine (machineTagValue vm) with
    | .error e => if e.kind = .notFound then return .ok none else return .error e
    | .ok inst => if instanceGone inst then return .ok none else return .ok (some inst)

/-! ## The OS volume -/

/-- `uuidRe`: 8-4-4-4-12 lower-case hexadecimal digits. -/
@[irreducible]
def isUUID (s : String) : Bool :=
  let hex := fun (c : Char) => ('0' ≤ c && c ≤ '9') || ('a' ≤ c && c ≤ 'f')
  s.length == 36 &&
    s.toList.zipIdx.all fun (c, i) =>
      if i = 8 ∨ i = 13 ∨ i = 18 ∨ i = 23 then c == '-' else hex c

/-- The second half of `resolveOSVolume`: by exact name. -/
def resolveOSVolumeByName (idOrName : String) : ClientM (Except Err String) := do
  match ← findVolumeByName idOrName with
  | .error e =>
    if e.kind = .notFound then
      return .error ⟨.other, "OS volume " ++ quote idOrName ++ " not found by ID or name"⟩
    else return .error e
  | .ok volume =>
    if !volume.isOSVolume then
      return .error
        ⟨.other, "volume " ++ quote idOrName ++ " (" ++ volume.id ++ ") is not an OS volume"⟩
    else return .ok volume.id

/-- `resolveOSVolume`. -/
def resolveOSVolume (idOrName : String) : ClientM (Except Err String) := do
  if isUUID (toLower idOrName) then
    match ← getVolume idOrName with
    | .ok _ => return .ok idOrName
    | .error e =>
      if e.kind ≠ .notFound then return .error e else resolveOSVolumeByName idOrName
  else resolveOSVolumeByName idOrName

/-- The recorded clone, or the volume that has its name: the lookup of `ensureOSVolume`. -/
def lookupOSVolume (vm : VerdaMachine) : ClientM (Except Err (Option Volume)) := do
  match ← (if vm.status.osVolumeID ≠ "" then getVolume vm.status.osVolumeID
    else findVolumeByName (osVolumeName vm)) with
  | .ok volume => return .ok (some volume)
  | .error e => if e.kind ≠ .notFound then return .error e else return .ok none

/-- Clone `spec.osVolumeID`: the part of `ensureOSVolume` for a volume that is not there. -/
def cloneOSVolume (vc : VerdaCluster) (vm : VerdaMachine) :
    ClientM (Except Err Volume × VerdaMachine) := do
  match ← resolveOSVolume vm.spec.osVolumeID with
  | .error e =>
    return (.error e,
      setOSVolumeReady vm { status := false, reason := "SourceVolumeNotFound", message := e.msg })
  | .ok sourceID =>
    match ← cloneVolume sourceID (osVolumeName vm) vc.spec.location with
    | .error e =>
      return (.error e,
        setOSVolumeReady vm { status := false, reason := "CloneFailed", message := e.msg })
    | .ok id =>
      return (.ok { id := id, name := osVolumeName vm, status := "cloning" },
        withStatus vm fun s => { s with osVolumeID := id })

/-- The condition `ensureOSVolume` leaves. -/
def osVolumeCondition (volume : Volume) : Condition :=
  if volume.status = volumeStatusDetached ∨ volume.status = volumeStatusAttached then
    if !volume.managed then
      { status := false, reason := "Tagging"
        message := "OS volume " ++ volume.id ++ " is available but not yet tagged" }
    else readyCondition
  else
    { status := false, reason := "Cloning"
      message := "OS volume " ++ volume.id ++ " is in state " ++ quote volume.status }

/-- Tag the volume if it is not tagged; whether it is now. -/
def tagOSVolume (volume : Volume) : ClientM Bool := do
  if volume.managed then return true
  else
    match ← ensureVolumeTag volume.id with
    | .error _ => return false
    | .ok _ => return true

/-- The end of `ensureOSVolume`: record the volume, tag it if it is not tagged, report. -/
def adoptOSVolume (vm : VerdaMachine) (volume : Volume) :
    ClientM (Except Err Volume × VerdaMachine) := do
  let vm := withStatus vm fun s => { s with osVolumeID := volume.id }
  let managed ← tagOSVolume volume
  let volume := { volume with managed := managed }
  return (.ok volume, setOSVolumeReady vm (osVolumeCondition volume))

/-- `ensureOSVolume`. -/
def ensureOSVolume (vc : VerdaCluster) (vm : VerdaMachine) :
    ClientM (Except Err Volume × VerdaMachine) := do
  match ← lookupOSVolume vm with
  | .error e => return (.error e, vm)
  | .ok (some volume) => adoptOSVolume vm volume
  | .ok none =>
    match ← cloneOSVolume vc vm with
    | (.error e, vm) => return (.error e, vm)
    | (.ok volume, vm) => adoptOSVolume vm volume

/-- `ensureOSVolumeTag`. -/
def ensureOSVolumeTag (vm : VerdaMachine) : ClientM VerdaMachine := do
  if vm.status.osVolumeID = "" ∨ Condition.isTrue vm.status.conditions.osVolumeReady then return vm
  else
    match ← getVolume vm.status.osVolumeID with
    | .error _ => return vm
    | .ok volume =>
      if volume.managed then return setOSVolumeReady vm readyCondition
      else
        match ← ensureVolumeTag volume.id with
        | .error _ => return vm
        | .ok _ => return setOSVolumeReady vm readyCondition

/-- `deleteOSVolume`. -/
def deleteOSVolume (vm : VerdaMachine) : ClientM (Except Err Unit × VerdaMachine) := do
  let id := vm.status.osVolumeID
  let cleared := withStatus vm fun s => { s with osVolumeID := "" }
  if id = "" then return (.ok (), vm)
  else
    match ← getVolume id with
    | .error e => if e.kind = .notFound then return (.ok (), cleared) else return (.error e, vm)
    | .ok volume =>
      if volume.name ≠ osVolumeName vm then return (.ok (), cleared)
      else if volume.status ≠ volumeStatusDeleting ∧ volume.status ≠ volumeStatusDeleted then
        match ← deleteVolume id with
        | .error e => return (.error e, vm)
        | .ok _ => return (.ok (), cleared)
      else return (.ok (), cleared)

/-! ## Creating the instance -/

/-- What a pass over an unprovisioned machine reads besides Verda: the bootstrap data Secret (its
`value` key, if it has one) and the conversion of bootstrap data to a startup script. -/
structure BootstrapInput where
  secret : Except Err (Option Bytes)
  toStartupScript : Bytes → String → Except Err Bytes

/-- `getBootstrapData`. -/
def getBootstrapData (machine : Machine) (secret : Except Err (Option Bytes)) :
    Except Err Bytes :=
  let key := machine.ns ++ "/" ++ machine.dataSecretName.getD ""
  match secret with
  | .error e => .error (.wrap ("getting bootstrap data secret " ++ key) e)
  | .ok none => .error ⟨.other, "bootstrap data secret " ++ key ++ " has no \"value\" key"⟩
  | .ok (some value) => .ok value

/-- The instance `createInstance` asks for. -/
def instanceSpec (cluster : Cluster) (vc : VerdaCluster) (machine : Machine) (vm : VerdaMachine)
    (bootFrom : String) (script : Bytes) : InstanceSpec :=
  let role := if machine.controlPlane then "control-plane" else "worker"
  { hostname := vm.metadata.name
    description :=
      "Cluster API " ++ role ++ " node for cluster " ++ cluster.ns ++ "/" ++ cluster.name
    instanceType := vm.spec.instanceType
    image := bootFrom
    location := vc.spec.location
    sshKeyIDs := vm.spec.sshKeyIDs
    osVolumeSizeGB := osVolumeSize vm
    contract := vm.spec.contract
    spot := isSet vm.spec.spot
    spotDiscontinuePolicy := vm.spec.spotDiscontinuePolicy
    dataVolumes := dataVolumes vm
    startupScript := script
    tags := [
      (tagManagedBy, managedByValue),
      (tagCluster, cluster.ns ++ "/" ++ cluster.name),
      (tagMachine, machineTagValue vm),
      (tagRole, role)] }

/-- `createInstance`. -/
def createMachineInstance (boot : BootstrapInput) (cluster : Cluster) (vc : VerdaCluster)
    (machine : Machine) (vm : VerdaMachine) (bootFrom : String) :
    ClientM (Except Err Instance) := do
  match getBootstrapData machine boot.secret with
  | .error e => return .error e
  | .ok data =>
    match boot.toStartupScript data vm.metadata.name with
    | .error e => return .error (.wrap "converting bootstrap data to startup script" e)
    | .ok script => createInstance (instanceSpec cluster vc machine vm bootFrom script)

/-! ## reconcileNormal -/

/-- What the instance boots from: the image, or the clone once it is detached. -/
def bootSource (vc : VerdaCluster) (vm : VerdaMachine) :
    ClientM (Except Reply String × VerdaMachine) := do
  if vm.spec.osVolumeID ≠ "" then
    match ← ensureOSVolume vc vm with
    | (.error e, vm) => return (.error (.error e), vm)
    | (.ok volume, vm) =>
      if volume.status ≠ volumeStatusDetached then
        return (.error (.ok { requeueAfter := instancePollInterval }),
          setInstanceReadyFalse vm "WaitingForOSVolume"
            ("OS volume clone " ++ volume.id ++ " is in state " ++ quote volume.status))
      else return (.ok volume.id, vm)
  else return (.ok vm.spec.image, vm)

/-- The first half of `reconcileNormal`: find the instance or create it. The error side is an early
return. -/
def acquireInstance (boot : BootstrapInput) (cluster : Cluster) (vc : VerdaCluster)
    (machine : Machine) (vm : VerdaMachine) : ClientM (Except Reply Instance × VerdaMachine) := do
  match ← findInstance vm with
  | .error e => return (.error (.error e), vm)
  | .ok (some inst) => return (.ok inst, vm)
  | .ok none =>
    match ← bootSource vc vm with
    | (.error reply, vm) => return (.error reply, vm)
    | (.ok bootFrom, vm) =>
      match ← createMachineInstance boot cluster vc machine vm bootFrom with
      | .error e =>
        if e.kind = .hostnameInUse then
          return (.error (.ok { requeueAfter := instanceResyncInterval }),
            setInstanceReadyFalse vm "HostnameInUse" e.msg)
        else return (.error (.error e), setInstanceReadyFalse vm "InstanceCreateFailed" e.msg)
      | .ok inst => return (.ok inst, vm)

/-- Copy an instance into the object, before and after the OS volume is tagged. -/
def recordInstance (vm : VerdaMachine) (inst : Instance) : ClientM VerdaMachine := do
  let vm := withStatus vm fun s => { s with instanceID := inst.id, instanceState := inst.status }
  let vm ← ensureOSVolumeTag vm
  let vm := withStatus vm fun s => { s with
    startupScriptID := if inst.startupScriptID ≠ "" then inst.startupScriptID else s.startupScriptID
    failureDomain := inst.location
    addresses := instanceAddresses inst }
  return { vm with spec := { vm.spec with providerID := providerID inst.hostname } }

/-- The object after an instance without capacity was dropped. -/
def dropInstance (vc : VerdaCluster) (vm : VerdaMachine) : VerdaMachine :=
  let vm := withStatus vm fun s => { s with instanceID := "", addresses := [] }
  let vm := { vm with spec := { vm.spec with providerID := "" } }
  setInstanceReadyFalse vm "NoCapacity"
    ("Verda has no capacity for instance type " ++ vm.spec.instanceType ++ " in " ++
      vc.spec.location ++ "; retrying")

/-- The second half of `reconcileNormal`: record the instance and act on its status. -/
def settleInstance (vc : VerdaCluster) (vm : VerdaMachine) (inst : Instance) :
    ClientM (Reply × VerdaMachine) := do
  let vm ← recordInstance vm inst
  if inst.status = statusRunning then
    return (.ok {},
      withStatus (setInstanceReady vm readyCondition) fun s => { s with provisioned := some true })
  else if inst.status = statusNoCapacity then
    match ← deleteInstance inst.id with
    | .error e => return (.error e, vm)
    | .ok _ => return (.ok { requeueAfter := noCapacityRetryInterval }, dropInstance vc vm)
  else if inst.status = statusError ∨ inst.status = statusDiscontinued ∨
      inst.status = statusNotFound then
    let reason := if instanceGone inst then "InstanceTerminated" else "InstanceFailed"
    return (.ok {}, setInstanceReadyFalse vm reason (stateMessage inst))
  else
    return (.ok { requeueAfter := instancePollInterval },
      setInstanceReadyFalse vm "InstanceProvisioning" (stateMessage inst))

/-- `resyncInstance`. -/
def resyncInstance (vm : VerdaMachine) : ClientM (Reply × VerdaMachine) := do
  match ← findInstance vm with
  | .error e => return (.error e, vm)
  | .ok found =>
    let inst := found.getD { id := vm.status.instanceID, status := statusNotFound }
    let vm := withStatus vm fun s => { s with
      instanceState := inst.status
      addresses := if inst.ip ≠ "" then instanceAddresses inst else s.addresses }
    let vm :=
      if inst.status = statusRunning then setInstanceReady vm readyCondition
      else if instanceGone inst then
        setInstanceReadyFalse vm "InstanceTerminated"
          (stateMessage inst ++ "; delete the Machine to replace it")
      else if inst.status = statusError then
        setInstanceReadyFalse vm "InstanceFailed" (stateMessage inst)
      else setInstanceReadyFalse vm "InstanceNotRunning" (stateMessage inst)
    return (.ok { requeueAfter := instanceResyncInterval }, vm)

/-- `reconcileNormal`. -/
def reconcileNormal (boot : BootstrapInput) (cluster : Cluster) (vc : VerdaCluster)
    (machine : Machine) (vm : VerdaMachine) : ClientM (Reply × VerdaMachine) := do
  if isSet vm.status.provisioned then resyncInstance vm
  else if !isSet cluster.infrastructureProvisioned then
    return (.ok {}, setInstanceReadyFalse vm "WaitingForClusterInfrastructure"
      "Cluster infrastructure is not provisioned yet")
  else if machine.dataSecretName = none then
    return (.ok {}, setInstanceReadyFalse vm "WaitingForBootstrapData"
      "Machine bootstrap data secret is not available yet")
  else
    match ← acquireInstance boot cluster vc machine vm with
    | (.error reply, vm) => return (reply, vm)
    | (.ok inst, vm) => settleInstance vc vm inst

/-! ## reconcileDelete -/

/-- Wait for an instance that is still there, asking Verda to delete it when that is due. -/
def deleteLiveInstance (now : Time) (vm : VerdaMachine) (inst : Instance) :
    ClientM (Reply × VerdaMachine) := do
  let waiting : VerdaMachine → VerdaMachine := fun vm =>
    withStatus vm fun s => { s with instanceState := inst.status }
  if inst.status = statusDeleting then
    return (.ok { requeueAfter := deletePollInterval }, waiting vm)
  else
    let (due, metadata) := deleteRequestDue now vm.metadata "" inst.status
    let vm := { vm with metadata := metadata }
    if due then
      match ← deleteInstance inst.id with
      | .error e => return (.error e, vm)
      | .ok _ =>
        let vm := setInstanceReadyFalse vm "InstanceDeleteRequested"
          ("Delete requested for Verda instance " ++ inst.id ++ " (was " ++ inst.status ++ ")")
        return (.ok { requeueAfter := deletePollInterval }, waiting vm)
    else return (.ok { requeueAfter := deletePollInterval }, waiting vm)

/-- Delete the startup script: by recorded ID, else by name. -/
def deleteMachineScript (vm : VerdaMachine) : ClientM (Except Err Unit × VerdaMachine) := do
  if vm.status.startupScriptID ≠ "" then
    match ← deleteStartupScript vm.status.startupScriptID with
    | .error e => return (.error e, vm)
    | .ok _ => return (.ok (), withStatus vm fun s => { s with startupScriptID := "" })
  else
    match ← deleteStartupScriptByName vm.metadata.name with
    | .error e => return (.error e, vm)
    | .ok _ => return (.ok (), vm)

/-- `controllerutil.RemoveFinalizer`. -/
def removeFinalizer (m : ObjectMeta) (finalizer : String) : ObjectMeta :=
  { m with finalizers := m.finalizers.filter (· != finalizer) }

/-- The end of `reconcileDelete`, once the instance and its volumes are gone. -/
def releaseMachine (vm : VerdaMachine) : ClientM (Reply × VerdaMachine) := do
  match ← deleteMachineScript vm with
  | (.error e, vm) => return (.error e, vm)
  | (.ok _, vm) =>
    match ← deleteOSVolume vm with
    | (.error e, vm) => return (.error e, vm)
    | (.ok _, vm) =>
      return (.ok {}, { vm with metadata := removeFinalizer vm.metadata machineFinalizer })

/-- `reconcileDelete`. -/
def reconcileDelete (now : Time) (vm : VerdaMachine) : ClientM (Reply × VerdaMachine) := do
  let vm := setInstanceReadyFalse vm "Deleting" "Deleting Verda instance"
  match ← findInstance vm with
  | .error e => return (.error e, vm)
  | .ok none => releaseMachine vm
  | .ok (some inst) =>
    if !instanceGone inst then deleteLiveInstance now vm inst
    else if inst.status ≠ statusNotFound then
      match ← purgeInstanceVolumes inst.id with
      | .error e => return (.error e, vm)
      | .ok pending =>
        if pending > 0 then return (.ok { requeueAfter := deletePollInterval }, vm)
        else releaseMachine vm
    else releaseMachine vm

/-! ## Reconcile -/

/-- What a pass is given besides its object: the answers of the Kubernetes API, the credentials that
cannot be used, the bootstrap data and the time. -/
structure MachineInput where
  finalizerError : Option Err := none
  owner : Except Err (Option Machine)
  cluster : Except Err Cluster
  /-- `paused.EnsurePausedCondition`: paused or requeued. -/
  paused : Except Err Bool := .ok false
  /-- The VerdaCluster of the machine's cluster; `none` when there is none. -/
  verdaCluster : Except Err (Option VerdaCluster)
  unavailable : Identity → Option Err := fun _ => none
  boot : BootstrapInput
  now : Time := 0

/-- The end of a pass: what it returns, and the object it asks the API server to store, if it asks. -/
structure MachineOutcome where
  reply : Reply
  sent : Option VerdaMachine

/-- A pass over a machine. -/
abbrev MachinePass := Prog AccountCall AccountCall.Res MachineOutcome

/-- A pass that ends before the deferred patch is set up. -/
def stopped (reply : Reply) : MachinePass := .ret { reply, sent := none }

/-- `patchVerdaMachine`, up to the request it sends: the `Ready` condition summarises the others. -/
def patchVerdaMachine (vm : VerdaMachine) : VerdaMachine :=
  let ready : Condition :=
    if vm.metadata.deletionTimestamp.isSome then { status := false, reason := "Deleting" }
    else if !Condition.isTrue vm.status.conditions.instanceReady then
      { status := false, reason := "NotReady"
        message := Condition.getMessage vm.status.conditions.instanceReady }
    else readyCondition
  withStatus vm fun s => { s with conditions := { s.conditions with ready := some ready } }

/-- The deferred patch: it sends the object whatever the reply is. -/
def patched (r : Reply × VerdaMachine) : MachineOutcome :=
  { reply := r.1, sent := some (patchVerdaMachine r.2) }

/-- Run a part of the reconciler against an account, and patch. -/
def runPatched (a : AccountID) (p : ClientM (Reply × VerdaMachine)) : MachinePass := do
  let r ← onAccount a p
  return patched r

/-- `reconcileOrphanDelete`. -/
def reconcileOrphanDelete (inp : MachineInput) (vm : VerdaMachine) : MachinePass :=
  match clientFor inp.unavailable { ns := vm.metadata.ns } with
  | .error e => .ret (patched (.error e, vm))
  | .ok a => runPatched a (reconcileDelete inp.now vm)

/-- `Reconcile` once the cluster is known and not paused. -/
def reconcileInCluster (inp : MachineInput) (cluster : Cluster) (machine : Machine)
    (vm : VerdaMachine) : MachinePass :=
  match inp.verdaCluster with
  | .error e => stopped (.error e)
  | .ok vc? =>
    if vc? = none ∧ vm.metadata.deletionTimestamp = none then stopped (.ok {})
    else
      let identity : Identity :=
        { ns := vm.metadata.ns, secretName := vc?.elim "" VerdaCluster.identitySecretName }
      match clientFor inp.unavailable identity with
      | .error e =>
        .ret (patched (.error e, setInstanceReadyFalse vm "CredentialsUnavailable" e.msg))
      | .ok a =>
        match vm.metadata.deletionTimestamp, vc? with
        | some _, _ => runPatched a (reconcileDelete inp.now vm)
        | none, some vc => runPatched a (reconcileNormal inp.boot cluster vc machine vm)
        | none, none => stopped (.ok {})

/-- `Reconcile`, for an object that exists. -/
def reconcile (inp : MachineInput) (vm : VerdaMachine) : MachinePass :=
  if vm.metadata.deletionTimestamp = none ∧ machineFinalizer ∉ vm.metadata.finalizers then
    -- `finalizers.EnsureFinalizer` patches the object and ends the pass
    let reply := match inp.finalizerError with
      | some e => .error e
      | none => .ok {}
    let finalizers := vm.metadata.finalizers ++ [machineFinalizer]
    .ret { reply, sent := some { vm with metadata := { vm.metadata with finalizers := finalizers } } }
  else
    match inp.owner with
    | .error e => stopped (.error e)
    | .ok none =>
      if vm.metadata.deletionTimestamp.isSome then reconcileOrphanDelete inp vm
      else stopped (.ok {})
    | .ok (some machine) =>
      match inp.cluster with
      | .error e => stopped (.error e)
      | .ok cluster =>
        match inp.paused with
        | .error e => stopped (.error e)
        | .ok true => stopped (.ok {})
        | .ok false => reconcileInCluster inp cluster machine vm

end VerdaCapi.Controller
