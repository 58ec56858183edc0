import VerdaCapi.Controller.Machine

/-!
# The VerdaCluster reconciler

Reference: `internal/controller/verdacluster_controller.go` and `verdacluster_servicelb.go`.

A pass talks to more than Verda: it keeps the SSH keys of the load balancers in Secrets of the
management cluster, pushes backends to a load balancer, and publishes a Secret in the workload
cluster. Each of these is a request of its own (`ClusterCall`), so that a run may stop or fail at any
of them. The two startup scripts are an input (`LBScripts`). Log lines are left out.
-/

namespace VerdaCapi.Controller

open Remote Go Api Cloud

/-! ## Requests -/

/-- What `apierrors` can tell of an error of the Kubernetes API. -/
inductive KubeReason where
  | notFound | alreadyExists | other
deriving DecidableEq

structure KubeErr where
  reason : KubeReason
  msg : String
deriving DecidableEq

/-- The error as a reconciler returns it. It wraps nothing of the cloud package. -/
def KubeErr.toErr (e : KubeErr) : Err := ⟨.other, e.msg⟩

/-- `corev1.Secret`, with the name of the VerdaCluster that controls it. -/
structure Secret where
  ns : String
  name : String
  labels : StrMap := []
  owner : String := ""
  type : String := ""
  data : List (String × Bytes) := []
deriving DecidableEq

/-- A value of a Secret; a key that is not there has the empty value. -/
def Secret.value (s : Secret) (key : String) : Bytes := (s.data.lookup key).getD []

/-- Requests for Secrets of one cluster. -/
inductive SecretOp where
  | get (ns name : String)
  | create (s : Secret)
  | update (s : Secret)
  | delete (ns name : String)
deriving DecidableEq

/-- The answer to a request for Secrets, when it succeeds. -/
def SecretOp.Ans : SecretOp → Type
  | .get _ _ => Secret
  | .create _ | .update _ | .delete _ _ => Unit

/-- `loadbalancer.Keys`. -/
structure Keys where
  clientPrivateKey : Bytes
  clientPublicKey : Bytes
  hostPrivateKey : Bytes
  hostPublicKey : Bytes
deriving DecidableEq

/-- The two load balancers of a cluster. -/
inductive LoadBalancer where
  | controlPlane
  | service
deriving DecidableEq

/-- Requests of a VerdaCluster pass. Those to Verda say for which load balancer they are made, those to
a workload cluster name it by the kubeconfig used. -/
inductive ClusterCall where
  | verda (lb : LoadBalancer) (c : Call)
  | secret (op : SecretOp)
  | generateKeys
  | listVerdaMachines (ns clusterName : String)
  | getOwnerMachine (metadata : ObjectMeta)
  | updateBackends (addr : String) (keys : Keys) (backends : List String)
  | kubeconfigFromSecret (ns name : String)
  | workloadClient (kubeconfig : Bytes)
  | workload (kubeconfig : Bytes) (op : SecretOp)
deriving DecidableEq

/-- The answers to a request. -/
def ClusterCall.Res : ClusterCall → Type
  | .verda _ c => Call.Res c
  | .secret op | .workload _ op => Except KubeErr op.Ans
  | .generateKeys => Except Err Keys
  | .listVerdaMachines _ _ => Except Err (List VerdaMachine)
  | .getOwnerMachine _ => Except Err (Option Machine)
  | .updateBackends _ _ _ | .workloadClient _ => Except Err Unit
  | .kubeconfigFromSecret _ _ => Except Err Bytes

/-- A VerdaCluster pass, or a part of it. -/
abbrev ClusterM (α : Type) := Prog ClusterCall ClusterCall.Res α

/-- Issue one request. -/
def ask (c : ClusterCall) : ClusterM c.Res := Prog.perform c

/-- A program over the Verda client, as a part of a pass. -/
def onVerda {α : Type} (lb : LoadBalancer) (p : ClientM α) : ClusterM α :=
  p.mapOp (.verda lb) fun _ x => x

def getSecret (ns name : String) : ClusterM (Except KubeErr Secret) :=
  ask (.secret (.get ns name))

def createSecret (s : Secret) : ClusterM (Except KubeErr Unit) := ask (.secret (.create s))

/-- `loadbalancer.GenerateKeys`. -/
def generateKeys : ClusterM (Except Err Keys) := ask .generateKeys

def listVerdaMachines (ns clusterName : String) : ClusterM (Except Err (List VerdaMachine)) :=
  ask (.listVerdaMachines ns clusterName)

/-- `util.GetOwnerMachine`. -/
def getOwnerMachine (metadata : ObjectMeta) : ClusterM (Except Err (Option Machine)) :=
  ask (.getOwnerMachine metadata)

/-- `Updater.UpdateBackends`. -/
def updateBackends (addr : String) (keys : Keys) (backends : List String) :
    ClusterM (Except Err Unit) :=
  ask (.updateBackends addr keys backends)

/-- `kubeconfig.FromSecret`. -/
def kubeconfigFromSecret (cluster : Cluster) : ClusterM (Except Err Bytes) :=
  ask (.kubeconfigFromSecret cluster.ns cluster.name)

/-- `workloadClient`. -/
def workloadClient (kubeconfig : Bytes) : ClusterM (Except Err Unit) :=
  ask (.workloadClient kubeconfig)

def workloadGet (kubeconfig : Bytes) (ns name : String) : ClusterM (Except KubeErr Secret) :=
  ask (.workload kubeconfig (.get ns name))

def workloadCreate (kubeconfig : Bytes) (s : Secret) : ClusterM (Except KubeErr Unit) :=
  ask (.workload kubeconfig (.create s))

def workloadUpdate (kubeconfig : Bytes) (s : Secret) : ClusterM (Except KubeErr Unit) :=
  ask (.workload kubeconfig (.update s))

def workloadDelete (kubeconfig : Bytes) (ns name : String) : ClusterM (Except KubeErr Unit) :=
  ask (.workload kubeconfig (.delete ns name))

/-- `loadbalancer.StartupScript(keys, nil)` and `loadbalancer.EnvoyStartupScript(keys)`. -/
structure LBScripts where
  startupScript : Keys → Bytes
  envoyStartupScript : Keys → Bytes

/-! ## Helpers -/

def lbPollInterval : Nat := 15
def lbResyncInterval : Nat := 300

/-- `loadbalancer.Port`. -/
def loadBalancerPort : Int := 6443

/-- `clusterTagValue`. -/
def clusterTagValue (vc : VerdaCluster) : String :=
  truncateTag (vc.metadata.ns ++ "/" ++ vc.metadata.name)

/-- `loadBalancerHostname`. -/
def loadBalancerHostname (vc : VerdaCluster) : String := vc.metadata.name ++ "-lb"

/-- `loadBalancerSecretName`. -/
def loadBalancerSecretName (vc : VerdaCluster) : String := vc.metadata.name ++ "-lb-ssh"

/-- `serviceLoadBalancerHostname`. -/
def serviceLoadBalancerHostname (vc : VerdaCluster) : String := vc.metadata.name ++ "-service-lb"

/-- `serviceLoadBalancerSecretName`. -/
def serviceLoadBalancerSecretName (vc : VerdaCluster) : String :=
  vc.metadata.name ++ "-service-lb-ssh"

/-- `orDefault`. -/
def orDefault (v default : String) : String := if v = "" then default else v

/-- Change the status of a cluster. -/
def withClusterStatus (vc : VerdaCluster) (f : VerdaClusterStatus → VerdaClusterStatus) :
    VerdaCluster :=
  { vc with status := f vc.status }

/-- Change the conditions of a cluster. -/
def withConditions (vc : VerdaCluster) (f : ClusterConditions → ClusterConditions) : VerdaCluster :=
  withClusterStatus vc fun s => { s with conditions := f s.conditions }

/-- Change the status of the control plane load balancer. -/
def withLoadBalancer (vc : VerdaCluster) (f : LoadBalancerStatus → LoadBalancerStatus) :
    VerdaCluster :=
  withClusterStatus vc fun s => { s with loadBalancer := f s.loadBalancer }

/-- Change the status of the service load balancer. -/
def withServiceLoadBalancer (vc : VerdaCluster) (f : LoadBalancerStatus → LoadBalancerStatus) :
    VerdaCluster :=
  withClusterStatus vc fun s => { s with serviceLoadBalancer := f s.serviceLoadBalancer }

/-- `Status.Initialization.Provisioned = ptr.To(true)`. -/
def setProvisioned (vc : VerdaCluster) : VerdaCluster :=
  withClusterStatus vc fun s => { s with provisioned := some true }

/-- `setEndpointReady`. -/
def setEndpointReady (vc : VerdaCluster) : VerdaCluster :=
  withConditions vc fun c => { c with controlPlaneEndpointReady := some readyCondition }

/-- `setFailureDomains`. -/
def setFailureDomains (vc : VerdaCluster) : VerdaCluster :=
  withClusterStatus vc fun s => { s with
    failureDomains := [{ name := vc.spec.location, controlPlane := some true }] }

/-- `setLBNotReady`. -/
def setLBNotReady (vc : VerdaCluster) (reason message : String) : VerdaCluster :=
  let vc := withConditions vc fun c => { c with
    loadBalancerReady := some { status := false, reason, message } }
  if reason = "InstanceProvisioning" ∨ reason = "InstanceCreateFailed" ∨
      reason = "InstanceFailed" then
    withConditions vc fun c => { c with
      controlPlaneEndpointReady :=
        some { status := false, reason := "WaitingForLoadBalancer", message } }
  else vc

/-- `setServiceLBNotReady`. -/
def setServiceLBNotReady (vc : VerdaCluster) (reason message : String) : VerdaCluster :=
  withConditions vc fun c => { c with
    serviceLoadBalancerReady := some { status := false, reason, message } }

/-- `fmt.Sprintf("<what> %s is in state %q", id, status)`. -/
def lbStateMessage (what : String) (inst : Instance) : String :=
  what ++ " " ++ inst.id ++ " is in state " ++ quote inst.status

/-- An instance that will not come up any more. -/
def lbFailed (inst : Instance) : Bool :=
  instanceGone inst || inst.status == statusError || inst.status == statusNoCapacity

/-! ## SSH keys -/

def secretKeyClientPrivate : String := "ssh-privatekey"
def secretKeyClientPublic : String := "ssh-publickey"
def secretKeyHostPrivate : String := "host-privatekey"
def secretKeyHostPublic : String := "host-publickey"

/-- `keysFromSecret`. -/
def keysFromSecret (secret : Secret) : Except Err Keys :=
  let keys : Keys :=
    { clientPrivateKey := secret.value secretKeyClientPrivate
      clientPublicKey := secret.value secretKeyClientPublic
      hostPrivateKey := secret.value secretKeyHostPrivate
      hostPublicKey := secret.value secretKeyHostPublic }
  if keys.clientPrivateKey = [] ∨ keys.clientPublicKey = [] ∨ keys.hostPrivateKey = [] ∨
      keys.hostPublicKey = [] then
    .error ⟨.other,
      "load balancer secret " ++ secret.ns ++ "/" ++ secret.name ++ " is missing keys"⟩
  else .ok keys

/-- The Secret `ensureKeys` creates. -/
def keysSecret (cluster : Cluster) (vc : VerdaCluster) (name : String) (keys : Keys) : Secret where
  ns := vc.metadata.ns
  name := name
  labels := [("cluster.x-k8s.io/cluster-name", cluster.name)]
  owner := vc.metadata.name
  type := "kubernetes.io/ssh-auth"
  data := [
    (secretKeyClientPrivate, keys.clientPrivateKey),
    (secretKeyClientPublic, keys.clientPublicKey),
    (secretKeyHostPrivate, keys.hostPrivateKey),
    (secretKeyHostPublic, keys.hostPublicKey)]

/-- `ensureKeys`. -/
def ensureKeys (cluster : Cluster) (vc : VerdaCluster) (name : String) :
    ClusterM (Except Err Keys) := do
  let key := vc.metadata.ns ++ "/" ++ name
  match ← getSecret vc.metadata.ns name with
  | .ok secret => return keysFromSecret secret
  | .error e =>
    if e.reason ≠ .notFound then
      return .error (.wrap ("getting load balancer secret " ++ key) e.toErr)
    else
      match ← generateKeys with
      | .error e => return .error e
      | .ok keys =>
        match ← createSecret (keysSecret cluster vc name keys) with
        | .ok _ => return .ok keys
        | .error e =>
          if e.reason = .alreadyExists then
            match ← getSecret vc.metadata.ns name with
            | .error e => return .error e.toErr
            | .ok secret => return keysFromSecret secret
          else return .error (.wrap ("creating load balancer secret " ++ key) e.toErr)

/-! ## The control plane load balancer -/

/-- `findLoadBalancer`. -/
def findLoadBalancer (vc : VerdaCluster) : ClientM (Except Err (Option Instance)) := do
  let id := vc.status.loadBalancer.instanceID
  if id ≠ "" then
    match ← getInstance id with
    | .ok inst => return .ok (some inst)
    | .error e =>
      if e.kind ≠ .notFound then return .error e
      else return .ok (some { id := id, status := statusNotFound })
  else
    match ← findInstanceByTag tagLoadBalancer (clusterTagValue vc) with
    | .error e => if e.kind = .notFound then return .ok none else return .error e
    | .ok inst => return .ok (some inst)

/-- `createLoadBalancer`. -/
def createLoadBalancer (scripts : LBScripts) (cluster : Cluster) (vc : VerdaCluster) (keys : Keys) :
    ClientM (Except Err Instance) :=
  let lb := vc.spec.controlPlaneLoadBalancer
  createInstance
    { hostname := loadBalancerHostname vc
      description := "Cluster API control plane load balancer for cluster " ++ cluster.ns ++ "/" ++
        cluster.name
      instanceType :=
        if lb.instanceType = "" then defaultLoadBalancerInstanceType else lb.instanceType
      image := if lb.image = "" then defaultLoadBalancerImage else lb.image
      location := vc.spec.location
      sshKeyIDs := lb.sshKeyIDs
      startupScript := scripts.startupScript keys
      tags := [
        (tagManagedBy, managedByValue),
        (tagCluster, cluster.ns ++ "/" ++ cluster.name),
        (tagLoadBalancer, clusterTagValue vc),
        (tagRole, "load-balancer")] }

/-- `isControlPlane`. -/
def isControlPlane (vm : VerdaMachine) : ClusterM (Except Err Bool) := do
  if (vm.metadata.labels.map Prod.fst).contains "cluster.x-k8s.io/control-plane" then
    return .ok true
  else
    match ← getOwnerMachine vm.metadata with
    | .error e => return .error e
    | .ok machine => return .ok (machine.any (·.controlPlane))

/-- The first non-empty external address of a machine. -/
def externalAddress (vm : VerdaMachine) : Option String :=
  (vm.status.addresses.find? fun a => a.type == .externalIP && a.address != "").map (·.address)

/-- The loop of `controlPlaneAddresses`. -/
def collectAddresses : List VerdaMachine → ClusterM (Except Err (List String))
  | [] => return .ok []
  | vm :: vms => do
    if vm.metadata.deletionTimestamp.isSome then collectAddresses vms
    else
      match ← isControlPlane vm with
      | .error e => return .error e
      | .ok false => collectAddresses vms
      | .ok true =>
        match ← collectAddresses vms with
        | .error e => return .error e
        | .ok addresses => return .ok ((externalAddress vm).toList ++ addresses)

/-- `controlPlaneAddresses`. -/
def controlPlaneAddresses (cluster : Cluster) : ClusterM (Except Err (List String)) := do
  match ← listVerdaMachines cluster.ns cluster.name with
  | .error e => return .error (.wrap "listing VerdaMachines" e)
  | .ok verdaMachines =>
    match ← collectAddresses verdaMachines with
    | .error e => return .error e
    | .ok addresses => return .ok (addresses.mergeSort fun a b => decide (a ≤ b))

/-- The first part of `reconcileLoadBalancer`: the instance found or created, with the object. -/
def acquireLoadBalancer (scripts : LBScripts) (cluster : Cluster) (vc : VerdaCluster) (keys : Keys) :
    ClientM (Except Err Instance × VerdaCluster) := do
  match ← findLoadBalancer vc with
  | .error e => return (.error e, vc)
  | .ok (some inst) => return (.ok inst, vc)
  | .ok none =>
    match ← createLoadBalancer scripts cluster vc keys with
    | .error e => return (.error e, setLBNotReady vc "InstanceCreateFailed" e.msg)
    | .ok inst => return (.ok inst, vc)

/-- The last part of `reconcileLoadBalancer`: the load balancer runs at an address. -/
def serveLoadBalancer (cluster : Cluster) (vc : VerdaCluster) (keys : Keys) (ip : String) :
    ClusterM (Reply × VerdaCluster) := do
  let vc := withLoadBalancer vc fun s => { s with address := ip }
  let vc := { vc with spec := { vc.spec with
    controlPlaneEndpoint := { host := ip, port := loadBalancerPort } } }
  let vc := setFailureDomains (setEndpointReady vc)
  let synced : VerdaCluster → VerdaCluster := fun vc =>
    setProvisioned (withConditions vc fun c => { c with loadBalancerReady := some readyCondition })
  match ← controlPlaneAddresses cluster with
  | .error e => return (.error e, vc)
  | .ok backends =>
    if backends ≠ vc.status.loadBalancer.backends then
      match ← updateBackends ip keys backends with
      | .error e =>
        return (.ok { requeueAfter := lbPollInterval },
          setProvisioned (setLBNotReady vc "BackendUpdateFailed" e.msg))
      | .ok _ =>
        let vc := withLoadBalancer vc fun s => { s with backends := backends }
        return (.ok { requeueAfter := lbResyncInterval }, synced vc)
    else return (.ok { requeueAfter := lbResyncInterval }, synced vc)

/-- Copy an instance into the status of a load balancer. -/
def recordLB (inst : Instance) (s : LoadBalancerStatus) : LoadBalancerStatus :=
  { s with
    instanceID := inst.id
    startupScriptID := if inst.startupScriptID ≠ "" then inst.startupScriptID else s.startupScriptID }

/-- The middle of `reconcileLoadBalancer`: record the instance and act on its status. -/
def settleLoadBalancer (cluster : Cluster) (vc : VerdaCluster) (keys : Keys) (inst : Instance) :
    ClusterM (Reply × VerdaCluster) := do
  let vc := withLoadBalancer vc (recordLB inst)
  if inst.status = statusRunning ∧ inst.ip ≠ "" then serveLoadBalancer cluster vc keys inst.ip
  else if lbFailed inst then
    return (.ok {},
      setLBNotReady vc "InstanceFailed" (lbStateMessage "load balancer instance" inst))
  else
    return (.ok { requeueAfter := lbPollInterval },
      setLBNotReady vc "InstanceProvisioning" (lbStateMessage "load balancer instance" inst))

/-- `reconcileLoadBalancer`. -/
def reconcileLoadBalancer (scripts : LBScripts) (cluster : Cluster) (vc : VerdaCluster) :
    ClusterM (Reply × VerdaCluster) := do
  match ← ensureKeys cluster vc (loadBalancerSecretName vc) with
  | .error e => return (.error e, vc)
  | .ok keys =>
    match ← onVerda .controlPlane (acquireLoadBalancer scripts cluster vc keys) with
    | (.error e, vc) => return (.error e, vc)
    | (.ok inst, vc) => settleLoadBalancer cluster vc keys inst

/-- `reconcileEndpoint`. -/
def reconcileEndpoint (scripts : LBScripts) (cluster : Cluster) (vc : VerdaCluster) :
    ClusterM (Reply × VerdaCluster) := do
  if vc.loadBalancerEnabled then reconcileLoadBalancer scripts cluster vc
  else
    let vc := withConditions vc fun c => { c with loadBalancerReady := none }
    let endpoint :=
      if vc.spec.controlPlaneEndpoint.host = "" then cluster.controlPlaneEndpoint
      else vc.spec.controlPlaneEndpoint
    if endpoint.host = "" then
      return (.ok {}, withConditions vc fun c => { c with
        controlPlaneEndpointReady := some
          { status := false
            reason := "EndpointNotSet"
            message := "spec.controlPlaneEndpoint must be set or " ++
              "spec.controlPlaneLoadBalancer.enabled must be true" } })
    else
      let endpoint :=
        if endpoint.port = 0 then { endpoint with port := loadBalancerPort } else endpoint
      let vc := { vc with spec := { vc.spec with controlPlaneEndpoint := endpoint } }
      return (.ok {}, setProvisioned (setFailureDomains (setEndpointReady vc)))

/-! ## The service load balancer -/

/-- `findInstanceByStatusOrTag`. -/
def findInstanceByStatusOrTag (id tagKey tagValue : String) :
    ClientM (Except Err (Option Instance)) := do
  if id ≠ "" then
    match ← getInstance id with
    | .ok inst => return .ok (some inst)
    | .error e =>
      if e.kind ≠ .notFound then return .error e
      else return .ok (some { id := id, status := statusNotFound })
  else
    match ← findInstanceByTag tagKey tagValue with
    | .error e => if e.kind = .notFound then return .ok none else return .error e
    | .ok inst => if instanceGone inst then return .ok none else return .ok (some inst)

/-- The lookup of the service load balancer. -/
def findServiceLoadBalancer (vc : VerdaCluster) : ClientM (Except Err (Option Instance)) :=
  findInstanceByStatusOrTag vc.status.serviceLoadBalancer.instanceID tagServiceLoadBalancer
    (clusterTagValue vc)

/-- The instance `reconcileServiceLoadBalancer` asks for. -/
def serviceLoadBalancerSpec (scripts : LBScripts) (cluster : Cluster) (vc : VerdaCluster)
    (keys : Keys) : InstanceSpec :=
  let lb := vc.spec.serviceLoadBalancer
  { hostname := serviceLoadBalancerHostname vc
    description := "Cluster API service load balancer for cluster " ++ cluster.ns ++ "/" ++
      cluster.name
    instanceType := orDefault lb.instanceType defaultLoadBalancerInstanceType
    image := orDefault lb.image defaultLoadBalancerImage
    location := vc.spec.location
    sshKeyIDs := lb.sshKeyIDs
    startupScript := scripts.envoyStartupScript keys
    tags := [
      (tagManagedBy, managedByValue),
      (tagCluster, cluster.ns ++ "/" ++ cluster.name),
      (tagServiceLoadBalancer, clusterTagValue vc),
      (tagRole, "service-load-balancer")] }

/-- The first part of `reconcileServiceLoadBalancer`: the instance found or created, with the
object. -/
def acquireServiceLoadBalancer (scripts : LBScripts) (cluster : Cluster) (vc : VerdaCluster)
    (keys : Keys) : ClientM (Except Err Instance × VerdaCluster) := do
  match ← findServiceLoadBalancer vc with
  | .error e => return (.error e, vc)
  | .ok (some inst) => return (.ok inst, vc)
  | .ok none =>
    match ← createInstance (serviceLoadBalancerSpec scripts cluster vc keys) with
    | .error e => return (.error e, setServiceLBNotReady vc "InstanceCreateFailed" e.msg)
    | .ok inst => return (.ok inst, vc)

/-- `ServiceLoadBalancerSecretName`, in `metav1.NamespaceSystem`. -/
def serviceLBSecretNs : String := "kube-system"
def serviceLBSecretName : String := "verda-service-lb"

/-- The data `publishServiceLoadBalancerSecret` wants in the workload cluster. -/
def serviceLBSecretData (cluster : Cluster) (address : String) (keys : Keys) :
    List (String × Bytes) :=
  [("address", bytes address),
    ("ssh-privatekey", keys.clientPrivateKey),
    ("host-publickey", keys.hostPublicKey),
    ("instance-cluster", bytes (cluster.ns ++ "/" ++ cluster.name))]

/-- `publishServiceLoadBalancerSecret`. -/
def publishServiceLoadBalancerSecret (cluster : Cluster) (address : String) (keys : Keys) :
    ClusterM (Except Err Unit) := do
  match ← kubeconfigFromSecret cluster with
  | .error e => return .error (.wrap "workload cluster kubeconfig not available" e)
  | .ok kubeconfig =>
    match ← workloadClient kubeconfig with
    | .error e => return .error (.wrap "building workload cluster client" e)
    | .ok _ =>
      let data := serviceLBSecretData cluster address keys
      match ← workloadGet kubeconfig serviceLBSecretNs serviceLBSecretName with
      | .error e =>
        if e.reason = .notFound then
          let created ← workloadCreate kubeconfig
            { ns := serviceLBSecretNs, name := serviceLBSecretName, data := data }
          return created.mapError KubeErr.toErr
        else
          return .error (.wrap ("reading " ++ serviceLBSecretNs ++ "/" ++ serviceLBSecretName ++
            " in the workload cluster") e.toErr)
      | .ok existing =>
        if existing.value "address" = bytes address ∧
            existing.value "ssh-privatekey" = keys.clientPrivateKey then
          return .ok ()
        else
          let updated ← workloadUpdate kubeconfig { existing with data := data }
          return updated.mapError KubeErr.toErr

/-- `removeServiceLoadBalancerSecret`. Its failures are only logged. -/
def removeServiceLoadBalancerSecret (cluster : Cluster) : ClusterM Unit := do
  match ← kubeconfigFromSecret cluster with
  | .error _ => return ()
  | .ok kubeconfig =>
    match ← workloadClient kubeconfig with
    | .error _ => return ()
    | .ok _ =>
      let _ ← workloadDelete kubeconfig serviceLBSecretNs serviceLBSecretName
      return ()

/-- The second part of `reconcileServiceLoadBalancer`: record the instance, act on its status, and
publish its address. -/
def settleServiceLoadBalancer (cluster : Cluster) (vc : VerdaCluster) (keys : Keys)
    (inst : Instance) : ClusterM (Except Err Bool × VerdaCluster) := do
  let vc := withServiceLoadBalancer vc (recordLB inst)
  if inst.status = statusRunning ∧ inst.ip ≠ "" then
    let vc := withServiceLoadBalancer vc fun s => { s with address := inst.ip }
    match ← publishServiceLoadBalancerSecret cluster inst.ip keys with
    | .error e => return (.ok true, setServiceLBNotReady vc "WaitingForWorkloadCluster" e.msg)
    | .ok _ =>
      let vc := withServiceLoadBalancer vc fun s => { s with secretPublished := some true }
      return (.ok false,
        withConditions vc fun c => { c with serviceLoadBalancerReady := some readyCondition })
  else if lbFailed inst then
    return (.ok false, setServiceLBNotReady vc "InstanceFailed"
      (lbStateMessage "service load balancer instance" inst))
  else
    return (.ok true, setServiceLBNotReady vc "InstanceProvisioning"
      (lbStateMessage "service load balancer instance" inst))

/-- `reconcileServiceLoadBalancer`. -/
def reconcileServiceLoadBalancer (scripts : LBScripts) (cluster : Cluster) (vc : VerdaCluster) :
    ClusterM (Except Err Bool × VerdaCluster) := do
  match ← ensureKeys cluster vc (serviceLoadBalancerSecretName vc) with
  | .error e => return (.error e, vc)
  | .ok keys =>
    match ← onVerda .service (acquireServiceLoadBalancer scripts cluster vc keys) with
    | (.error e, vc) => return (.error e, vc)
    | (.ok inst, vc) => settleServiceLoadBalancer cluster vc keys inst

/-- The end of `deleteServiceLoadBalancer`, once the instance and its volumes are gone. -/
def deleteServiceLBScript (vc : VerdaCluster) : ClientM (Except Err Bool × VerdaCluster) := do
  let id := vc.status.serviceLoadBalancer.startupScriptID
  if id ≠ "" then
    match ← deleteStartupScript id with
    | .error e => return (.error e, vc)
    | .ok _ => return (.ok false, withServiceLoadBalancer vc fun s => { s with startupScriptID := "" })
  else
    match ← deleteStartupScriptByName (serviceLoadBalancerHostname vc) with
    | .error e => return (.error e, vc)
    | .ok _ => return (.ok false, vc)

/-- Wait for a service load balancer that is still there, asking Verda to delete it when that is
due. -/
def deleteLiveServiceLB (now : Time) (vc : VerdaCluster) (inst : Instance) :
    ClientM (Except Err Bool × VerdaCluster) := do
  if inst.status = statusDeleting then return (.ok true, vc)
  else
    let (due, metadata) := deleteRequestDue now vc.metadata "servicelb" inst.status
    let vc := { vc with metadata := metadata }
    if due then
      match ← deleteInstance inst.id with
      | .error e => return (.error e, vc)
      | .ok _ =>
        return (.ok true, setServiceLBNotReady vc "InstanceDeleteRequested"
          ("Delete requested for service load balancer instance " ++ inst.id))
    else return (.ok true, vc)

/-- `deleteServiceLoadBalancer`: whether to wait and ask again. -/
def deleteServiceLoadBalancer (now : Time) (vc : VerdaCluster) :
    ClientM (Except Err Bool × VerdaCluster) := do
  match ← findServiceLoadBalancer vc with
  | .error e => return (.error e, vc)
  | .ok none => deleteServiceLBScript vc
  | .ok (some inst) =>
    if !instanceGone inst then deleteLiveServiceLB now vc inst
    else if inst.status ≠ statusNotFound then
      match ← purgeInstanceVolumes inst.id with
      | .error e => return (.error e, vc)
      | .ok pending => if pending > 0 then return (.ok true, vc) else deleteServiceLBScript vc
    else deleteServiceLBScript vc

/-! ## reconcileNormal -/

namespace ClusterScope

/-- `reconcileNormal` once the endpoint is settled, with the service load balancer disabled. -/
def disableService (now : Time) (cluster : Cluster) (result : Result) (vc : VerdaCluster) :
    ClusterM (Reply × VerdaCluster) := do
  let cleared : VerdaCluster → VerdaCluster := fun vc =>
    withConditions vc fun c => { c with serviceLoadBalancerReady := none }
  let lb := vc.status.serviceLoadBalancer
  if lb.instanceID ≠ "" ∨ lb.address ≠ "" then
    match ← onVerda .service (deleteServiceLoadBalancer now vc) with
    | (.error e, vc) => return (.error e, vc)
    | (.ok true, vc) => return (.ok { result with requeueAfter := deletePollInterval }, vc)
    | (.ok false, vc) =>
      removeServiceLoadBalancerSecret cluster
      return (.ok result, cleared (withServiceLoadBalancer vc fun _ => {}))
  else return (.ok result, cleared vc)

/-- `reconcileNormal` once the endpoint is settled, with the service load balancer enabled. -/
def enableService (scripts : LBScripts) (cluster : Cluster) (result : Result) (vc : VerdaCluster) :
    ClusterM (Reply × VerdaCluster) := do
  match ← reconcileServiceLoadBalancer scripts cluster vc with
  | (.error e, vc) => return (.error e, vc)
  | (.ok requeue, vc) =>
    if requeue ∧ (result.requeueAfter = 0 ∨ result.requeueAfter > lbPollInterval) then
      return (.ok { result with requeueAfter := lbPollInterval }, vc)
    else return (.ok result, vc)

/-- `reconcileNormal` after `reconcileEndpoint`, from what that returned. -/
def reconcileService (scripts : LBScripts) (now : Time) (cluster : Cluster) :
    Reply × VerdaCluster → ClusterM (Reply × VerdaCluster)
  | (.error e, vc) => return (.error e, vc)
  | (.ok result, vc) =>
    if !vc.serviceLoadBalancerEnabled then disableService now cluster result vc
    else enableService scripts cluster result vc

/-- `reconcileNormal`. -/
def reconcileNormal (scripts : LBScripts) (now : Time) (cluster : Cluster) (vc : VerdaCluster) :
    ClusterM (Reply × VerdaCluster) := do
  let endpoint ← reconcileEndpoint scripts cluster vc
  reconcileService scripts now cluster endpoint

end ClusterScope

/-! ## reconcileDelete -/

/-- Wait for a control plane load balancer that is still there, asking Verda to delete it when that is
due. -/
def deleteLiveLB (now : Time) (vc : VerdaCluster) (inst : Instance) :
    ClientM (Reply × VerdaCluster) := do
  if inst.status = statusDeleting then return (.ok { requeueAfter := deletePollInterval }, vc)
  else
    let (due, metadata) := deleteRequestDue now vc.metadata "lb" inst.status
    let vc := { vc with metadata := metadata }
    if due then
      match ← deleteInstance inst.id with
      | .error e => return (.error e, vc)
      | .ok _ =>
        return (.ok { requeueAfter := deletePollInterval },
          setLBNotReady vc "InstanceDeleteRequested"
            ("Delete requested for load balancer instance " ++ inst.id))
    else return (.ok { requeueAfter := deletePollInterval }, vc)

/-- The end of `reconcileDelete`, once the instance and its volumes are gone. -/
def releaseCluster (vc : VerdaCluster) : ClientM (Reply × VerdaCluster) := do
  let released : VerdaCluster → VerdaCluster := fun vc =>
    { vc with metadata := removeFinalizer vc.metadata clusterFinalizer }
  let id := vc.status.loadBalancer.startupScriptID
  if id ≠ "" then
    match ← deleteStartupScript id with
    | .error e => return (.error e, vc)
    | .ok _ => return (.ok {}, released (withLoadBalancer vc fun s => { s with startupScriptID := "" }))
  else if vc.loadBalancerEnabled then
    match ← deleteStartupScriptByName (loadBalancerHostname vc) with
    | .error e => return (.error e, vc)
    | .ok _ => return (.ok {}, released vc)
  else return (.ok {}, released vc)

/-- `reconcileDelete` after the service load balancer: the control plane load balancer. -/
def deleteLoadBalancer (now : Time) (vc : VerdaCluster) : ClientM (Reply × VerdaCluster) := do
  match ← findLoadBalancer vc with
  | .error e => return (.error e, vc)
  | .ok none => releaseCluster vc
  | .ok (some inst) =>
    if !instanceGone inst then deleteLiveLB now vc inst
    else if inst.status ≠ statusNotFound then
      match ← purgeInstanceVolumes inst.id with
      | .error e => return (.error e, vc)
      | .ok pending =>
        if pending > 0 then return (.ok { requeueAfter := deletePollInterval }, vc)
        else releaseCluster vc
    else releaseCluster vc

/-- `reconcileDelete`. -/
def ClusterScope.reconcileDelete (now : Time) (vc : VerdaCluster) :
    ClusterM (Reply × VerdaCluster) := do
  match ← onVerda .service (deleteServiceLoadBalancer now vc) with
  | (.error e, vc) => return (.error e, vc)
  | (.ok true, vc) => return (.ok { requeueAfter := deletePollInterval }, vc)
  | (.ok false, vc) => onVerda .controlPlane (deleteLoadBalancer now vc)

/-! ## Reconcile -/

/-- What a pass is given besides its object: the answers of the Kubernetes API, the credentials that
cannot be used, the startup scripts and the time. -/
structure ClusterInput where
  finalizerError : Option Err := none
  owner : Except Err (Option Cluster)
  /-- `paused.EnsurePausedCondition`: paused or requeued. -/
  paused : Except Err Bool := .ok false
  unavailable : Identity → Option Err := fun _ => none
  scripts : LBScripts
  now : Time := 0

/-- The end of a pass: what it returns, and the object it asks the API server to store, if it asks. -/
structure ClusterOutcome where
  reply : Reply
  sent : Option VerdaCluster
  /-- What `reconcileEndpoint` returned on the way, if the pass got there. -/
  endpoint : Option (Reply × VerdaCluster) := none

/-- A request of a pass that uses the client of this account. -/
abbrev ScopedCall := AccountID × ClusterCall

/-- The answers do not depend on the account. -/
abbrev ScopedCall.Res (c : ScopedCall) : Type := ClusterCall.Res c.2

/-- A pass over a cluster. -/
abbrev ClusterPass := Prog ScopedCall ScopedCall.Res ClusterOutcome

/-- Run a part of the reconciler with the client of an account. -/
def withClient {α : Type} (a : AccountID) (p : ClusterM α) : Prog ScopedCall ScopedCall.Res α :=
  p.mapOp (fun c => (a, c)) fun _ x => x

/-- `patchVerdaCluster`, up to the request it sends: the `Ready` condition summarises the others. -/
def patchVerdaCluster (vc : VerdaCluster) : VerdaCluster :=
  let conditions := vc.status.conditions
  let notReady : Option Condition → Condition := fun c =>
    { status := false, reason := "NotReady", message := Condition.getMessage c }
  let ready : Condition :=
    if vc.metadata.deletionTimestamp.isSome then { status := false, reason := "Deleting" }
    else if !Condition.isTrue conditions.controlPlaneEndpointReady then
      notReady conditions.controlPlaneEndpointReady
    else if vc.loadBalancerEnabled ∧ !Condition.isTrue conditions.loadBalancerReady then
      notReady conditions.loadBalancerReady
    else readyCondition
  withConditions vc fun c => { c with ready := some ready }

/-- The deferred patch: it sends the object whatever the reply is. -/
def clusterPatched (r : Reply × VerdaCluster) (endpoint : Option (Reply × VerdaCluster) := none) :
    ClusterOutcome :=
  { reply := r.1, sent := some (patchVerdaCluster r.2), endpoint }

/-- `clusterScope.reconcileDelete`, and the patch. -/
def runClusterDelete (a : AccountID) (now : Time) (vc : VerdaCluster) : ClusterPass := do
  let r ← withClient a (ClusterScope.reconcileDelete now vc)
  return clusterPatched r

/-- `clusterScope.reconcileNormal` in its two parts, and the patch. -/
def runClusterNormal (a : AccountID) (inp : ClusterInput) (cluster : Cluster) (vc : VerdaCluster) :
    ClusterPass := do
  let endpoint ← withClient a (reconcileEndpoint inp.scripts cluster vc)
  let r ← withClient a (ClusterScope.reconcileService inp.scripts inp.now cluster endpoint)
  return clusterPatched r endpoint

/-- `reconcileOrphanDelete`. -/
def reconcileOrphanCluster (inp : ClusterInput) (vc : VerdaCluster) : ClusterPass :=
  match clientFor inp.unavailable
      { ns := vc.metadata.ns, secretName := vc.identitySecretName } with
  | .error e => .ret (clusterPatched (.error e, vc))
  | .ok a => runClusterDelete a inp.now vc

/-- `Reconcile` once the owner Cluster is known and not paused. -/
def reconcileOwnedCluster (inp : ClusterInput) (cluster : Cluster) (vc : VerdaCluster) :
    ClusterPass :=
  match clientFor inp.unavailable
      { ns := vc.metadata.ns, secretName := vc.identitySecretName } with
  | .error e =>
    .ret (clusterPatched (.error e, withConditions vc fun c => { c with
      controlPlaneEndpointReady :=
        some { status := false, reason := "CredentialsUnavailable", message := e.msg } }))
  | .ok a =>
    if vc.metadata.deletionTimestamp.isSome then runClusterDelete a inp.now vc
    else runClusterNormal a inp cluster vc

/-- `Reconcile`, for an object that exists. -/
def reconcileCluster (inp : ClusterInput) (vc : VerdaCluster) : ClusterPass :=
  if vc.metadata.deletionTimestamp = none ∧ clusterFinalizer ∉ vc.metadata.finalizers then
    -- `finalizers.EnsureFinalizer` patches the object and ends the pass
    let reply := match inp.finalizerError with
      | some e => .error e
      | none => .ok {}
    let finalizers := vc.metadata.finalizers ++ [clusterFinalizer]
    .ret { reply, sent := some { vc with metadata := { vc.metadata with finalizers := finalizers } } }
  else
    match inp.owner with
    | .error e => .ret { reply := .error e, sent := none }
    | .ok none =>
      if vc.metadata.deletionTimestamp.isSome then reconcileOrphanCluster inp vc
      else .ret { reply := .ok {}, sent := none }
    | .ok (some cluster) =>
      match inp.paused with
      | .error e => .ret { reply := .error e, sent := none }
      | .ok true => .ret { reply := .ok {}, sent := none }
      | .ok false => reconcileOwnedCluster inp cluster vc

end VerdaCapi.Controller
