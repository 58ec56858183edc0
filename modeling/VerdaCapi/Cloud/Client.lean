import VerdaCapi.Cloud.Sdk

/-!
# The Verda client

Reference: `internal/cloud/client.go`. Each method of `sdkClient` is a program over the SDK's
requests. A request carries the method that issues it, so that a run shows on whose behalf the
account was changed; the account itself does not look at it.
-/

namespace VerdaCapi.Cloud

open Remote Go

/-! ## Errors -/

/-- What `errors.Is` and `errors.As` can find in an error of this package. -/
inductive ErrKind where
  | notFound
  | notManaged
  | hostnameInUse
  | api (statusCode : Nat)
  | other
deriving DecidableEq

/-- An error: what it wraps, and its text. -/
structure Err where
  kind : ErrKind
  msg : String
deriving DecidableEq

/-- `ErrNotFound`. -/
def errNotFound : Err := ⟨.notFound, "resource not found"⟩

/-- `ErrNotManaged`. -/
def errNotManaged : Err := ⟨.notManaged, "resource is not managed by cluster-api-provider-verda"⟩

/-- `ErrHostnameInUse`. -/
def errHostnameInUse : Err :=
  ⟨.hostnameInUse, "hostname is in use by an instance not managed by cluster-api-provider-verda"⟩

/-- `fmt.Errorf("<context>: %w", err)`. -/
def Err.wrap (context : String) (e : Err) : Err := { e with msg := context ++ ": " ++ e.msg }

/-- An error of the SDK, unwrapped. -/
def Err.ofApi : Sdk.ApiErr → Err
  | .api code m => ⟨.api code, m⟩
  | .other m => ⟨.other, m⟩

/-- `isNotFound`: an `APIError` with status 404. -/
def isNotFound (e : Sdk.ApiErr) : Bool := e.hasStatus 404

/-! ## Constants and records -/

def tagCluster : String := "capi-cluster"
def tagMachine : String := "capi-machine"
def tagLoadBalancer : String := "capi-loadbalancer"
def tagServiceLoadBalancer : String := "capi-service-loadbalancer"
def tagManagedBy : String := "capi-managed-by"
def tagRole : String := "capi-role"
def managedByValue : String := "cluster-api-provider-verda"

def statusRunning : String := "running"
def statusOffline : String := "offline"
def statusDeleting : String := "deleting"
def statusDiscontinued : String := "discontinued"
def statusDeleted : String := "deleted"
def statusError : String := "error"
def statusNoCapacity : String := "no_capacity"
def statusNotFound : String := "notfound"

def volumeStatusDetached : String := "detached"
def volumeStatusAttached : String := "attached"
def volumeStatusDeleting : String := "deleting"
def volumeStatusDeleted : String := "deleted"

/-- `cloud.Instance`. -/
structure Instance where
  id : String := ""
  hostname : String := ""
  status : String := ""
  ip : String := ""
  location : String := ""
  instanceType : String := ""
  startupScriptID : String := ""
  osVolumeID : String := ""
  tags : StrMap := []
deriving DecidableEq

/-- `cloud.Volume`. -/
structure Volume where
  id : String
  name : String
  status : String
  location : String := ""
  isOSVolume : Bool := false
  instanceID : String := ""
  managed : Bool := false
deriving DecidableEq

/-- `cloud.DataVolumeSpec`. -/
structure DataVolumeSpec where
  name : String
  sizeGB : Int
  type : String
deriving DecidableEq

/-- `cloud.InstanceSpec`. -/
structure InstanceSpec where
  hostname : String
  description : String := ""
  instanceType : String := ""
  image : String := ""
  location : String := ""
  sshKeyIDs : List String := []
  osVolumeSizeGB : Int := 0
  contract : String := ""
  spot : Bool := false
  spotDiscontinuePolicy : String := ""
  dataVolumes : List DataVolumeSpec := []
  startupScript : Bytes := []
  tags : StrMap := []
deriving DecidableEq

/-- `toInstance`. -/
def toInstance (i : Sdk.Instance) : Instance where
  id := i.id
  hostname := i.hostname
  status := i.status
  ip := i.ip.getD ""
  location := i.location
  instanceType := i.instanceType
  startupScriptID := i.startupScriptID.getD ""
  osVolumeID := i.osVolumeID.getD ""
  tags := i.tags.foldl (fun m t => m.set t.key t.value) []

/-- `hasTag`. -/
def hasTag (tags : List Sdk.Tag) (key value : String) : Bool :=
  tags.any fun t => t.key == key && t.value == value

/-- `toVolume`. -/
def toVolume (v : Sdk.Volume) : Volume where
  id := v.id
  name := v.name
  status := v.status
  location := v.location
  isOSVolume := v.isOSVolume
  instanceID := v.instanceID.getD ""
  managed := hasTag v.tags tagManagedBy managedByValue

/-- The value of a tag of an instance, empty when it has none. -/
def tagOf (i : Sdk.Instance) (key : String) : String := (toInstance i).tags.get key

/-- The instance carries the provider's management tag. -/
def isManaged (i : Sdk.Instance) : Bool := tagOf i tagManagedBy == managedByValue

/-- `spotPolicy`. -/
def spotPolicy (spec : InstanceSpec) : String :=
  if !spec.spot then ""
  else if spec.spotDiscontinuePolicy = "" then Sdk.spotDiscontinueDeletePermanent
  else spec.spotDiscontinuePolicy

/-! ## Requests -/

/-- The methods of `cloud.Client`. -/
inductive Method where
  | getInstance | findInstanceByHostname | findInstanceByTag | createInstance
  | deleteStartupScriptByName | deleteInstance | purgeInstanceVolumes | deleteStartupScript
  | getVolume | findVolumeByName | cloneVolume | deleteVolume | ensureVolumeTag
deriving DecidableEq

/-- A request, with the client method that issues it. -/
structure Call where
  method : Method
  op : Sdk.Op
deriving DecidableEq

/-- A request succeeds with its answer or fails with an error of the SDK. -/
abbrev Call.Res (c : Call) : Type := Except Sdk.ApiErr (Sdk.Ans c.op)

/-- A program of the client. -/
abbrev ClientM (α : Type) := Prog Call Call.Res α

/-- Issue one request on behalf of a method. -/
def request (m : Method) (op : Sdk.Op) : ClientM (Except Sdk.ApiErr (Sdk.Ans op)) :=
  (Prog.perform ⟨m, op⟩ : Prog Call Call.Res _)

/-! ## Instances -/

/-- `GetInstance`. -/
def getInstance (id : String) : ClientM (Except Err Instance) := do
  match ← request .getInstance (.instancesGetByID id) with
  | .error e =>
    if isNotFound e then return .error errNotFound
    else return .error (.wrap ("getting instance " ++ id) (.ofApi e))
  | .ok inst => return .ok (toInstance inst)

/-- The loop shared by `FindInstanceByHostname` and `FindInstanceByTag`: the first wanted instance
that is not discontinued, else the last wanted one that is. -/
def scan (want : Instance → Bool) : Option Instance → List Sdk.Instance → Option Instance
  | gone, [] => gone
  | gone, i :: is =>
    let inst := toInstance i
    if !want inst then scan want gone is
    else if inst.status = statusDiscontinued then scan want (some inst) is
    else some inst

/-- `FindInstanceByHostname`. -/
def findInstanceByHostname (hostname : String) : ClientM (Except Err Instance) := do
  match ← request .findInstanceByHostname .instancesGet with
  | .error e => return .error (.wrap "listing instances" (.ofApi e))
  | .ok instances =>
    match scan (fun inst => inst.hostname == hostname) none instances with
    | some inst => return .ok inst
    | none => return .error errNotFound

/-- `FindInstanceByTag`. -/
def findInstanceByTag (key value : String) : ClientM (Except Err Instance) := do
  match ← request .findInstanceByTag .instancesGet with
  | .error e => return .error (.wrap "listing instances" (.ofApi e))
  | .ok instances =>
    match scan (fun inst => inst.tags.get key == value) none instances with
    | some inst => return .ok inst
    | none => return .error errNotFound

/-! ## Startup scripts -/

/-- `DeleteStartupScript`. -/
def deleteStartupScript (id : String) : ClientM (Except Err Unit) := do
  match ← request .deleteStartupScript (.scriptsDelete id) with
  | .error e =>
    if isNotFound e then return .ok ()
    else return .error (.wrap ("deleting startup script " ++ id) (.ofApi e))
  | .ok _ => return .ok ()

/-- The loop of `DeleteStartupScriptByName`. -/
def deleteScriptsNamed (name : String) : List Sdk.StartupScript → ClientM (Except Err Unit)
  | [] => return .ok ()
  | script :: scripts => do
    if script.name ≠ name then deleteScriptsNamed name scripts
    else
      match ← deleteStartupScript script.id with
      | .error e => return .error e
      | .ok _ => deleteScriptsNamed name scripts

/-- `DeleteStartupScriptByName`. -/
def deleteStartupScriptByName (name : String) : ClientM (Except Err Unit) := do
  match ← request .deleteStartupScriptByName .scriptsGetAll with
  | .error e => return .error (.wrap "listing startup scripts" (.ofApi e))
  | .ok scripts => deleteScriptsNamed name scripts

/-! ## Creating an instance -/

/-- An instance that keeps `CreateInstance` from using a hostname: it has it, is not discontinued,
and is not managed by this provider. -/
def blocksHostname (hostname : String) (i : Sdk.Instance) : Bool :=
  i.hostname == hostname && i.status != statusDiscontinued && !isManaged i

/-- The request `CreateInstance` builds, without its startup script. -/
def createRequest (spec : InstanceSpec) : Sdk.CreateInstanceRequest where
  instanceType := spec.instanceType
  image := spec.image
  hostname := spec.hostname
  description := spec.description
  sshKeyIDs := spec.sshKeyIDs
  locationCode := spec.location
  contract := spec.contract
  isSpot := spec.spot
  osVolume :=
    if spec.osVolumeSizeGB > 0 then
      some {
        name := spec.hostname ++ "-os"
        size := spec.osVolumeSizeGB
        onSpotDiscontinue := spotPolicy spec }
    else none
  volumes := spec.dataVolumes.map fun dv => {
    name := spec.hostname ++ "-" ++ dv.name
    size := dv.sizeGB
    type := if dv.type = "" then Sdk.volumeTypeNVMe else dv.type
    onSpotDiscontinue := spotPolicy spec }
  tags := spec.tags.map fun e => ⟨e.1, e.2⟩

/-- The part of `CreateInstance` after its startup script exists. -/
def createWith (spec : InstanceSpec) (scriptID : Option String) :
    ClientM (Except Err Instance) := do
  let req := { createRequest spec with startupScriptID := scriptID }
  match ← request .createInstance (.instancesCreate req) with
  | .error e =>
    -- the script is dropped on a best effort: the outcome of this request is ignored
    if let some id := scriptID then
      let _ ← request .createInstance (.scriptsDelete id)
    return .error (.wrap ("creating instance " ++ spec.hostname) (.ofApi e))
  | .ok inst =>
    let out := toInstance inst
    if out.startupScriptID = "" then
      return .ok { out with startupScriptID := scriptID.getD "" }
    else return .ok out

/-- `CreateInstance`. -/
def createInstance (spec : InstanceSpec) : ClientM (Except Err Instance) := do
  match ← request .createInstance .instancesGet with
  | .error e => return .error (.wrap "listing instances" (.ofApi e))
  | .ok instances =>
    if let some existing := instances.find? (blocksHostname spec.hostname) then
      return .error (.wrap ("instance " ++ existing.id) errHostnameInUse)
    else
      match ← deleteStartupScriptByName spec.hostname with
      | .error e => return .error e
      | .ok _ =>
        if spec.startupScript = [] then createWith spec none
        else
          match ← request .createInstance (.scriptsAdd spec.hostname spec.startupScript) with
          | .error e =>
            return .error
              (.wrap ("creating startup script for " ++ spec.hostname) (.ofApi e))
          | .ok script => createWith spec (some script.id)

/-! ## Deleting an instance -/

/-- `instanceVolumeIDs`: the OS volume and the other volumes of an instance, each once. -/
def instanceVolumeIDs (inst : Sdk.Instance) : List String :=
  let add := fun (ids : List String) (id : String) =>
    if id ≠ "" ∧ id ∉ ids then ids ++ [id] else ids
  inst.volumeIDs.foldl add (inst.osVolumeID.elim [] (add []))

/-- The loop of `PurgeInstanceVolumes`. -/
def purgeVolumes (inTrash : List String) : Nat → List String → ClientM (Except Err Nat)
  | pending, [] => return .ok pending
  | pending, volID :: ids => do
    if volID ∈ inTrash then
      match ← request .purgeInstanceVolumes (.volumesDelete volID true) with
      | .error e =>
        if isNotFound e then purgeVolumes inTrash pending ids
        else return .error (.wrap ("purging volume " ++ volID) (.ofApi e))
      | .ok _ => purgeVolumes inTrash pending ids
    else
      match ← request .purgeInstanceVolumes (.volumesGet volID) with
      | .ok vol =>
        purgeVolumes inTrash (if vol.status ≠ volumeStatusDeleted then pending + 1 else pending)
          ids
      | .error e =>
        if isNotFound e then purgeVolumes inTrash pending ids
        else return .error (.wrap ("getting volume " ++ volID) (.ofApi e))

/-- `PurgeInstanceVolumes`: the number of volumes Verda has not released yet. -/
def purgeInstanceVolumes (id : String) : ClientM (Except Err Nat) := do
  match ← request .purgeInstanceVolumes (.instancesGetByID id) with
  | .error e =>
    if isNotFound e then return .ok 0
    else return .error (.wrap ("getting instance " ++ id) (.ofApi e))
  | .ok inst =>
    if !isManaged inst then
      return .error (.wrap ("instance " ++ id ++ " (" ++ inst.hostname ++ ")") errNotManaged)
    else
      match ← request .purgeInstanceVolumes .volumesInTrash with
      | .error e => return .error (.wrap "listing trashed volumes" (.ofApi e))
      | .ok trash => purgeVolumes (trash.map (·.id)) 0 (instanceVolumeIDs inst)

/-- `DeleteInstance`: shut down first, delete once offline, purge once gone. -/
def deleteInstance (id : String) : ClientM (Except Err Unit) := do
  match ← request .deleteInstance (.instancesGetByID id) with
  | .error e =>
    if isNotFound e then return .ok ()
    else return .error (.wrap ("getting instance " ++ id ++ " before delete") (.ofApi e))
  | .ok inst =>
    if !isManaged inst then
      return .error (.wrap ("instance " ++ id ++ " (" ++ inst.hostname ++ ")") errNotManaged)
    else if inst.status = statusDiscontinued ∨ inst.status = statusDeleted then
      match ← purgeInstanceVolumes id with
      | .error e => return .error e
      | .ok _ => return .ok ()
    else if inst.status = statusDeleting then return .ok ()
    else if inst.status = statusOffline then
      match ← request .deleteInstance (.instancesDelete [id] (instanceVolumeIDs inst) false) with
      | .error e =>
        if isNotFound e then return .ok ()
        else return .error (.wrap ("deleting instance " ++ id) (.ofApi e))
      | .ok _ => return .ok ()
    else
      match ← request .deleteInstance (.instancesShutdown id) with
      | .error e =>
        if isNotFound e then return .ok ()
        else return .error (.wrap ("shutting down instance " ++ id) (.ofApi e))
      | .ok _ => return .ok ()

/-! ## Volumes -/

/-- `GetVolume`. -/
def getVolume (id : String) : ClientM (Except Err Volume) := do
  match ← request .getVolume (.volumesGet id) with
  | .error e =>
    if isNotFound e then return .error errNotFound
    else return .error (.wrap ("getting volume " ++ id) (.ofApi e))
  | .ok vol => return .ok (toVolume vol)

/-- `FindVolumeByName`. -/
def findVolumeByName (name : String) : ClientM (Except Err Volume) := do
  match ← request .findVolumeByName .volumesList with
  | .error e => return .error (.wrap "listing volumes" (.ofApi e))
  | .ok volumes =>
    match volumes.find? fun v => v.name == name with
    | some v => return .ok (toVolume v)
    | none => return .error errNotFound

/-- `tagVolume`, on behalf of a method. -/
def tagVolume (m : Method) (id : String) : ClientM (Except Err Unit) := do
  match ← request m (.volumesAddTag id ⟨tagManagedBy, managedByValue⟩) with
  | .error e => if e.hasStatus 409 then return .ok () else return .error (.ofApi e)
  | .ok _ => return .ok ()

/-- `CloneVolume`. Whether the clone could be tagged is ignored. -/
def cloneVolume (sourceID name location : String) : ClientM (Except Err String) := do
  match ← request .cloneVolume (.volumesClone sourceID name location) with
  | .error e =>
    return .error (.wrap ("cloning volume " ++ sourceID ++ " as " ++ name) (.ofApi e))
  | .ok id =>
    let _ ← tagVolume .cloneVolume id
    return .ok id

/-- `EnsureVolumeTag`. -/
def ensureVolumeTag (id : String) : ClientM (Except Err Unit) := tagVolume .ensureVolumeTag id

/-- `DeleteVolume`. -/
def deleteVolume (id : String) : ClientM (Except Err Unit) := do
  match ← request .deleteVolume (.volumesGet id) with
  | .error e =>
    if isNotFound e then return .ok ()
    else return .error (.wrap ("getting volume " ++ id ++ " before delete") (.ofApi e))
  | .ok vol =>
    if !hasTag vol.tags tagManagedBy managedByValue then
      return .error (.wrap ("volume " ++ id ++ " (" ++ vol.name ++ ")") errNotManaged)
    else
      match ← request .deleteVolume (.volumesDelete id true) with
      | .error e =>
        if isNotFound e then return .ok ()
        else return .error (.wrap ("deleting volume " ++ id) (.ofApi e))
      | .ok _ => return .ok ()

end VerdaCapi.Cloud
