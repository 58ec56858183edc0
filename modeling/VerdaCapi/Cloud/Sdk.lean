import VerdaCapi.Remote.Prog
import VerdaCapi.Go.Text

/-!
# The Verda SDK as the provider sees it

`internal/cloud/client.go` is a thin layer over the SDK. This module fixes the SDK's surface: its
records (the fields the provider reads or sets), the requests it can make, what each answers, and the
errors. How an account reacts to a request is in `VerdaCapi.Cloud.Account`.
-/

namespace VerdaCapi.Sdk

/-- `verda.Tag` and `verda.TagRequest`. -/
structure Tag where
  key : String
  value : String
deriving DecidableEq

/-- `verda.Instance`. -/
structure Instance where
  id : String
  hostname : String
  status : String
  ip : Option String := none
  location : String := ""
  instanceType : String := ""
  startupScriptID : Option String := none
  osVolumeID : Option String := none
  volumeIDs : List String := []
  tags : List Tag := []
deriving DecidableEq, Inhabited

/-- `verda.Volume`. -/
structure Volume where
  id : String
  name : String
  status : String
  location : String := ""
  isOSVolume : Bool := false
  instanceID : Option String := none
  tags : List Tag := []
deriving DecidableEq

/-- `verda.StartupScript`. -/
structure StartupScript where
  id : String
  name : String
  script : Go.Bytes := []
deriving DecidableEq

/-- `verda.OSVolumeCreateRequest`. -/
structure OSVolumeCreateRequest where
  name : String
  size : Int
  onSpotDiscontinue : String
deriving DecidableEq

/-- `verda.VolumeCreateRequest`. -/
structure VolumeCreateRequest where
  name : String
  size : Int
  type : String
  onSpotDiscontinue : String
deriving DecidableEq

/-- `verda.CreateInstanceRequest`. -/
structure CreateInstanceRequest where
  instanceType : String
  image : String
  hostname : String
  description : String
  sshKeyIDs : List String
  locationCode : String
  contract : String
  isSpot : Bool
  osVolume : Option OSVolumeCreateRequest := none
  volumes : List VolumeCreateRequest := []
  tags : List Tag := []
  startupScriptID : Option String := none
deriving DecidableEq

/-- `verda.VolumeTypeNVMe`. -/
def volumeTypeNVMe : String := "NVMe"

/-- `verda.SpotDiscontinueDeletePermanent`. -/
def spotDiscontinueDeletePermanent : String := "delete_permanently"

/-- The SDK's requests. -/
inductive Op where
  | instancesGet
  | instancesGetByID (id : String)
  | instancesCreate (req : CreateInstanceRequest)
  | instancesShutdown (id : String)
  | instancesDelete (ids volumeIDs : List String) (permanent : Bool)
  | volumesList
  | volumesGet (id : String)
  | volumesInTrash
  | volumesClone (sourceID name location : String)
  | volumesAddTag (id : String) (tag : Tag)
  | volumesDelete (id : String) (permanent : Bool)
  | scriptsGetAll
  | scriptsAdd (name : String) (script : Go.Bytes)
  | scriptsDelete (id : String)
deriving DecidableEq

/-- What a request answers when it succeeds. -/
@[reducible]
def Ans : Op → Type
  | .instancesGet => List Instance
  | .instancesGetByID _ => Instance
  | .instancesCreate _ => Instance
  | .instancesShutdown _ => Unit
  | .instancesDelete _ _ _ => Unit
  | .volumesList => List Volume
  | .volumesGet _ => Volume
  | .volumesInTrash => List Volume
  | .volumesClone _ _ _ => String
  | .volumesAddTag _ _ => Unit
  | .volumesDelete _ _ => Unit
  | .scriptsGetAll => List StartupScript
  | .scriptsAdd _ _ => StartupScript
  | .scriptsDelete _ => Unit

/-- An error of the SDK: an `APIError` with its HTTP status, or anything else (a timeout, say). -/
inductive ApiErr where
  | api (statusCode : Nat) (message : String)
  | other (message : String)
deriving DecidableEq

/-- The error carries the given HTTP status. -/
def ApiErr.hasStatus (code : Nat) : ApiErr → Bool
  | .api c _ => c == code
  | .other _ => false

end VerdaCapi.Sdk
