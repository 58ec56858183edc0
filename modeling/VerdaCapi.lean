import VerdaCapi.Bootstrap.Sections
import VerdaCapi.Bootstrap.Structure
import VerdaCapi.Ccm.Exposure
import VerdaCapi.Ccm.InstanceExists
import VerdaCapi.Ccm.Published
import VerdaCapi.Cloud.CredentialsFile
import VerdaCapi.Controller.Addresses
import VerdaCapi.Controller.ClusterRelease
import VerdaCapi.Controller.DeleteThrottle
import VerdaCapi.Controller.Endpoint
import VerdaCapi.Controller.HaproxyPush
import VerdaCapi.Controller.NoCapacity
import VerdaCapi.Controller.OSVolume
import VerdaCapi.Controller.OwnCleanup
import VerdaCapi.Controller.PinnedKeys
import VerdaCapi.Controller.ProviderID
import VerdaCapi.Controller.Provisioned
import VerdaCapi.Controller.Purge
import VerdaCapi.Controller.ServiceToggle
import VerdaCapi.Controller.Settled
import VerdaCapi.Controller.TagOwners
import VerdaCapi.Controller.VolumeOwnership
import VerdaCapi.LoadBalancer.EnvoyInstall
