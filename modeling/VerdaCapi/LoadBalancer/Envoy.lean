import VerdaCapi.Go.Sort
import VerdaCapi.Go.Text

/-!
# The envoy configuration of the service load balancer

Reference: `internal/loadbalancer/envoy.go` and its templates `envoy-cds.yaml.tmpl` and
`envoy-lds.yaml.tmpl`. Frontends are sorted by name and their backends by address, and each is rendered
as a cluster and a listener. `envoyFiles_canonical` says when the files do not depend on the order in
which the frontends came, or on the sort.
-/

namespace VerdaCapi.Envoy

open Go

/-- `Backend`. -/
structure Backend where
  address : String
  port : Int
deriving DecidableEq

/-- `Frontend`. -/
structure Frontend where
  name : String
  protocol : String
  port : Int
  backends : List Backend := []
  healthCheckPort : Int := 0
  proxyProtocol : Bool := false
deriving DecidableEq

/-- `frontendView`. -/
structure FrontendView extends Frontend where
  udp : Bool

/-- `File`. -/
structure File where
  path : String
  content : String
deriving DecidableEq

def envoyDir : String := "/etc/envoy"
def envoyLDSPath : String := envoyDir ++ "/lds.yaml"
def envoyCDSPath : String := envoyDir ++ "/cds.yaml"

/-! ## The templates -/

/-- Both templates: the head, and the lines of every resource. -/
def renderResources (resource : FrontendView → List String) (views : List FrontendView) : String :=
  "# Managed by cluster-api-provider-verda. Do not edit.\nresources:" ++
    String.join ((views.flatMap resource).map ("\n" ++ ·)) ++ "\n"

/-- `envoy-cds.yaml.tmpl`, for one frontend. -/
def clusterLines (v : FrontendView) : List String :=
  ["- \"@type\": type.googleapis.com/envoy.config.cluster.v3.Cluster",
    "  name: " ++ v.name,
    "  type: STATIC",
    "  connect_timeout: 5s",
    "  lb_policy: ROUND_ROBIN",
    "  load_assignment:",
    "    cluster_name: " ++ v.name,
    "    endpoints:",
    "    - lb_endpoints:"] ++
  (if v.backends.isEmpty then ["      []"]
    else v.backends.flatMap fun b =>
      ["      - endpoint:",
        "          address:",
        "            socket_address: \x7baddress: " ++ b.address ++ ", port_value: " ++ toString b.port ++
          "\x7d"]) ++
  (if v.healthCheckPort > 0 || !v.udp then
    ["  health_checks:",
      "  - timeout: 2s",
      "    interval: 5s",
      "    no_traffic_interval: 5s",
      "    unhealthy_threshold: 3",
      "    healthy_threshold: 2"] ++
    (if v.healthCheckPort > 0 then
      ["    alt_port: " ++ toString v.healthCheckPort,
        "    http_health_check: \x7bpath: /healthz\x7d"]
    else ["    tcp_health_check: \x7b\x7d"])
  else []) ++
  (if v.proxyProtocol && !v.udp then
    ["  transport_socket:",
      "    name: envoy.transport_sockets.upstream_proxy_protocol",
      "    typed_config:",
      "      \"@type\": type.googleapis.com/envoy.extensions.transport_sockets.proxy_protocol.v3." ++
        "ProxyProtocolUpstreamTransport",
      "      config: \x7bversion: V2\x7d",
      "      transport_socket:",
      "        name: envoy.transport_sockets.raw_buffer",
      "        typed_config:",
      "          \"@type\": type.googleapis.com/envoy.extensions.transport_sockets.raw_buffer.v3.RawBuffer"]
  else [])

/-- `envoy-lds.yaml.tmpl`, for one frontend. -/
def listenerLines (v : FrontendView) : List String :=
  ["- \"@type\": type.googleapis.com/envoy.config.listener.v3.Listener",
    "  name: " ++ v.name] ++
  (if v.udp then
    ["  address:",
      "    socket_address: \x7bprotocol: UDP, address: 0.0.0.0, port_value: " ++ toString v.port ++ "\x7d",
      "  listener_filters:",
      "  - name: envoy.filters.udp_listener.udp_proxy",
      "    typed_config:",
      "      \"@type\": type.googleapis.com/envoy.extensions.filters.udp.udp_proxy.v3.UdpProxyConfig",
      "      stat_prefix: " ++ v.name,
      "      matcher:",
      "        on_no_match:",
      "          action:",
      "            name: route",
      "            typed_config:",
      "              \"@type\": type.googleapis.com/envoy.extensions.filters.udp.udp_proxy.v3.Route",
      "              cluster: " ++ v.name]
  else
    ["  address:",
      "    socket_address: \x7baddress: 0.0.0.0, port_value: " ++ toString v.port ++ "\x7d",
      "  filter_chains:",
      "  - filters:",
      "    - name: envoy.filters.network.tcp_proxy",
      "      typed_config:",
      "        \"@type\": type.googleapis.com/envoy.extensions.filters.network.tcp_proxy.v3.TcpProxy",
      "        stat_prefix: " ++ v.name,
      "        cluster: " ++ v.name])

/-! ## Rendering -/

/-- A frontend as the templates get it. -/
def viewOf (S : SortFunc) (f : Frontend) : FrontendView where
  toFrontend := { f with backends := S.sort (compareOn Backend.address) f.backends }
  udp := equalFold f.protocol "UDP"

/-- `EnvoyResources`: the listeners and the clusters. -/
def envoyResources (S : SortFunc) (frontends : List Frontend) : String × String :=
  let views := (S.sort (compareOn Frontend.name) frontends).map (viewOf S)
  (renderResources listenerLines views, renderResources clusterLines views)

/-- `EnvoyFiles`. -/
def envoyFiles (S : SortFunc) (frontends : List Frontend) : List File :=
  let (lds, cds) := envoyResources S frontends
  [{ path := envoyCDSPath, content := cds }, { path := envoyLDSPath, content := lds }]

/-! ## The files do not depend on the sort -/

/-- Frontends that have names of their own, with backends that have one address only if they are the
same. -/
structure Renderable (frontends : List Frontend) : Prop where
  names : (frontends.map Frontend.name).Nodup
  backends : ∀ f ∈ frontends, Distinguishes (compareOn Backend.address) f.backends

theorem distinguishes_name {frontends : List Frontend} (h : (frontends.map Frontend.name).Nodup) :
    Distinguishes (compareOn Frontend.name) frontends := by
  intro f hf g hg heq
  refine List.inj_on_of_nodup_map h hf hg ?_
  simpa [compareOn] using heq

theorem envoyFiles_canonical (S S' : SortFunc) {frontends frontends' : List Frontend}
    (h : Renderable frontends) (hperm : frontends'.Perm frontends) :
    envoyFiles S frontends = envoyFiles S' frontends' := by
  have hsort : S.sort (compareOn Frontend.name) frontends = S'.sort (compareOn Frontend.name) frontends' :=
    S.sort_eq_of_perm S' (distinguishes_name h.names) hperm
  have hviews : (S.sort (compareOn Frontend.name) frontends).map (viewOf S) =
      (S'.sort (compareOn Frontend.name) frontends').map (viewOf S') := by
    rw [← hsort]
    refine List.map_congr_left fun f hf => ?_
    have hbackends := S.sort_eq_of_perm S' (h.backends f (S.mem_sort.1 hf)) (.refl _)
    simp [viewOf, hbackends]
  simp only [envoyFiles, envoyResources, hviews]

end VerdaCapi.Envoy
