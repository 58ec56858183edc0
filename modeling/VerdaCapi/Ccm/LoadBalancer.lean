import VerdaCapi.Ccm.Frontends
import VerdaCapi.Ccm.Provider
import VerdaCapi.Controller.Cluster

/-!
# The load balancer methods of the cloud controller manager

`serviceLB` of `internal/ccm/loadbalancer.go`. Every call that changes something lists all Services and
Nodes and replaces the whole configuration of the load balancer. `pushed_same`: which Service the call
is for, and in which order the API lists things, does not matter. Log lines are left out.
-/

namespace VerdaCapi.Ccm

open Remote Go Envoy Cloud Controller

/-! ## Requests -/

/-- The parts of `corev1.Node` that make it a backend. -/
structure BackendNode extends Node where
  labels : StrMap := []
  deletionTimestamp : Option Time := none
  addresses : List NodeAddress := []
deriving DecidableEq

/-- A port of a Service as it is in the configuration. -/
structure Exposure where
  service : String
  port : ServicePort
  frontend : Frontend
deriving DecidableEq

/-- What the frontends of `Frontends` stand for. -/
def exposures (S : SortFunc) (services : List Service) (nodes : List String) : List Exposure :=
  (exposed S services nodes).flatMap fun svc =>
    svc.ports.map fun p => { service := svc.key, port := p, frontend := frontendOf svc nodes p }

/-- Requests of the load balancer methods. An update of the files also says what they stand for: the
text tells the ports but, as names are shortened in it, not the Services. A listing of the Services says
what it is made for: the current Service and those to skip. -/
inductive LBCall where
  | getSecret (ns name : String)
  | listServices (current : Option Service) (deleting : List Service)
  | listNodes
  | updateFiles (addr : Bytes) (keys : Keys) (files : List File) (reload : String)
      (shown : List Exposure)
deriving DecidableEq

/-- The answers to a request. -/
def LBCall.Res : LBCall → Type
  | .getSecret _ _ => Except KubeErr Secret
  | .listServices _ _ => Except KubeErr (List Service)
  | .listNodes => Except KubeErr (List BackendNode)
  | .updateFiles _ _ _ _ _ => Except Err Unit

abbrev LBM (α : Type) := Prog LBCall LBCall.Res α

def getSecret (ns name : String) : LBM (Except KubeErr Secret) :=
  Prog.perform (LBCall.getSecret ns name)

def listServices (current : Option Service) (deleting : List Service) :
    LBM (Except KubeErr (List Service)) :=
  Prog.perform (LBCall.listServices current deleting)

def listNodes : LBM (Except KubeErr (List BackendNode)) := Prog.perform LBCall.listNodes

/-- `Updater.UpdateFiles`. -/
def updateFiles (addr : Bytes) (keys : Keys) (files : List File) (reload : String)
    (shown : List Exposure) : LBM (Except Err Unit) :=
  Prog.perform (LBCall.updateFiles addr keys files reload shown)

/-- What callers tell apart in an error. -/
inductive LBReason where
  | notFound | conflict | other
deriving DecidableEq

structure LBError where
  reason : LBReason
  msg : String
deriving DecidableEq

/-! ## The Secret of the load balancer -/

/-- `serviceLBSecretName`. -/
def serviceLBSecretName : String := "verda-service-lb"

/-- `lbConfig`. -/
structure LBConfig where
  address : Bytes
  keys : Keys
deriving DecidableEq

/-- What `config` takes from the Secret, if it is complete. -/
def configOf (secret : Secret) : Option LBConfig :=
  let address := secret.value "address"
  if address = [] ∨ secret.value "ssh-privatekey" = [] ∨ secret.value "host-publickey" = [] then none
  else
    some
      { address
        keys :=
          { clientPrivateKey := secret.value "ssh-privatekey"
            clientPublicKey := []
            hostPrivateKey := []
            hostPublicKey := secret.value "host-publickey" } }

/-- `config`. -/
def config : LBM (Except LBError LBConfig) := do
  match ← getSecret "kube-system" serviceLBSecretName with
  | .error e =>
    if e.reason = .notFound then
      return .error ⟨.notFound, "secrets " ++ quote (serviceLBSecretName ++
        " (enable spec.serviceLoadBalancer on the VerdaCluster to get a load balancer)") ++
        " not found"⟩
    else return .error ⟨.other, "reading kube-system/" ++ serviceLBSecretName ++ ": " ++ e.msg⟩
  | .ok secret =>
    match configOf secret with
    | none => return .error ⟨.other, "secret kube-system/" ++ serviceLBSecretName ++ " is incomplete"⟩
    | some lb => return .ok lb

/-! ## Backends -/

/-- `excludeFromLBLabel`. -/
def excludeFromLBLabel : String := "node.kubernetes.io/exclude-from-external-load-balancers"

/-- `nodeAddress`. -/
def nodeAddress (node : BackendNode) : String :=
  let addressOf (t : NodeAddressType) :=
    node.addresses.find? fun a => decide (a.type = t ∧ a.address ≠ "")
  match addressOf .internalIP with
  | some a => a.address
  | none =>
    match addressOf .externalIP with
    | some a => a.address
    | none => ""

/-- The address under which a node is a backend, if it is one. -/
def backendAddress (node : BackendNode) : Option String :=
  if (node.labels.lookup excludeFromLBLabel).isSome then none
  else if node.deletionTimestamp.isSome then none
  else if nodeAddress node ≠ "" then some (nodeAddress node)
  else none

/-- `backendNodes`. -/
def backendNodes (S : SortFunc) : LBM (Except LBError (List String)) := do
  match ← listNodes with
  | .error e => return .error ⟨.other, "listing nodes: " ++ e.msg⟩
  | .ok nodes => return .ok (S.sort compare (nodes.filterMap backendAddress))

/-! ## The methods -/

/-- A Service that has to be on the load balancer. -/
def Service.Wanted (svc : Service) : Prop := svc.type = .loadBalancer ∧ svc.deletionTimestamp = none

instance : DecidablePred Service.Wanted := fun svc =>
  inferInstanceAs (Decidable (svc.type = .loadBalancer ∧ svc.deletionTimestamp = none))

/-- The Services that `sync` exposes: those listed, without those it is told to skip, and the current
one as it was handed over. -/
def syncServices (services : List Service) (current : Option Service) (deleting : List Service) :
    List Service :=
  services.filter (fun svc => decide svc.Wanted && !(deleting.map Service.key).contains svc.key &&
    !current.any fun c => decide (svc.ns = c.ns ∧ svc.name = c.name)) ++ current.toList

/-- The end of `sync`: expose the Services, unless the current one is in conflict. -/
def publish (S : SortFunc) (lb : LBConfig) (current : Option Service) (all : List Service)
    (nodes : List String) : LBM (Except LBError Unit) := do
  let (fs, conflicts) := frontends S all nodes
  match current.bind fun c => conflicts.lookup c.key with
  | some reason =>
    let key := (current.map Service.key).getD ""
    return .error ⟨.conflict, "service " ++ key ++ ": " ++ reason⟩
  | none =>
    match ← updateFiles lb.address lb.keys (envoyFiles S fs) "" (exposures S all nodes) with
    | .error e => return .error ⟨.other, e.msg⟩
    | .ok _ => return .ok ()

/-- `sync`. -/
def sync (S : SortFunc) (lb : LBConfig) (current : Option Service) (deleting : List Service) :
    LBM (Except LBError Unit) := do
  match ← listServices current deleting with
  | .error e => return .error ⟨.other, "listing services: " ++ e.msg⟩
  | .ok services =>
    match ← backendNodes S with
    | .error e => return .error e
    | .ok nodes => publish S lb current (syncServices services current deleting) nodes

/-- `status`, of which only the addresses are used. -/
def status (address : Bytes) : List Bytes := [address]

/-- `GetLoadBalancer`: the status, if the load balancer exists for the Service. -/
def getLoadBalancer (service : Service) : LBM (Except LBError (Option (List Bytes))) := do
  match ← config with
  | .error e => if e.reason = .notFound then return .ok none else return .error e
  | .ok lb =>
    if service.ingress.length = 0 then return .ok none
    else return .ok (some (status lb.address))

/-- `EnsureLoadBalancer`. -/
def ensureLoadBalancer (S : SortFunc) (service : Service) : LBM (Except LBError (List Bytes)) := do
  match ← config with
  | .error e => return .error e
  | .ok lb =>
    match ← sync S lb (some service) [] with
    | .error e => return .error e
    | .ok _ => return .ok (status lb.address)

/-- `UpdateLoadBalancer`. -/
def updateLoadBalancer (S : SortFunc) (service : Service) : LBM (Except LBError Unit) := do
  match ← config with
  | .error e => return .error e
  | .ok lb => sync S lb (some service) []

/-- `EnsureLoadBalancerDeleted`. -/
def ensureLoadBalancerDeleted (S : SortFunc) (service : Service) : LBM (Except LBError Unit) := do
  match ← config with
  | .error e => if e.reason = .notFound then return .ok () else return .error e
  | .ok lb => sync S lb none [service]

/-! ## The configuration is a function of the cluster -/

section

variable {S S' : SortFunc} {services services' : List Service} {nodes : List String}

/-- `Frontends` does not depend on the order of the Services. -/
theorem frontends_of_perm (hkeys : (services.map Service.key).Nodup)
    (hperm : services'.Perm services) : frontends S services nodes = frontends S' services' nodes := by
  have hsort : S.sort compareService services = S'.sort compareService services' := by
    refine S.sort_eq_of_perm S' (fun a ha b hb heq => ?_) hperm
    exact List.inj_on_of_nodup_map hkeys ha hb (key_eq_of_compareService heq)
  rw [frontends, frontends, hsort]

/-- Different nodes may have one address, but then they make the same backend. -/
theorem renderable_frontends (hkeys : (services.map Service.key).Nodup)
    (hports : ∀ svc ∈ services, svc.wants.Nodup) : Renderable (frontends S services nodes).1 := by
  refine ⟨nodup_names_frontends hkeys hports, fun f hf a ha b hb heq => ?_⟩
  rcases exists_of_mem_frontends hkeys hf with ⟨svc, -, p, -, -, rfl⟩
  rcases List.mem_map.1 ha with ⟨n, -, rfl⟩
  rcases List.mem_map.1 hb with ⟨m, -, rfl⟩
  have haddr : n = m := by simpa [compareOn] using heq
  rw [haddr]

theorem sort_addresses_of_perm {l l' : List String} (hperm : l'.Perm l) :
    S.sort compare l = S'.sort compare l' :=
  S.sort_eq_of_perm S' (fun _ _ _ _ heq => compare_eq_iff_eq.1 heq) hperm

/-- With the current Service at the end the list has the same Services. -/
theorem syncServices_perm {svc : Service} (hkeys : (services.map Service.key).Nodup)
    (hsvc : svc ∈ services) (hwanted : svc.Wanted) (hperm : services'.Perm services) :
    (syncServices services' (some svc) []).Perm (services.filter fun s => decide s.Wanted) := by
  have hmem : svc ∈ services.filter fun s => decide s.Wanted := by
    simp [hsvc, hwanted]
  have hnodup : (services.filter fun s => decide s.Wanted).Nodup := hkeys.of_map.filter _
  have hfilter : services'.filter (fun s => decide s.Wanted && !([].map Service.key).contains s.key &&
      !(some svc).any fun c => decide (s.ns = c.ns ∧ s.name = c.name)) =
      (services'.filter fun s => decide s.Wanted).filter (· != svc) := by
    rw [List.filter_filter]
    refine List.filter_congr fun s hs => ?_
    have hsame : (s.ns = svc.ns ∧ s.name = svc.name) ↔ s = svc := by
      constructor
      · rintro ⟨hns, hname⟩
        refine List.inj_on_of_nodup_map hkeys (hperm.mem_iff.1 hs) hsvc ?_
        rw [Service.key, Service.key, hns, hname]
      · rintro rfl
        exact ⟨rfl, rfl⟩
    simp only [Option.any_some, decide_eq_decide.2 hsame]
    simp [bne, beq_eq_decide, Bool.and_comm]
  rw [syncServices, hfilter]
  refine (List.perm_append_singleton svc _).trans ?_
  refine List.Perm.trans ?_ (List.perm_cons_erase hmem).symm
  rw [List.Nodup.erase_eq_filter hnodup]
  exact .cons svc ((hperm.filter _).filter _)

end

/-- What the API server has. -/
structure ApiState where
  secret : Secret
  services : List Service
  nodes : List BackendNode
  nodup : (services.map Service.key).Nodup
  ports : ∀ svc ∈ services, (svc.ports.map ServicePort.slot).Nodup

namespace ApiState

variable (api : ApiState)

/-- The Services of type LoadBalancer that are not being deleted. -/
def wanted : List Service := api.services.filter fun svc => decide svc.Wanted

def addresses : List String := insertion.sort compare (api.nodes.filterMap backendAddress)

/-- The files for this state. -/
def files : List File := envoyFiles insertion (frontends insertion api.wanted api.addresses).1

/-- The request is answered from this state. Lists come in any order, and an update may fail. -/
def Answers : (Σ o : LBCall, o.Res) → Prop
  | ⟨.getSecret _ _, x⟩ => x = .ok api.secret
  | ⟨.listServices _ _, x⟩ => ∃ l, x = .ok l ∧ l.Perm api.services
  | ⟨.listNodes, x⟩ => ∃ l, x = .ok l ∧ l.Perm api.nodes
  | ⟨.updateFiles _ _ _ _ _, _⟩ => True

/-- The answers if everything is listed in its order and nothing fails. -/
def view : (o : LBCall) → o.Res
  | .getSecret _ _ => .ok api.secret
  | .listServices _ _ => .ok api.services
  | .listNodes => .ok api.nodes
  | .updateFiles _ _ _ _ _ => .ok ()

theorem answers_view (o : LBCall) : api.Answers ⟨o, api.view o⟩ := by
  cases o with
  | getSecret ns name => exact rfl
  | listServices current deleting => exact ⟨_, rfl, .refl _⟩
  | listNodes => exact ⟨_, rfl, .refl _⟩
  | updateFiles addr keys files reload shown => trivial

theorem nodup_wanted : (api.wanted.map Service.key).Nodup :=
  api.nodup.sublist (List.filter_sublist.map _)

theorem ports_wanted : ∀ svc ∈ api.wanted, svc.wants.Nodup :=
  fun svc hsvc => api.ports svc (List.mem_of_mem_filter hsvc)

end ApiState

/-- The files that were pushed. -/
def pushes (tr : List (Σ o : LBCall, o.Res)) : List (List File) :=
  tr.filterMap fun e => match e.1 with
    | .updateFiles _ _ files _ _ => some files
    | _ => none

section

variable {S : SortFunc} {api : ApiState} {svc : Service} {tr : List (Σ o : LBCall, o.Res)}

theorem runs_getSecret {ns name : String} {r : Except KubeErr Secret}
    (h : (getSecret ns name).Runs tr r) (hans : ∀ e ∈ tr, api.Answers e) :
    r = .ok api.secret ∧ pushes tr = [] := by
  rcases Prog.runs_call_iff.1 h with ⟨x, tr', rfl, hret⟩
  obtain ⟨rfl, rfl⟩ := Prog.runs_ret_iff.1 hret
  exact ⟨hans _ List.mem_cons_self, rfl⟩

theorem runs_listServices {current : Option Service} {deleting : List Service}
    {r : Except KubeErr (List Service)} (h : (listServices current deleting).Runs tr r)
    (hans : ∀ e ∈ tr, api.Answers e) : (∃ l, r = .ok l ∧ l.Perm api.services) ∧ pushes tr = [] := by
  rcases Prog.runs_call_iff.1 h with ⟨x, tr', rfl, hret⟩
  obtain ⟨rfl, rfl⟩ := Prog.runs_ret_iff.1 hret
  exact ⟨hans _ List.mem_cons_self, rfl⟩

theorem runs_listNodes {r : Except KubeErr (List BackendNode)} (h : listNodes.Runs tr r)
    (hans : ∀ e ∈ tr, api.Answers e) : (∃ l, r = .ok l ∧ l.Perm api.nodes) ∧ pushes tr = [] := by
  rcases Prog.runs_call_iff.1 h with ⟨x, tr', rfl, hret⟩
  obtain ⟨rfl, rfl⟩ := Prog.runs_ret_iff.1 hret
  exact ⟨hans _ List.mem_cons_self, rfl⟩

theorem pushes_updateFiles {addr : Bytes} {keys : Keys} {files : List File} {reload : String}
    {shown : List Exposure} {r : Except Err Unit}
    (h : (updateFiles addr keys files reload shown).Runs tr r) : pushes tr = [files] := by
  rcases Prog.runs_call_iff.1 h with ⟨x, tr', rfl, hret⟩
  obtain ⟨rfl, -⟩ := Prog.runs_ret_iff.1 hret
  rfl

@[simp]
theorem pushes_append (tr tr' : List (Σ o : LBCall, o.Res)) :
    pushes (tr ++ tr') = pushes tr ++ pushes tr' :=
  List.filterMap_append

/-- After the last request there is nothing left to push. -/
theorem pushes_ret {α : Type} {a r : α} (h : (pure a : LBM α).Runs tr r) : pushes tr = [] := by
  rw [(Prog.runs_ret_iff.1 h).1]
  rfl

theorem runs_config {r : Except LBError LBConfig} (h : config.Runs tr r)
    (hans : ∀ e ∈ tr, api.Answers e) {lb : LBConfig} (hlb : configOf api.secret = some lb) :
    r = .ok lb ∧ pushes tr = [] := by
  rcases Prog.runs_bind_iff.1 h with ⟨tr₁, x, tr₂, rfl, hsecret, h⟩
  obtain ⟨rfl, hnone⟩ := runs_getSecret hsecret fun e he => hans e (List.mem_append_left _ he)
  simp only [hlb] at h
  rw [pushes_append, hnone, pushes_ret h]
  exact ⟨(Prog.runs_ret_iff.1 h).2, rfl⟩

theorem runs_backendNodes {r : Except LBError (List String)} (h : (backendNodes S).Runs tr r)
    (hans : ∀ e ∈ tr, api.Answers e) : r = .ok api.addresses ∧ pushes tr = [] := by
  rcases Prog.runs_bind_iff.1 h with ⟨tr₁, x, tr₂, rfl, hlist, h⟩
  obtain ⟨⟨l, rfl, hperm⟩, hnone⟩ :=
    runs_listNodes hlist fun e he => hans e (List.mem_append_left _ he)
  rw [pushes_append, hnone, pushes_ret h]
  refine ⟨?_, rfl⟩
  rw [(Prog.runs_ret_iff.1 h).2, ApiState.addresses,
    sort_addresses_of_perm (hperm.symm.filterMap backendAddress)]

/-- A sync for a Service without conflict pushes the files for the state. -/
theorem pushes_sync {lb : LBConfig} {r : Except LBError Unit} (hsvc : svc ∈ api.services)
    (hwanted : svc.Wanted)
    (hfree : (frontends insertion api.wanted api.addresses).2.lookup svc.key = none)
    (h : (sync S lb (some svc) []).Runs tr r) (hans : ∀ e ∈ tr, api.Answers e) :
    pushes tr = [api.files] := by
  rcases Prog.runs_bind_iff.1 h with ⟨tr₁, x, tr₂, rfl, hlist, h⟩
  rw [List.forall_mem_append] at hans
  obtain ⟨⟨l, rfl, hperm⟩, hnone⟩ := runs_listServices hlist hans.1
  rcases Prog.runs_bind_iff.1 h with ⟨tr₃, nodes, tr₄, rfl, hnodes, h⟩
  rw [List.forall_mem_append] at hans
  obtain ⟨rfl, hnone'⟩ := runs_backendNodes hnodes hans.2.1
  have hfs : frontends S (syncServices l (some svc) []) api.addresses =
      frontends insertion api.wanted api.addresses :=
    (frontends_of_perm api.nodup_wanted (syncServices_perm api.nodup hsvc hwanted hperm)).symm
  simp only [publish, hfs, Option.bind_some, hfree] at h
  rcases Prog.runs_bind_iff.1 h with ⟨tr₅, y, tr₆, rfl, hupdate, h⟩
  have hend : pushes tr₆ = [] := by
    cases y with
    | error e => exact pushes_ret h
    | ok u => exact pushes_ret h
  have hfiles : envoyFiles S (frontends insertion api.wanted api.addresses).1 = api.files :=
    envoyFiles_canonical S insertion
      (renderable_frontends api.nodup_wanted api.ports_wanted) (.refl _)
  simp [hnone, hnone', hend, pushes_updateFiles hupdate, hfiles]

/-- The requests and answers of a call that has to expose the Service. -/
def Triggered (S : SortFunc) (svc : Service) (tr : List (Σ o : LBCall, o.Res)) : Prop :=
  (∃ r, (ensureLoadBalancer S svc).Runs tr r) ∨ ∃ r, (updateLoadBalancer S svc).Runs tr r

theorem pushes_triggered (hsvc : svc ∈ api.services) (hwanted : svc.Wanted)
    (hfree : (frontends insertion api.wanted api.addresses).2.lookup svc.key = none)
    (hlb : configOf api.secret ≠ none) (h : Triggered S svc tr) (hans : ∀ e ∈ tr, api.Answers e) :
    pushes tr = [api.files] := by
  rcases Option.ne_none_iff_exists'.1 hlb with ⟨lb, hlb⟩
  rcases h with ⟨r, h⟩ | ⟨r, h⟩
  · rcases Prog.runs_bind_iff.1 h with ⟨tr₁, c, tr₂, rfl, hconfig, h⟩
    rw [List.forall_mem_append] at hans
    obtain ⟨rfl, hnone⟩ := runs_config hconfig hans.1 hlb
    rcases Prog.runs_bind_iff.1 h with ⟨tr₃, u, tr₄, rfl, hsync, h⟩
    rw [List.forall_mem_append] at hans
    have hend : pushes tr₄ = [] := by
      cases u with
      | error e => exact pushes_ret h
      | ok u => exact pushes_ret h
    simp [hnone, hend, pushes_sync hsvc hwanted hfree hsync hans.2.1]
  · rcases Prog.runs_bind_iff.1 h with ⟨tr₁, c, tr₂, rfl, hconfig, h⟩
    rw [List.forall_mem_append] at hans
    obtain ⟨rfl, hnone⟩ := runs_config hconfig hans.1 hlb
    simp [hnone, pushes_sync hsvc hwanted hfree h hans.2]

end

/-- **Who triggers a sync does not matter**: calls for any two Services without a conflict push the
same files, in whatever order the Services and Nodes are listed. -/
theorem pushed_same (S S' : SortFunc) (api : ApiState) (hlb : configOf api.secret ≠ none)
    {svc svc' : Service} (hsvc : svc ∈ api.services) (hsvc' : svc' ∈ api.services)
    (hwanted : svc.Wanted) (hwanted' : svc'.Wanted)
    (hfree : (frontends insertion api.wanted api.addresses).2.lookup svc.key = none)
    (hfree' : (frontends insertion api.wanted api.addresses).2.lookup svc'.key = none)
    {tr tr' : List (Σ o : LBCall, o.Res)} (h : Triggered S svc tr) (h' : Triggered S' svc' tr')
    (hans : ∀ e ∈ tr, api.Answers e) (hans' : ∀ e ∈ tr', api.Answers e) :
    ∃ files, pushes tr = [files] ∧ pushes tr' = [files] :=
  ⟨api.files, pushes_triggered hsvc hwanted hfree hlb h hans,
    pushes_triggered hsvc' hwanted' hfree' hlb h' hans'⟩

def lbSecret : Secret where
  ns := "kube-system"
  name := serviceLBSecretName
  data := [("address", [49]), ("ssh-privatekey", [1]), ("host-publickey", [2])]

def sampleApi : ApiState where
  secret := lbSecret
  services := sampleServices
  nodes := [{ name := "n2", addresses := [⟨.externalIP, "203.0.113.7"⟩, ⟨.internalIP, "10.0.0.2"⟩] },
    { name := "n1", addresses := [⟨.internalIP, "10.0.0.1"⟩] }]
  nodup := by decide
  ports := by decide

/-- The calls for two of the Services push the same files. -/
theorem pushed_same_sample : ∃ files,
    pushes ((ensureLoadBalancer insertion apiService).traceOf sampleApi.view) = [files] ∧
    pushes ((updateLoadBalancer insertion dnsService).traceOf sampleApi.view) = [files] :=
  pushed_same insertion insertion sampleApi (by decide) (by decide) (by decide) (by decide) (by decide)
    (by decide) (by decide)
    (.inl ⟨_, Prog.runs_traceOf _ _⟩) (.inr ⟨_, Prog.runs_traceOf _ _⟩)
    (Prog.forall_mem_traceOf sampleApi.answers_view _)
    (Prog.forall_mem_traceOf sampleApi.answers_view _)

end VerdaCapi.Ccm
