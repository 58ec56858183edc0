import VerdaCapi.Controller.MachineFootprint

/-!
# What the VerdaCluster reconciler changes

For each part of the reconciler: how the object it returns differs from the one it was given, whatever
it is answered, and which of its requests go to Verda. The two load balancers are recorded and settled
alike, so most statements are about one of them (`LoadBalancer`).
-/

namespace VerdaCapi.Controller

open Remote Go Api Cloud

variable {α : Type} {vc vc' vc'' : VerdaCluster} {lb : LoadBalancer} {inst : Instance}

/-! ## How an object may change -/

/-- What is recorded of a load balancer. -/
def lbStatus (vc : VerdaCluster) : LoadBalancer → LoadBalancerStatus
  | .controlPlane => vc.status.loadBalancer
  | .service => vc.status.serviceLoadBalancer

/-- Whose object it is, whether it is being deleted, and the spec but for the endpoint. -/
structure SameCluster (vc vc' : VerdaCluster) : Prop where
  ns : vc'.metadata.ns = vc.metadata.ns
  name : vc'.metadata.name = vc.metadata.name
  deletionTimestamp : vc'.metadata.deletionTimestamp = vc.metadata.deletionTimestamp
  spec : ∃ endpoint, vc'.spec = { vc.spec with controlPlaneEndpoint := endpoint }

theorem SameCluster.refl (vc : VerdaCluster) : SameCluster vc vc := ⟨rfl, rfl, rfl, _, rfl⟩

theorem SameCluster.trans (h : SameCluster vc vc') (h' : SameCluster vc' vc'') :
    SameCluster vc vc'' := by
  obtain ⟨_, hspec⟩ := h.spec
  obtain ⟨_, hspec'⟩ := h'.spec
  exact ⟨h'.ns.trans h.ns, h'.name.trans h.name, h'.deletionTimestamp.trans h.deletionTimestamp,
    _, by rw [hspec', hspec]⟩

/-- The tag under which the load balancers are looked up names the object, so it does not change. -/
theorem SameCluster.tag (h : SameCluster vc vc') : clusterTagValue vc' = clusterTagValue vc := by
  rw [clusterTagValue, clusterTagValue, h.ns, h.name]

/-- Whether there is to be a service load balancer is part of the spec. -/
theorem SameCluster.serviceEnabled (h : SameCluster vc vc') :
    vc'.serviceLoadBalancerEnabled = vc.serviceLoadBalancerEnabled := by
  obtain ⟨_, hspec⟩ := h.spec
  simp [VerdaCluster.serviceLoadBalancerEnabled, hspec]

theorem SameCluster.loadBalancerEnabled (h : SameCluster vc vc') :
    vc'.loadBalancerEnabled = vc.loadBalancerEnabled := by
  obtain ⟨_, hspec⟩ := h.spec
  simp [VerdaCluster.loadBalancerEnabled, hspec]

/-- Only conditions differ. -/
def Reconditions (vc vc' : VerdaCluster) : Prop :=
  ∃ conditions, vc' = { vc with status := { vc.status with conditions := conditions } }

theorem Reconditions.refl (vc : VerdaCluster) : Reconditions vc vc := ⟨_, rfl⟩

theorem Reconditions.trans (h : Reconditions vc vc')
    (h' : Reconditions vc' vc'') : Reconditions vc vc'' := by
  obtain ⟨_, rfl⟩ := h
  obtain ⟨conditions, rfl⟩ := h'
  exact ⟨conditions, rfl⟩

/-- Conditions are not what `SameCluster` looks at. -/
theorem Reconditions.same (h : Reconditions vc vc') : SameCluster vc vc' := by
  obtain ⟨_, rfl⟩ := h
  exact ⟨rfl, rfl, rfl, _, rfl⟩

/-- Nor are they part of what is recorded of a load balancer. -/
theorem Reconditions.lbStatus (h : Reconditions vc vc') (lb : LoadBalancer) :
    lbStatus vc' lb = lbStatus vc lb := by
  obtain ⟨_, rfl⟩ := h
  cases lb <;> rfl

/-- `setLBNotReady` sets conditions only. -/
theorem setLBNotReady_reconditions (vc : VerdaCluster) (reason message : String) :
    Reconditions vc (setLBNotReady vc reason message) := by
  unfold setLBNotReady
  dsimp only
  split <;> exact ⟨_, rfl⟩

/-- `patchVerdaCluster` adds the summary condition. -/
theorem patchVerdaCluster_reconditions (vc : VerdaCluster) :
    Reconditions vc (patchVerdaCluster vc) :=
  ⟨_, rfl⟩

/-- The object after an instance was recorded as one of its load balancers. -/
structure SettlesLB (lb : LoadBalancer) (inst : Instance) (vc vc' : VerdaCluster) : Prop where
  same : SameCluster vc vc'
  other : ∀ lb', lb' ≠ lb → lbStatus vc' lb' = lbStatus vc lb'
  instanceID : (lbStatus vc' lb).instanceID = inst.id
  startupScriptID : (lbStatus vc' lb).startupScriptID = inst.startupScriptID ∨
    (lbStatus vc' lb).startupScriptID = (lbStatus vc lb).startupScriptID

/-! ## Requests to others than Verda -/

/-- The request is none to Verda. -/
def NotVerda (c : ClusterCall) : Prop := ∀ lb c', c ≠ .verda lb c'

/-- The requests made for a load balancer to others than Verda: for its keys; for the machines behind
the control plane and the push of their addresses; for the Secret in the workload cluster. -/
def Aside (lb : LoadBalancer) : ClusterCall → Prop
  | .verda _ _ => False
  | .secret _ | .generateKeys => True
  | .listVerdaMachines _ _ | .getOwnerMachine _ | .updateBackends _ _ _ => lb = .controlPlane
  | .kubeconfigFromSecret _ _ | .workloadClient _ | .workload _ _ => lb = .service

/-- A request goes to Verda or to somebody else. -/
theorem verda_or_notVerda (c : ClusterCall) : (∃ lb c', c = .verda lb c') ∨ NotVerda c := by
  cases c with
  | verda lb c => exact .inl ⟨lb, c, rfl⟩
  | _ => exact .inr fun _ _ h => by cases h

theorem Aside.notVerda {c : ClusterCall} (h : Aside lb c) : NotVerda c := by
  rintro lb' c' rfl
  exact h

/-- A request to somebody else than Verda, by itself. -/
theorem ask_aside {c : ClusterCall} (hc : Aside lb c) : (ask c).Obeys (Aside lb) fun _ => True :=
  ⟨hc, fun _ => trivial⟩

/-- The key pairs of either load balancer are kept in Secrets of the management cluster. -/
theorem ensureKeys_aside (lb : LoadBalancer) (cluster : Cluster) (vc : VerdaCluster) (name : String) :
    (ensureKeys cluster vc name).Obeys (Aside lb) fun _ => True := by
  have hsecret : ∀ op, (ask (.secret op)).Obeys (Aside lb) fun _ => True := fun op => ask_aside trivial
  refine (hsecret _).bind fun r _ => ?_
  rcases r with e | secret
  · dsimp only
    split
    · trivial
    · refine (ask_aside (c := .generateKeys) trivial).bind fun r _ => ?_
      rcases r with e | keys
      · trivial
      · refine (hsecret _).bind fun r _ => ?_
        rcases r with e | u
        · dsimp only
          split
          · refine (hsecret _).bind fun r _ => ?_
            rcases r with e | secret <;> trivial
          · trivial
        · trivial
  · trivial

/-! ## Acquiring -/

/-- Looking a control plane load balancer up or creating it records nothing yet. -/
theorem acquireLoadBalancer_keeps (scripts : LBScripts) (cluster : Cluster) (vc : VerdaCluster)
    (keys : Keys) : (acquireLoadBalancer scripts cluster vc keys).Obeys (fun _ => True) fun r =>
      Reconditions vc r.2 :=
  obeys_findOrCreate (P := Reconditions vc) (Prog.obeys_true _) (Prog.obeys_true _) (.refl vc) fun e =>
    setLBNotReady_reconditions vc "InstanceCreateFailed" e.msg

/-- Looking a service load balancer up or creating it records nothing yet. -/
theorem acquireServiceLoadBalancer_keeps (scripts : LBScripts) (cluster : Cluster)
    (vc : VerdaCluster) (keys : Keys) :
    (acquireServiceLoadBalancer scripts cluster vc keys).Obeys (fun _ => True) fun r =>
      Reconditions vc r.2 :=
  obeys_findOrCreate (P := Reconditions vc) (Prog.obeys_true _) (Prog.obeys_true _) (.refl vc) fun _ =>
    ⟨_, rfl⟩

/-- Both load balancers are looked up by the recorded ID first and then by their tag. -/
theorem findInstanceByStatusOrTag_uses (id key tag : String) {M : List Method} (hM : .getInstance ∈ M)
    (hM' : .findInstanceByTag ∈ M) :
    (findInstanceByStatusOrTag id key tag).Obeys (Uses M) fun _ => True :=
  findByIDOrTag_uses hM hM' fun inst => by split <;> trivial

theorem findLoadBalancer_uses (vc : VerdaCluster) {M : List Method} (hM : .getInstance ∈ M)
    (hM' : .findInstanceByTag ∈ M) : (findLoadBalancer vc).Obeys (Uses M) fun _ => True :=
  findByIDOrTag_uses hM hM' fun _ => trivial

/-- The requests that look an instance up, or create one under this hostname and with these tags. -/
def Acquires (hostname : String) (tags : StrMap) (c : Call) : Prop :=
  Uses lookupMethods c ∨ ∃ spec : InstanceSpec, spec.hostname = hostname ∧ spec.tags = tags ∧
    CarriesSpec spec c

/-- The one request that may create is made of the spec it is given. -/
theorem findOrCreate_acquires {vc : VerdaCluster} {find : ClientM (Except Err (Option Instance))}
    {spec : InstanceSpec} {failed : Err → VerdaCluster} {hostname : String} {tags : StrMap}
    (hfind : find.Obeys (Uses lookupMethods) fun _ => True) (hhost : spec.hostname = hostname)
    (htags : spec.tags = tags) :
    (findOrCreate vc find (createInstance spec) failed).Obeys (Acquires hostname tags) fun _ => True :=
  obeys_findOrCreate (P := fun _ => True) (hfind.mono (fun _ => .inl) fun _ h => h)
    ((createInstance_carries spec).mono (fun _ h => .inr ⟨spec, hhost, htags, h⟩) fun _ h => h)
    trivial fun _ => trivial

/-- The tags of a control plane load balancer. -/
def loadBalancerTags (cluster : Cluster) (vc : VerdaCluster) : StrMap :=
  [(tagManagedBy, managedByValue), (tagCluster, cluster.ns ++ "/" ++ cluster.name),
    (tagLoadBalancer, clusterTagValue vc), (tagRole, "load-balancer")]

/-- A control plane load balancer is created under its hostname and with its tags, or not at all. -/
theorem acquireLoadBalancer_acquires (scripts : LBScripts) (cluster : Cluster) (vc : VerdaCluster)
    (keys : Keys) : (acquireLoadBalancer scripts cluster vc keys).Obeys
      (Acquires (loadBalancerHostname vc) (loadBalancerTags cluster vc)) fun _ => True :=
  findOrCreate_acquires (findLoadBalancer_uses vc (by decide) (by decide)) rfl rfl

/-- A service load balancer is created under its hostname and with its tags, or not at all. -/
theorem acquireServiceLoadBalancer_acquires (scripts : LBScripts) (cluster : Cluster)
    (vc : VerdaCluster) (keys : Keys) : (acquireServiceLoadBalancer scripts cluster vc keys).Obeys
      (Acquires (serviceLoadBalancerHostname vc) (serviceLoadBalancerSpec scripts cluster vc keys).tags)
      fun _ => True :=
  findOrCreate_acquires (findInstanceByStatusOrTag_uses _ _ _ (by decide) (by decide)) rfl rfl

/-- A created instance carries the tags that were asked for. -/
theorem Acquires.requestTag_eq {hostname : String} {tags : StrMap} {c : Call}
    (h : Acquires hostname tags c) {req : Sdk.CreateInstanceRequest} (hc : c.op = .instancesCreate req)
    (key : String) :
    requestTag req key = StrMap.get (tags.foldl (fun m t => m.set t.1 t.2) []) key := by
  rcases h with hlook | ⟨spec, -, rfl, -, -, hreq⟩
  · exact absurd hc (hlook.ne_instancesCreate (by decide) req)
  · rcases hreq req hc with ⟨sid, rfl⟩
    simp only [requestTag, createRequest, List.foldl_map]

/-- The control plane load balancer does not carry the tag of the service load balancer. -/
theorem loadBalancerTags_service (cluster : Cluster) (vc : VerdaCluster) :
    StrMap.get ((loadBalancerTags cluster vc).foldl (fun m t => m.set t.1 t.2) [])
      tagServiceLoadBalancer = "" :=
  rfl

/-! ## Settling -/

/-- The requests for the machines behind the control plane. -/
def ReadsMachines : ClusterCall → Prop
  | .listVerdaMachines _ _ | .getOwnerMachine _ => True
  | _ => False

theorem ReadsMachines.aside {c : ClusterCall} (h : ReadsMachines c) : Aside .controlPlane c := by
  cases c <;> first | rfl | exact h.elim

/-- Whether a VerdaMachine is of the control plane is read from it or from its owner. -/
theorem collectAddresses_reads (vms : List VerdaMachine) :
    (collectAddresses vms).Obeys ReadsMachines fun _ => True := by
  induction vms with
  | nil => trivial
  | cons vm vms ih =>
    unfold collectAddresses
    split
    · exact ih
    · refine Prog.Obeys.bind (P := fun _ => True) ?_ fun r _ => ?_
      · unfold isControlPlane
        split
        · trivial
        · have hask : (ask (.getOwnerMachine vm.metadata)).Obeys ReadsMachines fun _ => True :=
            ⟨trivial, fun _ => trivial⟩
          refine hask.bind fun r _ => ?_
          rcases r with e | machine <;> trivial
      · rcases r with e | (_ | _)
        · trivial
        · exact ih
        · refine ih.bind fun r _ => ?_
          rcases r with e | addresses <;> trivial

/-- The addresses behind the control plane are found by reading only. -/
theorem controlPlaneAddresses_reads (cluster : Cluster) :
    (controlPlaneAddresses cluster).Obeys ReadsMachines fun _ => True := by
  have hask : (ask (.listVerdaMachines cluster.ns cluster.name)).Obeys ReadsMachines fun _ => True :=
    ⟨trivial, fun _ => trivial⟩
  refine hask.bind fun r _ => ?_
  rcases r with e | vms
  · trivial
  · refine (collectAddresses_reads vms).bind fun r _ => ?_
    rcases r with e | addresses <;> trivial

/-- A pass that serves keeps what was recorded. -/
theorem serveLoadBalancer_keeps (cluster : Cluster) (vc : VerdaCluster) (keys : Keys) (ip : String) :
    (serveLoadBalancer cluster vc keys ip).Obeys (Aside .controlPlane) fun r => SameCluster vc r.2 ∧
      lbStatus r.2 .service = lbStatus vc .service ∧
      (lbStatus r.2 .controlPlane).instanceID = (lbStatus vc .controlPlane).instanceID ∧
      (lbStatus r.2 .controlPlane).startupScriptID =
        (lbStatus vc .controlPlane).startupScriptID := by
  have hreads : (controlPlaneAddresses cluster).Obeys (Aside .controlPlane) fun _ => True :=
    (controlPlaneAddresses_reads cluster).mono (fun _ h => h.aside) fun _ h => h
  refine hreads.bind fun r _ => ?_
  rcases r with e | backends
  · exact ⟨⟨rfl, rfl, rfl, _, rfl⟩, rfl, rfl, rfl⟩
  · dsimp only
    split
    · refine (ask_aside (c := .updateBackends _ _ _) rfl).bind fun r _ => ?_
      rcases r with e | u <;> exact ⟨⟨rfl, rfl, rfl, _, rfl⟩, rfl, rfl, rfl⟩
    · exact ⟨⟨rfl, rfl, rfl, _, rfl⟩, rfl, rfl, rfl⟩

/-- Recording an instance as a load balancer. -/
theorem recordLB_settles (vc : VerdaCluster) (inst : Instance) :
    SettlesLB .controlPlane inst vc (withLoadBalancer vc (recordLB inst)) ∧
      SettlesLB .service inst vc (withServiceLoadBalancer vc (recordLB inst)) := by
  have hscript : ∀ s : LoadBalancerStatus, (recordLB inst s).startupScriptID = inst.startupScriptID ∨
      (recordLB inst s).startupScriptID = s.startupScriptID := by
    intro s
    simp only [recordLB]
    split
    · exact .inl rfl
    · exact .inr rfl
  refine ⟨⟨⟨rfl, rfl, rfl, _, rfl⟩, ?_, rfl, hscript _⟩, ⟨⟨rfl, rfl, rfl, _, rfl⟩, ?_, rfl, hscript _⟩⟩
  · intro lb' hlb
    cases lb'
    · exact absurd rfl hlb
    · rfl
  · intro lb' hlb
    cases lb'
    · rfl
    · exact absurd rfl hlb

/-- What comes after the recording keeps the records. -/
theorem SettlesLB.keeps (h : SettlesLB lb inst vc vc') (hsame : SameCluster vc' vc'')
    (hother : ∀ lb', lb' ≠ lb → lbStatus vc'' lb' = lbStatus vc' lb')
    (hid : (lbStatus vc'' lb).instanceID = (lbStatus vc' lb).instanceID)
    (hscript : (lbStatus vc'' lb).startupScriptID = (lbStatus vc' lb).startupScriptID) :
    SettlesLB lb inst vc vc'' where
  same := h.same.trans hsame
  other lb' hlb := (hother lb' hlb).trans (h.other lb' hlb)
  instanceID := hid.trans h.instanceID
  startupScriptID := by
    rw [hscript]
    exact h.startupScriptID

theorem SettlesLB.reconditions (h : SettlesLB lb inst vc vc') (h' : Reconditions vc' vc'') :
    SettlesLB lb inst vc vc'' :=
  h.keeps h'.same (fun lb' _ => h'.lbStatus lb') (by rw [h'.lbStatus]) (by rw [h'.lbStatus])

/-- After the instance was recorded, whatever becomes of the pass, the record stays. -/
theorem settleLoadBalancer_settles (cluster : Cluster) (vc : VerdaCluster) (keys : Keys)
    (inst : Instance) : (settleLoadBalancer cluster vc keys inst).Obeys (Aside .controlPlane) fun r =>
      SettlesLB .controlPlane inst vc r.2 := by
  have hrecord := (recordLB_settles vc inst).1
  unfold settleLoadBalancer
  dsimp only
  split
  · refine (serveLoadBalancer_keeps cluster _ keys inst.ip).mono (fun _ h => h) ?_
    rintro r ⟨hsame, hother, hid, hscript⟩
    refine hrecord.keeps hsame (fun lb' hlb => ?_) hid hscript
    cases lb'
    · exact absurd rfl hlb
    · exact hother
  · have hnot : ∀ reason message, SettlesLB .controlPlane inst vc
        (setLBNotReady (withLoadBalancer vc (recordLB inst)) reason message) :=
      fun _ _ => hrecord.reconditions (setLBNotReady_reconditions _ _ _)
    split
    · exact hnot "InstanceFailed" (lbStateMessage "load balancer instance" inst)
    · exact hnot "InstanceProvisioning" (lbStateMessage "load balancer instance" inst)

/-- The requests that publish a Secret: they read with the kubeconfig of the workload cluster, and write
these data. -/
def Publishes (data : List (String × Bytes)) : ClusterCall → Prop
  | .kubeconfigFromSecret _ _ | .workloadClient _ | .workload _ (.get _ _) => True
  | .workload _ (.create s) | .workload _ (.update s) => s.data = data
  | _ => False

theorem publishServiceLoadBalancerSecret_publishes (cluster : Cluster) (address : String) (keys : Keys) :
    (publishServiceLoadBalancerSecret cluster address keys).Obeys
      (Publishes (serviceLBSecretData cluster address keys)) fun _ => True := by
  refine ⟨trivial, fun x => ?_⟩
  rcases x with e | kubeconfig
  · trivial
  · refine ⟨trivial, fun x => ?_⟩
    rcases x with e | u
    · trivial
    · refine ⟨trivial, fun (x : Except KubeErr Secret) => ?_⟩
      rcases x with e | existing
      · show (if e.reason = .notFound then _ else _ : ClusterM (Except Err Unit)).Obeys _ _
        split
        · exact ⟨rfl, fun _ => trivial⟩
        · trivial
      · show (if existing.value "address" = bytes address ∧
          existing.value "ssh-privatekey" = keys.clientPrivateKey then _ else _ :
            ClusterM (Except Err Unit)).Obeys _ _
        split
        · trivial
        · exact ⟨rfl, fun _ => trivial⟩

theorem Publishes.aside {data : List (String × Bytes)} {c : ClusterCall} (h : Publishes data c) :
    Aside .service c := by
  cases c <;> first | exact h.elim | rfl

/-- As for the control plane, the record stays whatever becomes of the pass. -/
theorem settleServiceLoadBalancer_settles (cluster : Cluster) (vc : VerdaCluster) (keys : Keys)
    (inst : Instance) : (settleServiceLoadBalancer cluster vc keys inst).Obeys (Aside .service) fun r =>
      SettlesLB .service inst vc r.2 := by
  have hrecord := (recordLB_settles vc inst).2
  unfold settleServiceLoadBalancer
  dsimp only
  split
  · refine ((publishServiceLoadBalancerSecret_publishes cluster inst.ip keys).mono (fun _ h => h.aside)
      fun _ h => h).bind fun r _ => ?_
    rcases r with e | u
    · refine hrecord.keeps ⟨rfl, rfl, rfl, _, rfl⟩ (fun lb' hlb => ?_) rfl rfl
      cases lb'
      · rfl
      · exact absurd rfl hlb
    · refine hrecord.keeps ⟨rfl, rfl, rfl, _, rfl⟩ (fun lb' hlb => ?_) rfl rfl
      cases lb'
      · rfl
      · exact absurd rfl hlb
  · split <;> exact hrecord.reconditions ⟨_, rfl⟩

/-! ## Tearing down -/

/-- The object after steps of the teardown of a load balancer: what is recorded of the instance stays,
the startup script may be forgotten. -/
structure UnwindsLB (lb : LoadBalancer) (vc vc' : VerdaCluster) : Prop where
  same : SameCluster vc vc'
  other : ∀ lb', lb' ≠ lb → lbStatus vc' lb' = lbStatus vc lb'
  instanceID : (lbStatus vc' lb).instanceID = (lbStatus vc lb).instanceID
  backends : (lbStatus vc' lb).backends = (lbStatus vc lb).backends
  startupScriptID : (lbStatus vc' lb).startupScriptID = (lbStatus vc lb).startupScriptID ∨
    (lbStatus vc' lb).startupScriptID = ""

/-- A step that sets conditions is a step of any teardown. -/
theorem Reconditions.unwinds (h : Reconditions vc vc') : UnwindsLB lb vc vc' :=
  ⟨h.same, fun lb' _ => h.lbStatus lb', by rw [h.lbStatus], by rw [h.lbStatus],
    .inl (by rw [h.lbStatus])⟩

theorem UnwindsLB.refl (vc : VerdaCluster) : UnwindsLB lb vc vc := (Reconditions.refl vc).unwinds

/-- Conditions may be set after any step of a teardown. -/
theorem UnwindsLB.reconditions (h : UnwindsLB lb vc vc') (h' : Reconditions vc' vc'') :
    UnwindsLB lb vc vc'' := by
  refine ⟨h.same.trans h'.same, fun lb' hlb => (h'.lbStatus lb').trans (h.other lb' hlb), ?_, ?_, ?_⟩
  · rw [h'.lbStatus]
    exact h.instanceID
  · rw [h'.lbStatus]
    exact h.backends
  · rw [h'.lbStatus]
    exact h.startupScriptID

/-- Changes of the metadata that `SameCluster` does not see. -/
theorem unwinds_metadata {metadata : ObjectMeta} (hns : metadata.ns = vc.metadata.ns)
    (hname : metadata.name = vc.metadata.name)
    (hdel : metadata.deletionTimestamp = vc.metadata.deletionTimestamp) :
    UnwindsLB lb vc { vc with metadata := metadata } := by
  refine ⟨⟨hns, hname, hdel, _, rfl⟩, fun lb' _ => ?_, ?_, ?_, .inl ?_⟩ <;> cases lb <;> rfl

/-- The methods of a teardown. -/
def teardownMethods : List Method :=
  [.getInstance, .findInstanceByTag, .deleteInstance, .purgeInstanceVolumes, .deleteStartupScript,
    .deleteStartupScriptByName]

/-- The startup script is deleted under the recorded ID, or by its name if none is recorded. -/
theorem deleteServiceLBScript_uses (vc : VerdaCluster) :
    (deleteServiceLBScript vc).Obeys (Uses scriptMethods) fun r => UnwindsLB .service vc r.2 := by
  unfold deleteServiceLBScript
  dsimp only
  split
  · refine (deleteStartupScript_uses _ (by decide)).bind fun r _ => ?_
    rcases r with e | u
    · exact .refl vc
    · refine ⟨⟨rfl, rfl, rfl, _, rfl⟩, fun lb' hlb => ?_, rfl, rfl, .inr rfl⟩
      cases lb'
      · rfl
      · exact absurd rfl hlb
  · refine (deleteStartupScriptByName_uses _ (by decide) (by decide)).bind fun r _ => ?_
    rcases r with e | u <;> exact UnwindsLB.refl vc

/-- An instance that is still there is asked to go away, and the request is noted in an annotation. -/
theorem deleteLiveServiceLB_uses (now : Time) (vc : VerdaCluster) (inst : Instance) :
    (deleteLiveServiceLB now vc inst).Obeys (Uses endMethods) fun r => UnwindsLB .service vc r.2 := by
  obtain ⟨hns, hname, hdel, -⟩ := deleteRequestDue_keeps now vc.metadata "servicelb" inst.status
  have hnoted : UnwindsLB .service vc _ := unwinds_metadata hns hname hdel
  exact obeys_deleteLive (deleteInstance_uses _ (by decide) (by decide)) (.refl vc) (fun _ => hnoted)
    (hnoted.reconditions ⟨_, rfl⟩) hnoted

/-- A whole teardown of a service load balancer keeps the ID of the instance recorded. -/
theorem deleteServiceLoadBalancer_uses (now : Time) (vc : VerdaCluster) :
    (deleteServiceLoadBalancer now vc).Obeys (Uses teardownMethods) fun r =>
      UnwindsLB .service vc r.2 := by
  rw [deleteServiceLoadBalancer_eq]
  exact obeys_teardown (findInstanceByStatusOrTag_uses _ _ _ (by decide) (by decide))
    (fun inst => uses_mono (by decide) (deleteLiveServiceLB_uses now vc inst))
    (fun id => purgeInstanceVolumes_uses id (by decide))
    (uses_mono (by decide) (deleteServiceLBScript_uses vc)) (fun _ => .refl vc) (.refl vc)

/-- The control plane load balancer is asked to go away in the same way. -/
theorem deleteLiveLB_uses (now : Time) (vc : VerdaCluster) (inst : Instance) :
    (deleteLiveLB now vc inst).Obeys (Uses endMethods) fun r => UnwindsLB .controlPlane vc r.2 := by
  obtain ⟨hns, hname, hdel, -⟩ := deleteRequestDue_keeps now vc.metadata "lb" inst.status
  have hnoted : UnwindsLB .controlPlane vc _ := unwinds_metadata hns hname hdel
  exact obeys_deleteLive (deleteInstance_uses _ (by decide) (by decide)) (.refl vc) (fun _ => hnoted)
    (hnoted.reconditions (setLBNotReady_reconditions _ "InstanceDeleteRequested" _)) hnoted

/-- The finalizer goes last, after the startup script. -/
theorem releaseCluster_uses (vc : VerdaCluster) :
    (releaseCluster vc).Obeys (Uses scriptMethods) fun r => UnwindsLB .controlPlane vc r.2 := by
  have hreleased : UnwindsLB .controlPlane vc
      { vc with metadata := removeFinalizer vc.metadata clusterFinalizer } :=
    unwinds_metadata rfl rfl rfl
  unfold releaseCluster
  dsimp only
  split
  · refine (deleteStartupScript_uses _ (by decide)).bind fun r _ => ?_
    rcases r with e | u
    · exact UnwindsLB.refl vc
    · refine ⟨⟨rfl, rfl, rfl, _, rfl⟩, fun lb' hlb => ?_, rfl, rfl, .inr rfl⟩
      cases lb'
      · exact absurd rfl hlb
      · rfl
  · split
    · refine (deleteStartupScriptByName_uses _ (by decide) (by decide)).bind fun r _ => ?_
      rcases r with e | u
      · exact UnwindsLB.refl vc
      · exact hreleased
    · exact hreleased

/-- A whole teardown of a control plane load balancer keeps the ID of the instance recorded. -/
theorem deleteLoadBalancer_uses (now : Time) (vc : VerdaCluster) :
    (deleteLoadBalancer now vc).Obeys (Uses teardownMethods) fun r =>
      UnwindsLB .controlPlane vc r.2 := by
  rw [deleteLoadBalancer_eq]
  exact obeys_teardown (findLoadBalancer_uses _ (by decide) (by decide))
    (fun inst => uses_mono (by decide) (deleteLiveLB_uses now vc inst))
    (fun id => purgeInstanceVolumes_uses id (by decide)) (uses_mono (by decide) (releaseCluster_uses vc))
    (fun _ => .refl vc) (.refl vc)

/-! ## The two parts of a pass -/

/-- The requests made for a load balancer, with a condition on those to Verda. -/
def MadeFor (lb : LoadBalancer) (A : Call → Prop) : ClusterCall → Prop
  | .verda lb' c => lb' = lb ∧ A c
  | c => Aside lb c

variable {A : Call → Prop}

theorem Aside.madeFor {c : ClusterCall} (h : Aside lb c) : MadeFor lb A c := by
  cases c <;> first | exact h | exact h.elim

theorem MadeFor.mono {B : Call → Prop} {c : ClusterCall} (h : MadeFor lb A c) (hAB : ∀ c, A c → B c) :
    MadeFor lb B c := by
  cases c <;> first | exact h | exact ⟨h.1, hAB _ h.2⟩

/-- What makes no request to Verda fulfils any condition on those. -/
theorem obeys_aside {p : ClusterM α} {R : α → Prop} (h : p.Obeys (Aside lb) R) :
    p.Obeys (MadeFor lb A) R :=
  h.mono (fun _ hc => hc.madeFor) fun _ hr => hr

/-- A program of Verda requests, run for one of the load balancers. -/
theorem obeys_onVerda {p : ClientM α} {R : α → Prop} (h : p.Obeys A R) :
    (onVerda lb p).Obeys (MadeFor lb A) R :=
  h.mapOp fun _ hc => ⟨rfl, hc⟩

/-- Making sure of a load balancer leaves the other one alone. -/
theorem obeys_provideLB {α : Type} {lb : LoadBalancer} {cluster : Cluster} {vc : VerdaCluster}
    {name : String} {acquire : Keys → ClientM (Except Err Instance × VerdaCluster)}
    {settle : VerdaCluster → Keys → Instance → ClusterM (Except Err α × VerdaCluster)}
    (hacquire : ∀ k, (acquire k).Obeys A fun _ => True)
    (hkeeps : ∀ k, (acquire k).Obeys (fun _ => True) fun r => Reconditions vc r.2)
    (hsettle : ∀ vc k inst, (settle vc k inst).Obeys (Aside lb) fun r => SettlesLB lb inst vc r.2) :
    (provideLB lb cluster vc name acquire settle).Obeys (MadeFor lb A) fun r =>
      SameCluster vc r.2 ∧ ∀ lb', lb' ≠ lb → lbStatus r.2 lb' = lbStatus vc lb' := by
  refine (obeys_aside (ensureKeys_aside lb cluster vc name)).bind ?_
  rintro (e | k) -
  · exact ⟨.refl vc, fun _ _ => rfl⟩
  · have hverda : (acquire k).Obeys A fun r => Reconditions vc r.2 :=
      ((hacquire k).and (hkeeps k)).mono (fun _ h => h.1) fun _ h => h.2
    refine (obeys_onVerda hverda).bind ?_
    rintro ⟨e | inst, vc₁⟩ hr
    · exact ⟨hr.same, fun lb' _ => hr.lbStatus lb'⟩
    · refine (obeys_aside (hsettle vc₁ k inst)).mono (fun _ h => h) fun r hs => ?_
      exact ⟨hr.same.trans hs.same, fun lb' hlb => (hs.other lb' hlb).trans (hr.lbStatus lb')⟩

/-- `reconcileEndpoint` leaves the service load balancer alone. -/
theorem reconcileEndpoint_obeys (scripts : LBScripts) (cluster : Cluster) (vc : VerdaCluster)
    (hacquire : ∀ keys, (acquireLoadBalancer scripts cluster vc keys).Obeys A fun _ => True) :
    (reconcileEndpoint scripts cluster vc).Obeys (MadeFor .controlPlane A) fun r =>
      SameCluster vc r.2 ∧ lbStatus r.2 .service = lbStatus vc .service := by
  unfold reconcileEndpoint
  split
  · exact (obeys_provideLB hacquire (acquireLoadBalancer_keeps scripts cluster vc)
      (settleLoadBalancer_settles cluster)).mono (fun _ h => h) fun _ h => ⟨h.1, h.2 .service (by decide)⟩
  · dsimp only
    split <;> split <;> exact ⟨⟨rfl, rfl, rfl, _, rfl⟩, rfl⟩

/-- The Secret is removed with the kubeconfig of the workload cluster, if there is one. -/
theorem removeServiceLoadBalancerSecret_aside (cluster : Cluster) :
    (removeServiceLoadBalancerSecret cluster).Obeys (Aside .service) fun _ => True := by
  refine (ask_aside (c := .kubeconfigFromSecret _ _) rfl).bind fun r _ => ?_
  rcases r with e | kubeconfig
  · trivial
  · refine (ask_aside (c := .workloadClient _) rfl).bind fun r _ => ?_
    rcases r with e | u
    · trivial
    · exact (ask_aside (c := .workload _ _) rfl).bind fun _ _ => trivial

/-- A pass with the service load balancer enabled leaves the one of the control plane alone. -/
theorem enableService_obeys (scripts : LBScripts) (cluster : Cluster) (result : Result)
    (vc : VerdaCluster)
    (hacquire : ∀ keys, (acquireServiceLoadBalancer scripts cluster vc keys).Obeys A fun _ => True) :
    (ClusterScope.enableService scripts cluster result vc).Obeys (MadeFor .service A) fun r =>
      SameCluster vc r.2 ∧ lbStatus r.2 .controlPlane = lbStatus vc .controlPlane := by
  refine (obeys_provideLB hacquire (acquireServiceLoadBalancer_keeps scripts cluster vc)
    (settleServiceLoadBalancer_settles cluster)).bind ?_
  rintro ⟨e | requeue, vc₁⟩ ⟨hsame, hother⟩
  · exact ⟨hsame, hother .controlPlane (by decide)⟩
  · dsimp only
    split <;> exact ⟨hsame, hother .controlPlane (by decide)⟩

/-- So does a pass with the service load balancer disabled, which tears it down. -/
theorem disableService_obeys (now : Time) (cluster : Cluster) (result : Result) (vc : VerdaCluster) :
    (ClusterScope.disableService now cluster result vc).Obeys (MadeFor .service (Uses teardownMethods))
      fun r => SameCluster vc r.2 ∧ lbStatus r.2 .controlPlane = lbStatus vc .controlPlane := by
  unfold ClusterScope.disableService
  dsimp only
  split
  · refine (obeys_onVerda (deleteServiceLoadBalancer_uses now vc)).bind fun r hr => ?_
    have hother := hr.other .controlPlane (by decide)
    rcases r with ⟨e | (_ | _), vc₁⟩
    · exact ⟨hr.same, hother⟩
    · refine (obeys_aside (removeServiceLoadBalancerSecret_aside cluster)).bind fun _ _ => ?_
      exact ⟨hr.same.trans ⟨rfl, rfl, rfl, _, rfl⟩, hother⟩
    · exact ⟨hr.same, hother⟩
  · exact ⟨⟨rfl, rfl, rfl, _, rfl⟩, rfl⟩

/-- The rest of a normal pass leaves the control plane load balancer alone. -/
theorem reconcileService_obeys (scripts : LBScripts) (now : Time) (cluster : Cluster)
    (endpoint : Reply × VerdaCluster)
    (hacquire : ∀ keys, (acquireServiceLoadBalancer scripts cluster endpoint.2 keys).Obeys A fun _ => True)
    (hteardown : ∀ c, Uses teardownMethods c → A c) :
    (ClusterScope.reconcileService scripts now cluster endpoint).Obeys (MadeFor .service A)
      fun r => SameCluster endpoint.2 r.2 ∧
        lbStatus r.2 .controlPlane = lbStatus endpoint.2 .controlPlane := by
  rcases endpoint with ⟨e | result, vc⟩
  · exact ⟨.refl vc, rfl⟩
  · simp only [ClusterScope.reconcileService]
    split
    · exact (disableService_obeys now cluster result vc).mono (fun _ h => h.mono hteardown) fun _ h => h
    · exact enableService_obeys scripts cluster result vc hacquire

/-- A delete pass keeps what is recorded of the instances and the backends. -/
theorem reconcileDelete_obeys (now : Time) (vc : VerdaCluster) :
    (ClusterScope.reconcileDelete now vc).Obeys
      (fun c => ∃ lb c', c = .verda lb c' ∧ Uses teardownMethods c') fun r => SameCluster vc r.2 ∧
      ∀ lb, (lbStatus r.2 lb).instanceID = (lbStatus vc lb).instanceID ∧
        (lbStatus r.2 lb).backends = (lbStatus vc lb).backends := by
  have hservice : ∀ {vc₁ : VerdaCluster}, UnwindsLB .service vc vc₁ → SameCluster vc vc₁ ∧
      ∀ lb, (lbStatus vc₁ lb).instanceID = (lbStatus vc lb).instanceID ∧
        (lbStatus vc₁ lb).backends = (lbStatus vc lb).backends := by
    intro vc₁ h
    refine ⟨h.same, fun lb => ?_⟩
    cases lb with
    | controlPlane =>
      rw [h.other .controlPlane (by decide)]
      exact ⟨rfl, rfl⟩
    | service => exact ⟨h.instanceID, h.backends⟩
  refine ((deleteServiceLoadBalancer_uses now vc).mapOp fun c hc => ⟨.service, c, rfl, hc⟩).bind fun r hr => ?_
  rcases r with ⟨e | (_ | _), vc₁⟩
  · exact hservice hr
  · refine ((deleteLoadBalancer_uses now vc₁).mapOp fun c hc => ⟨.controlPlane, c, rfl, hc⟩).mono
      (fun _ h => h) fun r hr' => ?_
    rcases hservice hr with ⟨hsame, hkept⟩
    refine ⟨hsame.trans hr'.same, fun lb => ?_⟩
    cases lb with
    | controlPlane =>
      exact ⟨hr'.instanceID.trans (hkept .controlPlane).1, hr'.backends.trans (hkept .controlPlane).2⟩
    | service =>
      rw [hr'.other .service (by decide)]
      exact hkept .service
  · exact hservice hr

end VerdaCapi.Controller
