import VerdaCapi.Cloud.Rules
import VerdaCapi.Controller.ClusterFootprint

/-!
# Runs of the VerdaCluster reconciler

The passes over one VerdaCluster as a `Remote.System`. Besides the Verda accounts the world has what
else the passes act on: the backends that were applied on the load balancers, and the Secrets of the
workload cluster.

* Requests for keys, machines and owners may be answered in any way.
* A push of backends and a request to the workload cluster may fail before or after its effect.
* The workload cluster is reachable or not, and that changes at any time.
* The deferred patch is three requests, as for machines, and each may be lost. It is merged into what is
  stored by then, as users edit the cluster at any time.
-/

namespace VerdaCapi.Controller

open Remote Go Api Cloud Webhook

/-! ## The world -/

/-- A Secret of the workload cluster, and whether a pass over this cluster wrote it. -/
structure Published where
  secret : Secret
  ours : Bool

/-- What the passes over a cluster act on. -/
structure ClusterWorld where
  cloud : World LoadBalancer
  /-- The backends last applied on an instance. -/
  applied : AccountID → String → List String := fun _ _ => []
  /-- The Secrets of the workload cluster, by namespace and name. -/
  workload : String × String → Option Published := fun _ => none
  /-- While the workload cluster is reachable, its kubeconfig can be read, a client can be built, and it
  deletes what it is asked to delete. -/
  reachable : Bool := true

/-- Instances that are listed with an address have the one `addressOf` says: an instance keeps its
address. -/
def Addressed (addressOf : AccountID → String → String) (a : AccountID) (acc : Account) : Prop :=
  ∀ i ∈ acc.instances.rows, ∀ ip ∈ i.ip, ip = addressOf a i.id

instance (addressOf : AccountID → String → String) (a : AccountID) (acc : Account) :
    Decidable (Addressed addressOf a acc) :=
  inferInstanceAs (Decidable (∀ i ∈ acc.instances.rows, _))

/-! ## Answers -/

/-- How a request goes. Those to Verda go as in `Cloud.Choice`; a `reply` is any answer to a request
that nothing in the world depends on; the others are carried out, or not, or they are and the answer is
lost. -/
inductive ClusterChoice where
  | verda (c : Choice)
  | reply (c : ClusterCall) (x : c.Res)
  | accept
  | refuse (msg : String)
  | lose (msg : String)

/-- The answer of a `reply`. -/
def ClusterChoice.replyTo (c : ClusterCall) : ClusterChoice → Option c.Res
  | .reply c' x => if h : c' = c then some (h ▸ x) else none
  | _ => none

/-- The instance that is created when a request goes this way. -/
def createdID : Sdk.Op → Choice → Option String
  | .instancesCreate _, .accept (.instance_ i _) => some i.id
  | .instancesCreate _, .lose (.instance_ i _) _ => some i.id
  | _, _ => none

/-- A new control plane load balancer has the backends of its startup script, which are none. -/
def ClusterWorld.started (w : ClusterWorld) (lb : LoadBalancer) (a : AccountID) (id : Option String) :
    AccountID → String → List String :=
  match lb, id with
  | .controlPlane, some id => Function.update w.applied a (Function.update (w.applied a) id [])
  | _, _ => w.applied

/-- The backends are applied on the instance at this address. -/
def ClusterWorld.push (w : ClusterWorld) (addressOf : AccountID → String → String) (addr : String)
    (backends : List String) : ClusterWorld :=
  { w with applied := fun a id => if addressOf a id = addr then backends else w.applied a id }

/-- What the workload cluster does with a request for a Secret. -/
def ClusterWorld.workloadReact (w : ClusterWorld) :
    (op : SecretOp) → Except KubeErr op.Ans × ClusterWorld
  | .get ns name =>
    match w.workload (ns, name) with
    | some p => (.ok p.secret, w)
    | none => (.error ⟨.notFound, "not found"⟩, w)
  | .create s =>
    match w.workload (s.ns, s.name) with
    | some _ => (.error ⟨.alreadyExists, "already exists"⟩, w)
    | none => (.ok (), { w with workload := Function.update w.workload (s.ns, s.name) (some ⟨s, true⟩) })
  | .update s =>
    match w.workload (s.ns, s.name) with
    | some _ =>
      (.ok (), { w with workload := Function.update w.workload (s.ns, s.name) (some ⟨s, true⟩) })
    | none => (.error ⟨.notFound, "not found"⟩, w)
  | .delete ns name =>
    match w.workload (ns, name) with
    | some _ => (.ok (), { w with workload := Function.update w.workload (ns, name) none })
    | none => (.error ⟨.notFound, "not found"⟩, w)

/-- The request deletes a Secret. -/
def SecretOp.isDelete : SecretOp → Bool
  | .delete _ _ => true
  | _ => false

/-- The answer to a request of a pass, and the world after it. -/
def clusterAnswer (addressOf : AccountID → String → String) (ch : ClusterChoice) (w : ClusterWorld) :
    (o : ScopedCall) → Option (ScopedCall.Res o × ClusterWorld)
  | (a, .verda lb c) =>
    match ch with
    | .verda ch =>
      match answer lb ch w.cloud (a, c) with
      | some (x, cloud) =>
        if Addressed addressOf a (cloud.account a) then
          some (x, { w with cloud, applied := w.started lb a (createdID c.op ch) })
        else none
      | none => none
    | _ => none
  | (_, .updateBackends addr _ backends) =>
    match ch with
    | .accept => some (.ok (), w.push addressOf addr backends)
    | .refuse msg => some (.error ⟨.other, msg⟩, w)
    | .lose msg => some (.error ⟨.other, msg⟩, w.push addressOf addr backends)
    | _ => none
  | (_, .kubeconfigFromSecret ns name) =>
    match ch.replyTo (.kubeconfigFromSecret ns name) with
    | some (.error e) => if w.reachable then none else some (.error e, w)
    | some (.ok kubeconfig) => some (.ok kubeconfig, w)
    | none => none
  | (_, .workloadClient kubeconfig) =>
    match ch.replyTo (.workloadClient kubeconfig) with
    | some (.error e) => if w.reachable then none else some (.error e, w)
    | some (.ok u) => some (.ok u, w)
    | none => none
  | (_, .workload _ op) =>
    match ch with
    | .accept => if w.reachable then some (w.workloadReact op) else none
    | .refuse msg => if w.reachable && op.isDelete then none else some (.error ⟨.other, msg⟩, w)
    | .lose msg =>
      if w.reachable then some (.error ⟨.other, msg⟩, (w.workloadReact op).2) else none
    | _ => none
  | (_, .secret op) => (ch.replyTo (.secret op)).map (·, w)
  | (_, .generateKeys) => (ch.replyTo .generateKeys).map (·, w)
  | (_, .listVerdaMachines ns name) => (ch.replyTo (.listVerdaMachines ns name)).map (·, w)
  | (_, .getOwnerMachine metadata) => (ch.replyTo (.getOwnerMachine metadata)).map (·, w)

/-! ## What changes without the passes -/

/-- A later state of an account, in which the instances that appeared are not `ours`. -/
@[mk_iff]
structure DriftsApart {ι : Type} (ours : Sdk.Instance → Bool) (w : World ι) (a : AccountID)
    (acc : Account) : Prop where
  drifts : Drifts (fun _ => false) w a acc
  apart : ∀ i' ∈ acc.instances.rows,
    (∃ i ∈ (w.account a).instances.rows, Keeps i i') ∨ ours i' = false

instance {ι : Type} (ours : Sdk.Instance → Bool) (w : World ι) (a : AccountID) (acc : Account) :
    Decidable (DriftsApart ours w a acc) :=
  decidable_of_iff' _ (driftsApart_iff ours w a acc)

/-- What happens around a cluster. -/
inductive ClusterDrift where
  | account (a : AccountID) (acc : Account)
  | secret (key : String × String) (secret : Option Secret)
  | reach (reachable : Bool)

/-- The instance carries one of the two tags of this cluster. -/
def hasClusterTag (tag : String) (i : Sdk.Instance) : Bool :=
  tagOf i tagLoadBalancer == tag || tagOf i tagServiceLoadBalancer == tag

/-- Accounts move on, others write and remove Secrets of the workload cluster, and it becomes reachable
or not. A Secret that a pass wrote stays its own when others change it. -/
def clusterDrift (addressOf : AccountID → String → String) (tag : String) :
    ClusterDrift → ClusterWorld → Option ClusterWorld
  | .account a acc, w =>
    if DriftsApart (hasClusterTag tag) w.cloud a acc ∧ Addressed addressOf a acc then
      some { w with cloud := w.cloud.set a acc }
    else none
  | .secret key secret, w =>
    let ours := (w.workload key).any (·.ours)
    some { w with workload := Function.update w.workload key (secret.map (⟨·, ours⟩)) }
  | .reach reachable, w => some { w with reachable }

/-! ## The object -/

/-- The API server has removed the cluster. -/
def clusterRemoved (vc : VerdaCluster) : Bool :=
  vc.metadata.deletionTimestamp.isSome && vc.metadata.finalizers.isEmpty

/-- A pass over the stored cluster. A removed one is not found. -/
def startClusterPass (inp : ClusterInput) (vc : VerdaCluster) : ClusterPass :=
  if clusterRemoved vc then .ret { reply := .ok {}, sent := none } else reconcileCluster inp vc

/-- The stored cluster after a patch of what was sent by a pass that read `seen`. -/
def Patch.applyCluster (p : Patch) (seen vc sent : VerdaCluster) : VerdaCluster where
  metadata := if p.spec then seen.metadata.merge vc.metadata sent.metadata else vc.metadata
  spec := if p.spec then seen.spec.merge vc.spec sent.spec else vc.spec
  status :=
    { (if p.status then sent.status else vc.status) with
      conditions := if p.conditions then sent.status.conditions else vc.status.conditions }

/-- The stored cluster after a pass that read `seen`. A removed one cannot be patched. -/
def persistCluster (p : Patch) (seen vc : VerdaCluster) (out : ClusterOutcome) : VerdaCluster :=
  match out.sent with
  | none => vc
  | some sent => if clusterRemoved vc then vc else p.applyCluster seen vc sent

/-- What users do to a cluster. -/
inductive ClusterEdit where
  | delete (at_ : Time)
  | update (spec : VerdaClusterSpec)
  | annotate (annotations : StrMap)

/-- Edit the stored cluster; `none` when the webhooks reject it. -/
def editCluster : ClusterEdit → VerdaCluster → Option VerdaCluster
  | .delete t, vc => some { vc with metadata := { vc.metadata with deletionTimestamp := some t } }
  | .update spec, vc =>
    if clusterUpdateAccepted vc.spec spec then some { vc with spec := defaultClusterSpec spec }
    else none
  | .annotate annotations, vc =>
    some { vc with metadata := { vc.metadata with annotations := annotations } }

/-- The tag value of the load balancers of a cluster. -/
def clusterTagFor (ns name : String) : String := truncateTag (ns ++ "/" ++ name)

theorem truncateTag_ne_empty {v : String} (h : v ≠ "") : truncateTag v ≠ "" := by
  have hlist : ∀ {s : String}, s.toList ≠ [] → toLower s ≠ "" := by
    intro s hs hlower
    have hnil : (s.toList.map Char.toLower) = [] := by
      simpa [toLower] using congrArg String.toList hlower
    exact hs (List.map_eq_nil_iff.1 hnil)
  have hv : v.toList ≠ [] := fun hnil => h (by simpa using hnil)
  unfold truncateTag
  split
  · exact hlist (by simpa using h)
  · exact hlist hv

theorem clusterTagFor_ne_empty (ns name : String) : clusterTagFor ns name ≠ "" :=
  truncateTag_ne_empty (by simp)

/-- The account the passes over a cluster talk to. -/
def clusterAccount (vc : VerdaCluster) : AccountID :=
  accountOf { ns := vc.metadata.ns, secretName := vc.identitySecretName }

/-- The passes over the cluster `ns/name`. -/
def clusterSystem (addressOf : AccountID → String → String) (ns name : String) :
    System Unit ClusterWorld ScopedCall ScopedCall.Res VerdaCluster ClusterOutcome
      ClusterInput ClusterChoice Patch ClusterDrift ClusterEdit where
  start _ := startClusterPass
  answer _ := clusterAnswer addressOf
  persist := persistCluster
  drift := clusterDrift addressOf (clusterTagFor ns name)
  edit := editCluster

/-- A state of such a run. -/
abbrev ClusterState := State Unit ClusterWorld ScopedCall ScopedCall.Res VerdaCluster ClusterOutcome

/-- Conditions on such a run. -/
abbrev ClusterConds :=
  Conditions Unit ClusterWorld ScopedCall VerdaCluster ClusterOutcome ClusterInput Patch ClusterEdit

/-- A move of such a run. -/
abbrev ClusterMove := Move Unit ClusterInput ClusterChoice Patch ClusterDrift ClusterEdit

/-- Nothing has happened yet: nothing is recorded, created or published for the cluster, and no instance
carries its tags. -/
structure ClusterInitial (addressOf : AccountID → String → String) (ns name : String)
    (s : ClusterState) : Prop where
  idle : s.run () = none
  cluster_ns : (s.obj ()).metadata.ns = ns
  cluster_name : (s.obj ()).metadata.name = name
  status : (s.obj ()).status = {}
  made : s.world.cloud.made = []
  untagged : ∀ b, ∀ i ∈ (s.world.cloud.account b).instances.rows,
    hasClusterTag (clusterTagFor ns name) i = false
  ids : ∀ b, ∀ i ∈ (s.world.cloud.account b).instances.rows, i.id ≠ ""
  addressed : ∀ b, Addressed addressOf b (s.world.cloud.account b)
  unpublished : ∀ key, (s.world.workload key).any (·.ours) = false

theorem ClusterInitial.tag {addressOf : AccountID → String → String} {ns name : String}
    {s : ClusterState} (h : ClusterInitial addressOf ns name s) :
    clusterTagValue (s.obj ()) = clusterTagFor ns name := by
  rw [clusterTagValue, h.cluster_ns, h.cluster_name, clusterTagFor]

/-- The outcome of a pass that has returned and whose patch was not sent yet. -/
def returnedCluster {W : Type} (s : State Unit W ScopedCall ScopedCall.Res VerdaCluster ClusterOutcome) :
    Option ClusterOutcome :=
  match s.run () with
  | some (.ret out) => some out
  | _ => none

theorem returnedCluster_any {W : Type}
    {s : State Unit W ScopedCall ScopedCall.Res VerdaCluster ClusterOutcome} {f : ClusterOutcome → Bool}
    (h : (returnedCluster s).any f = true) : ∃ out, s.run () = some (.ret out) ∧ f out = true := by
  unfold returnedCluster at h
  split at h
  · rename_i out hrun
    exact ⟨out, hrun, h⟩
  · cases h

/-! ## What an answer changes -/

section

variable {addressOf : AccountID → String → String} {ch : ClusterChoice} {w w' : ClusterWorld}
  {a : AccountID} {c : ClusterCall} {tag : String} {d : ClusterDrift}

/-- A request to Verda is answered by the account, and addresses stay what they are. -/
theorem clusterAnswer_verda {lb : LoadBalancer} {c : Call} {x : Call.Res c}
    (h : clusterAnswer addressOf ch w (a, .verda lb c) = some (x, w')) :
    ∃ ch', answer lb ch' w.cloud (a, c) = some (x, w'.cloud) ∧
      Addressed addressOf a (w'.cloud.account a) ∧
      w'.applied = w.started lb a (createdID c.op ch') ∧ w'.workload = w.workload := by
  simp only [clusterAnswer] at h
  split at h
  · rename_i ch'
    split at h
    · rename_i y cloud hans
      split at h
      · rename_i haddr
        cases h
        exact ⟨ch', hans, haddr, rfl, rfl⟩
      · cases h
    · cases h
  · cases h

/-- Only a creation starts a load balancer. -/
theorem started_eq {lb : LoadBalancer} {op : Sdk.Op} {ch : Choice}
    (hop : ∀ req, op ≠ .instancesCreate req) : w.started lb a (createdID op ch) = w.applied := by
  have hnone : createdID op ch = none := by
    unfold createdID
    split
    · exact absurd rfl (hop _)
    · exact absurd rfl (hop _)
    · rfl
  rw [hnone]
  cases lb <;> rfl

/-- A created load balancer is the one that is started. -/
theorem createdID_eq {ι : Type} {who : ι} {w w' : World ι} {ch : Choice} {m : Method}
    {req : Sdk.CreateInstanceRequest} {i : Sdk.Instance}
    (h : answer who ch w (a, ⟨m, .instancesCreate req⟩) = some (.ok i, w')) :
    createdID (.instancesCreate req) ch = some i.id := by
  cases ch with
  | refuse e =>
    simp only [answer] at h
    split at h <;> cases h
  | accept fx =>
    cases fx <;> simp only [answer, react, reduceCtorEq] at h
    split at h <;> cases h
    rfl
  | lose fx e =>
    simp only [answer] at h
    split at h
    · cases h
    · rcases Option.map_eq_some_iff.1 h with ⟨_, -, heq⟩
      cases heq

/-- An address that is listed is the one of the instance. -/
theorem Addressed.ip {acc : Account} {i : Sdk.Instance} (h : Addressed addressOf a acc)
    (hi : i ∈ acc.instances.rows) (hip : (toInstance i).ip ≠ "") :
    addressOf a i.id = (toInstance i).ip := by
  cases heq : i.ip with
  | none => exact absurd (by simp [toInstance, heq]) hip
  | some ip =>
    rw [← h i hi ip heq]
    simp [toInstance, heq]

/-- A push that succeeds is applied. -/
theorem clusterAnswer_updateBackends {addr : String} {keys : Keys} {backends : List String} {u : Unit}
    (h : clusterAnswer addressOf ch w (a, .updateBackends addr keys backends) = some (.ok u, w')) :
    w' = w.push addressOf addr backends := by
  simp only [clusterAnswer] at h
  split at h <;> cases h
  rfl

theorem replied {op : ClusterCall} {x : op.Res} {y : Option op.Res}
    (h : y.map (fun r => (r, w)) = some (x, w')) : w' = w := by
  rcases Option.map_eq_some_iff.1 h with ⟨r, -, heq⟩
  cases heq
  rfl

/-- What a request to the workload cluster changes there. -/
theorem workloadReact_world (op : SecretOp) :
    ∃ workload, (w.workloadReact op).2 = { w with workload := workload } := by
  unfold ClusterWorld.workloadReact
  split <;> split <;> exact ⟨_, rfl⟩

/-- Each part of the world is changed by its own requests only. -/
theorem clusterAnswer_other {x : ScopedCall.Res (a, c)} (hc : NotVerda c)
    (h : clusterAnswer addressOf ch w (a, c) = some (x, w')) :
    w'.cloud = w.cloud ∧ ((∀ addr keys backends, c ≠ .updateBackends addr keys backends) →
      w'.applied = w.applied) ∧ ((∀ kubeconfig op, c ≠ .workload kubeconfig op) →
      w'.workload = w.workload) := by
  have hsame : w' = w → w'.cloud = w.cloud ∧ ((∀ addr keys backends,
      c ≠ .updateBackends addr keys backends) → w'.applied = w.applied) ∧
      ((∀ kubeconfig op, c ≠ .workload kubeconfig op) → w'.workload = w.workload) := by
    rintro rfl
    exact ⟨rfl, fun _ => rfl, fun _ => rfl⟩
  cases c with
  | verda lb c => exact absurd rfl (hc lb c)
  | updateBackends addr keys backends =>
    simp only [clusterAnswer] at h
    split at h <;> cases h <;> exact ⟨rfl, fun hne => absurd rfl (hne addr keys backends), fun _ => rfl⟩
  | workload kubeconfig op =>
    obtain ⟨workload, hreact⟩ := workloadReact_world (w := w) op
    have hworkload : w' = (w.workloadReact op).2 → w'.cloud = w.cloud ∧ ((∀ addr keys backends,
        ClusterCall.workload kubeconfig op ≠ .updateBackends addr keys backends) →
        w'.applied = w.applied) ∧ ((∀ kubeconfig' op',
        ClusterCall.workload kubeconfig op ≠ .workload kubeconfig' op') →
        w'.workload = w.workload) := by
      intro heq
      rw [heq, hreact]
      exact ⟨rfl, fun _ => rfl, fun hne => absurd rfl (hne kubeconfig op)⟩
    simp only [clusterAnswer] at h
    split at h
    · split at h
      · exact hworkload (congrArg Prod.snd (Option.some.inj h)).symm
      · cases h
    · split at h
      · cases h
      · exact hsame (congrArg Prod.snd (Option.some.inj h)).symm
    · split at h
      · exact hworkload (congrArg Prod.snd (Option.some.inj h)).symm
      · cases h
    · cases h
  | kubeconfigFromSecret ns name =>
    simp only [clusterAnswer] at h
    split at h
    · split at h <;> cases h
      exact hsame rfl
    · cases h
      exact hsame rfl
    · cases h
  | workloadClient kubeconfig =>
    simp only [clusterAnswer] at h
    split at h
    · split at h <;> cases h
      exact hsame rfl
    · cases h
      exact hsame rfl
    · cases h
  | secret op => exact hsame (replied h)
  | generateKeys => exact hsame (replied h)
  | listVerdaMachines ns name => exact hsame (replied h)
  | getOwnerMachine metadata => exact hsame (replied h)

/-! ## What drift changes -/

theorem DriftsApart.drift {ι : Type} {ours : Sdk.Instance → Bool} {w : World ι} {acc : Account}
    (h : DriftsApart ours w a acc) : Cloud.drift (fun _ => false) (a, acc) w = some (w.set a acc) :=
  if_pos h.drifts

/-- Each instance is an old one, or is new and not `ours`. -/
theorem DriftsApart.instances {ι : Type} {ours : Sdk.Instance → Bool} {w : World ι} {acc : Account}
    (h : DriftsApart ours w a acc) : ∀ b, ∀ i' ∈ ((w.set a acc).account b).instances.rows,
      (∃ i ∈ (w.account b).instances.rows, Keeps i i') ∨ (w.Unused [i'.id] ∧ ours i' = false) := by
  intro b i' hi'
  rcases (drift_instances h.drift).2 b i' hi' with hold | ⟨hunused, -⟩
  · exact .inl hold
  · by_cases hb : b = a
    · subst hb
      rcases h.apart i' (by simpa [World.set] using hi') with hold | hnot
      · exact .inl hold
      · exact .inr ⟨hunused, hnot⟩
    · exact .inl ⟨i', by simpa [World.set, hb] using hi', .refl i'⟩

theorem clusterDrift_cloud (h : clusterDrift addressOf tag d w = some w') :
    w'.applied = w.applied ∧ (w'.cloud = w.cloud ∨ ∃ a acc, Addressed addressOf a acc ∧
      DriftsApart (hasClusterTag tag) w.cloud a acc ∧ w'.cloud = w.cloud.set a acc) := by
  cases d with
  | account a acc =>
    simp only [clusterDrift] at h
    split at h
    · rename_i hd
      cases h
      exact ⟨rfl, .inr ⟨a, acc, hd.2, hd.1, rfl⟩⟩
    · cases h
  | secret key secret =>
    cases h
    exact ⟨rfl, .inl rfl⟩
  | reach reachable =>
    cases h
    exact ⟨rfl, .inl rfl⟩

theorem clusterDrift_instances (h : clusterDrift addressOf tag d w = some w') :
    w'.cloud.made = w.cloud.made ∧ ∀ b, ∀ i' ∈ (w'.cloud.account b).instances.rows,
      (∃ i ∈ (w.cloud.account b).instances.rows, Keeps i i') ∨
        (w.cloud.Unused [i'.id] ∧ hasClusterTag tag i' = false) := by
  rcases (clusterDrift_cloud h).2 with heq | ⟨a, acc, -, hd, heq⟩
  · rw [heq]
    exact ⟨rfl, fun b i' hi' => .inl ⟨i', hi', .refl i'⟩⟩
  · rw [heq]
    exact ⟨rfl, hd.instances⟩

theorem clusterDrift_scripts (h : clusterDrift addressOf tag d w = some w') :
    ∀ b, ∀ s' ∈ (w'.cloud.account b).scripts.rows,
      (∃ s ∈ (w.cloud.account b).scripts.rows, s'.id = s.id ∧ s'.name = s.name) ∨
        w.cloud.Unused [s'.id] := by
  rcases (clusterDrift_cloud h).2 with heq | ⟨a, acc, -, hd, heq⟩
  · rw [heq]
    exact fun b s' hs' => .inl ⟨s', hs', rfl, rfl⟩
  · rw [heq]
    exact (drift_scripts hd.drift).2

/-- The addresses after drift. -/
theorem clusterDrift_addressed (h : clusterDrift addressOf tag d w = some w')
    (hw : ∀ b, Addressed addressOf b (w.cloud.account b)) (b : AccountID) :
    Addressed addressOf b (w'.cloud.account b) := by
  rcases (clusterDrift_cloud h).2 with heq | ⟨a, acc, haddr, -, heq⟩
  · rw [heq]
    exact hw b
  · rw [heq]
    by_cases hb : b = a
    · subst hb
      simpa [World.set] using haddr
    · simpa [World.set, hb] using hw b

/-- Nobody else publishes for the cluster. -/
theorem clusterDrift_ours (h : clusterDrift addressOf tag d w = some w') {key : String × String}
    (hours : (w'.workload key).any (·.ours) = true) : (w.workload key).any (·.ours) = true := by
  cases d with
  | account a acc =>
    simp only [clusterDrift] at h
    split at h
    · cases h
      exact hours
    · cases h
  | secret key' secret =>
    cases h
    by_cases hkey : key = key'
    · subst hkey
      cases secret with
      | none => simp at hours
      | some s => simpa using hours
    · simpa [hkey] using hours
  | reach reachable =>
    cases h
    exact hours

end

/-! ## What a patch stores -/

section

variable {vc : VerdaCluster} {out : ClusterOutcome}

/-- A patch is applied, or there is nothing to send or nothing to apply it to. -/
theorem persistCluster_cases (p : Patch) (seen vc : VerdaCluster) (out : ClusterOutcome) :
    persistCluster p seen vc out = vc ∨ ∃ sent, out.sent = some sent ∧
      persistCluster p seen vc out = p.applyCluster seen vc sent := by
  unfold persistCluster
  split
  · exact .inl rfl
  · rename_i sent hsent
    split
    · exact .inl rfl
    · exact .inr ⟨sent, hsent, rfl⟩

theorem persistCluster_same (h : ∀ sent ∈ out.sent, SameCluster vc sent) (p : Patch) :
    SameCluster vc (persistCluster p vc vc out) := by
  obtain heq | ⟨sent, hsent, heq⟩ := persistCluster_cases p vc vc out
  · rw [heq]
    exact .refl vc
  · rw [heq]
    have hsame := h sent hsent
    by_cases hp : p.spec = true
    · simp only [Patch.applyCluster, hp, if_true, ObjectMeta.merge_self, VerdaClusterSpec.merge_self]
      exact ⟨hsame.ns, hsame.name, hsame.deletionTimestamp, hsame.spec⟩
    · simp only [Patch.applyCluster, hp, Bool.false_eq_true, if_false]
      exact ⟨rfl, rfl, rfl, _, rfl⟩

/-- What is stored of a load balancer was so before, or was sent. -/
theorem persistCluster_lbStatus (p : Patch) (seen vc : VerdaCluster) (out : ClusterOutcome)
    (lb : LoadBalancer) :
    lbStatus (persistCluster p seen vc out) lb = lbStatus vc lb ∨
      ∃ sent, out.sent = some sent ∧ lbStatus (persistCluster p seen vc out) lb = lbStatus sent lb := by
  obtain heq | ⟨sent, hsent, heq⟩ := persistCluster_cases p seen vc out
  · exact .inl (by rw [heq])
  · rw [heq]
    by_cases hp : p.status = true
    · refine .inr ⟨sent, hsent, ?_⟩
      cases lb <;> simp [lbStatus, Patch.applyCluster, hp]
    · refine .inl ?_
      cases lb <;> simp [lbStatus, Patch.applyCluster, hp]

end

/-! ## What an edit leaves -/

/-- What users may do to a cluster: they leave its identity, its finalizers and its status, do not take
a deletion back, and the webhooks do not let them switch the control plane load balancer on or off. -/
structure ClusterTouched (vc vc' : VerdaCluster) : Prop where
  ns : vc'.metadata.ns = vc.metadata.ns
  name : vc'.metadata.name = vc.metadata.name
  finalizers : vc'.metadata.finalizers = vc.metadata.finalizers
  deletion : vc.metadata.deletionTimestamp.isSome = true →
    vc'.metadata.deletionTimestamp.isSome = true
  status : vc'.status = vc.status
  enabled : vc'.loadBalancerEnabled = vc.loadBalancerEnabled

theorem ClusterTouched.refl (vc : VerdaCluster) : ClusterTouched vc vc :=
  ⟨rfl, rfl, rfl, fun h => h, rfl, rfl⟩

theorem editCluster_touched {e : ClusterEdit} {vc vc' : VerdaCluster} (h : editCluster e vc = some vc') :
    ClusterTouched vc vc' := by
  cases e with
  | update spec =>
    simp only [editCluster] at h
    split at h
    · rename_i haccepted
      cases h
      simp only [clusterUpdateAccepted, validateClusterUpdate, validateClusterSpecUpdate,
        List.append_eq_nil_iff, immutable_eq_nil] at haccepted
      exact ⟨rfl, rfl, rfl, fun h => h, rfl, haccepted.2.1.2.symm⟩
    · cases h
  | delete t =>
    cases h
    exact ⟨rfl, rfl, rfl, fun _ => rfl, rfl, rfl⟩
  | annotate annotations =>
    cases h
    exact ⟨rfl, rfl, rfl, fun h => h, rfl, rfl⟩

theorem ClusterTouched.trans {vc vc' vc'' : VerdaCluster} (h : ClusterTouched vc vc')
    (h' : ClusterTouched vc' vc'') : ClusterTouched vc vc'' where
  ns := h'.ns.trans h.ns
  name := h'.name.trans h.name
  finalizers := h'.finalizers.trans h.finalizers
  deletion hdel := h'.deletion (h.deletion hdel)
  status := h'.status.trans h.status
  enabled := h'.enabled.trans h.enabled

/-- Any number of edits. -/
theorem ClusterTouched.of_edited {vc vc' : VerdaCluster} (h : Relation.ReflTransGen ClusterTouched vc vc') :
    ClusterTouched vc vc' := by
  induction h with
  | refl => exact .refl vc
  | tail _ h ih => exact ih.trans h

section

variable {vc vc' : VerdaCluster}

/-- A removed cluster stays removed. -/
theorem ClusterTouched.removed (h : ClusterTouched vc vc') (hremoved : clusterRemoved vc = true) :
    clusterRemoved vc' = true := by
  simp only [clusterRemoved, Bool.and_eq_true] at hremoved ⊢
  exact ⟨h.deletion hremoved.1, by rw [h.finalizers]; exact hremoved.2⟩

theorem ClusterTouched.tag (h : ClusterTouched vc vc') : clusterTagValue vc' = clusterTagValue vc := by
  rw [clusterTagValue, clusterTagValue, h.ns, h.name]

theorem ClusterTouched.lbStatus (h : ClusterTouched vc vc') (lb : LoadBalancer) :
    Controller.lbStatus vc' lb = Controller.lbStatus vc lb := by
  cases lb <;> simp only [Controller.lbStatus, h.status]

/-- A patch that is merged into an edited cluster. -/
theorem ClusterTouched.applyCluster (h : ClusterTouched vc vc') (p : Patch) (seen sent : VerdaCluster) :
    ClusterTouched (p.applyCluster seen vc sent) (p.applyCluster seen vc' sent) := by
  have hstatus : (p.applyCluster seen vc' sent).status = (p.applyCluster seen vc sent).status := by
    simp only [Patch.applyCluster, h.status]
  cases hp : p.spec with
  | false =>
    refine ⟨?_, ?_, ?_, ?_, hstatus, ?_⟩ <;>
      simp only [Patch.applyCluster, hp, Bool.false_eq_true, if_false]
    · exact h.ns
    · exact h.name
    · exact h.finalizers
    · exact h.deletion
    · exact h.enabled
  | true =>
    refine ⟨?_, ?_, ?_, ?_, hstatus, ?_⟩ <;>
      simp only [Patch.applyCluster, hp, if_true, ObjectMeta.merge, VerdaClusterSpec.merge]
    · rw [h.ns]
    · rw [h.name]
    · rw [h.finalizers]
    · exact merged_rel (R := fun t t' : Option Time => t.isSome = true → t'.isSome = true)
        (fun _ h => h) h.deletion
    · exact merged_rel (R := fun b b' : Option Bool => b'.getD false = b.getD false)
        (fun _ => rfl) h.enabled

/-- A patch reaches the cluster before and after an edit, or nothing of it arrives. -/
theorem ClusterTouched.persist_cases (h : ClusterTouched vc vc') (p : Patch) (seen : VerdaCluster)
    (out : ClusterOutcome) :
    (persistCluster .lost seen vc out = vc ∧ persistCluster p seen vc' out = vc') ∨
      ∃ sent, persistCluster p seen vc out = p.applyCluster seen vc sent ∧
        persistCluster p seen vc' out = p.applyCluster seen vc' sent := by
  unfold persistCluster
  cases hsent : out.sent with
  | none => exact .inl ⟨rfl, rfl⟩
  | some sent =>
    cases hgone : clusterRemoved vc' with
    | true =>
      refine .inl ⟨?_, if_pos rfl⟩
      dsimp only
      split <;> rfl
    | false =>
      have hthere : clusterRemoved vc = false := by
        cases hremoved : clusterRemoved vc with
        | false => rfl
        | true => rw [h.removed hremoved] at hgone; cases hgone
      exact .inr ⟨sent, by rw [hthere]; rfl, rfl⟩

/-- A part of a cluster that a patch changes in the same way wherever it is the same. -/
def MergesAlone {α : Type} (part : VerdaCluster → α) : Prop :=
  ∀ (p : Patch) (seen sent vc vc' : VerdaCluster), part vc' = part vc →
    part (p.applyCluster seen vc' sent) = part (p.applyCluster seen vc sent)

/-- An edit before a patch is like one after it, of which nothing arrives if the cluster is gone by
then. A part that the edit leaves stays the same in both. -/
theorem ClusterTouched.persist_keeping {α : Type} {part : VerdaCluster → α} (hpart : MergesAlone part)
    (h : ClusterTouched vc vc') (hkeep : part vc' = part vc) (p : Patch) (seen : VerdaCluster)
    (out : ClusterOutcome) : ∃ q, (q = p ∨ q = .lost) ∧
      ClusterTouched (persistCluster q seen vc out) (persistCluster p seen vc' out) ∧
      part (persistCluster p seen vc' out) = part (persistCluster q seen vc out) := by
  rcases h.persist_cases p seen out with ⟨hlost, hpatch⟩ | ⟨sent, hbefore, hafter⟩
  · exact ⟨.lost, .inr rfl, by rw [hlost, hpatch]; exact ⟨h, hkeep⟩⟩
  · refine ⟨p, .inl rfl, ?_⟩
    rw [hbefore, hafter]
    exact ⟨h.applyCluster p seen sent, hpart p seen sent _ _ hkeep⟩

theorem ClusterTouched.persist (h : ClusterTouched vc vc') (p : Patch) (seen : VerdaCluster)
    (out : ClusterOutcome) : ∃ q, (q = p ∨ q = .lost) ∧
      ClusterTouched (persistCluster q seen vc out) (persistCluster p seen vc' out) := by
  have hpart : MergesAlone fun _ : VerdaCluster => () := fun _ _ _ _ _ _ => rfl
  exact (h.persist_keeping hpart rfl p seen out).imp fun _ hq => ⟨hq.1, hq.2.1⟩

theorem identitySecretName_mergesAlone : MergesAlone VerdaCluster.identitySecretName := by
  intro p seen sent vc vc' h
  cases hp : p.spec with
  | false =>
    simp only [VerdaCluster.identitySecretName, Patch.applyCluster, hp, Bool.false_eq_true, if_false]
    exact h
  | true =>
    simp only [VerdaCluster.identitySecretName, Patch.applyCluster, hp, if_true,
      VerdaClusterSpec.merge, merged]
    by_cases hsame : sent.spec.identityRef = seen.spec.identityRef
    · rw [if_pos hsame, if_pos hsame]
      exact h
    · rw [if_neg hsame, if_neg hsame]

/-- Clusters of one namespace that talk to one account name one Secret. -/
theorem identitySecretName_of_account (hns : vc'.metadata.ns = vc.metadata.ns)
    (h : clusterAccount vc' = clusterAccount vc) : vc'.identitySecretName = vc.identitySecretName := by
  simp only [clusterAccount, accountOf, hns] at h
  split at h <;> split at h <;> simp_all

/-- Edits that leave the identity leave the account. -/
theorem ClusterTouched.account (h : ClusterTouched vc vc')
    (hname : vc'.identitySecretName = vc.identitySecretName) : clusterAccount vc' = clusterAccount vc := by
  rw [clusterAccount, clusterAccount, h.ns, hname]

end

/-! ## What a pass runs -/

theorem clientFor_ok {unavailable : Identity → Option Err} {identity : Identity} {a : AccountID}
    (h : clientFor unavailable identity = .ok a) : a = accountOf identity := by
  unfold clientFor at h
  split at h <;> cases h
  rfl

/-- The ways a pass goes: it ends without a request and sends at most other conditions, it stores the
finalizer, or it runs one of the two reconcile functions with the client of its account. -/
theorem startClusterPass_ways {P : ClusterPass → Prop} (inp : ClusterInput) (vc : VerdaCluster)
    (hstop : ∀ out, out.endpoint = none → (∀ sent ∈ out.sent, Reconditions vc sent) → P (.ret out))
    (hhold : vc.metadata.deletionTimestamp = none → clusterFinalizer ∉ vc.metadata.finalizers →
      ∀ reply, P (.ret { reply, sent := some { vc with metadata := { vc.metadata with
        finalizers := vc.metadata.finalizers ++ [clusterFinalizer] } } }))
    (hdelete : vc.metadata.deletionTimestamp ≠ none →
      P (runClusterDelete (clusterAccount vc) inp.now vc))
    (hnormal : ∀ cluster, vc.metadata.deletionTimestamp = none →
      P (runClusterNormal (clusterAccount vc) inp cluster vc)) : P (startClusterPass inp vc) := by
  have hnone : ∀ reply, P (.ret { reply := reply, sent := none }) :=
    fun reply => hstop _ rfl fun sent hs => by cases hs
  have hpatched : ∀ reply vc', Reconditions vc vc' → P (.ret (clusterPatched (reply, vc'))) := by
    intro reply vc' hvc'
    refine hstop _ rfl fun sent hs => ?_
    cases hs
    exact hvc'.trans (patchVerdaCluster_reconditions vc')
  unfold startClusterPass
  split
  · exact hnone _
  · unfold reconcileCluster
    split
    · rename_i hfirst
      exact hhold hfirst.1 hfirst.2 _
    · split
      · exact hnone _
      · split
        · rename_i hdel
          unfold reconcileOrphanCluster
          split
          · exact hpatched _ _ (.refl vc)
          · rename_i a ha
            obtain rfl : a = clusterAccount vc := clientFor_ok ha
            exact hdelete (Option.isSome_iff_ne_none.1 hdel)
        · exact hnone _
      · split
        · exact hnone _
        · exact hnone _
        · unfold reconcileOwnedCluster
          split
          · exact hpatched _ _ ⟨_, rfl⟩
          · rename_i a ha
            obtain rfl : a = clusterAccount vc := clientFor_ok ha
            split
            · rename_i hdel
              exact hdelete (Option.isSome_iff_ne_none.1 hdel)
            · rename_i hdel
              exact hnormal _ (by simpa using hdel)

/-- Whatever a pass sends that runs neither of the two, it keeps what is recorded. -/
theorem startClusterPass_cases {P : ClusterPass → Prop} (inp : ClusterInput) (vc : VerdaCluster)
    (hstop : ∀ out, out.endpoint = none →
      (∀ sent ∈ out.sent, SameCluster vc sent ∧ ∀ lb, lbStatus sent lb = lbStatus vc lb) → P (.ret out))
    (hdelete : vc.metadata.deletionTimestamp ≠ none →
      P (runClusterDelete (clusterAccount vc) inp.now vc))
    (hnormal : ∀ cluster, vc.metadata.deletionTimestamp = none →
      P (runClusterNormal (clusterAccount vc) inp cluster vc)) : P (startClusterPass inp vc) := by
  refine startClusterPass_ways inp vc ?_ (fun _ _ reply => hstop _ rfl ?_) hdelete hnormal
  · exact fun out hend hsent => hstop out hend fun sent hs => ⟨(hsent sent hs).same, (hsent sent hs).lbStatus⟩
  · rintro sent ⟨⟩
    exact ⟨⟨rfl, rfl, rfl, _, rfl⟩, fun lb => by cases lb <;> rfl⟩

/-- The deferred patch sends the cluster with other conditions. -/
theorem sameCluster_patched {vc vc' : VerdaCluster} {reply : Reply}
    {endpoint : Option (Reply × VerdaCluster)} (h : SameCluster vc vc') :
    ∀ sent ∈ (clusterPatched (reply, vc') endpoint).sent, SameCluster vc sent := by
  rintro sent ⟨⟩
  exact h.trans (patchVerdaCluster_reconditions vc').same

/-! ## Proof rules -/

section

variable {W α : Type} {S : Setting W ScopedCall ScopedCall.Res} {T : Setting W ClusterCall ClusterCall.Res}
  {a : AccountID} {lb : LoadBalancer} {w w' : W}

/-- A setting as a part of the reconciler sees it, when it runs with the client of account `a`. -/
def atClient (S : Setting W ScopedCall ScopedCall.Res) (a : AccountID) :
    Setting W ClusterCall ClusterCall.Res :=
  S.comap (fun c => (a, c)) fun _ x => x

/-- A setting as a program of the Verda client sees it. -/
def atVerda (T : Setting W ClusterCall ClusterCall.Res) (lb : LoadBalancer) : Setting W Call Call.Res :=
  T.comap (.verda lb) fun _ x => x

theorem atClient_step {c : ClusterCall} {x : ClusterCall.Res c} :
    (atClient S a).step w c x w' ↔ S.step w (a, c) x w' := by
  simp [atClient, Setting.comap]

theorem atVerda_step {c : Call} {x : Call.Res c} :
    (atVerda T lb).step w c x w' ↔ T.step w (.verda lb c) x w' := by
  constructor
  · rintro ⟨y, rfl, hs⟩
    exact hs
  · exact fun hs => ⟨x, rfl, hs⟩

theorem Setting.Lawful.atClient (hS : S.Lawful) : (atClient S a).Lawful := hS.comap _ _

theorem Setting.Lawful.atVerda (hT : T.Lawful) : (atVerda T lb).Lawful := hT.comap _ _

theorem wp_onVerda {p : ClientM α} {Q : α → W → Prop} (h : p.wp (atVerda T lb) Q w) :
    (onVerda lb p).wp T Q w :=
  Prog.wp_mapOp h

theorem wp_runClusterDelete {now : Time} {vc : VerdaCluster} {Q : ClusterOutcome → W → Prop}
    (h : (ClusterScope.reconcileDelete now vc).wp (atClient S a)
      (fun r w => Q (clusterPatched r) w) w) : (runClusterDelete a now vc).wp S Q w :=
  Prog.wp_map (Prog.wp_mapOp h)

theorem wp_runClusterNormal (hS : S.Lawful) {inp : ClusterInput} {cluster : Cluster}
    {vc : VerdaCluster} {Q : ClusterOutcome → W → Prop}
    (h : (reconcileEndpoint inp.scripts cluster vc).wp (atClient S a) (fun endpoint w =>
      (ClusterScope.reconcileService inp.scripts inp.now cluster endpoint).wp (atClient S a)
        (fun r w => Q (clusterPatched r endpoint) w) w) w) :
    (runClusterNormal a inp cluster vc).wp S Q w := by
  refine Prog.wp_bind hS (Prog.wp_mono ?_ (Prog.wp_mapOp h))
  intro endpoint w _ hservice
  exact Prog.wp_map (Prog.wp_mapOp hservice)

end

/-! ## Parts of sample runs -/

/-- A cluster with its own endpoint and these load balancers. -/
def clusterWith (controlPlane service : ControlPlaneLoadBalancer) : VerdaCluster where
  metadata := { ns := "default", name := "c0", finalizers := [clusterFinalizer] }
  spec :=
    { location := "FIN-01"
      controlPlaneEndpoint := { host := "10.0.0.1", port := 6443 }
      controlPlaneLoadBalancer := controlPlane
      serviceLoadBalancer := service }

/-- An enabled load balancer, as the webhook defaults it. -/
def enabledLB : ControlPlaneLoadBalancer where
  enabled := some true
  instanceType := defaultLoadBalancerInstanceType
  image := defaultLoadBalancerImage

/-- All instances have one address. -/
def sampleAddress (_ : AccountID) (_ : String) : String := "10.0.0.1"

/-- Nothing has happened to this cluster, and the accounts are empty. -/
def clusterState (vc : VerdaCluster) : ClusterState where
  world := { cloud := { account := fun _ => {} } }
  obj := fun _ => vc
  run := fun _ => none

theorem clusterState_initial {vc : VerdaCluster} (hns : vc.metadata.ns = "default")
    (hname : vc.metadata.name = "c0") (hstatus : vc.status = {}) :
    ClusterInitial sampleAddress "default" "c0" (clusterState vc) where
  idle := rfl
  cluster_ns := hns
  cluster_name := hname
  status := hstatus
  made := rfl
  untagged := by
    intro b i hi
    cases hi
  ids := by
    intro b i hi
    cases hi
  addressed := by
    intro b i hi
    cases hi
  unpublished _ := rfl

/-- What a pass over the sample cluster is given. -/
def clusterInput : ClusterInput where
  owner := .ok (some { ns := "default", name := "c0" })
  scripts := { startupScript := fun _ => [], envoyStartupScript := fun _ => [] }

/-- Verda carries out the next requests. -/
def verdaAccepts (n : Nat) : List ClusterMove :=
  List.replicate n (.answer () (.verda (.accept .plain)))

/-- The Secret with the keys of a load balancer. -/
def sampleKeys (secretName : String) : Secret where
  ns := "default"
  name := secretName
  data := [(secretKeyClientPrivate, [1]), (secretKeyClientPublic, [1]), (secretKeyHostPrivate, [1]),
    (secretKeyHostPublic, [1])]

/-- The keys of a load balancer are found. -/
def keysFound (secretName : String) : ClusterMove :=
  .answer () (.reply (.secret (.get "default" secretName)) (.ok (sampleKeys secretName)))

/-- An instance of a load balancer of the sample cluster. -/
def lbInstance (lb : LoadBalancer) (id status : String) : Sdk.Instance where
  id := id
  hostname := match lb with
    | .controlPlane => "c0-lb"
    | .service => "c0-service-lb"
  status := status
  ip := if status = "running" then some "10.0.0.1" else none
  tags := [⟨tagManagedBy, managedByValue⟩, ⟨tagCluster, "default/c0"⟩] ++ match lb with
    | .controlPlane => [⟨tagLoadBalancer, "default/c0"⟩, ⟨tagRole, "load-balancer"⟩]
    | .service => [⟨tagServiceLoadBalancer, "default/c0"⟩, ⟨tagRole, "service-load-balancer"⟩]

/-- Up to the creation of an instance: the keys, the listing by tag, the listing of `CreateInstance`, the
listing of scripts, the instance. -/
def createsLB (lb : LoadBalancer) (id status : String) : List ClusterMove :=
  [.start () clusterInput, keysFound (match lb with
    | .controlPlane => "c0-lb-ssh"
    | .service => "c0-service-lb-ssh")] ++ verdaAccepts 3 ++
    [.answer () (.verda (.accept (.instance_ (lbInstance lb id status) [])))]

/-- The global account moves on to these instances. -/
def relistLB (instances : List Sdk.Instance) (h : (instances.map Sdk.Instance.id).Nodup) : ClusterMove :=
  .drift (.account .global { instances := ⟨instances, h⟩ })

/-- The user switches the service load balancer. -/
def switchService (vc : VerdaCluster) (service : ControlPlaneLoadBalancer) : ClusterMove :=
  .edit () (.update { vc.spec with serviceLoadBalancer := service })

end VerdaCapi.Controller
