import VerdaCapi.Controller.Backends

/-!
# The keys of a load balancer stay the same

An instance gets its SSH host key and the key it admits from the startup script it is created with.
Later passes push backends to it and hand its keys to the workload cluster, and each of them reads the
keys from the Secret again. That works only if all of them use the keys of the startup script.

`keys_pinned`: whatever fails or is lost, all requests that carry keys of a load balancer carry the same
ones, as long as nobody else writes to its Secret. What makes it so is that `ensureKeys` gives out keys
only after they are stored, and takes what is stored when its own creation comes too late.
-/

namespace VerdaCapi.Controller

open Remote Go Api Cloud Webhook

/-! ## The Secrets of the management cluster -/

/-- The world of the passes, with the Secrets they read their keys from. -/
structure KeyedWorld where
  cluster : ClusterWorld
  secrets : Table Secret.key := {}

/-- What the management cluster does with a request for a Secret. -/
def KeyedWorld.react (w : KeyedWorld) : (op : SecretOp) → Except KubeErr op.Ans × KeyedWorld
  | .get ns name =>
    match w.secrets.get (ns, name) with
    | some s => (.ok s, w)
    | none => (.error ⟨.notFound, "not found"⟩, w)
  | .create s =>
    if h : (([s] ++ w.secrets.rows).map Secret.key).Nodup then
      (.ok (), { w with secrets := w.secrets.extend [s] h })
    else (.error ⟨.alreadyExists, "already exists"⟩, w)
  | .update s =>
    match w.secrets.get s.key with
    | some _ => (.ok (), { w with secrets := w.secrets.put s })
    | none => (.error ⟨.notFound, "not found"⟩, w)
  | .delete ns name =>
    match w.secrets.get (ns, name) with
    | some _ => (.ok (), { w with secrets := w.secrets.filter fun s => decide (s.key ≠ (ns, name)) })
    | none => (.error ⟨.notFound, "not found"⟩, w)

/-- A request for a Secret of the management cluster is carried out, or not, or it is and the answer is
lost. All others are answered as in `clusterAnswer`. -/
def keyedAnswer (addressOf : AccountID → String → String) (ch : ClusterChoice) (w : KeyedWorld) :
    (o : ScopedCall) → Option (ScopedCall.Res o × KeyedWorld)
  | (_, .secret op) =>
    match ch with
    | .accept => some (w.react op)
    | .refuse msg => some (.error ⟨.other, msg⟩, w)
    | .lose msg => some (.error ⟨.other, msg⟩, (w.react op).2)
    | _ => none
  | o => (clusterAnswer addressOf ch w.cluster o).map fun r => (r.1, { w with cluster := r.2 })

/-- What happens around the cluster, and what others do to the Secrets. -/
inductive KeyedDrift where
  | cluster (d : ClusterDrift)
  | secrets (secrets : Table Secret.key)

/-- Others create, change and remove Secrets, but not those of load balancers that exist. -/
def keyedDrift (addressOf : AccountID → String → String) (tag : String) :
    KeyedDrift → KeyedWorld → Option KeyedWorld
  | .cluster d, w => (clusterDrift addressOf tag d w.cluster).map fun c => { w with cluster := c }
  | .secrets secrets, w =>
    if ∀ s ∈ w.secrets.rows, isLBSecretName s.name = true → s ∈ secrets.rows then
      some { w with secrets }
    else none

/-- The passes over the cluster `ns/name`, with the Secrets of the management cluster. All passes render
startup scripts in the same way. -/
def keyedSystem (addressOf : AccountID → String → String) (ns name : String) (scripts : LBScripts) :
    System Unit KeyedWorld ScopedCall ScopedCall.Res VerdaCluster ClusterOutcome
      ClusterInput ClusterChoice Patch KeyedDrift ClusterEdit where
  start _ inp := startClusterPass { inp with scripts }
  answer _ := keyedAnswer addressOf
  persist := persistCluster
  drift := keyedDrift addressOf (clusterTagFor ns name)
  edit := editCluster

/-- A state of such a run. -/
abbrev KeyedState := State Unit KeyedWorld ScopedCall ScopedCall.Res VerdaCluster ClusterOutcome

/-! ## Requests that carry keys -/

/-- The startup script of a load balancer. -/
def LBScripts.render (scripts : LBScripts) (lb : LoadBalancer) (keys : Keys) : Bytes :=
  match lb with
  | .controlPlane => scripts.startupScript keys
  | .service => scripts.envoyStartupScript keys

/-- The request carries keys of the load balancer: the upload of its startup script, a push of backends
to the control plane load balancer, or a Secret for the workload cluster about the service load
balancer. -/
def carriesKeys (lb : LoadBalancer) : ClusterCall → Bool
  | .verda lb' ⟨_, .scriptsAdd _ _⟩ => lb' == lb
  | .updateBackends _ _ _ => lb == .controlPlane
  | .workload _ (.create _) => lb == .service
  | .workload _ (.update _) => lb == .service
  | _ => false

/-- The keys it carries are these, or the parts of these that it needs. -/
def UsesKeys (scripts : LBScripts) (lb : LoadBalancer) (keys : Keys) : ClusterCall → Prop
  | .verda _ ⟨_, .scriptsAdd _ script⟩ => script = scripts.render lb keys
  | .updateBackends _ keys' _ => keys' = keys
  | .workload _ (.create s) | .workload _ (.update s) =>
    s.value "ssh-privatekey" = keys.clientPrivateKey ∧ s.value "host-publickey" = keys.hostPublicKey
  | _ => True

/-- The request reads Secrets or creates one. -/
def SecretOp.adds : SecretOp → Bool
  | .get _ _ | .create _ => true
  | _ => false

/-- The request changes and removes no Secret of the management cluster, and whatever keys it carries
are these keys of this load balancer. -/
structure Keyed (scripts : LBScripts) (lb : LoadBalancer) (keys : Keys) (c : ClusterCall) : Prop where
  uses : ∀ lb', carriesKeys lb' c = true → lb' = lb ∧ UsesKeys scripts lb keys c
  adds : ∀ op, c = .secret op → op.adds = true

/-- The request carries no keys at all. -/
structure Keyless (c : ClusterCall) : Prop where
  carries : ∀ lb, carriesKeys lb c = false
  adds : ∀ op, c = .secret op → op.adds = true

section

variable {scripts : LBScripts} {lb : LoadBalancer} {keys : Keys} {c : ClusterCall}

theorem Keyless.keyed (h : Keyless c) : Keyed scripts lb keys c := by
  refine ⟨fun lb' hlb => ?_, h.adds⟩
  rw [h.carries] at hlb
  cases hlb

/-- Only an upload of a startup script carries keys to Verda. -/
theorem keyless_verda {c : Call} (h : ∀ n script, c.op ≠ .scriptsAdd n script) :
    Keyless (.verda lb c) := by
  obtain ⟨m, op⟩ := c
  refine ⟨fun lb' => ?_, fun op h => by cases h⟩
  cases op with
  | scriptsAdd n script => exact absurd rfl (h n script)
  | _ => rfl

theorem keyless_of_uses {M : List Method} {c : Call} (h : Uses M c) (hM : .createInstance ∉ M) :
    Keyless (.verda lb c) :=
  keyless_verda (h.ne_scriptsAdd hM)

theorem ReadsMachines.keyless (h : ReadsMachines c) : Keyless c := by
  cases c with
  | listVerdaMachines ns name => exact ⟨fun _ => rfl, fun op h => by cases h⟩
  | getOwnerMachine metadata => exact ⟨fun _ => rfl, fun op h => by cases h⟩
  | _ => cases h

/-- The upload for a new load balancer carries its keys; the lookups before it carry none. -/
theorem acquire_uploads (scripts : LBScripts) (lb : LoadBalancer) (cluster : Cluster) (vc : VerdaCluster)
    (keys : Keys) : (lb.acquire scripts cluster vc keys).Obeys
      (fun c => Keyed scripts lb keys (.verda lb c)) fun _ => True := by
  have hfind : (lb.find vc).Obeys (fun c => Keyed scripts lb keys (.verda lb c)) fun _ => True := by
    cases lb with
    | controlPlane =>
      exact (findLoadBalancer_uses vc (M := lookupMethods) (by decide) (by decide)).mono
        (fun _ hc => (keyless_of_uses hc (by decide)).keyed) fun _ h => h
    | service =>
      exact (findInstanceByStatusOrTag_uses _ _ _ (M := lookupMethods) (by decide) (by decide)).mono
        (fun _ hc => (keyless_of_uses hc (by decide)).keyed) fun _ h => h
  have hcreate : ∀ spec : InstanceSpec, spec.startupScript = scripts.render lb keys →
      (createInstance spec).Obeys (fun c => Keyed scripts lb keys (.verda lb c)) fun _ => True := by
    intro spec hspec
    refine (createInstance_uploads spec).mono (fun c hc => ?_) fun _ h => h
    obtain ⟨m, op⟩ := c
    by_cases hop : ∃ n script, op = .scriptsAdd n script
    · obtain ⟨n, script, rfl⟩ := hop
      refine ⟨fun lb' hlb => ⟨(beq_iff_eq.1 hlb).symm, ?_⟩, fun op h => by cases h⟩
      exact (hc n script rfl).trans hspec
    · exact (keyless_verda fun n script h => hop ⟨n, script, h⟩).keyed
  cases lb with
  | controlPlane =>
    exact obeys_findOrCreate (P := fun _ => True) hfind (hcreate _ rfl) trivial fun _ => trivial
  | service => exact obeys_findOrCreate (P := fun _ => True) hfind (hcreate _ rfl) trivial fun _ => trivial

/-- Backends are pushed with the keys. -/
theorem settleLoadBalancer_pushes (scripts : LBScripts) (cluster : Cluster) (vc : VerdaCluster)
    (keys : Keys) (inst : Instance) : (settleLoadBalancer cluster vc keys inst).Obeys
      (Keyed scripts .controlPlane keys) fun _ => True := by
  unfold settleLoadBalancer
  dsimp only
  split
  · refine ((controlPlaneAddresses_reads cluster).mono (fun _ hc => hc.keyless.keyed)
      fun _ h => h).bind fun r _ => ?_
    rcases r with e | backends
    · trivial
    · dsimp only
      split
      · refine ⟨⟨fun lb' hlb => ⟨beq_iff_eq.1 hlb, rfl⟩, fun op h => by cases h⟩, fun x => ?_⟩
        rcases x with e | u <;> trivial
      · trivial
  · split <;> trivial

/-- What the workload cluster is handed are the keys. -/
theorem publishServiceLoadBalancerSecret_hands (scripts : LBScripts) (cluster : Cluster)
    (address : String) (keys : Keys) : (publishServiceLoadBalancerSecret cluster address keys).Obeys
      (Keyed scripts .service keys) fun _ => True := by
  have hdata : ∀ s : Secret, s.data = serviceLBSecretData cluster address keys →
      s.value "ssh-privatekey" = keys.clientPrivateKey ∧
        s.value "host-publickey" = keys.hostPublicKey := by
    intro s hs
    rw [Secret.value, Secret.value, hs]
    exact ⟨rfl, rfl⟩
  refine (publishServiceLoadBalancerSecret_publishes cluster address keys).mono (fun c hc => ?_) fun _ h => h
  cases c with
  | kubeconfigFromSecret ns name => exact Keyless.keyed ⟨fun _ => rfl, fun op h => by cases h⟩
  | workloadClient kubeconfig => exact Keyless.keyed ⟨fun _ => rfl, fun op h => by cases h⟩
  | workload kubeconfig op =>
    cases op with
    | get ns name => exact Keyless.keyed ⟨fun _ => rfl, fun op h => by cases h⟩
    | create s => exact ⟨fun lb' hlb => ⟨beq_iff_eq.1 hlb, hdata s hc⟩, fun op h => by cases h⟩
    | update s => exact ⟨fun lb' hlb => ⟨beq_iff_eq.1 hlb, hdata s hc⟩, fun op h => by cases h⟩
    | delete ns name => exact hc.elim
  | _ => exact hc.elim

theorem settleServiceLoadBalancer_hands (scripts : LBScripts) (cluster : Cluster) (vc : VerdaCluster)
    (keys : Keys) (inst : Instance) : (settleServiceLoadBalancer cluster vc keys inst).Obeys
      (Keyed scripts .service keys) fun _ => True := by
  unfold settleServiceLoadBalancer
  dsimp only
  split
  · refine (publishServiceLoadBalancerSecret_hands scripts cluster inst.ip keys).bind fun r _ => ?_
    rcases r with e | u <;> trivial
  · split <;> trivial

/-- Disabling the service load balancer needs no keys. -/
theorem disableService_keyless (now : Time) (cluster : Cluster) (result : Result) (vc : VerdaCluster) :
    (ClusterScope.disableService now cluster result vc).Obeys Keyless fun _ => True := by
  have hdelete : (onVerda .service (deleteServiceLoadBalancer now vc)).Obeys Keyless fun _ => True :=
    (deleteServiceLoadBalancer_uses now vc).mapOp (fun _ hc => keyless_of_uses hc (by decide)) |>.mono
      (fun _ h => h) fun _ _ => trivial
  have hremove : (removeServiceLoadBalancerSecret cluster).Obeys Keyless fun _ => True := by
    refine ⟨⟨fun _ => rfl, fun op h => by cases h⟩, fun x => ?_⟩
    rcases x with e | kubeconfig
    · trivial
    · refine ⟨⟨fun _ => rfl, fun op h => by cases h⟩, fun x => ?_⟩
      rcases x with e | u
      · trivial
      · exact ⟨⟨fun _ => rfl, fun op h => by cases h⟩, fun _ => trivial⟩
  unfold ClusterScope.disableService
  dsimp only
  split
  · refine hdelete.bind fun r _ => ?_
    rcases r with ⟨e | (_ | _), vc₁⟩
    · trivial
    · exact hremove.bind fun _ _ => trivial
    · trivial
  · trivial

end

/-! ## What is stored -/

/-- The keys a Secret holds, whether they are complete or not. -/
def storedKeys (s : Secret) : Keys where
  clientPrivateKey := s.value secretKeyClientPrivate
  clientPublicKey := s.value secretKeyClientPublic
  hostPrivateKey := s.value secretKeyHostPrivate
  hostPublicKey := s.value secretKeyHostPublic

/-- The Secret of a load balancer of the cluster `ns/name` is stored, with these keys. -/
def KeysHeld (ns name : String) (lb : LoadBalancer) (keys : Keys) (w : KeyedWorld) : Prop :=
  ∃ s ∈ w.secrets.rows, s.key = (ns, LBKey.secretName (name, lb)) ∧ storedKeys s = keys

/-- The Secrets of load balancers are still there as they were. -/
def SecretsStay (w w' : KeyedWorld) : Prop :=
  ∀ s ∈ w.secrets.rows, isLBSecretName s.name = true → s ∈ w'.secrets.rows

section

variable {addressOf : AccountID → String → String} {ns name tag : String} {lb : LoadBalancer}
  {keys keys' : Keys} {w w' w'' : KeyedWorld} {ch : ClusterChoice} {a : AccountID} {c : ClusterCall}

theorem storedKeys_of_ok {s : Secret} (h : keysFromSecret s = .ok keys) : storedKeys s = keys := by
  simp only [keysFromSecret] at h
  split at h <;> cases h
  rfl

theorem SecretsStay.trans (h : SecretsStay w w') (h' : SecretsStay w' w'') : SecretsStay w w'' :=
  fun s hs hname => h' s (h s hs hname) hname

theorem SecretsStay.of_eq (h : w'.secrets = w.secrets) : SecretsStay w w' := by
  intro s hs _
  rw [h]
  exact hs

theorem KeysHeld.stay (h : KeysHeld ns name lb keys w) (hw : SecretsStay w w') :
    KeysHeld ns name lb keys w' := by
  obtain ⟨s, hs, hkey, hkeys⟩ := h
  have hname : s.name = LBKey.secretName (name, lb) := congrArg Prod.snd hkey
  exact ⟨s, hw s hs (hname ▸ isLBSecretName_secretName _), hkey, hkeys⟩

/-- Two Secrets never have one name. -/
theorem KeysHeld.unique (h : KeysHeld ns name lb keys w) (h' : KeysHeld ns name lb keys' w) :
    keys = keys' := by
  obtain ⟨s, hs, hkey, rfl⟩ := h
  obtain ⟨s', hs', hkey', rfl⟩ := h'
  rw [w.secrets.eq_of_key hs hs' (hkey.trans hkey'.symm)]

/-- Reading and creating leaves every Secret there. -/
theorem react_stays {op : SecretOp} (h : op.adds = true) : SecretsStay w (w.react op).2 := by
  cases op with
  | get ns name =>
    simp only [KeyedWorld.react]
    split <;> exact .of_eq rfl
  | create s =>
    simp only [KeyedWorld.react]
    split
    · exact fun s' hs' _ => Table.mem_extend.2 (.inr hs')
    · exact .of_eq rfl
  | _ => cases h

theorem keyedAnswer_stays {x : ScopedCall.Res (a, c)} (hc : ∀ op, c = .secret op → op.adds = true)
    (h : keyedAnswer addressOf ch w (a, c) = some (x, w')) : SecretsStay w w' := by
  cases c with
  | secret op =>
    have hreact := react_stays (w := w) (hc op rfl)
    simp only [keyedAnswer] at h
    split at h
    · have hw' : (w.react op).2 = w' := congrArg Prod.snd (Option.some.inj h)
      exact hw' ▸ hreact
    · cases h
      exact .of_eq rfl
    · cases h
      exact hreact
    · cases h
  | _ =>
    obtain ⟨r, -, heq⟩ := Option.map_eq_some_iff.1 h
    cases heq
    exact .of_eq rfl

/-- What is read is stored under the name that was asked for. -/
theorem keyedAnswer_get {s : Secret}
    (h : keyedAnswer addressOf ch w (a, .secret (.get ns name)) = some (.ok s, w')) :
    s ∈ w'.secrets.rows ∧ s.key = (ns, name) := by
  simp only [keyedAnswer, KeyedWorld.react] at h
  split at h
  · split at h
    · rename_i s' hget
      cases h
      exact Table.get_eq_some_iff.1 hget
    · cases h
  · cases h
  · cases h
  · cases h

/-- What is created is stored. -/
theorem keyedAnswer_create {s : Secret} {u : Unit}
    (h : keyedAnswer addressOf ch w (a, .secret (.create s)) = some (.ok u, w')) :
    s ∈ w'.secrets.rows := by
  simp only [keyedAnswer, KeyedWorld.react] at h
  split at h
  · split at h <;> cases h
    exact List.mem_cons_self
  · cases h
  · cases h
  · cases h

theorem keyedDrift_stays {d : KeyedDrift} (h : keyedDrift addressOf tag d w = some w') :
    SecretsStay w w' := by
  cases d with
  | cluster d =>
    obtain ⟨c, -, rfl⟩ := Option.map_eq_some_iff.1 h
    exact .of_eq rfl
  | secrets secrets =>
    simp only [keyedDrift] at h
    split at h
    · rename_i hstay
      cases h
      exact hstay
    · cases h

end

/-! ## The invariant -/

/-- A request that carries keys carries those of the stored Secret, and none changes or removes a
Secret. -/
def pinned (addressOf : AccountID → String → String) (ns name : String) (scripts : LBScripts) :
    Invariant (keyedSystem addressOf ns name scripts) {} where
  inv _ := True
  loc _ vc _ := vc.metadata.ns = ns ∧ vc.metadata.name = name
  touch _ := ClusterTouched
  rely _ := SecretsStay
  guar _ _ w o := (∀ lb, carriesKeys lb o.2 = true →
      ∃ keys, KeysHeld ns name lb keys w ∧ UsesKeys scripts lb keys o.2) ∧
    ∀ op, o.2 = .secret op → op.adds = true
  done _ _ _ _ := True

section

variable {addressOf : AccountID → String → String} {ns name : String} {scripts : LBScripts}
  {lb : LoadBalancer} {keys : Keys} {vc vc₁ : VerdaCluster} {a : AccountID} {w w' : KeyedWorld} {α : Type}

/-- The setting of a pass, with the client of one account. -/
abbrev pinnedAt (addressOf : AccountID → String → String) (ns name : String) (scripts : LBScripts)
    (vc : VerdaCluster) (a : AccountID) : Setting KeyedWorld ClusterCall ClusterCall.Res :=
  atClient ((pinned addressOf ns name scripts).setting () vc) a

theorem pinned_lawful : ((pinned addressOf ns name scripts).setting () vc).Lawful :=
  ⟨fun _ => .of_eq rfl, .trans⟩

theorem pinnedAt_lawful : (pinnedAt addressOf ns name scripts vc a).Lawful :=
  Setting.Lawful.atClient pinned_lawful

theorem keysHeld_stable : (pinnedAt addressOf ns name scripts vc a).Stable (KeysHeld ns name lb keys) :=
  fun _ _ h hr _ => h.stay hr

theorem pinned_step {c : ClusterCall} {x : c.Res}
    (hs : (pinnedAt addressOf ns name scripts vc a).step w c x w') :
    ∃ ch, keyedAnswer addressOf ch w (a, c) = some (x, w') :=
  (atClient_step.1 hs).2

theorem Keyless.allowed {c : ClusterCall} (h : Keyless c) :
    (pinnedAt addressOf ns name scripts vc a).guar w c := by
  refine ⟨fun lb hlb => ?_, h.adds⟩
  rw [h.carries lb] at hlb
  cases hlb

theorem Keyed.allowed {c : ClusterCall} (h : Keyed scripts lb keys c)
    (hw : KeysHeld ns name lb keys w) : (pinnedAt addressOf ns name scripts vc a).guar w c := by
  refine ⟨fun lb' hlb => ?_, h.adds⟩
  obtain ⟨rfl, huses⟩ := h.uses lb' hlb
  exact ⟨keys, hw, huses⟩

/-- Parts of a pass that carry no keys. -/
theorem pinned_keyless {p : ClusterM α} {R : α → Prop} (hp : p.Obeys Keyless R) (w : KeyedWorld) :
    p.wp (pinnedAt addressOf ns name scripts vc a) (fun r _ => R r) w :=
  Prog.wp_of_obeys hp fun _ _ hc _ => hc.allowed

/-- Parts of a pass that carry the keys that are stored. -/
theorem pinned_keyed {p : ClusterM α} {R : α → Prop} (hp : p.Obeys (Keyed scripts lb keys) R)
    (hw : KeysHeld ns name lb keys w) : p.wp (pinnedAt addressOf ns name scripts vc a)
      (fun r w => KeysHeld ns name lb keys w ∧ R r) w := by
  refine Prog.wp_frame hp keysHeld_stable (fun w c hc hw _ => hc.allowed hw) ?_ hw
  intro w c x w' hc hw _ hs _
  obtain ⟨ch, hans⟩ := pinned_step hs
  exact hw.stay (keyedAnswer_stays hc.adds hans)

/-- What `ensureKeys` returns is stored. -/
theorem pinned_ensureKeys (cluster : Cluster) {name' : String} (hns : vc₁.metadata.ns = ns)
    (hname : name' = LBKey.secretName (name, lb)) (w : KeyedWorld) :
    (ensureKeys cluster vc₁ name').wp (pinnedAt addressOf ns name scripts vc a)
      (fun r w => ∀ keys, r = .ok keys → KeysHeld ns name lb keys w) w := by
  have hstable : ∀ r : Except Err Keys, (pinnedAt addressOf ns name scripts vc a).Stable
      fun w => ∀ keys, r = .ok keys → KeysHeld ns name lb keys w :=
    fun r w w' h hr hi keys hk => keysHeld_stable w w' (h keys hk) hr hi
  have herr : ∀ (e : Err) (w : KeyedWorld), (Prog.ret (.error e) : ClusterM (Except Err Keys)).wp
      (pinnedAt addressOf ns name scripts vc a)
      (fun r w => ∀ keys, r = .ok keys → KeysHeld ns name lb keys w) w :=
    fun e w => Prog.wp_ret_stable (hstable _) fun k hk => by cases hk
  have hcall : ∀ {c : ClusterCall} {next : c.Res → ClusterM (Except Err Keys)} (w : KeyedWorld),
      Keyless c → (∀ x w w', (∃ ch, keyedAnswer addressOf ch w (a, c) = some (x, w')) →
        (next x).wp (pinnedAt addressOf ns name scripts vc a)
          (fun r w => ∀ keys, r = .ok keys → KeysHeld ns name lb keys w) w') →
      (Prog.call c next).wp (pinnedAt addressOf ns name scripts vc a)
        (fun r w => ∀ keys, r = .ok keys → KeysHeld ns name lb keys w) w :=
    fun w hc hnext => Prog.wp_call_any fun w _ =>
      ⟨hc.allowed, fun x w' hs _ => hnext x w w' (pinned_step hs)⟩
  have hsecret : ∀ {op : SecretOp}, op.adds = true → Keyless (.secret op) := by
    intro op hop
    refine ⟨fun _ => rfl, fun op' h => ?_⟩
    cases h
    exact hop
  -- a Secret that is found holds what is returned
  have hfound : ∀ {s : Secret} {w w' : KeyedWorld} {ch : ClusterChoice},
      keyedAnswer addressOf ch w (a, .secret (.get vc₁.metadata.ns name')) = some (.ok s, w') →
      (Prog.ret (keysFromSecret s) : ClusterM (Except Err Keys)).wp
        (pinnedAt addressOf ns name scripts vc a)
        (fun r w => ∀ keys, r = .ok keys → KeysHeld ns name lb keys w) w' := by
    intro s w w' ch hans
    obtain ⟨hs, hkey⟩ := keyedAnswer_get hans
    rw [hns, hname] at hkey
    exact Prog.wp_ret_stable (hstable _) fun k hk => ⟨s, hs, hkey, storedKeys_of_ok hk⟩
  refine hcall w (hsecret rfl) fun (x : Except KubeErr Secret) w w' ⟨ch, hans⟩ => ?_
  rcases x with e | s
  · show (if e.reason ≠ .notFound then _ else _ : ClusterM (Except Err Keys)).wp _ _ _
    split
    · exact herr _ w'
    · refine hcall w' ⟨fun _ => rfl, fun op h => by cases h⟩ fun x w w' _ => ?_
      rcases x with e | keys
      · exact herr _ w'
      · refine hcall w' (hsecret rfl) fun (x : Except KubeErr Unit) w w' ⟨ch, hans⟩ => ?_
        rcases x with e | u
        · show (if e.reason = .alreadyExists then _ else _ : ClusterM (Except Err Keys)).wp _ _ _
          split
          · refine hcall w' (hsecret rfl) fun (x : Except KubeErr Secret) w w' ⟨ch, hans⟩ => ?_
            rcases x with e | s
            · exact herr _ w'
            · exact hfound hans
          · exact herr _ w'
        · refine Prog.wp_ret_stable (hstable _) fun k hk => ?_
          cases hk
          refine ⟨_, keyedAnswer_create hans, ?_, rfl⟩
          rw [Secret.key, keysSecret, hns, hname]
  · exact hfound hans

/-- A pass makes sure of a load balancer: the keys are stored before anything carries them. -/
theorem pinned_ensureLB (lb : LoadBalancer) (cluster : Cluster) {name' : String} {β : Type}
    {settle : VerdaCluster → Keys → Instance → ClusterM (Except Err β × VerdaCluster)}
    (hns : vc₁.metadata.ns = ns) (hname : name' = LBKey.secretName (name, lb))
    (hkeeps : ∀ k, (lb.acquire scripts cluster vc₁ k).Obeys (fun _ => True) fun r => Reconditions vc₁ r.2)
    (hsettle : ∀ vc k inst, (settle vc k inst).Obeys (Keyed scripts lb k) fun r => SameCluster vc r.2)
    (w : KeyedWorld) : (provideLB lb cluster vc₁ name' (lb.acquire scripts cluster vc₁) settle).wp
      (pinnedAt addressOf ns name scripts vc a) (fun r _ => SameCluster vc₁ r.2) w := by
  have hret : ∀ (r : Except Err β × VerdaCluster) (w : KeyedWorld), SameCluster vc₁ r.2 →
      (Prog.ret r : ClusterM _).wp (pinnedAt addressOf ns name scripts vc a)
        (fun r _ => SameCluster vc₁ r.2) w :=
    fun r w h => Prog.wp_ret_stable (fun _ _ h _ _ => h) h
  refine Prog.wp_bind pinnedAt_lawful (Prog.wp_mono ?_ (pinned_ensureKeys cluster hns hname w))
  rintro (e | k) w - hkeys
  · exact hret _ w (.refl vc₁)
  · have hacquire : (onVerda lb (lb.acquire scripts cluster vc₁ k)).Obeys (Keyed scripts lb k)
        fun r => Reconditions vc₁ r.2 :=
      ((acquire_uploads scripts lb cluster vc₁ k).and (hkeeps k)).mapOp (fun _ h => h.1) |>.mono
        (fun _ h => h) fun _ h => h.2
    refine Prog.wp_bind pinnedAt_lawful (Prog.wp_mono ?_ (pinned_keyed hacquire (hkeys k rfl)))
    rintro ⟨e | inst, vc₂⟩ w - ⟨hw, hre⟩
    · exact hret _ w hre.same
    · refine Prog.wp_mono ?_ (pinned_keyed (hsettle vc₂ k inst) hw)
      exact fun r _ _ hr => hre.same.trans hr.2

theorem pinned_reconcileEndpoint (cluster : Cluster) (hns : vc₁.metadata.ns = ns)
    (hname : vc₁.metadata.name = name) (w : KeyedWorld) : (reconcileEndpoint scripts cluster vc₁).wp
      (pinnedAt addressOf ns name scripts vc a) (fun r _ => SameCluster vc₁ r.2) w := by
  unfold reconcileEndpoint
  split
  · refine pinned_ensureLB .controlPlane cluster hns ?_ (acquireLoadBalancer_keeps scripts cluster vc₁)
      (fun vc k inst => ?_) w
    · rw [← hname]
      exact secretName_eq .controlPlane vc₁
    · exact ((settleLoadBalancer_pushes scripts cluster vc k inst).and
        (settleLoadBalancer_settles cluster vc k inst)).mono (fun _ h => h.1) fun _ h => h.2.same
  · have hret : ∀ (reply : Reply) (vc' : VerdaCluster), SameCluster vc₁ vc' →
        (Prog.ret (reply, vc') : ClusterM _).wp (pinnedAt addressOf ns name scripts vc a)
          (fun r _ => SameCluster vc₁ r.2) w :=
      fun reply vc' h => Prog.wp_ret_stable (fun _ _ h _ _ => h) h
    dsimp only
    split <;> split <;> exact hret _ _ ⟨rfl, rfl, rfl, _, rfl⟩

theorem pinned_reconcileService (now : Time) (cluster : Cluster) (endpoint : Reply × VerdaCluster)
    (hns : endpoint.2.metadata.ns = ns) (hname : endpoint.2.metadata.name = name) (w : KeyedWorld) :
    (ClusterScope.reconcileService scripts now cluster endpoint).wp
      (pinnedAt addressOf ns name scripts vc a) (fun r _ => SameCluster endpoint.2 r.2) w := by
  have hret : ∀ (r : Reply × VerdaCluster) (w : KeyedWorld), SameCluster endpoint.2 r.2 →
      (Prog.ret r : ClusterM _).wp (pinnedAt addressOf ns name scripts vc a)
        (fun r _ => SameCluster endpoint.2 r.2) w :=
    fun r w h => Prog.wp_ret_stable (fun _ _ h _ _ => h) h
  obtain ⟨e | result, vc₁⟩ := endpoint
  · exact hret _ w (.refl vc₁)
  · simp only [ClusterScope.reconcileService]
    split
    · refine pinned_keyless (((disableService_keyless now cluster result vc₁).and
        (disableService_obeys now cluster result vc₁)).mono (fun _ h => h.1) fun _ h => h.2.1) w
    · refine Prog.wp_bind pinnedAt_lawful (Prog.wp_mono ?_ (pinned_ensureLB .service cluster hns ?_
        (acquireServiceLoadBalancer_keeps scripts cluster vc₁) (fun vc k inst => ?_) w))
      · rintro ⟨e | requeue, vc₂⟩ w - hw
        · exact hret _ w hw
        · dsimp only
          split <;> exact hret _ w hw
      · rw [← hname]
        exact secretName_eq .service vc₁
      · exact ((settleServiceLoadBalancer_hands scripts cluster vc k inst).and
          (settleServiceLoadBalancer_settles cluster vc k inst)).mono (fun _ h => h.1) fun _ h => h.2.same

theorem pinned_startClusterPass (inp : ClusterInput) (hscripts : inp.scripts = scripts)
    (hns : vc.metadata.ns = ns) (hname : vc.metadata.name = name) (w : KeyedWorld) :
    (startClusterPass inp vc).wp ((pinned addressOf ns name scripts).setting () vc)
      (fun out _ => ∀ sent ∈ out.sent, SameCluster vc sent) w := by
  subst hscripts
  refine startClusterPass_cases (P := fun pass => pass.wp _
    (fun out _ => ∀ sent ∈ out.sent, SameCluster vc sent) w) inp vc ?_ ?_ ?_
  · exact fun out _ hout _ _ _ sent hs => (hout sent hs).1
  · intro _
    refine wp_runClusterDelete (Prog.wp_mono (fun r _ _ hr => sameCluster_patched hr.1) (pinned_keyless
      ((reconcileDelete_obeys inp.now vc).mono ?_ fun _ h => h) w))
    rintro c ⟨lb, c', rfl, hc⟩
    exact keyless_of_uses hc (by decide)
  · intro cluster _
    refine wp_runClusterNormal pinned_lawful (Prog.wp_mono ?_
      (pinned_reconcileEndpoint cluster hns hname w))
    rintro endpoint w - hend
    refine Prog.wp_mono (fun r _ _ hr => sameCluster_patched (hend.trans hr))
      (pinned_reconcileService inp.now cluster endpoint (hend.ns.trans hns) (hend.name.trans hname) w)

theorem pinned_valid : (pinned addressOf ns name scripts).Valid where
  refl _ _ := .of_eq rfl
  trans _ {_ _ _} h h' := h.trans h'
  drift _ hd := ⟨trivial, fun _ => ⟨fun _ => keyedDrift_stays hd, fun _ h => h⟩⟩
  edit _ he := editCluster_touched he
  touched _ hloc h := ⟨(ClusterTouched.ns h).trans hloc.1, (ClusterTouched.name h).trans hloc.2⟩
  merge h _ := (ClusterTouched.persist h _ _ _).imp fun _ hq => ⟨trivial, hq.2⟩
  call _ hloc _ _ _ := ⟨trivial, hloc, fun _ hj => absurd rfl hj⟩
  pass {i inp vc w} _ hloc _ := by
    refine Invariant.wp_persist (Prog.wp_mono ?_
      (pinned_startClusterPass { inp with scripts } rfl hloc.1 hloc.2 w))
    intro out w _ hsent
    refine ⟨trivial, fun p => ?_⟩
    have hsame := persistCluster_same hsent p
    exact ⟨hsame.ns.trans hloc.1, hsame.name.trans hloc.2⟩

/-- A run leaves the Secrets of load balancers there. -/
theorem secretsStay_of_reach {s s' : KeyedState} (h : (pinned addressOf ns name scripts).Holds s)
    (hr : Reach (keyedSystem addressOf ns name scripts) {} s s') :
    SecretsStay s.world s'.world := by
  refine h.evolves pinned_valid (fun _ => .of_eq rfl) .trans ?_ (fun _ hd => keyedDrift_stays hd) hr
  intro i vc ch w o x w' _ hguar hans
  obtain ⟨a, c⟩ := o
  exact keyedAnswer_stays hguar.2 hans

end

/-- **Keys are pinned.** In a run in which nobody else changes or removes the Secrets of load balancers,
two requests that carry keys of the same load balancer carry the same keys: the startup script an
instance is created with, every push of backends to it, and what the workload cluster is told about it
go together, across lost passes, lost answers and Secrets that others create first. -/
theorem keys_pinned {addressOf : AccountID → String → String} {ns name : String} {scripts : LBScripts}
    {s₀ s s' : KeyedState} (hns : (s₀.obj ()).metadata.ns = ns) (hname : (s₀.obj ()).metadata.name = name)
    (hidle : s₀.run () = none) (h : Reach (keyedSystem addressOf ns name scripts) {} s₀ s)
    (h' : Reach (keyedSystem addressOf ns name scripts) {} s s') {lb : LoadBalancer}
    {o o' : ScopedCall} {next : ScopedCall.Res o → ClusterPass} {next' : ScopedCall.Res o' → ClusterPass}
    (hrun : s.run () = some (.call o next)) (hrun' : s'.run () = some (.call o' next'))
    (hcarries : carriesKeys lb o.2 = true) (hcarries' : carriesKeys lb o'.2 = true) :
    ∃ keys, UsesKeys scripts lb keys o.2 ∧ UsesKeys scripts lb keys o'.2 := by
  have hholds : (pinned addressOf ns name scripts).Holds s :=
    Invariant.sound pinned_valid trivial (fun _ => ⟨hns, hname⟩) (fun _ => hidle) h
  obtain ⟨keys, hkept, huses⟩ := (hholds.guar pinned_valid hrun).1 lb hcarries
  obtain ⟨keys', hkept', huses'⟩ :=
    ((hholds.reach pinned_valid h').guar pinned_valid hrun').1 lb hcarries'
  -- the Secret of the first request is still there at the second
  have heq : keys = keys' := (hkept.stay (secretsStay_of_reach hholds h')).unique hkept'
  exact ⟨keys, huses, heq ▸ huses'⟩

/-- The pass waits for the answer to a request that carries keys. -/
def waitsWithKeys (lb : LoadBalancer) (s : KeyedState) : Bool :=
  match s.run () with
  | some (.call o _) => carriesKeys lb o.2
  | _ => false

theorem waitsWithKeys_iff {lb : LoadBalancer} {s : KeyedState} (h : waitsWithKeys lb s = true) :
    ∃ o next, s.run () = some (.call o next) ∧ carriesKeys lb o.2 = true := by
  unfold waitsWithKeys at h
  split at h
  · rename_i o next hrun
    exact ⟨o, next, hrun, h⟩
  · cases h

/-- Scripts that show which keys they were rendered with. -/
def echoScripts : LBScripts where
  startupScript keys := keys.hostPrivateKey ++ keys.clientPublicKey
  envoyStartupScript keys := keys.hostPrivateKey ++ keys.clientPublicKey

/-- The sample cluster, with no Secret and nothing at Verda. -/
def keyedState : KeyedState where
  world := { cluster := { cloud := { account := fun _ => {} } } }
  obj := fun _ => clusterWith enabledLB {}
  run := fun _ => none

/-- The creation of the Secret is carried out but its answer is lost, and the pass ends. The next one
finds the Secret, creates the load balancer and pushes the first backend to it. -/
theorem keys_pinned_sample : ∃ s s' : KeyedState, ∃ o o' next next',
    s.run () = some (.call o next) ∧ s'.run () = some (.call o' next') ∧
      (∃ keys, UsesKeys echoScripts .controlPlane keys o.2 ∧
        UsesKeys echoScripts .controlPlane keys o'.2) := by
  obtain ⟨s, s', hs, hwaits, hs', hwaits'⟩ := exists_reach_then
    (keyedSystem sampleAddress "default" "c0" echoScripts) {} keyedState
    (waitsWithKeys .controlPlane) (waitsWithKeys .controlPlane)
    [.start () clusterInput, .answer () .accept, .answer () (.reply .generateKeys (.ok ⟨[1], [2], [3], [4]⟩)),
      .answer () (.lose "timeout"), .finish () {}, .start () clusterInput, .answer () .accept,
      .answer () (.verda (.accept .plain)), .answer () (.verda (.accept .plain)),
      .answer () (.verda (.accept .plain))]
    [.answer () (.verda (.accept (.script ⟨"s1", "c0-lb", [3, 2]⟩))),
      .answer () (.verda (.accept (.instance_ (lbInstance .controlPlane "x1" "running") []))),
      .answer () (.reply (.listVerdaMachines "default" "c0") (.ok [controlPlaneMachine "10.0.0.5"]))]
    (by decide +kernel)
  obtain ⟨o, next, hrun, hcarries⟩ := waitsWithKeys_iff hwaits
  obtain ⟨o', next', hrun', hcarries'⟩ := waitsWithKeys_iff hwaits'
  refine ⟨s, s', o, o', next, next', hrun, hrun', ?_⟩
  refine keys_pinned ?_ ?_ ?_ hs hs' hrun hrun' hcarries hcarries'
  all_goals rfl

end VerdaCapi.Controller
