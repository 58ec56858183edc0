import VerdaCapi.Controller.ClusterFootprint

/-!
# The SSH keys of load balancers

Each load balancer has a Secret with its SSH keys, under a name that is made from the name of its
cluster. `ensureKeys` takes whatever Secret it finds under that name, and the Secret belongs to the
VerdaCluster whose pass created it: it is removed with that VerdaCluster.

`keys_separate_iff`: the load balancers of a set of clusters have names of their own, never share keys,
and lose their keys only with their own cluster, exactly if no cluster is called like another one with
`-service` appended. `keys_shared` is a run of two such clusters.
-/

namespace VerdaCapi.Controller

open Remote Go Api Cloud

/-! ## Names -/

/-- The Secret of a load balancer. -/
def LoadBalancer.secretName (lb : LoadBalancer) (vc : VerdaCluster) : String :=
  match lb with
  | .controlPlane => loadBalancerSecretName vc
  | .service => serviceLoadBalancerSecretName vc

/-- The hostname of its instance. -/
def LoadBalancer.hostname (lb : LoadBalancer) (vc : VerdaCluster) : String :=
  match lb with
  | .controlPlane => loadBalancerHostname vc
  | .service => serviceLoadBalancerHostname vc

/-- A load balancer of a namespace: the name of its cluster, and which of the two it is. -/
abbrev LBKey := String × LoadBalancer

def LBKey.hostname : LBKey → String
  | (cluster, .controlPlane) => cluster ++ "-lb"
  | (cluster, .service) => cluster ++ "-service-lb"

def LBKey.secretName (x : LBKey) : String := LBKey.hostname x ++ "-ssh"

/-- The suffix that all these Secrets have. -/
def isLBSecretName (name : String) : Bool := "-lb-ssh".toList.isSuffixOf name.toList

/-- No cluster is called like another one with `-service` appended. -/
def NoServiceSuffix (clusters : Set String) : Prop :=
  ∀ c ∈ clusters, ∀ d ∈ clusters, c ≠ d ++ "-service"

section

variable {clusters : Set String} {x y : LBKey}

theorem hostname_eq (lb : LoadBalancer) (vc : VerdaCluster) :
    lb.hostname vc = LBKey.hostname (vc.metadata.name, lb) := by
  cases lb <;> rfl

theorem secretName_eq (lb : LoadBalancer) (vc : VerdaCluster) :
    lb.secretName vc = LBKey.secretName (vc.metadata.name, lb) := by
  cases lb <;> simp [LoadBalancer.secretName, LBKey.secretName, LBKey.hostname, loadBalancerSecretName,
    serviceLoadBalancerSecretName, String.append_assoc]

theorem isLBSecretName_secretName (x : LBKey) : isLBSecretName (LBKey.secretName x) = true := by
  rcases x with ⟨cluster, _ | _⟩
  · simp [isLBSecretName, LBKey.secretName, LBKey.hostname]
  · refine List.isSuffixOf_iff_suffix.2 ⟨(cluster ++ "-service").toList, ?_⟩
    simp [LBKey.secretName, LBKey.hostname]

/-- The only way in which two load balancers get one hostname. -/
theorem lb_eq_service_iff {c d : String} : c ++ "-lb" = d ++ "-service-lb" ↔ c = d ++ "-service" := by
  have hsuffix : d ++ "-service-lb" = d ++ "-service" ++ "-lb" := by simp [String.append_assoc]
  rw [hsuffix, String.append_left_inj]

/-- Without it, different load balancers have different hostnames. -/
theorem hostname_inj (h : NoServiceSuffix clusters) (hx : x.1 ∈ clusters) (hy : y.1 ∈ clusters)
    (heq : LBKey.hostname x = LBKey.hostname y) : x = y := by
  rcases x with ⟨c, _ | _⟩
  · rcases y with ⟨d, _ | _⟩
    · exact congrArg (·, _) (String.append_left_inj _ |>.1 heq)
    · exact absurd (lb_eq_service_iff.1 heq) (h c hx d hy)
  · rcases y with ⟨d, _ | _⟩
    · exact absurd (lb_eq_service_iff.1 heq.symm) (h d hy c hx)
    · exact congrArg (·, _) (String.append_left_inj _ |>.1 heq)

theorem secretName_inj (h : NoServiceSuffix clusters) (hx : x.1 ∈ clusters) (hy : y.1 ∈ clusters)
    (heq : LBKey.secretName x = LBKey.secretName y) : x = y :=
  hostname_inj h hx hy (String.append_left_inj _ |>.1 heq)

end

/-! ## A store of Secrets -/

/-- The key of a Secret in the API. -/
def Secret.key (s : Secret) : String × String := (s.ns, s.name)

/-- The Secrets of the management cluster, and which keys were generated for which load balancer. -/
structure KeyStore where
  secrets : Table Secret.key := {}
  generated : List (LBKey × Keys) := []

/-- How a request is answered: it is carried out, it is not, or it is and the answer is lost. -/
inductive KeyChoice where
  | accept
  | generate (keys : Keys)
  | refuse (msg : String)
  | lose (msg : String)

/-- Keys with a private key that was not generated before. -/
def KeyStore.Fresh (w : KeyStore) (keys : Keys) : Prop :=
  ∀ e ∈ w.generated, e.2.clientPrivateKey ≠ keys.clientPrivateKey

instance (w : KeyStore) (keys : Keys) : Decidable (w.Fresh keys) :=
  inferInstanceAs (Decidable (∀ e ∈ w.generated, _))

/-- Create a Secret, unless there is one under its name. -/
def KeyStore.create (w : KeyStore) (s : Secret) : Except KubeErr Unit × KeyStore :=
  if h : (([s] ++ w.secrets.rows).map Secret.key).Nodup then
    (.ok (), { w with secrets := w.secrets.extend [s] h })
  else (.error ⟨.alreadyExists, "already exists"⟩, w)

/-- The answers to the requests of `ensureKeys`. It makes no others. -/
def KeyStore.answer (x : LBKey) (c : KeyChoice) (w : KeyStore) :
    (o : ClusterCall) → Option (ClusterCall.Res o × KeyStore)
  | .secret (.get ns name) =>
    match c with
    | .accept =>
      match w.secrets.get (ns, name) with
      | some s => some (.ok s, w)
      | none => some (.error ⟨.notFound, "not found"⟩, w)
    | .refuse msg => some (.error ⟨.other, msg⟩, w)
    | _ => none
  | .secret (.create s) =>
    match c with
    | .accept => some (w.create s)
    | .refuse msg => some (.error ⟨.other, msg⟩, w)
    | .lose msg => some (.error ⟨.other, msg⟩, (w.create s).2)
    | _ => none
  | .generateKeys =>
    match c with
    | .generate keys =>
      if w.Fresh keys then some (.ok keys, { w with generated := (x, keys) :: w.generated }) else none
    | .refuse msg => some (.error ⟨.other, msg⟩, w)
    | _ => none
  | _ => none

/-- The garbage collection after a VerdaCluster was deleted: the Secrets it owns go. -/
def KeyStore.deleteCluster (ns cluster : String) (w : KeyStore) : KeyStore :=
  { w with secrets := w.secrets.filter fun s => !(s.ns == ns && s.owner == cluster) }

/-- What others do: Secrets are removed, as with the VerdaCluster that owns them, and Secrets that are
not for load balancers are created and changed. -/
def KeyStore.drift (secrets : Table Secret.key) (w : KeyStore) : Option KeyStore :=
  if ∀ s ∈ secrets.rows, s ∈ w.secrets.rows ∨ isLBSecretName s.name = false then
    some { w with secrets }
  else none

/-- Calls of `ensureKeys` for the load balancers of a namespace, interleaved. The object of a load
balancer is what its calls returned. -/
def keySystem : System LBKey KeyStore ClusterCall ClusterCall.Res (List Keys) (Except Err Keys)
    (Cluster × VerdaCluster) KeyChoice Unit (Table Secret.key) Empty where
  start x inp _ := ensureKeys inp.1 inp.2 (x.2.secretName inp.2)
  answer := KeyStore.answer
  persist _ _ used r :=
    match r with
    | .ok keys => keys :: used
    | .error _ => used
  drift := KeyStore.drift
  edit e _ := e.elim

/-- A state of these calls. -/
abbrev KeyState := State LBKey KeyStore ClusterCall ClusterCall.Res (List Keys) (Except Err Keys)

/-- The calls are made for VerdaClusters of the namespace with these names. -/
abbrev forClusters (ns : String) (clusters : Set String) : Conditions LBKey KeyStore ClusterCall
    (List Keys) (Except Err Keys) (Cluster × VerdaCluster) Unit Empty where
  start x inp _ _ := inp.2.metadata.ns = ns ∧ inp.2.metadata.name = x.1 ∧ x.1 ∈ clusters

/-- Nothing was called yet, and there is no Secret for a load balancer. -/
structure NoKeys (s : KeyState) : Prop where
  idle : ∀ x, s.run x = none
  unused : ∀ x, s.obj x = []
  generated : s.world.generated = []
  secrets : ∀ secret ∈ s.world.secrets.rows, isLBSecretName secret.name = false

/-- Different load balancers have no key in common, and the deletion of a VerdaCluster leaves the Secrets
of the load balancers of others. -/
structure Separate (ns : String) (clusters : Set String) (s : KeyState) : Prop where
  keys : ∀ x y : LBKey, x.1 ∈ clusters → y.1 ∈ clusters → x ≠ y → ∀ k ∈ s.obj x, ∀ k' ∈ s.obj y,
    k.clientPrivateKey ≠ k'.clientPrivateKey
  deletion : ∀ x : LBKey, x.1 ∈ clusters → ∀ cluster, cluster ≠ x.1 →
    (s.world.deleteCluster ns cluster).secrets.get (ns, LBKey.secretName x) =
      s.world.secrets.get (ns, LBKey.secretName x)

/-! ## The invariant -/

/-- The Secret of a load balancer holds keys that were generated for it. -/
structure HoldsOwn (x : LBKey) (w : KeyStore) (s : Secret) : Prop where
  owner : s.owner = x.1
  keys : ∀ k, keysFromSecret s = .ok k → (x, k) ∈ w.generated

/-- Every Secret of a load balancer holds its own keys, and no key was generated twice. -/
structure KeysOwn (ns : String) (clusters : Set String) (w : KeyStore) : Prop where
  stored : ∀ s ∈ w.secrets.rows, ∀ x : LBKey, x.1 ∈ clusters → s.key = (ns, LBKey.secretName x) →
    HoldsOwn x w s
  fresh : (w.generated.map fun e => e.2.clientPrivateKey).Nodup

/-- A Secret is created under the name of the load balancer, with its keys. -/
structure CreatesOwn (ns : String) (clusters : Set String) (x : LBKey) (w : KeyStore) (s : Secret) : Prop where
  cluster : x.1 ∈ clusters
  key : s.key = (ns, LBKey.secretName x)
  holds : HoldsOwn x w s

def keysOwn (ns : String) (clusters : Set String) : Invariant keySystem (forClusters ns clusters) where
  inv := KeysOwn ns clusters
  loc x used w := ∀ k ∈ used, (x, k) ∈ w.generated
  rely _ w w' := ∀ e ∈ w.generated, e ∈ w'.generated
  guar x _ w o := ∀ s, o = .secret (.create s) → CreatesOwn ns clusters x w s
  done x _ r w := ∀ k, r = .ok k → (x, k) ∈ w.generated

section

variable {ns : String} {clusters : Set String} {x : LBKey} {s : Secret} {w w' : KeyStore}

theorem HoldsOwn.mono (h : HoldsOwn x w s) (hw : ∀ e ∈ w.generated, e ∈ w'.generated) :
    HoldsOwn x w' s :=
  ⟨h.owner, fun k hk => hw _ (h.keys k hk)⟩

/-- What is read back from a Secret of `ensureKeys`. -/
theorem keysFromSecret_keysSecret {cluster : Cluster} {vc : VerdaCluster} {name : String} {keys k : Keys}
    (h : keysFromSecret (keysSecret cluster vc name keys) = .ok k) : k = keys := by
  simp only [keysFromSecret] at h
  split at h
  · cases h
  · cases h
    rfl

theorem create_generated (w : KeyStore) (s : Secret) : (w.create s).2.generated = w.generated := by
  unfold KeyStore.create
  split <;> rfl

theorem mem_create {t : Secret} (h : t ∈ (w.create s).2.secrets.rows) : t = s ∨ t ∈ w.secrets.rows := by
  unfold KeyStore.create at h
  split at h
  · simpa using h
  · exact .inr h

theorem KeysOwn.create (h : KeysOwn ns clusters w) (hsuffix : NoServiceSuffix clusters)
    (hs : CreatesOwn ns clusters x w s) : KeysOwn ns clusters (w.create s).2 := by
  refine ⟨fun t ht y hy hkey => ?_, ?_⟩
  · refine HoldsOwn.mono (w := w) ?_ (by rw [create_generated]; exact fun e he => he)
    rcases mem_create ht with rfl | ht
    · -- the name is that of one load balancer only
      have hxy : x = y := by
        refine secretName_inj hsuffix hs.cluster hy ?_
        exact congrArg Prod.snd (hs.key.symm.trans hkey)
      exact hxy ▸ hs.holds
    · exact h.stored t ht y hy hkey
  · rw [create_generated]
    exact h.fresh

/-- The deletion of another cluster leaves the Secret. -/
theorem KeysOwn.deleteCluster (h : KeysOwn ns clusters w) (hx : x.1 ∈ clusters) {cluster : String}
    (hne : cluster ≠ x.1) : (w.deleteCluster ns cluster).secrets.get (ns, LBKey.secretName x) =
      w.secrets.get (ns, LBKey.secretName x) := by
  cases hget : w.secrets.get (ns, LBKey.secretName x) with
  | none =>
    refine Table.get_eq_none_iff.2 fun s hs => ?_
    exact Table.get_eq_none_iff.1 hget s (Table.mem_filter.1 hs).1
  | some s =>
    rcases Table.get_eq_some_iff.1 hget with ⟨hs, hkey⟩
    have howner := (h.stored s hs x hx hkey).owner
    refine Table.get_eq_some_iff.2 ⟨Table.mem_filter.2 ⟨hs, ?_⟩, hkey⟩
    simp [howner, hne.symm]

/-- What a request does: nothing, create a Secret, or generate keys. -/
theorem answer_does {c : KeyChoice} {o : ClusterCall} {r : ClusterCall.Res o}
    (h : KeyStore.answer x c w o = some (r, w')) : w' = w ∨
      (∃ s, o = .secret (.create s) ∧ w' = (w.create s).2) ∨
      ∃ keys, w.Fresh keys ∧ w' = { w with generated := (x, keys) :: w.generated } := by
  cases o with
  | secret op =>
    cases op with
    | get ns name =>
      cases c <;> simp only [KeyStore.answer] at h
      · split at h <;> cases h <;> exact .inl rfl
      · cases h
      · cases h
        exact .inl rfl
      · cases h
    | create s =>
      cases c <;> simp only [KeyStore.answer] at h
      · exact .inr (.inl ⟨s, rfl, (congrArg Prod.snd (Option.some.inj h)).symm⟩)
      · cases h
      · cases h
        exact .inl rfl
      · cases h
        exact .inr (.inl ⟨s, rfl, rfl⟩)
    | _ => cases h
  | generateKeys =>
    cases c <;> simp only [KeyStore.answer] at h
    · cases h
    · split at h <;> cases h
      exact .inr (.inr ⟨_, ‹_›, rfl⟩)
    · cases h
      exact .inl rfl
    · cases h
  | _ => cases h

theorem answer_generated {c : KeyChoice} {o : ClusterCall} {r : ClusterCall.Res o}
    (h : KeyStore.answer x c w o = some (r, w')) : ∀ e ∈ w.generated, e ∈ w'.generated := by
  rcases answer_does h with rfl | ⟨s, -, rfl⟩ | ⟨keys, -, rfl⟩
  · exact fun e he => he
  · rw [create_generated]
    exact fun e he => he
  · exact fun e he => List.mem_cons_of_mem _ he

theorem answer_get {c : KeyChoice} {name : String} {r : Except KubeErr Secret}
    (h : KeyStore.answer x c w (.secret (.get ns name)) = some (r, w')) : w' = w ∧
      ∀ s, r = .ok s → s ∈ w.secrets.rows ∧ s.key = (ns, name) := by
  cases c <;> simp only [KeyStore.answer] at h
  · split at h
    · rename_i s hget
      cases h
      refine ⟨rfl, fun s' hs' => ?_⟩
      cases hs'
      exact Table.get_eq_some_iff.1 hget
    · cases h
      exact ⟨rfl, fun s' hs' => by cases hs'⟩
  · cases h
  · cases h
    exact ⟨rfl, fun s' hs' => by cases hs'⟩
  · cases h

theorem answer_generateKeys {c : KeyChoice} {r : Except Err Keys}
    (h : KeyStore.answer x c w .generateKeys = some (r, w')) :
    ∀ keys, r = .ok keys → (x, keys) ∈ w'.generated := by
  cases c <;> simp only [KeyStore.answer] at h
  · cases h
  · split at h <;> cases h
    intro keys hkeys
    cases hkeys
    exact List.mem_cons_self
  · cases h
    exact fun keys hkeys => by cases hkeys
  · cases h

/-! ## `ensureKeys` -/

variable {used : List Keys}

/-- The keys of a result were generated for the load balancer. -/
def Generated (x : LBKey) (r : Except Err Keys) (w : KeyStore) : Prop :=
  ∀ k, r = .ok k → (x, k) ∈ w.generated

theorem generated_stable (r : Except Err Keys) :
    ((keysOwn ns clusters).setting x used).Stable (Generated x r) :=
  fun _ _ h hr _ k hk => hr _ (h k hk)

theorem ensureKeys_own {vc : VerdaCluster} (cluster : Cluster) {name : String} (w : KeyStore)
    (hx : x.1 ∈ clusters) (hns : vc.metadata.ns = ns) (howner : vc.metadata.name = x.1)
    (hname : name = LBKey.secretName x) :
    (ensureKeys cluster vc name).wp ((keysOwn ns clusters).setting x used) (Generated x) w := by
  have herr : ∀ (e : Err) (w : KeyStore), (Prog.ret (.error e) : ClusterM (Except Err Keys)).wp
      ((keysOwn ns clusters).setting x used) (Generated x) w := by
    intro e w
    exact Prog.wp_ret_stable (generated_stable _) fun k hk => by cases hk
  -- a Secret that is found under the name holds the keys of this load balancer
  have hget : ∀ {f : Except KubeErr Secret → ClusterM (Except Err Keys)} (w : KeyStore),
      (∀ s, f (.ok s) = .ret (keysFromSecret s)) →
      (∀ e w, (f (.error e)).wp ((keysOwn ns clusters).setting x used) (Generated x) w) →
      (getSecret vc.metadata.ns name >>= f).wp ((keysOwn ns clusters).setting x used) (Generated x) w := by
    intro f w hok hfail
    refine Prog.wp_call_any fun w hi =>
      ⟨fun s hs => (by cases hs), fun (r : Except KubeErr Secret) w' hs _ => ?_⟩
    rcases hs with ⟨-, c, hans⟩
    rcases answer_get (x := x) hans with ⟨rfl, hfound⟩
    rcases r with e | s
    · exact hfail e w'
    · rcases hfound s rfl with ⟨hmem, hkey⟩
      show (f (.ok s)).wp _ _ w'
      rw [hok]
      refine Prog.wp_ret_stable (generated_stable _) ?_
      exact (hi.1.stored s hmem x hx (by rw [hkey, hns, hname])).keys
  refine hget w (fun s => rfl) fun e w => ?_
  dsimp only
  split
  · exact herr _ w
  · refine Prog.wp_call_any fun w _ =>
      ⟨fun s hs => (by cases hs), fun r w' hs _ => ?_⟩
    rcases hs with ⟨-, c, hans⟩
    have hnew := answer_generateKeys hans
    rcases r with e | keys
    · exact herr _ w'
    · have hstable : ((keysOwn ns clusters).setting x used).Stable fun w => (x, keys) ∈ w.generated :=
        fun _ _ h hr _ => hr _ h
      refine Prog.wp_call hstable (hnew keys rfl) fun w hw _ => ⟨fun s hs => ?_, fun r w' hs _ => ?_⟩
      · cases hs
        refine ⟨hx, by rw [Secret.key, keysSecret, hns, hname], howner, fun k hk => ?_⟩
        rw [keysFromSecret_keysSecret hk]
        exact hw
      · rcases hs with ⟨-, c, hans⟩
        have hans : KeyStore.answer x c w (.secret (.create (keysSecret cluster vc name keys))) =
          some (r, w') := hans
        have hw' := answer_generated hans _ hw
        rcases r with e | u
        · show (if e.reason = .alreadyExists then _ else _ : ClusterM (Except Err Keys)).wp _ _ _
          split
          · exact hget w' (fun s => rfl) fun e w => herr _ w
          · exact herr _ w'
        · refine Prog.wp_ret_stable (generated_stable _) fun k hk => ?_
          cases hk
          exact hw'

theorem keysOwn_valid (hsuffix : NoServiceSuffix clusters) : (keysOwn ns clusters).Valid where
  refl _ _ _ he := he
  trans _ {_ _ _} h h' e he := h' e (h e he)
  drift {d w w'} hinv hd := by
    simp only [keySystem, KeyStore.drift] at hd
    split at hd <;> cases hd
    rename_i hold
    refine ⟨⟨fun s hs y hy hkey => ?_, hinv.fresh⟩, fun _ => ⟨fun _ e he => he, fun _ h => h⟩⟩
    rcases hold s hs with hs | hname
    · exact (hinv.stored s hs y hy hkey).mono fun e he => he
    · have heq : s.name = LBKey.secretName y := congrArg Prod.snd hkey
      rw [heq, isLBSecretName_secretName] at hname
      cases hname
  edit {_ e _ _} _ _ := e.elim
  touched _ hloc heq := heq ▸ hloc
  merge heq hp := ⟨_, hp, heq ▸ rfl⟩
  call {y obj c w o r w'} hinv hloc _ hg hans := by
    have hgrows := answer_generated hans
    refine ⟨?_, fun k hk => hgrows _ (hloc k hk), fun j _ => ⟨hgrows, fun obj' h k hk => hgrows _ (h k hk)⟩⟩
    rcases answer_does hans with rfl | ⟨s, ho, rfl⟩ | ⟨keys, hfresh, rfl⟩
    · exact hinv
    · exact hinv.create hsuffix (hg s ho)
    · refine ⟨fun s hs z hz hkey => (hinv.stored s hs z hz hkey).mono hgrows, ?_⟩
      refine List.nodup_cons.2 ⟨fun hmem => ?_, hinv.fresh⟩
      rcases List.mem_map.1 hmem with ⟨e, he, heq⟩
      exact hfresh e he heq
  pass {y inp obj w} _ _ hstart := by
    rcases hstart with ⟨hns, hname, hy⟩
    refine Invariant.wp_persist (Prog.wp_mono ?_ (ensureKeys_own inp.1 w hy hns hname ?_))
    · intro r w hi hr
      refine ⟨hr, fun _ k hk => ?_⟩
      rcases r with e | keys
      · exact hi.2 k hk
      · rcases List.mem_cons.1 hk with rfl | hk
        · exact hr k rfl
        · exact hi.2 k hk
    · rw [secretName_eq, hname]

end

/-! ## What is handed to a workload cluster -/

/-- A Secret that is written to a workload cluster holds this private key. -/
def HandsOver (keys : Keys) (c : ClusterCall) : Prop :=
  ∀ kubeconfig s, c = .workload kubeconfig (.create s) ∨ c = .workload kubeconfig (.update s) →
    s.value "ssh-privatekey" = keys.clientPrivateKey

theorem publishServiceLoadBalancerSecret_handsOver (cluster : Cluster) (address : String) (keys : Keys) :
    (publishServiceLoadBalancerSecret cluster address keys).Obeys (HandsOver keys) fun _ => True := by
  refine (publishServiceLoadBalancerSecret_publishes cluster address keys).mono ?_ fun _ h => h
  rintro c hc kubeconfig s (rfl | rfl) <;>
  · have hdata : s.data = serviceLBSecretData cluster address keys := hc
    rw [Secret.value, hdata]
    rfl

/-! ## The result -/

/-- **The load balancers of a namespace have names and keys of their own exactly if no cluster is called
like another one with `-service` appended.** The first part is about the names, the second about every
run of `ensureKeys`, with lost and refused requests, crashes and Secrets that are removed, the third
about the key that is published. -/
theorem keys_separate_iff (ns : String) (clusters : Set String) :
    ((∀ vc vc' : VerdaCluster, vc.metadata.name ∈ clusters → vc'.metadata.name ∈ clusters →
        ∀ lb lb' : LoadBalancer, (vc.metadata.name, lb) ≠ (vc'.metadata.name, lb') →
          lb.secretName vc ≠ lb'.secretName vc' ∧ lb.hostname vc ≠ lb'.hostname vc') ∧
      (∀ s₀ s : KeyState, NoKeys s₀ → Reach keySystem (forClusters ns clusters) s₀ s →
        Separate ns clusters s) ∧
      ∀ cluster address keys,
        (publishServiceLoadBalancerSecret cluster address keys).Obeys (HandsOver keys) fun _ => True) ↔
      NoServiceSuffix clusters := by
  constructor
  · rintro ⟨hnames, -, -⟩ c hc d hd heq
    let named : String → VerdaCluster := fun name =>
      { metadata := { ns, name }, spec := { location := "" } }
    have hne : ((c, .controlPlane) : LBKey) ≠ (d, .service) := fun h => by cases congrArg Prod.snd h
    have h := (hnames (named c) (named d) hc hd .controlPlane .service hne).2
    exact h (lb_eq_service_iff.2 heq)
  · intro hsuffix
    refine ⟨fun vc vc' hc hc' lb lb' hne => ⟨fun heq => hne ?_, fun heq => hne ?_⟩, ?_,
      publishServiceLoadBalancerSecret_handsOver⟩
    · rw [secretName_eq, secretName_eq] at heq
      exact secretName_inj hsuffix hc hc' heq
    · rw [hostname_eq, hostname_eq] at heq
      exact hostname_inj hsuffix hc hc' heq
    · intro s₀ s h₀ h
      have hholds : (keysOwn ns clusters).Holds s := by
        refine Invariant.sound (keysOwn_valid hsuffix) ⟨?_, ?_⟩ ?_ h₀.idle h
        · intro secret hs x _ hkey
          have hname := h₀.secrets secret hs
          have heq : secret.name = LBKey.secretName x := congrArg Prod.snd hkey
          rw [heq, isLBSecretName_secretName] at hname
          cases hname
        · rw [h₀.generated]
          exact List.nodup_nil
        · intro x k hk
          rw [h₀.unused x] at hk
          cases hk
      refine ⟨fun x y hx hy hne k hk k' hk' heq => hne ?_, fun x hx cluster hne => ?_⟩
      · have hsame := List.inj_on_of_nodup_map hholds.inv.fresh (hholds.loc x k hk) (hholds.loc y k' hk') heq
        exact congrArg Prod.fst hsame
      · exact hholds.inv.deleteCluster hx hne

/-! ## Two clusters that share keys -/

/-- A cluster of the default namespace. -/
def namedCluster (name : String) : VerdaCluster where
  metadata := { ns := "default", name }
  spec := { location := "FIN-01" }

/-- Some keys. -/
def someKeys : Keys := ⟨bytes "a", bytes "b", bytes "c", bytes "d"⟩

/-- The service load balancer of `edge` gets its keys, then the control plane load balancer of
`edge-service` does. -/
def shareKeys : List (Move LBKey (Cluster × VerdaCluster) KeyChoice Unit (Table Secret.key) Empty) :=
  [.start ("edge", .service) ({ ns := "default", name := "edge" }, namedCluster "edge"),
    .answer ("edge", .service) .accept, .answer ("edge", .service) (.generate someKeys),
    .answer ("edge", .service) .accept, .finish ("edge", .service) (),
    .start ("edge-service", .controlPlane)
      ({ ns := "default", name := "edge-service" }, namedCluster "edge-service"),
    .answer ("edge-service", .controlPlane) .accept, .finish ("edge-service", .controlPlane) ()]

/-- Calls for these two clusters. -/
def startsFor (_ : KeyState) :
    Move LBKey (Cluster × VerdaCluster) KeyChoice Unit (Table Secret.key) Empty → Bool
  | .start x inp => decide (inp.2.metadata.ns = "default" ∧ inp.2.metadata.name = x.1 ∧
      (x.1 = "edge" ∨ x.1 = "edge-service"))
  | _ => true

theorem startsFor_meets (s : KeyState)
    (m : Move LBKey (Cluster × VerdaCluster) KeyChoice Unit (Table Secret.key) Empty)
    (h : startsFor s m = true) : (forClusters "default" {"edge", "edge-service"}).Meets s m := by
  refine meets_of_start s m fun x inp hm => ?_
  subst hm
  simpa [startsFor] using h

/-- The two have one hostname and one key, and the Secret goes with `edge`. -/
theorem keys_shared : ∃ s₀ s : KeyState, NoKeys s₀ ∧
    Reach keySystem (forClusters "default" {"edge", "edge-service"}) s₀ s ∧
    LoadBalancer.service.hostname (namedCluster "edge") =
      LoadBalancer.controlPlane.hostname (namedCluster "edge-service") ∧
    someKeys ∈ s.obj ("edge", .service) ∧ someKeys ∈ s.obj ("edge-service", .controlPlane) ∧
    (s.world.secrets.get ("default", "edge-service-lb-ssh")).isSome = true ∧
    (s.world.deleteCluster "default" "edge").secrets.get ("default", "edge-service-lb-ssh") = none := by
  obtain ⟨s, hs, hbad⟩ := exists_reach_checked keySystem startsFor_meets
    { world := {}, obj := fun _ => [], run := fun _ => none }
    (fun s => decide (someKeys ∈ s.obj ("edge", .service) ∧
      someKeys ∈ s.obj ("edge-service", .controlPlane) ∧
      (s.world.secrets.get ("default", "edge-service-lb-ssh")).isSome = true ∧
      (s.world.deleteCluster "default" "edge").secrets.get ("default", "edge-service-lb-ssh") = none))
    shareKeys (by decide +kernel)
  refine ⟨_, s, ⟨fun _ => rfl, fun _ => rfl, rfl, fun secret h => ?_⟩, hs, rfl, of_decide_eq_true hbad⟩
  cases h

end VerdaCapi.Controller
