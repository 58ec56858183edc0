import VerdaCapi.Ccm.LoadBalancer
import VerdaCapi.Controller.ClusterSystem
import VerdaCapi.Remote.Solo

/-!
# The Secret between the controller and the cloud controller manager

`publishServiceLoadBalancerSecret` of the controller writes the Secret `kube-system/verda-service-lb` of
the workload cluster, and `config` of the cloud controller manager reads it. The controller leaves a
Secret alone that has the address and the client key it wants, without a look at the host key.

`published_readBack_iff`: the cloud controller manager reads exactly what the controller published if and
only if a Secret that has this address and this client key has the host key as well.
-/

namespace VerdaCapi.Ccm

open Remote Go Cloud Controller

/-- How the requests of a pass over a cluster are answered, for the account `a`. -/
def clusterStep (addressOf : AccountID → String → String) (a : AccountID) (w : ClusterWorld)
    (c : ClusterCall) (x : c.Res) (w' : ClusterWorld) : Prop :=
  ∃ ch, clusterAnswer addressOf ch w (a, c) = some (x, w')

/-- The Secrets of the workload cluster are stored under their own names. -/
def StoredByName (w : ClusterWorld) : Prop :=
  ∀ key p, w.workload key = some p → (p.secret.ns, p.secret.name) = key

/-- What `config` makes of an address and of keys. -/
def lbConfigOf (address : String) (keys : Keys) : LBConfig where
  address := bytes address
  keys :=
    { clientPrivateKey := keys.clientPrivateKey
      clientPublicKey := []
      hostPrivateKey := []
      hostPublicKey := keys.hostPublicKey }

/-- The workload cluster answers the requests of `config`, which makes none for Services or Nodes. -/
def workloadView (w : ClusterWorld) : (o : LBCall) → o.Res
  | .getSecret ns name => (w.workloadReact (.get ns name)).1
  | .listServices _ _ => .ok []
  | .listNodes => .ok []
  | .updateFiles _ _ _ _ _ => .ok ()

/-- In this workload cluster `config` succeeds with that address and those keys. -/
def ReadsBack (w : ClusterWorld) (address : String) (keys : Keys) : Prop :=
  config.eval (workloadView w) = .ok (lbConfigOf address keys)

/-- The Secret of the service load balancer. -/
def lbSecretKey : String × String := ("kube-system", serviceLBSecretName)

/-- The Secret has the values that `config` looks for. -/
structure HasValues (secret : Secret) (address : String) (keys : Keys) : Prop where
  address : secret.value "address" = bytes address
  clientKey : secret.value "ssh-privatekey" = keys.clientPrivateKey
  hostKey : secret.value "host-publickey" = keys.hostPublicKey

/-- What `reconcileServiceLoadBalancer` and `keysFromSecret` make sure of. -/
structure Complete (address : String) (keys : Keys) : Prop where
  address : address ≠ ""
  clientKey : keys.clientPrivateKey ≠ []
  hostKey : keys.hostPublicKey ≠ []

section

variable {w w' : ClusterWorld} {address : String} {keys : Keys} {p : Published} {secret : Secret}

theorem configOf_eq_some_iff (h : Complete address keys) :
    configOf secret = some (lbConfigOf address keys) ↔ HasValues secret address keys := by
  have haddress : bytes address ≠ [] := fun hnil => h.address (bytes_injective (hnil.trans rfl))
  unfold configOf
  constructor
  · intro hconfig
    dsimp only at hconfig
    split at hconfig
    · cases hconfig
    · have hlb := Option.some.inj hconfig
      exact ⟨congrArg LBConfig.address hlb, congrArg (·.keys.clientPrivateKey) hlb,
        congrArg (·.keys.hostPublicKey) hlb⟩
  · intro hvalues
    rw [hvalues.address, hvalues.clientKey, hvalues.hostKey]
    exact if_neg (by simp [haddress, h.clientKey, h.hostKey])

/-- `config` reads these values back if and only if they are in the Secret. -/
theorem readsBack_iff (h : Complete address keys) :
    ReadsBack w address keys ↔
      ∃ p, w.workload lbSecretKey = some p ∧ HasValues p.secret address keys := by
  have hget : (getSecret "kube-system" serviceLBSecretName).eval (workloadView w) =
    (w.workloadReact (.get "kube-system" serviceLBSecretName)).1 := rfl
  unfold ReadsBack config
  rw [Prog.eval_bind, hget, ClusterWorld.workloadReact]
  cases hp : w.workload lbSecretKey with
  | none =>
    have hp' : w.workload ("kube-system", serviceLBSecretName) = none := hp
    rw [hp']
    constructor
    · intro heval
      cases heval
    · rintro ⟨p, hp, -⟩
      cases hp
  | some p =>
    have hp' : w.workload ("kube-system", serviceLBSecretName) = some p := hp
    rw [hp']
    dsimp only
    cases hconfig : configOf p.secret with
    | none =>
      constructor
      · intro heval
        cases heval
      · rintro ⟨_, ⟨⟩, hvalues⟩
        rw [(configOf_eq_some_iff h).2 hvalues] at hconfig
        cases hconfig
    | some lb =>
      constructor
      · intro heval
        obtain rfl : lb = lbConfigOf address keys := Except.ok.inj heval
        exact ⟨p, rfl, (configOf_eq_some_iff h).1 hconfig⟩
      · rintro ⟨_, ⟨⟩, hvalues⟩
        rw [(configOf_eq_some_iff h).2 hvalues] at hconfig
        cases hconfig
        rfl

/-- The Secret the controller writes has all values. -/
theorem hasValues_data {cluster : Api.Cluster}
    (h : secret.data = serviceLBSecretData cluster address keys) : HasValues secret address keys := by
  constructor <;> · rw [Secret.value, h]; rfl

end

/-! ## What a publication leaves -/

section

variable {addressOf : AccountID → String → String} {a : AccountID} {w w' : ClusterWorld}
  {cluster : Api.Cluster} {address : String} {keys : Keys}

theorem clusterStep_kubeconfig {ns name : String} {x : Except Err Bytes}
    (h : clusterStep addressOf a w (.kubeconfigFromSecret ns name) x w') : w' = w := by
  obtain ⟨ch, h⟩ := h
  simp only [clusterAnswer] at h
  repeat' split at h
  all_goals cases h <;> rfl

theorem clusterStep_workloadClient {kubeconfig : Bytes} {x : Except Err Unit}
    (h : clusterStep addressOf a w (.workloadClient kubeconfig) x w') : w' = w := by
  obtain ⟨ch, h⟩ := h
  simp only [clusterAnswer] at h
  repeat' split at h
  all_goals cases h <;> rfl

theorem kubeconfig_read {ns name : String} :
    clusterStep addressOf a w (.kubeconfigFromSecret ns name) (Except.ok [] : Except Err Bytes) w :=
  ⟨.reply (.kubeconfigFromSecret ns name) (Except.ok [] : Except Err Bytes), by
    simp [clusterAnswer, ClusterChoice.replyTo]⟩

theorem workloadClient_built {kubeconfig : Bytes} :
    clusterStep addressOf a w (.workloadClient kubeconfig) (Except.ok () : Except Err Unit) w :=
  ⟨.reply (.workloadClient kubeconfig) (Except.ok () : Except Err Unit), by
    simp [clusterAnswer, ClusterChoice.replyTo]⟩

theorem workload_accepts {kubeconfig : Bytes} {op : SecretOp} {x : Except KubeErr op.Ans}
    (hreach : w.reachable = true) (h : w.workloadReact op = (x, w')) :
    clusterStep addressOf a w (.workload kubeconfig op) x w' :=
  ⟨.accept, by simp only [clusterAnswer, hreach, if_true, h]; rfl⟩

/-- An answer of the workload cluster is its own, or a failure that says nothing. -/
theorem clusterStep_workload {kubeconfig : Bytes} {op : SecretOp} {x : Except KubeErr op.Ans}
    (h : clusterStep addressOf a w (.workload kubeconfig op) x w') :
    w.reachable = true ∧ w.workloadReact op = (x, w') ∨ ∃ msg, x = .error ⟨.other, msg⟩ := by
  obtain ⟨ch, h⟩ := h
  simp only [clusterAnswer] at h
  cases ch with
  | accept =>
    dsimp only at h
    split at h
    · rename_i hreach
      exact .inl ⟨hreach, Option.some.inj h⟩
    · cases h
  | refuse msg =>
    dsimp only at h
    split at h
    · cases h
    · cases h
      exact .inr ⟨msg, rfl⟩
  | lose msg =>
    dsimp only at h
    split at h
    · cases h
      exact .inr ⟨msg, rfl⟩
    · cases h
  | verda ch => cases h
  | reply c y => cases h

theorem workloadReact_get {ns name : String} {existing : Secret}
    (h : w.workloadReact (.get ns name) = (.ok existing, w')) :
    w' = w ∧ ∃ p, w.workload (ns, name) = some p ∧ p.secret = existing := by
  simp only [ClusterWorld.workloadReact] at h
  split at h
  · rename_i p hp
    cases h
    exact ⟨rfl, p, hp, rfl⟩
  · cases h

/-- A Secret that was created or updated is there. -/
theorem workloadReact_put {s : Secret} {op : SecretOp} {x : op.Ans}
    (hop : op = .create s ∨ op = .update s) (h : w.workloadReact op = (.ok x, w')) :
    ∃ p, w'.workload (s.ns, s.name) = some p ∧ p.secret = s := by
  rcases hop with rfl | rfl
  all_goals
    simp only [ClusterWorld.workloadReact] at h
    split at h <;> cases h
    exact ⟨⟨s, true⟩, Function.update_self .., rfl⟩

/-- A Secret with the controller's data that is written has all values. -/
theorem written_hasValues {kubeconfig : Bytes} {s : Secret} {op : SecretOp} {x : op.Ans}
    (hop : op = .create s ∨ op = .update s) (hkey : (s.ns, s.name) = lbSecretKey)
    (hdata : s.data = serviceLBSecretData cluster address keys)
    (hstep : clusterStep addressOf a w (.workload kubeconfig op) (.ok x) w') :
    ∃ p, w'.workload lbSecretKey = some p ∧ HasValues p.secret address keys := by
  obtain ⟨-, hreact⟩ := (clusterStep_workload hstep).resolve_right (by simp)
  obtain ⟨p, hp, hsecret⟩ := workloadReact_put hop hreact
  rw [hkey] at hp
  exact ⟨p, hp, hasValues_data ((congrArg Secret.data hsecret).trans hdata)⟩

/-- A publication that succeeds leaves a Secret that has all values, or one that has the address and the
client key already. -/
theorem publish_leaves (hstored : StoredByName w)
    (hends : (publishServiceLoadBalancerSecret cluster address keys).Ends (clusterStep addressOf a) w
      (.ok ()) w') :
    w.reachable = true ∧ ∃ p, w'.workload lbSecretKey = some p ∧
      (HasValues p.secret address keys ∨ w' = w ∧ p.secret.value "address" = bytes address ∧
        p.secret.value "ssh-privatekey" = keys.clientPrivateKey) := by
  obtain ⟨kubeconfig, w₁, hkubeconfig, hends⟩ := Prog.Ends.call_inv hends
  obtain rfl := clusterStep_kubeconfig hkubeconfig
  cases kubeconfig with
  | error e => cases hends.ret_inv.1
  | ok kubeconfig =>
    obtain ⟨client, w₂, hclient, hends⟩ := Prog.Ends.call_inv hends
    obtain rfl := clusterStep_workloadClient hclient
    cases client with
    | error e => cases hends.ret_inv.1
    | ok client =>
      obtain ⟨existing, w₃, hget, hends⟩ := Prog.Ends.call_inv hends
      cases existing with
      | error e =>
        change Prog.Ends _ (ite _ _ _) _ _ _ at hends
        split at hends
        · -- there is no Secret yet
          rename_i hmissing
          have hreach : w₂.reachable = true := by
            rcases clusterStep_workload hget with ⟨hreach, -⟩ | ⟨msg, hmsg⟩
            · exact hreach
            · cases hmsg
              cases hmissing
          obtain ⟨created, w₄, hcreate, hends⟩ := Prog.Ends.call_inv hends
          obtain ⟨hok, rfl⟩ := hends.ret_inv
          cases created with
          | error e => cases hok
          | ok created =>
            obtain ⟨p, hp, hvalues⟩ := written_hasValues (.inl rfl) rfl rfl hcreate
            exact ⟨hreach, p, hp, .inl hvalues⟩
        · cases hends.ret_inv.1
      | ok existing =>
        obtain ⟨hreach, hreact⟩ := (clusterStep_workload hget).resolve_right (by simp)
        obtain ⟨rfl, p, hp, rfl⟩ := workloadReact_get hreact
        change Prog.Ends _ (ite _ _ _) _ _ _ at hends
        split at hends
        · -- it is taken to be up to date
          rename_i hsame
          obtain ⟨-, rfl⟩ := hends.ret_inv
          exact ⟨hreach, p, hp, .inr ⟨rfl, hsame⟩⟩
        · obtain ⟨updated, w₄, hupdate, hends⟩ := Prog.Ends.call_inv hends
          obtain ⟨hok, rfl⟩ := hends.ret_inv
          cases updated with
          | error e => cases hok
          | ok updated =>
            obtain ⟨p', hp', hvalues⟩ := written_hasValues (.inr rfl) (by exact hstored _ p hp) rfl
              hupdate
            exact ⟨hreach, p', hp', .inl hvalues⟩

theorem workloadReact_found {p : Published} (hp : w.workload lbSecretKey = some p) :
    w.workloadReact (.get serviceLBSecretNs Controller.serviceLBSecretName) = (.ok p.secret, w) := by
  have hp' : w.workload (serviceLBSecretNs, Controller.serviceLBSecretName) = some p := hp
  simp only [ClusterWorld.workloadReact, hp']

/-- A Secret with the address and the client key is taken for the one to publish. -/
theorem publish_skips (hreach : w.reachable = true) {p : Published}
    (hp : w.workload lbSecretKey = some p) (haddress : p.secret.value "address" = bytes address)
    (hclient : p.secret.value "ssh-privatekey" = keys.clientPrivateKey) :
    (publishServiceLoadBalancerSecret cluster address keys).Ends (clusterStep addressOf a) w
      (.ok ()) w := by
  refine .call kubeconfig_read (.call workloadClient_built
    (.call (workload_accepts hreach (workloadReact_found hp)) ?_))
  change Prog.Ends _ (ite _ _ _) _ _ _
  rw [if_pos ⟨haddress, hclient⟩]
  exact .ret _ _

/-- Any other Secret can be replaced. -/
theorem publish_replaces (hstored : StoredByName w) (hreach : w.reachable = true) {p : Published}
    (hp : w.workload lbSecretKey = some p) (haddress : p.secret.value "address" ≠ bytes address) :
    ∃ w', (publishServiceLoadBalancerSecret cluster address keys).Ends (clusterStep addressOf a) w
      (.ok ()) w' := by
  have hself : w.workload (p.secret.ns, p.secret.name) = some p := by
    rw [hstored _ p hp]
    exact hp
  let new : Secret := { p.secret with data := serviceLBSecretData cluster address keys }
  let w' : ClusterWorld :=
    { w with workload := Function.update w.workload (new.ns, new.name) (some ⟨new, true⟩) }
  have hupdate : w.workloadReact (.update new) = (.ok (), w') := by
    simp only [ClusterWorld.workloadReact, new, hself, w']
  refine ⟨w', .call kubeconfig_read (.call workloadClient_built
    (.call (workload_accepts hreach (workloadReact_found hp)) ?_))⟩
  change Prog.Ends _ (ite _ _ _) _ _ _
  rw [if_neg fun hsame => haddress hsame.1]
  exact .call (workload_accepts hreach hupdate) (.ret _ _)

/-- **What the cloud controller manager reads.** From any Secrets of the workload cluster: after every
publication that succeeds `config` returns the address and the keys that were published, if and only if a
Secret that already has the address and the client key has the host key as well. -/
theorem published_readBack_iff (hstored : StoredByName w) (h : Complete address keys) :
    (∀ w', (publishServiceLoadBalancerSecret cluster address keys).Ends (clusterStep addressOf a) w
        (.ok ()) w' → ReadsBack w' address keys) ↔
      (w.reachable = true → ∀ p, w.workload lbSecretKey = some p →
        p.secret.value "address" = bytes address →
        p.secret.value "ssh-privatekey" = keys.clientPrivateKey →
        p.secret.value "host-publickey" = keys.hostPublicKey) := by
  constructor
  · intro hpublished hreach p hp haddress hclient
    have hreads := hpublished w (publish_skips hreach hp haddress hclient)
    obtain ⟨p', hp', hvalues⟩ := (readsBack_iff h).1 hreads
    rw [hp] at hp'
    cases hp'
    exact hvalues.hostKey
  · intro hhost w' hends
    obtain ⟨hreach, p, hp, hvalues | ⟨rfl, haddress, hclient⟩⟩ := publish_leaves hstored hends
    · exact (readsBack_iff h).2 ⟨p, hp, hvalues⟩
    · exact (readsBack_iff h).2 ⟨p, hp, haddress, hclient, hhost hreach p hp haddress hclient⟩

end

/-! ## A Secret without a host key -/

/-- A Secret that somebody has put there with an address and a client key only. -/
def partialSecret : Secret where
  ns := "kube-system"
  name := "verda-service-lb"
  data := [("address", bytes "10.0.0.1"), ("ssh-privatekey", [1])]

/-- The workload cluster that has this Secret only. -/
def partialWorld : ClusterWorld where
  cloud := { account := fun _ => {} }
  workload key := if key = lbSecretKey then some ⟨partialSecret, false⟩ else none

/-- The keys of the load balancer. -/
def lbKeys : Keys := ⟨[1], [2], [3], [4]⟩

theorem partialWorld_stored : StoredByName partialWorld := by
  intro key p hp
  simp only [partialWorld] at hp
  split at hp
  · rename_i hkey
    cases hp
    exact hkey.symm
  · cases hp

/-- Published with another address, the Secret is replaced and read back. -/
theorem published_readBack_sample : ∃ w',
    (publishServiceLoadBalancerSecret { ns := "default", name := "c0" } "10.0.0.2" lbKeys).Ends
      (clusterStep (fun _ _ => "") .global) partialWorld (.ok ()) w' ∧
    ReadsBack w' "10.0.0.2" lbKeys := by
  have hother : partialSecret.value "address" ≠ bytes "10.0.0.2" := by decide
  obtain ⟨w', hends⟩ := publish_replaces partialWorld_stored rfl rfl hother
  refine ⟨w', hends, (published_readBack_iff partialWorld_stored ?_).2 ?_ w' hends⟩
  · exact ⟨by decide, by decide, by decide⟩
  · intro _ p hp haddress
    cases hp
    exact absurd haddress hother

/-- Published with the address it has, the Secret stays as it is, and `config` fails. -/
theorem published_unread : StoredByName partialWorld ∧ Complete "10.0.0.1" lbKeys ∧
    (publishServiceLoadBalancerSecret { ns := "default", name := "c0" } "10.0.0.1" lbKeys).Ends
      (clusterStep (fun _ _ => "") .global) partialWorld (.ok ()) partialWorld ∧
    config.eval (workloadView partialWorld) =
      .error ⟨.other, "secret kube-system/verda-service-lb is incomplete"⟩ :=
  ⟨partialWorld_stored, ⟨by decide, by decide, by decide⟩, publish_skips rfl rfl rfl rfl, by decide⟩

end VerdaCapi.Ccm
