import VerdaCapi.Controller.ClusterSystem
import VerdaCapi.Controller.Leftovers
import VerdaCapi.Controller.Lookups

/-!
# Disabling the service load balancer

With the service load balancer disabled, `reconcileNormal` deletes what the status records: the
instance, then the startup script, then the Secret in the workload cluster, and last the status itself.
With nothing recorded it does nothing. The removal of the Secret is tried once; its failure is logged,
and the status that would lead to another try is wiped.

`disabled_is_clean`: after such a pass nothing is left, in every run in which

* a pass with the load balancer disabled starts with everything that is left recorded, and
* the workload cluster is reachable when the Secret is to be removed.

In `disabled_not_clean` a status patch is lost and nothing is recorded, and the workload cluster is not
reachable.
-/

namespace VerdaCapi.Controller

open Remote Go Api Cloud Webhook

/-- The workload cluster holds a Secret of the service load balancer that this cluster published. -/
def IsPublished (w : ClusterWorld) : Prop :=
  (w.workload (serviceLBSecretNs, serviceLBSecretName)).any (·.ours) = true

instance (w : ClusterWorld) : Decidable (IsPublished w) := inferInstanceAs (Decidable (_ = _))

/-- Nothing of the service load balancer is left. -/
structure ServiceClean (tag : String) (w : ClusterWorld) : Prop where
  instances : ∀ b, ∀ i ∈ (w.cloud.account b).instances.rows, tagOf i tagServiceLoadBalancer = tag →
    isGone i = true
  scripts : ∀ e ∈ w.cloud.made, e.owner = .service → ¬ ScriptLeft w.cloud e
  unpublished : ¬ IsPublished w

/-- `reconcileNormal` ran with the service load balancer disabled, and returned without an error and
without asking to be called again for the teardown. -/
def TornDown (vc : VerdaCluster) (out : ClusterOutcome) : Prop :=
  vc.serviceLoadBalancerEnabled = false ∧ out.endpoint.isSome = true ∧
    ∃ result, out.reply = .ok result ∧ result.requeueAfter ≠ deletePollInterval

/-- Everything that is left of the service load balancer is in the account of the pass and is recorded.
A script that is not may be left when none is recorded: then it is deleted by name. -/
@[mk_iff]
structure AllRecorded (vc : VerdaCluster) (w : ClusterWorld) : Prop where
  live : ∀ e ∈ w.cloud.made, e.owner = .service → MadeLive w.cloud e →
    e.account = clusterAccount vc ∧ (lbStatus vc .service).instanceID ≠ "" ∧
      e.id = (lbStatus vc .service).instanceID
  scripts : ∀ e ∈ w.cloud.made, e.owner = .service → ScriptLeft w.cloud e →
    e.account = clusterAccount vc ∧ (lbStatus vc .service).instanceID ≠ "" ∧
      ((lbStatus vc .service).startupScriptID = "" ∨ e.id = (lbStatus vc .service).startupScriptID)
  published : IsPublished w → (lbStatus vc .service).instanceID ≠ ""

instance (vc : VerdaCluster) (w : ClusterWorld) : Decidable (AllRecorded vc w) :=
  decidable_of_iff' _ (allRecorded_iff vc w)

/-- The request is for the workload cluster. -/
def asksWorkload : ScopedCall → Bool
  | (_, .kubeconfigFromSecret _ _) | (_, .workloadClient _) | (_, .workload _ _) => true
  | _ => false

/-- The cluster is not being deleted, and has its service load balancer disabled. -/
def Disables (vc : VerdaCluster) : Prop :=
  vc.metadata.deletionTimestamp = none ∧ vc.serviceLoadBalancerEnabled = false

instance (vc : VerdaCluster) : Decidable (Disables vc) := inferInstanceAs (Decidable (_ ∧ _))

/-- Passes with the service load balancer disabled start with everything recorded that is left, and can
reach the workload cluster while there is something to remove. -/
abbrev recordsService : ClusterConds where
  start _ _ vc w := Disables vc → AllRecorded vc w
  call _ vc w o := asksWorkload o = true → Disables vc → w.reachable = true ∨ ¬ IsPublished w

/-! ## What is left does not grow -/

/-- Nothing more is left of the service load balancer than before. -/
structure ServiceShrinks (w w' : ClusterWorld) : Prop where
  live : ∀ e, e.owner = .service → MadeLive w'.cloud e → MadeLive w.cloud e
  scripts : ∀ e ∈ w'.cloud.made, e.owner = .service → ScriptLeft w'.cloud e →
    e ∈ w.cloud.made ∧ ScriptLeft w.cloud e
  published : IsPublished w' → IsPublished w

theorem ServiceShrinks.refl (w : ClusterWorld) : ServiceShrinks w w :=
  ⟨fun _ _ h => h, fun _ he _ h => ⟨he, h⟩, fun h => h⟩

theorem ServiceShrinks.trans {w w' w'' : ClusterWorld} (h : ServiceShrinks w w')
    (h' : ServiceShrinks w' w'') : ServiceShrinks w w'' := by
  refine ⟨fun e ho hl => h.live e ho (h'.live e ho hl), fun e he ho hl => ?_,
    fun hp => h.published (h'.published hp)⟩
  rcases h'.scripts e he ho hl with ⟨he', hl'⟩
  exact h.scripts e he' ho hl'

/-- What is known of all that is left stays known. -/
theorem AllRecorded.shrink {vc : VerdaCluster} {w w' : ClusterWorld} (h : AllRecorded vc w)
    (hs : ServiceShrinks w w') : AllRecorded vc w' := by
  refine ⟨fun e _ ho hl => ?_, fun e he ho hl => ?_, fun hp => h.published (hs.published hp)⟩
  · have hl' := hs.live e ho hl
    exact h.live e hl'.1 ho hl'
  · rcases hs.scripts e he ho hl with ⟨he', hl'⟩
    exact h.scripts e he' ho hl'

/-- The requests that add nothing to the service load balancer. -/
def AddsNothing : ClusterCall → Prop
  | .verda .service c => (∀ req, c.op ≠ .instancesCreate req) ∧ ∀ n script, c.op ≠ .scriptsAdd n script
  | .workload _ op => op.isDelete = true
  | _ => True

section

variable {addressOf : AccountID → String → String} {ns name : String} {w w' : ClusterWorld}
  {ch : ClusterChoice} {a : AccountID} {c : ClusterCall} {α : Type} {vc vc₁ : VerdaCluster}

theorem serviceShrinks_verda {lb : LoadBalancer} {c : Call} {x : Call.Res c} {ch : Choice}
    (hc : AddsNothing (.verda lb c)) (hans : answer lb ch w.cloud (a, c) = some (x, w'.cloud))
    (hworkload : w'.workload = w.workload) : ServiceShrinks w w' := by
  refine ⟨fun e ho hl => ?_, fun e he ho hl => ?_, fun hp => ?_⟩
  · rcases madeLive_of_answer hans hl with hold | ⟨rfl, req, hreq⟩
    · exact hold
    · rw [ho] at hc
      exact absurd hreq (hc.1 req)
  · rcases scriptLeft_of_answer hans he hl with hold | ⟨rfl, n, script, hadd⟩
    · exact hold
    · rw [ho] at hc
      exact absurd hadd (hc.2 n script)
  · rw [IsPublished, ← hworkload]
    exact hp

/-- What deleting a Secret of the workload cluster publishes: nothing. -/
theorem isPublished_delete {op : SecretOp} (hop : op.isDelete = true)
    (hp : IsPublished (w.workloadReact op).2) : IsPublished w := by
  cases op with
  | delete ns name =>
    simp only [ClusterWorld.workloadReact] at hp
    split at hp
    · by_cases hkey : (serviceLBSecretNs, serviceLBSecretName) = (ns, name)
      · simp [IsPublished, hkey] at hp
      · simpa [IsPublished, hkey] using hp
    · exact hp
  | get ns name => cases hop
  | create s => cases hop
  | update s => cases hop

theorem serviceShrinks_answer {x : ScopedCall.Res (a, c)} (hc : AddsNothing c)
    (h : clusterAnswer addressOf ch w (a, c) = some (x, w')) : ServiceShrinks w w' := by
  rcases verda_or_notVerda c with ⟨lb, c', rfl⟩ | hnot
  · rcases clusterAnswer_verda h with ⟨ch', hans, -, -, hworkload⟩
    exact serviceShrinks_verda hc hans hworkload
  · rcases clusterAnswer_other hnot h with ⟨hcloud, -, hworkload⟩
    have hrest : (IsPublished w' → IsPublished w) → ServiceShrinks w w' := by
      intro hp
      refine ⟨fun e _ hl => ?_, fun e he _ hl => ?_, hp⟩
      · rw [← hcloud]
        exact hl
      · rw [← hcloud]
        exact ⟨he, hl⟩
    refine hrest fun hp => ?_
    by_cases hcall : ∃ kubeconfig op, c = .workload kubeconfig op
    · rcases hcall with ⟨kubeconfig, op, rfl⟩
      simp only [clusterAnswer] at h
      have hdeleted : w' = (w.workloadReact op).2 → IsPublished w :=
        fun heq => isPublished_delete hc (heq ▸ hp)
      split at h
      · split at h
        · exact hdeleted (congrArg Prod.snd (Option.some.inj h)).symm
        · cases h
      · split at h
        · cases h
        · cases h
          exact hp
      · split at h
        · exact hdeleted (congrArg Prod.snd (Option.some.inj h)).symm
        · cases h
      · cases h
    · rw [IsPublished, ← hworkload fun kubeconfig op heq => hcall ⟨kubeconfig, op, heq⟩]
      exact hp

theorem serviceShrinks_drift {tag : String} {d : ClusterDrift}
    (h : clusterDrift addressOf tag d w = some w') : ServiceShrinks w w' := by
  rcases clusterDrift_instances h with ⟨hmade, hrows⟩
  refine ⟨fun e _ hl => ?_, fun e he _ hl => ?_, clusterDrift_ours h⟩
  · exact madeLive_of_rows (hmade ▸ hl.1) hl fun i' hi' =>
      (hrows e.account i' hi').imp_right fun h => h.1
  · rw [hmade] at he
    rcases hl with ⟨hkind, s', hs', hid⟩
    rcases scriptLeft_of_drift (clusterDrift_scripts h) he hs' hid with ⟨s, hs, hsid, -⟩
    exact ⟨he, hkind, s, hs, hsid⟩

end

/-! ## The invariant -/

/-- What the log tells of the service load balancer: every instance that carries its tag was created for
it, and its scripts have its hostname. -/
structure ServiceLogged (tag hostname : String) (w : World LoadBalancer) : Prop where
  tagged : ∀ b, ∀ i ∈ (w.account b).instances.rows, tagOf i tagServiceLoadBalancer = tag →
    (⟨.service, .instance_, b, i.id⟩ : Made LoadBalancer) ∈ w.made
  named : ScriptsNamed (fun lb n => lb = .service → n = hostname) w

/-- The requests that keep this: the control plane load balancer does not carry the tag, and scripts for
the service load balancer have its hostname. -/
def KeepsMarks (hostname : String) : ClusterCall → Prop
  | .verda .controlPlane c =>
    ∀ req, c.op = .instancesCreate req → requestTag req tagServiceLoadBalancer = ""
  | .verda .service c => ∀ n script, c.op = .scriptsAdd n script → n = hostname
  | _ => True

/-- Nothing that was made for the service load balancer is left. -/
structure NoneLeft (w : ClusterWorld) : Prop where
  live : ∀ e, e.owner = .service → ¬ MadeLive w.cloud e
  scripts : OwnLeft (·.owner = .service) (fun _ => False) w.cloud
  unpublished : ¬ IsPublished w

def cleansService (addressOf : AccountID → String → String) (ns name : String) :
    Invariant (clusterSystem addressOf ns name) recordsService where
  inv w := ServiceLogged (clusterTagFor ns name) (name ++ "-service-lb") w.cloud
  loc _ vc _ := vc.metadata.ns = ns ∧ vc.metadata.name = name
  touch _ := ClusterTouched
  rely _ := ServiceShrinks
  guar _ _ _ o := KeepsMarks (name ++ "-service-lb") o.2
  done _ vc out w := TornDown vc out → NoneLeft w

section

variable {addressOf : AccountID → String → String} {ns name hostname tag : String} {w w' : ClusterWorld}
  {ch : ClusterChoice} {a : AccountID} {c : ClusterCall} {α : Type} {vc vc₁ : VerdaCluster}

theorem ServiceLogged.answer {o : ScopedCall} {x : ScopedCall.Res o} (htag : tag ≠ "")
    (h : ServiceLogged tag hostname w.cloud) (ho : KeepsMarks hostname o.2)
    (hans : clusterAnswer addressOf ch w o = some (x, w')) : ServiceLogged tag hostname w'.cloud := by
  rcases o with ⟨a, c⟩
  rcases verda_or_notVerda c with ⟨lb, c', rfl⟩ | hnot
  · rcases clusterAnswer_verda hans with ⟨ch', hans', -⟩
    refine ⟨fun b i' hi' hi'tag => ?_, h.named.answer ?_ hans'⟩
    · rcases answer_instances hans' b i' hi' with ⟨i, hi, hkeep⟩ | ⟨-, req, vs, hreq, hc, hmade⟩
      · rw [hkeep.id]
        exact answer_grows hans' _ (h.tagged b i hi (hkeep.tagOf _ ▸ hi'tag))
      · cases lb with
        | service => exact hmade
        | controlPlane =>
          rw [hc.tagOf, show requestTag req tagServiceLoadBalancer = "" from ho req hreq] at hi'tag
          exact absurd hi'tag.symm htag
    · rintro n script hadd rfl
      exact ho n script hadd
  · rw [(clusterAnswer_other hnot hans).1]
    exact h

theorem ServiceLogged.drift {d : ClusterDrift} (h : ServiceLogged tag hostname w.cloud)
    (hd : clusterDrift addressOf tag d w = some w') : ServiceLogged tag hostname w'.cloud := by
  rcases clusterDrift_instances hd with ⟨hmade, hrows⟩
  refine ⟨fun b i' hi' htag => ?_, h.named.drift hmade (clusterDrift_scripts hd)⟩
  rcases hrows b i' hi' with ⟨i, hi, hkeep⟩ | ⟨-, hnot⟩
  · rw [hmade, hkeep.id]
    exact h.tagged b i hi (hkeep.tagOf _ ▸ htag)
  · simp [hasClusterTag, htag] at hnot

/-! ## Parts that add nothing -/

/-- The setting of a pass, with the client of one account. -/
abbrev cleansAt (addressOf : AccountID → String → String) (ns name : String) (vc : VerdaCluster)
    (a : AccountID) : Setting ClusterWorld ClusterCall ClusterCall.Res :=
  atClient ((cleansService addressOf ns name).setting () vc) a

theorem cleans_lawful : (cleansAt addressOf ns name vc a).Lawful :=
  Setting.Lawful.atClient ⟨.refl, .trans⟩

/-- A fact that only needs less to be left. -/
def Shrinking (P : ClusterWorld → Prop) : Prop := ∀ w w', P w → ServiceShrinks w w' → P w'

theorem Shrinking.stable {P : ClusterWorld → Prop} (hP : Shrinking P) :
    (cleansAt addressOf ns name vc a).Stable P :=
  fun w w' h hr _ => hP w w' h hr

theorem Shrinking.and {P Q : ClusterWorld → Prop} (hP : Shrinking P) (hQ : Shrinking Q) :
    Shrinking fun w => P w ∧ Q w :=
  fun w w' h hs => ⟨hP w w' h.1 hs, hQ w w' h.2 hs⟩

theorem shrinking_recorded : Shrinking (AllRecorded vc) := fun _ _ h hs => h.shrink hs

/-- No instance of the service load balancer is live. -/
def ServiceDown (w : ClusterWorld) : Prop := ∀ e, e.owner = .service → ¬ MadeLive w.cloud e

theorem shrinking_down : Shrinking ServiceDown := fun _ _ h hs e ho hl => h e ho (hs.live e ho hl)

theorem shrinking_ownLeft (P : Made LoadBalancer → Prop) :
    Shrinking fun w => OwnLeft (·.owner = .service) P w.cloud := by
  intro w w' h hs e he hl ho
  rcases hs.scripts e he ho hl with ⟨he', hl'⟩
  exact h e he' hl' ho

theorem shrinking_noneLeft : Shrinking NoneLeft := fun w w' h hs =>
  ⟨shrinking_down w w' h.live hs, shrinking_ownLeft _ w w' h.scripts hs,
    fun hp => h.unpublished (hs.published hp)⟩

/-- A part whose requests add nothing keeps what is known. -/
theorem cleans_frame {p : ClusterM α} {A : ClusterCall → Prop} {R : α → Prop} {P : ClusterWorld → Prop}
    (hp : p.Obeys A R) (hA : ∀ c, A c → AddsNothing c ∧ KeepsMarks (name ++ "-service-lb") c)
    (hP : Shrinking P) (hw : P w) :
    p.wp (cleansAt addressOf ns name vc a) (fun r w => P w ∧ R r) w := by
  refine Prog.wp_frame hp hP.stable (fun _ c hc _ _ => (hA c hc).2) ?_ hw
  intro w c x w' hc hw _ hs _
  rcases atClient_step.1 hs with ⟨-, ch, hans⟩
  exact hP w w' hw (serviceShrinks_answer (hA c hc).1 hans)

/-- A step of the client, for the service load balancer. -/
theorem cleans_step {c : Call} {x : Call.Res c}
    (hs : (atVerda (cleansAt addressOf ns name vc a) .service).step w c x w') :
    (∃ ch, answer .service ch w.cloud (a, c) = some (x, w'.cloud)) ∧
      ((∀ req, c.op ≠ .instancesCreate req) → (∀ n script, c.op ≠ .scriptsAdd n script) →
        ServiceShrinks w w') := by
  rcases atClient_step.1 (atVerda_step.1 hs) with ⟨-, ch, hans⟩
  rcases clusterAnswer_verda hans with ⟨ch', hans', -, -, hworkload⟩
  refine ⟨⟨ch', hans'⟩, fun hcreate hadd => ?_⟩
  have hadds : AddsNothing (.verda .service c) := ⟨hcreate, hadd⟩
  exact serviceShrinks_verda hadds hans' hworkload

/-- A part of the teardown that only deletes keeps what is known. -/
theorem cleans_verda {M : List Method} {p : ClientM α} {R : α → Prop} {P : ClusterWorld → Prop}
    (hp : p.Obeys (Uses M) R) (hM : .createInstance ∉ M) (hP : Shrinking P) (hw : P w) :
    p.wp (atVerda (cleansAt addressOf ns name vc a) .service) (fun r w => P w ∧ R r) w := by
  refine Prog.wp_frame hp (fun w w' h hr _ => hP w w' h hr)
    (fun _ c hc _ _ n script hadd => absurd hadd (hc.ne_scriptsAdd hM n script)) ?_ hw
  intro w c x w' hc hw _ hs _
  exact hP w w' hw ((cleans_step hs).2 (hc.ne_instancesCreate hM) (hc.ne_scriptsAdd hM))

/-! ## The teardown -/

/-- When the lookup by ID comes back with an instance that is gone, the one in the log is not live. -/
theorem not_madeLive_of_pickByID {ι : Type} {who : ι} {w w' : World ι} {ch : Choice} {m : Method}
    {id : String} {x : Except Sdk.ApiErr Sdk.Instance} {inst : Instance} {e : Made ι}
    (hans : answer who ch w (a, ⟨m, .instancesGetByID id⟩) = some (x, w'))
    (hpick : pickByID id x = .ok (some inst)) (hgone : instanceGone inst = true) (hacc : e.account = a)
    (hid : e.id = id) : ¬ MadeLive w e := by
  rintro ⟨-, -, j, hj, hje, hlive⟩
  rw [hacc] at hj
  have hjid : j.id = id := hje.trans hid
  rcases answer_instancesGetByID hans with ⟨-, ⟨i, hi, hiid, rfl⟩ | ⟨hnone, -⟩ | ⟨err, rfl, herr⟩⟩
  · cases hpick
    obtain rfl : j = i := (w.account a).instances.eq_of_key hj hi (hjid.trans hiid.symm)
    have hgone : isGone j = true := hgone
    rw [hlive] at hgone
    cases hgone
  · exact hnone j hj hjid
  · simp [pickByID, herr] at hpick

/-- The lookup of the teardown: unless it finds a live instance, there is none. -/
theorem cleans_find (hlb : lbStatus vc₁ .service = lbStatus vc .service)
    (hw : AllRecorded vc w) :
    (findServiceLoadBalancer vc₁).wp
      (atVerda (cleansAt addressOf ns name vc (clusterAccount vc)) .service)
      (fun r w => AllRecorded vc w ∧ ∀ found, r = .ok found →
        (∀ inst ∈ found, instanceGone inst = true) → ServiceDown w) w := by
  have hstable : ∀ r : Except Err (Option Instance), Shrinking fun w => AllRecorded vc w ∧
      ∀ found, r = .ok found → (∀ inst ∈ found, instanceGone inst = true) → ServiceDown w :=
    fun r w w' h hs => ⟨h.1.shrink hs, fun found hr hgone => shrinking_down w w' (h.2 found hr hgone) hs⟩
  have hid : vc₁.status.serviceLoadBalancer.instanceID = (lbStatus vc .service).instanceID :=
    congrArg (·.instanceID) hlb
  rw [findServiceLoadBalancer, findInstanceByStatusOrTag_eq]
  refine wp_lookupInstance (fun r w w' h hr _ => hstable r w w' h hr) ?_ (fun _ w₁ x w' hr _ hs => ?_)
    fun hnone w₁ x w' hr _ hs => ?_
  · rintro w _ (rfl | rfl) - n script hadd <;> cases hadd
  · have hw := hw.shrink hr
    rcases cleans_step hs with ⟨⟨ch, hans⟩, hshrinks⟩
    have hshrinks := hshrinks (fun req h => by cases h) fun n script h => by cases h
    refine ⟨hw.shrink hshrinks, fun found hfound hgone => shrinking_down w₁ w' (fun e ho hl => ?_) hshrinks⟩
    rcases hw.live e hl.1 ho hl with ⟨hacc, -, heid⟩
    rw [hid] at hfound hans
    cases found with
    | none => exact pickByID_ne_none hfound
    | some inst => exact not_madeLive_of_pickByID hans hfound (hgone inst rfl) hacc heid hl
  · -- without a recorded instance there is nothing live
    have hw := hw.shrink hr
    have hshrinks := (cleans_step hs).2 (fun req h => by cases h) fun n script h => by cases h
    refine ⟨hw.shrink hshrinks, fun _ _ _ e ho hl => ?_⟩
    have hl' := hshrinks.live e ho hl
    exact absurd (hid ▸ hnone) (hw.live e hl'.1 ho hl').2.1

/-- The scripts of the service load balancer, for the rules of script deletion. -/
theorem cleans_keepsLeft : KeepsLeft (atVerda (cleansAt addressOf ns name vc a) .service)
    ClusterWorld.cloud a (name ++ "-service-lb") (·.owner = .service) where
  lawful := Setting.Lawful.atVerda cleans_lawful
  stable P w w' h hr _ := shrinking_ownLeft P w w' h hr
  answered hs := by
    rcases cleans_step hs with ⟨⟨ch, hans⟩, -⟩
    exact ⟨.service, ch, hans⟩
  allowed hop _ n script hadd := absurd hadd (hop n script)
  named hi e he ho hkind s hs hid := hi.1.named e he hkind s hs hid ho

/-- What is known of a script that is left. -/
def ScriptKnown (vc : VerdaCluster) (e : Made LoadBalancer) : Prop :=
  e.account = clusterAccount vc ∧
    ((lbStatus vc .service).startupScriptID = "" ∨ e.id = (lbStatus vc .service).startupScriptID)

/-- When it succeeds, no script is left. -/
theorem cleans_script (hlb : lbStatus vc₁ .service = lbStatus vc .service)
    (hname : vc₁.metadata.name = name)
    (hw : OwnLeft (·.owner = .service) (ScriptKnown vc) w.cloud) :
    (deleteServiceLBScript vc₁).wp
      (atVerda (cleansAt addressOf ns name vc (clusterAccount vc)) .service)
      (fun r w => r.1 = .ok false → OwnLeft (·.owner = .service) (fun _ => False) w.cloud) w := by
  have hsid : vc₁.status.serviceLoadBalancer.startupScriptID = (lbStatus vc .service).startupScriptID :=
    congrArg (·.startupScriptID) hlb
  have hS : KeepsLeft (atVerda (cleansAt addressOf ns name vc (clusterAccount vc)) .service)
      ClusterWorld.cloud (clusterAccount vc) (name ++ "-service-lb") (·.owner = .service) :=
    cleans_keepsLeft
  have hret : ∀ (r : Except Err Bool × VerdaCluster) (w : ClusterWorld),
      (r.1 = .ok false → OwnLeft (·.owner = .service) (fun _ => False) w.cloud) →
      (Prog.ret r : ClientM _).wp (atVerda (cleansAt addressOf ns name vc (clusterAccount vc)) .service)
        (fun r w => r.1 = .ok false → OwnLeft (·.owner = .service) (fun _ => False) w.cloud) w :=
    fun r w h => Prog.wp_ret_stable (fun w w' h hr hi hok => hS.stable _ w w' (h hok) hr hi) h
  unfold deleteServiceLBScript
  dsimp only
  split
  · rename_i hne
    refine Prog.wp_bind hS.lawful (Prog.wp_mono ?_ (hS.deleteStartupScript hw))
    rintro (e | u) w - hr
    · exact hret _ w fun h => by cases h
    · refine hret _ w fun _ => (hr rfl).mono fun e h ho => ?_
      rcases h ho with ⟨⟨hacc, hnone | hid⟩, hnot⟩
      · exact hne (hsid.trans hnone)
      · exact hnot ⟨hacc, hid.trans hsid.symm⟩
  · have hhost : serviceLoadBalancerHostname vc₁ = name ++ "-service-lb" := by
      rw [serviceLoadBalancerHostname, hname]
    rw [hhost]
    refine Prog.wp_bind hS.lawful (Prog.wp_mono ?_ (hS.deleteStartupScriptByName hw))
    rintro (e | u) w - hr
    · exact hret _ w fun h => by cases h
    · exact hret _ w fun _ => (hr rfl).mono fun e h ho => (h ho).2 (h ho).1.1

/-- What the teardown at Verda achieves when there is nothing to wait for. -/
def Unwound (r : Except Err Bool × VerdaCluster) (w : ClusterWorld) : Prop :=
  r.1 = .ok false → ServiceDown w ∧ OwnLeft (·.owner = .service) (fun _ => False) w.cloud

/-- While the instance is there, the teardown waits. -/
theorem deleteLiveServiceLB_waits (now : Time) (vc : VerdaCluster) (inst : Instance) :
    (deleteLiveServiceLB now vc inst).Obeys (fun _ => True) fun r => r.1 ≠ .ok false :=
  obeys_deleteLive (Prog.obeys_true _) nofun (fun _ => nofun) nofun nofun

theorem cleans_delete (now : Time) (hlb : lbStatus vc₁ .service = lbStatus vc .service)
    (hname : vc₁.metadata.name = name) (hw : AllRecorded vc w) :
    (deleteServiceLoadBalancer now vc₁).wp
      (atVerda (cleansAt addressOf ns name vc (clusterAccount vc)) .service) Unwound w := by
  have hS : (atVerda (cleansAt addressOf ns name vc (clusterAccount vc)) .service).Lawful :=
    Setting.Lawful.atVerda cleans_lawful
  have hwait : ∀ (r : Except Err Bool × VerdaCluster) (w : ClusterWorld), r.1 ≠ .ok false →
      (Prog.ret r : ClientM _).wp
        (atVerda (cleansAt addressOf ns name vc (clusterAccount vc)) .service) Unwound w :=
    fun r w h w' _ _ hok => absurd hok h
  -- the last step, once no instance is live
  have hscript : ∀ w, AllRecorded vc w → ServiceDown w → (deleteServiceLBScript vc₁).wp
      (atVerda (cleansAt addressOf ns name vc (clusterAccount vc)) .service) Unwound w := by
    intro w hw hdown
    have hknown : OwnLeft (·.owner = .service) (ScriptKnown vc) w.cloud := by
      intro e he hl ho
      rcases hw.scripts e he ho hl with ⟨hacc, -, hid⟩
      exact ⟨hacc, hid⟩
    refine Prog.wp_mono ?_ (Prog.wp_and (cleans_script hlb hname hknown)
      (cleans_verda (deleteServiceLBScript_uses vc₁) (by decide) shrinking_down hdown))
    rintro r w - ⟨hleft, hdown, -⟩ hok
    exact ⟨hdown, hleft hok⟩
  rw [deleteServiceLoadBalancer_eq]
  refine wp_teardown hS (U := fun _ w => (AllRecorded vc w ∧ ServiceDown w) ∧ True) (cleans_find hlb hw)
    ?live ?purge ?none ?missing ?purged ?failed ?wait
  case live =>
    intro inst w _ _
    refine Prog.wp_mono ?_ (Prog.wp_and_obeys (deleteLiveServiceLB_waits now vc₁ inst) (cleans_verda
      (deleteLiveServiceLB_uses now vc₁ inst) (by decide) (P := fun _ => True)
      (fun _ _ _ _ => trivial) trivial))
    rintro r w - ⟨-, hne⟩ hok
    exact absurd hok hne
  case purge =>
    rintro inst w - ⟨hw, hfound⟩ hgone -
    have hdown : ServiceDown w := hfound (some inst) rfl (by simpa using hgone)
    exact cleans_verda (purgeInstanceVolumes_uses inst.id (M := teardownMethods) (by decide)) (by decide)
      (shrinking_recorded.and shrinking_down) ⟨hw, hdown⟩
  case none =>
    rintro w - ⟨hw, hfound⟩
    exact hscript w hw (hfound none rfl (by simp))
  case missing =>
    rintro inst w - ⟨hw, hfound⟩ hgone -
    exact hscript w hw (hfound (some inst) rfl (by simpa using hgone))
  case purged => exact fun w _ h => hscript w h.1.1 h.1.2
  case failed => exact fun _ w _ _ => hwait _ w fun h => by cases h
  case wait => exact fun w _ => hwait _ w fun h => by cases h

/-! ## The Secret -/

/-- A Secret that is deleted is not published. -/
theorem not_isPublished_deleted :
    ¬ IsPublished (w.workloadReact (.delete serviceLBSecretNs serviceLBSecretName)).2 := by
  simp only [ClusterWorld.workloadReact]
  cases hfound : w.workload (serviceLBSecretNs, serviceLBSecretName) with
  | some p => simp [IsPublished]
  | none => simp [IsPublished, hfound]

/-- A kubeconfig or a client is refused only while the workload cluster is not reachable. -/
theorem kubeconfig_refused {ns name : String} {e : Err}
    (h : clusterAnswer addressOf ch w (a, .kubeconfigFromSecret ns name) = some (.error e, w')) :
    w.reachable ≠ true ∧ w' = w := by
  simp only [clusterAnswer] at h
  split at h
  · split at h
    · cases h
    · rename_i hunreachable
      cases h
      exact ⟨hunreachable, rfl⟩
  · cases h
  · cases h

theorem workloadClient_refused {kubeconfig : Bytes} {e : Err}
    (h : clusterAnswer addressOf ch w (a, .workloadClient kubeconfig) = some (.error e, w')) :
    w.reachable ≠ true ∧ w' = w := by
  simp only [clusterAnswer] at h
  split at h
  · split at h
    · cases h
    · rename_i hunreachable
      cases h
      exact ⟨hunreachable, rfl⟩
  · cases h
  · cases h

/-- So is the deletion of a Secret. -/
theorem workloadDelete_answer {kubeconfig : Bytes} {ns name : String}
    {x : Except KubeErr (SecretOp.delete ns name).Ans}
    (h : clusterAnswer addressOf ch w (a, .workload kubeconfig (.delete ns name)) = some (x, w')) :
    w' = (w.workloadReact (.delete ns name)).2 ∨ (w.reachable ≠ true ∧ w' = w) := by
  simp only [clusterAnswer] at h
  split at h
  · split at h
    · exact .inl (congrArg Prod.snd (Option.some.inj h)).symm
    · cases h
  · split at h
    · cases h
    · rename_i hunreachable
      cases h
      exact .inr ⟨by simpa [SecretOp.isDelete] using hunreachable, rfl⟩
  · split at h
    · cases h
      exact .inl rfl
    · cases h
  · cases h

/-- The removal succeeds while the workload cluster is reachable. -/
theorem cleans_removeSecret (cluster : Cluster) (hdis : Disables vc) {P : ClusterWorld → Prop}
    (hP : Shrinking P) (hw : P w) :
    (removeServiceLoadBalancerSecret cluster).wp (cleansAt addressOf ns name vc a)
      (fun _ w => P w ∧ ¬ IsPublished w) w := by
  have hstable : Shrinking fun w => P w ∧ ¬ IsPublished w :=
    hP.and fun w w' h hs hp => h (hs.published hp)
  have hret : ∀ w : ClusterWorld, P w → ¬ IsPublished w →
      (Prog.ret () : ClusterM Unit).wp (cleansAt addressOf ns name vc a)
        (fun _ w => P w ∧ ¬ IsPublished w) w :=
    fun w hw hp => Prog.wp_ret_stable hstable.stable ⟨hw, hp⟩
  have hstep : ∀ {c : ClusterCall} {x : ClusterCall.Res c} {w w' : ClusterWorld}, AddsNothing c →
      asksWorkload (a, c) = true → P w → (cleansAt addressOf ns name vc a).step w c x w' →
      P w' ∧ (w.reachable = true ∨ ¬ IsPublished w) ∧
        ∃ ch, clusterAnswer addressOf ch w (a, c) = some (x, w') := by
    intro c x w w' hc hasks hw hs
    rcases atClient_step.1 hs with ⟨hcond, ch, hans⟩
    have hans : clusterAnswer addressOf ch w (a, c) = some (x, w') := hans
    exact ⟨hP w w' hw (serviceShrinks_answer hc hans), hcond hasks hdis, ch, hans⟩
  refine Prog.wp_call hP.stable hw fun w hw _ => ⟨trivial, fun x w' hs _ => ?_⟩
  rcases hstep (c := .kubeconfigFromSecret _ _) trivial rfl hw hs with ⟨hw', hreach, ch, hans⟩
  rcases x with e | kubeconfig
  · rcases kubeconfig_refused hans with ⟨hnot, rfl⟩
    exact hret _ hw' (hreach.resolve_left hnot)
  · refine Prog.wp_call hP.stable hw' fun w hw _ => ⟨trivial, fun x w' hs _ => ?_⟩
    rcases hstep (c := .workloadClient _) trivial rfl hw hs with ⟨hw', hreach, ch, hans⟩
    rcases x with e | u
    · rcases workloadClient_refused hans with ⟨hnot, rfl⟩
      exact hret _ hw' (hreach.resolve_left hnot)
    · refine Prog.wp_call hP.stable hw' fun w hw _ => ⟨trivial, fun x w' hs _ => ?_⟩
      rcases hstep (c := .workload _ (.delete _ _)) rfl rfl hw hs with ⟨hw', hreach, ch, hans⟩
      refine hret _ hw' ?_
      rcases workloadDelete_answer hans with rfl | ⟨hnot, rfl⟩
      · exact not_isPublished_deleted
      · exact hreach.resolve_left hnot

/-! ## Whole passes -/

theorem AllRecorded.noneLeft (h : AllRecorded vc w) (hnone : (lbStatus vc .service).instanceID = "") :
    NoneLeft w where
  live e ho hl := (h.live e hl.1 ho hl).2.1 hnone
  scripts e he hl ho := (h.scripts e he ho hl).2.1 hnone
  unpublished hp := h.published hp hnone

/-- The reply of a pass that is through with the teardown. -/
def SettledReply (reply : Reply) : Prop :=
  ∃ result, reply = .ok result ∧ result.requeueAfter ≠ deletePollInterval

theorem cleans_disable (now : Time) (cluster : Cluster) (result : Result) (hdis : Disables vc)
    (hlb : lbStatus vc₁ .service = lbStatus vc .service) (hname : vc₁.metadata.name = name)
    (hw : AllRecorded vc w) :
    (ClusterScope.disableService now cluster result vc₁).wp
      (cleansAt addressOf ns name vc (clusterAccount vc))
      (fun r w => SettledReply r.1 → NoneLeft w) w := by
  have hret : ∀ (r : Reply × VerdaCluster) (w : ClusterWorld), (SettledReply r.1 → NoneLeft w) →
      (Prog.ret r : ClusterM _).wp (cleansAt addressOf ns name vc (clusterAccount vc))
        (fun r w => SettledReply r.1 → NoneLeft w) w :=
    fun r w h => Prog.wp_ret_stable (fun w w' h hr _ hs => shrinking_noneLeft w w' (h hs) hr) h
  unfold ClusterScope.disableService
  dsimp only
  split
  · refine Prog.wp_bind cleans_lawful (Prog.wp_mono ?_ (wp_onVerda (cleans_delete now hlb hname hw)))
    rintro ⟨e | (_ | _), vc₂⟩ w - hr
    · refine hret _ w fun hs => ?_
      rcases hs with ⟨_, hs, -⟩
      cases hs
    · refine Prog.wp_bind cleans_lawful (Prog.wp_mono ?_ (cleans_removeSecret cluster hdis
        (shrinking_down.and (shrinking_ownLeft _)) (hr rfl)))
      rintro u w - ⟨⟨hdown, hleft⟩, hpublished⟩
      exact hret _ w fun _ => ⟨hdown, hleft, hpublished⟩
    · refine hret _ w fun hs => ?_
      rcases hs with ⟨_, hs, hne⟩
      cases hs
      exact absurd rfl hne
  · rename_i hnone
    have hid : (lbStatus vc .service).instanceID = "" := by
      rw [← hlb]
      exact not_not.1 (not_or.1 hnone).1
    exact hret _ w fun _ => hw.noneLeft hid

/-- What a pass ends with. -/
def EndsClean (vc : VerdaCluster) (out : ClusterOutcome) (w : ClusterWorld) : Prop :=
  (TornDown vc out → NoneLeft w) ∧ ∀ sent ∈ out.sent, SameCluster vc sent

/-- The part after the endpoint is settled. -/
theorem cleans_service (inp : ClusterInput) (cluster : Cluster) {endpoint : Reply × VerdaCluster}
    (hdel : vc.metadata.deletionTimestamp = none) (hname : vc.metadata.name = name)
    (hsame : SameCluster vc endpoint.2) (hlb : lbStatus endpoint.2 .service = lbStatus vc .service)
    (hw : Disables vc → AllRecorded vc w) :
    (ClusterScope.reconcileService inp.scripts inp.now cluster endpoint).wp
      (cleansAt addressOf ns name vc (clusterAccount vc))
      (fun r w => EndsClean vc (clusterPatched r endpoint) w) w := by
  rcases endpoint with ⟨e | result, vc₁⟩
  · intro w' _ _
    refine ⟨fun htorn => ?_, sameCluster_patched hsame⟩
    rcases htorn with ⟨-, -, _, hs, -⟩
    cases hs
  · have hname₁ : vc₁.metadata.name = name := hsame.name.trans hname
    simp only [ClusterScope.reconcileService]
    split
    · rename_i hoff
      have hdis : Disables vc := ⟨hdel, by rw [← hsame.serviceEnabled]; simpa using hoff⟩
      refine Prog.wp_mono ?_ (Prog.wp_and_obeys (disableService_obeys inp.now cluster result vc₁)
        (cleans_disable inp.now cluster result hdis hlb hname₁ (hw hdis)))
      rintro r w - ⟨hleft, hr, -⟩
      exact ⟨fun htorn => hleft htorn.2.2, sameCluster_patched (hsame.trans hr)⟩
    · rename_i hon
      have hon : vc.serviceLoadBalancerEnabled = true := by
        rw [← hsame.serviceEnabled]
        simpa using hon
      have hobeys := enableService_obeys (A := fun c => ∀ n script, c.op = .scriptsAdd n script →
        n = name ++ "-service-lb") inp.scripts cluster result vc₁ fun keys =>
          (acquireServiceLoadBalancer_acquires inp.scripts cluster vc₁ keys).mono ?_ fun _ h => h
      · refine Prog.wp_mono ?_ (Prog.wp_of_obeys hobeys fun w c hc _ => ?_)
        · rintro r w - ⟨hr, -⟩
          refine ⟨fun htorn => ?_, sameCluster_patched (hsame.trans hr)⟩
          exact absurd (hon.symm.trans htorn.1) (by decide)
        · cases c with
          | verda lb c =>
            obtain ⟨rfl, hc⟩ := hc
            exact hc
          | _ => trivial
      · intro c hc n script hadd
        rcases hc with hlook | ⟨spec, hhost, -, -, hscript, -⟩
        · exact absurd hadd (hlook.ne_scriptsAdd (by decide) n script)
        · rw [hscript n script hadd, hhost, serviceLoadBalancerHostname, hname₁]

theorem cleans_startClusterPass (inp : ClusterInput) (hloc : vc.metadata.name = name)
    (hw : Disables vc → AllRecorded vc w) :
    (startClusterPass inp vc).wp ((cleansService addressOf ns name).setting () vc) (EndsClean vc) w := by
  have hS : ((cleansService addressOf ns name).setting () vc).Lawful := ⟨.refl, .trans⟩
  refine startClusterPass_cases (P := fun pass => pass.wp _ (EndsClean vc) w) inp vc ?_ ?_ ?_
  · intro out hend hsent w' _ _
    refine ⟨fun htorn => ?_, fun sent hs => (hsent sent hs).1⟩
    have hsome := htorn.2.1
    rw [hend] at hsome
    cases hsome
  · intro _
    refine wp_runClusterDelete (Prog.wp_mono ?_
      (Prog.wp_of_obeys (reconcileDelete_obeys inp.now vc) fun w c hc _ => ?_))
    · rintro r w - ⟨hsame, -⟩
      refine ⟨fun htorn => ?_, sameCluster_patched hsame⟩
      cases htorn.2.1
    · rcases hc with ⟨lb, c', rfl, hc⟩
      cases lb with
      | controlPlane => exact fun req hreq => absurd hreq (hc.ne_instancesCreate (by decide) req)
      | service => exact fun n script hadd => absurd hadd (hc.ne_scriptsAdd (by decide) n script)
  · intro cluster hdel
    have hobeys := reconcileEndpoint_obeys (A := fun c => ∀ req, c.op = .instancesCreate req →
      requestTag req tagServiceLoadBalancer = "") inp.scripts cluster vc fun keys =>
        (acquireLoadBalancer_acquires inp.scripts cluster vc keys).mono (fun c hc req hreq =>
          (hc.requestTag_eq hreq _).trans (loadBalancerTags_service cluster vc)) fun _ h => h
    refine wp_runClusterNormal hS (Prog.wp_mono ?_ (cleans_frame
      (P := fun w => Disables vc → AllRecorded vc w) hobeys (fun c hc => ?_)
      (fun w w' h hs hdis => (h hdis).shrink hs) hw))
    · rintro endpoint w - ⟨hw, hsame, hlb⟩
      exact cleans_service inp cluster hdel hloc hsame hlb hw
    · cases c with
      | verda lb c =>
        obtain ⟨rfl, hc⟩ := hc
        exact ⟨trivial, hc⟩
      | workload kubeconfig op =>
        exact absurd (show LoadBalancer.controlPlane = .service from hc) (by decide)
      | _ => exact ⟨trivial, trivial⟩

theorem cleansService_valid : (cleansService addressOf ns name).Valid where
  refl _ := .refl
  trans _ {_ _ _} := .trans
  drift hinv hd := ⟨hinv.drift hd, fun _ => ⟨fun _ => serviceShrinks_drift hd, fun _ h => h⟩⟩
  edit _ he := editCluster_touched he
  touched _ hloc h := ⟨(ClusterTouched.ns h).trans hloc.1, (ClusterTouched.name h).trans hloc.2⟩
  merge h _ := (ClusterTouched.persist h _ _ _).imp fun _ hq => ⟨trivial, hq.2⟩
  call hinv hloc _ hg hans :=
    ⟨hinv.answer (clusterTagFor_ne_empty ns name) hg hans, hloc, fun j hj => absurd rfl hj⟩
  pass {i inp vc w} _ hloc hstart := by
    refine Invariant.wp_persist (Prog.wp_mono ?_ (cleans_startClusterPass inp hloc.2 hstart))
    rintro out w - ⟨hdone, hsent⟩
    refine ⟨hdone, fun p => ?_⟩
    have hsame := persistCluster_same hsent p
    exact ⟨hsame.ns.trans hloc.1, hsame.name.trans hloc.2⟩

end

/-- **Disabling the service load balancer cleans up**: when a pass with it disabled returns without
error and without asking to be called again for the teardown, no live instance carries its tag, none of
its startup scripts exists and its Secret is not published, in every run in which such passes start with
everything recorded that is left and can reach the workload cluster. -/
theorem disabled_is_clean {addressOf : AccountID → String → String} {ns name : String}
    {s₀ s : ClusterState} (h₀ : ClusterInitial addressOf ns name s₀)
    (h : Reach (clusterSystem addressOf ns name) recordsService s₀ s) {out : ClusterOutcome}
    (hrun : s.run () = some (.ret out)) (htorn : TornDown (s.seen ()) out) :
    ServiceClean (clusterTagFor ns name) s.world := by
  have hinit : ServiceLogged (clusterTagFor ns name) (name ++ "-service-lb") s₀.world.cloud := by
    refine ⟨fun b i hi htag => ?_, fun e he => ?_⟩
    · have hnot := h₀.untagged b i hi
      simp [hasClusterTag, htag] at hnot
    · rw [h₀.made] at he
      cases he
  have hholds : (cleansService addressOf ns name).Holds s :=
    Invariant.sound cleansService_valid hinit (fun _ => ⟨h₀.cluster_ns, h₀.cluster_name⟩)
      (fun _ => h₀.idle) h
  have hnone : NoneLeft s.world := hholds.done cleansService_valid hrun htorn
  refine ⟨fun b i hi htag => ?_, fun e he ho hl => hnone.scripts e he hl ho, hnone.unpublished⟩
  by_contra hlive
  exact hnone.live _ rfl ⟨hholds.inv.tagged b i hi htag, rfl, i, hi, rfl, Bool.eq_false_iff.2 hlive⟩

/-! ## Runs of the sample cluster -/

/-- What a pass over the sample cluster is given, with a startup script for the service load balancer. -/
def envoyInput : ClusterInput :=
  { clusterInput with scripts := { startupScript := fun _ => [], envoyStartupScript := fun _ => [1] } }

/-- The kubeconfig of the workload cluster is read and a client is built. -/
def connects : List ClusterMove :=
  [.answer () (.reply (.kubeconfigFromSecret "default" "c0") (.ok [])),
    .answer () (.reply (.workloadClient []) (.ok ()))]

/-- The service load balancer is created with its script and comes up at once, and its Secret is
published; what is stored of this varies. Then the load balancer is disabled. -/
def publishAndDisable (stored : Patch) : List ClusterMove :=
  [.start () envoyInput, keysFound "c0-service-lb-ssh"] ++ verdaAccepts 3 ++
    [.answer () (.verda (.accept (.script { id := "s1", name := "c0-service-lb", script := [1] }))),
      .answer () (.verda (.accept (.instance_
        { lbInstance .service "x1" "running" with startupScriptID := some "s1" } [])))] ++
    connects ++ [.answer () .accept, .answer () .accept, .finish () stored,
      switchService (clusterWith {} enabledLB) {}]

/-- The pass has returned, and is through with the teardown. -/
def tearsDown (s : ClusterState) : Bool :=
  !(s.seen ()).serviceLoadBalancerEnabled && (returnedCluster s).any fun out => out.endpoint.isSome &&
    match out.reply with
    | .ok result => result.requeueAfter != deletePollInterval
    | .error _ => false

theorem tearsDown_iff {s : ClusterState} (h : tearsDown s = true) :
    ∃ out, s.run () = some (.ret out) ∧ TornDown (s.seen ()) out := by
  rcases Bool.and_eq_true_iff.1 h with ⟨hoff, hout⟩
  rcases returnedCluster_any hout with ⟨out, hrun, h⟩
  rcases Bool.and_eq_true_iff.1 h with ⟨hend, hreply⟩
  refine ⟨out, hrun, by simpa using hoff, hend, ?_⟩
  split at hreply
  · rename_i result hok
    exact ⟨result, hok, by simpa using hreply⟩
  · cases hreply

/-- The teardown after a stored patch: the instance is shut down and goes away, its script is deleted,
and the Secret is removed. -/
theorem disabled_is_clean_sample : ∃ (s : ClusterState) (out : ClusterOutcome),
    s.run () = some (.ret out) ∧ TornDown (s.seen ()) out ∧ s.world.cloud.made ≠ [] ∧
      ServiceClean (clusterTagFor "default" "c0") s.world := by
  obtain ⟨s, hs, hgood⟩ := exists_reach_meeting (clusterSystem sampleAddress "default" "c0")
    recordsService (clusterState (clusterWith {} enabledLB))
    (fun s => tearsDown s && decide (s.world.cloud.made ≠ []))
    (publishAndDisable {} ++ [.start () envoyInput] ++ verdaAccepts 3 ++ [.finish () {},
      .drift (.account .global { scripts := ⟨[{ id := "s1", name := "c0-service-lb", script := [1] }],
        List.nodup_singleton _⟩ }), .start () envoyInput] ++ verdaAccepts 2 ++ connects ++
      [.answer () .accept])
    (by decide +kernel)
  rcases Bool.and_eq_true_iff.1 hgood with ⟨htorn, hmade⟩
  rcases tearsDown_iff htorn with ⟨out, hrun, htorn⟩
  exact ⟨s, out, hrun, htorn, of_decide_eq_true hmade,
    disabled_is_clean (clusterState_initial rfl rfl rfl) hs hrun htorn⟩

/-- Two runs that end with the load balancer disabled and not cleaned up. In the first the status after
the creation is not stored, so that the instance, the script and the Secret all stay. In the second
everything is recorded, but the workload cluster is not reachable when the Secret is to be removed. -/
theorem disabled_not_clean :
    ClusterInitial sampleAddress "default" "c0" (clusterState (clusterWith {} enabledLB)) ∧
    (∃ (s : ClusterState) (out : ClusterOutcome),
      Reach (clusterSystem sampleAddress "default" "c0") {} (clusterState (clusterWith {} enabledLB)) s ∧
      s.run () = some (.ret out) ∧ TornDown (s.seen ()) out ∧
      (∃ i ∈ (s.world.cloud.account .global).instances.rows,
        tagOf i tagServiceLoadBalancer = clusterTagFor "default" "c0" ∧ isGone i = false) ∧
      (∃ e ∈ s.world.cloud.made, e.owner = .service ∧ ScriptLeft s.world.cloud e) ∧
      IsPublished s.world) ∧
    ∃ (s : ClusterState) (out : ClusterOutcome),
      Reach (clusterSystem sampleAddress "default" "c0") {} (clusterState (clusterWith {} enabledLB)) s ∧
      s.run () = some (.ret out) ∧ TornDown (s.seen ()) out ∧ IsPublished s.world := by
  refine ⟨clusterState_initial rfl rfl rfl, ?_, ?_⟩
  · obtain ⟨s, hs, hbad⟩ := exists_reach_of_run (clusterSystem sampleAddress "default" "c0")
      (clusterState (clusterWith {} enabledLB))
      (fun s => tearsDown s && decide ((∃ i ∈ (s.world.cloud.account .global).instances.rows,
        tagOf i tagServiceLoadBalancer = clusterTagFor "default" "c0" ∧ isGone i = false) ∧
        (∃ e ∈ s.world.cloud.made, e.owner = .service ∧ ScriptLeft s.world.cloud e) ∧
        IsPublished s.world))
      (publishAndDisable { status := false } ++ [.start () envoyInput]) (by decide +kernel)
    rcases Bool.and_eq_true_iff.1 hbad with ⟨htorn, hleft⟩
    rcases tearsDown_iff htorn with ⟨out, hrun, htorn⟩
    exact ⟨s, out, hs, hrun, htorn, of_decide_eq_true hleft⟩
  · obtain ⟨s, hs, hbad⟩ := exists_reach_of_run (clusterSystem sampleAddress "default" "c0")
      (clusterState (clusterWith {} enabledLB))
      (fun s => tearsDown s && decide (IsPublished s.world))
      (publishAndDisable {} ++ [relistLB [] List.nodup_nil, .drift (.reach false),
        .start () envoyInput] ++ verdaAccepts 2 ++ [.answer () (.reply
          (.kubeconfigFromSecret "default" "c0") (.error ⟨.other, "not found"⟩))]) (by decide +kernel)
    rcases Bool.and_eq_true_iff.1 hbad with ⟨htorn, hleft⟩
    rcases tearsDown_iff htorn with ⟨out, hrun, htorn⟩
    exact ⟨s, out, hs, hrun, htorn, of_decide_eq_true hleft⟩

end VerdaCapi.Controller
