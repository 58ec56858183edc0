import VerdaCapi.Controller.Backends

/-!
# The control plane endpoint

The control plane endpoint is baked into the certificates of the cluster, so the webhook lets nobody
change it once it is set. With the load balancer enabled it is the controller that sets it, to the
address of the instance of the pass, and every later pass sets it again.

`endpoint_fixed`: no pass ever sends another endpoint than the stored one, nor another instance of the
control plane load balancer than the recorded one. This holds in every run in which instances keep their
addresses, a patch that stores the spec also stores the status, `identityRef` keeps naming the same
account, and nobody sets the endpoint by hand after the cluster was created: with the load balancer that
would be another endpoint than its own, and without it one that is set while a pass takes it from the
Cluster would be overwritten.
-/

namespace VerdaCapi.Controller

open Remote Go Api Cloud Webhook

/-! ## What has to stay -/

/-- An endpoint that is set, and the recorded instance of the control plane load balancer, stay. -/
structure Fixes (vc vc' : VerdaCluster) : Prop where
  endpoint : vc.spec.controlPlaneEndpoint.host ≠ "" → vc.spec.controlPlaneEndpoint.port ≠ 0 →
    vc'.spec.controlPlaneEndpoint = vc.spec.controlPlaneEndpoint
  instanceID : vc.status.loadBalancer.instanceID ≠ "" →
    vc'.status.loadBalancer.instanceID = vc.status.loadBalancer.instanceID

/-- The endpoint behind a load balancer is the address of the recorded instance. -/
def Served (addressOf : AccountID → String → String) (a : AccountID) (vc : VerdaCluster) : Prop :=
  vc.loadBalancerEnabled = true → vc.spec.controlPlaneEndpoint.host ≠ "" →
    vc.status.loadBalancer.instanceID ≠ "" ∧ vc.spec.controlPlaneEndpoint =
      { host := addressOf a vc.status.loadBalancer.instanceID, port := loadBalancerPort }

/-- What a pass may take for the load balancer of the cluster. -/
structure Known (addressOf : AccountID → String → String) (a : AccountID) (vc : VerdaCluster)
    (inst : Instance) : Prop where
  id : inst.id ≠ ""
  recorded : vc.status.loadBalancer.instanceID ≠ "" → inst.id = vc.status.loadBalancer.instanceID
  address : inst.ip ≠ "" → addressOf a inst.id = inst.ip

/-- A patch that stores the spec also stores the status. `identityRef` keeps naming the same account, and
an endpoint that is not set is not set by hand. -/
abbrev wholePatches : ClusterConds where
  finish _ p _ _ := p.spec = true → p.status = true
  edit _ e vc := ∀ vc' ∈ editCluster e vc, clusterAccount vc' = clusterAccount vc ∧
    (vc.spec.controlPlaneEndpoint.host = "" →
      vc'.spec.controlPlaneEndpoint = vc.spec.controlPlaneEndpoint)

/-- What such edits may do to a cluster. -/
structure EndpointTouched (vc vc' : VerdaCluster) : Prop where
  touched : ClusterTouched vc vc'
  identity : vc'.identitySecretName = vc.identitySecretName
  endpoint : vc'.spec.controlPlaneEndpoint = vc.spec.controlPlaneEndpoint

section

variable {addressOf : AccountID → String → String} {a : AccountID} {vc vc' vc'' : VerdaCluster}
  {inst : Instance}

theorem Fixes.refl (vc : VerdaCluster) : Fixes vc vc := ⟨fun _ _ => rfl, fun _ => rfl⟩

/-- Once set, the endpoint stays through any number of steps. -/
theorem Fixes.trans (h : Fixes vc vc') (h' : Fixes vc' vc'') : Fixes vc vc'' := by
  refine ⟨fun hhost hport => ?_, fun hid => ?_⟩
  · have heq := h.endpoint hhost hport
    rw [← heq] at hhost hport
    exact (h'.endpoint hhost hport).trans heq
  · have heq := h.instanceID hid
    rw [← heq] at hid
    exact (h'.instanceID hid).trans heq

theorem Fixes.of_eq (hspec : vc'.spec = vc.spec)
    (hid : vc'.status.loadBalancer.instanceID = vc.status.loadBalancer.instanceID) : Fixes vc vc' :=
  ⟨fun _ _ => by rw [hspec], fun _ => hid⟩

/-- Whom the endpoint leads to depends on the spec and the recorded instance only. -/
theorem Served.of_eq (h : Served addressOf a vc) (hspec : vc'.spec = vc.spec)
    (hid : vc'.status.loadBalancer.instanceID = vc.status.loadBalancer.instanceID) :
    Served addressOf a vc' := by
  unfold Served VerdaCluster.loadBalancerEnabled at h ⊢
  rw [hspec, hid]
  exact h

/-- The endpoint of a known instance is the one that is stored, if one is. -/
theorem Known.endpoint (h : Known addressOf a vc inst) (hserved : Served addressOf a vc)
    (henabled : vc.loadBalancerEnabled = true) (hip : inst.ip ≠ "")
    (hhost : vc.spec.controlPlaneEndpoint.host ≠ "") :
    ({ host := inst.ip, port := loadBalancerPort } : APIEndpoint) = vc.spec.controlPlaneEndpoint := by
  obtain ⟨hid, hend⟩ := hserved henabled hhost
  rw [hend, ← h.recorded hid, h.address hip]

theorem EndpointTouched.refl (vc : VerdaCluster) : EndpointTouched vc vc := ⟨.refl vc, rfl, rfl⟩

theorem EndpointTouched.trans (h : EndpointTouched vc vc') (h' : EndpointTouched vc' vc'') :
    EndpointTouched vc vc'' where
  touched := h.touched.trans h'.touched
  identity := h'.identity.trans h.identity
  endpoint := h'.endpoint.trans h.endpoint

/-- Any number of edits. -/
theorem EndpointTouched.of_edited (h : Relation.ReflTransGen EndpointTouched vc vc') :
    EndpointTouched vc vc' := by
  induction h with
  | refl => exact .refl vc
  | tail _ h ih => exact ih.trans h

/-- What a pass sends fixes what was stored when it began, and so what is stored since. -/
theorem EndpointTouched.fixes (h : EndpointTouched vc vc') (hfix : Fixes vc vc'') : Fixes vc' vc'' := by
  refine ⟨fun hhost hport => ?_, fun hid => ?_⟩
  · rw [h.endpoint] at hhost hport ⊢
    exact hfix.endpoint hhost hport
  · rw [h.touched.status] at hid ⊢
    exact hfix.instanceID hid

/-- No edit changes an endpoint. -/
theorem Fixes.touched (h : EndpointTouched vc vc') : Fixes vc vc' :=
  ⟨fun _ _ => h.endpoint, fun _ => by rw [h.touched.status]⟩

/-- What is stored after a patch. -/
theorem Fixes.persist {seen : VerdaCluster} {out : ClusterOutcome} (htouched : EndpointTouched seen vc)
    (h : ∀ sent ∈ out.sent, Fixes seen sent) (p : Patch) : Fixes vc (persistCluster p seen vc out) := by
  rcases persistCluster_cases p seen vc out with heq | ⟨sent, hsent, heq⟩
  · rw [heq]
    exact .refl vc
  · rw [heq]
    have hfix := htouched.fixes (h sent hsent)
    refine ⟨fun hhost hport => ?_, fun hid => ?_⟩
    · by_cases hp : p.spec = true
      · have hmerged : (p.applyCluster seen vc sent).spec.controlPlaneEndpoint =
            sent.spec.controlPlaneEndpoint := by
          simp [Patch.applyCluster, hp, VerdaClusterSpec.merge, ← htouched.endpoint]
        rw [hmerged]
        exact hfix.endpoint hhost hport
      · simp [Patch.applyCluster, hp]
    · by_cases hp : p.status = true
      · simpa [Patch.applyCluster, hp] using hfix.instanceID hid
      · simp [Patch.applyCluster, hp]

/-- After a patch that stores the spec or the status alone the two still agree, since what was sent kept
both; a spec without its status would not do for an endpoint that was set just now. -/
theorem Served.persist {out : ClusterOutcome} (hvc : Served addressOf a vc)
    (h : ∀ sent ∈ out.sent, SameCluster vc sent ∧ Fixes vc sent ∧ Served addressOf a sent) {p : Patch}
    (hp : p.spec = true → p.status = true) : Served addressOf a (persistCluster p vc vc out) := by
  rcases persistCluster_cases p vc vc out with heq | ⟨sent, hsent, heq⟩
  · rw [heq]
    exact hvc
  · rw [heq]
    obtain ⟨hsame, hfix, hserved⟩ := h sent hsent
    by_cases hspec : p.spec = true
    · refine hserved.of_eq ?_ ?_
      · simp [Patch.applyCluster, hspec]
      · simp [Patch.applyCluster, hp hspec]
    · by_cases hstatus : p.status = true
      · intro henabled hhost
        have hkept : (p.applyCluster vc vc sent).spec = vc.spec := by simp [Patch.applyCluster, hspec]
        rw [VerdaCluster.loadBalancerEnabled, hkept] at henabled
        rw [hkept] at hhost ⊢
        obtain ⟨hid, hend⟩ := hvc henabled hhost
        have heq : (p.applyCluster vc vc sent).status.loadBalancer.instanceID =
            vc.status.loadBalancer.instanceID := by
          simpa [Patch.applyCluster, hstatus] using hfix.instanceID hid
        rw [heq]
        exact ⟨hid, hend⟩
      · refine hvc.of_eq ?_ ?_
        · simp [Patch.applyCluster, hspec]
        · simp [Patch.applyCluster, hstatus]

end

/-! ## What a pass makes of an instance -/

section

variable {vc vc' : VerdaCluster}

/-- The endpoint is left, or set to the address of the instance, which is recorded. -/
structure Serving (inst : Instance) (vc vc' : VerdaCluster) : Prop where
  same : SameCluster vc vc'
  instanceID : vc'.status.loadBalancer.instanceID = inst.id
  endpoint : vc'.spec.controlPlaneEndpoint = vc.spec.controlPlaneEndpoint ∨ inst.ip ≠ "" ∧
    vc'.spec.controlPlaneEndpoint = { host := inst.ip, port := loadBalancerPort }

/-- The endpoint is set to the address of the instance that is recorded in the same pass. -/
theorem settleLoadBalancer_serving (cluster : Cluster) (vc : VerdaCluster) (keys : Keys)
    (inst : Instance) : (settleLoadBalancer cluster vc keys inst).Obeys (Aside .controlPlane)
      fun r => Serving inst vc r.2 := by
  have hendpoint : (settleLoadBalancer cluster vc keys inst).Obeys (fun _ => True) fun r =>
      r.2.spec.controlPlaneEndpoint = vc.spec.controlPlaneEndpoint ∨ inst.ip ≠ "" ∧
        r.2.spec.controlPlaneEndpoint = { host := inst.ip, port := loadBalancerPort } := by
    have hnotReady : ∀ (vc : VerdaCluster) (reason message : String),
        (setLBNotReady vc reason message).spec = vc.spec :=
      fun vc reason message => (setLBNotReady_reconditions vc reason message).untouched.1
    unfold settleLoadBalancer
    dsimp only
    split
    · rename_i hserves
      refine (Prog.obeys_true _).bind fun r _ => ?_
      rcases r with e | backends
      · exact .inr ⟨hserves.2, rfl⟩
      · dsimp only
        split
        · refine (Prog.obeys_true _).bind fun r _ => ?_
          rcases r with e | u
          · refine .inr ⟨hserves.2, ?_⟩
            exact congrArg VerdaClusterSpec.controlPlaneEndpoint (hnotReady _ _ _)
          · exact .inr ⟨hserves.2, rfl⟩
        · exact .inr ⟨hserves.2, rfl⟩
    · split
      · exact .inl (congrArg VerdaClusterSpec.controlPlaneEndpoint (hnotReady _ _ _))
      · exact .inl (congrArg VerdaClusterSpec.controlPlaneEndpoint (hnotReady _ _ _))
  exact ((settleLoadBalancer_settles cluster vc keys inst).and hendpoint).mono (fun _ h => h.1)
    fun r h => ⟨h.1.same, h.1.instanceID, h.2⟩

end

/-! ## The invariant -/

/-- What a pass sends keeps the endpoint and the instance, and the endpoint is that of the instance. -/
def SendsFixed (addressOf : AccountID → String → String) (a : AccountID) (vc : VerdaCluster)
    (out : ClusterOutcome) : Prop :=
  ∀ sent ∈ out.sent, SameCluster vc sent ∧ Fixes vc sent ∧ Served addressOf a sent

/-- The endpoint of a cluster, once set, is not changed, and leads to the recorded instance. -/
def fixesEndpoint (addressOf : AccountID → String → String) (ns name : String) (a : AccountID) :
    Invariant (clusterSystem addressOf ns name) wholePatches where
  inv := (tracksBackends addressOf ns name).inv
  loc _ vc _ := clusterAccount vc = a ∧ Served addressOf a vc
  touch _ := EndpointTouched
  rely _ _ _ := True
  guar _ _ _ _ := True
  done _ vc out _ := SendsFixed addressOf a vc out

section

variable {addressOf : AccountID → String → String} {ns name : String} {a : AccountID}
  {vc vc₁ : VerdaCluster} {w w' : ClusterWorld}

/-- The setting of a pass. -/
abbrev endpointAt (addressOf : AccountID → String → String) (ns name : String) (a : AccountID)
    (vc : VerdaCluster) : Setting ClusterWorld ClusterCall ClusterCall.Res :=
  atClient ((fixesEndpoint addressOf ns name a).setting () vc) a

theorem endpoint_lawful : ((fixesEndpoint addressOf ns name a).setting () vc).Lawful :=
  ⟨fun _ => trivial, fun _ _ => trivial⟩

theorem endpoint_staysGood : StaysGood (endpointAt addressOf ns name a vc)
    fun inst _ => Known addressOf a vc₁ inst where
  lawful := Setting.Lawful.atClient endpoint_lawful
  stable _ _ _ h _ _ := h
  aside _ := trivial
  step _ h _ := h

theorem endpoint_step {c : Call} {x : Call.Res c}
    (hs : (atVerda (endpointAt addressOf ns name a vc) .controlPlane).step w c x w') :
    ∃ ch, clusterAnswer addressOf ch w (a, .verda .controlPlane c) = some (x, w') :=
  (atClient_step.1 (atVerda_step.1 hs)).2

/-- An instance that is listed, found by its ID or without one recorded. -/
theorem known_listed {i : Sdk.Instance} (hinv : Addressed addressOf a (w.cloud.account a) ∧
      ∀ i ∈ (w.cloud.account a).instances.rows, i.id ≠ "")
    (hi : i ∈ (w.cloud.account a).instances.rows)
    (hid : vc₁.status.loadBalancer.instanceID ≠ "" → i.id = vc₁.status.loadBalancer.instanceID) :
    Known addressOf a vc₁ (toInstance i) :=
  ⟨hinv.2 i hi, hid, fun hip => hinv.1.ip hi hip⟩

/-- A lookup that finds nothing means that nothing was recorded; one that finds something tells its
address. -/
theorem endpoint_find (w : ClusterWorld) : (LoadBalancer.controlPlane.find vc₁).wp
    (atVerda (endpointAt addressOf ns name a vc) .controlPlane) (fun r _ =>
      (r = .ok none → vc₁.status.loadBalancer.instanceID = "") ∧
        ∀ inst, r = .ok (some inst) → Known addressOf a vc₁ inst) w := by
  have hknown : (LoadBalancer.controlPlane.find vc₁).wp
      (atVerda (endpointAt addressOf ns name a vc) .controlPlane) (fun r _ =>
        ∀ inst, r = .ok (some inst) → Known addressOf a vc₁ inst) w := by
    rw [find_eq]
    refine wp_lookupInstance (fun _ _ _ h _ _ => h) (fun _ _ _ _ => trivial)
      (fun hne w x w' _ hi hs inst hinst => ?_) fun hnone w x w' _ hi hs inst hinst => ?_
    · rcases pickByID_eq_some hinst with ⟨i, rfl, rfl⟩ | rfl
      · obtain ⟨ch, hans⟩ := endpoint_step hs
        obtain ⟨ch', hans', -⟩ := clusterAnswer_verda hans
        obtain ⟨hmem, hid⟩ := answer_fetched hans'
        exact known_listed (hi.1 a) hmem fun _ => hid
      · -- a recorded instance that Verda does not have is made up, without an address
        exact ⟨hne, fun _ => rfl, fun hip => absurd rfl hip⟩
    · obtain ⟨ch, hans⟩ := endpoint_step hs
      obtain ⟨ch', hans', -⟩ := clusterAnswer_verda hans
      obtain ⟨-, rfl | ⟨e, rfl⟩⟩ := answer_instancesGet hans'
      · obtain ⟨i, hmem, -, rfl⟩ := pick_some hinst
        exact known_listed (hi.1 a) hmem fun hid => absurd hnone hid
      · cases hinst
  refine Prog.wp_mono ?_ (Prog.wp_and_obeys (find_none .controlPlane vc₁) hknown)
  exact fun r _ _ h => ⟨h.2, h.1⟩

/-- One is created only if nothing was recorded, so the new instance may be taken for the load balancer
too. -/
theorem endpoint_acquire (scripts : LBScripts) (cluster : Cluster) (keys : Keys) (w : ClusterWorld) :
    (LoadBalancer.controlPlane.acquire scripts cluster vc₁ keys).wp
      (atVerda (endpointAt addressOf ns name a vc) .controlPlane)
      (fun r _ => ∀ inst, r.1 = .ok inst → Known addressOf a vc₁ inst) w := by
  have hS : (atVerda (endpointAt addressOf ns name a vc) .controlPlane).Lawful :=
    Setting.Lawful.atVerda (Setting.Lawful.atClient endpoint_lawful)
  refine wp_acquireLB .controlPlane hS (fun _ _ _ h _ _ => h) (endpoint_find w)
    fun spec _ _ w _ hfree => ?_
  refine wp_createInstance hS (P := fun _ => True) (fun _ _ _ _ _ => trivial) (fun _ _ _ h _ _ => h)
    (fun e _ inst hinst => by cases hinst) (fun _ _ _ _ _ => ⟨trivial, fun _ _ _ _ _ => trivial⟩) ?_ trivial
  intro sid w _ _
  refine ⟨trivial, fun i w' hs _ sid' inst hinst => ?_⟩
  cases hinst
  obtain ⟨ch, hans⟩ := endpoint_step hs
  obtain ⟨ch', hans', haddr, -⟩ := clusterAnswer_verda hans
  obtain ⟨vs, hc, hw⟩ := answer_created hans'
  have hmem : i ∈ (w'.cloud.account a).instances.rows := by
    rw [hw]
    exact mem_create_instances.2 (.inl ⟨rfl, rfl⟩)
  exact ⟨(hc.unused i.id List.mem_cons_self).1, fun hid => absurd hfree hid, fun hip => haddr.ip hmem hip⟩

/-- `reconcileEndpoint` does not move an endpoint that is set. -/
theorem endpoint_reconcileEndpoint (scripts : LBScripts) (cluster : Cluster)
    (hserved : Served addressOf a vc) (w : ClusterWorld) : (reconcileEndpoint scripts cluster vc).wp
      (endpointAt addressOf ns name a vc)
      (fun r _ => SameCluster vc r.2 ∧ Fixes vc r.2 ∧ Served addressOf a r.2) w := by
  have hkept : ∀ {vc' : VerdaCluster}, Reconditions vc vc' →
      SameCluster vc vc' ∧ Fixes vc vc' ∧ Served addressOf a vc' := by
    intro vc' h
    have hid : vc'.status.loadBalancer.instanceID = vc.status.loadBalancer.instanceID :=
      congrArg LoadBalancerStatus.instanceID (h.lbStatus .controlPlane)
    exact ⟨h.same, .of_eq h.untouched.1 hid, hserved.of_eq h.untouched.1 hid⟩
  unfold reconcileEndpoint
  split
  · rename_i henabled
    refine Prog.wp_mono ?_ (endpoint_staysGood.settledLB .trivial
      (acquireLoadBalancer_keeps scripts cluster vc) (fun k w _ _ => endpoint_acquire scripts cluster k w)
      (settleLoadBalancer_serving cluster) trivial)
    rintro r w - (hre | ⟨inst, vc₁, hre, hknown, hserving⟩)
    · exact hkept hre
    · have hsame : SameCluster vc r.2 := hre.same.trans hserving.same
      have hspec : vc₁.spec = vc.spec := hre.untouched.1
      -- an endpoint that is set is the one of the instance already
      have hfix : vc.spec.controlPlaneEndpoint.host ≠ "" →
          r.2.spec.controlPlaneEndpoint = vc.spec.controlPlaneEndpoint := by
        intro hhost
        obtain heq | ⟨hip, heq⟩ := hserving.endpoint
        · rw [heq, hspec]
        · rw [heq]
          exact hknown.endpoint hserved henabled hip hhost
      refine ⟨hsame, ⟨fun hhost _ => hfix hhost, fun hid => ?_⟩, fun henabled' hhost => ?_⟩
      · rw [hserving.instanceID]
        exact hknown.recorded hid
      · rw [hserving.instanceID]
        refine ⟨hknown.id, ?_⟩
        obtain heq | ⟨hip, heq⟩ := hserving.endpoint
        · rw [heq, hspec] at hhost ⊢
          obtain ⟨hid, hend⟩ := hserved henabled hhost
          rw [hend, hknown.recorded hid]
        · rw [heq, hknown.address hip]
  · rename_i hoff
    have hret : ∀ (reply : Reply) (vc' : VerdaCluster), SameCluster vc vc' → Fixes vc vc' →
        (Prog.ret (reply, vc') : ClusterM _).wp (endpointAt addressOf ns name a vc)
          (fun r _ => SameCluster vc r.2 ∧ Fixes vc r.2 ∧ Served addressOf a r.2) w := by
      intro reply vc' hsame hfix
      refine Prog.wp_ret_stable (fun _ _ h _ _ => h) ⟨hsame, hfix, fun henabled _ => ?_⟩
      rw [hsame.loadBalancerEnabled] at henabled
      exact absurd henabled hoff
    dsimp only
    split
    · rename_i hempty
      split
      · exact hret _ _ ⟨rfl, rfl, rfl, _, rfl⟩ ⟨fun _ _ => rfl, fun _ => rfl⟩
      · exact hret _ _ ⟨rfl, rfl, rfl, _, rfl⟩ ⟨fun hhost _ => absurd hempty hhost, fun _ => rfl⟩
    · split
      · rename_i hzero
        exact hret _ _ ⟨rfl, rfl, rfl, _, rfl⟩ ⟨fun _ hport => absurd hzero hport, fun _ => rfl⟩
      · exact hret _ _ ⟨rfl, rfl, rfl, _, rfl⟩ ⟨fun _ _ => rfl, fun _ => rfl⟩

/-- Whatever a pass sends keeps the endpoint. -/
theorem endpoint_startClusterPass (inp : ClusterInput) (hacc : clusterAccount vc = a)
    (hserved : Served addressOf a vc) (w : ClusterWorld) : (startClusterPass inp vc).wp
      ((fixesEndpoint addressOf ns name a).setting () vc)
      (fun out _ => SendsFixed addressOf a vc out) w := by
  subst hacc
  have hret : ∀ out : ClusterOutcome, SendsFixed addressOf (clusterAccount vc) vc out →
      (Prog.ret out : ClusterPass).wp ((fixesEndpoint addressOf ns name (clusterAccount vc)).setting () vc)
        (fun out _ => SendsFixed addressOf (clusterAccount vc) vc out) w :=
    fun out h => Prog.wp_ret_stable (fun _ _ h _ _ => h) h
  -- what is left alone by a part of the pass stays fixed
  have hkeep : ∀ {vc₁ vc₂ : VerdaCluster}, (SameCluster vc vc₁ ∧ Fixes vc vc₁ ∧
      Served addressOf (clusterAccount vc) vc₁) → SameCluster vc₁ vc₂ → vc₂.spec = vc₁.spec →
      vc₂.status.loadBalancer.instanceID = vc₁.status.loadBalancer.instanceID →
      SameCluster vc vc₂ ∧ Fixes vc vc₂ ∧ Served addressOf (clusterAccount vc) vc₂ :=
    fun h hsame hspec hid => ⟨h.1.trans hsame, h.2.1.trans (.of_eq hspec hid), h.2.2.of_eq hspec hid⟩
  have hsent : ∀ {reply : Reply} {vc' : VerdaCluster} {endpoint : Option (Reply × VerdaCluster)},
      (SameCluster vc vc' ∧ Fixes vc vc' ∧ Served addressOf (clusterAccount vc) vc') →
      SendsFixed addressOf (clusterAccount vc) vc (clusterPatched (reply, vc') endpoint) := by
    rintro reply vc' endpoint h sent ⟨⟩
    have hpatch := patchVerdaCluster_reconditions vc'
    exact hkeep h hpatch.same hpatch.untouched.1
      (congrArg LoadBalancerStatus.instanceID (hpatch.lbStatus .controlPlane))
  have hself : SameCluster vc vc ∧ Fixes vc vc ∧ Served addressOf (clusterAccount vc) vc :=
    ⟨.refl vc, .refl vc, hserved⟩
  by_cases hheld : vc.metadata.deletionTimestamp = none → clusterFinalizer ∈ vc.metadata.finalizers
  · refine startClusterPass_held (P := fun pass => pass.wp _
      (fun out _ => SendsFixed addressOf (clusterAccount vc) vc out) w) inp hheld ?_ ?_ ?_
    · refine fun out hout => hret out fun sent hs => ?_
      have hre := hout sent hs
      exact hkeep hself hre.same hre.untouched.1
        (congrArg LoadBalancerStatus.instanceID (hre.lbStatus .controlPlane))
    · intro _
      refine wp_runClusterDelete (Prog.wp_mono ?_ (Prog.wp_of_obeys
        ((reconcileDelete_obeys inp.now vc).and (reconcileDelete_spec inp.now vc))
        fun _ _ _ _ => trivial))
      rintro r w - ⟨⟨hsame, hkept⟩, hspec⟩
      exact hsent (hkeep hself hsame hspec (hkept .controlPlane).1)
    · intro cluster _
      refine wp_runClusterNormal endpoint_lawful (Prog.wp_mono ?_
        (endpoint_reconcileEndpoint inp.scripts cluster hserved w))
      intro endpoint w _ hend
      refine Prog.wp_mono ?_ (Prog.wp_of_obeys
        ((reconcileService_obeys inp.scripts inp.now cluster endpoint (fun _ => Prog.obeys_true _)
          fun _ _ => trivial).and (reconcileService_untouched inp.scripts inp.now cluster endpoint))
        fun _ _ _ _ => trivial)
      rintro r w - ⟨⟨hsame, hstatus⟩, huntouched⟩
      exact hsent (hkeep hend hsame huntouched.1 (congrArg LoadBalancerStatus.instanceID hstatus))
  · obtain ⟨hdel, hfin⟩ := Classical.not_imp.1 hheld
    obtain ⟨out, hpass, hout⟩ := startClusterPass_unheld inp hdel hfin
    rw [hpass]
    refine hret out fun sent hs => ?_
    obtain ⟨hsame, hspec, hstatus, -⟩ := hout sent hs
    exact hkeep hself hsame hspec (by rw [hstatus])

/-- The webhooks let an endpoint that is set be. -/
theorem editCluster_endpoint {e : ClusterEdit} (h : editCluster e vc = some vc₁)
    (hhost : vc.spec.controlPlaneEndpoint.host ≠ "") :
    vc₁.spec.controlPlaneEndpoint = vc.spec.controlPlaneEndpoint := by
  cases e with
  | update spec =>
    simp only [editCluster] at h
    split at h <;> cases h
    rename_i haccepted
    simp only [clusterUpdateAccepted, validateClusterUpdate, validateClusterSpecUpdate,
      List.append_eq_nil_iff, report_eq_nil] at haccepted
    by_contra hne
    exact haccepted.2.2 ⟨hhost, Ne.symm hne⟩
  | delete t =>
    cases h
    rfl
  | annotate annotations =>
    cases h
    rfl

theorem wholePatches_touched {e : ClusterEdit} (hedit : wholePatches.edit () e vc)
    (h : editCluster e vc = some vc₁) : EndpointTouched vc vc₁ := by
  obtain ⟨haccount, hunset⟩ := hedit vc₁ h
  have htouched := editCluster_touched h
  refine ⟨htouched, identitySecretName_of_account htouched.ns haccount, ?_⟩
  by_cases hhost : vc.spec.controlPlaneEndpoint.host = ""
  · exact hunset hhost
  · exact editCluster_endpoint h hhost

theorem endpoint_mergesAlone :
    MergesAlone fun vc => (vc.identitySecretName, vc.spec.controlPlaneEndpoint) := by
  intro p seen sent vc vc' h
  obtain ⟨hname, hend⟩ := Prod.mk.inj h
  refine Prod.ext (identitySecretName_mergesAlone p seen sent vc vc' hname) ?_
  show (if p.spec then _ else _ : VerdaClusterSpec).controlPlaneEndpoint =
    (if p.spec then _ else _ : VerdaClusterSpec).controlPlaneEndpoint
  split
  · simp only [VerdaClusterSpec.merge, hend]
  · exact hend

theorem fixesEndpoint_valid : (fixesEndpoint addressOf ns name a).Valid where
  refl _ _ := trivial
  trans _ {_ _ _} _ _ := trivial
  drift hinv hd := ⟨(tracksBackends_valid.drift hinv hd).1, fun _ => ⟨fun _ => trivial, fun _ h => h⟩⟩
  edit hedit he := wholePatches_touched hedit he
  touched {i vc vc' w} _ hloc h := by
    have h : EndpointTouched vc vc' := h
    refine ⟨(h.touched.account h.identity).trans hloc.1, fun henabled hhost => ?_⟩
    rw [h.touched.enabled] at henabled
    rw [h.endpoint] at hhost ⊢
    rw [h.touched.status]
    exact hloc.2 henabled hhost
  merge {i p seen vc vc' out} h hp := by
    have h : EndpointTouched vc vc' := h
    obtain ⟨q, hq, htouched, hkeep⟩ := h.touched.persist_keeping endpoint_mergesAlone
      (Prod.ext h.identity h.endpoint) p seen out
    obtain ⟨hname, hend⟩ := Prod.mk.inj hkeep
    refine ⟨q, ?_, htouched, hname, hend⟩
    rcases hq with rfl | rfl
    · exact hp
    · exact fun hspec => absurd hspec Bool.false_ne_true
  call {i vc ch w o x w'} hinv hloc _ _ hans := by
    have hinv' : (tracksBackends addressOf ns name).inv w' := tracksBackends_answer hinv hans
    exact ⟨hinv', hloc, fun j hj => absurd rfl hj⟩
  pass {i inp vc w} _ hloc _ := by
    refine Prog.wp_mono ?_ (endpoint_startClusterPass inp hloc.1 hloc.2 w)
    intro out w _ hsent
    refine ⟨hsent, fun p hp => ⟨?_, hloc.2.persist hsent hp⟩⟩
    exact (persistCluster_same (fun sent hs => (hsent sent hs).1) p).account.trans hloc.1

end

/-- **The endpoint is fixed.** Once an endpoint or the instance of the control plane load balancer is
stored, every later state of the run has the same one, and no pass asks to store another. With the load
balancer enabled the endpoint is the address of that instance, at the port it serves. This is so in
every run in which instances keep their addresses, a patch that stores the spec also stores the status,
`identityRef` keeps naming the same account, and nobody sets the endpoint by hand. -/
theorem endpoint_fixed {addressOf : AccountID → String → String} {ns name : String}
    {s₀ s s' : ClusterState} (h₀ : ClusterInitial addressOf ns name s₀)
    (hunset : (s₀.obj ()).loadBalancerEnabled = true →
      (s₀.obj ()).spec.controlPlaneEndpoint.host = "")
    (h : Reach (clusterSystem addressOf ns name) wholePatches s₀ s)
    (h' : Reach (clusterSystem addressOf ns name) wholePatches s s') :
    Fixes (s.obj ()) (s'.obj ()) ∧
      (∀ out, s'.run () = some (.ret out) → ∀ sent ∈ out.sent, Fixes (s'.obj ()) sent) ∧
      Served addressOf (clusterAccount (s'.obj ())) (s'.obj ()) := by
  have hholds : (fixesEndpoint addressOf ns name (clusterAccount (s₀.obj ()))).Holds s := by
    refine Invariant.sound fixesEndpoint_valid (fun b => ⟨h₀.addressed b, h₀.ids b⟩)
      (fun _ => ⟨rfl, fun henabled hhost => absurd (hunset henabled) hhost⟩) (fun _ => h₀.idle) h
  have hholds' := hholds.reach fixesEndpoint_valid h'
  refine ⟨?_, fun out hrun sent hs => ?_, ?_⟩
  · refine hholds.tracks fixesEndpoint_valid .refl .trans ?_ ?_ h'
    · exact fun _ _ hedited hsent _ => .persist (.of_edited hedited) (fun sent hs => (hsent sent hs).2.1) _
    · exact fun _ hedit he => .touched (wholePatches_touched hedit he)
  · exact (EndpointTouched.of_edited (hholds'.run () _ hrun).edited).fixes
      (hholds'.done fixesEndpoint_valid hrun sent hs).2.1
  · rw [(hholds'.loc ()).1]
    exact (hholds'.loc ()).2

/-- The sample cluster with the load balancer and without an endpoint. -/
def unsetCluster : VerdaCluster :=
  let vc := clusterWith enabledLB {}
  { vc with spec := { vc.spec with controlPlaneEndpoint := {} } }

/-- The load balancer is created and the endpoint stored; the next pass pushes the first backend. -/
theorem endpoint_fixed_sample : ∃ s s' : ClusterState,
    (s.obj ()).spec.controlPlaneEndpoint = { host := "10.0.0.1", port := 6443 } ∧
      (s'.obj ()).status.loadBalancer.backends = ["10.0.0.5"] ∧ Fixes (s.obj ()) (s'.obj ()) := by
  obtain ⟨s, s', hs, hset, hs', hpushed⟩ := exists_reach_via (clusterSystem sampleAddress "default" "c0")
    wholePatches (clusterState unsetCluster)
    (fun s => decide ((s.obj ()).spec.controlPlaneEndpoint = { host := "10.0.0.1", port := 6443 }))
    (fun s => decide ((s.obj ()).status.loadBalancer.backends = ["10.0.0.5"]))
    (createsLB .controlPlane "lb1" "running" ++ [listed [], .finish () {}])
    (looksUp [controlPlaneMachine "10.0.0.5"] ++ [.answer () .accept, .finish () {}])
    (by decide +kernel)
  refine ⟨s, s', of_decide_eq_true hset, of_decide_eq_true hpushed, ?_⟩
  exact (endpoint_fixed (clusterState_initial rfl rfl rfl) (fun _ => rfl) hs hs').1

end VerdaCapi.Controller
