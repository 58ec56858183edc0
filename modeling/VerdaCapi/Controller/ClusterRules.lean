import VerdaCapi.Controller.ClusterSystem
import VerdaCapi.Controller.KeySecrets
import VerdaCapi.Controller.Lookups

/-!
# Rules for the two load balancers

The control plane load balancer and the service load balancer are found, created and recorded alike, up
to the tag they carry and to what their lookup makes of an instance that is gone. Here are both at
once: what a lookup by tag may return (`Taken`), and the rules for the parts of a pass that make sure
of a load balancer.
-/

namespace VerdaCapi.Controller

open Remote Go Api Cloud Webhook

/-! ## Lookups -/

/-- The tag of a load balancer. -/
def LoadBalancer.tagKey : LoadBalancer → String
  | .controlPlane => tagLoadBalancer
  | .service => tagServiceLoadBalancer

/-- The lookup of a load balancer. -/
def LoadBalancer.find : LoadBalancer → VerdaCluster → ClientM (Except Err (Option Instance))
  | .controlPlane => findLoadBalancer
  | .service => findServiceLoadBalancer

/-- How the lookup reads a listing. -/
def LoadBalancer.pick : LoadBalancer → String → Pick
  | .controlPlane => pickLoadBalancer
  | .service => pickLive tagServiceLoadBalancer

theorem find_eq (lb : LoadBalancer) (vc : VerdaCluster) :
    lb.find vc = lookupInstance (lbStatus vc lb).instanceID (lb.pick (clusterTagValue vc)) := by
  cases lb with
  | controlPlane => exact findLoadBalancer_eq vc
  | service => exact findInstanceByStatusOrTag_eq _ _ _

/-- An instance that a lookup by tag may return. The one of the control plane load balancer also returns
instances that are gone. -/
def Taken (lb : LoadBalancer) (tag : String) (i : Sdk.Instance) : Prop :=
  tagOf i lb.tagKey = tag ∧ (lb = .service → isGone i = false)

instance (lb : LoadBalancer) (tag : String) (i : Sdk.Instance) : Decidable (Taken lb tag i) :=
  inferInstanceAs (Decidable (_ ∧ _))

/-- No instance of the account may be returned by a lookup by tag. -/
def NoTaken (lb : LoadBalancer) (tag : String) (a : AccountID) (w : World LoadBalancer) : Prop :=
  ∀ i ∈ (w.account a).instances.rows, ¬ Taken lb tag i

section

variable {lb lb' : LoadBalancer} {tag : String} {i i' : Sdk.Instance} {is : List Sdk.Instance}
  {vc : VerdaCluster} {cluster : Cluster}

theorem Taken.of_keeps (h : Keeps i i') (ht : Taken lb tag i') : Taken lb tag i := by
  refine ⟨(h.tagOf lb.tagKey).symm.trans ht.1, fun hlb => ?_⟩
  by_contra hgone
  have hgone' := h.gone (by simpa using hgone)
  rw [ht.2 hlb] at hgone'
  cases hgone'

theorem taken_of_live (htag : tagOf i lb.tagKey = tag) (hlive : isGone i = false) : Taken lb tag i :=
  ⟨htag, fun _ => hlive⟩

theorem Taken.hasClusterTag (h : Taken lb tag i) : hasClusterTag tag i = true := by
  cases lb with
  | controlPlane => exact Bool.or_eq_true_iff.2 (.inl (beq_iff_eq.2 h.1))
  | service => exact Bool.or_eq_true_iff.2 (.inr (beq_iff_eq.2 h.1))

/-- What a lookup by tag returns is listed, and may be returned. -/
theorem pick_some {inst : Instance} (h : lb.pick tag (.ok is) = .ok (some inst)) :
    ∃ i ∈ is, Taken lb tag i ∧ inst = toInstance i := by
  cases lb with
  | controlPlane =>
    have hscan : scan (wantsTag tagLoadBalancer tag) none is = some inst := by
      simpa [LoadBalancer.pick, pickLoadBalancer] using h
    obtain ⟨i, hi, hwant, rfl⟩ := scan_eq_some hscan
    exact ⟨i, hi, ⟨wantsTag_iff.1 hwant, fun hlb => by cases hlb⟩, rfl⟩
  | service =>
    obtain ⟨i, hi, htag, hlive, rfl⟩ := pickLive_some h
    exact ⟨i, hi, ⟨htag, fun _ => hlive⟩, rfl⟩

/-- A lookup by tag that returns none has none to return. The service load balancer needs listings in
which nothing that is gone comes before what is live. -/
theorem pick_none (hfirst : lb = .service → LiveUpFirst (wantsTag tagServiceLoadBalancer tag) is)
    (h : lb.pick tag (.ok is) = .ok none) : ∀ i ∈ is, ¬ Taken lb tag i := by
  intro j hj ht
  cases lb with
  | controlPlane =>
    have hscan : scan (wantsTag tagLoadBalancer tag) none is = none := by
      simpa [LoadBalancer.pick, pickLoadBalancer] using h
    rw [scan_none_eq, Option.map_eq_none_iff, Option.or_eq_none_iff] at hscan
    have hwant : wantsTag tagLoadBalancer tag (toInstance j) = true := wantsTag_iff.2 ht.1
    rw [lastWanted_eq_none_iff.1 hscan.2 j hj] at hwant
    cases hwant
  | service =>
    have hwant : wantsTag tagServiceLoadBalancer tag (toInstance j) = true := wantsTag_iff.2 ht.1
    have hlive : isGone j = false := ht.2 rfl
    -- the first one that is up is gone, or there is none: either way nothing is live
    have hgone : isGone j = true := by
      cases hup : firstUp (wantsTag tagServiceLoadBalancer tag) is with
      | none => exact isGone_of_firstUp_eq_none hup hj hwant
      | some i =>
        refine hfirst rfl i hup ?_ j hj hwant
        have hscan : scan (wantsTag tagServiceLoadBalancer tag) none is = some (toInstance i) := by
          rw [scan_none_eq, hup]
          rfl
        by_contra hup'
        have hnot : instanceGone (toInstance i) = false := Bool.eq_false_iff.2 hup'
        simp [LoadBalancer.pick, pickLive, hscan, hnot] at h
    rw [hlive] at hgone
    cases hgone

/-- A lookup that reports no instance has none recorded. -/
theorem find_none (lb : LoadBalancer) (vc : VerdaCluster) : (lb.find vc).Obeys (fun _ => True) fun r =>
    r = .ok none → (lbStatus vc lb).instanceID = "" := by
  rw [find_eq, lookupInstance]
  split
  · exact ⟨trivial, fun x hr => absurd hr pickByID_ne_none⟩
  · rename_i hid
    exact ⟨trivial, fun _ _ => not_not.1 hid⟩

/-- The tags a load balancer is created with. -/
def LoadBalancer.tags (cluster : Cluster) (vc : VerdaCluster) : LoadBalancer → StrMap
  | .controlPlane => loadBalancerTags cluster vc
  | .service =>
    [(tagManagedBy, managedByValue), (tagCluster, cluster.ns ++ "/" ++ cluster.name),
      (tagServiceLoadBalancer, clusterTagValue vc), (tagRole, "service-load-balancer")]

/-- It carries its own tag and not that of the other one. -/
theorem get_tags (lb lb' : LoadBalancer) :
    StrMap.get ((lb.tags cluster vc).foldl (fun m t => m.set t.1 t.2) []) lb'.tagKey =
      if lb' = lb then clusterTagValue vc else "" := by
  cases lb <;> cases lb' <;> rfl

end

/-! ## Passes with the finalizer -/

/-- With the finalizer in place, a pass that does not run one of the two reconcile functions sends at
most other conditions. -/
theorem startClusterPass_held {P : ClusterPass → Prop} (inp : ClusterInput) {vc : VerdaCluster}
    (hheld : vc.metadata.deletionTimestamp = none → clusterFinalizer ∈ vc.metadata.finalizers)
    (hstop : ∀ out, (∀ sent ∈ out.sent, Reconditions vc sent) → P (.ret out))
    (hdelete : vc.metadata.deletionTimestamp ≠ none →
      P (runClusterDelete (clusterAccount vc) inp.now vc))
    (hnormal : ∀ cluster, vc.metadata.deletionTimestamp = none →
      P (runClusterNormal (clusterAccount vc) inp cluster vc)) : P (startClusterPass inp vc) := by
  exact startClusterPass_ways inp vc (fun out _ => hstop out) (fun hdel hfin => absurd (hheld hdel) hfin)
    hdelete hnormal

/-- A pass without the finalizer only adds it, if the cluster is not being deleted. -/
theorem startClusterPass_unheld (inp : ClusterInput) {vc : VerdaCluster}
    (hdel : vc.metadata.deletionTimestamp = none)
    (hfin : clusterFinalizer ∉ vc.metadata.finalizers) : ∃ out, startClusterPass inp vc = .ret out ∧
      ∀ sent ∈ out.sent, SameCluster vc sent ∧ sent.spec = vc.spec ∧ sent.status = vc.status ∧
        clusterFinalizer ∈ sent.metadata.finalizers := by
  unfold startClusterPass
  split
  · exact ⟨_, rfl, fun sent hs => by cases hs⟩
  · rw [reconcileCluster, if_pos ⟨hdel, hfin⟩]
    refine ⟨_, rfl, ?_⟩
    rintro sent ⟨⟩
    exact ⟨⟨rfl, rfl, rfl, _, rfl⟩, rfl, rfl, by simp⟩

/-- A deletion may forget the script of a load balancer, and disabling one forgets all of it. -/
def Forgets (lb : LoadBalancer) (vc vc' : VerdaCluster) : Prop :=
  (lbStatus vc' lb).instanceID = (lbStatus vc lb).instanceID ∧
    ((lbStatus vc' lb).startupScriptID = (lbStatus vc lb).startupScriptID ∨
      (lbStatus vc' lb).startupScriptID = "") ∨
  (lbStatus vc' lb).instanceID = "" ∧ (lbStatus vc' lb).startupScriptID = ""

theorem UnwindsLB.forgets {lb lb' : LoadBalancer} {vc vc' : VerdaCluster} (h : UnwindsLB lb vc vc') :
    Forgets lb' vc vc' := by
  by_cases hlb : lb' = lb
  · subst hlb
    exact .inl ⟨h.instanceID, h.startupScriptID⟩
  · rw [Forgets, h.other lb' hlb]
    exact .inl ⟨rfl, .inl rfl⟩

theorem reconcileDelete_forgets (now : Time) (vc : VerdaCluster) (lb : LoadBalancer) :
    (ClusterScope.reconcileDelete now vc).Obeys (fun _ => True) fun r => Forgets lb vc r.2 := by
  unfold ClusterScope.reconcileDelete
  refine ((obeys_onVerda (deleteServiceLoadBalancer_uses now vc)).mono
    (fun _ _ => trivial) fun _ h => h).bind fun r hr => ?_
  rcases r with ⟨e | waiting, vc₁⟩
  · exact hr.forgets
  · cases waiting with
    | true => exact hr.forgets
    | false =>
      refine (obeys_onVerda (deleteLoadBalancer_uses now vc₁)).mono
        (fun _ _ => trivial) fun r' hr' => ?_
      -- each part leaves the other load balancer as it is
      cases lb with
      | controlPlane =>
        rw [Forgets, ← hr.other .controlPlane (by decide)]
        exact hr'.forgets
      | service =>
        rw [Forgets, hr'.other .service (by decide)]
        exact hr.forgets

theorem disableService_forgets (now : Time) (cluster : Cluster) (result : Result) (vc : VerdaCluster) :
    (ClusterScope.disableService now cluster result vc).Obeys (fun _ => True)
      fun r => Forgets .service vc r.2 := by
  unfold ClusterScope.disableService
  dsimp only
  split
  · refine ((obeys_onVerda (deleteServiceLoadBalancer_uses now vc)).mono
      (fun _ _ => trivial) fun _ h => h).bind fun r hr => ?_
    rcases r with ⟨e | waiting, vc₁⟩
    · exact hr.forgets
    · cases waiting with
      | true => exact hr.forgets
      | false => exact (Prog.obeys_true _).bind fun _ _ => .inr ⟨rfl, rfl⟩
  · exact .inl ⟨rfl, .inl rfl⟩

/-! ## The spec and the finalizers -/

theorem SameCluster.account {vc vc₁ : VerdaCluster} (h : SameCluster vc vc₁) :
    clusterAccount vc₁ = clusterAccount vc := by
  obtain ⟨_, hspec⟩ := h.spec
  simp only [clusterAccount, VerdaCluster.identitySecretName, h.ns, hspec]

/-- The spec and the finalizers are as they were. -/
def Untouched (vc vc' : VerdaCluster) : Prop :=
  vc'.spec = vc.spec ∧ vc'.metadata.finalizers = vc.metadata.finalizers

section

variable {β : Type} {vc vc' vc'' : VerdaCluster}

theorem Untouched.trans (h : Untouched vc vc') (h' : Untouched vc' vc'') : Untouched vc vc'' :=
  ⟨h'.1.trans h.1, h'.2.trans h.2⟩

theorem Reconditions.untouched (h : Reconditions vc vc') : Untouched vc vc' := by
  obtain ⟨_, rfl⟩ := h
  exact ⟨rfl, rfl⟩

theorem deleteLiveServiceLB_untouched (now : Time) (vc : VerdaCluster) (inst : Instance) :
    (deleteLiveServiceLB now vc inst).Obeys (fun _ => True) fun r => Untouched vc r.2 := by
  have hkeeps := (deleteRequestDue_keeps now vc.metadata "servicelb" inst.status).2.2.2
  exact obeys_deleteLive (Prog.obeys_true _) ⟨rfl, rfl⟩ (fun _ => ⟨rfl, hkeeps⟩) ⟨rfl, hkeeps⟩ ⟨rfl, hkeeps⟩

theorem deleteLiveLB_untouched (now : Time) (vc : VerdaCluster) (inst : Instance) :
    (deleteLiveLB now vc inst).Obeys (fun _ => True) fun r => Untouched vc r.2 := by
  have hkeeps := (deleteRequestDue_keeps now vc.metadata "lb" inst.status).2.2.2
  exact obeys_deleteLive (Prog.obeys_true _) ⟨rfl, rfl⟩ (fun _ => ⟨rfl, hkeeps⟩) ⟨rfl, hkeeps⟩ ⟨rfl, hkeeps⟩

theorem deleteServiceLoadBalancer_untouched (now : Time) (vc : VerdaCluster) :
    (deleteServiceLoadBalancer now vc).Obeys (fun _ => True) fun r => Untouched vc r.2 := by
  rw [deleteServiceLoadBalancer_eq]
  refine obeys_teardown (Prog.obeys_true _) (deleteLiveServiceLB_untouched now vc)
    (fun _ => Prog.obeys_true _) ?_ (fun _ => ⟨rfl, rfl⟩) ⟨rfl, rfl⟩
  unfold deleteServiceLBScript
  dsimp only
  split
  · refine (Prog.obeys_true _).bind fun r _ => ?_
    rcases r with e | u <;> exact ⟨rfl, rfl⟩
  · refine (Prog.obeys_true _).bind fun r _ => ?_
    rcases r with e | u <;> exact ⟨rfl, rfl⟩

/-- A deletion drops the finalizer, but leaves the spec. -/
theorem reconcileDelete_spec (now : Time) (vc : VerdaCluster) :
    (ClusterScope.reconcileDelete now vc).Obeys (fun _ => True) fun r => r.2.spec = vc.spec := by
  refine ((obeys_onVerda (deleteServiceLoadBalancer_untouched now vc)).mono (fun _ _ => trivial)
    fun _ h => h).bind fun r hr => ?_
  rcases r with ⟨e | (_ | _), vc₁⟩
  · exact hr.1
  · have hrelease : (deleteLoadBalancer now vc₁).Obeys (fun _ => True) fun r => r.2.spec = vc₁.spec := by
      rw [deleteLoadBalancer_eq]
      refine obeys_teardown (Prog.obeys_true _)
        (fun inst => (deleteLiveLB_untouched now vc₁ inst).mono (fun _ h => h) fun _ h => h.1)
        (fun _ => Prog.obeys_true _) ?_ (fun _ => rfl) rfl
      unfold releaseCluster
      dsimp only
      split
      · refine (Prog.obeys_true _).bind fun r _ => ?_
        rcases r with e | u <;> rfl
      · split
        · refine (Prog.obeys_true _).bind fun r _ => ?_
          rcases r with e | u <;> rfl
        · rfl
    exact (obeys_onVerda hrelease).mono (fun _ _ => trivial) fun _ h => h.trans hr.1
  · exact hr.1

/-- A part of a pass that leaves the finalizers as they are. -/
def KeepsFinalizers {Op : Type} {Res : Op → Type} (vc : VerdaCluster)
    (p : Prog Op Res (β × VerdaCluster)) : Prop :=
  p.Obeys (fun _ => True) fun r => r.2.metadata.finalizers = vc.metadata.finalizers

theorem settleLoadBalancer_finalizers (cluster : Cluster) (vc : VerdaCluster) (keys : Keys)
    (inst : Instance) : KeepsFinalizers vc (settleLoadBalancer cluster vc keys inst) := by
  have hnotReady : ∀ (vc : VerdaCluster) (reason message : String),
      (setLBNotReady vc reason message).metadata.finalizers = vc.metadata.finalizers :=
    fun vc reason message => (setLBNotReady_reconditions vc reason message).untouched.2
  unfold settleLoadBalancer
  dsimp only
  split
  · refine (Prog.obeys_true _).bind fun r _ => ?_
    rcases r with e | backends
    · rfl
    · dsimp only
      split
      · refine (Prog.obeys_true _).bind fun r _ => ?_
        rcases r with e | u
        · exact hnotReady _ _ _
        · rfl
      · rfl
  · split
    · exact hnotReady _ _ _
    · exact hnotReady _ _ _

theorem settleServiceLoadBalancer_untouched (cluster : Cluster) (vc : VerdaCluster) (keys : Keys)
    (inst : Instance) : (settleServiceLoadBalancer cluster vc keys inst).Obeys (fun _ => True)
      fun r => Untouched vc r.2 := by
  unfold settleServiceLoadBalancer
  dsimp only
  split
  · refine (Prog.obeys_true _).bind fun r _ => ?_
    rcases r with e | u <;> exact ⟨rfl, rfl⟩
  · split <;> exact ⟨rfl, rfl⟩

theorem reconcileEndpoint_finalizers (scripts : LBScripts) (cluster : Cluster) (vc : VerdaCluster) :
    KeepsFinalizers vc (reconcileEndpoint scripts cluster vc) := by
  unfold reconcileEndpoint
  split
  · refine (Prog.obeys_true _).bind fun r _ => ?_
    rcases r with e | keys
    · rfl
    · refine ((obeys_onVerda (acquireLoadBalancer_keeps scripts cluster vc keys)).mono
        (fun _ _ => trivial) fun _ h => h).bind fun r hr => ?_
      rcases r with ⟨e | inst, vc₁⟩
      · exact hr.untouched.2
      · refine (settleLoadBalancer_finalizers cluster vc₁ keys inst).mono (fun _ h => h) fun r' hr' => ?_
        exact hr'.trans hr.untouched.2
  · dsimp only
    split <;> split <;> rfl

theorem reconcileService_untouched (scripts : LBScripts) (now : Time) (cluster : Cluster)
    (endpoint : Reply × VerdaCluster) :
    (ClusterScope.reconcileService scripts now cluster endpoint).Obeys (fun _ => True)
      fun r => Untouched endpoint.2 r.2 := by
  obtain ⟨e | result, vc⟩ := endpoint
  · exact ⟨rfl, rfl⟩
  · simp only [ClusterScope.reconcileService]
    split
    · unfold ClusterScope.disableService
      dsimp only
      split
      · refine ((obeys_onVerda (deleteServiceLoadBalancer_untouched now vc)).mono (fun _ _ => trivial)
          fun _ h => h).bind fun r hr => ?_
        rcases r with ⟨e | (_ | _), vc₁⟩
        · exact hr
        · exact (Prog.obeys_true _).bind fun _ _ => hr
        · exact hr
      · exact ⟨rfl, rfl⟩
    · refine (Prog.Obeys.bind (P := fun r => Untouched vc r.2) ?_ ?_)
      · refine (Prog.obeys_true _).bind fun r _ => ?_
        rcases r with e | keys
        · exact ⟨rfl, rfl⟩
        · refine ((obeys_onVerda (acquireServiceLoadBalancer_keeps scripts cluster vc keys)).mono
            (fun _ _ => trivial) fun _ h => h).bind fun r hr => ?_
          rcases r with ⟨e | inst, vc₁⟩
          · exact hr.untouched
          · refine (settleServiceLoadBalancer_untouched cluster vc₁ keys inst).mono (fun _ h => h)
              fun r' hr' => ?_
            exact hr.untouched.trans hr'
      · rintro ⟨e | requeue, vc₁⟩ hr
        · exact hr
        · dsimp only
          split <;> exact hr

end

/-! ## Making sure of a load balancer -/

section

variable {W : Type} {S : Setting W Call Call.Res} {w : W} {Good : Instance → W → Prop}

/-- The instance of a load balancer, found or created. -/
def LoadBalancer.acquire (scripts : LBScripts) (cluster : Cluster) (vc : VerdaCluster) (keys : Keys) :
    LoadBalancer → ClientM (Except Err Instance × VerdaCluster)
  | .controlPlane => acquireLoadBalancer scripts cluster vc keys
  | .service => acquireServiceLoadBalancer scripts cluster vc keys

theorem acquire_acquires (lb : LoadBalancer) (scripts : LBScripts) (cluster : Cluster)
    (vc : VerdaCluster) (keys : Keys) : (lb.acquire scripts cluster vc keys).Obeys
      (Acquires (lb.hostname vc) (lb.tags cluster vc)) fun _ => True := by
  cases lb with
  | controlPlane => exact acquireLoadBalancer_acquires scripts cluster vc keys
  | service => exact acquireServiceLoadBalancer_acquires scripts cluster vc keys

theorem wp_acquireLB (lb : LoadBalancer) (hS : S.Lawful) (hgood : ∀ inst, S.Stable (Good inst))
    {scripts : LBScripts} {cluster : Cluster} {vc : VerdaCluster} {keys : Keys} {Free : W → Prop}
    (hfind : (lb.find vc).wp S (fun r w => (r = .ok none → Free w) ∧
      ∀ inst, r = .ok (some inst) → Good inst w) w)
    (hcreate : ∀ spec : InstanceSpec, spec.hostname = lb.hostname vc → spec.tags = lb.tags cluster vc →
      ∀ w, S.inv w → Free w →
        (createInstance spec).wp S (fun r w => ∀ inst, r = .ok inst → Good inst w) w) :
    (lb.acquire scripts cluster vc keys).wp S (fun r w => ∀ inst, r.1 = .ok inst → Good inst w) w := by
  cases lb with
  | controlPlane => exact wp_findOrCreate hS hgood hfind (hcreate _ rfl rfl)
  | service => exact wp_findOrCreate hS hgood hfind (hcreate _ rfl rfl)

end

section

variable {W α : Type} {T : Setting W ClusterCall ClusterCall.Res} {vc vc' : VerdaCluster}
  {lb : LoadBalancer} {inst : Instance} {w : W} {Good : Instance → W → Prop} {P : W → Prop}

/-- What a part of a pass that makes sure of a load balancer returns: the same cluster, the other load
balancer as it was, and this one as it was or with the IDs of a good instance. -/
structure Ensured (lb : LoadBalancer) (Good : Instance → W → Prop) (vc vc' : VerdaCluster) (w : W) :
    Prop where
  same : SameCluster vc vc'
  other : ∀ lb', lb' ≠ lb → lbStatus vc' lb' = lbStatus vc lb'
  record : lbStatus vc' lb = lbStatus vc lb ∨ ∃ inst, Good inst w ∧
    (lbStatus vc' lb).instanceID = inst.id ∧
      ((lbStatus vc' lb).startupScriptID = inst.startupScriptID ∨
        (lbStatus vc' lb).startupScriptID = (lbStatus vc lb).startupScriptID)

/-- What is good stays so under interference and requests to others than Verda, which are allowed. -/
structure StaysGood (T : Setting W ClusterCall ClusterCall.Res) (Good : Instance → W → Prop) : Prop where
  lawful : T.Lawful
  stable : ∀ inst, T.Stable (Good inst)
  aside : ∀ {w c}, NotVerda c → T.guar w c
  step : ∀ {inst w c x w'}, NotVerda c → Good inst w → T.step w c x w' → Good inst w'

theorem Ensured.of_reconditions (h : Reconditions vc vc') : Ensured lb Good vc vc' w :=
  ⟨h.same, fun lb' _ => h.lbStatus lb', .inl (h.lbStatus lb)⟩

namespace StaysGood

theorem ensured_stable (h : StaysGood T Good) : T.Stable (Ensured lb Good vc vc') := by
  intro w w' hw hr hi
  refine ⟨hw.same, hw.other, ?_⟩
  obtain hsame | ⟨inst, hinst, hids⟩ := hw.record
  · exact .inl hsame
  · exact .inr ⟨inst, h.stable inst w w' hinst hr hi, hids⟩

theorem ret (h : StaysGood T Good) {r : α × VerdaCluster} (hr : Ensured lb Good vc r.2 w) :
    (Prog.ret r : ClusterM (α × VerdaCluster)).wp T (fun r w => Ensured lb Good vc r.2 w) w :=
  Prog.wp_ret_stable h.ensured_stable hr

/-- A part that asks others than Verda. -/
theorem frame (h : StaysGood T Good) {p : ClusterM α} {R : α → Prop} (hp : p.Obeys (Aside lb) R)
    (hw : Good inst w) : p.wp T (fun r w => Good inst w ∧ R r) w :=
  Prog.wp_frame hp (h.stable inst) (fun _ _ hc _ _ => h.aside hc.notVerda)
    (fun _ _ _ _ hc hw _ hs _ => h.step hc.notVerda hw hs) hw

/-- A pass that makes sure of a load balancer ends with an error and other conditions, or with what it
makes of the instance it found or created. -/
theorem settledLB (h : StaysGood T Good) (hP : T.Keeps P) {name : String} {cluster : Cluster}
    {acquire : Keys → ClientM (Except Err Instance × VerdaCluster)}
    {settle : VerdaCluster → Keys → Instance → ClusterM (Except Err α × VerdaCluster)}
    {R : Instance → VerdaCluster → Except Err α × VerdaCluster → Prop}
    (hkeeps : ∀ k, (acquire k).Obeys (fun _ => True) fun r => Reconditions vc r.2)
    (hacquire : ∀ k w, T.inv w → P w → (acquire k).wp (atVerda T lb)
      (fun r w => ∀ inst, r.1 = .ok inst → Good inst w) w)
    (hsettle : ∀ vc k inst, (settle vc k inst).Obeys (Aside lb) (R inst vc))
    (hw : P w) : (provideLB lb cluster vc name acquire settle).wp T (fun r w => Reconditions vc r.2 ∨
      ∃ inst vc₁, Reconditions vc vc₁ ∧ Good inst w ∧ R inst vc₁ r) w := by
  have hkeys : (ensureKeys cluster vc name).wp T (fun _ _ => True) w :=
    Prog.wp_of_obeys (ensureKeys_aside lb cluster vc name) fun _ _ hc _ => h.aside hc.notVerda
  have hret : ∀ (r : Except Err α × VerdaCluster) (w : W), Reconditions vc r.2 →
      (Prog.ret r : ClusterM _).wp T (fun r w => Reconditions vc r.2 ∨
        ∃ inst vc₁, Reconditions vc vc₁ ∧ Good inst w ∧ R inst vc₁ r) w :=
    fun r w hr => Prog.wp_ret_any fun _ _ => .inl hr
  refine Prog.wp_bind h.lawful (Prog.wp_mono ?_ (Prog.wp_keep hP hkeys hw))
  rintro (e | k) w hi ⟨-, hw⟩
  · exact hret _ w (.refl vc)
  · refine Prog.wp_bind h.lawful (Prog.wp_mono ?_
      (wp_onVerda (Prog.wp_and_obeys (hkeeps k) (hacquire k w hi hw))))
    rintro ⟨e | inst, vc₁⟩ w - ⟨hinst, hre⟩
    · exact hret _ w hre
    · refine Prog.wp_mono ?_ (h.frame (hsettle vc₁ k inst) (hinst inst rfl))
      exact fun r w _ hr => .inr ⟨inst, vc₁, hre, hr.1, hr.2⟩

/-- The keys of a load balancer, its instance, and what is recorded of it. -/
theorem ensureLB (h : StaysGood T Good) (hP : T.Keeps P) {name : String} {cluster : Cluster}
    {acquire : Keys → ClientM (Except Err Instance × VerdaCluster)}
    {settle : VerdaCluster → Keys → Instance → ClusterM (Except Err α × VerdaCluster)}
    (hkeeps : ∀ k, (acquire k).Obeys (fun _ => True) fun r => Reconditions vc r.2)
    (hacquire : ∀ k w, T.inv w → P w → (acquire k).wp (atVerda T lb)
      (fun r w => ∀ inst, r.1 = .ok inst → Good inst w) w)
    (hsettle : ∀ vc k inst, (settle vc k inst).Obeys (Aside lb) fun r => SettlesLB lb inst vc r.2)
    (hw : P w) : (provideLB lb cluster vc name acquire settle).wp T
      (fun r w => Ensured lb Good vc r.2 w) w := by
  refine Prog.wp_mono ?_ (h.settledLB hP hkeeps hacquire hsettle hw)
  rintro r w - (hre | ⟨inst, vc₁, hre, hinst, hset⟩)
  · exact .of_reconditions hre
  · refine ⟨hre.same.trans hset.same, fun lb' hlb => ?_, .inr ⟨inst, hinst, hset.instanceID, ?_⟩⟩
    · rw [hset.other lb' hlb, hre.lbStatus]
    · rw [← hre.lbStatus lb]
      exact hset.startupScriptID

/-- `reconcileEndpoint`. With the load balancer disabled it asks nothing. -/
theorem reconcileEndpoint (h : StaysGood T Good) (hP : T.Keeps P) (scripts : LBScripts)
    (cluster : Cluster) (hacquire : vc.loadBalancerEnabled = true → ∀ k w, T.inv w → P w →
      (LoadBalancer.controlPlane.acquire scripts cluster vc k).wp (atVerda T .controlPlane)
        (fun r w => ∀ inst, r.1 = .ok inst → Good inst w) w) (hw : P w) :
    (reconcileEndpoint scripts cluster vc).wp T
      (fun r w => Ensured .controlPlane Good vc r.2 w) w := by
  unfold Controller.reconcileEndpoint
  split
  · rename_i henabled
    exact h.ensureLB hP (acquireLoadBalancer_keeps scripts cluster vc) (hacquire henabled)
      (settleLoadBalancer_settles cluster) hw
  · have hret : ∀ (reply : Reply) (vc' : VerdaCluster), SameCluster vc vc' →
        (∀ lb, lbStatus vc' lb = lbStatus vc lb) → (Prog.ret (reply, vc') : ClusterM _).wp T
          (fun r w => Ensured .controlPlane Good vc r.2 w) w :=
      fun reply vc' hsame hstatus => h.ret ⟨hsame, fun lb' _ => hstatus lb', .inl (hstatus _)⟩
    dsimp only
    split <;> split <;>
      exact hret _ _ ⟨rfl, rfl, rfl, _, rfl⟩ fun lb => by cases lb <;> rfl

/-- `reconcileNormal` with the service load balancer enabled, once the endpoint is settled. -/
theorem enableService (h : StaysGood T Good) (hP : T.Keeps P) (scripts : LBScripts) (cluster : Cluster)
    (result : Result) (hacquire : ∀ k w, T.inv w → P w →
      (LoadBalancer.service.acquire scripts cluster vc k).wp (atVerda T .service)
        (fun r w => ∀ inst, r.1 = .ok inst → Good inst w) w) (hw : P w) :
    (ClusterScope.enableService scripts cluster result vc).wp T
      (fun r w => Ensured .service Good vc r.2 w) w := by
  refine Prog.wp_bind h.lawful (Prog.wp_mono ?_ (h.ensureLB hP
    (acquireServiceLoadBalancer_keeps scripts cluster vc) hacquire
    (settleServiceLoadBalancer_settles cluster) hw))
  rintro ⟨e | requeue, vc₁⟩ w - hw
  · exact h.ret hw
  · dsimp only
    split <;> exact h.ret hw

end StaysGood

end

end VerdaCapi.Controller
