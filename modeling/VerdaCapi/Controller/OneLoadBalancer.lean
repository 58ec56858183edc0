import VerdaCapi.Controller.ClusterRules

/-!
# At most one load balancer

A creation whose result was never stored is found again by its tag. `findLoadBalancer` takes whatever
carries the cluster's tag, gone or not, so that the control plane load balancer is created only in an
account that lists no instance under the tag at all. Whatever is lost on the way, no account ever has
two of them, and no condition on the listings is needed. The service load balancer passes over what is
gone, as machines do, and shares their condition: what is live is listed first.

`oneLoadBalancer` is this for every run, with crashes, lost answers and lost patches anywhere.
-/

namespace VerdaCapi.Controller

open Remote Go Api Cloud Webhook

/-- In no account a lookup by tag could return one of two instances. -/
def OneTaken (lb : LoadBalancer) (tag : String) (w : World LoadBalancer) : Prop :=
  ∀ b, ∀ i ∈ (w.account b).instances.rows, ∀ j ∈ (w.account b).instances.rows,
    Taken lb tag i → Taken lb tag j → i.id = j.id

/-- An instance with the tag is asked for only where a lookup would find none. -/
def CreatesFree (lb : LoadBalancer) (tag : String) (w : World LoadBalancer) (a : AccountID) (c : Call) :
    Prop :=
  ∀ req, c.op = .instancesCreate req → requestTag req lb.tagKey = tag → NoTaken lb tag a w

section

variable {lb lb' : LoadBalancer} {tag : String} {w w' : World LoadBalancer} {a b : AccountID} {c : Call}
  {ch : Choice}

theorem OneTaken.keeps (h : OneTaken lb tag w)
    (hrows : ∀ b, ∀ i' ∈ (w'.account b).instances.rows, Taken lb tag i' →
      ∃ i ∈ (w.account b).instances.rows, Keeps i i') : OneTaken lb tag w' := by
  intro b i' hi' j' hj' hti htj
  obtain ⟨i, hi, hik⟩ := hrows b i' hi' hti
  obtain ⟨j, hj, hjk⟩ := hrows b j' hj' htj
  rw [hik.id, hjk.id]
  exact h b i hi j hj (hti.of_keeps hik) (htj.of_keeps hjk)

theorem NoTaken.keeps (h : NoTaken lb tag b w)
    (hrows : ∀ i' ∈ (w'.account b).instances.rows, Taken lb tag i' →
      ∃ i ∈ (w.account b).instances.rows, Keeps i i') : NoTaken lb tag b w' := by
  intro i' hi' ht
  obtain ⟨i, hi, hik⟩ := hrows i' hi' ht
  exact h i hi (ht.of_keeps hik)

/-- A request that does not create under the tag brings none that carries it. -/
theorem NoTaken.answer {x : Call.Res c} (h : NoTaken lb tag b w)
    (hc : ∀ req, c.op = .instancesCreate req → requestTag req lb.tagKey ≠ tag)
    (hans : Cloud.answer lb' ch w (a, c) = some (x, w')) : NoTaken lb tag b w' := by
  refine h.keeps fun i' hi' ht => ?_
  obtain hold | ⟨-, req, vs, hreq, hcr, -⟩ := answer_instances hans b i' hi'
  · exact hold
  · exact absurd ((hcr.tagOf lb.tagKey).symm.trans ht.1) (hc req hreq)

theorem OneTaken.answer {x : Call.Res c} (h : OneTaken lb tag w) (hfree : CreatesFree lb tag w a c)
    (hans : Cloud.answer lb' ch w (a, c) = some (x, w')) : OneTaken lb tag w' := by
  obtain ⟨m, op⟩ := c
  by_cases hop : ∃ req, op = .instancesCreate req
  · obtain ⟨req, rfl⟩ := hop
    obtain ⟨rfl, -⟩ | ⟨i, vs, hc, rfl, -⟩ := answer_instancesCreate hans
    · exact h
    · by_cases htag : requestTag req lb.tagKey = tag
      · have hnone := hfree req rfl htag
        intro b j hj k hk htj htk
        rw [mem_create_instances] at hj hk
        -- the account had none, so both are the new one
        obtain ⟨rfl, rfl⟩ | hj := hj
        · obtain ⟨-, rfl⟩ | hk := hk
          · rfl
          · exact absurd htk (hnone k hk)
        · obtain ⟨rfl, rfl⟩ | hk := hk
          · exact absurd htj (hnone j hj)
          · exact h b j hj k hk htj htk
      · refine h.keeps fun b j hj ht => ?_
        obtain ⟨rfl, rfl⟩ | hj := mem_create_instances.1 hj
        · exact absurd ((hc.tagOf lb.tagKey).symm.trans ht.1) htag
        · exact ⟨j, hj, .refl j⟩
  · have hkeep := answer_keepsInstances (fun req hreq => hop ⟨req, hreq⟩) hans
    exact h.keeps fun b i' hi' _ => hkeep.rows b i' hi'

/-- What carries a tag of the cluster does not drift in. -/
theorem drift_taken (lb : LoadBalancer) {addressOf : AccountID → String → String} {d : ClusterDrift}
    {v v' : ClusterWorld} (h : clusterDrift addressOf tag d v = some v') : ∀ b, ∀ i' ∈ (v'.cloud.account b).instances.rows,
      Taken lb tag i' → ∃ i ∈ (v.cloud.account b).instances.rows, Keeps i i' := by
  intro b i' hi' ht
  obtain hold | ⟨-, hnot⟩ := (clusterDrift_instances h).2 b i' hi'
  · exact hold
  · rw [ht.hasClusterTag] at hnot
    cases hnot

end

/-! ## The invariant -/

/-- Whenever the service load balancer is looked up by its tag, what is live is listed first. -/
abbrev listsLive (lb : LoadBalancer) (tag : String) : ClusterConds where
  call _ _ w o := lb = .service → o.2 = .verda .service tagListing →
    LiveUpFirst (wantsTag tagServiceLoadBalancer tag) (w.cloud.account o.1).instances.rows

def oneLB (addressOf : AccountID → String → String) (ns name : String) (lb : LoadBalancer) :
    Invariant (clusterSystem addressOf ns name) (listsLive lb (clusterTagFor ns name)) where
  inv w := OneTaken lb (clusterTagFor ns name) w.cloud
  loc _ vc _ := clusterTagValue vc = clusterTagFor ns name
  touch _ := ClusterTouched
  rely _ w w' := ∀ b, NoTaken lb (clusterTagFor ns name) b w.cloud →
    NoTaken lb (clusterTagFor ns name) b w'.cloud
  guar _ _ w o := ∀ lb' c, o.2 = .verda lb' c → CreatesFree lb (clusterTagFor ns name) w.cloud o.1 c
  done _ _ _ _ := True

section

variable {addressOf : AccountID → String → String} {ns name : String} {lb lb' : LoadBalancer}
  {vc vc₁ : VerdaCluster} {a : AccountID} {w w' : ClusterWorld} {α : Type}

/-- The setting of a pass, with the client of one account. -/
abbrev oneAt (addressOf : AccountID → String → String) (ns name : String) (lb : LoadBalancer)
    (vc : VerdaCluster) (a : AccountID) : Setting ClusterWorld ClusterCall ClusterCall.Res :=
  atClient ((oneLB addressOf ns name lb).setting () vc) a

theorem one_lawful : (oneAt addressOf ns name lb vc a).Lawful :=
  Setting.Lawful.atClient ⟨fun _ _ h => h, fun h h' b hb => h' b (h b hb)⟩

theorem noTaken_stable : (atVerda (oneAt addressOf ns name lb vc a) lb').Stable
    fun w => NoTaken lb (clusterTagFor ns name) a w.cloud :=
  fun _ _ h hr _ => hr a h

/-- A step of the client. -/
theorem one_step {c : Call} {x : Call.Res c}
    (hs : (atVerda (oneAt addressOf ns name lb vc a) lb').step w c x w') :
    (listsLive lb (clusterTagFor ns name)).call () vc w (a, .verda lb' c) ∧
      ∃ ch, answer lb' ch w.cloud (a, c) = some (x, w'.cloud) := by
  obtain ⟨hcond, ch, hans⟩ := atClient_step.1 (atVerda_step.1 hs)
  obtain ⟨ch', hans', -⟩ := clusterAnswer_verda hans
  exact ⟨hcond, ch', hans'⟩

/-- Requests that do not create under the tag are allowed. -/
theorem one_allowed {c : Call}
    (hc : ∀ req, c.op = .instancesCreate req → requestTag req lb.tagKey ≠ clusterTagFor ns name) :
    (atVerda (oneAt addressOf ns name lb vc a) lb').guar w c := by
  rintro lb'' c' heq req hreq htag
  cases heq
  exact absurd htag (hc req hreq)

theorem one_frame {p : ClusterM α} {A : ClusterCall → Prop} {R : α → Prop} (hp : p.Obeys A R)
    (hA : ∀ c, A c → ∀ lb' c', c = .verda lb' c' → ∀ req, c'.op = .instancesCreate req →
      requestTag req lb.tagKey ≠ clusterTagFor ns name) (w : ClusterWorld) :
    p.wp (oneAt addressOf ns name lb vc a) (fun r _ => R r) w := by
  refine Prog.wp_of_obeys hp ?_
  rintro w c hc - lb' c' rfl req hreq htag
  exact absurd htag (hA _ hc lb' c' rfl req hreq)

/-- A lookup that reports none has looked at an account that has none. -/
theorem one_find (htag : clusterTagValue vc₁ = clusterTagFor ns name) (w : ClusterWorld) :
    (lb.find vc₁).wp (atVerda (oneAt addressOf ns name lb vc a) lb) (fun r w =>
      (r = .ok none → NoTaken lb (clusterTagFor ns name) a w.cloud) ∧
        ∀ inst, r = .ok (some inst) → True) w := by
  rw [find_eq, htag]
  refine wp_lookupInstance (fun _ w w' h hr hi => ⟨fun hnone => noTaken_stable w w' (h.1 hnone) hr hi,
    fun _ _ => trivial⟩) ?_ (fun _ _ _ _ _ _ _ => ⟨fun h => absurd h pickByID_ne_none, fun _ _ => trivial⟩)
    fun _ w x w' _ _ hs => ⟨fun hnone => ?_, fun _ _ => trivial⟩
  · rintro w _ (rfl | rfl) - <;> exact one_allowed fun req h => by cases h
  · obtain ⟨hcond, ch, hans⟩ := one_step hs
    obtain ⟨hw, rfl | ⟨e, rfl⟩⟩ := answer_instancesGet hans
    · rw [hw]
      refine pick_none (fun hlb => ?_) hnone
      subst hlb
      exact hcond rfl rfl
    · cases lb <;> cases hnone

/-- The load balancer itself is created where there is none, the other one under another tag. -/
theorem one_acquire (lb' : LoadBalancer) (scripts : LBScripts) (cluster : Cluster) (keys : Keys)
    (htag : clusterTagValue vc₁ = clusterTagFor ns name) (w : ClusterWorld) :
    (lb'.acquire scripts cluster vc₁ keys).wp (atVerda (oneAt addressOf ns name lb vc a) lb')
      (fun r _ => ∀ inst, r.1 = .ok inst → True) w := by
  have hS : (atVerda (oneAt addressOf ns name lb vc a) lb').Lawful := Setting.Lawful.atVerda one_lawful
  by_cases hlb : lb' = lb
  · subst hlb
    refine wp_acquireLB lb' hS (fun _ _ _ _ _ _ => trivial) (one_find htag w) fun spec _ _ w _ hfree => ?_
    refine wp_createInstance hS noTaken_stable (fun _ _ _ _ _ _ _ _ => trivial)
      (fun _ _ _ _ => trivial) ?_ ?_ hfree
    · intro c w _ hc _
      have hc' : ∀ req, c.op = .instancesCreate req → requestTag req lb'.tagKey ≠ clusterTagFor ns name :=
        fun req hreq => absurd hreq (hc req)
      refine ⟨one_allowed hc', fun hw x w' hs _ => ?_⟩
      obtain ⟨-, ch, hans⟩ := one_step hs
      exact hw.answer hc' hans
    · intro sid w hw _
      refine ⟨?_, fun _ _ _ _ _ _ _ => trivial⟩
      rintro lb'' c heq req - -
      cases heq
      exact hw
  · refine Prog.wp_mono (fun _ _ _ _ _ _ => trivial)
      (Prog.wp_of_obeys (acquire_acquires lb' scripts cluster vc₁ keys) fun w c hc _ => ?_)
    refine one_allowed fun req hreq heq => ?_
    rw [hc.requestTag_eq hreq, get_tags, if_neg (Ne.symm hlb)] at heq
    exact clusterTagFor_ne_empty ns name heq.symm

theorem one_staysGood : StaysGood (oneAt addressOf ns name lb vc a) fun _ _ => True where
  lawful := one_lawful
  stable _ _ _ _ _ _ := trivial
  aside hc _ _ heq := absurd heq (hc _ _)
  step _ _ _ := trivial

theorem one_startClusterPass (inp : ClusterInput) (htag : clusterTagValue vc = clusterTagFor ns name)
    (w : ClusterWorld) : (startClusterPass inp vc).wp ((oneLB addressOf ns name lb).setting () vc)
      (fun out _ => ∀ sent ∈ out.sent, SameCluster vc sent) w := by
  have hS : ((oneLB addressOf ns name lb).setting () vc).Lawful :=
    ⟨fun _ _ h => h, fun h h' b hb => h' b (h b hb)⟩
  refine startClusterPass_cases (P := fun pass => pass.wp _
    (fun out _ => ∀ sent ∈ out.sent, SameCluster vc sent) w) inp vc ?_ ?_ ?_
  · exact fun out _ hout _ _ _ sent hs => (hout sent hs).1
  · intro _
    refine wp_runClusterDelete (Prog.wp_mono ?_ (one_frame (reconcileDelete_obeys inp.now vc) ?_ w))
    · exact fun r _ _ hr => sameCluster_patched hr.1
    · rintro c ⟨lb', c', rfl, hc⟩ _ _ ⟨⟩ req hreq
      exact absurd hreq (hc.ne_instancesCreate (by decide) req)
  · intro cluster _
    refine wp_runClusterNormal hS (Prog.wp_mono ?_ (one_staysGood.reconcileEndpoint .trivial
      inp.scripts cluster (fun _ k w _ _ => one_acquire .controlPlane inp.scripts cluster k htag w) trivial))
    rintro ⟨e | result, vc₁⟩ w - hend
    · exact fun _ _ _ => sameCluster_patched hend.same
    · have htag₁ : clusterTagValue vc₁ = clusterTagFor ns name := hend.same.tag.trans htag
      simp only [ClusterScope.reconcileService]
      split
      · refine Prog.wp_mono ?_ (one_frame (disableService_obeys inp.now cluster result vc₁) ?_ w)
        · exact fun r _ _ hr => sameCluster_patched (hend.same.trans hr.1)
        · rintro c hc lb' c' rfl req hreq
          exact absurd hreq (hc.2.ne_instancesCreate (by decide) req)
      · refine Prog.wp_mono ?_ (one_staysGood.enableService .trivial inp.scripts cluster result
          (fun k w _ _ => one_acquire .service inp.scripts cluster k htag₁ w) trivial)
        exact fun r _ _ hr => sameCluster_patched (hend.same.trans hr.same)

theorem oneLB_valid : (oneLB addressOf ns name lb).Valid where
  refl _ _ _ h := h
  trans _ {_ _ _} h h' b hb := h' b (h b hb)
  drift hinv hd := by
    have hrows := drift_taken lb hd
    exact ⟨OneTaken.keeps hinv hrows, fun _ =>
      ⟨fun _ b hb => NoTaken.keeps hb (hrows b), fun _ h => h⟩⟩
  edit _ he := editCluster_touched he
  touched _ hloc h := (ClusterTouched.tag h).trans hloc
  merge h _ := (ClusterTouched.persist h _ _ _).imp fun _ hq => ⟨trivial, hq.2⟩
  call {i obj ch w o x w'} hinv hloc _ hg hans := by
    refine ⟨?_, hloc, fun j hj => absurd rfl hj⟩
    obtain ⟨a, c⟩ := o
    obtain ⟨lb', c', rfl⟩ | hnot := verda_or_notVerda c
    · obtain ⟨ch', hans', -⟩ := clusterAnswer_verda hans
      exact OneTaken.answer hinv (hg lb' c' rfl) hans'
    · show OneTaken _ _ w'.cloud
      rw [(clusterAnswer_other hnot hans).1]
      exact hinv
  pass {i inp vc w} _ hloc _ := by
    refine Invariant.wp_persist (Prog.wp_mono ?_ (one_startClusterPass inp hloc w))
    intro out w _ hsent
    exact ⟨trivial, fun p => (persistCluster_same hsent p).tag.trans hloc⟩

/-- In every state of every run. -/
theorem oneTaken_of_reach {s₀ s : ClusterState} (h₀ : ClusterInitial addressOf ns name s₀)
    (h : Reach (clusterSystem addressOf ns name) (listsLive lb (clusterTagFor ns name)) s₀ s) :
    OneTaken lb (clusterTagFor ns name) s.world.cloud := by
  have hholds : (oneLB addressOf ns name lb).Holds s := by
    refine Invariant.sound oneLB_valid ?_ (fun _ => h₀.tag) (fun _ => h₀.idle) h
    intro b i hi _ _ ht _
    have hnot := h₀.untagged b i hi
    rw [ht.hasClusterTag] at hnot
    cases hnot
  exact hholds.inv

end

/-- **At most one load balancer.** In every run of the passes over a cluster, whatever fails or is lost,
no account has two instances with the tag of its control plane load balancer, gone ones included. Of the
service load balancer no account has two that are live, in every run in which the listings of its
lookups show what is live first. -/
theorem oneLoadBalancer {addressOf : AccountID → String → String} {ns name : String} {s₀ : ClusterState}
    (h₀ : ClusterInitial addressOf ns name s₀) :
    (∀ s, Reach (clusterSystem addressOf ns name) {} s₀ s →
      ∀ b, ∀ i ∈ (s.world.cloud.account b).instances.rows,
      ∀ j ∈ (s.world.cloud.account b).instances.rows, tagOf i tagLoadBalancer = clusterTagFor ns name →
        tagOf j tagLoadBalancer = clusterTagFor ns name → i.id = j.id) ∧
    ∀ s, Reach (clusterSystem addressOf ns name) (listsLive .service (clusterTagFor ns name)) s₀ s →
      ∀ b, ∀ i ∈ (s.world.cloud.account b).instances.rows,
      ∀ j ∈ (s.world.cloud.account b).instances.rows,
        tagOf i tagServiceLoadBalancer = clusterTagFor ns name → isGone i = false →
        tagOf j tagServiceLoadBalancer = clusterTagFor ns name → isGone j = false → i.id = j.id := by
  refine ⟨fun s hs b i hi j hj hti htj => ?_, fun s hs b i hi j hj hti hli htj hlj => ?_⟩
  · -- the condition says nothing of the control plane load balancer
    have hfree : Reach (clusterSystem addressOf ns name)
        (listsLive .controlPlane (clusterTagFor ns name)) s₀ s := by
      refine hs.mono fun s m _ => ?_
      cases m with
      | answer i c =>
        simp only [Conditions.Meets]
        split
        · exact fun hlb => by cases hlb
        · trivial
      | finish i p =>
        simp only [Conditions.Meets]
        split <;> trivial
      | drift d => exact fun h => h.elim
      | _ => trivial
    exact oneTaken_of_reach h₀ hfree b i hi j hj ⟨hti, fun h => by cases h⟩ ⟨htj, fun h => by cases h⟩
  · exact oneTaken_of_reach h₀ hs b i hi j hj (taken_of_live hti hli) (taken_of_live htj hlj)

/-- The pass that creates the load balancer is lost; the next one finds it by its tag. -/
theorem oneLoadBalancer_sample : ∃ s : ClusterState,
    (∃ i ∈ (s.world.cloud.account .global).instances.rows,
      tagOf i tagLoadBalancer = clusterTagFor "default" "c0") ∧ (returnedCluster s).isSome = true ∧
    ∀ b, ∀ i ∈ (s.world.cloud.account b).instances.rows,
    ∀ j ∈ (s.world.cloud.account b).instances.rows, tagOf i tagLoadBalancer = clusterTagFor "default" "c0" →
      tagOf j tagLoadBalancer = clusterTagFor "default" "c0" → i.id = j.id := by
  obtain ⟨s, hs, hgood⟩ := exists_reach_of_run (clusterSystem sampleAddress "default" "c0")
    (clusterState (clusterWith enabledLB {}))
    (fun s => decide (∃ i ∈ (s.world.cloud.account .global).instances.rows,
      tagOf i tagLoadBalancer = clusterTagFor "default" "c0") && (returnedCluster s).isSome)
    (createsLB .controlPlane "x1" "provisioning" ++ [.crash (), .start () clusterInput,
      keysFound "c0-lb-ssh"] ++ verdaAccepts 1)
    (by decide +kernel)
  obtain ⟨hlisted, hreturned⟩ := Bool.and_eq_true_iff.1 hgood
  exact ⟨s, of_decide_eq_true hlisted, hreturned,
    (oneLoadBalancer (clusterState_initial rfl rfl rfl)).1 s hs⟩

end VerdaCapi.Controller
