import VerdaCapi.Controller.ClusterRules
import VerdaCapi.Remote.History

/-!
# Switching the service load balancer off and on

Disabling the service load balancer takes several passes: `DeleteInstance` first shuts the instance
down, and its ID stays recorded until it is gone. A pass that finds the load balancer enabled again in
between looks the recorded instance up and keeps it.

`reenabled_records_fresh`: with the load balancer enabled, no pass records an instance for which
`DeleteInstance` was called. The load balancer may be switched off and on at any time, also during a
pass; but a pass that begins with it enabled finds none of these instances recorded, and its listing by
tag shows none of them live. `reenabled_records_deleted` is a run in which the load balancer is switched
on in the middle of the teardown.
-/

namespace VerdaCapi.Controller

open Remote Go Api Cloud Webhook

/-! ## Runs with their requests -/

/-- The requests of a run of one cluster. -/
abbrev ClusterHistory := History Unit ScopedCall ScopedCall.Res

/-- The passes over the cluster, with their history. -/
abbrev tracedCluster (addressOf : AccountID → String → String) (ns name : String) :=
  (clusterSystem addressOf ns name).traced

/-- A state of such a run. -/
abbrev TracedClusterState :=
  State Unit (ClusterWorld × ClusterHistory) ScopedCall ScopedCall.Res VerdaCluster ClusterOutcome

/-- Conditions on such a run. -/
abbrev TracedClusterConds := Conditions Unit (ClusterWorld × ClusterHistory) ScopedCall VerdaCluster
  ClusterOutcome ClusterInput Patch ClusterEdit

/-- The service load balancer a call of `DeleteInstance` is for, seen at its first request. -/
def serviceDelete : ScopedCall → Option String
  | (_, .verda .service c) => asksDelete c
  | _ => none

/-- `DeleteInstance` was called for this instance as the service load balancer. -/
def ServiceAsked (id : String) (h : ClusterHistory) : Prop := ∃ e ∈ h, serviceDelete e.2.1 = some id

instance (id : String) (h : ClusterHistory) : Decidable (ServiceAsked id h) :=
  inferInstanceAs (Decidable (∃ e ∈ h, _))

/-- The cluster wants a service load balancer. -/
def WantsService (vc : VerdaCluster) : Prop :=
  vc.metadata.deletionTimestamp = none ∧ vc.serviceLoadBalancerEnabled = true

instance (vc : VerdaCluster) : Decidable (WantsService vc) := inferInstanceAs (Decidable (_ ∧ _))

/-- The account does not list a live instance under this tag for which `DeleteInstance` was called. -/
def ListsNoneAsked (tag : String) (acc : Account) (h : ClusterHistory) : Prop :=
  ∀ i ∈ acc.instances.rows, isGone i = false → tagOf i tagServiceLoadBalancer = tag →
    ¬ ServiceAsked i.id h

instance (tag : String) (acc : Account) (h : ClusterHistory) : Decidable (ListsNoneAsked tag acc h) :=
  inferInstanceAs (Decidable (∀ i ∈ acc.instances.rows, _))

/-- A pass that begins with the load balancer wanted finds no instance recorded that was to be deleted,
and no listing for it shows a live one that was. -/
abbrev startsClear : TracedClusterConds where
  start _ _ vc w := WantsService vc → ¬ ServiceAsked vc.status.serviceLoadBalancer.instanceID w.2
  call _ vc w o := o.2 = .verda .service tagListing → WantsService vc →
    ListsNoneAsked (clusterTagValue vc) (w.1.cloud.account o.1) w.2

/-! ## The invariant -/

/-- The ID was handed out to the cluster. -/
def IsKnown (id : String) (w : ClusterWorld × ClusterHistory) : Prop :=
  id ≠ "" ∧ ∃ e ∈ w.1.cloud.made, e.id = id

/-- What carries the tag, and what `DeleteInstance` was called for, was handed out to the cluster. -/
structure ServiceKnown (tag : String) (w : ClusterWorld × ClusterHistory) : Prop where
  tagged : Tagged tagServiceLoadBalancer tag (fun i => IsKnown i.id w) w.1.cloud
  asked : ∀ id, ServiceAsked id w.2 → IsKnown id w

/-- An instance that a pass may take as the service load balancer. -/
def Fit (vc : VerdaCluster) (id : String) (w : ClusterWorld × ClusterHistory) : Prop :=
  IsKnown id w ∧ (WantsService vc → ¬ ServiceAsked id w.2)

/-- What is recorded of the service load balancer. -/
abbrev serviceID (vc : VerdaCluster) : String := (lbStatus vc .service).instanceID

def toggles (addressOf : AccountID → String → String) (ns name : String) :
    Invariant (tracedCluster addressOf ns name) startsClear where
  inv := ServiceKnown (clusterTagFor ns name)
  loc _ vc w := clusterTagValue vc = clusterTagFor ns name ∧ (serviceID vc ≠ "" → IsKnown (serviceID vc) w)
  touch _ := ClusterTouched
  rely _ w w' := (∀ e ∈ w.1.cloud.made, e ∈ w'.1.cloud.made) ∧ w'.2 = w.2
  guar _ vc w o := ∀ id ∈ serviceDelete o, IsKnown id w ∧ ¬ WantsService vc
  done _ vc out w := WantsService vc → ¬ ServiceAsked (serviceID vc) w.2 ∧
    ∀ sent ∈ out.sent, ¬ ServiceAsked (serviceID sent) w.2

section

variable {addressOf : AccountID → String → String} {ns name tag id : String} {vc vc' : VerdaCluster}
  {a : AccountID} {w w' : ClusterWorld × ClusterHistory} {ch : ClusterChoice} {o : ScopedCall}

theorem IsKnown.mono (h : IsKnown id w) (hw : ∀ e ∈ w.1.cloud.made, e ∈ w'.1.cloud.made) :
    IsKnown id w' := by
  rcases h with ⟨hne, e, he, heq⟩
  exact ⟨hne, e, hw e he, heq⟩

/-- What an answer does: the log grows, and the request is noted. -/
theorem traced_grows {x : ScopedCall.Res o}
    (h : (tracedCluster addressOf ns name).answer () ch w o = some (x, w')) :
    (∀ e ∈ w.1.cloud.made, e ∈ w'.1.cloud.made) ∧ ∀ id, ServiceAsked id w'.2 ↔
      serviceDelete o = some id ∨ ServiceAsked id w.2 := by
  rcases System.traced_answer h with ⟨hans, hhist⟩
  refine ⟨?_, fun id => ?_⟩
  · rcases o with ⟨a, c⟩
    rcases verda_or_notVerda c with ⟨lb, c', rfl⟩ | hc
    · rcases clusterAnswer_verda hans with ⟨ch', hans', -⟩
      exact answer_grows hans'
    · rw [(clusterAnswer_other hc hans).1]
      exact fun e he => he
  · rw [hhist, ServiceAsked, List.exists_mem_cons_iff]
    rfl

theorem Fit.step {x : ScopedCall.Res o} (h : Fit vc id w)
    (hg : ∀ id ∈ serviceDelete o, IsKnown id w ∧ ¬ WantsService vc)
    (hans : (tracedCluster addressOf ns name).answer () ch w o = some (x, w')) : Fit vc id w' := by
  rcases traced_grows hans with ⟨hgrows, hasked⟩
  refine ⟨h.1.mono hgrows, fun hwants hask => ?_⟩
  rcases (hasked id).1 hask with hnew | hold
  · exact (hg id hnew).2 hwants
  · exact h.2 hwants hold

theorem ServiceKnown.answer {x : ScopedCall.Res o} (h : ServiceKnown tag w)
    (hg : ∀ id ∈ serviceDelete o, IsKnown id w)
    (hans : (tracedCluster addressOf ns name).answer () ch w o = some (x, w')) :
    ServiceKnown tag w' := by
  rcases traced_grows hans with ⟨hgrows, hasked⟩
  have hkept : Tagged tagServiceLoadBalancer tag (fun i => IsKnown i.id w') w.1.cloud :=
    fun b i hi htag => (h.tagged b i hi htag).mono hgrows
  refine ⟨?_, fun id hid => ?_⟩
  · have hans := (System.traced_answer hans).1
    rcases o with ⟨a, c⟩
    rcases verda_or_notVerda c with ⟨lb, c', rfl⟩ | hc
    · rcases clusterAnswer_verda hans with ⟨ch', hans', -⟩
      refine hkept.next (fun hkeep hi => ?_) fun b i' hi' => ?_
      · rw [hkeep.id]
        exact hi
      · rcases answer_instances hans' b i' hi' with hold | ⟨-, req, vs, -, hc, hmade⟩
        · exact .inl hold
        · exact .inr fun _ => ⟨(hc.unused i'.id List.mem_cons_self).1, _, hmade, rfl⟩
    · rw [(clusterAnswer_other hc hans).1]
      exact hkept
  · rcases (hasked id).1 hid with hnew | hold
    · exact (hg id hnew).mono hgrows
    · exact (h.asked id hold).mono hgrows

theorem ServiceKnown.drift {d : ClusterDrift} (h : ServiceKnown (clusterTagFor ns name) w)
    (hd : (tracedCluster addressOf ns name).drift d w = some w') :
    ServiceKnown (clusterTagFor ns name) w' ∧ w'.1.cloud.made = w.1.cloud.made ∧ w'.2 = w.2 := by
  rcases System.traced_drift hd with ⟨hd, hhist⟩
  rcases clusterDrift_instances hd with ⟨hmade, hrows⟩
  have hknown : ∀ id, IsKnown id w → IsKnown id w' := fun id h => h.mono fun e he => hmade ▸ he
  refine ⟨⟨?_, fun id hid => hknown id (h.asked id (hhist ▸ hid))⟩, hmade, hhist⟩
  intro b i' hi' htag
  rcases hrows b i' hi' with ⟨i, hi, hkeep⟩ | ⟨-, hnot⟩
  · rw [hkeep.id]
    exact hknown _ (h.tagged b i hi (hkeep.tagOf _ ▸ htag))
  · simp [hasClusterTag, htag] at hnot

/-! ## Passes -/

/-- There is no such instance, or a pass may take it. -/
def FitIfAny (vc : VerdaCluster) (id : String) (w : ClusterWorld × ClusterHistory) : Prop :=
  id ≠ "" → Fit vc id w

/-- The setting of a pass. Throughout the pass, what was recorded when it began may be taken. -/
abbrev togglesIn (addressOf : AccountID → String → String) (ns name : String) (vc : VerdaCluster) :
    Setting (ClusterWorld × ClusterHistory) ScopedCall ScopedCall.Res :=
  { (toggles addressOf ns name).setting () vc with
    inv := fun w => ((toggles addressOf ns name).setting () vc).inv w ∧ FitIfAny vc (serviceID vc) w }

/-- The setting of a pass, with the client of one account. -/
abbrev togglesAt (addressOf : AccountID → String → String) (ns name : String) (vc : VerdaCluster)
    (a : AccountID) : Setting (ClusterWorld × ClusterHistory) ClusterCall ClusterCall.Res :=
  atClient (togglesIn addressOf ns name vc) a

theorem toggles_lawful : (togglesAt addressOf ns name vc a).Lawful :=
  Setting.Lawful.atClient ⟨fun _ => ⟨fun _ he => he, rfl⟩,
    fun h h' => ⟨fun e he => h'.1 e (h.1 e he), h'.2.trans h.2⟩⟩

theorem fit_stable : (togglesAt addressOf ns name vc a).Stable (Fit vc id) := by
  rintro w w' h ⟨hgrows, hhist⟩ -
  refine ⟨h.1.mono hgrows, ?_⟩
  rw [hhist]
  exact h.2

theorem fitIfAny_stable : (togglesAt addressOf ns name vc a).Stable (FitIfAny vc id) :=
  fun w w' h hr hi hne => fit_stable w w' (h hne) hr hi

/-- A part that starts no `DeleteInstance`. -/
theorem toggles_frame (id : String) {α : Type} {p : ClusterM α} {A : ClusterCall → Prop} {R : α → Prop}
    (hp : p.Obeys A R) (hA : ∀ c, A c → serviceDelete (a, c) = none) (hw : FitIfAny vc id w) :
    p.wp (togglesAt addressOf ns name vc a) (fun r w => FitIfAny vc id w ∧ R r) w := by
  have hnone : ∀ {c : ClusterCall}, A c → ∀ {P : String → Prop}, ∀ x ∈ serviceDelete (a, c), P x := by
    intro c hc P x hx
    rw [hA c hc] at hx
    cases hx
  refine Prog.wp_frame hp fitIfAny_stable (fun w c hc _ _ => hnone hc) ?_ hw
  intro w c x w' hc hw _ hs _ hne
  rcases atClient_step.1 hs with ⟨-, ch, hans⟩
  exact (hw hne).step (hnone hc) hans

theorem notVerda_serviceDelete {c : ClusterCall} (h : NotVerda c) : serviceDelete (a, c) = none := by
  cases c with
  | verda lb c => exact absurd rfl (h lb c)
  | _ => rfl

theorem toggles_staysGood : StaysGood (togglesAt addressOf ns name vc a) fun inst => Fit vc inst.id where
  lawful := toggles_lawful
  stable _ := fit_stable
  aside {w c} hc id hid := by
    have hnone : serviceDelete (a, c) = none := notVerda_serviceDelete hc
    rw [hnone] at hid
    cases hid
  step {inst w c x w'} hc hw hs := by
    obtain ⟨-, ch, hans⟩ := atClient_step.1 hs
    refine hw.step (fun id hid => ?_) hans
    rw [notVerda_serviceDelete hc] at hid
    cases hid

/-- A step of the client is answered by the traced system, under the condition on listings. -/
theorem toggles_step {c : Call} {x : Call.Res c}
    (hs : (atVerda (togglesAt addressOf ns name vc a) .service).step w c x w') :
    startsClear.call () vc w (a, .verda .service c) ∧
      ∃ ch, (tracedCluster addressOf ns name).answer () ch w (a, .verda .service c) = some (x, w') :=
  atClient_step.1 (atVerda_step.1 hs)

theorem verdaFit_stable : (atVerda (togglesAt addressOf ns name vc a) .service).Stable (Fit vc id) :=
  fit_stable (a := a)

/-- Whatever the lookup returns, the pass may take. -/
theorem toggles_find (hid : serviceID vc' = serviceID vc) (htag : clusterTagValue vc' = clusterTagValue vc)
    (w : ClusterWorld × ClusterHistory) :
    (findServiceLoadBalancer vc').wp (atVerda (togglesAt addressOf ns name vc a) .service)
      (fun r w => ∀ inst, r = .ok (some inst) → Fit vc inst.id w) w := by
  have hnone : ∀ {c : Call} {P : String → Prop}, asksDelete c = none →
      ∀ x ∈ serviceDelete (a, .verda .service c), P x := by
    intro c P hc x hx
    rw [show serviceDelete (a, .verda .service c) = asksDelete c from rfl, hc] at hx
    cases hx
  rw [findServiceLoadBalancer, findInstanceByStatusOrTag_eq, htag]
  have hid : vc'.status.serviceLoadBalancer.instanceID = serviceID vc := hid
  rw [hid]
  refine wp_lookupInstance (fun r w w' h hr hi inst hinst => verdaFit_stable w w' (h inst hinst) hr hi) ?_
    (fun hne w x w' _ hi hs inst hinst => ?_) fun _ w x w' _ hi hs inst hinst => ?_
  · rintro w _ (rfl | rfl) - <;> exact hnone rfl
  · rcases toggles_step hs with ⟨-, ch, hans⟩
    have hfit : Fit vc (serviceID vc) w' := (hi.2 hne).step (hnone rfl) hans
    rcases pickByID_eq_some hinst with ⟨i, rfl, rfl⟩ | rfl
    · rcases clusterAnswer_verda (System.traced_answer hans).1 with ⟨ch', hans', -⟩
      rw [← (answer_fetched hans').2] at hfit
      exact hfit
    · exact hfit
  · rcases toggles_step hs with ⟨hcond, ch, hans⟩
    rcases clusterAnswer_verda (System.traced_answer hans).1 with ⟨ch', hans', -⟩
    rcases answer_instancesGet hans' with ⟨-, rfl | ⟨e, rfl⟩⟩
    · rcases pickLive_some hinst with ⟨i, hmem, htagged, hlive, rfl⟩
      have hfit : Fit vc i.id w :=
        ⟨hi.1.1.tagged a i hmem (htagged.trans hi.1.2.1), fun hwants =>
          hcond rfl hwants i hmem hlive htagged⟩
      exact hfit.step (hnone rfl) hans
    · cases hinst

/-- The instance found or created is one the pass may take. -/
theorem toggles_acquire (scripts : LBScripts) (cluster : Cluster) (keys : Keys)
    (hid : serviceID vc' = serviceID vc) (htag : clusterTagValue vc' = clusterTagValue vc)
    (w : ClusterWorld × ClusterHistory) :
    (acquireServiceLoadBalancer scripts cluster vc' keys).wp
      (atVerda (togglesAt addressOf ns name vc a) .service)
      (fun r w => ∀ inst, r.1 = .ok inst → Fit vc inst.id w) w := by
  have hS : (atVerda (togglesAt addressOf ns name vc a) .service).Lawful :=
    Setting.Lawful.atVerda toggles_lawful
  refine wp_findOrCreate (F := fun _ => True) hS (fun _ => verdaFit_stable)
    (Prog.wp_mono (fun _ _ _ h => ⟨fun _ => trivial, h⟩) (toggles_find hid htag w)) fun w _ _ => ?_
  refine wp_createInstance (P := fun _ => True) hS (fun _ _ _ _ _ => trivial)
    (fun r w w' h hr hi inst hinst => verdaFit_stable w w' (h inst hinst) hr hi)
    (fun e w inst hinst => by cases hinst) ?_ ?_ trivial
  · intro c w hc _ _
    refine ⟨fun id hid => ?_, fun _ _ _ _ _ => trivial⟩
    have hnone : serviceDelete (a, .verda .service c) = none := hc.asksDelete (by decide)
    rw [hnone] at hid
    cases hid
  · intro sid w _ hi
    refine ⟨fun id hid => (by cases hid), fun i w' hs _ sid' inst hinst => ?_⟩
    cases hinst
    rcases toggles_step hs with ⟨-, ch, hans⟩
    rcases traced_grows hans with ⟨-, hasked⟩
    rcases clusterAnswer_verda (System.traced_answer hans).1 with ⟨ch', hans', -⟩
    rcases answer_created hans' with ⟨vs, hc, hw⟩
    have hunused := hc.unused i.id List.mem_cons_self
    have hmade : (⟨.service, .instance_, a, i.id⟩ : Made LoadBalancer) ∈ w'.1.cloud.made := by
      rw [hw]
      exact (mem_create_made_instance rfl).2 (.inl rfl)
    show Fit vc i.id w'
    refine ⟨⟨hunused.1, _, hmade, rfl⟩, fun _ hask => ?_⟩
    -- its ID is new, so nothing was asked for it before
    rcases (hasked i.id).1 hask with hnew | hold
    · cases hnew
    · rcases hi.1.1.asked i.id hold with ⟨-, e, he, heq⟩
      exact hunused.2 e he heq

/-- An enabled pass records an instance that it may take. -/
theorem toggles_enable (scripts : LBScripts) (cluster : Cluster) (result : Result)
    (hsame : SameCluster vc vc') (hid : serviceID vc' = serviceID vc) (w : ClusterWorld × ClusterHistory) :
    (ClusterScope.enableService scripts cluster result vc').wp (togglesAt addressOf ns name vc a)
      (fun r w => SameCluster vc r.2 ∧ FitIfAny vc (serviceID r.2) w) w := by
  refine Prog.wp_mono ?_ (toggles_staysGood.enableService .trivial scripts cluster result
    (fun k w _ _ => toggles_acquire scripts cluster k hid hsame.tag w) trivial)
  rintro r w hi hr
  refine ⟨hsame.trans hr.same, ?_⟩
  obtain heq | ⟨inst, hinst, hrecord, -⟩ := hr.record
  · have hkept : serviceID r.2 = serviceID vc := (congrArg LoadBalancerStatus.instanceID heq).trans hid
    rw [hkept]
    exact hi.2
  · have hrecorded : serviceID r.2 = inst.id := hrecord
    rw [hrecorded]
    exact fun _ => hinst

/-- A teardown asks for the deletion of an instance that was handed out, and of no other. -/
theorem toggles_delete (now : Time) (hnot : ¬ WantsService vc) (hid : serviceID vc' = serviceID vc)
    (htag : clusterTagValue vc' = clusterTagValue vc) (w : ClusterWorld × ClusterHistory) :
    (deleteServiceLoadBalancer now vc').wp (atVerda (togglesAt addressOf ns name vc a) .service)
      (fun r _ => UnwindsLB .service vc' r.2) w := by
  have hS : (atVerda (togglesAt addressOf ns name vc a) .service).Lawful :=
    Setting.Lawful.atVerda toggles_lawful
  have hframe : ∀ {α : Type} {p : ClientM α} {M : List Method} {R : α → Prop}
      (w : ClusterWorld × ClusterHistory), p.Obeys (Uses M) R → .deleteInstance ∉ M →
      p.wp (atVerda (togglesAt addressOf ns name vc a) .service) (fun _ _ => True) w := by
    intro α p M R w hp hM
    refine Prog.wp_mono (fun _ _ _ _ => trivial) (Prog.wp_of_obeys hp fun w c hc _ id hid => ?_)
    have hnone : serviceDelete (a, .verda .service c) = none := hc.asksDelete hM
    rw [hnone] at hid
    cases hid
  refine Prog.wp_mono (fun _ _ _ h => h.2) (Prog.wp_and_obeys (Q := fun _ _ => True)
    (deleteServiceLoadBalancer_uses now vc') ?_)
  rw [deleteServiceLoadBalancer_eq]
  refine wp_teardown_keep hS .trivial trivial (toggles_find hid htag w) (fun inst w hfit => ?_)
    (fun id w => ?_) fun w _ => ?_
  · refine Prog.wp_mono (fun _ _ _ _ => trivial) (Prog.wp_frame (P := Fit vc inst.id)
      (deleteLive_requests (deleteInstance_asks inst.id)) verdaFit_stable ?_ ?_ hfit)
    · intro w c hc hfit _ id hid
      rw [hc id hid]
      exact ⟨hfit.1, hnot⟩
    · intro w c x w' hc hfit _ hs _
      rcases toggles_step hs with ⟨-, ch, hans⟩
      refine hfit.step (fun id hid => ?_) hans
      rw [hc id hid]
      exact ⟨hfit.1, hnot⟩
  · exact hframe w (purgeInstanceVolumes_uses id (M := [.purgeInstanceVolumes]) (by decide)) (by decide)
  · exact hframe w (deleteServiceLBScript_uses vc') (by decide)

/-- What is left recorded after a pass: what was recorded, or nothing. -/
def KeepsID (vc vc' : VerdaCluster) : Prop :=
  SameCluster vc vc' ∧ (serviceID vc' = serviceID vc ∨ serviceID vc' = "")

theorem KeepsID.fit (h : KeepsID vc vc') (hw : FitIfAny vc (serviceID vc) w) :
    FitIfAny vc (serviceID vc') w := by
  rcases h.2 with heq | heq
  · rw [heq]
    exact hw
  · exact fun hne => absurd heq hne

theorem toggles_disable (now : Time) (cluster : Cluster) (result : Result) (hnot : ¬ WantsService vc)
    (hsame : SameCluster vc vc') (hid : serviceID vc' = serviceID vc)
    (w : ClusterWorld × ClusterHistory) :
    (ClusterScope.disableService now cluster result vc').wp (togglesAt addressOf ns name vc a)
      (fun r _ => KeepsID vc r.2) w := by
  have hret : ∀ (r : Reply × VerdaCluster) (w : ClusterWorld × ClusterHistory), KeepsID vc r.2 →
      (Prog.ret r : ClusterM _).wp (togglesAt addressOf ns name vc a) (fun r _ => KeepsID vc r.2) w :=
    fun r w h _ _ _ => h
  unfold ClusterScope.disableService
  dsimp only
  split
  · refine Prog.wp_bind toggles_lawful (Prog.wp_mono ?_
      (wp_onVerda (toggles_delete now hnot hid hsame.tag w)))
    rintro ⟨e | (_ | _), vc₁⟩ w - hvc₁
    · exact hret _ w ⟨hsame.trans hvc₁.same, .inl (hvc₁.instanceID.trans hid)⟩
    · refine Prog.wp_bind toggles_lawful (Prog.wp_mono ?_ (toggles_frame ""
        (removeServiceLoadBalancerSecret_aside cluster) (fun _ h => notVerda_serviceDelete h.notVerda)
        fun hne => absurd rfl hne))
      intro _ w _ _
      refine hret _ w ⟨hsame.trans (hvc₁.same.trans ?_), .inr rfl⟩
      exact ⟨rfl, rfl, rfl, _, rfl⟩
    · exact hret _ w ⟨hsame.trans hvc₁.same, .inl (hvc₁.instanceID.trans hid)⟩
  · refine hret _ w ⟨hsame.trans ?_, .inl hid⟩
    exact ⟨rfl, rfl, rfl, _, rfl⟩

theorem toggles_reconcileDelete (now : Time) (hnot : ¬ WantsService vc)
    (w : ClusterWorld × ClusterHistory) :
    (ClusterScope.reconcileDelete now vc).wp (togglesAt addressOf ns name vc a)
      (fun r _ => KeepsID vc r.2) w := by
  refine Prog.wp_bind toggles_lawful (Prog.wp_mono ?_ (wp_onVerda (toggles_delete now hnot rfl rfl w)))
  rintro ⟨e | (_ | _), vc₁⟩ w - hvc₁
  · exact fun _ _ _ => ⟨hvc₁.same, .inl hvc₁.instanceID⟩
  · refine Prog.wp_mono ?_ (toggles_frame "" (obeys_onVerda (deleteLoadBalancer_uses now vc₁))
      (fun c hc => ?_) fun hne => absurd rfl hne)
    · rintro r w - ⟨-, hr⟩
      refine ⟨hvc₁.same.trans hr.same, .inl ?_⟩
      rw [serviceID, hr.other .service (by decide)]
      exact hvc₁.instanceID
    · cases c with
      | verda lb c =>
        rcases hc with ⟨rfl, -⟩
        rfl
      | _ => rfl
  · exact fun _ _ _ => ⟨hvc₁.same, .inl hvc₁.instanceID⟩

/-! ## Whole passes -/

theorem FitIfAny.not_asked (h : FitIfAny vc id w) (hw : ServiceKnown tag w) (hwants : WantsService vc) :
    ¬ ServiceAsked id w.2 := by
  intro hask
  have hne : id ≠ "" := (hw.asked id hask).1
  exact (h hne).2 hwants hask

/-- What a pass sends: the same cluster, with an instance that it may take, if with any. -/
def SendsFit (vc : VerdaCluster) (out : ClusterOutcome) (w : ClusterWorld × ClusterHistory) : Prop :=
  ∀ sent ∈ out.sent, SameCluster vc sent ∧ FitIfAny vc (serviceID sent) w

theorem sendsFit_patched {reply : Reply} {endpoint : Option (Reply × VerdaCluster)}
    (hsame : SameCluster vc vc') (hfit : FitIfAny vc (serviceID vc') w) :
    SendsFit vc (clusterPatched (reply, vc') endpoint) w := by
  intro sent hs
  cases hs
  have hpatch := patchVerdaCluster_reconditions vc'
  refine ⟨hsame.trans hpatch.same, ?_⟩
  rw [serviceID, hpatch.lbStatus]
  exact hfit

theorem toggles_startClusterPass (inp : ClusterInput) (hw : FitIfAny vc (serviceID vc) w) :
    (startClusterPass inp vc).wp (togglesIn addressOf ns name vc) (SendsFit vc) w := by
  have hS : (togglesIn addressOf ns name vc).Lawful :=
    ⟨fun _ => ⟨fun _ he => he, rfl⟩, fun h h' => ⟨fun e he => h'.1 e (h.1 e he), h'.2.trans h.2⟩⟩
  refine startClusterPass_cases (P := fun pass => pass.wp _ (SendsFit vc) w) inp vc ?_ ?_ ?_
  · intro out _ hsent w' _ hi sent hs
    rcases hsent sent hs with ⟨hsame, hstatus⟩
    refine ⟨hsame, ?_⟩
    rw [serviceID, hstatus]
    exact hi.2
  · intro hdel
    have hnot : ¬ WantsService vc := fun h => hdel h.1
    refine wp_runClusterDelete (Prog.wp_mono ?_ (toggles_reconcileDelete inp.now hnot w))
    intro r w hi hr
    exact sendsFit_patched hr.1 (hr.fit hi.2)
  · intro cluster _
    refine wp_runClusterNormal hS (Prog.wp_mono ?_ (toggles_frame (serviceID vc)
      (reconcileEndpoint_obeys inp.scripts cluster vc fun keys => Prog.obeys_true _) (fun c hc => ?_) hw))
    · rintro ⟨reply, vc₁⟩ w hi ⟨hfit, hsame, hstatus⟩
      have hid : serviceID vc₁ = serviceID vc := congrArg LoadBalancerStatus.instanceID hstatus
      rcases reply with e | result
      · refine Prog.wp_ret (P := FitIfAny vc (serviceID vc)) fitIfAny_stable hfit fun _ h _ => ?_
        exact sendsFit_patched hsame (hid ▸ h)
      · simp only [ClusterScope.reconcileService]
        split
        · rename_i hoff
          have hnot : ¬ WantsService vc := by
            rintro ⟨-, hon⟩
            rw [hsame.serviceEnabled, hon] at hoff
            cases hoff
          refine Prog.wp_mono ?_ (toggles_disable inp.now cluster result hnot hsame hid w)
          intro r w hi hr
          exact sendsFit_patched hr.1 (hr.fit hi.2)
        · refine Prog.wp_mono ?_ (toggles_enable inp.scripts cluster result hsame hid w)
          rintro r w - ⟨hsame', hfit'⟩
          exact sendsFit_patched hsame' hfit'
    · cases c with
      | verda lb c =>
        rcases hc with ⟨rfl, -⟩
        rfl
      | _ => rfl

theorem toggles_valid : (toggles addressOf ns name).Valid where
  refl _ _ := ⟨fun _ he => he, rfl⟩
  trans _ {_ _ _} h h' := ⟨fun e he => h'.1 e (h.1 e he), h'.2.trans h.2⟩
  drift {d w w'} hinv hd := by
    rcases hinv.drift hd with ⟨hinv', hmade, hhist⟩
    have hgrows : ∀ e ∈ w.1.cloud.made, e ∈ w'.1.cloud.made := fun e he => hmade ▸ he
    exact ⟨hinv', fun _ => ⟨fun _ => ⟨hgrows, hhist⟩,
      fun vc h => ⟨h.1, fun hne => (h.2 hne).mono hgrows⟩⟩⟩
  edit _ he := editCluster_touched he
  touched {i vc vc' w} _ hloc h := by
    have hid : serviceID vc' = serviceID vc :=
      congrArg LoadBalancerStatus.instanceID (ClusterTouched.lbStatus h .service)
    refine ⟨(ClusterTouched.tag h).trans hloc.1, ?_⟩
    rw [hid]
    exact hloc.2
  merge h _ := (ClusterTouched.persist h _ _ _).imp fun _ hq => ⟨trivial, hq.2⟩
  call {i vc c w o x w'} hinv hloc _ hg hans :=
    ⟨hinv.answer (fun id hid => (hg id hid).1) hans,
      ⟨hloc.1, fun hne => (hloc.2 hne).mono (traced_grows hans).1⟩, fun j hj => absurd rfl hj⟩
  pass {i inp vc w} _ hloc hstart := by
    have hfit : FitIfAny vc (serviceID vc) w := fun hne => ⟨hloc.2 hne, hstart⟩
    refine Invariant.wp_persist (Prog.wp_mono ?_ (Prog.wp_assume ?_ ?_ hfit
      (toggles_startClusterPass inp hfit)))
    rotate_left
    · rintro w w' h ⟨hgrows, hhist⟩ - hne
      exact ⟨(h hne).1.mono hgrows, hhist ▸ (h hne).2⟩
    · rintro w o x w' h hg ⟨-, ch, hans⟩ hne
      exact (h hne).step hg hans
    rintro out w hi ⟨hsends, hfit⟩
    refine ⟨fun hwants => ⟨hfit.not_asked hi.1 hwants, fun sent hs =>
      (hsends sent hs).2.not_asked hi.1 hwants⟩, fun p => ?_⟩
    refine ⟨(persistCluster_same (fun sent hs => (hsends sent hs).1) p).tag.trans hi.2.1, ?_⟩
    show serviceID (persistCluster p vc vc out) ≠ "" → IsKnown (serviceID (persistCluster p vc vc out)) w
    rcases persistCluster_lbStatus p vc vc out .service with heq | ⟨sent, hs, heq⟩
    · rw [serviceID, heq]
      exact hi.2.2
    · rw [serviceID, heq]
      exact fun hne => ((hsends sent hs).2 hne).1

end

/-- **Re-enabling yields a fresh instance**: when a pass that began with the service load balancer enabled
has returned, neither the stored cluster nor what the pass sends records an instance for which
`DeleteInstance` was called. The load balancer is switched off and on at any time; but in every such pass
the recorded instance was none of these when it began, and no listing by tag shows one of them live. -/
theorem reenabled_records_fresh {addressOf : AccountID → String → String} {ns name : String}
    {s₀ s : TracedClusterState} (h₀ : ClusterInitial addressOf ns name s₀.untraced)
    (hempty : s₀.world.2 = []) (h : Reach (tracedCluster addressOf ns name) startsClear s₀ s)
    {out : ClusterOutcome} (hrun : s.run () = some (.ret out)) (hwants : WantsService (s.seen ())) :
    ¬ ServiceAsked (s.obj ()).status.serviceLoadBalancer.instanceID s.world.2 ∧
      ∀ sent, out.sent = some sent →
        ¬ ServiceAsked sent.status.serviceLoadBalancer.instanceID s.world.2 := by
  have hholds : (toggles addressOf ns name).Holds s := by
    refine Invariant.sound toggles_valid ⟨?_, ?_⟩ (fun _ => ⟨h₀.tag, ?_⟩) (fun _ => h₀.idle) h
    · intro b i hi htag
      have hnot := h₀.untagged b i hi
      simp [hasClusterTag, htag] at hnot
    · rintro id ⟨e, he, -⟩
      rw [hempty] at he
      cases he
    · intro hne
      exact absurd (congrArg (fun status => status.serviceLoadBalancer.instanceID) h₀.status) hne
  have hdone := hholds.done toggles_valid hrun hwants
  have htouched : ClusterTouched (s.seen ()) (s.obj ()) := .of_edited (hholds.run () _ hrun).edited
  refine ⟨?_, hdone.2⟩
  rw [htouched.status]
  exact hdone.1

/-! ## Runs of the sample cluster -/

/-- The service load balancer is created, recorded, and switched off; the next pass calls
`DeleteInstance`, which reads the instance and shuts it down. -/
def createAndDisable : List ClusterMove :=
  createsLB .service "x1" "provisioning" ++
    [.finish () {}, switchService (clusterWith {} enabledLB) {}, .start () clusterInput] ++
    verdaAccepts 3 ++ [.finish () {}]

/-- A pass with the load balancer enabled has returned and sends this instance, for which
`DeleteInstance` was called, or not. -/
def sendsService (id : String) (asked : Bool) (s : TracedClusterState) : Bool :=
  decide (WantsService (s.seen ())) && (decide (ServiceAsked id s.world.2) == asked) &&
    (returnedCluster s).any fun out => out.sent.any fun sent =>
      sent.status.serviceLoadBalancer.instanceID == id

theorem sendsService_iff {id : String} {asked : Bool} {s : TracedClusterState}
    (h : sendsService id asked s = true) : WantsService (s.seen ()) ∧
      (ServiceAsked id s.world.2 ↔ asked = true) ∧ ∃ out sent, s.run () = some (.ret out) ∧
        out.sent = some sent ∧ sent.status.serviceLoadBalancer.instanceID = id := by
  simp only [sendsService, Bool.and_eq_true, decide_eq_true_eq, beq_iff_eq] at h
  rcases h with ⟨⟨hwants, hasked⟩, hout⟩
  rcases returnedCluster_any hout with ⟨out, hrun, hsent⟩
  rcases (Option.any_eq_true_iff_get _ _).1 hsent with ⟨hsome, hid⟩
  refine ⟨hwants, ?_, out, out.sent.get hsome, hrun, (Option.some_get hsome).symm, by simpa using hid⟩
  rw [← hasked, decide_eq_true_eq]

/-- The load balancer is switched on during the last pass of the teardown: the next pass creates another
instance. -/
theorem reenabled_records_fresh_sample : ∃ (s : TracedClusterState) (out : ClusterOutcome)
    (sent : VerdaCluster), WantsService (s.seen ()) ∧ ServiceAsked "x1" s.world.2 ∧
      s.run () = some (.ret out) ∧ out.sent = some sent ∧
      sent.status.serviceLoadBalancer.instanceID = "x2" ∧
      ¬ ServiceAsked sent.status.serviceLoadBalancer.instanceID s.world.2 := by
  obtain ⟨s, hs, hgood⟩ := exists_reach_meeting (tracedCluster sampleAddress "default" "c0")
    startsClear (clusterState (clusterWith {} enabledLB)).traced
    (fun s => sendsService "x2" false s && decide (ServiceAsked "x1" s.world.2))
    (createAndDisable ++ [relistLB [] List.nodup_nil, .start () clusterInput] ++ verdaAccepts 2 ++
      [.drift (.reach false), .answer () (.reply (.kubeconfigFromSecret "default" "c0")
        (.error ⟨.other, "not found"⟩)), switchService (clusterWith {} {}) enabledLB, .finish () {}] ++
      createsLB .service "x2" "provisioning")
    (by decide +kernel)
  rcases Bool.and_eq_true_iff.1 hgood with ⟨hsends, hasked⟩
  rcases sendsService_iff hsends with ⟨hwants, -, out, sent, hrun, hsent, hid⟩
  refine ⟨s, out, sent, hwants, by simpa using hasked, hrun, hsent, hid, ?_⟩
  exact (reenabled_records_fresh (clusterState_initial rfl rfl rfl) rfl hs hrun hwants).2 sent hsent

/-- The load balancer is switched on while the instance still shuts down: the next pass looks the
recorded instance up and keeps it. -/
theorem reenabled_records_deleted : ∃ (s₀ s : TracedClusterState) (out : ClusterOutcome)
    (sent : VerdaCluster), ClusterInitial sampleAddress "default" "c0" s₀.untraced ∧
      s₀.world.2 = [] ∧ Reach (tracedCluster sampleAddress "default" "c0") {} s₀ s ∧
      WantsService (s.seen ()) ∧ s.run () = some (.ret out) ∧ out.sent = some sent ∧
      ServiceAsked sent.status.serviceLoadBalancer.instanceID s.world.2 := by
  obtain ⟨s, hs, hbad⟩ := exists_reach_of_run (tracedCluster sampleAddress "default" "c0")
    (clusterState (clusterWith {} enabledLB)).traced (sendsService "x1" true)
    (createAndDisable ++ [switchService (clusterWith {} {}) enabledLB, .start () clusterInput,
      keysFound "c0-service-lb-ssh"] ++ verdaAccepts 1)
    (by decide +kernel)
  rcases sendsService_iff hbad with ⟨hwants, hasked, out, sent, hrun, hsent, hid⟩
  refine ⟨(clusterState (clusterWith {} enabledLB)).traced, s, out, sent, clusterState_initial rfl rfl rfl,
    rfl, hs, hwants, hrun, hsent, ?_⟩
  rw [hid]
  exact hasked.2 rfl

end VerdaCapi.Controller
