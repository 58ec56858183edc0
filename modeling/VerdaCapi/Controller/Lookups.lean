import VerdaCapi.Cloud.Scan
import VerdaCapi.Controller.ClusterAdmission
import VerdaCapi.Controller.MachineAdmission

/-!
# The three instance lookups

`findInstance`, `findInstanceByStatusOrTag` and `findLoadBalancer` look an instance up by its recorded
ID, or else by a tag. The first two pass over a tagged instance that is gone, so that a new one is
created. `findLoadBalancer` returns it, and it is recorded for good.

`lookups_agree_iff` says on which clouds the three agree, and what follows for the passes that use
them. `recordsDead` is a pass that records a dead load balancer.
-/

namespace VerdaCapi.Controller

open Remote Go Api Cloud

/-- The instance carries this tag. -/
abbrev wantsTag (key tag : String) (inst : Instance) : Bool := inst.tags.get key == tag

/-- The result of `findInstanceByStatusOrTag` from the answer to its listing. -/
def pickLive (key tag : String) : Pick
  | .ok instances =>
    match scan (wantsTag key tag) none instances with
    | some inst => if instanceGone inst then .ok none else .ok (some inst)
    | none => .ok none
  | .error e => .error (.wrap "listing instances" (.ofApi e))

/-- `findInstanceByStatusOrTag` issues one request and returns. -/
theorem findInstanceByStatusOrTag_eq (id key tag : String) :
    findInstanceByStatusOrTag id key tag = lookupInstance id (pickLive key tag) := by
  refine findByIDOrTag_eq (fun _ => rfl) fun is => ?_
  simp only [pickLive]
  cases scan (wantsTag key tag) none is with
  | none => rfl
  | some inst => exact apply_ite Prog.ret ..

/-! ## What the listings show -/

/-- If an instance carries the tag, then the first such one that is not discontinued is live. -/
def FindsLive (key tag : String) (is : List Sdk.Instance) : Prop :=
  (∃ i ∈ is, tagOf i key = tag) → ∃ i ∈ firstUp (wantsTag key tag) is, isGone i = false

/-- All instances that carry the tag are gone. -/
def OnlyGone (key tag : String) (is : List Sdk.Instance) : Prop :=
  ∀ i ∈ is, tagOf i key = tag → isGone i = true

section

variable {key tag : String} {is : List Sdk.Instance}

theorem wantsTag_iff {i : Sdk.Instance} : wantsTag key tag (toInstance i) = true ↔ tagOf i key = tag := by
  simp [wantsTag, tagOf]

/-- The scan does not return a gone instance exactly when it finds a live one or none. -/
theorem findsLive_iff : FindsLive key tag is ↔
    ∀ inst, scan (wantsTag key tag) none is = some inst → instanceGone inst = false := by
  rw [scan_none_eq]
  constructor
  · intro hfinds inst hinst
    rcases Option.map_eq_some_iff.1 hinst with ⟨i, hi, rfl⟩
    have htagged : ∃ j ∈ is, tagOf j key = tag := by
      rcases Option.or_eq_some_iff.1 hi with hup | ⟨-, hlast⟩
      · exact ⟨i, (mem_of_firstUp hup).1, wantsTag_iff.1 (mem_of_firstUp hup).2.1⟩
      · exact ⟨i, (mem_of_lastWanted hlast).1, wantsTag_iff.1 (mem_of_lastWanted hlast).2⟩
    rcases hfinds htagged with ⟨j, hj, hlive⟩
    rw [Option.mem_def.1 hj, Option.some_or] at hi
    cases hi
    exact hlive
  · rintro hscan ⟨j, hj, htag⟩
    cases hup : (firstUp (wantsTag key tag) is).or (lastWanted (wantsTag key tag) is) with
    | none =>
      have hnone := lastWanted_eq_none_iff.1 (Option.or_eq_none_iff.1 hup).2 j hj
      rw [wantsTag_iff.2 htag] at hnone
      cases hnone
    | some i =>
      have hlive : isGone i = false := hscan _ (Option.map_eq_some_iff.2 ⟨i, hup, rfl⟩)
      exact ⟨i, (scan_eq_live_iff hlive).1 hup, hlive⟩

/-- The two ways to read a listing agree exactly when it has no dead instance in front. -/
theorem pickLoadBalancer_eq_pickLive_iff :
    pickLoadBalancer tag (.ok is) = pickLive tagLoadBalancer tag (.ok is) ↔
      FindsLive tagLoadBalancer tag is := by
  rw [findsLive_iff]
  simp only [pickLoadBalancer, pickLive]
  cases scan (fun inst => inst.tags.get tagLoadBalancer == tag) none is with
  | none => simp
  | some inst => cases hgone : instanceGone inst <;> simp [hgone]

/-- What the lookup finds is listed under the tag and live. -/
theorem pickLive_some {inst : Instance} (h : pickLive key tag (.ok is) = .ok (some inst)) :
    ∃ i ∈ is, tagOf i key = tag ∧ isGone i = false ∧ inst = toInstance i := by
  simp only [pickLive] at h
  split at h
  · rename_i found hscan
    split at h
    · cases h
    · rename_i hlive
      cases h
      rcases scan_eq_some hscan with ⟨i, hi, hwant, rfl⟩
      exact ⟨i, hi, wantsTag_iff.1 hwant, Bool.eq_false_iff.2 hlive, rfl⟩
  · cases h

/-- Where all are gone, the lookup finds none. -/
theorem pickLive_eq_some {x : Except Sdk.ApiErr (List Sdk.Instance)} {inst : Instance}
    (h : pickLive key tag x = .ok (some inst)) :
    ∃ is, x = .ok is ∧ ∃ i ∈ is, tagOf i key = tag ∧ inst = toInstance i := by
  rcases x with e | is
  · cases h
  · rcases pickLive_some h with ⟨i, hi, htag, -, heq⟩
    exact ⟨is, rfl, i, hi, htag, heq⟩

theorem pickLive_of_onlyGone (h : OnlyGone key tag is) : pickLive key tag (.ok is) = .ok none := by
  simp only [pickLive]
  cases hscan : scan (wantsTag key tag) none is with
  | none => rfl
  | some inst =>
    rcases scan_eq_some hscan with ⟨i, hi, hwant, rfl⟩
    have hgone : instanceGone (toInstance i) = true := h i hi (wantsTag_iff.1 hwant)
    simp [hgone]

end

/-! ## What the passes record -/

/-- The listings among these answers show this. -/
def Lists (P : List Sdk.Instance → Prop) (tr : Answers) : Prop :=
  ∀ is, ⟨tagListing, .ok is⟩ ∈ tr → P is

/-- The instance created is recorded; without one the pass fails and records none. -/
def RecordsCreated {β : Type} (reply : Except Err β) (id : String) (tr : Answers) : Prop :=
  match created tr with
  | some inst => id = inst.id
  | none => id = "" ∧ ∃ e, reply = .error e

section

variable {β : Type} {pick : Pick} {t tr : Answers} {r : Except Err Instance}
  {vc vc' : VerdaCluster}

theorem Lists.left {P : List Sdk.Instance → Prop} {t t' : Answers} (h : Lists P (t ++ t')) :
    Lists P t :=
  fun is his => h is (List.mem_append_left _ his)

/-- A lookup without a recorded ID, on listings of which it picks none. -/
theorem lookupInstance_runs {found : Except Err (Option Instance)}
    (hlists : Lists (fun is => pick (.ok is) = .ok none) t)
    (herror : ∀ e, ∃ e', pick (.error e) = .error e')
    (h : (lookupInstance "" pick).Runs t found) :
    created t = none ∧ (found = .ok none ∨ ∃ e, found = .error e) := by
  rw [lookupInstance, if_neg (by simp)] at h
  rcases Prog.runs_call_iff.1 h with ⟨x, t', rfl, hret⟩
  rcases Prog.runs_ret_iff.1 hret with ⟨rfl, rfl⟩
  refine ⟨rfl, ?_⟩
  rcases x with e | is
  · exact .inr (herror e)
  · exact .inl (hlists is List.mem_cons_self)

/-- What a load balancer is acquired as, when its lookup picks none: what is created. -/
theorem acquire_created {create : ClientM (Except Err Instance)} {failed : Err → VerdaCluster}
    (hcreate : ∀ {t r}, create.Runs t r → Matches r (created t))
    (hlists : Lists (fun is => pick (.ok is) = .ok none) t)
    (herror : ∀ e, ∃ e', pick (.error e) = .error e')
    (h : (do match ← lookupInstance "" pick with
              | .error e => return (.error e, vc)
              | .ok (some inst) => return (.ok inst, vc)
              | .ok none =>
                match ← create with
                | .error e => return (.error e, failed e)
                | .ok inst => return (.ok inst, vc) :
      ClientM (Except Err Instance × VerdaCluster)).Runs t (r, vc')) :
    Matches r (created t) := by
  rcases Prog.runs_bind_iff.1 h with ⟨t₁, found, t₂, rfl, hfind, h₁⟩
  rcases lookupInstance_runs hlists.left herror hfind with ⟨hnone, rfl | ⟨e, rfl⟩⟩
  · rw [created_append, hnone, Option.none_or]
    rcases Prog.runs_bind_iff.1 h₁ with ⟨t₃, result, t₄, rfl, hrun, h₄⟩
    have hmatch := hcreate hrun
    rcases result with e | inst
    · rcases Prog.runs_ret_iff.1 h₄ with ⟨rfl, hr⟩
      cases hr
      rw [List.append_nil]
      exact hmatch
    · rcases Prog.runs_ret_iff.1 h₄ with ⟨rfl, hr⟩
      cases hr
      rw [List.append_nil]
      exact hmatch
  · rcases Prog.runs_ret_iff.1 h₁ with ⟨rfl, hr⟩
    cases hr
    rw [List.append_nil, hnone]
    trivial

/-- A pass over a load balancer that acquires what it creates records that. -/
theorem reconcile_created (lb : LoadBalancer) {cluster : Cluster} {name : String}
    {acquire : Keys → ClientM (Except Err Instance × VerdaCluster)}
    {settle : VerdaCluster → Keys → Instance → ClusterM (Except Err β × VerdaCluster)}
    {tr : ClusterAnswers} {reply : Except Err β} {P : List Sdk.Instance → Prop}
    (hid : (lbStatus vc lb).instanceID = "")
    (hacquire : ∀ {keys t r vc₁}, Lists P t → (acquire keys).Runs t (r, vc₁) → Matches r (created t))
    (hkeeps : ∀ keys, (acquire keys).Obeys (fun _ => True) fun r => Reconditions vc r.2)
    (hsettle : ∀ vc₁ keys inst,
      (settle vc₁ keys inst).Obeys (Aside lb) fun r => SettlesLB lb inst vc₁ r.2)
    (hlists : Lists P (verdaAnswers tr))
    (h : (provideLB lb cluster vc name acquire settle).Runs tr (reply, vc')) :
    RecordsCreated reply (lbStatus vc' lb).instanceID (verdaAnswers tr) := by
  rcases Prog.runs_bind_iff.1 h with ⟨t₁, keys?, t₂, rfl, hkeys, h₁⟩
  rw [verdaAnswers_append, verdaAnswers_eq_nil (ensureKeys_aside lb cluster vc _) hkeys,
    List.nil_append] at hlists ⊢
  rcases keys? with e | keys
  · rcases Prog.runs_ret_iff.1 h₁ with ⟨rfl, hr⟩
    cases hr
    exact ⟨hid, e, rfl⟩
  · rcases Prog.runs_bind_iff.1 h₁ with ⟨t₃, ⟨r, vc₁⟩, t₄, rfl, hrun, h₂⟩
    rw [verdaAnswers_append] at hlists ⊢
    have hmatch := hacquire hlists.left (runs_onVerda hrun)
    have hvc₁ := (runs_onVerda hrun).obeys (hkeeps keys)
    rcases r with e | inst
    · rcases Prog.runs_ret_iff.1 h₂ with ⟨rfl, hr⟩
      cases hr
      rw [show verdaAnswers [] = [] from rfl, List.append_nil, RecordsCreated, hmatch.none]
      exact ⟨by rw [hvc₁.lbStatus, hid], e, rfl⟩
    · rcases hmatch.some with ⟨i, sid, hi, rfl⟩
      rw [RecordsCreated, created_append, hi]
      exact (h₂.obeys (hsettle vc₁ keys _)).instanceID

/-- A normal machine pass without a recorded instance records what it creates, if anything. -/
theorem reconcileNormal_created {boot : BootstrapInput} {cluster : Cluster} {machine : Machine}
    {vm vm' : VerdaMachine} {reply : Reply} (hid : vm.status.instanceID = "")
    (hlists : Lists (OnlyGone tagMachine (machineTagValue vm)) tr)
    (h : (reconcileNormal boot cluster vc machine vm).Runs tr (reply, vm')) :
    vm'.status.instanceID = "" ∨ ∃ inst, created tr = some inst ∧ vm'.status.instanceID = inst.id := by
  unfold reconcileNormal at h
  split at h
  · exact .inl ((h.obeys (resyncInstance_uses vm)).2.2.1.trans hid)
  · split at h
    · rcases Prog.runs_ret_iff.1 h with ⟨-, hr⟩
      cases hr
      exact .inl hid
    · split at h
      · rcases Prog.runs_ret_iff.1 h with ⟨-, hr⟩
        cases hr
        exact .inl hid
      · rcases Prog.runs_bind_iff.1 h with ⟨t₁, ⟨r, vm₁⟩, t₂, rfl, hacquire, h₂⟩
        have hid₁ : vm₁.status.instanceID = "" := by
          rcases hacquire.obeys (acquireInstance_uses boot cluster vc machine vm) with ⟨_, _, heq⟩
          rw [show vm₁ = _ from heq]
          exact hid
        rcases r with reply₁ | inst
        · rcases Prog.runs_ret_iff.1 h₂ with ⟨-, hr⟩
          cases hr
          exact .inl hid₁
        · -- the lookup finds none, so the instance is the one created
          rcases Prog.runs_bind_iff.1 hacquire with ⟨t, found, t', rfl, hfind, h₁⟩
          rw [findInstance_eq, hid] at hfind
          rcases lookupInstance_runs (fun is his => pickLive_of_onlyGone (hlists.left.left is his))
            (fun e => ⟨_, rfl⟩) hfind with ⟨hnone, rfl | ⟨e, rfl⟩⟩
          · have hmatch : Matches (.ok inst) (created t') := acquireInstance_creates h₁
            rcases hmatch.some with ⟨i, sid, hi, rfl⟩
            rcases (h₂.obeys (settleInstance_uses vc vm₁ _)).instanceID with hrec | hrec
            · refine .inr ⟨i, ?_, hrec⟩
              rw [created_append, created_append, hnone, hi]
              rfl
            · exact .inl hrec
          · rcases Prog.runs_ret_iff.1 h₁ with ⟨-, hr⟩
            cases hr

end

/-- **The three lookups agree** exactly when `findLoadBalancer` is not shown a dead instance under its
tag. Where only gone instances carry the tag and no ID is recorded, the passes of the service load
balancer and of the machine record what they create, and under that condition so does the pass of the
control plane load balancer. -/
theorem lookups_agree_iff (vc : VerdaCluster) (vm : VerdaMachine) :
    (∀ view : (c : Call) → Call.Res c,
      ((findInstance vm).eval view =
          (findInstanceByStatusOrTag vm.status.instanceID tagMachine (machineTagValue vm)).eval view ∧
        (findLoadBalancer vc).eval view =
          (findInstanceByStatusOrTag vc.status.loadBalancer.instanceID tagLoadBalancer
            (clusterTagValue vc)).eval view) ↔
        (vc.status.loadBalancer.instanceID = "" → ∀ is, view tagListing = .ok is →
          FindsLive tagLoadBalancer (clusterTagValue vc) is)) ∧
    (∀ scripts cluster tr reply vc', (reconcileLoadBalancer scripts cluster vc).Runs tr (reply, vc') →
      vc.status.loadBalancer.instanceID = "" →
      Lists (fun is => OnlyGone tagLoadBalancer (clusterTagValue vc) is ∧
        FindsLive tagLoadBalancer (clusterTagValue vc) is) (verdaAnswers tr) →
      RecordsCreated reply vc'.status.loadBalancer.instanceID (verdaAnswers tr)) ∧
    (∀ scripts cluster tr reply vc',
      (reconcileServiceLoadBalancer scripts cluster vc).Runs tr (reply, vc') →
      vc.status.serviceLoadBalancer.instanceID = "" →
      Lists (OnlyGone tagServiceLoadBalancer (clusterTagValue vc)) (verdaAnswers tr) →
      RecordsCreated reply vc'.status.serviceLoadBalancer.instanceID (verdaAnswers tr)) ∧
    (∀ boot cluster machine tr reply vm', (reconcileNormal boot cluster vc machine vm).Runs tr (reply, vm') →
      vm.status.instanceID = "" → Lists (OnlyGone tagMachine (machineTagValue vm)) tr →
      vm'.status.instanceID = "" ∨
        ∃ inst, created tr = some inst ∧ vm'.status.instanceID = inst.id) := by
  refine ⟨fun view => ?_, ?_, ?_, ?_⟩
  · -- the machine's lookup is the generic one, whatever the cloud answers
    have hmachine : findInstance vm =
        findInstanceByStatusOrTag vm.status.instanceID tagMachine (machineTagValue vm) := by
      rw [findInstance_eq, findInstanceByStatusOrTag_eq]
      rfl
    rw [hmachine, findLoadBalancer_eq, findInstanceByStatusOrTag_eq _ tagLoadBalancer]
    simp only [lookupInstance, true_and]
    by_cases hid : vc.status.loadBalancer.instanceID = ""
    · simp only [hid, ne_eq, not_true_eq_false, if_false, Prog.eval, true_implies]
      cases hview : view tagListing with
      | error e => simp [pickLoadBalancer, pickLive]
      | ok is =>
        rw [pickLoadBalancer_eq_pickLive_iff]
        constructor
        · intro hlive is' his
          cases his
          exact hlive
        · exact fun hlive => hlive is rfl
    · simp [hid]
  · intro scripts cluster tr reply vc' hrun hid hlists
    refine reconcile_created .controlPlane hid ?_ (acquireLoadBalancer_keeps scripts cluster vc)
      (settleLoadBalancer_settles cluster) hlists hrun
    intro keys t r vc₁ hlists hacquire
    unfold acquireLoadBalancer at hacquire
    rw [findLoadBalancer_eq, hid] at hacquire
    refine acquire_created (fun h => createInstance_runs h) (fun is his => ?_) (fun e => ⟨_, rfl⟩)
      hacquire
    rcases hlists is his with ⟨hgone, hlive⟩
    rw [pickLoadBalancer_eq_pickLive_iff.2 hlive]
    exact pickLive_of_onlyGone hgone
  · intro scripts cluster tr reply vc' hrun hid hlists
    refine reconcile_created .service hid ?_ (acquireServiceLoadBalancer_keeps scripts cluster vc)
      (settleServiceLoadBalancer_settles cluster) hlists hrun
    intro keys t r vc₁ hlists hacquire
    unfold acquireServiceLoadBalancer findServiceLoadBalancer at hacquire
    rw [findInstanceByStatusOrTag_eq, hid] at hacquire
    exact acquire_created (fun h => createInstance_runs h)
      (fun is his => pickLive_of_onlyGone (hlists is his)) (fun e => ⟨_, rfl⟩) hacquire
  · intro boot cluster machine tr reply vm' hrun hid hlists
    exact reconcileNormal_created hid hlists hrun

/-- The keys are there, and the load balancer of an earlier cluster of the same name is discontinued. -/
def leftover : ClusterAnswers :=
  [⟨.secret (.get "default" "c0-lb-ssh"), .ok
      { ns := "default", name := "c0-lb-ssh",
        data := [(secretKeyClientPrivate, [1]), (secretKeyClientPublic, [1]),
          (secretKeyHostPrivate, [1]), (secretKeyHostPublic, [1])] }⟩,
    ⟨.verda .controlPlane tagListing, .ok
      [{ id := "old", hostname := "c0-lb", status := statusDiscontinued,
         tags := [⟨tagLoadBalancer, "default/c0"⟩] }]⟩]

/-- A new cluster without a recorded load balancer records the dead one. -/
theorem recordsDead : ∃ (vc vc' : VerdaCluster) (reply : Reply),
    vc.status = {} ∧ (reconcileLoadBalancer sampleScripts sampleOwner vc).Runs leftover (reply, vc') ∧
      created (verdaAnswers leftover) = none ∧ vc'.status.loadBalancer.instanceID = "old" := by
  obtain ⟨⟨reply, vc'⟩, hrun, hbad⟩ := Prog.exists_runs_of_replay
    (reconcileLoadBalancer sampleScripts sampleOwner (sampleCluster {})) leftover
    (fun r => r.2.status.loadBalancer.instanceID == "old") (by decide +kernel)
  exact ⟨sampleCluster {}, vc', reply, rfl, hrun, rfl, by simpa using hbad⟩

end VerdaCapi.Controller
