import VerdaCapi.Controller.ClusterRules

/-!
# What passes record

A pass records the IDs of an instance and of its startup script, for a machine and for either load
balancer of a cluster. All of these records come about in the same way: the IDs are those of an instance
that was found or created, they are kept, or they are forgotten. `TracksMachine` and `TracksLBs` say what
has to be known of the programs of a pass so that a property of the IDs carries over to what the pass
sends.
-/

namespace VerdaCapi.Controller

open Remote Go Api Cloud

variable {W : Type}

/-- The property of instance IDs and the one of script IDs hold of these two. -/
structure Tracked (Own OwnScript : String → W → Prop) (id sid : String) (w : W) : Prop where
  id : Own id w
  script : OwnScript sid w

/-- Nothing breaks the two properties, and they hold where nothing is recorded. -/
structure KeepsIDs {Op : Type} {Res : Op → Type} (S : Setting W Op Res)
    (Own OwnScript : String → W → Prop) : Prop where
  id : ∀ id, S.Keeps (Own id)
  script : ∀ sid, S.Keeps (OwnScript sid)
  noID : ∀ w, Own "" w
  noScript : ∀ w, OwnScript "" w

/-- What is tracked stays so as long as the IDs are kept. -/
theorem KeepsIDs.tracked {Op : Type} {Res : Op → Type} {S : Setting W Op Res}
    {Own OwnScript : String → W → Prop} (h : KeepsIDs S Own OwnScript) (id sid : String) :
    S.Keeps (Tracked Own OwnScript id sid) where
  stable w w' hw hr hi :=
    ⟨(h.id id).stable w w' hw.id hr hi, (h.script sid).stable w w' hw.script hr hi⟩
  step w o x w' hw hs := ⟨(h.id id).step w o x w' hw.id hs, (h.script sid).step w o x w' hw.script hs⟩

/-- What the requests to every single account keep is kept. -/
theorem keeps_of_accounts {S : Setting W AccountCall AccountCall.Res} {P : W → Prop}
    (h : ∀ a, (atAccount S a).Keeps P) : S.Keeps P where
  stable := (h .global).stable
  step w o x w' hw hs := (h o.1).step w o.2 x w' hw (atAccount_step.2 hs)

theorem keeps_of_clients {S : Setting W ScopedCall ScopedCall.Res} {P : W → Prop}
    (h : ∀ a, (atClient S a).Keeps P) : S.Keeps P where
  stable := (h .global).stable
  step w o x w' hw hs := (h o.1).step w o.2 x w' hw (atClient_step.2 hs)

/-! ## Machines -/

section

variable {Own OwnScript : String → W → Prop} {vm vm' : VerdaMachine} {inst : Instance} {w : W}

/-- The properties hold of what a machine records. -/
abbrev TrackedMachine (Own OwnScript : String → W → Prop) (vm : VerdaMachine) : W → Prop :=
  Tracked Own OwnScript vm.status.instanceID vm.status.startupScriptID

/-- The properties hold of an instance and its script. -/
abbrev TrackedInstance (Own OwnScript : String → W → Prop) (inst : Instance) : W → Prop :=
  Tracked Own OwnScript inst.id inst.startupScriptID

/-- The programs of a pass over a machine may run, and an instance that is found or created has the
properties. -/
structure TracksMachine (S : Setting W Call Call.Res) (vm : VerdaMachine)
    (Own OwnScript : String → W → Prop) : Prop where
  lawful : S.Lawful
  keeps : KeepsIDs S Own OwnScript
  resync : ∀ {w}, TrackedMachine Own OwnScript vm w → (resyncInstance vm).wp S (fun _ _ => True) w
  acquire : ∀ boot cluster vc machine {w}, TrackedMachine Own OwnScript vm w →
    (acquireInstance boot cluster vc machine vm).wp S
      (fun r w => ∀ inst, r.1 = .ok inst → TrackedInstance Own OwnScript inst w) w
  settle : ∀ vc {vm' inst w}, AdoptsVolume vm vm' → TrackedInstance Own OwnScript inst w →
    (settleInstance vc vm' inst).wp S (fun _ _ => True) w
  delete : ∀ now {w}, TrackedMachine Own OwnScript vm w →
    (reconcileDelete now vm).wp S (fun _ _ => True) w

namespace TracksMachine

variable {S : Setting W Call Call.Res}

/-- What is recorded of an instance. -/
theorem settles (h : TracksMachine S vm Own OwnScript) {vm₁ : VerdaMachine}
    (hset : Settles inst vm₁ vm') (hw : TrackedMachine Own OwnScript vm₁ w)
    (hinst : TrackedInstance Own OwnScript inst w) : TrackedMachine Own OwnScript vm' w := by
  constructor
  · rcases hset.instanceID with heq | heq
    · rw [heq]
      exact hinst.id
    · rw [heq]
      exact h.keeps.noID w
  · rcases hset.startupScriptID with heq | heq
    · rw [heq]
      exact hw.script
    · rw [heq]
      exact hinst.script

/-- A deletion records no new instance. -/
theorem windsDown (h : TracksMachine S vm Own OwnScript) (hw : TrackedMachine Own OwnScript vm w)
    (hdown : WindsDown vm vm') : TrackedMachine Own OwnScript vm' w := by
  constructor
  · rw [hdown.instanceID]
    exact hw.id
  · rcases hdown.startupScriptID with heq | heq
    · rw [heq]
      exact hw.script
    · rw [heq]
      exact h.keeps.noScript w

theorem reconcileNormal (h : TracksMachine S vm Own OwnScript) (boot : BootstrapInput)
    (cluster : Cluster) (vc : VerdaCluster) (machine : Machine)
    (hw : TrackedMachine Own OwnScript vm w) : (reconcileNormal boot cluster vc machine vm).wp S
      (fun r w => TrackedMachine Own OwnScript r.2 w) w := by
  refine wp_reconcileNormal h.lawful (fun r => (h.keeps.tracked _ _).stable) ?_ ?_ ?_
  · intro _
    refine Prog.wp_mono ?_ (Prog.wp_keep (h.keeps.tracked _ _)
      (Prog.wp_and_obeys (resyncInstance_uses vm) (h.resync hw)) hw)
    rintro r w - ⟨⟨-, -, -, hid, -, hsid, -⟩, hw⟩
    rw [TrackedMachine, hid, hsid]
    exact hw
  · rintro reply vm' ⟨conditions, rfl⟩
    exact hw
  · intro _
    refine Prog.wp_mono ?_ (Prog.wp_keep (h.keeps.tracked _ _) (Prog.wp_and_obeys
      (acquireInstance_uses boot cluster vc machine vm) (h.acquire boot cluster vc machine hw)) hw)
    rintro ⟨reply | inst, vm'⟩ w - ⟨⟨hinst, id, conditions, rfl⟩, hw⟩
    · exact hw
    · refine Prog.wp_mono ?_ (Prog.wp_keep ((h.keeps.tracked _ _).and (h.keeps.tracked _ _))
        (Prog.wp_and_obeys (settleInstance_uses vc _ inst)
          (h.settle vc ⟨id, conditions, rfl⟩ (hinst inst rfl))) ⟨hw, hinst inst rfl⟩)
      rintro r w - ⟨⟨-, hset⟩, hw, hinst⟩
      exact h.settles hset hw hinst

theorem reconcileDelete (h : TracksMachine S vm Own OwnScript) (now : Time)
    (hw : TrackedMachine Own OwnScript vm w) :
    (reconcileDelete now vm).wp S (fun r w => TrackedMachine Own OwnScript r.2 w ∧ WindsDown vm r.2) w := by
  refine Prog.wp_mono ?_ (Prog.wp_keep (h.keeps.tracked _ _)
    (Prog.wp_and_obeys (reconcileDelete_uses now vm) (h.delete now hw)) hw)
  rintro r w - ⟨⟨-, hdown⟩, hw⟩
  exact ⟨h.windsDown hw hdown, hdown⟩

end TracksMachine

/-- What a pass sends: the same machine, with records that have the properties. -/
def SendsTracked (Own OwnScript : String → W → Prop) (vm : VerdaMachine) (out : MachineOutcome) (w : W) :
    Prop :=
  ∀ sent ∈ out.sent, sent.metadata.ns = vm.metadata.ns ∧ sent.metadata.name = vm.metadata.name ∧
    TrackedMachine Own OwnScript sent w

/-- Whatever a pass sends names tracked instances and scripts only. -/
theorem TracksMachine.startPass {S : Setting W AccountCall AccountCall.Res} {objs : Objects}
    (h : ∀ a, TracksMachine (atAccount S a) objs.machine Own OwnScript) (inp : PassInput)
    (hw : TrackedMachine Own OwnScript objs.machine w) :
    (startPass inp objs).wp S (SendsTracked Own OwnScript objs.machine) w := by
  have hlast : ∀ {w w'}, TrackedMachine Own OwnScript objs.machine w → S.rely w w' → S.inv w' →
      TrackedMachine Own OwnScript objs.machine w' :=
    fun {w w'} => ((h .global).keeps.tracked _ _).stable w w'
  refine wp_startPass inp objs ?_ ?_ ?_
  · intro out hout w' hr hi sent hs
    obtain ⟨fs, c, rfl⟩ := hout sent hs
    exact ⟨rfl, rfl, hlast hw hr hi⟩
  · intro a _
    refine Prog.wp_mono ?_ ((h a).reconcileDelete inp.now hw)
    rintro r w - ⟨hrec, hdown⟩ sent hs
    cases hs
    exact ⟨hdown.ns, hdown.name, hrec⟩
  · intro a cluster vc machine _
    refine Prog.wp_mono ?_ (Prog.wp_and_obeys
      (reconcileNormal_uses inp.boot cluster vc machine objs.machine)
      ((h a).reconcileNormal inp.boot cluster vc machine hw))
    rintro r w - ⟨hrec, hmeta⟩ sent hs
    cases hs
    exact ⟨congrArg ObjectMeta.ns hmeta, congrArg ObjectMeta.name hmeta, hrec⟩

/-- What is stored after the patch. -/
theorem SendsTracked.persist {objs : Objects} {out : MachineOutcome}
    (h : SendsTracked Own OwnScript objs.machine out w)
    (hw : TrackedMachine Own OwnScript objs.machine w) (p : Patch) :
    (persist p objs objs out).machine.metadata.ns = objs.machine.metadata.ns ∧
      (persist p objs objs out).machine.metadata.name = objs.machine.metadata.name ∧
      TrackedMachine Own OwnScript (persist p objs objs out).machine w := by
  have hmeta : (Controller.persist p objs objs out).machine.metadata.ns = objs.machine.metadata.ns ∧
      (Controller.persist p objs objs out).machine.metadata.name = objs.machine.metadata.name := by
    rcases @persist_resource p objs out with ⟨heq, -⟩ | ⟨sent, hs, heq, -⟩
    · rw [heq]
      exact ⟨rfl, rfl⟩
    · rw [heq]
      exact ⟨(h sent hs).1, (h sent hs).2.1⟩
  refine ⟨hmeta.1, hmeta.2, ?_⟩
  rcases @persist_status p objs out objs with ⟨c, heq⟩ | ⟨sent, hs, c, heq⟩
  · rw [TrackedMachine, heq]
    exact hw
  · rw [TrackedMachine, heq]
    exact (h sent hs).2.2

end

/-! ## Clusters -/

section

variable {Own OwnScript : LoadBalancer → String → W → Prop} {vc vc' vc₀ : VerdaCluster}
  {lb : LoadBalancer} {inst : Instance} {w : W}

/-- The properties hold of what is recorded of the load balancers of a cluster. -/
def TrackedCluster (Own OwnScript : LoadBalancer → String → W → Prop) (vc : VerdaCluster) (w : W) : Prop :=
  ∀ lb, Tracked (Own lb) (OwnScript lb) (lbStatus vc lb).instanceID (lbStatus vc lb).startupScriptID w

/-- The programs of a pass over a cluster may run, and an instance that is found or created has the
properties. -/
structure TracksLBs (T : Setting W ClusterCall ClusterCall.Res) (vc₀ : VerdaCluster)
    (Own OwnScript : LoadBalancer → String → W → Prop) : Prop where
  lawful : T.Lawful
  keeps : ∀ lb, KeepsIDs T (Own lb) (OwnScript lb)
  aside : ∀ {w c}, NotVerda c → T.guar w c
  acquireLB : ∀ scripts cluster keys {vc w}, SameCluster vc₀ vc → TrackedCluster Own OwnScript vc w →
    (acquireLoadBalancer scripts cluster vc keys).wp (atVerda T .controlPlane) (fun r w => ∀ inst,
      r.1 = .ok inst → TrackedInstance (Own .controlPlane) (OwnScript .controlPlane) inst w) w
  acquireService : ∀ scripts cluster keys {vc w}, SameCluster vc₀ vc →
    TrackedCluster Own OwnScript vc w →
    (acquireServiceLoadBalancer scripts cluster vc keys).wp (atVerda T .service) (fun r w => ∀ inst,
      r.1 = .ok inst → TrackedInstance (Own .service) (OwnScript .service) inst w) w
  deleteService : ∀ now {vc w}, SameCluster vc₀ vc → TrackedCluster Own OwnScript vc w →
    (deleteServiceLoadBalancer now vc).wp (atVerda T .service) (fun _ _ => True) w
  deleteLB : ∀ now {vc w}, SameCluster vc₀ vc → TrackedCluster Own OwnScript vc w →
    (deleteLoadBalancer now vc).wp (atVerda T .controlPlane) (fun _ _ => True) w

theorem TrackedCluster.congr (h : TrackedCluster Own OwnScript vc w)
    (hstatus : ∀ lb, lbStatus vc' lb = lbStatus vc lb) : TrackedCluster Own OwnScript vc' w := by
  intro lb
  rw [hstatus]
  exact h lb

theorem TrackedCluster.ensured (h : TrackedCluster Own OwnScript vc w)
    (hvc : Ensured lb (TrackedInstance (Own lb) (OwnScript lb)) vc vc' w) :
    TrackedCluster Own OwnScript vc' w := by
  intro lb'
  by_cases hlb : lb' = lb
  · subst hlb
    obtain heq | ⟨inst, hinst, hid, hscript⟩ := hvc.record
    · rw [heq]
      exact h lb'
    · rw [hid]
      refine ⟨hinst.id, ?_⟩
      rcases hscript with heq | heq
      · rw [heq]
        exact hinst.script
      · rw [heq]
        exact (h lb').script
  · rw [hvc.other lb' hlb]
    exact h lb'

/-- The same cluster, with records that have the properties. -/
def Carries (Own OwnScript : LoadBalancer → String → W → Prop) (vc₀ vc : VerdaCluster) (w : W) : Prop :=
  SameCluster vc₀ vc ∧ TrackedCluster Own OwnScript vc w

namespace TracksLBs

variable {T : Setting W ClusterCall ClusterCall.Res} {α : Type}

theorem kept (h : TracksLBs T vc₀ Own OwnScript) (vc : VerdaCluster) :
    T.Keeps (TrackedCluster Own OwnScript vc) :=
  .all fun lb => (h.keeps lb).tracked _ _

theorem unwinds (h : TracksLBs T vc₀ Own OwnScript) (hw : TrackedCluster Own OwnScript vc w)
    (hunw : UnwindsLB lb vc vc') : TrackedCluster Own OwnScript vc' w := by
  intro lb'
  by_cases hlb : lb' = lb
  · subst hlb
    rw [hunw.instanceID]
    refine ⟨(hw lb').id, ?_⟩
    rcases hunw.startupScriptID with heq | heq
    · rw [heq]
      exact (hw lb').script
    · rw [heq]
      exact (h.keeps lb').noScript w
  · rw [hunw.other lb' hlb]
    exact hw lb'

/-- The end of a part of a pass. -/
theorem ret (h : TracksLBs T vc₀ Own OwnScript) {r : α × VerdaCluster}
    (hw : Carries Own OwnScript vc₀ r.2 w) :
    (Prog.ret r : ClusterM (α × VerdaCluster)).wp T (fun r w => Carries Own OwnScript vc₀ r.2 w) w :=
  fun w' hr hi => ⟨hw.1, (h.kept r.2).stable w w' hw.2 hr hi⟩

/-- A part that asks others than Verda. -/
theorem frame (h : TracksLBs T vc₀ Own OwnScript) {p : ClusterM α} {R : α → Prop}
    (hp : p.Obeys (Aside lb) R) : p.wp T (fun r _ => R r) w :=
  Prog.wp_of_obeys hp fun _ _ hc _ => h.aside hc.notVerda

theorem staysGood (h : TracksLBs T vc₀ Own OwnScript) (lb : LoadBalancer) :
    StaysGood T (TrackedInstance (Own lb) (OwnScript lb)) where
  lawful := h.lawful
  stable _ := ((h.keeps lb).tracked _ _).stable
  aside := h.aside
  step _ hw hs := ((h.keeps lb).tracked _ _).step _ _ _ _ hw hs

/-- A part that makes sure of a load balancer, from a state in which the records have the properties. -/
theorem ensured (h : TracksLBs T vc₀ Own OwnScript) {p : ClusterM (α × VerdaCluster)}
    (hw : Carries Own OwnScript vc₀ vc w)
    (hp : p.wp T (fun r w => Ensured lb (TrackedInstance (Own lb) (OwnScript lb)) vc r.2 w) w) :
    p.wp T (fun r w => Carries Own OwnScript vc₀ r.2 w) w := by
  refine Prog.wp_mono ?_ (Prog.wp_keep (h.kept vc) hp hw.2)
  rintro r w - ⟨hr, hw'⟩
  exact ⟨hw.1.trans hr.same, hw'.ensured hr⟩

theorem reconcileEndpoint (h : TracksLBs T vc₀ Own OwnScript) (scripts : LBScripts) (cluster : Cluster)
    (hw : Carries Own OwnScript vc₀ vc w) : (reconcileEndpoint scripts cluster vc).wp T
      (fun r w => Carries Own OwnScript vc₀ r.2 w) w :=
  h.ensured hw ((h.staysGood .controlPlane).reconcileEndpoint (h.kept vc) scripts cluster
    (fun _ k _ _ hw' => h.acquireLB scripts cluster k hw.1 hw') hw.2)

theorem enableService (h : TracksLBs T vc₀ Own OwnScript) (scripts : LBScripts) (cluster : Cluster)
    (result : Result) (hw : Carries Own OwnScript vc₀ vc w) :
    (ClusterScope.enableService scripts cluster result vc).wp T
      (fun r w => Carries Own OwnScript vc₀ r.2 w) w :=
  h.ensured hw ((h.staysGood .service).enableService (h.kept vc) scripts cluster result
    (fun k _ _ hw' => h.acquireService scripts cluster k hw.1 hw') hw.2)

theorem onService (h : TracksLBs T vc₀ Own OwnScript) (now : Time) (hw : Carries Own OwnScript vc₀ vc w) :
    (onVerda .service (deleteServiceLoadBalancer now vc)).wp T
      (fun r w => Carries Own OwnScript vc₀ r.2 w) w := by
  refine Prog.wp_mono ?_ (Prog.wp_keep (h.kept vc) (wp_onVerda (Prog.wp_and_obeys
    (deleteServiceLoadBalancer_uses now vc) (h.deleteService now hw.1 hw.2))) hw.2)
  rintro r w' - ⟨⟨-, hunw⟩, hw'⟩
  exact ⟨hw.1.trans hunw.same, h.unwinds hw' hunw⟩

theorem disableService (h : TracksLBs T vc₀ Own OwnScript) (now : Time) (cluster : Cluster)
    (result : Result) (hw : Carries Own OwnScript vc₀ vc w) :
    (ClusterScope.disableService now cluster result vc).wp T
      (fun r w => Carries Own OwnScript vc₀ r.2 w) w := by
  unfold ClusterScope.disableService
  dsimp only
  split
  · refine Prog.wp_bind h.lawful (Prog.wp_mono ?_ (h.onService now hw))
    rintro ⟨e | (_ | _), vc₁⟩ w - hw
    · exact h.ret hw
    · refine Prog.wp_bind h.lawful (Prog.wp_mono ?_ (Prog.wp_keep (h.kept vc₁)
        (h.frame (removeServiceLoadBalancerSecret_aside cluster)) hw.2))
      -- nothing is recorded of the service load balancer any more
      rintro u w' - ⟨-, hw'⟩
      refine h.ret ⟨hw.1.trans ⟨rfl, rfl, rfl, _, rfl⟩, fun lb => ?_⟩
      cases lb with
      | controlPlane => exact hw' .controlPlane
      | service => exact ⟨(h.keeps .service).noID w', (h.keeps .service).noScript w'⟩
    · exact h.ret hw
  · exact h.ret ⟨hw.1.trans ⟨rfl, rfl, rfl, _, rfl⟩, hw.2.congr fun lb => by cases lb <;> rfl⟩

theorem reconcileService (h : TracksLBs T vc₀ Own OwnScript) (scripts : LBScripts) (now : Time)
    (cluster : Cluster) (endpoint : Reply × VerdaCluster) (hw : Carries Own OwnScript vc₀ endpoint.2 w) :
    (ClusterScope.reconcileService scripts now cluster endpoint).wp T
      (fun r w => Carries Own OwnScript vc₀ r.2 w) w := by
  rcases endpoint with ⟨e | result, vc⟩
  · exact h.ret hw
  · simp only [ClusterScope.reconcileService]
    split
    · exact h.disableService now cluster result hw
    · exact h.enableService scripts cluster result hw

theorem reconcileDelete (h : TracksLBs T vc₀ Own OwnScript) (now : Time)
    (hw : Carries Own OwnScript vc₀ vc w) : (ClusterScope.reconcileDelete now vc).wp T
      (fun r w => Carries Own OwnScript vc₀ r.2 w) w := by
  refine Prog.wp_bind h.lawful (Prog.wp_mono ?_ (h.onService now hw))
  rintro ⟨e | (_ | _), vc₁⟩ w - hw
  · exact h.ret hw
  · have hw : Carries Own OwnScript vc₀ vc₁ w := hw
    refine Prog.wp_mono ?_ (Prog.wp_keep (h.kept vc₁) (wp_onVerda (Prog.wp_and_obeys
      (deleteLoadBalancer_uses now vc₁) (h.deleteLB now hw.1 hw.2))) hw.2)
    rintro r w' - ⟨⟨-, hunw⟩, hw'⟩
    exact ⟨hw.1.trans hunw.same, h.unwinds hw' hunw⟩
  · exact h.ret hw

end TracksLBs

/-- The same for a pass over a cluster, with both load balancers. -/
theorem TracksLBs.startClusterPass {S : Setting W ScopedCall ScopedCall.Res}
    (h : ∀ a, TracksLBs (atClient S a) vc Own OwnScript) (hS : S.Lawful) (inp : ClusterInput)
    (hw : TrackedCluster Own OwnScript vc w) : (startClusterPass inp vc).wp S
      (fun out w => ∀ sent ∈ out.sent, Carries Own OwnScript vc sent w) w := by
  have hpatch : ∀ {r : Reply × VerdaCluster} {endpoint w}, Carries Own OwnScript vc r.2 w →
      ∀ sent ∈ (clusterPatched r endpoint).sent, Carries Own OwnScript vc sent w := by
    intro r endpoint w hw sent hs
    cases hs
    have hre := patchVerdaCluster_reconditions r.2
    exact ⟨hw.1.trans hre.same, hw.2.congr hre.lbStatus⟩
  refine startClusterPass_cases (P := fun pass => pass.wp S _ w) inp vc ?_ ?_ ?_
  · intro out _ hsent w' hr hi sent hs
    rcases hsent sent hs with ⟨hsame, hstatus⟩
    exact ⟨hsame, TrackedCluster.congr (((h .global).kept vc).stable w w' hw hr hi) hstatus⟩
  · intro _
    refine wp_runClusterDelete (Prog.wp_mono ?_ ((h _).reconcileDelete inp.now ⟨.refl vc, hw⟩))
    exact fun r w _ hr => hpatch hr
  · intro cluster _
    refine wp_runClusterNormal hS (Prog.wp_mono ?_
      ((h _).reconcileEndpoint inp.scripts cluster ⟨.refl vc, hw⟩))
    intro endpoint w _ hend
    refine Prog.wp_mono ?_ ((h _).reconcileService inp.scripts inp.now cluster endpoint hend)
    exact fun r w _ hr => hpatch hr

/-- What is stored after the patch. -/
theorem carries_persist {out : ClusterOutcome} (hsent : ∀ sent ∈ out.sent, Carries Own OwnScript vc sent w)
    (hw : TrackedCluster Own OwnScript vc w) (p : Patch) :
    Carries Own OwnScript vc (persistCluster p vc vc out) w := by
  refine ⟨persistCluster_same (fun sent hs => (hsent sent hs).1) p, fun lb => ?_⟩
  rcases persistCluster_lbStatus p vc vc out lb with heq | ⟨sent, hs, heq⟩
  · rw [heq]
    exact hw lb
  · rw [heq]
    exact (hsent sent hs).2 lb

end

end VerdaCapi.Controller
