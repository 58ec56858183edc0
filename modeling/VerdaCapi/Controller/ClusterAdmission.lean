import VerdaCapi.Cloud.Answers
import VerdaCapi.Controller.ClusterFootprint

/-!
# The cluster reconciler and its webhook

The control plane endpoint has three writers: the user, the owner Cluster and the load balancer. The
webhooks reject a change of an endpoint that is set, and a pass with the control plane load balancer
enabled writes the address Verda reports for it, whatever was set before.

`clusterUpdate_accepted_iff` says exactly when the webhooks accept what a normal pass sends, in terms
of the object and of Verda's answers. `endpoint_rejected` is a pass whose patch they reject.
-/

namespace VerdaCapi.Controller

open Remote Go Api Cloud Webhook

/-- The answers of a VerdaCluster pass, each with its request. -/
abbrev ClusterAnswers := List (Σ c : ClusterCall, ClusterCall.Res c)

/-- The answer, if it is one of Verda. -/
def verdaAnswer : (Σ c : ClusterCall, ClusterCall.Res c) → Option (Σ c : Call, Call.Res c)
  | ⟨.verda _ c, x⟩ => some ⟨c, x⟩
  | _ => none

/-- The answers of Verda. -/
def verdaAnswers (tr : ClusterAnswers) : Answers := tr.filterMap verdaAnswer

/-- The result of `findLoadBalancer` from the answer to its listing. -/
def pickLoadBalancer (tag : String) : Pick
  | .ok instances => .ok (scan (fun inst => inst.tags.get tagLoadBalancer == tag) none instances)
  | .error e => .error (.wrap "listing instances" (.ofApi e))

/-- The instance record that the answers hand to a pass as its load balancer: the one recorded, or made
up for it when Verda answers that there is none; else the one found by its tag; else the one created. -/
def handedLB (vc : VerdaCluster) (tr : ClusterAnswers) : Option Instance :=
  handedBy (pickLoadBalancer (clusterTagValue vc)) (verdaAnswers tr)

/-- The load balancer runs and has an address. -/
def Serves (inst : Instance) : Prop := inst.status = statusRunning ∧ inst.ip ≠ ""

instance (inst : Instance) : Decidable (Serves inst) := inferInstanceAs (Decidable (_ ∧ _))

section

variable {α : Type} {vc vc' : VerdaCluster} {tr tr₁ tr₂ : ClusterAnswers}

/-! ## Parts of the answers -/

@[simp]
theorem verdaAnswers_append : verdaAnswers (tr₁ ++ tr₂) = verdaAnswers tr₁ ++ verdaAnswers tr₂ :=
  List.filterMap_append ..

/-- A run of a part over the Verda client is a run of the client on Verda's answers. -/
theorem runs_onVerda {lb : LoadBalancer} {p : ClientM α} {r : α} (h : (onVerda lb p).Runs tr r) :
    p.Runs (verdaAnswers tr) r := by
  induction p generalizing tr with
  | ret a =>
    rcases Prog.runs_ret_iff.1 h with ⟨rfl, rfl⟩
    exact .ret _
  | call c next ih =>
    rcases Prog.runs_call_iff.1 h with ⟨x, t, rfl, hnext⟩
    exact .call (ih x hnext)

theorem verdaAnswers_eq_nil {p : ClusterM α} {lb : LoadBalancer} {R : α → Prop} {r : α}
    (hp : p.Obeys (Aside lb) R) (h : p.Runs tr r) : verdaAnswers tr = [] := by
  refine List.filterMap_eq_nil_iff.2 fun e he => ?_
  have hcall := h.calls hp e he
  rcases e with ⟨c, x⟩
  cases c <;> first | rfl | exact hcall.elim

/-! ## Acquiring the load balancer -/

theorem findLoadBalancer_eq (vc : VerdaCluster) :
    findLoadBalancer vc =
      lookupInstance vc.status.loadBalancer.instanceID (pickLoadBalancer (clusterTagValue vc)) := by
  refine findByIDOrTag_eq (fun _ => rfl) fun is => ?_
  simp only [pickLoadBalancer]
  cases scan (fun inst => inst.tags.get tagLoadBalancer == clusterTagValue vc) none is <;> rfl

/-- The load balancer a pass acquires, if any, is the one its answers hand to it. The spec stays. -/
theorem acquireLoadBalancer_runs {scripts : LBScripts} {cluster : Cluster} {keys : Keys}
    {r : Except Err Instance} {t₁ : Answers}
    (h : (acquireLoadBalancer scripts cluster vc keys).Runs t₁ (r, vc')) :
    vc'.spec = vc.spec ∧
      match r with
      | .error _ => handedBy (pickLoadBalancer (clusterTagValue vc)) t₁ = none
      | .ok inst => ∀ t₂,
          Matches (.ok inst) (handedBy (pickLoadBalancer (clusterTagValue vc)) (t₁ ++ t₂)) := by
  rcases Prog.runs_bind_iff.1 h with ⟨t, found, t', rfl, hfind, h₁⟩
  rw [findLoadBalancer_eq] at hfind
  rcases found with e | (_ | i)
  · rcases Prog.runs_ret_iff.1 h₁ with ⟨rfl, hr⟩
    cases hr
    exact ⟨rfl, handedBy_append hfind⟩
  · rcases Prog.runs_bind_iff.1 h₁ with ⟨t₃, result, t₄, rfl, hcreate, h₄⟩
    have hmatch := createInstance_runs hcreate
    rcases result with e | inst
    · rcases Prog.runs_ret_iff.1 h₄ with ⟨rfl, hr⟩
      cases hr
      refine ⟨rfl, (handedBy_append hfind).trans ?_⟩
      show created (t₃ ++ []) = none
      rw [List.append_nil]
      exact hmatch.none
    · rcases Prog.runs_ret_iff.1 h₄ with ⟨rfl, hr⟩
      cases hr
      refine ⟨rfl, fun t₂ => ?_⟩
      rw [List.append_assoc, handedBy_append hfind]
      show Matches _ (created _)
      rw [List.append_nil, created_append]
      exact hmatch.or _
  · rcases Prog.runs_ret_iff.1 h₁ with ⟨rfl, hr⟩
    cases hr
    refine ⟨rfl, fun t₂ => ?_⟩
    rw [List.append_assoc, handedBy_append hfind]
    exact Matches.refl i

/-! ## What the parts of a pass return -/

/-- Whatever it is answered, the part returns an object with this spec. -/
def Returns {Op β : Type} {Res : Op → Type} (spec : VerdaClusterSpec)
    (p : Prog Op Res (β × VerdaCluster)) : Prop :=
  p.Obeys (fun _ => True) fun r => r.2.spec = spec

theorem Returns.onVerda {β : Type} {spec : VerdaClusterSpec} {p : ClientM (β × VerdaCluster)}
    {lb : LoadBalancer} (h : Returns spec p) : Returns spec (onVerda lb p) :=
  h.mapOp fun _ _ => trivial

@[simp]
theorem setLBNotReady_spec (vc : VerdaCluster) (reason message : String) :
    (setLBNotReady vc reason message).spec = vc.spec := by
  unfold setLBNotReady
  dsimp only
  split <;> rfl

theorem serveLoadBalancer_returns (cluster : Cluster) (vc : VerdaCluster) (keys : Keys) (ip : String) :
    Returns { vc.spec with controlPlaneEndpoint := { host := ip, port := loadBalancerPort } }
      (serveLoadBalancer cluster vc keys ip) := by
  refine (Prog.obeys_true _).bind fun r _ => ?_
  rcases r with e | backends
  · rfl
  · dsimp only
    split
    · refine (Prog.obeys_true _).bind fun r _ => ?_
      rcases r with e | u
      · exact setLBNotReady_spec _ _ _
      · rfl
    · rfl

/-- Only a load balancer that serves changes the endpoint. -/
theorem settleLoadBalancer_returns (cluster : Cluster) (vc : VerdaCluster) (keys : Keys)
    (inst : Instance) :
    Returns (if Serves inst then
        { vc.spec with controlPlaneEndpoint := { host := inst.ip, port := loadBalancerPort } }
      else vc.spec) (settleLoadBalancer cluster vc keys inst) := by
  unfold settleLoadBalancer
  dsimp only
  by_cases hserves : Serves inst
  · rw [if_pos hserves, if_pos (show inst.status = statusRunning ∧ inst.ip ≠ "" from hserves)]
    exact serveLoadBalancer_returns cluster (withLoadBalancer vc (recordLB inst)) keys inst.ip
  · rw [if_neg hserves, if_neg (show ¬ (inst.status = statusRunning ∧ inst.ip ≠ "") from hserves)]
    split <;> exact setLBNotReady_spec _ _ _

theorem acquireServiceLoadBalancer_returns (scripts : LBScripts) (cluster : Cluster)
    (vc : VerdaCluster) (keys : Keys) :
    Returns vc.spec (acquireServiceLoadBalancer scripts cluster vc keys) := by
  refine (Prog.obeys_true _).bind fun r _ => ?_
  rcases r with e | (_ | inst)
  · rfl
  · refine (Prog.obeys_true _).bind fun r _ => ?_
    rcases r with e | inst <;> rfl
  · rfl

theorem settleServiceLoadBalancer_returns (cluster : Cluster) (vc : VerdaCluster) (keys : Keys)
    (inst : Instance) : Returns vc.spec (settleServiceLoadBalancer cluster vc keys inst) := by
  unfold settleServiceLoadBalancer
  dsimp only
  split
  · refine (Prog.obeys_true _).bind fun r _ => ?_
    rcases r with e | u <;> rfl
  · split <;> rfl

theorem reconcileServiceLoadBalancer_returns (scripts : LBScripts) (cluster : Cluster)
    (vc : VerdaCluster) : Returns vc.spec (reconcileServiceLoadBalancer scripts cluster vc) := by
  refine (Prog.obeys_true _).bind fun r _ => ?_
  rcases r with e | keys
  · rfl
  · refine (acquireServiceLoadBalancer_returns scripts cluster vc keys).onVerda.bind ?_
    intro r hr
    rcases r with ⟨e | inst, vc₁⟩
    · exact hr
    · rw [← show vc₁.spec = vc.spec from hr]
      exact settleServiceLoadBalancer_returns cluster vc₁ keys inst

theorem deleteServiceLBScript_returns (vc : VerdaCluster) :
    Returns vc.spec (deleteServiceLBScript vc) := by
  unfold deleteServiceLBScript
  dsimp only
  split
  · refine (Prog.obeys_true _).bind fun r _ => ?_
    rcases r with e | u <;> rfl
  · refine (Prog.obeys_true _).bind fun r _ => ?_
    rcases r with e | u <;> rfl

theorem deleteLiveServiceLB_returns (now : Time) (vc : VerdaCluster) (inst : Instance) :
    Returns vc.spec (deleteLiveServiceLB now vc inst) :=
  obeys_deleteLive (Prog.obeys_true _) rfl (fun _ => rfl) rfl rfl

theorem deleteServiceLoadBalancer_returns (now : Time) (vc : VerdaCluster) :
    Returns vc.spec (deleteServiceLoadBalancer now vc) := by
  rw [deleteServiceLoadBalancer_eq]
  exact obeys_teardown (Prog.obeys_true _) (deleteLiveServiceLB_returns now vc)
    (fun _ => Prog.obeys_true _) (deleteServiceLBScript_returns vc) (fun _ => rfl) rfl

theorem disableService_returns (now : Time) (cluster : Cluster) (result : Result)
    (vc : VerdaCluster) : Returns vc.spec (ClusterScope.disableService now cluster result vc) := by
  unfold ClusterScope.disableService
  dsimp only
  split
  · refine (deleteServiceLoadBalancer_returns now vc).onVerda.bind fun r hr => ?_
    rcases r with ⟨e | (_ | _), vc₁⟩
    · exact hr
    · exact (Prog.obeys_true _).bind fun _ _ => hr
    · exact hr
  · rfl

theorem enableService_returns (scripts : LBScripts) (cluster : Cluster) (result : Result)
    (vc : VerdaCluster) : Returns vc.spec (ClusterScope.enableService scripts cluster result vc) := by
  refine (reconcileServiceLoadBalancer_returns scripts cluster vc).bind fun r hr => ?_
  rcases r with ⟨e | requeue, vc₁⟩
  · exact hr
  · dsimp only
    split <;> exact hr

/-! ## The endpoint after a pass -/

/-- The endpoint without a load balancer: the one that is set, else that of the owner Cluster. -/
def ownEndpoint (cluster : Cluster) (own : APIEndpoint) : APIEndpoint :=
  if own.host = "" ∧ cluster.controlPlaneEndpoint.host = "" then own
  else defaultEndpoint (if own.host = "" then cluster.controlPlaneEndpoint else own)

/-- The endpoint with a load balancer: its address if it serves, else the one that is set. -/
def servedEndpoint (own : APIEndpoint) : Option Instance → APIEndpoint
  | some inst => if Serves inst then { host := inst.ip, port := loadBalancerPort } else own
  | none => own

/-- After a pass over the load balancer the endpoint is the one served, if any. A pass that fails here
asks nothing more. -/
theorem reconcileLoadBalancer_runs {scripts : LBScripts} {cluster : Cluster} {reply : Reply}
    (h : (reconcileLoadBalancer scripts cluster vc).Runs tr₁ (reply, vc'))
    (hrest : ∀ e, reply = .error e → tr₂ = []) :
    vc'.spec = { vc.spec with
      controlPlaneEndpoint :=
        servedEndpoint vc.spec.controlPlaneEndpoint (handedLB vc (tr₁ ++ tr₂)) } := by
  rcases Prog.runs_bind_iff.1 h with ⟨t₁, keys?, t₂, rfl, hkeys, h₁⟩
  have hnil := verdaAnswers_eq_nil (ensureKeys_aside .controlPlane cluster vc _) hkeys
  rcases keys? with e | keys
  · rcases Prog.runs_ret_iff.1 h₁ with ⟨rfl, hr⟩
    cases hr
    rw [hrest e rfl, handedLB, verdaAnswers_append, verdaAnswers_append, hnil]
    rfl
  · rcases Prog.runs_bind_iff.1 h₁ with ⟨t₃, acquired, t₄, rfl, hacquire, h₂⟩
    have hverda : handedLB vc (t₁ ++ (t₃ ++ t₄) ++ tr₂) =
        handedBy (pickLoadBalancer (clusterTagValue vc))
          (verdaAnswers t₃ ++ verdaAnswers (t₄ ++ tr₂)) := by
      simp [handedLB, hnil]
    rw [hverda]
    rcases acquired with ⟨r, vc₁⟩
    rcases acquireLoadBalancer_runs (runs_onVerda hacquire) with ⟨hspec, hhanded⟩
    rcases r with e | inst
    · rcases Prog.runs_ret_iff.1 h₂ with ⟨rfl, hr⟩
      cases hr
      have hnone : handedBy (pickLoadBalancer (clusterTagValue vc)) (verdaAnswers t₃) = none := hhanded
      rw [hrest e rfl, hspec, List.append_nil, show verdaAnswers [] = [] from rfl, List.append_nil,
        hnone]
      rfl
    · rcases (hhanded (verdaAnswers (t₄ ++ tr₂))).some with ⟨i, sid, hi, rfl⟩
      rw [hi, h₂.obeys (settleLoadBalancer_returns cluster vc₁ keys _), hspec]
      by_cases hserves : Serves i
      · have hserves' : Serves { i with startupScriptID := sid } := hserves
        rw [if_pos hserves', servedEndpoint, if_pos hserves]
      · have hserves' : ¬ Serves { i with startupScriptID := sid } := hserves
        rw [if_neg hserves', servedEndpoint, if_neg hserves]

theorem reconcileEndpoint_runs {scripts : LBScripts} {cluster : Cluster} {reply : Reply}
    (hlb : vc.loadBalancerEnabled = false)
    (h : (reconcileEndpoint scripts cluster vc).Runs tr (reply, vc')) :
    vc'.spec = { vc.spec with
      controlPlaneEndpoint := ownEndpoint cluster vc.spec.controlPlaneEndpoint } := by
  unfold reconcileEndpoint at h
  rw [hlb] at h
  simp only [Bool.false_eq_true, if_false] at h
  split at h
  · rename_i hown
    have hown : vc.spec.controlPlaneEndpoint.host = "" := hown
    split at h
    · rename_i hhost
      rcases Prog.runs_ret_iff.1 h with ⟨rfl, hr⟩
      cases hr
      rw [ownEndpoint, if_pos ⟨hown, hhost⟩]
      rfl
    · rename_i hhost
      rcases Prog.runs_ret_iff.1 h with ⟨rfl, hr⟩
      cases hr
      have hvalue : ownEndpoint cluster vc.spec.controlPlaneEndpoint =
          if cluster.controlPlaneEndpoint.port = 0 then
            { cluster.controlPlaneEndpoint with port := loadBalancerPort }
          else cluster.controlPlaneEndpoint := by
        simp [ownEndpoint, hown, hhost, defaultEndpoint, loadBalancerPort]
      rw [hvalue]
      rfl
  · rename_i hown
    have hown : vc.spec.controlPlaneEndpoint.host ≠ "" := hown
    rcases Prog.runs_ret_iff.1 h with ⟨rfl, hr⟩
    cases hr
    have hvalue : ownEndpoint cluster vc.spec.controlPlaneEndpoint =
        if vc.spec.controlPlaneEndpoint.port = 0 then
          { vc.spec.controlPlaneEndpoint with port := loadBalancerPort }
        else vc.spec.controlPlaneEndpoint := by
      simp [ownEndpoint, hown, defaultEndpoint, loadBalancerPort]
    rw [hvalue]
    rfl

/-- The endpoint after a normal pass. -/
def endpointAfter (cluster : Cluster) (vc : VerdaCluster) (tr : ClusterAnswers) : APIEndpoint :=
  if vc.loadBalancerEnabled then servedEndpoint vc.spec.controlPlaneEndpoint (handedLB vc tr)
  else ownEndpoint cluster vc.spec.controlPlaneEndpoint

/-- A normal pass changes nothing in the spec but the endpoint. -/
theorem reconcileNormal_spec {scripts : LBScripts} {now : Time} {cluster : Cluster} {reply : Reply}
    (h : (ClusterScope.reconcileNormal scripts now cluster vc).Runs tr (reply, vc')) :
    vc'.spec = { vc.spec with controlPlaneEndpoint := endpointAfter cluster vc tr } := by
  rcases Prog.runs_bind_iff.1 h with ⟨t₁, ⟨r, vc₁⟩, t₂, rfl, hendpoint, h₂⟩
  have hrest : ∀ e, r = .error e → t₂ = [] := by
    intro e he
    subst he
    exact (Prog.runs_ret_iff.1 h₂).1
  have hspec : vc'.spec = vc₁.spec := by
    rcases r with e | result
    · rcases Prog.runs_ret_iff.1 h₂ with ⟨-, hr⟩
      cases hr
      rfl
    · simp only [ClusterScope.reconcileService] at h₂
      split at h₂
      · exact h₂.obeys (disableService_returns now cluster result vc₁)
      · exact h₂.obeys (enableService_returns scripts cluster result vc₁)
  rw [hspec, endpointAfter]
  split
  · rename_i hlb
    unfold reconcileEndpoint at hendpoint
    rw [if_pos hlb] at hendpoint
    exact reconcileLoadBalancer_runs hendpoint hrest
  · rename_i hlb
    exact reconcileEndpoint_runs (by simpa using hlb) hendpoint

end

/-- **When the webhooks accept what a pass sends.** For every admitted cluster, every status and every
answers, the patch of a normal pass is accepted exactly when the control plane load balancer is
disabled, or no endpoint was set, or the load balancer that the answers hand to the pass does not
serve, or it serves at the endpoint that was set. -/
theorem clusterUpdate_accepted_iff (vc : VerdaCluster) (h : ClusterAdmitted vc.spec)
    (scripts : LBScripts) (now : Time) (cluster : Cluster) (tr : ClusterAnswers) (reply : Reply)
    (vc' : VerdaCluster)
    (hrun : (ClusterScope.reconcileNormal scripts now cluster vc).Runs tr (reply, vc')) :
    clusterUpdateAccepted vc.spec (patchVerdaCluster vc').spec ↔
      (vc.loadBalancerEnabled = true → vc.spec.controlPlaneEndpoint.host ≠ "" →
        ∀ inst, handedLB vc tr = some inst → Serves inst →
          vc.spec.controlPlaneEndpoint = { host := inst.ip, port := loadBalancerPort }) := by
  show clusterUpdateAccepted vc.spec vc'.spec ↔ _
  rw [reconcileNormal_spec hrun, clusterUpdateAccepted_endpoint_iff h]
  unfold endpointAfter
  by_cases hhost : vc.spec.controlPlaneEndpoint.host = ""
  · simp [hhost]
  · by_cases hlb : vc.loadBalancerEnabled = true
    · rw [if_pos hlb]
      rcases hinst : handedLB vc tr with _ | inst
      · simp [servedEndpoint, h.endpoint]
      · by_cases hserves : Serves inst
        · simp [servedEndpoint, hserves, hhost, hlb, defaultEndpoint, loadBalancerPort]
        · simp [servedEndpoint, hserves, h.endpoint]
    · rw [if_neg hlb]
      simp [ownEndpoint, hhost, hlb, h.endpoint]

/-! ## Sample passes -/

/-- An admitted cluster with a control plane load balancer and this endpoint. -/
def sampleCluster (endpoint : APIEndpoint) : VerdaCluster where
  metadata := { ns := "default", name := "c0", finalizers := [clusterFinalizer] }
  spec :=
    { location := "FIN-01"
      controlPlaneEndpoint := endpoint
      controlPlaneLoadBalancer :=
        { enabled := some true
          instanceType := defaultLoadBalancerInstanceType
          image := defaultLoadBalancerImage } }

/-- The owner of the sample cluster. -/
def sampleOwner : Cluster where
  ns := "default"
  name := "c0"

def sampleScripts : LBScripts where
  startupScript _ := []
  envoyStartupScript _ := []

/-- The keys are there, the load balancer is found by its tag and runs at an address, and there are no
machines yet. -/
def servedAt (ip : String) : ClusterAnswers :=
  [⟨.secret (.get "default" "c0-lb-ssh"), .ok
      { ns := "default", name := "c0-lb-ssh",
        data := [(secretKeyClientPrivate, [1]), (secretKeyClientPublic, [1]),
          (secretKeyHostPrivate, [1]), (secretKeyHostPublic, [1])] }⟩,
    ⟨.verda .controlPlane ⟨.findInstanceByTag, .instancesGet⟩, .ok
      [{ id := "lb1", hostname := "c0-lb", status := "running", ip := some ip,
         tags := [⟨tagLoadBalancer, "default/c0"⟩] }]⟩,
    ⟨.listVerdaMachines "default" "c0", .ok []⟩]

/-- The load balancer serves at the endpoint an earlier pass stored. -/
theorem clusterUpdate_accepted_sample : ∃ (vc vc' : VerdaCluster) (tr : ClusterAnswers) (reply : Reply),
    (ClusterScope.reconcileNormal sampleScripts 0 sampleOwner vc).Runs tr (reply, vc') ∧
      vc.spec.controlPlaneEndpoint.host ≠ "" ∧ isSet vc'.status.provisioned = true ∧
      clusterUpdateAccepted vc.spec (patchVerdaCluster vc').spec := by
  let vc := sampleCluster { host := "10.0.0.1", port := 6443 }
  obtain ⟨⟨reply, vc'⟩, hrun, hprov⟩ := Prog.exists_runs_of_replay
    (ClusterScope.reconcileNormal sampleScripts 0 sampleOwner vc) (servedAt "10.0.0.1")
    (fun r => isSet r.2.status.provisioned) (by decide +kernel)
  refine ⟨vc, vc', servedAt "10.0.0.1", reply, hrun, by decide, hprov, ?_⟩
  refine (clusterUpdate_accepted_iff vc ⟨by decide, by decide⟩ _ _ _ _ _ _ hrun).2 ?_
  intro _ _ inst hinst _
  have hip : handedLB vc (servedAt "10.0.0.1") = some (toInstance
      { id := "lb1", hostname := "c0-lb", status := "running", ip := some "10.0.0.1",
        tags := [⟨tagLoadBalancer, "default/c0"⟩] }) := by decide
  rw [hip] at hinst
  cases hinst
  rfl

/-- The user sets an endpoint and enables the load balancer, which the webhooks admit: the pass that
finds the load balancer running writes its address over the endpoint, and its patch is rejected. -/
theorem endpoint_rejected : ∃ (vc vc' : VerdaCluster) (tr : ClusterAnswers) (reply : Reply),
    ClusterAdmitted vc.spec ∧ vc.status = {} ∧
      (ClusterScope.reconcileNormal sampleScripts 0 sampleOwner vc).Runs tr (reply, vc') ∧
      ¬ clusterUpdateAccepted vc.spec (patchVerdaCluster vc').spec := by
  let vc := sampleCluster { host := "api.example.com", port := 6443 }
  obtain ⟨⟨reply, vc'⟩, hrun, hbad⟩ := Prog.exists_runs_of_replay
    (ClusterScope.reconcileNormal sampleScripts 0 sampleOwner vc) (servedAt "10.0.0.1")
    (fun r => !decide (clusterUpdateAccepted vc.spec (patchVerdaCluster r.2).spec))
    (by decide +kernel)
  exact ⟨vc, vc', servedAt "10.0.0.1", reply, ⟨by decide, by decide⟩, rfl, hrun, by simpa using hbad⟩

end VerdaCapi.Controller
