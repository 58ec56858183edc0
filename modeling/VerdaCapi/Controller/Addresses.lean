import VerdaCapi.Controller.Cluster
import Mathlib.Data.List.Sort

/-!
# The backends of the control plane

`controlPlaneAddresses` collects the first external address of each control plane machine that is not
being deleted, and sorts them. It does not remove duplicates: machines may share an address, as a machine
keeps the address of an instance that is gone.

`controlPlaneAddresses_canonical_iff`: the list is the canonical one, without regard to the order in which
machines are listed, if and only if no two of these machines share their address.
-/

namespace VerdaCapi.Controller

open Remote Go Api Cloud

section

variable {view view' : (c : ClusterCall) → c.Res} {vms vms' : List VerdaMachine} {x : String}

/-- Whether a machine counts as one of the control plane; `none` if its owner cannot be read. -/
def controlPlaneMember (view : (c : ClusterCall) → c.Res) (vm : VerdaMachine) : Option Bool :=
  ((isControlPlane vm).eval view).toOption

/-- The address a machine contributes. -/
def servedAddress (view : (c : ClusterCall) → c.Res) (vm : VerdaMachine) : Option String :=
  if vm.metadata.deletionTimestamp = none ∧ controlPlaneMember view vm = some true then externalAddress vm
  else none

/-- Every machine that is not being deleted has an owner that can be read, if one is needed. -/
def OwnersRead (view : (c : ClusterCall) → c.Res) (vms : List VerdaMachine) : Prop :=
  ∀ vm ∈ vms, vm.metadata.deletionTimestamp = none → controlPlaneMember view vm ≠ none

instance (view : (c : ClusterCall) → c.Res) (vms : List VerdaMachine) : Decidable (OwnersRead view vms) :=
  inferInstanceAs (Decidable (∀ vm ∈ vms, _ → _))

theorem filterMap_cons_toList {α β : Type} (f : α → Option β) (a : α) (l : List α) :
    (a :: l).filterMap f = (f a).toList ++ l.filterMap f := by
  rw [List.filterMap_cons]
  cases f a <;> rfl

/-- The loop succeeds if the owners can be read, and collects the addresses in the order of the list. -/
theorem eval_collectAddresses {addresses : List String} :
    (collectAddresses vms).eval view = .ok addresses ↔
      OwnersRead view vms ∧ addresses = vms.filterMap (servedAddress view) := by
  induction vms generalizing addresses with
  | nil =>
    simp only [collectAddresses, OwnersRead, List.filterMap_nil, List.not_mem_nil, false_implies,
      implies_true, true_and]
    exact ⟨fun h => (Except.ok.inj h).symm, fun h => h ▸ rfl⟩
  | cons vm vms ih =>
    unfold collectAddresses
    by_cases hdel : vm.metadata.deletionTimestamp = none
    · rw [if_neg (by simp [hdel]), Prog.eval_bind]
      cases hmember : (isControlPlane vm).eval view with
      | error e =>
        have hnone : controlPlaneMember view vm = none := by rw [controlPlaneMember, hmember]; rfl
        refine ⟨fun h => (by cases h), fun h => ?_⟩
        exact absurd hnone (h.1 vm List.mem_cons_self hdel)
      | ok member =>
        have hsome : controlPlaneMember view vm = some member := by
          rw [controlPlaneMember, hmember]
          rfl
        have howners : OwnersRead view (vm :: vms) ↔ OwnersRead view vms := by
          simp [OwnersRead, hsome]
        rw [howners, filterMap_cons_toList]
        cases member with
        | false =>
          have hserved : servedAddress view vm = none := by simp [servedAddress, hsome]
          rw [hserved]
          exact ih
        | true =>
          have hserved : servedAddress view vm = externalAddress vm := by
            simp [servedAddress, hsome, hdel]
          rw [hserved]
          dsimp only
          rw [Prog.eval_bind]
          -- the rest of the list is collected first, and may fail
          cases hrest : (collectAddresses vms).eval view with
          | error e =>
            refine ⟨fun h => (by cases h), fun h => ?_⟩
            rw [ih.2 ⟨h.1, rfl⟩] at hrest
            cases hrest
          | ok rest =>
            obtain ⟨hread, rfl⟩ := ih.1 hrest
            exact ⟨fun h => ⟨hread, (Except.ok.inj h).symm⟩, fun h => h.2 ▸ rfl⟩
    · rw [if_pos (by simpa [Option.isSome_iff_ne_none] using hdel)]
      have howners : OwnersRead view (vm :: vms) ↔ OwnersRead view vms := by
        simp [OwnersRead, hdel]
      have hserved : servedAddress view vm = none := by simp [servedAddress, hdel]
      rw [howners, filterMap_cons_toList, hserved]
      exact ih

/-- `controlPlaneAddresses` sorts the collected addresses. -/
theorem eval_controlPlaneAddresses {cluster : Cluster} {addresses : List String}
    (hlist : view (.listVerdaMachines cluster.ns cluster.name) = .ok vms) :
    (controlPlaneAddresses cluster).eval view = .ok addresses ↔ OwnersRead view vms ∧
      addresses = (vms.filterMap (servedAddress view)).mergeSort fun a b => decide (a ≤ b) := by
  have hmachines : (listVerdaMachines cluster.ns cluster.name).eval view = .ok vms := hlist
  unfold controlPlaneAddresses
  rw [Prog.eval_bind, hmachines]
  dsimp only
  rw [Prog.eval_bind]
  cases hcollected : (collectAddresses vms).eval view with
  | error e =>
    refine ⟨fun h => (by cases h), fun h => ?_⟩
    rw [eval_collectAddresses.2 ⟨h.1, rfl⟩] at hcollected
    cases hcollected
  | ok collected =>
    obtain ⟨hread, rfl⟩ := eval_collectAddresses.1 hcollected
    exact ⟨fun h => ⟨hread, (Except.ok.inj h).symm⟩, fun h => h.2 ▸ rfl⟩

/-! ## Sorted addresses -/

theorem sorted_mergeSort (l : List String) :
    (l.mergeSort fun a b => decide (a ≤ b)).Pairwise (· ≤ ·) := by
  have hsorted : (l.mergeSort fun a b => decide (a ≤ b)).Pairwise fun a b => decide (a ≤ b) = true := by
    refine List.pairwise_mergeSort (fun a b c hab hbc => ?_) (fun a b => ?_) l
    · simp only [decide_eq_true_eq] at hab hbc ⊢
      exact hab.trans hbc
    · simpa using le_total a b
  simpa using hsorted

theorem mergeSort_eq_of_perm {l l' : List String} (h : l'.Perm l) :
    (l'.mergeSort fun a b => decide (a ≤ b)) = l.mergeSort fun a b => decide (a ≤ b) := by
  refine List.Perm.eq_of_pairwise (fun a b _ _ hab hba => le_antisymm hab hba) (sorted_mergeSort l')
    (sorted_mergeSort l) ?_
  exact ((List.mergeSort_perm l' _).trans h).trans (List.mergeSort_perm l _).symm

/-- Sorting gives a strictly increasing list if and only if there are no duplicates. -/
theorem mergeSort_increasing_iff (l : List String) :
    (l.mergeSort fun a b => decide (a ≤ b)).Pairwise (· < ·) ↔ l.Nodup := by
  rw [← (List.mergeSort_perm l fun a b => decide (a ≤ b)).nodup_iff]
  constructor
  · intro hlt
    exact hlt.imp fun hab => hab.ne
  · intro hnodup
    exact (sorted_mergeSort l).imp₂ (fun a b hab hne => lt_of_le_of_ne hab hne) hnodup

/-! ## The canonical list -/

/-- The same machines in another order; who owns them stays. -/
structure Relists (cluster : Cluster) (view view' : (c : ClusterCall) → c.Res) : Prop where
  machines : ∃ vms vms', view (.listVerdaMachines cluster.ns cluster.name) = .ok vms ∧
    view' (.listVerdaMachines cluster.ns cluster.name) = .ok vms' ∧ vms'.Perm vms
  owners : ∀ metadata, view' (.getOwnerMachine metadata) = view (.getOwnerMachine metadata)

/-- The list does not depend on the order of the machines, is strictly increasing, and has exactly the
addresses of the control plane machines that are not being deleted. -/
structure Canonical (cluster : Cluster) (view : (c : ClusterCall) → c.Res) (vms : List VerdaMachine)
    (addresses : List String) : Prop where
  order : ∀ view', Relists cluster view view' →
    (controlPlaneAddresses cluster).eval view' = .ok addresses
  increasing : addresses.Pairwise (· < ·)
  contents : ∀ x, x ∈ addresses ↔ ∃ vm ∈ vms, vm.metadata.deletionTimestamp = none ∧
    controlPlaneMember view vm = some true ∧ externalAddress vm = some x

/-- No two control plane machines that are not being deleted have the same address. -/
def Unshared (view : (c : ClusterCall) → c.Res) (vms : List VerdaMachine) : Prop :=
  vms.Pairwise fun vm vm' => ∀ x, servedAddress view vm = some x → servedAddress view vm' ≠ some x

theorem unshared_iff : Unshared view vms ↔ (vms.filterMap (servedAddress view)).Nodup := by
  rw [Unshared, List.nodup_iff_pairwise_ne, List.pairwise_filterMap]
  refine List.Pairwise.iff fun vm vm' => ?_
  constructor
  · rintro h a ha b hb rfl
    exact h a ha hb
  · intro h x hx hx'
    exact h x hx x hx' rfl

theorem mem_served_iff : x ∈ vms.filterMap (servedAddress view) ↔
    ∃ vm ∈ vms, vm.metadata.deletionTimestamp = none ∧ controlPlaneMember view vm = some true ∧
      externalAddress vm = some x := by
  simp [servedAddress, and_assoc]

/-- Who belongs to the control plane depends on the owners alone. -/
theorem controlPlaneMember_congr
    (h : ∀ metadata, view' (.getOwnerMachine metadata) = view (.getOwnerMachine metadata)) :
    controlPlaneMember view' = controlPlaneMember view := by
  funext vm
  have heval : (isControlPlane vm).eval view' = (isControlPlane vm).eval view := by
    unfold isControlPlane
    split
    · rfl
    · rw [Prog.eval_bind, Prog.eval_bind]
      have howner : (getOwnerMachine vm.metadata).eval view' = (getOwnerMachine vm.metadata).eval view :=
        h vm.metadata
      rw [howner]
      cases (getOwnerMachine vm.metadata).eval view <;> rfl
  rw [controlPlaneMember, heval, controlPlaneMember]

/-- Another order of the machines gives the same list. -/
theorem controlPlaneAddresses_relists {cluster : Cluster} {addresses : List String}
    (hret : (controlPlaneAddresses cluster).eval view = .ok addresses)
    (hrelist : Relists cluster view view') :
    (controlPlaneAddresses cluster).eval view' = .ok addresses := by
  obtain ⟨⟨vms, vms', hlist, hlist', hperm⟩, howners⟩ := hrelist
  obtain ⟨hread, rfl⟩ := (eval_controlPlaneAddresses hlist).1 hret
  have hmember := controlPlaneMember_congr howners
  have hserved : servedAddress view' = servedAddress view := by
    funext vm
    rw [servedAddress, hmember, servedAddress]
  refine (eval_controlPlaneAddresses hlist').2 ⟨fun vm hvm hlive => ?_, ?_⟩
  · rw [hmember]
    exact hread vm (hperm.mem_iff.1 hvm) hlive
  · rw [hserved]
    exact (mergeSort_eq_of_perm (hperm.filterMap _)).symm

/-- **The addresses of the control plane** are a function of the set of machines, listed once each and in
their order, exactly if no two of the machines that serve share an address. -/
theorem controlPlaneAddresses_canonical_iff (cluster : Cluster) (view : (c : ClusterCall) → c.Res)
    (vms : List VerdaMachine) (addresses : List String)
    (hlist : view (.listVerdaMachines cluster.ns cluster.name) = .ok vms)
    (hret : (controlPlaneAddresses cluster).eval view = .ok addresses) :
    Canonical cluster view vms addresses ↔ Unshared view vms := by
  obtain ⟨-, hsorted⟩ := (eval_controlPlaneAddresses hlist).1 hret
  have hincreasing := mergeSort_increasing_iff (vms.filterMap (servedAddress view))
  rw [← hsorted, ← unshared_iff] at hincreasing
  constructor
  · intro h
    exact hincreasing.1 h.increasing
  · intro h
    refine ⟨fun view' => controlPlaneAddresses_relists hret, hincreasing.2 h, fun x => ?_⟩
    rw [← mem_served_iff, hsorted]
    exact (List.mergeSort_perm _ _).mem_iff

end

/-! ## Sample machines -/

/-- The machines are listed, none has an owner, and nothing else is answered. -/
def listing (vms : List VerdaMachine) : (c : ClusterCall) → c.Res
  | .listVerdaMachines _ _ => .ok vms
  | .getOwnerMachine _ => .ok none
  | .verda _ _ => .error (.other "offline")
  | .secret _ | .workload _ _ => .error ⟨.other, "offline"⟩
  | .generateKeys | .updateBackends _ _ _ | .workloadClient _ | .kubeconfigFromSecret _ _ =>
    .error ⟨.other, "offline"⟩

/-- A control plane machine with a status address. -/
def controlPlaneAt (name address : String) : VerdaMachine where
  metadata := { ns := "default", name := name, labels := [("cluster.x-k8s.io/control-plane", "")] }
  spec := { instanceType := "CPU.4V.16G" }
  status := { addresses := [⟨.externalIP, address⟩] }

theorem controlPlaneAddresses_listing {cluster : Cluster} {vms : List VerdaMachine}
    {addresses : List String} (hread : OwnersRead (listing vms) vms)
    (hserved : vms.filterMap (servedAddress (listing vms)) = addresses)
    (hsorted : addresses.Pairwise (· ≤ ·)) :
    (controlPlaneAddresses cluster).eval (listing vms) = .ok addresses := by
  refine (eval_controlPlaneAddresses rfl).2 ⟨hread, ?_⟩
  rw [hserved, List.mergeSort_of_pairwise (by simpa using hsorted)]

/-- Two machines with an address each. -/
theorem controlPlaneAddresses_canonical_sample :
    Canonical { ns := "default", name := "c0" }
      (listing [controlPlaneAt "m0" "10.0.0.5", controlPlaneAt "m1" "10.0.0.6"])
      [controlPlaneAt "m0" "10.0.0.5", controlPlaneAt "m1" "10.0.0.6"] ["10.0.0.5", "10.0.0.6"] := by
  refine (controlPlaneAddresses_canonical_iff _ _ _ _ rfl
    (controlPlaneAddresses_listing (by decide) (by decide) (by decide))).2 (unshared_iff.2 ?_)
  decide

/-- Two machines share an address, which is listed twice. -/
theorem controlPlaneAddresses_repeats :
    (controlPlaneAddresses { ns := "default", name := "c0" }).eval
        (listing [controlPlaneAt "m0" "10.0.0.5", controlPlaneAt "m1" "10.0.0.5"]) =
      .ok ["10.0.0.5", "10.0.0.5"] ∧ ¬ ["10.0.0.5", "10.0.0.5"].Pairwise (· < ·) :=
  ⟨controlPlaneAddresses_listing (by decide) (by decide) (by decide), by decide⟩

end VerdaCapi.Controller
