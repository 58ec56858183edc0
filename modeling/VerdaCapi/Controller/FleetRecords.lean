import VerdaCapi.Controller.Fleet
import VerdaCapi.Controller.Records

/-!
# What the passes of a fleet record

`StoredTracked`: what an object records has certain properties, which may depend on the owner it is
recorded for. It holds of objects as they are created, users do not break it, and a pass keeps it if its
programs do (`tracksMachine`, `tracksLBs`).
-/

namespace VerdaCapi.Controller

open Remote Go Api Cloud Webhook

variable {Own OwnScript : Owner → String → FleetWorld → Prop} {key : Key} {obj obj' : Stored}
  {w w' : FleetWorld}

/-- What is stored under a key is an object of that name, and what it records has the properties. -/
def StoredTracked (Own OwnScript : Owner → String → FleetWorld → Prop) : Key → Stored → FleetWorld → Prop
  | .machine ns name, .machine objs, w => objs.machine.metadata.ns = ns ∧
      objs.machine.metadata.name = name ∧
      TrackedMachine (Own (.machine ns name)) (OwnScript (.machine ns name)) objs.machine w
  | .cluster ns name, .cluster vc, w => vc.metadata.ns = ns ∧ vc.metadata.name = name ∧
      TrackedCluster (fun lb => Own (lbOwner ns name lb)) (fun lb => OwnScript (lbOwner ns name lb)) vc w
  | _, _, _ => False

theorem StoredTracked.mono (h : StoredTracked Own OwnScript key obj w)
    (hid : ∀ who id, Own who id w → Own who id w')
    (hscript : ∀ who sid, OwnScript who sid w → OwnScript who sid w') :
    StoredTracked Own OwnScript key obj w' := by
  cases key with
  | machine ns name =>
    cases obj with
    | cluster vc => exact h
    | machine objs => exact ⟨h.1, h.2.1, hid _ _ h.2.2.id, hscript _ _ h.2.2.script⟩
  | cluster ns name =>
    cases obj with
    | machine objs => exact h
    | cluster vc =>
      exact ⟨h.1, h.2.1, fun lb => ⟨hid _ _ (h.2.2 lb).id, hscript _ _ (h.2.2 lb).script⟩⟩

/-- Users change nothing that is recorded. -/
theorem StoredTracked.touched (h : StoredTracked Own OwnScript key obj w)
    (ht : FleetTouched obj obj') : StoredTracked Own OwnScript key obj' w := by
  cases obj with
  | machine objs =>
    cases obj' with
    | cluster vc' => exact ht.elim
    | machine objs' =>
      have ht : Touched objs objs' := ht
      cases key with
      | cluster ns name => exact h
      | machine ns name =>
        refine ⟨ht.ns.trans h.1, ht.name.trans h.2.1, ?_⟩
        rw [TrackedMachine, ht.status]
        exact h.2.2
  | cluster vc =>
    cases obj' with
    | machine objs' => exact ht.elim
    | cluster vc' =>
      have ht : ClusterTouched vc vc' := ht
      cases key with
      | machine ns name => exact h
      | cluster ns name =>
        exact ⟨ht.ns.trans h.1, ht.name.trans h.2.1, h.2.2.congr ht.lbStatus⟩

/-- A pass over an object keeps the properties, if its programs do. -/
theorem StoredTracked.startFleetPass {S : Setting FleetWorld FleetCall FleetCall.Res} (hS : S.Lawful)
    (tracksMachine : ∀ (ns name : String) (vm : VerdaMachine), key = .machine ns name →
      vm.metadata.ns = ns → vm.metadata.name = name → ∀ a,
      TracksMachine (atAccount (machineView S ns name) a) vm (Own (.machine ns name))
        (OwnScript (.machine ns name)))
    (tracksLBs : ∀ (ns name : String) (vc : VerdaCluster), key = .cluster ns name →
      vc.metadata.ns = ns → vc.metadata.name = name → ∀ a, TracksLBs (atClient (clusterView S ns name) a) vc
        (fun lb => Own (lbOwner ns name lb)) fun lb => OwnScript (lbOwner ns name lb))
    (inp : FleetInput) (hw : StoredTracked Own OwnScript key obj w) :
    (startFleetPass key inp obj).wp S
      (fun out w => ∀ p, StoredTracked Own OwnScript key (persistFleet p obj obj out) w) w := by
  cases key with
  | machine ns name =>
    cases obj with
    | cluster vc => exact hw.elim
    | machine objs =>
      have htracks := tracksMachine ns name objs.machine rfl hw.1 hw.2.1
      have hkeeps := keeps_of_accounts fun a => (htracks a).keeps.tracked
        objs.machine.status.instanceID objs.machine.status.startupScriptID
      cases inp with
      | cluster inp => exact fun w' hr hi p => ⟨hw.1, hw.2.1, hkeeps.stable w w' hw.2.2 hr hi⟩
      | machine inp =>
        refine wp_machineFleetPass (Prog.wp_mono ?_ (Prog.wp_keep hkeeps
          (TracksMachine.startPass htracks inp hw.2.2) hw.2.2))
        rintro out w - ⟨hsent, hrec⟩ p
        rcases hsent.persist hrec p with ⟨hns, hname, hrec'⟩
        exact ⟨hns.trans hw.1, hname.trans hw.2.1, hrec'⟩
  | cluster ns name =>
    cases obj with
    | machine objs => exact hw.elim
    | cluster vc =>
      have htracks := tracksLBs ns name vc rfl hw.1 hw.2.1
      have hkeeps := keeps_of_clients fun a => (htracks a).kept vc
      cases inp with
      | machine inp => exact fun w' hr hi p => ⟨hw.1, hw.2.1, hkeeps.stable w w' hw.2.2 hr hi⟩
      | cluster inp =>
        refine wp_clusterFleetPass (Prog.wp_mono ?_ (Prog.wp_keep hkeeps
          (TracksLBs.startClusterPass htracks (hS.comap _ _) inp hw.2.2) hw.2.2))
        rintro out w - ⟨hsent, hrec⟩ p
        rcases carries_persist hsent hrec p with ⟨hsame, hrec'⟩
        exact ⟨hsame.ns.trans hw.1, hsame.name.trans hw.2.1, hrec'⟩

end VerdaCapi.Controller
