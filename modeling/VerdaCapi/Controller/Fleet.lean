import VerdaCapi.Controller.ClusterSystem
import VerdaCapi.Controller.Hostnames

/-!
# Machines and clusters, reconciled side by side

The passes over any number of VerdaMachines and VerdaClusters as one `Remote.System`, with a thread for
each object. A request to Verda carries the owner it is made for. All other requests may be answered in
any way, so the world is what the Verda accounts hold.

Verda does not give out an ID twice. The accounts know this of the IDs in their log; here it holds of
the IDs of startup scripts that were listed as well, since a pass deletes these later on.
-/

namespace VerdaCapi.Controller

open Remote Go Api Cloud Webhook

/-! ## Objects and owners -/

/-- The objects that are reconciled. -/
inductive Key where
  | machine (ns name : String)
  | cluster (ns name : String)
deriving DecidableEq

/-- The object an owner of instances belongs to. -/
def Owner.key : Owner → Key
  | .machine ns name => .machine ns name
  | .loadBalancer ns name => .cluster ns name
  | .serviceLoadBalancer ns name => .cluster ns name

/-- The tag by which the owner's instances are found. -/
def Owner.tagKey : Owner → String
  | .machine _ _ => tagMachine
  | .loadBalancer _ _ => tagLoadBalancer
  | .serviceLoadBalancer _ _ => tagServiceLoadBalancer

/-- Its value. -/
def Owner.tagValue : Owner → String
  | .machine ns name => truncateTag (ns ++ "/" ++ name)
  | .loadBalancer ns name => truncateTag (ns ++ "/" ++ name)
  | .serviceLoadBalancer ns name => truncateTag (ns ++ "/" ++ name)

/-- A load balancer of a cluster as an owner. -/
def lbOwner (ns name : String) : LoadBalancer → Owner
  | .controlPlane => .loadBalancer ns name
  | .service => .serviceLoadBalancer ns name

/-- What is stored under a key. -/
inductive Stored where
  | machine (objs : Objects)
  | cluster (vc : VerdaCluster)

/-! ## Passes -/

/-- A request of a pass: to Verda, for an owner, or to others. -/
inductive FleetCall where
  | verda (who : Owner) (o : AccountCall)
  | other (c : ClusterCall)

/-- Its answer. -/
@[reducible]
def FleetCall.Res : FleetCall → Type
  | .verda _ o => AccountCall.Res o
  | .other c => ClusterCall.Res c

/-- A request of a pass over the cluster `ns/name`. -/
def ofCluster (ns name : String) : ScopedCall → FleetCall
  | (a, .verda lb c) => .verda (lbOwner ns name lb) (a, c)
  | (_, c) => .other c

/-- The answer, as the pass sees it. -/
def ofClusterRes (ns name : String) :
    (o : ScopedCall) → FleetCall.Res (ofCluster ns name o) → ScopedCall.Res o
  | (_, .verda _ _), x => x
  | (_, .secret _), x => x
  | (_, .generateKeys), x => x
  | (_, .listVerdaMachines _ _), x => x
  | (_, .getOwnerMachine _), x => x
  | (_, .updateBackends _ _ _), x => x
  | (_, .kubeconfigFromSecret _ _), x => x
  | (_, .workloadClient _), x => x
  | (_, .workload _ _), x => x

/-- What a pass is given. -/
inductive FleetInput where
  | machine (inp : PassInput)
  | cluster (inp : ClusterInput)

/-- How a pass ends. -/
inductive FleetOutcome where
  | machine (out : MachineOutcome)
  | cluster (out : ClusterOutcome)
  | nothing

/-- A pass of the fleet. -/
abbrev FleetPass := Prog FleetCall FleetCall.Res FleetOutcome

/-- A pass over a machine, with its owner on every request. -/
def machineFleetPass (ns name : String) (inp : PassInput) (objs : Objects) : FleetPass :=
  ((startPass inp objs).mapOp (.verda (.machine ns name)) fun _ x => x) >>= fun out => .ret (.machine out)

/-- A pass over a cluster, with its owners on the requests to Verda. -/
def clusterFleetPass (ns name : String) (inp : ClusterInput) (vc : VerdaCluster) : FleetPass :=
  ((startClusterPass inp vc).mapOp (ofCluster ns name) (ofClusterRes ns name)) >>= fun out =>
    .ret (.cluster out)

/-- A pass over the object that is stored under a key. -/
def startFleetPass : Key → FleetInput → Stored → FleetPass
  | .machine ns name, .machine inp, .machine objs => machineFleetPass ns name inp objs
  | .cluster ns name, .cluster inp, .cluster vc => clusterFleetPass ns name inp vc
  | _, _, _ => .ret .nothing

/-- The stored object after a pass that read `seen`. -/
def persistFleet (p : Patch) : (seen stored : Stored) → FleetOutcome → Stored
  | .machine seen, .machine objs, .machine out => .machine (persist p seen objs out)
  | .cluster seen, .cluster vc, .cluster out => .cluster (persistCluster p seen vc out)
  | _, obj, _ => obj

/-- What users do to an object. -/
inductive FleetEdit where
  | machine (e : Edit)
  | cluster (e : ClusterEdit)

/-- Edit a stored object. -/
def editFleet : FleetEdit → Stored → Option Stored
  | .machine e, .machine objs => (edit e objs).map .machine
  | .cluster e, .cluster vc => (editCluster e vc).map .cluster
  | _, _ => none

/-- What users may do to an object. -/
def FleetTouched : Stored → Stored → Prop
  | .machine objs, .machine objs' => Touched objs objs'
  | .cluster vc, .cluster vc' => ClusterTouched vc vc'
  | _, _ => False

theorem editFleet_touched {e : FleetEdit} {obj obj' : Stored} (h : editFleet e obj = some obj') :
    FleetTouched obj obj' := by
  cases obj with
  | machine objs =>
    cases e with
    | cluster e => cases h
    | machine e =>
      rcases Option.map_eq_some_iff.1 h with ⟨objs', he, rfl⟩
      exact edit_touched he
  | cluster vc =>
    cases e with
    | machine e => cases h
    | cluster e =>
      rcases Option.map_eq_some_iff.1 h with ⟨vc', he, rfl⟩
      exact editCluster_touched he

/-- An edit before a patch is like one after it, or nothing of the patch arrives. -/
theorem FleetTouched.persist {obj obj' : Stored} (h : FleetTouched obj obj') (p : Patch) (seen : Stored)
    (out : FleetOutcome) : ∃ q, FleetTouched (persistFleet q seen obj out) (persistFleet p seen obj' out) := by
  cases obj with
  | machine objs =>
    cases obj' with
    | cluster vc' => exact h.elim
    | machine objs' =>
      cases seen with
      | cluster seen => exact ⟨p, h⟩
      | machine seen =>
        cases out with
        | machine out => exact (Touched.persist h p seen out).imp fun _ hq => hq.2
        | _ => exact ⟨p, h⟩
  | cluster vc =>
    cases obj' with
    | machine objs' => exact h.elim
    | cluster vc' =>
      cases seen with
      | machine seen => exact ⟨p, h⟩
      | cluster seen =>
        cases out with
        | cluster out => exact (ClusterTouched.persist h p seen out).imp fun _ hq => hq.2
        | _ => exact ⟨p, h⟩

/-! ## The world -/

/-- The accounts, and the IDs of the startup scripts that were listed. -/
structure FleetWorld where
  cloud : World Owner
  seen : List String := []

/-- The IDs that a request lists. -/
def listedIDs (w : World Owner) (o : AccountCall) : List String :=
  if o.2.op = .scriptsGetAll then (w.account o.1).scripts.rows.map (·.id) else []

/-- The answer to a request, and the world after it. What is created has an ID that no listing
showed. -/
def fleetAnswer (ch : ClusterChoice) (w : FleetWorld) :
    (o : FleetCall) → Option (FleetCall.Res o × FleetWorld)
  | .verda who o =>
    match ch with
    | .verda ch =>
      match answer who ch w.cloud o with
      | some (x, cloud) =>
        if ∀ e ∈ cloud.made, e ∈ w.cloud.made ∨ e.id ∉ w.seen then
          some (x, { cloud, seen := listedIDs w.cloud o ++ w.seen })
        else none
      | none => none
    | _ => none
  | .other c => (ch.replyTo c).map (·, w)

/-- The instance carries a reserved value under one of the three tags. -/
def carriesReserved (reserved : String → String → Bool) (i : Sdk.Instance) : Bool :=
  [tagMachine, tagLoadBalancer, tagServiceLoadBalancer].any fun key => reserved key (tagOf i key)

/-- Accounts move on. -/
def fleetDrift (reserved : String → String → Bool) (d : AccountID × Account) (w : FleetWorld) :
    Option FleetWorld :=
  if DriftsApart (carriesReserved reserved) w.cloud d.1 d.2 then
    some { w with cloud := w.cloud.set d.1 d.2 }
  else none

/-- The passes over all objects. `reserved` are the tags that only these objects give out. -/
def fleetSystem (reserved : String → String → Bool) :
    System Key FleetWorld FleetCall FleetCall.Res Stored FleetOutcome
      FleetInput ClusterChoice Patch (AccountID × Account) FleetEdit where
  start := startFleetPass
  answer _ := fleetAnswer
  persist := persistFleet
  drift := fleetDrift reserved
  edit := editFleet

/-- A state of such a run. -/
abbrev FleetState := State Key FleetWorld FleetCall FleetCall.Res Stored FleetOutcome

/-- Conditions on such a run. -/
abbrev FleetConds :=
  Conditions Key FleetWorld FleetCall Stored FleetOutcome FleetInput Patch FleetEdit

/-- A move of such a run. -/
abbrev FleetMove := Move Key FleetInput ClusterChoice Patch (AccountID × Account) FleetEdit

/-- Only these objects are reconciled, and all of them use one account. -/
abbrev reconciles (keys : Set Key) (a₀ : AccountID) : FleetConds where
  start key _ _ _ := key ∈ keys
  call _ _ _ o := ∀ who b, o = .verda who b → b.1 = a₀

/-! ## What a move changes -/

/-- How the world moves on: the log only grows, and only by IDs that no listing showed. -/
structure FleetGrows (w w' : FleetWorld) : Prop where
  made : ∀ e ∈ w.cloud.made, e ∈ w'.cloud.made
  fresh : ∀ e ∈ w'.cloud.made, e ∈ w.cloud.made ∨ e.id ∉ w.seen
  seen : ∀ id ∈ w.seen, id ∈ w'.seen

theorem FleetGrows.refl (w : FleetWorld) : FleetGrows w w := ⟨fun _ h => h, fun _ h => .inl h, fun _ h => h⟩

theorem FleetGrows.trans {w w' w'' : FleetWorld} (h : FleetGrows w w') (h' : FleetGrows w' w'') :
    FleetGrows w w'' := by
  refine ⟨fun e he => h'.made e (h.made e he), fun e he => ?_, fun id hid => h'.seen id (h.seen id hid)⟩
  rcases h'.fresh e he with hold | hnew
  · exact h.fresh e hold
  · exact .inr fun hseen => hnew (h.seen e.id hseen)

section

variable {reserved : String → String → Bool} {ch : ClusterChoice} {w w' : FleetWorld} {who : Owner}
  {o : AccountCall}

/-- A request to Verda is answered by the account. -/
theorem fleetAnswer_verda {x : AccountCall.Res o}
    (h : fleetAnswer ch w (.verda who o) = some (x, w')) :
    (∃ ch', answer who ch' w.cloud o = some (x, w'.cloud)) ∧ FleetGrows w w' ∧
      w'.seen = listedIDs w.cloud o ++ w.seen := by
  simp only [fleetAnswer] at h
  split at h
  · rename_i ch'
    split at h
    · rename_i y cloud hans
      split at h
      · rename_i hfresh
        cases h
        refine ⟨⟨ch', hans⟩, ⟨answer_grows hans, hfresh, fun id hid => ?_⟩, rfl⟩
        exact List.mem_append_right _ hid
      · cases h
    · cases h
  · cases h

theorem fleetAnswer_other {c : ClusterCall} {x : ClusterCall.Res c}
    (h : fleetAnswer ch w (.other c) = some (x, w')) : w' = w := by
  rcases Option.map_eq_some_iff.1 h with ⟨r, -, heq⟩
  cases heq
  rfl

theorem fleetDrift_cloud {d : AccountID × Account} (h : fleetDrift reserved d w = some w') :
    w'.seen = w.seen ∧ w'.cloud = w.cloud.set d.1 d.2 ∧
      DriftsApart (carriesReserved reserved) w.cloud d.1 d.2 := by
  unfold fleetDrift at h
  split at h
  · rename_i hd
    cases h
    exact ⟨rfl, rfl, hd⟩
  · cases h

theorem fleetDrift_grows {d : AccountID × Account} (h : fleetDrift reserved d w = some w') :
    FleetGrows w w' := by
  rcases fleetDrift_cloud h with ⟨hseen, hcloud, -⟩
  have hmade : w'.cloud.made = w.cloud.made := by rw [hcloud]; rfl
  refine ⟨fun e he => ?_, fun e he => ?_, fun id hid => ?_⟩
  · rw [hmade]
    exact he
  · rw [hmade] at he
    exact .inl he
  · rw [hseen]
    exact hid

end

/-! ## Settings -/

section

variable {W : Type} {S : Setting W FleetCall FleetCall.Res} {ns name : String} {w w' : W}

/-- A setting as a pass over a machine sees it. -/
def machineView (S : Setting W FleetCall FleetCall.Res) (ns name : String) :
    Setting W AccountCall AccountCall.Res :=
  S.comap (.verda (.machine ns name)) fun _ x => x

/-- A setting as a pass over a cluster sees it. -/
def clusterView (S : Setting W FleetCall FleetCall.Res) (ns name : String) :
    Setting W ScopedCall ScopedCall.Res :=
  S.comap (ofCluster ns name) (ofClusterRes ns name)

theorem wp_machineFleetPass {inp : PassInput} {objs : Objects} {Q : FleetOutcome → W → Prop}
    (h : (startPass inp objs).wp (machineView S ns name) (fun out w => Q (.machine out) w) w) :
    (machineFleetPass ns name inp objs).wp S Q w :=
  Prog.wp_map (Prog.wp_mapOp h)

theorem wp_clusterFleetPass {inp : ClusterInput} {vc : VerdaCluster} {Q : FleetOutcome → W → Prop}
    (h : (startClusterPass inp vc).wp (clusterView S ns name) (fun out w => Q (.cluster out) w) w) :
    (clusterFleetPass ns name inp vc).wp S Q w :=
  Prog.wp_map (Prog.wp_mapOp h)

theorem machineView_step {a : AccountID} {c : Call} {x : Call.Res c}
    (h : (atAccount (machineView S ns name) a).step w c x w') :
    S.step w (.verda (.machine ns name) (a, c)) x w' := by
  rcases atAccount_step.1 h with ⟨y, rfl, hs⟩
  exact hs

theorem clusterView_step {a : AccountID} {lb : LoadBalancer} {c : Call} {x : Call.Res c}
    (h : (atVerda (atClient (clusterView S ns name) a) lb).step w c x w') :
    S.step w (.verda (lbOwner ns name lb) (a, c)) x w' := by
  rcases atClient_step.1 (atVerda_step.1 h) with ⟨y, rfl, hs⟩
  exact hs

theorem clusterView_other {a : AccountID} {c : ClusterCall} {x : ClusterCall.Res c} (hc : NotVerda c)
    (h : (atClient (clusterView S ns name) a).step w c x w') :
    ∃ y : ClusterCall.Res c, S.step w (.other c) y w' := by
  rcases atClient_step.1 h with ⟨y, -, hs⟩
  cases c with
  | verda lb c => exact absurd rfl (hc lb c)
  | _ => exact ⟨y, hs⟩

end

end VerdaCapi.Controller
