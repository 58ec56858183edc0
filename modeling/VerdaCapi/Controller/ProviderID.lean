import VerdaCapi.Bootstrap.CloudConfig
import VerdaCapi.Ccm.Provider
import VerdaCapi.Controller.Duplicates

/-!
# The provider ID of a machine

`spec.providerID` is written from the hostname of whatever `findInstance` hands back. For an instance
Verda no longer answers for, `findInstance` makes up a record that has an ID and a status but no
hostname, and before the machine is provisioned the provider ID becomes `verda://`.

`providerID_ofNode`: as long as the recorded instance of an unprovisioned machine is still there, the
provider ID is empty or `verda://<name>`, which is also what the bootstrap script tells the kubelet
and what the cloud controller manager reports. `providerID_lost` is a run in which it is not.
-/

namespace VerdaCapi.Controller

open Remote Go Api Cloud Webhook Ccm Bootstrap

/-- The provider ID is empty or the one of the node of this name. -/
def NodeID (name : String) (vm : VerdaMachine) : Prop :=
  vm.spec.providerID = "" ∨ vm.spec.providerID = Api.providerID name

instance (name : String) (vm : VerdaMachine) : Decidable (NodeID name vm) :=
  inferInstanceAs (Decidable (_ ∨ _))

/-- The account has the instance of this ID that was created for the machine. -/
def HasCreated (a : AccountID) (w : World Unit) (id : String) : Prop :=
  ⟨(), .instance_, a, id⟩ ∈ w.made ∧ ∃ i ∈ (w.account a).instances.rows, i.id = id

instance (a : AccountID) (w : World Unit) (id : String) : Decidable (HasCreated a w id) :=
  inferInstanceAs (Decidable (_ ∧ _))

/-- The edit leaves the provider ID alone. -/
def KeepsProviderID (e : Edit) (objs : Objects) : Prop :=
  ∀ objs' ∈ edit e objs, objs'.machine.spec.providerID = objs.machine.spec.providerID

instance (e : Edit) (objs : Objects) : Decidable (KeepsProviderID e objs) :=
  inferInstanceAs (Decidable (∀ objs' ∈ (_ : Option Objects), _))

/-- Users leave the provider ID alone. -/
abbrev keepsProviderID : MachineConditions Unit where
  edit _ e objs := KeepsProviderID e objs

/-- Whenever the recorded instance of a machine that is neither provisioned nor deleted is looked up,
the account that is asked still has it. Users leave the provider ID alone. -/
abbrev hasRecorded : MachineConditions Unit where
  call _ objs w o := o.2.method = .getInstance →
    objs.machine.metadata.deletionTimestamp = none → isSet objs.machine.status.provisioned = false →
      HasCreated o.1 w objs.machine.status.instanceID
  edit _ e objs := KeepsProviderID e objs

/-- Instances of the machine, whether known by tag or by the log, have its name as hostname. -/
structure NamedInstances (ns name : String) (w : World Unit) : Prop where
  tagged : ∀ b, ∀ i ∈ (w.account b).instances.rows, tagOf i tagMachine = tagFor ns name →
    i.hostname = name
  logged : ∀ e ∈ w.made, e.kind = .instance_ → ∀ i ∈ (w.account e.account).instances.rows,
    i.id = e.id → i.hostname = name

/-- What is known of the object: which machine it is, and its provider ID. -/
structure KnownAs (ns name : String) (vm : VerdaMachine) : Prop where
  ns_eq : vm.metadata.ns = ns
  name_eq : vm.metadata.name = name
  providerID : NodeID name vm

def nodeIDs (ns name : String) : Invariant (oneMachine ns name) hasRecorded where
  inv := NamedInstances ns name
  loc _ objs _ := KnownAs ns name objs.machine
  touch _ objs objs' :=
    Touched objs objs' ∧ objs'.machine.spec.providerID = objs.machine.spec.providerID
  rely _ _ _ := True
  guar _ _ _ o := ∀ req, o.2.op = .instancesCreate req → req.hostname = name
  done _ _ out _ := ∀ sent, out.sent = some sent → NodeID name sent

section

variable {ns name : String} {objs : Objects} {a : AccountID} {w w' : World Unit} {vm : VerdaMachine}

/-! ## The instances -/

/-- Later records of the same instances keep their hostnames. -/
theorem NamedInstances.keeps (h : NamedInstances ns name w) (hk : KeepsInstances w w') :
    NamedInstances ns name w' where
  tagged b i' hi' htag := by
    rcases hk.rows b i' hi' with ⟨i, hi, hkeep⟩
    rw [hkeep.hostname]
    exact h.tagged b i hi (hkeep.tagOf tagMachine ▸ htag)
  logged e he hkind i' hi' hid := by
    rcases hk.rows _ i' hi' with ⟨i, hi, hkeep⟩
    rw [hkeep.hostname]
    exact h.logged e ((hk.made e hkind).1 he) hkind i hi (hkeep.id ▸ hid)

/-- Instances that appear on their own do not count as ours. -/
theorem NamedInstances.drift (h : NamedInstances ns name w) {d : AccountID × Account}
    (hd : Cloud.drift (· == tagFor ns name) d w = some w') : NamedInstances ns name w' where
  tagged b i' hi' htag := by
    rcases (drift_instances hd).2 b i' hi' with ⟨i, hi, hkeep⟩ | ⟨-, hnew⟩
    · rw [hkeep.hostname]
      exact h.tagged b i hi (hkeep.tagOf tagMachine ▸ htag)
    · simp [htag] at hnew
  logged e he hkind i' hi' hid := by
    rw [(drift_instances hd).1] at he
    rcases (drift_instances hd).2 _ i' hi' with ⟨i, hi, hkeep⟩ | ⟨hunused, -⟩
    · rw [hkeep.hostname]
      exact h.logged e he hkind i hi (hkeep.id ▸ hid)
    · exact absurd hid.symm ((hunused i'.id (List.mem_singleton_self _)).2 e he)

/-- A new instance has the hostname that was asked for. -/
theorem NamedInstances.create (h : NamedInstances ns name w) {req : Sdk.CreateInstanceRequest}
    (hreq : req.hostname = name) {i : Sdk.Instance} {vs : List Sdk.Volume}
    (hc : Creates w a req i vs) : NamedInstances ns name (w.create () a hc) where
  tagged b j hj htag := by
    rcases mem_create_instances.1 hj with ⟨-, rfl⟩ | hj
    · rw [hc.hostname, hreq]
    · exact h.tagged b j hj htag
  logged e he hkind j hj hid := by
    rcases mem_create_instances.1 hj with ⟨-, rfl⟩ | hj
    · rw [hc.hostname, hreq]
    · rcases (mem_create_made_instance hkind).1 he with rfl | he
      · -- an old row cannot have the ID that was handed out
        have hdup := hc.instances
        simp only [List.singleton_append, List.map_cons, List.nodup_cons] at hdup
        exact absurd (List.mem_map.2 ⟨j, hj, hid⟩) hdup.1
      · exact h.logged e he hkind j hj hid

theorem NamedInstances.answer (h : NamedInstances ns name w) {c : Choice} {o : AccountCall}
    {x : AccountCall.Res o} (hg : ∀ req, o.2.op = .instancesCreate req → req.hostname = name)
    (hans : Cloud.answer () c w o = some (x, w')) : NamedInstances ns name w' := by
  rcases o with ⟨a, m, op⟩
  by_cases hop : ∃ req, op = .instancesCreate req
  · rcases hop with ⟨req, rfl⟩
    rcases answer_instancesCreate hans with ⟨rfl, -⟩ | ⟨i, vs, hc, rfl, -⟩
    · exact h
    · exact h.create (hg req rfl) hc
  · exact h.keeps (answer_keepsInstances (fun req hreq => hop ⟨req, hreq⟩) hans)

/-! ## Passes -/

/-- The setting of a pass, at one account. -/
abbrev nodesAt (ns name : String) (objs : Objects) (a : AccountID) :
    Setting (World Unit) Call Call.Res :=
  atAccount ((nodeIDs ns name).setting () objs) a

theorem nodes_lawful : (nodesAt ns name objs a).Lawful :=
  Setting.Lawful.atAccount ⟨fun _ => trivial, fun _ _ => trivial⟩

/-- The world does not matter to what is shown of a pass. -/
theorem nodes_stable (P : Prop) : (nodesAt ns name objs a).Stable fun _ => P :=
  fun _ _ h _ _ => h

/-- What a pass without creation returns is known from its footprint alone. -/
theorem nodes_frame {α : Type} {M : List Method} {p : ClientM α} {R : α → Prop}
    (hp : p.Obeys (Uses M) R) (hM : .createInstance ∉ M) (w : World Unit) :
    p.wp (nodesAt ns name objs a) (fun r _ => R r) w := by
  refine Prog.wp_mono (fun _ _ _ h => h.2) (Prog.wp_frame hp (nodes_stable True) ?_
    (fun _ _ _ _ _ _ _ _ _ => trivial) trivial)
  intro w c hc _ _ req hreq
  exact absurd hreq (hc.ne_instancesCreate hM req)

/-- An instance that is found for an unprovisioned machine has the machine's name. -/
theorem nodes_findInstance (hdel : objs.machine.metadata.deletionTimestamp = none)
    (hprov : isSet objs.machine.status.provisioned = false) (w : World Unit) :
    (findInstance objs.machine).wp (nodesAt ns name objs a)
      (fun r _ => (r = .ok none → True) ∧ ∀ inst, r = .ok (some inst) → inst.hostname = name) w := by
  rw [findInstance_eq]
  refine wp_lookupInstance (fun _ => nodes_stable _) ?_
    (fun _ w x w' _ hi hs => ⟨fun _ => trivial, fun inst hinst => ?_⟩)
    fun _ w x w' _ hi hs => ⟨fun _ => trivial, fun inst hinst => ?_⟩
  · rintro w _ (rfl | rfl) - req hreq <;> cases hreq
  · rcases atAccount_step.1 hs with ⟨hcond, c, hans⟩
    rcases hcond rfl hdel hprov with ⟨hmade, j, hj, hjid⟩
    rcases answer_instancesGetByID hans with ⟨-, ⟨i, hi', hiid, rfl⟩ | ⟨hnone, rfl⟩ | ⟨e, rfl, he⟩⟩
    · cases hinst
      exact hi.1.logged _ hmade rfl i hi' hiid
    · -- the account still has the instance
      exact absurd hjid (hnone j hj)
    · simp [pickByID, he] at hinst
  · rcases atAccount_step.1 hs with ⟨-, c, hans⟩
    have htag : machineTagValue objs.machine = tagFor ns name := by
      rw [machineTagValue, hi.2.ns_eq, hi.2.name_eq, tagFor]
    rcases answer_instancesGet hans with ⟨-, rfl | ⟨e, rfl⟩⟩
    · rcases pickByTag_some hinst with ⟨i, hmem, hlive, rfl⟩
      exact hi.1.tagged a i hmem (hlive.1.trans htag)
    · cases hinst

/-- A normal pass leaves the provider ID empty or that of the node. -/
theorem nodes_reconcileNormal (boot : BootstrapInput) (cluster : Cluster) (vc : VerdaCluster)
    (machine : Machine) (w : World Unit) (hknown : KnownAs ns name objs.machine)
    (hdel : objs.machine.metadata.deletionTimestamp = none) :
    (reconcileNormal boot cluster vc machine objs.machine).wp (nodesAt ns name objs a)
      (fun r _ => NodeID name r.2) w := by
  refine wp_reconcileNormal nodes_lawful (fun r => nodes_stable _) ?_ ?_ ?_
  · intro _
    refine Prog.wp_mono ?_ (nodes_frame (resyncInstance_uses objs.machine) (by decide) w)
    intro r _ _ h
    show r.2.spec.providerID = "" ∨ _
    rw [h.2.1]
    exact hknown.providerID
  · intro reply vm' hvm'
    rcases hvm' with ⟨c, rfl⟩
    exact hknown.providerID
  · intro hprov
    refine Prog.wp_mono ?_ (wp_acquire nodes_lawful (nodes_stable True) (fun inst => nodes_stable _)
      (nodes_findInstance hdel hprov w) ?_ ?_)
    · intro r w _ h
      rcases r with ⟨reply | inst, vm'⟩
      · rcases h.1 with ⟨id, c, rfl⟩
        exact hknown.providerID
      · refine Prog.wp_mono ?_ (nodes_frame (settleInstance_uses vc vm' inst) (by decide) w)
        intro r _ _ hr
        rcases hr.spec with hspec | ⟨-, hspec⟩
        · refine .inr ?_
          rw [hspec, h.2 inst rfl]
        · exact .inl (by rw [hspec])
    · exact fun c w _ hc _ => ⟨fun req hreq => absurd hreq (hc req), fun _ _ _ _ _ => trivial⟩
    · intro vm' bootFrom script sid w hvm' _ hi
      have hname : vm'.metadata.name = name := by
        rcases hvm' with ⟨id, c, rfl⟩
        exact hi.2.name_eq
      refine ⟨fun req hreq => ?_, fun i w' hs _ out _ hout => ?_⟩
      · cases hreq
        exact hname
      · rcases atAccount_step.1 hs with ⟨-, ch, hans⟩
        rcases answer_created hans with ⟨vs, hc, -⟩
        rw [hout, hc.hostname]
        exact hname

theorem KnownAs.of_eq {vm vm' : VerdaMachine} (h : KnownAs ns name vm) (hm : vm'.metadata = vm.metadata)
    (hs : vm'.spec = vm.spec) : KnownAs ns name vm' := by
  refine ⟨by rw [hm, h.ns_eq], by rw [hm, h.name_eq], ?_⟩
  rw [NodeID, hs]
  exact h.providerID

/-- Whatever part of the patch is stored, the object is known as it was. -/
theorem nodeIDs_store {out : MachineOutcome} (hknown : KnownAs ns name objs.machine)
    (hsent : ∀ sent, out.sent = some sent → KnownAs ns name sent) :
    (nodeIDs ns name).done () objs out w ∧
      ∀ p, (nodeIDs ns name).loc () (persist p objs objs out) w := by
  refine ⟨fun sent hs => (hsent sent hs).providerID, fun p => ?_⟩
  rcases @persist_resource p objs out with ⟨hm, hs⟩ | ⟨sent, hsome, hm, hs⟩
  · exact hknown.of_eq hm hs
  · exact (hsent sent hsome).of_eq hm hs

theorem nodeIDs_valid : (nodeIDs ns name).Valid where
  refl _ _ := trivial
  trans _ {_ _ _} _ _ := trivial
  drift hinv hd := ⟨NamedInstances.drift hinv hd, fun _ => ⟨fun _ => trivial, fun _ h => h⟩⟩
  edit hkeep he := ⟨edit_touched he, hkeep _ he⟩
  touched {i obj obj' w} _ hloc h := by
    refine ⟨h.1.ns.trans hloc.ns_eq, h.1.name.trans hloc.name_eq, ?_⟩
    show obj'.machine.spec.providerID = "" ∨ obj'.machine.spec.providerID = _
    rw [h.2]
    exact hloc.providerID
  merge {i p seen obj obj' r} h _ := by
    rcases h.1.persist_cases p seen r with ⟨hlost, hpatch⟩ | ⟨sent, hbefore, hafter⟩
    · refine ⟨.lost, trivial, ?_⟩
      simp only [oneMachine, machineSystem, hlost, hpatch]
      exact h
    · refine ⟨p, trivial, ?_⟩
      simp only [oneMachine, machineSystem, hbefore, hafter]
      exact ⟨h.1.apply p seen.machine sent, Patch.apply_providerID h.2 p seen.machine sent⟩
  call hinv hloc _ hg hans :=
    ⟨NamedInstances.answer hinv hg hans, hloc, fun j hj => absurd rfl hj⟩
  pass {i inp obj w} _ hloc _ := by
    have hknown : KnownAs ns name obj.machine := hloc
    refine Invariant.wp_persist ?_
    refine wp_startPass inp obj ?_ ?_ ?_
    · intro out hout w' _ _
      refine nodeIDs_store hknown fun sent hs => ?_
      obtain ⟨fs, c, rfl⟩ := hout sent hs
      exact ⟨hknown.ns_eq, hknown.name_eq, hknown.providerID⟩
    · intro a _
      refine Prog.wp_mono ?_
        (nodes_frame (reconcileDelete_uses inp.now obj.machine) (by decide) w)
      intro r w _ h
      refine nodeIDs_store hknown fun sent hs => ?_
      cases hs
      refine ⟨h.ns.trans hknown.ns_eq, h.name.trans hknown.name_eq, ?_⟩
      show r.2.spec.providerID = "" ∨ r.2.spec.providerID = _
      rw [h.spec]
      exact hknown.providerID
    · intro a cluster vc machine hdel
      refine Prog.wp_mono ?_ (Prog.wp_and_obeys
        (reconcileNormal_uses inp.boot cluster vc machine obj.machine)
        (nodes_reconcileNormal inp.boot cluster vc machine w hknown hdel))
      intro r w _ h
      refine nodeIDs_store hknown fun sent hs => ?_
      cases hs
      refine ⟨?_, ?_, h.1⟩
      · show r.2.metadata.ns = ns
        rw [h.2]
        exact hknown.ns_eq
      · show r.2.metadata.name = name
        rw [h.2]
        exact hknown.name_eq

end

/-- The provider ID, wherever it is written: in the stored machine, in a patch about to be sent, in what
the cloud controller manager reports of an instance of the machine, by `InstanceMetadata` for any node
whose lookup finds it, and in the kubelet's flag once `ToStartupScript` has replaced a placeholder for
the hostname. -/
structure ProviderIDs (name : String) (s : MachineState Unit) : Prop where
  stored : NodeID name (s.obj ()).machine
  sent : ∀ out vm, s.run () = some (.ret out) → out.sent = some vm → NodeID name vm
  reported : ∀ e ∈ s.world.made, e.kind = .instance_ →
    ∀ i ∈ (s.world.account e.account).instances.rows, i.id = e.id →
      (metadataOf (toInstance i)).providerID = Api.providerID name ∧
      ∀ node tr, (lookup node).Runs tr (.ok (toInstance i)) →
        (instanceMetadata node).Runs tr (.ok (metadataOf (toInstance i)))
  substituted : ∀ placeholder ∈ hostnamePlaceholders,
    resolveHostname (bytes "--provider-id=verda://" ++ placeholder) name =
      bytes ("--provider-id=" ++ Api.providerID name)

/-- **The provider ID is the node's**, in every run in which the recorded instance of a machine that is
not provisioned yet is still there when it is looked up. Names have no braces. -/
theorem providerID_ofNode {ns name : String} (hname : 0x7b ∉ bytes name) {s₀ s : MachineState Unit}
    (h₀ : Initial ns name s₀) (h : Reach (oneMachine ns name) hasRecorded s₀ s) :
    ProviderIDs name s := by
  have hholds : (nodeIDs ns name).Holds s := by
    refine Invariant.sound nodeIDs_valid ⟨?_, ?_⟩ ?_ (fun _ => h₀.idle) h
    · intro b i hi htag
      exact absurd htag (h₀.untagged b i hi)
    · intro e he
      rw [h₀.made] at he
      cases he
    · exact fun _ => ⟨h₀.machine_ns, h₀.machine_name, .inl h₀.providerID⟩
  refine ⟨(hholds.loc ()).providerID, fun out vm hrun hsent => ?_, fun e he hkind i hi hid => ?_,
    fun placeholder hp => ?_⟩
  · exact hholds.done nodeIDs_valid hrun vm hsent
  · refine ⟨?_, fun _ _ => runs_instanceMetadata⟩
    rw [metadataOf_providerID]
    show Api.providerID i.hostname = _
    rw [hholds.inv.logged e he hkind i hi hid]
  · have hflag : bytes "--provider-id=verda://" =
        bytes "--provider-id=" ++ bytes Api.providerIDPrefix := by decide
    rw [resolveHostname_append (by decide) hname hp, hflag, Api.providerID, bytes_append, bytes_append,
      List.append_assoc]

/-- The instance is created in one pass and found by its recorded ID in the next. -/
theorem providerID_ofNode_sample : ∃ s : MachineState Unit,
    (s.obj ()).machine.spec.providerID = "verda://m0" ∧ ProviderIDs "m0" s := by
  obtain ⟨s, hs, hgood⟩ := exists_reach_meeting (oneMachine "default" "m0") hasRecorded sampleState
    (fun s => (s.obj ()).machine.spec.providerID == "verda://m0")
    ([.start () sampleInput] ++ accepted 3 ++
      [.answer () (.accept (.instance_ (sampleInstance "x1" "provisioning") [])), .finish () {},
        .start () sampleInput] ++ accepted 1 ++ [.finish () {}])
    (by decide +kernel)
  exact ⟨s, by simpa using hgood, providerID_ofNode (by decide) sampleState_initial hs⟩

/-- The patch of the first pass is stored in its status but not in its spec, and the instance ends
before it is provisioned: the next pass writes the provider ID of no host. -/
theorem providerID_lost : ∃ s₀ s : MachineState Unit, Initial "default" "m0" s₀ ∧
    Reach (oneMachine "default" "m0") keepsProviderID s₀ s ∧ ¬ NodeID "m0" (s.obj ()).machine := by
  obtain ⟨s, hs, hbad⟩ := exists_reach_meeting (oneMachine "default" "m0") keepsProviderID sampleState
    (fun s => decide (¬ NodeID "m0" (s.obj ()).machine))
    ([.start () sampleInput] ++ accepted 3 ++
      [.answer () (.accept (.instance_ (sampleInstance "x1" "provisioning") [])),
        .finish () { spec := false }, relist [] (by decide), .start () sampleInput] ++ accepted 1 ++
      [.finish () {}])
    (by decide +kernel)
  exact ⟨sampleState, s, sampleState_initial, hs, by simpa using hbad⟩

end VerdaCapi.Controller
