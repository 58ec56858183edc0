import VerdaCapi.Api.Names
import VerdaCapi.Cloud.ManagedGuard
import VerdaCapi.Controller.ScriptOwners

/-!
# Tags keep owners apart

An instance belongs to the object whose namespace and name are in its tag. `truncateTag` cuts that tag
after 127 characters. A namespace may have 63 characters and a name 253, so objects of one namespace whose
names agree up to the cut share their tag, and with it their instances.

`apart_iff`: two objects of a kind have different tags, neither of them ever finds an instance that was
created for the other, and no request made for one of them ends such an instance, if and only if
`namespace/name` of the two differ within the first 127 characters. `taken_over` is a run in which a
machine that is being deleted shuts down the instance of another one.
-/

namespace VerdaCapi.Controller

open Remote Go Api Cloud Webhook

/-! ## Names and tags -/

/-- The namespace and the name of an object. -/
def Key.path : Key → String
  | .machine ns name => ns ++ "/" ++ name
  | .cluster ns name => ns ++ "/" ++ name

/-- The key of an object that Kubernetes accepts. -/
def Key.valid : Key → Bool
  | .machine ns name => validNamespace ns && validName name
  | .cluster ns name => validNamespace ns && validName name

theorem Key.toLower_path {key : Key} (h : key.valid = true) {c : Char} (hc : c ∈ key.path.toList) :
    c.toLower = c := by
  have hboth : ∀ {ns name : String}, (validNamespace ns && validName name) = true →
      c ∈ (ns ++ "/" ++ name).toList → c.toLower = c := by
    intro ns name h hc
    simp only [validNamespace, Bool.and_eq_true] at h
    simp only [String.toList_append, List.mem_append] at hc
    rcases hc with (hns | hslash) | hname
    · exact toLower_of_isLabel h.1.2 hns
    · obtain rfl : c = '/' := by simpa using hslash
      rfl
    · exact toLower_of_validName h.2 hname
  cases key with
  | machine ns name => exact hboth h hc
  | cluster ns name => exact hboth h hc

theorem truncateTag_eq (v : String) :
    truncateTag v = String.ofList ((v.toList.take 127).map Char.toLower) := by
  unfold truncateTag
  split
  · simp [toLower]
  · rename_i hlen
    rw [List.take_of_length_le (by rw [String.length_toList]; exact Nat.not_lt.1 hlen), toLower]

/-- The tags of two accepted objects are the same if and only if the two agree up to the cut. -/
theorem truncateTag_path_iff {k k' : Key} (hk : k.valid = true) (hk' : k'.valid = true) :
    truncateTag k.path = truncateTag k'.path ↔ k.path.toList.take 127 = k'.path.toList.take 127 := by
  have hid : ∀ {k : Key}, k.valid = true →
      (k.path.toList.take 127).map Char.toLower = k.path.toList.take 127 := by
    intro k hk
    exact (List.map_congr_left fun c hc => k.toLower_path hk (List.mem_of_mem_take hc)).trans (List.map_id _)
  rw [truncateTag_eq, truncateTag_eq, hid hk, hid hk', String.ofList_inj]

/-! ## Instances of owners with one tag -/

section

variable {who : Owner} {id : String} {w w' : FleetWorld} {c : Call}

/-- The instance was created for an owner with the same tag. -/
def Kin (who : Owner) (id : String) (w : FleetWorld) : Prop :=
  ∃ who' : Owner, who'.tagKey = who.tagKey ∧ who'.tagValue = who.tagValue ∧ CreatedFor who' id w.cloud

/-- There is no such instance, or it was created for an owner with the same tag. -/
def KinIfAny (who : Owner) (id : String) (w : FleetWorld) : Prop := id ≠ "" → Kin who id w

/-- What is in the log of instances, and where the tags are. -/
structure KinTagged (w : FleetWorld) : Prop where
  named : ∀ e ∈ w.cloud.made, e.kind = .instance_ → e.id ≠ ""
  unique : ∀ e ∈ w.cloud.made, ∀ e' ∈ w.cloud.made, e.kind = .instance_ → e'.kind = .instance_ →
    e.id = e'.id → e.owner = e'.owner
  tagged : ∀ who : Owner, Tagged who.tagKey who.tagValue (fun i => Kin who i.id w) w.cloud

/-- The requests that may be made for an owner: it ends instances of owners with its tag only, and what
it creates carries its tag. -/
structure Permitted (who : Owner) (w : FleetWorld) (c : Call) : Prop where
  ends : ∀ id ∈ endsInstances c.op, KinIfAny who id w
  creates : ∀ req, c.op = .instancesCreate req → CarriesTag who req

theorem lasting_kin : Lasting (Kin who id) := by
  rintro w w' ⟨who', hkey, hvalue, hmade⟩ hg
  exact ⟨who', hkey, hvalue, hmade.mono hg.made⟩

theorem lasting_kinIfAny : Lasting (KinIfAny who id) := fun w w' h hg hne => lasting_kin w w' (h hne) hg

/-- An instance of owners with one tag is not one of an owner with another. -/
theorem KinTagged.not_createdFor (h : KinTagged w) (hkin : KinIfAny who id w) {other : Owner}
    (hother : other.tagKey = who.tagKey → other.tagValue ≠ who.tagValue) : ¬ CreatedFor other id w.cloud := by
  rintro ⟨a, ha⟩
  rcases hkin (h.named _ ha rfl) with ⟨who', hkey, hvalue, b, hb⟩
  obtain rfl : other = who' := h.unique _ ha _ hb rfl rfl rfl
  exact hother hkey hvalue

theorem KinTagged.answer (h : KinTagged w) {a : AccountID} {x : Call.Res c} {ch : Choice}
    (hper : Permitted who w c) (hans : answer who ch w.cloud (a, c) = some (x, w'.cloud))
    (hg : FleetGrows w w') : KinTagged w' where
  named e he hkind := by
    rcases answer_instanceFresh hans he hkind with hold | ⟨-, hne, -⟩
    · exact h.named e hold hkind
    · exact hne
  unique e he e' he' hkind hkind' hid := by
    rcases answer_instanceFresh hans he hkind with hold | ⟨ho, -, hfresh⟩
    · rcases answer_instanceFresh hans he' hkind' with hold' | ⟨-, -, hfresh'⟩
      · exact h.unique e hold e' hold' hkind hkind' hid
      · exact absurd hid (hfresh' e hold)
    · rcases answer_instanceFresh hans he' hkind' with hold' | ⟨ho', -, -⟩
      · exact absurd hid.symm (hfresh e' hold')
      · exact ho.trans ho'.symm
  tagged who' b i' hi' htag := by
    rcases answer_instances hans b i' hi' with ⟨i, hi, hkeep⟩ | ⟨-, req, vs, hreq, hc, hmade⟩
    · rw [hkeep.id]
      exact lasting_kin w w' (h.tagged who' b i hi (hkeep.tagOf _ ▸ htag)) hg
    · -- the new instance carries one tag, the one of its owner
      rw [hc.tagOf, hper.creates req hreq _ who'.tagKey_mem] at htag
      split at htag
      · rename_i hkey
        exact ⟨who, hkey.symm, htag, b, hmade⟩
      · exact absurd htag.symm who'.tagValue_ne_empty

theorem KinTagged.drift (h : KinTagged w) {reserved : String → String → Bool}
    (hreserved : ∀ who : Owner, reserved who.tagKey who.tagValue = true) {d : AccountID × Account}
    (hd : fleetDrift reserved d w = some w') : KinTagged w' := by
  rcases fleetDrift_cloud hd with ⟨-, hcloud, hapart⟩
  have hmade : w'.cloud.made = w.cloud.made := by rw [hcloud]; rfl
  have hrows := hapart.instances
  rw [← hcloud] at hrows
  refine ⟨?_, ?_, fun who b i' hi' htag => ?_⟩
  · rw [hmade]
    exact h.named
  · rw [hmade]
    exact h.unique
  · rcases hrows b i' hi' with ⟨i, hi, hkeep⟩ | ⟨-, hnot⟩
    · rw [hkeep.id]
      exact lasting_kin w w' (h.tagged who b i hi (hkeep.tagOf _ ▸ htag)) (fleetDrift_grows hd)
    · have hcarries : carriesReserved reserved i' = true :=
        List.any_eq_true.2 ⟨who.tagKey, who.tagKey_mem, by rw [htag]; exact hreserved who⟩
      rw [hcarries] at hnot
      cases hnot

/-! ## Programs of the client -/

/-- The request ends no instance but this one, and creates none. -/
def EndsOnly (id : String) (c : Call) : Prop :=
  (∀ x ∈ endsInstances c.op, x = id) ∧ ∀ req, c.op ≠ .instancesCreate req

/-- Only `DeleteInstance` ends instances. -/
theorem endsInstances_of_uses {M : List Method} (h : Uses M c) (hM : .deleteInstance ∉ M) :
    endsInstances c.op = [] := by
  rcases c with ⟨m, op⟩
  have hm : m ≠ .deleteInstance := fun heq => hM (heq ▸ h.1)
  have hop : m.issues op = true := h.2
  cases op with
  | instancesShutdown id' => cases m <;> first | exact absurd rfl hm | cases hop
  | instancesDelete ids volumeIDs permanent => cases m <;> first | exact absurd rfl hm | cases hop
  | _ => rfl

theorem endsOnly_of_uses {M : List Method} (h : Uses M c)
    (hM : .deleteInstance ∉ M ∧ .createInstance ∉ M) (id : String) : EndsOnly id c := by
  refine ⟨fun x hx => ?_, h.ne_instancesCreate hM.2⟩
  rw [endsInstances_of_uses h hM.1] at hx
  cases hx

theorem deleteInstance_ends (id : String) : (deleteInstance id).Obeys (EndsOnly id) fun _ => True := by
  refine deleteInstance_obeys ?_ ?_ ?_ ?_
  · exact ⟨fun x hx => (by cases hx), fun req h => (by cases h)⟩
  · exact (purgeInstanceVolumes_uses (M := [.purgeInstanceVolumes]) id (by decide)).mono
      (fun c hc => endsOnly_of_uses hc (by decide) id) fun _ h => h
  · exact fun _ => ⟨fun x hx => List.mem_singleton.1 hx, fun req h => (by cases h)⟩
  · exact ⟨fun x hx => List.mem_singleton.1 hx, fun req h => (by cases h)⟩

end

/-- A setting for programs of the client that run for an owner against an account. -/
structure ForTag (S : Setting FleetWorld Call Call.Res) (a : AccountID) (who : Owner) : Prop where
  lawful : S.Lawful
  rely : ∀ {w w'}, S.rely w w' → FleetGrows w w'
  inv : ∀ {w}, S.inv w → KinTagged w
  guar : ∀ {w c}, Permitted who w c → S.guar w c
  step : ∀ {w c x w'}, S.step w c x w' → (∃ ch, answer who ch w.cloud (a, c) = some (x, w'.cloud)) ∧
    FleetGrows w w'

namespace ForTag

variable {S : Setting FleetWorld Call Call.Res} {a : AccountID} {who : Owner} {w : FleetWorld} {α : Type}

theorem keeps (hS : ForTag S a who) {P : FleetWorld → Prop} (hP : Lasting P) : S.Keeps P where
  stable w w' h hr _ := hP w w' h (hS.rely hr)
  step w _ _ w' h hs := hP w w' h (hS.step hs).2

theorem keepsIDs (hS : ForTag S a who) : KeepsIDs S (KinIfAny who) fun _ _ => True where
  id _ := hS.keeps lasting_kinIfAny
  script _ := .trivial
  noID _ h := absurd rfl h
  noScript _ := trivial

/-- A part that ends an instance of owners with the tag, or none. -/
theorem frame_ends (hS : ForTag S a who) (id : String) {p : ClientM α} {R : α → Prop}
    (hp : p.Obeys (EndsOnly id) R) (hw : KinIfAny who id w) : p.wp S (fun r _ => R r) w := by
  refine Prog.wp_mono (fun _ _ _ h => h.2) (Prog.wp_frame hp (hS.keeps lasting_kinIfAny).stable
    (fun w c hc hw _ => hS.guar ⟨fun x hx => ?_, fun req h => absurd h (hc.2 req)⟩)
    (fun w c x w' _ hw _ hs _ => (hS.keeps lasting_kinIfAny).step w c x w' hw hs) hw)
  rw [hc.1 x hx]
  exact hw

/-- A part that ends and creates none. -/
theorem frame (hS : ForTag S a who) {M : List Method} {p : ClientM α} {R : α → Prop}
    (hp : p.Obeys (Uses M) R) (hM : .deleteInstance ∉ M ∧ .createInstance ∉ M) :
    p.wp S (fun r _ => R r) w :=
  hS.frame_ends "" (hp.mono (fun _ hc => endsOnly_of_uses hc hM "") fun _ h => h) fun h => absurd rfl h

/-- Whatever a lookup returns was created for an owner with the tag. -/
theorem lookup (hS : ForTag S a who) {id : String} {pick : Pick} (hw : KinIfAny who id w)
    (hpick : ∀ x inst, pick x = .ok (some inst) → ∃ is, x = .ok is ∧
      ∃ i ∈ is, tagOf i who.tagKey = who.tagValue ∧ inst = toInstance i) :
    (lookupInstance id pick).wp S
      (fun r w => ∀ inst, r = .ok (some inst) → KinIfAny who inst.id w) w := by
  refine wp_lookupInstance (fun r w w' h hr hi inst hinst => lasting_kinIfAny w w' (h inst hinst) (hS.rely hr))
    ?_ (fun _ w₁ x w' hr hi hs inst hinst => ?_) fun _ w₁ x w' _ hi hs inst hinst => ?_
  · rintro w _ (rfl | rfl) - <;> exact hS.guar ⟨fun x hx => (by cases hx), fun req h => (by cases h)⟩
  · rcases hS.step hs with ⟨⟨ch, hans⟩, hg⟩
    have hw := lasting_kinIfAny w₁ w' (lasting_kinIfAny w w₁ hw (hS.rely hr)) hg
    rcases pickByID_eq_some hinst with ⟨i, rfl, rfl⟩ | rfl
    · rw [show (toInstance i).id = id from (answer_fetched hans).2]
      exact hw
    · exact hw
  · rcases hS.step hs with ⟨⟨ch, hans⟩, hg⟩
    rcases hpick x inst hinst with ⟨is, rfl, i, hmem, htag, rfl⟩
    rcases answer_instancesGet hans with ⟨-, heq | ⟨e, he⟩⟩
    · cases heq
      exact fun _ => lasting_kin w₁ w' ((hS.inv hi).tagged who a i hmem htag) hg
    · cases he

theorem created (hS : ForTag S a who) {m : Method} {req : Sdk.CreateInstanceRequest} {i : Sdk.Instance}
    {w' : FleetWorld} (hs : S.step w ⟨m, .instancesCreate req⟩ (.ok i) w') : KinIfAny who i.id w' := by
  rcases hS.step hs with ⟨⟨ch, hans⟩, -⟩
  rcases answer_created hans with ⟨vs, hc, hcloud⟩
  refine fun _ => ⟨who, rfl, rfl, a, ?_⟩
  rw [hcloud]
  exact (mem_create_made_instance rfl).2 (.inl rfl)

/-- What `CreateInstance` returns was created for the owner. -/
theorem create (hS : ForTag S a who) {spec : InstanceSpec} (htags : CarriesTag who (createRequest spec))
    (w : FleetWorld) : (createInstance spec).wp S
      (fun r w => ∀ inst, r = .ok inst → KinIfAny who inst.id w) w := by
  refine wp_createInstance (P := fun _ => True) hS.lawful (fun _ _ _ _ _ => trivial)
    (fun r w w' h hr hi inst hinst => lasting_kinIfAny w w' (h inst hinst) (hS.rely hr))
    (fun e w inst h => by cases h) (fun c w hc hnot _ => ⟨hS.guar ⟨fun x hx => ?_, ?_⟩, ?_⟩) ?_ trivial
  · rw [endsInstances_of_uses hc (by decide)] at hx
    cases hx
  · exact fun req h => absurd h (hnot req)
  · exact fun _ _ _ _ _ => trivial
  · intro sid w _ _
    refine ⟨hS.guar ⟨fun x hx => (by cases hx), fun req h => ?_⟩, fun i w' hs _ sid' inst h => ?_⟩
    · cases h
      exact htags
    · cases h
      exact hS.created hs

/-- Look an instance up, and create one if there is none. -/
theorem acquire (hS : ForTag S a who) {vc : VerdaCluster} {spec : InstanceSpec}
    {find : ClientM (Except Err (Option Instance))} {failed : Err → VerdaCluster}
    (hfind : find.wp S (fun r w => ∀ inst, r = .ok (some inst) → KinIfAny who inst.id w) w)
    (htags : CarriesTag who (createRequest spec)) :
    (findOrCreate vc find (createInstance spec) failed).wp S
      (fun r w => ∀ inst, r.1 = .ok inst → KinIfAny who inst.id w) w :=
  wp_findOrCreate (F := fun _ => True) hS.lawful (fun _ => (hS.keeps lasting_kinIfAny).stable)
    (Prog.wp_mono (fun _ _ _ h => ⟨fun _ => trivial, h⟩) hfind) fun w _ _ => hS.create htags w

/-- Look an instance up, wait until it and its volumes are gone, and release the rest. -/
theorem teardown (hS : ForTag S a who) {find : ClientM (Except Err (Option Instance))}
    {live : Instance → ClientM α} {release : ClientM α} {failed : Err → α} {wait : α} {M : List Method}
    {R : α → Prop}
    (hfind : find.wp S (fun r w => ∀ inst, r = .ok (some inst) → KinIfAny who inst.id w) w)
    (hlive : ∀ inst, (live inst).Obeys (EndsOnly inst.id) fun _ => True)
    (hrelease : release.Obeys (Uses M) R) (hM : .deleteInstance ∉ M ∧ .createInstance ∉ M) :
    (teardown find live release failed wait).wp S (fun _ _ => True) w := by
  refine wp_teardown_keep hS.lawful .trivial trivial hfind
    (fun inst w hinst => hS.frame_ends inst.id (hlive inst) hinst) (fun id w => ?_) fun w _ => ?_
  · exact hS.frame (purgeInstanceVolumes_uses id (M := [.purgeInstanceVolumes]) (by decide)) (by decide)
  · exact Prog.wp_mono (fun _ _ _ _ => trivial) (hS.frame hrelease hM)

/-! ## Machines -/

section

variable {vm : VerdaMachine}

theorem findInstance (hS : ForTag S a (.machine vm.metadata.ns vm.metadata.name)) {vm' : VerdaMachine}
    (hvm : KeepsRecords vm vm')
    (hw : KinIfAny (.machine vm.metadata.ns vm.metadata.name) vm.status.instanceID w) :
    (findInstance vm').wp S (fun r w => ∀ inst, r = .ok (some inst) →
      KinIfAny (.machine vm.metadata.ns vm.metadata.name) inst.id w) w := by
  rcases hvm with ⟨conditions, rfl⟩
  rw [findInstance_eq]
  exact hS.lookup hw fun x inst h => ForOwner.pickByTag_eq_some h

theorem tracksMachine (hS : ForTag S a (.machine vm.metadata.ns vm.metadata.name)) :
    TracksMachine S vm (KinIfAny (.machine vm.metadata.ns vm.metadata.name)) fun _ _ => True where
  lawful := hS.lawful
  keeps := hS.keepsIDs
  resync _ := Prog.wp_mono (fun _ _ _ _ => trivial) (hS.frame (resyncInstance_uses vm) (by decide))
  acquire boot cluster vc machine {w} hw := by
    have hmissing : S.Stable fun _ => True := fun _ _ _ _ _ => trivial
    refine Prog.wp_mono (fun r w _ hr inst hinst => ⟨hr.2 inst hinst, trivial⟩) (wp_acquire hS.lawful
      hmissing (fun inst => (hS.keeps lasting_kinIfAny).stable) (Prog.wp_mono
        (fun r w _ hr => ⟨fun _ => trivial, hr⟩) (hS.findInstance (.refl vm) hw.id))
      (fun c w hc hnot _ => ⟨hS.guar ⟨fun x hx => ?_, fun req h => absurd h (hnot req)⟩,
        fun _ _ _ _ _ => trivial⟩) ?_)
    · rw [endsInstances_of_uses hc (by decide)] at hx
      cases hx
    · rintro vm' bootFrom script sid w ⟨id, conditions, rfl⟩ - -
      refine ⟨hS.guar ⟨fun x hx => (by cases hx), fun req h => ?_⟩, fun i w' hs _ out hout _ => ?_⟩
      · cases h
        exact ForOwner.carriesTag_machine cluster vc machine bootFrom script
      · rw [hout]
        exact hS.created hs
  settle vc {vm' inst w} _ hinst := Prog.wp_mono (fun _ _ _ _ => trivial) (hS.frame_ends inst.id
    (settleInstance_obeys (fun c hc => endsOnly_of_uses hc (by decide) inst.id)
      (deleteInstance_ends inst.id) vc vm') hinst.id)
  delete now {w} hw := hS.teardown (hS.findInstance ⟨_, rfl⟩ hw.id)
    (fun inst => deleteLive_requests (deleteInstance_ends inst.id)) (releaseMachine_uses _)
    (by decide)

end

/-! ## Load balancers -/

section

variable {vc : VerdaCluster}

theorem findLoadBalancer (hS : ForTag S a (lbOwner vc.metadata.ns vc.metadata.name .controlPlane))
    (hw : KinIfAny (lbOwner vc.metadata.ns vc.metadata.name .controlPlane)
      (lbStatus vc .controlPlane).instanceID w) :
    (findLoadBalancer vc).wp S (fun r w => ∀ inst, r = .ok (some inst) →
      KinIfAny (lbOwner vc.metadata.ns vc.metadata.name .controlPlane) inst.id w) w := by
  rw [findLoadBalancer_eq]
  exact hS.lookup hw fun x inst h => ForOwner.pickLoadBalancer_eq_some h

theorem findServiceLoadBalancer (hS : ForTag S a (lbOwner vc.metadata.ns vc.metadata.name .service))
    (hw : KinIfAny (lbOwner vc.metadata.ns vc.metadata.name .service)
      (lbStatus vc .service).instanceID w) :
    (findServiceLoadBalancer vc).wp S (fun r w => ∀ inst, r = .ok (some inst) →
      KinIfAny (lbOwner vc.metadata.ns vc.metadata.name .service) inst.id w) w := by
  rw [Controller.findServiceLoadBalancer, findInstanceByStatusOrTag_eq]
  exact hS.lookup hw fun x inst h => pickLive_eq_some h

end

end ForTag

/-- The properties of a load balancer's IDs. -/
abbrev LBKin (ns name : String) (lb : LoadBalancer) : String → FleetWorld → Prop :=
  KinIfAny (lbOwner ns name lb)

/-- A setting for the parts of the VerdaCluster reconciler that run for a cluster against an account. -/
structure ForTags (T : Setting FleetWorld ClusterCall ClusterCall.Res) (a : AccountID)
    (ns name : String) : Prop where
  lawful : T.Lawful
  verda : ∀ lb, ForTag (atVerda T lb) a (lbOwner ns name lb)
  aside : ∀ {w c}, NotVerda c → T.guar w c
  step : ∀ {w c x w'}, NotVerda c → T.step w c x w' → FleetGrows w w'

namespace ForTags

variable {T : Setting FleetWorld ClusterCall ClusterCall.Res} {a : AccountID} {vc₀ : VerdaCluster}

theorem keeps {ns name : String} (hT : ForTags T a ns name) {P : FleetWorld → Prop} (hP : Lasting P) :
    T.Keeps P where
  stable w w' h hr _ := hP w w' h ((hT.verda .service).rely hr)
  step w c x w' h hs := by
    rcases verda_or_notVerda c with ⟨lb, c', rfl⟩ | hc
    · exact hP w w' h ((hT.verda lb).step (atVerda_step.2 hs)).2
    · exact hP w w' h (hT.step hc hs)

theorem tracksLBs {ns name : String} (hT : ForTags T a ns name) (hns : vc₀.metadata.ns = ns)
    (hname : vc₀.metadata.name = name) : TracksLBs T vc₀ (LBKin ns name) fun _ _ _ => True where
  lawful := hT.lawful
  keeps lb :=
    { id := fun _ => hT.keeps lasting_kinIfAny
      script := fun _ => .trivial
      noID := fun _ h => absurd rfl h
      noScript := fun _ => trivial }
  aside := hT.aside
  acquireLB scripts cluster keys {vc w} hsame hw := by
    obtain rfl : vc.metadata.ns = ns := hsame.ns.trans hns
    obtain rfl : vc.metadata.name = name := hsame.name.trans hname
    exact Prog.wp_mono (fun r w _ hr inst hinst => ⟨hr inst hinst, trivial⟩)
      ((hT.verda .controlPlane).acquire ((hT.verda .controlPlane).findLoadBalancer (hw .controlPlane).id)
        (ForOwner.carriesTag_loadBalancer rfl))
  acquireService scripts cluster keys {vc w} hsame hw := by
    obtain rfl : vc.metadata.ns = ns := hsame.ns.trans hns
    obtain rfl : vc.metadata.name = name := hsame.name.trans hname
    exact Prog.wp_mono (fun r w _ hr inst hinst => ⟨hr inst hinst, trivial⟩)
      ((hT.verda .service).acquire ((hT.verda .service).findServiceLoadBalancer (hw .service).id)
        (ForOwner.carriesTag_serviceLoadBalancer scripts cluster keys))
  deleteService now {vc w} hsame hw := by
    obtain rfl : vc.metadata.ns = ns := hsame.ns.trans hns
    obtain rfl : vc.metadata.name = name := hsame.name.trans hname
    exact (hT.verda .service).teardown ((hT.verda .service).findServiceLoadBalancer (hw .service).id)
      (fun inst => deleteLive_requests (deleteInstance_ends inst.id))
      (deleteServiceLBScript_uses vc) (by decide)
  deleteLB now {vc w} hsame hw := by
    obtain rfl : vc.metadata.ns = ns := hsame.ns.trans hns
    obtain rfl : vc.metadata.name = name := hsame.name.trans hname
    exact (hT.verda .controlPlane).teardown
      ((hT.verda .controlPlane).findLoadBalancer (hw .controlPlane).id)
      (fun inst => deleteLive_requests (deleteInstance_ends inst.id))
      (releaseCluster_uses vc) (by decide)

end ForTags

/-! ## Runs -/

/-- What is recorded of instances was created for owners with the same tag. -/
abbrev StoredKin : Key → Stored → FleetWorld → Prop := StoredTracked KinIfAny fun _ _ _ => True

/-- Every pass makes requests for owners of its object, and these are permitted. -/
def kinOnly (reserved : String → String → Bool) : Invariant (fleetSystem reserved) {} where
  inv := KinTagged
  loc := StoredKin
  touch _ := FleetTouched
  rely _ := FleetGrows
  guar key _ w o := ∀ who b, o = .verda who b → who.key = key ∧ Permitted who w b.2
  done _ _ _ _ := True

section

variable {reserved : String → String → Bool} {key : Key} {obj : Stored} {w w' : FleetWorld}

theorem kinOnly_lawful : ((kinOnly reserved).setting key obj).Lawful := ⟨FleetGrows.refl, FleetGrows.trans⟩

theorem kinOnly_step {who : Owner} {a : AccountID} {c : Call} {x : Call.Res c}
    (h : ((kinOnly reserved).setting key obj).step w (.verda who (a, c)) x w') :
    (∃ ch, answer who ch w.cloud (a, c) = some (x, w'.cloud)) ∧ FleetGrows w w' := by
  rcases h with ⟨-, ch, hans⟩
  rcases fleetAnswer_verda hans with ⟨hans', hg, -⟩
  exact ⟨hans', hg⟩

theorem kinOnly_guar {who : Owner} {a : AccountID} {c : Call} (hwho : who.key = key)
    (h : Permitted who w c) : ∀ who' b, FleetCall.verda who (a, c) = .verda who' b →
      who'.key = key ∧ Permitted who' w b.2 := by
  intro who' b heq
  cases heq
  exact ⟨hwho, h⟩

theorem kinOnly_forMachine (ns name : String) (a : AccountID) :
    ForTag (atAccount (machineView ((kinOnly reserved).setting (.machine ns name) obj) ns name) a) a
      (.machine ns name) where
  lawful := Setting.Lawful.atAccount (kinOnly_lawful.comap _ _)
  rely h := h
  inv h := h.1
  guar h := kinOnly_guar rfl h
  step h := kinOnly_step (machineView_step h)

theorem kinOnly_forCluster (ns name : String) (a : AccountID) :
    ForTags (atClient (clusterView ((kinOnly reserved).setting (.cluster ns name) obj) ns name) a) a
      ns name where
  lawful := Setting.Lawful.atClient (kinOnly_lawful.comap _ _)
  verda lb :=
    { lawful := Setting.Lawful.atVerda (Setting.Lawful.atClient (kinOnly_lawful.comap _ _))
      rely := fun h => h
      inv := fun h => h.1
      guar := fun h => kinOnly_guar (lbOwner_key ns name lb) h
      step := fun h => kinOnly_step (clusterView_step h) }
  aside {w c} hc := by
    intro who b heq
    cases c with
    | verda lb c => exact absurd rfl (hc lb c)
    | _ => cases heq
  step hc hs := by
    rcases clusterView_other hc hs with ⟨y, -, ch, hans⟩
    rw [fleetAnswer_other hans]
    exact .refl _

theorem storedKin_mono (h : StoredKin key obj w) (hg : FleetGrows w w') : StoredKin key obj w' :=
  h.mono (fun _ _ h => lasting_kinIfAny w w' h hg) fun _ _ h => h

theorem kinOnly_valid (hreserved : ∀ who : Owner, reserved who.tagKey who.tagValue = true) :
    (kinOnly reserved).Valid where
  refl _ := FleetGrows.refl
  trans _ {_ _ _} h h' := h.trans h'
  drift {d w w'} hinv hd := by
    have hg := fleetDrift_grows hd
    exact ⟨hinv.drift hreserved hd, fun _ => ⟨fun _ => hg, fun obj h => storedKin_mono h hg⟩⟩
  edit _ he := editFleet_touched he
  touched {key obj obj' w} _ hloc h := by
    have hloc : StoredKin key obj w := hloc
    exact hloc.touched h
  merge h _ := (FleetTouched.persist h _ _ _).imp fun _ hq => ⟨trivial, hq⟩
  call {key obj ch w o x w'} hinv hloc _ hg hans := by
    have hboth : KinTagged w' ∧ FleetGrows w w' := by
      cases o with
      | verda who o =>
        rcases fleetAnswer_verda hans with ⟨⟨ch', hans'⟩, hgrows, -⟩
        exact ⟨hinv.answer (hg who o rfl).2 hans' hgrows, hgrows⟩
      | other c =>
        rw [fleetAnswer_other hans]
        exact ⟨hinv, .refl w⟩
    exact ⟨hboth.1, storedKin_mono hloc hboth.2,
      fun key' _ => ⟨hboth.2, fun obj' h => storedKin_mono h hboth.2⟩⟩
  pass {key inp obj w} _ hloc _ := by
    have hloc : StoredKin key obj w := hloc
    refine Invariant.wp_persist (Prog.wp_mono (fun out w _ h => ⟨trivial, h⟩)
      (StoredTracked.startFleetPass kinOnly_lawful ?_ ?_ inp hloc))
    · rintro ns name vm rfl rfl rfl a
      exact (kinOnly_forMachine _ _ a).tracksMachine
    · rintro ns name vc rfl hns hname a
      exact (kinOnly_forCluster ns name a).tracksLBs hns hname

end

/-! ## Objects are kept apart -/

/-- `machineTagValue` and `clusterTagValue`. -/
def Stored.tagValue : Stored → String
  | .machine objs => machineTagValue objs.machine
  | .cluster vc => clusterTagValue vc

/-- The lookups of the passes over an object. -/
def Stored.lookups : Stored → List (ClientM (Except Err (Option Instance)))
  | .machine objs => [findInstance objs.machine]
  | .cluster vc => [findLoadBalancer vc, findServiceLoadBalancer vc]

/-- The instance was created for the object. -/
def CreatedUnder (key : Key) (id : String) (w : World Owner) : Prop :=
  ∃ who : Owner, who.key = key ∧ CreatedFor who id w

/-- The tags of the two objects differ; no lookup for the first, in any account as it is now, returns an
instance that was created for the second; and no request for the first shuts down or deletes one. -/
structure KeptApart (k k' : Key) (s : FleetState) : Prop where
  tags : (s.obj k).tagValue ≠ (s.obj k').tagValue
  finds : ∀ lookup ∈ (s.obj k).lookups, ∀ (a : AccountID) (snap : Snapshot),
    snap.account = s.world.cloud.account a → ∀ inst, lookup.eval snap.view = .ok (some inst) →
      ¬ CreatedUnder k' inst.id s.world.cloud
  ends : ∀ (who : Owner) (a : AccountID) (c : Call) (next : Call.Res c → FleetPass),
    s.run k = some (.call (.verda who (a, c)) next) → ∀ id ∈ endsInstances c.op,
      ¬ CreatedUnder k' id s.world.cloud

section

variable {k k' key : Key} {obj : Stored} {w : FleetWorld}

theorem StoredTracked.tagValue (h : StoredKin key obj w) : obj.tagValue = truncateTag key.path := by
  cases key with
  | machine ns name =>
    cases obj with
    | cluster vc => exact h.elim
    | machine objs => rw [Stored.tagValue, machineTagValue, h.1, h.2.1, Key.path]
  | cluster ns name =>
    cases obj with
    | machine objs => exact h.elim
    | cluster vc => rw [Stored.tagValue, clusterTagValue, h.1, h.2.1, Key.path]

theorem Owner.tagValue_eq (who : Owner) : who.tagValue = truncateTag who.key.path := by
  cases who <;> rfl

/-- Whatever a lookup returns was created for an owner of that tag. -/
theorem lookup_kin {who : Owner} {id : String} {pick : Pick} {a : AccountID} {snap : Snapshot}
    (hinv : KinTagged w) (hid : KinIfAny who id w) (hsnap : snap.account = w.cloud.account a)
    (hpick : ∀ x inst, pick x = .ok (some inst) → ∃ is, x = .ok is ∧
      ∃ i ∈ is, tagOf i who.tagKey = who.tagValue ∧ inst = toInstance i)
    {inst : Instance} (h : (lookupInstance id pick).eval snap.view = .ok (some inst)) :
    KinIfAny who inst.id w := by
  rw [Snapshot.eval_lookupInstance] at h
  split at h
  · rcases pickByID_eq_some h with ⟨i, hi, rfl⟩ | rfl
    · rw [show (toInstance i).id = id from (Table.get_eq_some_iff.1 (Snapshot.get_of_answers hi)).2]
      exact hid
    · exact hid
  · rcases hpick _ inst h with ⟨is, hx, i, hmem, htag, rfl⟩
    rcases snap.instances with heq | ⟨e, heq⟩
    · rw [heq] at hx
      cases hx
      rw [hsnap] at hmem
      exact fun _ => hinv.tagged who a i hmem htag
    · rw [heq] at hx
      cases hx

/-- The lookups of a stored object return what was created for owners with the tag of one of its owners. -/
theorem lookups_kin (hinv : KinTagged w) (hloc : StoredKin key obj w)
    {lookup : ClientM (Except Err (Option Instance))} (hlookup : lookup ∈ obj.lookups) {a : AccountID}
    {snap : Snapshot} (hsnap : snap.account = w.cloud.account a) {inst : Instance}
    (h : lookup.eval snap.view = .ok (some inst)) :
    ∃ who : Owner, who.key = key ∧ KinIfAny who inst.id w := by
  cases key with
  | machine ns name =>
    cases obj with
    | cluster vc => exact hloc.elim
    | machine objs =>
      rcases hloc with ⟨rfl, rfl, hrec⟩
      obtain rfl := List.mem_singleton.1 hlookup
      rw [findInstance_eq] at h
      exact ⟨_, rfl, lookup_kin hinv hrec.id hsnap (fun x inst h => ForOwner.pickByTag_eq_some h) h⟩
  | cluster ns name =>
    cases obj with
    | machine objs => exact hloc.elim
    | cluster vc =>
      rcases hloc with ⟨rfl, rfl, hrec⟩
      simp only [Stored.lookups, List.mem_cons, List.not_mem_nil, or_false] at hlookup
      rcases hlookup with rfl | rfl
      · rw [findLoadBalancer_eq] at h
        exact ⟨lbOwner _ _ .controlPlane, rfl, lookup_kin hinv (hrec .controlPlane).id hsnap
          (fun x inst h => ForOwner.pickLoadBalancer_eq_some h) h⟩
      · rw [findServiceLoadBalancer, findInstanceByStatusOrTag_eq] at h
        exact ⟨lbOwner _ _ .service, rfl, lookup_kin hinv (hrec .service).id hsnap
          (fun x inst h => pickLive_eq_some h) h⟩

theorem not_createdUnder {who : Owner} {id : String} (hinv : KinTagged w) (hkin : KinIfAny who id w)
    (hwho : who.key = k) (htags : truncateTag k.path ≠ truncateTag k'.path) :
    ¬ CreatedUnder k' id w.cloud := by
  rintro ⟨other, hother, hmade⟩
  refine hinv.not_createdFor hkin (fun _ heq => ?_) hmade
  rw [other.tagValue_eq, who.tagValue_eq, hwho, hother] at heq
  exact htags heq.symm

theorem kinOnly_holds {reserved : String → String → Bool}
    (hreserved : ∀ who : Owner, reserved who.tagKey who.tagValue = true) {s₀ s : FleetState}
    (h₀ : ∀ a, FleetInitial Set.univ a s₀) (hreach : Reach (fleetSystem reserved) {} s₀ s) :
    (kinOnly reserved).Holds s := by
  have hinit : KinTagged s₀.world := by
    have hnone : ∀ e, e ∉ s₀.world.cloud.made := by simp [(h₀ .global).made]
    exact ⟨fun e he => absurd he (hnone e), fun e he => absurd he (hnone e),
      fun who b i hi htag => absurd htag ((h₀ b).untagged who trivial i hi)⟩
  have hblank : ∀ key, StoredKin key (s₀.obj key) s₀.world := fun key =>
    ((h₀ .global).blank key).tracked (fun _ hne => absurd rfl hne) fun _ => trivial
  exact Invariant.sound (kinOnly_valid hreserved) hinit hblank (h₀ .global).idle hreach

/-- Objects with different tags are kept apart in every run. -/
theorem keptApart_of_tags {reserved : String → String → Bool}
    (hreserved : ∀ who : Owner, reserved who.tagKey who.tagValue = true)
    (htags : truncateTag k.path ≠ truncateTag k'.path) {s₀ s : FleetState}
    (h₀ : ∀ a, FleetInitial Set.univ a s₀) (hreach : Reach (fleetSystem reserved) {} s₀ s) :
    KeptApart k k' s := by
  have hholds := kinOnly_holds hreserved h₀ hreach
  have hloc : ∀ key, StoredKin key (s.obj key) s.world := hholds.loc
  constructor
  · rw [(hloc k).tagValue, (hloc k').tagValue]
    exact htags
  · intro lookup hlookup a snap hsnap inst hinst
    rcases lookups_kin hholds.inv (hloc k) hlookup hsnap hinst with ⟨who, hwho, hkin⟩
    exact not_createdUnder hholds.inv hkin hwho htags
  · intro who a c next hrun id hid
    rcases hholds.guar (kinOnly_valid hreserved) hrun who _ rfl with ⟨hwho, hper⟩
    exact not_createdUnder hholds.inv (hper.ends id hid) hwho htags

end

/-- Two objects are kept apart in every run, if and only if their namespaces and names differ before the
cut. -/
theorem apart_iff {reserved : String → String → Bool}
    (hreserved : ∀ who : Owner, reserved who.tagKey who.tagValue = true) {k k' : Key}
    (hk : k.valid = true) (hk' : k'.valid = true) :
    (∀ s₀ s : FleetState, (∀ a, FleetInitial Set.univ a s₀) →
      Reach (fleetSystem reserved) {} s₀ s → KeptApart k k' s) ↔
    k.path.toList.take 127 ≠ k'.path.toList.take 127 := by
  rw [ne_eq, ← truncateTag_path_iff hk hk']
  constructor
  · intro h heq
    have hblank : ∀ key, (fleetState.obj key).tagValue = truncateTag key.path := by
      intro key
      cases key <;> rfl
    refine (h fleetState fleetState (fleetState_initial Set.univ) .init).tags ?_
    rw [hblank, hblank, heq]
  · exact fun htags s₀ s h₀ hreach => keptApart_of_tags hreserved htags h₀ hreach

/-! ## Runs of two machines with one tag and with two -/

/-- An instance of a machine. -/
def fleetInstance (name tag id : String) : Sdk.Instance where
  id := id
  hostname := name
  status := "running"
  tags := [⟨tagManagedBy, managedByValue⟩, ⟨tagCluster, "default/c0"⟩, ⟨tagMachine, tag⟩,
    ⟨tagRole, "worker"⟩]

/-- A pass that finds nothing, creates an instance and records it. -/
def createsInFleet (ns name tag id : String) : List FleetMove :=
  [.start (.machine ns name) (.machine sampleInput)] ++ fleetAccepts (.machine ns name) 3 ++
    [.answer (.machine ns name) (.verda (.accept (.instance_ (fleetInstance name tag id) []))),
      .finish (.machine ns name) {}]

/-- A pass over a machine that is being deleted, up to the shutdown of its instance. -/
def deletesInFleet (ns name : String) : List FleetMove :=
  [.edit (.machine ns name) (.machine (.deleteMachine 0)),
    .start (.machine ns name) (.machine sampleInput)] ++ fleetAccepts (.machine ns name) 2

/-- The instance that a pass is about to shut down, and for whom. -/
def shutsDownNext (s : FleetState) (key : Key) : Option (Owner × AccountID × String) :=
  match s.run key with
  | some (.call (.verda who (a, ⟨_, .instancesShutdown id⟩)) _) => some (who, a, id)
  | _ => none

/-- Two machines of one namespace, each with an instance: the one that is deleted is about to shut down
its own. -/
theorem apart_iff_sample : ∃ s : FleetState,
    shutsDownNext s (.machine "default" "m1") = some (.machine "default" "m1", .global, "x1") ∧
    CreatedUnder (.machine "default" "m0") "x0" s.world.cloud ∧
    KeptApart (.machine "default" "m1") (.machine "default" "m0") s := by
  obtain ⟨s, hs, hgood⟩ := exists_reach_of_run (fleetSystem fun _ value => value != "") fleetState
    (fun s => decide (
      shutsDownNext s (.machine "default" "m1") = some (.machine "default" "m1", .global, "x1") ∧
      (⟨.machine "default" "m0", .instance_, .global, "x0"⟩ : Made Owner) ∈ s.world.cloud.made))
    (createsInFleet "default" "m0" "default/m0" "x0" ++ createsInFleet "default" "m1" "default/m1" "x1" ++
      deletesInFleet "default" "m1") (by decide +kernel)
  rcases of_decide_eq_true hgood with ⟨hnext, hmade⟩
  refine ⟨s, hnext, ⟨.machine "default" "m0", rfl, .global, hmade⟩, ?_⟩
  exact (apart_iff (fun who => by simpa using who.tagValue_ne_empty) (by decide +kernel)
    (by decide +kernel)).2 (by decide +kernel) fleetState s (fleetState_initial Set.univ) hs

/-- A namespace of 63 characters. -/
def longNamespace : String := String.ofList (List.replicate 63 'n')

/-- Names of 64 characters that differ in the last one. -/
def longName (c : Char) : String := String.ofList (List.replicate 56 'm' ++ ".worker".toList ++ [c])

/-- The tag of these machines. -/
def longTag : String :=
  String.ofList (List.replicate 63 'n' ++ ['/'] ++ List.replicate 56 'm' ++ ".worker".toList)

theorem longKey_valid {c : Char} (hc : c = 'a' ∨ c = 'b') :
    (Key.machine longNamespace (longName c)).valid = true := by
  have hns : validNamespace longNamespace = true := by
    unfold validNamespace longNamespace
    rewrite [String.length_ofList, String.toList_ofList]
    decide +kernel
  have hname : validName (longName c) = true := by
    unfold validName longName
    rewrite [String.length_ofList, String.toList_ofList]
    rcases hc with rfl | rfl <;> decide +kernel
  rewrite [Key.valid, hns, hname]
  rfl

theorem longKey_tag : truncateTag (Key.machine longNamespace (longName 'a')).path =
    truncateTag (Key.machine longNamespace (longName 'b')).path := by
  have hpath : ∀ c, (Key.machine longNamespace (longName c)).path.toList.take 127 =
      List.replicate 63 'n' ++ ['/'] ++ List.replicate 56 'm' ++ ".worker".toList := by
    intro c
    rewrite [Key.path, String.toList_append, String.toList_append]
    unfold longNamespace longName
    rewrite [String.toList_ofList, String.toList_ofList, String.toList_ofList]
    rfl
  refine (truncateTag_path_iff (longKey_valid (.inl rfl)) (longKey_valid (.inr rfl))).2 ?_
  rw [hpath, hpath]

/-- A machine that is being deleted, and an instance that it is about to shut down, which was created for
another machine. -/
def TakesOver (ns name name' id : String) (s : FleetState) : Prop :=
  (⟨.machine ns name, .instance_, .global, id⟩ : Made Owner) ∈ s.world.cloud.made ∧
    (s.obj (.machine ns name)).deleted = false ∧
    shutsDownNext s (.machine ns name') = some (.machine ns name', .global, id)

instance (ns name name' id : String) (s : FleetState) : Decidable (TakesOver ns name name' id s) :=
  inferInstanceAs (Decidable (_ ∧ _))

theorem longRun : ((fleetSystem fun _ value => value != "").run (fun _ _ => true)
    (createsInFleet longNamespace (longName 'a') longTag "x1" ++ deletesInFleet longNamespace (longName 'b'))
    fleetState).any (fun s => decide (TakesOver longNamespace (longName 'a') (longName 'b') "x1" s)) =
      true := by
  decide +kernel

/-- Two machines that Kubernetes accepts have one tag, and the second one is about to shut down the
instance of the first one, which is not being deleted. -/
theorem taken_over : ∃ s₀ s : FleetState, (∀ a, FleetInitial Set.univ a s₀) ∧
    Reach (fleetSystem fun _ value => value != "") {} s₀ s ∧
    (Key.machine longNamespace (longName 'a')).valid = true ∧
    (Key.machine longNamespace (longName 'b')).valid = true ∧ longName 'a' ≠ longName 'b' ∧
    (s.obj (.machine longNamespace (longName 'a'))).tagValue =
      (s.obj (.machine longNamespace (longName 'b'))).tagValue ∧
    TakesOver longNamespace (longName 'a') (longName 'b') "x1" s := by
  obtain ⟨s, hs, hbad⟩ := exists_reach_of_run _ fleetState _ _ longRun
  have hinit := fleetState_initial Set.univ
  have hholds := kinOnly_holds (fun who => by simpa using who.tagValue_ne_empty) hinit hs
  have hloc : ∀ key, StoredKin key (s.obj key) s.world := hholds.loc
  refine ⟨fleetState, s, hinit, hs, longKey_valid (.inl rfl), longKey_valid (.inr rfl), by decide +kernel,
    ?_, of_decide_eq_true hbad⟩
  rw [(hloc _).tagValue, (hloc _).tagValue, longKey_tag]

end VerdaCapi.Controller
