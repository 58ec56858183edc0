import VerdaCapi.Controller.Duplicates

/-!
# What a provisioned machine keeps

A pass that finds the instance running sets `provisioned` in the status and the provider ID in the
spec, and never comes back to that branch. The two are stored by different requests of one patch.

`provisioned_fixed`: as long as they are stored together, a provisioned machine has both its IDs, and
keeps them, and is not created again. `provisioned_without_id` is a run in which the spec request is
lost.
-/

namespace VerdaCapi.Controller

open Remote Go Api Cloud Webhook

/-- Both IDs of the machine are known. -/
structure Identified (name : String) (vm : VerdaMachine) : Prop where
  instanceID : vm.status.instanceID ≠ ""
  providerID : vm.spec.providerID = Api.providerID name

/-- The machine is provisioned as it was before: with the same IDs. -/
structure StaysProvisioned (vm vm' : VerdaMachine) : Prop where
  provisioned : isSet vm'.status.provisioned = true
  instanceID : vm'.status.instanceID = vm.status.instanceID
  providerID : vm'.spec.providerID = vm.spec.providerID

theorem StaysProvisioned.trans {vm vm' vm'' : VerdaMachine} (h : StaysProvisioned vm vm')
    (h' : StaysProvisioned vm' vm'') : StaysProvisioned vm vm'' :=
  ⟨h'.provisioned, h'.instanceID.trans h.instanceID, h'.providerID.trans h.providerID⟩

/-- If the status request of a patch arrives and makes the machine provisioned, then so does its spec
request. -/
def StoredTogether (p : Patch) (objs : Objects) (out : MachineOutcome) : Prop :=
  ∀ sent ∈ out.sent, isSet sent.status.provisioned = true →
    isSet objs.machine.status.provisioned = false → p.status = true → p.spec = true

instance (p : Patch) (objs : Objects) (out : MachineOutcome) : Decidable (StoredTogether p objs out) :=
  inferInstanceAs (Decidable (∀ sent ∈ (_ : Option VerdaMachine), _))

/-- The instance that the account has under the recorded ID, if any, has the name of the machine. -/
def RecordedIsOwn (vm : VerdaMachine) (acc : Account) : Prop :=
  ∀ i ∈ acc.instances.rows, i.id = vm.status.instanceID → i.hostname = vm.metadata.name

instance (vm : VerdaMachine) (acc : Account) : Decidable (RecordedIsOwn vm acc) :=
  inferInstanceAs (Decidable (∀ i ∈ acc.instances.rows, _))

/-- What makes a machine provisioned is stored together. An instance that is found under the recorded ID
of a machine that is neither provisioned nor deleted has the name of the machine. -/
abbrev storesTogether : MachineConditions Unit where
  call _ objs w o := o.2.method = .getInstance →
    objs.machine.metadata.deletionTimestamp = none → isSet objs.machine.status.provisioned = false →
      RecordedIsOwn objs.machine (w.account o.1)
  finish _ p objs out := StoredTogether p objs out

/-- What is known of the stored machine. -/
structure ProvisionedAs (ns name : String) (vm : VerdaMachine) : Prop where
  ns_eq : vm.metadata.ns = ns
  name_eq : vm.metadata.name = name
  identified : isSet vm.status.provisioned = true → Identified name vm

/-- What a pass over a machine may send. -/
structure SendsProvisioned (ns name : String) (vm sent : VerdaMachine) : Prop where
  ns_eq : sent.metadata.ns = ns
  name_eq : sent.metadata.name = name
  stays : isSet vm.status.provisioned = true → StaysProvisioned vm sent
  identified : isSet vm.status.provisioned = false → isSet sent.status.provisioned = true →
    Identified name sent

/-- The request neither creates an instance nor clones a volume. -/
def CreatesNothing (c : Call) : Prop := c.method ≠ .createInstance ∧ c.method ≠ .cloneVolume

/-- Instances under the machine's tag are its own, so a running one that is found has its name. -/
def provisions (ns name : String) : Invariant (oneMachine ns name) storesTogether where
  inv := Tagged tagMachine (tagFor ns name) fun i => i.hostname = name ∧ i.id ≠ ""
  loc _ objs _ := ProvisionedAs ns name objs.machine
  touch _ := Touched
  rely _ _ _ := True
  guar _ objs _ o := (∀ req, o.2.op = .instancesCreate req → req.hostname = name) ∧
    (isSet objs.machine.status.provisioned = true → CreatesNothing o.2)
  done _ objs out _ := ∀ sent ∈ out.sent, SendsProvisioned ns name objs.machine sent

section

variable {ns name : String} {objs : Objects} {a : AccountID} {w w' : World Unit}

/-! ## The instances -/

theorem provisions_answer {c : Choice} {o : AccountCall} {x : AccountCall.Res o}
    (h : Tagged tagMachine (tagFor ns name) (fun i => i.hostname = name ∧ i.id ≠ "") w)
    (hg : ∀ req, o.2.op = .instancesCreate req → req.hostname = name)
    (hans : answer () c w o = some (x, w')) :
    Tagged tagMachine (tagFor ns name) (fun i => i.hostname = name ∧ i.id ≠ "") w' := by
  refine h.next (fun hk hi => ⟨hk.hostname.trans hi.1, hk.id ▸ hi.2⟩) fun b i' hi' => ?_
  rcases answer_instances hans b i' hi' with hold | ⟨-, req, vs, hop, hc, -⟩
  · exact .inl hold
  · refine .inr fun _ => ⟨hc.hostname.trans (hg req hop), ?_⟩
    exact (hc.unused i'.id List.mem_cons_self).1

theorem provisions_drift {d : AccountID × Account}
    (h : Tagged tagMachine (tagFor ns name) (fun i => i.hostname = name ∧ i.id ≠ "") w)
    (hd : drift (· == tagFor ns name) d w = some w') :
    Tagged tagMachine (tagFor ns name) (fun i => i.hostname = name ∧ i.id ≠ "") w' := by
  refine h.next (fun hk hi => ⟨hk.hostname.trans hi.1, hk.id ▸ hi.2⟩) fun b i' hi' => ?_
  rcases (drift_instances hd).2 b i' hi' with hold | ⟨-, hnew⟩
  · exact .inl hold
  · exact .inr fun htag => by simp [htag] at hnew

/-! ## The patch -/

/-- Stored under the condition, what a pass sends keeps what is known. -/
theorem persist_provisioned {p : Patch} {out : MachineOutcome}
    (hloc : ProvisionedAs ns name objs.machine)
    (hsent : ∀ sent ∈ out.sent, SendsProvisioned ns name objs.machine sent)
    (hfinish : storesTogether.finish () p objs out) :
    ProvisionedAs ns name (persist p objs objs out).machine := by
  rcases persist_cases p objs objs out with heq | ⟨sent, hsome, heq⟩
  · rw [heq]
    exact hloc
  · rw [heq, Patch.apply_self]
    have hs := hsent sent hsome
    refine ⟨?_, ?_, fun hset => ?_⟩
    · show (if p.spec then sent.metadata else objs.machine.metadata).ns = ns
      split
      · exact hs.ns_eq
      · exact hloc.ns_eq
    · show (if p.spec then sent.metadata else objs.machine.metadata).name = name
      split
      · exact hs.name_eq
      · exact hloc.name_eq
    · have hset : isSet (if p.status then sent.status else objs.machine.status).provisioned = true := hset
      -- it was provisioned before, or this patch makes it so and stores the spec as well
      by_cases hold : isSet objs.machine.status.provisioned = true
      · have hid := hloc.identified hold
        have hstays := hs.stays hold
        constructor
        · show (if p.status then sent.status else objs.machine.status).instanceID ≠ ""
          split
          · exact hstays.instanceID ▸ hid.instanceID
          · exact hid.instanceID
        · show (if p.spec then sent.spec else objs.machine.spec).providerID = _
          split
          · exact hstays.providerID.trans hid.providerID
          · exact hid.providerID
      · have hold : isSet objs.machine.status.provisioned = false := by simpa using hold
        by_cases hstatus : p.status = true
        · rw [if_pos hstatus] at hset
          have hid := hs.identified hold hset
          have hspec := hfinish sent hsome hset hold hstatus
          constructor
          · show (if p.status then sent.status else objs.machine.status).instanceID ≠ ""
            rw [if_pos hstatus]
            exact hid.instanceID
          · show (if p.spec then sent.spec else objs.machine.spec).providerID = _
            rw [if_pos hspec]
            exact hid.providerID
        · rw [if_neg hstatus, hold] at hset
          cases hset

/-! ## Passes -/

/-- The setting of a pass, at one account. -/
abbrev provisionsAt (ns name : String) (objs : Objects) (a : AccountID) :
    Setting (World Unit) Call Call.Res :=
  atAccount ((provisions ns name).setting () objs) a

theorem provisions_lawful : (provisionsAt ns name objs a).Lawful :=
  Setting.Lawful.atAccount ⟨fun _ => trivial, fun _ _ => trivial⟩

/-- The world does not matter to what is shown of a pass. -/
theorem provisions_stable (P : Prop) : (provisionsAt ns name objs a).Stable fun _ => P :=
  fun _ _ h _ _ => h

/-- What a part returns that neither creates an instance nor, once the machine is provisioned, clones a
volume. -/
theorem provisions_frame {α : Type} {M : List Method} {p : ClientM α} {R : α → Prop}
    (hp : p.Obeys (Uses M) R) (hM : .createInstance ∉ M)
    (hclone : isSet objs.machine.status.provisioned = true → .cloneVolume ∉ M) (w : World Unit) :
    p.wp (provisionsAt ns name objs a) (fun r _ => R r) w := by
  refine Prog.wp_mono (fun _ _ _ h => h.2) (Prog.wp_frame hp (provisions_stable True) ?_
    (fun _ _ _ _ _ _ _ _ _ => trivial) trivial)
  intro w c hc _ _
  refine ⟨fun req hreq => absurd hreq (hc.ne_instancesCreate hM req), fun hprov => ⟨?_, ?_⟩⟩
  · rintro hm
    exact hM (hm ▸ hc.1)
  · rintro hm
    exact hclone hprov (hm ▸ hc.1)

/-- A running instance that is found for a machine that is not provisioned is its own. -/
theorem provisions_findInstance (hdel : objs.machine.metadata.deletionTimestamp = none)
    (hprov : isSet objs.machine.status.provisioned = false) (w : World Unit) :
    (findInstance objs.machine).wp (provisionsAt ns name objs a)
      (fun r _ => (r = .ok none → True) ∧ ∀ inst, r = .ok (some inst) →
        inst.status = statusRunning → inst.hostname = name ∧ inst.id ≠ "") w := by
  rw [findInstance_eq]
  refine wp_lookupInstance (fun _ => provisions_stable _) ?_
    (fun hid w x w' _ hi hs => ⟨fun _ => trivial, fun inst hinst hrunning => ?_⟩)
    fun _ w x w' _ hi hs => ⟨fun _ => trivial, fun inst hinst _ => ?_⟩
  · rintro w _ (rfl | rfl) - <;>
      exact ⟨fun req hreq => (by cases hreq), fun hset => absurd (hprov.symm.trans hset) (by decide)⟩
  · rcases atAccount_step.1 hs with ⟨hcond, c, hans⟩
    rcases answer_instancesGetByID hans with ⟨-, ⟨i, hmem, hiid, rfl⟩ | ⟨-, rfl⟩ | ⟨e, rfl, he⟩⟩
    · cases hinst
      refine ⟨(hcond rfl hdel hprov i hmem hiid).trans hi.2.name_eq, ?_⟩
      show i.id ≠ ""
      rw [hiid]
      exact hid
    · -- the record that is made up is not a running instance
      cases hinst
      exact absurd (show statusNotFound = statusRunning from hrunning) (by decide)
    · simp [pickByID, he] at hinst
  · rcases atAccount_step.1 hs with ⟨-, c, hans⟩
    have htag : machineTagValue objs.machine = tagFor ns name := by
      rw [machineTagValue, hi.2.ns_eq, hi.2.name_eq, tagFor]
    rcases answer_instancesGet hans with ⟨-, rfl | ⟨e, rfl⟩⟩
    · rcases pickByTag_some hinst with ⟨i, hmem, hlive, rfl⟩
      exact hi.1 a i hmem (hlive.1.trans htag)
    · cases hinst

/-- A normal pass. -/
theorem provisions_reconcileNormal (boot : BootstrapInput) (cluster : Cluster) (vc : VerdaCluster)
    (machine : Machine) (w : World Unit)
    (hdel : objs.machine.metadata.deletionTimestamp = none) :
    (reconcileNormal boot cluster vc machine objs.machine).wp (provisionsAt ns name objs a)
      (fun r _ => (isSet objs.machine.status.provisioned = true → StaysProvisioned objs.machine r.2) ∧
        (isSet objs.machine.status.provisioned = false → isSet r.2.status.provisioned = true →
          Identified name r.2)) w := by
  have hsame : ∀ {vm' : VerdaMachine}, vm'.spec = objs.machine.spec →
      vm'.status.instanceID = objs.machine.status.instanceID →
      vm'.status.provisioned = objs.machine.status.provisioned →
      (isSet objs.machine.status.provisioned = true → StaysProvisioned objs.machine vm') ∧
        (isSet objs.machine.status.provisioned = false → isSet vm'.status.provisioned = true →
          Identified name vm') := by
    intro vm' hspec hid hprov
    refine ⟨fun hset => ⟨hprov ▸ hset, hid, by rw [hspec]⟩, fun hnot hset => ?_⟩
    rw [hprov, hnot] at hset
    cases hset
  refine wp_reconcileNormal provisions_lawful (fun r => provisions_stable _) ?_ ?_ ?_
  · intro _
    refine Prog.wp_mono ?_ (provisions_frame (resyncInstance_uses objs.machine) (by decide)
      (fun _ => by decide) w)
    exact fun r _ _ h => hsame h.2.1 h.2.2.1 h.2.2.2.2.2
  · intro reply vm' hvm'
    rcases hvm' with ⟨c, rfl⟩
    exact hsame rfl rfl rfl
  · intro hprov
    have hclone : ∀ M : List Method, isSet objs.machine.status.provisioned = true → .cloneVolume ∉ M := by
      intro M hset
      rw [hprov] at hset
      cases hset
    refine Prog.wp_mono ?_ (wp_acquire provisions_lawful (provisions_stable True)
      (fun inst => provisions_stable _) (provisions_findInstance hdel hprov w) ?_ ?_)
    · intro r w _ h
      rcases r with ⟨reply | inst, vm'⟩
      · rcases h.1 with ⟨id, c, rfl⟩
        exact hsame rfl rfl rfl
      · have hprov' : isSet vm'.status.provisioned = false := by
          rcases h.1 with ⟨id, c, rfl⟩
          exact hprov
        refine Prog.wp_mono ?_ (provisions_frame (settleInstance_provisions hprov' vc inst) (by decide)
          (hclone _) w)
        intro r _ _ hr
        refine ⟨fun hset => ?_, fun _ hset => ?_⟩
        · rw [hprov] at hset
          cases hset
        · rcases hr hset with ⟨hrunning, hid, hpid⟩
          rcases h.2 inst rfl hrunning with ⟨hname, hne⟩
          exact ⟨hid ▸ hne, by rw [hpid, hname]⟩
    · intro c w _ hc _
      refine ⟨⟨fun req hreq => absurd hreq (hc req), fun hset => ?_⟩, fun _ _ _ _ _ => trivial⟩
      exact absurd (List.mem_singleton_self _) (hclone [.cloneVolume] hset)
    · intro vm' bootFrom script sid w hvm' _ hi
      have hname : vm'.metadata.name = name := by
        rcases hvm' with ⟨id, c, rfl⟩
        exact hi.2.name_eq
      refine ⟨⟨fun req hreq => ?_, fun hset => ?_⟩, fun i w' hs _ out hid hout _ => ?_⟩
      · cases hreq
        exact hname
      · exact absurd (List.mem_singleton_self _) (hclone [.cloneVolume] hset)
      · rcases atAccount_step.1 hs with ⟨-, ch, hans⟩
        rcases answer_created hans with ⟨vs, hc, -⟩
        rw [hout, hid, hc.hostname]
        exact ⟨hname, (hc.unused i.id List.mem_cons_self).1⟩

theorem provisions_valid : (provisions ns name).Valid where
  refl _ _ := trivial
  trans _ {_ _ _} _ _ := trivial
  drift hinv hd := ⟨provisions_drift hinv hd, fun _ => ⟨fun _ => trivial, fun _ h => h⟩⟩
  edit _ he := edit_touched he
  touched {i obj obj' w} _ hloc h := by
    have h : Touched obj obj' := h
    refine ⟨h.ns.trans hloc.ns_eq, h.name.trans hloc.name_eq, fun hset => ?_⟩
    rw [h.status] at hset
    have hid := hloc.identified hset
    refine ⟨h.status ▸ hid.instanceID, ?_⟩
    rw [h.providerID (by rw [hid.providerID]; exact providerID_ne_empty name)]
    exact hid.providerID
  merge {i p seen obj obj' out} h hp := by
    rcases Touched.persist h p seen out with ⟨q, hq, htouched⟩
    refine ⟨q, ?_, htouched⟩
    rcases hq with rfl | rfl
    · exact hp
    · exact fun _ _ _ _ hstatus => absurd hstatus Bool.false_ne_true
  call hinv hloc _ hg hans :=
    ⟨provisions_answer hinv hg.1 hans, hloc, fun j hj => absurd rfl hj⟩
  pass {i inp obj w} _ hloc _ := by
    have hknown : ProvisionedAs ns name obj.machine := hloc
    have hstore : ∀ {out : MachineOutcome} {w : World Unit},
        (∀ sent ∈ out.sent, SendsProvisioned ns name obj.machine sent) →
        (provisions ns name).done () obj out w ∧ ∀ p, storesTogether.finish () p obj out →
          (provisions ns name).loc () (persist p obj obj out) w :=
      fun hsent => ⟨hsent, fun p hp => persist_provisioned hknown hsent hp⟩
    have hsame : ∀ {sent : VerdaMachine}, sent.metadata.ns = obj.machine.metadata.ns →
        sent.metadata.name = obj.machine.metadata.name → sent.spec = obj.machine.spec →
        sent.status.instanceID = obj.machine.status.instanceID →
        sent.status.provisioned = obj.machine.status.provisioned →
        SendsProvisioned ns name obj.machine sent := by
      intro sent hns hname hspec hid hprov
      refine ⟨hns.trans hknown.ns_eq, hname.trans hknown.name_eq,
        fun hset => ⟨hprov ▸ hset, hid, by rw [hspec]⟩, fun hnot hset => ?_⟩
      rw [hprov, hnot] at hset
      cases hset
    refine wp_startPass inp obj ?_ ?_ ?_
    · intro out hout w' _ _
      refine hstore fun sent hs => ?_
      obtain ⟨fs, c, rfl⟩ := hout sent hs
      exact hsame rfl rfl rfl rfl rfl
    · intro a _
      refine Prog.wp_mono ?_ (provisions_frame
        (reconcileDelete_uses inp.now obj.machine) (by decide) (fun _ => by decide) w)
      intro r w _ h
      refine hstore fun sent hs => ?_
      cases hs
      exact hsame h.ns h.name h.spec h.instanceID h.provisioned
    · intro a cluster vc machine hdel
      refine Prog.wp_mono ?_ (Prog.wp_and_obeys
        (reconcileNormal_uses inp.boot cluster vc machine obj.machine)
        (provisions_reconcileNormal inp.boot cluster vc machine w hdel))
      rintro r w _ ⟨⟨hstays, hidentified⟩, hmeta⟩
      refine hstore fun sent hs => ?_
      cases hs
      refine ⟨?_, ?_, fun hset => ?_, fun hnot hset => ?_⟩
      · show r.2.metadata.ns = ns
        rw [hmeta]
        exact hknown.ns_eq
      · show r.2.metadata.name = name
        rw [hmeta]
        exact hknown.name_eq
      · have h := hstays hset
        exact ⟨h.provisioned, h.instanceID, h.providerID⟩
      · have h := hidentified hnot hset
        exact ⟨h.instanceID, h.providerID⟩

/-- Whatever part of the patch is stored, the machine stays provisioned. -/
theorem persist_stays {p : Patch} {seen : Objects} {out : MachineOutcome}
    (hstored : StaysProvisioned seen.machine objs.machine)
    (hsent : ∀ sent ∈ out.sent, StaysProvisioned seen.machine sent) :
    StaysProvisioned seen.machine (persist p seen objs out).machine := by
  rcases persist_cases p seen objs out with heq | ⟨sent, hsome, heq⟩
  · rw [heq]
    exact hstored
  · rw [heq]
    have hs := hsent sent hsome
    refine ⟨?_, ?_, ?_⟩
    · show isSet (if p.status then sent.status else objs.machine.status).provisioned = true
      split
      · exact hs.provisioned
      · exact hstored.provisioned
    · show (if p.status then sent.status else objs.machine.status).instanceID = _
      split
      · exact hs.instanceID
      · exact hstored.instanceID
    · show (if p.spec then seen.machine.spec.merge objs.machine.spec sent.spec
        else objs.machine.spec).providerID = _
      split
      · exact merged_cases (P := fun id => id = seen.machine.spec.providerID) hstored.providerID
          hs.providerID
      · exact hstored.providerID

/-- Edits during a pass leave a provisioned machine as the pass has read it. -/
theorem seen_stays {s : MachineState Unit} {pass : MachinePass} (hholds : (provisions ns name).Holds s)
    (hrun : s.run () = some pass) (hset : isSet (s.obj ()).machine.status.provisioned = true) :
    isSet (s.seen ()).machine.status.provisioned = true ∧
      StaysProvisioned (s.seen ()).machine (s.obj ()).machine := by
  rcases hholds.run () pass hrun with ⟨hloc, hedited, -⟩
  have htouched : Touched (s.seen ()) (s.obj ()) := .of_edited hedited
  have hseen : isSet (s.seen ()).machine.status.provisioned = true := by
    rw [← htouched.status]
    exact hset
  refine ⟨hseen, hset, by rw [htouched.status], htouched.providerID ?_⟩
  rw [(hloc.identified hseen).providerID]
  exact providerID_ne_empty name

/-- One move of a run keeps a provisioned machine as it is. -/
theorem step_stays {s s' : MachineState Unit} {m : Move Unit PassInput Choice Patch (AccountID × Account) Edit}
    (hholds : (provisions ns name).Holds s) (hset : isSet (s.obj ()).machine.status.provisioned = true)
    (hs : (oneMachine ns name).step m s = some s') :
    StaysProvisioned (s.obj ()).machine (s'.obj ()).machine := by
  rcases System.step_obj hs () with heq | ⟨p, out, -, hrun, heq⟩ | ⟨e, -, he⟩
  · rw [heq]
    exact ⟨hset, rfl, rfl⟩
  · rw [heq]
    rcases seen_stays hholds hrun hset with ⟨hseen, hstored⟩
    have hnext : StaysProvisioned (s.seen ()).machine (persist p (s.seen ()) (s.obj ()) out).machine :=
      persist_stays hstored fun sent hsent =>
        (hholds.done provisions_valid hrun sent hsent).stays hseen
    exact ⟨hnext.provisioned, hnext.instanceID.trans hstored.instanceID.symm,
      hnext.providerID.trans hstored.providerID.symm⟩
  · have hid := (hholds.loc ()).identified hset
    have htouched := edit_touched he
    refine ⟨htouched.status ▸ hset, by rw [htouched.status], htouched.providerID ?_⟩
    rw [hid.providerID]
    exact providerID_ne_empty name

end

/-- **A provisioned machine has both its IDs and keeps them**, in every run in which what makes it
provisioned is stored together with the provider ID: from then on it stays provisioned with the same
IDs, in the stored object and in every patch, and no pass creates an instance or clones a volume. -/
theorem provisioned_fixed {ns name : String} {s₀ s : MachineState Unit} (h₀ : Initial ns name s₀)
    (h : Reach (oneMachine ns name) storesTogether s₀ s)
    (hset : isSet (s.obj ()).machine.status.provisioned = true) :
    Identified name (s.obj ()).machine ∧
      ∀ s', Reach (oneMachine ns name) storesTogether s s' →
        StaysProvisioned (s.obj ()).machine (s'.obj ()).machine ∧
        (∀ out sent, s'.run () = some (.ret out) → out.sent = some sent →
          StaysProvisioned (s.obj ()).machine sent) ∧
        ∀ o next, s'.run () = some (.call o next) → CreatesNothing o.2 := by
  have hholds : ∀ {s}, Reach (oneMachine ns name) storesTogether s₀ s →
      (provisions ns name).Holds s := by
    refine fun h => Invariant.sound provisions_valid ?_ ?_ (fun _ => h₀.idle) h
    · exact fun b i hi htag => absurd htag (h₀.untagged b i hi)
    · refine fun _ => ⟨h₀.machine_ns, h₀.machine_name, fun hset => ?_⟩
      rw [h₀.status] at hset
      cases hset
  refine ⟨((hholds h).loc ()).identified hset, fun s' h' => ?_⟩
  have hstays : StaysProvisioned (s.obj ()).machine (s'.obj ()).machine := by
    induction h' with
    | init => exact ⟨hset, rfl, rfl⟩
    | step hreach _ hs ih => exact ih.trans (step_stays (hholds (h.trans hreach)) ih.provisioned hs)
  have hholds' := hholds (h.trans h')
  refine ⟨hstays, fun out sent hrun hsent => ?_, fun o next hrun => ?_⟩
  · rcases seen_stays hholds' hrun hstays.provisioned with ⟨hseen, hstored⟩
    have hsends := (hholds'.done provisions_valid hrun sent hsent).stays hseen
    exact ⟨hsends.provisioned, hsends.instanceID.trans (hstored.instanceID.symm.trans hstays.instanceID),
      hsends.providerID.trans (hstored.providerID.symm.trans hstays.providerID)⟩
  · exact (hholds'.guar provisions_valid hrun).2 (seen_stays hholds' hrun hstays.provisioned).1

/-- One pass, for which Verda creates an instance that runs at once. -/
def createThenRun (p : Patch) : List (Move Unit PassInput Choice Patch (AccountID × Account) Edit) :=
  [.start () sampleInput] ++ accepted 3 ++
    [.answer () (.accept (.instance_ (sampleInstance "x1" "running") [])), .finish () p]

/-- A machine that is stored as provisioned, with both of its IDs. -/
theorem provisioned_fixed_sample : ∃ s : MachineState Unit,
    isSet (s.obj ()).machine.status.provisioned = true ∧
      (s.obj ()).machine.status.instanceID = "x1" ∧ Identified "m0" (s.obj ()).machine := by
  obtain ⟨s, hs, hgood⟩ := exists_reach_meeting (oneMachine "default" "m0") storesTogether sampleState
    (fun s => isSet (s.obj ()).machine.status.provisioned &&
      (s.obj ()).machine.status.instanceID == "x1")
    (createThenRun {}) (by decide +kernel)
  simp only [Bool.and_eq_true, beq_iff_eq] at hgood
  exact ⟨s, hgood.1, hgood.2, (provisioned_fixed sampleState_initial hs hgood.1).1⟩

/-- Of the patch that makes the machine provisioned only the status is stored. -/
theorem provisioned_without_id : ∃ s₀ s : MachineState Unit, Initial "default" "m0" s₀ ∧
    Reach (oneMachine "default" "m0") {} s₀ s ∧
      isSet (s.obj ()).machine.status.provisioned = true ∧ (s.obj ()).machine.spec.providerID = "" := by
  obtain ⟨s, hs, hbad⟩ := exists_reach_of_run (oneMachine "default" "m0") sampleState
    (fun s => isSet (s.obj ()).machine.status.provisioned &&
      (s.obj ()).machine.spec.providerID == "")
    (createThenRun { spec := false }) (by decide +kernel)
  simp only [Bool.and_eq_true, beq_iff_eq] at hbad
  exact ⟨sampleState, s, sampleState_initial, hs, hbad.1, hbad.2⟩

end VerdaCapi.Controller
