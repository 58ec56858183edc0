import VerdaCapi.Controller.Duplicates

/-!
# Whose volumes a machine takes over

A machine that boots from a clone finds its clone again by name, `<namespace>-<name>-os`, and takes
the first volume Verda lists under that name. Neither the tag nor the origin of that volume is looked
at, and adopting it adds the tag that the delete guard asks for.

`takesOwnVolumes` is what holds across any interleaving of the passes of any number of machines: as
long as that first volume was cloned for the machine that asks, every volume a machine records, tags,
boots from or deletes was. `takesForeignVolume` is a run with two machines whose joined names coincide.
-/

namespace VerdaCapi.Controller

open Remote Go Api Cloud

variable {ι : Type}

/-- A `CloneVolume` call issued for machine `i` created this volume. -/
def ClonedFor (a₀ : AccountID) (i : ι) (w : World ι) (id : String) : Prop :=
  (⟨i, .clone, a₀, id⟩ : Made ι) ∈ w.made

instance [DecidableEq ι] (a₀ : AccountID) (i : ι) (w : World ι) (id : String) :
    Decidable (ClonedFor a₀ i w id) :=
  inferInstanceAs (Decidable (_ ∈ _))

/-- The recorded OS volume, if there is one, was cloned for machine `i`. -/
def OwnRecorded (a₀ : AccountID) (i : ι) (vm : VerdaMachine) (w : World ι) : Prop :=
  vm.status.osVolumeID ≠ "" → ClonedFor a₀ i w vm.status.osVolumeID

instance [DecidableEq ι] (a₀ : AccountID) (i : ι) (vm : VerdaMachine) (w : World ι) :
    Decidable (OwnRecorded a₀ i vm w) :=
  inferInstanceAs (Decidable (_ → _))

/-- A request of machine `i`, which its pass has read as `objs`, that tags a volume, deletes the OS volume
or boots from one does so with a volume cloned for the machine. -/
structure TouchesOwn (a₀ : AccountID) (i : ι) (objs : Objects) (w : World ι) (c : Call) : Prop where
  tags : ∀ id tag, c = ⟨.ensureVolumeTag, .volumesAddTag id tag⟩ → ClonedFor a₀ i w id
  deletes : ∀ id permanent, c = ⟨.deleteVolume, .volumesDelete id permanent⟩ → ClonedFor a₀ i w id
  boots : ∀ req, c.op = .instancesCreate req → objs.machine.spec.osVolumeID ≠ "" →
    ClonedFor a₀ i w req.image

/-- All machines use one account. -/
abbrev sharesAccount (ι : Type) (a₀ : AccountID) : MachineConditions ι where
  call _ _ _ o := o.1 = a₀

/-- The first volume listed under the name of the machine's clone, if any, was cloned for it. -/
def FirstIsOwn (a₀ : AccountID) (i : ι) (vm : VerdaMachine) (w : World ι) : Prop :=
  ∀ v ∈ (w.account a₀).active.find? (fun v => v.name == osVolumeName vm), ClonedFor a₀ i w v.id

instance [DecidableEq ι] (a₀ : AccountID) (i : ι) (vm : VerdaMachine) (w : World ι) :
    Decidable (FirstIsOwn a₀ i vm w) :=
  inferInstanceAs (Decidable (∀ v ∈ (_ : Option Sdk.Volume), _))

/-- All machines use one account; and whenever a machine without a recorded volume lists volumes to
find one by name, the first under the name of its clone was cloned for it. -/
abbrev findsOwn (ι : Type) (a₀ : AccountID) : MachineConditions ι where
  call i objs w o := o.1 = a₀ ∧
    (o.2.method = .findVolumeByName → objs.machine.status.osVolumeID = "" →
      FirstIsOwn a₀ i objs.machine w)

/-- The log only grows. -/
def Grows (w w' : World ι) : Prop := ∀ e ∈ w.made, e ∈ w'.made

/-- What is recorded is owned, and so is what is touched. -/
def owning (reserved : String → Bool) (a₀ : AccountID) :
    Invariant (machineSystem ι reserved) (findsOwn ι a₀) where
  inv _ := True
  loc i objs w := OwnRecorded a₀ i objs.machine w
  touch _ := Touched
  rely _ := Grows
  guar i objs w o := TouchesOwn a₀ i objs w o.2
  done i _ out w := ∀ sent, out.sent = some sent → OwnRecorded a₀ i sent w

section

variable {reserved : String → Bool} {a₀ a : AccountID} {i : ι} {objs : Objects} {w w' : World ι}
  {vm : VerdaMachine} {P : World ι → Prop}

/-! ## Facts about the log -/

/-- A fact about the log that stays true when the log grows. -/
def Growing (P : World ι → Prop) : Prop := ∀ w w', Grows w w' → P w → P w'

theorem clonedFor_growing (id : String) : Growing fun w : World ι => ClonedFor a₀ i w id :=
  fun _ _ hg h => hg _ h

theorem ownRecorded_growing (vm : VerdaMachine) : Growing fun w : World ι => OwnRecorded a₀ i vm w :=
  fun _ _ hg h hid => hg _ (h hid)

theorem OwnRecorded.congr {vm' : VerdaMachine} (h : OwnRecorded a₀ i vm w)
    (hid : vm'.status.osVolumeID = vm.status.osVolumeID) : OwnRecorded a₀ i vm' w := by
  unfold OwnRecorded
  rw [hid]
  exact h

/-- The setting of a pass, at one account. -/
abbrev ownAt (reserved : String → Bool) (a₀ : AccountID) (i : ι) (objs : Objects) (a : AccountID) :
    Setting (World ι) Call Call.Res :=
  atAccount ((owning reserved a₀).setting i objs) a

theorem own_stable (hP : Growing P) : (ownAt reserved a₀ i objs a).Stable P :=
  fun w w' h hr _ => hP w w' hr h

theorem own_lawful : (ownAt reserved a₀ i objs a).Lawful :=
  Setting.Lawful.atAccount ⟨fun _ _ he => he, fun h h' e he => h' e (h e he)⟩

theorem own_ret {α : Type} {r : α} {Q : α → World ι → Prop} (hQ : Growing (Q r)) (h : Q r w) :
    (Prog.ret r : ClientM α).wp (ownAt reserved a₀ i objs a) Q w :=
  Prog.wp_ret_stable (own_stable hQ) h

/-- A program that found nothing owes nothing about what it found. -/
theorem own_nothing {α β : Type} {r : α} {f : β → α} {Q : β → World ι → Prop} (hr : ∀ x, r ≠ f x) :
    (Prog.ret r : ClientM α).wp (ownAt reserved a₀ i objs a) (fun r w => ∀ x, r = f x → Q x w) w :=
  own_ret (fun _ _ _ _ x hx => absurd hx (hr x)) fun x hx => absurd hx (hr x)

/-- The methods whose requests are not restricted. -/
def plainMethods : List Method :=
  [.getInstance, .findInstanceByTag, .getVolume, .findVolumeByName, .cloneVolume, .deleteInstance,
    .purgeInstanceVolumes, .deleteStartupScript, .deleteStartupScriptByName]

/-- Methods that do not tag or delete the OS volume only have to watch what they boot from. -/
theorem touchesOwn_of_methods {M : List Method} {c : Call} (h : Uses M c)
    (htag : .ensureVolumeTag ∉ M) (hdelete : .deleteVolume ∉ M)
    (hboot : ∀ req, c.op = .instancesCreate req → objs.machine.spec.osVolumeID ≠ "" →
      ClonedFor a₀ i w req.image) : TouchesOwn a₀ i objs w c where
  tags id tag hc := by
    rw [hc] at h
    exact absurd h.1 htag
  deletes id permanent hc := by
    rw [hc] at h
    exact absurd h.1 hdelete
  boots := hboot

theorem touchesOwn_of_uses {c : Call} (h : Uses plainMethods c) : TouchesOwn a₀ i objs w c :=
  touchesOwn_of_methods h (by decide) (by decide) fun req hc =>
    absurd hc (h.ne_instancesCreate (by decide) req)

/-- The rule for a request that may be issued. -/
theorem own_request {α : Type} {m : Method} {op : Sdk.Op}
    {f : Except Sdk.ApiErr (Sdk.Ans op) → ClientM α} {Q : α → World ι → Prop} (hP : Growing P)
    (hw : P w)
    (hg : ∀ w, P w → OwnRecorded a₀ i objs.machine w → TouchesOwn a₀ i objs w ⟨m, op⟩)
    (h : ∀ c x w₁ w', P w₁ → OwnRecorded a₀ i objs.machine w₁ →
      (findsOwn ι a₀).call i objs w₁ (a, ⟨m, op⟩) →
      answer i c w₁ (a, ⟨m, op⟩) = some (x, w') → P w' → (f x).wp (ownAt reserved a₀ i objs a) Q w') :
    (request m op >>= f).wp (ownAt reserved a₀ i objs a) Q w := by
  refine wp_request (own_stable hP) hw fun w₁ hw₁ hi => ⟨hg w₁ hw₁ hi.2, ?_⟩
  intro x w' hs _
  rcases atAccount_step.1 hs with ⟨hcond, c, hans⟩
  exact h c x w₁ w' hw₁ hi.2 hcond hans (hP w₁ w' (answer_grows hans) hw₁)

/-- A part without restricted requests keeps every fact about the log. -/
theorem own_frame {α : Type} {M : List Method} {p : ClientM α} {R : α → Prop}
    (hp : p.Obeys (Uses M) R) (hM : ∀ m ∈ M, m ∈ plainMethods) (hP : Growing P) (hw : P w) :
    p.wp (ownAt reserved a₀ i objs a) (fun r w => P w ∧ R r) w := by
  refine Prog.wp_frame hp (own_stable hP) (fun w c hc _ _ => touchesOwn_of_uses (hc.mono hM)) ?_ hw
  intro w c x w' _ hw _ hs _
  rcases atAccount_step.1 hs with ⟨-, ch, hans⟩
  exact hP w w' (answer_grows hans) hw

/-! ## Finding, cloning and adopting -/

theorem getVolume_own {id : String} (hw : ClonedFor a₀ i w id) :
    (getVolume id).wp (ownAt reserved a₀ i objs a)
      (fun r w => ClonedFor a₀ i w id ∧ ∀ v, r = .ok v → v.id = id) w := by
  refine own_request (clonedFor_growing id) hw (fun _ _ _ => touchesOwn_of_uses (.of (by decide) rfl)) ?_
  intro c x w₁ w' _ _ _ hans hw'
  have hret : ∀ r : Except Err Volume, (∀ v, r = .ok v → v.id = id) →
      (Prog.ret r : ClientM _).wp (ownAt reserved a₀ i objs a)
        (fun r w => ClonedFor a₀ i w id ∧ ∀ v, r = .ok v → v.id = id) w' :=
    fun r hr => own_ret (fun w w' hg h => ⟨hg _ h.1, h.2⟩) ⟨hw', hr⟩
  rcases answer_volumesGet hans with ⟨-, ⟨v, -, hid, rfl⟩ | ⟨-, rfl⟩ | ⟨e, rfl, he⟩⟩
  · refine hret _ fun v' hv' => ?_
    cases hv'
    exact hid
  · exact hret _ fun v hv => by cases hv
  · dsimp only
    rw [if_neg (by simp [he])]
    exact hret _ fun v hv => by cases hv

theorem findVolumeByName_own (hid : objs.machine.status.osVolumeID = "") (w : World ι) :
    (findVolumeByName (osVolumeName objs.machine)).wp (ownAt reserved a₀ i objs a)
      (fun r w => ∀ v, r = .ok v → ClonedFor a₀ i w v.id) w := by
  refine own_request (P := fun _ => True) (fun _ _ _ _ => trivial) trivial
    (fun _ _ _ => touchesOwn_of_uses (.of (by decide) rfl)) ?_
  intro c x w₁ w' _ _ hcond hans _
  rcases hcond with ⟨hacc, hfirst⟩
  have hacc : a = a₀ := hacc
  rcases answer_volumesList hans with ⟨rfl, rfl | ⟨e, rfl⟩⟩
  · dsimp only
    split
    · rename_i v hv
      rw [hacc] at hv
      have hown : ClonedFor a₀ i w' v.id := hfirst rfl hid v hv
      refine Prog.wp_ret (own_stable (clonedFor_growing v.id)) hown fun w h _ v' hv' => ?_
      cases hv'
      exact h
    · exact own_nothing (by simp)
  · exact own_nothing (by simp)

theorem lookupOSVolume_own (hw : OwnRecorded a₀ i objs.machine w) :
    (lookupOSVolume objs.machine).wp (ownAt reserved a₀ i objs a)
      (fun r w => ∀ v, r = .ok (some v) → ClonedFor a₀ i w v.id) w := by
  have hfound : (if objs.machine.status.osVolumeID ≠ "" then
      getVolume objs.machine.status.osVolumeID
      else findVolumeByName (osVolumeName objs.machine)).wp (ownAt reserved a₀ i objs a)
        (fun r w => ∀ v, r = .ok v → ClonedFor a₀ i w v.id) w := by
    split
    · rename_i hid
      refine Prog.wp_mono ?_ (getVolume_own (hw hid))
      intro r w _ h v hv
      rw [h.2 v hv]
      exact h.1
    · rename_i hid
      exact findVolumeByName_own (by simpa using hid) w
  refine Prog.wp_bind own_lawful (Prog.wp_mono ?_ hfound)
  intro r w _ h
  rcases r with e | v
  · dsimp only
    split
    · exact own_nothing (by simp)
    · exact own_nothing (by simp)
  · refine own_ret (fun w w' hg h v hv => hg _ (h v hv)) fun v' hv' => ?_
    cases hv'
    exact h v rfl

theorem cloneVolume_own (sourceID name location : String) (w : World ι) :
    (cloneVolume sourceID name location).wp (ownAt reserved a₀ i objs a)
      (fun r w => ∀ id, r = .ok id → ClonedFor a₀ i w id) w := by
  refine own_request (P := fun _ => True) (fun _ _ _ _ => trivial) trivial
    (fun _ _ _ => touchesOwn_of_uses (.of (by decide) rfl)) ?_
  intro c x w₁ w' _ _ hcond hans _
  rcases x with e | id
  · exact own_nothing (by simp)
  · have hacc : a = a₀ := hcond.1
    have hown : ClonedFor a₀ i w' id := hacc ▸ answer_volumesClone hans
    -- the clone is tagged under the name of `CloneVolume`
    have htag : (tagVolume .cloneVolume id).Obeys (Uses [.cloneVolume]) fun _ => True :=
      tagVolume_uses .cloneVolume id (by decide) rfl
    refine Prog.wp_bind own_lawful (Prog.wp_mono ?_
      (own_frame htag (by decide) (clonedFor_growing id) hown))
    intro r w _ h
    refine own_ret (fun w w' hg h id hid => hg _ (h id hid)) fun id' hid' => ?_
    cases hid'
    exact h.1

/-- What `ensureOSVolume` hands on: the volume is owned, and so is the one that is recorded. -/
def Owned (a₀ : AccountID) (i : ι) (r : Except Err Volume × VerdaMachine) (w : World ι) : Prop :=
  OwnRecorded a₀ i r.2 w ∧ ∀ v, r.1 = .ok v → ClonedFor a₀ i w v.id

theorem owned_growing (r : Except Err Volume × VerdaMachine) :
    Growing fun w : World ι => Owned a₀ i r w :=
  fun _ _ hg h => ⟨fun hid => hg _ (h.1 hid), fun v hv => hg _ (h.2 v hv)⟩

theorem cloneOSVolume_own (vc : VerdaCluster) (w : World ι) :
    (cloneOSVolume vc objs.machine).wp (ownAt reserved a₀ i objs a) (Owned a₀ i) w := by
  have hfail : ∀ (e : Err) (c : Condition) (w : World ι),
      (Prog.ret (.error e, setOSVolumeReady objs.machine c) : ClientM (Except Err Volume × _)).wp
        (ownAt reserved a₀ i objs a) (Owned a₀ i) w := by
    intro e c w
    refine Prog.wp_ret_any fun w hi => ?_
    exact ⟨hi.2, fun v hv => by cases hv⟩
  refine Prog.wp_bind own_lawful (Prog.wp_mono ?_ (own_frame (P := fun _ => True)
    (resolveOSVolume_uses objs.machine.spec.osVolumeID) (by decide) (fun _ _ _ _ => trivial) trivial))
  intro r w _ _
  rcases r with e | sourceID
  · exact hfail e _ w
  · refine Prog.wp_bind own_lawful (Prog.wp_mono ?_ (cloneVolume_own sourceID _ _ w))
    intro r w _ h
    rcases r with e | id
    · exact hfail e _ w
    · refine own_ret (owned_growing _) ⟨fun _ => h id rfl, fun v hv => ?_⟩
      cases hv
      exact h id rfl

theorem ensureVolumeTag_own {id : String} (hw : ClonedFor a₀ i w id) :
    (ensureVolumeTag id).wp (ownAt reserved a₀ i objs a) (fun _ w => ClonedFor a₀ i w id) w := by
  refine own_request (clonedFor_growing id) hw (fun w h _ => ?_) ?_
  · refine ⟨fun id' tag hc => ?_, fun id' permanent hc => ?_, fun req hc => ?_⟩
    · cases hc
      exact h
    · cases hc
    · cases hc
  · intro c x w₁ w' _ _ _ _ hw'
    rcases x with e | u
    · dsimp only
      split <;> exact own_ret (clonedFor_growing id) hw'
    · exact own_ret (clonedFor_growing id) hw'

theorem adoptOSVolume_own {volume : Volume} (hw : ClonedFor a₀ i w volume.id) :
    (adoptOSVolume vm volume).wp (ownAt reserved a₀ i objs a) (Owned a₀ i) w := by
  have htag : (tagOSVolume volume).wp (ownAt reserved a₀ i objs a)
      (fun _ w => ClonedFor a₀ i w volume.id) w := by
    unfold tagOSVolume
    split
    · exact own_ret (clonedFor_growing _) hw
    · refine Prog.wp_bind own_lawful (Prog.wp_mono ?_ (ensureVolumeTag_own hw))
      intro r w _ h
      rcases r with e | u
      · exact own_ret (clonedFor_growing _) h
      · exact own_ret (clonedFor_growing _) h
  refine Prog.wp_bind own_lawful (Prog.wp_mono ?_ htag)
  intro managed w _ h
  refine own_ret (owned_growing _) ⟨fun _ => h, fun v hv => ?_⟩
  cases hv
  exact h

theorem ensureOSVolume_own (vc : VerdaCluster) (hw : OwnRecorded a₀ i objs.machine w) :
    (ensureOSVolume vc objs.machine).wp (ownAt reserved a₀ i objs a) (Owned a₀ i) w := by
  refine Prog.wp_bind own_lawful (Prog.wp_mono ?_ (lookupOSVolume_own hw))
  intro r w hi h
  rcases r with e | (_ | volume)
  · exact own_ret (owned_growing _) ⟨hi.2, fun v hv => by cases hv⟩
  · refine Prog.wp_bind own_lawful (Prog.wp_mono ?_ (cloneOSVolume_own vc w))
    intro r w _ h
    rcases r with ⟨e | volume, vm⟩
    · exact own_ret (owned_growing _) h
    · exact adoptOSVolume_own (h.2 volume rfl)
  · exact adoptOSVolume_own (h volume rfl)

/-! ## Normal passes -/

/-- What `bootSource` hands on. -/
def BootsOwn (a₀ : AccountID) (i : ι) (objs : Objects) (r : Except Reply String × VerdaMachine)
    (w : World ι) : Prop :=
  OwnRecorded a₀ i r.2 w ∧
    ∀ bootFrom, r.1 = .ok bootFrom → objs.machine.spec.osVolumeID ≠ "" → ClonedFor a₀ i w bootFrom

theorem bootsOwn_growing (r : Except Reply String × VerdaMachine) :
    Growing fun w : World ι => BootsOwn a₀ i objs r w :=
  fun _ _ hg h => ⟨fun hid => hg _ (h.1 hid), fun b hb hne => hg _ (h.2 b hb hne)⟩

theorem bootSource_own (vc : VerdaCluster) (hw : OwnRecorded a₀ i objs.machine w) :
    (bootSource vc objs.machine).wp (ownAt reserved a₀ i objs a) (BootsOwn a₀ i objs) w := by
  unfold bootSource
  split
  · refine Prog.wp_bind own_lawful (Prog.wp_mono ?_ (ensureOSVolume_own vc hw))
    intro r w _ h
    rcases r with ⟨e | volume, vm⟩
    · exact own_ret (bootsOwn_growing _) ⟨h.1, fun b hb => by cases hb⟩
    · dsimp only
      split
      · exact own_ret (bootsOwn_growing _) ⟨h.1, fun b hb => by cases hb⟩
      · refine own_ret (bootsOwn_growing _) ⟨h.1, fun b hb _ => ?_⟩
        cases hb
        exact h.2 volume rfl
  · rename_i hne
    exact own_ret (bootsOwn_growing _) ⟨hw, fun b _ hne' => absurd hne' hne⟩

/-- A creation boots from what `bootSource` handed on. -/
theorem createMachineInstance_own (boot : BootstrapInput) (cluster : Cluster) (vc : VerdaCluster)
    (machine : Machine) {bootFrom : String} (hw : BootsOwn a₀ i objs (.ok bootFrom, vm) w) :
    (createMachineInstance boot cluster vc machine vm bootFrom).wp (ownAt reserved a₀ i objs a)
      (fun _ w => OwnRecorded a₀ i vm w) w := by
  refine Prog.wp_mono (fun _ _ _ h => h.1.1) (Prog.wp_frame
    (createMachineInstance_carries boot cluster vc machine vm bootFrom)
    (own_stable (bootsOwn_growing (.ok bootFrom, vm))) ?_ ?_ hw)
  · intro w c hc hw _
    rcases hc with ⟨script, huses, -, hreq⟩
    refine touchesOwn_of_methods huses (by decide) (by decide) fun req heq hne => ?_
    rcases hreq req heq with ⟨sid, rfl⟩
    exact hw.2 bootFrom rfl hne
  · intro w c x w' _ hw _ hs _
    rcases atAccount_step.1 hs with ⟨-, ch, hans⟩
    exact bootsOwn_growing _ w w' (answer_grows hans) hw

theorem acquireInstance_own (boot : BootstrapInput) (cluster : Cluster) (vc : VerdaCluster)
    (machine : Machine) (hw : OwnRecorded a₀ i objs.machine w) :
    (acquireInstance boot cluster vc machine objs.machine).wp (ownAt reserved a₀ i objs a)
      (fun r w => OwnRecorded a₀ i r.2 w) w := by
  refine wp_acquireInstance own_lawful (fun r => own_stable (ownRecorded_growing r.2))
    (Prog.wp_mono ?_ (own_frame (findInstance_uses objs.machine (M := findMethods) (by decide)
      (by decide)) (by decide) (ownRecorded_growing objs.machine) hw))
  intro r w _ h
  rcases r with e | (_ | inst)
  · exact h.1
  · refine Prog.wp_mono ?_ (bootSource_own vc h.1)
    intro r w _ h
    rcases r with ⟨reply | bootFrom, vm⟩
    · exact h.1
    · refine Prog.wp_mono ?_ (createMachineInstance_own boot cluster vc machine h)
      intro r w _ h
      rcases r with e | inst
      · intro reply vm' hvm'
        rcases hvm' with ⟨c, rfl⟩
        exact h.congr rfl
      · exact h
  · exact h.1

/-- `ensureOSVolumeTag` tags the recorded volume only. -/
theorem ensureOSVolumeTag_own (hw : OwnRecorded a₀ i vm w) :
    (ensureOSVolumeTag vm).wp (ownAt reserved a₀ i objs a) (fun _ w => OwnRecorded a₀ i vm w) w := by
  have hret : ∀ (vm' : VerdaMachine) w, OwnRecorded a₀ i vm w → (Prog.ret vm' : ClientM _).wp
      (ownAt reserved a₀ i objs a) (fun _ w => OwnRecorded a₀ i vm w) w :=
    fun _ w h => own_ret (ownRecorded_growing vm) h
  unfold ensureOSVolumeTag
  split
  · exact hret _ w hw
  · rename_i hid
    have hne : vm.status.osVolumeID ≠ "" := fun h => hid (.inl h)
    refine Prog.wp_bind own_lawful (Prog.wp_mono ?_ (getVolume_own (hw hne)))
    intro r w _ h
    rcases r with e | volume
    · exact hret _ w fun _ => h.1
    · dsimp only
      split
      · exact hret _ w fun _ => h.1
      · have hvolume : volume.id = vm.status.osVolumeID := h.2 volume rfl
        rw [hvolume]
        refine Prog.wp_bind own_lawful (Prog.wp_mono ?_ (ensureVolumeTag_own h.1))
        intro r w _ h
        rcases r with e | u
        · exact hret _ w fun _ => h
        · exact hret _ w fun _ => h

theorem settleInstance_own (vc : VerdaCluster) (inst : Instance) (hw : OwnRecorded a₀ i vm w) :
    (settleInstance vc vm inst).wp (ownAt reserved a₀ i objs a)
      (fun r w => OwnRecorded a₀ i r.2 w) w := by
  have hret : ∀ (r : Reply × VerdaMachine) w, OwnRecorded a₀ i vm w → (Prog.ret r : ClientM _).wp
      (ownAt reserved a₀ i objs a) (fun _ w => OwnRecorded a₀ i vm w) w :=
    fun r w h => own_ret (ownRecorded_growing vm) h
  have hrecord : (recordInstance vm inst).wp (ownAt reserved a₀ i objs a)
      (fun _ w => OwnRecorded a₀ i vm w) w := by
    refine Prog.wp_bind own_lawful (Prog.wp_mono ?_ (ensureOSVolumeTag_own (hw.congr rfl)))
    intro vm' w _ h
    exact own_ret (ownRecorded_growing vm) (h.congr rfl)
  -- the recorded volume stays; what is left to show is that it is owned throughout
  refine Prog.wp_mono ?_ (Prog.wp_and_obeys (settleInstance_uses vc vm inst)
    (Q := fun _ w => OwnRecorded a₀ i vm w) ?_)
  · intro r w _ h
    exact h.1.congr h.2.osVolumeID
  · refine Prog.wp_bind own_lawful (Prog.wp_mono ?_ hrecord)
    intro vm' w _ h
    dsimp only
    split
    · exact hret _ w h
    · split
      · have hdelete : (deleteInstance inst.id).Obeys (Uses endMethods) fun _ => True :=
          deleteInstance_uses inst.id (by decide) (by decide)
        refine Prog.wp_bind own_lawful (Prog.wp_mono ?_
          (own_frame hdelete (by decide) (ownRecorded_growing vm) h))
        intro r w _ h
        rcases r with e | u
        · exact hret _ w h.1
        · exact hret _ w h.1
      · split
        · exact hret _ w h
        · exact hret _ w h

theorem reconcileNormal_own (boot : BootstrapInput) (cluster : Cluster) (vc : VerdaCluster)
    (machine : Machine) (hw : OwnRecorded a₀ i objs.machine w) :
    (reconcileNormal boot cluster vc machine objs.machine).wp (ownAt reserved a₀ i objs a)
      (fun r w => OwnRecorded a₀ i r.2 w) w := by
  refine wp_reconcileNormal own_lawful (fun r => own_stable (ownRecorded_growing r.2)) ?_ ?_ ?_
  · intro _
    refine Prog.wp_mono ?_ (own_frame (resyncInstance_uses objs.machine) (by decide)
      (ownRecorded_growing objs.machine) hw)
    intro r w _ h
    exact h.1.congr h.2.2.2.2.1
  · intro reply vm' hvm'
    rcases hvm' with ⟨c, rfl⟩
    exact hw.congr rfl
  · intro _
    refine Prog.wp_mono ?_ (acquireInstance_own boot cluster vc machine hw)
    intro r w _ h
    rcases r with ⟨reply | inst, vm⟩
    · exact h
    · exact settleInstance_own vc inst h

/-! ## Delete passes -/

/-- `DeleteVolume` of a volume that is owned when its deletion is requested. -/
theorem deleteVolume_own {id : String} (hid : id ≠ "") (heq : id = objs.machine.status.osVolumeID)
    (w : World ι) : (deleteVolume id).wp (ownAt reserved a₀ i objs a) (fun _ _ => True) w := by
  refine own_request (P := fun _ => True) (fun _ _ _ _ => trivial) trivial ?_ ?_
  · intro w _ _
    exact ⟨fun _ _ h => (by cases h), fun _ _ h => (by cases h), fun _ h => (by cases h)⟩
  · intro c x w₁ w' _ _ _ _ _
    rcases x with e | v
    · dsimp only
      split <;> exact fun _ _ _ => trivial
    · dsimp only
      split
      · exact fun _ _ _ => trivial
      · refine own_request (P := fun _ => True) (fun _ _ _ _ => trivial) trivial ?_ ?_
        · intro w _ hloc
          refine ⟨fun _ _ h => (by cases h), fun id' permanent h => ?_, fun _ h => (by cases h)⟩
          cases h
          rw [heq]
          exact hloc (heq ▸ hid)
        · intro c x w₁ w' _ _ _ _ _
          rcases x with e | u
          · dsimp only
            split <;> exact fun _ _ _ => trivial
          · exact fun _ _ _ => trivial

theorem deleteOSVolume_own (hid : vm.status.osVolumeID = objs.machine.status.osVolumeID)
    (w : World ι) :
    (deleteOSVolume vm).wp (ownAt reserved a₀ i objs a) (fun _ _ => True) w := by
  have hret : ∀ (r : Except Err Unit × VerdaMachine) w, (Prog.ret r : ClientM _).wp
      (ownAt reserved a₀ i objs a) (fun _ _ => True) w := fun _ _ _ _ _ => trivial
  have hget : (getVolume vm.status.osVolumeID).Obeys (Uses [.getVolume]) fun _ => True :=
    getVolume_uses _ (by decide)
  unfold deleteOSVolume
  dsimp only
  split
  · exact hret _ w
  · rename_i hne
    refine Prog.wp_bind own_lawful (Prog.wp_mono ?_
      (own_frame (P := fun _ => True) hget (by decide) (fun _ _ _ _ => trivial) trivial))
    intro r w _ _
    rcases r with e | volume
    · dsimp only
      split <;> exact hret _ w
    · dsimp only
      split
      · exact hret _ w
      · split
        · refine Prog.wp_bind own_lawful (Prog.wp_mono ?_ (deleteVolume_own hne hid w))
          intro r w _ _
          rcases r with e | u <;> exact hret _ w
        · exact hret _ w

theorem releaseMachine_own (hid : vm.status.osVolumeID = objs.machine.status.osVolumeID)
    (w : World ι) :
    (releaseMachine vm).wp (ownAt reserved a₀ i objs a) (fun _ _ => True) w := by
  refine Prog.wp_bind own_lawful (Prog.wp_mono ?_ (own_frame (P := fun _ => True)
    (deleteMachineScript_uses vm (M := scriptMethods) (by decide) (by decide)) (by decide)
    (fun _ _ _ _ => trivial) trivial))
  intro r w _ h
  rcases r with ⟨e | u, vm₁⟩
  · exact fun _ _ _ => trivial
  · refine Prog.wp_bind own_lawful (Prog.wp_mono ?_
      (deleteOSVolume_own (h.2.2.2.trans hid) w))
    intro r w _ _
    rcases r with ⟨e | u, vm₂⟩ <;> exact fun _ _ _ => trivial

theorem reconcileDelete_own (now : Time) (w : World ι) :
    (reconcileDelete now objs.machine).wp (ownAt reserved a₀ i objs a) (fun _ _ => True) w := by
  have hplain : ∀ {α : Type} {M : List Method} {p : ClientM α} {R : α → Prop} {w : World ι},
      p.Obeys (Uses M) R → (∀ m ∈ M, m ∈ plainMethods) →
      p.wp (ownAt reserved a₀ i objs a) (fun r _ => True ∧ R r) w :=
    fun hp hM => own_frame (P := fun _ => True) hp hM (fun _ _ _ _ => trivial) trivial
  rw [reconcileDelete_eq]
  refine wp_teardown_keep own_lawful .trivial (G := fun _ _ => True) trivial
    (Prog.wp_mono (fun _ _ _ _ _ _ => trivial) (hplain
      (findInstance_uses _ (M := findMethods) (by decide) (by decide)) (by decide)))
    (fun inst w _ => ?_) (fun id w => ?_) fun w _ => ?_
  · exact Prog.wp_mono (fun _ _ _ _ => trivial)
      (hplain (deleteLiveInstance_uses now _ inst) (by decide))
  · exact Prog.wp_mono (fun _ _ _ _ => trivial)
      (hplain (purgeInstanceVolumes_uses id (M := endMethods) (by decide)) (by decide))
  · apply releaseMachine_own
    rfl

/-! ## All runs -/

/-- Whatever part of the patch is stored, the recorded volume is the old one or the one sent. -/
theorem owning_store {out : MachineOutcome} (hold : OwnRecorded a₀ i objs.machine w)
    (hsent : ∀ sent, out.sent = some sent → OwnRecorded a₀ i sent w) :
    (∀ sent, out.sent = some sent → OwnRecorded a₀ i sent w) ∧
      ∀ p, OwnRecorded a₀ i (persist p objs objs out).machine w := by
  refine ⟨hsent, fun p => ?_⟩
  rcases @persist_status p objs out objs with ⟨c, hs⟩ | ⟨sent, hs, c, hst⟩
  · exact hold.congr (by rw [hs])
  · exact (hsent sent hs).congr (by rw [hst])

theorem owning_valid : (owning (ι := ι) reserved a₀).Valid where
  refl _ _ _ he := he
  trans _ {_ _ _} h h' e he := h' e (h e he)
  drift {d w w'} _ hd := by
    have hmade : w'.made = w.made := (drift_instances hd).1
    have hg : Grows w w' := fun e he => hmade ▸ he
    exact ⟨trivial, fun j => ⟨fun _ => hg, fun obj h => ownRecorded_growing obj.machine w w' hg h⟩⟩
  edit _ he := edit_touched he
  touched _ hloc h := OwnRecorded.congr hloc (by rw [Touched.status h])
  merge h _ := (Touched.persist h _ _ _).imp fun _ hq => ⟨trivial, hq.2⟩
  call {i obj c w o x w'} _ hloc _ _ hans := by
    have hg : Grows w w' := answer_grows hans
    exact ⟨trivial, ownRecorded_growing obj.machine w w' hg hloc,
      fun j _ => ⟨hg, fun obj' h => ownRecorded_growing obj'.machine w w' hg h⟩⟩
  pass {i inp obj w} _ hloc _ := by
    refine Invariant.wp_persist ?_
    refine wp_startPass inp obj ?_ ?_ ?_
    · intro out hout w' _ hi
      refine owning_store hi.2 fun sent hs => ?_
      obtain ⟨fs, c, rfl⟩ := hout sent hs
      exact OwnRecorded.congr hi.2 rfl
    · intro a _
      refine Prog.wp_mono ?_ (Prog.wp_and_obeys
        (reconcileDelete_uses inp.now obj.machine) (reconcileDelete_own inp.now w))
      intro r w hi h
      refine owning_store hi.2 fun sent hs => ?_
      cases hs
      rcases h.2.osVolumeID with hid | hid
      · exact OwnRecorded.congr hi.2 hid
      · exact fun hne => absurd hid hne
    · intro a cluster vc machine _
      refine Prog.wp_mono ?_
        (reconcileNormal_own inp.boot cluster vc machine hloc)
      intro r w hi h
      refine owning_store hi.2 fun sent hs => ?_
      cases hs
      exact h.congr rfl

end

/-- A pool of different machines, none of which has recorded a volume or has a pass under way. The
accounts hold whatever they hold. -/
structure FreshPool (s : MachineState ι) : Prop where
  idle : ∀ i, s.run i = none
  different : ∀ i j, i ≠ j → (s.obj i).machine.metadata.ns ≠ (s.obj j).machine.metadata.ns ∨
    (s.obj i).machine.metadata.name ≠ (s.obj j).machine.metadata.name
  unrecorded : ∀ i, (s.obj i).machine.status.osVolumeID = ""

/-- Every volume that a machine has recorded, is about to record, tags, deletes as its OS volume or
boots from was cloned for that machine. -/
structure OwnVolumes (a₀ : AccountID) (s : MachineState ι) : Prop where
  recorded : ∀ i, OwnRecorded a₀ i (s.obj i).machine s.world
  sent : ∀ i out vm, s.run i = some (.ret out) → out.sent = some vm → OwnRecorded a₀ i vm s.world
  requested : ∀ i o next, s.run i = some (.call o next) →
    TouchesOwn a₀ i (s.seen i) s.world o.2

/-- **Machines take over their own volumes only**, in every run, of any number of machines in one
account, in which a machine that looks for its clone by name finds its own or none. -/
theorem takesOwnVolumes [DecidableEq ι] {reserved : String → Bool} {a₀ : AccountID}
    {s₀ s : MachineState ι} (h₀ : FreshPool s₀)
    (h : Reach (machineSystem ι reserved) (findsOwn ι a₀) s₀ s) : OwnVolumes a₀ s := by
  have hholds : (owning reserved a₀).Holds s :=
    Invariant.sound owning_valid trivial (fun i hne => absurd (h₀.unrecorded i) hne) h₀.idle h
  refine ⟨hholds.loc, fun i out vm hrun hsent => ?_, fun i o next hrun => ?_⟩
  · exact hholds.done owning_valid hrun vm hsent
  · exact hholds.guar owning_valid hrun

/-- A machine that boots from a clone of `golden`. -/
def poolMachine (ns name : String) : VerdaMachine where
  metadata := { ns := ns, name := name, finalizers := [machineFinalizer] }
  spec := { instanceType := "CPU.4V.16G", osVolumeID := "golden" }

/-- Machine `c` in namespace `a-b` and machine `b-c` in namespace `a`: the clones of both are named
`a-b-c-os`. -/
def samplePool : MachineState Bool where
  world := { account := fun _ => goldenAccount }
  obj i := { sampleObjects with machine := if i then poolMachine "a" "b-c" else poolMachine "a-b" "c" }
  run _ := none

theorem samplePool_fresh : FreshPool samplePool where
  idle _ := rfl
  different := by decide
  unrecorded := by decide

/-- A pass of the first machine that clones `golden`, tags the clone and records it. -/
def cloneAndStore : List (Move Bool PassInput Choice Patch (AccountID × Account) Edit) :=
  let yes := .answer false (.accept .plain)
  [.start false sampleInput, yes, yes, yes,
    .answer false (.accept (.volume { id := "v1", name := "a-b-c-os", status := "cloning" })),
    yes, yes, .finish false {}]

/-- As long as only the first machine runs, it has its own clone. -/
theorem takesOwnVolumes_sample : ∃ s : MachineState Bool,
    (s.obj false).machine.status.osVolumeID = "v1" ∧ OwnVolumes .global s := by
  obtain ⟨s, hs, hgood⟩ := exists_reach_meeting (machineSystem Bool fun _ => false)
    (findsOwn Bool .global) samplePool
    (fun s => (s.obj false).machine.status.osVolumeID == "v1") cloneAndStore (by decide +kernel)
  exact ⟨s, by simpa using hgood, takesOwnVolumes samplePool_fresh hs⟩

/-- The second machine looks for its clone, finds that of the first, and records it. -/
theorem takesForeignVolume : ∃ s₀ s : MachineState Bool, FreshPool s₀ ∧
    Reach (machineSystem Bool fun _ => false) (sharesAccount Bool .global) s₀ s ∧
      ¬ OwnRecorded .global true (s.obj true).machine s.world := by
  obtain ⟨s, hs, hbad⟩ := exists_reach_meeting (machineSystem Bool fun _ => false)
    (sharesAccount Bool .global) samplePool
    (fun s => decide (¬ OwnRecorded .global true (s.obj true).machine s.world))
    (cloneAndStore ++ [.start true sampleInput, .answer true (.accept .plain),
      .answer true (.accept .plain), .finish true {}])
    (by decide +kernel)
  exact ⟨samplePool, s, samplePool_fresh, hs, by simpa using hbad⟩

end VerdaCapi.Controller
