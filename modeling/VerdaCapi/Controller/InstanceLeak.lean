import VerdaCapi.Controller.Duplicates
import VerdaCapi.Controller.Leftovers

/-!
# No instance is left behind

When the machine finalizer is removed, no account should hold a live instance that was created for the
machine. `reconcileDelete` trusts the account it asks. Which account that is depends on the
VerdaCluster of the moment: its `identityRef` may be edited, and without a VerdaCluster or an owner
Machine the global credentials are used. An account that never had the instance answers 404, which
reads as "gone".

`noInstance_leaked` is the guarantee for runs in which the account that is asked holds what is live;
`instance_leaked` is a run that edits `identityRef` in between.
-/

namespace VerdaCapi.Controller

open Remote Go Api Cloud Webhook

/-! ## Live instances in the log -/

/-- Nothing created for the machine is live. -/
def NoneLive (w : World Unit) : Prop := ∀ e, ¬ MadeLive w e

/-- Nothing created for the machine is live, except what has this ID. -/
def OnlyLive (id : String) (w : World Unit) : Prop := ∀ e, MadeLive w e → e.id = id

variable {ns name tag : String} {objs : Objects} {a : AccountID} {w w' : World Unit}

/-! ## The invariant -/

/-- A request that looks for the machine's instance and may lead to a creation or to the removal of
the finalizer. -/
def LooksUp (objs : Objects) (c : Call) : Prop :=
  c.method = .findInstanceByTag ∨
    (c.method = .getInstance ∧ objs.machine.metadata.deletionTimestamp ≠ none)

instance (objs : Objects) (c : Call) : Decidable (LooksUp objs c) :=
  inferInstanceAs (Decidable (_ ∨ _))

/-- Whenever the machine's instance is looked up, the account that is asked is the one that holds
every live instance created for the machine, and lists live instances first. -/
abbrev asksHolder (tag : String) : MachineConditions Unit where
  call _ objs w o :=
    (o.2 = ⟨.findInstanceByTag, .instancesGet⟩ → LiveFirst tag (w.account o.1).instances.rows) ∧
      (LooksUp objs o.2 → ∀ e ∈ w.made, MadeLive w e → e.account = o.1)

/-- The instances and the log, in every state. -/
structure LeakInv (tag : String) (w : World Unit) : Prop where
  /-- No account has two live instances of the machine. -/
  unique : ∀ b, ∀ i ∈ (w.account b).instances.rows, ∀ j ∈ (w.account b).instances.rows,
    Live tag i → Live tag j → i.id = j.id
  /-- What was created for the machine carries its tag. -/
  tagged : ∀ e ∈ w.made, e.kind = .instance_ → ∀ i ∈ (w.account e.account).instances.rows,
    i.id = e.id → tagOf i tagMachine = tag

/-- A creation is asked for when nothing is live, nothing is recorded, and with the machine's tag. -/
structure MayCreate (tag : String) (objs : Objects) (w : World Unit) (a : AccountID)
    (req : Sdk.CreateInstanceRequest) : Prop where
  noLive : NoLive tag a w
  noneLive : NoneLive w
  unrecorded : objs.machine.status.instanceID = ""
  tagged : ∀ i : Sdk.Instance, i.tags = req.tags → tagOf i tagMachine = tag

/-- What was created and is live is what the machine has recorded, if it has recorded anything; and
when the finalizer goes, nothing is live. -/
def leaks (ns name : String) : Invariant (oneMachine ns name) (asksHolder (tagFor ns name)) where
  inv := LeakInv (tagFor ns name)
  loc _ objs w := machineTagValue objs.machine = tagFor ns name ∧
    (objs.machine.status.instanceID ≠ "" → OnlyLive objs.machine.status.instanceID w)
  touch _ := Touched
  rely _ w w' :=
    (∀ b, ∀ i' ∈ (w'.account b).instances.rows, Live (tagFor ns name) i' →
      ∃ i ∈ (w.account b).instances.rows, Live (tagFor ns name) i) ∧
    ∀ e, MadeLive w' e → MadeLive w e
  guar _ objs w o := ∀ req, o.2.op = .instancesCreate req → MayCreate (tagFor ns name) objs w o.1 req
  done _ objs out w := Released objs out → NoneLive w

/-- Requests other than a creation keep the invariant. -/
theorem LeakInv.keeps (h : LeakInv tag w) (hk : KeepsInstances w w') : LeakInv tag w' where
  unique b j hj k hk' hlj hlk := by
    rcases hk.rows b j hj with ⟨j₀, hj₀, hjk⟩
    rcases hk.rows b k hk' with ⟨k₀, hk₀, hkk⟩
    rw [hjk.id, hkk.id]
    exact h.unique b j₀ hj₀ k₀ hk₀ (live_of_keeps hjk hlj) (live_of_keeps hkk hlk)
  tagged e he hkind i' hi' hid := by
    rcases hk.rows e.account i' hi' with ⟨i, hi, hik⟩
    have htag := h.tagged e ((hk.made e hkind).1 he) hkind i hi (by rw [← hik.id, hid])
    rw [← htag]
    simp only [tagOf, toInstance, hik.tags]

/-- A creation under the guarantee keeps the invariant, and leaves only the new instance live. -/
theorem LeakInv.create (h : LeakInv tag w) {req : Sdk.CreateInstanceRequest} {i : Sdk.Instance}
    {vs : List Sdk.Volume} (hc : Creates w a req i vs) (hg : MayCreate tag objs w a req) :
    LeakInv tag (w.create () a hc) ∧ OnlyLive i.id (w.create () a hc) := by
  refine ⟨⟨?_, ?_⟩, ?_⟩
  · intro b j hj k hk hlj hlk
    rw [mem_create_instances] at hj hk
    rcases hj with ⟨rfl, rfl⟩ | hj
    · rcases hk with ⟨-, rfl⟩ | hk
      · rfl
      · exact absurd hlk (hg.noLive k hk)
    · rcases hk with ⟨rfl, rfl⟩ | hk
      · exact absurd hlj (hg.noLive j hj)
      · exact h.unique b j hj k hk hlj hlk
  · intro e he hkind j hj hid
    rw [mem_create_instances] at hj
    rcases (mem_create_made_instance hkind).1 he with rfl | hmade
    · rcases hj with ⟨-, rfl⟩ | hj
      · exact hg.tagged j hc.tags
      · -- the new ID was not in the account before
        have hnodup := hc.instances
        simp only [List.singleton_append, List.map_cons, List.nodup_cons] at hnodup
        exact absurd (List.mem_map.2 ⟨j, hj, hid⟩) hnodup.1
    · rcases hj with ⟨-, rfl⟩ | hj
      · exact hg.tagged j hc.tags
      · exact h.tagged e hmade hkind j hj hid
  · intro e he
    rcases madeLive_of_create he with rfl | he
    · rfl
    · exact absurd he (hg.noneLive e)

theorem LeakInv.drift {d : AccountID × Account} (h : LeakInv tag w)
    (hd : drift (· == tag) d w = some w') : LeakInv tag w' where
  unique b j hj k hk hlj hlk := by
    rcases drift_live hd hj hlj with ⟨j₀, hj₀, hjk⟩
    rcases drift_live hd hk hlk with ⟨k₀, hk₀, hkk⟩
    rw [hjk.id, hkk.id]
    exact h.unique b j₀ hj₀ k₀ hk₀ (live_of_keeps hjk hlj) (live_of_keeps hkk hlk)
  tagged e he hkind i' hi' hid := by
    rcases drift_instances hd with ⟨hmade, hrows⟩
    rw [hmade] at he
    rcases hrows e.account i' hi' with ⟨i, hi, hik⟩ | ⟨hunused, -⟩
    · have htag := h.tagged e he hkind i hi (by rw [← hik.id, hid])
      rw [← htag]
      simp only [tagOf, toInstance, hik.tags]
    · have hne := (hunused i'.id (by simp)).2 e he
      exact absurd hid.symm hne

/-! ## Passes -/

/-- The setting of a pass, at one account. -/
abbrev leaksAt (ns name : String) (objs : Objects) (a : AccountID) :
    Setting (World Unit) Call Call.Res :=
  atAccount ((leaks ns name).setting () objs) a

theorem noneLive_stable : (leaksAt ns name objs a).Stable NoneLive :=
  fun _ _ hw hr _ e he => hw e (hr.2 e he)

theorem onlyLive_stable (id : String) : (leaksAt ns name objs a).Stable (OnlyLive id) :=
  fun _ _ hw hr _ e he => hw e (hr.2 e he)

theorem leaks_noLive_stable : (leaksAt ns name objs a).Stable (NoLive (tagFor ns name) a) := by
  intro w w' hw hr _ i' hi' hlive
  rcases hr.1 a i' hi' hlive with ⟨i, hi, hl⟩
  exact hw i hi hl

/-- Requests other than a creation make nothing live. -/
theorem leaks_step {c : Call} {x : Call.Res c} (hc : ∀ req, c.op ≠ .instancesCreate req)
    (hs : (leaksAt ns name objs a).step w c x w') : KeepsInstances w w' := by
  rcases atAccount_step.1 hs with ⟨-, ch, hans⟩
  exact answer_keepsInstances hc hans

/-- Parts of a pass that do not create instances are safe, and keep whatever `KeepsInstances` keeps. -/
theorem leaks_frame {α : Type} {p : ClientM α} {M : List Method} {R : α → Prop} {P : World Unit → Prop}
    (hp : p.Obeys (Uses M) R) (hM : .createInstance ∉ M)
    (hstable : (leaksAt ns name objs a).Stable P)
    (hkeep : ∀ w w', KeepsInstances w w' → P w → P w') (hw : P w) :
    p.wp (leaksAt ns name objs a) (fun r w => P w ∧ R r) w := by
  refine Prog.wp_frame hp hstable ?_ ?_ hw
  · exact fun w c hc _ _ req hreq => absurd hreq (hc.ne_instancesCreate hM req)
  · exact fun w c x w' hc hw _ hs _ => hkeep w w' (leaks_step (hc.ne_instancesCreate hM) hs) hw

theorem noneLive_keeps (w w' : World Unit) (h : KeepsInstances w w') (hw : NoneLive w) :
    NoneLive w' :=
  fun e he => hw e (madeLive_of_keeps h he)

theorem onlyLive_keeps (id : String) (w w' : World Unit) (h : KeepsInstances w w')
    (hw : OnlyLive id w) : OnlyLive id w' :=
  fun e he => hw e (madeLive_of_keeps h he)

/-- What a lookup tells about the world. -/
structure Found (tag : String) (objs : Objects) (a : AccountID)
    (r : Except Err (Option Instance)) (w : World Unit) : Prop where
  missing : r = .ok none → NoLive tag a w ∧ NoneLive w ∧ objs.machine.status.instanceID = ""
  present : ∀ inst, r = .ok (some inst) → OnlyLive inst.id w
  gone : ∀ inst, r = .ok (some inst) → objs.machine.metadata.deletionTimestamp ≠ none →
    instanceGone inst = true → NoneLive w

theorem found_stable (r : Except Err (Option Instance)) :
    (leaksAt ns name objs a).Stable (Found (tagFor ns name) objs a r) := by
  intro w w' h hr hi
  refine ⟨fun hn => ?_, fun inst hs => ?_, fun inst hs hd hg => ?_⟩
  · rcases h.missing hn with ⟨h₁, h₂, h₃⟩
    exact ⟨leaks_noLive_stable w w' h₁ hr hi, noneLive_stable w w' h₂ hr hi, h₃⟩
  · exact onlyLive_stable inst.id w w' (h.present inst hs) hr hi
  · exact noneLive_stable w w' (h.gone inst hs hd hg) hr hi

theorem found_error (e : Err) (w : World Unit) : Found tag objs a (.error e) w :=
  ⟨fun h => (by cases h), fun _ h => (by cases h), fun _ h => (by cases h)⟩

/-- A lookup by ID: what is live has the recorded ID, and is in the account that is asked. -/
theorem found_pickByID {x : Except Sdk.ApiErr Sdk.Instance} {id : String}
    (hid : OnlyLive id w)
    (hheld : objs.machine.metadata.deletionTimestamp ≠ none →
      ∀ e ∈ w.made, MadeLive w e → e.account = a)
    (hx : (∃ i ∈ (w.account a).instances.rows, i.id = id ∧ x = .ok i) ∨
      ((∀ i ∈ (w.account a).instances.rows, i.id ≠ id) ∧ x = .error absent) ∨
      ∃ e, x = .error e ∧ isNotFound e = false) :
    Found tag objs a (pickByID id x) w := by
  rcases hx with ⟨i, hi, rfl, rfl⟩ | ⟨hnone, rfl⟩ | ⟨e, rfl, he⟩
  · refine ⟨fun h => (by cases h), fun inst h => ?_, fun inst h hdel hgone => ?_⟩
    · cases h
      exact hid
    · cases h
      intro e he
      rcases he with ⟨hmade, hkind, j, hj, hje, hlive⟩
      have hlive' : MadeLive w e := ⟨hmade, hkind, j, hj, hje, hlive⟩
      rw [hheld hdel e hmade hlive'] at hj
      -- the live row would have the ID of the gone one
      have hji : j = i := (w.account a).instances.eq_of_key hj hi (hje.trans (hid e hlive'))
      rw [hji] at hlive
      have hgone : isGone i = true := hgone
      rw [hlive] at hgone
      cases hgone
  · refine ⟨fun h => (by cases h), fun inst h => ?_, fun inst h hdel _ => ?_⟩
    · cases h
      exact hid
    · intro e he
      have hacc := hheld hdel e he.1 he
      rcases he with ⟨hmade, hkind, j, hj, hje, hlive⟩
      have hid' : e.id = id := hid e ⟨hmade, hkind, j, hj, hje, hlive⟩
      rw [hacc] at hj
      exact absurd (hje.trans hid') (hnone j hj)
  · have hpick : pickByID id (.error e) = .error (.wrap ("getting instance " ++ id) (.ofApi e)) := by
      simp [pickByID, he]
    rw [hpick]
    exact found_error _ w

/-- A lookup by tag: what is live is in the account, carries the tag, and is unique there. -/
theorem found_pickByTag (hinv : LeakInv tag w)
    (hfirst : LiveFirst tag (w.account a).instances.rows)
    (hheld : ∀ e ∈ w.made, MadeLive w e → e.account = a)
    (hid : objs.machine.status.instanceID = "") :
    Found tag objs a (pickByTag tag (.ok (w.account a).instances.rows)) w := by
  -- every live entry of the log is a live row of this account
  have hrow : ∀ e, MadeLive w e → ∃ j ∈ (w.account a).instances.rows, j.id = e.id ∧ Live tag j := by
    intro e he
    have hacc := hheld e he.1 he
    rcases he with ⟨hmade, hkind, j, hj, hje, hlive⟩
    have htag := hinv.tagged e hmade hkind j hj hje
    rw [hacc] at hj
    exact ⟨j, hj, hje, htag, hlive⟩
  refine ⟨fun h => ?_, fun inst h => ?_, fun inst h _ hgone => ?_⟩
  · have hnone := pickByTag_none hfirst h
    refine ⟨hnone, fun e he => ?_, hid⟩
    rcases hrow e he with ⟨j, hj, -, hlive⟩
    exact hnone j hj hlive
  · rcases pickByTag_some h with ⟨i, hi, hli, rfl⟩
    intro e he
    rcases hrow e he with ⟨j, hj, hje, hlj⟩
    rw [← hje]
    exact hinv.unique a j hj i hi hlj hli
  · rcases pickByTag_some h with ⟨i, -, hli, rfl⟩
    have hgone : isGone i = true := hgone
    rw [hli.2] at hgone
    cases hgone

/-- `findInstance` for the machine, or for a copy of it with other conditions. -/
theorem leaks_findInstance {vm : VerdaMachine} (hvm : KeepsRecords objs.machine vm)
    (w : World Unit) :
    (findInstance vm).wp (leaksAt ns name objs a) (Found (tagFor ns name) objs a) w := by
  rcases hvm with ⟨conditions, rfl⟩
  rw [findInstance_eq]
  refine wp_lookupInstance found_stable ?_ (fun hid w x w' _ hi hs => ?_) fun hid w x w' _ hi hs => ?_
  · rintro w _ (rfl | rfl) - req hreq <;> cases hreq
  · rcases atAccount_step.1 hs with ⟨hcond, ch, hans⟩
    rcases answer_instancesGetByID hans with ⟨rfl, hx⟩
    exact found_pickByID (hi.2.2 hid) (fun hdel => hcond.2 (.inr ⟨rfl, hdel⟩)) hx
  · rcases atAccount_step.1 hs with ⟨hcond, ch, hans⟩
    have htag : machineTagValue objs.machine = tagFor ns name := hi.2.1
    rcases answer_instancesGet hans with ⟨rfl, rfl | ⟨e, rfl⟩⟩
    · have hfound := found_pickByTag hi.1 (hcond.1 rfl) (hcond.2 (.inl rfl)) hid
      rw [← htag] at hfound ⊢
      exact hfound
    · exact found_error _ _

/-- What a pass leaves: the same machine, a recorded instance that is the only one that may be live,
and nothing live once the finalizer is gone. -/
structure PassLeaves (objs : Objects) (vm' : VerdaMachine) (w : World Unit) : Prop where
  same : SameMachine objs.machine vm'
  recorded : vm'.status.instanceID ≠ "" → OnlyLive vm'.status.instanceID w
  released : machineFinalizer ∈ objs.machine.metadata.finalizers →
    machineFinalizer ∉ vm'.metadata.finalizers → NoneLive w

theorem passLeaves_stable (vm' : VerdaMachine) :
    (leaksAt ns name objs a).Stable (PassLeaves objs vm') := by
  intro w w' h hr hi
  refine ⟨h.same, fun hid => ?_, fun hf hf' => ?_⟩
  · exact onlyLive_stable _ w w' (h.recorded hid) hr hi
  · exact noneLive_stable w w' (h.released hf hf') hr hi

theorem leaks_lawful : (leaksAt ns name objs a).Lawful := by
  refine Setting.Lawful.atAccount ⟨fun w => ⟨fun b i hi hl => ⟨i, hi, hl⟩, fun e he => he⟩, ?_⟩
  intro w₁ w₂ w₃ h₁₂ h₂₃
  refine ⟨fun b i hi hl => ?_, fun e he => h₁₂.2 e (h₂₃.2 e he)⟩
  rcases h₂₃.1 b i hi hl with ⟨j, hj, hlj⟩
  exact h₁₂.1 b j hj hlj

/-- An object with the recorded instance and the metadata of the stored one leaves what the invariant
already says. -/
theorem passLeaves_of_same {vm' : VerdaMachine} (hmeta : vm'.metadata = objs.machine.metadata)
    (hid : vm'.status.instanceID = objs.machine.status.instanceID)
    (hloc : (leaks ns name).loc () objs w) : PassLeaves objs vm' w where
  same := ⟨by rw [hmeta], by rw [hmeta]⟩
  recorded h := by
    rw [hid] at h ⊢
    exact hloc.2 h
  released h h' := absurd (hmeta ▸ h) h'

/-- The request of `CreateInstance` carries the machine's tag. -/
theorem instanceSpec_tag (cluster : Cluster) (vc : VerdaCluster) (machine : Machine)
    (vm : VerdaMachine) (bootFrom : String) (script : Bytes) (sid : Option String)
    (i : Sdk.Instance)
    (h : i.tags = ({ createRequest (instanceSpec cluster vc machine vm bootFrom script) with
      startupScriptID := sid } : Sdk.CreateInstanceRequest).tags) :
    tagOf i tagMachine = machineTagValue vm := by
  simp only [tagOf, toInstance, h]
  rfl

theorem leaks_reconcileNormal (boot : BootstrapInput) (cluster : Cluster) (vc : VerdaCluster)
    (machine : Machine) (w : World Unit) (hw : (leaksAt ns name objs a).inv w) :
    (reconcileNormal boot cluster vc machine objs.machine).wp (leaksAt ns name objs a)
      (fun r w => PassLeaves objs r.2 w) w := by
  have hS : (leaksAt ns name objs a).Lawful := leaks_lawful
  refine wp_reconcileNormal hS (fun r => passLeaves_stable r.2) ?_ ?_ ?_
  · intro _
    refine Prog.wp_mono ?_ (leaks_frame (resyncInstance_uses _) (by decide)
      (P := fun _ => True) (fun _ _ _ _ _ => trivial) (fun _ _ _ _ => trivial) trivial)
    intro r w hi h
    exact passLeaves_of_same h.2.1 h.2.2.2.1 hi.2
  · intro reply vm' hvm'
    rcases hvm' with ⟨conditions, rfl⟩
    exact passLeaves_of_same rfl rfl hw.2
  · intro _
    have hmissing : (leaksAt ns name objs a).Stable fun w => NoLive (tagFor ns name) a w ∧
        NoneLive w ∧ objs.machine.status.instanceID = "" := by
      intro w w' h hr hi
      exact ⟨leaks_noLive_stable w w' h.1 hr hi, noneLive_stable w w' h.2.1 hr hi, h.2.2⟩
    refine Prog.wp_mono ?_ (wp_acquire hS hmissing (fun inst => onlyLive_stable inst.id) ?_ ?_ ?_)
    · intro r w hi h
      rcases r with ⟨reply | inst, vm'⟩
      · rcases h.1 with ⟨id, c, rfl⟩
        exact passLeaves_of_same rfl rfl hi.2
      · refine Prog.wp_mono ?_ (leaks_frame (settleInstance_uses vc vm' inst) (by decide)
          (onlyLive_stable inst.id) (onlyLive_keeps inst.id) (h.2 inst rfl))
        intro r w _ hr
        rcases h.1 with ⟨id, c, rfl⟩
        have hmeta : r.2.metadata = objs.machine.metadata := hr.2.metadata
        refine ⟨⟨by rw [hmeta], by rw [hmeta]⟩, fun hid => ?_, fun hf hf' => absurd (hmeta ▸ hf) hf'⟩
        rcases hr.2.instanceID with hid' | hid'
        · rw [hid']
          exact hr.1
        · exact absurd hid' hid
    · refine Prog.wp_mono ?_ (leaks_findInstance (.refl _) w)
      exact fun r w _ h => ⟨h.missing, h.present⟩
    · intro c w _ hc _
      refine ⟨fun req hreq => absurd hreq (hc req), fun hw x w' hs _ => ?_⟩
      have hk := leaks_step hc hs
      refine ⟨fun i' hi' hlive' => ?_, noneLive_keeps w w' hk hw.2.1, hw.2.2⟩
      rcases hk.rows a i' hi' with ⟨i, hi, hik⟩
      exact hw.1 i hi (live_of_keeps hik hlive')
    · intro vm' bootFrom script sid w hvm' hw hi
      rcases hvm' with ⟨id, conditions, rfl⟩
      -- the creation is allowed here, and leaves the new instance as the only live one
      have hg : (leaksAt ns name objs a).guar w ⟨.createInstance, .instancesCreate { createRequest
          (instanceSpec cluster vc machine { objs.machine with status := { objs.machine.status with
            osVolumeID := id, conditions := conditions } } bootFrom script) with
          startupScriptID := sid }⟩ := by
        intro req hreq
        cases hreq
        refine ⟨hw.1, hw.2.1, hw.2.2, fun i htags => ?_⟩
        exact (instanceSpec_tag _ _ _ _ _ _ _ i htags).trans hi.2.1
      refine ⟨hg, fun i w' hs _ out hout _ => ?_⟩
      rcases atAccount_step.1 hs with ⟨-, ch, hans⟩
      rcases answer_created hans with ⟨vs, hc, rfl⟩
      rw [hout]
      exact (hi.1.create hc (hg _ rfl)).2

/-- A delete pass that keeps the finalizer leaves what the invariant already says. -/
theorem passLeaves_of_windsDown {vm' : VerdaMachine} (h : WindsDown objs.machine vm')
    (hloc : (leaks ns name).loc () objs w)
    (hreleased : machineFinalizer ∈ objs.machine.metadata.finalizers →
      machineFinalizer ∉ vm'.metadata.finalizers → NoneLive w) : PassLeaves objs vm' w where
  same := ⟨h.ns, h.name⟩
  recorded hid := by
    rw [h.instanceID] at hid ⊢
    exact hloc.2 hid
  released := hreleased

theorem leaks_releaseMachine {vm : VerdaMachine} (hvm : WindsDown objs.machine vm)
    (hw : NoneLive w) :
    (releaseMachine vm).wp (leaksAt ns name objs a) (fun r w => PassLeaves objs r.2 w) w := by
  refine Prog.wp_mono ?_ (leaks_frame (releaseMachine_uses vm) (by decide) noneLive_stable
    noneLive_keeps hw)
  intro r w hi h
  exact passLeaves_of_windsDown (hvm.trans h.2.1) hi.2 fun _ _ => h.1

theorem leaks_reconcileDelete (now : Time) (w : World Unit)
    (hdel : objs.machine.metadata.deletionTimestamp ≠ none) :
    (reconcileDelete now objs.machine).wp (leaksAt ns name objs a)
      (fun r w => PassLeaves objs r.2 w) w := by
  have hS : (leaksAt ns name objs a).Lawful := leaks_lawful
  have hkeep : KeepsRecords objs.machine
      (setInstanceReadyFalse objs.machine "Deleting" "Deleting Verda instance") := ⟨_, rfl⟩
  have hfin : ∀ vm' : VerdaMachine, vm'.metadata.finalizers = objs.machine.metadata.finalizers → ∀ w : World Unit,
      machineFinalizer ∈ objs.machine.metadata.finalizers →
      machineFinalizer ∉ vm'.metadata.finalizers → NoneLive w :=
    fun _ heq _ hf hf' => absurd (heq ▸ hf) hf'
  have hret : ∀ (reply : Reply) (w : World Unit), (leaksAt ns name objs a).inv w →
      (Prog.ret (reply, setInstanceReadyFalse objs.machine "Deleting" "Deleting Verda instance") :
        ClientM _).wp (leaksAt ns name objs a) (fun r w => PassLeaves objs r.2 w) w :=
    fun reply w hi => Prog.wp_ret_stable (passLeaves_stable _)
      (passLeaves_of_windsDown hkeep.windsDown hi.2 (hfin _ rfl w))
  rw [reconcileDelete_eq]
  refine wp_teardown hS (U := fun _ w => NoneLive w ∧ True) (leaks_findInstance hkeep w) ?live ?purge ?none
    ?missing ?purged ?failed ?wait
  case live =>
    -- the finalizer stays
    intro inst w _ _
    refine Prog.wp_mono ?_ (leaks_frame (deleteLiveInstance_uses now _ inst) (by decide)
      (P := fun _ => True) (fun _ _ _ _ _ => trivial) (fun _ _ _ _ => trivial) trivial)
    intro r w hi hr
    exact passLeaves_of_windsDown (hkeep.windsDown.trans hr.2.1) hi.2 (hfin r.2 hr.2.2 w)
  case purge =>
    intro inst w _ h hgone _
    exact leaks_frame (purgeInstanceVolumes_uses inst.id (M := [.purgeInstanceVolumes]) (by decide))
      (by decide) noneLive_stable noneLive_keeps (h.gone inst rfl hdel hgone)
  case none => exact fun w _ h => leaks_releaseMachine hkeep.windsDown (h.missing rfl).2.1
  case missing =>
    exact fun inst w _ h hgone _ => leaks_releaseMachine hkeep.windsDown (h.gone inst rfl hdel hgone)
  case purged => exact fun w _ h => leaks_releaseMachine hkeep.windsDown h.1
  case failed => exact fun e w hi _ => hret _ w hi
  case wait => exact fun w hi => hret _ w hi

/-! ## Runs -/

/-- What a pass leaves is what the invariant asks of its outcome. -/
theorem passLeaves_done {out : MachineOutcome} (hloc : (leaks ns name).loc () objs w)
    (h : ∀ sent ∈ out.sent, PassLeaves objs sent w) : (leaks ns name).done () objs out w ∧
      ∀ p, (leaks ns name).loc () (persist p objs objs out) w := by
  refine ⟨?_, fun p => ⟨?_, fun hid => ?_⟩⟩
  · rintro ⟨hf, sent, hsent, hf'⟩
    exact (h sent hsent).released hf hf'
  · exact (machineTagValue_persist fun sent hsent => (h sent hsent).same).trans hloc.1
  · rcases @persist_status p objs out objs with ⟨c, hs⟩ | ⟨sent, hsent, c, hs⟩
    · rw [hs] at hid ⊢
      exact hloc.2 hid
    · rw [hs] at hid ⊢
      exact (h sent hsent).recorded hid

theorem passLeaves_patched {r : Reply × VerdaMachine} (h : PassLeaves objs r.2 w) :
    ∀ sent ∈ (patched r).sent, PassLeaves objs sent w := by
  rintro sent ⟨⟩
  exact ⟨h.same, h.recorded, h.released⟩

theorem leaks_valid : (leaks ns name).Valid where
  refl _ w := ⟨fun b i hi hl => ⟨i, hi, hl⟩, fun e he => he⟩
  trans _ {w₁ w₂ w₃} h₁₂ h₂₃ := by
    refine ⟨fun b i hi hl => ?_, fun e he => h₁₂.2 e (h₂₃.2 e he)⟩
    rcases h₂₃.1 b i hi hl with ⟨j, hj, hlj⟩
    exact h₁₂.1 b j hj hlj
  drift {d w w'} hinv hd := by
    have hlive : ∀ e, MadeLive w' e → MadeLive w e := fun e he => madeLive_of_drift hd he
    refine ⟨hinv.drift hd, fun _ => ⟨fun _ => ⟨fun b i' hi' hl => ?_, hlive⟩, fun obj h => ?_⟩⟩
    · rcases drift_live hd hi' hl with ⟨i, hi, hk⟩
      exact ⟨i, hi, live_of_keeps hk hl⟩
    · exact ⟨h.1, fun hid e he => h.2 hid e (hlive e he)⟩
  edit _ he := edit_touched he
  touched _ hloc h := ⟨(Touched.tag h).trans hloc.1, Touched.status h ▸ hloc.2⟩
  merge h _ := (Touched.persist h _ _ _).imp fun _ hq => ⟨trivial, hq.2⟩
  call {i obj c w o x w'} hinv hloc _ hg hans := by
    rcases o with ⟨a, m, op⟩
    by_cases hop : ∃ req, op = .instancesCreate req
    · rcases hop with ⟨req, rfl⟩
      have hmay := hg req rfl
      rcases answer_instancesCreate hans with ⟨rfl, -⟩ | ⟨inst, vs, hc, rfl, -⟩
      · exact ⟨hinv, hloc, fun j hj => absurd rfl hj⟩
      · refine ⟨(hinv.create hc hmay).1, ⟨hloc.1, fun hid => ?_⟩, fun j hj => absurd rfl hj⟩
        exact absurd hmay.unrecorded hid
    · have hk := answer_keepsInstances (fun req hreq => hop ⟨req, hreq⟩) hans
      refine ⟨hinv.keeps hk, ⟨hloc.1, fun hid => ?_⟩, fun j hj => absurd rfl hj⟩
      exact onlyLive_keeps _ w w' hk (hloc.2 hid)
  pass {i inp obj w} hinv hloc _ := by
    refine Invariant.wp_persist ?_
    refine wp_startPass inp obj ?_ ?_ ?_
    · intro out hout w' _ hi
      refine passLeaves_done hi.2 fun sent hs => ?_
      obtain ⟨fs, c, rfl⟩ := hout sent hs
      exact ⟨⟨rfl, rfl⟩, hi.2.2, fun hf hf' => absurd (List.mem_append_left _ hf) hf'⟩
    · intro a hdel
      refine Prog.wp_mono ?_ (leaks_reconcileDelete inp.now w hdel)
      exact fun r w hi h => passLeaves_done hi.2 (passLeaves_patched h)
    · intro a cluster vc machine _
      refine Prog.wp_mono ?_
        (leaks_reconcileNormal inp.boot cluster vc machine w ⟨hinv, hloc⟩)
      exact fun r w hi h => passLeaves_done hi.2 (passLeaves_patched h)

/-- **No instance is left behind**, in every run in which the account that is asked for the machine's
instance is the one that holds whatever was created and is live: when a pass returns with the finalizer
removed, no account has a live instance that was created for the machine. -/
theorem noInstance_leaked {s₀ s : MachineState Unit} (h₀ : Initial ns name s₀)
    (h : Reach (oneMachine ns name) (asksHolder (tagFor ns name)) s₀ s) {out : MachineOutcome}
    (hrun : s.run () = some (.ret out)) (hrel : Released (s.seen ()) out) :
    ∀ e ∈ s.world.made, ¬ MadeLive s.world e := by
  have hholds : (leaks ns name).Holds s := by
    refine Invariant.sound leaks_valid ⟨?_, ?_⟩ ?_ (fun _ => h₀.idle) h
    · intro b i hi j _ hl _
      exact absurd hl.1 (h₀.untagged b i hi)
    · intro e he
      rw [h₀.made] at he
      cases he
    · intro u
      refine ⟨?_, fun hid => ?_⟩
      · show machineTagValue (s₀.obj ()).machine = tagFor ns name
        rw [machineTagValue, h₀.machine_ns, h₀.machine_name, tagFor]
      · exact absurd (by rw [h₀.status]) hid
  intro e _
  exact hholds.done leaks_valid hrun hrel e

/-- A pass that finds nothing, creates an instance and stores it. -/
def createAndStore (id : String) : List MachineMove :=
  [.start () sampleInput] ++ accepted 3 ++
    [.answer () (.accept (.instance_ (sampleInstance id "provisioning") [])), .finish () {}]

/-- The machine is released once its instance is discontinued. -/
theorem noInstance_leaked_sample : ∃ (s : MachineState Unit) (out : MachineOutcome),
    s.run () = some (.ret out) ∧ Released (s.seen ()) out ∧ s.world.made.length = 1 ∧
      ∀ e ∈ s.world.made, ¬ MadeLive s.world e := by
  -- the instance is discontinued when the machine is deleted, and has no volumes
  obtain ⟨s, hs, hgood⟩ := exists_reach_meeting (oneMachine "default" "m0")
    (asksHolder (tagFor "default" "m0")) sampleState
    (releasesWith fun s => s.world.made.length = 1)
    (createAndStore "x1" ++ [relist [sampleInstance "x1" "discontinued"] (by decide),
      .edit () (.deleteMachine 0), .start () sampleInput] ++ accepted 4)
    (by decide +kernel)
  obtain ⟨out, hrun, hrel, hP⟩ := of_releasesWith hgood
  exact ⟨s, out, hrun, hrel, hP, noInstance_leaked sampleState_initial hs hrun hrel⟩

/-- The machine is created with the global credentials, `identityRef` is edited to name a Secret, and
the machine is deleted: the other account knows no such instance, and the finalizer goes. -/
theorem instance_leaked : ∃ (s₀ s : MachineState Unit) (out : MachineOutcome),
    Initial "default" "m0" s₀ ∧ Reach (oneMachine "default" "m0") {} s₀ s ∧
      s.run () = some (.ret out) ∧ Released (s.seen ()) out ∧
      ∃ e ∈ s.world.made, MadeLive s.world e := by
  obtain ⟨s, hs, hbad⟩ := exists_reach_of_run (oneMachine "default" "m0") sampleState
    (releasesWith fun s => ∃ e ∈ s.world.made, MadeLive s.world e)
    (createAndStore "x1" ++
      [.edit () (.updateCluster { location := "FIN-01", identityRef := some ⟨"team-b"⟩ }),
        .edit () (.deleteMachine 0), .start () sampleInput] ++ accepted 2)
    (by decide +kernel)
  obtain ⟨out, hrun, hrel, hP⟩ := of_releasesWith hbad
  exact ⟨sampleState, s, out, sampleState_initial, hs, hrun, hrel, hP⟩

end VerdaCapi.Controller
