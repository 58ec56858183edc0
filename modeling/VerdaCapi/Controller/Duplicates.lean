import VerdaCapi.Controller.MachineRules

/-!
# At most one live instance per machine

A create whose result was never stored is found again by its `capi-machine` tag. `FindInstanceByTag`
skips discontinued instances only, while `findInstance` then takes a deleted instance for no instance
at all: a deleted instance listed before a live one hides it, and the machine is created again.

`atMostOne_live` is the guarantee without such listings, for every run, with crashes and lost patches
anywhere; `two_live_instances` is a run that breaks it with one.
-/

namespace VerdaCapi.Controller

open Remote Go Api Cloud Webhook

/-! ## One machine -/

/-- `machineTagValue`, from the name of the machine. -/
def tagFor (ns name : String) : String := truncateTag (ns ++ "/" ++ name)

/-- The instance carries the machine's tag and is not gone. -/
def Live (tag : String) (i : Sdk.Instance) : Prop := tagOf i tagMachine = tag ∧ isGone i = false

instance (tag : String) (i : Sdk.Instance) : Decidable (Live tag i) :=
  inferInstanceAs (Decidable (_ ∧ _))

/-- A machine nothing was done for yet, in a world where nothing carries its tag. -/
structure Initial (ns name : String) (s : MachineState Unit) : Prop where
  idle : s.run () = none
  machine_ns : (s.obj ()).machine.metadata.ns = ns
  machine_name : (s.obj ()).machine.metadata.name = name
  status : (s.obj ()).machine.status = {}
  providerID : (s.obj ()).machine.spec.providerID = ""
  made : s.world.made = []
  untagged : ∀ a, ∀ i ∈ (s.world.account a).instances.rows, tagOf i tagMachine ≠ tagFor ns name

/-- The runs of one machine: no other source gives out its tag. -/
abbrev oneMachine (ns name : String) := machineSystem Unit (· == tagFor ns name)

theorem live_of_keeps {tag : String} {i i' : Sdk.Instance} (h : Keeps i i') (hlive : Live tag i') :
    Live tag i := by
  refine ⟨?_, ?_⟩
  · rw [← hlive.1, h.tagOf]
  · by_contra hgone
    have := h.gone (by simpa using hgone)
    simp [hlive.2] at this

/-- Drift brings no live instance of the machine. -/
theorem drift_live {ι : Type} {tag : String} {d : AccountID × Account} {w w' : World ι}
    (h : drift (· == tag) d w = some w') {a : AccountID} {i' : Sdk.Instance}
    (hi' : i' ∈ (w'.account a).instances.rows) (hlive : Live tag i') :
    ∃ i ∈ (w.account a).instances.rows, Keeps i i' := by
  obtain hold | ⟨-, hnew⟩ := (drift_instances h).2 a i' hi'
  · exact hold
  · simp [hlive.1] at hnew

theorem machineTagValue_persist {p : Patch} {objs : Objects} {out : MachineOutcome}
    (h : ∀ sent, out.sent = some sent → sent.metadata.ns = objs.machine.metadata.ns ∧
      sent.metadata.name = objs.machine.metadata.name) :
    machineTagValue (persist p objs objs out).machine = machineTagValue objs.machine := by
  unfold machineTagValue
  obtain ⟨hm, -⟩ | ⟨sent, hsent, hm, -⟩ := @persist_resource p objs out
  · rw [hm]
  · rw [hm, (h sent hsent).1, (h sent hsent).2]

/-! ## What a listing finds -/

/-- An instance that `FindInstanceByTag` returns although `findInstance` will not take it. -/
def Shadows (tag : String) (i : Sdk.Instance) : Prop :=
  tagOf i tagMachine = tag ∧ (i.status = statusDeleted ∨ i.status = statusNotFound)

instance (tag : String) (i : Sdk.Instance) : Decidable (Shadows tag i) :=
  inferInstanceAs (Decidable (_ ∧ _))

/-- No deleted or missing instance of the machine is listed before a live one. -/
def LiveFirst (tag : String) (instances : List Sdk.Instance) : Prop :=
  instances.Pairwise fun i j => Shadows tag i → ¬ Live tag j

instance (tag : String) (instances : List Sdk.Instance) : Decidable (LiveFirst tag instances) :=
  inferInstanceAs (Decidable (instances.Pairwise _))

/-- What a scan returns was listed and wanted, or was already in hand. -/
theorem scan_some {want : Instance → Bool} {gone : Option Instance} {is : List Sdk.Instance}
    {inst : Instance} (h : scan want gone is = some inst) :
    gone = some inst ∨ ∃ i ∈ is, want (toInstance i) = true ∧ inst = toInstance i := by
  induction is generalizing gone with
  | nil => exact .inl h
  | cons i is ih =>
    simp only [scan] at h
    split at h
    · obtain hg | ⟨j, hj, hrest⟩ := ih h
      · exact .inl hg
      · exact .inr ⟨j, List.mem_cons_of_mem _ hj, hrest⟩
    · rename_i hwant
      have hwant : want (toInstance i) = true := by simpa using hwant
      split at h
      · obtain hg | ⟨j, hj, hrest⟩ := ih h
        · exact .inr ⟨i, List.mem_cons_self, hwant, (Option.some.inj hg).symm⟩
        · exact .inr ⟨j, List.mem_cons_of_mem _ hj, hrest⟩
      · exact .inr ⟨i, List.mem_cons_self, hwant, (Option.some.inj h).symm⟩

/-- With live instances listed first, a scan by tag finds one if there is one. -/
theorem scan_live {tag : String} {gone : Option Instance} {is : List Sdk.Instance}
    (hfirst : LiveFirst tag is) {j : Sdk.Instance} (hj : j ∈ is) (hlive : Live tag j) :
    ∃ i ∈ is, Live tag i ∧
      scan (fun inst => inst.tags.get tagMachine == tag) gone is = some (toInstance i) := by
  induction is generalizing gone with
  | nil => cases hj
  | cons i is ih =>
    obtain ⟨hi, hrest⟩ := List.pairwise_cons.1 hfirst
    -- skipping the head leaves the live instance in the tail
    have hskip : ¬ Live tag i → ∀ gone, ∃ k ∈ i :: is, Live tag k ∧
        scan (fun inst => inst.tags.get tagMachine == tag) gone is = some (toInstance k) := by
      intro hnot gone
      have hj' : j ∈ is := by
        obtain rfl | hj' := List.mem_cons.1 hj
        · exact absurd hlive hnot
        · exact hj'
      obtain ⟨k, hk, hlk, hs⟩ := @ih gone hrest hj'
      exact ⟨k, List.mem_cons_of_mem _ hk, hlk, hs⟩
    simp only [scan]
    split
    · rename_i hwant
      exact hskip (fun hl => by simp only [← hl.1, tagOf, beq_self_eq_true] at hwant; cases hwant) _
    · rename_i hwant
      have htag : tagOf i tagMachine = tag := by simpa [tagOf] using hwant
      split
      · rename_i hdisc
        have hgone : isGone i = true := by
          have : i.status = statusDiscontinued := hdisc
          simp [isGone, this]
        exact hskip (fun hl => by simp [hl.2] at hgone) _
      · rename_i hdisc
        by_cases hgone : isGone i = true
        · -- a gone instance that is not discontinued would hide the live one
          have hshadow : Shadows tag i := by
            refine ⟨htag, ?_⟩
            have : i.status ≠ statusDiscontinued := hdisc
            simp only [isGone, Bool.or_eq_true, beq_iff_eq] at hgone
            tauto
          obtain rfl | hj' := List.mem_cons.1 hj
          · simp [hlive.2] at hgone
          · exact absurd hlive (hi j hj' hshadow)
        · exact ⟨i, List.mem_cons_self, ⟨htag, by simpa using hgone⟩, rfl⟩

theorem pickByTag_some {tag : String} {is : List Sdk.Instance} {inst : Instance}
    (h : pickByTag tag (.ok is) = .ok (some inst)) :
    ∃ i ∈ is, Live tag i ∧ inst = toInstance i := by
  simp only [pickByTag] at h
  split at h
  · rename_i inst' hscan
    split at h
    · cases h
    · rename_i hgone
      cases h
      have hgone : instanceGone inst = false := by simpa using hgone
      obtain hnone | ⟨i, hi, hwant, rfl⟩ := scan_some hscan
      · cases hnone
      · exact ⟨i, hi, ⟨by simpa [tagOf] using hwant, hgone⟩, rfl⟩
  · cases h

theorem pickByTag_none {tag : String} {is : List Sdk.Instance} (hfirst : LiveFirst tag is)
    (h : pickByTag tag (.ok is) = .ok none) : ∀ i ∈ is, ¬ Live tag i := by
  intro j hj hlive
  obtain ⟨i, -, hi, hscan⟩ := @scan_live _ none _ hfirst _ hj hlive
  have hgone : instanceGone (toInstance i) = false := hi.2
  simp [pickByTag, hscan, hgone] at h

/-! ## The invariant -/

/-- Whenever `FindInstanceByTag` lists an account, live instances of the machine come first. -/
abbrev listsLiveFirst (tag : String) : MachineConditions Unit where
  call _ _ w o := o.2 = ⟨.findInstanceByTag, .instancesGet⟩ →
    LiveFirst tag (w.account o.1).instances.rows

/-- Every account has at most one live instance of the machine, and one is created only where there is
none. -/
def duplicates (ns name : String) :
    Invariant (oneMachine ns name) (listsLiveFirst (tagFor ns name)) where
  inv w := ∀ a, ∀ i ∈ (w.account a).instances.rows, ∀ j ∈ (w.account a).instances.rows,
    Live (tagFor ns name) i → Live (tagFor ns name) j → i.id = j.id
  loc _ objs _ := machineTagValue objs.machine = tagFor ns name
  touch _ := Touched
  rely _ w w' := ∀ a, ∀ i' ∈ (w'.account a).instances.rows, Live (tagFor ns name) i' →
    ∃ i ∈ (w.account a).instances.rows, Live (tagFor ns name) i ∧ i'.id = i.id
  guar _ _ w o := ∀ req, o.2.op = .instancesCreate req →
    ∀ i ∈ (w.account o.1).instances.rows, ¬ Live (tagFor ns name) i
  done _ _ _ _ := True

section

variable {ns name : String} {objs : Objects} {a : AccountID} {w w' : World Unit}

/-- A request issued under the guarantee keeps the instances apart. -/
theorem duplicates_call {c : Choice} {o : AccountCall} {x : AccountCall.Res o}
    (hinv : (duplicates ns name).inv w) (hg : (duplicates ns name).guar () objs w o)
    (h : answer () c w o = some (x, w')) : (duplicates ns name).inv w' := by
  obtain ⟨a, m, op⟩ := o
  by_cases hop : ∃ req, op = .instancesCreate req
  · obtain ⟨req, rfl⟩ := hop
    have hnone := hg req rfl
    obtain ⟨rfl, -⟩ | ⟨i, vs, hc, rfl, -⟩ := answer_instancesCreate h
    · exact hinv
    · intro b j hj k hk hlj hlk
      rw [mem_create_instances] at hj hk
      -- the account had no live instance, so both are the new one
      obtain ⟨rfl, rfl⟩ | hj := hj <;> obtain ⟨hb, rfl⟩ | hk := hk
      · rfl
      · exact absurd hlk (hnone k hk)
      · subst hb
        exact absurd hlj (hnone j hj)
      · exact hinv b j hj k hk hlj hlk
  · have hkeep := answer_keepsInstances (fun req hreq => hop ⟨req, hreq⟩) h
    intro b j hj k hk hlj hlk
    obtain ⟨j₀, hj₀, hjk⟩ := hkeep.rows b j hj
    obtain ⟨k₀, hk₀, hkk⟩ := hkeep.rows b k hk
    rw [hjk.id, hkk.id]
    exact hinv b j₀ hj₀ k₀ hk₀ (live_of_keeps hjk hlj) (live_of_keeps hkk hlk)

/-- The account has no live instance of the machine. -/
def NoLive (tag : String) (a : AccountID) (w : World Unit) : Prop :=
  ∀ i ∈ (w.account a).instances.rows, ¬ Live tag i

/-- The setting of a pass, at one account. -/
abbrev duplicatesAt (ns name : String) (objs : Objects) (a : AccountID) :
    Setting (World Unit) Call Call.Res :=
  atAccount ((duplicates ns name).setting () objs) a

theorem noLive_stable : (duplicatesAt ns name objs a).Stable (NoLive (tagFor ns name) a) := by
  intro w w' hw hr _ i' hi' hlive
  obtain ⟨i, hi, hl, -⟩ := hr a i' hi' hlive
  exact hw i hi hl

/-- Requests other than a creation leave the account without a live instance. -/
theorem noLive_step {c : Call} {x : Call.Res c} (hc : ∀ req, c.op ≠ .instancesCreate req)
    (hw : NoLive (tagFor ns name) a w) (hs : (duplicatesAt ns name objs a).step w c x w') :
    NoLive (tagFor ns name) a w' := by
  obtain ⟨-, ch, hans⟩ := atAccount_step.1 hs
  have hkeep := answer_keepsInstances hc hans
  intro i' hi' hlive
  obtain ⟨i, hi, hk⟩ := hkeep.rows a i' hi'
  exact hw i hi (live_of_keeps hk hlive)

/-- Parts of a pass that do not create instances are safe, and leave the account without a live
instance if it was. -/
theorem duplicates_frame {α : Type} {p : ClientM α} {M : List Method} {R : α → Prop}
    (hp : p.Obeys (Uses M) R) (hM : .createInstance ∉ M) (w : World Unit) :
    p.wp (duplicatesAt ns name objs a) (fun r _ => R r) w ∧
      (NoLive (tagFor ns name) a w →
        p.wp (duplicatesAt ns name objs a) (fun r w => NoLive (tagFor ns name) a w ∧ R r) w) := by
  have hguar : ∀ w c, Uses M c → (duplicatesAt ns name objs a).guar w c :=
    fun w c hc req hreq => absurd hreq (hc.ne_instancesCreate hM req)
  constructor
  · exact Prog.wp_of_obeys hp fun w c hc _ => hguar w c hc
  · intro hw
    refine Prog.wp_frame hp noLive_stable (fun w c hc _ _ => hguar w c hc) ?_ hw
    exact fun w c x w' hc hw _ hs _ => noLive_step (hc.ne_instancesCreate hM) hw hs

/-- `findInstance` reports no instance only when the account has no live one. -/
theorem duplicates_findInstance (w : World Unit)
    (htag : machineTagValue objs.machine = tagFor ns name) :
    (findInstance objs.machine).wp (duplicatesAt ns name objs a)
      (fun r w => r = .ok none → NoLive (tagFor ns name) a w) w := by
  rw [findInstance_eq]
  refine wp_lookupInstance (fun _ w w' hw hr hi hnone => noLive_stable w w' (hw hnone) hr hi) ?_
    (fun _ _ _ _ _ _ _ h => absurd h pickByID_ne_none) fun _ w x w' _ _ hs hnone => ?_
  · rintro w _ (rfl | rfl) - req hreq <;> cases hreq
  · obtain ⟨hcond, ch, hans⟩ := atAccount_step.1 hs
    have hfirst := hcond rfl
    obtain ⟨rfl, rfl | ⟨e, rfl⟩⟩ := answer_instancesGet hans
    · exact pickByTag_none hfirst (htag ▸ hnone)
    · cases hnone

/-- An object a pass may return: it is still the same machine. -/
def SameMachine (vm vm' : VerdaMachine) : Prop :=
  vm'.metadata.ns = vm.metadata.ns ∧ vm'.metadata.name = vm.metadata.name

theorem sameMachine_persist {vm' : VerdaMachine} (h : SameMachine objs.machine vm') (reply : Reply)
    (p : Patch) : machineTagValue (persist p objs objs (patched (reply, vm'))).machine =
      machineTagValue objs.machine :=
  machineTagValue_persist fun sent hsent => by
    cases hsent
    exact h

/-- A normal pass creates an instance only where there is no live one. -/
theorem duplicates_reconcileNormal (boot : BootstrapInput) (cluster : Cluster) (vc : VerdaCluster)
    (machine : Machine) (w : World Unit) (htag : machineTagValue objs.machine = tagFor ns name) :
    (reconcileNormal boot cluster vc machine objs.machine).wp (duplicatesAt ns name objs a)
      (fun r _ => SameMachine objs.machine r.2) w := by
  have hS : (duplicatesAt ns name objs a).Lawful := by
    refine Setting.Lawful.atAccount ⟨fun w b i hi hl => ⟨i, hi, hl, rfl⟩, ?_⟩
    intro w₁ w₂ w₃ h₁₂ h₂₃ b i hi hl
    obtain ⟨j, hj, hlj, hij⟩ := h₂₃ b i hi hl
    obtain ⟨k, hk, hlk, hjk⟩ := h₁₂ b j hj hlj
    exact ⟨k, hk, hlk, hij.trans hjk⟩
  have hconst : ∀ {α : Type} (R : α → Prop) (r : α),
      (duplicatesAt ns name objs a).Stable (fun _ => R r) := fun R r _ _ h _ _ => h
  refine wp_reconcileNormal hS (hconst _) ?_ ?_ ?_
  · intro _
    refine Prog.wp_mono ?_ (duplicates_frame (resyncInstance_uses _) (by decide) w).1
    rintro r w - ⟨hm, -⟩
    exact ⟨by rw [hm], by rw [hm]⟩
  · rintro reply vm' ⟨_, rfl⟩
    exact ⟨rfl, rfl⟩
  · intro _
    have hgood : ∀ inst : Instance, (duplicatesAt ns name objs a).Stable fun _ => True :=
      fun _ _ _ _ _ _ => trivial
    refine Prog.wp_mono ?_ (wp_acquire hS noLive_stable hgood ?_ ?_ ?_)
    · rintro ⟨reply | inst, vm'⟩ w - ⟨⟨id, c, rfl⟩, -⟩
      · exact ⟨rfl, rfl⟩
      · refine Prog.wp_mono ?_ (duplicates_frame (settleInstance_uses vc _ inst) (by decide) w).1
        intro r w _ hr
        have hmeta : r.2.metadata = objs.machine.metadata := hr.metadata
        exact ⟨by rw [hmeta], by rw [hmeta]⟩
    · refine Prog.wp_mono ?_ (duplicates_findInstance w htag)
      exact fun r w _ h => ⟨h, fun _ _ => trivial⟩
    · intro c w _ hc _
      exact ⟨fun req hreq => absurd hreq (hc req), fun hw x w' hs _ => noLive_step hc hw hs⟩
    · intro vm' bootFrom script sid w _ hw _
      exact ⟨fun _ _ => hw, fun _ _ _ _ _ _ _ => trivial⟩

/-- The invariant is kept by every move. -/
theorem duplicates_valid : (duplicates ns name).Valid where
  refl _ w b i hi hl := ⟨i, hi, hl, rfl⟩
  trans _ {w₁ w₂ w₃} h₁₂ h₂₃ b i hi hl := by
    obtain ⟨j, hj, hlj, hij⟩ := h₂₃ b i hi hl
    obtain ⟨k, hk, hlk, hjk⟩ := h₁₂ b j hj hlj
    exact ⟨k, hk, hlk, hij.trans hjk⟩
  drift {d w w'} hinv hd := by
    refine ⟨fun b j hj k hk hlj hlk => ?_, fun _ => ⟨fun _ b j hj hlj => ?_, fun _ h => h⟩⟩
    · obtain ⟨j₀, hj₀, hjk⟩ := drift_live hd hj hlj
      obtain ⟨k₀, hk₀, hkk⟩ := drift_live hd hk hlk
      rw [hjk.id, hkk.id]
      exact hinv b j₀ hj₀ k₀ hk₀ (live_of_keeps hjk hlj) (live_of_keeps hkk hlk)
    · obtain ⟨j₀, hj₀, hjk⟩ := drift_live hd hj hlj
      exact ⟨j₀, hj₀, live_of_keeps hjk hlj, hjk.id⟩
  edit _ he := edit_touched he
  touched _ hloc h := (Touched.tag h).trans hloc
  merge h _ := (Touched.persist h _ _ _).imp fun _ hq => ⟨trivial, hq.2⟩
  call hinv hloc _ hg hans := ⟨duplicates_call hinv hg hans, hloc, fun j hj => absurd rfl hj⟩
  pass {i inp obj w} _ hloc _ := by
    have hloc : machineTagValue obj.machine = tagFor ns name := hloc
    have hkeep : ∀ {reply vm'}, SameMachine obj.machine vm' → ∀ p,
        machineTagValue (persist p obj obj (patched (reply, vm'))).machine = tagFor ns name :=
      fun h p => (sameMachine_persist h _ p).trans hloc
    refine Invariant.wp_persist ?_
    refine wp_startPass inp obj ?_ ?_ ?_
    · refine fun out hout _ _ _ => ⟨trivial, fun p => (machineTagValue_persist fun sent hs => ?_).trans hloc⟩
      obtain ⟨fs, c, rfl⟩ := hout sent hs
      exact ⟨rfl, rfl⟩
    · intro a _
      refine Prog.wp_mono ?_
        (duplicates_frame (reconcileDelete_uses inp.now obj.machine) (by decide) w).1
      exact fun r _ _ h => ⟨trivial, hkeep ⟨h.ns, h.name⟩⟩
    · intro a cluster vc machine _
      refine Prog.wp_mono ?_
        (duplicates_reconcileNormal inp.boot cluster vc machine w hloc)
      exact fun r _ _ h => ⟨trivial, hkeep h⟩

end

/-- **At most one live instance per machine**, in every state of every run in which live instances
are listed first: whatever crashes, is lost or drifts. -/
theorem atMostOne_live {ns name : String} {s₀ s : MachineState Unit} (h₀ : Initial ns name s₀)
    (h : Reach (oneMachine ns name) (listsLiveFirst (tagFor ns name)) s₀ s) (a : AccountID) :
    ((s.world.account a).instances.rows.filter fun i => Live (tagFor ns name) i).length ≤ 1 := by
  have hinv := (Invariant.sound duplicates_valid ?_ ?_ ?_ h).inv
  · refine Table.length_filter_le_one _ _ fun i hi j hj hli hlj => ?_
    exact hinv a i hi j hj (by simpa using hli) (by simpa using hlj)
  · intro b i hi j _ hl _
    exact absurd hl.1 (h₀.untagged b i hi)
  · intro u
    show machineTagValue (s₀.obj ()).machine = tagFor ns name
    rw [machineTagValue, h₀.machine_ns, h₀.machine_name, tagFor]
  · exact fun _ => h₀.idle

/-! ## Runs of a sample machine -/

/-- A machine that is ready to be provisioned. -/
def sampleMachine : VerdaMachine where
  metadata := { ns := "default", name := "m0", finalizers := [machineFinalizer] }
  spec := { instanceType := "CPU.4V.16G", image := "ubuntu-24.04" }

/-- Its surroundings. -/
def sampleObjects : Objects where
  machine := sampleMachine
  verdaCluster := some
    { metadata := { ns := "default", name := "c0" }, spec := { location := "FIN-01" } }
  owner := some { ns := "default", name := "m0", dataSecretName := some "m0-bootstrap" }

/-- An account with the OS volume `golden` that machines clone. -/
def goldenAccount : Account where
  volumes := ⟨[stored { id := "g", name := "golden", status := "detached", isOSVolume := true }],
    by decide⟩

/-- The machine in an empty world. -/
def sampleState : MachineState Unit where
  world := { account := fun _ => {} }
  obj := fun _ => sampleObjects
  run := fun _ => none

theorem sampleState_initial : Initial "default" "m0" sampleState where
  idle := rfl
  machine_ns := rfl
  machine_name := rfl
  status := rfl
  providerID := rfl
  made := rfl
  untagged := by
    intro a i hi
    cases hi

/-- A pass in which every read succeeds and the bootstrap data is empty. -/
def sampleInput : PassInput where
  cluster := .ok { ns := "default", name := "c0", infrastructureProvisioned := some true }
  boot := { secret := .ok (some []), toStartupScript := fun _ _ => .ok [] }

/-- An instance created for the machine. -/
def sampleInstance (id status : String) : Sdk.Instance where
  id := id
  hostname := "m0"
  status := status
  tags := [⟨tagManagedBy, managedByValue⟩, ⟨tagCluster, "default/c0"⟩, ⟨tagMachine, "default/m0"⟩,
    ⟨tagRole, "worker"⟩]

/-- A move of a run. -/
abbrev MachineMove := Move Unit PassInput Choice Patch (AccountID × Account) Edit

/-- Requests that are carried out and answered. -/
def accepted (n : Nat) : List MachineMove := List.replicate n (.answer () (.accept .plain))

/-- A pass that finds nothing and creates an instance, and crashes before its patch: the listing by
tag, the listing of `CreateInstance`, the listing of scripts, the creation. -/
def createAndCrash (id : String) : List MachineMove :=
  [.start () sampleInput] ++ accepted 3 ++
    [.answer () (.accept (.instance_ (sampleInstance id "provisioning") [])), .crash ()]

/-- The global account moves on to these instances. -/
def relist (instances : List Sdk.Instance) (h : (instances.map Sdk.Instance.id).Nodup) :
    MachineMove :=
  .drift (.global, { instances := ⟨instances, h⟩ })

/-- The pass after a crash finds the instance by its tag, and creates no other one. -/
theorem atMostOne_live_sample : ∃ s : MachineState Unit, s.world.made ≠ [] ∧
    ((s.world.account .global).instances.rows.filter
      fun i => Live (tagFor "default" "m0") i).length ≤ 1 := by
  obtain ⟨s, hs, hmade⟩ := exists_reach_meeting (oneMachine "default" "m0")
    (listsLiveFirst (tagFor "default" "m0")) sampleState (fun s => s.world.made.length == 1)
    (createAndCrash "x1" ++ [.start () sampleInput] ++ accepted 1) (by decide +kernel)
  refine ⟨s, ?_, atMostOne_live sampleState_initial hs .global⟩
  rintro h
  simp [h] at hmade

/-- The first instance is deleted, the second is running but listed after it: a third is created. -/
theorem two_live_instances : ∃ s₀ s, Initial "default" "m0" s₀ ∧
    Reach (oneMachine "default" "m0") {} s₀ s ∧
    ((s.world.account .global).instances.rows.filter
      fun i => Live (tagFor "default" "m0") i).length = 2 := by
  obtain ⟨s, hs, hbad⟩ := exists_reach_of_run (oneMachine "default" "m0") sampleState
    (fun s => ((s.world.account .global).instances.rows.filter
      fun i => Live (tagFor "default" "m0") i).length == 2)
    (createAndCrash "x1" ++ [relist [sampleInstance "x1" "deleted"] (by decide)] ++
      createAndCrash "x2" ++
      [relist [sampleInstance "x1" "deleted", sampleInstance "x2" "running"] (by decide)] ++
      createAndCrash "x3")
    (by decide +kernel)
  exact ⟨sampleState, s, sampleState_initial, hs, by simpa using hbad⟩

end VerdaCapi.Controller
