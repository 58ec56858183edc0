import VerdaCapi.Controller.Duplicates
import VerdaCapi.Remote.History

/-!
# An instance without capacity

When Verda has no capacity for an instance, a normal pass calls `DeleteInstance` for it once and forgets
its ID. `DeleteInstance` only shuts an instance down that is not offline yet; it stays listed under the
machine's tag.

`discarded_staysForgotten`: an instance that was discarded is not recorded again as long as no listing
by tag shows it live. `discarded_recorded` is a run in which the next pass finds it offline and records
it.
-/

namespace VerdaCapi.Controller

open Remote Go Api Cloud Webhook

/-! ## Which instances a pass deals with -/

theorem settleInstance_asks (vc : VerdaCluster) (vm : VerdaMachine) (inst : Instance) :
    (settleInstance vc vm inst).Obeys (AsksOnly inst.id) fun r => Settles inst vm r.2 := by
  refine ((settleInstance_obeys (fun c hc x hx => ?_) (deleteInstance_asks inst.id) vc vm).and
    (settleInstance_uses vc vm inst)).mono (fun _ h => h.1) fun _ h => h.2
  rw [hc.asksDelete (by decide)] at hx
  cases hx

/-- A property of instance IDs that a pass over a machine carries along: it holds of the recorded
instance, of one that is found by tag and of one that is created, nothing that happens breaks it, and
every request is allowed that calls `DeleteInstance` for such instances only. -/
structure TracksIDs {W : Type} (S : Setting W Call Call.Res) (vm : VerdaMachine)
    (Own : String → W → Prop) : Prop where
  lawful : S.Lawful
  stable : ∀ id, S.Stable (Own id)
  step : ∀ id w c x w', Own id w → S.step w c x w' → Own id w'
  allowed : ∀ w c, S.inv w → (∀ id ∈ asksDelete c, Own id w) → S.guar w c
  recorded : ∀ w, S.inv w → vm.status.instanceID ≠ "" → Own vm.status.instanceID w
  fetched : ∀ w id i w', S.step w ⟨.getInstance, .instancesGetByID id⟩ (.ok i) w' → i.id = id
  found : ∀ w x w', S.inv w → S.step w tagListing x w' →
    ∀ inst, pickByTag (machineTagValue vm) x = .ok (some inst) → Own inst.id w'
  created : ∀ w req i w', S.inv w → S.step w ⟨.createInstance, .instancesCreate req⟩ (.ok i) w' →
    Own i.id w'

namespace TracksIDs

variable {W : Type} {S : Setting W Call Call.Res} {vm : VerdaMachine} {Own : String → W → Prop}

/-- Requests that are not the start of a `DeleteInstance` are allowed. -/
theorem frame (h : TracksIDs S vm Own) {α : Type} {M : List Method} {p : ClientM α} {R : α → Prop}
    (hp : p.Obeys (Uses M) R) (hM : .deleteInstance ∉ M) (w : W) : p.wp S (fun r _ => R r) w := by
  refine Prog.wp_of_obeys hp fun w c hc hi => ?_
  refine h.allowed w c hi fun id hid => ?_
  rw [hc.asksDelete hM] at hid
  cases hid

/-- The same for parts that may call `DeleteInstance` for one instance. -/
theorem frame_asks (h : TracksIDs S vm Own) {α : Type} {id : String} {p : ClientM α} {R : α → Prop}
    (hp : p.Obeys (AsksOnly id) R) {w : W} (hw : Own id w) :
    p.wp S (fun r w => Own id w ∧ R r) w := by
  refine Prog.wp_frame hp (h.stable id) (fun w c hc hw hi => ?_)
    (fun w c x w' _ hw _ hs _ => h.step id w c x w' hw hs) hw
  refine h.allowed w c hi fun id' hid' => ?_
  rw [hc id' hid']
  exact hw

/-- Whatever `findInstance` returns has the property. -/
theorem findInstance (h : TracksIDs S vm Own) {vm' : VerdaMachine} (hvm : KeepsRecords vm vm') (w : W) :
    (findInstance vm').wp S (fun r w => (r = .ok none → True) ∧
      ∀ inst, r = .ok (some inst) → Own inst.id w) w := by
  have hstable : ∀ r : Except Err (Option Instance), S.Stable fun w => (r = .ok none → True) ∧
      ∀ inst, r = .ok (some inst) → Own inst.id w :=
    fun r w w' hr hrely hi => ⟨fun _ => trivial, fun inst hinst =>
      h.stable inst.id w w' (hr.2 inst hinst) hrely hi⟩
  rcases hvm with ⟨conditions, rfl⟩
  rw [findInstance_eq]
  refine wp_lookupInstance hstable ?_ (fun hid w x w' _ hi hs => ⟨fun _ => trivial, fun inst hinst => ?_⟩)
    fun _ w x w' _ hi hs => ⟨fun _ => trivial, h.found w x w' hi hs⟩
  · rintro w _ (rfl | rfl) hi <;> exact h.allowed w _ hi fun _ hid => by cases hid
  · have hown := h.step _ w _ x w' (h.recorded w hi hid) hs
    rcases pickByID_eq_some hinst with ⟨i, rfl, rfl⟩ | rfl
    · rw [← h.fetched w _ i w' hs] at hown
      exact hown
    · -- the record that is made up has the ID that was asked for
      exact hown

/-- A normal pass returns with an instance that has the property, if with any. -/
theorem reconcileNormal (h : TracksIDs S vm Own) (boot : BootstrapInput) (cluster : Cluster)
    (vc : VerdaCluster) (machine : Machine) (w : W) (hw : S.inv w) :
    (reconcileNormal boot cluster vc machine vm).wp S
      (fun r w => r.2.status.instanceID ≠ "" → Own r.2.status.instanceID w) w := by
  have hstable : ∀ id : String, S.Stable fun w => id ≠ "" → Own id w :=
    fun id w w' hid hr hi hne => h.stable id w w' (hid hne) hr hi
  have hsame : ∀ {vm' : VerdaMachine} {w : W}, vm'.status.instanceID = vm.status.instanceID → S.inv w →
      vm'.status.instanceID ≠ "" → Own vm'.status.instanceID w := by
    intro vm' w heq hi hne
    rw [heq] at hne ⊢
    exact h.recorded w hi hne
  refine wp_reconcileNormal h.lawful (fun r => hstable _) ?_ ?_ ?_
  · intro _
    refine Prog.wp_mono ?_ (h.frame (resyncInstance_uses vm) (by decide) w)
    exact fun r w hi hr => hsame hr.2.2.1 hi
  · intro reply vm' hvm'
    rcases hvm' with ⟨conditions, rfl⟩
    exact hsame rfl hw
  · intro _
    have htrue : S.Stable fun _ => True := fun _ _ _ _ _ => trivial
    refine Prog.wp_mono ?_ (wp_acquire h.lawful htrue (fun inst => h.stable inst.id)
      (h.findInstance (.refl vm) w) ?_ ?_)
    · intro r w hi hr
      rcases r with ⟨reply | inst, vm'⟩
      · rcases hr.1 with ⟨id, conditions, rfl⟩
        exact hsame rfl hi
      · refine Prog.wp_mono ?_ (h.frame_asks (settleInstance_asks vc vm' inst) (hr.2 inst rfl))
        intro r w _ hr hne
        rcases hr.2.instanceID with heq | heq
        · rw [heq]
          exact hr.1
        · exact absurd heq hne
    · intro c w hc _ hi
      refine ⟨h.allowed w c hi fun id hid => ?_, fun _ _ _ _ _ => trivial⟩
      rw [hc.asksDelete (by decide)] at hid
      cases hid
    · intro vm' bootFrom script sid w _ _ hi
      refine ⟨h.allowed w _ hi fun _ hid => (by cases hid), fun i w' hs _ out hout _ => ?_⟩
      rw [hout]
      exact h.created w _ i w' hi hs

/-- A delete pass calls `DeleteInstance` for an instance with the property only. -/
theorem reconcileDelete (h : TracksIDs S vm Own) (now : Time) (w : W) :
    (reconcileDelete now vm).wp S (fun r _ => WindsDown vm r.2) w := by
  refine Prog.wp_mono (fun _ _ _ h => h.2) (Prog.wp_and_obeys (Q := fun _ _ => True)
    (reconcileDelete_uses now vm) ?_)
  rw [reconcileDelete_eq]
  refine wp_teardown_keep h.lawful .trivial trivial
    (Prog.wp_mono (fun _ _ _ hr => hr.2) (h.findInstance ⟨_, rfl⟩ w)) (fun inst w hinst => ?_)
    (fun id w => ?_) fun w _ => ?_
  · exact Prog.wp_mono (fun _ _ _ _ => trivial)
      (h.frame_asks (deleteLive_requests (deleteInstance_asks inst.id)) hinst)
  · exact Prog.wp_mono (fun _ _ _ _ => trivial) (h.frame
      (purgeInstanceVolumes_uses id (M := [.purgeInstanceVolumes]) (by decide)) (by decide) w)
  · exact Prog.wp_mono (fun _ _ _ _ => trivial) (h.frame (releaseMachine_uses _) (by decide) w)

end TracksIDs

/-- What a pass sends: the same machine, with an instance that has the property, if with any. -/
def SendsOwn {W : Type} (Own : String → W → Prop) (objs : Objects) (out : MachineOutcome) (w : W) :
    Prop :=
  ∀ sent ∈ out.sent, SameMachine objs.machine sent ∧
    (sent.status.instanceID ≠ "" → Own sent.status.instanceID w)

theorem TracksIDs.startPass {W : Type} {S : Setting W AccountCall AccountCall.Res} {objs : Objects}
    {Own : String → W → Prop} (h : ∀ a, TracksIDs (atAccount S a) objs.machine Own) (inp : PassInput)
    (w : W) (hw : S.inv w) : (startPass inp objs).wp S (SendsOwn Own objs) w := by
  have hsame : ∀ {out : MachineOutcome} {w : W}, S.inv w → (∀ sent ∈ out.sent,
      SameMachine objs.machine sent ∧ sent.status.instanceID = objs.machine.status.instanceID) →
      SendsOwn Own objs out w := by
    intro out w hi hsent sent hs
    rcases hsent sent hs with ⟨hsm, heq⟩
    refine ⟨hsm, fun hne => ?_⟩
    rw [heq] at hne ⊢
    exact (h .global).recorded w hi hne
  refine wp_startPass inp objs ?_ ?_ ?_
  · intro out hout w' _ hi
    refine hsame hi fun sent hs => ?_
    obtain ⟨fs, c, rfl⟩ := hout sent hs
    exact ⟨⟨rfl, rfl⟩, rfl⟩
  · intro a _
    refine Prog.wp_mono ?_ ((h a).reconcileDelete inp.now w)
    intro r w hi hr
    refine hsame hi fun sent hs => ?_
    cases hs
    exact ⟨⟨hr.ns, hr.name⟩, hr.instanceID⟩
  · intro a cluster vc machine _
    refine Prog.wp_mono ?_ (Prog.wp_and_obeys
      (reconcileNormal_uses inp.boot cluster vc machine objs.machine)
      ((h a).reconcileNormal inp.boot cluster vc machine w hw))
    rintro r w - ⟨hown, hmeta⟩ sent hs
    cases hs
    exact ⟨⟨congrArg _ hmeta, congrArg _ hmeta⟩, hown⟩

/-- What is stored after the patch. -/
theorem SendsOwn.persist {W : Type} {Own : String → W → Prop} {objs : Objects} {out : MachineOutcome}
    {w : W} (h : SendsOwn Own objs out w)
    (hobjs : objs.machine.status.instanceID ≠ "" → Own objs.machine.status.instanceID w) (p : Patch) :
    machineTagValue (persist p objs objs out).machine = machineTagValue objs.machine ∧
      ((persist p objs objs out).machine.status.instanceID ≠ "" →
        Own (persist p objs objs out).machine.status.instanceID w) := by
  refine ⟨machineTagValue_persist fun sent hsent => (h sent hsent).1, fun hne => ?_⟩
  rcases @persist_status p objs out objs with ⟨c, hs⟩ | ⟨sent, hsent, c, hs⟩
  · rw [hs] at hne ⊢
    exact hobjs hne
  · rw [hs] at hne ⊢
    exact (h sent hsent).2 hne

/-! ## Runs with their requests -/

/-- The requests of a run of one machine. -/
abbrev MachineHistory := History Unit AccountCall AccountCall.Res

/-- The runs of one machine, with their history. -/
abbrev tracedMachine (ns name : String) := (oneMachine ns name).traced

/-- A state of such a run. -/
abbrev TracedState :=
  State Unit (World Unit × MachineHistory) AccountCall AccountCall.Res Objects MachineOutcome

/-- Conditions on such a run. -/
abbrev TracedConditions := Conditions Unit (World Unit × MachineHistory) AccountCall Objects
  MachineOutcome PassInput Patch Edit

/-- `DeleteInstance` was called for this instance. -/
def Asked (id : String) (h : MachineHistory) : Prop := ∃ e ∈ h, asksDelete e.2.1.2 = some id

instance (id : String) (h : MachineHistory) : Decidable (Asked id h) :=
  inferInstanceAs (Decidable (∃ e ∈ h, _))

/-- The account does not list this instance as live. -/
def NotLive (id : String) (acc : Account) : Prop :=
  ∀ i ∈ acc.instances.rows, i.id = id → isGone i = true

instance (id : String) (acc : Account) : Decidable (NotLive id acc) :=
  inferInstanceAs (Decidable (∀ i ∈ acc.instances.rows, _))

/-- Whenever an account is listed by tag, it does not list this instance as live. -/
abbrev skips (id : String) : TracedConditions where
  call _ _ w o := o.2 = tagListing → NotLive id (w.1.account o.1)

/-! ## What is deleted was created for the machine -/

/-- The instance was created for the machine. -/
def IsOwn (id : String) (w : World Unit × MachineHistory) : Prop := id ≠ "" ∧ CreatedFor () id w.1

/-- What carries the machine's tag, and what `DeleteInstance` was called for, was created for it. -/
structure AsksOwn (tag : String) (w : World Unit × MachineHistory) : Prop where
  tagged : Tagged tagMachine tag (fun i => IsOwn i.id w) w.1
  asked : ∀ id, Asked id w.2 → IsOwn id w

def asksOwn (ns name : String) : Invariant (tracedMachine ns name) {} where
  inv := AsksOwn (tagFor ns name)
  loc _ objs w := machineTagValue objs.machine = tagFor ns name ∧
    (objs.machine.status.instanceID ≠ "" → IsOwn objs.machine.status.instanceID w)
  touch _ := Touched
  rely _ w w' := ∀ e ∈ w.1.made, e ∈ w'.1.made
  guar _ _ w o := ∀ id ∈ asksDelete o.2, IsOwn id w
  done _ _ _ _ := True

section

variable {ns name tag : String} {objs : Objects} {a : AccountID} {w w' : World Unit × MachineHistory}

theorem IsOwn.mono {id : String} (h : IsOwn id w) (hw : ∀ e ∈ w.1.made, e ∈ w'.1.made) :
    IsOwn id w' :=
  ⟨h.1, h.2.mono hw⟩

theorem AsksOwn.answer {c : Choice} {o : AccountCall} {x : AccountCall.Res o} (h : AsksOwn tag w)
    (hg : ∀ id ∈ asksDelete o.2, IsOwn id w)
    (hans : (tracedMachine ns name).answer () c w o = some (x, w')) : AsksOwn tag w' := by
  rcases System.traced_answer hans with ⟨hans, hhist⟩
  have hgrows := answer_grows hans
  constructor
  · intro b i' hi' htag
    rcases answer_instances hans b i' hi' with ⟨i, hi, hkeep⟩ | ⟨-, req, vs, -, hc, hmade⟩
    · rw [hkeep.id]
      exact (h.tagged b i hi (hkeep.tagOf tagMachine ▸ htag)).mono hgrows
    · exact ⟨(hc.unused i'.id List.mem_cons_self).1, b, hmade⟩
  · rintro id ⟨e, he, heq⟩
    rw [hhist] at he
    rcases List.mem_cons.1 he with rfl | he
    · exact (hg id heq).mono hgrows
    · exact (h.asked id ⟨e, he, heq⟩).mono hgrows

theorem AsksOwn.drift {d : AccountID × Account} (h : AsksOwn tag w)
    (hd : (tracedMachine ns name).drift d w = some w') (htag : tag = tagFor ns name) :
    AsksOwn tag w' ∧ w'.1.made = w.1.made := by
  rcases System.traced_drift hd with ⟨hd, hhist⟩
  rcases drift_instances hd with ⟨hmade, hrows⟩
  have hgrows : ∀ e ∈ w.1.made, e ∈ w'.1.made := fun e he => hmade ▸ he
  refine ⟨⟨fun b i' hi' htag' => ?_, fun id hid => ?_⟩, hmade⟩
  · rcases hrows b i' hi' with ⟨i, hi, hkeep⟩ | ⟨-, hnew⟩
    · rw [hkeep.id]
      exact (h.tagged b i hi (hkeep.tagOf tagMachine ▸ htag')).mono hgrows
    · simp [htag', htag] at hnew
  · rw [hhist] at hid
    exact (h.asked id hid).mono hgrows

theorem asksOwn_tracks (a : AccountID) :
    TracksIDs (atAccount ((asksOwn ns name).setting () objs) a) objs.machine IsOwn where
  lawful := Setting.Lawful.atAccount ⟨fun _ _ he => he, fun h h' e he => h' e (h e he)⟩
  stable id w w' h hr _ := h.mono hr
  step id w c x w' h hs := by
    rcases atAccount_step.1 hs with ⟨-, ch, hans⟩
    exact h.mono (answer_grows (System.traced_answer hans).1)
  allowed w c _ h := h
  recorded w hi := hi.2.2
  fetched w id i w' hs := by
    rcases atAccount_step.1 hs with ⟨-, ch, hans⟩
    exact (answer_fetched (System.traced_answer hans).1).2
  found w x w' hi hs inst hinst := by
    rcases atAccount_step.1 hs with ⟨-, ch, hans⟩
    rcases answer_instancesGet (System.traced_answer hans).1 with ⟨hw, rfl | ⟨e, rfl⟩⟩
    · rcases pickByTag_some hinst with ⟨i, hmem, hlive, rfl⟩
      refine IsOwn.mono (hi.1.tagged a i hmem (hlive.1.trans hi.2.1)) ?_
      rw [hw]
      exact fun e he => he
    · cases hinst
  created w req i w' _ hs := by
    rcases atAccount_step.1 hs with ⟨-, ch, hans⟩
    rcases answer_created (System.traced_answer hans).1 with ⟨vs, hc, hw⟩
    refine ⟨(hc.unused i.id List.mem_cons_self).1, a, ?_⟩
    rw [hw]
    exact (mem_create_made_instance rfl).2 (.inl rfl)

theorem asksOwn_valid : (asksOwn ns name).Valid where
  refl _ _ _ he := he
  trans _ {_ _ _} h h' e he := h' e (h e he)
  drift {d w w'} hinv hd := by
    rcases hinv.drift hd rfl with ⟨hinv', hmade⟩
    have hgrows : ∀ e ∈ w.1.made, e ∈ w'.1.made := fun e he => hmade ▸ he
    exact ⟨hinv', fun _ => ⟨fun _ => hgrows, fun obj h => ⟨h.1, fun hne => (h.2 hne).mono hgrows⟩⟩⟩
  edit _ he := edit_touched he
  touched _ hloc h := ⟨(Touched.tag h).trans hloc.1, Touched.status h ▸ hloc.2⟩
  merge h _ := (Touched.persist h _ _ _).imp fun _ hq => ⟨trivial, hq.2⟩
  call {i obj c w o x w'} hinv hloc _ hg hans := by
    have hgrows := answer_grows (System.traced_answer hans).1
    exact ⟨hinv.answer hg hans, ⟨hloc.1, fun hne => (hloc.2 hne).mono hgrows⟩, fun j hj => absurd rfl hj⟩
  pass {i inp obj w} hinv hloc _ := by
    refine Invariant.wp_persist (Prog.wp_mono ?_ (TracksIDs.startPass asksOwn_tracks inp w ⟨hinv, hloc⟩))
    intro out w hi hsends
    refine ⟨trivial, fun p => ?_⟩
    rcases hsends.persist hi.2.2 p with ⟨htag, hown⟩
    exact ⟨htag.trans hi.2.1, hown⟩

end

/-! ## A discarded instance stays forgotten -/

/-- Another ID than this one. -/
def Other (id : String) (other : String) (_ : World Unit × MachineHistory) : Prop := other ≠ id

def forgets (ns name id : String) : Invariant (tracedMachine ns name) (skips id) where
  inv w := IsOwn id w
  loc _ objs _ := objs.machine.status.instanceID ≠ id
  touch _ := Touched
  rely _ _ _ := True
  guar _ _ _ _ := True
  done _ _ out _ := ∀ sent ∈ out.sent, sent.status.instanceID ≠ id

section

variable {ns name id : String} {objs : Objects}

theorem forgets_tracks (a : AccountID) :
    TracksIDs (atAccount ((forgets ns name id).setting () objs) a) objs.machine (Other id) where
  lawful := Setting.Lawful.atAccount ⟨fun _ => trivial, fun _ _ => trivial⟩
  stable _ _ _ h _ _ := h
  step _ _ _ _ _ h _ := h
  allowed _ _ _ _ := trivial
  recorded w hi _ := hi.2
  fetched w id' i w' hs := by
    rcases atAccount_step.1 hs with ⟨-, ch, hans⟩
    exact (answer_fetched (System.traced_answer hans).1).2
  found w x w' hi hs inst hinst := by
    rcases atAccount_step.1 hs with ⟨hcond, ch, hans⟩
    rcases answer_instancesGet (System.traced_answer hans).1 with ⟨-, rfl | ⟨e, rfl⟩⟩
    · rcases pickByTag_some hinst with ⟨i, hmem, hlive, rfl⟩
      intro heq
      have hgone := hcond rfl i hmem heq
      rw [hlive.2] at hgone
      cases hgone
    · cases hinst
  created w req i w' hi hs := by
    rcases atAccount_step.1 hs with ⟨-, ch, hans⟩
    rcases answer_created (System.traced_answer hans).1 with ⟨vs, hc, -⟩
    -- a new instance has an ID that was not given out
    rcases hi.1.2 with ⟨b, hmade⟩
    exact fun heq => (hc.unused i.id List.mem_cons_self).2 _ hmade heq.symm

theorem forgets_valid : (forgets ns name id).Valid where
  refl _ _ := trivial
  trans _ {_ _ _} _ _ := trivial
  drift {d w w'} hinv hd := by
    rcases drift_instances (System.traced_drift hd).1 with ⟨hmade, -⟩
    exact ⟨hinv.mono fun e he => hmade ▸ he, fun _ => ⟨fun _ => trivial, fun _ h => h⟩⟩
  edit _ he := edit_touched he
  touched {_ _ obj' _} _ hloc h := by
    show obj'.machine.status.instanceID ≠ id
    rw [Touched.status h]
    exact hloc
  merge h _ := (Touched.persist h _ _ _).imp fun _ hq => ⟨trivial, hq.2⟩
  call hinv hloc _ _ hans :=
    ⟨hinv.mono (answer_grows (System.traced_answer hans).1), hloc, fun j hj => absurd rfl hj⟩
  pass {i inp obj w} hinv hloc _ := by
    refine Invariant.wp_persist (Prog.wp_mono ?_ (TracksIDs.startPass forgets_tracks inp w ⟨hinv, hloc⟩))
    intro out w hi hsends
    have hempty : ∀ other : String, (other ≠ "" → Other id other w) → other ≠ id := by
      intro other h heq
      exact h (heq ▸ hi.1.1) heq
    refine ⟨fun sent hs => hempty _ (hsends sent hs).2, fun p => ?_⟩
    exact hempty _ (hsends.persist (fun _ => hi.2) p).2

end

/-- **A discarded instance stays forgotten**: once `DeleteInstance` was called for it and the stored
machine does not record it, no later pass records it, stored or returned, in every run in which no
listing by tag shows it live from then on. -/
theorem discarded_staysForgotten {ns name id : String} {s₀ s₁ s₂ : TracedState}
    (h₀ : Initial ns name s₀.untraced) (hempty : s₀.world.2 = [])
    (h₁ : Reach (tracedMachine ns name) {} s₀ s₁) (hasked : Asked id s₁.world.2)
    (hidle : s₁.run () = none) (hcleared : (s₁.obj ()).machine.status.instanceID ≠ id)
    (h₂ : Reach (tracedMachine ns name) (skips id) s₁ s₂) :
    (s₂.obj ()).machine.status.instanceID ≠ id ∧
      ∀ out sent, s₂.run () = some (.ret out) → out.sent = some sent →
        sent.status.instanceID ≠ id := by
  have hown : (asksOwn ns name).Holds s₁ := by
    refine Invariant.sound asksOwn_valid ⟨?_, ?_⟩ (fun _ => ⟨?_, ?_⟩) (fun _ => h₀.idle) h₁
    · exact fun b i hi htag => absurd htag (h₀.untagged b i hi)
    · rintro id ⟨e, he, -⟩
      rw [hempty] at he
      cases he
    · show machineTagValue (s₀.untraced.obj ()).machine = tagFor ns name
      rw [machineTagValue, h₀.machine_ns, h₀.machine_name, tagFor]
    · intro hne
      exact absurd (congrArg VerdaMachineStatus.instanceID h₀.status) hne
  have hholds : (forgets ns name id).Holds s₂ :=
    Invariant.sound forgets_valid (hown.inv.asked id hasked) (fun _ => hcleared) (fun _ => hidle) h₂
  exact ⟨hholds.loc (), fun out sent hrun hsent => hholds.done forgets_valid hrun sent hsent⟩

/-! ## Runs of the sample machine -/

/-- A pass that creates an instance for which there is no capacity, calls `DeleteInstance` for it, which
reads it and shuts it down, and stores the machine without its ID. -/
def createAndDiscard : List MachineMove :=
  [.start () sampleInput] ++ accepted 3 ++
    [.answer () (.accept (.instance_ (sampleInstance "x1" "no_capacity") []))] ++ accepted 2 ++
    [.finish () {}]

/-- The no-capacity branch discarded the instance: `DeleteInstance` was called for it, and the machine is
stored without its ID and with the reason. -/
structure Discarded (id : String) (s : TracedState) : Prop where
  asked : Asked id s.world.2
  idle : (s.run ()).isNone = true
  cleared : (s.obj ()).machine.status.instanceID = ""
  reason : (s.obj ()).machine.status.conditions.instanceReady.map (·.reason) = some "NoCapacity"

instance (id : String) (s : TracedState) : Decidable (Discarded id s) :=
  decidable_of_iff (Asked id s.world.2 ∧ (s.run ()).isNone = true ∧
      (s.obj ()).machine.status.instanceID = "" ∧
      (s.obj ()).machine.status.conditions.instanceReady.map (·.reason) = some "NoCapacity")
    ⟨fun h => ⟨h.1, h.2.1, h.2.2.1, h.2.2.2⟩, fun h => ⟨h.asked, h.idle, h.cleared, h.reason⟩⟩

/-- Another instance takes the place of the discarded one. -/
theorem discarded_staysForgotten_sample : ∃ s₁ s₂ : TracedState, Discarded "x1" s₁ ∧
    (s₂.obj ()).machine.status.instanceID = "x2" ∧
    (s₂.obj ()).machine.status.instanceID ≠ "x1" := by
  -- the instance is discontinued before the next pass, which creates another one
  obtain ⟨s₁, s₂, hs₁, hmid, hs₂, hgood⟩ := exists_reach_then (tracedMachine "default" "m0") (skips "x1")
    sampleState.traced (fun s => decide (Discarded "x1" s))
    (fun s => (s.obj ()).machine.status.instanceID == "x2")
    createAndDiscard ([relist [sampleInstance "x1" "discontinued"] (by decide), .start () sampleInput] ++
      accepted 3 ++ [.answer () (.accept (.instance_ (sampleInstance "x2" "provisioning") [])),
      .finish () {}]) (by decide +kernel)
  have hmid : Discarded "x1" s₁ := by simpa using hmid
  have hcleared : (s₁.obj ()).machine.status.instanceID ≠ "x1" := by
    rw [hmid.cleared]
    decide
  have h₀ : Initial "default" "m0" sampleState.traced.untraced := sampleState_initial
  exact ⟨s₁, s₂, hmid, by simpa using hgood, (discarded_staysForgotten h₀ rfl hs₁ hmid.asked
    (by simpa using hmid.idle) hcleared hs₂).1⟩

/-- The instance turns offline, and the next pass finds it by its tag and records it. -/
theorem discarded_recorded : ∃ s₀ s₁ s₂ : TracedState, Initial "default" "m0" s₀.untraced ∧
    s₀.world.2 = [] ∧ Reach (tracedMachine "default" "m0") {} s₀ s₁ ∧ Discarded "x1" s₁ ∧
    Reach (tracedMachine "default" "m0") {} s₁ s₂ ∧ s₂.run () = none ∧
    (s₂.obj ()).machine.status.instanceID = "x1" := by
  obtain ⟨s₁, s₂, hs₁, hmid, hs₂, hbad⟩ := exists_reach_then (tracedMachine "default" "m0") {}
    sampleState.traced (fun s => decide (Discarded "x1" s))
    (fun s => (s.run ()).isNone && (s.obj ()).machine.status.instanceID == "x1")
    createAndDiscard ([relist [sampleInstance "x1" "offline"] (by decide), .start () sampleInput] ++
      accepted 1 ++ [.finish () {}]) (by decide +kernel)
  simp only [Bool.and_eq_true, decide_eq_true_eq, Option.isNone_iff_eq_none, beq_iff_eq] at hmid hbad
  exact ⟨sampleState.traced, s₁, s₂, sampleState_initial, rfl, hs₁, hmid, hs₂, hbad.1, hbad.2⟩

end VerdaCapi.Controller
