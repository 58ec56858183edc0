import VerdaCapi.Controller.VolumeLeak

/-!
# No startup script is left behind

A startup script carries the bootstrap secrets of a node. `CreateInstance` replaces scripts by name;
deletion goes by the recorded ID when there is one, and by name only when there is none. When a
re-creation adds a new script and its pass is lost, the recorded ID is that of the old one.

`noScript_leaked` says what deletion achieves: when every script of the machine that still exists is
the recorded one, or none is recorded, all of them are deleted before the finalizer goes.
`script_leaked` is a run in which the recorded ID is stale.
-/

namespace VerdaCapi.Controller

open Remote Go Api Cloud Webhook

/-- The script is in this account, and is the recorded one unless none is recorded. -/
def TrackedIn (vm : VerdaMachine) (a : AccountID) (e : Made Unit) : Prop :=
  e.account = a ∧ (vm.status.startupScriptID = "" ∨ e.id = vm.status.startupScriptID)

instance (vm : VerdaMachine) (a : AccountID) : DecidablePred (TrackedIn vm a) :=
  fun _ => inferInstanceAs (Decidable (_ ∧ _))

/-- Whenever a delete pass looks up the machine's instance, every startup script of the machine that
still exists is in the account that is asked, and is the recorded one unless none is recorded. -/
abbrev tracksScripts : MachineConditions Unit where
  call _ objs w o :=
    (o.2.method = .getInstance ∨ o.2.method = .findInstanceByTag) →
      objs.machine.metadata.deletionTimestamp ≠ none → LeftIn (TrackedIn objs.machine o.1) w

/-- Scripts that were added keep the machine's name, so they can be found by it; nobody else adds one
for the machine while a pass runs. -/
def scriptLeaks (ns name : String) : Invariant (oneMachine ns name) tracksScripts where
  inv w := ∀ e ∈ w.made, e.kind = .script →
    ∀ s ∈ (w.account e.account).scripts.rows, s.id = e.id → s.name = name
  loc _ objs _ := objs.machine.metadata.name = name
  touch _ := Touched
  rely _ w w' := w'.made = w.made ∧ ∀ e ∈ w.made, ScriptLeft w' e → ScriptLeft w e
  guar _ _ _ o := ∀ n script, o.2.op = .scriptsAdd n script → n = name
  done _ objs out w := Released objs out → LeftIn (fun _ => False) w

section

variable {ns name : String} {objs : Objects} {a : AccountID} {w w' : World Unit} {vm : VerdaMachine}
  {P : Made Unit → Prop}

/-! ## What stays true -/

/-- The setting of a pass, at one account. -/
abbrev scriptsAt (ns name : String) (objs : Objects) (a : AccountID) :
    Setting (World Unit) Call Call.Res :=
  atAccount ((scriptLeaks ns name).setting () objs) a

theorem scripts_stable (P : Made Unit → Prop) : (scriptsAt ns name objs a).Stable (LeftIn P) := by
  intro w w' h hr _ e he hleft
  rcases hr with ⟨hmade, hshrink⟩
  rw [hmade] at he
  exact h e he (hshrink e he hleft)

theorem scripts_lawful : (scriptsAt ns name objs a).Lawful := by
  refine Setting.Lawful.atAccount ⟨fun w => ⟨rfl, fun e _ h => h⟩, ?_⟩
  intro w₁ w₂ w₃ h₁₂ h₂₃
  rcases h₁₂ with ⟨hmade, hshrink⟩
  rcases h₂₃ with ⟨hmade', hshrink'⟩
  exact ⟨hmade'.trans hmade, fun e he h => hshrink e he (hshrink' e (hmade ▸ he) h)⟩

/-- The scripts of the machine are those under its name. -/
theorem scripts_keepsLeft :
    KeepsLeft (scriptsAt ns name objs a) (fun w => w) a name fun _ => True where
  lawful := scripts_lawful
  stable _ := scripts_stable _
  answered hs := by
    rcases atAccount_step.1 hs with ⟨-, ch, hans⟩
    exact ⟨(), ch, hans⟩
  allowed hop _ n script hadd := absurd hadd (hop n script)
  named hi e he _ := hi.1 e he

/-- A part that adds no script keeps what is known of those that are left. -/
theorem scripts_frame {α : Type} {M : List Method} {p : ClientM α} {R : α → Prop}
    (hp : p.Obeys (Uses M) R) (hM : .createInstance ∉ M) (hw : LeftIn P w) :
    p.wp (scriptsAt ns name objs a) (fun r w => LeftIn P w ∧ R r) w :=
  Prog.wp_mono (fun _ _ _ h => ⟨h.1.mono fun _ hP => hP trivial, h.2⟩)
    (scripts_keepsLeft.frame hp hM (hw.mono fun _ hP _ => hP))

/-! ## Delete passes -/

theorem deleteMachineScript_left (hname : vm.metadata.name = name) (hw : LeftIn (TrackedIn vm a) w) :
    (deleteMachineScript vm).wp (scriptsAt ns name objs a)
      (fun r w => r.1 = .ok () → LeftIn (fun _ => False) w) w := by
  have hstable : ∀ r : Except Err Unit × VerdaMachine, (scriptsAt ns name objs a).Stable
      fun w => r.1 = .ok () → LeftIn (fun _ => False) w :=
    fun r w w' h hr hi hok => scripts_stable _ w w' (h hok) hr hi
  unfold deleteMachineScript
  split
  · rename_i hid
    refine Prog.wp_bind scripts_lawful
      (Prog.wp_mono ?_ (scripts_keepsLeft.deleteStartupScript (hw.mono fun e h _ => h)))
    intro r w _ hr
    rcases r with e | u
    · exact Prog.wp_ret_stable (hstable _) fun h => by cases h
    · refine Prog.wp_ret_stable (hstable _) fun _ => (hr rfl).mono fun e h => ?_
      rcases h trivial with ⟨⟨hacc, hnone | hrec⟩, hne⟩
      · exact hid hnone
      · exact hne ⟨hacc, hrec⟩
  · rw [hname]
    refine Prog.wp_bind scripts_lawful (Prog.wp_mono ?_
      (scripts_keepsLeft.deleteStartupScriptByName (hw.mono fun e h _ => h)))
    intro r w _ hr
    rcases r with e | u
    · exact Prog.wp_ret_stable (hstable _) fun h => by cases h
    · exact Prog.wp_ret_stable (hstable _) fun _ => (hr rfl).mono fun e h => (h trivial).2 (h trivial).1.1

/-- Nothing of the machine is left when its finalizer is removed. -/
theorem releaseMachine_left (hname : vm.metadata.name = name) (hw : LeftIn (TrackedIn vm a) w) :
    (releaseMachine vm).wp (scriptsAt ns name objs a)
      (fun r w => machineFinalizer ∈ vm.metadata.finalizers →
        machineFinalizer ∉ r.2.metadata.finalizers → LeftIn (fun _ => False) w) w := by
  have hstable : ∀ r : Reply × VerdaMachine, (scriptsAt ns name objs a).Stable fun w =>
      machineFinalizer ∈ vm.metadata.finalizers →
        machineFinalizer ∉ r.2.metadata.finalizers → LeftIn (fun _ => False) w :=
    fun r w w' h hr hi hf hf' => scripts_stable _ w w' (h hf hf') hr hi
  refine Prog.wp_bind scripts_lawful (Prog.wp_mono ?_ (Prog.wp_and_obeys
    (deleteMachineScript_uses vm (M := scriptMethods) (by decide) (by decide))
    (deleteMachineScript_left hname hw)))
  intro r w _ hr
  rcases r with ⟨e | u, vm₁⟩
  · have hkept : vm₁.metadata = vm.metadata := hr.2.2.1
    exact Prog.wp_ret_stable (hstable _) fun hf hf' => absurd (hkept ▸ hf) hf'
  · refine Prog.wp_bind scripts_lawful (Prog.wp_mono ?_
      (scripts_frame (deleteOSVolume_uses vm₁ (M := [.getVolume, .deleteVolume]) (by decide) (by decide))
        (by decide) (hr.1 rfl)))
    intro r₂ w _ hr₂
    rcases r₂ with ⟨e | u, vm₂⟩
    · exact Prog.wp_ret_stable (hstable _) fun _ _ => hr₂.1
    · exact Prog.wp_ret_stable (hstable _) fun _ _ => hr₂.1

/-- The lookup of a delete pass is answered where the scripts are tracked. -/
theorem scripts_findInstance (hvm : KeepsRecords objs.machine vm)
    (hdel : objs.machine.metadata.deletionTimestamp ≠ none) (w : World Unit) :
    (findInstance vm).wp (scriptsAt ns name objs a)
      (fun _ w => LeftIn (TrackedIn objs.machine a) w) w := by
  rcases hvm with ⟨conditions, rfl⟩
  rw [findInstance_eq]
  refine wp_lookupInstance (fun _ => scripts_stable _) ?_ (fun _ w x w' _ _ hs => ?_)
    fun _ w x w' _ _ hs => ?_
  · rintro w _ (rfl | rfl) - n script hadd <;> cases hadd
  · rcases atAccount_step.1 hs with ⟨hcond, c, hans⟩
    rw [(answer_instancesGetByID hans).1]
    exact hcond (.inl rfl) hdel
  · rcases atAccount_step.1 hs with ⟨hcond, c, hans⟩
    rw [(answer_instancesGet hans).1]
    exact hcond (.inr rfl) hdel

theorem scripts_reconcileDelete (now : Time) (w : World Unit)
    (hname : objs.machine.metadata.name = name)
    (hdel : objs.machine.metadata.deletionTimestamp ≠ none) :
    (reconcileDelete now objs.machine).wp (scriptsAt ns name objs a)
      (fun r w => machineFinalizer ∈ objs.machine.metadata.finalizers →
        machineFinalizer ∉ r.2.metadata.finalizers → LeftIn (fun _ => False) w) w := by
  have hsame : ∀ (reply : Reply) (w : World Unit), (Prog.ret (reply, setInstanceReadyFalse objs.machine
      "Deleting" "Deleting Verda instance") : ClientM _).wp (scriptsAt ns name objs a)
      (fun r w => machineFinalizer ∈ objs.machine.metadata.finalizers →
        machineFinalizer ∉ r.2.metadata.finalizers → LeftIn (fun _ => False) w) w :=
    fun reply w w' _ _ hf hf' => absurd hf hf'
  rw [reconcileDelete_eq]
  refine wp_teardown scripts_lawful (U := fun _ w => LeftIn (TrackedIn objs.machine a) w ∧ True)
    (scripts_findInstance ⟨_, rfl⟩ hdel w) ?live ?purge ?none ?missing ?purged ?failed ?wait
  case live =>
    -- the finalizer stays
    intro inst w _ hw
    refine Prog.wp_mono ?_ (scripts_frame (deleteLiveInstance_uses now _ inst) (by decide) hw)
    intro r w _ hr hf hf'
    exact absurd (hr.2.2 ▸ hf) hf'
  case purge =>
    exact fun inst w _ hw _ _ => scripts_frame
      (purgeInstanceVolumes_uses inst.id (M := [.purgeInstanceVolumes]) (by decide)) (by decide) hw
  case none => exact fun w _ hw => releaseMachine_left hname hw
  case missing => exact fun _ w _ hw _ _ => releaseMachine_left hname hw
  case purged => exact fun w _ h => releaseMachine_left hname h.1
  case failed => exact fun _ w _ _ => hsame _ w
  case wait => exact fun w _ => hsame _ w

/-! ## Normal passes -/

/-- Every script that is added has this name. -/
def AddsNamed (name : String) (c : Call) : Prop :=
  ∀ n script, c.op = .scriptsAdd n script → n = name

theorem addsNamed_of_uses {M : List Method} {c : Call} (h : Uses M c) (hM : .createInstance ∉ M) :
    AddsNamed name c :=
  fun n script hadd => absurd hadd (h.ne_scriptsAdd hM n script)

theorem reconcileNormal_addsNamed (boot : BootstrapInput) (cluster : Cluster) (vc : VerdaCluster)
    (machine : Machine) (vm : VerdaMachine) :
    (reconcileNormal boot cluster vc machine vm).Obeys (AddsNamed vm.metadata.name)
      fun _ => True := by
  have hother : ∀ {α : Type} {p : ClientM α} {M : List Method} {R : α → Prop},
      p.Obeys (Uses M) R → .createInstance ∉ M → p.Obeys (AddsNamed vm.metadata.name) R :=
    fun hp hM => hp.mono (fun c hc => addsNamed_of_uses hc hM) fun _ h => h
  have hcreate : ∀ vm' bootFrom, AdoptsVolume vm vm' →
      (createMachineInstance boot cluster vc machine vm' bootFrom).Obeys
        (AddsNamed vm.metadata.name) fun _ => True := by
    intro vm' bootFrom hvm'
    refine (createMachineInstance_carries boot cluster vc machine vm' bootFrom).mono ?_ fun _ h => h
    intro c hc n script hadd
    rcases hc with ⟨_, hc⟩
    rcases hvm' with ⟨id, conditions, rfl⟩
    exact hc.2.1 n script hadd
  unfold reconcileNormal
  split
  · exact (hother (resyncInstance_uses vm) (by decide)).mono (fun _ h => h) fun _ _ => trivial
  · split
    · trivial
    · split
      · trivial
      · refine Prog.Obeys.bind (P := fun _ => True) ?_ ?_
        · refine (hother (findInstance_uses vm (M := lookupMethods) (by decide) (by decide))
            (by decide)).bind ?_
          intro r _
          rcases r with e | (_ | inst)
          · trivial
          · refine (hother (bootSource_uses vc vm) (by decide)).bind ?_
            intro r hr
            rcases r with ⟨reply | bootFrom, vm'⟩
            · trivial
            · refine (hcreate vm' bootFrom hr).bind ?_
              intro r _
              rcases r with e | inst
              · dsimp only
                split <;> trivial
              · trivial
          · trivial
        · intro r _
          rcases r with ⟨reply | inst, vm'⟩
          · trivial
          · exact (hother (settleInstance_uses vc vm' inst) (by decide)).mono (fun _ h => h)
              fun _ _ => trivial

/-- The name survives whatever is stored of an outcome that keeps it. -/
theorem scriptLeaks_persist {out : MachineOutcome} (hname : objs.machine.metadata.name = name)
    (hsent : ∀ sent, out.sent = some sent →
      sent.metadata.name = objs.machine.metadata.name) (p : Patch) :
    (scriptLeaks ns name).loc () (persist p objs objs out) w := by
  show (persist p objs objs out).machine.metadata.name = name
  rcases @persist_resource p objs out with ⟨h, -⟩ | ⟨sent, hs, h, -⟩
  · rw [h]
    exact hname
  · rw [h, hsent sent hs]
    exact hname

/-- What the patch at the end of a pass owes. -/
theorem scriptLeaks_patched {reply : Reply} {vm' : VerdaMachine}
    (hname : objs.machine.metadata.name = name)
    (hvm : vm'.metadata.name = objs.machine.metadata.name)
    (hdone : machineFinalizer ∈ objs.machine.metadata.finalizers →
      machineFinalizer ∉ vm'.metadata.finalizers → LeftIn (fun _ => False) w) :
    (scriptLeaks ns name).done () objs (patched (reply, vm')) w ∧
      ∀ p, (scriptLeaks ns name).loc () (persist p objs objs (patched (reply, vm'))) w := by
  refine ⟨fun hrel => ?_, scriptLeaks_persist hname fun sent hs => ?_⟩
  · rcases released_sent.1 hrel with ⟨hf, hf'⟩
    exact hdone hf hf'
  · cases hs
    exact hvm

theorem scriptLeaks_valid : (scriptLeaks ns name).Valid where
  refl _ w := ⟨rfl, fun _ _ h => h⟩
  trans _ {w₁ w₂ w₃} h₁₂ h₂₃ :=
    ⟨h₂₃.1.trans h₁₂.1, fun e he h => h₁₂.2 e he (h₂₃.2 e (h₁₂.1 ▸ he) h)⟩
  drift {d w w'} hinv hd := by
    have hmade := (drift_scripts hd).1
    refine ⟨?_, fun _ => ⟨fun _ => ⟨hmade, ?_⟩, fun _ h => h⟩⟩
    · exact ScriptsNamed.drift (R := fun _ n => n = name) hinv hmade (drift_scripts hd).2
    · intro e he hleft
      rcases hleft with ⟨hkind, s', hs', hid⟩
      rcases scriptLeft_of_drift (drift_scripts hd).2 he hs' hid with ⟨s, hs, hsid, -⟩
      exact ⟨hkind, s, hs, hsid⟩
  edit _ he := edit_touched he
  touched _ hloc h := (Touched.name h).trans hloc
  merge h _ := (Touched.persist h _ _ _).imp fun _ hq => ⟨trivial, hq.2⟩
  call hinv hloc _ hg hans := ⟨ScriptsNamed.answer (R := fun _ n => n = name) hinv hg hans,
    hloc, fun j hj => absurd rfl hj⟩
  pass {i inp obj w} hinv hloc _ := by
    have hname : obj.machine.metadata.name = name := hloc
    refine Invariant.wp_persist ?_
    refine wp_startPass inp obj ?_ ?_ ?_
    · intro out hout w' _ _
      refine ⟨fun hrel => absurd hrel (not_released_of_marks hout),
        scriptLeaks_persist hname fun sent hs => ?_⟩
      obtain ⟨fs, c, rfl⟩ := hout sent hs
      rfl
    · intro a hdel
      refine Prog.wp_mono ?_ (Prog.wp_and_obeys
        (reconcileDelete_uses inp.now obj.machine)
        (scripts_reconcileDelete inp.now w hname hdel))
      intro r w _ h
      exact scriptLeaks_patched hname h.2.name h.1
    · intro a cluster vc machine _
      have hpass := (reconcileNormal_uses inp.boot cluster vc machine obj.machine).and
        (reconcileNormal_addsNamed inp.boot cluster vc machine obj.machine)
      refine Prog.wp_mono ?_ (Prog.wp_of_obeys hpass ?_)
      · intro r w _ h
        have hmeta : r.2.metadata = obj.machine.metadata := h.1
        exact scriptLeaks_patched hname (by rw [hmeta]) fun hf hf' => absurd (hmeta ▸ hf) hf'
      · intro w c hc _ n script hadd
        exact (hc.2 n script hadd).trans hname

end

/-- **No startup script is left behind**, in every run in which delete passes start with the remaining
scripts tracked: when a pass returns with the finalizer removed, no script that was added for the
machine exists in any account. -/
theorem noScript_leaked {ns name : String} {s₀ s : MachineState Unit} (h₀ : Initial ns name s₀)
    (h : Reach (oneMachine ns name) tracksScripts s₀ s) {out : MachineOutcome}
    (hrun : s.run () = some (.ret out)) (hrel : Released (s.seen ()) out) :
    ∀ e ∈ s.world.made, ¬ ScriptLeft s.world e := by
  have hholds : (scriptLeaks ns name).Holds s := by
    refine Invariant.sound scriptLeaks_valid ?_ (fun _ => h₀.machine_name) (fun _ => h₀.idle) h
    intro e he
    rw [h₀.made] at he
    cases he
  intro e he hleft
  exact hholds.done scriptLeaks_valid hrun hrel e he hleft

/-- A pass whose bootstrap data is not empty. -/
def scriptInput : PassInput where
  cluster := .ok { ns := "default", name := "c0", infrastructureProvisioned := some true }
  boot := { secret := .ok (some [35, 33]), toStartupScript := fun data _ => .ok data }

/-- The startup script of the machine. -/
def sampleScript (id : String) : Sdk.StartupScript := { id := id, name := "m0", script := [35, 33] }

/-- A pass up to the creation of its script: the listing by tag, the listing of `CreateInstance`, the
listing of scripts, the deletion of `old` scripts, and the new script. -/
def addScript (old : Nat) (id : String) : List MachineMove :=
  [.start () scriptInput] ++ accepted (3 + old) ++ [.answer () (.accept (.script (sampleScript id)))]

/-- The instance created with that script. -/
def createWithScript (id status scriptID : String) : MachineMove :=
  .answer () (.accept (.instance_
    { sampleInstance id status with startupScriptID := some scriptID } []))

/-- The instances end, and the script stays. -/
def onlyScript (id : String) : MachineMove :=
  .drift (.global, { scripts := ⟨[sampleScript id], List.nodup_singleton _⟩ })

/-- The script that was recorded is deleted before the machine is released. -/
theorem noScript_leaked_sample : ∃ (s : MachineState Unit) (out : MachineOutcome),
    s.run () = some (.ret out) ∧ Released (s.seen ()) out ∧
      (∃ e ∈ s.world.made, e.kind = .script) ∧ ∀ e ∈ s.world.made, ¬ ScriptLeft s.world e := by
  obtain ⟨s, hs, hgood⟩ := exists_reach_meeting (oneMachine "default" "m0") tracksScripts sampleState
    (releasesWith fun s => ∃ e ∈ s.world.made, e.kind = .script)
    (addScript 0 "s1" ++ [createWithScript "x1" "provisioning" "s1", .finish () {},
      onlyScript "s1",
      .edit () (.deleteMachine 0), .start () scriptInput] ++ accepted 2)
    (by decide +kernel)
  obtain ⟨out, hrun, hrel, hP⟩ := of_releasesWith hgood
  exact ⟨s, out, hrun, hrel, hP, noScript_leaked sampleState_initial hs hrun hrel⟩

/-- The first instance has no capacity and is dropped, with its script recorded. The second creation
replaces the script and its patch is lost; that instance ends too and the machine is deleted: the
delete pass deletes the recorded script, which is the old one. -/
theorem script_leaked : ∃ (s₀ s : MachineState Unit) (out : MachineOutcome),
    Initial "default" "m0" s₀ ∧ Reach (oneMachine "default" "m0") {} s₀ s ∧
      s.run () = some (.ret out) ∧ Released (s.seen ()) out ∧
      ∃ e ∈ s.world.made, ScriptLeft s.world e := by
  obtain ⟨s, hs, hbad⟩ := exists_reach_of_run (oneMachine "default" "m0") sampleState
    (releasesWith fun s => ∃ e ∈ s.world.made, ScriptLeft s.world e)
    (addScript 0 "s1" ++ [createWithScript "x1" "no_capacity" "s1"] ++ accepted 2 ++
      [.finish () {}, onlyScript "s1"] ++
      addScript 1 "s2" ++ [createWithScript "x2" "provisioning" "s2",
        .finish () { conditions := false, spec := false, status := false },
        onlyScript "s2",
        .edit () (.deleteMachine 0), .start () scriptInput] ++ accepted 2)
    (by decide +kernel)
  obtain ⟨out, hrun, hrel, hP⟩ := of_releasesWith hbad
  exact ⟨sampleState, s, out, sampleState_initial, hs, hrun, hrel, hP⟩

end VerdaCapi.Controller
