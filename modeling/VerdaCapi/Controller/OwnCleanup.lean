import VerdaCapi.Controller.VolumeLeak
import VerdaCapi.Remote.History

/-!
# The management guard and the provider's own cleanup

Deletion only touches what carries the management tag. Instances get it with their creation, the clone of
an OS volume gets it afterwards: `CloneVolume`, `ensureOSVolume` and `ensureOSVolumeTag` try to add it and
go on when that fails, and no delete pass tries again.

`cleanup_unblocked` says when this is enough: if the recorded volume has its tag whenever a pass over the
deleted machine begins, no delete pass ever stops at the guard for something that was created for the
machine. The machine may be deleted at any time, also during the pass that clones the volume.
`cleanup_blocked` is a run in which two tagging requests fail and the machine is deleted before a third.
-/

namespace VerdaCapi.Controller

open Remote Go Api Cloud Webhook

/-! ## Runs in which only tagging fails -/

/-- Only a request that tags a volume may fail. -/
def onlyTagging : Choice → Sdk.Op → Bool
  | .accept _, _ => true
  | _, .volumesAddTag _ _ => true
  | _, _ => false

/-- The volumes that an account still has keep their tags. -/
def KeepsTags (acc acc' : Account) : Prop :=
  ∀ v' ∈ acc'.volumes.rows, ∀ v ∈ acc.volumes.rows, v'.id = v.id →
    ∀ t ∈ v.volume.tags, t ∈ v'.volume.tags

instance (acc acc' : Account) : Decidable (KeepsTags acc acc') :=
  inferInstanceAs (Decidable (∀ v' ∈ acc'.volumes.rows, _))

/-- The runs of one machine in which only tagging fails, and nobody takes a tag from a volume. -/
def taggingMachine (ns name : String) : System Unit (World Unit) AccountCall AccountCall.Res Objects
    MachineOutcome PassInput Choice Patch (AccountID × Account) Edit :=
  { oneMachine ns name with
    answer := fun who c w o => if onlyTagging c o.2.op then answer who c w o else none
    drift := fun d w => if KeepsTags (w.account d.1) d.2 then (oneMachine ns name).drift d w else none }

/-- The last answer of a pass. -/
abbrev LastAnswer := Option (Σ o : AccountCall, AccountCall.Res o)

/-- A state of such a run, of which the passes tell their last answer. -/
abbrev GuardState :=
  State Unit (World Unit) AccountCall AccountCall.Res Objects (MachineOutcome × LastAnswer)

/-- The same state, before any pass. -/
def guardState (s : MachineState Unit) : GuardState where
  world := s.world
  obj := s.obj
  run := fun _ => none

/-- The reply is `ErrNotManaged`. -/
def refused {α : Type} : Except Err α → Bool
  | .error e => e.kind == .notManaged
  | .ok _ => false

/-- What the request reads was created for the machine. -/
def ReadsOwn (w : World Unit) (o : AccountCall) : Prop :=
  ∃ e ∈ w.made, e.account = o.1 ∧
    (e.kind = .instance_ ∧ o.2.op = .instancesGetByID e.id ∨ IsVolume e ∧ o.2.op = .volumesGet e.id)

instance (w : World Unit) (o : AccountCall) : Decidable (ReadsOwn w o) :=
  inferInstanceAs (Decidable (∃ e ∈ w.made, _))

/-- If the recorded OS volume was created for the machine and Verda still has it, it carries the
management tag. -/
def RecordedTagged (vm : VerdaMachine) (w : World Unit) : Prop :=
  vm.status.osVolumeID ≠ "" → ∀ e ∈ w.made, IsVolume e → e.id = vm.status.osVolumeID →
    ∀ v ∈ (w.account e.account).volumes.rows, v.id = e.id →
      hasTag v.volume.tags tagManagedBy managedByValue = true

instance (vm : VerdaMachine) (w : World Unit) : Decidable (RecordedTagged vm w) :=
  inferInstanceAs (Decidable (_ → ∀ e ∈ w.made, _))

/-- Whenever a pass over the deleted machine begins, its recorded OS volume carries the tag. -/
abbrev startsTagged : Conditions Unit (World Unit) AccountCall Objects (MachineOutcome × LastAnswer)
    PassInput Patch Edit where
  start _ _ objs w := objs.machine.metadata.deletionTimestamp ≠ none → RecordedTagged objs.machine w

/-! ## What stays true -/

/-- Every instance that was created for the machine carries the tag. -/
def OwnManaged (w : World Unit) : Prop :=
  ∀ e ∈ w.made, e.kind = .instance_ → ∀ i ∈ (w.account e.account).instances.rows, i.id = e.id →
    isManaged i = true

/-- Creations carry the management tag. -/
def CreatesManaged (c : Call) : Prop :=
  ∀ req, c.op = .instancesCreate req → requestTag req tagManagedBy = managedByValue

def cleanup (ns name : String) : Invariant (taggingMachine ns name).reporting startsTagged where
  inv := OwnManaged
  loc _ _ _ := True
  touch _ _ _ := True
  rely _ w w' := w'.made = w.made ∧ ∀ vm, RecordedTagged vm w → RecordedTagged vm w'
  guar _ objs _ o := CreatesManaged o.2 ∧
    (objs.machine.metadata.deletionTimestamp ≠ none → Uses deleteMethods o.2)
  done _ objs r w := objs.machine.metadata.deletionTimestamp ≠ none → refused r.1.reply = true →
    ∀ last ∈ r.2, ¬ ReadsOwn w last.1

section

variable {ns name : String} {w w' : World Unit} {objs : Objects} {a : AccountID} {vm : VerdaMachine}

theorem taggingMachine_answer {c : Choice} {o : AccountCall} {x : AccountCall.Res o}
    (h : (taggingMachine ns name).answer () c w o = some (x, w')) :
    answer () c w o = some (x, w') := by
  simp only [taggingMachine] at h
  split at h
  · exact h
  · cases h

theorem taggingMachine_drift {d : AccountID × Account} (h : (taggingMachine ns name).drift d w = some w') :
    KeepsTags (w.account d.1) d.2 ∧ (oneMachine ns name).drift d w = some w' := by
  simp only [taggingMachine] at h
  split at h
  · exact ⟨‹_›, h⟩
  · cases h

/-- The tag that makes an instance managed is among those it keeps. -/
theorem isManaged_of_keeps {i i' : Sdk.Instance} (h : Keeps i i') (hi : isManaged i = true) :
    isManaged i' = true := by
  rw [isManaged, h.tagOf]
  exact hi

/-- A request keeps the instances managed, if what it creates is. -/
theorem OwnManaged.answer {c : Choice} {o : AccountCall} {x : AccountCall.Res o} (h : OwnManaged w)
    (hcreates : CreatesManaged o.2) (hans : answer () c w o = some (x, w')) : OwnManaged w' := by
  intro e he hkind i' hi' hid
  by_cases hop : ∃ req, o.2.op = .instancesCreate req
  · rcases o with ⟨a, m, op⟩
    rcases hop with ⟨req, rfl⟩
    rcases answer_instancesCreate hans with ⟨rfl, -⟩ | ⟨i, vs, hc, rfl, -⟩
    · exact h e he hkind i' hi' hid
    · rcases (mem_create_made_instance hkind).1 he with rfl | hmem
      · rcases mem_create_instances.1 hi' with ⟨-, rfl⟩ | hold
        · rw [isManaged, hc.tagOf, hcreates req rfl]
          exact beq_self_eq_true _
        · -- the ID of the new instance was not in use
          exact absurd (List.mem_map.2 ⟨i', hold, hid⟩) (List.nodup_cons.1 hc.instances).1
      · rcases mem_create_instances.1 hi' with ⟨-, rfl⟩ | hold
        · exact absurd hid.symm ((hc.unused _ List.mem_cons_self).2 e hmem)
        · exact h e hmem hkind i' hold hid
  · have hkeeps := answer_keepsInstances (fun req hreq => hop ⟨req, hreq⟩) hans
    obtain ⟨i, hi, hkeep⟩ := hkeeps.rows e.account i' hi'
    exact isManaged_of_keeps hkeep (h e ((hkeeps.made e hkind).1 he) hkind i hi (hkeep.id ▸ hid))

/-- What others do at Verda leaves what the machine created managed. -/
theorem OwnManaged.drift {d : AccountID × Account} (h : OwnManaged w)
    (hd : (taggingMachine ns name).drift d w = some w') : OwnManaged w' ∧ w'.made = w.made := by
  obtain ⟨hmade, hrows⟩ := drift_instances (taggingMachine_drift hd).2
  refine ⟨fun e he hkind i' hi' hid => ?_, hmade⟩
  rw [hmade] at he
  rcases hrows e.account i' hi' with ⟨i, hi, hkeep⟩ | ⟨hnew, -⟩
  · exact isManaged_of_keeps hkeep (h e he hkind i hi (hkeep.id ▸ hid))
  · exact absurd hid.symm ((hnew _ (List.mem_singleton_self _)).2 e he)

/-- The recorded volume keeps its tag as long as volumes keep theirs and none is created. -/
theorem RecordedTagged.step (h : RecordedTagged vm w) (hmade : ∀ e ∈ w'.made, IsVolume e → e ∈ w.made)
    (hrows : ∀ b, ∀ v' ∈ (w'.account b).volumes.rows,
      (∃ v ∈ (w.account b).volumes.rows, KeepsVolume v v') ∨ w.Unused [v'.id]) :
    RecordedTagged vm w' := by
  intro hne e he hvol hid v' hv' hv'id
  have he := hmade e he hvol
  rcases hrows e.account v' hv' with ⟨v, hv, hkeep⟩ | hnew
  · exact hkeep.hasTag (h hne e he hvol hid v hv (hkeep.id ▸ hv'id))
  · exact absurd hv'id.symm ((hnew _ (List.mem_singleton_self _)).2 e he)

theorem RecordedTagged.answer {c : Choice} {o : AccountCall} {x : AccountCall.Res o}
    (h : RecordedTagged vm w) (huses : Uses deleteMethods o.2)
    (hans : answer () c w o = some (x, w')) : RecordedTagged vm w' := by
  refine h.step (fun e he hvol => ?_) (answer_volumes hans)
  rcases answer_logged hans he with hold | ⟨hmakes, -⟩
  · exact hold
  · rcases makes_cases hmakes with ⟨req, hreq, -⟩ | ⟨_, _, _, hclone, -⟩ | ⟨_, _, -, hkind⟩
    · exact absurd hreq (huses.ne_instancesCreate (by decide) req)
    · exact absurd hclone (huses.ne_volumesClone (by decide) _ _ _)
    · rcases hvol with hvol | hvol
      · rw [hkind] at hvol
        cases hvol
      · rw [hkind] at hvol
        cases hvol

theorem RecordedTagged.drift {d : AccountID × Account} (h : RecordedTagged vm w)
    (hd : (taggingMachine ns name).drift d w = some w') : RecordedTagged vm w' := by
  obtain ⟨htags, hd⟩ := taggingMachine_drift hd
  simp only [machineSystem, Cloud.drift] at hd
  split at hd
  · rename_i hdrifts
    cases hd
    refine h.step (fun _ he _ => he) fun b v' hv' => ?_
    by_cases hb : b = d.1
    · subst hb
      have hv' : v' ∈ d.2.volumes.rows := by simpa [World.set] using hv'
      refine (hdrifts.volumes v' hv').imp_left ?_
      rintro ⟨v, hv, hid, -⟩
      exact ⟨v, hv, hid, htags v' hv' v hv hid⟩
    · exact .inl ⟨v', by simpa [World.set, hb] using hv', .refl v'⟩
  · cases hd

/-! ## Programs that do not meet the guard -/

/-- An error of the API is no refusal of the client. -/
theorem refused_ofApi {α : Type} (context : String) (e : Sdk.ApiErr) :
    refused (.error (.wrap context (.ofApi e)) : Except Err α) = false := by
  cases e <;> rfl

theorem findInstance_plain (vm : VerdaMachine) :
    (findInstance vm).Obeys (Uses deleteMethods) fun r => refused r = false := by
  have hpick : ∀ id x, refused (pickByID id x) = false := by
    intro id x
    rcases x with e | i
    · rw [pickByID]
      split
      · rfl
      · exact refused_ofApi _ e
    · rfl
  rw [findInstance_eq, lookupInstance]
  split
  · exact ⟨.of (by decide) rfl, fun x => hpick _ x⟩
  · refine ⟨.of (by decide) rfl, fun x => ?_⟩
    rcases x with e | is
    · exact refused_ofApi _ e
    · dsimp only [Prog.Obeys, pickByTag]
      split
      · split <;> rfl
      · rfl

theorem deleteStartupScript_plain (id : String) :
    (deleteStartupScript id).Obeys (Uses deleteMethods) fun r => refused r = false := by
  refine obeys_request (.of (by decide) rfl) fun x => ?_
  rcases x with e | u
  · dsimp only
    split
    · rfl
    · exact refused_ofApi _ e
  · rfl

theorem deleteScriptsNamed_plain (name : String) (scripts : List Sdk.StartupScript) :
    (deleteScriptsNamed name scripts).Obeys (Uses deleteMethods) fun r => refused r = false := by
  induction scripts with
  | nil => rfl
  | cons script scripts ih =>
    unfold deleteScriptsNamed
    split
    · exact ih
    · refine (deleteStartupScript_plain script.id).bind fun r hr => ?_
      rcases r with e | u
      · exact hr
      · exact ih

/-- Startup scripts are deleted without asking for a tag. -/
theorem deleteMachineScript_plain (vm : VerdaMachine) :
    (deleteMachineScript vm).Obeys (Uses deleteMethods) fun r => refused r.1 = false := by
  unfold deleteMachineScript
  split
  · refine (deleteStartupScript_plain _).bind fun r hr => ?_
    rcases r with e | u
    · exact hr
    · rfl
  · refine Prog.Obeys.bind (P := fun r => refused r = false) ?_ fun r hr => ?_
    · refine obeys_request (.of (by decide) rfl) fun x => ?_
      rcases x with e | scripts
      · exact refused_ofApi _ e
      · exact deleteScriptsNamed_plain _ scripts
    · rcases r with e | u
      · exact hr
      · rfl

theorem getVolume_plain (id : String) :
    (getVolume id).Obeys (Uses deleteMethods) fun r => refused r = false := by
  refine obeys_request (.of (by decide) rfl) fun x => ?_
  rcases x with e | v
  · dsimp only
    split
    · rfl
    · exact refused_ofApi _ e
  · rfl

theorem purgeVolumes_plain (inTrash : List String) (pending : Nat) (ids : List String) :
    (purgeVolumes inTrash pending ids).Obeys (Uses deleteMethods) fun r => refused r = false := by
  induction ids generalizing pending with
  | nil => rfl
  | cons id ids ih =>
    unfold purgeVolumes
    split
    · refine obeys_request (.of (by decide) rfl) fun x => ?_
      rcases x with e | u
      · dsimp only
        split
        · exact ih pending
        · exact refused_ofApi _ e
      · exact ih pending
    · refine obeys_request (.of (by decide) rfl) fun x => ?_
      rcases x with e | vol
      · dsimp only
        split
        · exact ih pending
        · exact refused_ofApi _ e
      · exact ih _

/-! ## Delete passes -/

/-- The world of a pass, with its last answer. -/
abbrev PassWorld := World Unit × LastAnswer

/-- The setting of a pass. Throughout a delete pass, the recorded OS volume carries the tag. -/
abbrev cleanupIn (ns name : String) (objs : Objects) : Setting (World Unit) AccountCall AccountCall.Res :=
  { (cleanup ns name).setting () objs with
    inv := fun w => ((cleanup ns name).setting () objs).inv w ∧
      (objs.machine.metadata.deletionTimestamp ≠ none → RecordedTagged objs.machine w) }

/-- The setting of a pass, at one account. -/
abbrev cleanupAt (ns name : String) (objs : Objects) (a : AccountID) : Setting PassWorld Call Call.Res :=
  atAccount (cleanupIn ns name objs).remembering a

/-- `ErrNotManaged` is not the answer to a request for something that was created for the machine. -/
def Unblocked {α : Type} (r : Except Err α) (w : PassWorld) : Prop :=
  refused r = true → ∀ last ∈ w.2, ¬ ReadsOwn w.1 last.1

/-- An answer that is no refusal blocks nothing. -/
theorem unblocked_of_plain {α : Type} {r : Except Err α} (h : refused r = false) (w : PassWorld) :
    Unblocked r w := by
  intro hr
  rw [h] at hr
  cases hr

variable {pw : PassWorld}

theorem cleanup_lawful : (cleanupAt ns name objs a).Lawful :=
  Setting.Lawful.atAccount (Setting.Lawful.remembering
    ⟨fun _ => ⟨rfl, fun _ h => h⟩, fun h h' => ⟨h'.1.trans h.1, fun vm htag => h'.2 vm (h.2 vm htag)⟩⟩)

theorem unblocked_stable {α : Type} (r : Except Err α) :
    (cleanupAt ns name objs a).Stable (Unblocked r) := by
  intro w w' h hr _ href last hlast hown
  have hmade : w'.1.made = w.1.made := hr.1.1
  have hlast' : w'.2 = w.2 := hr.2
  rw [hlast'] at hlast
  rw [ReadsOwn, hmade] at hown
  exact h href last hlast hown

theorem cleanup_ret {α : Type} {r : Except Err α} (h : Unblocked r pw) :
    (Prog.ret r : ClientM _).wp (cleanupAt ns name objs a) Unblocked pw :=
  Prog.wp_ret_stable (unblocked_stable r) h

/-- The rule for a request of a delete pass. -/
theorem cleanup_request {α : Type} {m : Method} {op : Sdk.Op}
    {f : Except Sdk.ApiErr (Sdk.Ans op) → ClientM α} {Q : α → PassWorld → Prop}
    (huses : Uses deleteMethods ⟨m, op⟩)
    (h : ∀ c x w (pw' : PassWorld), answer () c w (a, ⟨m, op⟩) = some (x, pw'.1) →
      pw'.2 = some ⟨(a, ⟨m, op⟩), x⟩ → OwnManaged w →
      (objs.machine.metadata.deletionTimestamp ≠ none → RecordedTagged objs.machine w) →
      (f x).wp (cleanupAt ns name objs a) Q pw') :
    (request m op >>= f).wp (cleanupAt ns name objs a) Q pw := by
  refine Prog.wp_call_any fun w hi => ⟨?_, ?_⟩
  · exact ⟨fun req hreq => absurd hreq (huses.ne_instancesCreate (by decide) req), fun _ => huses⟩
  · intro x w' hs _
    obtain ⟨⟨-, c, hans⟩, hlast⟩ := atAccount_step.1 hs
    have hans : (taggingMachine ns name).answer () c w.1 (a, ⟨m, op⟩) = some (x, w'.1) := hans
    exact h c x w.1 w' (taggingMachine_answer hans) hlast hi.1.1 hi.2

/-- A program that never returns `ErrNotManaged`. -/
theorem cleanup_plain {α : Type} {p : ClientM α} {R : α → Prop} (hp : p.Obeys (Uses deleteMethods) R) :
    p.wp (cleanupAt ns name objs a) (fun r _ => R r) pw := by
  refine Prog.wp_of_obeys hp fun w c hc _ => ?_
  exact ⟨fun req hreq => absurd hreq (hc.ne_instancesCreate (by decide) req), fun _ => hc⟩

/-- The guard lets every instance pass that was created for the machine. -/
theorem unblocked_instance {α : Type} {r : Except Err α} {m : Method} {id : String} {i : Sdk.Instance}
    {c : Choice} {w : World Unit} (hans : answer () c w (a, ⟨m, .instancesGetByID id⟩) = some (.ok i, pw.1))
    (hlast : pw.2 = some ⟨(a, ⟨m, .instancesGetByID id⟩), .ok i⟩) (hw : OwnManaged w)
    (hmanaged : isManaged i = false) : Unblocked r pw := by
  intro _ last hmem hown
  rw [hlast] at hmem
  cases hmem
  obtain ⟨hi, rfl⟩ := answer_fetched hans
  have hsame : pw.1 = w := (answer_instancesGetByID hans).1
  rw [hsame] at hown
  rcases hown with ⟨e, he, hacc, ⟨hkind, hop⟩ | ⟨-, hop⟩⟩
  · have hid : i.id = e.id := by simpa using hop
    have hrow := hw e he hkind i (by rw [hacc]; exact hi) hid
    rw [hmanaged] at hrow
    cases hrow
  · cases hop

/-- A request that failed, in one of two ways that are not the guard's. -/
theorem cleanup_failed {α : Type} {c : Prop} [Decidable c] {r r' : Except Err α} (hr : refused r = false)
    (hr' : refused r' = false) :
    (if c then .ret r else .ret r' : ClientM (Except Err α)).wp (cleanupAt ns name objs a) Unblocked pw := by
  split
  · exact cleanup_ret (unblocked_of_plain hr _)
  · exact cleanup_ret (unblocked_of_plain hr' _)

theorem purgeInstanceVolumes_unblocked (id : String) :
    (purgeInstanceVolumes id).wp (cleanupAt ns name objs a) Unblocked pw := by
  refine cleanup_request (.of (by decide) rfl) fun c x w pw' hans hlast hw _ => ?_
  rcases x with e | i
  · exact cleanup_failed rfl (refused_ofApi _ e)
  · dsimp only
    split
    · rename_i hmanaged
      exact cleanup_ret (unblocked_instance hans hlast hw (by simpa using hmanaged))
    · refine cleanup_request (.of (by decide) rfl) fun c x w pw' _ _ _ _ => ?_
      rcases x with e | trash
      · exact cleanup_ret (unblocked_of_plain (refused_ofApi _ e) _)
      · exact Prog.wp_mono (fun _ w _ h => unblocked_of_plain h w)
          (cleanup_plain (purgeVolumes_plain _ _ _))

theorem deleteInstance_unblocked (id : String) :
    (deleteInstance id).wp (cleanupAt ns name objs a) Unblocked pw := by
  refine cleanup_request (.of (by decide) rfl) fun c x w pw' hans hlast hw _ => ?_
  rcases x with e | i
  · exact cleanup_failed rfl (refused_ofApi _ e)
  · dsimp only
    split
    · rename_i hmanaged
      exact cleanup_ret (unblocked_instance hans hlast hw (by simpa using hmanaged))
    · split
      · refine Prog.wp_bind cleanup_lawful (Prog.wp_mono ?_ (purgeInstanceVolumes_unblocked id))
        intro r w _ h
        rcases r with e | n
        · exact cleanup_ret h
        · exact cleanup_ret (unblocked_of_plain rfl _)
      · split
        · exact cleanup_ret (unblocked_of_plain rfl _)
        · split
          · refine cleanup_request (.of (by decide) rfl) fun c x w pw' _ _ _ _ => ?_
            rcases x with e | u
            · exact cleanup_failed rfl (refused_ofApi _ e)
            · exact cleanup_ret (unblocked_of_plain rfl _)
          · refine cleanup_request (.of (by decide) rfl) fun c x w pw' _ _ _ _ => ?_
            rcases x with e | u
            · exact cleanup_failed rfl (refused_ofApi _ e)
            · exact cleanup_ret (unblocked_of_plain rfl _)

/-- The guard lets the recorded volume pass, if it was created for the machine. -/
theorem deleteVolume_unblocked (hdel : objs.machine.metadata.deletionTimestamp ≠ none)
    (hne : objs.machine.status.osVolumeID ≠ "") :
    (deleteVolume objs.machine.status.osVolumeID).wp (cleanupAt ns name objs a) Unblocked pw := by
  refine cleanup_request (.of (by decide) rfl) fun c x w pw' hans hlast _ htagged => ?_
  rcases x with e | v
  · exact cleanup_failed rfl (refused_ofApi _ e)
  · dsimp only
    split
    · rename_i hmanaged
      refine cleanup_ret fun _ last hmem hown => ?_
      rw [hlast] at hmem
      cases hmem
      obtain ⟨hsame, hrow⟩ := answer_volumesGet hans
      rw [hsame] at hown
      rcases hown with ⟨e, he, hacc, ⟨-, hop⟩ | ⟨hvol, hop⟩⟩
      · cases hop
      · have hid : objs.machine.status.osVolumeID = e.id := by simpa using hop
        rcases hrow with ⟨v', hv', hv'id, heq⟩ | ⟨-, heq⟩ | ⟨err, heq, -⟩
        · cases heq
          have htag := htagged hdel hne e he hvol hid.symm (stored v)
            (by rw [hacc]; exact mem_active.1 hv') (hv'id.trans hid)
          rw [htag] at hmanaged
          cases hmanaged
        · cases heq
        · cases heq
    · refine cleanup_request (.of (by decide) rfl) fun c x w pw' _ _ _ _ => ?_
      rcases x with e | u
      · exact cleanup_failed rfl (refused_ofApi _ e)
      · exact cleanup_ret (unblocked_of_plain rfl _)

/-- What a part of a pass that changes the object leaves. -/
abbrev UnblockedReply {α : Type} (r : Except Err α × VerdaMachine) (w : PassWorld) : Prop :=
  Unblocked r.1 w

theorem cleanup_reply {α : Type} {r : Except Err α × VerdaMachine} (h : Unblocked r.1 pw) :
    (Prog.ret r : ClientM _).wp (cleanupAt ns name objs a) UnblockedReply pw :=
  Prog.wp_ret_stable (unblocked_stable r.1) h

theorem deleteOSVolume_unblocked (hdel : objs.machine.metadata.deletionTimestamp ≠ none)
    (hid : vm.status.osVolumeID = objs.machine.status.osVolumeID) :
    (deleteOSVolume vm).wp (cleanupAt ns name objs a) UnblockedReply pw := by
  unfold deleteOSVolume
  dsimp only
  split
  · exact cleanup_reply (unblocked_of_plain rfl _)
  · rename_i hne
    rw [hid] at hne ⊢
    refine Prog.wp_bind cleanup_lawful (Prog.wp_mono ?_ (cleanup_plain (getVolume_plain _)))
    intro r w _ h
    rcases r with e | volume
    · dsimp only
      split
      · exact cleanup_reply (unblocked_of_plain rfl _)
      · exact cleanup_reply (unblocked_of_plain h _)
    · dsimp only
      split
      · exact cleanup_reply (unblocked_of_plain rfl _)
      · split
        · refine Prog.wp_bind cleanup_lawful (Prog.wp_mono ?_ (deleteVolume_unblocked hdel hne))
          intro r w _ h
          rcases r with e | u
          · exact cleanup_reply h
          · exact cleanup_reply (unblocked_of_plain rfl _)
        · exact cleanup_reply (unblocked_of_plain rfl _)

theorem releaseMachine_unblocked (hdel : objs.machine.metadata.deletionTimestamp ≠ none)
    (hid : vm.status.osVolumeID = objs.machine.status.osVolumeID) :
    (releaseMachine vm).wp (cleanupAt ns name objs a) UnblockedReply pw := by
  have hscript := (deleteMachineScript_plain vm).and
    (deleteMachineScript_uses vm (M := deleteMethods) (by decide) (by decide))
  refine Prog.wp_bind cleanup_lawful (Prog.wp_mono ?_
    (cleanup_plain (hscript.mono (fun _ h => h.1) fun _ h => h)))
  intro r w _ h
  rcases r with ⟨e | u, vm'⟩
  · exact cleanup_reply (unblocked_of_plain h.1 _)
  · refine Prog.wp_bind cleanup_lawful (Prog.wp_mono ?_
      (deleteOSVolume_unblocked hdel (h.2.2.2.trans hid)))
    intro r w _ h
    rcases r with ⟨e | u, vm''⟩
    · exact cleanup_reply h
    · exact cleanup_reply (unblocked_of_plain rfl _)

theorem deleteLiveInstance_unblocked (now : Time) (inst : Instance) :
    (deleteLiveInstance now vm inst).wp (cleanupAt ns name objs a) UnblockedReply pw := by
  unfold deleteLiveInstance
  dsimp only
  split
  · exact cleanup_reply (unblocked_of_plain rfl _)
  · split
    · refine Prog.wp_bind cleanup_lawful (Prog.wp_mono ?_ (deleteInstance_unblocked _))
      intro r w _ h
      rcases r with e | u
      · exact cleanup_reply h
      · exact cleanup_reply (unblocked_of_plain rfl _)
    · exact cleanup_reply (unblocked_of_plain rfl _)

/-- The whole of a delete pass. -/
theorem reconcileDelete_unblocked (now : Time)
    (hdel : objs.machine.metadata.deletionTimestamp ≠ none) :
    (reconcileDelete now objs.machine).wp (cleanupAt ns name objs a) UnblockedReply pw := by
  rw [reconcileDelete_eq]
  refine wp_teardown cleanup_lawful (U := Unblocked) (cleanup_plain (findInstance_plain _)) ?live ?purge
    ?none ?missing ?purged ?failed ?wait
  case live => exact fun inst _ _ _ => deleteLiveInstance_unblocked now inst
  case purge => exact fun inst _ _ _ _ _ => purgeInstanceVolumes_unblocked inst.id
  case none => exact fun _ _ _ => releaseMachine_unblocked hdel rfl
  case missing => exact fun _ _ _ _ _ _ => releaseMachine_unblocked hdel rfl
  case purged => exact fun _ _ _ => releaseMachine_unblocked hdel rfl
  case failed =>
    rintro e w - (h | h)
    · exact cleanup_reply (unblocked_of_plain h _)
    · exact cleanup_reply h
  case wait => exact fun _ _ => cleanup_reply (unblocked_of_plain rfl _)

/-! ## Normal passes -/

theorem createsManaged_of_uses {M : List Method} {c : Call} (hM : .createInstance ∉ M) (h : Uses M c) :
    CreatesManaged c :=
  fun req hreq => absurd hreq (h.ne_instancesCreate hM req)

theorem createMachineInstance_managed (boot : BootstrapInput) (cluster : Cluster) (vc : VerdaCluster)
    (machine : Machine) (bootFrom : String) :
    (createMachineInstance boot cluster vc machine vm bootFrom).Obeys CreatesManaged fun _ => True := by
  refine (createMachineInstance_carries boot cluster vc machine vm bootFrom).mono ?_ fun _ h => h
  rintro c ⟨script, -, -, hspec⟩ req hreq
  obtain ⟨sid, rfl⟩ := hspec req hreq
  rfl

theorem acquireInstance_managed (boot : BootstrapInput) (cluster : Cluster) (vc : VerdaCluster)
    (machine : Machine) (vm : VerdaMachine) :
    (acquireInstance boot cluster vc machine vm).Obeys CreatesManaged fun _ => True := by
  have hfind := (findInstance_uses vm (M := findMethods) (by decide) (by decide)).mono
    (fun _ => createsManaged_of_uses (by decide)) fun _ h => h
  have hboot := (bootSource_uses vc vm).mono (fun _ => createsManaged_of_uses (by decide)) fun _ h => h
  refine hfind.bind ?_
  rintro (e | (_ | inst)) -
  · trivial
  · refine hboot.bind ?_
    rintro ⟨reply | bootFrom, vm'⟩ -
    · trivial
    · refine (createMachineInstance_managed boot cluster vc machine bootFrom).bind ?_
      rintro (e | inst) -
      · dsimp only
        split <;> trivial
      · trivial
  · trivial

theorem reconcileNormal_managed (boot : BootstrapInput) (cluster : Cluster) (vc : VerdaCluster)
    (machine : Machine) (vm : VerdaMachine) :
    (reconcileNormal boot cluster vc machine vm).Obeys CreatesManaged fun _ => True := by
  unfold reconcileNormal
  split
  · exact (resyncInstance_uses vm).mono (fun _ => createsManaged_of_uses (by decide)) fun _ _ => trivial
  · split
    · trivial
    · split
      · trivial
      · refine (acquireInstance_managed boot cluster vc machine vm).bind ?_
        rintro ⟨reply | inst, vm'⟩ -
        · trivial
        · exact (settleInstance_uses vc vm' inst).mono (fun _ => createsManaged_of_uses (by decide))
            fun _ _ => trivial

/-! ## Every pass -/

/-- What holds when a pass returns. -/
def CleanupDone (ns name : String) (objs : Objects) (out : MachineOutcome) (pw : PassWorld) : Prop :=
  (cleanup ns name).done () objs (out, pw.2) pw.1

theorem cleanup_pass (inp : PassInput) :
    (startPass inp objs).wp (cleanupIn ns name objs).remembering (CleanupDone ns name objs) (w, none) := by
  -- a pass that ends without a request has no last answer
  have hret : ∀ out : MachineOutcome, (Prog.ret out : MachinePass).wp (cleanupIn ns name objs).remembering
      (CleanupDone ns name objs) (w, none) := by
    intro out pw hr _ _ _ last hlast
    have hnone : pw.2 = none := hr.2
    rw [hnone] at hlast
    cases hlast
  refine wp_startPass inp objs (fun out _ => hret out) ?_ ?_
  · intro a hdel
    refine Prog.wp_mono ?_ (reconcileDelete_unblocked inp.now hdel)
    exact fun r pw _ h _ href => h href
  · intro a cluster vc machine hdel
    refine Prog.wp_mono ?_ (Prog.wp_of_obeys
      (reconcileNormal_managed inp.boot cluster vc machine objs.machine) ?_)
    · exact fun r pw _ _ hne => absurd hdel hne
    · exact fun pw c hc _ => ⟨hc, fun hne => absurd hdel hne⟩

theorem cleanup_valid : (cleanup ns name).Valid where
  refl _ _ := ⟨rfl, fun _ h => h⟩
  trans _ _ _ _ h h' := ⟨h'.1.trans h.1, fun vm htag => h'.2 vm (h.2 vm htag)⟩
  drift := by
    intro d w w' hw hd
    obtain ⟨hinv, hmade⟩ := hw.drift hd
    exact ⟨hinv, fun _ => ⟨fun _ => ⟨hmade, fun _ htag => htag.drift hd⟩, fun _ _ => trivial⟩⟩
  edit _ _ := trivial
  touched _ _ _ := trivial
  merge _ hp := ⟨_, hp, trivial⟩
  call := by
    intro _ objs c w o x w' hw _ _ hguar hans
    have hans : (taggingMachine ns name).answer () c w o = some (x, w') := hans
    exact ⟨hw.answer hguar.1 (taggingMachine_answer hans), trivial, fun j hj => absurd rfl hj⟩
  pass := by
    intro _ inp objs w _ _ htagged
    refine Invariant.wp_persist (Prog.wp_mono ?_ (Prog.wp_assume ?_ ?_ htagged
      (Prog.wp_reporting (cleanup_pass inp))))
    · exact fun r w _ h => ⟨h.1, fun _ => trivial⟩
    · exact fun w w' h hr _ hdel => hr.2 _ (h hdel)
    · rintro w o x w' h hg ⟨-, c, hans⟩ hdel
      have hans : (taggingMachine ns name).answer () c w o = some (x, w') := hans
      exact (h hdel).answer (hg.2 hdel) (taggingMachine_answer hans)

end

/-- **The guard lets the provider's own cleanup pass** if the recorded OS volume has its tag whenever a
pass over the deleted machine begins: then a delete pass that returns `ErrNotManaged` does not do so for
an instance or a volume that was created for the machine. -/
theorem cleanup_unblocked {ns name : String} {s₀ : MachineState Unit} {s : GuardState}
    (h₀ : Initial ns name s₀)
    (h : Reach (taggingMachine ns name).reporting startsTagged (guardState s₀) s)
    {out : MachineOutcome} {last : Σ o : AccountCall, AccountCall.Res o}
    (hrun : s.run () = some (.ret (out, some last)))
    (hdel : (s.seen ()).machine.metadata.deletionTimestamp ≠ none) (hrefused : refused out.reply = true) :
    ¬ ReadsOwn s.world last.1 := by
  have hholds : (cleanup ns name).Holds s := by
    refine Invariant.sound cleanup_valid ?_ (fun _ => trivial) (fun _ => rfl) h
    intro e he
    have hmade : (guardState s₀).world.made = [] := h₀.made
    rw [hmade] at he
    cases he
  exact hholds.done cleanup_valid hrun hdel hrefused last rfl

/-! ## Samples -/

/-- The outcome of a pass that has returned, with the last answer it got. -/
def reported (s : GuardState) : Option (MachineOutcome × Σ o : AccountCall, AccountCall.Res o) :=
  match s.run () with
  | some (.ret (out, some last)) => some (out, last)
  | _ => none

theorem reported_any {s : GuardState} {f : MachineOutcome × (Σ o : AccountCall, AccountCall.Res o) → Bool}
    (h : (reported s).any f = true) :
    ∃ out last, s.run () = some (.ret (out, some last)) ∧ f (out, last) = true := by
  unfold reported at h
  split at h
  · rename_i out last hrun
    exact ⟨out, last, hrun, h⟩
  · cases h

/-- A request for a tag that fails. -/
def tagFails : MachineMove := .answer () (.refuse (.api 503 "try again later"))

/-- The machine is deleted, and a delete pass asks for its instance, its scripts and its OS volume, and
for the volume again before it deletes it. -/
def deletion : List MachineMove :=
  [.edit () (.deleteMachine 0), .start () sampleInput] ++ accepted 4

/-- Somebody else has a volume with the name of the machine's clone. -/
def takenNameState : MachineState Unit where
  world := { account := fun _ => { volumes := ⟨[stored
    { id := "f1", name := "default-m0-os", status := "attached" }], by decide⟩ } }
  obj := sampleCloneState.obj
  run := fun _ => none

theorem takenNameState_initial : Initial "default" "m0" takenNameState where
  idle := rfl
  machine_ns := rfl
  machine_name := rfl
  status := rfl
  providerID := rfl
  made := rfl
  untagged := by
    intro a i hi
    cases hi

/-- The guard stops a delete pass at a volume of somebody else, which the machine took for its clone. -/
theorem cleanup_unblocked_sample : ∃ (s : GuardState) (out : MachineOutcome)
    (last : Σ o : AccountCall, AccountCall.Res o), s.run () = some (.ret (out, some last)) ∧
      refused out.reply = true ∧ ¬ ReadsOwn s.world last.1 := by
  obtain ⟨s, hs, hgood⟩ := exists_reach_meeting (taggingMachine "default" "m0").reporting startsTagged
    (guardState takenNameState)
    (fun s => (reported s).any fun r => refused r.1.reply &&
      decide ((s.seen ()).machine.metadata.deletionTimestamp ≠ none))
    ([.start () sampleInput] ++ accepted 2 ++ [tagFails, .finish () {}] ++ deletion)
    (by decide +kernel)
  rcases reported_any hgood with ⟨out, last, hrun, hout⟩
  have hout : refused out.reply = true ∧ (s.seen ()).machine.metadata.deletionTimestamp ≠ none := by
    simpa using hout
  exact ⟨s, out, last, hrun, hout.1,
    cleanup_unblocked takenNameState_initial hs hrun hout.2 hout.1⟩

/-- The clone cannot be tagged, neither when it is made nor at the end of the pass, and the machine is
deleted while Verda still clones: the guard stops the delete pass at the clone. -/
theorem cleanup_blocked : ∃ (s₀ : MachineState Unit) (s : GuardState) (out : MachineOutcome)
    (last : Σ o : AccountCall, AccountCall.Res o), Initial "default" "m0" s₀ ∧
      Reach (taggingMachine "default" "m0").reporting {} (guardState s₀) s ∧
      s.run () = some (.ret (out, some last)) ∧
      (s.seen ()).machine.metadata.deletionTimestamp ≠ none ∧ refused out.reply = true ∧
      ReadsOwn s.world last.1 := by
  obtain ⟨s, hs, hbad⟩ := exists_reach_of_run (taggingMachine "default" "m0").reporting
    (guardState sampleCloneState)
    (fun s => (reported s).any fun r => refused r.1.reply &&
      decide ((s.seen ()).machine.metadata.deletionTimestamp ≠ none) && decide (ReadsOwn s.world r.2.1))
    ([.start () sampleInput] ++ accepted 3 ++ [.answer () (.accept (.volume sampleClone)), tagFails,
      tagFails, .finish () {}] ++ deletion)
    (by decide +kernel)
  rcases reported_any hbad with ⟨out, last, hrun, hout⟩
  have hout : (refused out.reply = true ∧ (s.seen ()).machine.metadata.deletionTimestamp ≠ none) ∧
      ReadsOwn s.world last.1 := by
    simpa using hout
  exact ⟨sampleCloneState, s, out, last, sampleCloneState_initial, hs, hrun, hout.1.2, hout.1.1, hout.2⟩

end VerdaCapi.Controller
