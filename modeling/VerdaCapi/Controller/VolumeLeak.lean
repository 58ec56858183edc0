import VerdaCapi.Controller.InstanceLeak

/-!
# No volume is left behind

Creation recovers what was lost: the instance by its tag, the OS volume clone by its name. Deletion
goes by what is recorded. A clone or an instance that was never stored, an instance Verda no longer
answers for, or one that was dropped for lack of capacity takes its volumes out of sight.

`noVolume_leaked` says what deletion does achieve: when every remaining volume is listed by the
recorded instance or is the recorded clone, all of them are destroyed before the finalizer goes.
`volume_leaked` is a run in which the recorded ID of a clone was lost.

Accounts change between passes here, not during one: `PurgeInstanceVolumes` reads the trash once.
-/

namespace VerdaCapi.Controller

open Remote Go Api Cloud Webhook

/-- A log entry of a volume: a clone, or one that came with an instance. -/
def IsVolume {ι : Type} (e : Made ι) : Prop := e.kind = .clone ∨ e.kind = .attached

instance {ι : Type} (e : Made ι) : Decidable (IsVolume e) := inferInstanceAs (Decidable (_ ∨ _))

/-- The volume is in the trash, or active and not reported as deleted. -/
def Remains (acc : Account) (id : String) : Prop :=
  ∃ v ∈ acc.volumes.rows, v.id = id ∧ (v.trashed = true ∨ v.volume.status ≠ volumeStatusDeleted)

instance (acc : Account) (id : String) : Decidable (Remains acc id) :=
  inferInstanceAs (Decidable (∃ v ∈ acc.volumes.rows, _))

/-- The volume is listed by the recorded instance, which Verda still answers for. -/
def ListedByInstance (vm : VerdaMachine) (acc : Account) (id : String) : Prop :=
  vm.status.instanceID ≠ "" ∧ ∃ i ∈ acc.instances.rows,
    i.id = vm.status.instanceID ∧ i.status ≠ statusNotFound ∧ id ∈ instanceVolumeIDs i

instance (vm : VerdaMachine) (acc : Account) (id : String) :
    Decidable (ListedByInstance vm acc id) :=
  inferInstanceAs (Decidable (_ ∧ _))

/-- The volume is the recorded clone, active under the clone's name and not being deleted. -/
def IsRecordedClone (vm : VerdaMachine) (acc : Account) (id : String) : Prop :=
  vm.status.osVolumeID ≠ "" ∧ id = vm.status.osVolumeID ∧
    ∃ v ∈ acc.active, v.id = id ∧ v.name = osVolumeName vm ∧ v.status ≠ volumeStatusDeleting

instance (vm : VerdaMachine) (acc : Account) (id : String) : Decidable (IsRecordedClone vm acc id) :=
  inferInstanceAs (Decidable (_ ∧ _))

/-- Every volume of the machine that remains is in this account, and `P` holds of its ID. -/
def RemainingIn (a : AccountID) (w : World Unit) (P : String → Prop) : Prop :=
  ∀ e ∈ w.made, IsVolume e → Remains (w.account e.account) e.id → e.account = a ∧ P e.id

instance (a : AccountID) (w : World Unit) (P : String → Prop) [DecidablePred P] :
    Decidable (RemainingIn a w P) :=
  inferInstanceAs (Decidable (∀ e ∈ w.made, _))

/-- Whenever a delete pass looks up the machine's instance, every volume of the machine that remains
is in the account that is asked, and is listed by the recorded instance or is the recorded clone.
Accounts change only between passes. -/
abbrev tracksVolumes : MachineConditions Unit where
  call _ objs w o :=
    (o.2.method = .getInstance ∨ o.2.method = .findInstanceByTag) →
      objs.machine.metadata.deletionTimestamp ≠ none →
      RemainingIn o.1 w fun id =>
        ListedByInstance objs.machine (w.account o.1) id ∨
          IsRecordedClone objs.machine (w.account o.1) id
  quiet := True

/-- When the finalizer goes, nothing remains. The rest of the invariant is in the conditions. -/
def volumeLeaks (ns name : String) : Invariant (oneMachine ns name) tracksVolumes where
  inv _ := True
  loc _ _ _ := True
  touch _ _ _ := True
  rely _ w w' := w = w'
  guar _ _ _ _ := True
  done _ objs out w := Released objs out → ∀ e ∈ w.made, IsVolume e →
    ¬ Remains (w.account e.account) e.id

section

variable {ns name : String} {objs : Objects} {a : AccountID} {w w' : World Unit} {vm : VerdaMachine}

/-- The setting of a pass, at one account. -/
abbrev volumesAt (ns name : String) (objs : Objects) (a : AccountID) :
    Setting (World Unit) Call Call.Res :=
  atAccount ((volumeLeaks ns name).setting () objs) a

/-- Between two requests of a pass nothing happens. -/
theorem volumes_stable (P : World Unit → Prop) : (volumesAt ns name objs a).Stable P := by
  intro w w' h hr _
  have hr : w = w' := hr
  rw [← hr]
  exact h

theorem volumes_lawful : (volumesAt ns name objs a).Lawful :=
  Setting.Lawful.atAccount ⟨fun _ => rfl, fun h h' => h.trans h'⟩

theorem volumes_ret {α : Type} {r : α} {Q : α → World Unit → Prop} (h : Q r w) :
    (Prog.ret r : ClientM α).wp (volumesAt ns name objs a) Q w :=
  Prog.wp_ret_stable (volumes_stable _) h

/-- A program that fails owes nothing about its success. -/
theorem volumes_fail {α : Type} {e : Err} {x : α} {Q : World Unit → Prop} :
    (Prog.ret (.error e) : ClientM (Except Err α)).wp (volumesAt ns name objs a)
      (fun r w => r = .ok x → Q w) w := by
  refine volumes_ret fun hok => ?_
  cases hok

/-- The rule for a request, with what its answer can be. -/
theorem volumes_request {α : Type} {m : Method} {op : Sdk.Op}
    {f : Except Sdk.ApiErr (Sdk.Ans op) → ClientM α} {Q : α → World Unit → Prop}
    (h : ∀ c x w', (tracksVolumes.call () objs w (a, ⟨m, op⟩)) →
      answer () c w (a, ⟨m, op⟩) = some (x, w') → (f x).wp (volumesAt ns name objs a) Q w') :
    (request m op >>= f).wp (volumesAt ns name objs a) Q w := by
  refine wp_request (volumes_stable (fun w₁ => w₁ = w)) rfl fun w₁ hw _ => ⟨trivial, ?_⟩
  intro x w' hs _
  rcases atAccount_step.1 hs with ⟨hcond, c, hans⟩
  rw [hw] at hans hcond
  exact h c x w' hcond hans

/-! ## The purge -/

/-- What the loop of `PurgeInstanceVolumes` keeps: the trash was listed, and what remains is among the
IDs still to come, or satisfies `P`. -/
structure Purging (vm : VerdaMachine) (a : AccountID) (inTrash ids : List String) (w : World Unit) :
    Prop where
  trash : ∀ v ∈ (w.account a).volumes.rows, v.trashed = true → v.id ∈ inTrash
  remaining : RemainingIn a w fun id => id ∈ ids ∨ IsRecordedClone vm (w.account a) id

/-- An ID under which nothing remains can be dropped from the list. -/
theorem Purging.tail {inTrash ids : List String} {id : String}
    (h : Purging vm a inTrash (id :: ids) w) (hnone : ¬ Remains (w.account a) id) :
    Purging vm a inTrash ids w := by
  refine ⟨h.trash, fun e he hvol hrem => ?_⟩
  rcases h.remaining e he hvol hrem with ⟨hacc, hid | hclone⟩
  · rcases List.mem_cons.1 hid with heq | hid
    · rw [hacc, heq] at hrem
      exact absurd hrem hnone
    · exact ⟨hacc, .inl hid⟩
  · exact ⟨hacc, .inr hclone⟩

theorem mem_destroyVolumes {acc : Account} {ids : List String} {v : StoredVolume} :
    v ∈ (acc.destroyVolumes ids).volumes.rows ↔ v ∈ acc.volumes.rows ∧ v.id ∉ ids := by
  simp [Account.destroyVolumes]

/-- Destroying a volume leaves the others as they are. -/
theorem remains_destroy {id id' : String} {acc : Account}
    (h : Remains (acc.destroyVolumes [id]) id') : Remains acc id' ∧ id' ≠ id := by
  rcases h with ⟨v, hv, rfl, hrem⟩
  rw [mem_destroyVolumes] at hv
  exact ⟨⟨v, hv.1, rfl, hrem⟩, by simpa using hv.2⟩

theorem Purging.destroy {inTrash ids : List String} {id : String}
    (h : Purging vm a inTrash (id :: ids) w) :
    Purging vm a inTrash ids (w.set a ((w.account a).destroyVolumes [id])) := by
  constructor
  · intro v hv
    have hv' : v ∈ (w.account a).volumes.rows := by
      have : v ∈ ((w.account a).destroyVolumes [id]).volumes.rows := by simpa [World.set] using hv
      exact (mem_destroyVolumes.1 this).1
    exact h.trash v hv'
  · intro e he hvol hrem
    -- the volume remained before, and has another ID if it is in this account
    have hold : Remains (w.account e.account) e.id ∧ (e.account = a → e.id ≠ id) := by
      by_cases hb : e.account = a
      · have hrem' : Remains ((w.account a).destroyVolumes [id]) e.id := by
          simpa [World.set, hb] using hrem
        rcases remains_destroy hrem' with ⟨hr, hne⟩
        exact ⟨by rw [hb]; exact hr, fun _ => hne⟩
      · exact ⟨by simpa [World.set, hb] using hrem, fun h => absurd h hb⟩
    rcases h.remaining e he hvol hold.1 with ⟨hacc, hid | hclone⟩
    · rcases List.mem_cons.1 hid with heq | hid
      · exact absurd heq (hold.2 hacc)
      · exact ⟨hacc, .inl hid⟩
    · refine ⟨hacc, .inr ?_⟩
      rcases hclone with ⟨hne, hid, v, hv, hvid, hname⟩
      refine ⟨hne, hid, v, ?_, hvid, hname⟩
      have hvne : v.id ≠ id := hvid ▸ hold.2 hacc
      rw [mem_active] at hv ⊢
      have hmem : stored v ∈ ((w.account a).destroyVolumes [id]).volumes.rows :=
        mem_destroyVolumes.2 ⟨hv, by simpa using hvne⟩
      simpa [World.set] using hmem

/-- The number of pending volumes never goes down. -/
theorem purgeVolumes_pending (inTrash : List String) (pending : Nat) (ids : List String) :
    (purgeVolumes inTrash pending ids).Obeys (fun _ => True) fun r => ∀ n, r = .ok n → pending ≤ n := by
  induction ids generalizing pending with
  | nil =>
    intro n hn
    cases hn
    exact Nat.le_refl _
  | cons id ids ih =>
    simp only [purgeVolumes]
    split
    · refine obeys_request trivial ?_
      intro x
      rcases x with e | u
      · dsimp only
        split
        · exact ih pending
        · exact fun n hn => by cases hn
      · exact ih pending
    · refine obeys_request trivial ?_
      intro x
      rcases x with e | vol
      · dsimp only
        split
        · exact ih pending
        · exact fun n hn => by cases hn
      · refine (ih _).mono (fun _ h => h) fun r h n hn => ?_
        have := h n hn
        split at this <;> omega

/-- **The purge loop.** When it ends with nothing pending, nothing of what it was given remains. -/
theorem purgeVolumes_spec {inTrash ids : List String} {pending : Nat}
    (h : Purging vm a inTrash ids w) :
    (purgeVolumes inTrash pending ids).wp (volumesAt ns name objs a)
      (fun r w => r = .ok 0 → Purging vm a inTrash [] w) w := by
  induction ids generalizing pending w with
  | nil => exact volumes_ret fun _ => h
  | cons id ids ih =>
    simp only [purgeVolumes]
    split
    · refine volumes_request fun c x w' _ hans => ?_
      rcases answer_volumesDelete hans with ⟨rfl, rfl⟩ | ⟨rfl, rfl, hnone⟩ | ⟨e, rfl, he⟩
      · exact ih h.destroy
      · refine ih (h.tail ?_)
        intro hrem
        rcases hrem with ⟨v, hv, hid, -⟩
        exact hnone v hv hid
      · dsimp only
        rw [if_neg (by simp [he])]
        exact volumes_fail
    · rename_i hnotin
      refine volumes_request fun c x w' _ hans => ?_
      rcases answer_volumesGet hans with ⟨rfl, ⟨v, hv, hid, rfl⟩ | ⟨hnone, rfl⟩ | ⟨e, rfl, he⟩⟩
      · dsimp only
        by_cases hdel : v.status = volumeStatusDeleted
        · rw [if_neg (by simpa using hdel)]
          refine ih (h.tail ?_)
          -- the row of this ID is the one just read: active and deleted
          intro hrem
          rcases hrem with ⟨v', hv', hid', hleft⟩
          have hrow : v' = stored v :=
            (w'.account a).volumes.eq_of_key hv' (mem_active.1 hv) (hid'.trans hid.symm)
          rw [hrow] at hleft
          rcases hleft with ht | hs
          · cases ht
          · exact hs hdel
        · rw [if_pos hdel]
          -- one more is pending, so the count cannot end at zero
          refine Prog.wp_mono ?_ (Prog.wp_of_obeys (purgeVolumes_pending inTrash (pending + 1) ids)
            fun _ _ _ _ => trivial)
          intro r w _ hr hzero
          have := hr 0 hzero
          omega
      · refine ih (h.tail ?_)
        -- not active, and not in the trash either
        intro hrem
        rcases hrem with ⟨v, hv, hid, -⟩
        rcases v with ⟨v, t⟩
        cases t with
        | true => exact hnotin (hid ▸ h.trash _ hv rfl)
        | false => exact hnone v (mem_active.2 hv) hid
      · dsimp only
        rw [if_neg (by simp [he])]
        exact volumes_fail

/-- Only the recorded clone may remain. -/
def OnlyClone (vm : VerdaMachine) (a : AccountID) (w : World Unit) : Prop :=
  RemainingIn a w fun id => IsRecordedClone vm (w.account a) id

/-- Nothing remains. -/
def NoneRemain (w : World Unit) : Prop :=
  ∀ e ∈ w.made, IsVolume e → ¬ Remains (w.account e.account) e.id

/-- `PurgeInstanceVolumes` of an instance that is there: when nothing is pending, its volumes are
gone. -/
theorem purgeInstanceVolumes_spec {i : Sdk.Instance} (hi : i ∈ (w.account a).instances.rows)
    (h : RemainingIn a w fun id =>
      id ∈ instanceVolumeIDs i ∨ IsRecordedClone vm (w.account a) id) :
    (purgeInstanceVolumes i.id).wp (volumesAt ns name objs a)
      (fun r w => r = .ok 0 → OnlyClone vm a w) w := by
  refine volumes_request fun c x w' _ hans => ?_
  rcases answer_instancesGetByID hans with ⟨rfl, ⟨j, hj, hid, rfl⟩ | ⟨hnone, rfl⟩ | ⟨e, rfl, he⟩⟩
  · have hij : j = i := (w'.account a).instances.eq_of_key hj hi hid
    rw [hij]
    dsimp only
    split
    · exact volumes_fail
    · refine volumes_request fun c x w₁ _ hans => ?_
      rcases answer_volumesInTrash hans with ⟨rfl, rfl | ⟨e, rfl⟩⟩
      · have hpurging : Purging vm a ((w₁.account a).trash.map (·.id)) (instanceVolumeIDs i) w₁ := by
          refine ⟨fun v hv ht => ?_, h⟩
          refine List.mem_map.2 ⟨v.volume, ?_, rfl⟩
          exact List.mem_map.2 ⟨v, List.mem_filter.2 ⟨hv, ht⟩, rfl⟩
        refine Prog.wp_mono ?_ (purgeVolumes_spec hpurging)
        intro r w _ hr hzero e he hvol hrem
        rcases (hr hzero).remaining e he hvol hrem with ⟨hacc, hid | hclone⟩
        · cases hid
        · exact ⟨hacc, hclone⟩
      · exact volumes_fail
  · exact absurd rfl (hnone i hi)
  · dsimp only
    rw [if_neg (by simp [he])]
    exact volumes_fail

/-- Deleting the startup script does not touch volumes. -/
theorem deleteMachineScript_spec {vm₁ : VerdaMachine} (h : OnlyClone vm a w) :
    (deleteMachineScript vm₁).wp (volumesAt ns name objs a) (fun r w => OnlyClone vm a w ∧
      WindsDown vm₁ r.2 ∧ r.2.metadata = vm₁.metadata ∧
        r.2.status.osVolumeID = vm₁.status.osVolumeID) w := by
  refine Prog.wp_frame (deleteMachineScript_uses vm₁ (M := scriptMethods) (by decide) (by decide))
    (volumes_stable _) (fun _ _ _ _ _ => trivial) ?_ h
  intro w c x w' hc hw _ hs _
  rcases atAccount_step.1 hs with ⟨-, ch, hans⟩
  rcases answer_scripts_volumes hc.scripts hans with ⟨hmade, hvolumes⟩
  intro e he hvol hrem
  rw [hmade] at he
  have hrem' : Remains (w.account e.account) e.id := by
    unfold Remains
    rw [← hvolumes]
    exact hrem
  rcases hw e he hvol hrem' with ⟨hacc, hne, hid, v, hv, hrest⟩
  refine ⟨hacc, hne, hid, v, ?_, hrest⟩
  rw [mem_active] at hv ⊢
  rw [hvolumes]
  exact hv

/-- No other volume remains, and the recorded one does not either. -/
theorem OnlyClone.none (h : OnlyClone vm a w)
    (hnot : ¬ (Remains (w.account a) vm.status.osVolumeID ∧
      IsRecordedClone vm (w.account a) vm.status.osVolumeID)) : NoneRemain w := by
  intro e he hvol hrem
  rcases h e he hvol hrem with ⟨hacc, hclone⟩
  have hid : e.id = vm.status.osVolumeID := hclone.2.1
  rw [hacc, hid] at hrem
  rw [hid] at hclone
  exact hnot ⟨hrem, hclone⟩

/-- An account without an active volume of this ID does not have the recorded clone. -/
theorem not_isRecordedClone {id : String} {acc : Account} (h : ∀ v ∈ acc.active, v.id ≠ id) :
    ¬ IsRecordedClone vm acc id := by
  intro hclone
  rcases hclone with ⟨-, -, v, hv, hid, -⟩
  exact h v hv hid

/-- `DeleteVolume` of the recorded clone: when it succeeds, nothing remains. -/
theorem deleteVolume_spec (h : OnlyClone vm a w) :
    (deleteVolume vm.status.osVolumeID).wp (volumesAt ns name objs a)
      (fun r w => r = .ok () → NoneRemain w) w := by
  refine volumes_request fun c x w' _ hans => ?_
  rcases answer_volumesGet hans with ⟨rfl, ⟨v, hv, hid, rfl⟩ | ⟨hnone, rfl⟩ | ⟨e, rfl, he⟩⟩
  · dsimp only
    split
    · exact volumes_fail
    · refine volumes_request fun c x w₁ _ hans => ?_
      rcases answer_volumesDelete hans with ⟨rfl, rfl⟩ | ⟨rfl, rfl, hnone⟩ | ⟨e, rfl, he⟩
      · refine volumes_ret fun _ => ?_
        intro e he hvol hrem
        -- what remains after the deletion remained before, under another ID
        by_cases hb : e.account = a
        · have hrem' : Remains ((w'.account a).destroyVolumes [vm.status.osVolumeID]) e.id := by
            simpa [World.set, hb] using hrem
          rcases remains_destroy hrem' with ⟨hr, hne⟩
          have hr' : Remains (w'.account e.account) e.id := by
            rw [hb]
            exact hr
          exact hne (h e he hvol hr').2.2.1
        · have hr' : Remains (w'.account e.account) e.id := by simpa [World.set, hb] using hrem
          exact hb (h e he hvol hr').1
      · refine volumes_ret fun _ => h.none fun hboth => ?_
        rcases hboth.1 with ⟨v', hv', hid', -⟩
        exact hnone v' hv' hid'
      · dsimp only
        rw [if_neg (by simp [he])]
        exact volumes_fail
  · refine volumes_ret fun _ => h.none fun hboth => ?_
    exact not_isRecordedClone hnone hboth.2
  · dsimp only
    rw [if_neg (by simp [he])]
    exact volumes_fail

/-- `deleteOSVolume`: when it succeeds, nothing remains. -/
theorem deleteOSVolume_spec {vm₁ : VerdaMachine} (hvm : vm₁.status.osVolumeID = vm.status.osVolumeID)
    (hname : osVolumeName vm₁ = osVolumeName vm) (h : OnlyClone vm a w) :
    (deleteOSVolume vm₁).wp (volumesAt ns name objs a)
      (fun r w => r.1 = .ok () → NoneRemain w) w := by
  unfold deleteOSVolume
  dsimp only
  rw [hvm]
  split
  · rename_i hempty
    exact volumes_ret fun _ => h.none fun hboth => hboth.2.1 hempty
  · refine Prog.wp_bind volumes_lawful ?_
    refine volumes_request fun c x w' _ hans => ?_
    rcases answer_volumesGet hans with ⟨rfl, ⟨v, hv, hid, rfl⟩ | ⟨hnone, rfl⟩ | ⟨e, rfl, he⟩⟩
    · refine volumes_ret ?_
      dsimp only
      -- the row of the recorded ID is the volume just read
      have hclone : IsRecordedClone vm (w'.account a) vm.status.osVolumeID →
          v.name = osVolumeName vm ∧ v.status ≠ volumeStatusDeleting := by
        intro hclone
        rcases hclone with ⟨-, -, v', hv', hid', hrest⟩
        have hrow : stored v' = stored v := (w'.account a).volumes.eq_of_key (mem_active.1 hv')
          (mem_active.1 hv) (hid'.trans hid.symm)
        cases hrow
        exact hrest
      split
      · rename_i hne
        refine volumes_ret fun _ => h.none fun hboth => hne ?_
        rw [hname]
        exact (hclone hboth.2).1
      · split
        · refine Prog.wp_bind volumes_lawful (Prog.wp_mono ?_ (deleteVolume_spec h))
          intro r w _ hr
          rcases r with e | u
          · exact volumes_fail
          · exact volumes_ret fun _ => hr rfl
        · rename_i hstatus
          refine volumes_ret fun _ => h.none fun hboth => hstatus ⟨(hclone hboth.2).2, ?_⟩
          intro hdeleted
          rcases hboth.1 with ⟨v', hv', hid', hleft⟩
          have hrow : v' = stored v := (w'.account a).volumes.eq_of_key hv' (mem_active.1 hv)
            (hid'.trans hid.symm)
          rw [hrow] at hleft
          rcases hleft with ht | hs
          · cases ht
          · exact hs hdeleted
    · refine volumes_ret ?_
      exact volumes_ret fun _ => h.none fun hboth => not_isRecordedClone hnone hboth.2
    · dsimp only
      rw [if_neg (by simp [he])]
      refine volumes_ret ?_
      dsimp only
      rw [if_neg (by simp [Err.wrap, ofApi_kind])]
      exact volumes_fail

/-- The end of a delete pass: if the finalizer goes, nothing remains. -/
theorem releaseMachine_spec {vm₁ : VerdaMachine} (hvm : vm₁.status.osVolumeID = vm.status.osVolumeID)
    (hname : osVolumeName vm₁ = osVolumeName vm) (h : OnlyClone vm a w) :
    (releaseMachine vm₁).wp (volumesAt ns name objs a)
      (fun r w => machineFinalizer ∈ vm₁.metadata.finalizers →
        machineFinalizer ∉ r.2.metadata.finalizers → NoneRemain w) w := by
  refine Prog.wp_bind volumes_lawful (Prog.wp_mono ?_ (deleteMachineScript_spec h))
  intro r w _ hr
  rcases r with ⟨e | u, vm₂⟩
  · have hkept : vm₂.metadata = vm₁.metadata := hr.2.2.1
    exact volumes_ret fun hf hf' => absurd (hkept ▸ hf) hf'
  · have hname₂ : osVolumeName vm₂ = osVolumeName vm := by
      rw [← hname]
      unfold osVolumeName
      rw [hr.2.1.ns, hr.2.1.name]
    refine Prog.wp_bind volumes_lawful (Prog.wp_mono ?_
      (Prog.wp_and_obeys (deleteOSVolume_uses vm₂ (M := releaseMethods) (by decide) (by decide))
        (deleteOSVolume_spec (hr.2.2.2.trans hvm) hname₂ hr.1)))
    intro r₂ w _ hr₂
    rcases r₂ with ⟨e | u, vm₃⟩
    · have hkept : vm₃.metadata = vm₁.metadata := hr₂.2.2.trans hr.2.2.1
      exact volumes_ret fun hf hf' => absurd (hkept ▸ hf) hf'
    · exact volumes_ret fun _ _ => hr₂.1 rfl

/-! ## Delete passes -/

/-- What a lookup tells a delete pass: what remains is tracked, and an instance that is gone is a row
of the account, or there is none under the recorded ID. -/
structure LookedUp (objs : Objects) (a : AccountID) (r : Except Err (Option Instance))
    (w : World Unit) : Prop where
  tracked : RemainingIn a w fun id => ListedByInstance objs.machine (w.account a) id ∨
    IsRecordedClone objs.machine (w.account a) id
  missing : r = .ok none → objs.machine.status.instanceID = ""
  gone : ∀ inst, r = .ok (some inst) → instanceGone inst = true →
    (∃ i ∈ (w.account a).instances.rows, i.id = objs.machine.status.instanceID ∧
      inst = toInstance i) ∨
    (inst.status = statusNotFound ∧
      ∀ i ∈ (w.account a).instances.rows, i.id ≠ objs.machine.status.instanceID)

theorem volumes_findInstance (hvm : KeepsRecords objs.machine vm)
    (hdel : objs.machine.metadata.deletionTimestamp ≠ none) (w : World Unit) :
    (findInstance vm).wp (volumesAt ns name objs a) (LookedUp objs a) w := by
  rcases hvm with ⟨conditions, rfl⟩
  rw [findInstance_eq]
  refine wp_lookupInstance (fun _ => volumes_stable _) (fun _ _ _ _ => trivial)
    (fun _ w x w' _ _ hs => ?_) fun hid w x w' _ _ hs => ?_
  · rcases atAccount_step.1 hs with ⟨hcond, c, hans⟩
    have htracked := hcond (.inl rfl) hdel
    rcases answer_instancesGetByID hans with ⟨rfl, ⟨i, hi, hiid, rfl⟩ | ⟨hnone, rfl⟩ | ⟨e, rfl, he⟩⟩
    · refine ⟨htracked, fun h => absurd h pickByID_ne_none, fun inst hinst _ => ?_⟩
      cases hinst
      exact .inl ⟨i, hi, hiid, rfl⟩
    · refine ⟨htracked, fun h => absurd h pickByID_ne_none, fun inst hinst _ => ?_⟩
      cases hinst
      exact .inr ⟨rfl, hnone⟩
    · refine ⟨htracked, fun h => absurd h pickByID_ne_none, fun inst hinst => ?_⟩
      simp [pickByID, he] at hinst
  · rcases atAccount_step.1 hs with ⟨hcond, c, hans⟩
    have htracked := hcond (.inr rfl) hdel
    rcases answer_instancesGet hans with ⟨rfl, hx⟩
    refine ⟨htracked, fun _ => hid, fun inst hinst hgone => ?_⟩
    -- a lookup by tag never returns a gone instance
    rcases hx with rfl | ⟨e, rfl⟩
    · rcases pickByTag_some hinst with ⟨i, -, hlive, rfl⟩
      have hgone : isGone i = true := hgone
      rw [hlive.2] at hgone
      cases hgone
    · cases hinst

/-- Without an instance that lists volumes, only the clone may remain. -/
theorem LookedUp.onlyClone {r : Except Err (Option Instance)} (h : LookedUp objs a r w)
    (hnot : ∀ id, ¬ ListedByInstance objs.machine (w.account a) id) :
    OnlyClone objs.machine a w := by
  intro e he hvol hrem
  rcases h.tracked e he hvol hrem with ⟨hacc, hlisted | hclone⟩
  · exact absurd hlisted (hnot e.id)
  · exact ⟨hacc, hclone⟩

/-- A delete pass that lets the finalizer go leaves no volume. -/
theorem volumes_reconcileDelete (now : Time) (w : World Unit)
    (hdel : objs.machine.metadata.deletionTimestamp ≠ none) :
    (reconcileDelete now objs.machine).wp (volumesAt ns name objs a)
      (fun r w => machineFinalizer ∈ objs.machine.metadata.finalizers →
        machineFinalizer ∉ r.2.metadata.finalizers → NoneRemain w) w := by
  have hkeep : KeepsRecords objs.machine
      (setInstanceReadyFalse objs.machine "Deleting" "Deleting Verda instance") := ⟨_, rfl⟩
  have hsame : ∀ {w : World Unit}, machineFinalizer ∈ objs.machine.metadata.finalizers →
      machineFinalizer ∉ objs.machine.metadata.finalizers → NoneRemain w :=
    fun hf hf' => absurd hf hf'
  rw [reconcileDelete_eq]
  refine wp_teardown volumes_lawful (U := fun r w => r = .ok 0 → OnlyClone objs.machine a w)
    (volumes_findInstance hkeep hdel w) ?live ?purge ?none ?missing ?purged ?failed ?wait
  case live =>
    -- the finalizer stays
    intro inst w _ _
    refine Prog.wp_mono ?_ (Prog.wp_of_obeys (deleteLiveInstance_uses now _ inst) fun _ _ _ _ => trivial)
    intro r w _ hr hf hf'
    exact absurd (hr.2 ▸ hf) hf'
  case purge =>
    -- the instance is there, and what it lists is purged
    intro inst w _ h hgone hstatus
    rcases h.gone inst rfl hgone with ⟨i, hi, hid, rfl⟩ | ⟨hnot, -⟩
    · refine purgeInstanceVolumes_spec hi fun e he hvol hrem => ?_
      rcases h.tracked e he hvol hrem with ⟨hacc, ⟨-, j, hj, hjid, -, hmem⟩ | hclone⟩
      · have hji : j = i := (w.account a).instances.eq_of_key hj hi (hjid.trans hid.symm)
        exact ⟨hacc, .inl (hji ▸ hmem)⟩
      · exact ⟨hacc, .inr hclone⟩
    · exact absurd hnot hstatus
  case none =>
    intro w _ h
    refine releaseMachine_spec rfl rfl (h.onlyClone fun id hlisted => ?_)
    exact hlisted.1 (h.missing rfl)
  case missing =>
    intro inst w _ h hgone hstatus
    refine releaseMachine_spec rfl rfl (h.onlyClone fun id hlisted => ?_)
    rcases hlisted with ⟨-, j, hj, hjid, hjstatus, -⟩
    rcases h.gone inst rfl hgone with ⟨i, hi, hid, rfl⟩ | ⟨-, hnone⟩
    · have hji : j = i := (w.account a).instances.eq_of_key hj hi (hjid.trans hid.symm)
      rw [hji] at hjstatus
      exact hjstatus hstatus
    · exact hnone j hj hjid
  case purged => exact fun w _ h => releaseMachine_spec rfl rfl (h rfl)
  case failed => exact fun _ _ _ _ => volumes_ret hsame
  case wait => exact fun _ _ => volumes_ret hsame

theorem volumeLeaks_valid : (volumeLeaks ns name).Valid where
  refl _ _ := rfl
  trans _ {w₁ w₂ w₃} h₁₂ h₂₃ := h₁₂.trans h₂₃
  drift _ _ := ⟨trivial, fun _ => ⟨fun hq => absurd trivial hq, fun _ _ => trivial⟩⟩
  edit _ _ := trivial
  touched _ _ _ := trivial
  merge _ hp := ⟨_, hp, trivial⟩
  call _ _ _ _ _ := ⟨trivial, trivial, fun j hj => absurd rfl hj⟩
  pass {i inp obj w} _ _ _ := by
    refine Invariant.wp_persist ?_
    refine wp_startPass inp obj ?_ ?_ ?_
    · intro out hout w' _ _
      exact ⟨fun hrel => absurd hrel (not_released_of_marks hout), fun _ => trivial⟩
    · intro a hdel
      refine Prog.wp_mono ?_ (volumes_reconcileDelete inp.now w hdel)
      intro r w _ h
      refine ⟨fun hrel => ?_, fun _ => trivial⟩
      rcases released_sent.1 hrel with ⟨hf, hf'⟩
      exact h hf hf'
    · intro a cluster vc machine _
      refine Prog.wp_mono ?_ (Prog.wp_of_obeys
        (reconcileNormal_uses inp.boot cluster vc machine obj.machine) fun _ _ _ _ => trivial)
      intro r w _ h
      refine ⟨fun hrel => absurd hrel (not_released_patched ?_), fun _ => trivial⟩
      rw [h]

end

/-- **No volume is left behind**, in every run in which delete passes start with every remaining volume
tracked: when a pass returns with the finalizer removed, every clone made for the machine and every
volume that came with its instances is permanently gone, neither active nor in the trash. -/
theorem noVolume_leaked {ns name : String} {s₀ s : MachineState Unit} (h₀ : Initial ns name s₀)
    (h : Reach (oneMachine ns name) tracksVolumes s₀ s) {out : MachineOutcome}
    (hrun : s.run () = some (.ret out)) (hrel : Released (s.seen ()) out) :
    ∀ e ∈ s.world.made, IsVolume e → ¬ Remains (s.world.account e.account) e.id := by
  have hholds : (volumeLeaks ns name).Holds s :=
    Invariant.sound volumeLeaks_valid trivial (fun _ => trivial) (fun _ => h₀.idle) h
  exact hholds.done volumeLeaks_valid hrun hrel

/-- The boot volume Verda makes with an instance. -/
def sampleBootVolume : Sdk.Volume := { id := "v1", name := "m0-boot", status := "attached" }

/-- The account after the instance was deleted: discontinued, its volume in the trash. -/
def discontinuedAccount : Account where
  instances := ⟨[{ sampleInstance "x1" "discontinued" with osVolumeID := some "v1" }], by decide⟩
  volumes := ⟨[{ volume := sampleBootVolume, trashed := true }], by decide⟩

/-- The boot volume is purged from the trash before the machine is released. -/
theorem noVolume_leaked_sample : ∃ (s : MachineState Unit) (out : MachineOutcome),
    s.run () = some (.ret out) ∧ Released (s.seen ()) out ∧ (∃ e ∈ s.world.made, IsVolume e) ∧
      ∀ e ∈ s.world.made, IsVolume e → ¬ Remains (s.world.account e.account) e.id := by
  obtain ⟨s, hs, hgood⟩ := exists_reach_meeting (oneMachine "default" "m0") tracksVolumes sampleState
    (releasesWith fun s => ∃ e ∈ s.world.made, IsVolume e)
    ([.start () sampleInput] ++ accepted 3 ++
      [.answer () (.accept (.instance_
          { sampleInstance "x1" "provisioning" with osVolumeID := some "v1" } [sampleBootVolume])),
        .finish () {}, .drift (.global, discontinuedAccount),
        .edit () (.deleteMachine 0), .start () sampleInput] ++ accepted 5)
    (by decide +kernel)
  obtain ⟨out, hrun, hrel, hP⟩ := of_releasesWith hgood
  exact ⟨s, out, hrun, hrel, hP, noVolume_leaked sampleState_initial hs hrun hrel⟩

/-- A machine that boots from a clone of `golden`, in an account that has it. -/
def sampleCloneState : MachineState Unit where
  world := { account := fun _ => goldenAccount }
  obj := fun _ => { sampleObjects with machine := { sampleMachine with
    spec := { instanceType := "CPU.4V.16G", osVolumeID := "golden" } } }
  run := fun _ => none

theorem sampleCloneState_initial : Initial "default" "m0" sampleCloneState where
  idle := rfl
  machine_ns := rfl
  machine_name := rfl
  status := rfl
  providerID := rfl
  made := rfl
  untagged := by
    intro a i hi
    cases hi

/-- The clone, as Verda makes it. -/
def sampleClone : Sdk.Volume := { id := "v1", name := "default-m0-os", status := "cloning" }

/-- The pass that clones crashes before its patch, and the machine is deleted: the delete pass has no
recorded volume, looks for none by name, and lets the finalizer go. -/
theorem volume_leaked : ∃ (s₀ s : MachineState Unit) (out : MachineOutcome),
    Initial "default" "m0" s₀ ∧ Reach (oneMachine "default" "m0") {} s₀ s ∧
      s.run () = some (.ret out) ∧ Released (s.seen ()) out ∧
      ∃ e ∈ s.world.made, IsVolume e ∧ Remains (s.world.account e.account) e.id := by
  obtain ⟨s, hs, hbad⟩ := exists_reach_of_run (oneMachine "default" "m0") sampleCloneState
    (releasesWith fun s => ∃ e ∈ s.world.made, IsVolume e ∧ Remains (s.world.account e.account) e.id)
    ([.start () sampleInput] ++ accepted 3 ++
      [.answer () (.accept (.volume sampleClone)), .crash (),
        .edit () (.deleteMachine 0), .start () sampleInput] ++ accepted 2)
    (by decide +kernel)
  obtain ⟨out, hrun, hrel, hP⟩ := of_releasesWith hbad
  exact ⟨sampleCloneState, s, out, sampleCloneState_initial, hs, hrun, hrel, hP⟩

end VerdaCapi.Controller
