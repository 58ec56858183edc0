import VerdaCapi.Cloud.Rules
import VerdaCapi.Remote.System

/-!
# What the client destroys

`DeleteInstance`, `PurgeInstanceVolumes` and `DeleteVolume` each check the managed-by tag of the thing
they are called with. `DeleteInstance` and `PurgeInstanceVolumes` then go on to the volumes the
instance lists, and those are not looked at.

`destroySystem` runs these three methods, with any IDs, one call after the other. In all its runs the
instances that are shut down or deleted carry the tag (`endsManaged`), and so do the volumes, or they
were created by this provider, if that is so of every volume a managed instance lists
(`destroysOwn`). `destroysUserVolume` is a call that deletes a user's volume.
-/

namespace VerdaCapi.Cloud

open Remote

/-- A call to one of the destructive methods of the client. -/
inductive DestroyCall where
  | deleteInstance (a : AccountID) (id : String)
  | purgeInstanceVolumes (a : AccountID) (id : String)
  | deleteVolume (a : AccountID) (id : String)

/-- The call as a program. What it returns does not matter here. -/
def DestroyCall.run : DestroyCall → Prog AccountCall AccountCall.Res Unit
  | .deleteInstance a id => onAccount a (Cloud.deleteInstance id) >>= fun _ => .ret ()
  | .purgeInstanceVolumes a id => onAccount a (Cloud.purgeInstanceVolumes id) >>= fun _ => .ret ()
  | .deleteVolume a id => onAccount a (Cloud.deleteVolume id) >>= fun _ => .ret ()

/-- One call after the other, and accounts that do what they like in between. -/
def destroySystem : System Unit (World Unit) AccountCall AccountCall.Res Unit Unit DestroyCall Choice
    Unit (AccountID × Account) Empty where
  start _ c _ := c.run
  answer := answer
  persist _ _ _ _ := ()
  drift := drift fun _ => false
  edit e _ := e.elim

/-- A state of a sequence of such calls. -/
abbrev DestroyState := State Unit (World Unit) AccountCall AccountCall.Res Unit Unit

/-! ## The guard -/

/-- The instances a request shuts down or deletes. -/
def endsInstances : Sdk.Op → List String
  | .instancesShutdown id => [id]
  | .instancesDelete ids _ _ => ids
  | _ => []

/-- The volumes a request deletes. -/
def deletesVolumes : Sdk.Op → List String
  | .instancesDelete _ volumeIDs _ => volumeIDs
  | .volumesDelete id _ => [id]
  | _ => []

/-- Which volumes of an account may be deleted, given the log. -/
abbrev VolumeRule := List (Made Unit) → AccountID → StoredVolume → Prop

/-- The request ends managed instances only, and deletes volumes only as the rule allows. -/
structure Guarded (V : VolumeRule) (a : AccountID) (w : World Unit) (op : Sdk.Op) : Prop where
  instances : ∀ i ∈ (w.account a).instances.rows, i.id ∈ endsInstances op → isManaged i = true
  volumes : ∀ v ∈ (w.account a).volumes.rows, v.id ∈ deletesVolumes op → V w.made a v

/-- The volume carries the managed-by tag, or was created by this provider. -/
def Ours : VolumeRule := fun made a v =>
  hasTag v.volume.tags tagManagedBy managedByValue = true ∨
    ∃ e ∈ made, e.account = a ∧ e.id = v.id ∧ (e.kind = .clone ∨ e.kind = .attached)

instance (made : List (Made Unit)) (a : AccountID) (v : StoredVolume) : Decidable (Ours made a v) :=
  inferInstanceAs (Decidable (_ ∨ _))

/-- The instance a request reads. -/
def getsInstance : Sdk.Op → Option String
  | .instancesGetByID id => some id
  | _ => none

/-- Every volume the instance of this ID lists, if it is managed, may be deleted. -/
def ListsOnly (V : VolumeRule) (a : AccountID) (w : World Unit) (id : String) : Prop :=
  ∀ i ∈ (w.account a).instances.rows, i.id = id → isManaged i = true →
    ∀ v ∈ (w.account a).volumes.rows, v.id ∈ instanceVolumeIDs i → V w.made a v

instance (V : VolumeRule) [∀ made a v, Decidable (V made a v)] (a : AccountID) (w : World Unit)
    (id : String) : Decidable (ListsOnly V a w id) :=
  inferInstanceAs (Decidable (∀ i ∈ (w.account a).instances.rows, _))

/-- Whenever one of the methods reads a managed instance, the volumes the instance lists may be
deleted. Accounts change on their own only between calls. -/
abbrev lists (V : VolumeRule) :
    Conditions Unit (World Unit) AccountCall Unit Unit DestroyCall Unit Empty where
  call _ _ w o := ∀ id ∈ getsInstance o.2.op, ListsOnly V o.1 w id
  quiet := True

/-- Accounts change on their own only between calls; nothing else is asked for. -/
abbrev betweenCalls : Conditions Unit (World Unit) AccountCall Unit Unit DestroyCall Unit Empty where
  quiet := True

/-- Every request is guarded. -/
def guards (V : VolumeRule) : Invariant destroySystem (lists V) where
  inv _ := True
  loc _ _ _ := True
  rely _ w w' := w = w'
  guar _ _ w o := Guarded V o.1 w o.2.op
  done _ _ _ _ := True

section

variable {V : VolumeRule} {a : AccountID} {w : World Unit}

/-- The setting of a call, at one account. -/
abbrev guardsAt (V : VolumeRule) (a : AccountID) : Setting (World Unit) Call Call.Res :=
  atAccount ((guards V).setting () ()) a

theorem guards_lawful : (guardsAt V a).Lawful :=
  Setting.Lawful.atAccount ⟨fun _ => rfl, fun h h' => h.trans h'⟩

theorem guards_ret {α : Type} (r : α) (w : World Unit) :
    (Prog.ret r : ClientM α).wp (guardsAt V a) (fun _ _ => True) w :=
  fun _ _ _ => trivial

/-- The rule for a request. -/
theorem guards_request {α : Type} {m : Method} {op : Sdk.Op}
    {f : Except Sdk.ApiErr (Sdk.Ans op) → ClientM α} (hg : Guarded V a w op)
    (h : ∀ c x w', (∀ id ∈ getsInstance op, ListsOnly V a w id) →
      answer () c w (a, ⟨m, op⟩) = some (x, w') →
      (f x).wp (guardsAt V a) (fun _ _ => True) w') :
    (request m op >>= f).wp (guardsAt V a) (fun _ _ => True) w := by
  refine wp_request (P := fun w₁ => w₁ = w) ?_ rfl ?_
  · intro w₁ w₂ h₁ hr _
    have hr : w₁ = w₂ := hr
    rw [← hr]
    exact h₁
  · intro w₁ h₁ _
    rw [h₁]
    refine ⟨hg, fun x w' hs _ => ?_⟩
    rcases atAccount_step.1 hs with ⟨hcond, c, hans⟩
    exact h c x w' hcond hans

/-- A request that destroys nothing is guarded. -/
theorem guarded_of_plain {op : Sdk.Op} (hi : endsInstances op = []) (hv : deletesVolumes op = []) :
    Guarded V a w op := by
  refine ⟨fun i _ h => ?_, fun v _ h => ?_⟩
  · rw [hi] at h
    cases h
  · rw [hv] at h
    cases h

/-! ## The methods -/

/-- The purge deletes volumes of its list only; those that are left stay as they were. -/
theorem purgeVolumes_guarded (inTrash ids : List String) (pending : Nat) (w : World Unit)
    (h : ∀ v ∈ (w.account a).volumes.rows, v.id ∈ ids → V w.made a v) :
    (purgeVolumes inTrash pending ids).wp (guardsAt V a) (fun _ _ => True) w := by
  induction ids generalizing pending w with
  | nil => exact guards_ret _ w
  | cons id ids ih =>
    have htail : ∀ v ∈ (w.account a).volumes.rows, v.id ∈ ids → V w.made a v :=
      fun v hv hid => h v hv (List.mem_cons_of_mem _ hid)
    unfold purgeVolumes
    split
    · refine guards_request ⟨fun i _ hid => (by cases hid), fun v hv hid => ?_⟩ ?_
      · have hid : v.id = id := List.mem_singleton.1 hid
        exact h v hv (hid ▸ List.mem_cons_self)
      · intro c x w' _ hans
        rcases answer_volumesDelete hans with ⟨rfl, rfl⟩ | ⟨rfl, rfl, -⟩ | ⟨e, rfl, he⟩
        · refine ih _ _ fun v hv hid => ?_
          have hmem : v ∈ ((w.account a).destroyVolumes [id]).volumes.rows := by
            simpa [World.set] using hv
          exact htail v (Table.mem_filter.1 hmem).1 hid
        · exact ih _ _ htail
        · dsimp only
          rw [if_neg (by simp [he])]
          exact guards_ret _ w'
    · refine guards_request (guarded_of_plain rfl rfl) fun c x w' _ hans => ?_
      rcases answer_volumesGet hans with ⟨rfl, -⟩
      rcases x with e | v
      · dsimp only
        split
        · exact ih _ _ htail
        · exact guards_ret _ _
      · exact ih _ _ htail

theorem purgeInstanceVolumes_guarded (id : String) (w : World Unit) :
    (purgeInstanceVolumes id).wp (guardsAt V a) (fun _ _ => True) w := by
  refine guards_request (guarded_of_plain rfl rfl) fun c x w' hcond hans => ?_
  rcases answer_instancesGetByID hans with ⟨rfl, ⟨i, hi, hid, rfl⟩ | ⟨-, rfl⟩ | ⟨e, rfl, he⟩⟩
  · dsimp only
    split
    · exact guards_ret _ _
    · rename_i hmanaged
      have hmanaged : isManaged i = true := by simpa using hmanaged
      refine guards_request (guarded_of_plain rfl rfl) fun c x w₁ _ hans => ?_
      rcases answer_volumesInTrash hans with ⟨rfl, -⟩
      rcases x with e | trash
      · exact guards_ret _ _
      · exact purgeVolumes_guarded _ _ _ _ (hcond id rfl i hi hid hmanaged)
  · exact guards_ret _ _
  · dsimp only
    rw [if_neg (by simp [he])]
    exact guards_ret _ _

theorem deleteInstance_guarded (id : String) (w : World Unit) :
    (deleteInstance id).wp (guardsAt V a) (fun _ _ => True) w := by
  refine guards_request (guarded_of_plain rfl rfl) fun c x w' hcond hans => ?_
  rcases answer_instancesGetByID hans with ⟨rfl, ⟨i, hi, hid, rfl⟩ | ⟨-, rfl⟩ | ⟨e, rfl, he⟩⟩
  · dsimp only
    split
    · exact guards_ret _ _
    · rename_i hmanaged
      have hmanaged : isManaged i = true := by simpa using hmanaged
      -- the instance of this ID is the one that was read
      have hsame : ∀ j ∈ (w'.account a).instances.rows, j.id ∈ [id] → isManaged j = true := by
        intro j hj hjid
        have hji : j = i :=
          (w'.account a).instances.eq_of_key hj hi ((List.mem_singleton.1 hjid).trans hid.symm)
        rw [hji]
        exact hmanaged
      split
      · refine Prog.wp_bind guards_lawful (Prog.wp_mono ?_ (purgeInstanceVolumes_guarded id w'))
        intro r w _ _
        rcases r with e | pending <;> exact guards_ret _ _
      · split
        · exact guards_ret _ _
        · split
          · refine guards_request ⟨hsame, hcond id rfl i hi hid hmanaged⟩ fun c x w _ _ => ?_
            rcases x with e | u
            · dsimp only
              split <;> exact guards_ret _ _
            · exact guards_ret _ _
          · refine guards_request ⟨hsame, fun v _ h => by cases h⟩ fun c x w _ _ => ?_
            rcases x with e | u
            · dsimp only
              split <;> exact guards_ret _ _
            · exact guards_ret _ _
  · exact guards_ret _ _
  · dsimp only
    rw [if_neg (by simp [he])]
    exact guards_ret _ _

/-- `DeleteVolume` looks at the tag of the volume itself. -/
theorem deleteVolume_guarded (htag : ∀ made a v,
      hasTag v.volume.tags tagManagedBy managedByValue = true → V made a v)
    (id : String) (w : World Unit) :
    (deleteVolume id).wp (guardsAt V a) (fun _ _ => True) w := by
  refine guards_request (guarded_of_plain rfl rfl) fun c x w' _ hans => ?_
  rcases answer_volumesGet hans with ⟨rfl, ⟨v, hv, hid, rfl⟩ | ⟨-, rfl⟩ | ⟨e, rfl, he⟩⟩
  · dsimp only
    split
    · exact guards_ret _ _
    · rename_i hmanaged
      refine guards_request ⟨fun i _ h => (by cases h), fun v' hv' hid' => ?_⟩ fun c x w _ _ => ?_
      · have heq : v' = stored v := (w'.account a).volumes.eq_of_key hv' (mem_active.1 hv)
          ((List.mem_singleton.1 hid').trans hid.symm)
        rw [heq]
        exact htag _ _ _ (by simpa using hmanaged)
      · rcases x with e | u
        · dsimp only
          split <;> exact guards_ret _ _
        · exact guards_ret _ _
  · exact guards_ret _ _
  · dsimp only
    rw [if_neg (by simp [he])]
    exact guards_ret _ _

theorem guards_valid (htag : ∀ made a v,
      hasTag v.volume.tags tagManagedBy managedByValue = true → V made a v) :
    (guards V).Valid where
  refl _ _ := rfl
  trans _ {_ _ _} h h' := Eq.trans h h'
  drift _ _ := ⟨trivial, fun _ => ⟨fun hq => absurd trivial hq, fun _ _ => trivial⟩⟩
  edit {_ e _ _} _ _ := e.elim
  touched _ _ _ := trivial
  merge _ hp := ⟨_, hp, rfl⟩
  call _ _ _ _ _ := ⟨trivial, trivial, fun j hj => absurd rfl hj⟩
  pass {i inp obj w} _ _ _ := by
    have hcall : ∀ {α : Type} {a : AccountID} {p : ClientM α},
        p.wp (guardsAt V a) (fun _ _ => True) w →
        (onAccount a p >>= fun _ => .ret ()).wp ((guards V).setting i obj)
          (fun r w => (guards V).done i obj r w ∧
            ∀ q, (guards V).loc i (destroySystem.persist q obj obj r) w) w := by
      intro α a p hp
      refine Prog.wp_map (Prog.wp_mono ?_ (Prog.wp_mapOp hp))
      exact fun _ _ _ _ => ⟨trivial, fun _ => trivial⟩
    refine Invariant.wp_persist ?_
    rcases inp with ⟨a, id⟩ | ⟨a, id⟩ | ⟨a, id⟩
    · exact hcall (deleteInstance_guarded id w)
    · exact hcall (purgeInstanceVolumes_guarded id w)
    · exact hcall (deleteVolume_guarded htag id w)

end

/-- **Instances that are ended are managed**, in every sequence of calls. -/
theorem endsManaged {s₀ s : DestroyState} (hidle : s₀.run () = none)
    (h : Reach destroySystem betweenCalls s₀ s) {o : AccountCall}
    {next : AccountCall.Res o → Prog AccountCall AccountCall.Res Unit}
    (hrun : s.run () = some (.call o next)) :
    ∀ i ∈ (s.world.account o.1).instances.rows, i.id ∈ endsInstances o.2.op → isManaged i = true := by
  -- with a rule that allows every volume the condition is void
  have hreach : Reach destroySystem (lists fun _ _ _ => True) s₀ s := by
    refine h.mono fun s m hm => ?_
    cases m with
    | answer i c =>
      simp only [Conditions.Meets]
      split
      · exact fun _ _ _ _ _ _ _ _ _ => trivial
      · trivial
    | drift d => exact hm
    | _ => trivial
  have hvalid := guards_valid (V := fun _ _ _ => True) fun _ _ _ _ => trivial
  have hholds : (guards fun _ _ _ => True).Holds s :=
    Invariant.sound hvalid trivial (fun _ => trivial) (fun _ => hidle) hreach
  exact (hholds.guar hvalid hrun).instances

/-- **Only what is ours is destroyed**, in every sequence of calls in which every volume that a managed
instance lists is ours: each request about to be answered shuts down or deletes managed instances
only, and deletes only volumes that carry the tag or were created by this provider. -/
theorem destroysOwn {s₀ s : DestroyState} (hidle : s₀.run () = none)
    (h : Reach destroySystem (lists Ours) s₀ s) {o : AccountCall}
    {next : AccountCall.Res o → Prog AccountCall AccountCall.Res Unit}
    (hrun : s.run () = some (.call o next)) : Guarded Ours o.1 s.world o.2.op := by
  have hvalid := guards_valid (V := Ours) fun _ _ _ htag => .inl htag
  have hholds : (guards Ours).Holds s :=
    Invariant.sound hvalid trivial (fun _ => trivial) (fun _ => hidle) h
  exact hholds.guar hvalid hrun

/-- The request that is about to be answered. -/
def requested (s : DestroyState) : Option AccountCall :=
  match s.run () with
  | some (.call o _) => some o
  | _ => none

theorem requested_any {s : DestroyState} {f : AccountCall → Bool} (h : (requested s).any f = true) :
    ∃ o next, s.run () = some (.call o next) ∧ f o = true := by
  unfold requested at h
  split at h
  · rename_i o next hrun
    exact ⟨o, next, hrun, h⟩
  · cases h

/-- A managed instance that is offline, with one volume attached, and what is logged. -/
def offlineState (made : List (Made Unit)) : DestroyState where
  world :=
    { account := fun _ =>
        { instances := ⟨[{ id := "x1", hostname := "m0", status := "offline"
                           volumeIDs := ["v1"], tags := [⟨tagManagedBy, managedByValue⟩] }], by decide⟩
          volumes := ⟨[stored { id := "v1", name := "data", status := "attached" }], by decide⟩ }
      made := made }
  obj _ := ()
  run _ := none

/-- The volume that came with the instance is deleted with it. -/
theorem destroysOwn_sample : ∃ (s : DestroyState) (o : AccountCall)
    (next : AccountCall.Res o → Prog AccountCall AccountCall.Res Unit),
    s.run () = some (.call o next) ∧ deletesVolumes o.2.op = ["v1"] ∧
      Guarded Ours o.1 s.world o.2.op := by
  -- the volume came with the instance
  obtain ⟨s, hs, hgood⟩ := exists_reach_meeting destroySystem (lists Ours)
    (offlineState [⟨(), .attached, .global, "v1"⟩])
    (fun s => (requested s).any fun o => deletesVolumes o.2.op == ["v1"])
    [.start () (.deleteInstance .global "x1"), .answer () (.accept .plain)] (by decide +kernel)
  rcases requested_any hgood with ⟨o, next, hrun, ho⟩
  exact ⟨s, o, next, hrun, by simpa using ho, destroysOwn rfl hs hrun⟩

/-- Nobody of ours created `v1`, and it carries no tag: a user attached it to the instance. -/
theorem destroysUserVolume : ∃ (s₀ s : DestroyState) (o : AccountCall)
    (next : AccountCall.Res o → Prog AccountCall AccountCall.Res Unit), s₀.run () = none ∧
      Reach destroySystem betweenCalls s₀ s ∧ s.run () = some (.call o next) ∧
      ¬ Guarded Ours o.1 s.world o.2.op := by
  obtain ⟨s, hs, hbad⟩ := exists_reach_meeting destroySystem betweenCalls (offlineState [])
    (fun s => (requested s).any fun (o : AccountCall) => decide (∃ v ∈ (s.world.account o.1).volumes.rows,
      v.id ∈ deletesVolumes o.2.op ∧ ¬ Ours s.world.made o.1 v))
    [.start () (.deleteInstance .global "x1"), .answer () (.accept .plain)] (by decide +kernel)
  rcases requested_any hbad with ⟨o, next, hrun, ho⟩
  refine ⟨offlineState [], s, o, next, rfl, hs, hrun, fun hg => ?_⟩
  have hv : ∃ v ∈ (s.world.account o.1).volumes.rows,
      v.id ∈ deletesVolumes o.2.op ∧ ¬ Ours s.world.made o.1 v := of_decide_eq_true ho
  rcases hv with ⟨v, hmem, hid, hnot⟩
  exact hnot (hg.volumes v hmem hid)

end VerdaCapi.Cloud
