import VerdaCapi.Controller.OwnScripts
import VerdaCapi.Controller.ScriptLeak

/-!
# Whose startup scripts are deleted

Startup scripts are told apart by their hostname. `CreateInstance` deletes all scripts under the hostname
before it adds one, and deletion goes by hostname when no script is recorded. Hostnames do not have a
namespace in them.

`scripts_deleted_own`: a request to delete a startup script, made for one owner, never names a script
that was added for another one, if no two of the owners that share the account have one hostname or,
among owners of a kind, one tag. In `script_deleted_across` two machines of one name in different
namespaces share the account.
-/

namespace VerdaCapi.Controller

open Remote Go Api Cloud Webhook

variable {keys : Set Key} {a₀ : AccountID}

/-! ## Passes over a cluster -/

/-- A setting for parts of the VerdaCluster reconciler that run for the cluster `ns/name`. -/
structure ForCluster (T : Setting FleetWorld ClusterCall ClusterCall.Res) (keys : Set Key)
    (a₀ : AccountID) (ns name : String) : Prop where
  lawful : T.Lawful
  verda : ∀ lb, ForOwner (atVerda T lb) keys a₀ (lbOwner ns name lb)
  guar : ∀ {w c}, NotVerda c → T.guar w c
  step : ∀ {w c x w'}, NotVerda c → T.step w c x w' → FleetGrows w w'

namespace ForCluster

variable {T : Setting FleetWorld ClusterCall ClusterCall.Res} {vc₀ : VerdaCluster} {ns name : String}

theorem keeps (hT : ForCluster T keys a₀ ns name) {P : FleetWorld → Prop} (hP : Lasting P) :
    T.Keeps P where
  stable w w' h hr _ := hP w w' h ((hT.verda .service).rely hr)
  step w c x w' h hs := by
    rcases verda_or_notVerda c with ⟨lb, c', rfl⟩ | hc
    · exact hP w w' h ((hT.verda lb).step (atVerda_step.2 hs)).2.1
    · exact hP w w' h (hT.step hc hs)

theorem tracksLBs (hT : ForCluster T keys a₀ ns name) (hapart : Apart keys)
    (hns : vc₀.metadata.ns = ns) (hname : vc₀.metadata.name = name) :
    TracksLBs T vc₀ (fun lb => HasInstance a₀ (lbOwner ns name lb))
      fun lb => HasScript a₀ (lbOwner ns name lb) where
  lawful := hT.lawful
  keeps lb :=
    { id := fun _ => hT.keeps fun w w' h hg hne => lasting_ownInstance w w' (h hne) hg
      script := fun _ => hT.keeps fun w w' h hg hne => lasting_ownScript w w' (h hne) hg
      noID := fun _ h => absurd rfl h
      noScript := fun _ h => absurd rfl h }
  aside := hT.guar
  acquireLB scripts cluster k {vc w} hsame hw := by
    obtain rfl : vc.metadata.ns = ns := hsame.ns.trans hns
    obtain rfl : vc.metadata.name = name := hsame.name.trans hname
    exact Prog.wp_mono (fun r w _ hr inst hinst => ownIDs_iff.1 (hr inst hinst))
      ((hT.verda .controlPlane).acquireLoadBalancer hapart scripts cluster k
        (ownIDs_iff.2 (hw .controlPlane)))
  acquireService scripts cluster k {vc w} hsame hw := by
    obtain rfl : vc.metadata.ns = ns := hsame.ns.trans hns
    obtain rfl : vc.metadata.name = name := hsame.name.trans hname
    exact Prog.wp_mono (fun r w _ hr inst hinst => ownIDs_iff.1 (hr inst hinst))
      ((hT.verda .service).acquireServiceLoadBalancer hapart scripts cluster k
        (ownIDs_iff.2 (hw .service)))
  deleteService now {vc w} hsame hw := by
    obtain rfl : vc.metadata.ns = ns := hsame.ns.trans hns
    obtain rfl : vc.metadata.name = name := hsame.name.trans hname
    exact (hT.verda .service).deleteServiceLoadBalancer hapart now (ownIDs_iff.2 (hw .service))
  deleteLB now {vc w} hsame hw := by
    obtain rfl : vc.metadata.ns = ns := hsame.ns.trans hns
    obtain rfl : vc.metadata.name = name := hsame.name.trans hname
    exact (hT.verda .controlPlane).deleteLoadBalancer hapart now (ownIDs_iff.2 (hw .controlPlane))

end ForCluster

/-! ## Runs -/

/-- What is stored under a key is an object of that name, and what it records is its own. -/
abbrev StoredOwns (a₀ : AccountID) : Key → Stored → FleetWorld → Prop :=
  StoredTracked (HasInstance a₀) (HasScript a₀)

theorem lasting_storedOwns {key : Key} {obj : Stored} : Lasting (StoredOwns a₀ key obj) := by
  intro w w' h hg
  refine StoredTracked.mono h (fun who id h hne => ?_) fun who sid h hne => ?_
  · exact lasting_ownInstance w w' (h hne) hg
  · exact lasting_ownScript w w' (h hne) hg

/-- Requests to the account are those an owner is entitled to. -/
def ownScripts (reserved : String → String → Bool) (keys : Set Key) (a₀ : AccountID) :
    Invariant (fleetSystem reserved) (reconciles keys a₀) where
  inv := Owns keys a₀
  loc := StoredOwns a₀
  touch _ := FleetTouched
  rely _ := FleetGrows
  guar _ _ w o := ∀ who c, o = .verda who (a₀, c) → who.key ∈ keys ∧ Entitled a₀ who w c
  done _ _ _ _ := True

section

variable {reserved : String → String → Bool} {key : Key} {obj : Stored} {w w' : FleetWorld}

theorem ownScripts_lawful : ((ownScripts reserved keys a₀).setting key obj).Lawful :=
  ⟨FleetGrows.refl, FleetGrows.trans⟩

/-- A request to Verda goes to the shared account. -/
theorem ownScripts_step {who : Owner} {a : AccountID} {c : Call} {x : Call.Res c}
    (h : ((ownScripts reserved keys a₀).setting key obj).step w (.verda who (a, c)) x w') :
    (∃ ch, answer who ch w.cloud (a₀, c) = some (x, w'.cloud)) ∧ FleetGrows w w' ∧
      w'.seen = listedIDs w.cloud (a₀, c) ++ w.seen := by
  rcases h with ⟨hcall, ch, hans⟩
  obtain rfl : a = a₀ := hcall who (a, c) rfl
  exact fleetAnswer_verda hans

/-- What the rules for one owner prove is what the invariant asks of its requests. -/
theorem ownScripts_guar {who : Owner} {a : AccountID} {c : Call} (hwho : who.key ∈ keys)
    (h : Entitled a₀ who w c) : ∀ who' c', FleetCall.verda who (a, c) = .verda who' (a₀, c') →
      who'.key ∈ keys ∧ Entitled a₀ who' w c' := by
  intro who' c' heq
  cases heq
  exact ⟨hwho, h⟩

theorem ownScripts_forMachine {ns name : String} (hkey : .machine ns name ∈ keys) (a : AccountID) :
    ForOwner (atAccount (machineView ((ownScripts reserved keys a₀).setting key obj) ns name) a) keys a₀
      (.machine ns name) where
  lawful := Setting.Lawful.atAccount (ownScripts_lawful.comap _ _)
  rely h := h
  inv h := h.1
  member := hkey
  guar h := ownScripts_guar hkey h
  step h := ownScripts_step (machineView_step h)

theorem lbOwner_key (ns name : String) (lb : LoadBalancer) : (lbOwner ns name lb).key = .cluster ns name := by
  cases lb <;> rfl

theorem ownScripts_forCluster {ns name : String} (hkey : .cluster ns name ∈ keys) (a : AccountID) :
    ForCluster (atClient (clusterView ((ownScripts reserved keys a₀).setting key obj) ns name) a) keys a₀
      ns name where
  lawful := Setting.Lawful.atClient (ownScripts_lawful.comap _ _)
  verda lb :=
    { lawful := Setting.Lawful.atVerda (Setting.Lawful.atClient (ownScripts_lawful.comap _ _))
      rely := fun h => h
      inv := fun h => h.1
      member := by
        rw [lbOwner_key]
        exact hkey
      guar := fun h => ownScripts_guar (by rw [lbOwner_key]; exact hkey) h
      step := fun h => ownScripts_step (clusterView_step h) }
  guar {w c} hc := by
    intro who c' heq
    cases c with
    | verda lb c => exact absurd rfl (hc lb c)
    | _ => cases heq
  step hc hs := by
    rcases clusterView_other hc hs with ⟨y, -, ch, hans⟩
    rw [fleetAnswer_other hans]
    exact .refl _

/-- A pass over either kind of object records scripts and instances of its own only. -/
theorem ownScripts_pass (hapart : Apart keys) (hkey : key ∈ keys) (inp : FleetInput)
    (hw : StoredOwns a₀ key obj w) :
    (startFleetPass key inp obj).wp ((ownScripts reserved keys a₀).setting key obj)
      (fun out w => True ∧ ∀ p, StoredOwns a₀ key (persistFleet p obj obj out) w) w := by
  refine Prog.wp_mono (fun out w _ h => ⟨trivial, h⟩)
    (StoredTracked.startFleetPass ownScripts_lawful ?_ ?_ inp hw)
  · rintro ns name vm rfl rfl rfl a
    exact (ownScripts_forMachine hkey a).tracksMachine hapart rfl
  · rintro ns name vc rfl hns hname a
    exact (ownScripts_forCluster hkey a).tracksLBs hapart hns hname

theorem ownScripts_valid (hapart : Apart keys)
    (hreserved : ∀ who : Owner, who.key ∈ keys → reserved who.tagKey who.tagValue = true) :
    (ownScripts reserved keys a₀).Valid where
  refl _ := FleetGrows.refl
  trans _ {_ _ _} h h' := h.trans h'
  drift {d w w'} hinv hd := by
    have hg := fleetDrift_grows hd
    exact ⟨hinv.drift hreserved hd, fun _ => ⟨fun _ => hg, fun obj h => lasting_storedOwns w w' h hg⟩⟩
  edit _ he := editFleet_touched he
  touched _ hloc h := StoredTracked.touched hloc h
  merge h _ := (FleetTouched.persist h _ _ _).imp fun _ hq => ⟨trivial, hq⟩
  call {key obj ch w o x w'} hinv hloc hcall hg hans := by
    have hboth : Owns keys a₀ w' ∧ FleetGrows w w' := by
      cases o with
      | verda who o =>
        rcases o with ⟨a, c⟩
        obtain rfl : a = a₀ := hcall who (a, c) rfl
        rcases hg who c rfl with ⟨hwho, hent⟩
        rcases fleetAnswer_verda hans with ⟨⟨ch', hans'⟩, hg, -⟩
        exact ⟨hinv.answer hapart hwho hent hans' hg, hg⟩
      | other c =>
        rw [fleetAnswer_other hans]
        exact ⟨hinv, .refl w⟩
    exact ⟨hboth.1, lasting_storedOwns w w' hloc hboth.2,
      fun key' _ => ⟨hboth.2, fun obj' h => lasting_storedOwns w w' h hboth.2⟩⟩
  pass {key inp obj w} _ hloc hkey := Invariant.wp_persist (ownScripts_pass hapart hkey inp hloc)

end

/-! ## No script of another owner is deleted -/

/-- The object as it is created: of the kind and name that its key says, with an empty status. -/
def Stored.Blank : Key → Stored → Prop
  | .machine ns name, .machine objs => objs.machine.metadata.ns = ns ∧
      objs.machine.metadata.name = name ∧ objs.machine.status = {}
  | .cluster ns name, .cluster vc => vc.metadata.ns = ns ∧ vc.metadata.name = name ∧ vc.status = {}
  | _, _ => False

/-- Nothing has happened yet: nothing is recorded or created for these objects, and no instance of the
account carries a tag of theirs. -/
structure FleetInitial (keys : Set Key) (a₀ : AccountID) (s : FleetState) : Prop where
  idle : ∀ key, s.run key = none
  blank : ∀ key, Stored.Blank key (s.obj key)
  made : s.world.cloud.made = []
  untagged : ∀ who : Owner, who.key ∈ keys → ∀ i ∈ (s.world.cloud.account a₀).instances.rows,
    tagOf i who.tagKey ≠ who.tagValue

theorem Stored.Blank.tracked {key : Key} {obj : Stored} (h : Stored.Blank key obj) {w : FleetWorld}
    {Own OwnScript : Owner → String → FleetWorld → Prop} (hid : ∀ who, Own who "" w)
    (hscript : ∀ who, OwnScript who "" w) : StoredTracked Own OwnScript key obj w := by
  cases key with
  | machine ns name =>
    cases obj with
    | cluster vc => exact h
    | machine objs =>
      refine ⟨h.1, h.2.1, ?_⟩
      rw [TrackedMachine, h.2.2]
      exact ⟨hid _, hscript _⟩
  | cluster ns name =>
    cases obj with
    | machine objs => exact h
    | cluster vc =>
      refine ⟨h.1, h.2.1, fun lb => ?_⟩
      have hlb : lbStatus vc lb = {} := by cases lb <;> simp [lbStatus, h.2.2]
      rw [hlb]
      exact ⟨hid _, hscript _⟩

theorem Stored.Blank.storedOwns {key : Key} {obj : Stored} (h : Stored.Blank key obj) (w : FleetWorld) :
    StoredOwns a₀ key obj w :=
  h.tracked (fun _ hne => absurd rfl hne) fun _ hne => absurd rfl hne

/-- At the beginning nothing was made and no tag of an owner is in use. -/
theorem FleetInitial.owns {s : FleetState} (h : FleetInitial keys a₀ s) : Owns keys a₀ s.world := by
  have hnone : ∀ e, e ∉ s.world.cloud.made := by simp [h.made]
  exact ⟨fun e he => absurd he (hnone e), fun e he => absurd he (hnone e), fun e he => absurd he (hnone e),
    fun who hwho i hi htag => absurd htag (h.untagged who hwho i hi),
    fun e he => absurd he (hnone e)⟩

/-- A request to delete a startup script, made for one owner, does not name a script that was added for
another. -/
theorem scripts_deleted_own {reserved : String → String → Bool} (hapart : Apart keys)
    (hreserved : ∀ who : Owner, who.key ∈ keys → reserved who.tagKey who.tagValue = true)
    {s₀ s : FleetState} (h₀ : FleetInitial keys a₀ s₀)
    (hreach : Reach (fleetSystem reserved) (reconciles keys a₀) s₀ s) {key : Key} {who : Owner}
    {m : Method} {id : String} {next : _ → FleetPass}
    (hrun : s.run key = some (.call (.verda who (a₀, ⟨m, .scriptsDelete id⟩)) next)) :
    ∀ e ∈ s.world.cloud.made, e.kind = .script → e.id = id → e.owner = who := by
  have hvalid : (ownScripts reserved keys a₀).Valid := ownScripts_valid hapart hreserved
  have hholds := Invariant.sound hvalid h₀.owns (fun key => (h₀.blank key).storedOwns _) h₀.idle hreach
  exact (hholds.guar hvalid hrun who _ rfl).2.deletes id rfl

/-! ## Runs of two machines -/

/-- Objects of every name, in an empty world. -/
def fleetState : FleetState where
  world := { cloud := { account := fun _ => {} } }
  obj
    | .machine ns name => .machine { sampleObjects with
        machine := { sampleMachine with
          metadata := { ns := ns, name := name, finalizers := [machineFinalizer] } } }
    | .cluster ns name => .cluster { clusterWith enabledLB enabledLB with
        metadata := { ns := ns, name := name, finalizers := [clusterFinalizer] } }
  run := fun _ => none

theorem fleetState_initial (keys : Set Key) (a₀ : AccountID) : FleetInitial keys a₀ fleetState where
  idle _ := rfl
  blank key := by cases key <;> exact ⟨rfl, rfl, rfl⟩
  made := rfl
  untagged := by
    intro who _ i hi
    cases hi

/-- Only these two objects are reconciled, with the credentials of the controller. -/
def startsTwo (k k' : Key) (s : FleetState) : FleetMove → Bool
  | .start key _ => decide (key = k ∨ key = k')
  | .answer key _ =>
    match s.run key with
    | some (.call (.verda _ b) _) => decide (b.1 = .global)
    | _ => true
  | _ => true

theorem startsTwo_meets (k k' : Key) (s : FleetState) (m : FleetMove) (h : startsTwo k k' s m = true) :
    (reconciles {k, k'} .global).Meets s m := by
  cases m with
  | start key inp => simpa [startsTwo, Conditions.Meets, reconciles] using h
  | answer key ch =>
    simp only [startsTwo] at h
    simp only [Conditions.Meets]
    split at h
    · rename_i who b next hrun
      rw [hrun]
      intro who' b' heq
      cases heq
      simpa using h
    · rename_i hrun
      split
      · rename_i o next hrun'
        intro who b heq
        subst heq
        exact absurd hrun' (hrun who b next)
      · trivial
  | finish key p =>
    simp only [Conditions.Meets]
    split <;> trivial
  | crash key => trivial
  | drift d => exact fun hq => by cases hq
  | edit key e => trivial

/-- The startup script that a pass is about to delete, and for whom. -/
def deletesNext (s : FleetState) (key : Key) : Option (Owner × AccountID × String) :=
  match s.run key with
  | some (.call (.verda who (a, ⟨_, .scriptsDelete id⟩)) _) => some (who, a, id)
  | _ => none

theorem deletesNext_eq {s : FleetState} {key : Key} {who : Owner} {a : AccountID} {id : String}
    (h : deletesNext s key = some (who, a, id)) :
    ∃ m next, s.run key = some (.call (.verda who (a, ⟨m, .scriptsDelete id⟩)) next) := by
  unfold deletesNext at h
  split at h
  · rename_i who' a' m id' next hrun
    cases h
    exact ⟨m, next, hrun⟩
  · cases h

/-- Verda carries out the next requests of a pass. -/
def fleetAccepts (key : Key) (n : Nat) : List FleetMove :=
  List.replicate n (.answer key (.verda (.accept .plain)))

/-- A pass over a machine up to the creation of its script. -/
def addsScript (ns name id : String) : List FleetMove :=
  [.start (.machine ns name) (.machine scriptInput)] ++ fleetAccepts (.machine ns name) 3 ++
    [.answer (.machine ns name)
      (.verda (.accept (.script { id := id, name := name, script := [35, 33] })))]

/-- Of the scripts of two machines the one that is deleted is that of the machine whose pass it is. -/
theorem scripts_deleted_own_sample : ∃ (s : FleetState) (m : Method) (next : _ → FleetPass),
    s.run (.machine "team-b" "m1") = some (.call (.verda (.machine "team-b" "m1")
      (.global, ⟨m, .scriptsDelete "s2"⟩)) next) ∧
    (∃ e ∈ s.world.cloud.made, e.kind = .script ∧ e.owner = .machine "team-a" "m0") ∧
    ∀ e ∈ s.world.cloud.made, e.kind = .script → e.id = "s2" → e.owner = .machine "team-b" "m1" := by
  -- Verda refuses the second instance, so its script is deleted again
  obtain ⟨s, hs, hgood⟩ := exists_reach_checked (fleetSystem fun _ value => value != "")
    (startsTwo_meets (.machine "team-a" "m0") (.machine "team-b" "m1")) fleetState
    (fun s => decide (deletesNext s (.machine "team-b" "m1") = some (.machine "team-b" "m1", .global, "s2") ∧
      ∃ e ∈ s.world.cloud.made, e.kind = .script ∧ e.owner = .machine "team-a" "m0"))
    (addsScript "team-a" "m0" "s1" ++ addsScript "team-b" "m1" "s2" ++
      [.answer (.machine "team-b" "m1") (.verda (.refuse (.api 500 "unavailable")))])
    (by decide +kernel)
  have hgood := of_decide_eq_true hgood
  rcases deletesNext_eq hgood.1 with ⟨m, next, hrun⟩
  have hapart : Apart {.machine "team-a" "m0", .machine "team-b" "m1"} := by
    have hmem : ∀ who : Owner, who.key ∈ ({.machine "team-a" "m0", .machine "team-b" "m1"} : Set Key) →
        who = .machine "team-a" "m0" ∨ who = .machine "team-b" "m1" := by
      intro who hwho
      cases who with
      | machine ns name => simpa [Owner.key] using hwho
      | loadBalancer ns name => simp [Owner.key] at hwho
      | serviceLoadBalancer ns name => simp [Owner.key] at hwho
    refine ⟨fun {who who'} hwho hwho' heq => ?_, fun {who who'} hwho hwho' _ heq => ?_⟩
    · rcases hmem who hwho with rfl | rfl <;> rcases hmem who' hwho' with rfl | rfl <;>
        first | rfl | exact absurd heq (by decide)
    · rcases hmem who hwho with rfl | rfl <;> rcases hmem who' hwho' with rfl | rfl <;>
        first | rfl | exact absurd heq (by decide)
  exact ⟨s, m, next, hrun, hgood.2, scripts_deleted_own hapart
    (fun who _ => by simpa using who.tagValue_ne_empty) (fleetState_initial _ _) hs hrun⟩

/-- The object is being deleted. -/
def Stored.deleted : Stored → Bool
  | .machine objs => objs.machine.metadata.deletionTimestamp.isSome
  | .cluster vc => vc.metadata.deletionTimestamp.isSome

/-- Machines of one name in two namespaces: the second one deletes the script that the first one has just
added. -/
theorem script_deleted_across : ∃ (s₀ s s' : FleetState) (m : Method) (next : _ → FleetPass),
    FleetInitial {.machine "team-a" "m0", .machine "team-b" "m0"} .global s₀ ∧
    Reach (fleetSystem fun _ value => value != "")
      (reconciles {.machine "team-a" "m0", .machine "team-b" "m0"} .global) s₀ s ∧
    s.run (.machine "team-b" "m0") = some (.call (.verda (.machine "team-b" "m0")
      (.global, ⟨m, .scriptsDelete "s1"⟩)) next) ∧
    (⟨.machine "team-a" "m0", .script, .global, "s1"⟩ : Made Owner) ∈ s.world.cloud.made ∧
    (s.obj (.machine "team-a" "m0")).deleted = false ∧
    "s1" ∈ (s.world.cloud.account .global).scripts.rows.map (·.id) ∧
    (fleetSystem fun _ value => value != "").step
      (.answer (.machine "team-b" "m0") (.verda (.accept .plain))) s = some s' ∧
    "s1" ∉ (s'.world.cloud.account .global).scripts.rows.map (·.id) := by
  obtain ⟨s, hs, hbad⟩ := exists_reach_checked (fleetSystem fun _ value => value != "")
    (startsTwo_meets (.machine "team-a" "m0") (.machine "team-b" "m0")) fleetState
    (fun s => decide (deletesNext s (.machine "team-b" "m0") = some (.machine "team-b" "m0", .global, "s1") ∧
      (⟨.machine "team-a" "m0", .script, .global, "s1"⟩ : Made Owner) ∈ s.world.cloud.made ∧
      (s.obj (.machine "team-a" "m0")).deleted = false ∧
      "s1" ∈ (s.world.cloud.account .global).scripts.rows.map (·.id)) &&
      ((fleetSystem fun _ value => value != "").step
        (.answer (.machine "team-b" "m0") (.verda (.accept .plain))) s).any fun s' =>
          decide ("s1" ∉ (s'.world.cloud.account .global).scripts.rows.map (·.id)))
    (addsScript "team-a" "m0" "s1" ++ [.start (.machine "team-b" "m0") (.machine scriptInput)] ++
      fleetAccepts (.machine "team-b" "m0") 3) (by decide +kernel)
  rw [Bool.and_eq_true, decide_eq_true_eq] at hbad
  rcases hbad with ⟨⟨hnext, hmade, hobj, hrow⟩, hstep⟩
  rcases deletesNext_eq hnext with ⟨m, next, hrun⟩
  rcases (Option.any_eq_true _ _).1 hstep with ⟨s', hs', hgone⟩
  exact ⟨fleetState, s, s', m, next, fleetState_initial _ _, hs, hrun, hmade, hobj, hrow, hs',
    of_decide_eq_true hgone⟩

end VerdaCapi.Controller
