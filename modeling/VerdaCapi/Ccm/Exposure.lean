import VerdaCapi.Ccm.LoadBalancer
import VerdaCapi.Remote.System
import VerdaCapi.Remote.Table

/-!
# What is exposed on the shared load balancer over time

The methods of `serviceLB` are called one after the other, as the service controller does it, while
Services, Nodes and the Secret change at any moment, also during a call. `lbSystem` has all such runs.
The configuration on the load balancer is the one pushed last.

`getLoadBalancer_truthful` says when `GetLoadBalancer` knows of everything that is exposed: it looks at
the status of the Service only, but a sync exposes what it lists, also Services that have none yet. What
is pushed was decided when the Services were listed; `hand` keeps it in the meantime, for the statements
only. `exposed_unknown` is a run in which a Service is on the load balancer and will be deleted without
being taken from it. `stale_after_call` says what a call leaves of earlier versions of its Service.
-/

namespace VerdaCapi.Ccm

open Remote Go Envoy Cloud Controller

/-! ## The system -/

/-- What a sync works with once it has listed the Services. -/
structure Hand where
  current : Option Service
  all : List Service

/-- The API server and the load balancer. -/
structure LBWorld where
  secret : Option Secret
  services : Table Service.key
  nodes : List BackendNode
  /-- What the configuration that was pushed last stands for. -/
  pushed : List Exposure
  /-- What the call under way works with. -/
  hand : Option Hand := none

/-- A call of the service controller. -/
inductive LBInput where
  | ensure (svc : Service)
  | update (svc : Service)
  | ensureDeleted (svc : Service)
deriving DecidableEq

/-- Changes from outside. A Service that is put is created, edited, or given or deprived of its status. -/
inductive LBChange where
  | putService (svc : Service)
  | deleteService (key : String)
  | setNodes (nodes : List BackendNode)
  | setSecret (secret : Option Secret)

/-- How a request is answered. An update may fail with and without an effect. -/
inductive LBChoice where
  | served
  | refused (msg : String)
  | lost (msg : String)

/-- The methods, without the status that the service controller writes, which is a change. -/
def LBInput.call (S : SortFunc) : LBInput → LBM (Except LBError Unit)
  | .ensure svc => ensureLoadBalancer S svc >>= fun r => .ret (r.map fun _ => ())
  | .update svc => updateLoadBalancer S svc
  | .ensureDeleted svc => ensureLoadBalancerDeleted S svc

/-- But for the status both methods do the same. -/
theorem ensure_eq_update {S : SortFunc} {svc : Service} :
    LBInput.call S (.ensure svc) = LBInput.call S (.update svc) := by
  simp only [LBInput.call, ensureLoadBalancer, updateLoadBalancer, Prog.bind_assoc]
  congr 1
  funext x
  cases x with
  | error e => rfl
  | ok lb =>
    simp only [Prog.bind_assoc]
    refine Eq.trans ?_ (Prog.bind_ret _)
    congr 1
    funext y
    cases y <;> rfl

namespace LBWorld

def readSecret (w : LBWorld) (name : String) : Except KubeErr Secret :=
  match w.secret with
  | some secret => .ok secret
  | none => .error ⟨.notFound, "secrets " ++ quote name ++ " not found"⟩

/-- The answers of a world in which nothing fails. -/
def view (w : LBWorld) : (o : LBCall) → o.Res
  | .getSecret _ name => w.readSecret name
  | .listServices _ _ => .ok w.services.rows
  | .listNodes => .ok w.nodes
  | .updateFiles _ _ _ _ _ => .ok ()

/-- The effect of a request. With the update of the files a call is over. -/
def react (w : LBWorld) : LBCall → LBWorld
  | .listServices current deleting =>
    { w with hand := some ⟨current, syncServices w.services.rows current deleting⟩ }
  | .updateFiles _ _ _ _ shown => { w with pushed := shown, hand := none }
  | _ => w

/-- A request that fails. -/
def refuse (msg : String) : (o : LBCall) → o.Res
  | .getSecret _ _ => .error ⟨.other, msg⟩
  | .listServices _ _ => .error ⟨.other, msg⟩
  | .listNodes => .error ⟨.other, msg⟩
  | .updateFiles _ _ _ _ _ => .error ⟨.other, msg⟩

/-- A call is also over when one of its requests fails. -/
def answer (w : LBWorld) (o : LBCall) : LBChoice → o.Res × LBWorld
  | .served => (w.view o, w.react o)
  | .refused msg => (refuse msg o, { w with hand := none })
  | .lost msg => (refuse msg o, { w.react o with hand := none })

def change (w : LBWorld) : LBChange → LBWorld
  | .putService svc => { w with services := w.services.put svc }
  | .deleteService key => { w with services := w.services.filter fun svc => decide (svc.key ≠ key) }
  | .setNodes nodes => { w with nodes }
  | .setSecret secret => { w with secret }

/-- The load balancer has a frontend of the Service. -/
def Exposes (w : LBWorld) (key : String) : Prop := ∃ e ∈ w.pushed, e.service = key

instance (w : LBWorld) (key : String) : Decidable (w.Exposes key) :=
  inferInstanceAs (Decidable (∃ e ∈ w.pushed, e.service = key))

@[simp]
theorem pushed_change (w : LBWorld) (c : LBChange) : (w.change c).pushed = w.pushed := by
  cases c <;> rfl

@[simp]
theorem hand_change (w : LBWorld) (c : LBChange) : (w.change c).hand = w.hand := by
  cases c <;> rfl

end LBWorld

/-- Calls one after the other, with those changes in between that are `allowed`. -/
def lbSystem (S : SortFunc) (allowed : LBChange → LBWorld → Bool) :
    System Unit LBWorld LBCall LBCall.Res Unit (Except LBError Unit) LBInput LBChoice Unit LBChange
      Empty where
  start _ input _ := input.call S
  answer _ c w o := some (w.answer o c)
  persist _ _ obj _ := obj
  drift c w := if allowed c w then some (w.change c) else none
  edit e _ := e.elim

/-- All changes. -/
def anyChange : LBChange → LBWorld → Bool := fun _ _ => true

abbrev LBState := State Unit LBWorld LBCall LBCall.Res Unit (Except LBError Unit)

section

variable {S : SortFunc} {allowed : LBChange → LBWorld → Bool}
  {C : Conditions Unit LBWorld LBCall Unit (Except LBError Unit) LBInput Unit Empty}
  {V : Invariant (lbSystem S allowed) C}

/-- A request is served by the world as it is then, or it fails. -/
theorem wp_request {α : Type} {o : LBCall} {next : o.Res → LBM α} {Q : α → LBWorld → Prop} {w : LBWorld}
    (hguar : ∀ w', V.rely () w w' → V.inv w' → V.guar () () w' o)
    (hserved : ∀ w', V.rely () w w' → (next (w'.view o)).wp (V.setting () ()) Q (w'.react o))
    (hfailed : ∀ w' msg, (next (LBWorld.refuse msg o)).wp (V.setting () ()) Q w') :
    (Prog.call o next).wp (V.setting () ()) Q w := by
  intro w' hrely hinv
  refine ⟨hguar w' hrely hinv.1, ?_⟩
  rintro x w'' ⟨-, c, hans⟩ -
  have hpair : w'.answer o c = (x, w'') := Option.some.inj hans
  cases c with
  | served =>
    cases hpair
    exact hserved w' hrely
  | refused msg =>
    cases hpair
    exact hfailed _ msg
  | lost msg =>
    cases hpair
    exact hfailed _ msg

/-- `config` reads the Secret, and does not report conflicts. -/
theorem wp_config {Q : Except LBError LBConfig → LBWorld → Prop} {w : LBWorld}
    (hguar : ∀ w' ns name, V.inv w' → V.guar () () w' (.getSecret ns name))
    (hok : ∀ w' lb, V.rely () w w' → (Prog.ret (.ok lb) : LBM _).wp (V.setting () ()) Q w')
    (herror : ∀ w' e, e.reason ≠ .conflict →
      (Prog.ret (.error e) : LBM (Except LBError LBConfig)).wp (V.setting () ()) Q w') :
    config.wp (V.setting () ()) Q w := by
  have hother : ∀ w' msg, (Prog.ret (.error ⟨.other, msg⟩) : LBM (Except LBError LBConfig)).wp
      (V.setting () ()) Q w' := fun w' msg => herror w' _ (by simp)
  refine wp_request (fun w' _ hinv => hguar w' _ _ hinv) (fun w' hrely => ?_) fun w' msg => hother w' _
  cases hsecret : w'.secret with
  | none =>
    simp only [LBWorld.view, LBWorld.readSecret, hsecret]
    exact herror w' _ (by simp)
  | some secret =>
    simp only [LBWorld.view, LBWorld.readSecret, hsecret]
    cases hlb : configOf secret with
    | none =>
      simp only [Prog.bind, hlb]
      exact hother w' _
    | some lb =>
      simp only [Prog.bind, hlb]
      exact hok w' lb hrely

end

/-! ## What `GetLoadBalancer` knows -/

/-- The keys of the Services that a sync works with differ. -/
theorem nodup_syncServices {services deleting : List Service} {current : Option Service}
    (hkeys : (services.map Service.key).Nodup) :
    ((syncServices services current deleting).map Service.key).Nodup := by
  unfold syncServices
  rw [List.map_append, List.nodup_append]
  refine ⟨hkeys.sublist (List.filter_sublist.map _), ?_, ?_⟩
  · cases current with
    | none => exact List.nodup_nil
    | some c => exact List.nodup_singleton _
  · intro k hlisted k' hcurrent heq
    obtain ⟨svc, hsvc, rfl⟩ := List.mem_map.1 hlisted
    obtain ⟨c, hc, rfl⟩ := List.mem_map.1 hcurrent
    have hother := (List.mem_filter.1 hsvc).2
    simp [Option.mem_toList.1 hc, key_inj heq] at hother

/-- The update, if there is one, will have a frontend of the Service: the current Service, if any, gets
its ports, and so does this one. -/
def Hand.Shows (S : SortFunc) (h : Hand) (key : String) : Prop :=
  (∀ c ∈ h.current, c ∈ exposed S h.all []) ∧ ∃ svc ∈ exposed S h.all [], svc.key = key ∧ svc.ports ≠ []

instance (S : SortFunc) (h : Hand) (key : String) : Decidable (h.Shows S key) :=
  inferInstanceAs (Decidable (_ ∧ _))

namespace LBWorld

/-- The call under way is going to expose the Service. -/
def InHand (w : LBWorld) (S : SortFunc) (key : String) : Prop := ∃ h ∈ w.hand, h.Shows S key

instance (w : LBWorld) (S : SortFunc) (key : String) : Decidable (w.InHand S key) :=
  inferInstanceAs (Decidable (∃ h ∈ w.hand, h.Shows S key))

/-- The Service has a status, if it is there. -/
def Known (w : LBWorld) (key : String) : Prop :=
  ∀ svc ∈ w.services.rows, svc.key = key → svc.ingress ≠ []

instance (w : LBWorld) (key : String) : Decidable (w.Known key) :=
  inferInstanceAs (Decidable (∀ svc ∈ w.services.rows, svc.key = key → svc.ingress ≠ []))

/-- The Secret is there and has all that is needed. -/
def Configured (w : LBWorld) : Prop := ∃ secret ∈ w.secret, configOf secret ≠ none

instance (w : LBWorld) : Decidable w.Configured :=
  inferInstanceAs (Decidable (∃ secret ∈ w.secret, configOf secret ≠ none))

end LBWorld

/-- A Service that is, or is going to be, on the load balancer is not put without its status. -/
def keepsStatus (S : SortFunc) (key : String) : LBChange → LBWorld → Bool
  | .putService svc, w =>
    decide (svc.key = key → svc.ingress = [] → ¬ w.Exposes key ∧ ¬ w.InHand S key)
  | _, _ => true

/-- When a sync lists the Services and is going to expose this one, the API has it with its status. -/
abbrev listsKnown (S : SortFunc) (key : String) :
    Conditions Unit LBWorld LBCall Unit (Except LBError Unit) LBInput Unit Empty where
  call _ _ w o :=
    match o with
    | .listServices current deleting =>
      (Hand.mk current (syncServices w.services.rows current deleting)).Shows S key → w.Known key
    | _ => True

instance (S : SortFunc) (key : String) (i : Unit) (obj : Unit) (w : LBWorld) :
    (o : LBCall) → Decidable ((listsKnown S key).call i obj w o)
  | .listServices current deleting => inferInstanceAs (Decidable
      ((Hand.mk current (syncServices w.services.rows current deleting)).Shows S key → w.Known key))
  | .getSecret _ _ | .listNodes | .updateFiles _ _ _ _ _ => .isTrue trivial

theorem getLoadBalancer_exists {w : LBWorld} {svc : Service} (hw : w.Configured)
    (hstatus : svc.ingress ≠ []) : ∃ st, (getLoadBalancer svc).eval w.view = .ok (some st) := by
  obtain ⟨secret, hsecret, hcomplete⟩ := hw
  obtain ⟨lb, hlb⟩ := Option.ne_none_iff_exists'.1 hcomplete
  have hread : (getSecret "kube-system" serviceLBSecretName).eval w.view = .ok secret := by
    show w.readSecret serviceLBSecretName = .ok secret
    rw [LBWorld.readSecret, hsecret]
  have hconfig : config.eval w.view = .ok lb := by
    rw [config, Prog.eval_bind, hread]
    simp only [hlb]
    rfl
  refine ⟨status lb.address, ?_⟩
  rw [getLoadBalancer, Prog.eval_bind, hconfig]
  simp only [List.length_eq_zero_iff, if_neg hstatus]
  rfl

/-- What a request puts on the load balancer. -/
def LBCall.shown : LBCall → List Exposure
  | .updateFiles _ _ _ _ shown => shown
  | _ => []

/-- What is on the load balancer, or is going to be, is known. A call pushes no more than it took up when
it listed the Services. -/
def truthful (S : SortFunc) (key : String) :
    Invariant (lbSystem S (keepsStatus S key)) (listsKnown S key) where
  inv w := (w.Exposes key → w.Known key) ∧ (w.InHand S key → w.Known key)
  loc _ _ _ := True
  rely _ w w' := w'.hand = w.hand
  guar _ _ w o := ∀ e ∈ o.shown, e.service = key → w.InHand S key
  done _ _ _ _ := True

section

variable {S : SortFunc} {key : String} {w : LBWorld}

theorem known_change {c : LBChange} (hc : keepsStatus S key c w = true)
    (hshown : w.Exposes key ∨ w.InHand S key) (hknown : w.Known key) : (w.change c).Known key := by
  cases c with
  | putService svc =>
    intro other hother hkey
    rcases Table.mem_put.1 hother with rfl | ⟨hold, -⟩
    · intro hempty
      obtain ⟨hexposes, hhand⟩ := of_decide_eq_true hc hkey hempty
      exact hshown.elim hexposes hhand
    · exact hknown other hold hkey
  | deleteService k => exact fun svc hsvc => hknown svc (Table.mem_filter.1 hsvc).1
  | setNodes nodes => exact hknown
  | setSecret secret => exact hknown

theorem truthful_change {c : LBChange} (hc : keepsStatus S key c w = true)
    (hinv : (truthful S key).inv w) : (truthful S key).inv (w.change c) := by
  have hexposes : (w.change c).Exposes key → w.Exposes key := by
    rintro ⟨e, he, hkey⟩
    exact ⟨e, w.pushed_change c ▸ he, hkey⟩
  have hhand : (w.change c).InHand S key → w.InHand S key := by
    rintro ⟨h, hh, hshows⟩
    exact ⟨h, w.hand_change c ▸ hh, hshows⟩
  constructor
  · exact fun h => known_change hc (.inl (hexposes h)) (hinv.1 (hexposes h))
  · exact fun h => known_change hc (.inr (hhand h)) (hinv.2 (hhand h))

/-- A call that is over is not going to expose anything. -/
theorem truthful_over (hinv : (truthful S key).inv w) :
    (truthful S key).inv { w with hand := none } := by
  refine ⟨hinv.1, ?_⟩
  rintro ⟨h, hh, -⟩
  cases hh

theorem truthful_react {o : LBCall} (hcond : (listsKnown S key).call () () w o)
    (hguar : (truthful S key).guar () () w o) (hinv : (truthful S key).inv w) :
    (truthful S key).inv (w.react o) := by
  cases o with
  | getSecret ns name => exact hinv
  | listServices current deleting =>
    refine ⟨hinv.1, ?_⟩
    rintro ⟨h, hh, hshows⟩
    cases hh
    exact hcond hshows
  | listNodes => exact hinv
  | updateFiles addr keys files reload shown =>
    constructor
    · rintro ⟨e, he, hkey⟩
      exact hinv.2 (hguar e he hkey)
    · rintro ⟨h, hh, -⟩
      cases hh

/-- The end of a sync pushes what the sync has in hand. -/
theorem truthful_publish {lb : LBConfig} {current : Option Service} {all : List Service}
    {nodes : List String} {Q : Except LBError Unit → LBWorld → Prop} (hQ : ∀ r w, Q r w)
    (hkeys : (all.map Service.key).Nodup) (hcurrent : ∀ c ∈ current, c ∈ all)
    (hhand : w.hand = some ⟨current, all⟩) :
    (publish S lb current all nodes).wp ((truthful S key).setting () ()) Q w := by
  unfold publish
  cases hlookup : current.bind fun c => (frontends S all nodes).2.lookup c.key with
  | some reason =>
    simp only [hlookup]
    exact fun w' _ _ => hQ _ w'
  | none =>
    simp only [hlookup]
    refine wp_request ?_ (fun _ _ _ _ _ => hQ _ _) fun _ _ _ _ _ => hQ _ _
    intro w' hrely _ e he hkey
    obtain ⟨svc, hsvc, hport⟩ := List.mem_flatMap.1 he
    obtain ⟨p, hp, rfl⟩ := List.mem_map.1 hport
    refine ⟨_, hrely.trans hhand, fun c hc => ?_, svc, ?_, hkey, List.ne_nil_of_mem hp⟩
    · obtain rfl : current = some c := hc
      rw [exposed_nodes hkeys nodes]
      exact mem_exposed_iff.2 ⟨hcurrent c rfl, hlookup⟩
    · rw [exposed_nodes hkeys nodes]
      exact hsvc

theorem truthful_sync {lb : LBConfig} {current : Option Service} {deleting : List Service}
    {Q : Except LBError Unit → LBWorld → Prop} (hQ : ∀ r w, Q r w) :
    (sync S lb current deleting).wp ((truthful S key).setting () ()) Q w := by
  refine wp_request ?_ (fun w₁ _ => ?_) fun _ _ _ _ _ => hQ _ _
  · exact fun _ _ _ e he => absurd he List.not_mem_nil
  refine wp_request ?_ (fun w₂ hrely => ?_) fun _ _ _ _ _ => hQ _ _
  · exact fun _ _ _ e he => absurd he List.not_mem_nil
  refine truthful_publish hQ (nodup_syncServices w₁.services.nodup) (fun c hc => ?_) hrely
  exact List.mem_append_right _ (Option.mem_toList.2 hc)

/-- The three methods read the Secret and sync, or do nothing. -/
theorem truthful_call {input : LBInput} {Q : Except LBError Unit → LBWorld → Prop} (hQ : ∀ r w, Q r w) :
    (input.call S).wp ((truthful S key).setting () ()) Q w := by
  have hlawful : ((truthful S key).setting () ()).Lawful :=
    ⟨fun _ => rfl, fun h h' => h'.trans h⟩
  have hupdate : ∀ svc, (updateLoadBalancer S svc).wp ((truthful S key).setting () ()) Q w := by
    intro svc
    refine Prog.wp_bind hlawful (wp_config ?_ (fun _ lb _ _ _ _ => truthful_sync hQ) ?_)
    · exact fun _ _ _ _ e he => absurd he List.not_mem_nil
    · exact fun _ _ _ _ _ _ _ _ _ => hQ _ _
  cases input with
  | ensure svc =>
    rw [ensure_eq_update]
    exact hupdate svc
  | update svc => exact hupdate svc
  | ensureDeleted svc =>
    refine Prog.wp_bind hlawful (wp_config ?_ (fun _ lb _ _ _ _ => truthful_sync hQ) ?_)
    · exact fun _ _ _ _ e he => absurd he List.not_mem_nil
    · intro w' e _ w'' _ _
      dsimp only
      split
      · exact fun _ _ _ => hQ _ _
      · exact fun _ _ _ => hQ _ _

end

theorem truthful_valid (S : SortFunc) (key : String) : (truthful S key).Valid where
  refl _ _ := rfl
  trans _ _ _ _ h h' := h'.trans h
  drift := by
    intro c w w' hinv h
    have hstep : (if keepsStatus S key c w = true then some (w.change c) else none) = some w' := h
    split at hstep
    · rename_i hc
      cases hstep
      exact ⟨truthful_change hc hinv, fun _ => ⟨fun _ => w.hand_change c, fun _ _ => trivial⟩⟩
    · cases hstep
  edit {_ e _ _} _ _ := e.elim
  touched _ _ _ := trivial
  merge _ hp := ⟨_, hp, rfl⟩
  call := by
    intro i obj c w o x w' hinv _ hcond hguar h
    have hw : w' = (w.answer o c).2 := (congrArg Prod.snd (Option.some.inj h)).symm
    refine ⟨?_, trivial, fun j hj => absurd (Subsingleton.elim j i) hj⟩
    rw [hw]
    cases c with
    | served => exact truthful_react hcond hguar hinv
    | refused msg => exact truthful_over hinv
    | lost msg => exact truthful_over (truthful_react hcond hguar hinv)
  pass := by
    intro i input obj w _ _ _
    have hQ : ∀ (r : Except LBError Unit) (w : LBWorld), (truthful S key).done i obj r w ∧
        ∀ p, (listsKnown S key).finish i p obj r → (truthful S key).loc i obj w :=
      fun _ _ => ⟨trivial, fun _ _ => trivial⟩
    exact truthful_call hQ

/-- **`GetLoadBalancer` tells the truth** about a Service that a sync takes up only while it has a status,
and that does not lose it while it is exposed. -/
theorem getLoadBalancer_truthful (S : SortFunc) (key : String) {s₀ s : LBState}
    (hidle : s₀.run () = none) (hnone : s₀.world.pushed = []) (hhand : s₀.world.hand = none)
    (h : Reach (lbSystem S (keepsStatus S key)) (listsKnown S key) s₀ s) :
    ∀ svc ∈ s.world.services.rows, svc.key = key → s.world.Configured → s.world.Exposes key →
      ∃ st, (getLoadBalancer svc).eval s.world.view = .ok (some st) := by
  have hstart : (truthful S key).inv s₀.world := by
    constructor
    · rintro ⟨e, he, -⟩
      rw [hnone] at he
      cases he
    · rintro ⟨h, hh, -⟩
      rw [hhand] at hh
      cases hh
  have hholds := Invariant.sound (truthful_valid S key) hstart (fun _ => trivial) (fun _ => hidle) h
  intro svc hsvc hkey hsecret hexp
  exact getLoadBalancer_exists hsecret (hholds.inv.1 hexp svc hsvc hkey)

/-- The Service with the address of the load balancer in its status. -/
def Service.withStatus (svc : Service) : Service := { svc with ingress := status [49] }

def lbStart (services : Table Service.key) : LBState where
  world := { secret := some lbSecret, services, nodes := [], pushed := [] }
  obj _ := ()
  run _ := none

/-- A call in which every request is served. -/
def callServed (input : LBInput) : List (Move Unit LBInput LBChoice Unit LBChange Empty) :=
  .start () input :: List.replicate 4 (.answer () .served)

/-- The call for another Service takes up one that has its status. -/
theorem getLoadBalancer_truthful_sample : ∃ s : LBState, s.world.Configured ∧
    s.world.Exposes apiService.key ∧
    ∀ svc ∈ s.world.services.rows, svc.key = apiService.key → s.world.Configured →
      s.world.Exposes apiService.key →
      ∃ st, (getLoadBalancer svc).eval s.world.view = .ok (some st) := by
  obtain ⟨s, hreach, hgood⟩ := exists_reach_meeting
    (lbSystem insertion (keepsStatus insertion apiService.key)) (listsKnown insertion apiService.key)
    (lbStart ⟨[apiService.withStatus, dnsService], by decide⟩)
    (fun s => decide (s.world.Configured ∧ s.world.Exposes apiService.key))
    (callServed (.ensure dnsService)) (by decide)
  have hgood := of_decide_eq_true hgood
  exact ⟨s, hgood.1, hgood.2, getLoadBalancer_truthful insertion apiService.key rfl rfl rfl hreach⟩

/-- The call for one Service also exposes another one, which has no status yet. `GetLoadBalancer` does not
know of it; when it is deleted, it stays on the load balancer. -/
theorem exposed_unknown : ∃ s₀ s s' : LBState,
    s₀.run () = none ∧ s₀.world.pushed = [] ∧ s₀.world.hand = none ∧
    Reach (lbSystem insertion anyChange) {} s₀ s ∧
    s.run () = none ∧ s.world.Configured ∧ dnsService ∈ s.world.services.rows ∧
    s.world.Exposes dnsService.key ∧ (getLoadBalancer dnsService).eval s.world.view = .ok none ∧
    Reach (lbSystem insertion anyChange) {} s s' ∧
    dnsService.key ∉ s'.world.services.rows.map Service.key ∧ s'.world.Exposes dnsService.key := by
  obtain ⟨s, s', hs, hmid, hs', hend⟩ := exists_reach_then (lbSystem insertion anyChange) {}
    (lbStart ⟨[apiService, dnsService], by decide⟩)
    (fun s => (s.run ()).isNone && decide (s.world.Configured ∧
      dnsService ∈ s.world.services.rows ∧ s.world.Exposes dnsService.key ∧
      (getLoadBalancer dnsService).eval s.world.view = .ok none))
    (fun s => decide (dnsService.key ∉ s.world.services.rows.map Service.key ∧
      s.world.Exposes dnsService.key))
    (callServed (.ensure apiService) ++ [.finish () (), .drift (.putService apiService.withStatus)])
    [.drift (.deleteService dnsService.key)] (by decide)
  simp only [Bool.and_eq_true, decide_eq_true_eq, Option.isNone_iff_eq_none] at hmid hend
  exact ⟨_, s, s', rfl, rfl, rfl, hs, hmid.1, hmid.2.1, hmid.2.2.1, hmid.2.2.2.1, hmid.2.2.2.2, hs',
    hend⟩

/-! ## What a call leaves of earlier versions of its Service -/

/-- The port, the protocol and the node port. -/
def ServicePort.listener (p : ServicePort) : Int × String × Int := (p.port, p.proto, p.nodePort)

/-- Whatever the load balancer has of the Service is one of its ports. -/
def LBWorld.NoneStale (w : LBWorld) (svc : Service) : Prop :=
  ∀ e ∈ w.pushed, e.service = svc.key → e.port.listener ∈ svc.ports.map ServicePort.listener

instance (w : LBWorld) (svc : Service) : Decidable (w.NoneStale svc) :=
  inferInstanceAs (Decidable (∀ e ∈ w.pushed, e.service = svc.key →
    e.port.listener ∈ svc.ports.map ServicePort.listener))

/-- Of the current Service a sync exposes the version it was handed over. -/
theorem eq_of_key_syncServices {services deleting : List Service} {svc t : Service}
    (ht : t ∈ syncServices services (some svc) deleting) (hkey : t.key = svc.key) : t = svc := by
  rcases List.mem_append.1 ht with hlisted | hcurrent
  · have hother := (List.mem_filter.1 hlisted).2
    simp [key_inj hkey] at hother
  · simpa using hcurrent

theorem port_of_exposures {S : SortFunc} {services deleting : List Service} {svc : Service}
    {nodes : List String} {e : Exposure}
    (he : e ∈ exposures S (syncServices services (some svc) deleting) nodes)
    (hkey : e.service = svc.key) : e.port ∈ svc.ports := by
  rcases List.mem_flatMap.1 he with ⟨t, ht, hport⟩
  rcases List.mem_map.1 hport with ⟨p, hp, rfl⟩
  have heq : t = svc := eq_of_key_syncServices (mem_exposed_iff.1 ht).1 hkey
  exact heq ▸ hp

/-- The Service does not get its ports next to the others that are there. -/
def LBWorld.InConflict (w : LBWorld) (S : SortFunc) (svc : Service) : Prop :=
  (frontends S (syncServices w.services.rows (some svc) [])
    (S.sort compare (w.nodes.filterMap backendAddress))).2.lookup svc.key ≠ none

instance (w : LBWorld) (S : SortFunc) (svc : Service) : Decidable (w.InConflict S svc) :=
  inferInstanceAs (Decidable (_ ≠ none))

/-- While a call is under way nothing changes and no other call begins. -/
abbrev undisturbed : Conditions Unit LBWorld LBCall Unit (Except LBError Unit) LBInput Unit Empty where
  start _ _ _ _ := False
  quiet := True

/-- A call for the Service, which began in the world `w₁`. -/
def oneCall (S : SortFunc) (svc : Service) (w₁ : LBWorld) :
    Invariant (lbSystem S anyChange) undisturbed where
  inv _ := True
  loc _ _ _ := True
  rely _ w w' := w' = w
  guar _ _ _ _ := True
  done _ _ r w := (r = .ok () → w.NoneStale svc ∧ ¬ w₁.InConflict S svc) ∧
    ∀ e, r = .error e → e.reason = .conflict → w.pushed = w₁.pushed ∧ w₁.InConflict S svc

section

variable {S : SortFunc} {svc : Service} {w w₁ : LBWorld}

theorem oneCall_valid : (oneCall S svc w₁).Valid := by
  refine
    { refl := fun _ _ => rfl
      trans := fun _ {_ _ _} h h' => h'.trans h
      drift := fun _ _ => ⟨trivial, fun _ => ⟨fun h => absurd trivial h, fun _ _ => trivial⟩⟩
      edit := fun {_ e _ _} _ _ => e.elim
      touched := fun _ _ _ => trivial
      merge := fun _ hp => ⟨_, hp, rfl⟩
      call := ?_
      pass := fun _ _ h => h.elim }
  intro i obj c w o x w' _ _ _ _ _
  exact ⟨trivial, trivial, fun j hj => absurd (Subsingleton.elim j i) hj⟩

/-- A call that fails for another reason than a conflict. -/
theorem wp_fail {msg : String} {reason : LBReason} (hreason : reason ≠ .conflict) :
    (pure (.error ⟨reason, msg⟩) : LBM (Except LBError Unit)).wp ((oneCall S svc w₁).setting () ())
      ((oneCall S svc w₁).done () ()) w := by
  intro w' _ _
  constructor
  · intro h
    cases h
  · intro e h
    cases h
    exact fun h => absurd h hreason

/-- The update takes effect and leaves nothing stale, or it fails. -/
theorem wp_push {addr : Bytes} {keys : Keys} {files : List File} {services : List Service}
    {nodes : List String} {next : Except Err Unit → LBM (Except LBError Unit)}
    (hfree : ¬ w₁.InConflict S svc) (hok : next (.ok ()) = pure (.ok ()))
    (herror : ∀ e, next (.error e) = pure (.error ⟨.other, e.msg⟩)) :
    (updateFiles addr keys files "" (exposures S (syncServices services (some svc) []) nodes)
      >>= next).wp ((oneCall S svc w₁).setting () ()) ((oneCall S svc w₁).done () ()) w := by
  refine wp_request (fun _ _ _ => trivial) (fun w₂ _ => ?_) fun w₂ msg => ?_
  · show (next (.ok ())).wp _ _ _
    rw [hok]
    intro w₃ hrely _
    obtain rfl : w₃ = _ := hrely
    constructor
    · intro _
      refine ⟨fun e he hkey => ?_, hfree⟩
      exact List.mem_map_of_mem (port_of_exposures he hkey)
    · intro e h
      cases h
  · show (next (.error ⟨.other, msg⟩)).wp _ _ _
    rw [herror]
    exact wp_fail (by decide)

/-- The Services and Nodes are those of the world in which the call began. -/
theorem wp_publish {lb : LBConfig} (hpushed : w.pushed = w₁.pushed) :
    (publish S lb (some svc) (syncServices w₁.services.rows (some svc) [])
      (S.sort compare (w₁.nodes.filterMap backendAddress))).wp ((oneCall S svc w₁).setting () ())
      ((oneCall S svc w₁).done () ()) w := by
  unfold publish
  cases hlookup : (frontends S (syncServices w₁.services.rows (some svc) [])
      (S.sort compare (w₁.nodes.filterMap backendAddress))).2.lookup svc.key with
  | some reason =>
    simp only [Option.bind_some, hlookup]
    intro w' hrely _
    obtain rfl : w' = w := hrely
    constructor
    · intro h
      cases h
    · intro e _ _
      refine ⟨hpushed, ?_⟩
      rw [LBWorld.InConflict, hlookup]
      exact Option.some_ne_none reason
  | none =>
    simp only [Option.bind_some, hlookup]
    exact wp_push (fun hconflict => hconflict hlookup) rfl fun e => rfl

theorem wp_sync {lb : LBConfig} : (sync S lb (some svc) []).wp ((oneCall S svc w₁).setting () ())
    ((oneCall S svc w₁).done () ()) w₁ := by
  refine wp_request (fun _ _ _ => trivial) (fun w hrely => ?_) fun w msg => wp_fail (by decide)
  obtain rfl : w = w₁ := hrely
  refine wp_request (fun _ _ _ => trivial) (fun w' hrely => ?_) fun w msg => wp_fail (by decide)
  obtain rfl : w' = _ := hrely
  exact wp_publish rfl

theorem wp_call {input : LBInput} (hinput : input = .ensure svc ∨ input = .update svc) :
    (input.call S).wp ((oneCall S svc w₁).setting () ()) ((oneCall S svc w₁).done () ()) w₁ := by
  have hcall : input.call S = updateLoadBalancer S svc := by
    rcases hinput with rfl | rfl
    · exact ensure_eq_update
    · rfl
  rw [hcall]
  refine Prog.wp_bind (oneCall_valid.lawful () ()) (wp_config (fun _ _ _ _ => trivial) ?_ ?_)
  · intro w lb hrely w' hrely' _
    obtain rfl : w' = w₁ := Eq.trans hrely' hrely
    exact wp_sync
  · exact fun w e hreason w' _ _ => wp_fail hreason

/-- **What a call leaves** of earlier versions of its Service. If the Service gets its ports, nothing;
else it leaves all that was there. -/
theorem stale_after_call {s₁ s₂ s₃ : LBState} {input : LBInput} {r : Except LBError Unit}
    (hinput : input = .ensure svc ∨ input = .update svc)
    (hstart : (lbSystem S anyChange).step (.start () input) s₁ = some s₂)
    (hreach : Reach (lbSystem S anyChange) undisturbed s₂ s₃) (hret : s₃.run () = some (.ret r))
    (hr : r = .ok () ∨ ∃ e, r = .error e ∧ e.reason = .conflict) :
    s₃.world.NoneStale svc ↔ ¬ s₁.world.InConflict S svc ∨ s₁.world.NoneStale svc := by
  have hholds : (oneCall S svc s₁.world).Holds s₂ := by
    cases hrun : s₁.run () with
    | some p => simp [System.step, hrun] at hstart
    | none =>
      simp only [System.step, hrun, Option.some.injEq] at hstart
      refine ⟨trivial, fun _ => trivial, fun i p hp => ?_⟩
      subst hstart
      obtain rfl : (lbSystem S anyChange).start () input (s₁.obj ()) = p := by simpa using hp
      exact ⟨trivial, .refl, Prog.wp_mono (fun _ _ _ h => ⟨h, fun _ _ => trivial⟩) (wp_call hinput)⟩
  have hdone := (hholds.reach oneCall_valid hreach).done oneCall_valid hret
  rcases hr with rfl | ⟨e, rfl, hreason⟩
  · obtain ⟨hnone, hfree⟩ := hdone.1 rfl
    simp [hnone, hfree]
  · obtain ⟨hsame, hconflict⟩ := hdone.2 e rfl hreason
    simp [LBWorld.NoneStale, hsame, hconflict]

end

/-- The result of a call that has returned. -/
def returned (s : LBState) : Option (Except LBError Unit) :=
  match s.run () with
  | some (.ret r) => some r
  | _ => none

theorem run_of_returned {s : LBState} {r : Except LBError Unit} (h : returned s = some r) :
    s.run () = some (.ret r) := by
  unfold returned at h
  split at h
  · rename_i hrun
    cases h
    exact hrun
  · cases h

/-- The Service before it was edited. -/
def webBefore : Service := { webService with ports := [⟨8080, "TCP", 30080⟩] }

/-- The Service is exposed, and then edited. -/
def editMoves (svc : Service) : List (Move Unit LBInput LBChoice Unit LBChange Empty) :=
  callServed (.ensure webBefore) ++ [.finish () (), .drift (.putService svc)]

/-- The Service after an edit to a port that nobody has. -/
def webMoved : Service := { webService with ports := [⟨8081, "TCP", 30080⟩] }

/-- The load balancer still has the old port. -/
def webEdited : LBState where
  world :=
    { secret := some lbSecret
      services := Table.put ⟨[apiService, webBefore], by decide⟩ webMoved
      nodes := []
      pushed := exposures insertion [apiService, webBefore] [] }
  obj _ := ()
  run _ := none

/-- The next call takes the listener of the old port away. -/
theorem stale_after_call_sample : ∃ s₃ : LBState,
    (lbSystem insertion anyChange).run (fun _ _ => true) (editMoves webMoved)
      (lbStart ⟨[apiService, webBefore], by decide⟩) = some webEdited ∧
    ¬ webEdited.world.NoneStale webMoved ∧ returned s₃ = some (.ok ()) ∧
    s₃.world.Exposes webMoved.key ∧ s₃.world.NoneStale webMoved := by
  have hstart : (lbSystem insertion anyChange).step (.start () (.ensure webMoved)) webEdited =
      some _ := rfl
  obtain ⟨s₃, hreach, hgood⟩ := exists_reach_meeting (lbSystem insertion anyChange) undisturbed
    { webEdited with
      run := Function.update webEdited.run () (some (LBInput.call insertion (.ensure webMoved))) }
    (fun s => decide (returned s = some (.ok ()) ∧ s.world.Exposes webMoved.key))
    (List.replicate 4 (.answer () .served)) (by decide)
  have hgood := of_decide_eq_true hgood
  exact ⟨s₃, rfl, by decide, hgood.1, hgood.2,
    (stale_after_call (.inl rfl) hstart hreach (run_of_returned hgood.1) (.inl rfl)).2 (.inl (by decide))⟩

/-- The next call reports the conflict, and the listener of the old port stays. -/
theorem conflict_leaves_stale : ∃ (s₁ s₂ s₃ : LBState) (e : LBError),
    (lbSystem insertion anyChange).run (fun _ _ => true) (editMoves webService)
      (lbStart ⟨[apiService, webBefore], by decide⟩) = some s₁ ∧
    webService ∈ s₁.world.services.rows ∧
    (lbSystem insertion anyChange).step (.start () (.ensure webService)) s₁ = some s₂ ∧
    (lbSystem insertion anyChange).run (fun _ _ => true)
      (List.replicate 3 (.answer () .served)) s₂ = some s₃ ∧
    s₃.run () = some (.ret (.error e)) ∧ e.reason = .conflict ∧ ¬ s₃.world.NoneStale webService :=
  ⟨_, _, _, _, rfl, by decide, rfl, rfl, rfl, rfl, by decide⟩

end VerdaCapi.Ccm
