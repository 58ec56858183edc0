import VerdaCapi.Controller.MachineRules
import VerdaCapi.Remote.Solo

/-!
# What a hostname names

Instances are created for VerdaMachines and for the two load balancers of a VerdaCluster, under
hostnames that are made from the name of the object and not from its namespace. `CreateInstance` only
refuses a hostname that an instance without the managed-by tag has.

`hostname_names_one_iff`: over all sequences of calls for a set of owners no two live instances of an
account have one hostname, and so one provider ID, exactly if no two of the owners have one hostname and
each owner asks for an instance only while it has none. `hostname_names_two` is a run of two machines
with one name.
-/

namespace VerdaCapi.Controller

open Remote Go Api Cloud

/-! ## Owners -/

/-- Whom an instance is created for. -/
inductive Owner where
  | machine (ns name : String)
  | loadBalancer (ns name : String)
  | serviceLoadBalancer (ns name : String)
deriving DecidableEq

/-- The hostname of the owner's instances. -/
def Owner.hostname : Owner → String
  | .machine _ name => name
  | .loadBalancer _ name => name ++ "-lb"
  | .serviceLoadBalancer _ name => name ++ "-service-lb"

/-- A call of one of the three functions that create instances. -/
inductive CreateCall where
  | machine (boot : BootstrapInput) (cluster : Cluster) (vc : VerdaCluster) (m : Machine)
      (vm : VerdaMachine) (bootFrom : String)
  | loadBalancer (scripts : LBScripts) (cluster : Cluster) (vc : VerdaCluster) (keys : Keys)
  | serviceLoadBalancer (scripts : LBScripts) (cluster : Cluster) (vc : VerdaCluster) (keys : Keys)

namespace CreateCall

/-- Whom the call creates an instance for. -/
def owner : CreateCall → Owner
  | .machine _ _ _ _ vm _ => .machine vm.metadata.ns vm.metadata.name
  | .loadBalancer _ _ vc _ => .loadBalancer vc.metadata.ns vc.metadata.name
  | .serviceLoadBalancer _ _ vc _ => .serviceLoadBalancer vc.metadata.ns vc.metadata.name

/-- The call as a program. -/
def run : CreateCall → ClientM (Except Err Instance)
  | .machine boot cluster vc m vm bootFrom =>
    createMachineInstance boot cluster vc m vm bootFrom
  | .loadBalancer scripts cluster vc keys => createLoadBalancer scripts cluster vc keys
  | .serviceLoadBalancer scripts cluster vc keys =>
    createInstance (serviceLoadBalancerSpec scripts cluster vc keys)

/-- A call fails early, or calls `CreateInstance` with the hostname of its owner. -/
theorem run_eq (c : CreateCall) : (∃ e, c.run = .ret (.error e)) ∨
    ∃ spec : InstanceSpec, spec.hostname = c.owner.hostname ∧ c.run = createInstance spec := by
  cases c with
  | machine boot cluster vc m vm bootFrom =>
    simp only [run, createMachineInstance]
    split
    · exact .inl ⟨_, rfl⟩
    · split
      · exact .inl ⟨_, rfl⟩
      · exact .inr ⟨_, rfl, rfl⟩
  | loadBalancer scripts cluster vc keys => exact .inr ⟨_, rfl, rfl⟩
  | serviceLoadBalancer scripts cluster vc keys => exact .inr ⟨_, rfl, rfl⟩

end CreateCall

/-! ## Calls one after the other -/

/-- A request, with the owner it is made for. -/
abbrev OwnedCall := Owner × AccountCall

/-- Its answer. -/
abbrev OwnedCall.Res (o : OwnedCall) : Type := AccountCall.Res o.2

/-- A program of the client, run against an account for an owner. -/
def forOwner {α : Type} (who : Owner) (a : AccountID) (p : ClientM α) : Prog OwnedCall OwnedCall.Res α :=
  (onAccount a p).mapOp (fun o => (who, o)) fun _ x => x

/-- Calls of the three functions, one after the other, and accounts that do what they like in
between. -/
def createSystem : System Unit (World Owner) OwnedCall OwnedCall.Res Unit (Except Err Instance)
    (AccountID × CreateCall) Choice Unit (AccountID × Account) Empty where
  start _ c _ := forOwner c.2.owner c.1 c.2.run
  answer _ c w o := answer o.1 c w o.2
  persist _ _ _ _ := ()
  drift := drift fun _ => false
  edit e _ := e.elim

/-- A state of a sequence of such calls. -/
abbrev CreateState := State Unit (World Owner) OwnedCall OwnedCall.Res Unit (Except Err Instance)

/-- A live instance of the account that was created for the owner. -/
structure Lives (w : World Owner) (a : AccountID) (who : Owner) (i : Sdk.Instance) : Prop where
  row : i ∈ (w.account a).instances.rows
  live : isGone i = false
  made : ⟨who, .instance_, a, i.id⟩ ∈ w.made

/-- No live instance of the account was created for the owner. -/
def NoneLives (w : World Owner) (a : AccountID) (who : Owner) : Prop :=
  ∀ i ∈ (w.account a).instances.rows, isGone i = false → ⟨who, .instance_, a, i.id⟩ ∉ w.made

instance (w : World Owner) (a : AccountID) (who : Owner) : Decidable (NoneLives w a who) :=
  inferInstanceAs (Decidable (∀ i ∈ (w.account a).instances.rows, _))

/-- The calls are made for these owners, if they are `careful` each while none of its instances in the
account is live, and accounts change on their own only between calls. -/
abbrev callsFor (owners : Set Owner) (careful : Prop) : Conditions Unit (World Owner) OwnedCall Unit
    (Except Err Instance) (AccountID × CreateCall) Unit Empty where
  start _ c _ w := c.2.owner ∈ owners ∧ (careful → NoneLives w c.1 c.2.owner)
  quiet := True

/-! ## What lives after a step -/

section

variable {a b : AccountID} {who who' : Owner} {i i' j : Sdk.Instance} {w w' : World Owner}

theorem Lives.of_keeps (h : KeepsInstances w w') (hl : Lives w' a who i') :
    ∃ i, Lives w a who i ∧ Keeps i i' := by
  rcases h.rows a i' hl.row with ⟨i, hi, hk⟩
  refine ⟨i, ⟨hi, ?_, ?_⟩, hk⟩
  · by_contra hgone
    have hgone' : isGone i' = true := hk.gone (by simpa using hgone)
    rw [hl.live] at hgone'
    cases hgone'
  · rw [← hk.id]
    exact (h.made _ rfl).1 hl.made

theorem Lives.of_create {req : Sdk.CreateInstanceRequest} {vs : List Sdk.Volume}
    {hc : Creates w b req j vs} (hl : Lives (w.create who b hc) a who' i) :
    (a = b ∧ who' = who ∧ i = j) ∨ Lives w a who' i := by
  rcases mem_create_instances.1 hl.row with ⟨rfl, rfl⟩ | hrow
  · rcases (mem_create_made_instance rfl).1 hl.made with heq | hmade
    · cases heq
      exact .inl ⟨rfl, rfl, rfl⟩
    · exact absurd rfl ((hc.unused i.id List.mem_cons_self).2 _ hmade)
  · rcases (mem_create_made_instance rfl).1 hl.made with heq | hmade
    · -- an old row does not have the new ID
      simp only [Made.mk.injEq] at heq
      rcases heq with ⟨-, -, rfl, hid⟩
      have hnodup := hc.instances
      simp only [List.singleton_append, List.map_cons, List.nodup_cons] at hnodup
      exact absurd (List.mem_map.2 ⟨i, hrow, hid⟩) hnodup.1
    · exact .inr ⟨hrow, hl.live, hmade⟩

theorem Lives.of_drift {reserved : String → Bool} {d : AccountID × Account}
    (hd : drift reserved d w = some w') (hl : Lives w' a who i') :
    ∃ i, Lives w a who i ∧ Keeps i i' := by
  rcases drift_instances hd with ⟨hsame, hrows⟩
  have hmade := hl.made
  rw [hsame] at hmade
  rcases hrows a i' hl.row with ⟨i, hi, hk⟩ | ⟨hunused, -⟩
  · refine ⟨i, ⟨hi, ?_, hk.id ▸ hmade⟩, hk⟩
    by_contra hgone
    have hgone' : isGone i' = true := hk.gone (by simpa using hgone)
    rw [hl.live] at hgone'
    cases hgone'
  · exact absurd rfl ((hunused i'.id (List.mem_singleton_self _)).2 _ hmade)

/-! ## The invariant -/

/-- Live instances have the hostnames of their owners, and each owner has at most one. -/
structure Names (owners : Set Owner) (w : World Owner) : Prop where
  hostname : ∀ a who i, Lives w a who i → who ∈ owners ∧ i.hostname = who.hostname
  unique : ∀ a who i j, Lives w a who i → Lives w a who j → i = j

/-- An instance is asked for under the hostname of its owner, while none of its instances is live. -/
structure MayName (owners : Set Owner) (w : World Owner) (who : Owner) (a : AccountID)
    (req : Sdk.CreateInstanceRequest) : Prop where
  owner : who ∈ owners
  hostname : req.hostname = who.hostname
  none : NoneLives w a who

def names (owners : Set Owner) : Invariant createSystem (callsFor owners True) where
  inv := Names owners
  loc _ _ _ := True
  rely _ w w' := w = w'
  guar _ _ w o := ∀ req, o.2.2.op = .instancesCreate req → MayName owners w o.1 o.2.1 req
  done _ _ _ _ := True

variable {owners : Set Owner}

theorem NoneLives.absurd (h : NoneLives w a who) (hl : Lives w a who i) : False :=
  h i hl.row hl.live hl.made

/-- A step after which everything that lives lived before keeps the invariant. -/
theorem Names.keeps (h : Names owners w)
    (hold : ∀ a who i', Lives w' a who i' → ∃ i, Lives w a who i ∧ Keeps i i') : Names owners w' := by
  constructor
  · intro a who i' hl
    rcases hold a who i' hl with ⟨i, hi, hk⟩
    rw [hk.hostname]
    exact h.hostname a who i hi
  · intro a who i' j' hi' hj'
    rcases hold a who i' hi' with ⟨i, hi, hik⟩
    rcases hold a who j' hj' with ⟨j, hj, hjk⟩
    have hij := h.unique a who i j hi hj
    refine (w'.account a).instances.eq_of_key hi'.row hj'.row ?_
    show i'.id = j'.id
    rw [hik.id, hjk.id, hij]

theorem Names.create {req : Sdk.CreateInstanceRequest} {vs : List Sdk.Volume} (h : Names owners w)
    (hc : Creates w b req j vs) (hg : MayName owners w who b req) : Names owners (w.create who b hc) := by
  constructor
  · intro a who' i hl
    rcases hl.of_create with ⟨rfl, rfl, rfl⟩ | hold
    · exact ⟨hg.owner, hc.hostname.trans hg.hostname⟩
    · exact h.hostname a who' i hold
  · intro a who' i i' hi hi'
    rcases hi.of_create with ⟨rfl, rfl, rfl⟩ | hold
    · rcases hi'.of_create with ⟨-, -, rfl⟩ | hold'
      · rfl
      · exact (hg.none.absurd hold').elim
    · rcases hi'.of_create with ⟨rfl, rfl, rfl⟩ | hold'
      · exact (hg.none.absurd hold).elim
      · exact h.unique a who' i i' hold hold'

/-- The setting of a call, at one account and for one owner. -/
abbrev namesAt (owners : Set Owner) (who : Owner) (a : AccountID) :
    Setting (World Owner) Call Call.Res :=
  atAccount (((names owners).setting () ()).comap (fun o => (who, o)) fun _ x => x) a

theorem namesAt_step {c : Call} {x : Call.Res c} (h : (namesAt owners who a).step w c x w') :
    ∃ ch, answer who ch w (a, c) = some (x, w') := by
  rcases atAccount_step.1 h with ⟨y, rfl, -, ch, hans⟩
  exact ⟨ch, hans⟩

theorem names_createInstance {spec : InstanceSpec} (howner : who ∈ owners)
    (hname : spec.hostname = who.hostname) (hw : NoneLives w a who) :
    (createInstance spec).wp (namesAt owners who a) (fun _ _ => True) w := by
  have hS : (namesAt owners who a).Lawful :=
    Setting.Lawful.atAccount (Setting.Lawful.comap ⟨fun _ => rfl, fun h h' => Eq.trans h h'⟩ _ _)
  refine wp_createInstance hS (P := fun w => NoneLives w a who) ?_ (fun _ _ _ _ _ _ => trivial)
    (fun _ _ => trivial) ?_ ?_ hw
  · intro w w' h hr _
    have hr : w = w' := hr
    exact hr ▸ h
  · intro c w _ hc _
    refine ⟨fun req hreq => absurd hreq (hc req), fun hnone x w' hs _ i' hi' hlive hmade => ?_⟩
    rcases namesAt_step hs with ⟨ch, hans⟩
    rcases Lives.of_keeps (answer_keepsInstances hc hans) ⟨hi', hlive, hmade⟩ with ⟨i, hi, -⟩
    exact hnone.absurd hi
  · intro sid w hnone _
    refine ⟨fun req hreq => ?_, fun _ _ _ _ _ => trivial⟩
    cases hreq
    exact ⟨howner, hname, hnone⟩

theorem names_valid : (names owners).Valid where
  refl _ _ := rfl
  trans _ {_ _ _} h h' := Eq.trans h h'
  drift hinv hd :=
    ⟨hinv.keeps fun _ _ _ hl => hl.of_drift hd, fun _ => ⟨fun hq => absurd trivial hq, fun _ h => h⟩⟩
  edit {_ e _ _} _ _ := e.elim
  touched _ _ _ := trivial
  merge _ hp := ⟨_, hp, rfl⟩
  call {i obj c w o x w'} hinv _ _ hg hans := by
    refine ⟨?_, trivial, fun j hj => absurd rfl hj⟩
    rcases o with ⟨who, a, m, op⟩
    have hans : answer who c w (a, ⟨m, op⟩) = some (x, w') := hans
    by_cases hop : ∃ req, op = .instancesCreate req
    · rcases hop with ⟨req, rfl⟩
      rcases answer_instancesCreate hans with ⟨rfl, -⟩ | ⟨j, vs, hc, rfl, -⟩
      · exact hinv
      · exact hinv.create hc (hg req rfl)
    · exact hinv.keeps fun _ _ _ hl =>
        hl.of_keeps (answer_keepsInstances (fun req hreq => hop ⟨req, hreq⟩) hans)
  pass {i inp obj w} _ _ hstart := by
    rcases inp with ⟨a, c⟩
    rcases hstart with ⟨howner, hnone⟩
    have hcall : c.run.wp (namesAt owners c.owner a) (fun _ _ => True) w := by
      rcases c.run_eq with ⟨e, heq⟩ | ⟨spec, hname, heq⟩
      · rw [heq]
        exact fun _ _ _ => trivial
      · rw [heq]
        exact names_createInstance howner hname (hnone trivial)
    refine Prog.wp_mono ?_ (Prog.wp_mapOp (Prog.wp_mapOp hcall))
    exact fun _ _ _ _ => ⟨trivial, fun _ _ => trivial⟩

end

/-! ## Every owner can have an instance -/

section

variable {a : AccountID} {who : Owner} {i : Sdk.Instance} {w : World Owner}

/-- How a request is answered at an account. -/
def clientStep (who : Owner) (a : AccountID) (w : World Owner) (c : Call) (x : Call.Res c)
    (w' : World Owner) : Prop :=
  ∃ ch, answer who ch w (a, c) = some (x, w')

theorem ends_request {α : Type} {m : Method} {op : Sdk.Op}
    {f : Except Sdk.ApiErr (Sdk.Ans op) → ClientM α} {x : Except Sdk.ApiErr (Sdk.Ans op)} {r : α}
    {w w' w'' : World Owner} (ch : Choice) (hans : answer who ch w (a, ⟨m, op⟩) = some (x, w'))
    (h : (f x).Ends (clientStep who a) w' r w'') :
    (request m op >>= f).Ends (clientStep who a) w r w'' :=
  .call ⟨ch, hans⟩ h

/-- `CreateInstance` without a startup script, where nothing is in its way. -/
theorem createInstance_ends {spec : InstanceSpec} (hscript : spec.startupScript = [])
    (hfree : ∀ j ∈ (w.account a).instances.rows, isManaged j = true)
    (hscripts : (w.account a).scripts.rows = [])
    (hsid : i.startupScriptID = none)
    (hc : Creates w a { createRequest spec with startupScriptID := none } i []) :
    (createInstance spec).Ends (clientStep who a) w
      (.ok { toInstance i with startupScriptID := "" }) (w.create who a hc) := by
  have hnone : (w.account a).instances.rows.find? (blocksHostname spec.hostname) = none := by
    refine List.find?_eq_none.2 fun j hj => ?_
    simp [blocksHostname, hfree j hj]
  have hdelete : (deleteStartupScriptByName spec.hostname).Ends (clientStep who a) w (.ok ()) w := by
    refine ends_request (.accept .plain) rfl ?_
    dsimp only
    rw [hscripts]
    exact .ret _ _
  refine ends_request (.accept .plain) rfl ?_
  dsimp only
  rw [hnone]
  refine hdelete.bind ?_
  dsimp only
  rw [if_pos hscript]
  refine ends_request (.accept (.instance_ i [])) (dif_pos hc) ?_
  dsimp only
  rw [if_pos (by simp [toInstance, hsid])]
  exact .ret _ _

/-- A call for the owner that needs no startup script. -/
def plainCall : Owner → CreateCall
  | .machine ns name =>
    .machine { secret := .ok (some []), toStartupScript := fun _ _ => .ok [] } { ns, name }
      { metadata := { ns, name }, spec := { location := "" } } { ns, name }
      { metadata := { ns, name }, spec := { instanceType := "" } } ""
  | .loadBalancer ns name =>
    .loadBalancer ⟨fun _ => [], fun _ => []⟩ { ns, name }
      { metadata := { ns, name }, spec := { location := "" } } ⟨[], [], [], []⟩
  | .serviceLoadBalancer ns name =>
    .serviceLoadBalancer ⟨fun _ => [], fun _ => []⟩ { ns, name }
      { metadata := { ns, name }, spec := { location := "" } } ⟨[], [], [], []⟩

theorem plainCall_owner (who : Owner) : (plainCall who).owner = who := by
  cases who <;> rfl

theorem plainCall_run (who : Owner) : ∃ spec : InstanceSpec, (plainCall who).run = createInstance spec ∧
    spec.hostname = who.hostname ∧ spec.startupScript = [] ∧
    ∀ i : Sdk.Instance, i.tags = (createRequest spec).tags → isManaged i = true := by
  cases who <;>
    · refine ⟨_, rfl, rfl, rfl, fun i htags => ?_⟩
      simp only [isManaged, tagOf, toInstance, htags]
      rfl

/-- An account in which `CreateInstance` has nothing to refuse or to clean up. -/
structure Clear (a : AccountID) (w : World Owner) : Prop where
  managed : ∀ j ∈ (w.account a).instances.rows, isManaged j = true
  scripts : (w.account a).scripts.rows = []

theorem Clear.create {req : Sdk.CreateInstanceRequest} {vs : List Sdk.Volume} (h : Clear a w)
    (hc : Creates w a req i vs) (hi : isManaged i = true) : Clear a (w.create who a hc) := by
  refine ⟨fun j hj => ?_, ?_⟩
  · rcases mem_create_instances.1 hj with ⟨-, rfl⟩ | hold
    · exact hi
    · exact h.managed j hold
  · simpa [World.create, World.set, World.log] using h.scripts

theorem lives_create {req : Sdk.CreateInstanceRequest} {vs : List Sdk.Volume}
    (hc : Creates w a req i vs) (hi : isGone i = false) : Lives (w.create who a hc) a who i :=
  ⟨mem_create_instances.2 (.inl ⟨rfl, rfl⟩), hi, (mem_create_made_instance rfl).2 (.inl rfl)⟩

theorem Lives.create {who' : Owner} {b : AccountID} {j : Sdk.Instance} (h : Lives w a who i)
    {req : Sdk.CreateInstanceRequest} {vs : List Sdk.Volume} (hc : Creates w b req j vs) :
    Lives (w.create who' b hc) a who i :=
  ⟨mem_create_instances.2 (.inr h.row), h.live, (mem_create_made_instance rfl).2 (.inr h.made)⟩

/-- In a clear account a call that may be made for an owner can create an instance, under any new ID. -/
theorem reach_create {owners : Set Owner} {careful : Prop} {s₀ s : CreateState}
    (h : Reach createSystem (callsFor owners careful) s₀ s) (hidle : s.run () = none)
    (hclear : Clear a s.world) (howner : who ∈ owners) (hnone : careful → NoneLives s.world a who)
    (id : String) (hnew : s.world.Unused [id])
    (hrow : ∀ j ∈ (s.world.account a).instances.rows, j.id ≠ id) :
    ∃ i : Sdk.Instance, ∃ req, ∃ hc : Creates s.world a req i [],
      i.id = id ∧ i.hostname = who.hostname ∧ isGone i = false ∧ isManaged i = true ∧
      Reach createSystem (callsFor owners careful) s₀ { s with world := s.world.create who a hc } := by
  rcases plainCall_run who with ⟨spec, hrun, hname, hscript, htags⟩
  let i : Sdk.Instance :=
    { id := id, hostname := who.hostname, status := statusRunning, tags := (createRequest spec).tags }
  have hc : Creates s.world a { createRequest spec with startupScriptID := none } i [] := by
    refine ⟨hnew, ?_, (s.world.account a).volumes.nodup, hname.symm, rfl, .inl rfl,
      List.forall_mem_nil _⟩
    simp only [List.singleton_append, List.map_cons, List.nodup_cons]
    refine ⟨fun hmem => ?_, (s.world.account a).instances.nodup⟩
    rcases List.mem_map.1 hmem with ⟨j, hj, hid⟩
    exact hrow j hj hid
  refine ⟨i, _, hc, rfl, rfl, rfl, htags i rfl, ?_⟩
  have hends : (forOwner (plainCall who).owner a (plainCall who).run).Ends
      (createSystem.stepFor (callsFor owners careful) () ()) s.world
      (.ok { toInstance i with startupScriptID := "" }) (s.world.create who a hc) := by
    have haccount : (onAccount a (createInstance spec)).Ends
        (fun w o x w' => ∃ ch, answer who ch w o = some (x, w')) s.world
        (.ok { toInstance i with startupScriptID := "" }) (s.world.create who a hc) :=
      Prog.Ends.mapOp (fun w o x w' hs => ⟨x, rfl, hs⟩)
        (createInstance_ends hscript hclear.managed hclear.scripts rfl hc)
    rw [hrun, plainCall_owner]
    exact haccount.mapOp fun w o x w' hs => ⟨x, rfl, trivial, hs⟩
  have hstart : (callsFor owners careful).start () (a, plainCall who) () s.world := by
    show (plainCall who).owner ∈ owners ∧ (careful → NoneLives s.world a (plainCall who).owner)
    rw [plainCall_owner]
    exact ⟨howner, hnone⟩
  exact h.pass () (a, plainCall who) () hidle hstart hends trivial

/-- Two calls in an account that was empty can each create an instance: for two owners, and also for one
if owners are not careful. -/
theorem reach_two {owners : Set Owner} {careful : Prop} {who' : Owner} (hmem : who ∈ owners)
    (hmem' : who' ∈ owners) (hne : careful → who ≠ who') :
    ∃ s₀ s : CreateState, s₀.run () = none ∧ s₀.world.made = [] ∧
      Reach createSystem (callsFor owners careful) s₀ s ∧
      ∃ i j, Lives s.world a who i ∧ Lives s.world a who' j ∧
        i.hostname = who.hostname ∧ j.hostname = who'.hostname ∧ i ≠ j := by
  let s₀ : CreateState :=
    { world := { account := fun _ => {} }, obj := fun _ => (), run := fun _ => none }
  have hempty : ∀ j ∈ (s₀.world.account a).instances.rows, False := fun j hj => by cases hj
  have hclear₀ : Clear a s₀.world := ⟨fun j hj => (hempty j hj).elim, rfl⟩
  have hnone₀ : NoneLives s₀.world a who := fun j hj => (hempty j hj).elim
  have h₀ : Reach createSystem (callsFor owners careful) s₀ s₀ := .init
  rcases reach_create h₀ rfl hclear₀ hmem (fun _ => hnone₀) "x1" (by decide)
    (fun j hj => (hempty j hj).elim) with ⟨i, _, hc, hid, hname, hlive, hmanaged, h₁⟩
  have hclear : Clear a (s₀.world.create who a hc) := hclear₀.create hc hmanaged
  have hnone : careful → NoneLives (s₀.world.create who a hc) a who' := by
    intro hcareful j hj hlj hmade
    rcases Lives.of_create ⟨hj, hlj, hmade⟩ with ⟨-, heq, -⟩ | hold
    · exact hne hcareful heq.symm
    · exact hempty j hold.row
  have hnew : (s₀.world.create who a hc).Unused ["x2"] := by
    intro id hmem
    obtain rfl := List.mem_singleton.1 hmem
    refine ⟨by decide, fun e he => ?_⟩
    have he : e = ⟨who, .instance_, a, i.id⟩ := by
      simpa [World.create, World.log, World.set, s₀] using he
    rw [he, hid]
    show "x1" ≠ "x2"
    decide
  have hrow : ∀ j ∈ ((s₀.world.create who a hc).account a).instances.rows, j.id ≠ "x2" := by
    intro j hj
    rcases mem_create_instances.1 hj with ⟨-, rfl⟩ | hold
    · rw [hid]
      decide
    · exact (hempty j hold).elim
  rcases reach_create h₁ rfl hclear hmem' hnone "x2" hnew hrow with ⟨j, _, hc', hid', hname', hlive', -, h₂⟩
  refine ⟨s₀, _, rfl, rfl, h₂, i, j, (lives_create hc hlive).create hc', lives_create hc' hlive', hname,
    hname', ?_⟩
  rintro rfl
  rw [hid] at hid'
  exact absurd hid' (by decide)

end

/-! ## One hostname, one instance -/

/-- A hostname, and the provider ID that is made from it, stands for at most one live instance that was
created in the account. -/
structure NamesOne (a : AccountID) (w : World Owner) : Prop where
  hostname : ∀ {who who' i j}, Lives w a who i → Lives w a who' j → i.hostname = j.hostname → i = j
  providerID : ∀ {who who' i j}, Lives w a who i → Lives w a who' j →
    Api.providerID i.hostname = Api.providerID j.hostname → i = j

theorem Names.namesOne {owners : Set Owner} {w : World Owner} (h : Names owners w)
    (hinj : Set.InjOn Owner.hostname owners) (a : AccountID) : NamesOne a w := by
  have hhost : ∀ {who who' i j}, Lives w a who i → Lives w a who' j → i.hostname = j.hostname → i = j := by
    intro who who' i j hi hj heq
    rcases h.hostname a who i hi with ⟨hmem, hname⟩
    rcases h.hostname a who' j hj with ⟨hmem', hname'⟩
    have hwho : who = who' := hinj hmem hmem' (by rw [← hname, ← hname', heq])
    subst hwho
    exact h.unique a who i j hi hj
  refine ⟨hhost, fun hi hj heq => hhost hi hj ?_⟩
  simpa [Api.providerID] using heq

/-- **A hostname names one live instance of an account exactly if no two owners have one, and each makes
its calls only while it has no live instance there**: over all sequences of atomic calls for these
owners. -/
theorem hostname_names_one_iff (owners : Set Owner) (careful : Prop) (a : AccountID) :
    (∀ s₀ s : CreateState, s₀.run () = none → s₀.world.made = [] →
      Reach createSystem (callsFor owners careful) s₀ s → NamesOne a s.world) ↔
      Set.InjOn Owner.hostname owners ∧ (owners.Nonempty → careful) := by
  constructor
  · intro h
    -- two calls under one hostname make two instances
    have htwo : ∀ {who who'}, who ∈ owners → who' ∈ owners → who.hostname = who'.hostname →
        (careful → who ≠ who') → False := by
      intro who who' hmem hmem' heq hne
      rcases reach_two (a := a) hmem hmem' hne with
        ⟨s₀, s, hidle, hmade, hreach, i, j, hi, hj, hname, hname', hij⟩
      exact hij ((h s₀ s hidle hmade hreach).hostname hi hj (by rw [hname, hname', heq]))
    constructor
    · intro who hmem who' hmem' heq
      by_contra hne
      exact htwo hmem hmem' heq fun _ => hne
    · rintro ⟨who, hmem⟩
      by_contra hcareless
      exact htwo hmem hmem rfl fun hcareful => absurd hcareful hcareless
  · rintro ⟨hinj, hcareful⟩ s₀ s hidle hmade h
    have h : Reach createSystem (callsFor owners True) s₀ s := by
      refine h.mono fun s m hm => ?_
      cases m with
      | start u c => exact ⟨hm.1, fun _ => hm.2 (hcareful ⟨_, hm.1⟩)⟩
      | _ => exact hm
    have hholds : (names owners).Holds s := by
      refine Invariant.sound names_valid ⟨?_, ?_⟩ (fun _ => trivial) (fun _ => hidle) h
      · intro b who i hl
        have hmem := hl.made
        rw [hmade] at hmem
        cases hmem
      · intro b who i j hl
        have hmem := hl.made
        rw [hmade] at hmem
        cases hmem
    exact hholds.inv.namesOne hinj a

/-- Machines of one name in two namespaces. -/
theorem hostname_names_two : ∃ s₀ s : CreateState, s₀.run () = none ∧ s₀.world.made = [] ∧
    Reach createSystem (callsFor {.machine "team-a" "m0", .machine "team-b" "m0"} True) s₀ s ∧
    ∃ i j, Lives s.world .global (.machine "team-a" "m0") i ∧
      Lives s.world .global (.machine "team-b" "m0") j ∧
      i.hostname = "m0" ∧ j.hostname = "m0" ∧ i ≠ j :=
  reach_two (by simp) (by simp) fun _ => by decide

end VerdaCapi.Controller
