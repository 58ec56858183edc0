import VerdaCapi.Controller.FleetRecords
import VerdaCapi.Controller.Leftovers

/-!
# What is an owner's own

Owners share an account, and each of them knows its instances by a tag and its startup scripts by their
name, the hostname of the instance. `Owns` says that these marks do what they are for, as long as no two
owners have the same: what an owner finds or lists under its marks is its own.

`ForOwner` has the rules for the programs of the client that run for one owner, for a machine and for
either load balancer. No request of theirs deletes a script of another owner (`Entitled`).
-/

namespace VerdaCapi.Controller

open Remote Go Api Cloud Webhook

/-- The owners that belong to these objects have hostnames and tags of their own. -/
structure Apart (keys : Set Key) : Prop where
  hostname : ∀ {who who' : Owner}, who.key ∈ keys → who'.key ∈ keys → who.hostname = who'.hostname →
    who = who'
  tag : ∀ {who who' : Owner}, who.key ∈ keys → who'.key ∈ keys → who.tagKey = who'.tagKey →
    who.tagValue = who'.tagValue → who = who'

/-! ## What an owner may rely on -/

section

variable {keys : Set Key} {a₀ : AccountID} {who : Owner} {w w' : FleetWorld} {id : String}

/-- The script was added for the owner. -/
def OwnScript (a₀ : AccountID) (who : Owner) (id : String) (w : FleetWorld) : Prop :=
  (⟨who, .script, a₀, id⟩ : Made Owner) ∈ w.cloud.made

/-- The instance was created for the owner. -/
def OwnInstance (a₀ : AccountID) (who : Owner) (id : String) (w : FleetWorld) : Prop :=
  (⟨who, .instance_, a₀, id⟩ : Made Owner) ∈ w.cloud.made

/-- No script with this ID was added for another owner. -/
def NotOthers (who : Owner) (id : String) (w : FleetWorld) : Prop :=
  ∀ e ∈ w.cloud.made, e.kind = .script → e.id = id → e.owner = who

/-- The script may be deleted for the owner, now and later: it is its own, or was listed and is not
another's. -/
def MayDelete (a₀ : AccountID) (who : Owner) (id : String) (w : FleetWorld) : Prop :=
  OwnScript a₀ who id w ∨ (id ∈ w.seen ∧ NotOthers who id w)

/-- An instance and a startup script, as far as there are any, are the owner's. -/
structure OwnIDs (a₀ : AccountID) (who : Owner) (id sid : String) (w : FleetWorld) : Prop where
  id : id ≠ "" → OwnInstance a₀ who id w
  script : sid ≠ "" → OwnScript a₀ who sid w

/-- The instance and its startup script are the owner's. -/
abbrev OwnInst (a₀ : AccountID) (who : Owner) (inst : Instance) : FleetWorld → Prop :=
  OwnIDs a₀ who inst.id inst.startupScriptID

/-- What is recorded in a machine is its own. -/
abbrev OwnMachine (a₀ : AccountID) (who : Owner) (vm : VerdaMachine) : FleetWorld → Prop :=
  OwnIDs a₀ who vm.status.instanceID vm.status.startupScriptID

/-- What is recorded of a load balancer is its own. -/
abbrev OwnLB (a₀ : AccountID) (vc : VerdaCluster) (lb : LoadBalancer) : FleetWorld → Prop :=
  OwnIDs a₀ (lbOwner vc.metadata.ns vc.metadata.name lb) (lbStatus vc lb).instanceID
    (lbStatus vc lb).startupScriptID

/-- If there is an instance, it was created for the owner. -/
def HasInstance (a₀ : AccountID) (who : Owner) (id : String) (w : FleetWorld) : Prop :=
  id ≠ "" → OwnInstance a₀ who id w

/-- If there is a script, it was added for the owner. -/
def HasScript (a₀ : AccountID) (who : Owner) (id : String) (w : FleetWorld) : Prop :=
  id ≠ "" → OwnScript a₀ who id w

theorem ownIDs_iff {sid : String} :
    OwnIDs a₀ who id sid w ↔ Tracked (HasInstance a₀ who) (HasScript a₀ who) id sid w :=
  ⟨fun h => ⟨h.id, h.script⟩, fun h => ⟨h.id, h.script⟩⟩

/-- A fact that stays true. -/
def Lasting (P : FleetWorld → Prop) : Prop := ∀ w w', P w → FleetGrows w w' → P w'

theorem lasting_ownScript : Lasting (OwnScript a₀ who id) := fun _ _ h hg => hg.made _ h

theorem lasting_ownInstance : Lasting (OwnInstance a₀ who id) := fun _ _ h hg => hg.made _ h

theorem lasting_mayDelete : Lasting (MayDelete a₀ who id) := by
  rintro w w' (hown | ⟨hseen, hnot⟩) hg
  · exact .inl (lasting_ownScript w w' hown hg)
  · refine .inr ⟨hg.seen id hseen, fun e he hkind hid => ?_⟩
    rcases hg.fresh e he with hold | hnew
    · exact hnot e hold hkind hid
    · rw [hid] at hnew
      exact absurd hseen hnew

theorem lasting_ownIDs {sid : String} : Lasting (OwnIDs a₀ who id sid) := fun w w' h hg =>
  ⟨fun hne => lasting_ownInstance w w' (h.id hne) hg, fun hne => lasting_ownScript w w' (h.script hne) hg⟩

/-! ## The invariant of the world -/

/-- What is in the log and how it is marked in the account. -/
structure Owns (keys : Set Key) (a₀ : AccountID) (w : FleetWorld) : Prop where
  logged : ∀ e ∈ w.cloud.made, e.owner.key ∈ keys ∧ e.account = a₀
  unique : ∀ e ∈ w.cloud.made, ∀ e' ∈ w.cloud.made, e.kind = .script → e'.kind = .script →
    e.id = e'.id → e.owner = e'.owner
  named : ScriptsNamed (fun who n => n = who.hostname) w.cloud
  tagged : ∀ who : Owner, who.key ∈ keys → ∀ i ∈ (w.cloud.account a₀).instances.rows,
    tagOf i who.tagKey = who.tagValue → OwnInstance a₀ who i.id w
  scripts : ∀ e ∈ w.cloud.made, e.kind = .instance_ →
    ∀ i ∈ (w.cloud.account a₀).instances.rows, i.id = e.id → ∀ sid ∈ i.startupScriptID,
      OwnScript a₀ e.owner sid w

/-- The tags of an instance that is created for the owner. -/
def CarriesTag (who : Owner) (req : Sdk.CreateInstanceRequest) : Prop :=
  ∀ key ∈ [tagMachine, tagLoadBalancer, tagServiceLoadBalancer],
    requestTag req key = if key = who.tagKey then who.tagValue else ""

/-- The requests that may be made for an owner: it deletes no script of another, and what it creates
carries its marks. -/
structure Entitled (a₀ : AccountID) (who : Owner) (w : FleetWorld) (c : Call) : Prop where
  deletes : ∀ id, c.op = .scriptsDelete id → NotOthers who id w
  adds : ∀ n script, c.op = .scriptsAdd n script → n = who.hostname
  creates : ∀ req, c.op = .instancesCreate req → CarriesTag who req ∧
    ∀ sid ∈ req.startupScriptID, OwnScript a₀ who sid w

theorem entitled_of_uses {M : List Method} {c : Call} (hc : Uses M c)
    (hM : .createInstance ∉ M ∧ .deleteStartupScript ∉ M ∧ .deleteStartupScriptByName ∉ M) :
    Entitled a₀ who w c where
  deletes id h := absurd h (hc.ne_scriptsDelete hM id)
  adds n script h := absurd h (hc.ne_scriptsAdd hM.1 n script)
  creates req h := absurd h (hc.ne_instancesCreate hM.1 req)

theorem Owns.notOthers (h : Owns keys a₀ w) (hmay : MayDelete a₀ who id w) : NotOthers who id w := by
  rcases hmay with hown | ⟨-, hnot⟩
  · intro e he hkind hid
    exact h.unique e he _ hown hkind rfl hid
  · exact hnot

theorem Owner.tagValue_ne_empty (who : Owner) : who.tagValue ≠ "" := by
  cases who <;> exact truncateTag_ne_empty (by simp)

theorem Owner.tagKey_mem (who : Owner) :
    who.tagKey ∈ [tagMachine, tagLoadBalancer, tagServiceLoadBalancer] := by
  cases who <;> simp [Owner.tagKey]

/-- An instance that is created for an owner carries the tag of no other one. -/
theorem CarriesTag.eq {req : Sdk.CreateInstanceRequest} (h : CarriesTag who req) (hapart : Apart keys)
    (hwho : who.key ∈ keys) {who' : Owner} (hwho' : who'.key ∈ keys)
    (htag : requestTag req who'.tagKey = who'.tagValue) : who' = who := by
  rw [h who'.tagKey who'.tagKey_mem] at htag
  split at htag
  · rename_i hkey
    exact hapart.tag hwho' hwho hkey htag.symm
  · exact absurd htag.symm who'.tagValue_ne_empty

/-- The instances and scripts after a request. -/
theorem Owns.scripts_answer (h : Owns keys a₀ w) {c : Call} {x : Call.Res c} {ch : Choice}
    (hent : Entitled a₀ who w c) (hans : answer who ch w.cloud (a₀, c) = some (x, w'.cloud))
    (hg : FleetGrows w w') : ∀ e ∈ w'.cloud.made, e.kind = .instance_ →
      ∀ i ∈ (w'.cloud.account a₀).instances.rows, i.id = e.id → ∀ sid ∈ i.startupScriptID,
        OwnScript a₀ e.owner sid w' := by
  rcases c with ⟨m, op⟩
  by_cases hop : ∃ req, op = .instancesCreate req
  · rcases hop with ⟨req, rfl⟩
    rcases answer_instancesCreate hans with ⟨heq, -⟩ | ⟨j, vs, hc, heq, -⟩
    · rw [heq]
      exact fun e he hkind i hi hid sid hsid => lasting_ownScript w w' (h.scripts e he hkind i hi hid sid hsid) hg
    · intro e he hkind i hi hid sid hsid
      rw [heq] at he hi
      refine lasting_ownScript w w' ?_ hg
      rcases (mem_create_made_instance hkind).1 he with rfl | hold
      · rcases mem_create_instances.1 hi with ⟨-, rfl⟩ | hrow
        · rcases hc.script with hnone | hreq
          · rw [hnone] at hsid
            cases hsid
          · rw [hreq] at hsid
            exact (hent.creates req rfl).2 sid hsid
        · -- an old row does not have the ID of the new one
          have hdup := hc.instances
          simp only [List.singleton_append, List.map_cons, List.nodup_cons] at hdup
          exact absurd (List.mem_map.2 ⟨i, hrow, hid⟩) hdup.1
      · rcases mem_create_instances.1 hi with ⟨-, rfl⟩ | hrow
        · exact absurd hid.symm ((hc.unused i.id List.mem_cons_self).2 e hold)
        · exact h.scripts e hold hkind i hrow hid sid hsid
  · have hk : KeepsInstances w.cloud w'.cloud :=
      answer_keepsInstances (fun req hreq => hop ⟨req, hreq⟩) hans
    intro e he hkind i' hi' hid sid hsid
    rcases hk.rows a₀ i' hi' with ⟨i, hi, hkeep⟩
    rw [hkeep.script] at hsid
    exact lasting_ownScript w w'
      (h.scripts e ((hk.made e hkind).1 he) hkind i hi (hkeep.id.symm.trans hid) sid hsid) hg

theorem Owns.answer (h : Owns keys a₀ w) (hapart : Apart keys) (hwho : who.key ∈ keys) {c : Call}
    {x : Call.Res c} {ch : Choice} (hent : Entitled a₀ who w c)
    (hans : answer who ch w.cloud (a₀, c) = some (x, w'.cloud)) (hg : FleetGrows w w') : Owns keys a₀ w' where
  logged e he := by
    rcases answer_logged hans he with hold | ⟨-, rfl, hacc⟩
    · exact h.logged e hold
    · exact ⟨hwho, hacc⟩
  unique e he e' he' hkind hkind' hid := by
    rcases answer_scriptFresh hans he hkind with hold | ⟨ho, hfresh⟩
    · rcases answer_scriptFresh hans he' hkind' with hold' | ⟨-, hfresh'⟩
      · exact h.unique e hold e' hold' hkind hkind' hid
      · exact absurd hid (hfresh' e hold)
    · rcases answer_scriptFresh hans he' hkind' with hold' | ⟨ho', -⟩
      · exact absurd hid.symm (hfresh e' hold')
      · exact ho.trans ho'.symm
  named := h.named.answer hent.adds hans
  tagged who' hwho' i' hi' htag := by
    rcases answer_instances hans a₀ i' hi' with ⟨i, hi, hkeep⟩ | ⟨-, req, vs, hreq, hc, hmade⟩
    · rw [hkeep.id]
      exact lasting_ownInstance w w' (h.tagged who' hwho' i hi (hkeep.tagOf _ ▸ htag)) hg
    · obtain rfl : who' = who :=
        (hent.creates req hreq).1.eq hapart hwho hwho' (hc.tagOf _ ▸ htag)
      exact hmade
  scripts := h.scripts_answer hent hans hg

theorem Owns.drift (h : Owns keys a₀ w) {reserved : String → String → Bool}
    (hreserved : ∀ who : Owner, who.key ∈ keys → reserved who.tagKey who.tagValue = true)
    {d : AccountID × Account} (hd : fleetDrift reserved d w = some w') : Owns keys a₀ w' := by
  rcases fleetDrift_cloud hd with ⟨-, hcloud, hapart⟩
  have hmade : w'.cloud.made = w.cloud.made := by rw [hcloud]; rfl
  have hrows := hapart.instances
  have hg := fleetDrift_grows hd
  rw [← hcloud] at hrows
  refine ⟨?_, ?_, ?_, fun who hwho i' hi' htag => ?_, fun e he hkind i' hi' hid sid hsid => ?_⟩
  · rw [hmade]
    exact h.logged
  · rw [hmade]
    exact h.unique
  · refine h.named.drift hmade ?_
    rw [hcloud]
    exact (drift_scripts hapart.drift).2
  · rcases hrows a₀ i' hi' with ⟨i, hi, hkeep⟩ | ⟨-, hnot⟩
    · rw [hkeep.id]
      exact lasting_ownInstance w w' (h.tagged who hwho i hi (hkeep.tagOf _ ▸ htag)) hg
    · have hcarries : carriesReserved reserved i' = true :=
        List.any_eq_true.2 ⟨who.tagKey, who.tagKey_mem, by rw [htag]; exact hreserved who hwho⟩
      rw [hcarries] at hnot
      cases hnot
  · rw [hmade] at he
    rcases hrows a₀ i' hi' with ⟨i, hi, hkeep⟩ | ⟨hunused, -⟩
    · rw [hkeep.script] at hsid
      exact lasting_ownScript w w' (h.scripts e he hkind i hi (hkeep.id.symm.trans hid) sid hsid) hg
    · exact absurd hid.symm ((hunused i'.id (List.mem_singleton_self _)).2 e he)

end

/-! ## Programs of the client -/

/-- A setting for programs of the client that run for an owner against the shared account. -/
structure ForOwner (S : Setting FleetWorld Call Call.Res) (keys : Set Key) (a₀ : AccountID)
    (who : Owner) : Prop where
  lawful : S.Lawful
  rely : ∀ {w w'}, S.rely w w' → FleetGrows w w'
  inv : ∀ {w}, S.inv w → Owns keys a₀ w
  member : who.key ∈ keys
  guar : ∀ {w c}, Entitled a₀ who w c → S.guar w c
  step : ∀ {w c x w'}, S.step w c x w' → (∃ ch, answer who ch w.cloud (a₀, c) = some (x, w'.cloud)) ∧
    FleetGrows w w' ∧ w'.seen = listedIDs w.cloud (a₀, c) ++ w.seen

namespace ForOwner

variable {S : Setting FleetWorld Call Call.Res} {keys : Set Key} {a₀ : AccountID} {who : Owner}
  {w : FleetWorld} {α : Type} {P : FleetWorld → Prop}

theorem keeps (hS : ForOwner S keys a₀ who) (hP : Lasting P) : S.Keeps P where
  stable w w' h hr _ := hP w w' h (hS.rely hr)
  step w _ _ w' h hs := hP w w' h (hS.step hs).2.1

theorem keepsIDs (hS : ForOwner S keys a₀ who) : KeepsIDs S (HasInstance a₀ who) (HasScript a₀ who) where
  id _ := hS.keeps fun w w' h hg hne => lasting_ownInstance w w' (h hne) hg
  script _ := hS.keeps fun w w' h hg hne => lasting_ownScript w w' (h hne) hg
  noID _ h := absurd rfl h
  noScript _ h := absurd rfl h

/-- The rule for one request. -/
theorem request (hS : ForOwner S keys a₀ who) (hP : Lasting P) {m : Method} {op : Sdk.Op}
    {f : Except Sdk.ApiErr (Sdk.Ans op) → ClientM α} {Q : α → FleetWorld → Prop} (hw : P w)
    (hent : ∀ w, P w → Owns keys a₀ w → Entitled a₀ who w ⟨m, op⟩)
    (h : ∀ x w₁ w', Owns keys a₀ w₁ → S.step w₁ ⟨m, op⟩ x w' → P w' → (f x).wp S Q w') :
    (Cloud.request m op >>= f).wp S Q w := by
  refine wp_request (hS.keeps hP).stable hw fun w₁ hw₁ hi => ⟨hS.guar (hent w₁ hw₁ (hS.inv hi)), ?_⟩
  intro x w' hs _
  exact h x w₁ w' (hS.inv hi) hs (hP w₁ w' hw₁ (hS.step hs).2.1)

/-- Lasting facts are carried along. -/
theorem keep (hS : ForOwner S keys a₀ who) (hP : Lasting P) {p : ClientM α} {Q : α → FleetWorld → Prop}
    (h : p.wp S Q w) (hw : P w) : p.wp S (fun r w => Q r w ∧ P w) w :=
  Prog.wp_keep (hS.keeps hP) h hw

/-- A part that neither creates nor deletes scripts is allowed. -/
theorem frame (hS : ForOwner S keys a₀ who) {M : List Method} {p : ClientM α} {R : α → Prop}
    (hp : p.Obeys (Uses M) R)
    (hM : .createInstance ∉ M ∧ .deleteStartupScript ∉ M ∧ .deleteStartupScriptByName ∉ M) :
    p.wp S (fun r _ => R r) w :=
  Prog.wp_of_obeys hp fun _ _ hc _ => hS.guar (entitled_of_uses hc hM)

/-- Deleting one script. -/
theorem entitled_delete {m : Method} {id : String} (hown : Owns keys a₀ w) (hmay : MayDelete a₀ who id w) :
    Entitled a₀ who w ⟨m, .scriptsDelete id⟩ where
  deletes id' h := by
    cases h
    exact hown.notOthers hmay
  adds n script h := by cases h
  creates req h := by cases h

theorem deleteStartupScript (hS : ForOwner S keys a₀ who) {id : String}
    (hmay : MayDelete a₀ who id w) : (Cloud.deleteStartupScript id).wp S (fun _ _ => True) w := by
  refine hS.request lasting_mayDelete hmay (fun w hw hown => entitled_delete hown hw) ?_
  rintro (e | u) w₁ w' - - -
  · dsimp only
    split <;> exact fun _ _ _ => trivial
  · exact fun _ _ _ => trivial

/-- The loop over a listing. -/
theorem deleteScriptsNamed (hS : ForOwner S keys a₀ who) {name : String}
    (scripts : List Sdk.StartupScript) (w : FleetWorld)
    (hmay : ∀ s ∈ scripts, s.name = name → MayDelete a₀ who s.id w) :
    (Cloud.deleteScriptsNamed name scripts).wp S (fun _ _ => True) w := by
  induction scripts generalizing w with
  | nil => exact fun _ _ _ => trivial
  | cons script scripts ih =>
    have hrest : Lasting fun w => ∀ s ∈ scripts, s.name = name → MayDelete a₀ who s.id w :=
      fun w w' h hg s hs hname => lasting_mayDelete w w' (h s hs hname) hg
    have hmay' : ∀ s ∈ scripts, s.name = name → MayDelete a₀ who s.id w :=
      fun s hs => hmay s (List.mem_cons_of_mem _ hs)
    unfold Cloud.deleteScriptsNamed
    split
    · exact ih w hmay'
    · rename_i hname
      refine Prog.wp_bind hS.lawful (Prog.wp_mono ?_ (hS.keep hrest (hS.deleteStartupScript
        (hmay script List.mem_cons_self (not_not.1 hname))) hmay'))
      rintro (e | u) w - ⟨-, hmay'⟩
      · exact fun _ _ _ => trivial
      · exact ih w hmay'

/-- What is listed under the hostname of an owner is not another's. -/
theorem mayDelete_listed (hapart : Apart keys) (hmember : who.key ∈ keys) (hown : Owns keys a₀ w)
    {s : Sdk.StartupScript} (hs : s ∈ (w.cloud.account a₀).scripts.rows) (hname : s.name = who.hostname) :
    NotOthers who s.id w := by
  intro e he hkind hid
  rcases hown.logged e he with ⟨hkey, hacc⟩
  have hnamed : s.name = e.owner.hostname := hown.named e he hkind s (hacc ▸ hs) hid.symm
  exact hapart.hostname hkey hmember (hnamed.symm.trans hname)

theorem deleteStartupScriptByName (hS : ForOwner S keys a₀ who) (hapart : Apart keys)
    (w : FleetWorld) : (Cloud.deleteStartupScriptByName who.hostname).wp S (fun _ _ => True) w := by
  refine hS.request (P := fun _ => True) (fun _ _ _ _ => trivial) trivial (fun w _ _ =>
    ⟨fun id h => (by cases h), fun n script h => (by cases h), fun req h => (by cases h)⟩) ?_
  rintro (e | scripts) w₁ w' hown hs -
  · exact fun _ _ _ => trivial
  · refine hS.deleteScriptsNamed scripts w' fun s hmem hname => ?_
    rcases hS.step hs with ⟨⟨ch, hans⟩, hg, hseen⟩
    rcases answer_scriptsGetAll hans with ⟨hcloud, hx | ⟨e, he⟩⟩
    · cases hx
      refine .inr ⟨?_, fun e he => ?_⟩
      · rw [hseen]
        exact List.mem_append_left _ (by simpa [listedIDs] using ⟨s, hmem, rfl⟩)
      · rw [hcloud] at he
        exact mayDelete_listed hapart hS.member hown hmem hname e he
    · cases he

/-- A row of the account under an own ID, as it is handed on. -/
theorem ownInst_row (hown : Owns keys a₀ w) {i : Sdk.Instance}
    (hi : i ∈ (w.cloud.account a₀).instances.rows) (hid : OwnInstance a₀ who i.id w) :
    OwnInst a₀ who (toInstance i) w := by
  refine ⟨fun _ => hid, fun hne => ?_⟩
  cases hscript : i.startupScriptID with
  | none => exact absurd (by simp [toInstance, hscript]) hne
  | some sid =>
    have hsid : (toInstance i).startupScriptID = sid := by simp [toInstance, hscript]
    rw [hsid]
    exact hown.scripts _ hid rfl i hi rfl sid hscript

/-- Whatever a lookup returns is the owner's. -/
theorem lookupInstance (hS : ForOwner S keys a₀ who) {id : String} {pick : Pick}
    (hid : id ≠ "" → OwnInstance a₀ who id w)
    (hpick : ∀ x inst, pick x = .ok (some inst) → ∃ is, x = .ok is ∧
      ∃ i ∈ is, tagOf i who.tagKey = who.tagValue ∧ inst = toInstance i) :
    (Cloud.lookupInstance id pick).wp S
      (fun r w => ∀ inst, r = .ok (some inst) → OwnInst a₀ who inst w) w := by
  refine wp_lookupInstance (fun r w w' h hr hi inst hinst =>
      (hS.keeps lasting_ownIDs).stable w w' (h inst hinst) hr hi) ?_
    (fun hne w₁ x w' hr hi hs inst hinst => ?_) fun _ w₁ x w' _ hi hs inst hinst => ?_
  · rintro w _ (rfl | rfl) - <;>
      exact hS.guar (entitled_of_uses (M := lookupMethods) (.of (by decide) rfl) (by decide))
  · rcases hS.step hs with ⟨⟨ch, hans⟩, hg, -⟩
    refine lasting_ownIDs w₁ w' ?_ hg
    have hown := (hS.keepsIDs.id id).stable w w₁ hid hr hi hne
    rcases pickByID_eq_some hinst with ⟨i, rfl, rfl⟩ | rfl
    · rcases answer_fetched hans with ⟨hrow, hfetched⟩
      rw [← hfetched] at hown
      exact ownInst_row (hS.inv hi) hrow hown
    · -- the record that is made up has the ID that was asked for, and no script
      exact ⟨fun _ => hown, fun h => absurd rfl h⟩
  · rcases hS.step hs with ⟨⟨ch, hans⟩, hg, -⟩
    refine lasting_ownIDs w₁ w' ?_ hg
    rcases hpick x inst hinst with ⟨is, rfl, i, hmem, htag, rfl⟩
    rcases answer_instancesGet hans with ⟨-, heq | ⟨e, he⟩⟩
    · cases heq
      exact ownInst_row (hS.inv hi) hmem ((hS.inv hi).tagged who hS.member i hmem htag)
    · cases he

/-- The last part of `CreateInstance`, with a script of the owner or none. -/
theorem createWith (hS : ForOwner S keys a₀ who) {spec : InstanceSpec}
    (htags : CarriesTag who (createRequest spec)) (sid : Option String) (w : FleetWorld)
    (hw : ∀ id ∈ sid, OwnScript a₀ who id w) :
    (Cloud.createWith spec sid).wp S (fun r w => ∀ inst, r = .ok inst → OwnInst a₀ who inst w) w := by
  have hret : ∀ (r : Except Err Instance) (w : FleetWorld),
      (∀ inst, r = .ok inst → OwnInst a₀ who inst w) → (Prog.ret r : ClientM _).wp S
        (fun r w => ∀ inst, r = .ok inst → OwnInst a₀ who inst w) w :=
    fun r w h => Prog.wp_ret_stable (fun w w' h hr _ inst hinst =>
      lasting_ownIDs w w' (h inst hinst) (hS.rely hr)) h
  have hgrow : Lasting fun w => ∀ id ∈ sid, OwnScript a₀ who id w :=
    fun w w' h hg id hid => lasting_ownScript w w' (h id hid) hg
  refine hS.request hgrow hw (fun w hw _ => ⟨fun id h => (by cases h), fun n script h => (by cases h),
    fun req h => ?_⟩) ?_
  · cases h
    exact ⟨htags, hw⟩
  · rintro (e | i) w₁ w' hown hs hw'
    · cases sid with
      | none => exact hret _ w' fun inst h => by cases h
      | some id =>
        refine hS.request lasting_ownScript (hw' id rfl)
          (fun w hw hown => entitled_delete hown (.inl hw)) fun x w₁ w' _ _ _ => ?_
        exact hret _ w' fun inst h => by cases h
    · rcases hS.step hs with ⟨⟨ch, hans⟩, hg, -⟩
      rcases answer_created hans with ⟨vs, hc, hcloud⟩
      have hid : OwnInstance a₀ who i.id w' := by
        rw [OwnInstance, hcloud]
        exact (mem_create_made_instance rfl).2 (.inl rfl)
      dsimp only
      split
      · refine hret _ w' fun inst h => ?_
        cases h
        refine ⟨fun _ => hid, fun hne => ?_⟩
        cases sid with
        | none => exact absurd rfl hne
        | some id => exact hw' id rfl
      · rename_i hscript
        refine hret _ w' fun inst h => ?_
        cases h
        refine ⟨fun _ => hid, fun _ => ?_⟩
        rcases hc.script with hnone | hreq
        · exact absurd (by simp [toInstance, hnone]) hscript
        · cases sid with
          | none => exact absurd (by simp [toInstance, hreq]) hscript
          | some id =>
            have hsid : (toInstance i).startupScriptID = id := by simp [toInstance, hreq]
            rw [hsid]
            exact hw' id rfl

/-- `CreateInstance` for an owner deletes no script of another, and what it returns is the owner's. -/
theorem createInstance (hS : ForOwner S keys a₀ who) (hapart : Apart keys) {spec : InstanceSpec}
    (hhost : spec.hostname = who.hostname) (htags : CarriesTag who (createRequest spec))
    (w : FleetWorld) : (Cloud.createInstance spec).wp S
      (fun r w => ∀ inst, r = .ok inst → OwnInst a₀ who inst w) w := by
  have hfail : ∀ (e : Err) (w : FleetWorld), (Prog.ret (.error e) : ClientM (Except Err Instance)).wp S
      (fun r w => ∀ inst, r = .ok inst → OwnInst a₀ who inst w) w :=
    fun e w w' _ _ inst h => by cases h
  have htrue : Lasting fun _ => True := fun _ _ _ _ => trivial
  have hread : ∀ w, True → Owns keys a₀ w →
      Entitled a₀ who w ⟨.createInstance, .instancesGet⟩ := fun _ _ _ =>
    ⟨fun id h => (by cases h), fun n script h => (by cases h), fun req h => (by cases h)⟩
  refine hS.request htrue trivial hread ?_
  rintro (e | instances) w₁ w' - - -
  · exact hfail _ w'
  · dsimp only
    split
    · exact hfail _ w'
    · rw [hhost]
      refine Prog.wp_bind hS.lawful (Prog.wp_mono ?_ (hS.deleteStartupScriptByName hapart w'))
      rintro (e | u) w - -
      · exact hfail _ w
      · dsimp only
        split
        · exact hS.createWith htags none w fun id h => by cases h
        · refine hS.request htrue trivial (fun w _ _ => ⟨fun id h => (by cases h), fun n script h => ?_,
            fun req h => (by cases h)⟩) ?_
          · cases h
            rfl
          · rintro (e | script) w₁ w' - hs -
            · exact hfail _ w'
            · refine hS.createWith htags (some script.id) w' fun id hid => ?_
              cases hid
              rcases hS.step hs with ⟨⟨ch, hans⟩, -⟩
              exact answer_scriptAdded hans

/-- Deleting the recorded script, or else by hostname. -/
theorem deleteRecorded (hS : ForOwner S keys a₀ who) (hapart : Apart keys) {id : String}
    {f g : Except Err Unit → ClientM α} (hid : id ≠ "" → OwnScript a₀ who id w)
    (hf : ∀ r w, (f r).wp S (fun _ _ => True) w) (hg : ∀ r w, (g r).wp S (fun _ _ => True) w) :
    (if id ≠ "" then Cloud.deleteStartupScript id >>= f
      else Cloud.deleteStartupScriptByName who.hostname >>= g).wp S (fun _ _ => True) w := by
  split
  · rename_i hne
    exact Prog.wp_bind hS.lawful (Prog.wp_mono (fun r w _ _ => hf r w)
      (hS.deleteStartupScript (.inl (hid hne))))
  · exact Prog.wp_bind hS.lawful (Prog.wp_mono (fun r w _ _ => hg r w)
      (hS.deleteStartupScriptByName hapart w))

/-- Look an instance up, wait until it and its volumes are gone, and release the rest. -/
theorem teardown (hS : ForOwner S keys a₀ who) (hP : Lasting P)
    {find : ClientM (Except Err (Option Instance))} {live : Instance → ClientM α}
    {release : ClientM α} {failed : Err → α} {wait : α} {R : α → Prop} (hw : P w)
    (hfind : find.wp S (fun r w => ∀ inst, r = .ok (some inst) → OwnInst a₀ who inst w) w)
    (hlive : ∀ inst, (live inst).Obeys (Uses endMethods) R)
    (hrelease : ∀ w, P w → release.wp S (fun _ _ => True) w) :
    (teardown find live release failed wait).wp S (fun _ _ => True) w :=
  wp_teardown_keep hS.lawful (hS.keeps hP) hw hfind
    (fun inst w _ => Prog.wp_mono (fun _ _ _ _ => trivial) (hS.frame (hlive inst) (by decide)))
    (fun id w => hS.frame (purgeInstanceVolumes_uses id (M := [.purgeInstanceVolumes]) (by decide))
      (by decide)) hrelease

/-! ## Passes over a machine -/

section

variable {vm vm' : VerdaMachine}

theorem pickByTag_eq_some {tag : String} {x : Except Sdk.ApiErr (List Sdk.Instance)} {inst : Instance}
    (h : pickByTag tag x = .ok (some inst)) :
    ∃ is, x = .ok is ∧ ∃ i ∈ is, tagOf i tagMachine = tag ∧ inst = toInstance i := by
  rcases x with e | is
  · cases h
  · have h : pickLive tagMachine tag (.ok is) = .ok (some inst) := h
    exact pickLive_eq_some h

theorem findInstance (hS : ForOwner S keys a₀ who)
    (hwho : who = .machine vm.metadata.ns vm.metadata.name) (hvm : KeepsRecords vm vm')
    (hw : OwnMachine a₀ who vm w) : (findInstance vm').wp S
      (fun r w => ∀ inst, r = .ok (some inst) → OwnInst a₀ who inst w) w := by
  rcases hvm with ⟨conditions, rfl⟩
  subst hwho
  rw [findInstance_eq]
  exact hS.lookupInstance hw.id fun x inst h => pickByTag_eq_some h

/-- A created instance of a machine carries its tag and neither of the others. -/
theorem carriesTag_machine (cluster : Cluster) (vc : VerdaCluster) (machine : Machine)
    (bootFrom : String) (script : Bytes) :
    CarriesTag (.machine vm.metadata.ns vm.metadata.name)
      (createRequest (instanceSpec cluster vc machine vm bootFrom script)) := by
  intro key hkey
  simp only [List.mem_cons, List.not_mem_nil, or_false] at hkey
  rcases hkey with rfl | rfl | rfl <;> rfl

/-- An instance that was found or created for a machine is its own. -/
theorem acquireInstance (hS : ForOwner S keys a₀ who) (hapart : Apart keys)
    (hwho : who = .machine vm.metadata.ns vm.metadata.name) (boot : BootstrapInput) (cluster : Cluster)
    (vc : VerdaCluster) (machine : Machine) (hw : OwnMachine a₀ who vm w) :
    (acquireInstance boot cluster vc machine vm).wp S
      (fun r w => ∀ inst, r.1 = .ok inst → OwnInst a₀ who inst w) w := by
  have hstable : ∀ r : Except Reply Instance × VerdaMachine,
      S.Stable fun w => ∀ inst, r.1 = .ok inst → OwnInst a₀ who inst w :=
    fun r w w' h hr _ inst hinst => lasting_ownIDs w w' (h inst hinst) (hS.rely hr)
  refine wp_acquireInstance hS.lawful hstable (Prog.wp_mono ?_ (hS.findInstance hwho (.refl vm) hw))
  rintro (e | (_ | inst)) w - hfound
  · exact fun inst h => by cases h
  · refine Prog.wp_mono ?_ (hS.frame (bootSource_uses vc vm) (by decide))
    rintro ⟨reply | bootFrom, vm'⟩ w - hvm'
    · exact fun inst h => by cases h
    · have hwho' : who = .machine vm'.metadata.ns vm'.metadata.name := by
        have hmeta : vm'.metadata = vm.metadata := by
          rcases hvm' with ⟨id, conditions, heq⟩
          have heq : vm' = _ := heq
          rw [heq]
        rw [hmeta]
        exact hwho
      subst hwho'
      refine Prog.wp_mono ?_ (wp_createMachineInstance
        (Q := fun r w => ∀ inst, r = .ok inst → OwnInst a₀ _ inst w)
        (fun r w w' h hr _ inst hinst => lasting_ownIDs w w' (h inst hinst) (hS.rely hr))
        (fun e inst h => by cases h) fun script => hS.createInstance hapart rfl
          (carriesTag_machine cluster vc machine bootFrom script) w)
      rintro (e | inst) w - hr
      · exact fun _ _ _ inst h => by cases h
      · exact fun inst' h => by
          cases h
          exact hr inst rfl
  · exact fun inst' h => by
      cases h
      exact hfound inst rfl

theorem tracksMachine (hS : ForOwner S keys a₀ who) (hapart : Apart keys)
    (hwho : who = .machine vm.metadata.ns vm.metadata.name) :
    TracksMachine S vm (HasInstance a₀ who) (HasScript a₀ who) where
  lawful := hS.lawful
  keeps := hS.keepsIDs
  resync _ := Prog.wp_mono (fun _ _ _ _ => trivial) (hS.frame (resyncInstance_uses vm) (by decide))
  acquire boot cluster vc machine {w} hw :=
    Prog.wp_mono (fun r w _ hr inst hinst => ownIDs_iff.1 (hr inst hinst))
      (hS.acquireInstance hapart hwho boot cluster vc machine (ownIDs_iff.2 hw))
  settle vc {vm' inst w} _ _ := Prog.wp_mono (fun _ _ _ _ => trivial)
    (hS.frame (settleInstance_uses vc vm' inst) (by decide))
  delete now {w} hw := by
    refine hS.teardown lasting_ownIDs (ownIDs_iff.2 hw) (hS.findInstance hwho ⟨_, rfl⟩ (ownIDs_iff.2 hw))
      (deleteLiveInstance_uses now _) fun w hw => ?_
    subst hwho
    have hscript : (deleteMachineScript (setInstanceReadyFalse vm "Deleting" "Deleting Verda instance")).wp
        S (fun _ _ => True) w := by
      refine hS.deleteRecorded hapart hw.script ?_ ?_ <;>
        rintro (e | u) w <;> exact fun _ _ _ => trivial
    refine Prog.wp_bind hS.lawful (Prog.wp_mono ?_ hscript)
    rintro ⟨e | u, vm₁⟩ w - -
    · exact fun _ _ _ => trivial
    · refine Prog.wp_bind hS.lawful (Prog.wp_mono ?_ (hS.frame (deleteOSVolume_uses vm₁
        (M := [.getVolume, .deleteVolume]) (by decide) (by decide)) (by decide)))
      rintro ⟨e | u, vm₂⟩ w - - <;> exact fun _ _ _ => trivial

end

/-! ## Programs of the client for a load balancer -/

section

variable {vc : VerdaCluster}

theorem pickLoadBalancer_eq_some {tag : String} {x : Except Sdk.ApiErr (List Sdk.Instance)}
    {inst : Instance} (h : pickLoadBalancer tag x = .ok (some inst)) :
    ∃ is, x = .ok is ∧ ∃ i ∈ is, tagOf i tagLoadBalancer = tag ∧ inst = toInstance i := by
  rcases x with e | is
  · cases h
  · rcases scan_eq_some (Except.ok.inj h) with ⟨i, hi, hwant, heq⟩
    exact ⟨is, rfl, i, hi, wantsTag_iff.1 hwant, heq⟩

theorem findLoadBalancer (hS : ForOwner S keys a₀ (lbOwner vc.metadata.ns vc.metadata.name .controlPlane))
    (hw : OwnLB a₀ vc .controlPlane w) : (findLoadBalancer vc).wp S (fun r w => ∀ inst,
      r = .ok (some inst) → OwnInst a₀ (lbOwner vc.metadata.ns vc.metadata.name .controlPlane) inst w) w := by
  rw [findLoadBalancer_eq]
  exact hS.lookupInstance hw.id fun x inst h => pickLoadBalancer_eq_some h

theorem findServiceLoadBalancer
    (hS : ForOwner S keys a₀ (lbOwner vc.metadata.ns vc.metadata.name .service))
    (hw : OwnLB a₀ vc .service w) : (findServiceLoadBalancer vc).wp S (fun r w => ∀ inst,
      r = .ok (some inst) → OwnInst a₀ (lbOwner vc.metadata.ns vc.metadata.name .service) inst w) w := by
  rw [Controller.findServiceLoadBalancer, findInstanceByStatusOrTag_eq]
  exact hS.lookupInstance hw.id fun x inst h => pickLive_eq_some h

/-- A created load balancer carries its tag and neither of the others. -/
theorem carriesTag_loadBalancer {spec : InstanceSpec} {cluster : Cluster}
    (h : spec.tags = loadBalancerTags cluster vc) :
    CarriesTag (lbOwner vc.metadata.ns vc.metadata.name .controlPlane) (createRequest spec) := by
  intro key hkey
  simp only [requestTag, createRequest, h]
  simp only [List.mem_cons, List.not_mem_nil, or_false] at hkey
  rcases hkey with rfl | rfl | rfl <;> rfl

theorem carriesTag_serviceLoadBalancer (scripts : LBScripts) (cluster : Cluster)
    (loadBalancerKeys : Keys) : CarriesTag (lbOwner vc.metadata.ns vc.metadata.name .service)
      (createRequest (serviceLoadBalancerSpec scripts cluster vc loadBalancerKeys)) := by
  intro key hkey
  simp only [List.mem_cons, List.not_mem_nil, or_false] at hkey
  rcases hkey with rfl | rfl | rfl <;> rfl

/-- Look an instance up, and create one if there is none. -/
theorem acquire (hS : ForOwner S keys a₀ who) (hapart : Apart keys)
    {find : ClientM (Except Err (Option Instance))} {spec : InstanceSpec}
    {failed : Err → VerdaCluster} (hhost : spec.hostname = who.hostname)
    (htags : CarriesTag who (createRequest spec))
    (hfind : find.wp S (fun r w => ∀ inst, r = .ok (some inst) → OwnInst a₀ who inst w) w) :
    (findOrCreate vc find (Cloud.createInstance spec) failed).wp S
      (fun r w => ∀ inst, r.1 = .ok inst → OwnInst a₀ who inst w) w :=
  wp_findOrCreate (F := fun _ => True) hS.lawful (fun _ => (hS.keeps lasting_ownIDs).stable)
    (Prog.wp_mono (fun _ _ _ h => ⟨fun _ => trivial, h⟩) hfind)
    fun w _ _ => hS.createInstance hapart hhost htags w

theorem acquireLoadBalancer (hapart : Apart keys)
    (hS : ForOwner S keys a₀ (lbOwner vc.metadata.ns vc.metadata.name .controlPlane))
    (scripts : LBScripts) (cluster : Cluster) (loadBalancerKeys : Keys)
    (hw : OwnLB a₀ vc .controlPlane w) :
    (acquireLoadBalancer scripts cluster vc loadBalancerKeys).wp S (fun r w => ∀ inst, r.1 = .ok inst →
      OwnInst a₀ (lbOwner vc.metadata.ns vc.metadata.name .controlPlane) inst w) w := by
  exact hS.acquire hapart rfl (carriesTag_loadBalancer rfl)
    (hS.findLoadBalancer hw)

theorem acquireServiceLoadBalancer (hapart : Apart keys)
    (hS : ForOwner S keys a₀ (lbOwner vc.metadata.ns vc.metadata.name .service))
    (scripts : LBScripts) (cluster : Cluster) (loadBalancerKeys : Keys)
    (hw : OwnLB a₀ vc .service w) :
    (acquireServiceLoadBalancer scripts cluster vc loadBalancerKeys).wp S (fun r w => ∀ inst,
      r.1 = .ok inst → OwnInst a₀ (lbOwner vc.metadata.ns vc.metadata.name .service) inst w) w := by
  exact hS.acquire hapart rfl (carriesTag_serviceLoadBalancer scripts cluster loadBalancerKeys)
    (hS.findServiceLoadBalancer hw)

theorem deleteServiceLoadBalancer (hapart : Apart keys)
    (hS : ForOwner S keys a₀ (lbOwner vc.metadata.ns vc.metadata.name .service)) (now : Time)
    (hw : OwnLB a₀ vc .service w) :
    (deleteServiceLoadBalancer now vc).wp S (fun _ _ => True) w := by
  refine hS.teardown lasting_ownIDs hw (hS.findServiceLoadBalancer hw)
    (deleteLiveServiceLB_uses now vc) fun w hw => ?_
  refine hS.deleteRecorded hapart hw.script ?_ ?_ <;>
    rintro (e | u) w <;> exact fun _ _ _ => trivial

theorem deleteLoadBalancer (hapart : Apart keys)
    (hS : ForOwner S keys a₀ (lbOwner vc.metadata.ns vc.metadata.name .controlPlane)) (now : Time)
    (hw : OwnLB a₀ vc .controlPlane w) : (deleteLoadBalancer now vc).wp S (fun _ _ => True) w := by
  refine hS.teardown lasting_ownIDs hw (hS.findLoadBalancer hw) (deleteLiveLB_uses now vc)
    fun w hw => ?_
  unfold releaseCluster
  dsimp only
  split
  · rename_i hne
    refine Prog.wp_bind hS.lawful (Prog.wp_mono ?_ (hS.deleteStartupScript (.inl (hw.script hne))))
    rintro (e | u) w - - <;> exact fun _ _ _ => trivial
  · split
    · refine Prog.wp_bind hS.lawful (Prog.wp_mono ?_ (hS.deleteStartupScriptByName hapart w))
      rintro (e | u) w - - <;> exact fun _ _ _ => trivial
    · exact fun _ _ _ => trivial

end

end ForOwner

end VerdaCapi.Controller
