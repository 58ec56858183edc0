import VerdaCapi.Controller.OneLoadBalancer
import VerdaCapi.Controller.ServiceCleanup

/-!
# What a released cluster leaves behind

When the finalizer of a cluster goes, nothing of its load balancers should be left: no instance that is
live, and no startup script, which carries the SSH host key. A recorded instance is never replaced, so
what is recorded is what is left; and where nothing is recorded, the tag and the hostname find it.

`released_leaves_nothing` is this for both load balancers. Passes ask the account that `identityRef`
names, so it may not be edited to name another one. For the service load balancer the listings of its
lookups have to show what is live first (`listsLive`).
-/

namespace VerdaCapi.Controller

open Remote Go Api Cloud Webhook

/-! ## What is left of a load balancer -/

/-- No instance of the load balancer is live. -/
def LBDown (lb : LoadBalancer) (w : World LoadBalancer) : Prop := ∀ e, e.owner = lb → ¬ MadeLive w e

/-- No instance of the load balancer is live but this one. -/
def LBOnly (lb : LoadBalancer) (id : String) (w : World LoadBalancer) : Prop :=
  ∀ e, e.owner = lb → MadeLive w e → e.id = id

/-- Of the startup scripts of the load balancer only this one is left. -/
def LBScript (lb : LoadBalancer) (sid : String) (w : World LoadBalancer) : Prop :=
  sid ≠ "" → OwnLeft (·.owner = lb) (·.id = sid) w

/-- Nothing of the load balancer is left. -/
def LBGone (lb : LoadBalancer) (w : World LoadBalancer) : Prop :=
  LBDown lb w ∧ OwnLeft (·.owner = lb) (fun _ => False) w

/-- What the records of a load balancer say: its live instance and its script are the recorded ones, if
any are recorded. -/
structure LBRecord (lb : LoadBalancer) (a : AccountID) (id sid : String) (w : World LoadBalancer) :
    Prop where
  known : id ≠ "" → ∃ e ∈ w.made, e.id = id
  only : id ≠ "" → LBOnly lb id w
  rows : id ≠ "" → ∀ i ∈ (w.account a).instances.rows, i.id = id →
    LBScript lb (toInstance i).startupScriptID w
  script : LBScript lb sid w
  blank : id = "" → sid = ""

/-- The instances and the log, in every state. -/
structure LBWorld (lb : LoadBalancer) (tag host : String) (a : AccountID) (w : World LoadBalancer) :
    Prop where
  one : OneTaken lb tag w
  logged : ∀ b, ∀ i ∈ (w.account b).instances.rows, Taken lb tag i → ∃ e ∈ w.made, e.id = i.id
  tagged : ∀ e ∈ w.made, e.owner = lb → e.kind = .instance_ →
    ∀ i ∈ (w.account e.account).instances.rows, i.id = e.id → tagOf i lb.tagKey = tag
  home : ∀ e ∈ w.made, e.owner = lb → e.kind = .instance_ ∨ e.kind = .script → e.account = a
  scripts : ∀ i ∈ (w.account a).instances.rows, Taken lb tag i →
    LBScript lb (toInstance i).startupScriptID w
  ids : ∀ b, ∀ i ∈ (w.account b).instances.rows, i.id ≠ ""
  named : ScriptsNamed (fun lb' n => lb' = lb → n = host) w

/-- A later record of an instance, as far as a load balancer is concerned. -/
structure Continues (i i' : Sdk.Instance) : Prop where
  id : i'.id = i.id
  tags : i'.tags = i.tags
  script : i'.startupScriptID = i.startupScriptID
  live : isGone i' = false → isGone i = false

/-- Nothing more of the load balancer is there than before. -/
structure LBShrinks (lb : LoadBalancer) (tag : String) (w w' : World LoadBalancer) : Prop where
  rows : ∀ b, ∀ i' ∈ (w'.account b).instances.rows,
    (∃ i ∈ (w.account b).instances.rows, Continues i i') ∨
      (w.Unused [i'.id] ∧ tagOf i' lb.tagKey ≠ tag)
  made : ∀ e ∈ w'.made, e.owner = lb → e.kind = .instance_ ∨ e.kind = .script → e ∈ w.made
  grows : ∀ e ∈ w.made, e ∈ w'.made
  scripts : ∀ b, ∀ s' ∈ (w'.account b).scripts.rows,
    (∃ s ∈ (w.account b).scripts.rows, s'.id = s.id ∧ s'.name = s.name) ∨ w.Unused [s'.id]

section

variable {lb lb' : LoadBalancer} {tag host id sid : String} {a b : AccountID} {i i' i'' : Sdk.Instance}
  {w w' w'' : World LoadBalancer} {c : Call} {ch : Choice} {e : Made LoadBalancer}

theorem Continues.of_keeps (h : Keeps i i') : Continues i i' where
  id := h.id
  tags := h.tags
  script := h.script
  live hlive := by
    by_contra hgone
    have hgone' := h.gone (by simpa using hgone)
    rw [hlive] at hgone'
    cases hgone'

theorem Continues.trans (h : Continues i i') (h' : Continues i' i'') : Continues i i'' where
  id := h'.id.trans h.id
  tags := h'.tags.trans h.tags
  script := h'.script.trans h.script
  live hlive := h.live (h'.live hlive)

theorem Continues.tagOf (h : Continues i i') (key : String) : tagOf i' key = tagOf i key := by
  simp only [Cloud.tagOf, toInstance, h.tags]

theorem Continues.taken (h : Continues i i') (ht : Taken lb tag i') : Taken lb tag i :=
  ⟨(h.tagOf lb.tagKey).symm.trans ht.1, fun hlb => h.live (ht.2 hlb)⟩

theorem Continues.startupScriptID (h : Continues i i') :
    (toInstance i').startupScriptID = (toInstance i).startupScriptID := by
  simp only [toInstance, h.script]

/-- What is not handed out later was not handed out before. -/
theorem unused_of_grows (hgrows : ∀ e ∈ w.made, e ∈ w'.made) {ids : List String} (h : w'.Unused ids) :
    w.Unused ids :=
  fun id hid => ⟨(h id hid).1, fun e he => (h id hid).2 e (hgrows e he)⟩

theorem Unused.ne (h : w.Unused [id]) (he : e ∈ w.made) : e.id ≠ id :=
  (h id List.mem_cons_self).2 e he

theorem LBShrinks.refl (lb : LoadBalancer) (tag : String) (w : World LoadBalancer) :
    LBShrinks lb tag w w where
  rows _ i hi := .inl ⟨i, hi, .of_keeps (.refl i)⟩
  made _ he _ _ := he
  grows _ he := he
  scripts _ s hs := .inl ⟨s, hs, rfl, rfl⟩

theorem LBShrinks.trans (h : LBShrinks lb tag w w') (h' : LBShrinks lb tag w' w'') :
    LBShrinks lb tag w w'' where
  rows b i'' hi'' := by
    obtain ⟨i', hi', hc'⟩ | ⟨hunused, htag⟩ := h'.rows b i'' hi''
    · obtain ⟨i, hi, hc⟩ | ⟨hunused, htag⟩ := h.rows b i' hi'
      · exact .inl ⟨i, hi, hc.trans hc'⟩
      · refine .inr ⟨?_, ?_⟩
        · rw [hc'.id]
          exact hunused
        · rw [hc'.tagOf]
          exact htag
    · exact .inr ⟨unused_of_grows h.grows hunused, htag⟩
  made e he ho hk := h.made e (h'.made e he ho hk) ho hk
  grows e he := h'.grows e (h.grows e he)
  scripts b s'' hs'' := by
    obtain ⟨s', hs', hid', hname'⟩ | hunused := h'.scripts b s'' hs''
    · obtain ⟨s, hs, hid, hname⟩ | hunused := h.scripts b s' hs'
      · exact .inl ⟨s, hs, hid'.trans hid, hname'.trans hname⟩
      · refine .inr ?_
        rw [hid']
        exact hunused
    · exact .inr (unused_of_grows h.grows hunused)

/-! ## What stays true when nothing is added -/

theorem LBShrinks.live (h : LBShrinks lb tag w w') (ho : e.owner = lb) (he : MadeLive w' e) :
    MadeLive w e := by
  obtain ⟨hmade, hkind, i', hi', hid, hlive⟩ := he
  have hmade := h.made e hmade ho (.inl hkind)
  obtain ⟨i, hi, hc⟩ | ⟨hunused, -⟩ := h.rows e.account i' hi'
  · exact ⟨hmade, hkind, i, hi, hc.id.symm.trans hid, hc.live hlive⟩
  · exact absurd hid.symm (Unused.ne hunused hmade)

theorem LBShrinks.script (h : LBShrinks lb tag w w') (ho : e.owner = lb) (he : e ∈ w'.made)
    (hleft : ScriptLeft w' e) : e ∈ w.made ∧ ScriptLeft w e := by
  obtain ⟨hkind, s', hs', hid⟩ := hleft
  have hmade := h.made e he ho (.inr hkind)
  obtain ⟨s, hs, hsid, -⟩ := scriptLeft_of_drift h.scripts hmade hs' hid
  exact ⟨hmade, hkind, s, hs, hsid⟩

theorem LBShrinks.ownLeft {P : Made LoadBalancer → Prop} (h : LBShrinks lb tag w w')
    (hw : OwnLeft (·.owner = lb) P w) : OwnLeft (·.owner = lb) P w' := by
  intro e he hleft ho
  obtain ⟨he', hleft'⟩ := h.script ho he hleft
  exact hw e he' hleft' ho

theorem LBDown.shrink (hw : LBDown lb w) (h : LBShrinks lb tag w w') : LBDown lb w' :=
  fun e ho he => hw e ho (h.live ho he)

theorem LBOnly.shrink (hw : LBOnly lb id w) (h : LBShrinks lb tag w w') : LBOnly lb id w' :=
  fun e ho he => hw e ho (h.live ho he)

theorem LBScript.shrink (hw : LBScript lb sid w) (h : LBShrinks lb tag w w') : LBScript lb sid w' :=
  fun hne => h.ownLeft (hw hne)

theorem LBGone.shrink (hw : LBGone lb w) (h : LBShrinks lb tag w w') : LBGone lb w' :=
  ⟨hw.1.shrink h, h.ownLeft hw.2⟩

theorem NoTaken.shrink (hw : NoTaken lb tag b w) (h : LBShrinks lb tag w w') : NoTaken lb tag b w' := by
  intro i' hi' ht
  obtain ⟨i, hi, hc⟩ | ⟨-, hne⟩ := h.rows b i' hi'
  · exact hw i hi (hc.taken ht)
  · exact hne ht.1

theorem LBRecord.shrink (hw : LBRecord lb a id sid w) (h : LBShrinks lb tag w w') :
    LBRecord lb a id sid w' where
  known hne := by
    obtain ⟨e, he, heid⟩ := hw.known hne
    exact ⟨e, h.grows e he, heid⟩
  only hne := (hw.only hne).shrink h
  rows hne i' hi' hid := by
    obtain ⟨i, hi, hc⟩ | ⟨hunused, -⟩ := h.rows a i' hi'
    · rw [hc.startupScriptID]
      exact (hw.rows hne i hi (hc.id.symm.trans hid)).shrink h
    · -- an instance that drifts in has an ID of its own
      obtain ⟨e, he, heid⟩ := hw.known hne
      exact absurd (heid.trans hid.symm) (Unused.ne hunused he)
  script := hw.script.shrink h
  blank := hw.blank

/-- What is blank says nothing. -/
theorem LBRecord.empty (lb : LoadBalancer) (a : AccountID) (w : World LoadBalancer) :
    LBRecord lb a "" "" w :=
  ⟨fun h => absurd rfl h, fun h => absurd rfl h, fun h => absurd rfl h, fun h => absurd rfl h, fun _ => rfl⟩

/-- A script that is forgotten can be found by name. -/
theorem LBRecord.forget (hw : LBRecord lb a id sid w) : LBRecord lb a id "" w :=
  ⟨hw.known, hw.only, hw.rows, fun h => absurd rfl h, fun _ => rfl⟩

theorem LBWorld.shrink (hw : LBWorld lb tag host a w) (h : LBShrinks lb tag w w') :
    LBWorld lb tag host a w' where
  one b i' hi' j' hj' hti htj := by
    obtain ⟨i, hi, hci⟩ | ⟨-, hne⟩ := h.rows b i' hi'
    · obtain ⟨j, hj, hcj⟩ | ⟨-, hne⟩ := h.rows b j' hj'
      · rw [hci.id, hcj.id]
        exact hw.one b i hi j hj (hci.taken hti) (hcj.taken htj)
      · exact absurd htj.1 hne
    · exact absurd hti.1 hne
  logged b i' hi' ht := by
    obtain ⟨i, hi, hc⟩ | ⟨-, hne⟩ := h.rows b i' hi'
    · obtain ⟨e, he, heid⟩ := hw.logged b i hi (hc.taken ht)
      exact ⟨e, h.grows e he, heid.trans hc.id.symm⟩
    · exact absurd ht.1 hne
  tagged e he ho hk i' hi' hid := by
    have he := h.made e he ho (.inl hk)
    obtain ⟨i, hi, hc⟩ | ⟨hunused, -⟩ := h.rows e.account i' hi'
    · rw [hc.tagOf]
      exact hw.tagged e he ho hk i hi (hc.id.symm.trans hid)
    · exact absurd hid.symm (Unused.ne hunused he)
  home e he ho hk := hw.home e (h.made e he ho hk) ho hk
  scripts i' hi' ht := by
    obtain ⟨i, hi, hc⟩ | ⟨-, hne⟩ := h.rows a i' hi'
    · rw [hc.startupScriptID]
      exact (hw.scripts i hi (hc.taken ht)).shrink h
    · exact absurd ht.1 hne
  ids b i' hi' := by
    obtain ⟨i, hi, hc⟩ | ⟨hunused, -⟩ := h.rows b i' hi'
    · rw [hc.id]
      exact hw.ids b i hi
    · exact (hunused i'.id List.mem_cons_self).1
  named e he hk s' hs' hid ho := by
    have he := h.made e he ho (.inr hk)
    obtain ⟨s, hs, hsid, hname⟩ := scriptLeft_of_drift h.scripts he hs' hid
    rw [hname]
    exact hw.named e he hk s hs hsid ho

/-! ## Requests that add nothing -/

/-- The request does not add to the load balancer: it creates nothing for it, and nothing under its
tag. -/
structure AddsNone (lb : LoadBalancer) (tag : String) (lb' : LoadBalancer) (c : Call) : Prop where
  create : ∀ req, c.op = .instancesCreate req → lb' ≠ lb ∧ requestTag req lb.tagKey ≠ tag
  add : ∀ n script, c.op = .scriptsAdd n script → lb' ≠ lb

theorem AddsNone.of_uses {M : List Method} (h : Uses M c) (hM : .createInstance ∉ M) :
    AddsNone lb tag lb' c :=
  ⟨fun req hreq => absurd hreq (h.ne_instancesCreate hM req),
    fun n script hadd => absurd hadd (h.ne_scriptsAdd hM n script)⟩

theorem LBShrinks.answer {x : Call.Res c} (hc : AddsNone lb tag lb' c)
    (hans : Cloud.answer lb' ch w (a, c) = some (x, w')) : LBShrinks lb tag w w' where
  rows b i' hi' := by
    obtain ⟨i, hi, hk⟩ | ⟨-, req, vs, hreq, hcr, -⟩ := answer_instances hans b i' hi'
    · exact .inl ⟨i, hi, .of_keeps hk⟩
    · refine .inr ⟨fun id hid => hcr.unused id ?_, ?_⟩
      · rw [List.mem_singleton.1 hid]
        exact List.mem_cons_self
      · rw [hcr.tagOf]
        exact (hc.create req hreq).2
  made e he ho hk := by
    obtain hold | ⟨hmakes, howner, -⟩ := answer_logged hans he
    · exact hold
    · -- what is logged for the load balancer would be a creation for it
      have hlb : lb' = lb := howner.symm.trans ho
      obtain ⟨req, hop, -⟩ | ⟨_, _, _, -, hkind⟩ | ⟨n, script, hop, -⟩ := makes_cases hmakes
      · exact absurd hlb (hc.create req hop).1
      · rw [hkind] at hk
        rcases hk with hk | hk <;> cases hk
      · exact absurd hlb (hc.add n script hop)
  grows := answer_grows hans
  scripts b s' hs' := by
    obtain ⟨m, op⟩ := c
    by_cases hop : ∃ n script, op = .scriptsAdd n script
    · obtain ⟨n, script, rfl⟩ := hop
      obtain rfl | ⟨s, hsc, rfl⟩ := answer_scriptsAdd hans
      · exact .inl ⟨s', hs', rfl, rfl⟩
      · obtain ⟨-, rfl⟩ | hold := mem_addScript.1 hs'
        · exact .inr hsc.unused
        · exact .inl ⟨s', hold, rfl, rfl⟩
    · have hkeep := answer_keepsScripts (fun n script h => hop ⟨n, script, h⟩) hans
      exact .inl ⟨s', hkeep.rows b s' hs', rfl, rfl⟩

theorem LBShrinks.drift (lb : LoadBalancer) {addressOf : AccountID → String → String} {d : ClusterDrift}
    {v v' : ClusterWorld} (h : clusterDrift addressOf tag d v = some v') :
    LBShrinks lb tag v.cloud v'.cloud := by
  obtain ⟨hmade, hrows⟩ := clusterDrift_instances h
  refine ⟨fun b i' hi' => ?_, fun e he _ _ => hmade ▸ he, fun e he => hmade ▸ he,
    clusterDrift_scripts h⟩
  obtain ⟨i, hi, hk⟩ | ⟨hunused, hnot⟩ := hrows b i' hi'
  · exact .inl ⟨i, hi, .of_keeps hk⟩
  · refine .inr ⟨hunused, fun htag => ?_⟩
    cases lb <;> simp [hasClusterTag] at hnot
    · exact hnot.1 htag
    · exact hnot.2 htag

/-! ## Requests that add -/

/-- Where a lookup by tag finds none, none is live. -/
theorem LBWorld.down (hw : LBWorld lb tag host a w) (hfree : NoTaken lb tag a w) : LBDown lb w := by
  rintro e ho ⟨hmade, hkind, i, hi, hid, hlive⟩
  have htag := hw.tagged e hmade ho hkind i hi hid
  rw [hw.home e hmade ho (.inl hkind)] at hi
  exact hfree i hi (taken_of_live htag hlive)

/-- Where it finds one, no other is live. -/
theorem LBWorld.only (hw : LBWorld lb tag host a w) (hi : i ∈ (w.account a).instances.rows)
    (ht : Taken lb tag i) : LBOnly lb i.id w := by
  rintro e ho ⟨hmade, hkind, j, hj, hid, hlive⟩
  have htag := hw.tagged e hmade ho hkind j hj hid
  rw [hw.home e hmade ho (.inl hkind)] at hj
  exact hid.symm.trans (hw.one a j hj i hi (taken_of_live htag hlive) ht)

/-- When an instance of the load balancer may be asked for. -/
structure LBMayCreate (lb : LoadBalancer) (tag : String) (a : AccountID)
    (req : Sdk.CreateInstanceRequest) (w : World LoadBalancer) : Prop where
  free : NoTaken lb tag a w
  tagged : requestTag req lb.tagKey = tag
  script : ∀ s, req.startupScriptID = some s → OwnLeft (·.owner = lb) (·.id = s) w

/-- The script of a new instance is the only one that is left. -/
theorem LBMayCreate.scripts {req : Sdk.CreateInstanceRequest} {vs : List Sdk.Volume}
    (h : LBMayCreate lb tag a req w) (hc : Creates w a req i vs) :
    LBScript lb (toInstance i).startupScriptID w := by
  intro hne
  obtain hnone | hsame := hc.script
  · exact absurd (by simp [toInstance, hnone]) hne
  · cases hs : req.startupScriptID with
    | none => exact absurd (by simp [toInstance, hsame, hs]) hne
    | some s =>
      have hsid : (toInstance i).startupScriptID = s := by simp [toInstance, hsame, hs]
      rw [hsid]
      exact h.script s hs

/-- A creation, and what it makes true of the records of the new instance. -/
theorem LBWorld.created {m : Method} {req : Sdk.CreateInstanceRequest}
    {x : Except Sdk.ApiErr Sdk.Instance} (hw : LBWorld lb tag host a w)
    (hmay : LBMayCreate lb tag a req w)
    (hans : answer lb ch w (a, ⟨m, .instancesCreate req⟩) = some (x, w')) :
    LBWorld lb tag host a w' ∧ ∀ i, x = .ok i → i.id ≠ "" ∧
      ∀ sid, LBScript lb sid w → LBRecord lb a i.id sid w' := by
  have hkeep : KeepsScripts w w' := answer_keepsScripts (fun _ _ h => by cases h) hans
  have hleft : ∀ {sid}, LBScript lb sid w → LBScript lb sid w' := fun h hne => (h hne).keeps hkeep
  have hone : OneTaken lb tag w' := hw.one.answer (fun _ _ _ => hmay.free) hans
  have hnamed : ScriptsNamed (fun lb' n => lb' = lb → n = host) w' :=
    hw.named.answer (fun _ _ h => by cases h) hans
  obtain ⟨rfl, e, rfl⟩ | ⟨i, vs, hc, rfl, hx⟩ := answer_instancesCreate hans
  · exact ⟨hw, fun i h => by cases h⟩
  · have hscript := hleft (hmay.scripts hc)
    have hold : ∀ j ∈ (w.account a).instances.rows, j.id ≠ i.id := by
      have hnodup := hc.instances
      simp only [List.singleton_append, List.map_cons, List.nodup_cons] at hnodup
      exact fun j hj hid => hnodup.1 (List.mem_map.2 ⟨j, hj, hid⟩)
    have hnew : (⟨lb, .instance_, a, i.id⟩ : Made LoadBalancer) ∈ (w.create lb a hc).made :=
      (mem_create_made_instance rfl).2 (.inl rfl)
    refine ⟨⟨hone, ?_, ?_, ?_, ?_, ?_, hnamed⟩, ?_⟩
    · intro b j hj ht
      obtain ⟨rfl, rfl⟩ | hj := mem_create_instances.1 hj
      · exact ⟨_, hnew, rfl⟩
      · obtain ⟨e, he, heid⟩ := hw.logged b j hj ht
        exact ⟨e, answer_grows hans e he, heid⟩
    · intro e he ho hk j hj hid
      obtain rfl | he := (mem_create_made_instance hk).1 he
      · obtain ⟨-, rfl⟩ | hj := mem_create_instances.1 hj
        · exact (hc.tagOf _).trans hmay.tagged
        · exact absurd hid (hold j hj)
      · obtain ⟨-, rfl⟩ | hj := mem_create_instances.1 hj
        · exact (hc.tagOf _).trans hmay.tagged
        · exact hw.tagged e he ho hk j hj hid
    · intro e he ho hk
      rcases hk with hk | hk
      · obtain rfl | he := (mem_create_made_instance hk).1 he
        · rfl
        · exact hw.home e he ho (.inl hk)
      · exact hw.home e ((hkeep.made e hk).1 he) ho (.inr hk)
    · intro j hj ht
      obtain ⟨-, rfl⟩ | hj := mem_create_instances.1 hj
      · exact hscript
      · exact absurd ht (hmay.free j hj)
    · intro b j hj
      obtain ⟨-, rfl⟩ | hj := mem_create_instances.1 hj
      · exact (hc.unused j.id List.mem_cons_self).1
      · exact hw.ids b j hj
    · rintro j rfl
      obtain rfl : j = i := by
        obtain hj | ⟨e, hj⟩ := hx <;> cases hj
        rfl
      refine ⟨(hc.unused j.id List.mem_cons_self).1, fun sid hsid => ⟨fun _ => ⟨_, hnew, rfl⟩, ?_, ?_,
        hleft hsid, fun h => absurd h (hc.unused j.id List.mem_cons_self).1⟩⟩
      · -- nothing was live before
        intro _ e ho he
        obtain rfl | he := madeLive_of_create he
        · rfl
        · exact absurd he (hw.down hmay.free e ho)
      · intro _ k hk hid
        obtain ⟨-, rfl⟩ | hk := mem_create_instances.1 hk
        · exact hscript
        · exact absurd hid (hold k hk)

/-- A script that is handed out is the one that was added. -/
theorem answer_addedScript {m : Method} {n : String} {script : Bytes} {s : Sdk.StartupScript}
    (h : answer lb ch w (a, ⟨m, .scriptsAdd n script⟩) = some (.ok s, w')) :
    ∃ hs : Scripts w a n script s, w' = w.addScript lb a hs := by
  refine answer_cases (P := fun x w' => ∀ s : Sdk.StartupScript, x = .ok s →
      ∃ hs : Scripts w a n script s, w' = w.addScript lb a hs)
    h (fun e _ s hx => by cases hx) ?_ (fun _ _ _ e _ _ s hx => by cases hx) s rfl
  intro fx x w' h s hx
  cases fx <;> simp only [react, reduceCtorEq] at h
  split at h
  · rename_i hs
    cases h
    cases hx
    exact ⟨hs, rfl⟩
  · cases h

/-- A script is added where a lookup by tag finds no instance. -/
theorem LBWorld.added {m : Method} {script : Bytes} {x : Except Sdk.ApiErr Sdk.StartupScript}
    (hw : LBWorld lb tag host a w) (hfree : NoTaken lb tag a w)
    (hans : answer lb ch w (a, ⟨m, .scriptsAdd host script⟩) = some (x, w')) :
    LBWorld lb tag host a w' ∧ NoTaken lb tag a w' ∧ ∀ s, x = .ok s →
      OwnLeft (·.owner = lb) (fun _ => False) w → OwnLeft (·.owner = lb) (·.id = s.id) w' := by
  have hcreate : ∀ req, (⟨m, .scriptsAdd host script⟩ : Call).op ≠ .instancesCreate req :=
    fun _ h => by cases h
  have hkeep : KeepsInstances w w' := answer_keepsInstances hcreate hans
  have hfree' : NoTaken lb tag a w' := hfree.keeps fun i' hi' _ => hkeep.rows a i' hi'
  refine ⟨⟨hw.one.keeps fun b i' hi' _ => hkeep.rows b i' hi', ?_, ?_, ?_, ?_, ?_, ?_⟩, hfree', ?_⟩
  · intro b i' hi' ht
    obtain ⟨i, hi, hk⟩ := hkeep.rows b i' hi'
    obtain ⟨e, he, heid⟩ := hw.logged b i hi (ht.of_keeps hk)
    exact ⟨e, answer_grows hans e he, heid.trans hk.id.symm⟩
  · intro e he ho hkind i' hi' hid
    obtain ⟨i, hi, hk⟩ := hkeep.rows e.account i' hi'
    rw [hk.tagOf]
    exact hw.tagged e ((hkeep.made e hkind).1 he) ho hkind i hi (hk.id.symm.trans hid)
  · intro e he ho hkind
    obtain hold | ⟨-, -, haccount⟩ := answer_logged hans he
    · exact hw.home e hold ho hkind
    · exact haccount
  · exact fun i' hi' ht => absurd ht (hfree' i' hi')
  · intro b i' hi'
    obtain ⟨i, hi, hk⟩ := hkeep.rows b i' hi'
    rw [hk.id]
    exact hw.ids b i hi
  · refine hw.named.answer ?_ hans
    rintro n _ ⟨⟩ -
    rfl
  · rintro s rfl hnone e he hleft ho
    obtain ⟨hs, rfl⟩ := answer_addedScript hans
    obtain rfl | hold := List.mem_cons.1 he
    · rfl
    · -- an old one is left only if it was left before
      obtain ⟨hkind, t, ht, hid⟩ := hleft
      obtain ⟨-, rfl⟩ | ht := mem_addScript.1 ht
      · exact absurd hid.symm (Unused.ne hs.unused hold)
      · exact absurd ⟨hkind, t, ht, hid⟩ fun hl => hnone e hold hl ho

/-- The only live one is gone. -/
theorem LBWorld.down_of_gone (hw : LBWorld lb tag host a w) (honly : LBOnly lb id w)
    (hgone : ∀ i ∈ (w.account a).instances.rows, i.id = id → isGone i = true) : LBDown lb w := by
  intro e ho hl
  have heid := honly e ho hl
  obtain ⟨hmade, hkind, i, hi, hid, hlive⟩ := hl
  rw [hw.home e hmade ho (.inl hkind)] at hi
  rw [hgone i hi (hid.trans heid)] at hlive
  cases hlive

end

/-! ## The invariant -/

/-- `identityRef` is not edited to name another account; and whenever the service load balancer is looked
up by its tag, what is live is listed first. -/
abbrev keepsAccount (lb : LoadBalancer) (tag : String) : ClusterConds where
  call := (listsLive lb tag).call
  edit _ e vc := ∀ vc' ∈ editCluster e vc, clusterAccount vc' = clusterAccount vc

/-- What a pass sends is without the finalizer. -/
def ClusterReleased (out : ClusterOutcome) : Prop :=
  ∃ sent ∈ out.sent, clusterFinalizer ∉ sent.metadata.finalizers

instance (out : ClusterOutcome) : Decidable (ClusterReleased out) :=
  inferInstanceAs (Decidable (∃ sent ∈ out.sent, _))

/-- A request adds nothing to the load balancer; or the finalizer is there, nothing is recorded, a lookup
by tag finds nothing, and it creates the instance or the script. -/
def LBMayAsk (lb : LoadBalancer) (tag host : String) (home : AccountID) (vc : VerdaCluster)
    (w : World LoadBalancer) (a : AccountID) (lb' : LoadBalancer) (c : Call) : Prop :=
  AddsNone lb tag lb' c ∨ (lb' = lb ∧ a = home ∧ clusterFinalizer ∈ vc.metadata.finalizers ∧
    (lbStatus vc lb).instanceID = "" ∧
    ((∃ req, c.op = .instancesCreate req ∧ LBMayCreate lb tag home req w) ∨
      ∃ script, c.op = .scriptsAdd host script ∧ NoTaken lb tag home w ∧
        (lb = .controlPlane → vc.loadBalancerEnabled = true)))

/-- The stored cluster: what it records is right, a control plane load balancer that is disabled has no
script, and without the finalizer nothing is left. -/
structure LBStored (lb : LoadBalancer) (ns name : String) (a : AccountID) (vc : VerdaCluster)
    (w : World LoadBalancer) : Prop where
  ns : vc.metadata.ns = ns
  name : vc.metadata.name = name
  account : clusterAccount vc = a
  record : LBRecord lb a (lbStatus vc lb).instanceID (lbStatus vc lb).startupScriptID w
  disabled : lb = .controlPlane → vc.loadBalancerEnabled = false →
    OwnLeft (·.owner = lb) (fun _ => False) w
  held : clusterFinalizer ∉ vc.metadata.finalizers → LBGone lb w

def leavesNothing (addressOf : AccountID → String → String) (ns name : String) (lb : LoadBalancer)
    (a : AccountID) :
    Invariant (clusterSystem addressOf ns name) (keepsAccount lb (clusterTagFor ns name)) where
  inv w := LBWorld lb (clusterTagFor ns name) (LBKey.hostname (name, lb)) a w.cloud
  loc _ vc w := LBStored lb ns name a vc w.cloud
  touch _ vc vc' := ClusterTouched vc vc' ∧ vc'.identitySecretName = vc.identitySecretName
  rely _ w w' := LBShrinks lb (clusterTagFor ns name) w.cloud w'.cloud
  guar _ vc w o := ∀ lb' c, o.2 = .verda lb' c → LBMayAsk lb (clusterTagFor ns name)
    (LBKey.hostname (name, lb)) a vc w.cloud o.1 lb' c
  done _ _ out w := ClusterReleased out → LBGone lb w.cloud

section

variable {addressOf : AccountID → String → String} {ns name tag host : String} {lb lb' : LoadBalancer}
  {vc vc₁ : VerdaCluster} {cluster : Cluster} {a : AccountID} {w w' : ClusterWorld} {α : Type}

theorem LBStored.shrink {w w' : World LoadBalancer} (h : LBStored lb ns name a vc w)
    (hs : LBShrinks lb tag w w') : LBStored lb ns name a vc w' :=
  ⟨h.ns, h.name, h.account, h.record.shrink hs, fun hlb hoff => hs.ownLeft (h.disabled hlb hoff),
    fun hfin => (h.held hfin).shrink hs⟩

/-- A request issued under the guarantee keeps what is known of the world and of the stored cluster. -/
theorem LBWorld.asked {w w' : World LoadBalancer} {b : AccountID} {c : Call} {ch : Choice}
    {x : Call.Res c} (hw : LBWorld lb tag host a w) (hvc : LBStored lb ns name a vc w)
    (hg : LBMayAsk lb tag host a vc w b lb' c) (hans : Cloud.answer lb' ch w (b, c) = some (x, w')) :
    LBWorld lb tag host a w' ∧ LBStored lb ns name a vc w' := by
  obtain hnone | ⟨rfl, rfl, hfin, hid, hadd⟩ := hg
  · have hs : LBShrinks lb tag w w' := .answer hnone hans
    exact ⟨hw.shrink hs, hvc.shrink hs⟩
  · have hrecord : ∀ w, LBRecord lb' b (lbStatus vc lb').instanceID (lbStatus vc lb').startupScriptID w := by
      intro w
      rw [hvc.record.blank hid, hid]
      exact .empty lb' b w
    obtain ⟨m, op⟩ := c
    obtain ⟨req, hop, hmay⟩ | ⟨script, hop, hfree, henabled⟩ := hadd
    · subst hop
      have hkeep : KeepsScripts w w' := answer_keepsScripts (fun _ _ h => by cases h) hans
      exact ⟨(hw.created hmay hans).1, hvc.ns, hvc.name, hvc.account, hrecord w',
        fun hlb hoff => (hvc.disabled hlb hoff).keeps hkeep, fun hnot => absurd hfin hnot⟩
    · subst hop
      refine ⟨(hw.added hfree hans).1, hvc.ns, hvc.name, hvc.account, hrecord w', fun hlb hoff => ?_,
        fun hnot => absurd hfin hnot⟩
      rw [henabled hlb] at hoff
      cases hoff

/-- The setting of a pass, with the client of one account. -/
abbrev releaseAt (addressOf : AccountID → String → String) (ns name : String) (lb : LoadBalancer)
    (a : AccountID) (vc : VerdaCluster) : Setting ClusterWorld ClusterCall ClusterCall.Res :=
  atClient ((leavesNothing addressOf ns name lb a).setting () vc) a

theorem release_lawful : (releaseAt addressOf ns name lb a vc).Lawful :=
  Setting.Lawful.atClient ⟨fun _ => .refl _ _ _, .trans⟩

/-- A fact that only needs nothing to be added. -/
def LBShrinking (lb : LoadBalancer) (tag : String) (P : World LoadBalancer → Prop) : Prop :=
  ∀ w w', P w → LBShrinks lb tag w w' → P w'

/-- A step of the client. -/
theorem release_step {c : Call} {x : Call.Res c}
    (hs : (atVerda (releaseAt addressOf ns name lb a vc) lb').step w c x w') :
    (listsLive lb (clusterTagFor ns name)).call () vc w (a, .verda lb' c) ∧
      ∃ ch, answer lb' ch w.cloud (a, c) = some (x, w'.cloud) := by
  obtain ⟨hcond, ch, hans⟩ := atClient_step.1 (atVerda_step.1 hs)
  obtain ⟨ch', hans', -⟩ := clusterAnswer_verda hans
  exact ⟨hcond, ch', hans'⟩

theorem release_allowed {c : Call} (hc : AddsNone lb (clusterTagFor ns name) lb' c) :
    (atVerda (releaseAt addressOf ns name lb a vc) lb').guar w c := by
  rintro _ _ ⟨⟩
  exact .inl hc

/-- A part that adds nothing keeps what is known. -/
theorem release_frame {p : ClusterM α} {A : ClusterCall → Prop} {R : α → Prop}
    {P : World LoadBalancer → Prop} (hp : p.Obeys A R)
    (hA : ∀ c, A c → ∀ lb' c', c = .verda lb' c' → AddsNone lb (clusterTagFor ns name) lb' c')
    (hP : LBShrinking lb (clusterTagFor ns name) P) (hw : P w.cloud) :
    p.wp (releaseAt addressOf ns name lb a vc) (fun r w => P w.cloud ∧ R r) w := by
  refine Prog.wp_frame (P := fun w : ClusterWorld => P w.cloud) hp (fun w w' h hr _ => hP _ _ h hr) ?_ ?_ hw
  · rintro w c hc - - lb' c' rfl
    exact .inl (hA _ hc lb' c' rfl)
  · intro w c x w' hc hw _ hs _
    obtain ⟨-, ch, hans⟩ := atClient_step.1 hs
    obtain ⟨lb', c', rfl⟩ | hnot := verda_or_notVerda c
    · obtain ⟨ch', hans', -⟩ := clusterAnswer_verda hans
      exact hP _ _ hw (.answer (hA _ hc lb' c' rfl) hans')
    · rw [(clusterAnswer_other hnot hans).1]
      exact hw

/-- The same for a program of the client. -/
theorem release_verda {p : ClientM α} {A : Call → Prop} {R : α → Prop} {P : World LoadBalancer → Prop}
    (hp : p.Obeys A R) (hA : ∀ c, A c → AddsNone lb (clusterTagFor ns name) lb' c)
    (hP : LBShrinking lb (clusterTagFor ns name) P) (hw : P w.cloud) :
    p.wp (atVerda (releaseAt addressOf ns name lb a vc) lb') (fun r w => P w.cloud ∧ R r) w := by
  refine Prog.wp_frame (P := fun w : ClusterWorld => P w.cloud) hp (fun w w' h hr _ => hP _ _ h hr)
    (fun w c hc _ _ => release_allowed (hA c hc)) ?_ hw
  intro w c x w' hc hw _ hs _
  obtain ⟨-, ch, hans⟩ := release_step hs
  exact hP _ _ hw (.answer (hA c hc) hans)

/-! ## Finding and creating -/

/-- An instance that may be recorded. -/
def LBGood (lb : LoadBalancer) (a : AccountID) (inst : Instance) (w : World LoadBalancer) : Prop :=
  inst.id ≠ "" ∧ LBRecord lb a inst.id inst.startupScriptID w

theorem lbGood_shrinking (inst : Instance) : LBShrinking lb tag (LBGood lb a inst) :=
  fun _ _ h hs => ⟨h.1, h.2.shrink hs⟩

/-- What a lookup tells: none may be returned by tag, or the one it returns may be recorded, and if that
is gone then nothing is live. -/
structure LBFound (lb : LoadBalancer) (tag : String) (a : AccountID) (r : Except Err (Option Instance))
    (w : World LoadBalancer) : Prop where
  none : r = .ok none → NoTaken lb tag a w
  some : ∀ inst, r = .ok (some inst) → LBGood lb a inst w ∧ (instanceGone inst = true → LBDown lb w)

theorem lbFound_shrinking (r : Except Err (Option Instance)) : LBShrinking lb tag (LBFound lb tag a r) :=
  fun _ _ h hs => ⟨fun hr => (h.none hr).shrink hs, fun inst hr =>
    ⟨lbGood_shrinking inst _ _ (h.some inst hr).1 hs, fun hgone => ((h.some inst hr).2 hgone).shrink hs⟩⟩

/-- The lookup by a recorded ID. -/
theorem LBRecord.found {w w' : World LoadBalancer} {id sid : String} {m : Method} {ch : Choice}
    {x : Except Sdk.ApiErr Sdk.Instance} (hw : LBWorld lb tag host a w) (h : LBRecord lb a id sid w)
    (hid : id ≠ "") (hans : answer lb' ch w (a, ⟨m, .instancesGetByID id⟩) = some (x, w')) :
    LBFound lb tag a (pickByID id x) w' := by
  obtain ⟨rfl, ⟨i, hi, hiid, rfl⟩ | ⟨hnone, rfl⟩ | ⟨err, rfl, herr⟩⟩ := answer_instancesGetByID hans
  · refine ⟨fun hr => by (cases hr), ?_⟩
    rintro _ ⟨⟩
    have hrecord : LBRecord lb a (toInstance i).id (toInstance i).startupScriptID w' := by
      show LBRecord lb a i.id _ w'
      rw [hiid]
      exact ⟨h.known, h.only, h.rows, h.rows hid i hi hiid, fun he => absurd he hid⟩
    refine ⟨⟨fun he => hid (hiid.symm.trans he), hrecord⟩, fun hgone => ?_⟩
    refine hw.down_of_gone (h.only hid) fun j hj hjid => ?_
    rw [(w'.account a).instances.eq_of_key hj hi (hjid.trans hiid.symm)]
    exact hgone
  · refine ⟨fun hr => by (cases hr), ?_⟩
    rintro _ ⟨⟩
    refine ⟨⟨hid, h.known, h.only, h.rows, fun he => absurd rfl he, fun _ => rfl⟩, fun _ => ?_⟩
    exact hw.down_of_gone (h.only hid) fun j hj hjid => absurd hjid (hnone j hj)
  · have herror : ∃ e, pickByID id (.error err) = .error e := by
      simp [pickByID, herr]
    obtain ⟨e, herror⟩ := herror
    rw [herror]
    exact ⟨fun hr => by (cases hr), fun _ hr => by (cases hr)⟩

/-- The lookup by tag. -/
theorem LBWorld.found {w : World LoadBalancer} (hw : LBWorld lb tag host a w)
    (hfirst : lb = .service →
      LiveUpFirst (wantsTag tagServiceLoadBalancer tag) (w.account a).instances.rows) :
    LBFound lb tag a (lb.pick tag (.ok (w.account a).instances.rows)) w := by
  refine ⟨pick_none hfirst, fun inst hr => ?_⟩
  obtain ⟨i, hi, ht, rfl⟩ := pick_some hr
  have hne : i.id ≠ "" := hw.ids a i hi
  refine ⟨⟨hne, fun _ => hw.logged a i hi ht, fun _ => hw.only hi ht, fun _ j hj hjid => ?_,
    hw.scripts i hi ht, fun he => absurd he hne⟩, fun hgone => ?_⟩
  · rw [(w.account a).instances.eq_of_key hj hi hjid]
    exact hw.scripts i hi ht
  · refine hw.down_of_gone (hw.only hi ht) fun j hj hjid => ?_
    rw [(w.account a).instances.eq_of_key hj hi hjid]
    exact hgone

theorem release_find (hstatus : lbStatus vc₁ lb = lbStatus vc lb)
    (htag : clusterTagValue vc₁ = clusterTagFor ns name) (w : ClusterWorld) :
    (lb.find vc₁).wp (atVerda (releaseAt addressOf ns name lb a vc) lb)
      (fun r w => LBFound lb (clusterTagFor ns name) a r w.cloud) w := by
  rw [find_eq, htag, hstatus]
  refine wp_lookupInstance (fun r w w' h hr _ => lbFound_shrinking r _ _ h hr) ?_
    (fun hid w x w' _ hi hs => ?_) fun _ w x w' _ hi hs => ?_
  · rintro w _ (rfl | rfl) - <;>
      exact release_allowed ⟨fun _ h => (by cases h), fun _ _ h => (by cases h)⟩
  · obtain ⟨-, ch, hans⟩ := release_step hs
    exact hi.2.record.found hi.1 hid hans
  · obtain ⟨hcond, ch, hans⟩ := release_step hs
    obtain ⟨hw, rfl | ⟨e, rfl⟩⟩ := answer_instancesGet hans
    · rw [hw]
      refine hi.1.found fun hlb => ?_
      subst hlb
      exact hcond rfl rfl
    · cases lb <;> exact ⟨fun hr => by (cases hr), fun _ hr => by (cases hr)⟩

/-- The scripts of the load balancer, for the rules of script deletion. -/
theorem release_keepsLeft : KeepsLeft
    { atVerda (releaseAt addressOf ns name lb a vc) lb' with
      guar := fun _ c => ∀ n script, c.op ≠ .scriptsAdd n script }
    ClusterWorld.cloud a (LBKey.hostname (name, lb)) (·.owner = lb) where
  lawful := ⟨fun _ => .refl _ _ _, .trans⟩
  stable _ _ _ h hr _ := hr.ownLeft h
  answered hs := ⟨lb', (release_step hs).2⟩
  allowed hop _ := hop
  named hi e he ho hkind s hs hid := hi.1.named e he hkind s hs hid ho

/-- When the scripts under the hostname are deleted, none of the load balancer is left. -/
theorem release_byName (hhost : host = LBKey.hostname (name, lb)) (w : ClusterWorld) :
    (deleteStartupScriptByName host).wp (atVerda (releaseAt addressOf ns name lb a vc) lb')
      (fun r w => r = .ok () → OwnLeft (·.owner = lb) (fun _ => False) w.cloud) w := by
  subst hhost
  refine Prog.wp_of_rely (Setting.Lawful.atVerda release_lawful) fun w _ hi => ?_
  have hhome : OwnLeft (·.owner = lb) (·.account = a) w.cloud :=
    fun e he hleft ho => hi.1.home e he ho (.inr hleft.1)
  refine Prog.wp_allow (deleteStartupScriptByName_uses (LBKey.hostname (name, lb)) (M := scriptMethods)
    (by decide) (by decide)) (fun _ c hc _ => release_allowed (.of_uses hc (by decide)))
    (Prog.wp_mono ?_ (release_keepsLeft.deleteStartupScriptByName hhome))
  exact fun r w _ hr hok => (hr hok).mono fun e h ho => (h ho).2 (h ho).1

/-- When the recorded script is deleted, none of the load balancer is left. -/
theorem release_byID {sid : String} (hsid : sid ≠ "") (hw : LBScript lb sid w.cloud) :
    (deleteStartupScript sid).wp (atVerda (releaseAt addressOf ns name lb a vc) lb')
      (fun r w => r = .ok () → OwnLeft (·.owner = lb) (fun _ => False) w.cloud) w := by
  refine Prog.wp_of_rely (Setting.Lawful.atVerda release_lawful) fun w' hr hi => ?_
  have hhome : OwnLeft (·.owner = lb) (fun e => e.account = a ∧ e.id = sid) w'.cloud :=
    fun e he hleft ho => ⟨hi.1.home e he ho (.inr hleft.1), hr.ownLeft (hw hsid) e he hleft ho⟩
  refine Prog.wp_allow (deleteStartupScript_uses sid (M := scriptMethods) (by decide))
    (fun _ c hc _ => release_allowed (.of_uses hc (by decide)))
    (Prog.wp_mono ?_ (release_keepsLeft.deleteStartupScript hhome))
  exact fun r w _ hr hok => (hr hok).mono fun e h ho => (h ho).2 (h ho).1

/-- The last part of `CreateInstance`, with the only script that is left. -/
theorem release_createWith {spec : InstanceSpec} {scriptID : Option String}
    (htags : spec.tags = lb.tags cluster vc₁) (htag : clusterTagValue vc₁ = clusterTagFor ns name)
    (hfin : clusterFinalizer ∈ vc.metadata.finalizers) (hid : (lbStatus vc lb).instanceID = "")
    (hfree : NoTaken lb (clusterTagFor ns name) a w.cloud)
    (hscript : ∀ s, scriptID = some s → OwnLeft (·.owner = lb) (·.id = s) w.cloud) :
    (createWith spec scriptID).wp (atVerda (releaseAt addressOf ns name lb a vc) lb)
      (fun r w => ∀ inst, r = .ok inst → LBGood lb a inst w.cloud) w := by
  have hret : ∀ (r : Except Err Instance) (w : ClusterWorld),
      (∀ inst, r = .ok inst → LBGood lb a inst w.cloud) → (Prog.ret r : ClientM _).wp
        (atVerda (releaseAt addressOf ns name lb a vc) lb)
        (fun r w => ∀ inst, r = .ok inst → LBGood lb a inst w.cloud) w :=
    fun r w h => Prog.wp_ret_stable
      (fun w w' h hr _ inst hinst => lbGood_shrinking inst _ _ (h inst hinst) hr) h
  have hstable : (atVerda (releaseAt addressOf ns name lb a vc) lb).Stable fun w =>
      NoTaken lb (clusterTagFor ns name) a w.cloud ∧
        ∀ s, scriptID = some s → OwnLeft (·.owner = lb) (·.id = s) w.cloud :=
    fun w w' h hr _ => ⟨h.1.shrink hr, fun s hs => hr.ownLeft (h.2 s hs)⟩
  refine wp_request hstable ⟨hfree, hscript⟩ fun w hw hi => ?_
  have hmay : LBMayCreate lb (clusterTagFor ns name) a
      { createRequest spec with startupScriptID := scriptID } w.cloud := by
    refine ⟨hw.1, ?_, hw.2⟩
    have htag' : StrMap.get ((lb.tags cluster vc₁).foldl (fun m t => m.set t.1 t.2) []) lb.tagKey =
        clusterTagFor ns name := by
      rw [get_tags, if_pos rfl, htag]
    simpa [requestTag, createRequest, htags, List.foldl_map] using htag'
  refine ⟨?_, fun x w' hs _ => ?_⟩
  · rintro _ _ ⟨⟩
    exact .inr ⟨rfl, rfl, hfin, hid, .inl ⟨_, rfl, hmay⟩⟩
  · obtain ⟨-, ch, hans⟩ := release_step hs
    have hcreated := (hi.1.created hmay hans).2
    rcases x with e | i
    · cases scriptID with
      | none => exact hret _ w' fun inst h => by cases h
      | some sid =>
        refine wp_request (P := fun _ => True) (fun _ _ _ _ _ => trivial) trivial fun w _ _ =>
          ⟨release_allowed ⟨fun _ h => (by cases h), fun _ _ h => (by cases h)⟩, fun _ w' _ _ => ?_⟩
        exact hret _ w' fun inst h => by cases h
    · obtain ⟨hne, hrecord⟩ := hcreated i rfl
      -- the script that is recorded is the one the instance reports, or else the one it was given
      dsimp only
      split
      · refine hret _ w' fun inst h => ?_
        cases h
        refine ⟨hne, hrecord _ fun hsid => ?_⟩
        cases hs' : scriptID with
        | none => exact absurd (by simp [hs']) hsid
        | some s => exact hw.2 s hs'
      · refine hret _ w' fun inst h => ?_
        cases h
        refine ⟨hne, hrecord _ fun hsid => ?_⟩
        obtain ⟨vs, hc, -⟩ := answer_created hans
        exact hmay.scripts hc hsid

/-- `CreateInstance` for the load balancer: it deletes what is left of the scripts first. -/
theorem release_create {spec : InstanceSpec} (hhost : spec.hostname = LBKey.hostname (name, lb))
    (htags : spec.tags = lb.tags cluster vc₁) (htag : clusterTagValue vc₁ = clusterTagFor ns name)
    (hfin : clusterFinalizer ∈ vc.metadata.finalizers) (hid : (lbStatus vc lb).instanceID = "")
    (henabled : lb = .controlPlane → vc.loadBalancerEnabled = true)
    (hfree : NoTaken lb (clusterTagFor ns name) a w.cloud) :
    (createInstance spec).wp (atVerda (releaseAt addressOf ns name lb a vc) lb)
      (fun r w => ∀ inst, r = .ok inst → LBGood lb a inst w.cloud) w := by
  have hS : (atVerda (releaseAt addressOf ns name lb a vc) lb).Lawful :=
    Setting.Lawful.atVerda release_lawful
  have hfailed : ∀ (e : Err) (w : ClusterWorld), (Prog.ret (.error e) : ClientM _).wp
      (atVerda (releaseAt addressOf ns name lb a vc) lb)
      (fun r w => ∀ inst, r = Except.ok inst → LBGood lb a inst w.cloud) w :=
    fun e w _ _ _ inst h => by cases h
  have hshrinking : LBShrinking lb (clusterTagFor ns name) (NoTaken lb (clusterTagFor ns name) a) :=
    fun _ _ h hs => h.shrink hs
  have hstable : (atVerda (releaseAt addressOf ns name lb a vc) lb).Stable
      fun w => NoTaken lb (clusterTagFor ns name) a w.cloud :=
    fun w w' h hr _ => h.shrink hr
  refine wp_request hstable hfree fun w hw _ =>
    ⟨release_allowed ⟨fun _ h => (by cases h), fun _ _ h => (by cases h)⟩, ?_⟩
  rintro (e | instances) w₁ hs₁ -
  · exact hfailed _ w₁
  · obtain ⟨-, ch, hans⟩ := release_step hs₁
    have hw₁ : NoTaken lb (clusterTagFor ns name) a w₁.cloud := by
      rw [(answer_instancesGet hans).1]
      exact hw
    dsimp only
    split
    · exact hfailed _ w₁
    · refine Prog.wp_bind hS (Prog.wp_mono ?_ (Prog.wp_and (release_byName hhost w₁) (release_verda
        (deleteStartupScriptByName_uses spec.hostname (M := scriptMethods) (by decide) (by decide))
        (fun c hc => .of_uses hc (by decide)) hshrinking hw₁)))
      rintro (e | u) w - ⟨hleft, hw, -⟩
      · exact hfailed _ w
      · have hleft := hleft rfl
        dsimp only
        split
        · exact release_createWith htags htag hfin hid hw fun s h => by cases h
        · have hstable' : (atVerda (releaseAt addressOf ns name lb a vc) lb).Stable fun w =>
              NoTaken lb (clusterTagFor ns name) a w.cloud ∧
                OwnLeft (·.owner = lb) (fun _ => False) w.cloud :=
            fun w w' h hr _ => ⟨h.1.shrink hr, hr.ownLeft h.2⟩
          refine wp_request hstable' ⟨hw, hleft⟩ fun w hw hi => ⟨?_, ?_⟩
          · rintro _ _ ⟨⟩
            exact .inr ⟨rfl, rfl, hfin, hid, .inr ⟨spec.startupScript, by rw [hhost], hw.1, henabled⟩⟩
          · rintro (e | script) w' hs -
            · exact hfailed _ w'
            · obtain ⟨-, ch, hans⟩ := release_step hs
              rw [hhost] at hans
              obtain ⟨-, hfree', hadded⟩ := hi.1.added hw.1 hans
              refine release_createWith htags htag hfin hid hfree' ?_
              rintro _ ⟨⟩
              exact hadded script rfl hw.2

/-- An instance is good for the load balancer it is of. -/
def GoodFor (lb : LoadBalancer) (a : AccountID) (lb' : LoadBalancer) (inst : Instance)
    (w : ClusterWorld) : Prop :=
  lb' = lb → LBGood lb a inst w.cloud

/-- The load balancer itself is found or created as one that may be recorded; the other one does not
matter. -/
theorem release_acquire (lb' : LoadBalancer) (scripts : LBScripts) (keys : Keys)
    (hsame : SameCluster vc vc₁) (hstatus : lbStatus vc₁ lb' = lbStatus vc lb')
    (hfin : clusterFinalizer ∈ vc.metadata.finalizers)
    (henabled : lb' = .controlPlane → vc.loadBalancerEnabled = true) (w : ClusterWorld)
    (hi : (releaseAt addressOf ns name lb a vc).inv w) :
    (lb'.acquire scripts cluster vc₁ keys).wp (atVerda (releaseAt addressOf ns name lb a vc) lb')
      (fun r w => ∀ inst, r.1 = .ok inst → GoodFor lb a lb' inst w) w := by
  have hname : vc.metadata.name = name := hi.2.name
  have htag : clusterTagValue vc₁ = clusterTagFor ns name := by
    rw [hsame.tag, clusterTagValue, hi.2.ns, hname, clusterTagFor]
  by_cases hlb : lb' = lb
  · subst hlb
    have hgood : ∀ inst, (atVerda (releaseAt addressOf ns name lb' a vc) lb').Stable
        fun w => LBGood lb' a inst w.cloud :=
      fun inst w w' h hr _ => lbGood_shrinking inst _ _ h hr
    have hfind : (lb'.find vc₁).wp (atVerda (releaseAt addressOf ns name lb' a vc) lb') (fun r w =>
        (r = .ok none → NoTaken lb' (clusterTagFor ns name) a w.cloud ∧
          (lbStatus vc lb').instanceID = "") ∧
        ∀ inst, r = .ok (some inst) → LBGood lb' a inst w.cloud) w := by
      refine Prog.wp_mono ?_ (Prog.wp_and_obeys (find_none lb' vc₁) (release_find hstatus htag w))
      rintro r w - ⟨hfound, hnone⟩
      exact ⟨fun hr => ⟨hfound.none hr, hstatus ▸ hnone hr⟩, fun inst hr => (hfound.some inst hr).1⟩
    refine Prog.wp_mono (fun _ _ _ h inst hinst _ => h inst hinst) (wp_acquireLB lb'
      (Setting.Lawful.atVerda release_lawful) hgood hfind ?_)
    intro spec hhost htags w _ hfree
    refine release_create ?_ htags htag hfin hfree.2 henabled hfree.1
    rw [hhost, hostname_eq, hsame.name, hname]
  · refine Prog.wp_mono (fun _ _ _ _ _ _ heq => absurd heq hlb) (release_verda
      (acquire_acquires lb' scripts cluster vc₁ keys) (fun c hc => ⟨fun req hreq => ⟨hlb, ?_⟩,
        fun _ _ _ => hlb⟩) (P := fun _ => True) (fun _ _ _ _ => trivial) trivial)
    rw [hc.requestTag_eq hreq, get_tags, if_neg (Ne.symm hlb)]
    exact (clusterTagFor_ne_empty ns name).symm

theorem release_staysGood (lb' : LoadBalancer) :
    StaysGood (releaseAt addressOf ns name lb a vc) (GoodFor lb a lb') where
  lawful := release_lawful
  stable inst w w' h hr _ hlb := lbGood_shrinking inst _ _ (h hlb) hr
  aside hc _ _ heq := absurd heq (hc _ _)
  step hc h hs hlb := by
    obtain ⟨-, ch, hans⟩ := atClient_step.1 hs
    rw [(clusterAnswer_other hc hans).1]
    exact h hlb

/-! ## Tearing down -/

/-- A teardown that goes through leaves nothing: the lookup says that no instance is live, and the
release deletes the script. -/
theorem release_teardown (lb : LoadBalancer) (through : α → Prop) {live : Instance → ClientM α}
    {release : ClientM α} {failed : Err → α} {wait : α} (hstatus : lbStatus vc₁ lb = lbStatus vc lb)
    (htag : clusterTagValue vc₁ = clusterTagFor ns name)
    (hlive : ∀ inst, (live inst).Obeys (Uses endMethods) fun r => ¬ through r)
    (hrelease : ∀ w, (releaseAt addressOf ns name lb a vc).inv w → LBDown lb w.cloud →
      release.wp (atVerda (releaseAt addressOf ns name lb a vc) lb)
        (fun r w => through r → LBGone lb w.cloud) w)
    (hfailed : ∀ e, ¬ through (failed e)) (hwait : ¬ through wait) (w : ClusterWorld) :
    (teardown (lb.find vc₁) live release failed wait).wp
      (atVerda (releaseAt addressOf ns name lb a vc) lb) (fun r w => through r → LBGone lb w.cloud) w := by
  refine wp_teardown (Setting.Lawful.atVerda release_lawful) (U := fun _ w => LBDown lb w.cloud ∧ True)
    (release_find hstatus htag w) ?live ?purge ?none ?missing ?purged ?failed ?wait
  case live =>
    intro inst w _ _
    refine Prog.wp_mono ?_ (release_verda (hlive inst) (fun c hc => .of_uses hc (by decide))
      (P := fun _ => True) (fun _ _ _ _ => trivial) trivial)
    exact fun r w _ hr hthrough => absurd hthrough hr.2
  case purge =>
    intro inst w _ hfound hgone _
    exact release_verda (purgeInstanceVolumes_uses inst.id (M := teardownMethods) (by decide))
      (fun c hc => .of_uses hc (by decide)) (fun _ _ h hs => h.shrink hs)
      ((hfound.some inst rfl).2 hgone)
  case none => exact fun w hi hfound => hrelease w hi (hi.1.down (hfound.none rfl))
  case missing => exact fun inst w hi hfound hgone _ => hrelease w hi ((hfound.some inst rfl).2 hgone)
  case purged => exact fun w hi hdown => hrelease w hi hdown.1
  case failed => exact fun e w _ _ _ _ _ hthrough => absurd hthrough (hfailed e)
  case wait => exact fun w _ _ _ _ hthrough => absurd hthrough hwait

/-- After the script the load balancer is gone. -/
theorem release_script {p : ClientM (Except Err Unit)} {next : Except Err Unit → ClientM α}
    {failed : Err → α} {released : α} {through : α → Prop}
    (hp : p.Obeys (Uses scriptMethods) fun _ => True) (hfail : ∀ e, next (.error e) = .ret (failed e))
    (hnext : next (.ok ()) = .ret released) (hfailed : ∀ e, ¬ through (failed e))
    (hleft : p.wp (atVerda (releaseAt addressOf ns name lb a vc) lb)
      (fun r w => r = .ok () → OwnLeft (·.owner = lb) (fun _ => False) w.cloud) w)
    (hdown : LBDown lb w.cloud) :
    (p >>= next).wp (atVerda (releaseAt addressOf ns name lb a vc) lb)
      (fun r w => through r → LBGone lb w.cloud) w := by
  refine Prog.wp_bind (Setting.Lawful.atVerda release_lawful) (Prog.wp_mono ?_ (Prog.wp_and hleft
    (release_verda hp (fun c hc => .of_uses hc (by decide)) (P := LBDown lb)
      (fun _ _ h hs => h.shrink hs) hdown)))
  rintro (e | u) w - ⟨hleft, hdown, -⟩
  · rw [hfail e]
    exact fun _ _ _ hthrough => absurd hthrough (hfailed e)
  · rw [hnext]
    exact Prog.wp_ret_stable (fun w w' h hr _ hthrough => (h hthrough).shrink hr)
      fun _ => ⟨hdown, hleft rfl⟩

theorem release_serviceLB (now : Time) (htag : clusterTagValue vc = clusterTagFor ns name)
    (hname : vc.metadata.name = name) (w : ClusterWorld) :
    (deleteServiceLoadBalancer now vc).wp
      (atVerda (releaseAt addressOf ns name .service a vc) .service)
      (fun r w => r.1 = .ok false → LBGone .service w.cloud) w := by
  rw [deleteServiceLoadBalancer_eq]
  refine release_teardown .service (fun r : Except Err Bool × VerdaCluster => r.1 = .ok false) rfl htag
    (fun inst => ?_) (fun w hi hdown => ?_) (fun e h => by cases h) (fun h => by cases h) w
  · exact ((deleteLiveServiceLB_uses now vc inst).and (deleteLiveServiceLB_waits now vc inst)).mono
      (fun _ h => h.1) fun _ h => h.2
  · unfold deleteServiceLBScript
    dsimp only
    split
    · rename_i hsid
      exact release_script (deleteStartupScript_uses _ (by decide)) (fun _ => rfl) rfl
        (fun e h => by cases h) (release_byID hsid hi.2.record.script) hdown
    · have hhost : serviceLoadBalancerHostname vc = LBKey.hostname (name, .service) := by
        rw [← hname]
        exact hostname_eq .service vc
      exact release_script (deleteStartupScriptByName_uses _ (by decide) (by decide)) (fun _ => rfl) rfl
        (fun e h => by cases h) (release_byName hhost w) hdown

/-- The control plane load balancer goes last, and with it the finalizer. -/
theorem release_controlPlaneLB (now : Time)
    (hstatus : lbStatus vc₁ .controlPlane = lbStatus vc .controlPlane) (hsame : SameCluster vc vc₁)
    (htag : clusterTagValue vc = clusterTagFor ns name) (hname : vc.metadata.name = name)
    (hfin : clusterFinalizer ∈ vc₁.metadata.finalizers) (w : ClusterWorld) :
    (deleteLoadBalancer now vc₁).wp
      (atVerda (releaseAt addressOf ns name .controlPlane a vc) .controlPlane)
      (fun r w => clusterFinalizer ∉ r.2.metadata.finalizers → LBGone .controlPlane w.cloud) w := by
  have hsid : vc₁.status.loadBalancer.startupScriptID = (lbStatus vc .controlPlane).startupScriptID :=
    congrArg (·.startupScriptID) hstatus
  rw [deleteLoadBalancer_eq]
  refine release_teardown .controlPlane
    (fun r : Reply × VerdaCluster => clusterFinalizer ∉ r.2.metadata.finalizers) hstatus
    (hsame.tag.trans htag) (fun inst => ?_) (fun w hi hdown => ?_) (fun e h => h hfin) (fun h => h hfin) w
  · refine ((deleteLiveLB_uses now vc₁ inst).and (deleteLiveLB_untouched now vc₁ inst)).mono
      (fun _ h => h.1) fun r h => ?_
    rw [h.2.2]
    exact not_not_intro hfin
  · unfold releaseCluster
    dsimp only
    split
    · rename_i hne
      refine release_script (deleteStartupScript_uses _ (by decide)) (fun _ => rfl) rfl
        (fun e h => h hfin) (release_byID hne ?_) hdown
      rw [hsid]
      exact hi.2.record.script
    · split
      · have hhost : loadBalancerHostname vc₁ = LBKey.hostname (name, .controlPlane) := by
          rw [← hname, ← hsame.name]
          exact hostname_eq .controlPlane vc₁
        exact release_script (deleteStartupScriptByName_uses _ (by decide) (by decide)) (fun _ => rfl) rfl
          (fun e h => h hfin) (release_byName hhost w) hdown
      · -- a load balancer that was never enabled has no script
        rename_i hdisabled
        rw [hsame.loadBalancerEnabled] at hdisabled
        refine Prog.wp_ret_stable (fun w w' h hr _ hthrough => (h hthrough).shrink hr) fun _ => ?_
        exact ⟨hdown, hi.2.disabled rfl (by simpa using hdisabled)⟩

/-! ## Whole passes -/

/-- What is sent names the instance that was found or created; its script is reported with it, or stays
recorded. -/
theorem LBGood.record {w : World LoadBalancer} {inst : Instance} {id sid id' sid' : String}
    (hgood : LBGood lb a inst w) (hold : LBRecord lb a id sid w) (hid : id' = inst.id)
    (hsid : sid' = inst.startupScriptID ∨ sid' = sid) : LBRecord lb a id' sid' w := by
  obtain ⟨hne, hnew⟩ := hgood
  subst hid
  refine ⟨hnew.known, hnew.only, hnew.rows, ?_, fun he => absurd he hne⟩
  rcases hsid with rfl | rfl
  · exact hnew.script
  · exact hold.script

/-- What an object says of the load balancer. -/
abbrev RecordsLB (lb : LoadBalancer) (a : AccountID) (vc : VerdaCluster) (w : ClusterWorld) : Prop :=
  LBRecord lb a (lbStatus vc lb).instanceID (lbStatus vc lb).startupScriptID w.cloud

theorem RecordsLB.forgets (h : RecordsLB lb a vc w) (hforgets : Forgets lb vc vc₁) :
    RecordsLB lb a vc₁ w := by
  rw [RecordsLB]
  rcases hforgets with ⟨hid, hsid | hsid⟩ | ⟨hid, hsid⟩
  · rw [hid, hsid]
    exact h
  · rw [hid, hsid]
    exact h.forget
  · rw [hid, hsid]
    exact .empty lb a w.cloud

theorem RecordsLB.ensured (h : RecordsLB lb a vc w)
    (hensured : Ensured lb (GoodFor lb a lb) vc vc₁ w) : RecordsLB lb a vc₁ w := by
  rcases hensured.record with hsame | ⟨inst, hgood, hid, hsid⟩
  · rw [RecordsLB, hsame]
    exact h
  · exact (hgood rfl).record h hid hsid

theorem records_shrinking (vc : VerdaCluster) : LBShrinking lb tag fun w =>
    LBRecord lb a (lbStatus vc lb).instanceID (lbStatus vc lb).startupScriptID w :=
  fun _ _ h hs => h.shrink hs

/-- The second part of a pass, for either load balancer. -/
theorem release_service (inp : ClusterInput) (cluster : Cluster) {endpoint : Reply × VerdaCluster}
    (htag : clusterTagValue vc = clusterTagFor ns name)
    (hfin : clusterFinalizer ∈ vc.metadata.finalizers)
    (hend : Ensured .controlPlane (GoodFor lb a .controlPlane) vc endpoint.2 w)
    (hw : RecordsLB lb a endpoint.2 w) :
    (ClusterScope.reconcileService inp.scripts inp.now cluster endpoint).wp
      (releaseAt addressOf ns name lb a vc)
      (fun r w => SameCluster vc r.2 ∧ RecordsLB lb a r.2 w) w := by
  obtain ⟨reply, vc₁⟩ := endpoint
  have htag₁ : clusterTagValue vc₁ = clusterTagFor ns name := hend.same.tag.trans htag
  cases lb with
  | controlPlane =>
    -- nothing is asked that adds to the control plane load balancer
    have hobeys := reconcileService_obeys (A := AddsNone .controlPlane (clusterTagFor ns name) .service)
      inp.scripts inp.now cluster (reply, vc₁) (fun keys =>
        (acquire_acquires .service inp.scripts cluster vc₁ keys).mono (fun c hc => ?_) fun _ h => h)
      fun c hc => .of_uses hc (by decide)
    · refine Prog.wp_mono ?_ (release_frame hobeys ?_ (records_shrinking vc₁) hw)
      · rintro r w - ⟨hw, hsame, hstatus⟩
        refine ⟨hend.same.trans hsame, ?_⟩
        rw [RecordsLB, hstatus]
        exact hw
      · rintro c hc lb' c' rfl
        obtain ⟨rfl, hc⟩ := hc
        exact hc
    · refine ⟨fun req hreq => ⟨by decide, ?_⟩, fun _ _ _ => by decide⟩
      rw [hc.requestTag_eq hreq, get_tags, if_neg (by decide)]
      exact (clusterTagFor_ne_empty ns name).symm
  | service =>
    have hstatus : lbStatus vc₁ .service = lbStatus vc .service := hend.other .service (by decide)
    rcases reply with e | result
    · refine Prog.wp_ret_stable (fun w w' h hr _ => ⟨h.1, h.2.shrink hr⟩) ⟨hend.same, hw⟩
    · simp only [ClusterScope.reconcileService]
      split
      · refine Prog.wp_mono ?_ (Prog.wp_and_obeys
          (disableService_forgets inp.now cluster result vc₁) (release_frame
            (disableService_obeys inp.now cluster result vc₁) ?_ (records_shrinking vc₁) hw))
        · rintro r w - ⟨⟨hw, hsame, -⟩, hforgets⟩
          exact ⟨hend.same.trans hsame, RecordsLB.forgets hw hforgets⟩
        · rintro c hc lb' c' rfl
          exact .of_uses hc.2 (by decide)
      · refine Prog.wp_mono ?_ ((release_staysGood .service).enableService .trivial inp.scripts
          cluster result (fun k w hi _ => release_acquire .service inp.scripts k hend.same hstatus hfin
            (fun h => by cases h) w hi) trivial)
        intro r w hi hensured
        have hold : RecordsLB .service a vc₁ w := by
          rw [RecordsLB, hstatus]
          exact hi.2.record
        exact ⟨hend.same.trans hensured.same, RecordsLB.ensured hold hensured⟩

/-- A deletion that drops the finalizer has torn both load balancers down. -/
theorem release_delete (now : Time) (hvc : LBStored lb ns name a vc w.cloud)
    (hfin : clusterFinalizer ∈ vc.metadata.finalizers) :
    (ClusterScope.reconcileDelete now vc).wp (releaseAt addressOf ns name lb a vc)
      (fun r w => clusterFinalizer ∉ r.2.metadata.finalizers → LBGone lb w.cloud) w := by
  have htag : clusterTagValue vc = clusterTagFor ns name := by
    rw [clusterTagValue, hvc.ns, hvc.name, clusterTagFor]
  have hwait : ∀ (r : Reply × VerdaCluster) (w : ClusterWorld),
      r.2.metadata.finalizers = vc.metadata.finalizers → (Prog.ret r : ClusterM _).wp
        (releaseAt addressOf ns name lb a vc)
        (fun r w => clusterFinalizer ∉ r.2.metadata.finalizers → LBGone lb w.cloud) w := by
    intro r w hr w' _ _ hnot
    rw [hr] at hnot
    exact absurd hfin hnot
  -- what is left of the service load balancer when its part is through
  have hservice : (deleteServiceLoadBalancer now vc).wp
      (atVerda (releaseAt addressOf ns name lb a vc) .service)
      (fun r w => lb = .service → r.1 = .ok false → LBGone lb w.cloud) w := by
    cases lb with
    | controlPlane => exact Prog.wp_mono (fun _ _ _ _ hlb => by cases hlb) (release_verda
        (deleteServiceLoadBalancer_uses now vc) (fun c hc => .of_uses hc (by decide))
        (P := fun _ => True) (fun _ _ _ _ => trivial) trivial)
    | service => exact Prog.wp_mono (fun _ _ _ h _ => h) (release_serviceLB now htag hvc.name w)
  refine Prog.wp_bind release_lawful (wp_onVerda (Prog.wp_mono ?_ (Prog.wp_and_obeys
    ((deleteServiceLoadBalancer_uses now vc).and (deleteServiceLoadBalancer_untouched now vc))
    hservice)))
  rintro ⟨e | waiting, vc₁⟩ w - ⟨hgone, hunwinds, -, hkeeps⟩
  · exact hwait _ w hkeeps
  · cases waiting with
    | true => exact hwait _ w hkeeps
    | false =>
      refine wp_onVerda ?_
      cases lb with
      | service =>
        refine Prog.wp_mono (fun _ _ _ h _ => h.1) (release_verda (deleteLoadBalancer_uses now vc₁)
          (fun c hc => .of_uses hc (by decide)) (fun _ _ h hs => h.shrink hs) (hgone rfl rfl))
      | controlPlane =>
        have hfin₁ : clusterFinalizer ∈ vc₁.metadata.finalizers := by
          rw [show vc₁.metadata.finalizers = vc.metadata.finalizers from hkeeps]
          exact hfin
        exact release_controlPlaneLB now (hunwinds.other .controlPlane (by decide)) hunwinds.same
          htag hvc.name hfin₁ w

/-- The end of a pass: what is sent records right, and without the finalizer nothing is left. -/
def EndsReleased (lb : LoadBalancer) (a : AccountID) (vc : VerdaCluster) (out : ClusterOutcome)
    (w : ClusterWorld) : Prop :=
  ∀ sent ∈ out.sent, SameCluster vc sent ∧ RecordsLB lb a sent w ∧
    (clusterFinalizer ∉ sent.metadata.finalizers → LBGone lb w.cloud)

theorem endsReleased_patched {reply : Reply} {endpoint : Option (Reply × VerdaCluster)}
    (hsame : SameCluster vc vc₁) (h : RecordsLB lb a vc₁ w)
    (hgone : clusterFinalizer ∉ vc₁.metadata.finalizers → LBGone lb w.cloud) :
    EndsReleased lb a vc (clusterPatched (reply, vc₁) endpoint) w := by
  rintro sent ⟨⟩
  have hpatch := patchVerdaCluster_reconditions vc₁
  refine ⟨hsame.trans hpatch.same, ?_, fun hnot => hgone ?_⟩
  · rw [RecordsLB, hpatch.lbStatus]
    exact h
  · rw [← hpatch.untouched.2]
    exact hnot

theorem release_startClusterPass (inp : ClusterInput) (hvc : LBStored lb ns name a vc w.cloud) :
    (startClusterPass inp vc).wp ((leavesNothing addressOf ns name lb a).setting () vc)
      (EndsReleased lb a vc) w := by
  have htag : clusterTagValue vc = clusterTagFor ns name := by
    rw [clusterTagValue, hvc.ns, hvc.name, clusterTagFor]
  have hS : ((leavesNothing addressOf ns name lb a).setting () vc).Lawful := ⟨fun _ => .refl _ _ _, .trans⟩
  -- a pass that asks for nothing sends what is stored
  have hstop : ∀ (out : ClusterOutcome) (w : ClusterWorld), (∀ sent ∈ out.sent, SameCluster vc sent ∧
      (∀ lb, lbStatus sent lb = lbStatus vc lb) ∧ (clusterFinalizer ∈ vc.metadata.finalizers →
        clusterFinalizer ∈ sent.metadata.finalizers)) →
      (Prog.ret out : ClusterPass).wp ((leavesNothing addressOf ns name lb a).setting () vc)
        (EndsReleased lb a vc) w := by
    intro out w hsent w' _ hi sent hs
    obtain ⟨hsame, hstatus, hfin⟩ := hsent sent hs
    refine ⟨hsame, ?_, fun hnot => hi.2.held fun h => hnot (hfin h)⟩
    rw [RecordsLB, hstatus]
    exact hi.2.record
  by_cases hheld : vc.metadata.deletionTimestamp = none → clusterFinalizer ∈ vc.metadata.finalizers
  · refine startClusterPass_held (P := fun pass => pass.wp _ (EndsReleased lb a vc) w) inp hheld ?_ ?_ ?_
    · intro out hsent
      refine hstop out w fun sent hs => ⟨(hsent sent hs).same, (hsent sent hs).lbStatus, fun h => ?_⟩
      rw [(hsent sent hs).untouched.2]
      exact h
    · intro _
      rw [hvc.account]
      have hforgets := (reconcileDelete_obeys inp.now vc).and (reconcileDelete_forgets inp.now vc lb)
      by_cases hfin : clusterFinalizer ∈ vc.metadata.finalizers
      · refine wp_runClusterDelete (Prog.wp_mono ?_ (Prog.wp_and_obeys hforgets
          (release_delete inp.now hvc hfin)))
        rintro ⟨reply, vc₁⟩ w hi ⟨hgone, ⟨hsame, -⟩, hforgets⟩
        exact endsReleased_patched hsame (RecordsLB.forgets hi.2.record hforgets) hgone
      · refine wp_runClusterDelete (Prog.wp_mono ?_ (release_frame hforgets ?_ (P := fun _ => True)
          (fun _ _ _ _ => trivial) trivial))
        · rintro ⟨reply, vc₁⟩ w hi ⟨-, ⟨hsame, -⟩, hforgets⟩
          exact endsReleased_patched hsame (RecordsLB.forgets hi.2.record hforgets)
            fun _ => hi.2.held hfin
        · rintro c ⟨⟨lb', c', rfl, hc⟩, -⟩ _ _ ⟨⟩
          exact .of_uses hc (by decide)
    · intro cluster hdel
      have hfin := hheld hdel
      rw [hvc.account]
      refine wp_runClusterNormal hS (Prog.wp_mono ?_ (Prog.wp_and_obeys
        (reconcileEndpoint_finalizers inp.scripts cluster vc)
        ((release_staysGood .controlPlane).reconcileEndpoint .trivial inp.scripts cluster
          (fun henabled k w hi _ => release_acquire .controlPlane inp.scripts k (.refl vc) rfl hfin
            (fun _ => henabled) w hi) trivial)))
      rintro endpoint w hi ⟨hend, hkept⟩
      have hrecords : RecordsLB lb a endpoint.2 w := by
        cases lb with
        | controlPlane => exact RecordsLB.ensured hi.2.record hend
        | service =>
          rw [RecordsLB, hend.other .service (by decide)]
          exact hi.2.record
      refine Prog.wp_mono ?_ (Prog.wp_and_obeys
        (reconcileService_untouched inp.scripts inp.now cluster endpoint)
        (release_service inp cluster htag hfin hend hrecords))
      rintro ⟨reply, vc₁⟩ w - ⟨⟨hsame, hrecords⟩, -, hkept'⟩
      refine endsReleased_patched hsame hrecords fun hnot => absurd ?_ hnot
      rw [show vc₁.metadata.finalizers = _ from hkept', hkept]
      exact hfin
  · obtain ⟨hdel, hfin⟩ := Classical.not_imp.1 hheld
    obtain ⟨out, hpass, hsent⟩ := startClusterPass_unheld inp hdel hfin
    rw [hpass]
    refine hstop out w fun sent hs => ?_
    obtain ⟨hsame, -, hstatus, -⟩ := hsent sent hs
    exact ⟨hsame, fun lb => by cases lb <;> simp only [lbStatus, hstatus], fun h => absurd h hfin⟩

theorem LBStored.same {w : World LoadBalancer} (h : LBStored lb ns name a vc w)
    (hsame : SameCluster vc vc₁)
    (hrecord : LBRecord lb a (lbStatus vc₁ lb).instanceID (lbStatus vc₁ lb).startupScriptID w)
    (hheld : clusterFinalizer ∉ vc₁.metadata.finalizers → LBGone lb w) :
    LBStored lb ns name a vc₁ w where
  ns := hsame.ns.trans h.ns
  name := hsame.name.trans h.name
  account := hsame.account.trans h.account
  record := hrecord
  disabled hlb hoff := h.disabled hlb (hsame.loadBalancerEnabled ▸ hoff)
  held := hheld

/-- The stored finalizers were so before, or were sent. -/
theorem persistCluster_finalizers (p : Patch) (vc : VerdaCluster) (out : ClusterOutcome) :
    (persistCluster p vc vc out).metadata.finalizers = vc.metadata.finalizers ∨
      ∃ sent, out.sent = some sent ∧
        (persistCluster p vc vc out).metadata.finalizers = sent.metadata.finalizers := by
  rcases persistCluster_cases p vc vc out with heq | ⟨sent, hsent, heq⟩
  · exact .inl (by rw [heq])
  · rw [heq]
    by_cases hp : p.spec = true
    · exact .inr ⟨sent, hsent, by simp [Patch.applyCluster, hp]⟩
    · exact .inl (by simp [Patch.applyCluster, hp])

theorem leavesNothing_valid : (leavesNothing addressOf ns name lb a).Valid where
  refl _ _ := .refl _ _ _
  trans _ {_ _ _} h h' := h.trans h'
  drift hinv hd := by
    have hshrinks := LBShrinks.drift lb hd
    exact ⟨hinv.shrink hshrinks, fun _ => ⟨fun _ => hshrinks, fun _ h => h.shrink hshrinks⟩⟩
  edit hedit he :=
    have htouched := editCluster_touched he
    ⟨htouched, identitySecretName_of_account htouched.ns (hedit _ he)⟩
  touched {i vc vc' w} _ hloc h := by
    obtain ⟨htouched, hname⟩ := h
    refine ⟨htouched.ns.trans hloc.ns, htouched.name.trans hloc.name,
      (htouched.account hname).trans hloc.account, ?_, ?_, ?_⟩
    · rw [htouched.lbStatus]
      exact hloc.record
    · rw [htouched.enabled]
      exact hloc.disabled
    · rw [htouched.finalizers]
      exact hloc.held
  merge h _ := (ClusterTouched.persist_keeping identitySecretName_mergesAlone h.1 h.2 _ _ _).imp
    fun _ hq => ⟨trivial, hq.2⟩
  call {i vc ch w o x w'} hinv hloc _ hg hans := by
    obtain ⟨b, c⟩ := o
    obtain ⟨lb', c', rfl⟩ | hnot := verda_or_notVerda c
    · obtain ⟨ch', hans', -⟩ := clusterAnswer_verda hans
      obtain ⟨hinv', hloc'⟩ := LBWorld.asked hinv hloc (hg lb' c' rfl) hans'
      exact ⟨hinv', hloc', fun j hj => absurd rfl hj⟩
    · have hcloud := (clusterAnswer_other hnot hans).1
      refine ⟨?_, ?_, fun j hj => absurd rfl hj⟩
      · show LBWorld _ _ _ _ w'.cloud
        rw [hcloud]
        exact hinv
      · show LBStored _ _ _ _ _ w'.cloud
        rw [hcloud]
        exact hloc
  pass {i inp vc w} _ hloc _ := by
    refine Invariant.wp_persist (Prog.wp_mono ?_ (release_startClusterPass inp hloc))
    intro out w hi hsent
    refine ⟨fun hrel => ?_, fun p => ?_⟩
    · obtain ⟨sent, hs, hnot⟩ := hrel
      exact (hsent sent hs).2.2 hnot
    show LBStored lb ns name a (persistCluster p vc vc out) w.cloud
    refine hi.2.same (persistCluster_same (fun sent hs => (hsent sent hs).1) p) ?_ fun hnot => ?_
    · obtain hkept | ⟨sent, hs, hstored⟩ := persistCluster_lbStatus p vc vc out lb
      · rw [hkept]
        exact hi.2.record
      · rw [hstored]
        exact (hsent sent hs).2.1
    · obtain hkept | ⟨sent, hs, hstored⟩ := persistCluster_finalizers p vc out
      · exact hi.2.held (hkept ▸ hnot)
      · exact (hsent sent hs).2.2 (hstored ▸ hnot)

/-- In the beginning there is nothing. -/
theorem ClusterInitial.leavesNothing {s₀ : ClusterState} (h₀ : ClusterInitial addressOf ns name s₀)
    (lb : LoadBalancer) (a : AccountID) :
    LBWorld lb (clusterTagFor ns name) (LBKey.hostname (name, lb)) a s₀.world.cloud ∧
      LBStored lb ns name (clusterAccount (s₀.obj ())) (s₀.obj ()) s₀.world.cloud := by
  have hfree : ∀ b, NoTaken lb (clusterTagFor ns name) b s₀.world.cloud := by
    intro b i hi ht
    have hnot := h₀.untagged b i hi
    rw [ht.hasClusterTag] at hnot
    cases hnot
  have hnone : ∀ e, e ∉ s₀.world.cloud.made := by
    intro e he
    rw [h₀.made] at he
    cases he
  refine ⟨⟨fun b i hi _ _ ht => absurd ht (hfree b i hi), fun b i hi ht => absurd ht (hfree b i hi),
    fun e he => absurd he (hnone e), fun e he => absurd he (hnone e),
    fun i hi ht => absurd ht (hfree _ i hi), h₀.ids, fun e he => absurd he (hnone e)⟩,
    h₀.cluster_ns, h₀.cluster_name, rfl, ?_, fun _ _ e he => absurd he (hnone e),
    fun _ => ⟨fun e _ hlive => hnone e hlive.1, fun e he => absurd he (hnone e)⟩⟩
  have hempty : lbStatus (s₀.obj ()) lb = {} := by
    cases lb <;> simp only [lbStatus, h₀.status]
  rw [hempty]
  exact .empty lb _ _

end

/-- **A released cluster leaves nothing behind.** Whenever the stored cluster is without its finalizer,
and as soon as a pass has returned that drops it, then of what was ever created for a load balancer of
the cluster no instance is live and no startup script is left. This is so in every run, whatever failed
or was lost on the way, in which `identityRef` names the same account throughout; and for the service
load balancer the listings of its lookups have to show what is live first. -/
theorem released_leaves_nothing {addressOf : AccountID → String → String} {ns name : String}
    {lb : LoadBalancer} {s₀ s : ClusterState} (h₀ : ClusterInitial addressOf ns name s₀)
    (h : Reach (clusterSystem addressOf ns name) (keepsAccount lb (clusterTagFor ns name)) s₀ s)
    (hrel : clusterFinalizer ∉ (s.obj ()).metadata.finalizers ∨
      ∃ out, s.run () = some (.ret out) ∧ ClusterReleased out) :
    ∀ e ∈ s.world.cloud.made, e.owner = lb →
      ¬ MadeLive s.world.cloud e ∧ ¬ ScriptLeft s.world.cloud e := by
  obtain ⟨hworld, hstored⟩ := h₀.leavesNothing lb (clusterAccount (s₀.obj ()))
  have hholds := Invariant.sound leavesNothing_valid hworld (fun _ => hstored) (fun _ => h₀.idle) h
  have hgone : LBGone lb s.world.cloud := by
    rcases hrel with hnot | ⟨out, hrun, hreleased⟩
    · exact (hholds.loc ()).held hnot
    · exact hholds.done leavesNothing_valid hrun hreleased
  exact fun e he ho => ⟨hgone.1 e ho, fun hscript => hgone.2 e he hscript ho⟩

/-- The pass that creates the load balancer is lost, so that nothing of it is recorded; then the cluster
is deleted. -/
theorem released_leaves_nothing_sample : ∃ (s : ClusterState) (out : ClusterOutcome),
    s.run () = some (.ret out) ∧ ClusterReleased out ∧
      (∃ e ∈ s.world.cloud.made, e.owner = .controlPlane ∧ e.kind = .script) ∧
      ∀ e ∈ s.world.cloud.made, e.owner = .controlPlane →
        ¬ MadeLive s.world.cloud e ∧ ¬ ScriptLeft s.world.cloud e := by
  let input : ClusterInput := { clusterInput with
    scripts := { startupScript := fun _ => [1], envoyStartupScript := fun _ => [] } }
  obtain ⟨s, hs, hgood⟩ := exists_reach_meeting (clusterSystem sampleAddress "default" "c0")
    (keepsAccount .controlPlane (clusterTagFor "default" "c0"))
    (clusterState (clusterWith enabledLB {}))
    (fun s => (returnedCluster s).any (fun out => decide (ClusterReleased out)) &&
      decide (∃ e ∈ s.world.cloud.made, e.owner = .controlPlane ∧ e.kind = .script))
    ([.start () input, keysFound "c0-lb-ssh"] ++ verdaAccepts 3 ++
      [.answer () (.verda (.accept (.script { id := "s1", name := "c0-lb", script := [1] }))),
        .answer () (.verda (.accept (.instance_
          { lbInstance .controlPlane "x1" "running" with startupScriptID := some "s1" } []))),
        .crash (), .edit () (.delete 0), .start () input] ++ verdaAccepts 5 ++
      [.finish () {}, .drift (.account .global
        { scripts := ⟨[{ id := "s1", name := "c0-lb", script := [1] }], List.nodup_singleton _⟩ }),
        .start () input] ++ verdaAccepts 5)
    (by decide +kernel)
  obtain ⟨hreleased, hmade⟩ := Bool.and_eq_true_iff.1 hgood
  obtain ⟨out, hrun, hrel⟩ := returnedCluster_any hreleased
  exact ⟨s, out, hrun, of_decide_eq_true hrel, of_decide_eq_true hmade,
    released_leaves_nothing (clusterState_initial rfl rfl rfl) hs
      (.inr ⟨out, hrun, of_decide_eq_true hrel⟩)⟩

end VerdaCapi.Controller
