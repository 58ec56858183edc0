import VerdaCapi.Cloud.Rules

/-!
# What is left of what was created

The log of a world says what was created for whom. An instance of the log that is not gone is live, and
a startup script of the log that still exists is left. Neither comes back, and more of them come only
with a creation.

The second part is what `DeleteStartupScript` and `DeleteStartupScriptByName` achieve for the scripts
that are left. Its rules hold in every setting in which the own scripts that are left do not grow by
themselves (`KeepsLeft`): those of a machine and of a load balancer.
-/

namespace VerdaCapi.Controller

open Remote Go Cloud

/-! ## Instances -/

/-- A log entry of an instance that is still live. -/
def MadeLive {ι : Type} (w : World ι) (e : Made ι) : Prop :=
  e ∈ w.made ∧ e.kind = .instance_ ∧
    ∃ i ∈ (w.account e.account).instances.rows, i.id = e.id ∧ isGone i = false

instance {ι : Type} [DecidableEq ι] (w : World ι) (e : Made ι) : Decidable (MadeLive w e) :=
  inferInstanceAs (Decidable (_ ∧ _))

section

variable {ι : Type} {who : ι} {w w' : World ι} {a : AccountID} {e : Made ι}

/-- What is live under an ID of the old log was live before, if the instances that appear have new
IDs. -/
theorem madeLive_of_rows (hmade : e ∈ w.made) (he : MadeLive w' e)
    (hrows : ∀ i' ∈ (w'.account e.account).instances.rows,
      (∃ i ∈ (w.account e.account).instances.rows, Keeps i i') ∨ w.Unused [i'.id]) : MadeLive w e := by
  rcases he with ⟨-, hkind, i', hi', hid, hlive⟩
  rcases hrows i' hi' with ⟨i, hi, hk⟩ | hunused
  · refine ⟨hmade, hkind, i, hi, ?_, ?_⟩
    · rw [← hk.id, hid]
    · by_contra hgone
      have hgone' : isGone i' = true := hk.gone (by simpa using hgone)
      rw [hlive] at hgone'
      cases hgone'
  · exact absurd hid.symm ((hunused i'.id (List.mem_singleton_self _)).2 e hmade)

/-- Without a creation nothing becomes live. -/
theorem madeLive_of_keeps (h : KeepsInstances w w') (he : MadeLive w' e) : MadeLive w e :=
  madeLive_of_rows ((h.made e he.2.1).1 he.1) he fun i' hi' => .inl (h.rows e.account i' hi')

/-- Drift makes nothing live either. -/
theorem madeLive_of_drift {reserved : String → Bool} {d : AccountID × Account}
    (h : drift reserved d w = some w') (he : MadeLive w' e) : MadeLive w e := by
  rcases drift_instances h with ⟨hmade, hrows⟩
  exact madeLive_of_rows (hmade ▸ he.1) he fun i' hi' => (hrows e.account i' hi').imp_right fun h => h.1

/-- After a creation, only the new instance is live besides what was. -/
theorem madeLive_of_create {req : Sdk.CreateInstanceRequest} {i : Sdk.Instance}
    {vs : List Sdk.Volume} {hc : Creates w a req i vs} (he : MadeLive (w.create who a hc) e) :
    e = ⟨who, .instance_, a, i.id⟩ ∨ MadeLive w e := by
  rcases (mem_create_made_instance he.2.1).1 he.1 with heq | hold
  · exact .inl heq
  · refine .inr (madeLive_of_rows hold he fun j hj => ?_)
    rcases mem_create_instances.1 hj with ⟨-, rfl⟩ | hj
    · exact .inr fun id hid => hc.unused id (by simp [List.mem_singleton.1 hid])
    · exact .inl ⟨j, hj, .refl j⟩

/-- A request makes an instance live for its own owner only, and only by creating it. -/
theorem madeLive_of_answer {c : Choice} {o : AccountCall} {x : AccountCall.Res o}
    (h : answer who c w o = some (x, w')) (he : MadeLive w' e) :
    MadeLive w e ∨ (e.owner = who ∧ ∃ req, o.2.op = .instancesCreate req) := by
  rcases o with ⟨a, m, op⟩
  by_cases hop : ∃ req, op = .instancesCreate req
  · rcases hop with ⟨req, rfl⟩
    rcases answer_instancesCreate h with ⟨rfl, -⟩ | ⟨i, vs, hc, rfl, -⟩
    · exact .inl he
    · rcases madeLive_of_create he with rfl | hold
      · exact .inr ⟨rfl, req, rfl⟩
      · exact .inl hold
  · exact .inl (madeLive_of_keeps (answer_keepsInstances (fun req hreq => hop ⟨req, hreq⟩) h) he)

end

/-! ## Startup scripts -/

/-- A log entry of a startup script that still exists. -/
def ScriptLeft {ι : Type} (w : World ι) (e : Made ι) : Prop :=
  e.kind = .script ∧ ∃ s ∈ (w.account e.account).scripts.rows, s.id = e.id

instance {ι : Type} (w : World ι) (e : Made ι) : Decidable (ScriptLeft w e) :=
  inferInstanceAs (Decidable (_ ∧ _))

/-- `P` holds of every logged startup script that still exists. -/
def LeftIn {ι : Type} (P : Made ι → Prop) (w : World ι) : Prop := ∀ e ∈ w.made, ScriptLeft w e → P e

instance {ι : Type} (P : Made ι → Prop) [DecidablePred P] (w : World ι) : Decidable (LeftIn P w) :=
  inferInstanceAs (Decidable (∀ e ∈ w.made, _))

section

variable {ι : Type} {w w' : World ι} {P Q : Made ι → Prop} {e : Made ι}

theorem LeftIn.mono (h : LeftIn P w) (hPQ : ∀ e, P e → Q e) : LeftIn Q w :=
  fun e he hleft => hPQ e (h e he hleft)

/-- Without new scripts, nothing new is left. -/
theorem scriptLeft_of_keeps (hk : KeepsScripts w w') (he : e ∈ w'.made) (h : ScriptLeft w' e) :
    e ∈ w.made ∧ ScriptLeft w e := by
  rcases h with ⟨hkind, s, hs, hid⟩
  exact ⟨(hk.made e hkind).1 he, hkind, s, hk.rows _ s hs, hid⟩

theorem LeftIn.keeps (h : LeftIn P w) (hk : KeepsScripts w w') : LeftIn P w' := by
  intro e he hleft
  rcases scriptLeft_of_keeps hk he hleft with ⟨hmade, hleft'⟩
  exact h e hmade hleft'

/-- A request adds a script for its own owner only. -/
theorem scriptLeft_of_answer {who : ι} {c : Choice} {o : AccountCall} {x : AccountCall.Res o}
    (h : answer who c w o = some (x, w')) (he : e ∈ w'.made) (hleft : ScriptLeft w' e) :
    (e ∈ w.made ∧ ScriptLeft w e) ∨ (e.owner = who ∧ ∃ name script, o.2.op = .scriptsAdd name script) := by
  rcases o with ⟨a, m, op⟩
  by_cases hop : ∃ name script, op = .scriptsAdd name script
  · rcases hop with ⟨name, script, rfl⟩
    rcases answer_scriptsAdd h with rfl | ⟨s, hs, rfl⟩
    · exact .inl ⟨he, hleft⟩
    · rcases List.mem_cons.1 he with rfl | hold
      · exact .inr ⟨rfl, name, script, rfl⟩
      · rcases hleft with ⟨hkind, t, ht, hid⟩
        rcases mem_addScript.1 ht with ⟨-, rfl⟩ | ht
        · exact absurd hid.symm ((hs.unused t.id (List.mem_singleton_self _)).2 e hold)
        · exact .inl ⟨hold, hkind, t, ht, hid⟩
  · exact .inl (scriptLeft_of_keeps (answer_keepsScripts (fun n script hop' => hop ⟨n, script, hop'⟩) h)
      he hleft)

/-- A script under a logged ID is an old one, if scripts that appear on their own have new IDs. -/
theorem scriptLeft_of_drift (hrows : ∀ b, ∀ s' ∈ (w'.account b).scripts.rows,
      (∃ s ∈ (w.account b).scripts.rows, s'.id = s.id ∧ s'.name = s.name) ∨ w.Unused [s'.id])
    (he : e ∈ w.made) {s' : Sdk.StartupScript} (hs' : s' ∈ (w'.account e.account).scripts.rows)
    (hid : s'.id = e.id) :
    ∃ s ∈ (w.account e.account).scripts.rows, s.id = e.id ∧ s'.name = s.name := by
  rcases hrows e.account s' hs' with ⟨s, hs, hsid, hsname⟩ | hunused
  · exact ⟨s, hs, hsid.symm.trans hid, hsname⟩
  · exact absurd hid.symm ((hunused s'.id (List.mem_singleton_self _)).2 e he)

/-- The startup scripts of the log that still exist have names `R` allows for their owners. -/
def ScriptsNamed (R : ι → String → Prop) (w : World ι) : Prop :=
  ∀ e ∈ w.made, e.kind = .script → ∀ s ∈ (w.account e.account).scripts.rows, s.id = e.id →
    R e.owner s.name

/-- A script that is added under an allowed name keeps the rule, and the other requests add none. -/
theorem ScriptsNamed.answer {R : ι → String → Prop} (h : ScriptsNamed R w) {who : ι} {c : Choice}
    {o : AccountCall} {x : AccountCall.Res o}
    (hadd : ∀ n script, o.2.op = .scriptsAdd n script → R who n)
    (hans : Cloud.answer who c w o = some (x, w')) : ScriptsNamed R w' := by
  rcases o with ⟨a, m, op⟩
  by_cases hop : ∃ n script, op = .scriptsAdd n script
  · rcases hop with ⟨n, script, rfl⟩
    rcases answer_scriptsAdd hans with rfl | ⟨s, hs, rfl⟩
    · exact h
    · intro e he hkind t ht hid
      rcases mem_addScript.1 ht with ⟨-, rfl⟩ | hold
      · rcases List.mem_cons.1 he with rfl | he
        · rw [hs.name]
          exact hadd n script rfl
        · exact absurd hid.symm ((hs.unused t.id (List.mem_singleton_self _)).2 e he)
      · -- an old row under a logged ID: the entry is an old one
        rcases List.mem_cons.1 he with rfl | he
        · have hdup := hs.scripts
          simp only [List.singleton_append, List.map_cons, List.nodup_cons] at hdup
          exact absurd (List.mem_map.2 ⟨t, hold, hid⟩) hdup.1
        · exact h e he hkind t hold hid
  · have hk : KeepsScripts w w' :=
      answer_keepsScripts (fun n script hop' => hop ⟨n, script, hop'⟩) hans
    intro e he hkind t ht hid
    exact h e ((hk.made e hkind).1 he) hkind t (hk.rows _ t ht) hid

theorem ScriptsNamed.drift {R : ι → String → Prop} (h : ScriptsNamed R w) (hmade : w'.made = w.made)
    (hrows : ∀ b, ∀ s' ∈ (w'.account b).scripts.rows,
      (∃ s ∈ (w.account b).scripts.rows, s'.id = s.id ∧ s'.name = s.name) ∨ w.Unused [s'.id]) :
    ScriptsNamed R w' := by
  intro e he hkind s' hs' hid
  rw [hmade] at he
  rcases scriptLeft_of_drift hrows he hs' hid with ⟨s, hs, hsid, hname⟩
  rw [hname]
  exact h e he hkind s hs hsid

end

/-! ## Deleting startup scripts -/

/-- `P` holds of every own startup script that still exists. -/
abbrev OwnLeft {ι : Type} (mine P : Made ι → Prop) (w : World ι) : Prop :=
  LeftIn (fun e => mine e → P e) w

/-- A setting for programs of the client at account `a`, in a world seen through `view`: the scripts of
the log that are `mine` have this name, what is left of them does not grow by itself, and requests that
add no script are allowed. -/
structure KeepsLeft {W ι : Type} (S : Setting W Call Call.Res) (view : W → World ι) (a : AccountID)
    (name : String) (mine : Made ι → Prop) : Prop where
  lawful : S.Lawful
  stable : ∀ P, S.Stable fun w => OwnLeft mine P (view w)
  answered : ∀ {w c x w'}, S.step w c x w' → ∃ who ch, answer who ch (view w) (a, c) = some (x, view w')
  allowed : ∀ {w c}, (∀ n script, c.op ≠ .scriptsAdd n script) → S.inv w → S.guar w c
  named : ∀ {w}, S.inv w → ∀ e ∈ (view w).made, mine e → e.kind = .script →
    ∀ s ∈ ((view w).account e.account).scripts.rows, s.id = e.id → s.name = name

namespace KeepsLeft

variable {W ι : Type} {S : Setting W Call Call.Res} {view : W → World ι} {a : AccountID} {name : String}
  {mine P : Made ι → Prop} {w : W}

/-- The rule for a request that adds no script. -/
theorem request (hS : KeepsLeft S view a name mine) {α : Type} {m : Method} {op : Sdk.Op}
    {f : Except Sdk.ApiErr (Sdk.Ans op) → ClientM α} {Q : α → W → Prop}
    (hop : ∀ n script, op ≠ .scriptsAdd n script) (hw : OwnLeft mine P (view w))
    (h : ∀ x w₁ w', S.inv w₁ → OwnLeft mine P (view w₁) → S.step w₁ ⟨m, op⟩ x w' →
      OwnLeft mine P (view w') → (f x).wp S Q w') :
    (Cloud.request m op >>= f).wp S Q w := by
  refine wp_request (hS.stable P) hw fun w₁ hw₁ hi => ⟨hS.allowed hop hi, fun x w' hs _ => ?_⟩
  rcases hS.answered hs with ⟨who, ch, hans⟩
  exact h x w₁ w' hi hw₁ hs (hw₁.keeps (answer_keepsScripts (fun n script => hop n script) hans))

/-- A part that adds no script keeps what is known of those that are left. -/
theorem frame (hS : KeepsLeft S view a name mine) {α : Type} {M : List Method} {p : ClientM α}
    {R : α → Prop} (hp : p.Obeys (Uses M) R) (hM : .createInstance ∉ M) (hw : OwnLeft mine P (view w)) :
    p.wp S (fun r w => OwnLeft mine P (view w) ∧ R r) w := by
  refine Prog.wp_frame hp (hS.stable P) (fun w c hc _ hi => hS.allowed (hc.ne_scriptsAdd hM) hi) ?_ hw
  intro w c x w' hc hw _ hs _
  rcases hS.answered hs with ⟨who, ch, hans⟩
  exact hw.keeps (answer_keepsScripts (fun n script => hc.ne_scriptsAdd hM n script) hans)

/-- `DeleteStartupScript`: when it succeeds, the script is not among those that are left. -/
theorem deleteStartupScript (hS : KeepsLeft S view a name mine) {id : String}
    (hw : OwnLeft mine P (view w)) :
    (Cloud.deleteStartupScript id).wp S (fun r w => r = .ok () →
      OwnLeft mine (fun e => P e ∧ ¬ (e.account = a ∧ e.id = id)) (view w)) w := by
  refine hS.request (fun _ _ h => by cases h) hw fun x w₁ w' _ _ hs hw' => ?_
  rcases hS.answered hs with ⟨who, ch, hans⟩
  have hgone : (∀ s ∈ ((view w').account a).scripts.rows, s.id ≠ id) →
      OwnLeft mine (fun e => P e ∧ ¬ (e.account = a ∧ e.id = id)) (view w') := by
    intro hnone e he hleft hmine
    refine ⟨hw' e he hleft hmine, fun heq => ?_⟩
    rcases hleft with ⟨-, s, hs, hid⟩
    rw [heq.1] at hs
    exact hnone s hs (hid.trans heq.2)
  rcases answer_scriptsDelete hans with hnone | ⟨e, rfl, he⟩
  · have hdone := hgone hnone
    -- the stronger fact is kept up to the return
    have hret : ∀ r : Except Err Unit, (Prog.ret r : ClientM _).wp S (fun r w => r = .ok () →
        OwnLeft mine (fun e => P e ∧ ¬ (e.account = a ∧ e.id = id)) (view w)) w' :=
      fun r => Prog.wp_ret (hS.stable _) hdone fun w h _ _ => h
    rcases x with e | u
    · dsimp only
      split
      · exact hret _
      · exact hret _
    · exact hret _
  · dsimp only
    rw [if_neg (by simp [he])]
    exact Prog.wp_ret (hS.stable _) hw' fun w _ _ h => by cases h

/-- The loop: what is left of the own scripts in the account is among the scripts still to come. -/
theorem deleteScriptsNamed (hS : KeepsLeft S view a name mine) (scripts : List Sdk.StartupScript) (w : W)
    (hw : OwnLeft mine (fun e => P e ∧ (e.account = a →
      ∃ s ∈ scripts, s.id = e.id ∧ s.name = name)) (view w)) :
    (Cloud.deleteScriptsNamed name scripts).wp S (fun r w => r = .ok () →
      OwnLeft mine (fun e => P e ∧ e.account ≠ a) (view w)) w := by
  induction scripts generalizing w with
  | nil =>
    have hnone : OwnLeft mine (fun e => P e ∧ e.account ≠ a) (view w) := by
      refine hw.mono fun e h hmine => ⟨(h hmine).1, fun hacc => ?_⟩
      rcases (h hmine).2 hacc with ⟨s, hs, -⟩
      cases hs
    exact Prog.wp_ret (hS.stable _) hnone fun w h _ _ => h
  | cons script scripts ih =>
    unfold Cloud.deleteScriptsNamed
    split
    · rename_i hname
      refine ih w (hw.mono fun e h hmine => ⟨(h hmine).1, fun hacc => ?_⟩)
      rcases (h hmine).2 hacc with ⟨s, hs, hid, hsname⟩
      rcases List.mem_cons.1 hs with rfl | hs
      · exact absurd hsname hname
      · exact ⟨s, hs, hid, hsname⟩
    · refine Prog.wp_bind hS.lawful (Prog.wp_mono ?_ (hS.deleteStartupScript hw))
      intro r w _ hr
      rcases r with e | u
      · exact Prog.wp_ret_any fun w _ h => by cases h
      · refine ih w ((hr rfl).mono fun e h hmine => ⟨(h hmine).1.1, fun hacc => ?_⟩)
        rcases (h hmine).1.2 hacc with ⟨s, hs, hid, hsname⟩
        rcases List.mem_cons.1 hs with rfl | hs
        · exact absurd ⟨hacc, hid.symm⟩ (h hmine).2
        · exact ⟨s, hs, hid, hsname⟩

/-- `DeleteStartupScriptByName`: when it succeeds, no own script is left in the account. -/
theorem deleteStartupScriptByName (hS : KeepsLeft S view a name mine) (hw : OwnLeft mine P (view w)) :
    (Cloud.deleteStartupScriptByName name).wp S (fun r w => r = .ok () →
      OwnLeft mine (fun e => P e ∧ e.account ≠ a) (view w)) w := by
  refine hS.request (fun _ _ h => by cases h) hw fun x w₁ w' hi hw₁ hs hw' => ?_
  rcases hS.answered hs with ⟨who, ch, hans⟩
  rcases answer_scriptsGetAll hans with ⟨hview, rfl | ⟨e, rfl⟩⟩
  · refine hS.deleteScriptsNamed _ w' fun e he hleft hmine => ⟨hw' e he hleft hmine, fun hacc => ?_⟩
    rw [hview] at he hleft
    rcases hleft with ⟨hkind, s, hs, hid⟩
    have hname : s.name = name := hS.named hi e he hmine hkind s hs hid
    rw [hacc] at hs
    exact ⟨s, hs, hid, hname⟩
  · exact Prog.wp_ret_any fun w _ h => by cases h

end KeepsLeft

end VerdaCapi.Controller
