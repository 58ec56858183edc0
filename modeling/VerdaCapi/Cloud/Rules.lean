import VerdaCapi.Cloud.Answers

/-!
# Proof rules for programs of the client

How a weakest precondition over all accounts is seen by a program that runs against one of them, and
the rule for one request.
-/

namespace VerdaCapi.Cloud

open Remote

variable {W α : Type}

/-- A setting as a program of the client sees it, when it is run against account `a`. -/
def atAccount (S : Setting W AccountCall AccountCall.Res) (a : AccountID) :
    Setting W Call Call.Res :=
  S.comap (fun c => (a, c)) fun _ x => x

section

variable {S : Setting W AccountCall AccountCall.Res} {a : AccountID} {w w' : W}

theorem atAccount_step {c : Call} {x : Call.Res c} :
    (atAccount S a).step w c x w' ↔ S.step w (a, c) x w' := by
  simp [atAccount, Setting.comap]

theorem Setting.Lawful.atAccount (hS : S.Lawful) : (atAccount S a).Lawful := hS.comap _ _

end

/-- The rule for one request of a method. -/
theorem wp_request {S : Setting W Call Call.Res} {w : W} {m : Method} {op : Sdk.Op}
    {f : Except Sdk.ApiErr (Sdk.Ans op) → ClientM α}
    {P : W → Prop} {Q : α → W → Prop} (hP : S.Stable P) (hw : P w)
    (hcall : ∀ w, P w → S.inv w →
      S.guar w ⟨m, op⟩ ∧ ∀ x w', S.step w ⟨m, op⟩ x w' → S.inv w' → (f x).wp S Q w') :
    (request m op >>= f).wp S Q w :=
  Prog.wp_call hP hw hcall

/-- A lookup is one request: by the recorded ID, or else a listing. -/
theorem wp_lookupInstance {S : Setting W Call Call.Res} {w : W} {id : String} {pick : Pick}
    {Q : Except Err (Option Instance) → W → Prop} (hQ : ∀ r, S.Stable (Q r))
    (hguar : ∀ w c, c = ⟨.getInstance, .instancesGetByID id⟩ ∨ c = tagListing → S.inv w → S.guar w c)
    (hget : id ≠ "" → ∀ w₁ x w', S.rely w w₁ → S.inv w₁ →
      S.step w₁ ⟨.getInstance, .instancesGetByID id⟩ x w' → Q (pickByID id x) w')
    (hlist : id = "" → ∀ w₁ x w', S.rely w w₁ → S.inv w₁ → S.step w₁ tagListing x w' → Q (pick x) w') :
    (lookupInstance id pick).wp S Q w := by
  unfold lookupInstance
  split
  · rename_i hid
    exact fun w₁ hr hi => ⟨hguar w₁ _ (.inl rfl) hi, fun x w' hs _ =>
      Prog.wp_ret_stable (hQ _) (hget hid w₁ x w' hr hi hs)⟩
  · rename_i hid
    exact fun w₁ hr hi => ⟨hguar w₁ _ (.inr rfl) hi, fun x w' hs _ =>
      Prog.wp_ret_stable (hQ _) (hlist (not_not.1 hid) w₁ x w' hr hi hs)⟩

/-- `CreateInstance`, with a precondition `P` that all its requests but `Instances.Create` keep, and
that allows that one. The startup script ID of the result may be filled in. Nothing is promised when it
fails. -/
theorem wp_createInstance {S : Setting W Call Call.Res} {w : W} (hS : S.Lawful) {spec : InstanceSpec}
    {P : W → Prop} {Q : Except Err Instance → W → Prop} (hP : S.Stable P) (hQ : ∀ r, S.Stable (Q r))
    (herr : ∀ e w, Q (.error e) w)
    (hkeep : ∀ c w, Uses createMethods c → (∀ req, c.op ≠ .instancesCreate req) → S.inv w →
      S.guar w c ∧ (P w → ∀ x w', S.step w c x w' → S.inv w' → P w'))
    (hcreate : ∀ sid w, P w → S.inv w →
      S.guar w ⟨.createInstance, .instancesCreate { createRequest spec with startupScriptID := sid }⟩ ∧
      ∀ i w', S.step w
          ⟨.createInstance, .instancesCreate { createRequest spec with startupScriptID := sid }⟩
          (.ok i) w' → S.inv w' →
        ∀ sid', Q (.ok { toInstance i with startupScriptID := sid' }) w')
    (hw : P w) : (createInstance spec).wp S Q w := by
  have hframe : ∀ {p : ClientM (Except Err Unit)} {w}, p.Obeys (Uses [.deleteStartupScriptByName,
      .deleteStartupScript]) (fun _ => True) → P w → p.wp S (fun _ w => P w) w := by
    intro p w hp hw
    have hscripts : ∀ {c}, Uses [.deleteStartupScriptByName, .deleteStartupScript] c →
        Uses createMethods c ∧ ∀ req, c.op ≠ .instancesCreate req :=
      fun hc => ⟨hc.mono (by decide), hc.ne_instancesCreate (by decide)⟩
    refine Prog.wp_mono (fun _ _ _ h => h.1) (Prog.wp_frame hp hP ?_ ?_ hw)
    · exact fun w c hc _ hi => (hkeep c w (hscripts hc).1 (hscripts hc).2 hi).1
    · exact fun w c x w' hc hw hi hs hi' => (hkeep c w (hscripts hc).1 (hscripts hc).2 hi).2 hw x w' hs hi'
  -- the last request, from any state in which `P` holds
  have hlast : ∀ sid w, P w → (createWith spec sid).wp S Q w := by
    intro sid w hw
    refine wp_request hP hw fun w hw hi => ⟨(hcreate sid w hw hi).1, ?_⟩
    rintro (e | i) w' hs hi'
    · cases sid with
      | none => exact Prog.wp_ret_stable (hQ _) (herr _ _)
      | some id =>
        refine wp_request (P := fun _ => True) (fun _ _ _ _ _ => trivial) trivial fun w _ hi => ?_
        refine ⟨?_, fun _ w' _ _ => Prog.wp_ret_stable (hQ _) (herr _ _)⟩
        exact (hkeep ⟨.createInstance, .scriptsDelete id⟩ w (.of (by decide) rfl) (by simp) hi).1
    · have hok := (hcreate sid w hw hi).2 i w' hs hi'
      dsimp only
      split
      · exact Prog.wp_ret_stable (hQ _) (hok _)
      · exact Prog.wp_ret_stable (hQ _) (hok (toInstance i).startupScriptID)
  refine wp_request hP hw fun w hw hi => ?_
  obtain ⟨hg, hk⟩ := hkeep ⟨.createInstance, .instancesGet⟩ w (.of (by decide) rfl) (by simp) hi
  refine ⟨hg, ?_⟩
  rintro (e | instances) w₁ hs₁ hi₁
  · exact Prog.wp_ret_stable (hQ _) (herr _ _)
  · have hw₁ := hk hw _ w₁ hs₁ hi₁
    dsimp only
    split
    · exact Prog.wp_ret_stable (hQ _) (herr _ _)
    · refine Prog.wp_bind hS (Prog.wp_mono ?_ (hframe
        (deleteStartupScriptByName_uses spec.hostname (by decide) (by decide)) hw₁))
      rintro (e | -) w _ hw
      · exact Prog.wp_ret_stable (hQ _) (herr _ _)
      · dsimp only
        split
        · exact hlast none w hw
        · refine wp_request hP hw fun w hw hi => ?_
          obtain ⟨hg, hk⟩ := hkeep ⟨.createInstance, .scriptsAdd spec.hostname spec.startupScript⟩ w
            (.of (by decide) rfl) (by simp) hi
          refine ⟨hg, ?_⟩
          rintro (e | script) w' hs hi'
          · exact Prog.wp_ret_stable (hQ _) (herr _ _)
          · exact hlast _ w' (hk hw _ w' hs hi')

end VerdaCapi.Cloud
