import VerdaCapi.Cloud.Account

/-!
# What an answer tells, and what it changes

`answer_cases` is the one case analysis over how a request can go. From it follow, for each request,
what its answer says about the account and what it leaves unchanged there.
-/

namespace VerdaCapi.Cloud

open Remote

variable {ι : Type} {who : ι} {c : Choice} {w w' : World ι} {a : AccountID} {m : Method}

/-- The three ways a request goes. -/
theorem answer_cases {op : Sdk.Op} {x : Except Sdk.ApiErr (Sdk.Ans op)}
    {P : Except Sdk.ApiErr (Sdk.Ans op) → World ι → Prop}
    (h : answer who c w (a, ⟨m, op⟩) = some (x, w'))
    (hrefuse : ∀ e, misleads op e = false → P (.error e) w)
    (haccept : ∀ fx x w', react who w a op fx = some (x, w') → P x w')
    (hlose : ∀ fx x w' e, react who w a op fx = some (x, w') → misleads op e = false →
      P (.error e) w') : P x w' := by
  cases c with
  | refuse e =>
    simp only [answer] at h
    split at h
    · cases h
    · rename_i he
      cases h
      exact hrefuse e (by simpa using he)
  | accept fx => exact haccept fx x w' h
  | lose fx e =>
    simp only [answer] at h
    split at h
    · cases h
    · rename_i he
      obtain ⟨⟨y, w₁⟩, hr, hx⟩ := Option.map_eq_some_iff.1 h
      cases hx
      exact hlose fx y w₁ e hr (by simpa using he)

/-! ## Reads -/

section Reads

variable {id : String}

/-- A request that reads: the world stays, and a successful answer is the true one. -/
theorem answer_read {op : Sdk.Op} {x y : Except Sdk.ApiErr (Sdk.Ans op)}
    (hop : ∀ fx, react who w a op fx = some (y, w))
    (h : answer who c w (a, ⟨m, op⟩) = some (x, w')) :
    w' = w ∧ (x = y ∨ ∃ e, x = .error e ∧ misleads op e = false) := by
  have hr : ∀ {fx x w'}, react who w a op fx = some (x, w') → x = y ∧ w' = w := by
    intro fx x w' h
    rw [hop fx] at h
    cases h
    exact ⟨rfl, rfl⟩
  refine answer_cases
    (P := fun x w' => w' = w ∧ (x = y ∨ ∃ e, x = .error e ∧ misleads op e = false)) h
    (fun e he => ⟨rfl, .inr ⟨e, rfl, he⟩⟩) ?_ ?_
  · intro fx x w' h
    exact ⟨(hr h).2, .inl (hr h).1⟩
  · intro fx x w' e h he
    exact ⟨(hr h).2, .inr ⟨e, rfl, he⟩⟩

theorem answer_instancesGet {x : Except Sdk.ApiErr (List Sdk.Instance)}
    (h : answer who c w (a, ⟨m, .instancesGet⟩) = some (x, w')) :
    w' = w ∧ (x = .ok (w.account a).instances.rows ∨ ∃ e, x = .error e) := by
  obtain ⟨hw, hx | ⟨e, he, -⟩⟩ := answer_read (fun _ => rfl) h
  · exact ⟨hw, .inl hx⟩
  · exact ⟨hw, .inr ⟨e, he⟩⟩

theorem answer_instancesGetByID {x : Except Sdk.ApiErr Sdk.Instance}
    (h : answer who c w (a, ⟨m, .instancesGetByID id⟩) = some (x, w')) :
    w' = w ∧ ((∃ i ∈ (w.account a).instances.rows, i.id = id ∧ x = .ok i) ∨
      ((∀ i ∈ (w.account a).instances.rows, i.id ≠ id) ∧ x = .error absent) ∨
      ∃ e, x = .error e ∧ isNotFound e = false) := by
  obtain ⟨hw, hx | ⟨e, rfl, he⟩⟩ := answer_read (fun _ => rfl) h
  · refine ⟨hw, ?_⟩
    cases hg : (w.account a).instances.get id with
    | some i =>
      obtain ⟨hi, hid⟩ := Table.get_eq_some_iff.1 hg
      exact .inl ⟨i, hi, hid, by simpa [hg, found] using hx⟩
    | none => exact .inr (.inl ⟨Table.get_eq_none_iff.1 hg, by simpa [hg, found] using hx⟩)
  · exact ⟨hw, .inr (.inr ⟨e, rfl, he⟩)⟩

/-- The record that is answered has the ID that was asked for. -/
theorem answer_fetched {i : Sdk.Instance}
    (h : answer who c w (a, ⟨m, .instancesGetByID id⟩) = some (.ok i, w')) :
    i ∈ (w.account a).instances.rows ∧ i.id = id := by
  rcases answer_instancesGetByID h with ⟨-, ⟨j, hj, hid, heq⟩ | ⟨-, heq⟩ | ⟨e, heq, -⟩⟩
  · cases heq
    exact ⟨hj, hid⟩
  · cases heq
  · cases heq

theorem mem_active {acc : Account} {v : Sdk.Volume} : v ∈ acc.active ↔ stored v ∈ acc.volumes.rows := by
  simp only [Account.active, List.mem_map, List.mem_filter]
  constructor
  · rintro ⟨⟨v', t⟩, ⟨hmem, ht⟩, rfl⟩
    cases t with
    | true => cases ht
    | false => exact hmem
  · intro h
    exact ⟨stored v, ⟨h, rfl⟩, rfl⟩

theorem volume_eq_some_iff {acc : Account} {v : Sdk.Volume} :
    acc.volume id = some v ↔ v ∈ acc.active ∧ v.id = id := by
  rw [mem_active, Account.volume]
  cases hg : acc.volumes.get id with
  | none =>
    simp only [reduceCtorEq, false_iff, not_and]
    exact fun hv => Table.get_eq_none_iff.1 hg _ hv
  | some sv =>
    obtain ⟨hmem, rfl⟩ := Table.get_eq_some_iff.1 hg
    obtain ⟨v', t⟩ := sv
    cases t with
    | true =>
      simp only [if_true, reduceCtorEq, false_iff, not_and]
      intro hv hid
      have := acc.volumes.eq_of_key hv hmem hid
      cases this
    | false =>
      simp only [Bool.false_eq_true, if_false, Option.some.injEq]
      constructor
      · rintro rfl
        exact ⟨hmem, rfl⟩
      · rintro ⟨hv, hid⟩
        have := acc.volumes.eq_of_key hmem hv hid.symm
        cases this
        rfl

theorem volume_eq_none_iff {acc : Account} :
    acc.volume id = none ↔ ∀ v ∈ acc.active, v.id ≠ id := by
  constructor
  · intro h v hv hid
    have := volume_eq_some_iff.2 ⟨hv, hid⟩
    simp [h] at this
  · intro h
    cases hg : acc.volume id with
    | none => rfl
    | some v =>
      obtain ⟨hv, hid⟩ := volume_eq_some_iff.1 hg
      exact absurd hid (h v hv)

theorem answer_volumesGet {x : Except Sdk.ApiErr Sdk.Volume}
    (h : answer who c w (a, ⟨m, .volumesGet id⟩) = some (x, w')) :
    w' = w ∧ ((∃ v ∈ (w.account a).active, v.id = id ∧ x = .ok v) ∨
      ((∀ v ∈ (w.account a).active, v.id ≠ id) ∧ x = .error absent) ∨
      ∃ e, x = .error e ∧ isNotFound e = false) := by
  obtain ⟨hw, hx | ⟨e, rfl, he⟩⟩ := answer_read (fun _ => rfl) h
  · refine ⟨hw, ?_⟩
    cases hg : (w.account a).volume id with
    | some v =>
      obtain ⟨hv, hid⟩ := volume_eq_some_iff.1 hg
      exact .inl ⟨v, hv, hid, by simpa [hg, found] using hx⟩
    | none => exact .inr (.inl ⟨volume_eq_none_iff.1 hg, by simpa [hg, found] using hx⟩)
  · exact ⟨hw, .inr (.inr ⟨e, rfl, he⟩)⟩

theorem answer_volumesList {x : Except Sdk.ApiErr (List Sdk.Volume)}
    (h : answer who c w (a, ⟨m, .volumesList⟩) = some (x, w')) :
    w' = w ∧ (x = .ok (w.account a).active ∨ ∃ e, x = .error e) := by
  obtain ⟨hw, hx | ⟨e, he, -⟩⟩ := answer_read (fun _ => rfl) h
  · exact ⟨hw, .inl hx⟩
  · exact ⟨hw, .inr ⟨e, he⟩⟩

theorem answer_volumesInTrash {x : Except Sdk.ApiErr (List Sdk.Volume)}
    (h : answer who c w (a, ⟨m, .volumesInTrash⟩) = some (x, w')) :
    w' = w ∧ (x = .ok (w.account a).trash ∨ ∃ e, x = .error e) := by
  obtain ⟨hw, hx | ⟨e, he, -⟩⟩ := answer_read (fun _ => rfl) h
  · exact ⟨hw, .inl hx⟩
  · exact ⟨hw, .inr ⟨e, he⟩⟩

theorem answer_scriptsGetAll {x : Except Sdk.ApiErr (List Sdk.StartupScript)}
    (h : answer who c w (a, ⟨m, .scriptsGetAll⟩) = some (x, w')) :
    w' = w ∧ (x = .ok (w.account a).scripts.rows ∨ ∃ e, x = .error e) := by
  obtain ⟨hw, hx | ⟨e, he, -⟩⟩ := answer_read (fun _ => rfl) h
  · exact ⟨hw, .inl hx⟩
  · exact ⟨hw, .inr ⟨e, he⟩⟩

end Reads

/-! ## What a request changes -/

/-- The kinds of things a request may create. -/
def makes : Sdk.Op → Kind → Bool
  | .instancesCreate _, .instance_ => true
  | .instancesCreate _, .attached => true
  | .volumesClone _ _ _, .clone => true
  | .scriptsAdd _ _, .script => true
  | _, _ => false

/-- What a request creates: only these three create anything. -/
theorem makes_cases {op : Sdk.Op} {k : Kind} (h : makes op k = true) :
    (∃ req, op = .instancesCreate req ∧ (k = .instance_ ∨ k = .attached)) ∨
      (∃ sourceID name location, op = .volumesClone sourceID name location ∧ k = .clone) ∨
      ∃ name script, op = .scriptsAdd name script ∧ k = .script := by
  cases op with
  | instancesCreate req =>
    cases k with
    | instance_ => exact .inl ⟨req, rfl, .inl rfl⟩
    | attached => exact .inl ⟨req, rfl, .inr rfl⟩
    | _ => cases h
  | volumesClone sourceID name location =>
    cases k with
    | clone => exact .inr (.inl ⟨sourceID, name, location, rfl, rfl⟩)
    | _ => cases h
  | scriptsAdd name script =>
    cases k with
    | script => exact .inr (.inr ⟨name, script, rfl, rfl⟩)
    | _ => cases h
  | _ => cases k <;> cases h

/-- The requests about startup scripts, which leave volumes alone. -/
def aboutScripts : Sdk.Op → Bool
  | .scriptsGetAll => true
  | .scriptsDelete _ => true
  | _ => false

/-- How the account changes with a request, and what is logged. -/
structure Touches (who : ι) (a : AccountID) (op : Sdk.Op) (acc acc' : Account)
    (es : List (Made ι)) : Prop where
  instances : (∀ req, op ≠ .instancesCreate req) →
    ∀ i' ∈ acc'.instances.rows, ∃ i ∈ acc.instances.rows, Keeps i i'
  volumes : aboutScripts op = true → acc'.volumes = acc.volumes
  scripts : (∀ name script, op ≠ .scriptsAdd name script) →
    ∀ s ∈ acc'.scripts.rows, s ∈ acc.scripts.rows
  logged : ∀ e ∈ es, makes op e.kind = true ∧ e.owner = who ∧ e.account = a

theorem Keeps.refl (i : Sdk.Instance) : Keeps i i := ⟨rfl, rfl, rfl, rfl, fun h => h, fun _ => rfl⟩

theorem Keeps.tagOf {i i' : Sdk.Instance} (h : Keeps i i') (key : String) :
    tagOf i' key = tagOf i key := by
  simp only [Cloud.tagOf, toInstance, h.tags]

theorem keeps_advance (ids : List String) (status : String) (i : Sdk.Instance) :
    Keeps i (advance ids status i) := by
  unfold advance
  split
  · rename_i h
    have hlive : isGone i = false := by simpa using h.2
    exact ⟨rfl, rfl, rfl, rfl, fun hg => by simp [hlive] at hg, fun _ => rfl⟩
  · exact .refl i

theorem deleteVolumes_instances (acc : Account) (ids : List String) (permanent : Bool) :
    (acc.deleteVolumes ids permanent).instances = acc.instances := by
  unfold Account.deleteVolumes
  split <;> rfl

theorem deleteVolumes_scripts (acc : Account) (ids : List String) (permanent : Bool) :
    (acc.deleteVolumes ids permanent).scripts = acc.scripts := by
  unfold Account.deleteVolumes
  split <;> rfl

/-- A change of volumes only, or none at all. -/
theorem Touches.ofVolumes {op : Sdk.Op} {acc acc' : Account} (hop : aboutScripts op = false)
    (hi : acc'.instances = acc.instances) (hs : acc'.scripts = acc.scripts) :
    Touches who a op acc acc' [] where
  instances _ i' hi' := ⟨i', hi ▸ hi', .refl i'⟩
  volumes h := by simp [hop] at h
  scripts _ _ hs' := hs ▸ hs'
  logged := List.forall_mem_nil _

theorem Touches.refl (op : Sdk.Op) (acc : Account) : Touches who a op acc acc [] where
  instances _ i' hi' := ⟨i', hi', .refl i'⟩
  volumes _ := rfl
  scripts _ _ hs := hs
  logged := List.forall_mem_nil _

/-- `World.set` and `World.log` describe every change. -/
theorem set_self (w : World ι) (a : AccountID) : (w.set a (w.account a)).log [] = w := by
  simp [World.set, World.log]

/-- The one case analysis over what a request changes. -/
theorem react_touches {op : Sdk.Op} {fx : Effect} {x : Except Sdk.ApiErr (Sdk.Ans op)}
    (h : react who w a op fx = some (x, w')) :
    ∃ acc es, w' = (w.set a acc).log es ∧ Touches who a op (w.account a) acc es := by
  have hsame : ∃ acc es, w = (w.set a acc).log es ∧ Touches who a op (w.account a) acc es :=
    ⟨_, [], (set_self w a).symm, .refl op _⟩
  cases op with
  | instancesCreate req =>
    cases fx <;> simp only [react, reduceCtorEq] at h
    split at h
    · cases h
      refine ⟨_, _, rfl, fun hop => absurd rfl (hop req), (fun h => by cases h), fun _ s hs => hs, ?_⟩
      intro e he
      rcases List.mem_cons.1 he with rfl | he
      · exact ⟨rfl, rfl, rfl⟩
      · obtain ⟨v, -, rfl⟩ := List.mem_map.1 he
        exact ⟨rfl, rfl, rfl⟩
    · cases h
  | instancesDelete ids volumeIDs permanent =>
    have hkeep : ∀ status, ∀ i' ∈ ((w.account a).instances.modify (advance ids status)
        (advance_id ids status)).rows, ∃ i ∈ (w.account a).instances.rows, Keeps i i' := by
      intro status i' hi'
      obtain ⟨i, hi, rfl⟩ := Table.mem_modify.1 hi'
      exact ⟨i, hi, keeps_advance ids status i⟩
    simp only [react] at h
    split at h
    · split at h
      · cases h
        exact ⟨_, [], rfl, fun _ => hkeep _, (fun h => by cases h), fun _ s hs => hs, List.forall_mem_nil _⟩
      · cases h
        refine ⟨_, [], rfl, fun _ => ?_, (fun h => by cases h), fun _ s hs => ?_, List.forall_mem_nil _⟩
        · rw [Account.deleteInstances, deleteVolumes_instances]
          exact hkeep _
        · rw [Account.deleteInstances, deleteVolumes_scripts] at hs
          exact hs
    · cases h
      exact hsame
  | volumesClone sourceID name location =>
    simp only [react] at h
    split at h
    · cases h
      exact hsame
    · split at h
      · cases h
        refine ⟨_, _, rfl, fun _ i' hi' => ⟨i', hi', .refl i'⟩, (fun h => by cases h), fun _ s hs => hs, ?_⟩
        intro e he
        obtain rfl := List.mem_singleton.1 he
        exact ⟨rfl, rfl, rfl⟩
      · cases h
    · cases h
  | volumesAddTag id tag =>
    simp only [react] at h
    split at h
    · cases h
      exact hsame
    · split at h
      · cases h
        exact hsame
      · cases h
        exact ⟨_, [], rfl, .ofVolumes rfl rfl rfl⟩
  | volumesDelete id permanent =>
    simp only [react] at h
    split at h
    · cases h
      exact hsame
    · cases h
      exact ⟨_, [], rfl, .ofVolumes rfl (deleteVolumes_instances _ _ _)
        (deleteVolumes_scripts _ _ _)⟩
  | scriptsAdd name script =>
    cases fx <;> simp only [react, reduceCtorEq] at h
    split at h
    · cases h
      refine ⟨_, _, rfl, fun _ i' hi' => ⟨i', hi', .refl i'⟩, (fun h => by cases h),
        fun hop => absurd rfl (hop name script), ?_⟩
      intro e he
      obtain rfl := List.mem_singleton.1 he
      exact ⟨rfl, rfl, rfl⟩
    · cases h
  | scriptsDelete id =>
    simp only [react] at h
    split at h
    · cases h
      exact hsame
    · cases h
      refine ⟨_, [], rfl, fun _ i' hi' => ⟨i', hi', .refl i'⟩, fun _ => rfl, fun _ s hs => ?_,
        List.forall_mem_nil _⟩
      exact (Table.mem_filter.1 hs).1
  | _ =>
    cases h
    exact hsame

/-- The same for an answer, which may be lost. -/
theorem answer_touches {o : AccountCall} {x : AccountCall.Res o} (h : answer who c w o = some (x, w')) :
    ∃ acc es, w' = (w.set o.1 acc).log es ∧ Touches who o.1 o.2.op (w.account o.1) acc es :=
  answer_cases (P := fun _ w' => ∃ acc es, w' = (w.set o.1 acc).log es ∧
      Touches who o.1 o.2.op (w.account o.1) acc es) h
    (fun _ _ => ⟨_, [], (set_self w o.1).symm, .refl _ _⟩) (fun _ _ _ h => react_touches h)
    fun _ _ _ _ h _ => react_touches h

/-- A request touches no other account. -/
theorem answer_account {o : AccountCall} {x : AccountCall.Res o} (h : answer who c w o = some (x, w'))
    {b : AccountID} (hb : b ≠ o.1) : w'.account b = w.account b := by
  obtain ⟨acc, es, rfl, -⟩ := answer_touches h
  simp [World.set, World.log, hb]

/-- The log only grows. -/
theorem answer_grows {o : AccountCall} {x : AccountCall.Res o} (h : answer who c w o = some (x, w')) :
    ∀ e ∈ w.made, e ∈ w'.made := by
  obtain ⟨acc, es, rfl, -⟩ := answer_touches h
  exact fun e he => List.mem_append_right _ he

/-- What a request adds to the log is its owner's, in its account. -/
theorem answer_logged {o : AccountCall} {x : AccountCall.Res o} (h : answer who c w o = some (x, w'))
    {e : Made ι} (he : e ∈ w'.made) :
    e ∈ w.made ∨ (makes o.2.op e.kind = true ∧ e.owner = who ∧ e.account = o.1) := by
  obtain ⟨acc, es, rfl, ht⟩ := answer_touches h
  rcases List.mem_append.1 he with hnew | hold
  · exact .inr (ht.logged e hnew)
  · exact .inl hold

/-! ## Instances -/

/-- No new instances, and no new log entries for any. -/
structure KeepsInstances (w w' : World ι) : Prop where
  rows : ∀ b, ∀ i' ∈ (w'.account b).instances.rows, ∃ i ∈ (w.account b).instances.rows, Keeps i i'
  made : ∀ e : Made ι, e.kind = .instance_ → (e ∈ w'.made ↔ e ∈ w.made)

/-- Only `Instances.Create` brings new instances. -/
theorem answer_keepsInstances {o : AccountCall} {x : AccountCall.Res o}
    (hop : ∀ req, o.2.op ≠ .instancesCreate req) (h : answer who c w o = some (x, w')) :
    KeepsInstances w w' := by
  obtain ⟨acc, es, rfl, ht⟩ := answer_touches h
  refine ⟨fun b i' hi' => ?_, fun e he => ?_⟩
  · by_cases hb : b = o.1
    · subst hb
      exact ht.instances hop i' (by simpa [World.set, World.log] using hi')
    · exact ⟨i', by simpa [World.set, World.log, hb] using hi', .refl i'⟩
  · have hne : e ∉ es := by
      intro hmem
      rcases makes_cases (ht.logged e hmem).1 with ⟨req, hreq, -⟩ | ⟨_, _, _, -, hk⟩ | ⟨_, _, -, hk⟩
      · exact hop req hreq
      · rw [he] at hk
        cases hk
      · rw [he] at hk
        cases hk
    simp [World.log, World.set, hne]

/-- `Instances.Create` fails without effect, or creates an instance and may still fail. -/
theorem answer_instancesCreate {req : Sdk.CreateInstanceRequest}
    {x : Except Sdk.ApiErr Sdk.Instance}
    (h : answer who c w (a, ⟨m, .instancesCreate req⟩) = some (x, w')) :
    (w' = w ∧ ∃ e, x = .error e) ∨
      ∃ i vs, ∃ hc : Creates w a req i vs, w' = w.create who a hc ∧
        (x = .ok i ∨ ∃ e, x = .error e) := by
  have hr : ∀ {fx : Effect} {x : Except Sdk.ApiErr Sdk.Instance} {w' : World ι},
      react who w a (.instancesCreate req) fx = some (x, w') →
      ∃ i vs, ∃ hc : Creates w a req i vs, w' = w.create who a hc ∧ x = .ok i := by
    intro fx x w' h
    cases fx <;> simp only [react, reduceCtorEq] at h
    split at h
    · rename_i i vs hc
      cases h
      exact ⟨i, vs, hc, rfl, rfl⟩
    · cases h
  refine answer_cases (P := fun x w' => (w' = w ∧ ∃ e, x = .error e) ∨
      ∃ i vs, ∃ hc : Creates w a req i vs, w' = w.create who a hc ∧
        (x = .ok i ∨ ∃ e, x = .error e)) h (fun e _ => .inl ⟨rfl, e, rfl⟩) ?_ ?_
  · intro fx x w' h
    obtain ⟨i, vs, hc, hw, hx⟩ := hr h
    exact .inr ⟨i, vs, hc, hw, .inl hx⟩
  · intro fx x w' e h _
    obtain ⟨i, vs, hc, hw, -⟩ := hr h
    exact .inr ⟨i, vs, hc, hw, .inr ⟨e, rfl⟩⟩

/-- An instance that `Instances.Create` answers with was created. -/
theorem answer_created {req : Sdk.CreateInstanceRequest} {i : Sdk.Instance}
    (h : answer who c w (a, ⟨m, .instancesCreate req⟩) = some (.ok i, w')) :
    ∃ vs, ∃ hc : Creates w a req i vs, w' = w.create who a hc := by
  rcases answer_instancesCreate h with ⟨-, e, he⟩ | ⟨j, vs, hc, hw, hj | ⟨e, he⟩⟩
  · cases he
  · cases hj
    exact ⟨vs, hc, hw⟩
  · cases he

/-- The instances after a creation: the new one, and the old ones. -/
theorem mem_create_instances {req : Sdk.CreateInstanceRequest} {i j : Sdk.Instance}
    {vs : List Sdk.Volume} {hc : Creates w a req i vs} {b : AccountID} :
    j ∈ ((w.create who a hc).account b).instances.rows ↔
      (b = a ∧ j = i) ∨ j ∈ (w.account b).instances.rows := by
  by_cases hb : b = a
  · subst hb
    simp [World.create, World.set, World.log]
  · simp [World.create, World.set, World.log, hb]

/-- The log after a creation. -/
theorem mem_create_made_instance {req : Sdk.CreateInstanceRequest} {i : Sdk.Instance}
    {vs : List Sdk.Volume} {hc : Creates w a req i vs} {e : Made ι} (he : e.kind = .instance_) :
    e ∈ (w.create who a hc).made ↔ e = ⟨who, .instance_, a, i.id⟩ ∨ e ∈ w.made := by
  have hne : ∀ v : Sdk.Volume, e ≠ ⟨who, .attached, a, v.id⟩ := fun v heq => by simp [heq] at he
  simp only [World.create, World.set, World.log, List.cons_append, List.mem_cons, List.mem_append, List.mem_map]
  constructor
  · rintro (h | ⟨v, -, hv⟩ | h)
    · exact .inl h
    · exact absurd hv.symm (hne v)
    · exact .inr h
  · rintro (h | h)
    · exact .inl h
    · exact .inr (.inr h)

/-- What drift does to instances: each is an old one, or is new and carries no reserved tag. -/
theorem drift_instances {reserved : String → Bool} {d : AccountID × Account}
    (h : drift reserved d w = some w') :
    w'.made = w.made ∧ ∀ b, ∀ i' ∈ (w'.account b).instances.rows,
      (∃ i ∈ (w.account b).instances.rows, Keeps i i') ∨
        (w.Unused [i'.id] ∧ reserved (tagOf i' tagMachine) = false) := by
  unfold drift at h
  split at h
  · rename_i hd
    cases h
    refine ⟨rfl, fun b i' hi' => ?_⟩
    by_cases hb : b = d.1
    · subst hb
      exact hd.instances i' (by simpa [World.set] using hi')
    · exact .inl ⟨i', by simpa [World.set, hb] using hi', .refl i'⟩
  · cases h

/-- Each instance after a request is a later record of an old one, or was created by the request and
logged. -/
theorem answer_instances {o : AccountCall} {x : AccountCall.Res o}
    (h : answer who c w o = some (x, w')) :
    ∀ b, ∀ i' ∈ (w'.account b).instances.rows, (∃ i ∈ (w.account b).instances.rows, Keeps i i') ∨
      (b = o.1 ∧ ∃ req vs, o.2.op = .instancesCreate req ∧ Creates w b req i' vs ∧
        ⟨who, .instance_, b, i'.id⟩ ∈ w'.made) := by
  rcases o with ⟨a, m, op⟩
  intro b i' hi'
  by_cases hop : ∃ req, op = .instancesCreate req
  · rcases hop with ⟨req, rfl⟩
    rcases answer_instancesCreate h with ⟨rfl, -⟩ | ⟨i, vs, hc, rfl, -⟩
    · exact .inl ⟨i', hi', .refl i'⟩
    · rcases mem_create_instances.1 hi' with ⟨rfl, rfl⟩ | hold
      · exact .inr ⟨rfl, req, vs, rfl, hc, (mem_create_made_instance rfl).2 (.inl rfl)⟩
      · exact .inl ⟨i', hold, .refl i'⟩
  · exact .inl ((answer_keepsInstances (fun req hreq => hop ⟨req, hreq⟩) h).rows b i' hi')

/-- A log entry for an instance is an old one, or has an ID that was in no entry. -/
theorem answer_instanceFresh {o : AccountCall} {x : AccountCall.Res o}
    (h : answer who c w o = some (x, w')) {e : Made ι} (he : e ∈ w'.made) (hkind : e.kind = .instance_) :
    e ∈ w.made ∨ (e.owner = who ∧ e.id ≠ "" ∧ ∀ e' ∈ w.made, e'.id ≠ e.id) := by
  rcases o with ⟨a, m, op⟩
  by_cases hop : ∃ req, op = .instancesCreate req
  · rcases hop with ⟨req, rfl⟩
    rcases answer_instancesCreate h with ⟨rfl, -⟩ | ⟨i, vs, hc, rfl, -⟩
    · exact .inl he
    · rcases (mem_create_made_instance hkind).1 he with rfl | hold
      · exact .inr ⟨rfl, hc.unused i.id List.mem_cons_self⟩
      · exact .inl hold
  · exact .inl (((answer_keepsInstances (fun req hreq => hop ⟨req, hreq⟩) h).made e hkind).1 he)

/-- What an instance that is created by this request carries under a tag. -/
def requestTag (req : Sdk.CreateInstanceRequest) (key : String) : String :=
  Go.StrMap.get (req.tags.foldl (fun m t => Go.StrMap.set m t.key t.value) []) key

theorem Creates.tagOf {req : Sdk.CreateInstanceRequest} {i : Sdk.Instance} {vs : List Sdk.Volume}
    (hc : Creates w a req i vs) (key : String) : tagOf i key = requestTag req key := by
  simp only [Cloud.tagOf, toInstance, hc.tags, requestTag]

/-- The instance was created for this owner, in some account. -/
def CreatedFor (who : ι) (id : String) (w : World ι) : Prop := ∃ a, ⟨who, .instance_, a, id⟩ ∈ w.made

theorem CreatedFor.mono {who : ι} {id : String} (h : CreatedFor who id w)
    (hmade : ∀ e ∈ w.made, e ∈ w'.made) : CreatedFor who id w' := by
  rcases h with ⟨b, he⟩
  exact ⟨b, hmade _ he⟩

/-- Every instance that carries a tag has this property. -/
def Tagged (key tag : String) (P : Sdk.Instance → Prop) (w : World ι) : Prop :=
  ∀ b, ∀ i ∈ (w.account b).instances.rows, tagOf i key = tag → P i

/-- A property of records that are kept stays one of all tagged instances, if the new ones have it. -/
theorem Tagged.next {key tag : String} {P : Sdk.Instance → Prop} (h : Tagged key tag P w)
    (hP : ∀ {i i'}, Keeps i i' → P i → P i')
    (hrows : ∀ b, ∀ i' ∈ (w'.account b).instances.rows,
      (∃ i ∈ (w.account b).instances.rows, Keeps i i') ∨ (tagOf i' key = tag → P i')) :
    Tagged key tag P w' := by
  intro b i' hi' htag
  rcases hrows b i' hi' with ⟨i, hi, hkeep⟩ | hnew
  · exact hP hkeep (h b i hi (hkeep.tagOf key ▸ htag))
  · exact hnew htag

/-! ## Volumes -/

/-- Requests about startup scripts leave volumes and the log alone, unless they add a script. -/
theorem answer_scripts_volumes {o : AccountCall} {x : AccountCall.Res o}
    (hop : aboutScripts o.2.op = true) (h : answer who c w o = some (x, w')) :
    w'.made = w.made ∧ ∀ b, (w'.account b).volumes = (w.account b).volumes := by
  obtain ⟨acc, es, rfl, ht⟩ := answer_touches h
  have hes : es = [] := by
    refine List.eq_nil_iff_forall_not_mem.2 fun e he => ?_
    rcases makes_cases (ht.logged e he).1 with ⟨_, h', -⟩ | ⟨_, _, _, h', -⟩ | ⟨_, _, h', -⟩ <;>
      · rw [h'] at hop
        cases hop
  subst hes
  refine ⟨rfl, fun b => ?_⟩
  by_cases hb : b = o.1
  · subst hb
    simpa [World.set, World.log] using ht.volumes hop
  · simp [World.set, World.log, hb]

/-- A clone that is answered with its ID is in the log. -/
theorem answer_volumesClone {sourceID name location id : String}
    (h : answer who c w (a, ⟨m, .volumesClone sourceID name location⟩) = some (.ok id, w')) :
    (⟨who, .clone, a, id⟩ : Made ι) ∈ w'.made := by
  refine answer_cases (P := fun x w' => ∀ id, x = .ok id → (⟨who, .clone, a, id⟩ : Made ι) ∈ w'.made)
    h (fun e _ id hx => by cases hx) ?_ (fun _ _ _ e _ _ id hx => by cases hx) id rfl
  intro fx x w' h id hx
  simp only [react] at h
  split at h
  · cases h
    cases hx
  · split at h
    · cases h
      cases hx
      exact List.mem_cons_self
    · cases h
  · cases h

/-- `Volumes.DeleteVolume`, permanently: the volume is gone from the account, or the request failed. -/
theorem answer_volumesDelete {id : String} {x : Except Sdk.ApiErr Unit}
    (h : answer who c w (a, ⟨m, .volumesDelete id true⟩) = some (x, w')) :
    (x = .ok () ∧ w' = w.set a ((w.account a).destroyVolumes [id])) ∨
      (x = .error absent ∧ w' = w ∧ ∀ v ∈ (w.account a).volumes.rows, v.id ≠ id) ∨
      ∃ e, x = .error e ∧ isNotFound e = false := by
  refine answer_cases (P := fun x w' =>
      (x = .ok () ∧ w' = w.set a ((w.account a).destroyVolumes [id])) ∨
        (x = .error absent ∧ w' = w ∧ ∀ v ∈ (w.account a).volumes.rows, v.id ≠ id) ∨
        ∃ e, x = .error e ∧ isNotFound e = false) h
    (fun e he => .inr (.inr ⟨e, rfl, he⟩)) ?_ fun _ _ _ e _ he => .inr (.inr ⟨e, rfl, he⟩)
  intro fx x w' h
  simp only [react] at h
  split at h
  · rename_i hnone
    cases h
    exact .inr (.inl ⟨rfl, rfl, Table.get_eq_none_iff.1 hnone⟩)
  · cases h
    exact .inl ⟨rfl, rfl⟩

/-- A later record of the same volume: it keeps its tags. -/
structure KeepsVolume (v v' : StoredVolume) : Prop where
  id : v'.id = v.id
  tags : ∀ t ∈ v.volume.tags, t ∈ v'.volume.tags

theorem KeepsVolume.refl (v : StoredVolume) : KeepsVolume v v := ⟨rfl, fun _ ht => ht⟩

theorem KeepsVolume.hasTag {v v' : StoredVolume} (h : KeepsVolume v v') {key value : String}
    (htag : hasTag v.volume.tags key value = true) : hasTag v'.volume.tags key value = true := by
  rcases List.any_eq_true.1 htag with ⟨t, ht, heq⟩
  exact List.any_eq_true.2 ⟨t, h.tags t ht, heq⟩

theorem keepsVolume_discard (ids : List String) (v : StoredVolume) : KeepsVolume v (discard ids v) := by
  refine ⟨discard_id ids v, fun t ht => ?_⟩
  unfold discard
  split <;> exact ht

theorem keepsVolume_addTag (id : String) (tag : Sdk.Tag) (v : StoredVolume) :
    KeepsVolume v (addTag id tag v) := by
  refine ⟨addTag_id id tag v, fun t ht => ?_⟩
  unfold addTag
  split
  · exact List.mem_append_left _ ht
  · exact ht

theorem deleteVolumes_volumes {acc : Account} {ids : List String} {permanent : Bool} :
    ∀ v' ∈ (acc.deleteVolumes ids permanent).volumes.rows,
      ∃ v ∈ acc.volumes.rows, KeepsVolume v v' := by
  intro v' hv'
  unfold Account.deleteVolumes at hv'
  split at hv'
  · exact ⟨v', (Table.mem_filter.1 hv').1, .refl v'⟩
  · have hv' : v' ∈ (acc.volumes.modify (discard ids) (discard_id ids)).rows := hv'
    obtain ⟨v, hv, rfl⟩ := Table.mem_modify.1 hv'
    exact ⟨v, hv, keepsVolume_discard ids v⟩

/-- Each volume of the account that is asked is a later record of an old one, or is new. -/
theorem react_volumes {op : Sdk.Op} {fx : Effect} {x : Except Sdk.ApiErr (Sdk.Ans op)}
    (h : react who w a op fx = some (x, w')) : ∀ v' ∈ (w'.account a).volumes.rows,
      (∃ v ∈ (w.account a).volumes.rows, KeepsVolume v v') ∨ w.Unused [v'.id] := by
  have hsame : ∀ v' ∈ (w.account a).volumes.rows,
      (∃ v ∈ (w.account a).volumes.rows, KeepsVolume v v') ∨ w.Unused [v'.id] :=
    fun v' hv' => .inl ⟨v', hv', .refl v'⟩
  cases op with
  | instancesCreate req =>
    cases fx <;> simp only [react, reduceCtorEq] at h
    split at h
    · rename_i i vs hc
      cases h
      intro v' hv'
      have hv' : v' ∈ vs.map stored ++ (w.account a).volumes.rows := by
        simpa [World.create, World.set, World.log] using hv'
      rcases List.mem_append.1 hv' with hnew | hold
      · obtain ⟨v, hv, rfl⟩ := List.mem_map.1 hnew
        refine .inr (List.forall_mem_singleton.2 (hc.unused _ ?_))
        exact List.mem_cons_of_mem _ (List.mem_map_of_mem hv)
      · exact hsame v' hold
    · cases h
  | instancesDelete ids volumeIDs permanent =>
    simp only [react] at h
    split at h
    · split at h
      · cases h
        simpa [World.set, Account.markDeleting] using hsame
      · cases h
        intro v' hv'
        have hv' : v' ∈ ((w.account a).deleteInstances ids volumeIDs permanent).volumes.rows := by
          simpa [World.set] using hv'
        rw [Account.deleteInstances] at hv'
        obtain ⟨v, hv, hkeep⟩ := deleteVolumes_volumes v' hv'
        exact .inl ⟨v, hv, hkeep⟩
    · cases h
      exact hsame
  | volumesClone sourceID name location =>
    simp only [react] at h
    split at h
    · cases h
      exact hsame
    · split at h
      · rename_i v _ hc
        cases h
        intro v' hv'
        have hv' : v' = stored v ∨ v' ∈ (w.account a).volumes.rows := by
          simpa [World.clone, World.set, World.log] using hv'
        rcases hv' with rfl | hold
        · exact .inr hc.unused
        · exact hsame v' hold
      · cases h
    · cases h
  | volumesAddTag id tag =>
    simp only [react] at h
    split at h
    · cases h
      exact hsame
    · split at h
      · cases h
        exact hsame
      · cases h
        intro v' hv'
        have hv' : v' ∈ ((w.account a).volumes.modify (addTag id tag) (addTag_id id tag)).rows := by
          simpa [World.set] using hv'
        obtain ⟨v, hv, rfl⟩ := Table.mem_modify.1 hv'
        exact .inl ⟨v, hv, keepsVolume_addTag id tag v⟩
  | volumesDelete id permanent =>
    simp only [react] at h
    split at h
    · cases h
      exact hsame
    · cases h
      intro v' hv'
      have hv' : v' ∈ ((w.account a).deleteVolumes [id] permanent).volumes.rows := by
        simpa [World.set] using hv'
      exact .inl (deleteVolumes_volumes v' hv')
  | scriptsAdd name script =>
    cases fx <;> simp only [react, reduceCtorEq] at h
    split at h
    · cases h
      simpa [World.addScript, World.set, World.log] using hsame
    · cases h
  | scriptsDelete id =>
    simp only [react] at h
    split at h
    · cases h
      exact hsame
    · cases h
      simpa [World.set] using hsame
  | _ =>
    cases h
    exact hsame

/-- The same in every account. -/
theorem answer_volumes {o : AccountCall} {x : AccountCall.Res o} (h : answer who c w o = some (x, w')) :
    ∀ b, ∀ v' ∈ (w'.account b).volumes.rows,
      (∃ v ∈ (w.account b).volumes.rows, KeepsVolume v v') ∨ w.Unused [v'.id] := by
  intro b v' hv'
  by_cases hb : b = o.1
  · subst hb
    exact answer_cases (P := fun _ w' => ∀ v' ∈ (w'.account o.1).volumes.rows,
        (∃ v ∈ (w.account o.1).volumes.rows, KeepsVolume v v') ∨ w.Unused [v'.id]) h
      (fun _ _ v' hv' => .inl ⟨v', hv', .refl v'⟩) (fun _ _ _ h => react_volumes h)
      (fun _ _ _ _ h _ => react_volumes h) v' hv'
  · rw [answer_account h hb] at hv'
    exact .inl ⟨v', hv', .refl v'⟩

/-! ## Startup scripts -/

/-- No new startup scripts, and no new log entries for any. -/
structure KeepsScripts (w w' : World ι) : Prop where
  rows : ∀ b, ∀ s ∈ (w'.account b).scripts.rows, s ∈ (w.account b).scripts.rows
  made : ∀ e : Made ι, e.kind = .script → (e ∈ w'.made ↔ e ∈ w.made)

/-- Only `StartupScripts.Add` brings new scripts. -/
theorem answer_keepsScripts {o : AccountCall} {x : AccountCall.Res o}
    (hop : ∀ name script, o.2.op ≠ .scriptsAdd name script) (h : answer who c w o = some (x, w')) :
    KeepsScripts w w' := by
  obtain ⟨acc, es, rfl, ht⟩ := answer_touches h
  refine ⟨fun b s hs => ?_, fun e he => ?_⟩
  · by_cases hb : b = o.1
    · subst hb
      exact ht.scripts hop s (by simpa [World.set, World.log] using hs)
    · simpa [World.set, World.log, hb] using hs
  · have hne : e ∉ es := by
      intro hmem
      rcases makes_cases (ht.logged e hmem).1 with ⟨_, -, hk | hk⟩ | ⟨_, _, _, -, hk⟩ | ⟨_, _, h', -⟩
      · rw [he] at hk
        cases hk
      · rw [he] at hk
        cases hk
      · rw [he] at hk
        cases hk
      · exact hop _ _ h'
    simp [World.log, World.set, hne]

/-- `StartupScripts.Add` fails without effect, or adds a script and may still fail. -/
theorem answer_scriptsAdd {name : String} {script : Go.Bytes}
    {x : Except Sdk.ApiErr Sdk.StartupScript}
    (h : answer who c w (a, ⟨m, .scriptsAdd name script⟩) = some (x, w')) :
    w' = w ∨ ∃ s, ∃ hs : Scripts w a name script s, w' = w.addScript who a hs := by
  have hr : ∀ {fx : Effect} {x : Except Sdk.ApiErr Sdk.StartupScript} {w' : World ι},
      react who w a (.scriptsAdd name script) fx = some (x, w') →
      ∃ s, ∃ hs : Scripts w a name script s, w' = w.addScript who a hs := by
    intro fx x w' h
    cases fx <;> simp only [react, reduceCtorEq] at h
    split at h
    · rename_i s hs
      cases h
      exact ⟨s, hs, rfl⟩
    · cases h
  exact answer_cases (P := fun _ w' => w' = w ∨ ∃ s, ∃ hs : Scripts w a name script s,
      w' = w.addScript who a hs) h (fun _ _ => .inl rfl) (fun _ _ _ h => .inr (hr h))
    fun _ _ _ _ h _ => .inr (hr h)

/-- A script that `StartupScripts.Add` answers with is in the log. -/
theorem answer_scriptAdded {name : String} {script : Go.Bytes} {s : Sdk.StartupScript}
    (h : answer who c w (a, ⟨m, .scriptsAdd name script⟩) = some (.ok s, w')) :
    (⟨who, .script, a, s.id⟩ : Made ι) ∈ w'.made := by
  refine answer_cases (P := fun x w' => ∀ s : Sdk.StartupScript, x = .ok s →
      (⟨who, .script, a, s.id⟩ : Made ι) ∈ w'.made)
    h (fun e _ s hx => by cases hx) ?_ (fun _ _ _ e _ _ s hx => by cases hx) s rfl
  intro fx x w' h s hx
  cases fx <;> simp only [react, reduceCtorEq] at h
  split at h
  · cases h
    cases hx
    exact List.mem_cons_self
  · cases h

/-- A script that a request adds to the log has a new ID. -/
theorem answer_scriptFresh {o : AccountCall} {x : AccountCall.Res o}
    (h : answer who c w o = some (x, w')) {e : Made ι} (he : e ∈ w'.made) (hkind : e.kind = .script) :
    e ∈ w.made ∨ (e.owner = who ∧ ∀ e' ∈ w.made, e'.id ≠ e.id) := by
  rcases o with ⟨a, m, op⟩
  by_cases hop : ∃ name script, op = .scriptsAdd name script
  · rcases hop with ⟨name, script, rfl⟩
    rcases answer_scriptsAdd h with rfl | ⟨s, hs, rfl⟩
    · exact .inl he
    · rcases List.mem_cons.1 he with rfl | hold
      · exact .inr ⟨rfl, (hs.unused s.id (List.mem_singleton_self _)).2⟩
      · exact .inl hold
  · exact .inl (((answer_keepsScripts (fun n script hop' => hop ⟨n, script, hop'⟩) h).made e hkind).1 he)

/-- The scripts after one was added. -/
theorem mem_addScript {name : String} {script : Go.Bytes} {s t : Sdk.StartupScript}
    {hs : Scripts w a name script s} {b : AccountID} :
    t ∈ ((w.addScript who a hs).account b).scripts.rows ↔
      (b = a ∧ t = s) ∨ t ∈ (w.account b).scripts.rows := by
  by_cases hb : b = a
  · subst hb
    simp [World.addScript, World.set, World.log]
  · simp [World.addScript, World.set, World.log, hb]

/-- `StartupScripts.Delete`: unless it fails otherwise, the script is gone from the account. -/
theorem answer_scriptsDelete {id : String} {x : Except Sdk.ApiErr Unit}
    (h : answer who c w (a, ⟨m, .scriptsDelete id⟩) = some (x, w')) :
    (∀ s ∈ (w'.account a).scripts.rows, s.id ≠ id) ∨ ∃ e, x = .error e ∧ isNotFound e = false := by
  refine answer_cases (P := fun x w' => (∀ s ∈ (w'.account a).scripts.rows, s.id ≠ id) ∨
      ∃ e, x = .error e ∧ isNotFound e = false) h (fun e he => .inr ⟨e, rfl, he⟩) ?_
    fun _ _ _ e _ he => .inr ⟨e, rfl, he⟩
  intro fx x w' h
  simp only [react] at h
  split at h
  · rename_i hnone
    cases h
    exact .inl (Table.get_eq_none_iff.1 hnone)
  · cases h
    refine .inl fun s hs => ?_
    have hs' : s ∈ ((w.account a).scripts.filter fun s => s.id ≠ id).rows := by
      simpa [World.set] using hs
    simpa using (Table.mem_filter.1 hs').2

/-- What drift does to scripts: each is an old one under its name, or has an ID nobody was given. -/
theorem drift_scripts {reserved : String → Bool} {d : AccountID × Account}
    (h : drift reserved d w = some w') :
    w'.made = w.made ∧ ∀ b, ∀ s' ∈ (w'.account b).scripts.rows,
      (∃ s ∈ (w.account b).scripts.rows, s'.id = s.id ∧ s'.name = s.name) ∨ w.Unused [s'.id] := by
  unfold drift at h
  split at h
  · rename_i hd
    cases h
    refine ⟨rfl, fun b s' hs' => ?_⟩
    by_cases hb : b = d.1
    · subst hb
      exact hd.scripts s' (by simpa [World.set] using hs')
    · exact .inl ⟨s', by simpa [World.set, hb] using hs', rfl, rfl⟩
  · cases h

end VerdaCapi.Cloud
