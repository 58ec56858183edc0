import VerdaCapi.Cloud.Changes

/-!
# Which requests each client method issues

`Method.issues` lists the requests of every method of the client. `Uses M` are the requests that the
methods in `M` issue under their own names. The theorems here hold whatever Verda answers; they let
later proofs pass over a call by naming the methods behind it.
-/

namespace VerdaCapi.Cloud

open Remote Go

/-- The requests a method issues under its own name. -/
def Method.issues : Method → Sdk.Op → Bool
  | .getInstance, .instancesGetByID _ => true
  | .findInstanceByHostname, .instancesGet => true
  | .findInstanceByTag, .instancesGet => true
  | .createInstance, .instancesGet => true
  | .createInstance, .scriptsAdd _ _ => true
  | .createInstance, .instancesCreate _ => true
  | .createInstance, .scriptsDelete _ => true
  | .deleteStartupScriptByName, .scriptsGetAll => true
  | .deleteInstance, .instancesGetByID _ => true
  | .deleteInstance, .instancesShutdown _ => true
  | .deleteInstance, .instancesDelete _ _ _ => true
  | .purgeInstanceVolumes, .instancesGetByID _ => true
  | .purgeInstanceVolumes, .volumesInTrash => true
  | .purgeInstanceVolumes, .volumesGet _ => true
  | .purgeInstanceVolumes, .volumesDelete _ _ => true
  | .deleteStartupScript, .scriptsDelete _ => true
  | .getVolume, .volumesGet _ => true
  | .findVolumeByName, .volumesList => true
  | .cloneVolume, .volumesClone _ _ _ => true
  | .cloneVolume, .volumesAddTag _ _ => true
  | .deleteVolume, .volumesGet _ => true
  | .deleteVolume, .volumesDelete _ _ => true
  | .ensureVolumeTag, .volumesAddTag _ _ => true
  | _, _ => false

/-- A request one of the methods `M` issues. -/
def Uses (M : List Method) (c : Call) : Prop := c.method ∈ M ∧ c.method.issues c.op = true

/-- A request of one of the methods. -/
theorem Uses.of {M : List Method} {m : Method} {op : Sdk.Op} (hm : m ∈ M)
    (hop : m.issues op = true) : Uses M ⟨m, op⟩ :=
  ⟨hm, hop⟩

theorem Uses.mono {M M' : List Method} {c : Call} (h : Uses M c) (hM : ∀ m ∈ M, m ∈ M') : Uses M' c :=
  ⟨hM _ h.1, h.2⟩

/-- Only `CreateInstance` creates instances. -/
theorem Uses.ne_instancesCreate {M : List Method} {c : Call} (h : Uses M c)
    (hM : .createInstance ∉ M) (req : Sdk.CreateInstanceRequest) : c.op ≠ .instancesCreate req := by
  obtain ⟨m, op⟩ := c
  rintro rfl
  obtain ⟨hm, hop⟩ := h
  cases m <;> first | exact hM hm | cases hop

/-- Only `CloneVolume` clones volumes. -/
theorem Uses.ne_volumesClone {M : List Method} {c : Call} (h : Uses M c) (hM : .cloneVolume ∉ M)
    (sourceID name location : String) : c.op ≠ .volumesClone sourceID name location := by
  obtain ⟨m, op⟩ := c
  rintro rfl
  obtain ⟨hm, hop⟩ := h
  cases m <;> first | exact hM hm | cases hop

/-- Only `CreateInstance` adds startup scripts. -/
theorem Uses.ne_scriptsAdd {M : List Method} {c : Call} (h : Uses M c)
    (hM : .createInstance ∉ M) (name : String) (script : Bytes) : c.op ≠ .scriptsAdd name script := by
  obtain ⟨m, op⟩ := c
  rintro rfl
  obtain ⟨hm, hop⟩ := h
  cases m <;> first | exact hM hm | cases hop

/-- Only `CreateInstance` and the two methods for it delete startup scripts. -/
theorem Uses.ne_scriptsDelete {M : List Method} {c : Call} (h : Uses M c)
    (hM : .createInstance ∉ M ∧ .deleteStartupScript ∉ M ∧ .deleteStartupScriptByName ∉ M) (id : String) :
    c.op ≠ .scriptsDelete id := by
  obtain ⟨m, op⟩ := c
  rintro rfl
  obtain ⟨hm, hop⟩ := h
  cases m <;> first | exact hM.1 hm | exact hM.2.1 hm | exact hM.2.2 hm | cases hop

/-- The methods that delete startup scripts. -/
def scriptMethods : List Method := [.deleteStartupScript, .deleteStartupScriptByName]

/-- The methods for startup scripts make no other requests. -/
theorem Uses.scripts {c : Call} (h : Uses scriptMethods c) : aboutScripts c.op = true := by
  obtain ⟨m, op⟩ := c
  obtain ⟨hm, hop⟩ := h
  simp only [scriptMethods, List.mem_cons, List.not_mem_nil, or_false] at hm
  rcases hm with rfl | rfl <;> cases op <;> first | rfl | cases hop

/-- The instance a call of `DeleteInstance` is for, seen at its first request. -/
def asksDelete : Call → Option String
  | ⟨.deleteInstance, .instancesGetByID id⟩ => some id
  | _ => none

/-- The request starts no `DeleteInstance`, or one for this instance. -/
def AsksOnly (id : String) (c : Call) : Prop := ∀ x ∈ asksDelete c, x = id

/-- Only `DeleteInstance` asks for the deletion of an instance. -/
theorem Uses.asksDelete {M : List Method} {c : Call} (h : Uses M c) (hM : .deleteInstance ∉ M) :
    asksDelete c = none := by
  rcases c with ⟨m, op⟩
  unfold Cloud.asksDelete
  split
  · rename_i heq
    cases heq
    exact absurd h.1 hM
  · rfl

section

variable {A : Call → Prop} {α : Type} {P : α → Prop}

/-- The rule for one request of a method. -/
theorem obeys_request {m : Method} {op : Sdk.Op}
    {f : Except Sdk.ApiErr (Sdk.Ans op) → ClientM α} (h : A ⟨m, op⟩) (hf : ∀ x, (f x).Obeys A P) :
    (request m op >>= f).Obeys A P :=
  ⟨h, hf⟩

variable {M : List Method}

theorem getInstance_uses (id : String) (hM : .getInstance ∈ M) :
    (getInstance id).Obeys (Uses M) fun _ => True := by
  refine obeys_request ⟨hM, rfl⟩ ?_
  rintro (e | inst)
  · dsimp only
    split <;> trivial
  · trivial

theorem findInstanceByTag_uses (key value : String) (hM : .findInstanceByTag ∈ M) :
    (findInstanceByTag key value).Obeys (Uses M) fun _ => True := by
  refine obeys_request ⟨hM, rfl⟩ ?_
  rintro (e | instances)
  · trivial
  · dsimp only
    split <;> trivial

/-- How the reconcilers look an instance up: by its recorded ID, else by its tag. -/
def findByIDOrTag (id key value : String) (found : Instance → ClientM (Except Err (Option Instance))) :
    ClientM (Except Err (Option Instance)) := do
  if id ≠ "" then
    match ← getInstance id with
    | .ok inst => return .ok (some inst)
    | .error e =>
      if e.kind ≠ .notFound then return .error e
      else return .ok (some { id := id, status := statusNotFound })
  else
    match ← findInstanceByTag key value with
    | .error e => if e.kind = .notFound then return .ok none else return .error e
    | .ok inst => found inst

theorem findByIDOrTag_uses {id key value : String}
    {found : Instance → ClientM (Except Err (Option Instance))} (hM : .getInstance ∈ M)
    (hM' : .findInstanceByTag ∈ M) (hfound : ∀ inst, (found inst).Obeys (Uses M) fun _ => True) :
    (findByIDOrTag id key value found).Obeys (Uses M) fun _ => True := by
  unfold findByIDOrTag
  split
  · refine (getInstance_uses _ hM).bind ?_
    rintro (e | inst) -
    · dsimp only
      split <;> trivial
    · trivial
  · refine (findInstanceByTag_uses _ _ hM').bind ?_
    rintro (e | inst) -
    · dsimp only
      split <;> trivial
    · exact hfound inst

theorem deleteStartupScript_uses (id : String) (hM : .deleteStartupScript ∈ M) :
    (deleteStartupScript id).Obeys (Uses M) fun _ => True := by
  refine obeys_request ⟨hM, rfl⟩ ?_
  rintro (e | -)
  · dsimp only
    split <;> trivial
  · trivial

theorem deleteScriptsNamed_uses (name : String) (scripts : List Sdk.StartupScript)
    (hM : .deleteStartupScript ∈ M) :
    (deleteScriptsNamed name scripts).Obeys (Uses M) fun _ => True := by
  induction scripts with
  | nil => trivial
  | cons script scripts ih =>
    simp only [deleteScriptsNamed]
    split
    · exact ih
    · refine (deleteStartupScript_uses script.id hM).bind ?_
      rintro (e | -) -
      · trivial
      · exact ih

/-- It deletes by ID what its listing shows under the name. -/
theorem deleteStartupScriptByName_uses (name : String) (hM : .deleteStartupScriptByName ∈ M)
    (hM' : .deleteStartupScript ∈ M) :
    (deleteStartupScriptByName name).Obeys (Uses M) fun _ => True := by
  refine obeys_request ⟨hM, rfl⟩ ?_
  rintro (e | scripts)
  · trivial
  · exact deleteScriptsNamed_uses name scripts hM'

/-- By induction on the volumes that are left. -/
theorem purgeVolumes_uses (inTrash : List String) (pending : Nat) (ids : List String)
    (hM : .purgeInstanceVolumes ∈ M) :
    (purgeVolumes inTrash pending ids).Obeys (Uses M) fun _ => True := by
  induction ids generalizing pending with
  | nil => trivial
  | cons id ids ih =>
    simp only [purgeVolumes]
    split
    · refine obeys_request ⟨hM, rfl⟩ ?_
      rintro (e | -)
      · dsimp only
        split
        · exact ih _
        · trivial
      · exact ih _
    · refine obeys_request ⟨hM, rfl⟩ ?_
      rintro (e | vol)
      · dsimp only
        split
        · exact ih _
        · trivial
      · exact ih _

theorem purgeInstanceVolumes_uses (id : String) (hM : .purgeInstanceVolumes ∈ M) :
    (purgeInstanceVolumes id).Obeys (Uses M) fun _ => True := by
  refine obeys_request ⟨hM, rfl⟩ ?_
  rintro (e | inst)
  · dsimp only
    split <;> trivial
  · dsimp only
    split
    · trivial
    · refine obeys_request ⟨hM, rfl⟩ ?_
      rintro (e | trash)
      · trivial
      · exact purgeVolumes_uses _ _ _ hM

/-- The requests of `DeleteInstance`, one by one. -/
theorem deleteInstance_obeys {id : String} (hget : A ⟨.deleteInstance, .instancesGetByID id⟩)
    (hpurge : (purgeInstanceVolumes id).Obeys A fun _ => True)
    (hdelete : ∀ volumeIDs, A ⟨.deleteInstance, .instancesDelete [id] volumeIDs false⟩)
    (hshutdown : A ⟨.deleteInstance, .instancesShutdown id⟩) :
    (deleteInstance id).Obeys A fun _ => True := by
  refine obeys_request hget ?_
  rintro (e | inst)
  · dsimp only
    split <;> trivial
  · dsimp only
    split
    · trivial
    · split
      · refine hpurge.bind ?_
        rintro (e | pending) - <;> trivial
      · split
        · trivial
        · split
          · refine obeys_request (hdelete _) ?_
            rintro (e | -)
            · dsimp only
              split <;> trivial
            · trivial
          · refine obeys_request hshutdown ?_
            rintro (e | -)
            · dsimp only
              split <;> trivial
            · trivial

theorem deleteInstance_uses (id : String) (hM : .deleteInstance ∈ M)
    (hM' : .purgeInstanceVolumes ∈ M) : (deleteInstance id).Obeys (Uses M) fun _ => True :=
  deleteInstance_obeys ⟨hM, rfl⟩ (purgeInstanceVolumes_uses id hM') (fun _ => ⟨hM, rfl⟩) ⟨hM, rfl⟩

/-- `DeleteInstance` is called for the instance it is given, and for no other. -/
theorem deleteInstance_asks (id : String) :
    (deleteInstance id).Obeys (AsksOnly id) fun _ => True := by
  have hnot : ∀ {c : Call}, asksDelete c = none → AsksOnly id c := by
    intro c hc x hx
    rw [hc] at hx
    cases hx
  refine deleteInstance_obeys (fun x hx => (Option.some.inj hx).symm) ?_ (fun _ => hnot rfl) (hnot rfl)
  exact (purgeInstanceVolumes_uses (M := [.purgeInstanceVolumes]) id (by decide)).mono
    (fun c hc => hnot (hc.asksDelete (by decide))) fun _ h => h

theorem getVolume_uses (id : String) (hM : .getVolume ∈ M) :
    (getVolume id).Obeys (Uses M) fun _ => True := by
  refine obeys_request ⟨hM, rfl⟩ ?_
  rintro (e | vol)
  · dsimp only
    split <;> trivial
  · trivial

theorem findVolumeByName_uses (name : String) (hM : .findVolumeByName ∈ M) :
    (findVolumeByName name).Obeys (Uses M) fun _ => True := by
  refine obeys_request ⟨hM, rfl⟩ ?_
  rintro (e | volumes)
  · trivial
  · dsimp only
    split <;> trivial

theorem tagVolume_uses (m : Method) (id : String) (hM : m ∈ M)
    (hm : m.issues (.volumesAddTag id ⟨tagManagedBy, managedByValue⟩) = true) :
    (tagVolume m id).Obeys (Uses M) fun _ => True := by
  refine obeys_request ⟨hM, hm⟩ ?_
  rintro (e | -)
  · dsimp only
    split <;> trivial
  · trivial

theorem cloneVolume_uses (sourceID name location : String) (hM : .cloneVolume ∈ M) :
    (cloneVolume sourceID name location).Obeys (Uses M) fun _ => True := by
  refine obeys_request ⟨hM, rfl⟩ ?_
  rintro (e | id)
  · trivial
  · exact (tagVolume_uses .cloneVolume id hM rfl).bind fun _ _ => trivial

theorem ensureVolumeTag_uses (id : String) (hM : .ensureVolumeTag ∈ M) :
    (ensureVolumeTag id).Obeys (Uses M) fun _ => True :=
  tagVolume_uses .ensureVolumeTag id hM rfl

theorem deleteVolume_uses (id : String) (hM : .deleteVolume ∈ M) :
    (deleteVolume id).Obeys (Uses M) fun _ => True := by
  refine obeys_request ⟨hM, rfl⟩ ?_
  rintro (e | vol)
  · dsimp only
    split <;> trivial
  · dsimp only
    split
    · trivial
    · refine obeys_request ⟨hM, rfl⟩ ?_
      rintro (e | -)
      · dsimp only
        split <;> trivial
      · trivial

/-- The methods behind `CreateInstance`. -/
def createMethods : List Method :=
  [.createInstance, .deleteStartupScriptByName, .deleteStartupScript]

/-- A request of `CreateInstance`, which carries what the spec says: a script under its hostname, an
instance as it describes it. -/
def CarriesSpec (spec : InstanceSpec) (c : Call) : Prop :=
  Uses createMethods c ∧
    (∀ name script, c.op = .scriptsAdd name script → name = spec.hostname) ∧
    ∀ req, c.op = .instancesCreate req →
      ∃ sid, req = { createRequest spec with startupScriptID := sid }

/-- The request to create carries the fields of the spec, with or without a script. -/
theorem createWith_carries (spec : InstanceSpec) (scriptID : Option String) :
    (createWith spec scriptID).Obeys (CarriesSpec spec) fun _ => True := by
  refine obeys_request ⟨.of (by decide) rfl, fun _ _ h => (by cases h), fun req h => ?_⟩ ?_
  · cases h
    exact ⟨scriptID, rfl⟩
  · intro x
    rcases x with e | inst
    · rcases scriptID with _ | id
      · trivial
      · exact obeys_request ⟨.of (by decide) rfl, fun _ _ h => (by cases h), fun _ h => (by cases h)⟩
          fun _ => trivial
    · dsimp only
      split <;> trivial

/-- So does the whole of `CreateInstance`, which uploads the script first. -/
theorem createInstance_carries (spec : InstanceSpec) :
    (createInstance spec).Obeys (CarriesSpec spec) fun _ => True := by
  have hdelete : (deleteStartupScriptByName spec.hostname).Obeys (CarriesSpec spec) fun _ => True := by
    refine (deleteStartupScriptByName_uses spec.hostname (M := scriptMethods) (by decide)
      (by decide)).mono (fun c hc => ⟨hc.mono (by decide), ?_, ?_⟩) fun _ h => h
    · exact fun name script h => absurd h (hc.ne_scriptsAdd (by decide) name script)
    · exact fun req h => absurd h (hc.ne_instancesCreate (by decide) req)
  refine obeys_request ⟨.of (by decide) rfl, fun _ _ h => (by cases h), fun _ h => (by cases h)⟩ ?_
  intro x
  rcases x with e | instances
  · trivial
  · dsimp only
    split
    · trivial
    · refine hdelete.bind ?_
      intro r _
      rcases r with e | u
      · trivial
      · dsimp only
        split
        · exact createWith_carries spec none
        · refine obeys_request ⟨.of (by decide) rfl, fun name script h => ?_, fun _ h => (by cases h)⟩ ?_
          · cases h
            rfl
          · intro x
            rcases x with e | script
            · trivial
            · exact createWith_carries spec _

/-- The script that is uploaded is the one of the spec. -/
theorem createInstance_uploads (spec : InstanceSpec) : (createInstance spec).Obeys
    (fun c => ∀ name script, c.op = .scriptsAdd name script → script = spec.startupScript)
    fun _ => True := by
  have hnone : ∀ {c : Call}, (∀ name script, c.op ≠ .scriptsAdd name script) →
      ∀ name script, c.op = .scriptsAdd name script → script = spec.startupScript :=
    fun hc name script h => absurd h (hc name script)
  have hwith : ∀ sid, (createWith spec sid).Obeys
      (fun c => ∀ name script, c.op = .scriptsAdd name script → script = spec.startupScript)
      fun _ => True := by
    intro sid
    refine obeys_request (hnone (by simp)) fun x => ?_
    rcases x with e | inst
    · rcases sid with _ | id
      · trivial
      · exact obeys_request (hnone (by simp)) fun _ => trivial
    · dsimp only
      split <;> trivial
  have hdelete : (deleteStartupScriptByName spec.hostname).Obeys
      (fun c => ∀ name script, c.op = .scriptsAdd name script → script = spec.startupScript)
      fun _ => True :=
    (deleteStartupScriptByName_uses spec.hostname (M := scriptMethods) (by decide) (by decide)).mono
      (fun _ hc => hnone (hc.ne_scriptsAdd (by decide))) fun _ h => h
  refine obeys_request (hnone (by simp)) fun x => ?_
  rcases x with e | instances
  · trivial
  · dsimp only
    split
    · trivial
    · refine hdelete.bind fun r _ => ?_
      rcases r with e | u
      · trivial
      · dsimp only
        split
        · exact hwith none
        · refine obeys_request (fun name script h => by cases h; rfl) fun x => ?_
          rcases x with e | script
          · trivial
          · exact hwith _

end

end VerdaCapi.Cloud
