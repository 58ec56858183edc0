import VerdaCapi.Cloud.Factory
import VerdaCapi.Remote.Table
import Mathlib.Tactic.MkIffOfInductiveProp

/-!
# Verda accounts

What is behind the SDK: each account stores instances, volumes and startup scripts, answers requests
and changes on its own. This is a model of a service that is not part of the repository, so it fixes
only what the provider relies on.

* Reads are truthful, and a request by ID fails with 404 exactly when there is nothing under that ID.
* Any request may fail for another reason, before or after it took effect.
* IDs are never reused. A new instance has the hostname and the tags it was requested with; whether it
  has capacity, which volumes come with it and what it reports are up to Verda.
* `Instances.Delete` discontinues an instance and moves the volumes it is given to the trash, at once
  or later.
* On its own, an account may change statuses, addresses and attachments, list everything in another
  order, drop things, move volumes, and gain things nobody here asked for. A gone status is final, and
  a gone instance keeps listing its volumes.

Besides the accounts, a `World` keeps a log of what was created through `CreateInstance`,
`CloneVolume` and the startup script requests, and for whom. No program reads the log: it says what
"created for that machine" means.
-/

namespace VerdaCapi.Cloud

open Remote

/-! ## State -/

/-- A volume, and whether it is in the trash. -/
structure StoredVolume where
  volume : Sdk.Volume
  trashed : Bool := false
deriving DecidableEq

/-- The ID of a stored volume. -/
abbrev StoredVolume.id (v : StoredVolume) : String := v.volume.id

/-- A volume outside the trash. -/
abbrev stored (v : Sdk.Volume) : StoredVolume := { volume := v }

/-- What one account holds. -/
structure Account where
  instances : Table Sdk.Instance.id := default
  volumes : Table StoredVolume.id := default
  scripts : Table Sdk.StartupScript.id := default

/-- The volumes that are not in the trash. -/
def Account.active (acc : Account) : List Sdk.Volume :=
  (acc.volumes.rows.filter fun v => !v.trashed).map (·.volume)

/-- The volumes in the trash. -/
def Account.trash (acc : Account) : List Sdk.Volume :=
  (acc.volumes.rows.filter fun v => v.trashed).map (·.volume)

/-- The volume with an ID, if it is not in the trash. -/
def Account.volume (acc : Account) (id : String) : Option Sdk.Volume :=
  match acc.volumes.get id with
  | some v => if v.trashed then none else some v.volume
  | none => none

/-- What is created: an instance, the volumes that come with it, an OS volume clone, a script. -/
inductive Kind where
  | instance_
  | attached
  | clone
  | script
deriving DecidableEq

/-- A log entry: for whom something was created, in which account, under which ID. -/
structure Made (ι : Type) where
  owner : ι
  kind : Kind
  account : AccountID
  id : String
deriving DecidableEq

/-- All accounts, and the log of what was created, newest first. -/
structure World (ι : Type) where
  account : AccountID → Account
  made : List (Made ι) := []

variable {ι : Type}

/-- Replace one account. -/
def World.set (w : World ι) (a : AccountID) (acc : Account) : World ι :=
  { w with account := Function.update w.account a acc }

/-- Note what was created. -/
def World.log (w : World ι) (es : List (Made ι)) : World ι := { w with made := es ++ w.made }

/-- IDs Verda may hand out: not empty, and never handed out before. -/
def World.Unused (w : World ι) (ids : List String) : Prop :=
  ∀ id ∈ ids, id ≠ "" ∧ ∀ e ∈ w.made, e.id ≠ id

instance (w : World ι) (ids : List String) : Decidable (w.Unused ids) :=
  inferInstanceAs (Decidable (∀ id ∈ ids, id ≠ "" ∧ ∀ e ∈ w.made, e.id ≠ id))

/-- A gone status: it never changes to another kind. -/
def isGone (i : Sdk.Instance) : Bool :=
  i.status == statusNotFound || i.status == statusDiscontinued || i.status == statusDeleted

/-! ## Changes -/

/-- What Verda may create for a request: the instance and its new volumes. -/
@[mk_iff]
structure Creates (w : World ι) (a : AccountID) (req : Sdk.CreateInstanceRequest)
    (i : Sdk.Instance) (vs : List Sdk.Volume) : Prop where
  unused : w.Unused (i.id :: vs.map (·.id))
  instances : (([i] ++ (w.account a).instances.rows).map (·.id)).Nodup
  volumes : ((vs.map stored ++ (w.account a).volumes.rows).map StoredVolume.id).Nodup
  hostname : i.hostname = req.hostname
  tags : i.tags = req.tags
  script : i.startupScriptID = none ∨ i.startupScriptID = req.startupScriptID
  attached : ∀ v ∈ vs, v.id ∈ instanceVolumeIDs i

instance (w : World ι) (a : AccountID) (req : Sdk.CreateInstanceRequest) (i : Sdk.Instance)
    (vs : List Sdk.Volume) : Decidable (Creates w a req i vs) :=
  decidable_of_iff' _ (creates_iff w a req i vs)

/-- Add a new instance and its volumes. -/
def World.create (w : World ι) (who : ι) (a : AccountID) {req : Sdk.CreateInstanceRequest}
    {i : Sdk.Instance} {vs : List Sdk.Volume} (h : Creates w a req i vs) : World ι :=
  let acc := { w.account a with
    instances := (w.account a).instances.extend [i] h.instances
    volumes := (w.account a).volumes.extend (vs.map stored) h.volumes }
  (w.set a acc).log (⟨who, .instance_, a, i.id⟩ :: vs.map (⟨who, .attached, a, ·.id⟩))

/-- What Verda may create as a clone. -/
@[mk_iff]
structure Clones (w : World ι) (a : AccountID) (name : String) (v : Sdk.Volume) : Prop where
  unused : w.Unused [v.id]
  volumes : (([stored v] ++ (w.account a).volumes.rows).map StoredVolume.id).Nodup
  name : v.name = name

instance (w : World ι) (a : AccountID) (name : String) (v : Sdk.Volume) :
    Decidable (Clones w a name v) :=
  decidable_of_iff' _ (clones_iff w a name v)

/-- Add a clone. -/
def World.clone (w : World ι) (who : ι) (a : AccountID) {name : String} {v : Sdk.Volume}
    (h : Clones w a name v) : World ι :=
  let acc := { w.account a with
    volumes := (w.account a).volumes.extend [stored v] h.volumes }
  (w.set a acc).log [⟨who, .clone, a, v.id⟩]

/-- What Verda may create as a startup script. -/
@[mk_iff]
structure Scripts (w : World ι) (a : AccountID) (name : String) (script : Go.Bytes)
    (s : Sdk.StartupScript) : Prop where
  unused : w.Unused [s.id]
  scripts : (([s] ++ (w.account a).scripts.rows).map (·.id)).Nodup
  name : s.name = name
  script : s.script = script

instance (w : World ι) (a : AccountID) (name : String) (script : Go.Bytes)
    (s : Sdk.StartupScript) : Decidable (Scripts w a name script s) :=
  decidable_of_iff' _ (scripts_iff w a name script s)

/-- Add a startup script. -/
def World.addScript (w : World ι) (who : ι) (a : AccountID) {name : String} {script : Go.Bytes}
    {s : Sdk.StartupScript} (h : Scripts w a name script s) : World ι :=
  let acc := { w.account a with scripts := (w.account a).scripts.extend [s] h.scripts }
  (w.set a acc).log [⟨who, .script, a, s.id⟩]

/-- Move an instance on to a status, unless it is gone or another one is meant. -/
def advance (ids : List String) (status : String) (i : Sdk.Instance) : Sdk.Instance :=
  if i.id ∈ ids ∧ !isGone i then { i with status := status } else i

@[simp]
theorem advance_id (ids : List String) (status : String) (i : Sdk.Instance) :
    (advance ids status i).id = i.id := by
  unfold advance
  split <;> rfl

/-- Put volumes in the trash. -/
def discard (ids : List String) (v : StoredVolume) : StoredVolume :=
  if v.id ∈ ids then { v with trashed := true } else v

@[simp]
theorem discard_id (ids : List String) (v : StoredVolume) : (discard ids v).id = v.id := by
  unfold discard
  split <;> rfl

/-- Add a tag to a volume. -/
def addTag (id : String) (tag : Sdk.Tag) (v : StoredVolume) : StoredVolume :=
  if v.id = id then { v with volume := { v.volume with tags := v.volume.tags ++ [tag] } } else v

@[simp]
theorem addTag_id (id : String) (tag : Sdk.Tag) (v : StoredVolume) :
    (addTag id tag v).id = v.id := by
  unfold addTag
  split <;> rfl

/-- Destroy volumes for good. -/
def Account.destroyVolumes (acc : Account) (ids : List String) : Account :=
  { acc with volumes := acc.volumes.filter fun v => v.id ∉ ids }

/-- Move volumes to the trash, or destroy them. -/
def Account.deleteVolumes (acc : Account) (ids : List String) (permanent : Bool) : Account :=
  if permanent then acc.destroyVolumes ids
  else { acc with volumes := acc.volumes.modify (discard ids) (discard_id ids) }

/-- `Instances.Delete`, done at once: the instances are discontinued and their volumes deleted. -/
def Account.deleteInstances (acc : Account) (ids volumeIDs : List String) (permanent : Bool) :
    Account :=
  { acc with
    instances := acc.instances.modify (advance ids statusDiscontinued) (advance_id ids _)
  }.deleteVolumes volumeIDs permanent

/-- `Instances.Delete`, accepted but not done yet. -/
def Account.markDeleting (acc : Account) (ids : List String) : Account :=
  { acc with instances := acc.instances.modify (advance ids statusDeleting) (advance_id ids _) }

/-! ## Answers -/

/-- What Verda decides when it carries out a request. -/
inductive Effect where
  | plain
  | later
  | instance_ (i : Sdk.Instance) (vs : List Sdk.Volume)
  | volume (v : Sdk.Volume)
  | script (s : Sdk.StartupScript)

/-- How a request goes: refused, carried out and answered, or carried out with the answer lost. -/
inductive Choice where
  | refuse (e : Sdk.ApiErr)
  | accept (fx : Effect)
  | lose (fx : Effect) (e : Sdk.ApiErr)

/-- The answer when there is nothing under an ID. -/
def absent : Sdk.ApiErr := .api 404 "not found"

/-- The answer when a volume already has a tag. -/
def tagged : Sdk.ApiErr := .api 409 "tag already exists"

/-- An answer from an optional row. -/
def found {α : Type} : Option α → Except Sdk.ApiErr α
  | some x => .ok x
  | none => .error absent

/-- The effect and the answer of a request that is carried out; `none` when Verda cannot carry it out
in this way. -/
def react (who : ι) (w : World ι) (a : AccountID) :
    (op : Sdk.Op) → Effect → Option (Except Sdk.ApiErr (Sdk.Ans op) × World ι)
  | .instancesGet, _ => some (.ok (w.account a).instances.rows, w)
  | .instancesGetByID id, _ => some (found ((w.account a).instances.get id), w)
  | .instancesCreate req, .instance_ i vs =>
    if h : Creates w a req i vs then some (.ok i, w.create who a h) else none
  | .instancesCreate _, _ => none
  | .instancesShutdown id, _ => some ((found ((w.account a).instances.get id)).map fun _ => (), w)
  | .instancesDelete ids volumeIDs permanent, fx =>
    if ids.all fun id => ((w.account a).instances.get id).isSome then
      match fx with
      | .later => some (.ok (), w.set a ((w.account a).markDeleting ids))
      | _ => some (.ok (), w.set a ((w.account a).deleteInstances ids volumeIDs permanent))
    else some (.error absent, w)
  | .volumesList, _ => some (.ok (w.account a).active, w)
  | .volumesGet id, _ => some (found ((w.account a).volume id), w)
  | .volumesInTrash, _ => some (.ok (w.account a).trash, w)
  | .volumesClone sourceID name _, fx =>
    match (w.account a).volume sourceID, fx with
    | none, _ => some (.error absent, w)
    | some _, .volume v =>
      if h : Clones w a name v then some (.ok v.id, w.clone who a h) else none
    | some _, _ => none
  | .volumesAddTag id tag, _ =>
    match (w.account a).volume id with
    | none => some (.error absent, w)
    | some v =>
      if tag ∈ v.tags then some (.error tagged, w)
      else
        let acc := w.account a
        some (.ok (),
          w.set a { acc with volumes := acc.volumes.modify (addTag id tag) (addTag_id id tag) })
  | .volumesDelete id permanent, _ =>
    match (w.account a).volumes.get id with
    | none => some (.error absent, w)
    | some _ => some (.ok (), w.set a ((w.account a).deleteVolumes [id] permanent))
  | .scriptsGetAll, _ => some (.ok (w.account a).scripts.rows, w)
  | .scriptsAdd name script, .script s =>
    if h : Scripts w a name script s then some (.ok s, w.addScript who a h) else none
  | .scriptsAdd _ _, _ => none
  | .scriptsDelete id, _ =>
    match (w.account a).scripts.get id with
    | none => some (.error absent, w)
    | some _ =>
      let acc := w.account a
      some (.ok (), w.set a { acc with scripts := acc.scripts.filter fun s => s.id ≠ id })

/-- An error that would say more than that the request failed, so that it is only given when true. -/
def misleads : Sdk.Op → Sdk.ApiErr → Bool
  | .instancesGetByID _, e => e.hasStatus 404
  | .instancesShutdown _, e => e.hasStatus 404
  | .instancesDelete _ _ _, e => e.hasStatus 404
  | .volumesGet _, e => e.hasStatus 404
  | .volumesAddTag _ _, e => e.hasStatus 404 || e.hasStatus 409
  | .volumesDelete _ _, e => e.hasStatus 404
  | .scriptsDelete _, e => e.hasStatus 404
  | _, _ => false

/-- The answer to a request, and the world after it. -/
def answer (who : ι) (c : Choice) (w : World ι) (o : AccountCall) :
    Option (AccountCall.Res o × World ι) :=
  match c with
  | .refuse e => if misleads o.2.op e then none else some (.error e, w)
  | .accept fx => react who w o.1 o.2.op fx
  | .lose fx e =>
    if misleads o.2.op e then none
    else (react who w o.1 o.2.op fx).map fun r => (.error e, r.2)

/-! ## What accounts do on their own -/

/-- A later record of the same instance. -/
@[mk_iff]
structure Keeps (i i' : Sdk.Instance) : Prop where
  id : i'.id = i.id
  hostname : i'.hostname = i.hostname
  tags : i'.tags = i.tags
  script : i'.startupScriptID = i.startupScriptID
  gone : isGone i = true → isGone i' = true
  volumeIDs : isGone i' = true → instanceVolumeIDs i' = instanceVolumeIDs i

instance (i i' : Sdk.Instance) : Decidable (Keeps i i') := decidable_of_iff' _ (keeps_iff i i')

/-- A state an account may be in later, without a request of ours. Instances that appear do not carry
a `reserved` machine tag: those are only given out through `CreateInstance`. -/
@[mk_iff]
structure Drifts (reserved : String → Bool) (w : World ι) (a : AccountID) (acc : Account) :
    Prop where
  instances : ∀ i' ∈ acc.instances.rows, (∃ i ∈ (w.account a).instances.rows, Keeps i i') ∨
    (w.Unused [i'.id] ∧ reserved (tagOf i' tagMachine) = false)
  volumes : ∀ v' ∈ acc.volumes.rows,
    (∃ v ∈ (w.account a).volumes.rows, v'.id = v.id ∧ v'.volume.name = v.volume.name) ∨
      w.Unused [v'.id]
  scripts : ∀ s' ∈ acc.scripts.rows,
    (∃ s ∈ (w.account a).scripts.rows, s'.id = s.id ∧ s'.name = s.name) ∨ w.Unused [s'.id]

instance (reserved : String → Bool) (w : World ι) (a : AccountID) (acc : Account) :
    Decidable (Drifts reserved w a acc) :=
  decidable_of_iff' _ (drifts_iff reserved w a acc)

/-- One account moves on. -/
def drift (reserved : String → Bool) (d : AccountID × Account) (w : World ι) : Option (World ι) :=
  if Drifts reserved w d.1 d.2 then some (w.set d.1 d.2) else none

end VerdaCapi.Cloud
