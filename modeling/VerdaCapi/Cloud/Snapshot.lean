import VerdaCapi.Cloud.Answers

/-!
# One pass against an account that does not change

For what a single pass does it is enough to know how every request would be answered. A `Snapshot` is an
account together with these answers: what reads tell is true, unless the request fails, and requests that
change something may be answered in any way.

`Quiet` programs change nothing.
-/

namespace VerdaCapi.Sdk

/-- The request can change something. -/
def Op.mutates : Op → Bool
  | .instancesGet | .instancesGetByID _ | .volumesList | .volumesGet _ | .volumesInTrash
  | .scriptsGetAll => false
  | .instancesCreate _ | .instancesShutdown _ | .instancesDelete _ _ _ | .volumesClone _ _ _
  | .volumesAddTag _ _ | .volumesDelete _ _ | .scriptsAdd _ _ | .scriptsDelete _ => true

/-- The request deletes something. -/
def Op.deletes : Op → Bool
  | .instancesDelete _ _ _ | .volumesDelete _ _ | .scriptsDelete _ => true
  | _ => false

end VerdaCapi.Sdk

namespace VerdaCapi.Cloud

open Remote

/-- An account, and how it answers requests as long as nothing changes. -/
structure Snapshot where
  account : Account
  answers : (op : Sdk.Op) → Except Sdk.ApiErr (Sdk.Ans op)
  instances : answers .instancesGet = .ok account.instances.rows ∨
    ∃ e, answers .instancesGet = .error e
  instance_ : ∀ id, answers (.instancesGetByID id) = found (account.instances.get id) ∨
    ∃ e, answers (.instancesGetByID id) = .error e ∧ isNotFound e = false
  volumes : answers .volumesList = .ok account.active ∨ ∃ e, answers .volumesList = .error e
  volume : ∀ id, answers (.volumesGet id) = found (account.volume id) ∨
    ∃ e, answers (.volumesGet id) = .error e ∧ isNotFound e = false
  trash : answers .volumesInTrash = .ok account.trash ∨ ∃ e, answers .volumesInTrash = .error e

namespace Snapshot

variable {α β : Type} (snap : Snapshot)

/-- The answers do not depend on the client method. -/
def view (c : Call) : c.Res := snap.answers c.op

@[simp]
theorem eval_request (m : Method) (op : Sdk.Op) : (request m op).eval snap.view = snap.answers op := rfl

theorem traceOf_request (m : Method) (op : Sdk.Op) :
    (request m op).traceOf snap.view = [⟨⟨m, op⟩, snap.answers op⟩] := rfl

/-- A program goes on with the answer of the snapshot. -/
theorem eval_request_bind {m : Method} {op : Sdk.Op} {f : Except Sdk.ApiErr (Sdk.Ans op) → ClientM α} :
    (request m op >>= f).eval snap.view = (f (snap.answers op)).eval snap.view := rfl

theorem traceOf_request_bind {m : Method} {op : Sdk.Op}
    {f : Except Sdk.ApiErr (Sdk.Ans op) → ClientM α} : (request m op >>= f).traceOf snap.view =
      ⟨⟨m, op⟩, snap.answers op⟩ :: (f (snap.answers op)).traceOf snap.view := rfl

/-- The program changes nothing. -/
def Quiet (p : ClientM α) : Prop := ∀ e ∈ p.traceOf snap.view, e.1.op.mutates = false

variable {snap}

@[simp]
theorem quiet_pure (a : α) : snap.Quiet (pure a : ClientM α) := List.forall_mem_nil _

/-- Whether the rest changes something is asked for the one answer that the first part gets. -/
theorem quiet_bind {p : ClientM α} {f : α → ClientM β} :
    snap.Quiet (p >>= f) ↔ snap.Quiet p ∧ snap.Quiet (f (p.eval snap.view)) := by
  rw [Quiet, Prog.traceOf_bind, List.forall_mem_append]
  rfl

theorem quiet_request {m : Method} {op : Sdk.Op} : snap.Quiet (request m op) ↔ op.mutates = false := by
  rw [Quiet, traceOf_request, List.forall_mem_singleton]

/-- The program changes nothing and returns `a`. -/
structure Reads (snap : Snapshot) (p : ClientM α) (a : α) : Prop where
  quiet : snap.Quiet p
  eval : p.eval snap.view = a

theorem Reads.pure (a : α) : snap.Reads (pure a : ClientM α) a := ⟨quiet_pure a, rfl⟩

/-- Reading in two steps. -/
theorem Reads.bind {p : ClientM α} {f : α → ClientM β} {a : α} {b : β} (hp : snap.Reads p a)
    (hf : snap.Reads (f a) b) : snap.Reads (p >>= f) b := by
  constructor
  · rw [quiet_bind, hp.eval]
    exact ⟨hp.quiet, hf.quiet⟩
  · rw [Prog.eval_bind, hp.eval, hf.eval]

/-- What a program returns whatever it is answered, it returns on the snapshot. -/
theorem Reads.obeys {p : ClientM α} {a : α} {A : Call → Prop} {P : α → Prop} (h : snap.Reads p a)
    (hp : p.Obeys A P) : P a :=
  h.eval ▸ (Prog.runs_traceOf snap.view p).obeys hp

/-- An instance that is found by ID has this ID. -/
theorem get_of_answers {id : String} {i : Sdk.Instance}
    (h : snap.answers (.instancesGetByID id) = .ok i) : snap.account.instances.get id = some i := by
  rcases snap.instance_ id with heq | ⟨e, heq, -⟩
  · rw [h] at heq
    cases hrow : snap.account.instances.get id with
    | none =>
      rw [hrow] at heq
      cases heq
    | some row =>
      rw [hrow] at heq
      cases heq
      rfl
  · rw [h] at heq
    cases heq

/-- A recorded ID is looked up directly, and otherwise the listing is searched. -/
theorem eval_lookupInstance {id : String} {pick : Pick} : (lookupInstance id pick).eval snap.view =
    if id ≠ "" then pickByID id (snap.answers (.instancesGetByID id))
    else pick (snap.answers .instancesGet) := by
  rw [lookupInstance]
  split <;> rfl

theorem quiet_lookupInstance {id : String} {pick : Pick} : snap.Quiet (lookupInstance id pick) := by
  rw [lookupInstance]
  split
  · exact List.forall_mem_singleton.2 rfl
  · exact List.forall_mem_singleton.2 rfl

/-- `GetVolume` finds the row under the ID, or says that there is none, or fails. -/
theorem eval_getVolume (snap : Snapshot) (id : String) :
    (∃ v, snap.account.volume id = some v ∧ (getVolume id).eval snap.view = .ok (toVolume v)) ∨
    (snap.account.volume id = none ∧ (getVolume id).eval snap.view = .error errNotFound) ∨
    ∃ e, (getVolume id).eval snap.view = .error e ∧ e.kind ≠ .notFound := by
  rw [getVolume, eval_request_bind]
  rcases snap.volume id with heq | ⟨e, heq, hnot⟩
  · cases hrow : snap.account.volume id with
    | some v =>
      rw [hrow, found] at heq
      rw [heq]
      exact .inl ⟨v, rfl, rfl⟩
    | none =>
      rw [hrow, found] at heq
      rw [heq]
      exact .inr (.inl ⟨rfl, rfl⟩)
  · rw [heq]
    simp only [hnot, Bool.false_eq_true, if_false]
    exact .inr (.inr ⟨_, rfl, ofApi_kind e⟩)

theorem quiet_getVolume {id : String} : snap.Quiet (getVolume id) := by
  rw [getVolume, quiet_bind, quiet_request]
  refine ⟨rfl, ?_⟩
  split
  · split <;> exact quiet_pure _
  · exact quiet_pure _

/-- `FindVolumeByName` finds a row that has the name. -/
theorem eval_findVolumeByName {name : String} {volume : Volume}
    (h : (findVolumeByName name).eval snap.view = .ok volume) :
    ∃ v, snap.account.volume v.id = some v ∧ volume = toVolume v := by
  rw [findVolumeByName, eval_request_bind] at h
  rcases snap.volumes with heq | ⟨e, heq⟩
  · simp only [heq] at h
    split at h
    · rename_i v hfind
      cases h
      exact ⟨v, volume_eq_some_iff.2 ⟨List.mem_of_find?_eq_some hfind, rfl⟩, rfl⟩
    · cases h
  · simp only [heq] at h
    cases h

theorem quiet_findVolumeByName {name : String} : snap.Quiet (findVolumeByName name) := by
  rw [findVolumeByName, quiet_bind, quiet_request]
  refine ⟨rfl, ?_⟩
  split
  · exact quiet_pure _
  · split <;> exact quiet_pure _

/-- The snapshot of an account in which no read fails. -/
def ofAccount (acc : Account) (other : (op : Sdk.Op) → Except Sdk.ApiErr (Sdk.Ans op)) : Snapshot where
  account := acc
  answers
    | .instancesGet => .ok acc.instances.rows
    | .instancesGetByID id => found (acc.instances.get id)
    | .volumesList => .ok acc.active
    | .volumesGet id => found (acc.volume id)
    | .volumesInTrash => .ok acc.trash
    | op => other op
  instances := .inl rfl
  instance_ _ := .inl rfl
  volumes := .inl rfl
  volume _ := .inl rfl
  trash := .inl rfl

end Snapshot

end VerdaCapi.Cloud
