import VerdaCapi.Cloud.Footprint

/-!
# What the answers of a run say

What a pass does to its object is determined by the answers it gets. This module reads off a list of
answers which instance Verda hands to a pass: the one looked up by ID, the one found in the listing,
or the one created.
-/

namespace VerdaCapi.Cloud

open Remote Go

/-- The answers of a run, each with its request. -/
abbrev Answers := List (Σ c : Call, Call.Res c)

/-- The instance of an answer to `Instances.Create`. -/
def createdBy : (c : Call) → Call.Res c → Option Instance
  | ⟨_, .instancesCreate _⟩, .ok i => some (toInstance i)
  | _, _ => none

/-- The instance Verda answers to have created. -/
def created (tr : Answers) : Option Instance := tr.findSome? fun e => createdBy e.1 e.2

/-- The answers to the requests of these methods. -/
def answersOf (M : List Method) (tr : Answers) : Answers := tr.filter fun e => e.1.method ∈ M

section

variable {α : Type} {tr tr₁ tr₂ : Answers} {inst : Instance}

/-! ## Parts of the answers -/

theorem created_append : created (tr₁ ++ tr₂) = (created tr₁).or (created tr₂) :=
  List.findSome?_append

/-- Nothing is created by a part without `CreateInstance`. -/
theorem created_eq_none {p : ClientM α} {M : List Method} {R : α → Prop} {r : α}
    (hp : p.Obeys (Uses M) R) (hM : .createInstance ∉ M) (h : p.Runs tr r) : created tr = none := by
  refine List.findSome?_eq_none_iff.2 fun e he => ?_
  have hop := (h.calls hp e he).ne_instancesCreate hM
  rcases e with ⟨⟨m, op⟩, x⟩
  cases op <;> first | rfl | exact absurd rfl (hop _)

theorem answersOf_append {M : List Method} :
    answersOf M (tr₁ ++ tr₂) = answersOf M tr₁ ++ answersOf M tr₂ :=
  List.filter_append ..

/-- A part that uses other methods has none of these answers. -/
theorem answersOf_eq_nil {p : ClientM α} {M M' : List Method} {R : α → Prop} {r : α}
    (hp : p.Obeys (Uses M') R) (hM : ∀ m ∈ M', m ∉ M) (h : p.Runs tr r) : answersOf M tr = [] := by
  refine List.filter_eq_nil_iff.2 fun e he => ?_
  simpa using hM _ (h.calls hp e he).1

/-- A part that uses these methods has no others. -/
theorem answersOf_eq_self {p : ClientM α} {M : List Method} {R : α → Prop} {r : α}
    (hp : p.Obeys (Uses M) R) (h : p.Runs tr r) : answersOf M tr = tr := by
  refine List.filter_eq_self.2 fun e he => ?_
  simpa using (h.calls hp e he).1

/-- A run of a request and what follows. -/
theorem runs_request {m : Method} {op : Sdk.Op} {f : Except Sdk.ApiErr (Sdk.Ans op) → ClientM α}
    {r : α} (h : (request m op >>= f).Runs tr r) :
    ∃ x tr', tr = ⟨⟨m, op⟩, x⟩ :: tr' ∧ (f x).Runs tr' r :=
  Prog.runs_call_iff.1 h

/-! ## Creating -/

/-- The result of `CreateInstance` is the instance Verda answers to have created, or an error if there
is none; the startup script ID may be filled in. -/
def Matches : Except Err Instance → Option Instance → Prop
  | .ok inst, some i => ∃ sid, inst = { i with startupScriptID := sid }
  | .error _, none => True
  | _, _ => False

/-- A creation that failed created nothing that Verda answered for. -/
theorem Matches.none {e : Err} {o : Option Instance} (h : Matches (.error e) o) : o = Option.none := by
  cases o with
  | none => rfl
  | some i => exact h.elim

theorem Matches.some {o : Option Instance} (h : Matches (.ok inst) o) :
    ∃ i sid, o = Option.some i ∧ inst = { i with startupScriptID := sid } := by
  cases o with
  | none => exact h.elim
  | some i =>
    rcases h with ⟨sid, heq⟩
    exact ⟨i, sid, rfl, heq⟩

theorem Matches.or {o : Option Instance} (h : Matches (.ok inst) o) (o' : Option Instance) :
    Matches (.ok inst) (o.or o') := by
  cases o with
  | none => exact h.elim
  | some i => exact h

theorem Matches.refl (inst : Instance) : Matches (.ok inst) (Option.some inst) :=
  ⟨inst.startupScriptID, rfl⟩

theorem createWith_runs {spec : InstanceSpec} {sid : Option String} {r : Except Err Instance}
    (h : (createWith spec sid).Runs tr r) : Matches r (created tr) := by
  rcases runs_request h with ⟨x, tr₁, rfl, h₁⟩
  rcases x with e | i
  · rcases sid with _ | id
    · rcases Prog.runs_ret_iff.1 h₁ with ⟨rfl, rfl⟩
      trivial
    · rcases runs_request h₁ with ⟨x, tr₂, rfl, h₂⟩
      rcases Prog.runs_ret_iff.1 h₂ with ⟨rfl, rfl⟩
      trivial
  · dsimp only at h₁
    split at h₁
    · rcases Prog.runs_ret_iff.1 h₁ with ⟨rfl, rfl⟩
      exact ⟨_, rfl⟩
    · rcases Prog.runs_ret_iff.1 h₁ with ⟨rfl, rfl⟩
      exact Matches.refl _

theorem createInstance_runs {spec : InstanceSpec} {r : Except Err Instance}
    (h : (createInstance spec).Runs tr r) : Matches r (created tr) := by
  rcases runs_request h with ⟨x, tr₁, rfl, h₁⟩
  show Matches r (created tr₁)
  rcases x with e | instances
  · rcases Prog.runs_ret_iff.1 h₁ with ⟨rfl, rfl⟩
    trivial
  · dsimp only at h₁
    split at h₁
    · rcases Prog.runs_ret_iff.1 h₁ with ⟨rfl, rfl⟩
      trivial
    · rcases Prog.runs_bind_iff.1 h₁ with ⟨tr₂, r₂, tr₃, rfl, hdelete, h₃⟩
      have hnone : created tr₂ = none :=
        created_eq_none (deleteStartupScriptByName_uses spec.hostname (M := scriptMethods)
          (by decide) (by decide)) (by decide) hdelete
      rw [created_append, hnone, Option.none_or]
      rcases r₂ with e | u
      · rcases Prog.runs_ret_iff.1 h₃ with ⟨rfl, rfl⟩
        trivial
      · dsimp only at h₃
        split at h₃
        · exact createWith_runs h₃
        · rcases runs_request h₃ with ⟨x, tr₄, rfl, h₄⟩
          show Matches r (created tr₄)
          rcases x with e | script
          · rcases Prog.runs_ret_iff.1 h₄ with ⟨rfl, rfl⟩
            trivial
          · exact createWith_runs h₄

/-! ## Looking up -/

theorem ofApi_kind (e : Sdk.ApiErr) : (Err.ofApi e).kind ≠ .notFound := by
  cases e <;> simp [Err.ofApi]

/-- The result of a lookup from the answer to its request by ID: when there is no such instance, a
record is made up. -/
def pickByID (id : String) : Except Sdk.ApiErr Sdk.Instance → Except Err (Option Instance)
  | .ok i => .ok (some (toInstance i))
  | .error e =>
    if isNotFound e then .ok (some { id := id, status := statusNotFound })
    else .error (.wrap ("getting instance " ++ id) (.ofApi e))

theorem pickByID_eq_some {id : String} {x : Except Sdk.ApiErr Sdk.Instance} {inst : Instance}
    (h : pickByID id x = .ok (some inst)) :
    (∃ i, x = .ok i ∧ inst = toInstance i) ∨ inst = { id := id, status := statusNotFound } := by
  rcases x with e | i
  · simp only [pickByID] at h
    split at h
    · cases h
      exact .inr rfl
    · cases h
  · cases h
    exact .inl ⟨i, rfl, rfl⟩

/-- A recorded instance is always found: when Verda does not have it, a record is made up. -/
theorem pickByID_ne_none {id : String} {x : Except Sdk.ApiErr Sdk.Instance} : pickByID id x ≠ .ok none := by
  rcases x with e | i
  · simp only [pickByID]
    split <;> exact fun h => by cases h
  · exact fun h => by cases h

/-- The result of a lookup from the answer to its listing. -/
abbrev Pick := Except Sdk.ApiErr (List Sdk.Instance) → Except Err (Option Instance)

/-- The listing of a lookup by tag. -/
abbrev tagListing : Call := ⟨.findInstanceByTag, .instancesGet⟩

/-- A lookup issues one request: by ID if one is recorded, else a listing. -/
def lookupInstance (id : String) (pick : Pick) : ClientM (Except Err (Option Instance)) :=
  if id ≠ "" then .call ⟨.getInstance, .instancesGetByID id⟩ fun x => .ret (pickByID id x)
  else .call ⟨.findInstanceByTag, .instancesGet⟩ fun x => .ret (pick x)

/-- A lookup as the reconcilers write it issues one request and returns. -/
theorem findByIDOrTag_eq {id key value : String}
    {found : Instance → ClientM (Except Err (Option Instance))} {pick : Pick}
    (herror : ∀ e, pick (.error e) = .error (.wrap "listing instances" (.ofApi e)))
    (hok : ∀ is, .ret (pick (.ok is)) =
      (scan (fun inst => inst.tags.get key == value) none is).elim (.ret (.ok none)) found) :
    findByIDOrTag id key value found = lookupInstance id pick := by
  unfold findByIDOrTag lookupInstance
  split
  · simp only [getInstance, request, Prog.perform_bind, Prog.call_bind]
    congr 1
    funext x
    rcases x with e | i
    · by_cases he : isNotFound e = true
      · simp [pickByID, he, errNotFound]
      · simp [pickByID, he, Err.wrap, ofApi_kind]
    · rfl
  · simp only [findInstanceByTag, request, Prog.perform_bind, Prog.call_bind]
    congr 1
    funext x
    rcases x with e | is
    · simp [herror, Err.wrap, ofApi_kind]
    · rw [hok is]
      dsimp only
      cases scan (fun inst => inst.tags.get key == value) none is with
      | none => simp [errNotFound]
      | some inst => rfl

/-- The instance handed to a pass whose lookup had this result: the one found, else the one that the
answers after the lookup create. -/
def handedAfter : Except Err (Option Instance) → Answers → Option Instance
  | .ok (some inst), _ => some inst
  | .ok none, tr => created tr
  | .error _, _ => none

/-- The instance that the answers hand to a pass which looks its instance up and creates it when there
is none. -/
def handedBy (pick : Pick) : Answers → Option Instance
  | ⟨⟨.getInstance, .instancesGetByID id⟩, x⟩ :: tr => handedAfter (pickByID id x) tr
  | ⟨⟨.findInstanceByTag, .instancesGet⟩, x⟩ :: tr => handedAfter (pick x) tr
  | _ => none

theorem handedBy_append {id : String} {pick : Pick} {r : Except Err (Option Instance)}
    (h : (lookupInstance id pick).Runs tr₁ r) : handedBy pick (tr₁ ++ tr₂) = handedAfter r tr₂ := by
  unfold lookupInstance at h
  split at h
  · rcases Prog.runs_call_iff.1 h with ⟨x, t, rfl, hret⟩
    rcases Prog.runs_ret_iff.1 hret with ⟨rfl, rfl⟩
    rfl
  · rcases Prog.runs_call_iff.1 h with ⟨x, t, rfl, hret⟩
    rcases Prog.runs_ret_iff.1 hret with ⟨rfl, rfl⟩
    rfl

end

end VerdaCapi.Cloud
