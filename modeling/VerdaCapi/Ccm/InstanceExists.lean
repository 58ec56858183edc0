import VerdaCapi.Ccm.Provider
import VerdaCapi.Cloud.Scan

/-!
# When the cloud controller manager declares a node gone

`InstanceExists` decides whether Kubernetes keeps a Node. `instanceExists_right_iff` says for which
listings its answer is right: a deleted or missing instance of the node's hostname must not be listed
before the first live one. `running_declared_gone` is a listing where it is.
-/

namespace VerdaCapi.Ccm

open Remote Go Cloud

/-- The hostname `lookup` takes a node to have: from its provider ID, else its name. There is none
for a provider ID of another provider. -/
def hostnameOf (node : Node) : Option String :=
  if node.providerID ≠ "" then
    if hasPrefix node.providerID providerIDPrefix then
      some (trimPrefix node.providerID providerIDPrefix)
    else none
  else some node.name

/-- The instance has the node's hostname. -/
def IsOf (node : Node) (i : Sdk.Instance) : Prop := hostnameOf node = some i.hostname

instance (node : Node) (i : Sdk.Instance) : Decidable (IsOf node i) :=
  inferInstanceAs (Decidable (_ = _))

/-- The request of a lookup. -/
abbrev listing : Call := ⟨.findInstanceByHostname, .instancesGet⟩

/-- The node is declared gone only if no listed instance of its hostname is live, and declared there
only if one is. -/
structure DeclaredRightly (node : Node) (x : Except Sdk.ApiErr (List Sdk.Instance))
    (r : Except Err Bool) : Prop where
  gone : r = .ok false → ∃ is, x = .ok is ∧ ∀ i ∈ is, IsOf node i → isGone i = true
  exists_ : r = .ok true → ∃ is, x = .ok is ∧ ∃ i ∈ is, IsOf node i ∧ isGone i = false

/-- The answer of `InstanceExists` from what its scan found. -/
def existsIn (hostname : String) (is : List Sdk.Instance) : Bool :=
  match scan (fun inst => inst.hostname == hostname) none is with
  | some inst => !(inst.status == statusNotFound || inst.status == statusDiscontinued ||
      inst.status == statusDeleted)
  | none => false

/-- `InstanceExists` of a node with a hostname lists the instances and looks at what its scan finds. -/
theorem instanceExists_eq {node : Node} {hostname : String} (h : hostnameOf node = some hostname) :
    instanceExists node = .call listing fun x =>
      .ret (match x with
        | .ok is => .ok (existsIn hostname is)
        | .error e => .error (.wrap "listing instances" (.ofApi e))) := by
  have hlookup : lookup node = findInstanceByHostname hostname := by
    unfold hostnameOf at h
    unfold lookup
    split at h
    · rename_i hid
      split at h
      · rename_i hstart
        simp only [Option.some.injEq] at h
        simp [hid, hstart, h]
      · cases h
    · rename_i hid
      simp only [Option.some.injEq] at h
      rw [if_neg hid, h]
  simp only [instanceExists, hlookup, findInstanceByHostname, request, Prog.perform_bind,
    Prog.call_bind]
  congr 1
  funext x
  rcases x with e | is
  · cases e <;> simp [Err.wrap, Err.ofApi]
  · simp only [existsIn]
    cases scan (fun inst => inst.hostname == hostname) none is with
    | none => simp [errNotFound]
    | some inst =>
      simp only [Prog.pure_eq, Prog.ret_bind]
      by_cases hgone : inst.status = statusDiscontinued ∨ inst.status = statusDeleted ∨
          inst.status = statusNotFound
      · rw [if_pos hgone]
        rcases hgone with h | h | h <;> simp [h]
      · rw [if_neg hgone]
        simp only [not_or] at hgone
        simp [hgone]

/-- A node of another provider is neither. -/
theorem instanceExists_foreign {node : Node} (h : hostnameOf node = none) :
    ∃ e, instanceExists node = .ret (.error e) := by
  unfold hostnameOf at h
  split at h
  · rename_i hid
    split at h
    · cases h
    · rename_i hstart
      exact ⟨_, by simp [instanceExists, lookup, hid, hstart]; rfl⟩
  · cases h

section

variable {hostname : String} {is : List Sdk.Instance}

/-- The node is declared there exactly when the first instance of its hostname that is not
discontinued is live. -/
theorem existsIn_iff : existsIn hostname is = true ↔
    ∃ i, firstUp (fun inst => inst.hostname == hostname) is = some i ∧ isGone i = false := by
  unfold existsIn
  rw [scan_none_eq]
  cases hfound : (firstUp (fun inst => inst.hostname == hostname) is).or
      (lastWanted (fun inst => inst.hostname == hostname) is) with
  | none =>
    simp only [Option.map_none, Bool.false_eq_true, false_iff, not_exists, not_and]
    intro i hi
    rw [hi] at hfound
    cases hfound
  | some i =>
    show (!isGone i) = true ↔ _
    constructor
    · intro hlive
      have hlive : isGone i = false := by simpa using hlive
      exact ⟨i, (scan_eq_live_iff hlive).1 hfound, hlive⟩
    · rintro ⟨j, hj, hlive⟩
      rw [hj, Option.some_or] at hfound
      cases hfound
      simp [hlive]

end

/-- **A live node is never declared gone** exactly when, for every answer to the listing, the first
listed instance of the node's hostname that is not discontinued is live or none is. -/
theorem instanceExists_right_iff (node : Node) (x : Except Sdk.ApiErr (List Sdk.Instance)) :
    (∀ tr r, (instanceExists node).Runs tr r → (∀ e ∈ tr, e = ⟨listing, x⟩) →
        DeclaredRightly node x r) ↔
      ∀ hostname is, hostnameOf node = some hostname → x = .ok is →
        LiveUpFirst (fun inst => inst.hostname == hostname) is := by
  constructor
  · intro hright hostname is hname hx i hup hgone j hj hwant
    -- the run on this listing declares the node gone
    have hanswer : existsIn hostname is = false := by
      rw [Bool.eq_false_iff]
      intro htrue
      rcases existsIn_iff.1 htrue with ⟨k, hk, hlive⟩
      rw [Option.mem_def.1 hup] at hk
      cases hk
      simp [hgone] at hlive
    have hrun : (instanceExists node).Runs [⟨listing, x⟩] (.ok false) := by
      rw [instanceExists_eq hname, hx]
      refine .call ?_
      rw [← hanswer]
      exact .ret _
    rcases (hright _ _ hrun (by simp)).gone rfl with ⟨is', hx', hnone⟩
    cases hx.symm.trans hx'
    refine hnone j hj ?_
    have hj : j.hostname = hostname := by simpa [toInstance] using hwant
    rw [IsOf, hname, hj]
  · intro hfirst tr r hrun htr
    cases hname : hostnameOf node with
    | none =>
      rcases instanceExists_foreign hname with ⟨e, he⟩
      rw [he] at hrun
      rcases Prog.runs_ret_iff.1 hrun with ⟨-, rfl⟩
      exact ⟨fun h => (by cases h), fun h => (by cases h)⟩
    | some hostname =>
      rw [instanceExists_eq hname] at hrun
      rcases Prog.runs_call_iff.1 hrun with ⟨y, t, rfl, hret⟩
      rcases Prog.runs_ret_iff.1 hret with ⟨-, rfl⟩
      have hy : (⟨listing, y⟩ : Σ c : Call, Call.Res c) = ⟨listing, x⟩ :=
        htr _ List.mem_cons_self
      obtain rfl : x = y := by
        cases hy
        rfl
      rcases x with e | is
      · exact ⟨fun h => (by cases h), fun h => (by cases h)⟩
      · have hof : ∀ i : Sdk.Instance, IsOf node i ↔ i.hostname = hostname := by
          intro i
          rw [IsOf, hname, Option.some.injEq, eq_comm]
        refine ⟨fun h => ⟨is, rfl, fun j hj hjof => ?_⟩, fun h => ⟨is, rfl, ?_⟩⟩
        · have hfalse : existsIn hostname is = false := by simpa using h
          have hwant : (toInstance j).hostname = hostname := (hof j).1 hjof
          cases hup : firstUp (fun inst => inst.hostname == hostname) is with
          | none => exact isGone_of_firstUp_eq_none hup hj (by simpa using hwant)
          | some i =>
            have hgone : isGone i = true := by
              by_contra hlive
              have htrue := existsIn_iff.2 ⟨i, hup, by simpa using hlive⟩
              rw [hfalse] at htrue
              cases htrue
            exact hfirst hostname is hname rfl i hup hgone j hj (by simpa using hwant)
        · have htrue : existsIn hostname is = true := by simpa using h
          rcases existsIn_iff.1 htrue with ⟨i, hup, hlive⟩
          rcases mem_of_firstUp hup with ⟨hmem, hwant, -⟩
          refine ⟨i, hmem, (hof i).2 ?_, hlive⟩
          simpa [toInstance] using hwant

/-- Two instances of hostname `cp-0`: a deleted one, and the one that runs. -/
def replaced : List Sdk.Instance :=
  [{ id := "x1", hostname := "cp-0", status := statusDeleted },
    { id := "x2", hostname := "cp-0", status := statusRunning }]

/-- The node of a running instance is declared gone. -/
theorem running_declared_gone :
    (instanceExists { name := "cp-0" }).Runs [⟨listing, .ok replaced⟩] (.ok false) ∧
      ∃ i ∈ replaced, IsOf { name := "cp-0" } i ∧ isGone i = false := by
  refine ⟨?_, by decide⟩
  rw [@instanceExists_eq _ "cp-0" (by decide)]
  exact .call (.ret _)

end VerdaCapi.Ccm
