import VerdaCapi.Go.Text

/-!
# The names Kubernetes accepts

A namespace is a label of at most 63 characters; the name of an object may have 253 and consists of
labels with dots in between. No slash occurs in them, so `namespace/name` says which object is meant.
-/

namespace VerdaCapi.Api

open Go

/-- An RFC 1123 label: lower case letters, digits and hyphens, and no hyphen at either end. -/
def isLabel (cs : List Char) : Bool :=
  cs.all (fun c => c.isLower || c.isDigit || c == '-') && cs.head?.any (· != '-') &&
    cs.getLast?.any (· != '-')

/-- What Kubernetes accepts as a namespace. -/
def validNamespace (ns : String) : Bool := decide (ns.length ≤ 63) && isLabel ns.toList

/-- What Kubernetes accepts as the name of an object: labels with dots in between. -/
def validName (name : String) : Bool :=
  decide (name.length ≤ 253) && (name.toList.splitOn '.').all isLabel

theorem toLower_of_isLabel {cs : List Char} (h : isLabel cs = true) {c : Char} (hc : c ∈ cs) :
    c.toLower = c := by
  simp only [isLabel, Bool.and_eq_true, List.all_eq_true, Bool.or_eq_true, beq_iff_eq] at h
  refine dif_neg ?_
  rintro ⟨hA, hZ⟩
  rcases h.1.1 c hc with (hlow | hdigit) | rfl
  · have hlow := of_decide_eq_true (Bool.and_eq_true_iff.1 hlow).1
    exact absurd (UInt32.le_trans hlow hZ) (by decide)
  · have hdigit := of_decide_eq_true (Bool.and_eq_true_iff.1 hdigit).2
    exact absurd (UInt32.le_trans hA hdigit) (by decide)
  · exact absurd hA (by decide)

theorem toLower_of_validName {name : String} (h : validName name = true) {c : Char}
    (hc : c ∈ name.toList) : c.toLower = c := by
  simp only [validName, Bool.and_eq_true, List.all_eq_true] at h
  have hparts : ['.'].intercalate (name.toList.splitOn '.') = name.toList := List.intercalate_splitOn '.'
  rw [← hparts] at hc
  rcases mem_intercalate hc with hdot | ⟨part, hpart, hc⟩
  · obtain rfl := List.mem_singleton.1 hdot
    rfl
  · exact toLower_of_isLabel (h.2 part hpart) hc

theorem slash_not_mem_namespace {ns : String} (h : validNamespace ns = true) : '/' ∉ ns.toList := by
  intro hslash
  simp only [validNamespace, isLabel, Bool.and_eq_true, List.all_eq_true] at h
  exact absurd (h.2.1.1 '/' hslash) (by decide)

/-- The text `namespace/name` determines both. -/
theorem namespacedName_inj {ns ns' name name' : String} (h : validNamespace ns = true)
    (h' : validNamespace ns' = true) (heq : ns ++ "/" ++ name = ns' ++ "/" ++ name') :
    ns = ns' ∧ name = name' :=
  text_cut_inj rfl (slash_not_mem_namespace h) (slash_not_mem_namespace h') heq

end VerdaCapi.Api
