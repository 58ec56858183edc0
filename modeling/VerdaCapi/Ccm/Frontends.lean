import Mathlib
import VerdaCapi.Allot.FirstCome
import VerdaCapi.Go.Time
import VerdaCapi.LoadBalancer.Envoy

/-!
# Ports on the shared load balancer

Reference: `Frontends` of `internal/ccm/loadbalancer.go`. All Services of type LoadBalancer share one
load balancer. In the order of their creation each gets all its ports or none: `exposed` are those that
do, by the rules of `FirstCome`.

`frontends_firstCome` says what `Frontends` returns, and `frontends_undisturbed` compares it for two
lists of Services.
-/

namespace VerdaCapi.Ccm

open Go Envoy

/-! ## Services -/

/-- `corev1.ServiceType`. -/
inductive ServiceType where
  | clusterIP | nodePort | loadBalancer | externalName
deriving DecidableEq

/-- `corev1.ServiceExternalTrafficPolicy`. -/
inductive ExternalTrafficPolicy where
  | unset | cluster | local_
deriving DecidableEq

/-- The parts of `corev1.ServicePort` that are used. -/
structure ServicePort where
  port : Int
  protocol : String := ""
  nodePort : Int := 0
deriving DecidableEq

/-- The name of a namespace, in which the API server allows no slash. -/
abbrev Namespace := { ns : String // '/' ∉ ns.toList }

/-- The parts of `corev1.Service` that are used. -/
structure Service where
  ns : Namespace
  name : String
  annotations : StrMap := []
  creationTimestamp : Time
  deletionTimestamp : Option Time := none
  type : ServiceType := .loadBalancer
  ports : List ServicePort := []
  externalTrafficPolicy : ExternalTrafficPolicy := .unset
  healthCheckNodePort : Int := 0
  /-- The addresses in `status.loadBalancer.ingress`. -/
  ingress : List Bytes := []
deriving DecidableEq

/-- `namespace/name`. -/
def Service.key (svc : Service) : String := svc.ns.val ++ "/" ++ svc.name

/-- The order in which Services get their ports. -/
def compareService : Service → Service → Ordering :=
  compareLex (compareOn Service.creationTimestamp) (compareOn Service.key)

instance : Std.TransCmp compareService :=
  inferInstanceAs (Std.TransCmp (compareLex (compareOn Service.creationTimestamp) (compareOn Service.key)))

/-! ## Frontends -/

/-- The protocol of a port, which is TCP if it is left out. -/
def ServicePort.proto (p : ServicePort) : String := if p.protocol = "" then "TCP" else p.protocol

/-- The text under which a port of the load balancer is taken. -/
def slotText (port : Int) (proto : String) : String := toString port ++ "/" ++ proto

/-- `sanitize`. -/
def sanitize (s : String) : String :=
  String.ofList (s.toList.map fun c => if c = '-' ∨ c = '.' then '_' else c)

/-- `frontendName`. -/
def frontendName (svc : Service) (p : ServicePort) : String :=
  let proto := toLower p.protocol
  let proto := if proto = "" then "tcp" else proto
  sanitize svc.ns.val ++ "_" ++ sanitize svc.name ++ "_" ++ toString p.port ++ "_" ++ proto

/-- `AnnotationProxyProtocol`. -/
def annotationProxyProtocol : String := "verda.cluster.x-k8s.io/proxy-protocol"

/-- The frontend for a port, with a backend for each node. -/
def frontendOf (svc : Service) (nodes : List String) (p : ServicePort) : Frontend where
  name := frontendName svc p
  protocol := p.proto
  port := p.port
  backends := nodes.map fun n => { address := n, port := p.nodePort }
  healthCheckPort :=
    if svc.externalTrafficPolicy = .local_ ∧ svc.healthCheckNodePort ≠ 0 then svc.healthCheckNodePort
    else 0
  proxyProtocol := equalFold (svc.annotations.get annotationProxyProtocol) "true"

/-- The loop over the ports of a Service: the frontends made before it ended, and why it broke off, if
it did. -/
def claimPorts (taken : StrMap) (svc : Service) (nodes : List String) :
    List ServicePort → List Frontend × Option String
  | [] => ([], none)
  | p :: ports =>
    let proto := p.proto
    if proto ≠ "TCP" ∧ proto ≠ "UDP" then ([], some ("protocol " ++ proto ++ " is not supported"))
    else if p.nodePort = 0 then ([], some ("port " ++ toString p.port ++ " has no nodePort yet"))
    else
      let slot := slotText p.port proto
      match taken.lookup slot with
      | some owner =>
        ([], some ("port " ++ slot ++ " is already used by " ++ owner ++
          " on the shared load balancer"))
      | none =>
        let (mine, reason) := claimPorts taken svc nodes ports
        (frontendOf svc nodes p :: mine, reason)

/-- What `Frontends` builds up. -/
structure Allocation where
  conflicts : StrMap := []
  taken : StrMap := []
  frontends : List Frontend := []

/-- One round of the loop over the Services. -/
def exposeService (nodes : List String) (st : Allocation) (svc : Service) : Allocation :=
  let (mine, reason) := claimPorts st.taken svc nodes svc.ports
  let conflicts := match reason with
    | some reason => st.conflicts.set svc.key reason
    | none => st.conflicts
  if (conflicts.lookup svc.key).isSome then { st with conflicts }
  else
    { conflicts
      taken := mine.foldl (fun taken f => taken.set (slotText f.port f.protocol) svc.key) st.taken
      frontends := st.frontends ++ mine }

/-- `Frontends`: the frontends and the conflicts. -/
def frontends (S : SortFunc) (services : List Service) (nodes : List String) :
    List Frontend × StrMap :=
  let st := (S.sort compareService services).foldl (exposeService nodes) {}
  (st.frontends, st.conflicts)

/-! ## Texts -/

theorem slotText_injective {port port' : Int} {proto proto' : String}
    (h : slotText port proto = slotText port' proto') : port = port' ∧ proto = proto' := by
  have hslash : ∀ n : Int, '/' ∉ (toString n).toList := by
    intro n hmem
    rcases mem_toString_int hmem with hd | hd
    · exact absurd hd (by decide)
    · exact absurd hd (by decide)
  rcases text_cut_inj (by decide) (hslash port) (hslash port') h with ⟨hport, hproto⟩
  exact ⟨Int.repr_injective hport, hproto⟩

/-- The key tells the namespace and the name. -/
theorem key_inj {svc svc' : Service} (h : svc.key = svc'.key) :
    svc.ns = svc'.ns ∧ svc.name = svc'.name := by
  rcases text_cut_inj (by decide) svc.ns.2 svc'.ns.2 h with ⟨hns, hname⟩
  exact ⟨Subtype.ext hns, hname⟩

/-- A port that can be exposed at all. -/
def ServicePort.Ready (p : ServicePort) : Prop :=
  (p.proto = "TCP" ∨ p.proto = "UDP") ∧ p.nodePort ≠ 0

instance : DecidablePred ServicePort.Ready := fun p =>
  inferInstanceAs (Decidable ((p.proto = "TCP" ∨ p.proto = "UDP") ∧ p.nodePort ≠ 0))

/-- The port and the protocol that a port of a Service takes. -/
def ServicePort.slot (p : ServicePort) : Int × String := (p.port, p.proto)

theorem proto_lower {p : ServicePort} (h : p.Ready) :
    (p.proto = "TCP" ∧ (if toLower p.protocol = "" then "tcp" else toLower p.protocol) = "tcp") ∨
      (p.proto = "UDP" ∧ (if toLower p.protocol = "" then "tcp" else toLower p.protocol) = "udp") := by
  by_cases hempty : p.protocol = ""
  · exact .inl ⟨by simp [ServicePort.proto, hempty], by rw [hempty]; decide⟩
  · have hproto : p.proto = p.protocol := by simp [ServicePort.proto, hempty]
    rcases h.1 with htcp | hudp
    · rw [← hproto, htcp]
      exact .inl ⟨rfl, by decide⟩
    · rw [← hproto, hudp]
      exact .inr ⟨rfl, by decide⟩

/-- The name of a frontend tells its port and protocol, although it does not tell its Service. -/
theorem slot_eq_of_frontendName {svc svc' : Service} {p p' : ServicePort} (hp : p.Ready)
    (hp' : p'.Ready) (h : frontendName svc p = frontendName svc' p') : p.slot = p'.slot := by
  have hdigits : ∀ n : Int, '_' ∉ (toString n).toList := by
    intro n hmem
    rcases mem_toString_int hmem with hd | hd
    · exact absurd hd (by decide)
    · exact absurd hd (by decide)
  have hlower : ∀ {q : ServicePort}, q.Ready →
      '_' ∉ (if toLower q.protocol = "" then "tcp" else toLower q.protocol).toList := by
    intro q hq
    rcases proto_lower hq with ⟨-, heq⟩ | ⟨-, heq⟩
    · rw [heq]
      decide
    · rw [heq]
      decide
  -- the last part is the protocol, the one before it the port
  rcases text_cutLast_inj (by decide) (hlower hp) (hlower hp') h with ⟨hrest, heq⟩
  rcases text_cutLast_inj (by decide) (hdigits p.port) (hdigits p'.port) hrest with ⟨-, hport⟩
  have hproto : p.proto = p'.proto := by
    rcases proto_lower hp with ⟨h₁, l₁⟩ | ⟨h₁, l₁⟩ <;> rcases proto_lower hp' with ⟨h₂, l₂⟩ | ⟨h₂, l₂⟩
    · rw [h₁, h₂]
    · rw [l₁, l₂] at heq
      exact absurd heq (by decide)
    · rw [l₁, l₂] at heq
      exact absurd heq (by decide)
    · rw [h₁, h₂]
  exact Prod.ext (Int.repr_injective hport) hproto

/-! ## What one round does -/

/-- All ports of the Service can be exposed. -/
def Service.Fit (svc : Service) : Prop := ∀ p ∈ svc.ports, p.Ready

instance : DecidablePred Service.Fit := fun svc => inferInstanceAs (Decidable (∀ p ∈ svc.ports, p.Ready))

/-- The ports that a Service wants on the load balancer. -/
def Service.wants (svc : Service) : List (Int × String) := svc.ports.map ServicePort.slot

/-- The loop over the ports ends without a reason exactly if all ports are ready and free. -/
theorem claimPorts_none_iff {taken : StrMap} {svc : Service} {nodes : List String}
    {ports : List ServicePort} : (claimPorts taken svc nodes ports).2 = none ↔
      ∀ p ∈ ports, p.Ready ∧ taken.lookup (slotText p.port p.proto) = none := by
  induction ports with
  | nil => simp [claimPorts]
  | cons p ports ih =>
    simp only [claimPorts, List.forall_mem_cons]
    by_cases hproto : p.proto ≠ "TCP" ∧ p.proto ≠ "UDP"
    · have hnot : ¬ p.Ready := fun hready => by
        rcases hready.1 with h | h
        · exact hproto.1 h
        · exact hproto.2 h
      simp [hproto, hnot]
    · rw [if_neg hproto]
      by_cases hport : p.nodePort = 0
      · have hnot : ¬ p.Ready := fun hready => hready.2 hport
        simp [hport, hnot]
      · have hready : p.Ready := by
          refine ⟨?_, hport⟩
          by_contra hnone
          exact hproto ⟨fun h => hnone (.inl h), fun h => hnone (.inr h)⟩
        rw [if_neg hport]
        cases htaken : taken.lookup (slotText p.port p.proto) with
        | some owner => simp
        | none => simp [hready, ih]

theorem claimPorts_mine {taken : StrMap} {svc : Service} {nodes : List String}
    {ports : List ServicePort} (h : (claimPorts taken svc nodes ports).2 = none) :
    (claimPorts taken svc nodes ports).1 = ports.map (frontendOf svc nodes) := by
  induction ports with
  | nil => rfl
  | cons p ports ih =>
    have hall := claimPorts_none_iff.1 h
    rw [List.forall_mem_cons] at hall
    rcases hall with ⟨⟨hready, hfree⟩, hrest⟩
    have hproto : ¬ (p.proto ≠ "TCP" ∧ p.proto ≠ "UDP") := by
      rintro ⟨htcp, hudp⟩
      rcases hready.1 with heq | heq
      · exact htcp heq
      · exact hudp heq
    simp only [claimPorts, if_neg hproto, if_neg hready.2, hfree, List.map_cons]
    rw [ih (claimPorts_none_iff.2 hrest)]

/-- The slots that are taken after a round. -/
theorem lookup_taken_isSome {fs : List Frontend} {owner k : String} {taken : StrMap} :
    ((fs.foldl (fun taken f => taken.set (slotText f.port f.protocol) owner) taken).lookup k).isSome ↔
      (taken.lookup k).isSome ∨ ∃ f ∈ fs, slotText f.port f.protocol = k := by
  induction fs generalizing taken with
  | nil => simp
  | cons f fs ih =>
    rw [List.foldl_cons, ih]
    by_cases hk : slotText f.port f.protocol = k
    · subst hk
      simp [StrMap.lookup_set_self]
    · rw [StrMap.lookup_set_ne _ _ (Ne.symm hk)]
      simp [hk]

section

variable {nodes : List String} {st : Allocation} {svc : Service}

theorem exposeService_some {reason : String}
    (h : (claimPorts st.taken svc nodes svc.ports).2 = some reason) :
    exposeService nodes st svc = { st with conflicts := st.conflicts.set svc.key reason } := by
  simp [exposeService, h, StrMap.lookup_set_self]

theorem exposeService_none (h : (claimPorts st.taken svc nodes svc.ports).2 = none) :
    exposeService nodes st svc =
      if (st.conflicts.lookup svc.key).isSome then st
      else
        { conflicts := st.conflicts
          taken := (svc.ports.map (frontendOf svc nodes)).foldl
            (fun taken f => taken.set (slotText f.port f.protocol) svc.key) st.taken
          frontends := st.frontends ++ svc.ports.map (frontendOf svc nodes) } := by
  rw [← claimPorts_mine h]
  unfold exposeService
  rcases hclaim : claimPorts st.taken svc nodes svc.ports with ⟨mine, reason⟩
  rw [hclaim] at h
  subst h
  rfl

/-- A Service whose ports are all ready and free is exposed. -/
theorem exposeService_free (hkey : st.conflicts.lookup svc.key = none)
    (hfree : ∀ p ∈ svc.ports, p.Ready ∧ st.taken.lookup (slotText p.port p.proto) = none) :
    exposeService nodes st svc =
      { conflicts := st.conflicts
        taken := (svc.ports.map (frontendOf svc nodes)).foldl
          (fun taken f => taken.set (slotText f.port f.protocol) svc.key) st.taken
        frontends := st.frontends ++ svc.ports.map (frontendOf svc nodes) } := by
  rw [exposeService_none (claimPorts_none_iff.2 hfree), hkey]
  rfl

/-- Any other one is only reported. -/
theorem exposeService_conflict
    (hnot : ¬ ∀ p ∈ svc.ports, p.Ready ∧ st.taken.lookup (slotText p.port p.proto) = none) :
    ∃ reason, exposeService nodes st svc =
      { st with conflicts := st.conflicts.set svc.key reason } := by
  cases hreason : (claimPorts st.taken svc nodes svc.ports).2 with
  | none => exact absurd (claimPorts_none_iff.1 hreason) hnot
  | some reason => exact ⟨reason, exposeService_some hreason⟩

/-! ## The loop -/

/-- The Services of a list that get their ports. -/
abbrev servedIn (l : List Service) : List Service := FirstCome.served Service.Fit Service.wants l

/-- What was built up after the Services of `l`, one after the other. -/
structure Allots (nodes : List String) (l : List Service) (st : Allocation) : Prop where
  frontends : st.frontends = (servedIn l).flatMap fun svc => svc.ports.map (frontendOf svc nodes)
  taken : ∀ x : Int × String, (st.taken.lookup (slotText x.1 x.2)).isSome ↔
    ∃ svc ∈ servedIn l, x ∈ svc.wants
  conflicts : ∀ svc ∈ l, st.conflicts.lookup svc.key = none ↔ svc ∈ servedIn l
  others : ∀ key, key ∉ l.map Service.key → st.conflicts.lookup key = none

/-- Ready and free is what the rule asks for. -/
theorem Allots.admits_iff {l : List Service} (h : Allots nodes l st) :
    FirstCome.Admits Service.Fit Service.wants (servedIn l) svc ↔
      ∀ p ∈ svc.ports, p.Ready ∧ st.taken.lookup (slotText p.port p.proto) = none := by
  have hfree : ∀ p : ServicePort, st.taken.lookup (slotText p.port p.proto) = none ↔
      ∀ t ∈ servedIn l, p.slot ∉ t.wants := by
    intro p
    have htaken := h.taken p.slot
    rw [← Option.not_isSome_iff_eq_none]
    refine (not_congr htaken).trans ?_
    simp
  constructor
  · rintro ⟨hfit, hslots⟩ p hp
    exact ⟨hfit p hp, (hfree p).2 (hslots p.slot (List.mem_map_of_mem hp))⟩
  · intro hall
    refine ⟨fun p hp => (hall p hp).1, fun x hx => ?_⟩
    rcases List.mem_map.1 hx with ⟨p, hp, rfl⟩
    exact (hfree p).1 (hall p hp).2

theorem Allots.step {l : List Service} (h : Allots nodes l st) (hkey : svc.key ∉ l.map Service.key) :
    Allots nodes (l ++ [svc]) (exposeService nodes st svc) := by
  have hmem : svc ∉ l := fun hl => hkey (List.mem_map_of_mem hl)
  have hkeys : ∀ t ∈ l, t.key ≠ svc.key := fun t ht heq => hkey (heq ▸ List.mem_map_of_mem ht)
  by_cases hadm : FirstCome.Admits Service.Fit Service.wants (servedIn l) svc
  · have hserved : servedIn (l ++ [svc]) = servedIn l ++ [svc] := by
      rw [servedIn, FirstCome.served_concat, FirstCome.serve_of_admits hadm]
    rw [exposeService_free (h.others _ hkey) (h.admits_iff.1 hadm)]
    refine ⟨?_, fun x => ?_, fun t ht => ?_, fun key hk => ?_⟩
    · rw [hserved, List.flatMap_append, h.frontends]
      simp
    · rw [lookup_taken_isSome, h.taken, hserved]
      have hmine : (∃ f ∈ svc.ports.map (frontendOf svc nodes), slotText f.port f.protocol =
          slotText x.1 x.2) ↔ x ∈ svc.wants := by
        simp only [List.mem_map, exists_exists_and_eq_and, Service.wants]
        refine exists_congr fun p => and_congr_right fun _ => ⟨fun heq => ?_, fun heq => ?_⟩
        · rcases slotText_injective heq with ⟨hport, hproto⟩
          exact Prod.ext hport hproto
        · rw [← heq]
          rfl
      rw [hmine]
      simp [or_and_right, exists_or]
    · rw [hserved, List.mem_append]
      rcases List.mem_append.1 ht with hold | hnew
      · rw [h.conflicts t hold]
        have hne : t ≠ svc := fun heq => hmem (heq ▸ hold)
        simp [hne]
      · obtain rfl := List.mem_singleton.1 hnew
        simp [h.others _ hkey]
    · rw [List.map_append, List.mem_append] at hk
      exact h.others key fun hl => hk (.inl hl)
  · have hserved : servedIn (l ++ [svc]) = servedIn l := by
      rw [servedIn, FirstCome.served_concat, FirstCome.serve_of_not_admits hadm]
    have hnot : svc ∉ servedIn l := fun hs => hmem ((FirstCome.served_sublist l).subset hs)
    have hround : ∃ reason, exposeService nodes st svc =
        { st with conflicts := st.conflicts.set svc.key reason } :=
      exposeService_conflict (mt h.admits_iff.2 hadm)
    rcases hround with ⟨reason, heq⟩
    rw [heq]
    refine ⟨?_, fun x => ?_, fun t ht => ?_, fun key hk => ?_⟩
    · rw [hserved]
      exact h.frontends
    · rw [hserved]
      exact h.taken x
    · rw [hserved]
      rcases List.mem_append.1 ht with hold | hnew
      · exact (StrMap.lookup_set_ne _ _ (hkeys t hold)).symm ▸ h.conflicts t hold
      · obtain rfl := List.mem_singleton.1 hnew
        simp [StrMap.lookup_set_self, hnot]
    · have hk' : key ∉ l.map Service.key ∧ key ≠ svc.key := by simpa using hk
      exact (StrMap.lookup_set_ne _ _ hk'.2).trans (h.others key hk'.1)

/-- **The loop** allots the ports by the rule. -/
theorem allots_foldl {l : List Service} (hkeys : (l.map Service.key).Nodup) :
    Allots nodes l (l.foldl (exposeService nodes) {}) := by
  induction l using List.reverseRecOn with
  | nil =>
    refine ⟨rfl, fun x => ?_, fun t ht => ?_, fun _ _ => rfl⟩
    · simp [FirstCome.served]
    · cases ht
  | append_singleton l svc ih =>
    rw [List.map_append, List.nodup_append] at hkeys
    rw [List.foldl_concat]
    refine (ih hkeys.1).step fun hmem => ?_
    exact hkeys.2.2 _ hmem svc.key (by simp) rfl

end

/-! ## First come, first served -/

/-- The Service comes before the other one. -/
abbrev Service.Before (svc other : Service) : Prop := compareService svc other = .lt

instance : Std.Asymm Service.Before where
  asymm a b hab hba := by
    have hgt : compareService b a = .gt := Std.OrientedCmp.gt_of_lt hab
    have hlt : compareService b a = .lt := hba
    rw [hgt] at hlt
    cases hlt

theorem key_eq_of_compareService {a b : Service} (h : compareService a b = .eq) : a.key = b.key := by
  have hkey := (compareLex_eq_eq.1 h).2
  exact compare_eq_iff_eq.1 hkey

variable {S : SortFunc} {services : List Service} {nodes : List String}

theorem nodup_keys_sort (hkeys : (services.map Service.key).Nodup) :
    ((S.sort compareService services).map Service.key).Nodup :=
  S.nodup_map_sort hkeys

/-- Services with different keys are sorted strictly. -/
theorem pairwise_before_sort (hkeys : (services.map Service.key).Nodup) :
    (S.sort compareService services).Pairwise Service.Before := by
  have hne := List.pairwise_map.1 (nodup_keys_sort (S := S) hkeys)
  refine ((S.sorted compareService services).and hne).imp fun {a b} h => ?_
  cases hcmp : compareService a b with
  | lt => exact hcmp
  | eq => exact absurd (key_eq_of_compareService hcmp) h.2
  | gt =>
    have hle := h.1
    rw [hcmp] at hle
    cases hle

/-- The Services that are exposed, in their order. -/
def exposed (S : SortFunc) (services : List Service) (nodes : List String) : List Service :=
  (S.sort compareService services).filter
    fun svc => ((frontends S services nodes).2.lookup svc.key).isNone

theorem exposed_eq (hkeys : (services.map Service.key).Nodup) :
    exposed S services nodes = servedIn (S.sort compareService services) := by
  have hall : Allots nodes _ _ := allots_foldl (nodup_keys_sort (S := S) hkeys)
  refine FirstCome.filter_eq_of_sublist (FirstCome.served_sublist _)
    (nodup_keys_sort hkeys).of_map fun svc hsvc => ?_
  rw [← hall.conflicts svc hsvc, Option.isNone_iff_eq_none]
  rfl

/-- The nodes do not decide who is exposed. -/
theorem exposed_nodes (hkeys : (services.map Service.key).Nodup) (nodes' : List String) :
    exposed S services nodes = exposed S services nodes' := by
  rw [exposed_eq hkeys, exposed_eq hkeys]

theorem mem_exposed_iff {svc : Service} : svc ∈ exposed S services nodes ↔
    svc ∈ services ∧ (frontends S services nodes).2.lookup svc.key = none := by
  rw [exposed, List.mem_filter, S.mem_sort, Option.isNone_iff_eq_none]

theorem frontends_eq (hkeys : (services.map Service.key).Nodup) :
    (frontends S services nodes).1 =
      (exposed S services nodes).flatMap fun svc => svc.ports.map (frontendOf svc nodes) := by
  rw [exposed_eq hkeys]
  exact (allots_foldl (nodup_keys_sort hkeys)).frontends

/-- A Service is exposed if it has what it needs and nobody exposed was faster. -/
theorem lookup_conflicts_iff (hkeys : (services.map Service.key).Nodup) {svc : Service}
    (hsvc : svc ∈ services) : (frontends S services nodes).2.lookup svc.key = none ↔
      svc.Fit ∧ ∀ x ∈ svc.wants, ∀ other ∈ exposed S services nodes, other.Before svc →
        x ∉ other.wants := by
  have hall : Allots nodes _ _ := allots_foldl (nodup_keys_sort (S := S) hkeys)
  have hmem : svc ∈ S.sort compareService services := S.mem_sort.2 hsvc
  rw [exposed_eq hkeys]
  exact (hall.conflicts svc hmem).trans
    (FirstCome.mem_served_iff_earlier (pairwise_before_sort hkeys) hmem)

/-- The frontends take the slots that the exposed Services want. -/
theorem map_slot_frontends (hkeys : (services.map Service.key).Nodup) :
    (frontends S services nodes).1.map (fun f => (f.port, f.protocol)) =
      (exposed S services nodes).flatMap Service.wants := by
  rw [frontends_eq hkeys, List.map_flatMap]
  refine List.flatMap_congr fun svc _ => ?_
  rw [List.map_map]
  rfl

/-- Every frontend stems from a port of an exposed Service, which is ready. -/
theorem exists_of_mem_frontends (hkeys : (services.map Service.key).Nodup) {f : Frontend}
    (hf : f ∈ (frontends S services nodes).1) :
    ∃ svc ∈ exposed S services nodes, ∃ p ∈ svc.ports, p.Ready ∧ frontendOf svc nodes p = f := by
  rw [frontends_eq hkeys] at hf
  rcases List.mem_flatMap.1 hf with ⟨svc, hsvc, hport⟩
  rcases List.mem_map.1 hport with ⟨p, hp, rfl⟩
  rcases mem_exposed_iff.1 hsvc with ⟨hmem, hnone⟩
  exact ⟨svc, hsvc, p, hp, ((lookup_conflicts_iff hkeys hmem).1 hnone).1 p hp, rfl⟩

/-- No port of the load balancer is taken twice. -/
theorem nodup_slots_frontends (hkeys : (services.map Service.key).Nodup)
    (hports : ∀ svc ∈ services, svc.wants.Nodup) :
    ((frontends S services nodes).1.map fun f => (f.port, f.protocol)).Nodup := by
  rw [map_slot_frontends hkeys, List.nodup_flatMap]
  constructor
  · intro svc hsvc
    exact hports svc (mem_exposed_iff.1 hsvc).1
  · rw [exposed_eq hkeys]
    refine (FirstCome.served_disjoint _).imp fun {a b} h => ?_
    exact fun x hxa hxb => h x hxb hxa

/-- No two frontends have one name, although two Services may be written alike in it. -/
theorem nodup_names_frontends (hkeys : (services.map Service.key).Nodup)
    (hports : ∀ svc ∈ services, svc.wants.Nodup) :
    ((frontends S services nodes).1.map Frontend.name).Nodup := by
  have hslots : ((frontends S services nodes).1.map fun f => (f.port, f.protocol)).Nodup :=
    nodup_slots_frontends hkeys hports
  refine List.pairwise_map.2 ((List.pairwise_map.1 hslots).imp_of_mem fun {f g} hf hg hne hname => hne ?_)
  rcases exists_of_mem_frontends hkeys hf with ⟨svc, -, p, -, hready, rfl⟩
  rcases exists_of_mem_frontends hkeys hg with ⟨svc', -, p', -, hready', rfl⟩
  exact slot_eq_of_frontendName hready hready' hname

/-- **`Frontends`** serves the Services in the order of their creation, each with all its ports or with
none: those that are exposed have one frontend for each port, with each node behind it, and the others
are the conflicts. -/
theorem frontends_firstCome (S : SortFunc) (services : List Service) (nodes : List String)
    (hkeys : (services.map Service.key).Nodup)
    (hports : ∀ svc ∈ services, (svc.ports.map ServicePort.slot).Nodup) :
    let (fs, conflicts) := frontends S services nodes
    (∀ svc ∈ services, conflicts.lookup svc.key = none ↔
      ∀ p ∈ svc.ports, ((p.proto = "TCP" ∨ p.proto = "UDP") ∧ p.nodePort ≠ 0) ∧
        ∀ other ∈ services, compareService other svc = .lt → conflicts.lookup other.key = none →
          ∀ q ∈ other.ports, q.slot ≠ p.slot) ∧
    fs = ((S.sort compareService services).filter fun svc => (conflicts.lookup svc.key).isNone).flatMap
      (fun svc => svc.ports.map (frontendOf svc nodes)) ∧
    (∀ svc p, (frontendOf svc nodes p).backends = nodes.map fun n => ⟨n, p.nodePort⟩) ∧
    (fs.map fun f => (f.port, f.protocol)).Nodup ∧ (fs.map Frontend.name).Nodup := by
  refine ⟨fun svc hsvc => ?_, frontends_eq hkeys, fun svc p => rfl,
    nodup_slots_frontends hkeys hports, nodup_names_frontends hkeys hports⟩
  refine (lookup_conflicts_iff hkeys hsvc).trans ?_
  constructor
  · rintro ⟨hfit, hfree⟩ p hp
    refine ⟨hfit p hp, fun other hother hlt hnone q hq heq => ?_⟩
    exact hfree p.slot (List.mem_map_of_mem hp) other (mem_exposed_iff.2 ⟨hother, hnone⟩) hlt
      (heq ▸ List.mem_map_of_mem hq)
  · intro h
    refine ⟨fun p hp => (h p hp).1, fun x hx other hother hlt hwant => ?_⟩
    rcases List.mem_map.1 hx with ⟨p, hp, rfl⟩
    rcases List.mem_map.1 hwant with ⟨q, hq, heq⟩
    rcases mem_exposed_iff.1 hother with ⟨hmem, hnone⟩
    exact (h p hp).2 other hmem hlt hnone q hq heq

def shop : Namespace := ⟨"shop", by decide⟩

def webService : Service where
  ns := shop
  name := "web"
  creationTimestamp := 2
  ports := [⟨80, "TCP", 30080⟩]

def apiService : Service where
  ns := shop
  name := "api"
  creationTimestamp := 1
  ports := [⟨80, "", 30081⟩, ⟨443, "TCP", 30443⟩]

def dnsService : Service where
  ns := shop
  name := "dns"
  creationTimestamp := 2
  ports := [⟨80, "UDP", 30082⟩]

/-- Two of the Services want port 80 with TCP. -/
def sampleServices : List Service := [webService, apiService, dnsService]

/-- The younger of the two is reported, and no name is taken twice. -/
theorem frontends_firstCome_sample :
    (frontends insertion sampleServices ["10.0.0.1", "10.0.0.2"]).2 = [("shop/web",
      "port 80/TCP is already used by shop/api on the shared load balancer")] ∧
    ((frontends insertion sampleServices ["10.0.0.1", "10.0.0.2"]).1.map Frontend.name).Nodup :=
  ⟨by decide, (frontends_firstCome insertion sampleServices _ (by decide) (by decide)).2.2.2.2⟩

/-! ## Two lists of Services -/

/-- A round touches the entry of its own Service only. -/
theorem lookup_exposeService {st : Allocation} {svc : Service} {key : String} (h : key ≠ svc.key) :
    (exposeService nodes st svc).conflicts.lookup key = st.conflicts.lookup key := by
  cases hreason : (claimPorts st.taken svc nodes svc.ports).2 with
  | some reason =>
    rw [exposeService_some hreason]
    exact StrMap.lookup_set_ne _ _ h
  | none =>
    rw [exposeService_none hreason]
    split <;> rfl

theorem frontends_exposeService {st : Allocation} {svc : Service} :
    st.frontends <+: (exposeService nodes st svc).frontends := by
  cases hreason : (claimPorts st.taken svc nodes svc.ports).2 with
  | some reason =>
    rw [exposeService_some hreason]
  | none =>
    rw [exposeService_none hreason]
    split
    · exact List.prefix_rfl
    · exact List.prefix_append _ _

/-- The two states agree but for the entry of one key. -/
structure SameBut (key : String) (st st' : Allocation) : Prop where
  taken : st.taken = st'.taken
  frontends : st.frontends = st'.frontends
  conflicts : ∀ k, k ≠ key → st.conflicts.lookup k = st'.conflicts.lookup k

/-- The round of another Service does not read that entry. -/
theorem SameBut.step {key : String} {st st' : Allocation} {svc : Service} (h : SameBut key st st')
    (hne : svc.key ≠ key) :
    SameBut key (exposeService nodes st svc) (exposeService nodes st' svc) := by
  have hclaim : claimPorts st.taken svc nodes svc.ports = claimPorts st'.taken svc nodes svc.ports := by
    rw [h.taken]
  cases hreason : (claimPorts st'.taken svc nodes svc.ports).2 with
  | some reason =>
    rw [exposeService_some (hclaim ▸ hreason), exposeService_some hreason]
    refine ⟨h.taken, h.frontends, fun k hk => ?_⟩
    by_cases heq : k = svc.key
    · subst heq
      exact (StrMap.lookup_set_self _ _ _).trans (StrMap.lookup_set_self _ _ _).symm
    · exact (StrMap.lookup_set_ne _ _ heq).trans
        ((h.conflicts k hk).trans (StrMap.lookup_set_ne _ _ heq).symm)
  | none =>
    rw [exposeService_none (hclaim ▸ hreason), exposeService_none hreason, h.conflicts _ hne]
    split
    · exact h
    · exact ⟨by rw [h.taken], by rw [h.frontends], h.conflicts⟩

theorem SameBut.run {key : String} {st st' : Allocation} {l : List Service} (h : SameBut key st st')
    (hne : key ∉ l.map Service.key) :
    SameBut key (l.foldl (exposeService nodes) st) (l.foldl (exposeService nodes) st') := by
  induction l generalizing st st' with
  | nil => exact h
  | cons svc l ih =>
    rw [List.map_cons, List.mem_cons, not_or] at hne
    exact ih (h.step (Ne.symm hne.1)) hne.2

/-- A list that is already in order is what sorting gives. -/
theorem sort_eq_of_before {l : List Service} (hkeys : (services.map Service.key).Nodup)
    (hperm : l.Perm services) (h : l.Pairwise Service.Before) :
    S.sort compareService services = l := by
  refine S.sort_eq (fun a ha b hb heq => ?_) hperm (h.imp fun {a b} hab => ?_)
  · exact List.inj_on_of_nodup_map hkeys ha hb (key_eq_of_compareService heq)
  · rw [Service.Before] at hab
    rw [hab]
    rfl

/-- **A newcomer** disturbs nobody: all frontends stay and the new ones come after them, and the
entries of the others stay as they are. -/
theorem newcomer_disturbs_nothing {S' : SortFunc} {services' : List Service} {svc : Service}
    (hkeys : (services'.map Service.key).Nodup) (hperm : services'.Perm (svc :: services))
    (hlast : ∀ other ∈ services, compareService other svc = .lt) :
    (frontends S services nodes).1 <+: (frontends S' services' nodes).1 ∧
    ∀ key, key ≠ svc.key →
      (frontends S' services' nodes).2.lookup key = (frontends S services nodes).2.lookup key := by
  have hold : (services.map Service.key).Nodup :=
    (List.nodup_cons.1 ((hperm.map Service.key).nodup_iff.1 hkeys)).2
  have hsort : S'.sort compareService services' = S.sort compareService services ++ [svc] := by
    refine sort_eq_of_before hkeys ?_ ?_
    · exact ((S.perm _ _).append_right _).trans ((List.perm_append_singleton _ _).trans hperm.symm)
    · refine List.pairwise_append.2 ⟨pairwise_before_sort hold, List.pairwise_singleton _ _, ?_⟩
      intro a ha b hb
      rw [List.mem_singleton.1 hb]
      exact hlast a (S.mem_sort.1 ha)
  unfold frontends
  rw [hsort, List.foldl_concat]
  exact ⟨frontends_exposeService, fun key hne => lookup_exposeService hne⟩

/-- **A loser** leaves no trace: without it the frontends and the entries of the others are the same. -/
theorem loser_leaves_no_trace {S' : SortFunc} {services' : List Service} {svc : Service}
    (hkeys : (services'.map Service.key).Nodup) (hperm : services'.Perm (svc :: services))
    (hloser : (frontends S' services' nodes).2.lookup svc.key ≠ none) :
    (frontends S services nodes).1 = (frontends S' services' nodes).1 ∧
    ∀ key, key ≠ svc.key →
      (frontends S services nodes).2.lookup key = (frontends S' services' nodes).2.lookup key := by
  have hsorted := pairwise_before_sort (S := S') hkeys
  have hnodup := nodup_keys_sort (S := S') hkeys
  have hmem : svc ∈ S'.sort compareService services' := S'.mem_sort.2 (hperm.mem_iff.2 (by simp))
  rcases List.append_of_mem hmem with ⟨l₁, l₂, hsplit⟩
  rw [hsplit] at hsorted hnodup
  have hrest : S.sort compareService services = l₁ ++ l₂ := by
    have hold : (services.map Service.key).Nodup :=
      (List.nodup_cons.1 ((hperm.map Service.key).nodup_iff.1 hkeys)).2
    refine sort_eq_of_before hold ?_ (hsorted.sublist (by simp))
    have hall : (l₁ ++ svc :: l₂).Perm (svc :: services) := hsplit ▸ (S'.perm _ _).trans hperm
    exact (List.perm_middle.symm.trans hall).cons_inv
  -- in its round the loser is only reported
  have hround : ∃ reason, exposeService nodes (l₁.foldl (exposeService nodes) {}) svc =
      { l₁.foldl (exposeService nodes) {} with
        conflicts := (l₁.foldl (exposeService nodes) {}).conflicts.set svc.key reason } := by
    have hbefore : Allots nodes l₁ (l₁.foldl (exposeService nodes) {}) :=
      allots_foldl (by rw [List.map_append] at hnodup; exact hnodup.of_append_left)
    have hall : Allots nodes (l₁ ++ svc :: l₂) ((l₁ ++ svc :: l₂).foldl (exposeService nodes) {}) :=
      allots_foldl hnodup
    refine exposeService_conflict fun hfree => hloser ?_
    have hserved := (FirstCome.mem_served_iff hnodup.of_map).2 (hbefore.admits_iff.2 hfree)
    unfold frontends
    rw [hsplit]
    exact (hall.conflicts svc (by simp)).2 hserved
  rcases hround with ⟨reason, hround⟩
  have hsame : SameBut svc.key ((l₁ ++ l₂).foldl (exposeService nodes) {})
      ((l₁ ++ svc :: l₂).foldl (exposeService nodes) {}) := by
    rw [List.foldl_append, List.foldl_append, List.foldl_cons, hround]
    refine SameBut.run ⟨rfl, rfl, fun k hk => (StrMap.lookup_set_ne _ _ hk).symm⟩ ?_
    rw [List.map_append, List.nodup_append] at hnodup
    exact (List.nodup_cons.1 hnodup.2.1).1
  unfold frontends
  rw [hrest, hsplit]
  exact ⟨hsame.frontends, hsame.conflicts⟩

/-- Who comes later and who does not get its ports is no concern of the others: with the Service and
without it they have the same frontends and the same entries. -/
theorem frontends_undisturbed (S S' : SortFunc) (services services' : List Service)
    (nodes : List String) (svc : Service) (hkeys : (services'.map Service.key).Nodup)
    (hperm : services'.Perm (svc :: services)) :
    ((∀ other ∈ services, compareService other svc = .lt) →
      (frontends S services nodes).1 <+: (frontends S' services' nodes).1 ∧
      ∀ key, key ≠ svc.key → (frontends S' services' nodes).2.lookup key =
        (frontends S services nodes).2.lookup key) ∧
    ((frontends S' services' nodes).2.lookup svc.key ≠ none →
      (frontends S services nodes).1 = (frontends S' services' nodes).1 ∧
      ∀ key, key ≠ svc.key → (frontends S services nodes).2.lookup key =
        (frontends S' services' nodes).2.lookup key) :=
  ⟨newcomer_disturbs_nothing hkeys hperm, loser_leaves_no_trace hkeys hperm⟩

/-- The newest Service wants a port that another one has, so it is both a newcomer and a loser. -/
theorem frontends_undisturbed_sample :
    (frontends insertion sampleServices ["10.0.0.1"]).2.lookup "shop/web" ≠ none ∧
    (frontends insertion [apiService, dnsService] ["10.0.0.1"]).1 <+:
      (frontends insertion sampleServices ["10.0.0.1"]).1 ∧
    (frontends insertion [apiService, dnsService] ["10.0.0.1"]).1 =
      (frontends insertion sampleServices ["10.0.0.1"]).1 := by
  have h := frontends_undisturbed insertion insertion [apiService, dnsService] sampleServices
    ["10.0.0.1"] webService (by decide) (.refl _)
  exact ⟨by decide, (h.1 (by decide)).1, (h.2 (by decide)).1⟩

end VerdaCapi.Ccm
