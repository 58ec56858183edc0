import VerdaCapi.LoadBalancer.Envoy
import VerdaCapi.LoadBalancer.InstallScript

/-!
# The order in which envoy gets its files

Reference: `EnvoyFiles` in `internal/loadbalancer/envoy.go`, `UpdateFiles` and `InstallScript` in
`internal/loadbalancer/ssh.go`.

Envoy reads the listeners from one file and the clusters they route to from another, and takes up each
file as soon as it is replaced. The script of a push moves the clusters into place before the listeners.
So a Service that stays exposed never has a route to a cluster that envoy does not know, wherever the
connection is lost and however many pushes are cut short: `routes_stay_backed`.
-/

namespace VerdaCapi.Envoy

open Go Shell
open LoadBalancer (Machine installScript temporary fileItems writeItem moveCommand IsOperand Permits place)

/-! ## Reading the files -/

/-- The value of a line that starts with one of the keys. -/
def fieldOf (keys : List Bytes) (line : Bytes) : Option Bytes := keys.findSome? (cutPrefix · line)

def fields (keys : List Bytes) (text : Bytes) : List Bytes := (linesOf text).filterMap (fieldOf keys)

def clusterKeys : List Bytes := [bytes "  name: "]

/-- In a listener for TCP and in one for UDP. -/
def routeKeys : List Bytes := [bytes "        cluster: ", bytes "              cluster: "]

/-- The clusters that envoy knows. -/
def clusterNames (cds : Bytes) : List Bytes := fields clusterKeys cds

/-- The clusters that the listeners route to. -/
def routes (lds : Bytes) : List Bytes := fields routeKeys lds

/-- A line that stays one line and has none of the fields. -/
def Skips (keys : List Bytes) (l : String) : Prop := 0x0a ∉ bytes l ∧ fieldOf keys (bytes l) = none

instance (keys : List Bytes) (l : String) : Decidable (Skips keys l) := inferInstanceAs (Decidable (_ ∧ _))

/-- The beginning of such a line. -/
def StartsApart (keys : List Bytes) (start : String) : Prop :=
  0x0a ∉ bytes start ∧ ∀ key ∈ keys, ¬ key <+: bytes start ∧ ¬ bytes start <+: key

instance (keys : List Bytes) (start : String) : Decidable (StartsApart keys start) :=
  inferInstanceAs (Decidable (_ ∧ _))

section

variable {keys : List Bytes}

theorem newline_not_mem_append {s t : String} (hs : 0x0a ∉ bytes s) (ht : '\n' ∉ t.toList) :
    0x0a ∉ bytes (s ++ t) := by
  rw [bytes_append, List.mem_append, not_or]
  exact ⟨hs, fun h => ht (newline_mem_of_bytes h)⟩

theorem newline_not_mem_toString (n : Int) : '\n' ∉ (toString n).toList := by
  intro h
  rcases mem_toString_int h with hdigit | hsign
  · exact absurd hdigit (by decide)
  · exact absurd hsign (by decide)

theorem StartsApart.skips {start t : String} (h : StartsApart keys start) (ht : '\n' ∉ t.toList) :
    Skips keys (start ++ t) := by
  refine ⟨newline_not_mem_append h.1 ht, ?_⟩
  rw [bytes_append, fieldOf, List.findSome?_eq_none_iff]
  exact fun key hkey => cutPrefix_of_start (h.2 key hkey).1 (h.2 key hkey).2 _

theorem filterMap_of_skips {ls : List String} (h : ∀ l ∈ ls, Skips keys l) :
    (ls.map bytes).filterMap (fieldOf keys) = [] := by
  rw [List.filterMap_eq_nil_iff, List.forall_mem_map]
  exact fun l hl => (h l hl).2

/-- The resource of a frontend has one of the fields, which names the frontend. -/
structure Names (keys : List Bytes) (resource : FrontendView → List String) (v : FrontendView) : Prop where
  lines : ∀ l ∈ resource v, 0x0a ∉ bytes l
  field : ((resource v).map bytes).filterMap (fieldOf keys) = [bytes v.name]

/-- A text that starts with two lines of its own. -/
theorem bytes_lines {head first second : String} {ls : List String}
    (hhead : bytes head = bytes first ++ 0x0a :: bytes second) :
    bytes (head ++ String.join (ls.map ("\n" ++ ·)) ++ "\n") =
      ((first :: second :: ls).map bytes).flatMap (· ++ [0x0a]) := by
  have hbreak : bytes "\n" = [0x0a] := by decide +kernel
  have hlines : bytes (String.join (ls.map ("\n" ++ ·)) ++ "\n") =
      0x0a :: (ls.map bytes).flatMap (· ++ [0x0a]) := by
    induction ls with
    | nil => rw [List.map_nil, String.join_nil, String.empty_append, hbreak, List.map_nil, List.flatMap_nil]
    | cons l ls ih =>
      rw [List.map_cons, String.join_cons, String.append_assoc, bytes_append, ih, bytes_append, hbreak,
        List.map_cons, List.flatMap_cons]
      simp only [List.cons_append, List.nil_append, List.append_assoc]
  rw [bytes_append] at hlines
  simp only [bytes_append, List.append_assoc, hlines, hhead, List.map_cons, List.flatMap_cons,
    List.cons_append, List.nil_append]

/-- A rendered file has one field for each frontend. -/
theorem fields_renderResources {resource : FrontendView → List String} {views : List FrontendView}
    (hhead : ∀ l ∈ ["# Managed by cluster-api-provider-verda. Do not edit.", "resources:"], Skips keys l)
    (hempty : fieldOf keys [] = none) (h : ∀ v ∈ views, Names keys resource v) :
    fields keys (bytes (renderResources resource views)) = views.map fun v => bytes v.name := by
  have htext := @bytes_lines "# Managed by cluster-api-provider-verda. Do not edit.\nresources:"
    "# Managed by cluster-api-provider-verda. Do not edit." "resources:" (views.flatMap resource)
    (by decide +kernel)
  have hlines : ∀ l ∈ (["# Managed by cluster-api-provider-verda. Do not edit.", "resources:"] ++
      views.flatMap resource).map bytes, 0x0a ∉ l := by
    rw [List.forall_mem_map]
    intro l hl
    rcases List.mem_append.1 hl with hl | hl
    · exact (hhead l hl).1
    · obtain ⟨v, hv, hl⟩ := List.mem_flatMap.1 hl
      exact (h v hv).lines l hl
  have hviews : ((views.flatMap resource).map bytes).filterMap (fieldOf keys) =
      views.map fun v => bytes v.name := by
    rw [List.map_flatMap, List.filterMap_flatMap, ← List.flatMap_singleton' (views.map _), List.flatMap_map]
    exact List.flatMap_congr fun v hv => (h v hv).field
  unfold fields renderResources
  rw [htext]
  refine (congrArg (List.filterMap (fieldOf keys)) (linesOf_flatMap hlines)).trans ?_
  rw [List.map_append, List.filterMap_append, List.filterMap_append, filterMap_of_skips hhead, hviews]
  simp [hempty]

end

/-! ## The templates -/

/-- Nothing in the frontend breaks a line of the templates. -/
structure OneLine (f : Frontend) : Prop where
  name : '\n' ∉ f.name.toList
  addresses : ∀ b ∈ f.backends, '\n' ∉ b.address.toList

/-- Whatever comes after the name of a cluster. -/
theorem clusterLines_skips {v : FrontendView} (hv : OneLine v.toFrontend) :
    ∀ l ∈ (clusterLines v).drop 2, Skips clusterKeys l := by
  have hbackend : ∀ b ∈ v.backends, Skips clusterKeys
      ("            socket_address: \x7baddress: " ++ b.address ++ ", port_value: " ++ toString b.port ++
        "\x7d") := by
    intro b hb
    simp only [String.append_assoc]
    refine StartsApart.skips (by decide +kernel) ?_
    simp only [String.toList_append, List.mem_append, not_or]
    exact ⟨hv.addresses b hb, by decide, newline_not_mem_toString b.port, by decide⟩
  have hname : Skips clusterKeys ("    cluster_name: " ++ v.name) :=
    StartsApart.skips (by decide +kernel) hv.name
  have hport : Skips clusterKeys ("    alt_port: " ++ toString v.healthCheckPort) :=
    StartsApart.skips (by decide +kernel) (newline_not_mem_toString _)
  -- the head of the cluster, its endpoints, its health checks, and the socket for the proxy protocol
  rw [show (clusterLines v).drop 2 = [_, _, _, _, "    cluster_name: " ++ v.name, _, _] ++ _ ++ _ ++ _
    from rfl]
  simp only [List.forall_mem_append]
  refine ⟨⟨⟨?_, ?_⟩, ?_⟩, ?_⟩
  · simp only [List.forall_mem_cons, List.not_mem_nil, false_implies, implies_true, and_true]
    exact ⟨by decide +kernel, by decide +kernel, by decide +kernel, by decide +kernel, hname,
      by decide +kernel, by decide +kernel⟩
  · split
    · decide +kernel
    · intro l hl
      obtain ⟨b, hb, hl⟩ := List.mem_flatMap.1 hl
      simp only [List.mem_cons, List.not_mem_nil, or_false] at hl
      rcases hl with rfl | rfl | rfl
      · decide +kernel
      · decide +kernel
      · exact hbackend b hb
  · split
    · rw [List.forall_mem_append]
      refine ⟨by decide +kernel, ?_⟩
      split
      · rw [List.forall_mem_cons]
        exact ⟨hport, by decide +kernel⟩
      · decide +kernel
    · exact fun l hl => absurd hl List.not_mem_nil
  · split
    · decide +kernel
    · exact fun l hl => absurd hl List.not_mem_nil

theorem names_clusterLines {v : FrontendView} (hv : OneLine v.toFrontend) :
    Names clusterKeys clusterLines v := by
  have hrest := clusterLines_skips hv
  have hlines : clusterLines v = "- \"@type\": type.googleapis.com/envoy.config.cluster.v3.Cluster" ::
      ("  name: " ++ v.name) :: (clusterLines v).drop 2 := rfl
  have htype : Skips clusterKeys "- \"@type\": type.googleapis.com/envoy.config.cluster.v3.Cluster" := by
    decide +kernel
  have hfield : fieldOf clusterKeys (bytes ("  name: " ++ v.name)) = some (bytes v.name) := by
    rw [bytes_append, fieldOf, clusterKeys, List.findSome?_cons, cutPrefix_append]
  constructor
  · rw [hlines, List.forall_mem_cons, List.forall_mem_cons]
    exact ⟨htype.1, newline_not_mem_append (by decide +kernel) hv.name, fun l hl => (hrest l hl).1⟩
  · rw [hlines, List.map_cons, List.map_cons, List.filterMap_cons_none htype.2,
      List.filterMap_cons_some hfield, filterMap_of_skips hrest]

/-- Whatever comes before the route of a listener. -/
theorem listenerLines_skips {v : FrontendView} (hv : OneLine v.toFrontend) :
    ∀ l ∈ (listenerLines v).dropLast, Skips routeKeys l := by
  have hname : Skips routeKeys ("  name: " ++ v.name) := StartsApart.skips (by decide +kernel) hv.name
  have hport : ∀ start, StartsApart routeKeys start → Skips routeKeys (start ++ toString v.port ++ "\x7d") := by
    intro start hstart
    rw [String.append_assoc]
    refine hstart.skips ?_
    rw [String.toList_append, List.mem_append, not_or]
    exact ⟨newline_not_mem_toString v.port, by decide⟩
  rw [listenerLines]
  cases hudp : v.udp with
  | true =>
    rw [if_pos rfl]
    simp only [List.cons_append, List.nil_append, List.dropLast, List.forall_mem_cons, List.not_mem_nil,
      false_implies, implies_true, and_true]
    exact ⟨by decide +kernel, hname, by decide +kernel, hport _ (by decide +kernel), by decide +kernel,
      by decide +kernel, by decide +kernel, by decide +kernel,
      StartsApart.skips (by decide +kernel) hv.name, by decide +kernel, by decide +kernel,
      by decide +kernel, by decide +kernel, by decide +kernel, by decide +kernel⟩
  | false =>
    rw [if_neg Bool.false_ne_true]
    simp only [List.cons_append, List.nil_append, List.dropLast, List.forall_mem_cons, List.not_mem_nil,
      false_implies, implies_true, and_true]
    exact ⟨by decide +kernel, hname, by decide +kernel, hport _ (by decide +kernel), by decide +kernel,
      by decide +kernel, by decide +kernel, by decide +kernel, by decide +kernel,
      StartsApart.skips (by decide +kernel) hv.name⟩

/-- The route is the last line of a listener. -/
theorem listenerLines_last (v : FrontendView) : ∃ key ∈ ["        cluster: ", "              cluster: "],
    listenerLines v = (listenerLines v).dropLast ++ [key ++ v.name] := by
  rw [listenerLines]
  cases hudp : v.udp with
  | true => exact ⟨"              cluster: ", by simp, rfl⟩
  | false => exact ⟨"        cluster: ", by simp, rfl⟩

theorem fieldOf_route {key : String} (hkey : key ∈ ["        cluster: ", "              cluster: "])
    (s : String) : fieldOf routeKeys (bytes (key ++ s)) = some (bytes s) := by
  rw [bytes_append, fieldOf, routeKeys, List.findSome?_cons]
  simp only [List.mem_cons, List.not_mem_nil, or_false] at hkey
  rcases hkey with rfl | rfl
  · rw [cutPrefix_append]
  · rw [cutPrefix_of_start (by decide +kernel) (by decide +kernel), List.findSome?_cons, cutPrefix_append]

theorem names_listenerLines {v : FrontendView} (hv : OneLine v.toFrontend) :
    Names routeKeys listenerLines v := by
  have hrest := listenerLines_skips hv
  obtain ⟨key, hkey, hlines⟩ := listenerLines_last v
  have hstart : 0x0a ∉ bytes key :=
    (show ∀ key ∈ ["        cluster: ", "              cluster: "], 0x0a ∉ bytes key by decide +kernel)
      key hkey
  constructor
  · rw [hlines, List.forall_mem_append, List.forall_mem_singleton]
    exact ⟨fun l hl => (hrest l hl).1, newline_not_mem_append hstart hv.name⟩
  · rw [hlines, List.map_append, List.filterMap_append, filterMap_of_skips hrest, List.map_singleton,
      List.filterMap_cons_some (fieldOf_route hkey v.name)]
    rfl

section

variable {S : SortFunc} {frontends : List Frontend}

/-- The names of the frontends, in the order of the files. -/
def sortedNames (S : SortFunc) (frontends : List Frontend) : List Bytes :=
  (S.sort (compareOn Frontend.name) frontends).map fun f => bytes f.name

theorem mem_sortedNames {x : Bytes} : x ∈ sortedNames S frontends ↔ ∃ f ∈ frontends, bytes f.name = x := by
  simp [sortedNames, S.mem_sort]

theorem oneLine_viewOf {f : Frontend} (h : OneLine f) : OneLine (viewOf S f).toFrontend where
  name := h.name
  addresses b hb := h.addresses b (S.mem_sort.1 hb)

theorem fields_views {keys : List Bytes} {resource : FrontendView → List String}
    (hhead : ∀ l ∈ ["# Managed by cluster-api-provider-verda. Do not edit.", "resources:"], Skips keys l)
    (hempty : fieldOf keys [] = none)
    (hnames : ∀ v : FrontendView, OneLine v.toFrontend → Names keys resource v)
    (h : ∀ f ∈ frontends, OneLine f) :
    fields keys (bytes (renderResources resource
      ((S.sort (compareOn Frontend.name) frontends).map (viewOf S)))) = sortedNames S frontends := by
  rw [fields_renderResources hhead hempty, List.map_map]
  · rfl
  · rw [List.forall_mem_map]
    exact fun f hf => hnames _ (oneLine_viewOf (h f (S.mem_sort.1 hf)))

/-- The files have a cluster for each frontend, -/
theorem clusterNames_cds (h : ∀ f ∈ frontends, OneLine f) :
    clusterNames (bytes (envoyResources S frontends).2) = sortedNames S frontends :=
  fields_views (by decide +kernel) (by decide +kernel) (fun _ => names_clusterLines) h

/-- and a route to it. -/
theorem routes_lds (h : ∀ f ∈ frontends, OneLine f) :
    routes (bytes (envoyResources S frontends).1) = sortedNames S frontends :=
  fields_views (by decide +kernel) (by decide +kernel) (fun _ => names_listenerLines) h

end

/-! ## A push -/

/-- The clusters, as a file of the script. -/
def clusterFile (S : SortFunc) (frontends : List Frontend) : LoadBalancer.File :=
  ⟨bytes envoyCDSPath, bytes (envoyResources S frontends).2⟩

/-- The listeners. -/
def listenerFile (S : SortFunc) (frontends : List Frontend) : LoadBalancer.File :=
  ⟨bytes envoyLDSPath, bytes (envoyResources S frontends).1⟩

/-- `UpdateFiles` with the files of `EnvoyFiles` and no reload: the script that the load balancer gets. -/
def pushScript (S : SortFunc) (frontends : List Frontend) : Bytes :=
  installScript ((envoyFiles S frontends).map fun f => ⟨bytes f.path, bytes f.content⟩) (bytes "")

/-- A push, of which the load balancer runs no more than `stop` commands before the connection or the
machine is gone. -/
structure Push (σ : Type) where
  frontends : List Frontend
  stop : Nat
  stdin : Bytes
  rest : σ

/-- What a push makes of the files. -/
def Push.run {σ : Type} (m : Machine σ) (S : SortFunc) (p : Push σ) (files : Bytes → Option Bytes) :
    Bytes → Option Bytes :=
  (runItems m.host p.stdin ((parse (.code {}) (pushScript S p.frontends)).take p.stop)
    ⟨files, p.rest⟩).1.files

/-- The commands of the script: the clusters come first. -/
theorem parse_pushScript (S : SortFunc) (frontends : List Frontend) :
    parse (.code {}) (pushScript S frontends) =
      .run [{ args := [bytes "set", bytes "-euo", bytes "pipefail"] }] ::
        (fileItems (clusterFile S frontends) 0 ++ fileItems (listenerFile S frontends) 1) := by
  have hfiles : ∀ f ∈ (envoyFiles S frontends).map fun f => (⟨bytes f.path, bytes f.content⟩ : LoadBalancer.File),
      LoadBalancer.PlainPath f := by
    rw [List.forall_mem_map]
    simp only [envoyFiles, List.forall_mem_cons, List.not_mem_nil, false_implies, implies_true, and_true]
    exact ⟨(by decide +kernel : (bytes envoyCDSPath).all isPlain = true),
      (by decide +kernel : (bytes envoyLDSPath).all isPlain = true)⟩
  rw [pushScript, LoadBalancer.parse_installScript hfiles]
  rfl

section

variable {σ : Type} {m : Machine σ} {f : LoadBalancer.File} {i : Nat} {stdin : Bytes} {st : State σ}

theorem run_writeItem : runItems m.host stdin [writeItem f i] st =
    if m.opens st.rest (temporary f.path i) then (st.write (temporary f.path i) f.content, true)
    else (st, false) := by
  split
  · rename_i hopens
    exact LoadBalancer.run_decode hopens
  · rename_i hopens
    have hclosed : m.host.opens st.rest (temporary f.path i) = false :=
      Bool.eq_false_iff.2 hopens
    simp [writeItem, runItems, runPipeline, runSimple, redirect, hclosed, Outcome.next]

theorem run_moveCommand (hf : IsOperand f) (hst : st.files (temporary f.path i) = some f.content) :
    runItems m.host stdin [.run [{ args := moveCommand f i }]] st =
      if m.renames st.rest (temporary f.path i) f.path then
        ({ st with files := place st.files (f, i) }, true)
      else (st, false) := by
  have hsource : LoadBalancer.isOption (temporary f.path i) = false :=
    (LoadBalancer.isOption_temporary hf.1).trans hf.2
  have hmove : m.host.changes (moveCommand f i) st.rest st.files =
      if m.renames st.rest (temporary f.path i) f.path then some (place st.files (f, i)) else none := by
    rw [LoadBalancer.changes_moveCommand, LoadBalancer.moveCommand_of_ne hf.1]
    cases hrenames : m.renames st.rest (temporary f.path i) f.path <;>
      simp [LoadBalancer.move, hsource, hrenames, hst, place]
  split
  · rename_i hrenames
    rw [if_pos hrenames] at hmove
    exact runItems_command LoadBalancer.exec_moveCommand hmove
  · rename_i hstays
    rw [if_neg hstays] at hmove
    exact runItems_command_fails hmove

/-- What the first commands of a file leave: the file is in place, or everything but its temporary file is
as it was. In the second case nothing comes after them. -/
structure Cut (f : LoadBalancer.File) (i k : Nat) (files : Bytes → Option Bytes) (r : Outcome σ) : Prop where
  others : ∀ path, path ≠ temporary f.path i → path ≠ f.path → r.1.files path = files path
  target : r.1.files f.path = some f.content ∨
    r.1.files f.path = files f.path ∧ (r.2 = false ∨ k < 2)

theorem cut_fileItems (m : Machine σ) (stdin : Bytes) (hf : IsOperand f) (i k : Nat) (st : State σ) :
    Cut f i k st.files (runItems m.host stdin ((fileItems f i).take k) st) := by
  have hpath : f.path ≠ temporary f.path i := by
    intro h
    have hlength := congrArg List.length h
    rw [temporary, List.length_append, List.length_append,
      show (bytes ".new.").length = 5 by decide +kernel] at hlength
    omega
  have hwritten : ∀ path, path ≠ temporary f.path i →
      (st.write (temporary f.path i) f.content).files path = st.files path :=
    fun path hne => by simp [State.write, hne]
  rcases k with _ | _ | k
  · exact ⟨fun _ _ _ => rfl, .inr ⟨rfl, .inr (by omega)⟩⟩
  · rw [show (fileItems f i).take (0 + 1) = [writeItem f i] from rfl, run_writeItem]
    split
    · exact ⟨fun path hne _ => hwritten path hne, .inr ⟨hwritten _ hpath, .inr (by omega)⟩⟩
    · exact ⟨fun _ _ _ => rfl, .inr ⟨rfl, .inl rfl⟩⟩
  · rw [show (fileItems f i).take (k + 1 + 1) = [writeItem f i] ++ [.run [{ args := moveCommand f i }]] by
      simp [fileItems], runItems_append, run_writeItem]
    split
    · show Cut f i (k + 1 + 1) st.files (runItems m.host stdin _ _)
      rw [run_moveCommand hf (by simp [State.write])]
      split
      · refine ⟨fun path hne hne' => ?_, .inl (by simp [place])⟩
        simp [place, State.write, hne, hne']
      · exact ⟨fun path hne _ => hwritten path hne, .inr ⟨hwritten _ hpath, .inl rfl⟩⟩
    · exact ⟨fun _ _ _ => rfl, .inr ⟨rfl, .inl rfl⟩⟩

theorem run_set : runItems m.host stdin
    [.run [{ args := [bytes "set", bytes "-euo", bytes "pipefail"] }]] st = (st, true) := by
  have hne : [bytes "set", bytes "-euo", bytes "pipefail"] ≠ [bytes "base64", bytes "-d"] := by
    decide +kernel
  have hexec : m.host.exec [bytes "set", bytes "-euo", bytes "pipefail"] stdin st.rest =
      some ([], st.rest) := by simp [Machine.host, hne]
  exact runItems_command hexec (by simp [Machine.host])

end

section

variable {σ : Type} {m : Machine σ} {S : SortFunc} {p : Push σ} {files : Bytes → Option Bytes}

/-- What a push can leave of its two files. -/
inductive PushCut (S : SortFunc) (frontends : List Frontend) (before after : Bytes → Option Bytes) : Prop
  | listeners (hlds : after (bytes envoyLDSPath) = before (bytes envoyLDSPath))
      (hcds : after (bytes envoyCDSPath) = before (bytes envoyCDSPath) ∨
        after (bytes envoyCDSPath) = some (bytes (envoyResources S frontends).2))
  | both (hlds : after (bytes envoyLDSPath) = some (bytes (envoyResources S frontends).1))
      (hcds : after (bytes envoyCDSPath) = some (bytes (envoyResources S frontends).2))

theorem paths_apart : bytes envoyLDSPath ≠ bytes envoyCDSPath ∧
    bytes envoyLDSPath ≠ temporary (bytes envoyCDSPath) 0 ∧
    bytes envoyCDSPath ≠ temporary (bytes envoyLDSPath) 1 := by decide +kernel

theorem operands (S : SortFunc) (frontends : List Frontend) :
    IsOperand (clusterFile S frontends) ∧ IsOperand (listenerFile S frontends) :=
  (by decide +kernel : (bytes envoyCDSPath ≠ [] ∧ LoadBalancer.isOption (bytes envoyCDSPath) = false) ∧
    bytes envoyLDSPath ≠ [] ∧ LoadBalancer.isOption (bytes envoyLDSPath) = false)

/-- The listeners are never replaced before the clusters. -/
theorem pushCut_run (m : Machine σ) (S : SortFunc) (p : Push σ) (files : Bytes → Option Bytes) :
    PushCut S p.frontends files (p.run m S files) := by
  rw [Push.run, parse_pushScript]
  cases p.stop with
  | zero => exact .listeners rfl (.inl rfl)
  | succ n =>
    rw [List.take_succ_cons, ← List.singleton_append, runItems_append, run_set, List.take_append]
    show PushCut S p.frontends files
      (runItems m.host p.stdin ((fileItems (clusterFile S p.frontends) 0).take n ++
        (fileItems (listenerFile S p.frontends) 1).take (n - 2)) ⟨files, p.rest⟩).1.files
    rw [runItems_append]
    have hclusters := cut_fileItems m p.stdin (operands S p.frontends).1 0 n ⟨files, p.rest⟩
    generalize runItems m.host p.stdin ((fileItems (clusterFile S p.frontends) 0).take n)
      ⟨files, p.rest⟩ = r at hclusters
    have hlds : r.1.files (bytes envoyLDSPath) = files (bytes envoyLDSPath) :=
      hclusters.others _ paths_apart.2.1 paths_apart.1
    have hcds : r.1.files (bytes envoyCDSPath) = some (bytes (envoyResources S p.frontends).2) ∨
        r.1.files (bytes envoyCDSPath) = files (bytes envoyCDSPath) ∧ (r.2 = false ∨ n < 2) :=
      hclusters.target
    cases hgoes : r.2 with
    | false =>
      rw [Outcome.next, hgoes, if_neg Bool.false_ne_true]
      exact .listeners hlds (hcds.symm.imp_left And.left)
    | true =>
      rw [Outcome.next, hgoes, if_pos rfl]
      rcases hcds with hcds | ⟨hcds, hstop | hstop⟩
      · -- the clusters are in place, so the listeners may follow
        have hlisteners := cut_fileItems m p.stdin (operands S p.frontends).2 1 (n - 2) r.1
        have hkept := (hlisteners.others _ paths_apart.2.2 paths_apart.1.symm).trans hcds
        rcases hlisteners.target with hplaced | ⟨hsame, -⟩
        · exact .both hplaced hkept
        · exact .listeners (hsame.trans hlds) (.inr hkept)
      · rw [hgoes] at hstop
        cases hstop
      · rw [show n - 2 = 0 by omega]
        exact .listeners hlds (.inl hcds)

/-- The routes and the clusters of the files that envoy reads. -/
def routesIn (files : Bytes → Option Bytes) : List Bytes := routes ((files (bytes envoyLDSPath)).getD [])

def clustersIn (files : Bytes → Option Bytes) : List Bytes :=
  clusterNames ((files (bytes envoyCDSPath)).getD [])

/-- If anything routes to this cluster, envoy knows it. -/
def Backed (x : Bytes) (files : Bytes → Option Bytes) : Prop := x ∈ routesIn files → x ∈ clustersIn files

/-- A push that keeps the frontend, wherever it stops. -/
theorem Backed.push {x : Bytes} (hlines : ∀ f ∈ p.frontends, OneLine f)
    (hwanted : ∃ f ∈ p.frontends, bytes f.name = x) (h : Backed x files) : Backed x (p.run m S files) := by
  have hnew : p.run m S files (bytes envoyCDSPath) = some (bytes (envoyResources S p.frontends).2) →
      x ∈ clustersIn (p.run m S files) := by
    intro hcds
    rw [clustersIn, hcds, Option.getD_some, clusterNames_cds hlines]
    exact mem_sortedNames.2 hwanted
  intro hroute
  cases pushCut_run m S p files with
  | listeners hlds hcds =>
    rcases hcds with hcds | hcds
    · rw [clustersIn, hcds]
      rw [routesIn, hlds] at hroute
      exact h hroute
    · exact hnew hcds
  | both hlds hcds => exact hnew hcds

/-- A push that is not cut short, on a machine that lets it write its files. -/
structure Push.Completes (m : Machine σ) (S : SortFunc) (p : Push σ) : Prop where
  stop : 5 ≤ p.stop
  clusters : Permits m p.rest (clusterFile S p.frontends) 0
  listeners : Permits m p.rest (listenerFile S p.frontends) 1

theorem Push.Completes.run_eq (h : p.Completes m S) (files : Bytes → Option Bytes) :
    p.run m S files = place (place files (clusterFile S p.frontends, 0)) (listenerFile S p.frontends, 1) := by
  have htake : (parse (.code {}) (pushScript S p.frontends)).take p.stop =
      [.run [{ args := [bytes "set", bytes "-euo", bytes "pipefail"] }]] ++
        (fileItems (clusterFile S p.frontends) 0 ++ fileItems (listenerFile S p.frontends) 1) := by
    rw [parse_pushScript]
    exact List.take_of_length_le h.stop
  rw [Push.run, htake, runItems_append, run_set, Outcome.next, if_pos rfl, runItems_append,
    LoadBalancer.run_fileItems h.clusters (operands S p.frontends).1, Outcome.next, if_pos rfl,
    LoadBalancer.run_fileItems h.listeners (operands S p.frontends).2]

theorem Push.Completes.installs (h : p.Completes m S) (hlines : ∀ f ∈ p.frontends, OneLine f)
    (files : Bytes → Option Bytes) : routesIn (p.run m S files) = sortedNames S p.frontends ∧
      clustersIn (p.run m S files) = sortedNames S p.frontends := by
  have hlds : p.run m S files (bytes envoyLDSPath) = some (bytes (envoyResources S p.frontends).1) := by
    rw [h.run_eq]
    exact Function.update_self ..
  have hcds : p.run m S files (bytes envoyCDSPath) = some (bytes (envoyResources S p.frontends).2) := by
    rw [h.run_eq]
    refine (Function.update_of_ne paths_apart.1.symm _ _).trans ?_
    exact (Function.update_of_ne paths_apart.2.2 _ _).trans (Function.update_self ..)
  rw [routesIn, clustersIn, hlds, hcds]
  exact ⟨routes_lds hlines, clusterNames_cds hlines⟩

/-- **Routes stay backed.** However many pushes are cut short, and wherever: a frontend that all of them
have has no route without its cluster, if it had none before. After a push that is not cut short, envoy has
one route and one cluster for each frontend, and nothing else. -/
theorem routes_stay_backed (m : Machine σ) (S : SortFunc) {pushes : List (Push σ)}
    (hlines : ∀ p ∈ pushes, ∀ f ∈ p.frontends, OneLine f) (files : Bytes → Option Bytes) :
    (∀ x, (∀ p ∈ pushes, ∃ f ∈ p.frontends, bytes f.name = x) → Backed x files →
      Backed x (pushes.foldl (fun files p => p.run m S files) files)) ∧
    ∀ p, pushes.getLast? = some p → p.Completes m S →
      routesIn (pushes.foldl (fun files p => p.run m S files) files) = sortedNames S p.frontends ∧
      clustersIn (pushes.foldl (fun files p => p.run m S files) files) = sortedNames S p.frontends := by
  refine ⟨fun x hwanted h => ?_, fun p hlast hcompletes => ?_⟩
  · induction pushes generalizing files with
    | nil => exact h
    | cons p pushes ih =>
      refine ih (fun q hq => hlines q (List.mem_cons_of_mem _ hq)) _
        (fun q hq => hwanted q (List.mem_cons_of_mem _ hq)) ?_
      exact h.push (hlines p List.mem_cons_self) (hwanted p List.mem_cons_self)
  · obtain ⟨before, rfl⟩ := List.getLast?_eq_some_iff.1 hlast
    rw [List.foldl_append]
    exact hcompletes.installs (hlines p (by simp)) _

end

/-- A machine on which everything can be written and renamed. -/
def openMachine : Machine Unit where
  exec _ _ rest := some ([], rest)
  opens _ _ := true
  renames _ _ _ := true

def samplePush (stop : Nat) : Push Unit where
  frontends := [{ name := "default_web_80_tcp", protocol := "TCP", port := 80 }]
  stop := stop
  stdin := []
  rest := ()

/-- A push that is cut after each number of commands, and then one that is not. -/
theorem routes_stay_backed_sample :
    Backed (bytes "default_web_80_tcp") ([samplePush 2, samplePush 3, samplePush 4].foldl
      (fun files p => p.run openMachine insertion files) fun _ => none) ∧
    routesIn ([samplePush 3, samplePush 5].foldl (fun files p => p.run openMachine insertion files)
      fun _ => none) = [bytes "default_web_80_tcp"] := by
  have hlines : ∀ stop, ∀ f ∈ (samplePush stop).frontends, OneLine f := by
    intro stop f hf
    rw [List.mem_singleton.1 hf]
    exact ⟨by decide, fun b hb => absurd hb List.not_mem_nil⟩
  constructor
  · refine (routes_stay_backed openMachine insertion ?_ fun _ => none).1 _ ?_ ?_
    · simp only [List.forall_mem_cons, List.not_mem_nil, false_implies, implies_true, and_true]
      exact ⟨hlines 2, hlines 3, hlines 4⟩
    · simp [samplePush]
    · intro hroute
      exact absurd hroute (by decide +kernel)
  · refine ((routes_stay_backed openMachine insertion ?_ fun _ => none).2 (samplePush 5) rfl ?_).1.trans ?_
    · simp only [List.forall_mem_cons, List.not_mem_nil, false_implies, implies_true, and_true]
      exact ⟨hlines 3, hlines 5⟩
    · exact ⟨le_refl _, ⟨rfl, fun _ => rfl⟩, ⟨rfl, fun _ => rfl⟩⟩
    · decide +kernel

end VerdaCapi.Envoy
