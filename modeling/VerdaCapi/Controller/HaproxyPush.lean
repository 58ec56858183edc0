import VerdaCapi.Controller.ClusterSystem
import VerdaCapi.LoadBalancer.Haproxy

/-!
# What a push of backends does on the load balancer

In `ClusterWorld` a push of backends is one step: it is carried out, or it is not, or it is and its answer
is lost. On the load balancer it is a shell that stages a file, has it checked, renames it and reloads.
`pushes_refine`: whatever that machine does, and however often it fails, the servers in its haproxy
configuration and the answers it gives are those of `clusterAnswer` for some choices. What is proved about
the controller in that world therefore holds with the configuration file in place of `applied`.
-/

namespace VerdaCapi.Controller

open Cloud Go Shell Haproxy

/-- The servers that haproxy has; without a configuration it has none. -/
def serving (files : Bytes → Option Bytes) : List Bytes := ((files configPath).map servers).getD []

/-- A push as the load balancer sees it: the backends, and the state of the machine when it arrives. -/
structure BackendPush (σ : Type) where
  backends : List String
  rest : σ

/-- The pushes one after the other: the files they leave, and which of them report success. -/
def pushAll {σ : Type} (H : Host σ) :
    List (BackendPush σ) → (Bytes → Option Bytes) → Option ((Bytes → Option Bytes) × List Bool)
  | [], files => some (files, [])
  | p :: ps, files => do
    let r ← Haproxy.updateBackends H p.backends ⟨files, p.rest⟩
    let (files, oks) ← pushAll H ps r.1.files
    return (files, r.2 :: oks)

/-- Whether a push reports success to the controller. -/
def succeeded (x : Except Err Unit) : Bool := x.isOk

/-- The same requests in the world of the controller, each with how it goes. -/
def answerAll (addressOf : AccountID → String → String) (a : AccountID) (addr : String) (keys : Keys) :
    List (ClusterChoice × List String) → ClusterWorld → Option (ClusterWorld × List Bool)
  | [], w => some (w, [])
  | (ch, backends) :: rest, w => do
    let (x, w) ← clusterAnswer addressOf ch w (a, .updateBackends addr keys backends)
    let (w, oks) ← answerAll addressOf a addr keys rest w
    return (w, succeeded x :: oks)

/-- The list is as `controlPlaneAddresses` returns it, and stays on its lines. -/
structure Pushable (backends : List String) : Prop where
  sorted : backends.Pairwise (· ≤ ·)
  plain : ∀ ip ∈ backends, 0x0a ∉ bytes ip

theorem Pushable.sorted_eq {backends : List String} (h : Pushable backends) :
    Haproxy.sorted backends = backends :=
  List.mergeSort_of_pairwise (by simpa using h.sorted)

section

variable {σ : Type} {H : Host σ} {accepts : σ → Bytes → Bool} {renames : σ → Bool}
  {a : AccountID} {id : String} {w : ClusterWorld}

/-- One push: there is a choice for which the world of the controller follows the machine. -/
theorem push_refines (hH : Runs H accepts renames) {p : BackendPush σ} (hp : Pushable p.backends)
    {files : Bytes → Option Bytes} (hw : serving files = (w.applied a id).map bytes)
    (addressOf : AccountID → String → String) (keys : Keys) :
    ∃ r ch x w', Haproxy.updateBackends H p.backends ⟨files, p.rest⟩ = some r ∧
      clusterAnswer addressOf ch w (a, .updateBackends (addressOf a id) keys p.backends) = some (x, w') ∧
      serving r.1.files = (w'.applied a id).map bytes ∧
      succeeded x = r.2 ∧ (Allows H accepts renames p.backends p.rest → r.2 = true) ∧
      (r.1.files configPath = files configPath ∨
        accepts p.rest (config p.backends) = true ∧ r.1.files configPath = some (config p.backends)) := by
  obtain ⟨r, hr, hupdated⟩ := updateBackends_atomic hH hp.plain ⟨files, p.rest⟩
  rcases hupdated.switched with ⟨hsame, hfailed⟩ | hswitched
  · refine ⟨r, .refuse "", .error ⟨.other, ""⟩, w, hr, rfl, ?_, hfailed.symm, hupdated.allowed, .inl hsame⟩
    rw [serving, show r.1.files configPath = files configPath from hsame]
    exact hw
  · have hpushed : serving r.1.files = ((w.push addressOf (addressOf a id) p.backends).applied a id).map
        bytes := by
      have hservers : (r.1.files configPath).map servers = some ((Haproxy.sorted p.backends).map bytes) :=
        hswitched.servers
      rw [serving, hservers, hp.sorted_eq]
      simp [ClusterWorld.push]
    cases hok : r.2 with
    | true =>
      exact ⟨r, .accept, .ok (), _, hr, rfl, hpushed, hok.symm, fun _ => hok,
        .inr ⟨hswitched.accepted, hswitched.config⟩⟩
    | false =>
      exact ⟨r, .lose "", .error ⟨.other, ""⟩, _, hr, rfl, hpushed, hok.symm, hupdated.allowed,
        .inr ⟨hswitched.accepted, hswitched.config⟩⟩

/-- **Pushes refine the world of the controller.** Every sequence of pushes on a load balancer runs to its
end. There are choices for which the requests of the controller leave `applied` with the servers of the
haproxy configuration, and give the answers that the machine gives; where the machine allows a push, that
is success. The configuration is the one from before, or one that haproxy has accepted. -/
theorem pushes_refine (hH : Runs H accepts renames) {pushes : List (BackendPush σ)}
    (hp : ∀ p ∈ pushes, Pushable p.backends) {files : Bytes → Option Bytes}
    (hw : serving files = (w.applied a id).map bytes) (addressOf : AccountID → String → String) (keys : Keys) :
    ∃ files' oks choices w', pushAll H pushes files = some (files', oks) ∧
      choices.map Prod.snd = pushes.map BackendPush.backends ∧
      answerAll addressOf a (addressOf a id) keys choices w = some (w', oks) ∧
      serving files' = (w'.applied a id).map bytes ∧
      (∀ e ∈ pushes.zip oks, Allows H accepts renames e.1.backends e.1.rest → e.2 = true) ∧
      (files' configPath = files configPath ∨ ∃ p ∈ pushes, accepts p.rest (config p.backends) = true ∧
        files' configPath = some (config p.backends)) := by
  induction pushes generalizing files w with
  | nil => exact ⟨files, [], [], w, rfl, rfl, rfl, hw, fun e he => absurd he List.not_mem_nil, .inl rfl⟩
  | cons p pushes ih =>
    obtain ⟨r, ch, x, w₁, hr, hans, hserving, hok, hallowed, hconfig⟩ :=
      push_refines hH (hp p List.mem_cons_self) hw addressOf keys
    obtain ⟨files', oks, choices, w', hall, hchoices, hanswers, hserving', hallowed', hconfig'⟩ :=
      ih (fun q hq => hp q (List.mem_cons_of_mem _ hq)) hserving
    refine ⟨files', r.2 :: oks, (ch, p.backends) :: choices, w', ?_, ?_, ?_, hserving', ?_, ?_⟩
    · simp [pushAll, hr, hall]
    · simp [hchoices]
    · simp [answerAll, hans, hanswers, hok]
    · rw [List.zip_cons_cons, List.forall_mem_cons]
      exact ⟨hallowed, hallowed'⟩
    · rcases hconfig' with hconfig' | ⟨q, hq, hq'⟩
      · rcases hconfig with hconfig | ⟨haccepts, hconfig⟩
        · exact .inl (hconfig'.trans hconfig)
        · exact .inr ⟨p, List.mem_cons_self, haccepts, hconfig'.trans hconfig⟩
      · exact .inr ⟨q, List.mem_cons_of_mem _ hq, hq'⟩

end

theorem sampleHost_allows {backends : List String} :
    Allows sampleHost (fun _ text => decide (text ≠ [])) (fun _ => true) backends () := by
  refine ⟨rfl, rfl, ?_, rfl, fun files _ => ⟨by simp [sampleHost], ?_⟩⟩
  · simp [config, configHead]
  · have hne : reloadArgs ≠ checkArgs ∧ reloadArgs ≠ Haproxy.moveArgs := by decide +kernel
    simp [sampleHost, hne]

/-- Two pushes on a machine on which everything works succeed. -/
theorem pushes_refine_sample : ∃ files' ok ok' choices w',
    pushAll sampleHost [⟨["10.0.0.5"], ()⟩, ⟨["10.0.0.6"], ()⟩] (fun _ => none) =
        some (files', [ok, ok']) ∧
      answerAll (fun _ id => id) .global "lb" ⟨[1], [2], [3], [4]⟩ choices
        { cloud := { account := fun _ => {} } } = some (w', [ok, ok']) ∧
      serving files' = (w'.applied .global "lb").map bytes ∧ ok = true ∧ ok' = true := by
  have hpushable : ∀ p ∈ [(⟨["10.0.0.5"], ()⟩ : BackendPush Unit), ⟨["10.0.0.6"], ()⟩],
      Pushable p.backends := by
    simp only [List.forall_mem_cons, List.not_mem_nil, false_implies, implies_true, and_true]
    exact ⟨⟨by simp, by decide +kernel⟩, ⟨by simp, by decide +kernel⟩⟩
  obtain ⟨files', oks, choices, w', hall, -, hanswers, hserving, hallowed, -⟩ :=
    pushes_refine (w := { cloud := { account := fun _ => {} } }) (a := .global) sampleHost_runs hpushable
      (show serving (fun _ => none) = _ from rfl) (fun _ id => id) ⟨[1], [2], [3], [4]⟩
  obtain ⟨ok, ok', rfl⟩ : ∃ ok ok', oks = [ok, ok'] := by
    simp only [pushAll, Option.bind_eq_bind, Option.pure_def, Option.bind_eq_some_iff, Option.some_inj] at hall
    obtain ⟨r, -, ⟨_, _⟩, ⟨r', -, ⟨_, _⟩, heq', heq⟩, heq''⟩ := hall
    cases heq'
    cases heq
    cases heq''
    exact ⟨_, _, rfl⟩
  rw [List.zip_cons_cons, List.zip_cons_cons, List.forall_mem_cons, List.forall_mem_cons] at hallowed
  exact ⟨files', ok, ok', choices, w', hall, hanswers, hserving, hallowed.1 sampleHost_allows,
    hallowed.2.1 sampleHost_allows⟩

end VerdaCapi.Controller
