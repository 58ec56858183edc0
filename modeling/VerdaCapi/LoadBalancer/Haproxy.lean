import VerdaCapi.Go.Text
import VerdaCapi.Shell.AndList

/-!
# The haproxy configuration of the control plane load balancer

Reference: `Config` and `UpdateCommand` in `internal/loadbalancer/haproxy.go`, the template
`haproxy.cfg.tmpl`, and `UpdateBackends` in `internal/loadbalancer/ssh.go`, which gives the rendered
configuration to `UpdateCommand` on its standard input.

The controller treats a push of backends as one step that is carried out, or not, or carried out with
its answer lost. `updateBackends_atomic` is why it may: the command stages the configuration, has it
checked, and switches to it by one rename. Wherever it fails, haproxy is left with the old backends or
with exactly the new ones, and never with a configuration it rejects.
-/

namespace VerdaCapi.Haproxy

open Go Shell

/-! ## The configuration -/

def port : Nat := 6443

def configPath : Bytes := bytes "/etc/haproxy/haproxy.cfg"

/-- `haproxy.cfg.tmpl` up to the list of servers. -/
def configHead : List String :=
  ["# Managed by cluster-api-provider-verda. Do not edit.",
    "global",
    "    log /dev/log local0",
    "    maxconn 4096",
    "",
    "defaults",
    "    mode tcp",
    "    log global",
    "    option tcplog",
    "    option dontlognull",
    "    timeout connect 10s",
    "    timeout client 1h",
    "    timeout server 1h",
    "",
    "frontend kube-apiserver",
    "    bind *:6443",
    "    default_backend kube-apiserver",
    "",
    "backend kube-apiserver",
    "    balance roundrobin",
    "    option tcp-check",
    "    default-server inter 5s fall 3 rise 2"]

/-- The line of one server. -/
def serverLine (i : Nat) (ip : String) : Bytes :=
  bytes "    server cp-" ++ decimal i ++ bytes " " ++ bytes ip ++ bytes ":" ++ decimal port ++ bytes " check"

/-- `slices.Sort` on a copy. -/
def sorted (backends : List String) : List String := backends.mergeSort fun a b => decide (a ≤ b)

/-- `Config`. -/
def config (backends : List String) : Bytes :=
  (configHead.map bytes ++ (sorted backends).zipIdx.map fun e => serverLine e.2 e.1).flatMap
    (· ++ [0x0a])

/-! ## Reading it back -/

def isDigit (b : UInt8) : Bool := 0x30 ≤ b && b ≤ 0x39

/-- The address of a `server` line with the port of the API server. -/
def serverOf (line : Bytes) : Option Bytes :=
  if (bytes "    server cp-").isPrefixOf line then
    match (line.drop 14).dropWhile isDigit with
    | 0x20 :: s =>
      if (bytes ":6443 check").isSuffixOf s then some (s.take (s.length - 11)) else none
    | _ => none
  else none

/-- The servers haproxy has behind the API server port, in the order of the configuration. -/
def servers (text : Bytes) : List Bytes := (linesOf text).filterMap serverOf

theorem serverOf_serverLine (i : Nat) (ip : String) : serverOf (serverLine i ip) = some (bytes ip) := by
  have hport : bytes ":" ++ decimal port ++ bytes " check" = bytes ":6443 check" := by decide +kernel
  have hline : serverLine i ip =
      bytes "    server cp-" ++ (decimal i ++ (0x20 :: (bytes ip ++ bytes ":6443 check"))) := by
    rw [← hport]
    simp [serverLine, show bytes " " = [0x20] from by decide +kernel]
  have hdrop : (serverLine i ip).drop 14 = decimal i ++ (0x20 :: (bytes ip ++ bytes ":6443 check")) := by
    rw [hline]
    exact List.drop_left' (by decide +kernel)
  have hdigits : ((serverLine i ip).drop 14).dropWhile isDigit =
      0x20 :: (bytes ip ++ bytes ":6443 check") := by
    have hdecimal : ∀ b ∈ decimal i, isDigit b = true := by
      intro b hb
      obtain ⟨hlo, hhi⟩ := decimal_digit hb
      simp [isDigit, hlo, hhi]
    rw [hdrop, List.dropWhile_append_of_pos hdecimal]
    rfl
  have hprefix : (bytes "    server cp-").isPrefixOf (serverLine i ip) = true := by
    rw [hline, List.isPrefixOf_iff_prefix]
    exact List.prefix_append _ _
  have hsuffix : (bytes ":6443 check").isSuffixOf (bytes ip ++ bytes ":6443 check") = true := by
    rw [List.isSuffixOf_iff_suffix]
    exact List.suffix_append _ _
  have hlength : (bytes ":6443 check").length = 11 := by decide +kernel
  rw [serverOf, if_pos hprefix, hdigits]
  show (if (bytes ":6443 check").isSuffixOf _ = true then _ else _) = _
  rw [if_pos hsuffix, List.length_append, hlength, Nat.add_sub_cancel, List.take_left]

theorem newline_not_mem_serverLine {ip : String} (h : 0x0a ∉ bytes ip) (i : Nat) :
    0x0a ∉ serverLine i ip := by
  have hdecimal : ∀ n, 0x0a ∉ decimal n := fun n hb => absurd (decimal_digit hb).1 (by decide)
  have htexts : ∀ s ∈ ["    server cp-", " ", ":", " check"], 0x0a ∉ bytes s := by decide +kernel
  simp only [serverLine, List.mem_append, not_or]
  exact ⟨⟨⟨⟨⟨⟨htexts _ (by simp), hdecimal i⟩, htexts _ (by simp)⟩, h⟩, htexts _ (by simp)⟩,
    hdecimal port⟩, htexts _ (by simp)⟩

/-- The configuration says which servers there are, whatever order they were given in. -/
theorem servers_config {backends : List String} (h : ∀ ip ∈ backends, 0x0a ∉ bytes ip) :
    servers (config backends) = (sorted backends).map bytes := by
  have hsorted : ∀ ip ∈ sorted backends, 0x0a ∉ bytes ip :=
    fun ip hip => h ip ((List.mergeSort_perm _ _).mem_iff.1 hip)
  have hlines : ∀ l ∈ configHead.map bytes ++ (sorted backends).zipIdx.map fun e => serverLine e.2 e.1,
      0x0a ∉ l := by
    intro l hl
    rcases List.mem_append.1 hl with hl | hl
    · exact (show ∀ l ∈ configHead.map bytes, 0x0a ∉ l by decide +kernel) l hl
    · obtain ⟨e, he, rfl⟩ := List.mem_map.1 hl
      exact newline_not_mem_serverLine (hsorted e.1 (List.fst_mem_of_mem_zipIdx he)) e.2
  have hhead : (configHead.map bytes).filterMap serverOf = [] := by decide +kernel
  have hservers : ((sorted backends).zipIdx.map fun e => serverLine e.2 e.1).filterMap serverOf =
      (sorted backends).map bytes := by
    rw [List.filterMap_map]
    have hcomp : (serverOf ∘ fun e : String × Nat => serverLine e.2 e.1) = fun e => some (bytes e.1) :=
      funext fun e => serverOf_serverLine e.2 e.1
    rw [hcomp, List.filterMap_eq_map']
    have hfst := congrArg (List.map bytes) (List.zipIdx_map_fst 0 (sorted backends))
    rw [List.map_map] at hfst
    exact hfst
  rw [servers, config, linesOf_flatMap hlines, List.filterMap_append, List.filterMap_append, hhead,
    hservers]
  simp [serverOf, show bytes "    server cp-" ≠ [] from by decide +kernel]

/-! ## The update -/

def stagedPath : Bytes := configPath ++ bytes ".new"

def devNull : Bytes := bytes "/dev/null"

/-- `UpdateCommand`. -/
def updateCommand : Bytes :=
  bytes "set -e; cat > " ++ configPath ++ bytes ".new && haproxy -c -f " ++ configPath ++
    bytes ".new >/dev/null && mv " ++ configPath ++ bytes ".new " ++ configPath ++
    bytes " && systemctl reload haproxy"

/-- `UpdateBackends`: what the remote shell does with the command and the configuration. -/
def updateBackends {σ : Type} (H : Host σ) (backends : List String) (st : State σ) :
    Option (Outcome σ) :=
  runLine H (config backends) updateCommand st

def checkArgs : List Bytes := [bytes "haproxy", bytes "-c", bytes "-f", stagedPath]

def moveArgs : List Bytes := [bytes "mv", stagedPath, configPath]

def reloadArgs : List Bytes := [bytes "systemctl", bytes "reload", bytes "haproxy"]

/-- How the remote shell reads the command. -/
theorem andLists_updateCommand : andLists updateCommand = some
    [[[.run [{ args := [bytes "set", bytes "-e"] }]]],
      [[.run [{ args := [bytes "cat"], redirs := [.out stagedPath] }]],
        [.run [{ args := checkArgs, redirs := [.out devNull] }]],
        [.run [{ args := moveArgs }]],
        [.run [{ args := reloadArgs }]]]] := by
  decide +kernel

/-- The programs of the load balancer: `set` and `cat` do what they do everywhere, `mv` renames a file or
fails, `haproxy -c` fails on what it rejects, and a reload leaves the files alone. -/
structure Runs {σ : Type} (H : Host σ) (accepts : σ → Bytes → Bool) (renames : σ → Bool) : Prop where
  set : ∀ input rest files, H.exec [bytes "set", bytes "-e"] input rest = some ([], rest) ∧
    H.changes [bytes "set", bytes "-e"] rest files = some files
  cat : ∀ input rest files, H.exec [bytes "cat"] input rest = some (input, rest) ∧
    H.changes [bytes "cat"] rest files = some files
  checkExec : ∀ input rest, ∃ output, H.exec checkArgs input rest = some (output, rest)
  check : ∀ rest files, H.changes checkArgs rest files =
    if accepts rest ((files stagedPath).getD []) then some files else none
  moveExec : ∀ input rest, ∃ output, H.exec moveArgs input rest = some (output, rest)
  move : ∀ rest files, H.changes moveArgs rest files =
    if renames rest then (files stagedPath).map fun content =>
      Function.update (Function.update files stagedPath none) configPath (some content)
    else none
  reload : ∀ rest files files', H.changes reloadArgs rest files = some files' → files' = files

section

variable {σ : Type} {H : Host σ} {accepts : σ → Bytes → Bool} {renames : σ → Bool} {st : State σ}
  {backends : List String}

theorem stagedPath_ne : stagedPath ≠ configPath := by decide +kernel

theorem devNull_ne_configPath : devNull ≠ configPath := by decide +kernel

theorem devNull_ne_stagedPath : devNull ≠ stagedPath := by decide +kernel

/-- `cat > haproxy.cfg.new`. -/
theorem run_stage (hH : Runs H accepts renames) (text : Bytes) (st : State σ) :
    runItems H text [.run [{ args := [bytes "cat"], redirs := [.out stagedPath] }]] st =
      if H.opens st.rest stagedPath then (st.write stagedPath text, true) else (st, false) := by
  split
  · rename_i hopens
    rw [runItems_out hopens (hH.cat _ _ (fun _ => none)).1 (hH.cat [] _ _).2]
    simp [State.write]
  · rename_i hopens
    exact runItems_out_closed (by simpa using hopens)

/-- `haproxy -c -f haproxy.cfg.new >/dev/null`. -/
theorem run_check (hH : Runs H accepts renames) {text : Bytes} (input : Bytes)
    (hst : st.files stagedPath = some text) :
    ∃ output, runItems H input [.run [{ args := checkArgs, redirs := [.out devNull] }]] st =
      if H.opens st.rest devNull then
        if accepts st.rest text then (st.write devNull output, true) else (st.write devNull [], false)
      else (st, false) := by
  obtain ⟨output, hexec⟩ := hH.checkExec input st.rest
  refine ⟨output, ?_⟩
  split
  · rename_i hopens
    have hstaged : ((st.write devNull []).files stagedPath).getD [] = text := by
      simp [State.write, devNull_ne_stagedPath.symm, hst]
    have hcheck := hH.check st.rest (st.write devNull []).files
    rw [hstaged] at hcheck
    split
    · rename_i haccepts
      rw [if_pos haccepts] at hcheck
      rw [runItems_out hopens hexec hcheck]
      simp [State.write]
    · rename_i hrejects
      rw [if_neg hrejects] at hcheck
      exact runItems_out_fails hopens (.inr hcheck)
  · rename_i hopens
    exact runItems_out_closed (by simpa using hopens)

/-- `mv haproxy.cfg.new haproxy.cfg`. -/
theorem run_move (hH : Runs H accepts renames) {text : Bytes} (input : Bytes)
    (hst : st.files stagedPath = some text) :
    runItems H input [.run [{ args := moveArgs }]] st =
      if renames st.rest then ({ st with
        files := Function.update (Function.update st.files stagedPath none) configPath (some text) }, true)
      else (st, false) := by
  obtain ⟨output, hexec⟩ := hH.moveExec input st.rest
  have hmove := hH.move st.rest st.files
  rw [hst, Option.map_some] at hmove
  split
  · rename_i hrenames
    rw [if_pos hrenames] at hmove
    exact runItems_command hexec hmove
  · rename_i hstays
    rw [if_neg hstays] at hmove
    exact runItems_command_fails hmove

/-- `systemctl reload haproxy`, whatever comes of it. -/
theorem run_reload (hH : Runs H accepts renames) (input : Bytes) (st : State σ) :
    (runItems H input [.run [{ args := reloadArgs }]] st).1.files = st.files ∧
      ((runItems H input [.run [{ args := reloadArgs }]] st).2 = true ↔
        H.exec reloadArgs input st.rest ≠ none ∧ H.changes reloadArgs st.rest st.files ≠ none) := by
  cases hfiles : H.changes reloadArgs st.rest st.files with
  | none =>
    rw [runItems_command_fails hfiles]
    simp
  | some files =>
    cases hexec : H.exec reloadArgs input st.rest with
    | none => simp [runItems, runPipeline, runSimple, redirect, hexec, Outcome.next]
    | some r =>
      rw [runItems_command hexec hfiles]
      exact ⟨hH.reload _ _ _ hfiles, by simp⟩

/-- The file haproxy reads on a reload. -/
def configOf (st : State σ) : Option Bytes := st.files configPath

/-- The configuration is in place, and haproxy accepts it. -/
structure Switched (accepts : σ → Bytes → Bool) (backends : List String) (st st' : State σ) : Prop where
  config : configOf st' = some (config backends)
  accepted : accepts st.rest (Haproxy.config backends) = true
  servers : ((configOf st').map servers) = some ((sorted backends).map bytes)

/-- What the machine has to allow for an update to succeed. -/
structure Allows (H : Host σ) (accepts : σ → Bytes → Bool) (renames : σ → Bool) (backends : List String)
    (rest : σ) : Prop where
  stage : H.opens rest stagedPath = true
  output : H.opens rest devNull = true
  accepts : accepts rest (config backends) = true
  renames : renames rest = true
  reloads : ∀ files, files configPath = some (config backends) →
    H.exec reloadArgs (config backends) rest ≠ none ∧ H.changes reloadArgs rest files ≠ none

/-- What comes of an update. -/
structure Updated (H : Host σ) (accepts : σ → Bytes → Bool) (renames : σ → Bool) (backends : List String)
    (st : State σ) (r : Outcome σ) : Prop where
  switched : configOf r.1 = configOf st ∧ r.2 = false ∨ Switched accepts backends st r.1
  allowed : Allows H accepts renames backends st.rest → r.2 = true
  others : ∀ path, path ≠ configPath → path ≠ stagedPath → path ≠ devNull →
    r.1.files path = st.files path

/-- An update that stops before the switch. -/
theorem Updated.stopped {st' : State σ} (hnot : ¬ Allows H accepts renames backends st.rest)
    (hfiles : ∀ path, path ≠ stagedPath → path ≠ devNull → st'.files path = st.files path) :
    Updated H accepts renames backends st (st', false) where
  switched := .inl ⟨hfiles configPath stagedPath_ne.symm devNull_ne_configPath.symm, rfl⟩
  allowed h := absurd h hnot
  others path _ hstaged hnull := hfiles path hstaged hnull

/-- An update that gets to the switch, whatever comes of the reload. -/
theorem Updated.reloaded (hH : Runs H accepts renames) (h : ∀ ip ∈ backends, 0x0a ∉ bytes ip)
    (haccepts : accepts st.rest (config backends) = true) {st' : State σ} (hrest : st'.rest = st.rest)
    (hconfig : configOf st' = some (config backends))
    (hfiles : ∀ path, path ≠ configPath → path ≠ stagedPath → path ≠ devNull →
      st'.files path = st.files path) : Updated H accepts renames backends st
      (runItems H (config backends) [.run [{ args := reloadArgs }]] st') := by
  obtain ⟨hsame, hok⟩ := run_reload hH (config backends) st'
  have hconfig' : configOf (runItems H (config backends) [.run [{ args := reloadArgs }]] st').1 =
      some (config backends) := by
    rw [configOf, hsame]
    exact hconfig
  refine ⟨.inr ⟨hconfig', haccepts, ?_⟩, fun hallows => ?_, fun path h₁ h₂ h₃ => ?_⟩
  · rw [hconfig', Option.map_some, servers_config h]
  · rw [hok, hrest]
    exact hallows.reloads st'.files hconfig
  · rw [hsame]
    exact hfiles path h₁ h₂ h₃

/-- **An update of the backends is atomic.** Whatever fails on the way, the configuration is the old one,
and then the update reports a failure, or it is one that haproxy accepts and that has exactly the new
backends. An update that the machine allows reports success, and no other file is touched. -/
theorem updateBackends_atomic (hH : Runs H accepts renames) (h : ∀ ip ∈ backends, 0x0a ∉ bytes ip)
    (st : State σ) :
    ∃ r, updateBackends H backends st = some r ∧ Updated H accepts renames backends st r := by
  have hset : runAnd H (config backends) [[.run [{ args := [bytes "set", bytes "-e"] }]]] st =
      (st, true) := by
    rw [runAnd, runItems_command (hH.set _ _ st.files).1 (hH.set [] _ _).2]
    rfl
  refine ⟨_, by rw [updateBackends, runLine, andLists_updateCommand, Option.map_some,
    runLists_strict hset], ?_⟩
  simp only [runAnd, Outcome.next_done]
  rw [run_stage hH]
  by_cases hstage : H.opens st.rest stagedPath = true
  · rw [if_pos hstage, Outcome.next_true]
    have hstaged : (st.write stagedPath (config backends)).files stagedPath = some (config backends) := by
      simp [State.write]
    obtain ⟨output, hcheck⟩ := run_check hH (config backends) hstaged
    rw [hcheck, show (st.write stagedPath (config backends)).rest = st.rest from rfl]
    by_cases hnull : H.opens st.rest devNull = true
    · rw [if_pos hnull]
      by_cases haccepts : accepts st.rest (config backends) = true
      · have hstaged' : ((st.write stagedPath (config backends)).write devNull output).files stagedPath =
            some (config backends) := by
          simp [State.write, devNull_ne_stagedPath.symm]
        rw [if_pos haccepts, Outcome.next_true, run_move hH (config backends) hstaged',
          show ((st.write stagedPath (config backends)).write devNull output).rest = st.rest from rfl]
        by_cases hrenames : renames st.rest = true
        · rw [if_pos hrenames, Outcome.next_true]
          refine .reloaded hH h haccepts rfl (by simp [configOf]) fun path h₁ h₂ h₃ => ?_
          simp [State.write, h₁, h₂, h₃]
        · rw [if_neg hrenames, Outcome.next_false]
          refine .stopped (fun hallows => hrenames hallows.renames) fun path h₂ h₃ => ?_
          simp [State.write, h₂, h₃]
      · rw [if_neg haccepts, Outcome.next_false]
        refine .stopped (fun hallows => haccepts hallows.accepts) fun path h₂ h₃ => ?_
        simp [State.write, h₂, h₃]
    · rw [if_neg hnull, Outcome.next_false]
      refine .stopped (fun hallows => hnull hallows.output) fun path h₂ _ => ?_
      simp [State.write, h₂]
  · rw [if_neg hstage, Outcome.next_false]
    exact .stopped (fun hallows => hstage hallows.stage) fun _ _ _ => rfl

end

/-- A machine on which everything works, and a haproxy that rejects only an empty configuration. -/
def sampleHost : Host Unit where
  exec args input rest := some (if args = [bytes "cat"] then input else [], rest)
  opens _ _ := true
  changes args _ files :=
    if args = checkArgs then if (files stagedPath).getD [] ≠ [] then some files else none
    else if args = moveArgs then (files stagedPath).map fun content =>
      Function.update (Function.update files stagedPath none) configPath (some content)
    else some files

theorem sampleHost_runs : Runs sampleHost (fun _ text => decide (text ≠ [])) (fun _ => true) where
  set input rest files := by
    have hne : [bytes "set", bytes "-e"] ≠ checkArgs ∧ [bytes "set", bytes "-e"] ≠ moveArgs ∧
        [bytes "set", bytes "-e"] ≠ [bytes "cat"] := by decide +kernel
    simp [sampleHost, hne]
  cat input rest files := by
    have hne : [bytes "cat"] ≠ checkArgs ∧ [bytes "cat"] ≠ moveArgs := by decide +kernel
    simp [sampleHost, hne]
  checkExec _ _ := ⟨_, rfl⟩
  check rest files := by simp [sampleHost]
  moveExec _ _ := ⟨_, rfl⟩
  move rest files := by
    have hne : moveArgs ≠ checkArgs := by decide +kernel
    simp [sampleHost, hne]
  reload rest files files' h := by
    have hne : reloadArgs ≠ checkArgs ∧ reloadArgs ≠ moveArgs := by decide +kernel
    simpa [sampleHost, hne] using h.symm

end VerdaCapi.Haproxy
