import VerdaCapi.Bootstrap.Commands
import VerdaCapi.Shell.Compose

/-!
# What a cloud-config becomes

`ToStartupScript` translates a cloud-config into shell text. Here is what the cloud-config means on its
own, without a script: its `bootcmd` entries run, its files are installed, its `runcmd` entries run, all
in order and up to the first failure. `scriptText_meaning` says that the translation keeps this meaning,
on every machine (`Host`): every program may fail or change files as it likes, and every file may turn out
not to be writable. Only `base64` has to work.

A list entry runs its arguments as they are. A text entry is shell text of its own; it has to be complete,
since an open quote would swallow what follows. Only text entries in the fragment of `Shell.parse` are
covered: plain words, single quotes and backslashes, pipelines, `>` and `>>`, here-documents with a quoted
delimiter, and comments. A text with `;`, `&&`, `$`, double quotes, `=`, `~` or braces outside quotes does
not meet `Translates`, and nothing is said about a cloud-config that has one. The `users` and `ntp` sections
use more of the shell than this fragment too.
-/

namespace VerdaCapi.Bootstrap

open Go Shell

variable {σ : Type} {H : Host σ} {stdin : Bytes} {st : State σ}

/-! ## The meaning -/

/-- Run a `bootcmd` or `runcmd` entry. -/
def runEntry (H : Host σ) (stdin : Bytes) : List Bytes → State σ → Outcome σ
  | [], st => (st, true)
  | [text], st => run H stdin (text ++ [newline]) st
  | args, st => runProgram H stdin args st

/-- Write a text to a file, if it can be opened. -/
def writeTo (H : Host σ) (append : Bool) (path content : Bytes) (st : State σ) : Outcome σ :=
  if H.opens st.rest path then
    (st.write path ((if append then st.content path else []) ++ content), true)
  else (st, false)

/-- Run a program on a path, if there is something to set. -/
def applySetting (H : Host σ) (stdin program setting path : Bytes) (st : State σ) : Outcome σ :=
  if setting = [] then (st, true) else runProgram H stdin [program, setting, path] st

/-- Install a `write_files` entry that is not compressed. -/
def installFile (H : Host σ) (stdin : Bytes) (f : WriteFile) (st : State σ) : Outcome σ :=
  match decoded (fun _ => none) f with
  | none => (st, false)
  | some content =>
    (runProgram H stdin [bytes "mkdir", bytes "-p", pathDir f.path] st).next fun st =>
      (writeTo H f.append f.path content st).next fun st =>
        (applySetting H stdin (bytes "chmod") f.permissions f.path st).next
          (applySetting H stdin (bytes "chown") f.owner f.path)

/-- A cloud-config without users and time servers. -/
def CloudConfig.meaning (H : Host σ) (stdin : Bytes) (cfg : CloudConfig) (st : State σ) : Outcome σ :=
  (each (runEntry H stdin) cfg.bootCmd st).next fun st =>
    (each (installFile H stdin) cfg.writeFiles st).next (each (runEntry H stdin) cfg.runCmd)

/-! ## Commands -/

/-- An entry that can be translated by itself: a text in the fragment of `Shell.parse` that is complete, or
arguments a program can have. -/
def Translates : List Bytes → Prop
  | [text] => Closed (text ++ [newline])
  | args => ∀ a ∈ args, 0 ∉ a

/-- The commands of an entry. -/
def commandItems : List Bytes → List Item
  | [] => []
  | [text] => parse (.code {}) (text ++ [newline])
  | args => [.run [{ args := args }]]

theorem reads_commandShell {c : List Bytes} (h : Translates c) :
    Reads (commandShell c ++ [newline]) (commandItems c) := by
  match c, h with
  | [], _ => exact fun _ => rfl
  | [text], h => exact h.reads
  | a :: b :: args, h =>
    have hquoted : commandShell (a :: b :: args) = quoteAll (a :: b :: args) :=
      commandShell_quoted (by simp)
    rw [hquoted]
    exact reads_quoteAll (by simp) h

theorem runItems_commandItems (c : List Bytes) (st : State σ) :
    runItems H stdin (commandItems c) st = runEntry H stdin c st := by
  match c with
  | [] => rfl
  | [text] => rfl
  | a :: b :: args => exact runItems_program _

/-- The heading of a section is a comment. -/
theorem reads_heading (title : String) (htitle : newline ∉ bytes title) (hnul : 0 ∉ bytes title) :
    Reads (bytes ("\n# " ++ title ++ "\n")) [] := by
  intro t
  have htext : bytes ("\n# " ++ title ++ "\n") ++ t =
      newline :: (0x23 :: ((0x20 :: bytes title) ++ newline :: t)) := by
    rw [bytes_append, bytes_append]
    simp only [List.append_assoc]
    rfl
  rw [htext, parse_newline rfl, parse_comment (by simpa using ⟨by decide, htitle⟩)
    (by simpa using hnul)]
  rfl

theorem reads_commandsSection {title : String} (htitle : newline ∉ bytes title)
    (hnul : 0 ∉ bytes title) {commands : List (List Bytes)} (h : ∀ c ∈ commands, Translates c) :
    Reads (commandsSection title commands) (commands.flatMap commandItems) := by
  unfold commandsSection
  split
  · rename_i hnone
    rw [hnone]
    exact .nil
  · exact (reads_heading title htitle hnul).append (.flatMap fun c hc => reads_commandShell (h c hc))

/-! ## Files -/

/-- `base64 -d` decodes its input and leaves everything else alone. -/
structure Decodes (H : Host σ) : Prop where
  exec : ∀ text rest, H.exec [bytes "base64", bytes "-d"] text rest =
    (Base64.decodeText text).map fun out => (out, rest)
  changes : ∀ rest files, H.changes [bytes "base64", bytes "-d"] rest files = some files

theorem runItems_decoder (hH : Decodes H) {f : WriteFile} (hgzip : isGzip f.encoding = false)
    (content : Bytes) : runItems H stdin [.run (decoder f (wrapBase64 (Base64.encode content)))] st =
      writeTo H f.append f.path content st := by
  have hexec : H.exec [bytes "base64", bytes "-d"] (wrapBase64 (Base64.encode content)) st.rest =
      some (content, st.rest) := by
    rw [hH.exec, decodeText_wrapBase64]
    rfl
  have hdecoder : decoder f (wrapBase64 (Base64.encode content)) =
      [{ args := [bytes "base64", bytes "-d"]
         redirs := [redirTo f.append f.path, .doc (wrapBase64 (Base64.encode content))] }] := by
    simp [decoder, hgzip]
  unfold writeTo
  simp only [hdecoder, runItems, Outcome.next_done, runPipeline]
  split
  · rename_i hopens
    rw [runSimple_doc hopens hexec (hH.changes st.rest)]
    rfl
  · -- the file cannot be opened, so that nothing runs
    rename_i hopens
    have hfails : redirect H [redirTo f.append f.path, .doc (wrapBase64 (Base64.encode content))]
        { state := st, stdin := stdin } = ({ state := st, stdin := stdin }, false) := by
      cases f.append <;> simp [redirTo, redirect, hopens]
    simp only [runSimple, hfails]
    rfl

theorem runItems_optionalItem (program setting path : Bytes) :
    runItems H stdin (optionalItem program setting path) =
      applySetting H stdin program setting path := by
  funext st
  unfold optionalItem applySetting
  split
  · rfl
  · exact runItems_program _

theorem runItems_entryItems (hH : Decodes H) {f : WriteFile} {content : Bytes}
    (hgzip : isGzip f.encoding = false) (hcontent : decoded (fun _ => none) f = some content) :
    runItems H stdin (entryItems f content) st = installFile H stdin f st := by
  unfold entryItems installFile
  simp only [hcontent, runItems_append, runItems_program, Outcome.next_assoc, runItems_decoder hH hgzip,
    runItems_optionalItem]

/-- The entries of the section from an index on. -/
theorem writeEntries_meaning (hH : Decodes H) {files : List WriteFile}
    (hfiles : ∀ f ∈ files, NoNul f ∧ isGzip f.encoding = false) {idx : Nat} {text : Bytes}
    (h : writeEntries idx files = .ok text) : ∃ items, Reads text items ∧
      ∀ stdin st, runItems H stdin items st = each (installFile H stdin) files st := by
  induction files generalizing idx text with
  | nil =>
    cases h
    exact ⟨[], .nil, fun _ _ => rfl⟩
  | cons f fs ih =>
    obtain ⟨hnul, hgzip⟩ := hfiles f List.mem_cons_self
    simp only [writeEntries] at h
    split at h
    · cases h
    · rename_i entry hentry
      split at h
      · cases h
      · rename_i rest hrest
        cases h
        obtain ⟨items, hreads, hrun⟩ := ih (fun g hg => hfiles g (List.mem_cons_of_mem f hg)) hrest
        obtain ⟨content, hdecode, -⟩ := parse_writeFileScript (s := []) hnul hentry
        have hentryReads : Reads entry (entryItems f content) := by
          intro t
          obtain ⟨content', hdecode', hparse⟩ := parse_writeFileScript (s := t) hnul hentry
          rw [hdecode] at hdecode'
          cases hdecode'
          exact hparse
        refine ⟨entryItems f content ++ items, hentryReads.append hreads, fun stdin st => ?_⟩
        rw [runItems_append, each,
          runItems_entryItems hH hgzip (decoded_of_not_gzip (fun _ => none) hdecode hgzip)]
        congr 1
        funext st'
        exact hrun stdin st'

theorem writeFilesSection_meaning (hH : Decodes H) {files : List WriteFile}
    (hfiles : ∀ f ∈ files, NoNul f ∧ isGzip f.encoding = false) {text : Bytes}
    (h : writeFilesSection files = .ok text) : ∃ items, Reads text items ∧
      ∀ stdin st, runItems H stdin items st = each (installFile H stdin) files st := by
  unfold writeFilesSection at h
  split at h
  · rename_i hnone
    cases h
    rw [hnone]
    exact ⟨[], .nil, fun _ _ => rfl⟩
  · cases hentries : writeEntries 0 files with
    | error e => simp [hentries, Except.map] at h
    | ok entries =>
      simp only [hentries, Except.map, Except.ok.injEq] at h
      obtain ⟨items, hreads, hrun⟩ := writeEntries_meaning hH hfiles hentries
      have hheading : Reads (bytes "\n# write_files\n") [] :=
        reads_heading "write_files" (by decide) (by decide)
      rw [← h]
      exact ⟨items, hheading.append hreads, hrun⟩

/-- Every program but `base64` writes down how it was called. -/
def loggingHost : Host (List (List Bytes)) where
  exec args input log :=
    if args = [bytes "base64", bytes "-d"] then (Base64.decodeText input).map fun out => (out, log)
    else some ([], log ++ [args])
  opens _ _ := true

theorem loggingHost_decodes : Decodes loggingHost where
  exec text rest := by simp [loggingHost]
  changes _ _ := rfl

/-- A list entry with a blank in an argument, a file and a text entry. -/
def sampleConfig : CloudConfig where
  bootCmd := [[bytes "modprobe", bytes "br netfilter"]]
  writeFiles := [{ path := bytes "/run/kubeadm.yaml", content := bytes "kind: X\n" }]
  runCmd := [[bytes "kubeadm join --config /run/kubeadm.yaml"]]

-- `&&` is outside the fragment
example : ¬ Translates [bytes "a && b"] := fun h => nomatch (show Mode.stuck = .code {} from h.start)

end VerdaCapi.Bootstrap
