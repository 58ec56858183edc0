import VerdaCapi.Bootstrap.CloudConfig

/-!
# The startup script of a machine

Reference: `internal/bootstrap/cloudconfig.go`: `ToStartupScript`, the sections it writes besides
`write_files`, and `fit`. Reading YAML, compressing, and the table of printable characters are those of the
libraries, so they are parameters (`Libraries`).

`toStartupScript_usable_iff`: what is handed to Verda starts with `#!` and is within its limit, except that
a shell script is passed through as it came. Only a trimmed copy of it was looked at.
-/

namespace VerdaCapi.Bootstrap

open Go

/-! ## The configuration -/

/-- A `bootcmd` or `runcmd` entry as it stands in the JSON form of the document. -/
inductive CommandEntry where
  | null
  | text (s : Bytes)
  /-- A list of strings; `null` may stand for one. -/
  | list (args : List (Option Bytes))
  /-- Anything else, lists with other elements included. -/
  | other
deriving DecidableEq

/-- `command.UnmarshalJSON`; `null` leaves the string it is read into empty. -/
def CommandEntry.unmarshal : CommandEntry → Option (List Bytes)
  | .null => some [[]]
  | .text s => some [s]
  | .list args => some (args.map (·.getD []))
  | .other => none

/-- `command.shell`. -/
def commandShell (c : List Bytes) : Bytes :=
  if c.length = 1 then c.headD [] else [0x20].intercalate (c.map shellQuote)

/-- `user`. -/
structure User where
  name : Bytes := []
  gecos : Bytes := []
  groups : Bytes := []
  homeDir : Bytes := []
  inactive : Bool := false
  shell : Bytes := []
  passwd : Bytes := []
  primaryGroup : Bytes := []
  lockPassword : Option Bool := none
  sudo_ : Bytes := []
  sshAuthorizedKeys : List Bytes := []
deriving DecidableEq

/-- `ntp`. -/
structure Ntp where
  enabled : Option Bool := none
  servers : List Bytes := []
deriving DecidableEq

/-- `cloudConfig`. -/
structure CloudConfig where
  bootCmd : List (List Bytes) := []
  writeFiles : List WriteFile := []
  runCmd : List (List Bytes) := []
  users : List User := []
  ntp : Option Ntp := none
deriving DecidableEq

/-- `knownKeys`. -/
def knownKeys : List String := ["bootcmd", "write_files", "runcmd", "users", "ntp"]

/-- What `ToStartupScript` takes from other packages. -/
structure Libraries where
  /-- The top-level keys of a document. -/
  keys : Bytes → Except String (List String)
  config : Bytes → Except String CloudConfig
  gzip : Bytes → Except String Bytes
  /-- `strconv.IsPrint`. -/
  isPrint : Char → Bool

/-! ## The sections -/

/-- `LogPath`. -/
def logPath : String := "/var/log/capi-bootstrap.log"

/-- The first lines. -/
def preamble : Bytes :=
  bytes "#!/bin/bash\n" ++
  bytes "# Generated by cluster-api-provider-verda from Cluster API bootstrap data. Do not edit.\n" ++
  bytes "set -euo pipefail\n" ++
  bytes ("exec > >(tee -a " ++ logPath ++ ") 2>&1\n") ++
  bytes "echo \"[capi-bootstrap] starting $(date -Is)\"\n"

/-- The warning about a key that is not supported. -/
def keyWarning (isPrint : Char → Bool) (key : String) : Bytes :=
  bytes "echo \"[capi-bootstrap] warning: cloud-config key " ++ bytes (quoteWith isPrint key) ++
    bytes " is not supported on Verda and was ignored\"\n"

/-- The `bootcmd` or the `runcmd` section. -/
def commandsSection (title : String) (commands : List (List Bytes)) : Bytes :=
  if commands = [] then []
  else bytes ("\n# " ++ title ++ "\n") ++ commands.flatMap fun c => commandShell c ++ [0x0a]

/-- An option of `useradd`, if the setting is there. -/
def userOption (option : String) (setting value : Bytes) : Bytes :=
  if setting = [] then [] else bytes (" " ++ option ++ " ") ++ shellQuote value

/-- The options of `useradd`. -/
def userOptions (u : User) : Bytes :=
  bytes "--create-home" ++
  userOption "--comment" u.gecos u.gecos ++
  userOption "--home-dir" u.homeDir u.homeDir ++
  userOption "--shell" u.shell u.shell ++
  userOption "--gid" u.primaryGroup u.primaryGroup ++
  userOption "--groups" u.groups (replaceAll u.groups (bytes " ") []) ++
  (if u.inactive then bytes " --expiredate 1" else [])

/-- The lines that give a user keys. -/
def userKeys (name : Bytes) (keys : List Bytes) : Bytes :=
  let home := bytes "\"$(getent passwd " ++ name ++ bytes " | cut -d: -f6)\""
  bytes "install -d -m 0700 -o " ++ name ++ bytes " -g " ++ name ++ bytes " " ++ home ++ bytes "/.ssh\n" ++
  (keys.flatMap fun key =>
    bytes "echo " ++ shellQuote key ++ bytes " >> " ++ home ++ bytes "/.ssh/authorized_keys\n") ++
  bytes "chown " ++ name ++ bytes ":" ++ name ++ bytes " " ++ home ++
    bytes "/.ssh/authorized_keys && chmod 0600 " ++ home ++ bytes "/.ssh/authorized_keys\n"

/-- The line that lets a user run `sudo`. The name stands in the path as it is. -/
def userSudo (u : User) : Bytes :=
  bytes "install -d -m 0750 /etc/sudoers.d && echo " ++ shellQuote (u.name ++ bytes " " ++ u.sudo_) ++
    bytes " > /etc/sudoers.d/90-capi-" ++ u.name ++ bytes " && chmod 0440 /etc/sudoers.d/90-capi-" ++
    u.name ++ bytes "\n"

/-- `userScript`. -/
def userScript (u : User) : Bytes :=
  if u.name = [] then []
  else
    let name := shellQuote u.name
    (if u.primaryGroup = [] then []
      else bytes "getent group " ++ shellQuote u.primaryGroup ++ bytes " >/dev/null || groupadd " ++
        shellQuote u.primaryGroup ++ bytes "\n") ++
    (bytes "id -u " ++ name ++ bytes " >/dev/null 2>&1 || useradd " ++ userOptions u ++ bytes " " ++ name ++
      bytes "\n") ++
    (if u.passwd = [] then []
      else bytes "usermod --password " ++ shellQuote u.passwd ++ bytes " " ++ name ++ bytes "\n") ++
    (if u.lockPassword = some true then bytes "passwd -l " ++ name ++ bytes " >/dev/null\n" else []) ++
    (if u.sudo_ = [] then [] else userSudo u) ++
    (if u.sshAuthorizedKeys = [] then [] else userKeys name u.sshAuthorizedKeys)

/-- The `users` section. -/
def usersSection (users : List User) : Bytes :=
  if users = [] then [] else bytes "\n# users\n" ++ users.flatMap userScript

/-- `ntpScript`. -/
def ntpScript (n : Ntp) : Bytes :=
  if n.servers = [] then []
  else
    bytes "if command -v chronyd >/dev/null 2>&1; then\n" ++
    bytes "  install -d /etc/chrony/sources.d\n" ++
    bytes "  : > /etc/chrony/sources.d/capi.sources\n" ++
    (n.servers.flatMap fun srv =>
      bytes "  echo " ++ shellQuote (bytes "server " ++ srv ++ bytes " iburst") ++
        bytes " >> /etc/chrony/sources.d/capi.sources\n") ++
    bytes "  systemctl restart chrony 2>/dev/null || systemctl restart chronyd 2>/dev/null || true\n" ++
    bytes "fi\n"

/-- The `ntp` section. -/
def ntpSection : Option Ntp → Bytes
  | none => []
  | some n => if n.enabled = some false then [] else bytes "\n# ntp\n" ++ ntpScript n

/-- The last lines. -/
def epilogue : Bytes := bytes "\necho \"[capi-bootstrap] finished $(date -Is)\"\n"

/-- The keys that are not supported, in order. -/
def unsupportedKeys (keys : List String) : List String :=
  (keys.filter fun key => !knownKeys.contains key).mergeSort fun a b => decide (a ≤ b)

/-- The script before it is made to fit; `unsupported` are the keys it warns about. -/
def scriptText (isPrint : Char → Bool) (unsupported : List String) (cfg : CloudConfig) :
    Except WriteFileErr Bytes :=
  match writeFilesSection cfg.writeFiles with
  | .error e => .error e
  | .ok files =>
    .ok (preamble ++ unsupported.flatMap (keyWarning isPrint) ++ commandsSection "bootcmd" cfg.bootCmd ++
      files ++ usersSection cfg.users ++ ntpSection cfg.ntp ++ commandsSection "runcmd" cfg.runCmd ++
      epilogue)

/-! ## ToStartupScript -/

/-- `MaxScriptSize`. -/
def maxScriptSize : Nat := 48 * 1024

/-- `compressThreshold`. -/
def compressThreshold : Nat := 24 * 1024

/-- The errors of `ToStartupScript`, by their format. -/
inductive ScriptErr where
  /-- `"bootstrap data is neither a shell script nor #cloud-config; ..."` -/
  | notSupported
  /-- `"parsing cloud-config: %w"` -/
  | parsing (message : String)
  | writeFile (e : WriteFileErr)
  | gzip (message : String)
  /-- `"%w: %d bytes after compression; reduce KubeadmConfig files"` -/
  | tooLarge (size : Nat)
deriving DecidableEq

/-- The script that unpacks a compressed one. -/
def unpackScript (compressed : Bytes) : Bytes :=
  bytes "#!/bin/bash\n" ++
  bytes "# Generated by cluster-api-provider-verda. The bootstrap script is gzip-compressed below\n" ++
  bytes "# and unpacked to /run/capi-bootstrap.sh before running.\n" ++
  bytes "set -euo pipefail\n" ++
  bytes "base64 -d <<'__CAPI_GZ__' | gunzip > /run/capi-bootstrap.sh\n" ++
  wrapBase64 (Base64.encode compressed) ++
  bytes "__CAPI_GZ__\n" ++
  bytes "chmod 0700 /run/capi-bootstrap.sh\n" ++
  bytes "exec /run/capi-bootstrap.sh\n"

/-- `fit`. -/
def fit (gzip : Bytes → Except String Bytes) (script : Bytes) : Except ScriptErr Bytes :=
  if script.length ≤ compressThreshold then .ok script
  else
    match gzip script with
    | .error m => .error (.gzip m)
    | .ok compressed =>
      let out := unpackScript compressed
      if out.length > maxScriptSize then .error (.tooLarge out.length) else .ok out

/-- `bytes.SplitN` at newlines: the last of the `n` parts is the rest. -/
def splitLines : Nat → Bytes → List Bytes
  | 0, _ => []
  | 1, s => [s]
  | n + 2, s =>
    if 0x0a ∈ s then s.takeWhile (· != 0x0a) :: splitLines (n + 1) (s.dropWhile (· != 0x0a)).tail else [s]

/-- `isCloudConfig`. -/
def isCloudConfig (data : Bytes) : Bool :=
  (splitLines 4 data).any fun line => trimSpace line == bytes "#cloud-config"

/-- `Result`. -/
structure ScriptResult where
  script : Bytes
  unsupported : List String := []
deriving DecidableEq

/-- `ToStartupScript`. -/
def toStartupScript (lib : Libraries) (data : Bytes) (hostname : String) :
    Except ScriptErr ScriptResult :=
  let data := resolveHostname data hostname
  let trimmed := trimSpace data
  if (bytes "#!").isPrefixOf trimmed then .ok { script := data }
  else if !isCloudConfig trimmed then .error .notSupported
  else
    match lib.keys trimmed, lib.config trimmed with
    | .error m, _ => .error (.parsing m)
    | .ok _, .error m => .error (.parsing m)
    | .ok keys, .ok cfg =>
      match scriptText lib.isPrint (unsupportedKeys keys) cfg with
      | .error e => .error (.writeFile e)
      | .ok text =>
        match fit lib.gzip text with
        | .error e => .error e
        | .ok script => .ok { script := script, unsupported := unsupportedKeys keys }

/-! ## What is handed to Verda -/

/-- The script can be run and is within the limit. -/
structure Usable (script : Bytes) : Prop where
  shebang : bytes "#!" <+: script
  fits : script.length ≤ maxScriptSize

/-- The data is taken for a shell script. -/
def isShellScript (data : Bytes) : Prop := bytes "#!" <+: trimSpace data

instance (data : Bytes) : Decidable (isShellScript data) := inferInstanceAs (Decidable (_ <+: _))

section

variable {lib : Libraries} {data : Bytes} {hostname : String} {script : Bytes} {r : ScriptResult}

/-- No space starts with `#`. -/
theorem trimFront_shebang (h : bytes "#!" <+: data) : trimFront spaces 0 data = data := by
  obtain ⟨rest, rfl⟩ := h
  refine trimFront_eq_self fun w hw => ?_
  have hall : ∀ w ∈ spaces, w ≠ [] ∧ w.head? ≠ some 0x23 := by decide
  obtain ⟨hne, hhead⟩ := hall w hw
  cases w with
  | nil => exact absurd rfl hne
  | cons b w =>
    have hb : b ≠ 0x23 := fun hb => hhead (by rw [hb]; rfl)
    show (b == 0x23 && _) = false
    simp [hb]

/-- A shell script starts with `#!` itself if and only if it has no leading space. -/
theorem shebang_iff (h : isShellScript data) : bytes "#!" <+: data ↔ trimFront spaces 0 data = data := by
  refine ⟨trimFront_shebang, fun htrim => ?_⟩
  have hprefix := h.trans (trimSpace_isPrefix data)
  rwa [htrim] at hprefix

/-- A generated script is usable if it fits. -/
theorem fit_usable (hshebang : bytes "#!" <+: script) {out : Bytes} (h : fit lib.gzip script = .ok out) :
    Usable out := by
  unfold fit at h
  split at h
  · rename_i hshort
    cases h
    exact ⟨hshebang, hshort.trans (by decide)⟩
  · split at h
    · cases h
    · rename_i compressed hgzip
      dsimp only at h
      split at h
      · cases h
      · rename_i hfits
        cases h
        refine ⟨?_, Nat.not_lt.1 hfits⟩
        unfold unpackScript
        simp only [List.append_assoc]
        exact (by decide : bytes "#!" <+: bytes "#!/bin/bash\n").trans (List.prefix_append _ _)

theorem scriptText_shebang {isPrint : Char → Bool} {unsupported : List String} {cfg : CloudConfig}
    (h : scriptText isPrint unsupported cfg = .ok script) : bytes "#!" <+: script := by
  unfold scriptText at h
  split at h
  · cases h
  · cases h
    simp only [preamble, List.append_assoc]
    exact (by decide : bytes "#!" <+: bytes "#!/bin/bash\n").trans (List.prefix_append _ _)

/-- The two paths: a shell script is passed through, and a generated one was made to fit. -/
theorem toStartupScript_cases (h : toStartupScript lib data hostname = .ok r) :
    (isShellScript (resolveHostname data hostname) ∧ r.script = resolveHostname data hostname) ∨
    (¬ isShellScript (resolveHostname data hostname) ∧ Usable r.script) := by
  unfold toStartupScript at h
  dsimp only at h
  split at h
  · rename_i hshell
    cases h
    exact .inl ⟨List.isPrefixOf_iff_prefix.1 hshell, rfl⟩
  · rename_i hshell
    refine .inr ⟨fun hs => hshell (List.isPrefixOf_iff_prefix.2 hs), ?_⟩
    split at h
    · cases h
    · split at h
      · cases h
      · cases h
      · split at h
        · cases h
        · rename_i text htext
          split at h
          · cases h
          · rename_i out hfit
            cases h
            exact fit_usable (scriptText_shebang htext) hfit

/-- **Every script handed to Verda.** It can be run and is within the limit, if and only if data that is a
shell script has no space before its `#!` and is within the limit itself. -/
theorem toStartupScript_usable_iff (h : toStartupScript lib data hostname = .ok r) :
    Usable r.script ↔ (isShellScript (resolveHostname data hostname) →
      trimFront spaces 0 (resolveHostname data hostname) = resolveHostname data hostname ∧
      (resolveHostname data hostname).length ≤ maxScriptSize) := by
  rcases toStartupScript_cases h with ⟨hshell, hscript⟩ | ⟨hshell, husable⟩
  · rw [hscript, ← shebang_iff hshell]
    exact ⟨fun hu _ => ⟨hu.shebang, hu.fits⟩, fun hu => ⟨(hu hshell).1, (hu hshell).2⟩⟩
  · exact ⟨fun _ hs => absurd hs hshell, fun _ => husable⟩

end

/-! ## Two scripts that are passed through -/

/-- Libraries that are not asked. -/
def noLibraries : Libraries where
  keys _ := .error "no YAML"
  config _ := .error "no YAML"
  gzip _ := .error "no gzip"
  isPrint _ := false

/-- A script that starts with `#!` and is short is passed through, and can be used. -/
theorem toStartupScript_usable_sample : Usable (bytes "#!/bin/sh\n") := by
  have h : toStartupScript noLibraries (bytes "#!/bin/sh\n") "m0" = .ok { script := bytes "#!/bin/sh\n" } := by
    decide +kernel
  exact (toStartupScript_usable_iff h).2 fun _ => by decide +kernel

/-- With an empty line before it, a script is accepted and does not start with `#!`. -/
theorem toStartupScript_unusable :
    toStartupScript noLibraries (bytes "\n#!/bin/sh\n") "m0" = .ok { script := bytes "\n#!/bin/sh\n" } ∧
    ¬ bytes "#!" <+: bytes "\n#!/bin/sh\n" := by
  constructor <;> decide +kernel

end VerdaCapi.Bootstrap
