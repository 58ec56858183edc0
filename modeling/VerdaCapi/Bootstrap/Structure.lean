import VerdaCapi.Bootstrap.StartupScript
import VerdaCapi.Bootstrap.WriteFiles
import VerdaCapi.Shell.Outline
import Mathlib.Data.List.Forall2
import Mathlib.Data.List.Nodup

/-!
# What contributes shell syntax

The texts of a cloud-config stand in quotes in the script, except those of commands, the names of keys that
are not supported, and the name of a user that gets `sudo`. `outline_fixed_iff`: without the last two, the
command structure of the script is the same for all texts; with one of them it is not.
-/

namespace VerdaCapi.Bootstrap

open Go Shell

/-! ## Configurations with the same fields -/

/-- The same fields of an entry are set. What is written, and how, is the same. -/
structure SameFile (f f' : WriteFile) : Prop where
  path : f'.path = [] ↔ f.path = []
  content : f'.content = f.content
  encoding : f'.encoding = f.encoding
  owner : f'.owner = [] ↔ f.owner = []
  permissions : f'.permissions = [] ↔ f.permissions = []
  append : f'.append = f.append

/-- The same fields of a user are set. -/
structure SameUser (u u' : User) : Prop where
  name : u'.name = [] ↔ u.name = []
  gecos : u'.gecos = [] ↔ u.gecos = []
  groups : u'.groups = [] ↔ u.groups = []
  homeDir : u'.homeDir = [] ↔ u.homeDir = []
  inactive : u'.inactive = u.inactive
  shell : u'.shell = [] ↔ u.shell = []
  passwd : u'.passwd = [] ↔ u.passwd = []
  primaryGroup : u'.primaryGroup = [] ↔ u.primaryGroup = []
  lockPassword : u'.lockPassword = u.lockPassword
  sudo_ : u'.sudo_ = [] ↔ u.sudo_ = []
  sshAuthorizedKeys : u'.sshAuthorizedKeys.length = u.sshAuthorizedKeys.length

/-- As many servers. -/
structure SameNtp (n n' : Ntp) : Prop where
  enabled : n'.enabled = n.enabled
  servers : n'.servers.length = n.servers.length

structure SameFields (cfg cfg' : CloudConfig) : Prop where
  files : List.Forall₂ SameFile cfg.writeFiles cfg'.writeFiles
  users : List.Forall₂ SameUser cfg.users cfg'.users
  ntp : Option.Rel SameNtp cfg.ntp cfg'.ntp

theorem SameFile.refl (f : WriteFile) : SameFile f f := ⟨.rfl, rfl, rfl, .rfl, .rfl, rfl⟩

theorem SameUser.refl (u : User) : SameUser u u :=
  ⟨.rfl, .rfl, .rfl, .rfl, rfl, .rfl, .rfl, .rfl, rfl, .rfl, rfl⟩

theorem SameFields.refl (cfg : CloudConfig) : SameFields cfg cfg := by
  refine ⟨List.forall₂_same.2 fun f _ => .refl f, List.forall₂_same.2 fun u _ => .refl u, ?_⟩
  cases cfg.ntp with
  | none => exact .none
  | some n => exact .some ⟨rfl, rfl⟩

/-- The outline of the script without its `bootcmd` and `runcmd` sections. -/
def outline (isPrint : Char → Bool) (keys : List String) (cfg : CloudConfig) :
    Except WriteFileErr (List Part) :=
  (scriptText isPrint (unsupportedKeys keys) { cfg with bootCmd := [], runCmd := [] }).map
    fun script => (scan {} script).1

/-! ## write_files -/

/-- Where the scanner is in the target of a redirection. -/
def inTarget : Scanner := ⟨{ inWord := true }, { start := false, target := true, word := some [] }, []⟩

/-- The rest of a line that writes a file, with its here-document. -/
theorem scan_heredoc {d body : Bytes} {c : UInt8} (hc : c ∈ d) (hd : newline ∉ d) (hd0 : 0 ∉ d)
    (hquote : quoteMark ∉ d) (hbody : c ∉ body) :
    (scan inTarget (bytes " <<'" ++ d ++ bytes "'" ++ [0x0a] ++ (body ++ [newline]) ++ (d ++ [newline]))).2 =
      {} := by
  have htext : bytes " <<'" ++ d ++ bytes "'" ++ [0x0a] ++ (body ++ [newline]) ++ (d ++ [newline]) =
      bytes " <<" ++ (Shell.quote d ++ ([newline] ++ ((body ++ [newline]) ++ (d ++ [newline])))) := by
    have hopen : bytes " <<'" = bytes " <<" ++ [quoteMark] := by decide
    have hclose : bytes "'" = [quoteMark] := by decide
    rw [quote_eq_of_not_mem hquote, hopen, hclose]
    simp [newline]
  have hfirst : (scan inTarget (bytes " <<")).2 =
      ⟨{ here := .want }, { start := false, target := true }, []⟩ := by decide
  have hnul : withoutNul d = d := withoutNul_eq_self hd0
  have hline : (scan ⟨({ here := .want } : Lexer).put d,
      ({ start := false, target := true } : Scope).inArgument, []⟩ [newline]).2 =
      ⟨{ mode := .doc [], pending := [d] }, {}, []⟩ := rfl
  have hlines : lex { mode := .doc [], pending := [d] } (body ++ [newline]) =
      ([], { mode := .doc [], pending := [d] }) :=
    lex_doc_text (q := { pending := [d] }) hc rfl List.not_mem_nil hbody
  have hend : lex { mode := .doc [], pending := [d] } (d ++ [newline]) = ([], {}) :=
    lex_doc_delimiter (q := { pending := [d] }) rfl hd hd0
  rw [htext, scan_append, hfirst, scan_append, scan_quote rfl, hnul, scan_append]
  dsimp only
  rw [hline, scan_append]
  simp only [scan, hlines, hend, scanEvents]

/-- A file is written by a line that is the same but for the path. -/
theorem alike_writeLine (gz append : Bool) (p p' : Bytes) :
    Alike {} ((if gz then bytes "base64 -d | gunzip" else bytes "base64 -d") ++ [0x20] ++
        (if append then bytes ">>" else bytes ">") ++ [0x20] ++ shellQuote p)
      ((if gz then bytes "base64 -d | gunzip" else bytes "base64 -d") ++ [0x20] ++
        (if append then bytes ">>" else bytes ">") ++ [0x20] ++ shellQuote p') inTarget := by
  have hcheck : checks {} [.fixed (if gz then bytes "base64 -d | gunzip" else bytes "base64 -d"),
      .fixed [0x20], .fixed (if append then bytes ">>" else bytes ">"), .fixed [0x20], .hole] =
      some inTarget := by
    cases gz <;> cases append <;> rfl
  simpa [fill, shellQuote_eq] using alike_of_checks hcheck [p] [p']

theorem alike_optionalLine (command : Bytes)
    (hcheck : checks {} [.fixed command, .fixed [0x20], .hole, .fixed [0x20], .hole, .fixed [0x0a]] = some {})
    {setting setting' : Bytes} (h : setting' = [] ↔ setting = []) (p p' : Bytes) :
    Alike {} (optionalLine command setting p) (optionalLine command setting' p') {} := by
  refine .optional h fun _ => ?_
  simpa [fill, shellQuote_eq] using alike_of_checks hcheck [setting, p] [setting', p']

/-- The content depends on neither of them. -/
theorem SameFile.decodeContent_eq {f f' : WriteFile} (h : SameFile f f') {idx : Nat} {content : Bytes}
    (hf : decodeContent idx f = .ok content) : decodeContent idx f' = .ok content := by
  unfold decodeContent at hf ⊢
  rw [h.encoding, h.content]
  dsimp only at hf ⊢
  split at hf
  · rename_i hplain
    rw [if_pos hplain, hf]
  · rename_i hplain
    rw [if_neg hplain]
    split at hf
    · rename_i hbase64
      rw [if_pos hbase64]
      split at hf
      · exact hf
      · cases hf
    · rename_i hbase64
      rw [if_neg hbase64]
      split at hf
      · rename_i hgzip
        rw [if_pos hgzip, hf]
      · cases hf

/-- The text of an entry, line by line. -/
theorem writeFileScript_ok {f : WriteFile} {idx : Nat} {script : Bytes} :
    writeFileScript idx f = .ok script ↔ f.path ≠ [] ∧ ∃ content, decodeContent idx f = .ok content ∧
      script = (bytes "mkdir -p " ++ shellQuote (pathDir f.path) ++ [0x0a]) ++
        ((if isGzip f.encoding then bytes "base64 -d | gunzip" else bytes "base64 -d") ++ [0x20] ++
          (if f.append then bytes ">>" else bytes ">") ++ [0x20] ++ shellQuote f.path) ++
        (bytes " <<'" ++ delimiter idx ++ bytes "'" ++ [0x0a] ++ wrapBase64 (Base64.encode content) ++
          (delimiter idx ++ [0x0a])) ++
        optionalLine (bytes "chmod") f.permissions f.path ++
        optionalLine (bytes "chown") f.owner f.path := by
  unfold writeFileScript
  split
  · rename_i hpath
    simp [hpath]
  · rename_i hpath
    cases decodeContent idx f with
    | error e => simp
    | ok content =>
      simp only [Except.ok.injEq, List.append_assoc, ne_eq, hpath, not_false_eq_true, true_and,
        exists_eq_left']
      exact eq_comm

/-- The here-document of an entry leads back to the start. -/
theorem scan_entryDoc (idx : Nat) (content : Bytes) :
    (scan inTarget (bytes " <<'" ++ delimiter idx ++ bytes "'" ++ [0x0a] ++
      wrapBase64 (Base64.encode content) ++ (delimiter idx ++ [0x0a]))).2 = {} := by
  obtain ⟨body, hbody⟩ := wrapBase64_eq_append (Base64.encode content)
  have hunderscore : (0x5f : UInt8) ∈ delimiter idx := by
    rw [delimiter]
    exact List.mem_append_left _ (List.mem_append_left _ (by decide))
  rw [hbody]
  refine scan_heredoc hunderscore (not_mem_delimiter (by decide)) (not_mem_delimiter (by decide))
    (not_mem_delimiter (by decide)) fun hmem => ?_
  have hin : (0x5f : UInt8) ∈ wrapBase64 (Base64.encode content) := by
    rw [hbody]
    exact List.mem_append_left _ hmem
  rcases mem_body hin with halpha | hnl
  · exact halpha.ne (by decide) (by decide) rfl
  · cases hnl

/-- **An entry** is written by the same commands, whatever its path, mode and owner are. -/
theorem alike_writeFileScript {f f' : WriteFile} (h : SameFile f f') {idx : Nat} {script : Bytes}
    (hf : writeFileScript idx f = .ok script) :
    ∃ script', writeFileScript idx f' = .ok script' ∧ Alike {} script script' {} := by
  obtain ⟨hpath, content, hcontent, rfl⟩ := writeFileScript_ok.1 hf
  refine ⟨_, writeFileScript_ok.2 ⟨fun hp => hpath (h.path.1 hp), content, h.decodeContent_eq hcontent, rfl⟩, ?_⟩
  have hmkdir : checks {} [.fixed (bytes "mkdir -p "), .hole, .fixed [0x0a]] = some {} := rfl
  have hdir : Alike {} (bytes "mkdir -p " ++ shellQuote (pathDir f.path) ++ [0x0a])
      (bytes "mkdir -p " ++ shellQuote (pathDir f'.path) ++ [0x0a]) {} := by
    simpa [fill, shellQuote_eq] using alike_of_checks hmkdir [pathDir f.path] [pathDir f'.path]
  have hwrite := alike_writeLine (isGzip f.encoding) f.append f.path f'.path
  have hchmod := alike_optionalLine (bytes "chmod") rfl h.permissions f.path f'.path
  have hchown := alike_optionalLine (bytes "chown") rfl h.owner f.path f'.path
  rw [h.encoding, h.append]
  exact (((hdir.append hwrite).append (.refl (scan_entryDoc idx content))).append hchmod).append hchown

theorem alike_writeEntries {files files' : List WriteFile} (h : List.Forall₂ SameFile files files')
    {idx : Nat} {script : Bytes} (hf : writeEntries idx files = .ok script) :
    ∃ script', writeEntries idx files' = .ok script' ∧ Alike {} script script' {} := by
  induction h generalizing idx script with
  | nil =>
    cases hf
    exact ⟨[], rfl, .nil {}⟩
  | cons hff _ ih =>
    rw [writeEntries] at hf
    split at hf
    · cases hf
    · rename_i first hfirst
      split at hf
      · cases hf
      · rename_i rest hrest
        cases hf
        obtain ⟨first', hfirst', halike⟩ := alike_writeFileScript hff hfirst
        obtain ⟨rest', hrest', halike'⟩ := ih hrest
        refine ⟨first' ++ rest', ?_, halike.append halike'⟩
        rw [writeEntries, hfirst', hrest']

theorem alike_writeFilesSection {files files' : List WriteFile} (h : List.Forall₂ SameFile files files')
    {script : Bytes} (hf : writeFilesSection files = .ok script) :
    ∃ script', writeFilesSection files' = .ok script' ∧ Alike {} script script' {} := by
  unfold writeFilesSection at hf ⊢
  cases h with
  | nil =>
    cases hf
    exact ⟨[], rfl, .nil {}⟩
  | @cons f f' files files' hff hrest =>
    rw [if_neg (List.cons_ne_nil _ _)] at hf ⊢
    cases hentries : writeEntries 0 (f :: files) with
    | error e =>
      rw [hentries] at hf
      cases hf
    | ok entries =>
      rw [hentries] at hf
      cases hf
      obtain ⟨entries', hentries', halike⟩ := alike_writeEntries (.cons hff hrest) hentries
      refine ⟨bytes "\n# write_files\n" ++ entries', by rw [hentries']; rfl, Alike.append (.refl ?_) halike⟩
      rfl

/-! ## users -/

/-- Where the scanner is in an argument of `useradd`. -/
def inOptions : Scanner := ⟨{ inWord := true }, { start := false, word := some [] }, []⟩

theorem alike_userOption (option : String)
    (hcheck : checks inOptions [.fixed (bytes (" " ++ option ++ " ")), .hole] = some inOptions)
    {setting setting' : Bytes} (h : setting' = [] ↔ setting = []) (value value' : Bytes) :
    Alike inOptions (userOption option setting value) (userOption option setting' value') inOptions := by
  refine .optional h fun _ => ?_
  simpa [fill, shellQuote_eq] using alike_of_checks hcheck [value] [value']

section

variable {u u' : User}

/-- The line that makes a group. -/
def groupLine (u : User) : Bytes :=
  if u.primaryGroup = [] then []
  else bytes "getent group " ++ shellQuote u.primaryGroup ++ bytes " >/dev/null || groupadd " ++
    shellQuote u.primaryGroup ++ bytes "\n"

/-- The line that makes the user. -/
def useraddLine (u : User) : Bytes :=
  bytes "id -u " ++ shellQuote u.name ++ bytes " >/dev/null 2>&1 || useradd " ++ userOptions u ++ bytes " " ++
    shellQuote u.name ++ bytes "\n"

/-- The lines that set and lock the password. -/
def passwordLines (u : User) : Bytes :=
  (if u.passwd = [] then []
    else bytes "usermod --password " ++ shellQuote u.passwd ++ bytes " " ++ shellQuote u.name ++ bytes "\n") ++
  (if u.lockPassword = some true then bytes "passwd -l " ++ shellQuote u.name ++ bytes " >/dev/null\n" else [])

/-- The lines about `sudo` and about keys. -/
def sudoLine (u : User) : Bytes := if u.sudo_ = [] then [] else userSudo u

def keyLines (u : User) : Bytes :=
  if u.sshAuthorizedKeys = [] then [] else userKeys (shellQuote u.name) u.sshAuthorizedKeys

theorem userScript_eq (h : u.name ≠ []) : userScript u =
    groupLine u ++ useraddLine u ++ passwordLines u ++ sudoLine u ++ keyLines u := by
  rw [userScript, if_neg h]
  simp only [groupLine, useraddLine, passwordLines, sudoLine, keyLines, List.append_assoc]

theorem alike_groupLine (h : SameUser u u') : Alike {} (groupLine u) (groupLine u') {} := by
  have hcheck : checks {} [.fixed (bytes "getent group "), .hole,
      .fixed (bytes " >/dev/null || groupadd "), .hole, .fixed (bytes "\n")] = some {} := rfl
  refine .optional h.primaryGroup fun _ => ?_
  simpa [fill, shellQuote_eq] using alike_of_checks hcheck [u.primaryGroup, u.primaryGroup]
    [u'.primaryGroup, u'.primaryGroup]

theorem alike_useraddLine (h : SameUser u u') : Alike {} (useraddLine u) (useraddLine u') {} := by
  have hfirst : checks {} [.fixed (bytes "id -u "), .hole, .fixed (bytes " >/dev/null 2>&1 || useradd "),
      .fixed (bytes "--create-home")] = some inOptions := rfl
  have hlast : checks inOptions [.fixed (bytes " "), .hole, .fixed (bytes "\n")] = some {} := rfl
  have hstart : Alike {} (bytes "id -u " ++ shellQuote u.name ++
      bytes " >/dev/null 2>&1 || useradd " ++ bytes "--create-home")
      (bytes "id -u " ++ shellQuote u'.name ++ bytes " >/dev/null 2>&1 || useradd " ++
        bytes "--create-home") inOptions := by
    simpa [fill, shellQuote_eq] using alike_of_checks hfirst [u.name] [u'.name]
  have hend : Alike inOptions (bytes " " ++ shellQuote u.name ++ bytes "\n")
      (bytes " " ++ shellQuote u'.name ++ bytes "\n") {} := by
    simpa [fill, shellQuote_eq] using alike_of_checks hlast [u.name] [u'.name]
  have hinactive : Alike inOptions (if u.inactive then bytes " --expiredate 1" else [])
      (if u'.inactive then bytes " --expiredate 1" else []) inOptions := by
    rw [h.inactive]
    refine .refl ?_
    cases u.inactive <;> rfl
  have hcomment := alike_userOption "--comment" rfl h.gecos u.gecos u'.gecos
  have hhome := alike_userOption "--home-dir" rfl h.homeDir u.homeDir u'.homeDir
  have hshell := alike_userOption "--shell" rfl h.shell u.shell u'.shell
  have hgid := alike_userOption "--gid" rfl h.primaryGroup u.primaryGroup u'.primaryGroup
  have hgroups := alike_userOption "--groups" rfl h.groups
    (replaceAll u.groups (bytes " ") []) (replaceAll u'.groups (bytes " ") [])
  have htext : ∀ u : User, useraddLine u =
      (bytes "id -u " ++ shellQuote u.name ++ bytes " >/dev/null 2>&1 || useradd " ++
        bytes "--create-home") ++
      userOption "--comment" u.gecos u.gecos ++ userOption "--home-dir" u.homeDir u.homeDir ++
      userOption "--shell" u.shell u.shell ++ userOption "--gid" u.primaryGroup u.primaryGroup ++
      userOption "--groups" u.groups (replaceAll u.groups (bytes " ") []) ++
      (if u.inactive then bytes " --expiredate 1" else []) ++
      (bytes " " ++ shellQuote u.name ++ bytes "\n") := by
    intro u
    simp only [useraddLine, userOptions, List.append_assoc]
  rw [htext, htext]
  exact ((((((hstart.append hcomment).append hhome).append hshell).append hgid).append hgroups).append
    hinactive).append hend

theorem alike_passwordLines (h : SameUser u u') : Alike {} (passwordLines u) (passwordLines u') {} := by
  have hset : checks {} [.fixed (bytes "usermod --password "), .hole, .fixed (bytes " "), .hole,
      .fixed (bytes "\n")] = some {} := rfl
  have hlock : checks {} [.fixed (bytes "passwd -l "), .hole, .fixed (bytes " >/dev/null\n")] = some {} := rfl
  refine (Alike.optional h.passwd fun _ => ?_).append ?_
  · simpa [fill, shellQuote_eq] using alike_of_checks hset [u.passwd, u.name] [u'.passwd, u'.name]
  · rw [h.lockPassword]
    split
    · simpa [fill, shellQuote_eq] using alike_of_checks hlock [u.name] [u'.name]
    · exact .nil _

/-- Lists of the same length, of which any two elements are related. -/
theorem forall₂_of_length {α β : Type} {R : α → β → Prop} {as : List α} {bs : List β}
    (hlength : bs.length = as.length) (h : ∀ a ∈ as, ∀ b ∈ bs, R a b) : List.Forall₂ R as bs := by
  induction as generalizing bs with
  | nil =>
    rw [List.length_nil, List.length_eq_zero_iff] at hlength
    rw [hlength]
    exact .nil
  | cons a as ih =>
    cases bs with
    | nil => cases hlength
    | cons b bs =>
      refine .cons (h a List.mem_cons_self b List.mem_cons_self) (ih (Nat.succ.inj hlength) ?_)
      exact fun a ha b hb => h a (List.mem_cons_of_mem _ ha) b (List.mem_cons_of_mem _ hb)

theorem alike_keyLines (h : SameUser u u') : Alike {} (keyLines u) (keyLines u') {} := by
  have hdir : checks {} [.fixed (bytes "install -d -m 0700 -o "), .hole, .fixed (bytes " -g "), .hole,
      .fixed (bytes " "), .fixed (bytes "\"$(getent passwd "), .hole, .fixed (bytes " | cut -d: -f6)\""),
      .fixed (bytes "/.ssh\n")] = some {} := rfl
  have hkey : checks {} [.fixed (bytes "echo "), .hole, .fixed (bytes " >> "),
      .fixed (bytes "\"$(getent passwd "), .hole, .fixed (bytes " | cut -d: -f6)\""),
      .fixed (bytes "/.ssh/authorized_keys\n")] = some {} := rfl
  have hown : checks {} [.fixed (bytes "chown "), .hole, .fixed (bytes ":"), .hole, .fixed (bytes " "),
      .fixed (bytes "\"$(getent passwd "), .hole, .fixed (bytes " | cut -d: -f6)\""),
      .fixed (bytes "/.ssh/authorized_keys && chmod 0600 "), .fixed (bytes "\"$(getent passwd "), .hole,
      .fixed (bytes " | cut -d: -f6)\""), .fixed (bytes "/.ssh/authorized_keys\n")] = some {} := by
    decide +kernel
  have hempty : u'.sshAuthorizedKeys = [] ↔ u.sshAuthorizedKeys = [] := by
    rw [← List.length_eq_zero_iff, h.sshAuthorizedKeys, List.length_eq_zero_iff]
  refine .optional hempty fun _ => ?_
  have hkeys := Alike.flatMap (forall₂_of_length h.sshAuthorizedKeys fun key _ key' _ =>
    alike_of_checks hkey [key, u.name] [key', u'.name])
  have hall := ((alike_of_checks hdir [u.name, u.name, u.name] [u'.name, u'.name, u'.name]).append
    hkeys).append (alike_of_checks hown [u.name, u.name, u.name, u.name] [u'.name, u'.name, u'.name, u'.name])
  simpa [fill, shellQuote_eq, userKeys] using hall

/-- Without `sudo`, a user's lines have the same structure whatever the texts are. -/
theorem alike_userScript (h : SameUser u u') (hsudo : u.name ≠ [] → u.sudo_ = []) :
    Alike {} (userScript u) (userScript u') {} := by
  by_cases hname : u.name = []
  · rw [userScript, if_pos hname, userScript, if_pos (h.name.2 hname)]
    exact .nil _
  · have hline : Alike {} (sudoLine u) (sudoLine u') {} := by
      rw [sudoLine, if_pos (hsudo hname), sudoLine, if_pos (h.sudo_.2 (hsudo hname))]
      exact .nil _
    rw [userScript_eq hname, userScript_eq fun hn => hname (h.name.1 hn)]
    exact ((((alike_groupLine h).append (alike_useraddLine h)).append (alike_passwordLines h)).append
      hline).append (alike_keyLines h)

end

theorem alike_usersSection {users users' : List User} (h : List.Forall₂ SameUser users users')
    (hsudo : ∀ u ∈ users, u.name ≠ [] → u.sudo_ = []) :
    Alike {} (usersSection users) (usersSection users') {} := by
  have hlines : Alike {} (users.flatMap userScript) (users'.flatMap userScript) {} := by
    refine Alike.flatMap ?_
    induction h with
    | nil => exact .nil
    | cons huu _ ih =>
      rw [List.forall_mem_cons] at hsudo
      exact .cons (alike_userScript huu hsudo.1) (ih hsudo.2)
  unfold usersSection
  cases h with
  | nil => exact .nil _
  | cons _ _ =>
    rw [if_neg (List.cons_ne_nil _ _), if_neg (List.cons_ne_nil _ _)]
    exact Alike.append (.refl rfl) hlines

/-! ## ntp -/

theorem alike_ntpScript {n n' : Ntp} (h : n'.servers.length = n.servers.length) :
    Alike {} (ntpScript n) (ntpScript n') {} := by
  have hserver : checks {} [.fixed (bytes "  echo "), .hole,
      .fixed (bytes " >> /etc/chrony/sources.d/capi.sources\n")] = some {} := rfl
  have hempty : n'.servers = [] ↔ n.servers = [] := by
    rw [← List.length_eq_zero_iff, h, List.length_eq_zero_iff]
  refine .optional hempty fun _ => ?_
  have hfixed : ∀ t, (scan {} t).2 = {} → Alike {} t t {} := fun _ => .refl
  have hservers := Alike.flatMap (forall₂_of_length h fun srv _ srv' _ =>
    alike_of_checks hserver [bytes "server " ++ srv ++ bytes " iburst"]
      [bytes "server " ++ srv' ++ bytes " iburst"])
  simp only [fill, List.headD_cons, ← shellQuote_eq, List.append_nil] at hservers
  simp only [← List.append_assoc] at hservers
  exact (((hfixed _ (by decide +kernel)).append hservers).append (hfixed _ (by decide +kernel))).append
    (hfixed _ rfl)

theorem alike_ntpSection {n n' : Option Ntp} (h : Option.Rel SameNtp n n') :
    Alike {} (ntpSection n) (ntpSection n') {} := by
  cases h with
  | none => exact .nil _
  | some hn =>
    rw [ntpSection, ntpSection, hn.enabled]
    split
    · exact .nil _
    · exact Alike.append (.refl rfl) (alike_ntpScript hn.servers)

/-! ## The script -/

/-- The script without commands, section by section. -/
theorem outline_eq {isPrint : Char → Bool} {keys : List String} {cfg : CloudConfig} {files : Bytes}
    (h : writeFilesSection cfg.writeFiles = .ok files) : outline isPrint keys cfg =
      .ok (scan {} (preamble ++ (unsupportedKeys keys).flatMap (keyWarning isPrint) ++ files ++
        usersSection cfg.users ++ ntpSection cfg.ntp ++ epilogue)).1 := by
  rw [outline, scriptText]
  simp only [h]
  simp [commandsSection, Except.map]

theorem scan_preamble : (scan {} preamble).2 = {} := by decide +kernel

/-! ## Keys that are not supported -/

/-- A key of one letter, with a blank at the end or without. -/
def letters (spaced : Bool) (i : Nat) : String :=
  String.ofList (List.replicate (i + 1) 'a' ++ if spaced then [' '] else [])

theorem bytes_replicate (n : Nat) : bytes (String.ofList (List.replicate n 'a')) = List.replicate n 0x61 := by
  induction n with
  | zero => rfl
  | succ n ih =>
    have hcons : String.ofList (List.replicate (n + 1) 'a') = "a" ++ String.ofList (List.replicate n 'a') := by
      rw [List.replicate_succ, String.ofList_cons]
      rfl
    rw [hcons, bytes_append, ih, List.replicate_succ]
    rfl

/-- The warning up to the key, and from its closing quote on. -/
def warningStart : Bytes := bytes "echo \"[capi-bootstrap] warning: cloud-config key " ++ [0x22]

def warningEnd : Bytes := [0x22] ++ bytes " is not supported on Verda and was ignored\"\n"

theorem keyWarning_letters (isPrint : Char → Bool) (spaced : Bool) (i : Nat) :
    keyWarning isPrint (letters spaced i) = warningStart ++ (List.replicate (i + 1) 0x61 ++
      ((if spaced then [0x20] else []) ++ warningEnd)) := by
  have hquote : quoteWith isPrint (letters spaced i) = "\"" ++ letters spaced i ++ "\"" := by
    rw [letters, quoteWith_ascii]
    · apply String.ext
      simp
    · intro c hc
      rcases List.mem_append.1 hc with hc | hc
      · rw [List.eq_of_mem_replicate hc]
        decide
      · cases spaced with
        | false => cases hc
        | true =>
          rw [List.mem_singleton.1 hc]
          decide
  have hbytes : bytes (letters spaced i) =
      List.replicate (i + 1) 0x61 ++ if spaced then [0x20] else [] := by
    rw [letters, String.ofList_append, bytes_append, bytes_replicate]
    cases spaced <;> rfl
  rw [keyWarning, hquote, bytes_append, bytes_append, hbytes]
  simp only [warningStart, warningEnd, List.append_assoc]
  rfl

/-- A blank in the key makes one more word. -/
theorem grows_keyWarning (isPrint : Char → Bool) (i j : Nat) :
    Grows {} (keyWarning isPrint (letters false i)) (keyWarning isPrint (letters true j)) {} 1 := by
  have hstart : (scan {} warningStart).2 = inOptions := by decide +kernel
  have hletters : ∀ n, scan inOptions (List.replicate n 0x61) = ([], inOptions) := by
    intro n
    refine scan_ordinary rfl rfl rfl rfl rfl fun b hb => ?_
    rw [List.eq_of_mem_replicate hb]
    decide
  have hkey : Alike inOptions (List.replicate (i + 1) 0x61) (List.replicate (j + 1) 0x61) inOptions :=
    ⟨by rw [hletters, hletters], by rw [hletters], by rw [hletters]⟩
  have hend : Grows inOptions ((if false then [0x20] else []) ++ warningEnd)
      ((if true then [0x20] else []) ++ warningEnd) {} 1 :=
    ⟨by decide, rfl, rfl⟩
  rw [keyWarning_letters, keyWarning_letters]
  exact (Alike.refl hstart).grows.append (hkey.grows.append hend)

/-- As many of these keys as needed. -/
def letterKeys (spaced : Bool) (n : Nat) : List String := (List.range n).map (letters spaced)

theorem letters_unknown (spaced : Bool) (i : Nat) : letters spaced i ∉ knownKeys := by
  have hhead : (letters spaced i).toList.head? = some 'a' := by
    rw [letters, String.toList_ofList, List.replicate_succ]
    rfl
  have hall : ∀ key ∈ knownKeys, key.toList.head? ≠ some 'a' := by decide
  exact fun hmem => hall _ hmem hhead

theorem letterKeys_nodup (spaced : Bool) (n : Nat) : (letterKeys spaced n).Nodup := by
  refine List.Nodup.map ?_ List.nodup_range
  intro i j hij
  have hlength := congrArg (fun s => s.toList.length) hij
  simp only [letters, String.toList_ofList, List.length_append, List.length_replicate] at hlength
  omega

theorem mem_unsupportedKeys {keys : List String} {key : String} :
    key ∈ unsupportedKeys keys ↔ key ∈ keys ∧ key ∉ knownKeys := by
  rw [unsupportedKeys, (List.mergeSort_perm _ _).mem_iff, List.mem_filter]
  simp

theorem length_unsupportedKeys_letters (spaced : Bool) (n : Nat) :
    (unsupportedKeys (letterKeys spaced n)).length = n := by
  have hfilter : (letterKeys spaced n).filter (fun key => !knownKeys.contains key) = letterKeys spaced n := by
    refine List.filter_eq_self.2 fun key hkey => ?_
    obtain ⟨i, -, rfl⟩ := List.mem_map.1 hkey
    simpa using letters_unknown spaced i
  rw [unsupportedKeys, (List.mergeSort_perm _ _).length_eq, hfilter, letterKeys, List.length_map,
    List.length_range]

/-- The warnings about them grow by a word each. -/
theorem grows_warnings (isPrint : Char → Bool) (n : Nat) :
    Grows {} ((unsupportedKeys (letterKeys false n)).flatMap (keyWarning isPrint))
      ((unsupportedKeys (letterKeys true n)).flatMap (keyWarning isPrint)) {} n := by
  have hlength : (unsupportedKeys (letterKeys true n)).length =
      (unsupportedKeys (letterKeys false n)).length := by
    rw [length_unsupportedKeys_letters, length_unsupportedKeys_letters]
  have hpairs : List.Forall₂ (fun a b => Grows {} (keyWarning isPrint a) (keyWarning isPrint b) {} 1)
      (unsupportedKeys (letterKeys false n)) (unsupportedKeys (letterKeys true n)) := by
    refine forall₂_of_length hlength fun a ha b hb => ?_
    obtain ⟨i, -, rfl⟩ := List.mem_map.1 (mem_unsupportedKeys.1 ha).1
    obtain ⟨j, -, rfl⟩ := List.mem_map.1 (mem_unsupportedKeys.1 hb).1
    exact grows_keyWarning isPrint i j
  have hgrows := Grows.flatMap (p := fun _ => true) hpairs
  simpa [length_unsupportedKeys_letters] using hgrows

/-! ## Users with sudo -/

/-- The user under another name, if it has one. -/
def User.renamed (u : User) (name : Bytes) : User := if u.name = [] then u else { u with name := name }

theorem SameUser.renamed (u : User) {name : Bytes} (hname : name ≠ []) : SameUser u (u.renamed name) := by
  unfold User.renamed
  split
  · exact .refl u
  · rename_i h
    exact ⟨⟨fun h' => absurd h' hname, fun h' => absurd h' h⟩, .rfl, .rfl, .rfl, rfl, .rfl, .rfl, .rfl, rfl,
      .rfl, rfl⟩

/-- The pieces of the line about `sudo`. -/
def sudoPieces (name : Bytes) : List Piece :=
  [.fixed (bytes "install -d -m 0750 /etc/sudoers.d && echo "), .hole,
    .fixed (bytes " > /etc/sudoers.d/90-capi-"), .fixed name,
    .fixed (bytes " && chmod 0440 /etc/sudoers.d/90-capi-"), .fixed name, .fixed (bytes "\n")]

theorem userSudo_eq (u : User) : userSudo u = fill (sudoPieces u.name) [u.name ++ bytes " " ++ u.sudo_] := by
  simp [userSudo, sudoPieces, fill, shellQuote_eq]

/-- A blank in the name makes more words. -/
theorem grows_userSudo {u u' : User} (h : u.name = bytes "a") (h' : u'.name = bytes "a b") :
    Grows {} (userSudo u) (userSudo u') {} 1 := by
  have hplain : checks {} (sudoPieces (bytes "a")) = some {} := by decide +kernel
  have hspaced : checks {} (sudoPieces (bytes "a b")) = some {} := by decide +kernel
  have hlonger : (scan {} (fill (sudoPieces (bytes "a")) [])).1.length + 1 ≤
      (scan {} (fill (sudoPieces (bytes "a b")) [])).1.length := by
    decide +kernel
  have halike := alike_of_checks hplain [u.name ++ bytes " " ++ u.sudo_] []
  have halike' := alike_of_checks hspaced [u'.name ++ bytes " " ++ u'.sudo_] []
  rw [userSudo_eq, userSudo_eq, h, h']
  rw [h] at halike
  rw [h'] at halike'
  exact ⟨by rw [halike.outline, halike'.outline]; exact hlonger, halike.left, halike'.left⟩

/-- The lines of the user contain its name without quotes. -/
def getsSudo (u : User) : Bool := decide (u.name ≠ [] ∧ u.sudo_ ≠ [])

theorem grows_userScript (u : User) :
    Grows {} (userScript (u.renamed (bytes "a"))) (userScript (u.renamed (bytes "a b"))) {}
      (if getsSudo u then 1 else 0) := by
  by_cases hname : u.name = []
  · have hnone : getsSudo u = false := decide_eq_false fun h => h.1 hname
    rw [User.renamed, if_pos hname, User.renamed, if_pos hname, userScript, if_pos hname, hnone]
    exact (Alike.nil {}).grows
  · have hplain : u.renamed (bytes "a") = { u with name := bytes "a" } := if_neg hname
    have hspaced : u.renamed (bytes "a b") = { u with name := bytes "a b" } := if_neg hname
    have hne : bytes "a" ≠ [] := by decide
    have hne' : bytes "a b" ≠ [] := by decide
    have hsame : SameUser { u with name := bytes "a" } { u with name := bytes "a b" } :=
      ⟨⟨fun h => absurd h hne', fun h => absurd h hne⟩, .rfl, .rfl, .rfl, rfl, .rfl, .rfl, .rfl, rfl, .rfl,
        rfl⟩
    have hsudo : Grows {} (sudoLine { u with name := bytes "a" }) (sudoLine { u with name := bytes "a b" }) {}
        (if getsSudo u then 1 else 0) := by
      by_cases hs : u.sudo_ = []
      · have hnone : getsSudo u = false := decide_eq_false fun h => h.2 hs
        rw [sudoLine, if_pos hs, sudoLine, if_pos hs, hnone]
        exact (Alike.nil {}).grows
      · have hone : getsSudo u = true := decide_eq_true ⟨hname, hs⟩
        rw [sudoLine, if_neg hs, sudoLine, if_neg hs, hone]
        exact grows_userSudo rfl rfl
    rw [hplain, hspaced, userScript_eq hne, userScript_eq hne']
    -- only the line about `sudo` has the name outside quotes
    have hall := ((((alike_groupLine hsame).append (alike_useraddLine hsame)).append
      (alike_passwordLines hsame)).grows.append hsudo).append (alike_keyLines hsame).grows
    simpa using hall

theorem grows_usersSection (users : List User) :
    Grows {} (usersSection (users.map (·.renamed (bytes "a"))))
      (usersSection (users.map (·.renamed (bytes "a b")))) {} (users.countP getsSudo) := by
  have hlines : Grows {} ((users.map (·.renamed (bytes "a"))).flatMap userScript)
      ((users.map (·.renamed (bytes "a b"))).flatMap userScript) {} (users.countP getsSudo) := by
    rw [List.flatMap_map, List.flatMap_map]
    exact Grows.flatMap (List.forall₂_same.2 fun u _ => grows_userScript u)
  unfold usersSection
  cases users with
  | nil => exact (Alike.nil {}).grows
  | cons u users =>
    rw [if_neg (by simp), if_neg (by simp)]
    have htitle : Alike {} (bytes "\n# users\n") (bytes "\n# users\n") {} := .refl rfl
    simpa using htitle.grows.append hlines

/-! ## The theorem -/

section

variable {isPrint : Char → Bool} {keys : List String} {cfg : CloudConfig}

theorem files_of_scriptText {unsupported : List String} {script : Bytes}
    (hok : scriptText isPrint unsupported cfg = .ok script) :
    ∃ files, writeFilesSection cfg.writeFiles = .ok files := by
  cases hfiles : writeFilesSection cfg.writeFiles with
  | error e =>
    rw [scriptText, hfiles] at hok
    cases hok
  | ok files => exact ⟨files, rfl⟩

/-- Whatever stands in quotes, the outline is the same. -/
theorem outline_fixed {files : Bytes} (hfiles : writeFilesSection cfg.writeFiles = .ok files)
    (hkeys : unsupportedKeys keys = []) (hsudo : ∀ u ∈ cfg.users, u.name ≠ [] → u.sudo_ = [])
    {keys' : List String} {cfg' : CloudConfig}
    (hlength : (unsupportedKeys keys').length = (unsupportedKeys keys).length) (h : SameFields cfg cfg') :
    outline isPrint keys' cfg' = outline isPrint keys cfg := by
  have hkeys' : unsupportedKeys keys' = [] := by
    rw [hkeys] at hlength
    exact List.length_eq_zero_iff.1 hlength
  obtain ⟨files', hfiles', halike⟩ := alike_writeFilesSection h.files hfiles
  rw [outline_eq hfiles, outline_eq hfiles', hkeys, hkeys']
  have hepilogue : (scan {} epilogue).2 = {} := rfl
  have hall := (((((Alike.refl scan_preamble).append (Alike.nil {})).append halike).append
    (alike_usersSection h.users hsudo)).append (alike_ntpSection h.ntp)).append (.refl hepilogue)
  exact congrArg Except.ok hall.outline.symm

/-- With a key that is not supported, it is not: a blank in the key is a word more. -/
theorem outline_keys {files : Bytes} (hfiles : writeFilesSection cfg.writeFiles = .ok files) {n : Nat}
    (hn : 0 < n) :
    outline isPrint (letterKeys false n) cfg ≠ outline isPrint (letterKeys true n) cfg := by
  intro heq
  rw [outline_eq hfiles, outline_eq hfiles, Except.ok.injEq] at heq
  have hgrows := (Alike.refl scan_preamble).grows.append (grows_warnings isPrint n)
  refine hgrows.outline_ne (by omega) (files ++ (usersSection cfg.users ++ (ntpSection cfg.ntp ++ epilogue))) ?_
  simpa only [List.append_assoc] using heq

/-- With a user that gets `sudo`, it is not either: a blank in the name is a word more. -/
theorem outline_sudo {files : Bytes} (hfiles : writeFilesSection cfg.writeFiles = .ok files)
    (hkeys : unsupportedKeys keys = []) {u : User} (hu : u ∈ cfg.users) (hname : u.name ≠ [])
    (hsudo : u.sudo_ ≠ []) :
    outline isPrint keys { cfg with users := cfg.users.map (·.renamed (bytes "a")) } ≠
      outline isPrint keys { cfg with users := cfg.users.map (·.renamed (bytes "a b")) } := by
  intro heq
  have hout := fun users => @outline_eq isPrint keys { cfg with users := users } files hfiles
  rw [hout, hout, Except.ok.injEq, hkeys] at heq
  obtain ⟨files', hfiles', halike⟩ :=
    alike_writeFilesSection (List.forall₂_same.2 fun f _ => SameFile.refl f) hfiles
  have hgain : 0 < cfg.users.countP getsSudo :=
    List.countP_pos_iff.2 ⟨u, hu, decide_eq_true ⟨hname, hsudo⟩⟩
  have hgrows := ((Alike.refl scan_preamble).append (.refl halike.left)).grows.append
    (grows_usersSection cfg.users)
  refine hgrows.outline_ne (by omega) (ntpSection cfg.ntp ++ epilogue) ?_
  simpa only [List.append_assoc, List.flatMap_nil, List.nil_append] using heq

theorem sameFields_renamed (cfg : CloudConfig) {name : Bytes} (hname : name ≠ []) :
    SameFields cfg { cfg with users := cfg.users.map (·.renamed name) } := by
  refine ⟨(SameFields.refl cfg).files, ?_, (SameFields.refl cfg).ntp⟩
  rw [List.forall₂_map_right_iff]
  exact List.forall₂_same.2 fun u _ => .renamed u hname

/-- **Only commands contribute shell syntax**, if and only if there is no key that is not supported and no
user with a name and `sudo`. -/
theorem outline_fixed_iff {script : Bytes} (hnodup : keys.Nodup)
    (hok : scriptText isPrint (unsupportedKeys keys) cfg = .ok script) :
    (∀ keys' cfg', keys'.Nodup → (unsupportedKeys keys').length = (unsupportedKeys keys).length →
      SameFields cfg cfg' → outline isPrint keys' cfg' = outline isPrint keys cfg) ↔
    unsupportedKeys keys = [] ∧ ∀ u ∈ cfg.users, u.name ≠ [] → u.sudo_ = [] := by
  obtain ⟨files, hfiles⟩ := files_of_scriptText hok
  refine ⟨fun hfixed => ?_, fun h keys' cfg' _ => outline_fixed hfiles h.1 h.2⟩
  -- as many keys as there are, once with a blank in each and once without
  have hkeys : unsupportedKeys keys = [] := by
    by_contra hne
    have hletters := fun spaced => hfixed (letterKeys spaced (unsupportedKeys keys).length) cfg
      (letterKeys_nodup spaced _) (length_unsupportedKeys_letters spaced _) (.refl cfg)
    exact outline_keys hfiles (List.length_pos_iff.2 hne) ((hletters false).trans (hletters true).symm)
  -- the same users, all of them under one name with a blank or without
  refine ⟨hkeys, fun u hu hname => ?_⟩
  by_contra hsudo
  have hplain := hfixed keys _ hnodup rfl (sameFields_renamed cfg (by decide : bytes "a" ≠ []))
  have hspaced := hfixed keys _ hnodup rfl (sameFields_renamed cfg (by decide : bytes "a b" ≠ []))
  exact outline_sudo hfiles hkeys hu hname hsudo (hplain.trans hspaced.symm)

end

/-! ## Samples -/

/-- A file and a user without `sudo`. -/
def quietConfig : CloudConfig where
  writeFiles := [{ path := bytes "/etc/motd", content := bytes "hi" }]
  users := [{ name := bytes "ops" }]

/-- The same fields, with texts that would be commands without quotes. -/
def loudConfig : CloudConfig where
  writeFiles := [{ path := bytes "/etc/$(reboot)", content := bytes "hi" }]
  users := [{ name := bytes "'; reboot; '" }]

/-- Neither the order of the keys nor what the texts say changes the outline. -/
theorem outline_fixed_sample : outline (fun _ => true) ["write_files", "users"] loudConfig =
    outline (fun _ => true) ["users", "write_files"] quietConfig := by
  have hnone : ∀ keys : List String, (∀ key ∈ keys, key ∈ knownKeys) → unsupportedKeys keys = [] := by
    intro keys hknown
    rw [List.eq_nil_iff_forall_not_mem]
    intro key hkey
    rw [mem_unsupportedKeys] at hkey
    exact hkey.2 (hknown key hkey.1)
  have hquiet : unsupportedKeys ["users", "write_files"] = [] := hnone _ (by decide)
  have hloud : unsupportedKeys ["write_files", "users"] = [] := hnone _ (by decide)
  obtain ⟨script, hok⟩ : ∃ script, scriptText (fun _ => true) (unsupportedKeys ["users", "write_files"])
      quietConfig = .ok script := by
    rw [hquiet]
    exact ⟨_, rfl⟩
  have hsame : SameFields quietConfig loudConfig := by
    refine ⟨.cons ⟨?_, rfl, rfl, .rfl, .rfl, rfl⟩ .nil, .cons ⟨?_, .rfl, .rfl, .rfl, rfl, .rfl, .rfl, .rfl, rfl,
      .rfl, rfl⟩ .nil, .none⟩
    · decide
    · decide
  refine (outline_fixed_iff (by decide) hok).2 ⟨hquiet, by decide⟩ _ loudConfig (by decide) ?_ hsame
  rw [hloud, hquiet]

/-- One key that is not supported, in both cases; what stands between two semicolons is run. -/
theorem outline_keyRuns : unsupportedKeys ["xy"] = ["xy"] ∧
    unsupportedKeys ["x;reboot;y"] = ["x;reboot;y"] ∧
    ∃ parts parts', outline (fun _ => true) ["xy"] {} = .ok parts ∧
      outline (fun _ => true) ["x;reboot;y"] {} = .ok parts' ∧
      .command (asWord false (bytes "reboot")) ∉ parts ∧ .command (asWord false (bytes "reboot")) ∈ parts' := by
  have hplain : unsupportedKeys ["xy"] = ["xy"] := by simp [unsupportedKeys, knownKeys]
  have hkey : unsupportedKeys ["x;reboot;y"] = ["x;reboot;y"] := by simp [unsupportedKeys, knownKeys]
  refine ⟨hplain, hkey, _, _, outline_eq rfl, outline_eq rfl, ?_⟩
  rw [hplain, hkey]
  exact ⟨by decide +kernel, by decide +kernel⟩

end VerdaCapi.Bootstrap
