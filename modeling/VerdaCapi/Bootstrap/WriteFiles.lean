import VerdaCapi.Bootstrap.CloudConfig
import VerdaCapi.Shell.Paths
import VerdaCapi.Shell.Run

/-!
# What the write_files section installs

The `write_files` section, run by a shell on the node, against what cloud-init does with the same
entries. The section is read as shell text (`Shell.parse`), so quoting, here-documents and the binding
of redirections in pipelines are those of the shell. The node has a tree of directories, and its programs
take an argument that starts with a dash for an option.

`writeFiles_installed_iff`: the section installs every entry exactly when none is gzip-encoded and each
one lands (`Lands`). For a gzip-encoded entry the here-document is the input of `gunzip`, not of
`base64 -d`; `gzip_not_installed` is such an entry. The others can fail at their path: `mkdir -p` gets the
cleaned directory of the path, but the path itself is opened as it is. `lands_names`: what is left of this
for an absolute path without dots.
-/

namespace VerdaCapi.Bootstrap

open Go Shell

/-! ## The node -/

/-- Whether a program takes an argument for an option. -/
def isOption (arg : Bytes) : Bool := arg.head? == some 0x2d && arg != bytes "-"

/-- The programs and files of the node, as far as the section depends on them. -/
structure Node where
  gunzip : Bytes → Option Bytes
  /-- Where relative paths start. -/
  cwd : Location
  /-- Whether a directory can be made at a location, with these files on the node. -/
  makes : (Bytes → Option Bytes) → Location → Bool
  /-- Whether a file can be written at a location that is not a directory. -/
  writes : Location → Bool
  /-- Whether `chmod` or `chown` succeeds with this setting for a path. -/
  sets : Bytes → Bytes → Bytes → Bool
  /-- Whether a program ends well although it takes its last argument for an option, as with `--help`. -/
  informs : List Bytes → Bool

namespace Node

variable (n : Node)

/-- The directories after `mkdir -p`. -/
def makeDirs (dir : Bytes) (dirs : List Location) : List Location :=
  if isOption dir then dirs else passed n.cwd dir ++ dirs

/-- Whether `mkdir -p` succeeds. -/
def mkdirWorks (dir : Bytes) (dirs : List Location) (files : Bytes → Option Bytes) : Bool :=
  if isOption dir then n.informs [bytes "mkdir", bytes "-p", dir]
  else (passed n.cwd dir).all fun l => dirs.contains l || n.makes files l

/-- Whether `chmod` or `chown` succeeds. -/
def setWorks (program setting path : Bytes) : Bool :=
  if isOption path then n.informs [program, setting, path] else n.sets program setting path

/-- The node as a host for scripts. Its state are the directories there are. -/
def host : Host (List Location) where
  exec args stdin dirs :=
    if args = [bytes "base64", bytes "-d"] then (Base64.decodeText stdin).map fun out => (out, dirs)
    else if args = [bytes "gunzip"] then (n.gunzip stdin).map fun out => (out, dirs)
    else
      match args with
      | [program, setting, path] =>
        if program = bytes "mkdir" ∧ setting = bytes "-p" then some ([], n.makeDirs path dirs)
        else if n.setWorks program setting path then some ([], dirs)
        else none
      | _ => none
  opens dirs path := leads n.cwd dirs path && n.writes (locate n.cwd path)
  changes args dirs files :=
    match args with
    | [program, setting, dir] =>
      if program = bytes "mkdir" ∧ setting = bytes "-p" ∧ n.mkdirWorks dir dirs files = false then none
      else some files
    | _ => some files

end Node

/-- The commands of the entry succeed on the node, but for the decoding: its directory is made, its path
leads to a file there, and its mode and owner are set. -/
def Lands (n : Node) (f : WriteFile) (dirs : List Location) (files : Bytes → Option Bytes) : Prop :=
  n.mkdirWorks (pathDir f.path) dirs files = true ∧
  n.host.opens (n.makeDirs (pathDir f.path) dirs) f.path = true ∧
  (f.permissions ≠ [] → n.setWorks (bytes "chmod") f.permissions f.path = true) ∧
  (f.owner ≠ [] → n.setWorks (bytes "chown") f.owner f.path = true)

instance (n : Node) (f : WriteFile) (dirs : List Location) (files : Bytes → Option Bytes) :
    Decidable (Lands n f dirs files) :=
  inferInstanceAs (Decidable (_ ∧ _))

/-- No text of the entry that reaches the script has a NUL byte. -/
structure NoNul (f : WriteFile) : Prop where
  path : 0 ∉ f.path
  permissions : 0 ∉ f.permissions
  owner : 0 ∉ f.owner

/-! ## cloud-init -/

/-- The content of an entry, decoded per its encoding. -/
def decoded (gunzip : Bytes → Option Bytes) (f : WriteFile) : Option Bytes :=
  let name := lower (trimSpace f.encoding)
  let unbase64 := decodeString (trimSpace f.content)
  if [[], bytes "text/plain"].contains name then some f.content
  else if [bytes "b64", bytes "base64"].contains name then unbase64
  else if [bytes "gz+b64", bytes "gzip+base64", bytes "gz+base64", bytes "gzip+b64"].contains name then
    unbase64.bind gunzip
  else if [bytes "gz", bytes "gzip"].contains name then gunzip f.content
  else none

/-- The files after cloud-init has written the entries in order; `none` if one cannot be decoded. -/
def cloudInit (gunzip : Bytes → Option Bytes) :
    List WriteFile → (Bytes → Option Bytes) → Option (Bytes → Option Bytes)
  | [], files => some files
  | f :: fs, files =>
    (decoded gunzip f).bind fun content =>
      cloudInit gunzip fs (Function.update files f.path
        (some ((if f.append then (files f.path).getD [] else []) ++ content)))

/-- Each entry lands, after those before it. -/
def AllLand (n : Node) : List WriteFile → List Location → (Bytes → Option Bytes) → Prop
  | [], _, _ => True
  | f :: fs, dirs, files => Lands n f dirs files ∧
      ∀ files' ∈ cloudInit n.gunzip [f] files, AllLand n fs (n.makeDirs (pathDir f.path) dirs) files'

instance decidableAllLand (n : Node) : (files : List WriteFile) → (dirs : List Location) →
    (contents : Bytes → Option Bytes) → Decidable (AllLand n files dirs contents)
  | [], _, _ => .isTrue trivial
  | f :: fs, dirs, contents =>
    have : ∀ files', Decidable (AllLand n fs (n.makeDirs (pathDir f.path) dirs) files') :=
      decidableAllLand n fs _
    inferInstanceAs (Decidable (Lands n f dirs contents ∧
      ∀ files' ∈ cloudInit n.gunzip [f] contents,
        AllLand n fs (n.makeDirs (pathDir f.path) dirs) files'))

/-- The script runs to its end and leaves the files that cloud-init would leave. -/
def Installs (n : Node) (stdin : Bytes) (files : List WriteFile) (script : Bytes)
    (st : State (List Location)) : Prop :=
  ∃ st', run n.host stdin script st = (st', true) ∧ cloudInit n.gunzip files st.files = some st'.files

/-! ## The texts of an entry -/

theorem shellQuote_eq (s : Bytes) : shellQuote s = quote s := by
  unfold shellQuote
  split
  · rename_i hs
    rw [hs]
    rfl
  · rw [show bytes "'" = [quoteMark] from rfl, replaceAll_singleton]
    rfl

theorem mem_wrapBase64 {s : Bytes} {b : UInt8} (h : b ∈ wrapBase64 s) : b ∈ s ∨ b = newline := by
  fun_induction wrapBase64 s with
  | case1 s width hlong ih =>
    simp only [List.mem_append, List.mem_singleton] at h
    rcases h with (h | h) | h
    · exact .inl (List.mem_of_mem_take h)
    · exact .inr h
    · rcases ih h with h | h
      · exact .inl (List.mem_of_mem_drop h)
      · exact .inr h
  | case2 s width hshort =>
    simpa [newline] using h

/-- The wrapped text is lines, the last one complete. -/
theorem wrapBase64_eq_append (s : Bytes) : ∃ text, wrapBase64 s = text ++ [newline] := by
  fun_induction wrapBase64 s with
  | case1 s width hlong ih =>
    rcases ih with ⟨text, htext⟩
    refine ⟨s.take width ++ [0x0a] ++ text, ?_⟩
    rw [htext, List.append_assoc, List.append_assoc, List.append_assoc]
  | case2 s width hshort => exact ⟨s, rfl⟩

theorem filter_wrapBase64 {s : Bytes} (h : newline ∉ s) :
    (wrapBase64 s).filter (· ≠ newline) = s := by
  fun_induction wrapBase64 s with
  | case1 s width hlong ih =>
    have htake : newline ∉ s.take width := fun hb => h (List.mem_of_mem_take hb)
    have hdrop : newline ∉ s.drop width := fun hb => h (List.mem_of_mem_drop hb)
    have hself : (s.take width).filter (· ≠ newline) = s.take width :=
      List.filter_eq_self.2 fun b hb => by
        simpa using fun heq : b = newline => htake (heq ▸ hb)
    rw [List.filter_append, List.filter_append, ih hdrop, hself]
    simp [newline]
  | case2 s width hshort =>
    have hself : s.filter (· ≠ newline) = s :=
      List.filter_eq_self.2 fun b hb => by
        simpa using fun heq : b = newline => h (heq ▸ hb)
    rw [List.filter_append, hself]
    simp [newline]

/-- The here-document of an entry decodes to its content. -/
theorem decodeText_wrapBase64 (content : Bytes) :
    Base64.decodeText (wrapBase64 (Base64.encode content)) = some content := by
  have hnl : newline ∉ Base64.encode content := fun h =>
    (Base64.encode_inAlphabet content _ h).ne (by decide) (by decide) rfl
  have hfilter := filter_wrapBase64 hnl
  unfold Base64.decodeText
  rw [show (0x0a : UInt8) = newline from rfl, hfilter]
  exact Base64.decode_encode content

/-- The characters of the here-document of an entry. -/
theorem mem_body {content : Bytes} {b : UInt8} (h : b ∈ wrapBase64 (Base64.encode content)) :
    Base64.InAlphabet b ∨ b = newline := by
  rcases mem_wrapBase64 h with h | h
  · exact .inl (Base64.encode_inAlphabet content b h)
  · exact .inr h

/-- The characters of a delimiter stand for themselves. -/
theorem isPlain_delimiter {idx : Nat} {b : UInt8} (h : b ∈ delimiter idx) : isPlain b = true := by
  simp only [delimiter, List.mem_append] at h
  rcases h with (h | h) | h
  · have hall : (bytes "__CAPI_FILE_").all isPlain = true := by decide
    exact List.all_eq_true.1 hall b h
  · rcases decimal_digit h with ⟨hlo, hhi⟩
    exact isPlain_of_digit hlo hhi
  · have hall : (bytes "__").all isPlain = true := by decide
    exact List.all_eq_true.1 hall b h

theorem not_mem_delimiter {idx : Nat} {b : UInt8} (hb : isPlain b = false) : b ∉ delimiter idx := by
  intro h
  rw [isPlain_delimiter h] at hb
  cases hb

/-- The text of a here-document that is an encoded content. -/
theorem parse_encoded {ts : List Token} {d content s : Bytes} (hd : newline ∉ d) (hd0 : 0 ∉ d)
    (hunderscore : 0x5f ∈ d) :
    parse (.doc ts d [] [] [] []) (wrapBase64 (Base64.encode content) ++ (d ++ newline :: s)) =
      command ts [wrapBase64 (Base64.encode content)] ++ parse (.code {}) s := by
  rcases wrapBase64_eq_append (Base64.encode content) with ⟨text, htext⟩
  have hbody : ∀ {c : UInt8}, Base64.value c = none → c ≠ Base64.pad → c ≠ newline → c ∉ text := by
    intro c hvalue hpad hnl hc
    have hmem : c ∈ wrapBase64 (Base64.encode content) := by
      rw [htext]
      exact List.mem_append_left _ hc
    rcases mem_body hmem with h | h
    · exact h.ne hvalue hpad rfl
    · exact hnl h
  rw [htext, List.append_assoc]
  exact parse_document hd hd0 hunderscore (hbody (by decide) (by decide) (by decide))
    (hbody (by decide) (by decide) (by decide))

/-! ## How the shell reads an entry -/

/-- The pipeline that writes the content of an entry. -/
def decoder (f : WriteFile) (body : Bytes) : Pipeline :=
  let base64 := [bytes "base64", bytes "-d"]
  let redirs := [redirTo f.append f.path, .doc body]
  if isGzip f.encoding then [{ args := base64 }, { args := [bytes "gunzip"], redirs }]
  else [{ args := base64, redirs }]

/-- The command of an optional line. -/
def optionalItem (program setting path : Bytes) : List Item :=
  if setting = [] then [] else [.run [{ args := [program, setting, path] }]]

/-- The commands of an entry with this decoded content. -/
def entryItems (f : WriteFile) (content : Bytes) : List Item :=
  [.run [{ args := [bytes "mkdir", bytes "-p", pathDir f.path] }]] ++
    [.run (decoder f (wrapBase64 (Base64.encode content)))] ++
    optionalItem (bytes "chmod") f.permissions f.path ++ optionalItem (bytes "chown") f.owner f.path

section

variable {s : Bytes}

theorem parse_mkdir {dir : Bytes} (hdir : 0 ∉ dir) :
    parse (.code {}) (bytes "mkdir -p " ++ (shellQuote dir ++ 0x0a :: s)) =
      .run [{ args := [bytes "mkdir", bytes "-p", dir] }] :: parse (.code {}) s := by
  have htext : bytes "mkdir -p " = bytes "mkdir" ++ 0x20 :: (bytes "-p" ++ [0x20]) := by decide
  rw [shellQuote_eq, htext]
  simp only [List.append_assoc, List.cons_append, List.nil_append]
  rw [parse_word (by decide), parse_word (by decide)]
  exact parse_last_word hdir rfl

theorem parse_optionalLine {program setting path : Bytes} (hprogram : plainWord program = true)
    (hsetting : 0 ∉ setting) (hpath : 0 ∉ path) :
    parse (.code {}) (optionalLine program setting path ++ s) =
      optionalItem program setting path ++ parse (.code {}) s := by
  unfold optionalLine optionalItem
  split
  · rfl
  · rw [shellQuote_eq, shellQuote_eq]
    simp only [List.append_assoc, List.cons_append, List.nil_append]
    rw [parse_word hprogram, parse_quoted_word hsetting]
    exact parse_last_word hpath rfl

/-- The operator of an entry's redirection. -/
def redirToken (append : Bool) : Token := if append then .dgreat else .great

theorem parse_redirection (ts : List Token) (append : Bool) :
    parse (.code { tokens := ts }) ((if append then bytes ">>" else bytes ">") ++ 0x20 :: s) =
      parse (.code { tokens := ts ++ [redirToken append] }) s := by
  cases append
  · exact parse_great rfl
  · show parse _ (0x3e :: 0x3e :: 0x20 :: s) = _
    rw [parse_dgreat rfl, parse_blank]
    rfl

/-- The redirections of an entry, after the words `ts` of its command. -/
theorem parse_redirections {ts : List Token} {f : WriteFile} {idx : Nat} {content : Bytes}
    (hpath : 0 ∉ f.path)
    (hdocs : delimiters (ts ++ [redirToken f.append] ++ [.word f.path true] ++
      [.dless, .word (delimiter idx) true]) = [delimiter idx]) :
    parse (.code { tokens := ts })
        ((if f.append then bytes ">>" else bytes ">") ++ 0x20 :: (shellQuote f.path ++
          (bytes " <<'" ++ (delimiter idx ++ (bytes "'" ++ 0x0a :: (wrapBase64 (Base64.encode content) ++
            (delimiter idx ++ 0x0a :: s))))))) =
      command (ts ++ [redirToken f.append] ++ [.word f.path true] ++
        [.dless, .word (delimiter idx) true]) [wrapBase64 (Base64.encode content)] ++
        parse (.code {}) s := by
  have hquote : quote (delimiter idx) = bytes "'" ++ (delimiter idx ++ bytes "'") :=
    quote_eq_of_not_mem (not_mem_delimiter (by decide))
  have hunderscore : (0x5f : UInt8) ∈ delimiter idx := by
    rw [delimiter, show bytes "__CAPI_FILE_" = 0x5f :: bytes "_CAPI_FILE_" from by decide]
    exact List.mem_append_left _ (List.mem_append_left _ List.mem_cons_self)
  rw [parse_redirection, shellQuote_eq,
    show bytes " <<'" = 0x20 :: 0x3c :: 0x3c :: bytes "'" from by decide]
  simp only [List.append_assoc, List.cons_append, List.nil_append]
  rw [parse_quoted_word hpath,
    show ∀ t : Bytes, bytes "'" ++ (delimiter idx ++ (bytes "'" ++ t)) = quote (delimiter idx) ++ t
      from fun t => by rw [hquote, List.append_assoc, List.append_assoc]]
  have hnul : 0 ∉ delimiter idx := not_mem_delimiter (by decide)
  refine (parse_here_document hdocs hnul).trans
    ((parse_encoded (not_mem_delimiter (by decide)) hnul hunderscore).trans ?_)
  simp only [List.append_assoc, List.cons_append, List.nil_append]

/-- The line that writes the content. -/
theorem parse_decoder {f : WriteFile} {idx : Nat} {content : Bytes} (hpath : 0 ∉ f.path) :
    parse (.code {})
        ((if isGzip f.encoding then bytes "base64 -d | gunzip" else bytes "base64 -d") ++ 0x20 ::
          ((if f.append then bytes ">>" else bytes ">") ++ 0x20 :: (shellQuote f.path ++
          (bytes " <<'" ++ (delimiter idx ++ (bytes "'" ++ 0x0a :: (wrapBase64 (Base64.encode content) ++
            (delimiter idx ++ 0x0a :: s)))))))) =
      .run (decoder f (wrapBase64 (Base64.encode content))) :: parse (.code {}) s := by
  unfold decoder
  cases isGzip f.encoding
  · have htext : bytes "base64 -d" = bytes "base64" ++ 0x20 :: bytes "-d" := by decide
    simp only [Bool.false_eq_true, if_false]
    rw [htext, List.append_assoc, List.cons_append, parse_word (by decide),
      parse_word (by decide), parse_redirections hpath (by cases f.append <;> rfl)]
    cases f.append <;> rfl
  · have htext : bytes "base64 -d | gunzip" =
        bytes "base64" ++ 0x20 :: (bytes "-d" ++ 0x20 :: 0x7c :: 0x20 :: bytes "gunzip") := by decide
    simp only [if_true]
    rw [htext]
    simp only [List.append_assoc, List.cons_append]
    rw [parse_word (by decide), parse_word (by decide), parse_pipe, parse_blank]
    show parse (.code { tokens := [.word (bytes "base64") false, .word (bytes "-d") false, .pipe] }) _ = _
    rw [parse_word (by decide), parse_redirections hpath (by cases f.append <;> rfl)]
    cases f.append <;> rfl

/-- The shell reads the text of an entry as the commands of the entry. -/
theorem parse_writeFileScript {f : WriteFile} {idx : Nat} {text : Bytes} (hf : NoNul f)
    (h : writeFileScript idx f = .ok text) :
    ∃ content, decodeContent idx f = .ok content ∧
      parse (.code {}) (text ++ s) = entryItems f content ++ parse (.code {}) s := by
  unfold writeFileScript at h
  split at h
  · cases h
  · split at h
    · cases h
    · rename_i content hcontent
      cases h
      have hdir : 0 ∉ pathDir f.path := by
        intro h0
        rcases mem_pathDir h0 with h0 | h0 | h0
        · exact hf.path h0
        · cases h0
        · cases h0
      refine ⟨content, hcontent, ?_⟩
      simp only [List.append_assoc, List.cons_append, List.nil_append]
      rw [parse_mkdir hdir, parse_decoder hf.path,
        parse_optionalLine (by decide) hf.permissions hf.path,
        parse_optionalLine (by decide) hf.owner hf.path]
      simp [entryItems]

/-- A section without entries, or a comment and the entries. -/
theorem parse_writeFilesSection {files : List WriteFile} {script : Bytes}
    (h : writeFilesSection files = .ok script) :
    ∃ text, writeEntries 0 files = .ok text ∧ parse (.code {}) script = parse (.code {}) text := by
  unfold writeFilesSection at h
  split at h
  · rename_i hnil
    cases h
    exact ⟨[], by rw [hnil]; rfl, rfl⟩
  · cases htext : writeEntries 0 files with
    | error e =>
      rw [htext] at h
      cases h
    | ok text =>
      rw [htext] at h
      cases h
      refine ⟨text, rfl, ?_⟩
      have hheader : bytes "\n# write_files\n" = newline :: 0x23 :: (bytes " write_files" ++ [newline]) := by
        decide
      rw [hheader]
      simp only [List.cons_append, List.append_assoc, List.nil_append]
      rw [parse_newline rfl]
      show parse _ _ = _
      exact parse_comment (by decide) (by decide)

end

/-! ## How the node runs an entry -/

/-- `gunzip` knows its input by bytes that no text has. -/
def RejectsText (gunzip : Bytes → Option Bytes) : Prop :=
  ∀ s : Bytes, (∀ b ∈ s, Base64.InAlphabet b ∨ b = newline) → gunzip s = none

section

variable {n : Node} {f : WriteFile} {content stdin : Bytes} {st : State (List Location)}

theorem exec_base64 (dirs : List Location) :
    n.host.exec [bytes "base64", bytes "-d"] stdin dirs =
      (Base64.decodeText stdin).map fun out => (out, dirs) := by
  simp [Node.host]

theorem exec_gunzip (dirs : List Location) :
    n.host.exec [bytes "gunzip"] stdin dirs = (n.gunzip stdin).map fun out => (out, dirs) := by
  have hne : [bytes "gunzip"] ≠ [bytes "base64", bytes "-d"] := by decide
  simp [Node.host, hne]

theorem exec_mkdir (dir : Bytes) (dirs : List Location) :
    n.host.exec [bytes "mkdir", bytes "-p", dir] stdin dirs = some ([], n.makeDirs dir dirs) := by
  simp [Node.host]

theorem changes_mkdir (dir : Bytes) (dirs : List Location) (files : Bytes → Option Bytes) :
    n.host.changes [bytes "mkdir", bytes "-p", dir] dirs files =
      if n.mkdirWorks dir dirs files then some files else none := by
  cases hworks : n.mkdirWorks dir dirs files <;> simp [Node.host, hworks]

theorem exec_setting {program setting path : Bytes} (hprogram : program ≠ bytes "mkdir")
    (dirs : List Location) : n.host.exec [program, setting, path] stdin dirs =
      if n.setWorks program setting path then some ([], dirs) else none := by
  simp [Node.host, hprogram]

theorem changes_setting {program setting path : Bytes} (hprogram : program ≠ bytes "mkdir")
    (dirs : List Location) (files : Bytes → Option Bytes) :
    n.host.changes [program, setting, path] dirs files = some files := by
  simp [Node.host, hprogram]

/-- A setting changes nothing that is modelled; it may fail. -/
theorem run_optionalItem {program setting path : Bytes} (hprogram : program ≠ bytes "mkdir") :
    runItems n.host stdin (optionalItem program setting path) st =
      (st, decide (setting ≠ [] → n.setWorks program setting path = true)) := by
  unfold optionalItem
  split
  · rename_i hsetting
    simp [runItems, hsetting]
  · rename_i hsetting
    cases hworks : n.setWorks program setting path with
    | true =>
      have hexec : n.host.exec [program, setting, path] stdin st.rest = some ([], st.rest) := by
        rw [exec_setting hprogram, if_pos hworks]
      rw [runItems_command hexec (changes_setting hprogram _ _)]
      simp
    | false =>
      simp [runItems, runPipeline, runSimple, redirect, exec_setting hprogram, hworks, Outcome.next,
        hsetting]

/-- The state once the directory of an entry was made. -/
def madeDir (n : Node) (f : WriteFile) (st : State (List Location)) : State (List Location) :=
  { st with rest := n.makeDirs (pathDir f.path) st.rest }

/-- The state once an entry was written. -/
def written (n : Node) (f : WriteFile) (content : Bytes) (st : State (List Location)) :
    State (List Location) :=
  (madeDir n f st).write f.path ((if f.append then st.content f.path else []) ++ content)

theorem run_mkdir : runItems n.host stdin
      [.run [{ args := [bytes "mkdir", bytes "-p", pathDir f.path] }]] st =
    if n.mkdirWorks (pathDir f.path) st.rest st.files then (madeDir n f st, true) else (st, false) := by
  split
  · rename_i hworks
    exact runItems_command (exec_mkdir _ _) ((changes_mkdir _ _ _).trans (if_pos hworks))
  · rename_i hworks
    exact runItems_command_fails ((changes_mkdir _ _ _).trans (if_neg hworks))

/-- An entry that is not gzip-encoded is written with its decoded content, if its path leads to a file. -/
theorem run_decoder (hgzip : isGzip f.encoding = false)
    (hopens : n.host.opens (n.makeDirs (pathDir f.path) st.rest) f.path = true) :
    runItems n.host stdin [.run (decoder f (wrapBase64 (Base64.encode content)))] (madeDir n f st) =
      (written n f content st, true) := by
  have hdecode : n.host.exec [bytes "base64", bytes "-d"] (wrapBase64 (Base64.encode content))
      (madeDir n f st).rest = some (content, (madeDir n f st).rest) := by
    rw [exec_base64, decodeText_wrapBase64]
    rfl
  simp only [decoder, hgzip, Bool.false_eq_true, if_false, runItems, runPipeline,
    runSimple_doc hopens hdecode fun _ => rfl]
  rfl

/-- A path that does not lead to a file cannot be written, and a gzip-encoded entry neither: the
here-document is the input of `gunzip`. -/
theorem run_decoder_fails (hgunzip : RejectsText n.gunzip)
    (h : isGzip f.encoding = true ∨ n.host.opens (n.makeDirs (pathDir f.path) st.rest) f.path = false) :
    (runItems n.host stdin [.run (decoder f (wrapBase64 (Base64.encode content)))] (madeDir n f st)).2 =
      false := by
  have hreject : n.gunzip (wrapBase64 (Base64.encode content)) = none :=
    hgunzip _ fun _ hb => mem_body hb
  have hfails : n.host.exec [bytes "gunzip"] (wrapBase64 (Base64.encode content))
      (madeDir n f st).rest = none := by
    rw [exec_gunzip, hreject]
    rfl
  -- whatever `base64 -d` makes of the script's own input, it changes nothing
  have hbase64 : (runSimple n.host { args := [bytes "base64", bytes "-d"] } stdin (madeDir n f st)).1 =
      madeDir n f st := by
    simp only [runSimple, redirect, exec_base64]
    cases Base64.decodeText stdin <;> rfl
  have hclosed : ∀ args, n.host.opens (n.makeDirs (pathDir f.path) st.rest) f.path = false → ∀ input,
      (runSimple n.host { args, redirs := [redirTo f.append f.path, .doc (wrapBase64 (Base64.encode content))] }
        input (madeDir n f st)).2 = none := by
    intro args hopens input
    cases f.append <;> simp [runSimple, redirTo, redirect, madeDir, hopens]
  cases hopens : n.host.opens (n.makeDirs (pathDir f.path) st.rest) f.path with
  | false =>
    cases hgzip : isGzip f.encoding with
    | false => simp [decoder, hgzip, runItems, runPipeline, hclosed _ hopens, Outcome.next]
    | true => simp [decoder, hgzip, runItems, runPipeline, hbase64, hclosed _ hopens, Outcome.next]
  | true =>
    have hgzip : isGzip f.encoding = true := h.resolve_right (by simp [hopens])
    simp only [decoder, hgzip, if_true, runItems, runPipeline, hbase64,
      runSimple_doc_fails hopens hfails]
    simp [Outcome.next]

/-- An entry that is not gzip-encoded and lands is written. -/
theorem run_entryItems (hgzip : isGzip f.encoding = false) (h : Lands n f st.rest st.files) :
    runItems n.host stdin (entryItems f content) st = (written n f content st, true) := by
  obtain ⟨hmkdir, hopens, hchmod, hchown⟩ := h
  unfold entryItems
  rw [runItems_append, runItems_append, runItems_append, run_mkdir, if_pos hmkdir]
  simp only [Outcome.next, if_true, run_decoder hgzip hopens]
  rw [run_optionalItem (by decide), run_optionalItem (by decide), decide_eq_true hchmod,
    decide_eq_true hchown]
  rfl

/-- Any other entry ends the script. -/
theorem run_entryItems_fails (hgunzip : RejectsText n.gunzip)
    (h : isGzip f.encoding = true ∨ ¬ Lands n f st.rest st.files) :
    (runItems n.host stdin (entryItems f content) st).2 = false := by
  unfold entryItems
  rw [runItems_append, runItems_append, runItems_append, run_mkdir]
  by_cases hmkdir : n.mkdirWorks (pathDir f.path) st.rest st.files = true
  · simp only [if_pos hmkdir, Outcome.next, if_true]
    by_cases hdecode : isGzip f.encoding = true ∨
        n.host.opens (n.makeDirs (pathDir f.path) st.rest) f.path = false
    · simp [run_decoder_fails hgunzip hdecode]
    · rw [not_or, Bool.not_eq_true, Bool.not_eq_false] at hdecode
      rw [run_decoder hdecode.1 hdecode.2]
      simp only [if_true]
      rw [run_optionalItem (by decide), run_optionalItem (by decide)]
      -- the content is there, but not its mode or not its owner
      have hset : ¬ ((f.permissions ≠ [] → n.setWorks (bytes "chmod") f.permissions f.path = true) ∧
          (f.owner ≠ [] → n.setWorks (bytes "chown") f.owner f.path = true)) := by
        intro hboth
        refine h.elim (fun hgzip => ?_) fun hnot => hnot ⟨hmkdir, hdecode.2, hboth⟩
        rw [hdecode.1] at hgzip
        cases hgzip
      by_cases hchmod : f.permissions ≠ [] → n.setWorks (bytes "chmod") f.permissions f.path = true
      · rw [decide_eq_true hchmod, decide_eq_false fun hchown => hset ⟨hchmod, hchown⟩]
        rfl
      · rw [decide_eq_false hchmod]
        rfl
  · simp [hmkdir, Outcome.next]

/-! ## The section -/

/-- Without gzip, what `decodeContent` decodes is all there is to decode. -/
theorem decoded_of_not_gzip {idx : Nat} (gunzip : Bytes → Option Bytes)
    (h : decodeContent idx f = .ok content) (hgzip : isGzip f.encoding = false) :
    decoded gunzip f = some content := by
  have hnot : ∀ name : Bytes, (bytes "gz").isPrefixOf name = true →
      lower (trimSpace f.encoding) ≠ name := by
    intro name hname heq
    rw [isGzip, heq, hname] at hgzip
    cases hgzip
  unfold decodeContent at h
  unfold decoded
  dsimp only at h ⊢
  split at h
  · rename_i hplain
    cases h
    rw [if_pos (List.contains_iff_mem.2 hplain)]
  · rename_i hplain
    rw [if_neg (mt List.contains_iff_mem.1 hplain)]
    split at h
    · rename_i hbase64
      have hname : lower (trimSpace f.encoding) ∈ [bytes "b64", bytes "base64"] := by
        simp only [base64Names, List.mem_cons, List.not_mem_nil, or_false] at hbase64 ⊢
        rcases hbase64 with h | h | h | h | h | h
        · exact .inl h
        · exact .inr h
        all_goals exact absurd h (hnot _ (by decide))
      rw [if_pos (List.contains_iff_mem.2 hname)]
      split at h
      · rename_i hdecode
        cases h
        exact hdecode
      · cases h
    · split at h
      · rename_i hzip
        simp only [List.mem_cons, List.not_mem_nil, or_false] at hzip
        rcases hzip with h | h
        all_goals exact absurd h (hnot _ (by decide))
      · cases h

/-- The section runs its first entry and then the others. -/
theorem run_writeEntries_cons {idx : Nat} {fs : List WriteFile} {text : Bytes} (hf : NoNul f)
    (h : writeEntries idx (f :: fs) = .ok text) :
    ∃ content rest, decodeContent idx f = .ok content ∧ writeEntries (idx + 1) fs = .ok rest ∧
      run n.host stdin text st =
        Outcome.next (runItems n.host stdin (entryItems f content) st) (run n.host stdin rest) := by
  unfold writeEntries at h
  split at h
  · cases h
  · rename_i entry hentry
    split at h
    · cases h
    · rename_i rest hrest
      cases h
      rcases parse_writeFileScript (s := rest) hf hentry with ⟨content, hcontent, hparse⟩
      refine ⟨content, rest, hcontent, hrest, ?_⟩
      rw [run, hparse, runItems_append]
      rfl

/-- An entry that is written as cloud-init writes it. -/
theorem cloudInit_written {fs : List WriteFile} (h : decoded n.gunzip f = some content) :
    cloudInit n.gunzip (f :: fs) st.files = cloudInit n.gunzip fs (written n f content st).files := by
  rw [cloudInit, h]
  rfl

theorem writeEntries_iff {idx : Nat} {files : List WriteFile} {text : Bytes}
    (hgunzip : RejectsText n.gunzip) (h : writeEntries idx files = .ok text)
    (hnul : ∀ f ∈ files, NoNul f) : Installs n stdin files text st ↔
      (∀ f ∈ files, isGzip f.encoding = false) ∧ AllLand n files st.rest st.files := by
  induction files generalizing idx text st with
  | nil =>
    cases h
    exact ⟨fun _ => ⟨List.forall_mem_nil _, trivial⟩, fun _ => ⟨st, rfl, rfl⟩⟩
  | cons f fs ih =>
    rcases @run_writeEntries_cons n f stdin st idx fs text (hnul f List.mem_cons_self) h with
      ⟨content, rest, hcontent, hrest, hrun⟩
    rw [List.forall_mem_cons, AllLand, Installs, hrun]
    by_cases hentry : isGzip f.encoding = false ∧ Lands n f st.rest st.files
    · obtain ⟨hgzip, hlands⟩ := hentry
      have hdecoded := decoded_of_not_gzip n.gunzip hcontent hgzip
      have hthis : cloudInit n.gunzip [f] st.files = some (written n f content st).files :=
        cloudInit_written hdecoded
      rw [run_entryItems hgzip hlands, cloudInit_written hdecoded, hthis]
      -- the others start where this entry has left the node
      refine (ih hrest fun g hg => hnul g (List.mem_cons_of_mem _ hg)).trans ?_
      simp only [hgzip, hlands, true_and, Option.mem_some_iff, forall_eq']
      rfl
    · have hfails : (runItems n.host stdin (entryItems f content) st).2 = false := by
        refine run_entryItems_fails hgunzip ?_
        rw [← Bool.not_eq_false, ← not_and_or]
        exact hentry
      constructor
      · rintro ⟨st', hst', -⟩
        simp only [Outcome.next, hfails, Bool.false_eq_true, if_false] at hst'
        rw [hst'] at hfails
        cases hfails
      · rintro ⟨⟨hgzip, -⟩, hlands, -⟩
        exact absurd ⟨hgzip, hlands⟩ hentry

end

/-- **What the write_files section installs.** For all entries that `writeFileScript` accepts, on every
node, from any files and directories and any input of the script: the section leaves each path as
cloud-init would exactly when no entry is gzip-encoded and each lands. -/
theorem writeFiles_installed_iff {n : Node} (hgunzip : RejectsText n.gunzip) {files : List WriteFile}
    {script : Bytes} (hscript : writeFilesSection files = .ok script) (hnul : ∀ f ∈ files, NoNul f)
    (stdin : Bytes) (st : State (List Location)) :
    Installs n stdin files script st ↔
      (∀ f ∈ files, isGzip f.encoding = false) ∧ AllLand n files st.rest st.files := by
  rcases parse_writeFilesSection hscript with ⟨text, htext, hparse⟩
  have hrun : run n.host stdin script st = run n.host stdin text st := by
    rw [run, hparse]
    rfl
  rw [← writeEntries_iff hgunzip htext hnul, Installs, hrun]
  rfl

/-! ## Absolute paths -/

theorem pathDir_absolute {names : List Bytes} {last : Bytes} (h : ∀ part ∈ names ++ [last], IsPart part) :
    pathDir (absolute (names ++ [last])) = 0x2f :: List.intercalate [0x2f] names := by
  refine pathDir_elements (fun part hpart => ?_) (h last (by simp)).2
  obtain ⟨hname, hslash⟩ := h part (List.mem_append_left _ hpart)
  have hnot : ¬ (part = [] ∨ part = [0x2e] ∨ part = [0x2e, 0x2e]) := by simpa [isName] using hname
  push Not at hnot
  exact ⟨hnot.1, hnot.2.1, hnot.2.2, hslash⟩

/-- **An absolute path of names** lands unless it, or something on its way, cannot be made, or it is a
directory, or its mode or owner cannot be set. -/
theorem lands_names {n : Node} {f : WriteFile} {names : List Bytes} {last : Bytes}
    (hpath : f.path = absolute (names ++ [last])) (h : ∀ part ∈ names ++ [last], IsPart part)
    (dirs : List Location) (files : Bytes → Option Bytes) :
    Lands n f dirs files ↔
      (∀ l ∈ passedFrom [] names, l ∈ dirs ∨ n.makes files l = true) ∧
      (names ++ [last] ∉ dirs ∧ n.writes (names ++ [last]) = true) ∧
      (f.permissions ≠ [] → n.sets (bytes "chmod") f.permissions f.path = true) ∧
      (f.owner ≠ [] → n.sets (bytes "chown") f.owner f.path = true) := by
  have hdir : pathDir f.path = 0x2f :: List.intercalate [0x2f] names := hpath ▸ pathDir_absolute h
  have hoption : isOption (pathDir f.path) = false := by
    rw [hdir]
    rfl
  have hpassed : passed n.cwd (pathDir f.path) = passedFrom [] names := by
    rw [hdir]
    cases names with
    | nil => rfl
    | cons name names =>
      rw [← absolute_cons]
      exact passed_absolute (fun part hpart => h part (List.mem_append_left _ hpart)) (by simp)
  have hne : names ++ [last] ≠ [] := by simp
  have hpathOption : isOption f.path = false := by
    have hhead : f.path.head? = some 0x2f := by
      rw [hpath]
      cases names <;> simp [absolute, List.intercalate]
    simp [isOption, hhead]
  simp only [Lands, Node.mkdirWorks, Node.makeDirs, Node.setWorks, hoption, hpathOption, hpassed,
    Bool.false_eq_true, if_false, List.all_eq_true, Bool.or_eq_true, List.contains_iff_mem]
  refine and_congr_right fun _ => and_congr_left fun _ => ?_
  show (leads _ _ _ && _) = true ↔ _
  rw [Bool.and_eq_true, hpath, leads_names h, locate_absolute h hne]

/-! ## A sample node -/

/-- `gzip` of `"hi\n"`. -/
def zipped : Bytes :=
  [0x1f, 0x8b, 0x08, 0x00, 0x00, 0x00, 0x00, 0x00, 0x02, 0x03, 0xcb, 0xc8, 0xe4, 0x02, 0x00, 0x7a, 0x7a,
    0x6f, 0xed, 0x03, 0x00, 0x00, 0x00]

/-- A node on which everything can be written where no file is in the way, and `gunzip` as far as the
sample needs it. -/
def sampleNode : Node where
  gunzip s := if s = zipped then some (bytes "hi\n") else none
  cwd := []
  makes files l := (files (absolute l)).isNone
  writes _ := true
  sets _ _ _ := true
  informs args := args.getLast? == some (bytes "--help")

theorem sampleNode_rejectsText : RejectsText sampleNode.gunzip := by
  intro s hs
  refine if_neg ?_
  rintro rfl
  rcases hs 0x1f List.mem_cons_self with h | h
  · exact h.ne (by decide) (by decide) rfl
  · cases h

/-- No files yet, and no directories but the root. -/
def emptyNode : State (List Location) where
  files _ := none
  rest := []

-- paths that the section cannot write: taken for options, through a directory that is not there, a directory
example : ¬ Lands sampleNode { path := bytes "-x/y", content := [] } [] fun _ => none := by decide
example : ¬ Lands sampleNode { path := bytes "-x", content := [], permissions := bytes "0600" } []
    fun _ => none := by decide
example : ¬ Lands sampleNode { path := bytes "/opt/new/../etc/x", content := [] } [] fun _ => none := by
  decide
example : ¬ Lands sampleNode { path := bytes "/etc/x/", content := [] } [] fun _ => none := by decide

/-- A plain entry at a path with a quote, a base64 entry that is appended to it, and one at a path that
leaves a directory again. -/
def sampleFiles : List WriteFile :=
  [{ path := bytes "/etc/it's", content := bytes "a\n", permissions := bytes "0640" },
    { path := bytes "/etc/it's", content := bytes "Ygo=", encoding := bytes "b64", append := true },
    { path := bytes "/etc/../-x", content := bytes "c\n" }]

/-- All of them are installed. -/
theorem writeFiles_installed_sample : ∃ script, writeFilesSection sampleFiles = .ok script ∧
    Installs sampleNode [] sampleFiles script emptyNode := by
  have haccepted : (writeFilesSection sampleFiles).isOk = true := by decide +kernel
  cases hscript : writeFilesSection sampleFiles with
  | error e =>
    rw [hscript] at haccepted
    cases haccepted
  | ok script =>
    have hnul : ∀ f ∈ sampleFiles, 0 ∉ f.path ∧ 0 ∉ f.permissions ∧ 0 ∉ f.owner := by decide
    refine ⟨script, rfl, ?_⟩
    refine (writeFiles_installed_iff sampleNode_rejectsText hscript
      (fun f hf => ⟨(hnul f hf).1, (hnul f hf).2.1, (hnul f hf).2.2⟩) [] emptyNode).2 ?_
    decide

/-- An entry that is gzip-compressed and base64-encoded. -/
def sampleGzip : WriteFile where
  path := bytes "/etc/hi"
  content := bytes "H4sIAAAAAAACA8vI5AIAenpv7QMAAAA="
  encoding := bytes "gz+b64"

/-- cloud-init writes `"hi\n"`; the section fails, whatever its input is. -/
theorem gzip_not_installed : ∃ script, writeFilesSection [sampleGzip] = .ok script ∧
    NoNul sampleGzip ∧ AllLand sampleNode [sampleGzip] emptyNode.rest emptyNode.files ∧
    RejectsText sampleNode.gunzip ∧
    (cloudInit sampleNode.gunzip [sampleGzip] emptyNode.files).map (· (bytes "/etc/hi")) =
      some (some (bytes "hi\n")) ∧
    ∀ stdin, ¬ Installs sampleNode stdin [sampleGzip] script emptyNode := by
  have haccepted : (writeFilesSection [sampleGzip]).isOk = true := by decide +kernel
  have hnul : NoNul sampleGzip := ⟨by decide, by decide, by decide⟩
  cases hscript : writeFilesSection [sampleGzip] with
  | error e =>
    rw [hscript] at haccepted
    cases haccepted
  | ok script =>
    rcases parse_writeFilesSection hscript with ⟨text, htext, hparse⟩
    refine ⟨script, rfl, hnul, by decide +kernel, sampleNode_rejectsText, by decide +kernel, ?_⟩
    intro stdin hinstalls
    have hentries : Installs sampleNode stdin [sampleGzip] text emptyNode := by
      rw [Installs, run, hparse] at hinstalls
      exact hinstalls
    have hgzip := ((writeEntries_iff sampleNode_rejectsText htext
      (fun f hf => List.mem_singleton.1 hf ▸ hnul)).1 hentries).1 sampleGzip List.mem_cons_self
    exact absurd hgzip (by decide)

end VerdaCapi.Bootstrap
