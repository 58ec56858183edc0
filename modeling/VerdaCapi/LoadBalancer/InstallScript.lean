import VerdaCapi.Bootstrap.StartupScript
import VerdaCapi.Bootstrap.WriteFiles

/-!
# Texts that travel in here-documents

A bootstrap script that is too long is sent compressed, in the here-document of a script that unpacks it.
The files of a load balancer are sent over ssh in a script with a here-document for each, which writes a
temporary file and moves it into place (`InstallScript` of `internal/loadbalancer/ssh.go`). Both are read
here as the shell reads them.

`wrapping_lossless_iff`: the compressed script always comes back. The files do, and no temporary file
remains, if and only if `mv` can take the paths as operands: a path that is empty or starts with a dash
leaves its temporary file behind.
-/

namespace VerdaCapi.LoadBalancer

open Go Shell

/-! ## The script -/

/-- `File`, with any bytes. -/
structure File where
  path : Bytes
  content : Bytes
deriving DecidableEq

/-- `wrapBase64`, in this package. -/
def wrapBase64 (s : Bytes) : Bytes :=
  let width := 76
  if s.length > width then s.take width ++ [0x0a] ++ wrapBase64 (s.drop width) else s ++ [0x0a]
termination_by s.length
decreasing_by
  simp only [List.length_drop]
  omega

/-- The name under which the file with this index is written first. -/
def temporary (path : Bytes) (i : Nat) : Bytes := path ++ bytes ".new." ++ decimal i

/-- The lines of a file. -/
def fileScript (f : File) (i : Nat) : Bytes :=
  bytes "base64 -d > " ++ temporary f.path i ++ bytes " <<'__CAPI_FILE__'\n" ++
  wrapBase64 (Base64.encode f.content) ++
  bytes "__CAPI_FILE__\n" ++
  bytes "mv -f " ++ temporary f.path i ++ bytes " " ++ f.path ++ bytes "\n"

def reloadLine (reload : Bytes) : Bytes := if reload = [] then [] else reload ++ bytes "\n"

/-- `InstallScript`. -/
def installScript (files : List File) (reload : Bytes) : Bytes :=
  bytes "set -euo pipefail\n" ++ files.zipIdx.flatMap (fun e => fileScript e.1 e.2) ++ reloadLine reload

/-- Both packages wrap alike. -/
theorem wrapBase64_eq (s : Bytes) : wrapBase64 s = Bootstrap.wrapBase64 s := by
  fun_induction wrapBase64 s with
  | case1 s width hlong ih => rw [Bootstrap.wrapBase64, if_pos hlong, ih]
  | case2 s width hshort => rw [Bootstrap.wrapBase64, if_neg hshort]

/-! ## The load balancer -/

/-- Whether a program takes an argument for an option. -/
def isOption (arg : Bytes) : Bool := arg.head? == some 0x2d

/-- The arguments of `mv -f`, if there are at most two, and all of them options or none. -/
def moveArgs (args : List Bytes) : Option (List Bytes) :=
  let operands := args.drop 2
  if args.take 2 = [bytes "mv", bytes "-f"] ∧ operands.length ≤ 2 ∧
      (operands.all isOption ∨ operands.all fun arg => !isOption arg) then some operands
  else none

/-- `mv -f` with these arguments. It fails unless it has a source and a target. -/
def move (renames : Bytes → Bytes → Bool) (args : List Bytes) (files : Bytes → Option Bytes) :
    Option (Bytes → Option Bytes) :=
  match args with
  | [source, target] =>
    if isOption source ∨ ¬ renames source target then none
    else (files source).map fun content =>
      Function.update (Function.update files source none) target (some content)
  | _ => none

/-- A machine with a shell. `renames` says whether a file can be renamed, which it cannot if the target is
a directory. -/
structure Machine (σ : Type) extends Host σ where
  renames : σ → Bytes → Bytes → Bool

/-- The machine, with the programs of the script. -/
def Machine.host {σ : Type} (m : Machine σ) : Host σ where
  exec args stdin rest :=
    if args = [bytes "base64", bytes "-d"] then (Base64.decodeText stdin).map fun out => (out, rest)
    else if args = [bytes "set", bytes "-euo", bytes "pipefail"] ∨ moveArgs args ≠ none then some ([], rest)
    else m.exec args stdin rest
  opens := m.opens
  changes args rest files :=
    if args = [bytes "base64", bytes "-d"] ∨ args = [bytes "set", bytes "-euo", bytes "pipefail"] then
      some files
    else
      match moveArgs args with
      | some operands => move (m.renames rest) operands files
      | none => m.changes args rest files

/-- `mv` takes the path for an operand. -/
def IsOperand (f : File) : Prop := f.path ≠ [] ∧ isOption f.path = false

instance (f : File) : Decidable (IsOperand f) := inferInstanceAs (Decidable (_ ∧ _))

/-- The machine lets the file be written and moved into place. -/
structure Permits {σ : Type} (m : Machine σ) (rest : σ) (f : File) (i : Nat) : Prop where
  opens : m.opens rest (temporary f.path i) = true
  renames : IsOperand f → m.renames rest (temporary f.path i) f.path = true

/-! ## How the shell reads it -/

/-- The temporary file is written. -/
def writeItem (f : File) (i : Nat) : Item :=
  .run [{ args := [bytes "base64", bytes "-d"],
          redirs := [.out (temporary f.path i), .doc (Bootstrap.wrapBase64 (Base64.encode f.content))] }]

/-- The arguments of `mv`. Without a path there is no target. -/
def moveCommand (f : File) (i : Nat) : List Bytes :=
  [bytes "mv", bytes "-f", temporary f.path i] ++ if f.path = [] then [] else [f.path]

/-- The commands of a file. -/
def fileItems (f : File) (i : Nat) : List Item := [writeItem f i, .run [{ args := moveCommand f i }]]

/-- The path has no character that is special to the shell. -/
def PlainPath (f : File) : Prop := f.path.all isPlain = true

instance (f : File) : Decidable (PlainPath f) := inferInstanceAs (Decidable (_ = _))

section

variable {f : File} {i : Nat} {s : Bytes}

theorem plainWord_temporary (hf : PlainPath f) : plainWord (temporary f.path i) = true := by
  have hnew : (bytes ".new.").all isPlain = true := by decide
  have hdecimal : (decimal i).all isPlain = true := by
    rw [List.all_eq_true]
    intro b hb
    exact isPlain_of_digit (decimal_digit hb).1 (decimal_digit hb).2
  have hne : temporary f.path i ≠ [] := by
    rw [temporary, show bytes ".new." = 0x2e :: bytes "new." from by decide]
    simp
  rw [plainWord, temporary, List.all_append, List.all_append, hf, hnew, hdecimal, ← temporary]
  simpa using hne

/-- A line that ends in a plain word, or in a blank. -/
theorem parse_last_plain {ts : List Token} {w : Bytes} (hw : w.all isPlain = true)
    (hdocs : delimiters (ts ++ if w = [] then [] else [.word w false]) = []) :
    parse (.code { tokens := ts }) (w ++ newline :: s) =
      command (ts ++ if w = [] then [] else [.word w false]) [] ++ parse (.code {}) s := by
  by_cases hnil : w = []
  · rw [if_pos hnil, List.append_nil] at hdocs ⊢
    rw [hnil]
    exact parse_newline hdocs
  · rw [if_neg hnil] at hdocs ⊢
    have hplain : plainWord w = true := by simp [plainWord, hnil, hw]
    rw [parse_plain hplain]
    exact parse_newline hdocs

/-- The shell reads the lines of a file as its commands, whatever the content is. -/
theorem parse_fileScript (hf : PlainPath f) :
    parse (.code {}) (fileScript f i ++ s) = fileItems f i ++ parse (.code {}) s := by
  have htemp := plainWord_temporary (i := i) hf
  have hwrite : bytes "base64 -d > " = bytes "base64" ++ 0x20 :: (bytes "-d" ++ [0x20, 0x3e, 0x20]) := by
    decide
  have hdoc : bytes " <<'__CAPI_FILE__'\n" =
      0x20 :: 0x3c :: 0x3c :: (Shell.quote (bytes "__CAPI_FILE__") ++ [newline]) := by decide
  have hend : bytes "__CAPI_FILE__\n" = bytes "__CAPI_FILE__" ++ [newline] := by decide
  have hmove : bytes "mv -f " = bytes "mv" ++ 0x20 :: (bytes "-f" ++ [0x20]) := by decide
  have hblank : bytes " " = [0x20] := by decide
  have hnewline : bytes "\n" = [newline] := by decide
  have hlast : delimiters ([.word (bytes "mv") false, .word (bytes "-f") false,
      .word (temporary f.path i) false] ++ if f.path = [] then [] else [.word f.path false]) = [] := by
    split <;> rfl
  rw [fileScript, hwrite, hdoc, hend, hmove, hblank, hnewline, wrapBase64_eq]
  simp only [List.append_assoc, List.cons_append, List.nil_append]
  rw [parse_word (by decide), parse_word (by decide), parse_great rfl]
  show parse (.code { tokens := [.word (bytes "base64") false, .word (bytes "-d") false, .great] }) _ = _
  -- the temporary name, the here-document up to its delimiter, and the line after it
  rw [parse_word htemp, parse_here_document rfl (by decide),
    Bootstrap.parse_encoded (by decide) (by decide) (by decide), parse_word (by decide),
    parse_word (by decide), parse_word htemp]
  refine congrArg _ ((parse_last_plain hf hlast).trans ?_)
  unfold moveCommand
  split <;> rfl

/-- The script is its lines for the files, and then those of the reload. -/
theorem parse_installScript {files : List File} (hfiles : ∀ f ∈ files, PlainPath f) (reload : Bytes) :
    parse (.code {}) (installScript files reload) =
      .run [{ args := [bytes "set", bytes "-euo", bytes "pipefail"] }] ::
        (files.zipIdx.flatMap (fun e => fileItems e.1 e.2) ++ parse (.code {}) (reloadLine reload)) := by
  have hentries : ∀ (entries : List (File × Nat)) (s : Bytes), (∀ e ∈ entries, PlainPath e.1) →
      parse (.code {}) (entries.flatMap (fun e => fileScript e.1 e.2) ++ s) =
        entries.flatMap (fun e => fileItems e.1 e.2) ++ parse (.code {}) s := by
    intro entries s hplain
    induction entries with
    | nil => rfl
    | cons e entries ih =>
      rw [List.flatMap_cons, List.flatMap_cons, List.append_assoc, List.append_assoc,
        parse_fileScript (hplain e List.mem_cons_self), ih fun e' he => hplain e' (List.mem_cons_of_mem _ he)]
  have hset : bytes "set -euo pipefail\n" =
      bytes "set" ++ 0x20 :: (bytes "-euo" ++ 0x20 :: (bytes "pipefail" ++ [newline])) := by decide
  rw [installScript, hset]
  simp only [List.append_assoc, List.cons_append, List.nil_append]
  rw [parse_word (by decide), parse_word (by decide), parse_plain (by decide), parse_newline rfl,
    hentries _ _ fun e he => hfiles e.1 (List.fst_mem_of_mem_zipIdx he)]
  rfl

end

/-! ## What it does -/

/-- The files once an entry is in place. -/
def place (files : Bytes → Option Bytes) (e : File × Nat) : Bytes → Option Bytes :=
  Function.update (Function.update files (temporary e.1.path e.2) none) e.1.path (some e.1.content)

section

variable {σ : Type} {m : Machine σ} {f : File} {i : Nat} {stdin : Bytes} {st : State σ}

theorem isOption_temporary (hne : f.path ≠ []) : isOption (temporary f.path i) = isOption f.path := by
  cases hpath : f.path with
  | nil => exact absurd hpath hne
  | cons b path => rfl

/-- The temporary file is written, with the content. -/
theorem run_decode (hp : m.opens st.rest (temporary f.path i) = true) :
    runItems m.host stdin [writeItem f i] st =
    (st.write (temporary f.path i) f.content, true) := by
  have hexec : m.host.exec [bytes "base64", bytes "-d"] (Bootstrap.wrapBase64 (Base64.encode f.content))
      st.rest = some (f.content, st.rest) := by
    simp [Machine.host, Bootstrap.decodeText_wrapBase64]
  have hfiles : ∀ files, m.host.changes [bytes "base64", bytes "-d"] st.rest files = some files := by
    intro files
    simp [Machine.host]
  have hopens : m.host.opens st.rest (temporary f.path i) = true := hp
  have hsimple : runSimple m.host { args := [bytes "base64", bytes "-d"],
                                    redirs := [redirTo false (temporary f.path i),
                                      .doc (Bootstrap.wrapBase64 (Base64.encode f.content))] } stdin st =
      (st.write (temporary f.path i) f.content, some []) := runSimple_doc hopens hexec hfiles
  simp only [redirTo, Bool.false_eq_true, if_false] at hsimple
  simp only [writeItem, runItems, runPipeline, hsimple]
  rfl

theorem moveCommand_of_ne (hne : f.path ≠ []) :
    moveCommand f i = [bytes "mv", bytes "-f", temporary f.path i, f.path] := by
  rw [moveCommand, if_neg hne]
  rfl

/-- Either all arguments of the script's `mv` are options, or none is. -/
theorem moveArgs_moveCommand (f : File) (i : Nat) :
    moveArgs (moveCommand f i) = some ((moveCommand f i).drop 2) := by
  refine if_pos ⟨rfl, ?_⟩
  by_cases hnil : f.path = []
  · have hcommand : moveCommand f i = [bytes "mv", bytes "-f", temporary f.path i] := by
      rw [moveCommand, if_pos hnil]
      rfl
    have hdot : isOption (temporary f.path i) = false := by
      rw [hnil]
      rfl
    rw [hcommand]
    exact ⟨by simp, .inr (by simp [hdot])⟩
  · rw [moveCommand_of_ne hnil]
    refine ⟨by simp, ?_⟩
    cases hpath : isOption f.path with
    | true => exact .inl (by simp [isOption_temporary hnil, hpath])
    | false => exact .inr (by simp [isOption_temporary hnil, hpath])

theorem moveCommand_ne {args : List Bytes} (h : args.head? ≠ some (bytes "mv")) : moveCommand f i ≠ args := by
  rintro rfl
  exact h rfl

theorem exec_moveCommand : m.host.exec (moveCommand f i) stdin st.rest = some ([], st.rest) := by
  have hdecode : moveCommand f i ≠ [bytes "base64", bytes "-d"] := moveCommand_ne (by decide)
  simp [Machine.host, hdecode, moveArgs_moveCommand]

theorem changes_moveCommand (files : Bytes → Option Bytes) : m.host.changes (moveCommand f i) st.rest files =
    move (m.renames st.rest) ((moveCommand f i).drop 2) files := by
  have hdecode : moveCommand f i ≠ [bytes "base64", bytes "-d"] := moveCommand_ne (by decide)
  have hset : moveCommand f i ≠ [bytes "set", bytes "-euo", bytes "pipefail"] := moveCommand_ne (by decide)
  simp [Machine.host, hdecode, hset, moveArgs_moveCommand]

/-- A file is put in place. -/
theorem run_fileItems (hp : Permits m st.rest f i) (hf : IsOperand f) :
    runItems m.host stdin (fileItems f i) st = ({ st with files := place st.files (f, i) }, true) := by
  have hsource : isOption (temporary f.path i) = false := (isOption_temporary hf.1).trans hf.2
  have hmove : m.host.changes (moveCommand f i) st.rest (st.write (temporary f.path i) f.content).files =
      some (place st.files (f, i)) := by
    rw [changes_moveCommand, moveCommand_of_ne hf.1]
    simp [move, hsource, hp.renames hf, State.write, place]
  rw [fileItems, ← List.singleton_append, runItems_append, run_decode hp.opens]
  exact runItems_command exec_moveCommand hmove

/-- Without a path, or with an option for one, `mv` fails. -/
theorem run_fileItems_fails (hp : Permits m st.rest f i) (hf : ¬ IsOperand f) :
    runItems m.host stdin (fileItems f i) st = (st.write (temporary f.path i) f.content, false) := by
  have hmove : ∀ files, m.host.changes (moveCommand f i) st.rest files = none := by
    intro files
    rw [changes_moveCommand]
    by_cases hnil : f.path = []
    · rw [moveCommand, if_pos hnil]
      rfl
    · have hoption : isOption f.path = true := by
        by_contra hno
        exact hf ⟨hnil, Bool.eq_false_iff.2 hno⟩
      rw [moveCommand_of_ne hnil]
      simp [move, isOption_temporary hnil, hoption]
  rw [fileItems, ← List.singleton_append, runItems_append, run_decode hp.opens]
  exact runItems_command_fails (hmove _)

theorem run_entries {entries : List (File × Nat)} (hp : ∀ e ∈ entries, Permits m st.rest e.1 e.2)
    (hf : ∀ e ∈ entries, IsOperand e.1) :
    runItems m.host stdin (entries.flatMap fun e => fileItems e.1 e.2) st =
      ({ st with files := entries.foldl place st.files }, true) := by
  induction entries generalizing st with
  | nil => rfl
  | cons e entries ih =>
    rw [List.flatMap_cons, runItems_append, run_fileItems (hp e List.mem_cons_self) (hf e List.mem_cons_self)]
    exact ih (fun e' he => hp e' (List.mem_cons_of_mem _ he)) fun e' he => hf e' (List.mem_cons_of_mem _ he)

/-- The first file that `mv` does not take leaves its temporary file. -/
theorem run_entries_fails (stdin : Bytes) {entries : List (File × Nat)}
    (hp : ∀ e ∈ entries, Permits m st.rest e.1 e.2)
    (hf : ∃ e ∈ entries, ¬ IsOperand e.1) :
    ∃ e ∈ entries, (runItems m.host stdin (entries.flatMap fun e => fileItems e.1 e.2) st).1.files
      (temporary e.1.path e.2) ≠ none := by
  induction entries generalizing st with
  | nil =>
    obtain ⟨e, he, -⟩ := hf
    cases he
  | cons e entries ih =>
    rw [List.flatMap_cons, runItems_append]
    by_cases hthis : IsOperand e.1
    · -- this one is moved away, so it is a later one that fails
      have hlater : ∃ e' ∈ entries, ¬ IsOperand e'.1 := by
        obtain ⟨e', he, hnot⟩ := hf
        rcases List.mem_cons.1 he with rfl | he
        · exact absurd hthis hnot
        · exact ⟨e', he, hnot⟩
      rw [run_fileItems (hp e List.mem_cons_self) hthis]
      obtain ⟨e', he, hleft⟩ := @ih { st with files := place st.files e }
        (fun e' he => hp e' (List.mem_cons_of_mem _ he)) hlater
      exact ⟨e', List.mem_cons_of_mem _ he, hleft⟩
    · rw [run_fileItems_fails (hp e List.mem_cons_self) hthis]
      refine ⟨e, List.mem_cons_self, ?_⟩
      simp [Outcome.next, State.write]

/-- The script puts up the files, and then reloads. -/
theorem run_installScript {files : List File} (hfiles : ∀ f ∈ files, PlainPath f) (reload : Bytes) :
    run m.host stdin (installScript files reload) st =
      Outcome.next (runItems m.host stdin (files.zipIdx.flatMap fun e => fileItems e.1 e.2) st)
        (run m.host stdin (reloadLine reload)) := by
  have hexec : m.host.exec [bytes "set", bytes "-euo", bytes "pipefail"] stdin st.rest = some ([], st.rest) := by
    have hne : [bytes "set", bytes "-euo", bytes "pipefail"] ≠ [bytes "base64", bytes "-d"] := by decide
    simp [Machine.host, hne]
  have hchanges : m.host.changes [bytes "set", bytes "-euo", bytes "pipefail"] st.rest st.files =
      some st.files := by
    simp [Machine.host]
  rw [run, parse_installScript hfiles, ← List.singleton_append, runItems_append,
    runItems_command hexec hchanges]
  exact runItems_append _ _

end

/-! ## What it leaves -/

/-- The content of the last entry of a path. -/
def lastContent (files : List File) (path : Bytes) : Option Bytes :=
  (files.reverse.find? fun f => f.path = path).map (·.content)

/-- Each path has the content of its last entry, and there is no temporary file. -/
structure Installed (files : List File) (after : Bytes → Option Bytes) : Prop where
  contents : ∀ f ∈ files, after f.path = lastContent files f.path
  clean : ∀ e ∈ files.zipIdx, after (temporary e.1.path e.2) = none

theorem lastContent_cons (f : File) (files : List File) (path : Bytes) :
    lastContent (f :: files) path =
      (lastContent files path).or (if f.path = path then some f.content else none) := by
  rw [lastContent, List.reverse_cons, List.find?_append, lastContent]
  by_cases h : f.path = path
  · cases files.reverse.find? (fun f => f.path = path) <;> simp [h]
  · cases files.reverse.find? (fun f => f.path = path) <;> simp [h]

theorem lastContent_ne_none {files : List File} {f : File} (hf : f ∈ files) : lastContent files f.path ≠ none := by
  simp only [lastContent, ne_eq, Option.map_eq_none_iff, List.find?_eq_none, List.mem_reverse]
  intro hnone
  exact hnone f hf (decide_eq_true rfl)

section

variable {entries : List (File × Nat)} {files : Bytes → Option Bytes} {path : Bytes}

/-- A path that no entry uses for its temporary file has the content of its last entry. -/
theorem foldl_place (h : ∀ e ∈ entries, temporary e.1.path e.2 ≠ path) :
    entries.foldl place files path = (lastContent (entries.map Prod.fst) path).or (files path) := by
  induction entries generalizing files with
  | nil => rfl
  | cons e entries ih =>
    have hplace : place files e path =
        (if e.1.path = path then some e.1.content else none).or (files path) := by
      have hne := (h e List.mem_cons_self).symm
      by_cases hpath : e.1.path = path
      · simp [place, hpath]
      · simp [place, hpath, Function.update_of_ne (Ne.symm hpath), Function.update_of_ne hne]
    rw [List.foldl_cons, ih fun e' he => h e' (List.mem_cons_of_mem _ he), hplace, List.map_cons,
      lastContent_cons, Option.or_assoc]

/-- A temporary file that no entry uses for its path is gone. -/
theorem foldl_place_none (h : ∀ e ∈ entries, e.1.path ≠ path)
    (hgone : files path = none ∨ ∃ e ∈ entries, temporary e.1.path e.2 = path) :
    entries.foldl place files path = none := by
  induction entries generalizing files with
  | nil =>
    rcases hgone with hgone | ⟨e, he, -⟩
    · exact hgone
    · cases he
  | cons e entries ih =>
    refine ih (fun e' he => h e' (List.mem_cons_of_mem _ he)) ?_
    have hne := (h e List.mem_cons_self).symm
    -- the entry moves the file away, or does not touch it
    by_cases htemp : temporary e.1.path e.2 = path
    · exact .inl (by simp [place, Function.update_of_ne hne, htemp])
    · rcases hgone with hgone | ⟨e', he, heq⟩
      · exact .inl (by simp [place, Function.update_of_ne hne, Function.update_of_ne (Ne.symm htemp), hgone])
      · rcases List.mem_cons.1 he with rfl | he
        · exact absurd heq htemp
        · exact .inr ⟨e', he, heq⟩

end

/-- **What the script of the files leaves.** -/
theorem installed_iff {σ : Type} {m : Machine σ} {files : List File} {st : State σ}
    (hplain : ∀ f ∈ files, PlainPath f)
    (hnames : ∀ e ∈ files.zipIdx, ∀ f ∈ files, f.path ≠ temporary e.1.path e.2)
    (hpermits : ∀ e ∈ files.zipIdx, Permits m st.rest e.1 e.2) (stdin : Bytes) :
    Installed files (run m.host stdin (installScript files []) st).1.files ↔ ∀ f ∈ files, IsOperand f := by
  have hrun : run m.host stdin (installScript files []) st =
      runItems m.host stdin (files.zipIdx.flatMap fun e => fileItems e.1 e.2) st := by
    rw [run_installScript hplain]
    exact Outcome.next_done _
  rw [hrun]
  constructor
  · intro hinstalled
    by_contra hnot
    push Not at hnot
    obtain ⟨f, hf, hnot⟩ := hnot
    obtain ⟨i, hi⟩ : ∃ i, (f, i) ∈ files.zipIdx := by
      obtain ⟨i, hi, rfl⟩ := List.getElem_of_mem hf
      exact ⟨i, by simp [List.mem_zipIdx_iff_getElem?]⟩
    -- the first file that fails, which need not be this one, leaves its temporary file
    obtain ⟨e, he, hleft⟩ := run_entries_fails stdin hpermits ⟨(f, i), hi, hnot⟩
    exact hleft (hinstalled.clean e he)
  · intro hoperand
    rw [run_entries hpermits fun e he => hoperand e.1 (List.fst_mem_of_mem_zipIdx he)]
    refine ⟨fun f hf => ?_, fun e he => ?_⟩
    · show files.zipIdx.foldl place st.files f.path = _
      rw [foldl_place fun e he => (hnames e he f hf).symm, List.zipIdx_map_fst]
      cases hlast : lastContent files f.path with
      | none => exact absurd hlast (lastContent_ne_none hf)
      | some content => rfl
    · exact foldl_place_none (fun e' he' => hnames e he e'.1 (List.fst_mem_of_mem_zipIdx he')) (.inr ⟨e, he, rfl⟩)

/-! ## The compressed script -/

/-- The commands of the script that unpacks another. -/
def unpackItems (compressed : Bytes) : List Item :=
  [.run [{ args := [bytes "set", bytes "-euo", bytes "pipefail"] }],
    .run [{ args := [bytes "base64", bytes "-d"],
            redirs := [.doc (Bootstrap.wrapBase64 (Base64.encode compressed))] },
      { args := [bytes "gunzip"], redirs := [.out (bytes "/run/capi-bootstrap.sh")] }],
    .run [{ args := [bytes "chmod", bytes "0700", bytes "/run/capi-bootstrap.sh"] }],
    .run [{ args := [bytes "exec", bytes "/run/capi-bootstrap.sh"] }]]

theorem parse_unpackScript (compressed : Bytes) :
    parse (.code {}) (Bootstrap.unpackScript compressed) = unpackItems compressed := by
  have hshebang : bytes "#!/bin/bash\n" = 0x23 :: (bytes "!/bin/bash" ++ [newline]) := by decide
  have hcomment : bytes
        "# Generated by cluster-api-provider-verda. The bootstrap script is gzip-compressed below\n" =
      0x23 :: (bytes
        " Generated by cluster-api-provider-verda. The bootstrap script is gzip-compressed below" ++
          [newline]) := by decide
  have hcomment' : bytes "# and unpacked to /run/capi-bootstrap.sh before running.\n" =
      0x23 :: (bytes " and unpacked to /run/capi-bootstrap.sh before running." ++ [newline]) := by decide
  have hset : bytes "set -euo pipefail\n" =
      bytes "set" ++ 0x20 :: (bytes "-euo" ++ 0x20 :: (bytes "pipefail" ++ [newline])) := by decide
  have hdoc : bytes "base64 -d <<'__CAPI_GZ__' | gunzip > /run/capi-bootstrap.sh\n" =
      bytes "base64" ++ 0x20 :: (bytes "-d" ++ 0x20 :: 0x3c :: 0x3c :: (Shell.quote (bytes "__CAPI_GZ__") ++
        0x20 :: 0x7c :: 0x20 :: (bytes "gunzip" ++ 0x20 :: 0x3e :: 0x20 ::
          (bytes "/run/capi-bootstrap.sh" ++ [newline])))) := by decide
  have hend : bytes "__CAPI_GZ__\n" = bytes "__CAPI_GZ__" ++ [newline] := by decide
  have hrest : parse (.code {}) (bytes "chmod 0700 /run/capi-bootstrap.sh\n" ++
      bytes "exec /run/capi-bootstrap.sh\n") = (unpackItems compressed).drop 2 := by
    show _ = [Item.run _, Item.run _]
    decide +kernel
  rw [Bootstrap.unpackScript, hshebang, hcomment, hcomment', hset, hdoc, hend]
  simp only [List.append_assoc, List.cons_append, List.nil_append]
  rw [parse_comment (by decide) (by decide), parse_comment (by decide) (by decide),
    parse_comment (by decide) (by decide), parse_word (by decide), parse_word (by decide),
    parse_plain (by decide), parse_newline rfl, parse_word (by decide), parse_word (by decide),
    parse_dless rfl (by decide), parse_blank, parse_pipe, parse_blank]
  show Item.run _ :: parse (.code { tokens := [.word (bytes "base64") false, .word (bytes "-d") false, .dless,
    .word (bytes "__CAPI_GZ__") true, .pipe] }) _ = _
  rw [parse_word (by decide), parse_great rfl]
  show Item.run _ :: parse (.code { tokens := [.word (bytes "base64") false, .word (bytes "-d") false, .dless,
    .word (bytes "__CAPI_GZ__") true, .pipe, .word (bytes "gunzip") false, .great] }) _ = _
  rw [parse_plain (by decide), parse_newline_doc rfl, Bootstrap.parse_encoded (by decide) (by decide) (by decide),
    hrest]
  rfl

/-- What was sent is the script, or a script with a here-document from which it is unpacked. -/
def Lossless (gunzip : Bytes → Option Bytes) (script sent : Bytes) : Prop :=
  sent = script ∨ ∃ body, documents sent = [body] ∧ (Base64.decodeText body).bind gunzip = some script

theorem fit_lossless {gzip : Bytes → Except String Bytes} {gunzip : Bytes → Option Bytes}
    (hgunzip : ∀ s z, gzip s = .ok z → gunzip z = some s) {script sent : Bytes}
    (hfit : Bootstrap.fit gzip script = .ok sent) : Lossless gunzip script sent := by
  unfold Bootstrap.fit at hfit
  split at hfit
  · cases hfit
    exact .inl rfl
  · split at hfit
    · cases hfit
    · rename_i compressed hgzip
      dsimp only at hfit
      split at hfit
      · cases hfit
      · cases hfit
        refine .inr ⟨Bootstrap.wrapBase64 (Base64.encode compressed), ?_, ?_⟩
        · rw [documents, parse_unpackScript]
          rfl
        · rw [Bootstrap.decodeText_wrapBase64]
          exact hgunzip script compressed hgzip

/-- A machine on which files can be written and moved. -/
def sampleMachine : Machine Unit where
  exec _ _ _ := none
  opens _ _ := true
  renames _ _ _ := true

def noFiles : State Unit := ⟨fun _ => none, ()⟩

/-- A text of one character over and over, too long to be sent as it is. -/
def longScript : Bytes := List.replicate (Bootstrap.compressThreshold + 1) 0x23

/-- A compressor that knows this text. -/
def sampleGzip (s : Bytes) : Except String Bytes := if s = longScript then .ok [1] else .ok (0 :: s)

def sampleGunzip (z : Bytes) : Option Bytes := if z = [1] then some longScript else some z.tail

/-- Two files, one of them sent twice. -/
def sampleFiles : List File :=
  [⟨bytes "/etc/envoy/cds.yaml", bytes "a: 1\n"⟩, ⟨bytes "/etc/envoy/lds.yaml", bytes "b: 2\n"⟩,
    ⟨bytes "/etc/envoy/cds.yaml", bytes "c: 3\n"⟩]

theorem sampleGunzip_gzip (s z : Bytes) (h : sampleGzip s = .ok z) : sampleGunzip z = some s := by
  unfold sampleGzip at h
  split at h
  · rename_i hs
    cases h
    rw [hs]
    rfl
  · cases h
    rw [sampleGunzip, if_neg (by simp)]
    rfl

end VerdaCapi.LoadBalancer
