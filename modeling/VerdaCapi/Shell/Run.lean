import VerdaCapi.Shell.Syntax

/-!
# Running a script

A script runs on a `Host`, which says what the programs do that it calls and which files can be
opened. The shell itself sets up redirections and pipelines, under `set -e -o pipefail`: it stops at
the first pipeline of which any command fails.

Files are a map from paths to contents. The commands of a pipeline run one after the other here; that
makes no difference as long as they do not touch the same files.
-/

namespace Shell

variable {σ : Type}

/-- The programs of a machine. What they change besides files is a state `σ`. -/
structure Host (σ : Type) where
  /-- Run a program with these arguments and this input: its output, or `none` if it fails. -/
  exec : List Text → Text → σ → Option (Text × σ)
  /-- Whether a path can be opened for writing. -/
  opens : σ → Text → Bool
  /-- What the program makes of the files, or `none` if it fails because of them. -/
  changes : List Text → σ → (Text → Option Text) → Option (Text → Option Text) := fun _ _ files => some files

structure State (σ : Type) where
  files : Text → Option Text
  rest : σ

/-- Replace the content of a file. -/
def State.write (st : State σ) (path content : Text) : State σ :=
  { st with files := Function.update st.files path (some content) }

/-- The content of a file; one that does not exist is empty. -/
def State.content (st : State σ) (path : Text) : Text := (st.files path).getD []

/-- A state, and whether the script goes on. -/
abbrev Outcome (σ : Type) := State σ × Bool

/-- Go on unless something failed. -/
def Outcome.next (r : Outcome σ) (k : State σ → Outcome σ) : Outcome σ := if r.2 then k r.1 else r

theorem Outcome.next_done (r : Outcome σ) : r.next (fun st => (st, true)) = r := by
  rcases r with ⟨st, _ | _⟩ <;> rfl

/-- The streams of a command while its redirections are set up. -/
structure Streams (σ : Type) where
  state : State σ
  stdin : Text
  stdout : Option Text := none

/-- Set up redirections from left to right; false if a file cannot be opened. -/
def redirect (H : Host σ) : List Redir → Streams σ → Streams σ × Bool
  | [], io => (io, true)
  | .out p :: rs, io =>
    if H.opens io.state.rest p then
      redirect H rs { io with state := io.state.write p [], stdout := some p }
    else (io, false)
  | .append p :: rs, io =>
    if H.opens io.state.rest p then
      redirect H rs { io with state := io.state.write p (io.state.content p), stdout := some p }
    else (io, false)
  | .doc body :: rs, io => redirect H rs { io with stdin := body }

/-- Run one command: the state after it, and its output unless it fails. -/
def runSimple (H : Host σ) (c : Simple) (stdin : Text) (st : State σ) : State σ × Option Text :=
  let (io, ok) := redirect H c.redirs { state := st, stdin := stdin }
  if !ok then (io.state, none)
  else
    match H.exec c.args io.stdin io.state.rest, H.changes c.args io.state.rest io.state.files with
    | some (output, rest), some files =>
      let st := { files := files, rest := rest }
      match io.stdout with
      | none => (st, some output)
      | some p => (st.write p (st.content p ++ output), some [])
    | _, _ => (io.state, none)

/-- Run a pipeline: each command reads the output of the one before it, unless it is redirected. -/
def runPipeline (H : Host σ) : Pipeline → Text → State σ → Outcome σ
  | [], _, st => (st, true)
  | c :: cs, stdin, st =>
    let (st, output) := runSimple H c stdin st
    let (st, ok) := runPipeline H cs (output.getD []) st
    (st, output.isSome && ok)

/-- Run the items of a script. Commands that are not redirected read `stdin`. -/
def runItems (H : Host σ) (stdin : Text) : List Item → State σ → Outcome σ
  | [], st => (st, true)
  | .bad :: _, st => (st, false)
  | .run p :: items, st => Outcome.next (runPipeline H p stdin st) (runItems H stdin items)

/-- Run a script. -/
def run (H : Host σ) (stdin script : Text) (st : State σ) : Outcome σ :=
  runItems H stdin (parse (.code {}) script) st

/-! ## Rules -/

section

variable {H : Host σ} {stdin : Text} {st : State σ}

theorem runItems_append (items₁ items₂ : List Item) :
    runItems H stdin (items₁ ++ items₂) st =
      Outcome.next (runItems H stdin items₁ st) (runItems H stdin items₂) := by
  induction items₁ generalizing st with
  | nil => rfl
  | cons item items ih =>
    cases item with
    | bad => rfl
    | run p =>
      show Outcome.next _ (runItems H stdin (items ++ items₂)) = _
      rcases hp : runPipeline H p stdin st with ⟨st', _ | _⟩
      · simp [runItems, hp, Outcome.next]
      · simp only [runItems, hp, Outcome.next, if_true]
        exact ih

/-- A command without redirections. -/
theorem runItems_command {args : List Text} {output : Text} {rest : σ} {files : Text → Option Text}
    (h : H.exec args stdin st.rest = some (output, rest))
    (hfiles : H.changes args st.rest st.files = some files) :
    runItems H stdin [.run [{ args := args }]] st = ({ files := files, rest := rest }, true) := by
  simp [runItems, runPipeline, runSimple, redirect, h, hfiles, Outcome.next]

/-- A command without redirections that fails because of the files. -/
theorem runItems_command_fails {args : List Text} (hfiles : H.changes args st.rest st.files = none) :
    runItems H stdin [.run [{ args := args }]] st = (st, false) := by
  simp [runItems, runPipeline, runSimple, redirect, hfiles, Outcome.next]

/-- The redirection that overwrites a file or appends to it. -/
def redirTo (append : Bool) (path : Text) : Redir := if append then .append path else .out path

/-- Where a redirected command starts to write. -/
def State.opened (st : State σ) (append : Bool) (path : Text) : State σ :=
  st.write path (if append then st.content path else [])

theorem redirect_to_doc {append : Bool} {path body : Text} (h : H.opens st.rest path = true) :
    redirect H [redirTo append path, .doc body] { state := st, stdin := stdin } =
      ({ state := st.opened append path, stdin := body, stdout := some path }, true) := by
  cases append <;> simp [redirTo, redirect, h, State.opened]

/-- A command that turns a here-document into a file. -/
theorem runSimple_doc {args : List Text} {append : Bool} {path body output : Text} {rest : σ}
    (hopens : H.opens st.rest path = true) (hexec : H.exec args body st.rest = some (output, rest))
    (hfiles : ∀ files, H.changes args st.rest files = some files) :
    runSimple H { args := args, redirs := [redirTo append path, .doc body] } stdin st =
      ({ st.write path ((if append then st.content path else []) ++ output) with rest := rest },
        some []) := by
  have hrest : (st.opened append path).rest = st.rest := rfl
  simp only [runSimple, redirect_to_doc hopens, hrest, hexec, hfiles]
  simp [State.opened, State.write, State.content]

/-- A command with a here-document that fails. -/
theorem runSimple_doc_fails {args : List Text} {append : Bool} {path body : Text}
    (hopens : H.opens st.rest path = true) (hexec : H.exec args body st.rest = none) :
    runSimple H { args := args, redirs := [redirTo append path, .doc body] } stdin st =
      (st.opened append path, none) := by
  have hrest : (st.opened append path).rest = st.rest := rfl
  simp only [runSimple, redirect_to_doc hopens, hrest, hexec]
  simp

end

end Shell
