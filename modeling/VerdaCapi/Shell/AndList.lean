import VerdaCapi.Shell.Run

/-!
# Lists of commands

One line of commands connected by `&&` and `;`, without quotes, as it is given to a remote shell. An
and-list stops at the first command that fails. Under `set -e` the shell exits when an and-list fails at
its last command, and goes on when it fails at an earlier one.
-/

namespace Shell

variable {σ : Type}

/-! ## Reading -/

/-- The texts between the occurrences of `&&`. -/
def cutAnd : Text → List Text
  | 0x26 :: 0x26 :: s => [] :: cutAnd s
  | b :: s => (cutAnd s).modifyHead (b :: ·)
  | [] => [[]]

/-- The texts between the occurrences of `;`. -/
def cutSemicolon : Text → List Text
  | 0x3b :: s => [] :: cutSemicolon s
  | b :: s => (cutSemicolon s).modifyHead (b :: ·)
  | [] => [[]]

/-- The characters that would hide a separator: quotes, backslashes and comments. -/
def hides (b : UInt8) : Bool := b == quoteMark || b == 0x22 || b == 0x5c || b == 0x23 || b == 0x60

/-- The and-lists of a line, each as the commands it connects; `none` if separators may be hidden. -/
def andLists (line : Text) : Option (List (List (List Item))) :=
  if line.any hides then none
  else some ((cutSemicolon line).map fun l => (cutAnd l).map (parse (.code {})))

/-! ## Running -/

/-- Run the commands of an and-list, up to the first that fails. -/
def runAnd (H : Host σ) (stdin : Text) : List (List Item) → State σ → Outcome σ
  | [], st => (st, true)
  | c :: cs, st => (runItems H stdin c st).next (runAnd H stdin cs)

/-- The and-list is `set -e`. -/
def setsErrexit (l : List (List Item)) : Bool :=
  l == [[.run [{ args := [[0x73, 0x65, 0x74], [0x2d, 0x65]] }]]]

/-- Run and-lists one after the other; the outcome is that of the last one that ran. -/
def runLists (H : Host σ) (stdin : Text) : Bool → List (List (List Item)) → State σ → Outcome σ
  | _, [], st => (st, true)
  | _, [l], st => runAnd H stdin l st
  | errexit, l :: l' :: ls, st =>
    let r := runAnd H stdin l st
    if errexit && !r.2 && (runAnd H stdin l.dropLast st).2 then r
    else runLists H stdin (errexit || setsErrexit l) (l' :: ls) r.1

/-- Run a line; `none` if it is not read here. -/
def runLine (H : Host σ) (stdin line : Text) (st : State σ) : Option (Outcome σ) :=
  (andLists line).map fun ls => runLists H stdin false ls st

/-! ## Rules -/

section

variable {H : Host σ} {stdin : Text} {st : State σ}

theorem Outcome.next_true (st : State σ) (k : State σ → Outcome σ) : Outcome.next (st, true) k = k st :=
  rfl

theorem Outcome.next_false (st : State σ) (k : State σ → Outcome σ) :
    Outcome.next (st, false) k = (st, false) := rfl

/-- A simple command with one redirected output, which succeeds. -/
theorem runItems_out {args : List Text} {path output : Text} {rest : σ} {files : Text → Option Text}
    (hopens : H.opens st.rest path = true) (hexec : H.exec args stdin st.rest = some (output, rest))
    (hfiles : H.changes args st.rest (st.write path []).files = some files) :
    runItems H stdin [.run [{ args := args, redirs := [.out path] }]] st =
      (({ files := files, rest := rest } : State σ).write path ((files path).getD [] ++ output), true) := by
  have hrest : (st.write path []).rest = st.rest := rfl
  simp [runItems, runPipeline, runSimple, redirect, hopens, hrest, hexec, hfiles, Outcome.next,
    State.content]

/-- One whose output cannot be opened. -/
theorem runItems_out_closed {args : List Text} {path : Text} (hopens : H.opens st.rest path = false) :
    runItems H stdin [.run [{ args := args, redirs := [.out path] }]] st = (st, false) := by
  simp [runItems, runPipeline, runSimple, redirect, hopens, Outcome.next]

/-- One that fails once its output is open. -/
theorem runItems_out_fails {args : List Text} {path : Text} (hopens : H.opens st.rest path = true)
    (hfails : H.exec args stdin st.rest = none ∨
      H.changes args st.rest (st.write path []).files = none) :
    runItems H stdin [.run [{ args := args, redirs := [.out path] }]] st = (st.write path [], false) := by
  have hrest : (st.write path []).rest = st.rest := rfl
  rcases hfails with hexec | hfiles
  · simp [runItems, runPipeline, runSimple, redirect, hopens, hrest, hexec, Outcome.next]
  · simp [runItems, runPipeline, runSimple, redirect, hopens, hrest, hfiles, Outcome.next]

/-- `set -e` and one and-list: the and-list decides. -/
theorem runLists_strict {l l' : List (List Item)} (hl : runAnd H stdin l st = (st, true)) :
    runLists H stdin false [l, l'] st = runAnd H stdin l' st := by
  simp [runLists, hl]

end

end Shell
