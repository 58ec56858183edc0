import VerdaCapi.Bootstrap.StartupScript
import VerdaCapi.Bootstrap.WriteFiles
import VerdaCapi.Shell.Words

/-!
# What the commands of a cloud-config run

An entry of `bootcmd` or `runcmd` is a line of shell text or a list of arguments. Once it is read, a list of
one argument is the same as a line, so `command.shell` emits that argument without quotes.

`commandShell_argv_iff`: the shell gets the arguments of a list, unless the list has only one and this is
not a word that means itself.
-/

namespace VerdaCapi.Bootstrap

open Go Shell

/-- The line for an entry. -/
def CommandEntry.line (entry : CommandEntry) : Option Bytes := entry.unmarshal.map commandShell

/-- The entry in list form with these arguments. -/
def CommandEntry.ofArgs (args : List Bytes) : CommandEntry := .list (args.map some)

theorem CommandEntry.line_text (s : Bytes) : (CommandEntry.text s).line = some s := rfl

theorem CommandEntry.line_ofArgs (args : List Bytes) :
    (CommandEntry.ofArgs args).line = some (commandShell args) := by
  have hargs : (args.map some).map (fun a : Option Bytes => a.getD []) = args := by
    simp [Function.comp_def]
  rw [CommandEntry.line, CommandEntry.ofArgs, CommandEntry.unmarshal, hargs]
  rfl

theorem commandShell_one (arg : Bytes) : commandShell [arg] = arg := rfl

/-- Lists of any other length are quoted argument by argument. -/
theorem commandShell_quoted {args : List Bytes} (h : args.length ≠ 1) : commandShell args = quoteAll args := by
  have hquote : shellQuote = Shell.quote := funext shellQuote_eq
  rw [commandShell, if_neg h, quoteAll, hquote]

/-- **Commands run with the arguments they were given**, if and only if a single argument is a word that
needs no quotes; and a line is emitted as it is. -/
theorem commandShell_argv_iff {args : List Bytes} (hne : args ≠ []) (hnul : ∀ a ∈ args, 0 ∉ a) (s : Bytes) :
    ((CommandEntry.ofArgs args).line.bind fields = some args ↔ ∀ arg, args = [arg] → literalWord arg = true) ∧
    (CommandEntry.text s).line = some s := by
  refine ⟨?_, CommandEntry.line_text s⟩
  rw [CommandEntry.line_ofArgs, Option.bind_some]
  by_cases hone : args.length = 1
  · obtain ⟨arg, rfl⟩ := List.length_eq_one_iff.1 hone
    rw [commandShell_one, fields_self_iff]
    constructor
    · rintro h _ ⟨⟩
      exact h
    · exact fun h => h arg rfl
  · rw [commandShell_quoted hone, fields_quoted hne hnul]
    simp only [true_iff]
    rintro arg rfl
    exact absurd rfl hone

/-- A blank and a quote in the arguments stay what they are. -/
theorem commandShell_argv_sample :
    (CommandEntry.ofArgs [bytes "/opt/my tool", bytes "it's"]).line.bind fields =
      some [bytes "/opt/my tool", bytes "it's"] := by
  refine (commandShell_argv_iff (by decide) (by decide) []).1.2 ?_
  rintro arg ⟨⟩

/-- A program with a blank in its name, as the only argument, is split in two. -/
theorem commandShell_splits :
    (CommandEntry.ofArgs [bytes "/opt/my tool"]).line = some (bytes "/opt/my tool") ∧
    fields (bytes "/opt/my tool") = some [bytes "/opt/my", bytes "tool"] := by
  refine ⟨CommandEntry.line_ofArgs _, ?_⟩
  decide +kernel

end VerdaCapi.Bootstrap
