import MarkdownDialects.Cli.Run
import MarkdownDialects.Proofs.Cli.ExtraArgs

/-!
# The command that may be left out

Before the command there is no input.  So a first argument that is neither an option nor a command
stops the reading (`Cli.takeTop_of_operand`), and the arguments are read again behind `convert`.  A
command line that names its command is read once.  Both end in the same outcome
(`Cli.outcome_eq_outcome_convert`), since taking out the extra parameters does not see the
difference.
-/

namespace MarkdownDialects

namespace Cli

/-- An argument that is no option: it has no dash in front or is a single dash. -/
def IsOperand (arg : Text) : Prop := isDashed arg = false ∨ arg = ['-']

theorem IsOperand.extraKey?_eq_none {arg : Text} (operand : IsOperand arg) :
    extraKey? arg = none := by
  rcases operand with bare | rfl
  · refine extraKey?_eq_none_iff.mpr fun key names => ?_
    rw [names.isDashed] at bare
    exact nomatch bare
  · decide

/-- Before the command, an argument that is no option has to be a command. -/
theorem takeTop_of_operand {first : Text} (operand : IsOperand first) (g : Given)
    (rest : List Text) :
    takeTop g none (first :: rest) =
      if first = "help".toList then .error (helpOn rest)
      else match commandNamed? first with
        | some name => .ok (g, some (name, rest))
        | none => .error .usage := by
  have noOption (c : Char) (letters : Text) (same : first = '-' :: c :: letters) : False := by
    subst same
    rcases operand with bare | lone
    · exact nomatch bare
    · exact nomatch lone
  rewrite [takeTop]
  · rfl
  · exact noOption '-' []
  · exact noOption '-'
  · exact noOption

section Parse

variable {first : Text} {rest : List Text}

/-- A first argument that is no option and no command cannot be read. -/
theorem parseArguments_of_operand (operand : IsOperand first) (noHelp : first ≠ "help".toList)
    (noCommand : commandNamed? first = none) :
    parseArguments (first :: rest) = .error .usage := by
  rw [parseArguments, takeTop_of_operand operand, if_neg noHelp, noCommand]
  rfl

theorem lacksCommand_of_operand (operand : IsOperand first) (noHelp : first ≠ "help".toList)
    (noCommand : commandNamed? first = none) : lacksCommand (first :: rest) = true := by
  have bare : (!isDashed first || decide (first = ['-'])) = true := by
    rcases operand with bare | rfl
    · rw [bare]; rfl
    · rfl
  rw [lacksCommand, bare, noCommand]
  simpa using noHelp

/-- Where the first argument can only be an input, `convert` is read in front of it. -/
theorem parseCommandLine_of_operand (operand : IsOperand first) (noHelp : first ≠ "help".toList)
    (noCommand : commandNamed? first = none) :
    parseCommandLine (first :: rest) = parseArguments ("convert".toList :: first :: rest) := by
  rw [parseCommandLine, parseArguments_of_operand operand noHelp noCommand]
  exact if_pos (lacksCommand_of_operand operand noHelp noCommand)

/-- A command line that begins with a command is read as it is. -/
theorem parseCommandLine_of_command {name : CommandName}
    (command : commandNamed? first = some name) :
    parseCommandLine (first :: rest) = parseArguments (first :: rest) := by
  have there : ¬ lacksCommand (first :: rest) = true := by
    rw [lacksCommand, command]
    simp
  rw [parseCommandLine]
  cases parseArguments (first :: rest) with
  | ok i => rfl
  | error stop => exact if_neg there

end Parse

/-- An argument in front that names no key is kept, whatever follows it. -/
theorem splitExtras_cons {first : Text} (nameless : extraKey? first = none) (rest : List Text) :
    splitExtras (first :: rest) = (first :: (splitExtras rest).1, (splitExtras rest).2) := by
  rw [splitExtras, nameless]

theorem commandNamed?_eq_none {first : Text} (noConvert : first ≠ "convert".toList)
    (noPreview : first ≠ "preview".toList) : commandNamed? first = none := by
  rw [commandNamed?, if_neg noConvert, if_neg noPreview]

/-- **The command that is left out is `convert`.**  Arguments that begin with an operand other than
the name of a command have the outcome of the same arguments behind `convert`: the same exit code,
texts and files, whatever the other arguments, the standard input and the files around are. -/
theorem outcome_eq_outcome_convert {first : Text} (operand : IsOperand first)
    (noConvert : first ≠ "convert".toList) (noPreview : first ≠ "preview".toList)
    (noHelp : first ≠ "help".toList) (rest : List Text) (w : Surroundings) :
    outcome (first :: rest) w = outcome ("convert".toList :: first :: rest) w := by
  have noCommand := commandNamed?_eq_none noConvert noPreview
  have nameless := operand.extraKey?_eq_none
  have written : extraKey? "convert".toList = none := by decide
  have read : parseCommandLine (first :: (splitExtras rest).1) =
      parseCommandLine ("convert".toList :: first :: (splitExtras rest).1) :=
    (parseCommandLine_of_operand operand noHelp noCommand).trans
      (parseCommandLine_of_command rfl).symm
  have same : run (first :: rest) w = run ("convert".toList :: first :: rest) w := by
    unfold run
    rw [splitExtras_cons written, splitExtras_cons nameless]
    simp only [read]
  rw [outcome, outcome, same]

/-- Standard input, with an extra parameter before an argument that does not fit. -/
theorem outcome_eq_outcome_convert_of_stdin :
    let rest := ["--extra-wrap".toList, "9".toList, "--to".toList, "markdown".toList]
    let w : Surroundings := ⟨"a".toUTF8.toList, (⟨[]⟩ : Directory).fileSystem⟩
    (IsOperand ['-'] ∧ ['-'] ≠ "convert".toList ∧ ['-'] ≠ "preview".toList ∧
      ['-'] ≠ "help".toList) ∧
      outcome (['-'] :: rest) w = outcome ("convert".toList :: ['-'] :: rest) w := by
  intro rest w
  have operand : IsOperand ['-'] := .inr rfl
  exact ⟨⟨operand, by decide, by decide, by decide⟩,
    outcome_eq_outcome_convert operand (by decide) (by decide) (by decide) rest w⟩

end Cli

end MarkdownDialects
