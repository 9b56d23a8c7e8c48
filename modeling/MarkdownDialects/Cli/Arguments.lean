import MarkdownDialects.Cli.ExtraArgs
import MarkdownDialects.Dialect.Id
import MarkdownDialects.Text.Numeral

/-!
# Arguments

The grammar of the command line: commands, options with and without values, and the input.  Options
can be given once.  A value stands in the next argument or after an equals sign; after `--` no
argument is an option.
-/

namespace MarkdownDialects

namespace Cli

/-- The options of all commands. -/
inductive OptionName where
  | listDialects
  | config
  | verbose
  | help
  | version
  | source
  | target
  | dialect
  | output
  | save
  | wrap
  | tightLists
  | setext
deriving DecidableEq

/-- How an option is written, and which values it takes if it takes one. -/
structure OptionForm where
  name : OptionName
  long : String
  short : Option Char
  accepts : Option (Text → Bool)

namespace OptionForm

/-- An option without a value. -/
def flag (name : OptionName) (long : String) (short : Option Char := none) : OptionForm :=
  ⟨name, long, short, none⟩

/-- An option with a value. -/
def valued (name : OptionName) (long : String) (short : Option Char := none)
    (accepts : Text → Bool := fun _ => true) : OptionForm :=
  ⟨name, long, short, some accepts⟩

/-- An option whose value is the id of a dialect. -/
def dialect (name : OptionName) (long : String) : OptionForm :=
  valued name long none fun t => (DialectId.ofName? t).isSome

end OptionForm

/-- The commands. -/
inductive CommandName where
  | convert
  | preview
deriving DecidableEq

/-- The command with a given name. -/
def commandNamed? (t : Text) : Option CommandName :=
  if t = "convert".toList then some .convert
  else if t = "preview".toList then some .preview
  else none

/-- Options that every command takes. -/
def globalOptions : List OptionForm :=
  [.flag .listDialects "list-dialects", .valued .config "config",
    .flag .verbose "verbose" (some 'v'), .flag .help "help" (some 'h')]

/-- Options before the command. -/
def topOptions : List OptionForm := .flag .version "version" (some 'V') :: globalOptions

/-- The options of a command. -/
def CommandName.options : CommandName → List OptionForm
  | .convert =>
    [.dialect .source "from", .dialect .target "to", .valued .output "output" (some 'o'),
      .flag .save "save", .valued .wrap "wrap" none fun t => (Numeral.parse? t).isSome,
      .flag .tightLists "tight-lists", .flag .setext "setext"] ++ globalOptions
  | .preview =>
    [.dialect .dialect "dialect", .valued .output "output" (some 'o')] ++ globalOptions

/-- Why reading arguments stops before anything is done. -/
inductive Stop where
  /-- The arguments do not fit the grammar. -/
  | usage
  | help
  | version
deriving DecidableEq

/-- What arguments say: options with their values, and the input. -/
structure Given where
  options : List (OptionName × Text) := []
  input : Option Text := none

namespace Given

/-- Whether an option is given. -/
def has (g : Given) (name : OptionName) : Bool := g.options.any (·.1 = name)

/-- The value of an option. -/
def value? (g : Given) (name : OptionName) : Option Text :=
  (g.options.find? (·.1 = name)).map Prod.snd

/-- Take an option with its value; one without a value has the empty text. -/
def add (g : Given) (form : OptionForm) (value : Text) : Except Stop Given :=
  if form.name = .help then .error .help
  else if form.name = .version then .error .version
  else if g.has form.name || form.accepts.any fun p => !p value then .error .usage
  else .ok { g with options := (form.name, value) :: g.options }

/-- Take the input. -/
def addInput (g : Given) (takesInput : Bool) (value : Text) : Except Stop Given :=
  if takesInput && g.input.isNone then .ok { g with input := some value } else .error .usage

end Given

/-- Take the letters after a dash.  The answer may be an option that waits for its value. -/
def takeLetters (forms : List OptionForm) (g : Given) :
    Text → Except Stop (Given × Option OptionForm)
  | [] => .ok (g, none)
  | c :: rest =>
    match forms.find? (·.short == some c) with
    | none => .error .usage
    | some form =>
      match form.accepts, rest with
      | none, rest => do takeLetters forms (← g.add form []) rest
      | some _, [] => .ok (g, some form)
      | some _, '=' :: value | some _, value => do return (← g.add form value, none)

/-- Take an argument after two dashes. -/
def takeLong (forms : List OptionForm) (g : Given) (arg : Text) :
    Except Stop (Given × Option OptionForm) :=
  let name := arg.takeWhile (· != '=')
  match forms.find? (·.long.toList == name) with
  | none => .error .usage
  | some form =>
    match form.accepts, arg.drop name.length with
    | none, [] => do return (← g.add form [], none)
    | none, _ => .error .usage
    | some _, [] => .ok (g, some form)
    | some _, _ :: value => do return (← g.add form value, none)

/-- Take inputs only. -/
def takeInputs (takesInput : Bool) : Given → List Text → Except Stop Given
  | g, [] => .ok g
  | g, arg :: rest => do takeInputs takesInput (← g.addInput takesInput arg) rest

/-- Take the arguments of a command.  `waiting` is an option whose value comes next. -/
def takeArguments (forms : List OptionForm) (takesInput : Bool) :
    Given → Option OptionForm → List Text → Except Stop Given
  | g, none, [] => .ok g
  | _, some _, [] => .error .usage
  | g, none, ['-', '-'] :: rest => takeInputs takesInput g rest
  | g, none, ('-' :: '-' :: long) :: rest => do
    let (g, waiting) ← takeLong forms g long
    takeArguments forms takesInput g waiting rest
  | g, none, ('-' :: c :: letters) :: rest => do
    let (g, waiting) ← takeLetters forms g (c :: letters)
    takeArguments forms takesInput g waiting rest
  | g, none, arg :: rest => do
    takeArguments forms takesInput (← g.addInput takesInput arg) none rest
  | _, some _, ('-' :: _ :: _) :: _ => .error .usage
  | g, some form, value :: rest => do
    takeArguments forms takesInput (← g.add form value) none rest

/-- The answer to a request for help on some command. -/
def helpOn : List Text → Stop
  | [] => .help
  | [name] => if (commandNamed? name).isSome || name = "help".toList then .help else .usage
  | _ => .usage

/-- Take the arguments before the command.  The answer holds the command and the arguments after
it. -/
def takeTop :
    Given → Option OptionForm → List Text → Except Stop (Given × Option (CommandName × List Text))
  | g, none, [] => .ok (g, none)
  | _, some _, [] => .error .usage
  | g, none, ['-', '-'] :: rest => if rest.isEmpty then .ok (g, none) else .error .usage
  | g, none, ('-' :: '-' :: long) :: rest => do
    let (g, waiting) ← takeLong topOptions g long
    takeTop g waiting rest
  | g, none, ('-' :: c :: letters) :: rest => do
    let (g, waiting) ← takeLetters topOptions g (c :: letters)
    takeTop g waiting rest
  | g, none, arg :: rest =>
    if arg = "help".toList then .error (helpOn rest)
    else
      match commandNamed? arg with
      | some name => .ok (g, some (name, rest))
      | none => .error .usage
  | _, some _, ('-' :: _ :: _) :: _ => .error .usage
  | g, some form, value :: rest => do takeTop (← g.add form value) none rest

/-- What `convert` is asked to do. -/
structure ConvertArguments where
  input : Text
  source : Option DialectId
  target : Option DialectId
  output : Option Text
  save : Bool
  wrap : Option Nat
  tightLists : Bool
  setext : Bool
deriving DecidableEq

/-- What `preview` is asked to do. -/
structure PreviewArguments where
  input : Text
  dialect : Option DialectId
  output : Option Text
deriving DecidableEq

/-- A command with its arguments. -/
inductive Command where
  | convert (a : ConvertArguments)
  | preview (a : PreviewArguments)
deriving DecidableEq

/-- A command line that fits the grammar. -/
structure Invocation where
  listDialects : Bool
  config : Option Text
  command : Option Command
deriving DecidableEq

/-- The command that given arguments ask for. -/
def commandOf (name : CommandName) (g : Given) : Except Stop Command :=
  match name, g.input with
  | _, none => .error .usage
  | .convert, some input =>
    if g.has .output && g.has .save then .error .usage
    else
      .ok <| .convert
        { input
          source := (g.value? .source).bind DialectId.ofName?
          target := (g.value? .target).bind DialectId.ofName?
          output := g.value? .output
          save := g.has .save
          wrap := (g.value? .wrap).bind Numeral.parse?
          tightLists := g.has .tightLists
          setext := g.has .setext }
  | .preview, some input =>
    .ok (.preview ⟨input, (g.value? .dialect).bind DialectId.ofName?, g.value? .output⟩)

/-- Read a command line.  Options that every command takes may stand before the command and after
it; the later configuration file counts. -/
def parseArguments (args : List Text) : Except Stop Invocation := do
  match ← takeTop {} none args with
  | (g, none) =>
    if g.options.isEmpty then throw .usage
    else return ⟨g.has .listDialects, g.value? .config, none⟩
  | (top, some (name, rest)) =>
    let g ← takeArguments name.options true {} none rest
    let command ← commandOf name g
    return ⟨top.has .listDialects || g.has .listDialects,
      (g.value? .config).orElse fun _ => top.value? .config, some command⟩

/-- Whether the first argument can only be an input: the command was left out. -/
def lacksCommand : List Text → Bool
  | [] => false
  | first :: _ =>
    (!isDashed first || first = ['-']) && (commandNamed? first).isNone && first != "help".toList

/-- Read a command line whose command may be left out; then it is `convert`. -/
def parseCommandLine (args : List Text) : Except Stop Invocation :=
  match parseArguments args with
  | .ok i => .ok i
  | .error stop =>
    if lacksCommand args then parseArguments ("convert".toList :: args) else .error stop

end Cli

end MarkdownDialects
