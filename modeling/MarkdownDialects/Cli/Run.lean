import MarkdownDialects.Cli.Arguments
import MarkdownDialects.Cli.Files
import MarkdownDialects.Config.Loader
import MarkdownDialects.Convert.Converter
import MarkdownDialects.Convert.Preview

/-!
# Running a command

What a command line does, given what stands on standard input and the files in the current
directory.  Work is done in order: what was printed and written before a failure is left behind.
-/

namespace MarkdownDialects

namespace Cli

/-- Why a command fails. -/
inductive Failure where
  /-- The arguments do not fit the grammar. -/
  | usage
  /-- There is no command. -/
  | noCommand
  | config (e : ConfigError)
  | badWidth (raw : Text)
  | badFlag (name : String) (word : Text)
  | unknownParameters (keys : List Text)
  | readInput (e : FileError)
  | readFile (path : Text) (e : FileError)
  | writeFile (path : Text) (e : FileError)
  | convert (e : ConvertError)
deriving DecidableEq

namespace Failure

/-- How the command is used. -/
def usageText : Text :=
  "Usage: mdbabel [convert] <input> [--from <dialect>] [--to <dialect>] [-o <file> | --save]
       mdbabel preview <input> [--dialect <dialect>] [-o <file>]
       mdbabel --list-dialects\n".toList

/-- What is wrong. -/
def reason : Failure → Text
  | .usage | .noCommand => []
  | .config _ => "Failed to load configuration".toList
  | .badWidth raw =>
    "Invalid width '".toList ++ raw ++ "' for --extra-wrap-width (expected 0 or ".toList ++
      Numeral.digits minWrapWidth ++ "..=".toList ++ Numeral.digits maxWrapWidth ++ [')']
  | .badFlag name word =>
    "Invalid boolean value '".toList ++ word ++ "' for --extra-".toList ++ name.toList
  | .unknownParameters keys =>
    "Unknown parameter(s): --extra-".toList ++ ", --extra-".toList.intercalate keys
  | .readInput e => "Failed to read stdin: ".toList ++ e.message
  | .readFile path e => "Failed to read file '".toList ++ path ++ "': ".toList ++ e.message
  | .writeFile path e => "Failed to write file '".toList ++ path ++ "': ".toList ++ e.message
  | .convert e => e.message

/-- The text printed on standard error. -/
def message : Failure → Text
  | .usage => usageText
  | .noCommand => "Unknown subcommand. Use --help for usage information.\n".toList
  | failure => "Error: ".toList ++ failure.reason ++ ['\n']

/-- The exit code. -/
def code : Failure → Nat
  | .usage => 2
  | _ => 1

end Failure

/-- What a run has left behind so far: the text on standard output, and the files that were written
with their contents, in order. -/
structure Trail where
  stdout : Text := []
  written : List (Text × Text) := []
deriving DecidableEq

/-- Work that can fail.  What it printed and wrote before it failed stays. -/
abbrev Running := ExceptT Failure (StateM Trail)

namespace Running

/-- Fail where a result is a failure. -/
def lift {α : Type} (result : Except Failure α) : Running α := ExceptT.mk (pure result)

/-- Print a text on standard output. -/
def print (t : Text) : Running Unit :=
  modify fun trail => { trail with stdout := trail.stdout ++ t }

end Running

/-- What a command sees besides its arguments. -/
structure Surroundings where
  stdin : List UInt8
  files : FileSystem

/-- The name of the configuration file that is read if it is there. -/
def userConfigFile : Text := "mdbabel.toml".toList

/-- The input that means standard input. -/
def stdinPath : Text := ['-']

/-- A path without what follows its last name: slashes, and full stops that stay where they are.
There is none if the path does not end in a name. -/
def namedPath? (path : Text) : Option Text :=
  let stays (part : Text) : Bool := part.isEmpty || part == ['.']
  let parts := ((path.splitOn '/').reverse.dropWhile stays).reverse
  if parts.isEmpty || parts.getLast? == some ['.', '.'] then none
  else some (['/'].intercalate parts)

/-- The paths at which a configuration file is looked for: its suffix may be left out. -/
def configPaths (path : Text) : List Text :=
  path :: ((namedPath? path).map (· ++ ".toml".toList)).toList

/-- The path of a configuration file. -/
def configPath? (fs : FileSystem) (path : Text) : Option Text :=
  (configPaths path).find? fs.hasFile

/-- The text of a configuration file, if there is one that can be read. -/
def configText? (fs : FileSystem) (path : Text) : Option Text :=
  (configPath? fs path).bind fun path => (fs.readText path).toOption

/-- The layers of configuration: the file in the directory, and the one that is asked for. -/
def configLayers (fs : FileSystem) (explicit : Option Text) : List Config.Layer :=
  .file (configText? fs userConfigFile) false ::
    (explicit.map fun path => Config.Layer.file (configText? fs path) true).toList

/-- Take the value under the first of some keys that is there. -/
def takeExtra (es : Extras) : List String → Option Text × Extras
  | [] => (none, es)
  | key :: rest =>
    match es.value? key.toList with
    | some value => (some value, es.remove key.toList)
    | none => takeExtra es rest

/-- A truth value on the command line. -/
def readFlag (name : String) (raw : Text) : Except Failure Bool :=
  let word := Text.lower raw
  if ["true", "1", "yes", "y"].any (·.toList == word) then .ok true
  else if ["false", "0", "no", "n"].any (·.toList == word) then .ok false
  else .error (.badFlag name word)

/-- Override settings by extra parameters.  Those that are left are not known. -/
def applyExtras (s : Settings) (es : Extras) : Except Failure (Settings × Extras) := do
  let (width, es) := takeExtra es ["wrap-width", "wrap"]
  let s ← match width with
    | some raw =>
      match Numeral.parse? raw with
      | some n =>
        Except.ok { s with convert := { s.convert with wrap := decide (0 < n), wrapWidth := n } }
      | none => Except.error (.badWidth raw)
    | none => Except.ok s
  let (tight, es) := takeExtra es ["tight-lists", "tighten-lists"]
  let tight ← tight.mapM (readFlag "tight-lists")
  let s := { s with
    convert := { s.convert with tightenLists := tight.getD s.convert.tightenLists } }
  let (setext, es) := takeExtra es ["setext", "setext-headings"]
  let setext ← setext.mapM (readFlag "setext")
  let s := { s with
    convert := { s.convert with setextHeadings := setext.getD s.convert.setextHeadings } }
  return (s, es)

/-- The settings of a run. -/
def loadSettings (fs : FileSystem) (config : Option Text) (es : Extras) :
    Except Failure Settings := do
  let s ← (Config.load (configLayers fs config)).mapError Failure.config
  let (s, rest) ← applyExtras s es
  if rest.isEmpty then return s
  throw (.unknownParameters ((rest.map Prod.fst).mergeSort fun s t => !decide (t < s)))

/-- The input text. -/
def readInput (w : Surroundings) (path : Text) : Except Failure Text :=
  if path = stdinPath then
    match Utf8.decode? w.stdin with
    | some t => .ok t
    | none => .error (.readInput .invalidUtf8)
  else (w.files.readText path).mapError (Failure.readFile path)

/-- Write a text to a file.  Where a path leads is found out before anything is written. -/
def writeFile (fs : FileSystem) (path : Text) (t : Text) : Running Unit := do
  let name ← Running.lift ((fs.writeTarget path).mapError (Failure.writeFile path))
  modify fun trail => { trail with written := trail.written ++ [(name, t)] }

/-- Print a text, or write it to a file if one is given. -/
def emit (fs : FileSystem) (output : Option Text) (t : Text) : Running Unit :=
  match output with
  | some path => writeFile fs path t
  | none => Running.print (t ++ ['\n'])

/-- The dialect that the name of an input shows. -/
def detectDialect (input : Text) : Option DialectId :=
  if input = stdinPath then none else Registry.withDefaults.detect? input

/-- The file that a conversion is saved in. -/
def savedFileName (target : DialectId) : Text :=
  "converted.".toList ++ target.name.toList ++ ".md".toList

/-- The options of a conversion: arguments count more than settings. -/
def conversionOptions (a : ConvertArguments) (s : ConvertSettings) : ConversionOptions :=
  let o := s.options
  { wrapWidth := a.wrap.orElse fun _ => o.wrapWidth
    tightenLists := a.tightLists || o.tightenLists
    setextHeadings := a.setext || o.setextHeadings }

/-- The request of a conversion, apart from its input. -/
def convertRequest (a : ConvertArguments) (s : ConvertSettings) (input : Text) : ConvertRequest :=
  { input
    source := (a.source.orElse fun _ => detectDialect a.input).getD s.source
    target := a.target.getD s.target
    options := conversionOptions a s }

/-- Run `convert`. -/
def runConvert (w : Surroundings) (s : Settings) (a : ConvertArguments) : Running Unit := do
  let input ← Running.lift (readInput w a.input)
  let request := convertRequest a s.convert input
  let output ← Running.lift ((({} : Converter).run request).mapError Failure.convert)
  if a.save then writeFile w.files (savedFileName request.target) output
  else emit w.files a.output output

/-- Run `preview`. -/
def runPreview (w : Surroundings) (s : Settings) (a : PreviewArguments) : Running Unit := do
  let dialect := (a.dialect.orElse fun _ => detectDialect a.input).getD s.previewDialect
  let input ← Running.lift (readInput w a.input)
  emit w.files a.output (renderPreview dialect input)

/-- A text with spaces after it up to a width. -/
def padded (width : Nat) (t : Text) : Text := t ++ Text.rep (width - t.length) ' '

/-- Print a line about a dialect: a label, and what it stands for. -/
def printEntry (label shown : String) : Running Unit :=
  Running.print ("  ".toList ++ padded 14 label.toList ++ ' ' :: shown.toList ++ ['\n'])

/-- Print what a registry has to say about a dialect. -/
def printDialect (r : Registry) (id : DialectId) : Running Unit := do
  printEntry id.name id.displayName
  let description := ((r.get? id).map Dialect.description).getD ""
  if description.isEmpty then return () else printEntry "" description

/-- List the registered dialects. -/
def listDialects (r : Registry) : Running Unit := do
  Running.print "Available dialects:\n\n".toList
  r.ids.forM (printDialect r)

/-- What stops the reading of arguments, as the end of the run. -/
def stopped : Stop → Running Unit
  | .usage => throw .usage
  | .help => Running.print Failure.usageText
  | .version => Running.print "mdbabel 0.1.0\n".toList

/-- Run an invocation. -/
def runInvocation (w : Surroundings) (i : Invocation) (es : Extras) : Running Unit := do
  if i.listDialects then listDialects .withDefaults
  else
    let s ← Running.lift (loadSettings w.files i.config es)
    match i.command with
    | some (.convert a) => runConvert w s a
    | some (.preview a) => runPreview w s a
    | none => throw .noCommand

/-- Run a command line. -/
def run (args : List Text) (w : Surroundings) : Running Unit :=
  let (args, extras) := splitExtras args
  match parseCommandLine args with
  | .ok i => runInvocation w i extras
  | .error stop => stopped stop

/-- The files that a command line may read. -/
def readPaths (args : List Text) : List Text :=
  match parseCommandLine (splitExtras args).1 with
  | .error _ => []
  | .ok i =>
    let input := match i.command with
      | some (.convert a) => [a.input]
      | some (.preview a) => [a.input]
      | none => []
    (userConfigFile :: i.config.toList).flatMap configPaths ++ input

/-- What a run leaves behind. -/
structure Outcome where
  code : Nat
  stdout : Text
  stderr : Text
  written : List (Text × Text)
deriving DecidableEq

/-- The outcome of a command line. -/
def outcome (args : List Text) (w : Surroundings) : Outcome :=
  match (run args w).run.run {} with
  | (.ok (), trail) => ⟨0, trail.stdout, [], trail.written⟩
  | (.error failure, trail) => ⟨failure.code, trail.stdout, failure.message, trail.written⟩

end Cli

end MarkdownDialects
