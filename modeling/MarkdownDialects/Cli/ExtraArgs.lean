import MarkdownDialects.Text.Basic

/-!
# Extra parameters

Settings can be overridden on the command line by `--extra-<key> <value>`, also spelled
`--extras-<key>`.  These are taken out before the other arguments are read.  The argument after such
a one is its value unless it begins with a dash; without a value it stands for `true`.
-/

namespace MarkdownDialects

namespace Cli

/-- Parameters with their values; no key occurs twice. -/
abbrev Extras := List (Text × Text)

namespace Extras

/-- The value under a key. -/
def value? (es : Extras) (key : Text) : Option Text := (es.find? (·.1 == key)).map Prod.snd

/-- Put a value under a key that has none yet. -/
def add (es : Extras) (key value : Text) : Extras :=
  if (es.value? key).isSome then es else (key, value) :: es

/-- Take a key out. -/
def remove (es : Extras) (key : Text) : Extras := es.filter (·.1 != key)

end Extras

/-- The key that an argument sets, if it sets one. -/
def extraKey? (arg : Text) : Option Text :=
  (Text.after? "--extra-".toList arg).orElse fun _ => Text.after? "--extras-".toList arg

/-- Whether an argument begins with a dash. -/
def isDashed (arg : Text) : Bool := arg.head? == some '-'

/-- The arguments without extra parameters, and these parameters.  Of several values for a key the
last one counts. -/
def splitExtras : List Text → List Text × Extras
  | [] => ([], [])
  | arg :: rest =>
    match extraKey? arg with
    | none =>
      let (args, extras) := splitExtras rest
      (arg :: args, extras)
    | some key =>
      match rest with
      | next :: later =>
        if isDashed next then
          let (args, extras) := splitExtras (next :: later)
          (args, extras.add key "true".toList)
        else
          let (args, extras) := splitExtras later
          (args, extras.add key next)
      | [] => ([], [(key, "true".toList)])

end Cli

end MarkdownDialects
