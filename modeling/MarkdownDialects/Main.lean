import MarkdownDialects.Cli.Run

/-!
# The command line

Reads the files and the standard input that a command asks for, runs it, and prints or writes what
it leaves behind.
-/

open MarkdownDialects

/-- The cause of an error of the system. -/
def fileError : IO.Error → Cli.FileError
  | .inappropriateType _ _ _ => .isDirectory
  | _ => .notFound

/-- The content of a file. -/
def readFile (path : Text) : IO (Except Cli.FileError (List UInt8)) := do
  try
    return .ok (← IO.FS.readBinFile (String.ofList path)).toList
  catch e => return .error (fileError e)

/-- All files that a command may read. -/
def readFiles : List Text → IO (List (Text × Except Cli.FileError (List UInt8)))
  | [] => return []
  | path :: rest => do
    let found ← readFile path
    return (path, found) :: (← readFiles rest)

/-- Read standard input to its end. -/
partial def readAll (input : IO.FS.Stream) (front : ByteArray) : IO ByteArray := do
  let more ← input.read 65536
  if more.isEmpty then return front else readAll input (front ++ more)

/-- Write what a run leaves behind. -/
def writeAll : List (Text × Text) → IO Unit
  | [] => return
  | (name, t) :: rest => do
    IO.FS.writeFile (String.ofList name) (String.ofList t)
    writeAll rest

/-- Run a command line. -/
def main (args : List String) : IO UInt32 := do
  let args := args.map String.toList
  let paths := Cli.readPaths args
  let stdin ← if paths.contains Cli.stdinPath then readAll (← IO.getStdin) .empty
    else pure .empty
  let found ← readFiles (paths.filter (· != Cli.stdinPath))
  let files : Cli.FileSystem :=
    ⟨fun path => ((found.find? (·.1 == path)).map Prod.snd).getD (.error .notFound), .ok⟩
  let outcome := Cli.outcome args ⟨stdin.toList, files⟩
  try
    writeAll outcome.written
    IO.print (String.ofList outcome.stdout)
    IO.eprint (String.ofList outcome.stderr)
    return UInt32.ofNat outcome.code
  catch e =>
    IO.eprintln s!"Error: {e}"
    return 1
