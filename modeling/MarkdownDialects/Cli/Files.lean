import MarkdownDialects.Text.Utf8

/-!
# Files

The files that a command sees.  In a directory of files by path, a path leads through directories by
their names; `.` stays where it is and `..` goes up.
-/

namespace MarkdownDialects

namespace Cli

/-- Why a file cannot be read or written. -/
inductive FileError where
  | notFound
  | notDirectory
  | isDirectory
  | nameTooLong
  | invalidUtf8
deriving DecidableEq

/-- The text shown for an error. -/
def FileError.message : FileError → Text
  | .notFound => "No such file or directory (os error 2)".toList
  | .notDirectory => "Not a directory (os error 20)".toList
  | .isDirectory => "Is a directory (os error 21)".toList
  | .nameTooLong => "File name too long (os error 36)".toList
  | .invalidUtf8 => "stream did not contain valid UTF-8".toList

/-- What a command needs of the files around it. -/
structure FileSystem where
  /-- The content of the file that a path leads to. -/
  read : Text → Except FileError (List UInt8)
  /-- The name under which a path is written. -/
  writeTarget : Text → Except FileError Text

namespace FileSystem

/-- Whether a path leads to a file. -/
def hasFile (fs : FileSystem) (path : Text) : Bool :=
  match fs.read path with
  | .ok _ => true
  | .error _ => false

/-- The text of a file. -/
def readText (fs : FileSystem) (path : Text) : Except FileError Text := do
  match Utf8.decode? (← fs.read path) with
  | some t => return t
  | none => throw .invalidUtf8

end FileSystem

/-- A directory in which a command runs: its files with their contents. -/
structure Directory where
  files : List (Text × List UInt8)

namespace Directory

/-- The content of the file with the given path. -/
def content? (d : Directory) (path : List Text) : Option (List UInt8) :=
  (d.files.find? fun (name, _) => name.splitOn '/' == path).map Prod.snd

/-- The part of a path that goes up. -/
def up : Text := ['.', '.']

/-- Whether there is a directory with the given path.  Those around this one are there. -/
def hasDirectory (d : Directory) (path : List Text) : Bool :=
  path.all (· == up) || d.files.any fun (name, _) =>
    let parts := name.splitOn '/'
    path.isPrefixOf parts && path.length < parts.length

/-- The size in bytes that a path must not reach. -/
def maxPathSize : Nat := 4096

/-- The largest size of a name in bytes. -/
def maxNameSize : Nat := 255

/-- Follow the parts of a path. -/
def follow (d : Directory) : List Text → List Text → Except FileError (List Text)
  | place, [] => .ok place
  | place, part :: rest =>
    if !d.hasDirectory place then
      .error (if (d.content? place).isSome then .notDirectory else .notFound)
    else if part.isEmpty || part = ['.'] then d.follow place rest
    else if part = up then
      d.follow (if place.all (· == up) then place ++ [up] else place.dropLast) rest
    else if maxNameSize < Utf8.size part then .error .nameTooLong
    else d.follow (place ++ [part]) rest

/-- What a path leads to.  Only paths in the directory lead anywhere. -/
def locate (d : Directory) (path : Text) : Except FileError (List Text) :=
  if maxPathSize ≤ Utf8.size path then .error .nameTooLong
  else match path with
  | [] => .error .notFound
  | '/' :: rest => if rest.all (· == '/') then .ok [] else .error .notFound
  | path => d.follow [] (path.splitOn '/')

/-- The content of a file. -/
def read (d : Directory) (path : Text) : Except FileError (List UInt8) := do
  let place ← d.locate path
  if d.hasDirectory place then throw .isDirectory
  match d.content? place with
  | some bytes => return bytes
  | none => throw .notFound

/-- The name under which a file is written.  A path that ends in a slash names a directory. -/
def writeTarget (d : Directory) (path : Text) : Except FileError Text := do
  if maxPathSize ≤ Utf8.size path then throw .nameTooLong
  let opened := Text.trimEndBy (· == '/') path
  let place ← d.locate (if opened.isEmpty then path else opened)
  if d.hasDirectory place then throw .isDirectory
  if opened.length < path.length then
    throw (if (d.content? place).isSome then .notDirectory else .isDirectory)
  return ['/'].intercalate place

/-- The files of a directory as a command sees them. -/
def fileSystem (d : Directory) : FileSystem := ⟨d.read, d.writeTarget⟩

end Directory

end Cli

end MarkdownDialects
