/-!
# Finding a configuration file

A configuration file is named without or with its extension. The name is taken as it
stands if such a file exists; otherwise a placeholder extension is put after it and then
replaced by each format's extensions in turn, so that `unwind` finds `unwind.toml` and
`unwind.toml` finds `unwind.toml.ini`. The extension of the file found decides its format.

Names are paths: the last component is the file's name (trailing slashes and `.`
components do not count), and its extension is what follows the last dot, unless that
dot starts the name. A path is shown, and looked up, with its empty and `.` components
dropped.
-/

namespace Unwinding

/-- The files of a directory, by name. -/
structure Directory where
  files : List (String × String) := []
  deriving DecidableEq, Inhabited, Repr

/-- The formats a configuration file can have. -/
inductive FileFormat where
  | toml
  | json
  | yaml
  | ini
  | ron
  | json5
  deriving DecidableEq, Inhabited, Repr

namespace FileFormat

/-- The extensions of each format, in the order they are tried. -/
def extensions : FileFormat → List String
  | toml => ["toml"]
  | json => ["json"]
  | yaml => ["yaml", "yml"]
  | ini => ["ini"]
  | ron => ["ron"]
  | json5 => ["json5"]

/-- The formats in the order they are tried. -/
def all : List FileFormat := [toml, json, yaml, ini, ron, json5]

/-- The format of a file extension. -/
def ofExtension? (ext : String) : Option FileFormat :=
  all.find? (·.extensions.contains ext)

end FileFormat

namespace FileName

/-- Drops trailing slashes and `.` components from a path given in reverse. -/
def dropTrailing : List Char → List Char
  | '/' :: rest => dropTrailing rest
  | '.' :: tail@('/' :: _) => dropTrailing tail
  | cs => cs

/-- The text before a path's file name and the name itself; nothing when the path ends in
the root, `.` or `..`. -/
def parts? (path : String) : Option (String × String) :=
  let rev := dropTrailing path.toList.reverse
  let name := (rev.takeWhile (· != '/')).reverse
  let dir := (rev.dropWhile (· != '/')).reverse
  if name.isEmpty || name == ['.'] || name == ['.', '.'] then none
  else some (String.ofList dir, String.ofList name)

/-- A file name's stem and extension: the split at its last dot, unless that dot starts the
name or there is none. -/
def splitExtension (name : String) : String × Option String :=
  let cs := name.toList
  let before := ((cs.reverse.dropWhile (· != '.')).drop 1).reverse
  let after := (cs.reverse.takeWhile (· != '.')).reverse
  if name == ".." || !cs.contains '.' || before.isEmpty then (name, none)
  else (String.ofList before, some (String.ofList after))

/-- The extension of a path's file name. -/
def extension? (path : String) : Option String :=
  (parts? path).bind fun (_, name) => (splitExtension name).2

/-- A path with its file name's extension replaced by `ext`, or removed when `ext` is
empty; whatever followed the name goes too. A path without a file name is left as it is. -/
def setExtension (path ext : String) : String :=
  match parts? path with
  | none => path
  | some (dir, name) => dir ++ (splitExtension name).1 ++ (if ext.isEmpty then "" else "." ++ ext)

/-- A path with a placeholder extension after its own, to be replaced by the real ones. -/
def withPlaceholder (path : String) : String :=
  match extension? path with
  | some ext => setExtension path (ext ++ ".dummy")
  | none => setExtension path "dummy"

/-- A path without empty and `.` components. -/
def normalize (path : String) : String :=
  let parts := path.splitOn "/"
  let kept := parts.filter fun p => !p.isEmpty && p != "."
  let lead := if path.startsWith "/" then "/" else ""
  lead ++ "/".intercalate kept

/-- Whether a path can name a file as it stands: its last component is a name. -/
def namesFile (path : String) : Bool :=
  let last := (path.splitOn "/").getLastD ""
  !last.isEmpty && last != "." && last != ".."

end FileName

namespace Directory

/-- The text of a file. -/
def read? (d : Directory) (name : String) : Option String :=
  (d.files.find? fun (k, _) => FileName.normalize k == FileName.normalize name).map (·.2)

/-- The paths tried for a name after the name itself, with their formats. -/
def candidates (name : String) : List (FileFormat × String) :=
  let base := FileName.withPlaceholder name
  FileFormat.all.flatMap fun f => f.extensions.map fun e => (f, FileName.setExtension base e)

/-- All paths tried for a name, in order. -/
def pathsTried (name : String) : List String :=
  (if FileName.namesFile name then [name] else []) ++ (candidates name).map (·.2)

end Directory

/-- A configuration file that was found: its name as shown, format and text. A file whose
extension is no format's has none. -/
structure FoundFile where
  name : String
  format : Option FileFormat
  text : String
  deriving DecidableEq, Inhabited, Repr

/-- Finds the file for a name: the name itself, else the name with each extension. -/
def Directory.find? (d : Directory) (name : String) : Option FoundFile :=
  let exact :=
    if FileName.namesFile name then
      (d.read? name).map fun text =>
        { name := FileName.normalize name,
          format := (FileName.extension? name).bind FileFormat.ofExtension?, text }
    else none
  match exact with
  | some f => some f
  | none =>
    (candidates name).findSome? fun (f, path) =>
      (d.read? path).map fun text => { name := FileName.normalize path, format := some f, text }

end Unwinding
