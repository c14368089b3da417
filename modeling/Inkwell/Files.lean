import Inkwell.Error

/-!
# Files

A tree of files as a text engine sees it: paths lead from the current directory
through directories to files, and directories stay when their files are
removed.
-/

namespace Inkwell

/-- Files and directories by their paths from the current directory. -/
structure Files where
  files : List (List String × ByteArray)
  directories : List (List String)

namespace Files

/-- The parts of the path of a file. -/
def parts (path : String) : List String :=
  (path.splitOn "/").filter fun part => part != "" && part != "."

/-- The steps of a walk along a path: names, `..` for the directory above and
`.` for the directory itself.  A slash at the end is a last step to the
directory itself. -/
def steps (path : String) : List String :=
  (path.splitOn "/").filter (· != "")
    ++ if path.endsWith "/" then ["."] else []

/-- The directories on the way to a file. -/
def ancestors (path : List String) : List (List String) :=
  (List.range path.length).map path.take

/-- The tree with the given files, and the directories they need. -/
def ofList (files : List (String × ByteArray)) : Files where
  files := files.map fun f => (parts f.1, f.2)
  directories := [] :: files.flatMap fun f => ancestors (parts f.1)

/-- The bytes of a file. -/
def bytes? (t : Files) (path : List String) : Option ByteArray :=
  t.files.lookup path

/-- The path is one of a directory. -/
def isDirectory (t : Files) (path : List String) : Bool :=
  t.directories.contains path

/-- Walk along steps.  Only a directory can be stepped on from. -/
def walk (t : Files) : (here steps : List String) →
    Except FileError (List String)
  | here, [] => .ok here
  | here, step :: rest =>
      if !t.isDirectory here then
        if (t.bytes? here).isSome then .error .notADirectory
        else .error .notFound
      else if step = "." then walk t here rest
      else if step = ".." then
        if here.isEmpty then .error .notFound else walk t here.dropLast rest
      else walk t (here ++ [step]) rest

/-- Where a path leads. -/
def resolve (t : Files) (path : String) : Except FileError (List String) :=
  if path.isEmpty || path.startsWith "/" then .error .notFound
  else t.walk [] (steps path)

/-- The bytes of the file that a path leads to. -/
def read (t : Files) (path : String) : Except FileError ByteArray :=
  match t.resolve path with
  | .error e => .error e
  | .ok here =>
      match t.bytes? here with
      | some bytes => .ok bytes
      | none =>
          if t.isDirectory here then .error .isADirectory
          else .error .notFound

/-- The text of the file that a path leads to. -/
def readText (t : Files) (path : String) : Except FileError String :=
  match t.read path with
  | .error e => .error e
  | .ok bytes =>
      match String.fromUTF8? bytes with
      | some text => .ok text
      | none => .error .invalidUtf8

/-- Remove the file that a path leads to; the result tells whether there was
one. -/
def remove (t : Files) (path : String) : Bool × Files :=
  match t.resolve path with
  | .error _ => (false, t)
  | .ok here =>
      if (t.bytes? here).isSome then
        (true, { t with files := t.files.filter (·.1 != here) })
      else (false, t)

/-- A path continued by parts. -/
def join (path : String) (rest : List String) : String :=
  path ++ (if path.endsWith "/" then "" else "/") ++ "/".intercalate rest

/-- The order of paths: by their parts, one after the other. -/
def before : List String → List String → Bool
  | [], _ => true
  | _ :: _, [] => false
  | a :: as, b :: bs => a < b || (a == b && before as bs)

/-- The files below the directory that a path leads to, in order, each with its
path. -/
def below (t : Files) (path : String) : List (String × ByteArray) :=
  match t.resolve path with
  | .error _ => []
  | .ok here =>
      let mine := t.files.filter fun f => here.isPrefixOf f.1 && here != f.1
      (mine.mergeSort fun f g => before f.1 g.1).map fun f =>
        (join path (f.1.drop here.length), f.2)

end Files

end Inkwell
