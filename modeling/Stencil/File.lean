import Stencil.Json.Reader
import Stencil.Yaml.Value

/-!
# Files

A file is named by the directories on the way to it and its own name. Empty parts and parts that
name the directory itself are dropped. The ending of a name is what follows its last point, unless
the name starts or ends with that point.

The files that can be read form a tree. A directory is there if it is listed or holds something that
is. A file whose name ends with `.json` holds JSON, whose fractions are kept exactly; any other file
holds YAML. Files are shown under their full names.
-/

namespace Stencil

/-- The name of a file or directory. -/
structure FileName where
  /-- Whether the way starts at the root, instead of the directory one is in. -/
  isAbsolute : Bool
  /-- The directories on the way, and the last part. -/
  parts : List String
  deriving DecidableEq, Repr

namespace FileName

/-- The parts of a written name. -/
def ofString (s : String) : FileName :=
  let parts := (s.toList.splitOn '/').map String.ofList
  ⟨s.toList.head? = some '/', parts.filter fun part => !part.isEmpty && part ≠ "."⟩

/-- The written form of a name. -/
def text (name : FileName) : String :=
  let joined := "/".intercalate name.parts
  if name.isAbsolute then "/" ++ joined else if name.parts.isEmpty then "." else joined

/-- The way that remains when each step up has been taken. -/
def settle (parts : List String) : List String :=
  (parts.foldl (fun way part => if part = ".." then way.tail else part :: way) []).reverse

/-- The full name of a file that is named from a directory. -/
def resolve (directory : String) (name : FileName) : String :=
  let inside := settle name.parts
  if name.isAbsolute then "/" ++ "/".intercalate inside
  else "/".intercalate (directory :: inside)

/-- The characters after the last point, and those before it in reverse, if there is a point. -/
def splitLastPoint (cs : List Char) : Option (List Char × List Char) :=
  match cs.reverse.dropWhile (· ≠ '.') with
  | [] => none
  | _ :: before => some ((cs.reverse.takeWhile (· ≠ '.')).reverse, before)

/-- The ending of the last part, in lower case; empty if there is none. -/
def ending (name : FileName) : String :=
  match splitLastPoint (name.parts.getLastD "").toList with
  | some (after, _ :: _) => String.ofList (after.map Char.toLower)
  | _ => ""

end FileName

/-- The files and directories below a directory. -/
structure FileTree where
  /-- The files with their texts. -/
  files : List (List String × String) := []
  /-- The directories that need not hold anything. -/
  directories : List (List String) := []
  deriving Repr

/-- What a name stands for. -/
inductive FileEntry where
  /-- A file with its text. -/
  | file (text : String)
  /-- A directory. -/
  | directory
  /-- Nothing. -/
  | missing
  deriving DecidableEq, Repr

namespace FileTree

/-- The tree of named texts; a name that ends with a slash is a directory. -/
def ofEntries (entries : List (String × String)) : FileTree :=
  let isDirectory (name : String) : Bool := name.toList.getLast? = some '/'
  let parts (name : String) : List String := FileName.settle (FileName.ofString name).parts
  { files := (entries.filter fun e => !isDirectory e.1).map fun e => (parts e.1, e.2)
    directories := (entries.filter fun e => isDirectory e.1).map fun e => parts e.1 }

/-- What a name stands for. Files outside of the tree do not exist. -/
def find (tree : FileTree) (name : FileName) : FileEntry :=
  let way := FileName.settle name.parts
  if name.isAbsolute then (if way.isEmpty then .directory else .missing)
  else
    match tree.files.lookup way with
    | some text => .file text
    | none =>
      let ways := tree.files.map Prod.fst ++ tree.directories
      if way.isEmpty || ways.any way.isPrefixOf then .directory else .missing

/-- A text with each kind of line end written as a line feed. -/
def plainLines : List Char → List Char
  | [] => []
  | '\r' :: '\n' :: rest => '\n' :: plainLines rest
  | c :: rest => (if c = '\r' then '\n' else c) :: plainLines rest

end FileTree

/-- Where files are read from. -/
structure Directory where
  /-- What a name stands for. -/
  find : FileName → FileEntry
  /-- How a name is shown. -/
  shown : FileName → String := FileName.text

namespace Directory

/-- What a text holds. `isJson` tells the format and `source` is its name. -/
def parse (isJson : Bool) (source text : String) : Outcome Value :=
  let chars := FileTree.plainLines text.toList
  let refuse (problem : ConfigProblem) : Outcome Value :=
    Outcome.fail (.config problem (some source))
  if isJson then
    match Json.readChars .exact chars with
    | .error (.json fault) => refuse (.json fault)
    | outcome => outcome
  else
    match Yaml.read chars with
    | .ok v => Except.ok v
    | .error .malformed => refuse .yaml
    | .error (.defect d) => Outcome.defect d

/-- The document in a file. -/
def read (d : Directory) (name : FileName) : Outcome Value :=
  match d.find name with
  | .missing => Except.error (.missingFile (d.shown name))
  | .directory => Outcome.defect .isDirectory
  | .file text => parse (name.ending = "json") (d.shown name) text

end Directory

end Stencil
