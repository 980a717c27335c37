import Reckoner.Console.Lines

/-!
# Folders

What a path leads to, as seen from a folder that holds files and no other folders: the content of a
file, or the reason why there is none to read. Nothing is known of the files outside the folder.
-/

namespace Reckoner

/-- Why a file cannot be read as text. -/
inductive FileError where
  | notFound
  | denied
  /-- The path goes on after a file. -/
  | notADirectory
  | isDirectory
  | nameTooLong
  | notText
  deriving DecidableEq, Repr

/-- The wording of a file error. -/
def FileError.message : FileError → Text
  | notFound => "No such file or directory (os error 2)".toList
  | denied => "Permission denied (os error 13)".toList
  | notADirectory => "Not a directory (os error 20)".toList
  | isDirectory => "Is a directory (os error 21)".toList
  | nameTooLong => "File name too long (os error 36)".toList
  | notText => "stream did not contain valid UTF-8".toList

/-- A folder with the content of its files. -/
structure Folder where
  files : List (Text × List UInt8)

namespace Folder

/-- Where a path has led so far. -/
inductive Place where
  | inside
  | outside
  | file (content : List UInt8)

/-- The bytes that a name may have. -/
def nameLimit : Nat :=
  255

/-- The bytes that a path may have. -/
def pathLimit : Nat :=
  4095

/-- The steps of a path, which slashes part from each other. -/
def steps : Text → List Text
  | [] => [[]]
  | c :: rest =>
    if c = '/' then [] :: steps rest
    else
      match steps rest with
      | [] => [[c]]
      | step :: others => (c :: step) :: others

/-- Where a name leads from inside the folder. -/
def lookup (folder : Folder) (name : Text) : Except FileError Place :=
  match folder.files.find? (·.1 = name) with
  | some found => .ok (.file found.2)
  | none => .error .notFound

/-- Where one step leads. An empty step and a single dot lead nowhere else, but no step leads on
from a file. -/
def next (folder : Folder) (place : Place) (step : Text) : Except FileError Place :=
  match place with
  | .file _ => .error .notADirectory
  | _ =>
    if step = [] ∨ step = ['.'] then .ok place
    else if step = ['.', '.'] then .ok .outside
    else if nameLimit < Text.utf8Size step then .error .nameTooLong
    else
      match place with
      | .inside => folder.lookup step
      | _ => .error .notFound

/-- Where a path leads. -/
def follow (folder : Folder) (path : Text) : Except FileError Place :=
  if path = [] then .error .notFound
  else if pathLimit < Text.utf8Size path then .error .nameTooLong
  else (steps path).foldlM folder.next (if path.head? = some '/' then .outside else .inside)

/-- The text of the file that a path leads to. -/
def read (folder : Folder) (path : Text) : Except FileError Text :=
  match folder.follow path with
  | .error e => .error e
  | .ok (.file content) =>
    match Text.ofUtf8? content with
    | some t => .ok t
    | none => .error .notText
  | .ok _ => .error .isDirectory

end Folder

end Reckoner
