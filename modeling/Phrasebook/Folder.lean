import Phrasebook.Keyed

/-!
# Files

What reading a file by its path can yield, and a folder of files held in memory that is read by
relative paths as a file system is: parts of a path are separated by slashes, empty parts and single
dots stay where they are, and a part that leads through a file leads nowhere. A whole path is
measured before any of its parts is followed, so one that is too long is refused wherever it leads.
-/

namespace Phrasebook

/-- Why a file cannot be read. -/
inductive ReadFault where
  | notFound
  | notDirectory
  | isDirectory
  | nameTooLong
  | nullInPath
  | notText
  | other (message : String)
  deriving DecidableEq, Repr

namespace ReadFault

/-- The wording of a fault. -/
def message : ReadFault → String
  | notFound => "No such file or directory (os error 2)"
  | notDirectory => "Not a directory (os error 20)"
  | isDirectory => "Is a directory (os error 21)"
  | nameTooLong => "File name too long (os error 36)"
  | nullInPath => "file name contained an unexpected NUL byte"
  | notText => "stream did not contain valid UTF-8"
  | other message => message

end ReadFault

/-- A way to read the text of a file by its path. -/
abbrev FileReader := String → Except ReadFault String

/-- A folder: the contents of its files, by their paths in it. -/
structure Folder where
  files : Keyed ByteArray

namespace Folder

/-- Where a path has led: to a directory, by the parts of its path, to a file, or out of the
folder. -/
inductive Place where
  | directory (parts : List String)
  | file (contents : ByteArray)
  | outside

/-- The longest path, in bytes. -/
def maxPath : Nat := 4095

/-- The longest part of a path, in bytes. -/
def maxPart : Nat := 255

/-- Whether a file lies in the directory of a path. -/
def isDirectory (f : Folder) (path : String) : Bool :=
  f.files.keys.any fun name => (path ++ "/").toList <+: name.toList

/-- The place that one part of a path leads to. -/
def step (f : Folder) (place : Place) (part : String) : Except ReadFault Place :=
  match place with
  | .file _ => .error .notDirectory
  | .outside =>
    if part = "" ∨ part = "." ∨ part = ".." then .ok .outside else .error .notFound
  | .directory parts =>
    if part = "" ∨ part = "." then .ok place
    else if part = ".." then .ok (if parts.isEmpty then .outside else .directory parts.dropLast)
    else if maxPart < part.utf8ByteSize then .error .nameTooLong
    else
      let path := String.intercalate "/" (parts ++ [part])
      match f.files.get? path with
      | some contents => .ok (.file contents)
      | none =>
        if f.isDirectory path then .ok (.directory (parts ++ [part])) else .error .notFound

/-- The place that a path leads to. -/
def find (f : Folder) (path : String) : Except ReadFault Place :=
  let parts := (path.toList.splitOn '/').map String.ofList
  parts.foldlM f.step (if path.toList.head? = some '/' then .outside else .directory [])

/-- The text of a file. -/
def read (f : Folder) : FileReader := fun path =>
  if path.isEmpty then .error .notFound
  else if path.toList.any (·.toNat = 0) then .error .nullInPath
  else if maxPath < path.utf8ByteSize then .error .nameTooLong
  else do
    match ← f.find path with
    | .file contents =>
      match String.fromUTF8? contents with
      | some text => return text
      | none => throw .notText
    | _ => throw .isDirectory

end Folder

end Phrasebook
