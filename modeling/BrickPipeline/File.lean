import BrickPipeline.Error
import BrickPipeline.Text.Scan

/-!
Files as values: what a path leads to, and the text of a file. Paths are resolved name by name
from a directory, so a name behind a file or a directory in place of a file is a fault of its own.
-/
namespace BrickPipeline

/-- Why a path leads to nothing that can be read. -/
inductive FileFault where
  | missing
  | directory
  /-- The path goes on behind a file. -/
  | notDirectory
  | nameTooLong
  | other (reason : String)
deriving DecidableEq, Inhabited

/-- The fault in words, with the number that the system gives it. -/
def FileFault.message : FileFault → String
  | .missing => "No such file or directory (os error 2)"
  | .directory => "Is a directory (os error 21)"
  | .notDirectory => "Not a directory (os error 20)"
  | .nameTooLong => "File name too long (os error 36)"
  | .other reason => reason

/-- What stands at a path. -/
inductive FileContent where
  | absent (fault : FileFault)
  | present (bytes : ByteArray)

namespace FileContent

def missing : FileContent := .absent .missing

def ofText (text : String) : FileContent := .present text.toUTF8

def text : FileContent → Except Error String
  | .absent fault => .error (.io fault.message)
  | .present bytes =>
    match String.fromUTF8? bytes with
    | some text => .ok text
    | none => .error (.io "stream did not contain valid UTF-8")

end FileContent

abbrev Files := String → FileContent

namespace Files

def nameBytes : Nat := 255

/-- The bytes of the shortest path that is too long. -/
def pathBytes : Nat := 4096

/-- Follow names from a directory, given as its names with the innermost first; `none` is a
directory outside, of which nothing is known. -/
def follow (files : List (String × ByteArray)) : Option (List String) → List String → FileContent
  | _, [] => .absent .directory
  | place, name :: rest =>
    if name = "" ∨ name = "." then follow files place rest
    else if name = ".." then follow files (place.bind List.tail?) rest
    else if nameBytes < name.utf8ByteSize then .absent .nameTooLong
    else match place with
      | none => .missing
      | some names =>
        let path := "/".intercalate (name :: names).reverse
        match files.lookup path with
        | some bytes => if rest.isEmpty then .present bytes else .absent .notDirectory
        | none =>
          if files.any fun (other, _) => other.startsWith (path ++ "/") then
            follow files (some (name :: names)) rest
          else .missing

/-- A directory with the given files in it; paths start there. -/
def ofList (files : List (String × ByteArray)) : Files := fun path =>
  if path.isEmpty then .missing
  else if pathBytes ≤ path.utf8ByteSize then .absent .nameTooLong
  else
    let names := (Text.splitOn '/' path.toList).map String.ofList
    follow files (if path.startsWith "/" then none else some []) names

end Files
end BrickPipeline
