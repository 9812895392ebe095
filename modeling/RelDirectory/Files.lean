import RelDirectory.Keyed
import RelDirectory.Text.Split
import RelDirectory.Text.Utf8

/-!
# Files

A tree of files below a working directory, and what reading a path in it gives.  A path is
followed component by component: `.` stays, `..` goes up, and every component but the last is a
directory.  Only what lies below the working directory exists.
-/
set_option autoImplicit false
namespace RelDirectory

/-- Why a file could not be opened or read. -/
inductive FileFault where
  | notFound
  | notDirectory
  | isDirectory
  | nameTooLong
  | nullByte
  | notUtf8
  | other (text : String)
deriving DecidableEq

def FileFault.message : FileFault → String
  | .notFound => "No such file or directory (os error 2)"
  | .notDirectory => "Not a directory (os error 20)"
  | .isDirectory => "Is a directory (os error 21)"
  | .nameTooLong => "File name too long (os error 36)"
  | .nullByte => "file name contained an unexpected NUL byte"
  | .notUtf8 => "stream did not contain valid UTF-8"
  | .other text => text

/-- What a path leads to. -/
abbrev Reader := String → Except FileFault (List UInt8)

/-- The text of a file. -/
def Reader.text (read : Reader) (path : String) : Except FileFault String := do
  match Text.Utf8.decode? (← read path) with
  | some text => pure text
  | none => .error .notUtf8

/-- The path of `file` seen from `directory`; a file with an absolute path stands alone. -/
def joinPath (directory file : String) : String :=
  if file.startsWith "/" then file
  else if directory = "" ∨ directory.endsWith "/" then directory ++ file
  else directory ++ "/" ++ file

/-- File contents by the names that lead to them from the working directory. -/
structure FileTree where
  files : List (List String × List UInt8)

namespace FileTree

/-- The components of a path, empty ones and `.` left out. -/
def componentsOf (path : String) : List String :=
  ((Text.split '/' path.toList).map String.ofList).filter fun c => c != "" && c != "."

/-- The components that are left when each `..` removes the one before it. -/
def normalize (components : List String) : List String :=
  (components.foldl (fun seen c => if c = ".." then seen.drop 1 else c :: seen) []).reverse

def file? (t : FileTree) (place : List String) : Option (List UInt8) :=
  (t.files.reverse.find? fun f => f.1 == place).map (·.2)

/-- A directory is the working directory or one with a file somewhere below it. -/
def isDirectory (t : FileTree) (place : List String) : Bool :=
  place.isEmpty || t.files.any fun f => place.isPrefixOf f.1 && f.1 != place

/-- The end of a path: a directory, a file, or a name in a directory that has none such. -/
inductive Place where
  | directory
  | file (place : List String) (content : List UInt8)
  | vacant (place : List String)

/-- Goes on from a directory below the working directory, or `above` levels above it. -/
def follow (t : FileTree) (above : Nat) (place : List String) :
    List String → Except FileFault Place
  | [] => .ok .directory
  | c :: cs =>
    if c = ".." then
      if place.isEmpty then follow t (above + 1) [] cs else follow t above place.dropLast cs
    else if above ≠ 0 then .error .notFound
    else if 255 < c.utf8ByteSize then .error .nameTooLong
    else
      let next := place ++ [c]
      match t.file? next with
      | some content => if cs.isEmpty then .ok (.file next content) else .error .notDirectory
      | none =>
        if t.isDirectory next then follow t above next cs
        else if cs.isEmpty then .ok (.vacant next)
        else .error .notFound

/-- Whether a path can only mean a directory. -/
def namesDirectory (path : String) : Bool :=
  match ((Text.split '/' path.toList).map String.ofList).getLast? with
  | some last => last == "" || last == "." || last == ".."
  | none => false

def place (t : FileTree) (path : String) : Except FileFault Place :=
  if path.toList.contains (Char.ofNat 0) then .error .nullByte
  else if path = "" ∨ path.startsWith "/" then .error .notFound
  else follow t 0 [] (componentsOf path)

def read (t : FileTree) : Reader := fun path => do
  match ← t.place path with
  | .directory => .error .isDirectory
  | .file _ content => if namesDirectory path then .error .notDirectory else .ok content
  | .vacant _ => .error .notFound

/-- Whether a file can be opened to add to it, made if need be: its place and what it holds. -/
def openToAppend (t : FileTree) (path : String) :
    Except FileFault (List String × List UInt8) := do
  match ← t.place path with
  | .directory => .error .isDirectory
  | .file place content =>
    if namesDirectory path then .error .notDirectory else .ok (place, content)
  | .vacant place => if namesDirectory path then .error .isDirectory else .ok (place, [])

def ofEntries (entries : List (String × List UInt8)) : FileTree :=
  ⟨entries.map fun e => (normalize (componentsOf e.1), e.2)⟩

end FileTree

end RelDirectory
