import BrailleShare.Octets

/-!
# Files

What comes of an attempt to read a file, and a directory that exists in memory alone, from which
paths can be read without touching a disk. A path is walked part by part, as a system does it: every
part but the last has to lead to a directory, and what stands behind a slash is looked for in what
stands before it, even if it is nothing or a dot.
-/

namespace BrailleShare

/-- Why a file could not be read. -/
inductive FileError where
  | notFound
  | isDirectory
  /-- Something on the way to the file is no directory. -/
  | notDirectory
  | denied
  /-- The path or a name in it is longer than the system allows. -/
  | nameTooLong
  /-- The path holds a zero, with which the system ends a path. -/
  | holdsZero
  /-- The file is no text in UTF-8. -/
  | notText
  | other (reason : String)
  deriving DecidableEq, Repr

/-- The reason in words, as the system gives them. -/
def FileError.message : FileError → String
  | .notFound => "No such file or directory (os error 2)"
  | .isDirectory => "Is a directory (os error 21)"
  | .notDirectory => "Not a directory (os error 20)"
  | .denied => "Permission denied (os error 13)"
  | .nameTooLong => "File name too long (os error 36)"
  | .holdsZero => "file name contained an unexpected NUL byte"
  | .notText => "stream did not contain valid UTF-8"
  | .other reason => reason

/-- What a directory holds under a name. -/
inductive FileEntry where
  | directory
  | file (contents : Octets)
  deriving DecidableEq, Repr

/-- The contents of a directory, at any depth: paths from it, with a slash between their parts. -/
abbrev Folder := List (String × FileEntry)

namespace Folder

/-- What every system has, from its root on. -/
def system : Folder :=
  ["bin", "boot", "dev", "etc", "home", "lib", "media", "mnt", "opt", "proc", "root", "run", "sbin",
    "srv", "sys", "tmp", "usr", "usr/bin", "usr/lib", "usr/share", "var", "var/lib", "var/log",
    "var/tmp"].map (·, .directory) ++
  [("dev/null", .file []), ("etc/passwd", .file "root:x:0:0:root:/root:/bin/sh\n".toUTF8.toList)]

/-- The longest name, in octets. -/
def maxName : Nat := 255

/-- The longest path, in octets. -/
def maxPath : Nat := 4095

/-- Where a walk along a path has come to. -/
inductive Place where
  /-- A directory above the folder in which the walk began. -/
  | above
  /-- A directory in the folder in which the walk began. -/
  | inFolder (path : List String)
  /-- A directory counted from the root of the system. -/
  | inSystem (path : List String)
  | file (contents : Octets)
  deriving DecidableEq, Repr

/-- What a folder holds at a path. What lies on the way to an entry is a directory. -/
def entry? (folder : Folder) (path : List String) : Option FileEntry :=
  let name := "/".intercalate path
  match folder.find? fun e => e.1 == name with
  | some e => some e.2
  | none => if folder.any fun e => e.1.startsWith (name ++ "/") then some .directory else none

/-- Goes to an entry of a directory. -/
def enter (folder : Folder) (path : List String) (here : List String → Place) :
    Except FileError Place :=
  match entry? folder path with
  | none => .error .notFound
  | some .directory => .ok (here path)
  | some (.file contents) => .ok (.file contents)

/-- Goes on by one part of a path. -/
def step (folder : Folder) (place : Place) (part : String) : Except FileError Place :=
  let stays := part = "" ∨ part = "."
  let tooLong := maxName < part.utf8ByteSize
  match place with
  | .file _ => .error .notDirectory
  | .above =>
    if stays ∨ part = ".." then .ok .above
    else .error (if tooLong then .nameTooLong else .notFound)
  | .inFolder path =>
    if stays then .ok place
    else if part = ".." then .ok (if path = [] then .above else .inFolder path.dropLast)
    else if tooLong then .error .nameTooLong
    else enter folder (path ++ [part]) .inFolder
  | .inSystem path =>
    if stays then .ok place
    else if part = ".." then .ok (.inSystem path.dropLast)
    else if tooLong then .error .nameTooLong
    else enter system (path ++ [part]) .inSystem

/-- Where a path leads to. A path that begins with a slash begins at the root of the system. -/
def walk (folder : Folder) (path : String) : Except FileError Place :=
  let start := if path.startsWith "/" then Place.inSystem [] else .inFolder []
  (path.splitOn "/").foldlM (step folder) start

/-- Reads the file at a path. -/
def read (folder : Folder) (path : String) : Except FileError Octets :=
  if path = "" then .error .notFound
  else if maxPath < path.utf8ByteSize then .error .nameTooLong
  else
    match walk folder path with
    | .error e => .error e
    | .ok (.file contents) => .ok contents
    | .ok _ => .error .isDirectory

end Folder

end BrailleShare
