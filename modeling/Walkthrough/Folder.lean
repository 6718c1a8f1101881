/-
# Folders

A folder holds the texts of files by their paths. A path is split at slashes; empty parts and single
points in it say nothing, and two points go up.
-/

import Walkthrough.Error.Basic

namespace Walkthrough
namespace Path

/-- The parts of a path that say something. -/
def parts (path : String) : List String :=
  ((Text.splitOnChar '/' path.toList).map String.ofList).filter fun p => p != "" && p != "."

/-- Whether a path starts at the root of all folders. -/
def isAbsolute (path : String) : Bool := path.toList.head? == some '/'

/-- A path without parts that say nothing. -/
def normal (path : String) : String :=
  let text := Text.joined "/" (parts path)
  if isAbsolute path then "/" ++ text else if text.isEmpty then "." else text

/-- A path inside of a folder; an absolute one stays as it is. -/
def inside (folder path : String) : String :=
  if isAbsolute path then normal path else normal (folder ++ "/" ++ path)

/-- Parts without those that go up, if they do not lead out of the folder. -/
def resolved? : List String → List String → Option (List String)
  | above, [] => some above.reverse
  | above, ".." :: rest =>
    match above with
    | _ :: above => resolved? above rest
    | [] => none
  | above, part :: rest => resolved? (part :: above) rest

end Path

/-- The texts of files by their paths, and folders that may have no files in them. -/
structure Folder where
  files : OrderedMap String String
  folders : List String := []

namespace Folder

/-- Where a path leads; an absolute one starts with an empty part. -/
def place? (path : String) : Option (List String) :=
  let parts := Path.resolved? [] (Path.parts path)
  if Path.isAbsolute path then parts.map ("" :: ·) else parts

/-- The text of a file. -/
def text? (f : Folder) (path : String) : Option String :=
  (place? path).bind fun parts => f.files.get? (Text.joined "/" parts)

/-- Whether a path leads to a file. -/
def isFile (f : Folder) (path : String) : Bool := (f.text? path).isSome

/-- Whether a path leads to a folder: the folder itself, or one with files in it. -/
def isFolder (f : Folder) (path : String) : Bool :=
  match place? path with
  | none => false
  | some [] => true
  | some parts =>
    let place := Text.joined "/" parts
    let start := (place ++ "/").toList
    f.folders.contains place || f.files.keys.any fun file =>
      (Text.afterMark? start file.toList).isSome

/-- Whether a path leads to anything. -/
def exists? (f : Folder) (path : String) : Bool := f.isFile path || f.isFolder path

/-- Reads a file. -/
def read (f : Folder) (path : String) : Except Failure String :=
  match f.text? path with
  | some text => .ok text
  | none => .error (if f.isFolder path then .isDirectory else .noFile (Path.normal path))

/-- Writes a file into a folder that is there. -/
def write (f : Folder) (path text : String) : Except Failure Folder :=
  match place? path with
  | none => .error (.noFile (Path.normal path))
  | some parts =>
    if f.isFolder path then .error .isDirectory
    else if f.isFolder (Text.joined "/" parts.dropLast) then
      .ok { f with files := f.files.insert (Text.joined "/" parts) text }
    else .error (.noFile (Path.normal path))

end Folder
end Walkthrough
