/-
# Scripts in folders

A script is named by the path of its file, or by the path without its ending inside of the folder of
scripts.
-/

import Walkthrough.Folder
import Walkthrough.Script.Loaded
import Walkthrough.Yaml.Reader

namespace Walkthrough

/-- A script with the path that it was loaded from. -/
structure StoredScript where
  path : String
  loaded : LoadedScript

namespace StoredScript

/-- The folder in which scripts are looked up if no other is named. -/
def defaultBase : String := "scripts"

/-- The path that a name stands for. -/
def locate (f : Folder) (base name : String) : Except Error String :=
  if f.isFile name then .ok (Path.normal name)
  else
    let path := Path.inside base (name ++ ".yaml")
    if f.exists? path then .ok path else .error (.failure (.noScript name))

/-- The value of a document in a file. -/
def readDocument (path text : String) : Except Error Value :=
  match Yaml.read text with
  | .ok v => .ok v
  | .error (.markup _) => Script.refuse (.malformedDocument path)
  | .error e => .error (.failure e)

/-- **Loading** a script by its name. A path that leads to a folder is looked up once more as a name. -/
def load (f : Folder) (base name : String) : Except Error StoredScript := do
  let path ← locate f base name
  let file ← locate f base path
  let text ← (f.read file).mapError .failure
  let v ← readDocument file text
  return ⟨path, ← LoadedScript.ofValue file v⟩

end StoredScript
end Walkthrough
