import VoiceControl.Failure
import VoiceControl.Path

/-!
# Files

The files that a session can see: data files, configuration files and screenshots. Only what an
answer can show is kept: which paths exist, what a file holds and when it was modified.
-/

namespace VoiceControl

/-- What stands at a path. -/
inductive FileNode where
  | directory
  | file (content : String) (modified : Number)
  deriving Inhabited

/-- The files below a working directory, by absolute path. -/
structure Files where
  working : String
  nodes : List (String × FileNode)
  deriving Inhabited

/-- A file found in a directory. -/
structure FileEntry where
  path : String
  name : String
  modified : Number
  deriving Repr, DecidableEq

namespace Files

/-- An empty working directory. -/
def empty (working : String) : Files := ⟨working, []⟩

/-- The absolute path that a path denotes. -/
def absolute (fs : Files) (path : String) : String := Path.resolve fs.working path

/-- The directories above an absolute path, outermost first. -/
def parents (path : String) : List String :=
  let segments := (Path.segments path).filter (· != "")
  (List.range segments.length).map fun n => "/" ++ "/".intercalate (segments.take n)

/-- What stands at an absolute path. The working directory and those above it always exist. -/
def at? (fs : Files) (path : String) : Option FileNode :=
  match fs.nodes.lookup path with
  | some n => some n
  | none =>
      if path == fs.working || (parents fs.working).contains path then some .directory else none

/-- What a path denotes; the empty path denotes nothing. -/
def node? (fs : Files) (path : String) : Option FileNode :=
  if path = "" then none else fs.at? (fs.absolute path)

/-- Whether a path denotes something. -/
def has (fs : Files) (path : String) : Bool := (fs.node? path).isSome

/-- The content of a file. -/
def read? (fs : Files) (path : String) : Option String :=
  match fs.node? path with
  | some (.file content _) => some content
  | _ => none

/-- Sets what stands at an absolute path. -/
def set (fs : Files) (path : String) (node : FileNode) : Files :=
  ⟨fs.working, (path, node) :: fs.nodes.filter (·.1 != path)⟩

/-- Makes the directories of a list that do not exist yet. -/
def makeAll (fs : Files) (paths : List String) : Files :=
  paths.foldl (fun fs p => if (fs.at? p).isSome then fs else fs.set p .directory) fs

/-- Writes a file and makes the directories above it. -/
def write (fs : Files) (path content : String) (modified : Number) : Files :=
  let target := fs.absolute path
  (fs.makeAll (parents target)).set target (.file content modified)

/-- Makes sure that a directory exists, with those above it. A file in its way is a failure. -/
def ensureDirectory (fs : Files) (path : String) : Except Failure Files :=
  if fs.has path then .ok fs
  else if path = "" then .error (.plain "ENOENT: no such file or directory, mkdir ''")
  else
    let target := fs.absolute path
    let blocked := (parents target).any fun p =>
      match fs.at? p with
      | some (.file _ _) => true
      | _ => false
    if blocked then .error (.plain ("ENOTDIR: not a directory, mkdir '" ++ path ++ "'"))
    else .ok (fs.makeAll (parents target ++ [target]))

/-- The name of an absolute path directly inside a directory. -/
def childName? (directory path : String) : Option String :=
  let lead := if directory = "/" then "/" else directory ++ "/"
  match (lead.toList.isPrefixOf path.toList, path.toList.drop lead.length) with
  | (true, rest) => if rest.contains '/' || rest.isEmpty then none else some (String.ofList rest)
  | _ => none

/-- The files directly inside a directory whose names satisfy `accepts`, the most recently
modified first. A missing directory holds none. -/
def newestFirst (fs : Files) (directory : String) (accepts : String → Bool) :
    Except Failure (List FileEntry) :=
  match fs.node? directory with
  | none => .ok []
  | some (.file _ _) =>
      .error (.plain ("ENOTDIR: not a directory, scandir '" ++ directory ++ "'"))
  | some .directory =>
      let found := fs.nodes.filterMap fun (path, node) =>
        match childName? (fs.absolute directory) path, node with
        | some name, .file _ modified =>
            if accepts name then some ⟨Path.join directory name, name, modified⟩ else none
        | _, _ => none
      .ok (found.mergeSort fun a b => b.modified.le a.modified)

end Files

end VoiceControl
