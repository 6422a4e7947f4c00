/-!
# Path texts

Paths are texts with `/` between their segments. `Path.join` and `Path.resolve` give them in normal
form: no empty segment, no `.`, and `..` only in front of a relative path.
-/

namespace VoiceControl

namespace Path

/-- The segments of a path text between its separators. -/
def segments (path : String) : List String :=
  (path.toList.splitOnP (· == '/')).map String.ofList

/-- Applies one segment to the segments so far, last first. Above the root of an absolute path
there is nothing to go up to. -/
def step (absolute : Bool) (soFar : List String) (segment : String) : List String :=
  if segment = "" ∨ segment = "." then soFar
  else if segment = ".." then
    match soFar with
    | [] => if absolute then [] else [".."]
    | last :: rest => if last = ".." then ".." :: soFar else rest
  else segment :: soFar

/-- The normal form of the segments of a path. -/
def reduce (absolute : Bool) (segments : List String) : List String :=
  (segments.foldl (step absolute) []).reverse

/-- Whether a path starts at the root. -/
def isAbsolute (path : String) : Bool := path.toList.head? == some '/'

/-- The normal form of a path; a separator at its end is kept, and the empty path is the current
directory. -/
def normalise (path : String) : String :=
  let absolute := isAbsolute path
  let body := "/".intercalate (reduce absolute (segments path))
  let trailing := path.toList.getLast? == some '/'
  if path = "" then "."
  else if body = "" then
    if absolute then "/" else if trailing then "./" else "."
  else (if absolute then "/" else "") ++ body ++ (if trailing then "/" else "")

/-- Two paths one behind the other, in normal form. -/
def join (first second : String) : String :=
  if first = "" then normalise second
  else if second = "" then normalise first
  else normalise (first ++ "/" ++ second)

/-- The absolute path that `path` denotes from a working directory. -/
def resolve (working path : String) : String :=
  let whole := if isAbsolute path then path else working ++ "/" ++ path
  "/" ++ "/".intercalate (reduce true (segments whole))

/-- What follows the last separator of either kind. -/
def baseName (path : String) : String :=
  match ((path.toList.splitOnP fun c => c == '/' || c == '\\').map String.ofList).getLast? with
  | some name => name
  | none => path

end Path

end VoiceControl
