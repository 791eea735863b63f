import SelectorTutorial.Url.Parts

/-! Reading the URL of a file, whose path may start with a drive and whose host is mostly left
out. -/

namespace SelectorTutorial

namespace Url

/-- The URL of a file without a host, whose path is still to be read. -/
def bareFile : Url :=
  { scheme := "file", host := some (.name ""), path := .segments [] }

/-- A segment that is a drive with its colon. -/
def isSettledDrive (segment : String) : Bool :=
  isDrive segment.toList && segment.toList.contains ':'

/-- The path of a file starts with no empty segments, unless it has no others. -/
def trimRoot (url : Url) : Url :=
  match url.path with
  | .flat _ => url
  | .segments list =>
    let list := match list.dropWhile (· == "") with
      | [] => [""]
      | first :: rest => first :: rest
    { url with path := .segments list }

/-- A file whose path starts with a drive is on no other host. -/
def dropHostOfDrive (url : Url) : Url :=
  if url.path.parts.head?.any isSettledDrive then { url with host := some (.name "") } else url

/-- Whether some characters start with a drive. -/
def startsWithDrive (cs : List Char) : Bool :=
  isDrive (cs.take 2) && ((cs.drop 2).head?.all fun c => isSlash c || c == '?' || c == '#')

/-- The host of a file; the machine itself has none. -/
def fileHost (cs : List Char) : Except Fault Host :=
  if cs.isEmpty then .ok (.name "")
  else (specialHost cs).map fun host => if host = .name "localhost" then .name "" else host

/--
The URL of a file from what stands after two slashes.  A drive in the place of the host is the start
of the path; without a host, the slash before the path leaves an empty segment to be trimmed.
-/
def ofFileAuthority (cs : List Char) : Except Fault Url := do
  let name := cs.takeWhile fun c => !endsAuthority true c
  let after := cs.dropWhile fun c => !endsAuthority true c
  if isDrive name then return (bareFile.withPath [] cs).trimRoot
  let host ← fileHost name
  if host = .name "" then return (bareFile.withPath [] after).trimRoot
  return ({ bareFile with host := some host }.withRootPath after).dropHostOfDrive.trimRoot

/-- The URL of a file from what stands after one slash: on the host and the drive of another
file. -/
def ofFileRoot (base : Option Url) (cs : List Char) : Url :=
  if startsWithDrive cs then (bareFile.withPath [] cs).trimRoot
  else match base with
    | none => (bareFile.withPath [] cs).trimRoot
    | some base =>
      match base.path.parts.head?.filter isSettledDrive with
      | some drive => (bareFile.withPath [drive] cs).trimRoot
      | none => ({ bareFile with host := base.host }.withPath [] cs).trimRoot

/-- The segments that a path relative to a file starts from. -/
def fileFolder (segments : List String) : List String :=
  if segments.getLast?.any isSettledDrive then segments else segments.dropLast

/-- The URL of a file relative to another one, from what has no slash before it. -/
def ofFileBeside (base : Url) (cs : List Char) : Url :=
  match cs with
  | [] => { base with fragment := none }
  | '?' :: _ => base.withTail cs
  | '#' :: rest => { base with fragment := some (encodedFragment rest) }
  | _ =>
    if startsWithDrive cs then (bareFile.withPath [] cs).trimRoot
    else (base.withPath (fileFolder base.path.parts) cs).trimRoot

/-- The URL of a file from what stands after its scheme, or relative to another file. -/
def ofFile (base : Option Url) (cs : List Char) : Except Fault Url :=
  let noSlash (cs : List Char) : Url := match base with
    | none => (bareFile.withPath [] cs).trimRoot
    | some base => ofFileBeside base cs
  match cs with
  | [] => .ok (noSlash [])
  | first :: rest =>
    if !isSlash first then .ok (noSlash cs)
    else match rest with
      | [] => .ok (ofFileRoot base [])
      | second :: after =>
        if isSlash second then ofFileAuthority after else .ok (ofFileRoot base rest)

end Url

end SelectorTutorial
