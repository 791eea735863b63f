import SelectorTutorial.Url.File

/-! Reading a URL, by itself or relative to another one. -/

namespace SelectorTutorial

namespace Url

/-- A URL from what stands after its scheme and two slashes. -/
def ofAuthority (scheme : String) (cs : List Char) : Except Fault Url := do
  let special := isSpecial scheme
  let authority := cs.takeWhile fun c => !endsAuthority special c
  let rest := cs.dropWhile fun c => !endsAuthority special c
  let (userinfo, place) := (atLastAt? authority).getD ([], authority)
  if authority.head? = some '@' ∧ userinfo.isEmpty ∧ place.isEmpty ∧ !rest.isEmpty then
    throw .emptyHost
  let (user, password) := credentials userinfo
  let (hostText, afterHost) := spanHost false place
  if special ∧ hostText.isEmpty then throw .emptyHost
  let host ← if special then specialHost hostText else plainHost hostText
  if host = .name "" ∧ (!afterHost.isEmpty ∨ user ≠ "" ∨ password ≠ "") then throw .emptyHost
  -- Outside of the special schemes a backslash ends a port all the same.
  let port ← readPort scheme ((afterHost.drop 1).takeWhile (· != '\\'))
  let left := (afterHost.drop 1).dropWhile (· != '\\')
  let url : Url := { scheme, user, password, host := some host, port, path := .segments [] }
  return url.withRootPath (left ++ rest)

/-- A URL relative to one that has segments. -/
def relativeTo (base : Url) (segments : List String) (cs : List Char) : Except Fault Url :=
  match cs with
  | [] => .ok { base with fragment := none }
  | '?' :: _ => .ok (base.withTail cs)
  | '#' :: rest => .ok { base with fragment := some (encodedFragment rest) }
  | c :: rest =>
    if isSlash c then
      match cs with
      | '/' :: '/' :: after => ofAuthority base.scheme after
      | _ =>
        if (rest.head?.any isSlash) then ofAuthority base.scheme (cs.dropWhile isSlash)
        else .ok (base.withPath [] rest)
    else .ok (base.withPath segments.dropLast cs)

/-- A URL with neither a special scheme nor room for a host. -/
def withoutHost (scheme : String) (cs : List Char) : Url :=
  match cs with
  | '/' :: rest => { scheme, path := .segments [] : Url }.withPath [] rest
  | _ =>
    let path := cs.takeWhile fun c => c != '?' && c != '#'
    { scheme, path := .flat (.ofList (percentEncode encodedAlways path)) : Url }.withTail
      (afterPath cs)

/-- A URL from its scheme and what stands after that. -/
def ofScheme (base : Option Url) (scheme : String) (cs : List Char) : Except Fault Url :=
  if scheme = "file" then ofFile (base.filter (·.scheme = "file")) cs
  else if isSpecial scheme then
    -- Fewer than two slashes after the scheme of the base make a URL relative to it all the same.
    let near := base.filter fun b => b.scheme = scheme ∧ (cs.takeWhile isSlash).length < 2
    match near with
    | some base => relativeTo base base.path.parts cs
    | none => ofAuthority scheme (cs.dropWhile isSlash)
  else match cs with
    | '/' :: '/' :: rest => ofAuthority scheme rest
    | _ => .ok (withoutHost scheme cs)

/-- Controls and spaces around a URL and the tabs and line breaks inside of it are passed over. -/
def clean (s : String) : List Char :=
  (Text.dropAround (·.toNat ≤ 0x20) s.toList).filter fun c => !isDropped c

/-- The URL that a text denotes, on its own or relative to a base. -/
def ofText (base : Option Url) (s : String) : Except Fault Url :=
  let cs := clean s
  match scheme? cs, base with
  | some (scheme, rest), _ => ofScheme base scheme rest
  | none, none => .error .relativeWithoutBase
  | none, some base =>
    match cs, base.path with
    | '#' :: rest, _ => .ok { base with fragment := some (encodedFragment rest) }
    | _, .flat _ => .error .relativeToFlatBase
    | _, .segments list =>
      if base.scheme = "file" then ofFile (some base) cs else relativeTo base list cs

end Url

end SelectorTutorial
