import SelectorTutorial.Url.Domain.Label

/-!
The names of hosts.  A name is brought to one form, in small letters and in ASCII, so that equal
hosts have equal names.
-/

namespace SelectorTutorial

namespace Url

/-- Characters that no name may hold. -/
def forbiddenInDomain (c : Char) : Bool :=
  c.toNat ≤ 0x20 || c.toNat == 0x7F || c == '%' || c == '<' || c == '>' || c == '|' || c == ':' ||
    c == '#' || c == '/' || c == '?' || c == '@' || c == '[' || c == '\\' || c == ']' || c == '^'

/-- A name in small letters and its canonical form. -/
def folded? (cs : List Char) : Option (List Char) :=
  if cs.any isBeyondAscii then mapName? cs else some (cs.map Char.toLower)

/--
The one form of a name, if it is the name of a host at all.  If any of its labels is written from
right to left, each of them has to keep to one direction.
-/
def domain? (cs : List Char) : Option (List Char) := do
  let name ← folded? cs
  if name.any forbiddenInDomain then none
  let labels ← (Text.pieces (· == '.') name).mapM Label.ofText?
  if labels.any Label.turnsLeft ∧ !labels.all Label.keepsDirection then none
  return ['.'].intercalate (labels.map (·.written))

end Url

end SelectorTutorial
