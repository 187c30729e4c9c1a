import LinkHarvest.Text.Basic

/-!
# Internet addresses

Which texts are addresses of version 4 and version 6. Version 4 takes four decimal numbers without
leading zeros; version 6 takes eight groups of hexadecimal digits, of which one run may be left out
and the last two may be written as a version 4 address, and an optional zone after a percent sign.
-/

namespace LinkHarvest.Ip

/-- Whether a text is one number of a version 4 address. -/
def isOctet (t : Text) : Bool :=
  match t with
  | [] => false
  | c :: rest =>
    t.all Char.isDigit && t.length ≤ 3 && (rest.isEmpty || c != '0') &&
      Text.ofDigits 10 (t.filterMap Text.digit?) ≤ 255

/-- Whether a text is a version 4 address. -/
def isVersion4 (t : Text) : Bool :=
  let octets := Text.split '.' t
  octets.length == 4 && octets.all isOctet

/-- Whether a text is one group of a version 6 address. -/
def isGroup (t : Text) : Bool :=
  !t.isEmpty && t.length ≤ 4 && t.all fun c => (Text.hexDigit? c).isSome

/-- The groups of an address with a version 4 address at the end written as two groups. -/
def expandedGroups? (parts : List Text) : Option (List Text) :=
  let last := parts.getLastD []
  if last.contains '.' then
    if isVersion4 last then some (parts.dropLast ++ [['0'], ['0']]) else none
  else some parts

/-- Whether the groups before and after a left out run are in order. An empty group may stand only
at the very start or end, next to the run. -/
def isShortened (before after : List Text) : Bool :=
  let before := if before = [[]] then [] else before
  let after := if after = [[]] then [] else after
  before.all isGroup && after.all isGroup && before.length + after.length ≤ 7

/-- Whether a text without a zone is a version 6 address. -/
def isGroups (t : Text) : Bool :=
  let parts := Text.split ':' t
  if parts.length < 3 then false
  else
    match expandedGroups? parts with
    | none => false
    | some [] => false
    | some (first :: inner) =>
      if 8 < inner.length then false
      else
        -- only an empty group between two others stands for a left out run
        let before := inner.dropLast.takeWhile (!·.isEmpty)
        match inner.drop before.length with
        | [] :: after@(_ :: _) => isShortened (first :: before) after
        | _ => inner.length == 7 && (first :: inner).all isGroup

/-- Whether a text is a version 6 address, with or without a zone. -/
def isVersion6 (t : Text) : Bool :=
  if t.contains '/' then false
  else
    match Text.cut '%' t with
    | (address, none) => isGroups address
    | (address, some zone) => !zone.isEmpty && !zone.contains '%' && isGroups address

end LinkHarvest.Ip
