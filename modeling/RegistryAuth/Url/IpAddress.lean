import RegistryAuth.Text.Cut
import RegistryAuth.Unicode.Runs

/-!
# Addresses of machines

A host may be written as a number instead of a name: four decimal numbers with points
between them, or up to eight hexadecimal groups with colons between them, one run of
zero groups left out and the last two groups perhaps written as four decimal numbers.
`isV4` and `isV6` recognise them.
-/

namespace RegistryAuth
namespace IpAddress

/-- One of the four numbers: at most three digits, without needless zeros, at most
255. -/
def isOctet (cs : List Char) : Bool :=
  !cs.isEmpty && cs.all Char.isDigit && cs.length ≤ 3 && (cs = ['0'] || cs.head? != some '0') &&
    cs.foldl (fun n c => 10 * n + (c.toNat - 48)) 0 ≤ 255

/-- Four numbers with points between them. -/
def isV4 (cs : List Char) : Bool :=
  let octets := Text.splitOn '.' cs
  octets.length = 4 && octets.all isOctet

/-- One of the eight groups: one to four hexadecimal digits. -/
def isGroup (cs : List Char) : Bool :=
  !cs.isEmpty && cs.length ≤ 4 && cs.all fun c => (Unicode.hexDigit? c).isSome

/-- The groups with a last one in decimal numbers replaced by two groups; none if those
are no address. -/
def expandTail (groups : List (List Char)) : Option (List (List Char)) :=
  match groups.getLast? with
  | some last =>
    if last.contains '.' then
      if isV4 last then some (groups.dropLast ++ [['0'], ['0']]) else none
    else some groups
  | none => some groups

/-- The positions of empty groups that are neither the first nor the last. -/
def gaps (groups : List (List Char)) : List Nat :=
  (List.range groups.length).filter fun i =>
    0 < i && i + 1 < groups.length && (groups[i]?.map List.isEmpty).getD false

/-- The groups before and after a gap: an empty first or last group must be part of
the gap. -/
def sidesValid (before after : List (List Char)) : Bool :=
  let before' := if before.head? = some [] then before.drop 1 else before
  let after' := if after.getLast? = some [] then after.dropLast else after
  (before.head? != some [] || before'.isEmpty) && (after.getLast? != some [] || after'.isEmpty) &&
    before'.length + after'.length < 8 && before'.all isGroup && after'.all isGroup

/-- Groups with colons between them, at most one run left out. -/
def isV6Groups (cs : List Char) : Bool :=
  let groups := Text.splitOn ':' cs
  if groups.length < 3 then false
  else
    match expandTail groups with
    | none => false
    | some groups =>
      if 9 < groups.length then false
      else
        match gaps groups with
        | [] => groups.length = 8 && groups.all isGroup
        | [i] => sidesValid (groups.take i) (groups.drop (i + 1))
        | _ => false

/-- An address in groups, perhaps with the name of a zone behind a percent sign. -/
def isV6 (cs : List Char) : Bool :=
  if cs.contains '/' then false
  else
    match Text.cut? (· = '%') cs with
    | none => isV6Groups cs
    | some (addr, zone) => !zone.isEmpty && !zone.contains '%' && isV6Groups addr

end IpAddress
end RegistryAuth
