import FederatedLogin.Address.Quote
import FederatedLogin.Text.Digit
import FederatedLogin.Text.Separated

/-!
# Hosts

A host is a dotted quad, a literal in brackets, or a name.  A host that looks like a dotted quad
has to be one, and a literal has to be an IPv6 address; both are kept as they are written, the
literal without its brackets.  A name is put in lower case and percent-quoted.

Names with characters outside ASCII are refused.
-/

namespace FederatedLogin.Address.Host

open FederatedLogin.Text

/-- Whether a host is four runs of digits with a dot between each two. -/
def looksLikeQuad (host : List Char) : Bool :=
  let parts := partsAt '.' host
  parts.length == 4 && parts.all fun part => !part.isEmpty && part.all isAsciiDigit

/-- Whether a part of a dotted quad is a number below 256 without leading zeros. -/
def isOctet (part : List Char) : Bool :=
  !part.isEmpty && part.all isAsciiDigit && part.length ≤ 3 &&
    (part == ['0'] || part.head? != some '0') && naturalOfDigits part < 256

/-- Whether a text is an IPv4 address. -/
def isIpv4 (host : List Char) : Bool :=
  let parts := partsAt '.' host
  parts.length == 4 && parts.all isOctet

/-- Whether a text is a group of an IPv6 address. -/
def isHextet (part : List Char) : Bool :=
  !part.isEmpty && part.length ≤ 4 && part.all fun value => (hexValue? value).isSome

/-- An IPv6 address with an IPv4 address at its end, with two groups in place of that address. -/
def withoutQuad? (parts : List (List Char)) : Option (List (List Char)) :=
  match parts.getLast? with
  | some last =>
      if last.contains '.' then
        if isIpv4 last then some (parts.dropLast ++ [['0'], ['0']]) else none
      else some parts
  | none => none

/-- How many empty groups lie strictly between the first and the last. -/
def innerGaps (parts : List (List Char)) : Nat :=
  ((parts.drop 1).dropLast.filter List.isEmpty).length

/-- The groups around the gap of an address: those before it and those after it, where an empty
group at an end of the address belongs to the gap and has to stand right at it. -/
def aroundGap? (parts : List (List Char)) : Option (List (List Char) × List (List Char)) :=
  let before := parts.take 1 ++ (parts.drop 1).takeWhile fun part => !part.isEmpty
  let after := parts.drop (before.length + 1)
  let high := match before with
    | [[]] => some []
    | [] :: _ => none
    | groups => some groups
  let low := match after.reverse with
    | [[]] => some []
    | [] :: _ => none
    | groups => some groups.reverse
  match high, low with
  | some high, some low => some (high, low)
  | _, _ => none

/-- Whether groups make up an IPv6 address: eight of them, or fewer with one gap. -/
def isGroups (parts : List (List Char)) : Bool :=
  if parts.length > 9 then false
  else
    match innerGaps parts with
    | 0 => parts.length == 8 && parts.all isHextet
    | 1 =>
        match aroundGap? parts with
        | some (high, low) => high.length + low.length < 8 && (high ++ low).all isHextet
        | none => false
    | _ => false

/-- Whether a text is an IPv6 address, with or without a zone after a percent sign. -/
def isIpv6 (host : List Char) : Bool :=
  let address := host.takeWhile (· != '%')
  let zoneOk := match host.drop address.length with
    | [] => true
    | _ :: zone => !zone.isEmpty && !zone.contains '%'
  let parts := partsAt ':' address
  zoneOk && !host.contains '/' && 3 ≤ parts.length &&
    match withoutQuad? parts with
    | some groups => isGroups groups
    | none => false

/-- A host in its normal form, if it is one; a literal loses its brackets. -/
def normalize? (host : List Char) : Option (List Char) :=
  if host.isEmpty then some []
  else if looksLikeQuad host then
    if isIpv4 host then some host else none
  else if host.head? = some '[' ∧ host.getLast? = some ']' then
    let literal := (host.drop 1).dropLast
    if isIpv6 literal then some literal else none
  else if host.all fun value => value.toNat < 0x80 then
    some (Quote.quote Quote.isHostSafe (host.map Char.toLower))
  else
    none

example : isIpv6 "::".toList && isIpv6 "fe80::1%eth0".toList && isIpv6 "::FFFF:1.2.3.4".toList &&
    !isIpv6 "1::2::3".toList && !isIpv6 ":1".toList && !isIpv6 "1:2:3:4:5:6:7".toList := by
  decide +kernel

end FederatedLogin.Address.Host
