import FederatedLogin.Address.Host
import FederatedLogin.Address.Path
import FederatedLogin.Number.Written

/-!
# Addresses

An address is read in two steps.  A text is first cut into its components, which always succeeds;
then every component is put in its normal form or refused.  `Address.text` writes an address again.

The cuts are made from the left, except for two: the user information ends at the last at-sign of
the authority, and a host in brackets ends at the last closing bracket.
-/

namespace FederatedLogin

open FederatedLogin.Text FederatedLogin.Number

/-- An address in its normal form.  A missing query or fragment is told apart from an empty one. -/
structure Address where
  scheme : List Char
  userinfo : List Char
  host : List Char
  port : Option Int
  path : List Char
  query : Option (List Char)
  fragment : Option (List Char)
  deriving DecidableEq, Repr

namespace Address

/-- The components of a text as they are written. -/
structure Written where
  scheme : List Char
  userinfo : List Char
  host : List Char
  port : List Char
  path : List Char
  query : Option (List Char)
  fragment : Option (List Char)
  deriving DecidableEq, Repr

/-- The most characters that an address may have. -/
def maxLength : Nat :=
  65536

/-- Whether a character belongs to a scheme after its first letter. -/
def isSchemeChar (value : Char) : Bool :=
  value.isAlphanum || value == '+' || value == '.' || value == '-'

/-- Cuts a scheme and its colon off a text.  A scheme starts with a letter or is empty. -/
def splitScheme (source : List Char) : List Char × List Char :=
  let scheme := if source.head?.any Char.isAlpha then source.takeWhile isSchemeChar else []
  match source.drop scheme.length with
  | ':' :: rest => (scheme, rest)
  | _ => ([], source)

/-- Cuts a text where one of some characters first stands. -/
def splitBefore (ends : List Char) (source : List Char) : List Char × List Char :=
  (source.takeWhile (!ends.contains ·), source.dropWhile (!ends.contains ·))

/-- Cuts an authority and its two slashes off a text. -/
def splitAuthority : List Char → List Char × List Char
  | '/' :: '/' :: rest => splitBefore ['/', '?', '#'] rest
  | source => ([], source)

/-- Cuts off what a mark introduces, up to where one of some characters first stands. -/
def splitMarked (mark : Char) (ends : List Char) :
    List Char → Option (List Char) × List Char
  | [] => (none, [])
  | value :: rest =>
      if value = mark then
        let (marked, rest) := splitBefore ends rest
        (some marked, rest)
      else
        (none, value :: rest)

/-- Cuts the user information and its at-sign off an authority. -/
def splitUserinfo (authority : List Char) : List Char × List Char :=
  (splitLast? '@' authority).getD ([], authority)

/-- Cuts a host off what follows the user information. -/
def splitHost (source : List Char) : List Char × List Char :=
  match source with
  | '[' :: _ =>
      match splitLast? ']' source with
      | some (literal, rest) => (literal ++ [']'], rest)
      | none => splitBefore [':', '@'] source
  | _ => splitBefore [':', '@'] source

/-- What follows a host, without the colon that may stand in front. -/
def portAfter : List Char → List Char
  | ':' :: port => port
  | port => port

/-- The components of a text. -/
def Written.ofChars (source : List Char) : Written :=
  let (scheme, source) := splitScheme source
  let (authority, source) := splitAuthority source
  let (path, source) := splitBefore ['?', '#'] source
  let (query, source) := splitMarked '?' ['#'] source
  let (fragment, _) := splitMarked '#' [] source
  let (userinfo, source) := splitUserinfo authority
  let (host, source) := splitHost source
  { scheme, userinfo, host, port := portAfter source, path, query, fragment }

/-- The port that a scheme stands for.  Schemes count here as they are written. -/
def defaultPort? (scheme : List Char) : Option Int :=
  if scheme = "http".toList ∨ scheme = "ws".toList then some 80
  else if scheme = "https".toList ∨ scheme = "wss".toList then some 443
  else if scheme = "ftp".toList then some 21
  else none

/-- The port of an address, if what is written is one: nothing, or an integer; the default of the
scheme is dropped. -/
def normalizePort? (scheme port : List Char) : Option (Option Int) :=
  if port.isEmpty then some none
  else
    (Written.integer? (String.ofList port)).map fun number =>
      if defaultPort? scheme = some number then none else some number

/-- Whether an address has an authority. -/
def hasAuthority (userinfo host : List Char) (port : Option Int) : Bool :=
  !userinfo.isEmpty || !host.isEmpty || port.isSome

/-- Whether a path fits what stands before it. -/
def fitsPath (hasScheme hasAuthority : Bool) (path : List Char) : Bool :=
  (!hasAuthority || path.isEmpty || path.head? == some '/') &&
    (hasScheme || hasAuthority ||
      (!List.isPrefixOf ['/', '/'] path && path.head? != some ':'))

/-- The address that components make up, if each of them is in order. -/
def Written.normalize? (written : Written) : Option Address := do
  let scheme := written.scheme.map Char.toLower
  let userinfo := Quote.quote Quote.isUserinfoSafe written.userinfo
  let host ← Host.normalize? written.host
  let port ← normalizePort? written.scheme written.port
  let rooted := !scheme.isEmpty || hasAuthority userinfo host port
  if fitsPath (!scheme.isEmpty) (hasAuthority userinfo host port) written.path then
    let path := if rooted then Path.normalize written.path else written.path
    some
      { scheme, userinfo, host, port
        path := Quote.quote Quote.isPathSafe path
        query := written.query.map (Quote.quote Quote.isQuerySafe)
        fragment := written.fragment.map (Quote.quote Quote.isFragmentSafe) }
  else
    none

/-- Whether a character is an ASCII control. -/
def isControl (value : Char) : Bool :=
  value.toNat < 0x20 || value.toNat == 0x7F

/-- The address that a text writes. -/
def ofChars? (source : List Char) : Option Address :=
  if maxLength < source.length ∨ source.any isControl then none
  else (Written.ofChars source).normalize?

/-- The address that a text writes. -/
def ofText? (source : String) : Option Address :=
  ofChars? source.toList

/-- A mark and what it introduces, or nothing. -/
def marked (mark : Char) : Option (List Char) → List Char
  | none => []
  | some component => mark :: component

/-- A host as it stands in an address: a literal, which alone has colons, between brackets. -/
def shownHost (host : List Char) : List Char :=
  if host.contains ':' then '[' :: host ++ [']'] else host

/-- The authority of an address. -/
def authority (address : Address) : List Char :=
  (if address.userinfo.isEmpty then [] else address.userinfo ++ ['@']) ++
    shownHost address.host ++
    marked ':' (address.port.map fun number => (toString number).toList)

/-- The characters of an address. -/
def chars (address : Address) : List Char :=
  (if address.scheme.isEmpty then [] else address.scheme ++ [':']) ++
    (if address.authority.isEmpty then [] else '/' :: '/' :: address.authority) ++
    address.path ++ marked '?' address.query ++ marked '#' address.fragment

/-- The text of an address. -/
def text (address : Address) : String :=
  String.ofList address.chars

/-- Whether an address names a scheme and a host. -/
def isAbsolute (address : Address) : Bool :=
  !address.scheme.isEmpty && !address.host.isEmpty

/-- The address that is requested, if there is one.  One that is not absolute is taken relative to
the root of nowhere: its path and query remain, and neither may be longer than an address. -/
def requested? (address : Address) : Option Address :=
  if address.isAbsolute then some address
  else
    let path := '/' :: address.path.dropWhile (· == '/')
    if maxLength < path.length ∨ address.query.any (maxLength < ·.length) then none
    else
      some
        { scheme := [], userinfo := [], host := [], port := none, path
          query := address.query
          fragment := none }

end Address

end FederatedLogin
