import Reroute.Rule.Basic
import Reroute.Text.Digit

/-!
# Destinations

Which texts may be the destination of a rule: a glob, an absolute URL, or
something that starts like a domain. A URL is split into its scheme and its
authority, the text between `//` and the path, with the checks that an authority
has to pass: the text in its brackets is an IPv6 address, or an address of a later
version.
-/

namespace Reroute.Url

/-! ## Addresses in brackets -/

/-- A digit of base ten. -/
def isDecimalDigit : Code → Bool := Code.is fun c => '0' ≤ c && c ≤ '9'

/-- A number from 0 to 255 without leading zeros. -/
def isOctet (s : List Code) : Bool :=
  !s.isEmpty && s.all isDecimalDigit && s.length ≤ 3 && (s = [.char '0'] || s.head? ≠ some (.char '0')) &&
    Text.digitsValue 0 (s.map Code.toChar) ≤ 255

/-- An IPv4 address: four octets with dots between them. -/
def isIpv4 (s : List Code) : Bool :=
  let octets := Text.splitAt (.char '.') s
  octets.length = 4 && octets.all isOctet

def isHexDigit : Code → Bool := Code.is fun c => (Text.hexValue? c).isSome

/-- Up to four hexadecimal digits. -/
def isGroup (s : List Code) : Bool := !s.isEmpty && s.length ≤ 4 && s.all isHexDigit

/-- The number of groups of an IPv6 address. -/
def groupCount : Nat := 8

/-- The groups of an address with an IPv4 address at its end written as two
groups; `none` when the end has a dot and is no IPv4 address. -/
def unifyGroups (groups : List (List Code)) : Option (List (List Code)) :=
  match groups.getLast? with
  | some last =>
    if last.contains '.' then
      if isIpv4 last then some (groups.dropLast ++ [[.char '0'], [.char '0']]) else none
    else some groups
  | none => some groups

/-- Whether the groups on the two sides of a gap fit: an empty group may only
stand for the gap at the very end of the address. -/
def fitAroundGap (before after : List (List Code)) : Bool :=
  let side (groups : List (List Code)) (outer : Option (List Code)) : Option (List (List Code)) :=
    if outer = some [] then if groups.length = 1 then some [] else none else some groups
  match side before before.head?, side after after.getLast? with
  | some hi, some lo => hi.length + lo.length < groupCount && hi.all isGroup && lo.all isGroup
  | _, _ => false

/-- The places of the empty groups other than the first and the last one. -/
def gaps (groups : List (List Code)) : List Nat :=
  (List.range groups.length).filter fun i =>
    0 < i && i + 1 < groups.length && groups[i]? = some []

/-- An IPv6 address without a zone. -/
def isIpv6Body (s : List Code) : Bool :=
  let groups := Text.splitAt (.char ':') s
  3 ≤ groups.length && match unifyGroups groups with
    | none => false
    | some groups =>
      groups.length ≤ groupCount + 1 && match gaps groups with
        | [] => groups.length = groupCount && groups.all isGroup
        | [i] => fitAroundGap (groups.take i) (groups.drop (i + 1))
        | _ => false

/-- An IPv6 address, with a zone after a `%` or without. -/
def isIpv6 (s : List Code) : Bool :=
  match Text.cut? [.char '%'] s with
  | none => isIpv6Body s
  | some (body, zone) => !zone.isEmpty && !zone.contains '%' && isIpv6Body body

/-- An address of a later version: `v`, hexadecimal digits, a dot and some text. -/
def isLaterAddress (s : List Code) : Bool :=
  match s with
  | .char 'v' :: r =>
    match r.span isHexDigit with
    | (_ :: _, .char '.' :: text) => !text.isEmpty && !text.contains '\n'
    | _ => false
  | _ => false

/-- Whether a text may stand in the brackets of a host. -/
def isBracketed (s : List Code) : Bool :=
  if s.head? = some (.char 'v') then isLaterAddress s else isIpv6 s

/-! ## Splitting a URL -/

/-- A character that may stand in a scheme. -/
def isSchemeChar : Code → Bool :=
  Code.is fun c => c.isAlphanum || c = '+' || c = '-' || c = '.'

/-- The URL without blanks and control characters in front, and without tabs and
line ends anywhere. -/
def cleaned (s : List Code) : List Code :=
  (s.dropWhile fun c => c.toNat ≤ 0x20).filter fun c => c ≠ '\t' && c ≠ '\r' && c ≠ '\n'

/-- A character in its small letter, if it is an ASCII letter. -/
def smallLetter : Code → Code
  | .char c => .char c.toLower
  | .half n => .half n

/-- The scheme, in small letters, and what follows its colon. -/
def scheme? (s : List Code) : Option (List Code × List Code) :=
  match Text.cut? [.char ':'] s with
  | some (c :: scheme, rest) =>
    if c.is Char.isAlpha && scheme.all isSchemeChar then some ((c :: scheme).map smallLetter, rest)
    else none
  | _ => none

/-- A character that ends an authority. -/
def endsAuthority (c : Code) : Bool := c = '/' || c = '?' || c = '#'

/-- The authority of what follows a scheme; empty without `//`. -/
def authority : List Code → List Code
  | .char '/' :: .char '/' :: s => s.takeWhile fun c => !endsAuthority c
  | _ => []

/-- The part of an authority after its last `@`. -/
def hostAndPort (authority : List Code) : List Code :=
  match Text.cutLast? (.char '@') authority with
  | some (_, host) => host
  | none => authority

/-- Whether the brackets of an authority stand in pairs and around an address. -/
def bracketsFit (authority : List Code) : Bool :=
  match authority.contains '[', authority.contains ']' with
  | false, false => true
  | true, true =>
    match Text.cut? [.char '['] (hostAndPort authority) with
    | some (before, inner) =>
      before.isEmpty && match Text.cut? [.char ']'] inner with
        | some (host, port) => (port.isEmpty || port.head? = some (.char ':')) && isBracketed host
        | none => isBracketed inner
    | none =>
      match Text.cut? [.char ':'] (hostAndPort authority) with
      | some (host, _) => isBracketed host
      | none => isBracketed (hostAndPort authority)
  | _, _ => false

/-- Characters whose compatibility form holds a character that divides a URL:
`/`, `?`, `#`, `@` or `:`. -/
def disguises : List Nat :=
  [0x2047, 0x2048, 0x2049, 0x2100, 0x2101, 0x2105, 0x2106, 0x2A74, 0xFE13, 0xFE16, 0xFE55,
   0xFE56, 0xFE5F, 0xFE6B, 0xFF03, 0xFF0F, 0xFF1A, 0xFF1F, 0xFF20]

/-- Whether no character of an authority disguises a divider. -/
def isPlain (authority : List Code) : Bool :=
  authority.all fun c => !disguises.contains c.toNat

/-- The scheme and the authority of a URL. -/
structure Parts where
  scheme : List Code
  authority : List Code
  deriving Repr, DecidableEq

/-- Splits a URL; `none` when its authority does not pass the checks. The scheme
is empty when there is none. -/
def split? (url : List Code) : Option Parts :=
  let s := cleaned url
  let (scheme, rest) := (scheme? s).getD ([], s)
  let authority := authority rest
  if bracketsFit authority && isPlain authority then some ⟨scheme, authority⟩ else none

/-! ## Destinations -/

/-- The schemes that need a host. -/
def hostSchemes : List (List Code) :=
  ["http", "https", "ws", "wss", "ftp"].map fun s => (Points.ofString s).toList

/-- Whether a URL has a scheme, and a host without spaces where its scheme needs
one. -/
def isAbsolute (url : Points) : Bool :=
  match split? url.toList with
  | some parts =>
    !parts.scheme.isEmpty &&
      (!hostSchemes.contains parts.scheme ||
        (!parts.authority.isEmpty && !parts.authority.contains ' '))
  | none => false

/-- A character of a domain. -/
def isDomainChar : Code → Bool := Code.is fun c => c.isAlphanum || c = '.' || c = '-'

/-- Whether a dot with two letters after it stands in a run of domain characters. -/
def hasTopLevel : List Code → Bool
  | .char '.' :: b :: c :: s =>
    (b.is Char.isAlpha && c.is Char.isAlpha) || hasTopLevel (b :: c :: s)
  | _ :: s => hasTopLevel s
  | [] => false

/-- Whether a text starts with a domain: a run of domain characters in which,
after its first one, a dot has two letters after it. -/
def startsWithDomain (s : List Code) : Bool :=
  hasTopLevel ((s.takeWhile isDomainChar).drop 1)

/-- Whether a text may be a destination. -/
def isDestination (s : Points) : Bool :=
  s.toList.contains Source.star || isAbsolute s || startsWithDomain s.toList

end Reroute.Url
