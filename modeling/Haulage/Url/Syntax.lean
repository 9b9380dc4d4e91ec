import Haulage.Url.Address
import Haulage.Url.Domain
import Haulage.Url.Error

/-! Whether a text is an absolute address. Blanks and controls around it and line breaks inside it do
not count. The part before the first colon decides how the rest is read: web schemes need a host and
take backslashes for slashes, files may have a host, and any other scheme has one after two slashes. -/
namespace Haulage.Url

inductive Family where
  | web
  | file
  | other
  deriving DecidableEq

def webSchemes : List String := ["http", "https", "ws", "wss", "ftp"]

def Family.ofScheme (scheme : List Char) : Family :=
  let name := String.ofList (scheme.map Char.toLower)
  if webSchemes.contains name then .web else if name = "file" then .file else .other

namespace Family

/-- Slashes of the scheme. -/
def slash (family : Family) (c : Char) : Bool :=
  c == '/' || (family != .other && c == '\\')

/-- Characters that end the part of an address that names a host. -/
def ends (family : Family) (c : Char) : Bool :=
  family.slash c || c == '?' || c == '#'

end Family

private def insignificant (c : Char) : Bool := decide (c.toNat ≤ 32)

private def lineBreak (c : Char) : Bool := c == '\t' || c == '\n' || c == '\r'

/-- The text without what does not count. -/
def significant (text : List Char) : List Char :=
  let trimmed := ((text.dropWhile insignificant).reverse.dropWhile insignificant).reverse
  trimmed.filter fun c => !lineBreak c

private def schemeCharacter (c : Char) : Bool :=
  c.isAlphanum || c == '+' || c == '-' || c == '.'

/-- The scheme and what follows its colon. -/
def splitScheme? (text : List Char) : Option (List Char × List Char) :=
  let scheme := text.takeWhile schemeCharacter
  match text.dropWhile schemeCharacter with
  | ':' :: rest => if scheme.head?.any Char.isAlpha then some (scheme, rest) else none
  | _ => none

private def hexValue? (c : Char) : Option Nat :=
  if c.isDigit then some (c.toNat - '0'.toNat)
  else if 'a' ≤ c ∧ c ≤ 'f' then some (c.toNat - 'a'.toNat + 10)
  else if 'A' ≤ c ∧ c ≤ 'F' then some (c.toNat - 'A'.toNat + 10)
  else none

/-- The bytes of a text; a percent sign before two hexadecimal digits stands for a byte. -/
def percentDecode : List Char → List UInt8
  | [] => []
  | '%' :: high :: low :: rest =>
    match hexValue? high, hexValue? low with
    | some upper, some lower => UInt8.ofNat (16 * upper + lower) :: percentDecode rest
    | _, _ => '%'.toUInt8 :: percentDecode (high :: low :: rest)
  | c :: rest => (String.singleton c).toUTF8.toList ++ percentDecode rest

/-- A host in brackets. -/
def checkBracketed (host : List Char) : Except Error Unit :=
  if host.getLast? = some ']' ∧ Ipv6.valid (host.drop 1).dropLast then .ok ()
  else .error .ipv6Address

/-- A host by name or number. -/
def checkNamed (host : List Char) : Except Error Unit :=
  match String.fromUTF8? ⟨(percentDecode host).toArray⟩ with
  | none => .error .internationalName
  | some decoded =>
    match Domain.normalize? decoded.toList with
    | none => .error .internationalName
    | some [] => .error .emptyHost
    | some name =>
      if Ipv4.meant name ∧ !Ipv4.valid name then .error .ipv4Address else .ok ()

private def opaqueForbidden (c : Char) : Bool :=
  c.toNat == 0 || ['\t', '\n', '\r', ' ', '#', '/', ':', '<', '>', '?', '@', '[', '\\', ']', '^',
    '|'].contains c

/-- A host of a scheme that gives names no meaning of their own. -/
def checkOpaque (host : List Char) : Except Error Unit :=
  if host.any opaqueForbidden then .error .domainCharacter else .ok ()

def checkHost (family : Family) (host : List Char) : Except Error Unit :=
  match family, host with
  | .web, [] => .error .emptyHost
  | _, '[' :: _ => checkBracketed host
  | .other, _ => checkOpaque host
  | _, _ => checkNamed host

/-- The digits up to the end of the authority; a number that needs more than 16 bits is none. -/
def checkPort (family : Family) (port : Nat) : List Char → Except Error Unit
  | [] => .ok ()
  | c :: rest =>
    if c.isDigit then
      let port := 10 * port + (c.toNat - '0'.toNat)
      if 65535 < port then .error .portNumber else checkPort family port rest
    else if c = '/' ∨ c = '\\' ∨ c = '?' ∨ c = '#' then .ok ()
    else .error .portNumber

/-- The host and what follows it; colons inside brackets belong to the host. -/
def splitHost (family : Family) (bracketed : Bool) : List Char → List Char × List Char
  | [] => ([], [])
  | c :: rest =>
    if (c = ':' ∧ !bracketed) ∨ family.ends c then ([], c :: rest)
    else
      let inside := if c = '[' then true else if c = ']' then false else bracketed
      let (host, after) := splitHost family inside rest
      (c :: host, after)

/-- The text before the last at sign of an authority, if there is one, and the rest. -/
def splitUser (family : Family) (text : List Char) : Option (List Char) × List Char :=
  let authority := text.takeWhile fun c => !family.ends c
  let host := (authority.reverse.takeWhile (· != '@')).reverse
  if host.length = authority.length then (none, text)
  else
    let user := authority.take (authority.length - host.length - 1)
    (some user, text.drop (user.length + 1))

/-- What follows the slashes: an optional user, a host, and an optional port. -/
def checkAuthority (family : Family) (text : List Char) : Except Error Unit := do
  let (user, rest) := splitUser family text
  if user = some [] ∧ rest.head?.any family.ends then throw .emptyHost
  let (host, after) := splitHost family false rest
  checkHost family host
  if host.isEmpty ∧ after.head? = some ':' then throw .emptyHost
  match after with
  | ':' :: port => checkPort family 0 port
  | _ => pure ()
  if host.isEmpty ∧ user.any (fun name => name ≠ [] ∧ name ≠ [':']) then throw .emptyHost

private def driveLetter (host : List Char) : Bool :=
  match host with
  | [letter, mark] => letter.isAlpha && (mark == ':' || mark == '|')
  | _ => false

/-- What follows the colon of a file address: two slashes introduce a host, which may be absent; a
drive letter is none. -/
def checkFile (text : List Char) : Except Error Unit :=
  match text with
  | first :: second :: rest =>
    if Family.file.slash first && Family.file.slash second then
      let host := rest.takeWhile fun c => !Family.file.ends c
      if host.isEmpty || driveLetter host then .ok () else checkHost .file host
    else .ok ()
  | _ => .ok ()

/-- Whether the text is an address; otherwise the first reason why not. -/
def check (text : String) : Except Error Unit :=
  match splitScheme? (significant text.toList) with
  | none => .error .relativeWithoutBase
  | some (scheme, rest) =>
    match Family.ofScheme scheme, rest with
    | .web, _ => checkAuthority .web (rest.dropWhile Family.web.slash)
    | .file, _ => checkFile rest
    | .other, '/' :: '/' :: authority => checkAuthority .other authority
    | .other, _ => .ok ()

end Haulage.Url
