import SetScript.Uri.Address
import SetScript.Uri.Domain
import SetScript.Uri.Escape

/-!
# Hosts

An identifier can name a host, by a domain or by an address, with a user before it
and a port after it.

Some schemes are hierarchical: their identifiers always have a host, which is a
domain or an address, and a backslash is as good as a slash.  The scheme of files
is hierarchical too, and its host may be missing.  All other schemes leave the
host open.
-/

namespace SetScript.Uri

open Numeric Text

/-- Why a text is no identifier. -/
inductive Problem
  /-- There is no scheme. -/
  | relative
  | emptyHost
  | invalidPort
  | invalidDomain
  | invalidCharacter
  | invalidByteAddress
  | invalidGroupAddress
deriving DecidableEq

namespace Problem

def message : Problem → String
  | relative => "relative URL without a base"
  | emptyHost => "empty host"
  | invalidPort => "invalid port number"
  | invalidDomain => "invalid international domain name"
  | invalidCharacter => "invalid domain character"
  | invalidByteAddress => "invalid IPv4 address"
  | invalidGroupAddress => "invalid IPv6 address"

end Problem

/-! ## Schemes -/

/-- How the identifiers of a scheme are built. -/
inductive SchemeKind
  | file
  | hierarchical
  | open
deriving DecidableEq

/-- The port that is meant for a scheme without saying so. -/
def usualPort? (scheme : List Char) : Option Nat :=
  match String.ofList scheme with
  | "http" | "ws" => some 80
  | "https" | "wss" => some 443
  | "ftp" => some 21
  | _ => none

namespace SchemeKind

/-- The kind of a scheme in lower case. -/
def ofScheme (scheme : List Char) : SchemeKind :=
  if scheme = "file".toList then file
  else if (usualPort? scheme).isSome then hierarchical
  else .open

/-- Whether a character divides the segments of a path. -/
def isSlash (kind : SchemeKind) (c : Char) : Bool :=
  c == '/' || (kind != .open && c == '\\')

/-- Whether a character ends the host. -/
def endsHost (kind : SchemeKind) (c : Char) : Bool :=
  kind.isSlash c || c == '?' || c == '#'

end SchemeKind

/-! ## Names -/

/-- What an identifier says about the host. -/
inductive HostName
  | absent
  | domain (name : List Char)
  | byteAddress (bytes : List Nat)
  | groupAddress (groups : List Nat)
deriving DecidableEq

namespace HostName

def text : HostName → List Char
  | absent => []
  | domain name => name
  | byteAddress bytes => byteAddressText bytes
  | groupAddress groups => ['['] ++ groupAddressText groups ++ [']']

/-- The host that holds the files at hand. -/
def here : HostName :=
  .domain "localhost".toList

end HostName

/-- Whether a character may not stand in the host of an open scheme. -/
def isForbiddenInHost (c : Char) : Bool :=
  c.toNat = 0 || "\t\n\r #/:<>?@[\\]^|".toList.contains c

/-- A host in brackets, after its first bracket. -/
def bracketed (text : List Char) : Except Problem HostName :=
  if text.getLast? = some ']' then
    match groupAddress? text.dropLast with
    | some groups => .ok (.groupAddress groups)
    | none => .error .invalidGroupAddress
  else
    .error .invalidGroupAddress

/-- The host that a domain is.  A domain that ends in a number has to be an address. -/
def namedHost (name : List Char) : Except Problem HostName :=
  if name.isEmpty then .error .emptyHost
  else if !endsInNumber name then .ok (.domain name)
  else
    match byteAddress? name with
    | some bytes => .ok (.byteAddress bytes)
    | none => .error .invalidByteAddress

/-- The host of a hierarchical scheme, unless it is in brackets. -/
def plainHost (text : List Char) : Except Problem HostName :=
  match (decodeBytes? (unescape text)).bind fun decoded => normalDomain? decoded.toList with
  | some name => namedHost name
  | none => .error .invalidDomain

/-- The host of a hierarchical scheme. -/
def domainHost : List Char → Except Problem HostName
  | '[' :: inner => bracketed inner
  | text => plainHost text

/-- The host of an open scheme, unless it is in brackets. -/
def looseHost (text : List Char) : Except Problem HostName :=
  if text.isEmpty then .ok .absent
  else if text.any isForbiddenInHost then .error .invalidCharacter
  else .ok (.domain (escape [] text))

/-- The host of an open scheme. -/
def openHost : List Char → Except Problem HostName
  | '[' :: inner => bracketed inner
  | text => looseHost text

/-! ## Authorities -/

/-- What stands between two slashes and the path. -/
structure Authority where
  /-- The user, with a password after a colon if there is one, escapes included. -/
  user : List Char := []
  host : HostName
  port? : Option Nat := none

namespace Authority

def text (authority : Authority) : List Char :=
  authority.user ++ (if authority.user.isEmpty then [] else ['@']) ++ authority.host.text ++
    match authority.port? with
    | some port => ':' :: Nat.toDigits 10 port
    | none => []

/-- Split a host from the port after a colon outside of brackets. -/
def splitPort (inBrackets : Bool) : List Char → List Char × Option (List Char)
  | [] => ([], none)
  | c :: rest =>
      if c = ':' ∧ !inBrackets then ([], some rest)
      else
        let inner := if c = '[' then true else if c = ']' then false else inBrackets
        let (host, port?) := splitPort inner rest
        (c :: host, port?)

/-- Whether a text is a port.  It may be empty. -/
def isPort (text : List Char) : Bool :=
  text.all Char.isDigit && valueInBase 10 text < wordCount 16

/-- The port that digits stand for, unless it is the usual one. -/
def portOf? (scheme digits : List Char) : Option Nat :=
  if digits.isEmpty then none
  else (some (valueInBase 10 digits)).filter fun port => usualPort? scheme != some port

/-- Split a text at its last at sign: what is before it, if there is one, and what
is after it. -/
def splitUser (text : List Char) : Option (List Char) × List Char :=
  let afterSign := (text.reverse.takeWhile (· != '@')).reverse
  let beforeSign := text.take (text.length - afterSign.length)
  if beforeSign.isEmpty then (none, text) else (some beforeSign.dropLast, afterSign)

/-- A user with escapes.  A colon before an empty password is left out. -/
def writeUser (user : List Char) : List Char :=
  let name := user.takeWhile (· != ':')
  let password := user.drop (name.length + 1)
  escape reservedInUser name ++
    if password.isEmpty then [] else ':' :: escape reservedInUser password

/-- The authority that a text is, and what is left of the text behind a backslash
after the port.  `isLast` says that nothing follows the text. -/
def read (scheme : List Char) (isLast : Bool) (text : List Char) :
    Except Problem (Authority × List Char) :=
  let kind := SchemeKind.ofScheme scheme
  let (user?, place) := splitUser text
  let (name, port?) := splitPort false place
  let user := writeUser (user?.getD [])
  if user? = some [] ∧ place.isEmpty ∧ !isLast then .error .emptyHost
  else if name.isEmpty && (kind == .hierarchical || port?.isSome) then .error .emptyHost
  else
    match if kind = .hierarchical then domainHost name else openHost name with
    | .error problem => .error problem
    | .ok host =>
        let digits := (port?.getD []).takeWhile (· != '\\')
        if !isPort digits then .error .invalidPort
        else if host = .absent ∧ !user.isEmpty then .error .emptyHost
        else
          .ok (⟨user, host, portOf? scheme digits⟩, (port?.getD []).drop digits.length)

end Authority

end SetScript.Uri
