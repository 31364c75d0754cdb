import Waybill.Web.Host
import Waybill.Text.Utf8
/-!
Reading URLs, as far as a database address needs: the scheme, the credentials, the host,
the port, the path and the query.

Spaces and control characters at either end are dropped, and tabs and line breaks anywhere.
A scheme is a letter followed by letters, digits, `+`, `-` or `.`, then a colon; text without
one is a relative URL, which cannot stand alone.  The schemes `http`, `https`, `ws`, `wss` and
`ftp` are special: their slashes may be backslashes, their host may not be empty and is
checked as a domain or an IPv4 address.  Other schemes have an authority only after `//`,
and their host is opaque: any text without a few reserved characters, or an IPv6 address in
brackets.  Credentials end at the last `@` of the authority; a port is decimal and below
65536.
-/
namespace Waybill

namespace Url

/-- Why a text is not a URL. -/
inductive Problem where
  | emptyHost
  | invalidPort
  | invalidIpv4
  | invalidIpv6
  | invalidDomainCharacter
  | invalidDomainName
  | relativeWithoutBase
  deriving DecidableEq, Repr

/-- The problem as error reports word it. -/
def Problem.text : Problem → String
  | .emptyHost => "empty host"
  | .invalidPort => "invalid port number"
  | .invalidIpv4 => "invalid IPv4 address"
  | .invalidIpv6 => "invalid IPv6 address"
  | .invalidDomainCharacter => "invalid domain character"
  | .invalidDomainName => "invalid international domain name"
  | .relativeWithoutBase => "relative URL without a base"

end Url

/-- The parts of a URL a database address is read from.  Texts are as written, with their
percent escapes; the host of a special scheme is in lower case. -/
structure Url where
  scheme : String
  username : String := ""
  password : Option String := none
  host : Option String := none
  port : Option Nat := none
  path : String := ""
  query : Option String := none
  deriving Repr

namespace Url

/-- Whether a scheme is special. -/
def isSpecial (scheme : String) : Bool :=
  ["http", "https", "ws", "wss", "ftp", "file"].contains scheme

/-- The port a special scheme has when none is written. -/
def defaultPort (scheme : String) : Option Nat :=
  match scheme with
  | "http" | "ws" => some 80
  | "https" | "wss" => some 443
  | "ftp" => some 21
  | _ => none

/-- The text with spaces and control characters at both ends dropped, and tabs and line
breaks anywhere. -/
def cleaned (s : String) : List Char :=
  let outer := fun (c : Char) => c.toNat ≤ 0x20
  let trimmed := ((s.toList.dropWhile outer).reverse.dropWhile outer).reverse
  trimmed.filter fun c => c != '\t' && c != '\n' && c != '\r'

/-- The scheme in front of the text, in lower case, and the text after its colon. -/
def readScheme (cs : List Char) : Option (String × List Char) :=
  match cs with
  | c :: _ =>
    if !c.isAlpha then none
    else
      let name := cs.takeWhile fun c => c.isAlphanum || c == '+' || c == '-' || c == '.'
      match cs.drop name.length with
      | ':' :: rest => some (String.ofList (name.map Char.toLower), rest)
      | _ => none
  | [] => none

/-- Whether a character ends an authority. -/
def endsAuthority (special : Bool) (c : Char) : Bool :=
  c == '/' || c == '?' || c == '#' || (special && c == '\\')

/-- The credentials and the text after them: the username, the password if one is written
after a colon, and whether they take any place at all. -/
def splitCredentials (info : List Char) : String × Option String × Bool :=
  let user := info.takeWhile (· != ':')
  match info.drop user.length with
  | ':' :: pass@(_ :: _) => (String.ofList user, some (String.ofList pass), true)
  | _ => (String.ofList user, none, !user.isEmpty)

/-- Whether a character may not stand in an opaque host. -/
def isOpaqueForbidden (c : Char) : Bool :=
  "\x00\t\n\r #/:<>?@[\\]^|".toList.contains c

/-- Whether a character may not stand in a domain. -/
def isDomainForbidden (c : Char) : Bool :=
  c.toNat ≤ 0x20 || c.toNat == 0x7F || "%#/:<>?@[\\]^|".toList.contains c

/-- The host an opaque host text gives. -/
def opaqueHost (h : String) : Except Problem String :=
  if h.startsWith "[" then
    if !h.endsWith "]" then .error .invalidIpv6
    else if Host.isLenientIpv6 ((h.drop 1).dropEnd 1).toString then .ok h
    else .error .invalidIpv6
  else if h.toList.any isOpaqueForbidden then .error .invalidDomainCharacter
  else .ok h

/-- The host a special host text gives: an IPv6 address in brackets, or a domain, decoded,
in lower case and without forbidden characters, which is an IPv4 address when it ends in a
number. -/
def specialHost (h : String) : Except Problem String :=
  if h.startsWith "[" then
    if !h.endsWith "]" then .error .invalidIpv6
    else if Host.isLenientIpv6 ((h.drop 1).dropEnd 1).toString then .ok h
    else .error .invalidIpv6
  else
    let bytes := percentDecode h.toUTF8.toList
    match String.fromUTF8? (ByteArray.mk bytes.toArray) with
    | none => .error .invalidDomainName
    | some text =>
      let domain := String.ofList (text.toList.map Char.toLower)
      if domain.toList.any isDomainForbidden then .error .invalidDomainName
      else if domain.isEmpty then .error .emptyHost
      else if Host.endsInNumber domain then
        if Host.isLenientIpv4 domain then .ok domain else .error .invalidIpv4
      else .ok domain

/-- The text of a host: up to a colon outside brackets or the end of the authority. -/
def hostText (special : Bool) : Bool → List Char → List Char
  | _, [] => []
  | inside, c :: rest =>
    if (c == ':' && !inside) || endsAuthority special c then []
    else c :: hostText special (if c == '[' then true else if c == ']' then false else inside) rest

/-- Reads a port after its colon: decimal digits below 65536 up to the end of the authority;
a backslash ends it whatever the scheme. -/
def readPort (cs : List Char) : Except Problem (Option Nat × List Char) :=
  let ds := cs.takeWhile Char.isDigit
  let rest := cs.drop ds.length
  let value := ds.foldl (fun acc c => acc * 10 + (c.toNat - 48)) 0
  if value > 65535 then .error .invalidPort
  else
    match rest with
    | c :: _ =>
      if c == '/' || c == '\\' || c == '?' || c == '#' then
        .ok (if ds.isEmpty then none else some value, rest)
      else .error .invalidPort
    | [] => .ok (if ds.isEmpty then none else some value, rest)

/-- The path, query and fragment after the authority: the path up to `?` or `#`, and the
query up to `#`. -/
def pathAndQuery (cs : List Char) : String × Option String :=
  let path := cs.takeWhile fun c => c != '?' && c != '#'
  match cs.drop path.length with
  | '?' :: rest => (String.ofList path, some (String.ofList (rest.takeWhile (· != '#'))))
  | _ => (String.ofList path, none)

/-- Reads the authority after `//` and what follows it. -/
def readAuthority (scheme : String) (cs : List Char) : Except Problem Url := do
  let special := isSpecial scheme
  let authority := cs.takeWhile fun c => !endsAuthority special c
  let lastAt := (authority.zipIdx.filter fun (c, _) => c == '@').getLast?.map Prod.snd
  let (username, password, hasCredentials, rest) ← match lastAt with
    | none => pure ("", none, false, cs)
    | some 0 =>
      let rest := cs.drop 1
      match rest with
      | c :: _ => if endsAuthority special c then throw .emptyHost else pure ("", none, false, rest)
      | [] => pure ("", none, false, rest)
    | some i =>
      let (user, pass, taken) := splitCredentials (cs.take i)
      pure (user, pass, taken, cs.drop (i + 1))
  let text := hostText special false rest
  let afterHost := rest.drop text.length
  let hostString := String.ofList text
  if special && hostString.isEmpty then throw .emptyHost
  let host ← if special then specialHost hostString else opaqueHost hostString
  if host.isEmpty then
    match afterHost with
    | ':' :: _ => throw .emptyHost
    | _ => pure ()
  let (port, afterPort) ← match afterHost with
    | ':' :: more => readPort more
    | _ => pure (none, afterHost)
  let port := if port == defaultPort scheme then none else port
  if host.isEmpty && hasCredentials then throw .emptyHost
  let (path, query) := pathAndQuery afterPort
  pure { scheme, username, password, host := if host.isEmpty then none else some host, port,
         path, query }

/-- Reads a URL. -/
def parse (s : String) : Except Problem Url :=
  match readScheme (cleaned s) with
  | none => .error .relativeWithoutBase
  | some (scheme, rest) =>
    if scheme == "file" then
      let (path, query) := pathAndQuery rest
      .ok { scheme, path, query }
    else if isSpecial scheme then
      readAuthority scheme (rest.dropWhile fun c => c == '/' || c == '\\')
    else
      match rest with
      | '/' :: '/' :: more => readAuthority scheme more
      | _ =>
        let (path, query) := pathAndQuery rest
        .ok { scheme, path, query }

end Url

end Waybill
