import QueryCompiler.Url.Error
import QueryCompiler.Url.Form
import QueryCompiler.Url.Idna
import QueryCompiler.Url.Ipv4
import QueryCompiler.Url.Ipv6

/-!
# Hosts

Reading the host of a URL.

For the special schemes (`http`, `https`, `ws`, `wss`, `ftp`, `file`) a host is:

1. an IPv6 address in brackets (an opening bracket without a closing one at the end, or a bad
   address, is an invalid IPv6 address);
2. otherwise percent-decoded, read as UTF-8, and mapped to ASCII as a domain name (failing that
   is an invalid international domain name); an empty result is an empty host;
3. a name that ends in a number must be an IPv4 address.

For other schemes a host is opaque: an IPv6 address in brackets, or text without any of
NUL, tab, line feed, carriage return, space, `# / : < > ? @ [ \ ] ^ |`.
-/

namespace QueryCompiler

namespace Url

/-- A host as read. -/
inductive Host where
  | domain (name : String)
  | ipv4 (address : Nat)
  | ipv6 (pieces : List Nat)
  | plain (text : String)
  deriving Repr

/-- Whether a host is the empty domain or opaque text. -/
def Host.isEmpty : Host → Bool
  | .domain n => n.isEmpty
  | .plain t => t.isEmpty
  | _ => false

/-- Read a bracketed IPv6 host: `text` starts with `[`. -/
def bracketedHost (text : List Char) : Except UrlError Host :=
  if text.getLast? = some ']' then
    match ipv6Address? ((text.drop 1).dropLast) with
    | some pieces => .ok (.ipv6 pieces)
    | none => .error .invalidIpv6
  else .error .invalidIpv6

/-- Read the host of a URL with a special scheme. -/
def specialHost (text : List Char) : Except UrlError Host :=
  if text.head? = some '[' then bracketedHost text
  else
    let name := Text.decodeLossy (percentDecode (Text.utf8Bytes (String.ofList text)))
    match domainToAscii name with
    | none => .error .idna
    | some ascii =>
      if ascii.isEmpty then .error .emptyHost
      else if endsInNumber ascii then
        match ipv4Address? ascii with
        | some a => .ok (.ipv4 a)
        | none => .error .invalidIpv4
      else .ok (.domain (String.ofList ascii))

/-- The characters an opaque host may not hold. -/
def isForbiddenHostChar (c : Char) : Bool :=
  ['\x00', '\t', '\n', '\r', ' ', '#', '/', ':', '<', '>', '?', '@', '[', '\\', ']', '^', '|'].contains c

/-- Read the host of a URL with another scheme. -/
def plainHost (text : List Char) : Except UrlError Host :=
  if text.head? = some '[' then bracketedHost text
  else if text.any isForbiddenHostChar then .error .invalidDomainCharacter
  else .ok (.plain (String.ofList text))

end Url

end QueryCompiler
