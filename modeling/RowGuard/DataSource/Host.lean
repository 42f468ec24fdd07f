import RowGuard.DataSource.IpAddress
import RowGuard.DomainName.Ascii
import RowGuard.Text.Percent
/-!
The hosts of addresses: names, IPv4 addresses of 32 bits and IPv6 addresses of eight pieces with 16
bits. Every host has one text, whatever way it was written in.
-/
namespace RowGuard

inductive Host where
  | name (text : String)
  | ipv4 (number : Nat)
  | ipv6 (pieces : List Nat)
  deriving DecidableEq, Repr

inductive HostError where
  | empty
  | badCharacter
  | badDomain
  | badIpv4
  | badIpv6
  deriving DecidableEq, Repr

def HostError.message : HostError → String
  | .empty => "empty host"
  | .badCharacter => "invalid domain character"
  | .badDomain => "invalid international domain name"
  | .badIpv4 => "invalid IPv4 address"
  | .badIpv6 => "invalid IPv6 address"

namespace Host

/-! ## Texts of hosts -/

def text : Host → String
  | .name s => s
  | .ipv4 number => Ipv4.text number
  | .ipv6 pieces => "[" ++ Ipv6.text pieces ++ "]"

def isForbidden (c : Char) : Bool := c.toNat = 0 || "\t\n\r #/:<>?@[\\]^|".toList.contains c

def isForbiddenInDomain (c : Char) : Bool :=
  c.toNat < 0x20 || c.toNat = 0x7F || c = '%' || isForbidden c

def isPrinted (c : Char) : Bool := 0x20 ≤ c.toNat && c.toNat < 0x7F

def ofBrackets (inside : List Char) : Except HostError Host :=
  match inside.reverse with
  | ']' :: rest =>
    match Ipv6.ofChars? rest.reverse with
    | some pieces => .ok (.ipv6 pieces)
    | none => .error .badIpv6
  | _ => .error .badIpv6

def ofOpaque : List Char → Except HostError Host
  | '[' :: inside => ofBrackets inside
  | cs =>
    if cs.any isForbidden then .error .badCharacter
    else .ok (.name (Text.Percent.encode isPrinted (String.ofList cs)))

def ofDomain : List Char → Except HostError Host
  | '[' :: inside => ofBrackets inside
  | cs =>
    match Text.Percent.decode (String.ofList cs) with
    | .error _ => .error .badDomain
    | .ok decoded =>
      match DomainName.toAscii? decoded.toList with
      | none => .error .badDomain
      | some domain =>
        if domain.toList.any isForbiddenInDomain then .error .badDomain
        else if domain.isEmpty then .error .empty
        else if Ipv4.endsInNumber domain then
          match Ipv4.ofText? domain with
          | some number => .ok (.ipv4 number)
          | none => .error .badIpv4
        else .ok (.name domain)

end Host

end RowGuard
