import ObjectStore.Encoding.Percent
import ObjectStore.Url.Address
import ObjectStore.Url.Domain
import ObjectStore.Url.Error
import ObjectStore.Url.Scheme

/-!
# Hosts

The host of a URL in its one form. Under a special scheme it is a domain name
or an address; under any other scheme it is a text in which little is
forbidden. An address in brackets is an IPv6 address under every scheme.
-/

namespace ObjectStore.Host

def bracketed (cs : List Char) : Except UrlError String :=
  if cs.getLast? = some ']' then
    match Ipv6.parse? (cs.drop 1).dropLast with
    | some pieces => .ok ("[" ++ Ipv6.text pieces ++ "]")
    | none => .error .invalidIpv6
  else .error .invalidIpv6

def named (cs : List Char) : Except UrlError String :=
  match Domain.normal? (Percent.decode (Utf8.encode (String.ofList cs))) with
  | none => .error .invalidDomain
  | some [] => .error .emptyHost
  | some name =>
    if Ipv4.endsInNumber name then
      match Ipv4.parse? name with
      | some address => .ok (Ipv4.text address)
      | none => .error .invalidIpv4
    else .ok (String.ofList name)

def special (cs : List Char) : Except UrlError String :=
  if cs.head? = some '[' then bracketed cs else named cs

def isForbidden (c : Char) : Bool :=
  c.toNat == 0 || " \t\n\r#/:<>?@[\\]^|".toList.contains c

def other (cs : List Char) : Except UrlError String :=
  if cs.head? = some '[' then bracketed cs
  else if cs.any isForbidden then .error .invalidDomainCharacter
  else .ok (Percent.encode isVisible (String.ofList cs))

end ObjectStore.Host
