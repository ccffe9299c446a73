import PostSlots.Idna.Ascii
import PostSlots.Url.Basic
import PostSlots.Url.Percent

/-!
# Reading hosts

The host of a special scheme is a domain name in ASCII or an address; any other host is kept as it
stands, but for its encoding.
-/

namespace PostSlots.Url.Host

/-- The text between brackets. -/
def unbracket? : List Char → Option (List Char)
  | '[' :: cs => if cs.getLast? == some ']' then some cs.dropLast else none
  | _ => none

/-- Reads an address in brackets. -/
def readBracketed (cs : List Char) : Except Fault Host :=
  match (unbracket? cs).bind Ipv6.read? with
  | some groups => .ok (.ipv6 groups)
  | none => .error .invalidIpv6

/-- Characters that no domain name holds. -/
def isForbiddenInDomain (c : Char) : Bool :=
  c.toNat ≤ 0x20 || c.toNat == 0x7F || "%#/:<>?@[\\]^|".toList.contains c

/-- Characters that no other host holds. -/
def isForbidden (c : Char) : Bool :=
  "\x00\t\n\r #/:<>?@[\\]^|".toList.contains c

/-- Reads the host of a special scheme. A name whose last part is a number is an address. -/
def readSpecial (cs : List Char) : Except Fault Host :=
  if cs.head? == some '[' then readBracketed cs
  else match (utf8Text? (percentDecode cs)).bind Idna.toAscii? with
    | none => .error .invalidDomain
    | some domain =>
      if domain.any isForbiddenInDomain then .error .invalidDomain
      else if domain.isEmpty then .error .emptyHost
      else if Ipv4.endsInNumber domain then
        match Ipv4.read? domain with
        | some address => .ok (.ipv4 address)
        | none => .error .invalidIpv4
      else .ok (.name (String.ofList domain))

/-- Reads the host of any other scheme. -/
def readOther (cs : List Char) : Except Fault Host :=
  if cs.head? == some '[' then readBracketed cs
  else if cs.any isForbidden then .error .invalidHostCharacter
  else .ok (.name (String.ofList (percentEncode inControlSet cs)))

end PostSlots.Url.Host
