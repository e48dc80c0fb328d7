import HtmlMail.Url.Domain.Basic
import HtmlMail.Url.Ipv4
import HtmlMail.Url.Ipv6

/-!
# Hosts

The host of a URL is an address in brackets, a domain name or an IPv4 address. Where the scheme gives no
meaning to hosts, it is any text without characters that mean something else in a URL.

- `Host.isNamed` : the hosts of schemes that know domain names
- `Host.isOpaque` : the hosts of all other schemes, where the empty one is allowed
-/

namespace HtmlMail.Url.Host

/-- Whether a text that begins with a bracket is an address in brackets. -/
def isBracketed (s : List Char) : Bool := s.getLast? == some ']' && Ipv6.isAddress (s.drop 1).dropLast

/-- Whether a text is the host of a scheme that knows domain names. A name whose last label is a number
has to be an address. -/
def isNamed (s : List Char) : Bool :=
  if s.head? = some '[' then isBracketed s
  else (Domain.read? s).any fun name => !Ipv4.isNumeric name || Ipv4.isAddress name

/-- The characters that cannot stand in a host whatever the scheme is. -/
def isForbidden (c : Char) : Bool := "\x00\t\n\r #/:<>?@[\\]^|".toList.contains c

/-- Whether a text is the host of a scheme that gives no meaning to hosts. -/
def isOpaque (s : List Char) : Bool :=
  if s.head? = some '[' then isBracketed s else !s.any isForbidden

end HtmlMail.Url.Host
