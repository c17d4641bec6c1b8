import FtpClient.Network.Address
import FtpClient.SystemError

/-
Hosts on a system that reaches no name service.  It knows numeric addresses and
itself; any other name can only be asked for, which fails, and a text that is no
name is not even asked for.
-/

namespace FtpClient
namespace Host

def isNameChar (c : Char) : Bool :=
  c.isAlphanum || c = '-' || c = '_'

/-- A part of a name between its points. -/
def isLabel (cs : List Char) : Bool :=
  cs ≠ [] && cs.length ≤ 63 && cs.all isNameChar

/-- A name without the point at its end, which says that it is complete. -/
def withoutFinalPoint (cs : List Char) : List Char :=
  if cs.getLast? = some '.' then cs.dropLast else cs

/-- The form of a name.  A point alone is the root of all names. -/
def isName (host : String) : Bool :=
  let cs := withoutFinalPoint host.toList
  host = "." ||
    (cs.length ≤ 253 && cs.head? != some '-' && (Address.parts '.' cs).all isLabel)

/-- The name by which a system calls itself, in any mix of cases. -/
def isOwnName (host : String) : Bool :=
  String.ofList (host.toList.map Char.toLower) = "localhost"

def addresses (host : String) : Except SystemError (List String) :=
  if host.toList.contains '\x00' then .error .nulInName
  else
    match Address.ofString? host with
    | some address => .ok [address.toString]
    | none =>
        if isOwnName host then .ok ["127.0.0.1"]
        else .error (if isName host then .noNameService else .unknownHost)

/-- Why there is no way to an address.  One of version 6 has no address to start
from, unless it is bound to a link, is for many receivers or stands for one of
version 4. -/
def noRoute (address : String) : SystemError :=
  match Address.ofString? address with
  | some (.v6 [0, 0, 0, 0, 0, 0xFFFF, _, _]) => .networkUnreachable
  | some (.v6 (g :: _)) =>
      if 0xFF00 ≤ g then .networkUnreachable
      else if 0xFE80 ≤ g && g ≤ 0xFEBF then .invalidArgument
      else .addressUnavailable
  | _ => .networkUnreachable

end Host
end FtpClient
