import FtpClient.Text.Extending
import FtpClient.Text.Unprintable

/-
The quoted form of a text: one line between double quotes that shows the exact
characters, whatever a server sent.  A backslash is written twice, so that an
escape is never mistaken for the characters it stands for.
-/

namespace FtpClient
namespace Quoted

/-- The least hexadecimal digits of a number, lower case. -/
def hex (n : Nat) : List Char :=
  Nat.toDigits 16 n

/-- The written form of one character.  A single quote needs no escape between
double quotes. -/
def escape (c : Char) : List Char :=
  if c = '\x00' then ['\\', '0']
  else if c = '\t' then ['\\', 't']
  else if c = '\r' then ['\\', 'r']
  else if c = '\n' then ['\\', 'n']
  else if c = '"' then ['\\', '"']
  else if c = '\\' then ['\\', '\\']
  else if Extending.holds c || Unprintable.holds c then
    ['\\', 'u', '{'] ++ hex c.toNat ++ ['}']
  else [c]

def encode (cs : List Char) : List Char :=
  cs.flatMap escape

end Quoted

def quote (s : String) : String :=
  String.ofList ('"' :: Quoted.encode s.toList ++ ['"'])

end FtpClient
