import FtpClient.Failure
import FtpClient.Text.Blank
import FtpClient.Text.PortNumber

/-
The port in the answer to `EPSV`, which is written `(|||port|)` somewhere in
the text.  Positions are counted in octets.
-/

namespace FtpClient
namespace DataPort

def bar : UInt8 := 0x7C

/-- The position of the first bar. -/
def firstBar? (bytes : List UInt8) : Option Nat :=
  bytes.findIdx? (· == bar)

/-- The position of the last bar. -/
def lastBar? (bytes : List UInt8) : Option Nat :=
  (bytes.reverse.findIdx? (· == bar)).map fun i => bytes.length - 1 - i

/-- The octets from the third after the first bar up to the last bar, if the
last bar comes after them. -/
def field? (bytes : List UInt8) : Option (List UInt8) :=
  match firstBar? bytes, lastBar? bytes with
  | some first, some last =>
      if first + 3 < last then some ((bytes.take last).drop (first + 3)) else none
  | _, _ => none

def find? (text : String) : Option UInt16 :=
  match field? (Utf8.encode text) with
  | some field => PortNumber.ofBytes? field
  | none => none

/-- The port in a text.  The failure carries the text without its line end. -/
def parse (text : String) : Except Failure UInt16 :=
  match find? text with
  | some port => .ok port
  | none => .error (.protocol .invalidDataPort (Blank.trimLineEnd text))

end DataPort
end FtpClient
