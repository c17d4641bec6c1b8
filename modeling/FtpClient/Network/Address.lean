/-
Numeric addresses.  An address of version 4 is written as one to four numbers
between points, each of them decimal, octal after `0` or hexadecimal after `0x`;
the last one fills all octets that are left.  An address of version 6 is written
as eight groups of hexadecimal digits between colons, where `::` stands for one
run of zeros and the last two groups may be an address of version 4.
-/

namespace FtpClient

/-- A numeric address: four octets, or eight groups of sixteen bits. -/
inductive Address where
  | v4 (a b c d : Nat)
  | v6 (groups : List Nat)
deriving DecidableEq, Repr

namespace Address

/-! ## Reading -/

/-- The parts of a text between marks.  There is at least one. -/
def parts (mark : Char) : List Char → List (List Char)
  | [] => [[]]
  | c :: rest =>
      if c = mark then [] :: parts mark rest
      else
        match parts mark rest with
        | [] => [[c]]
        | part :: more => (c :: part) :: more

def digit? (base : Nat) (c : Char) : Option Nat :=
  let d :=
    if '0' ≤ c ∧ c ≤ '9' then c.toNat - '0'.toNat
    else if 'a' ≤ c ∧ c ≤ 'f' then c.toNat - 'a'.toNat + 10
    else if 'A' ≤ c ∧ c ≤ 'F' then c.toNat - 'A'.toNat + 10
    else base
  if d < base then some d else none

/-- The value of a number of at least one digit and at most `width` digits after
its leading zeros. -/
def number? (base width : Nat) (digits : List Char) : Option Nat :=
  let ds := digits.dropWhile (· = '0')
  if digits = [] ∨ width < ds.length then none
  else ds.foldlM (fun n c => (digit? base c).map (n * base + ·)) 0

/-- A number whose base is told by its beginning.  In no base do more than eleven
digits fit in thirty-two bits. -/
def part? : List Char → Option Nat
  | '0' :: 'x' :: ds | '0' :: 'X' :: ds => number? 16 11 ds
  | '0' :: ds => number? 8 11 ('0' :: ds)
  | ds => number? 10 11 ds

def ofNumbers? : List Nat → Option Address
  | [n] =>
      if n < 0x100000000 then
        some (v4 (n / 0x1000000) (n / 0x10000 % 256) (n / 256 % 256) (n % 256))
      else none
  | [a, n] =>
      if a < 256 ∧ n < 0x1000000 then some (v4 a (n / 0x10000) (n / 256 % 256) (n % 256)) else none
  | [a, b, n] =>
      if a < 256 ∧ b < 256 ∧ n < 0x10000 then some (v4 a b (n / 256) (n % 256)) else none
  | [a, b, c, d] =>
      if a < 256 ∧ b < 256 ∧ c < 256 ∧ d < 256 then some (v4 a b c d) else none
  | _ => none

def v4? (cs : List Char) : Option Address :=
  ((parts '.' cs).mapM part?).bind ofNumbers?

/-- Four decimal numbers without leading zeros, as two groups. -/
def quad? (cs : List Char) : Option (List Nat) :=
  let plain (ds : List Char) : Bool := ds = ['0'] || ds.head? != some '0'
  match parts '.' cs with
  | [a, b, c, d] =>
      if [a, b, c, d].all plain then
        match v4? cs with
        | some (v4 a b c d) => some [a * 256 + b, c * 256 + d]
        | _ => none
      else none
  | _ => none

def group? (cs : List Char) : Option Nat :=
  if cs.length ≤ 4 then number? 16 4 cs else none

/-- The groups of parts, of which the last one may be an address of version 4. -/
def groups? : List (List Char) → Option (List Nat)
  | [] => some []
  | [last] => (group? last).map ([·]) <|> quad? last
  | part :: rest => (group? part).bind fun g => (groups? rest).map (g :: ·)

/-- What stands before and after the first `::`. -/
def splitGap? : List Char → Option (List Char × List Char)
  | ':' :: ':' :: rest => some ([], rest)
  | c :: rest => (splitGap? rest).map fun s => (c :: s.1, s.2)
  | [] => none

def sideParts (side : List Char) : List (List Char) :=
  if side = [] then [] else parts ':' side

/-- An address of version 6.  A gap stands for at least one group. -/
def v6? (cs : List Char) : Option Address :=
  match splitGap? cs with
  | none => (groups? (parts ':' cs)).bind fun gs => if gs.length = 8 then some (v6 gs) else none
  | some (before, after) => do
      let front ← (sideParts before).mapM group?
      let back ← groups? (sideParts after)
      if front.length + back.length < 8 then
        some (v6 (front ++ List.replicate (8 - front.length - back.length) 0 ++ back))
      else none

def ofString? (s : String) : Option Address :=
  v4? s.toList <|> v6? s.toList

/-! ## Writing -/

def decimal (n : Nat) : String :=
  String.ofList (Nat.toDigits 10 n)

def quadText (a b c d : Nat) : String :=
  String.intercalate "." [decimal a, decimal b, decimal c, decimal d]

def groupsText (groups : List Nat) : String :=
  String.intercalate ":" (groups.map fun g => String.ofList (Nat.toDigits 16 g))

def leadingZeros (groups : List Nat) : Nat :=
  (groups.takeWhile (· = 0)).length

/-- The beginning and the length of the longest run of zeros, the first one of
several, where `i` groups stand before. -/
def longestRun (i : Nat) : List Nat → Nat × Nat
  | [] => (i, 0)
  | g :: rest =>
      let later := longestRun (i + 1) rest
      if later.2 ≤ leadingZeros (g :: rest) then (i, leadingZeros (g :: rest)) else later

/-- The canonical written form.  Only a run of at least two zeros is left out. -/
def toString : Address → String
  | v4 a b c d => quadText a b c d
  | v6 [0, 0, 0, 0, 0, 0xFFFF, g, h] =>
      "::ffff:" ++ quadText (g / 256) (g % 256) (h / 256) (h % 256)
  | v6 groups =>
      let (start, length) := longestRun 0 groups
      if length < 2 then groupsText groups
      else groupsText (groups.take start) ++ "::" ++ groupsText (groups.drop (start + length))

end Address
end FtpClient
