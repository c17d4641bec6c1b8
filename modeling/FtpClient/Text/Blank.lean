/-
Blank characters and what is trimmed at the ends of a text.  Two sets are in
use: the five ASCII blanks that separate the words of a typed line, and the
property White_Space of Unicode, which decides whether a line is empty.
-/

namespace FtpClient
namespace Blank

/-- The blanks that separate words: space, tab, line feed, form feed and
carriage return.  The vertical tab is not one of them. -/
def isAscii (c : Char) : Bool :=
  c = ' ' || c = '\t' || c = '\n' || c = '\x0c' || c = '\r'

/-- White space in the sense of Unicode. -/
def isUnicode (c : Char) : Bool :=
  let n := c.toNat
  (9 ≤ n && n ≤ 13) || n = 0x20 || n = 0x85 || n = 0xA0 || n = 0x1680 ||
    (0x2000 ≤ n && n ≤ 0x200A) || n = 0x2028 || n = 0x2029 || n = 0x202F ||
    n = 0x205F || n = 0x3000

def isLineEnd (c : Char) : Bool :=
  c = '\r' || c = '\n'

/-- The characters of a list without those at its end that satisfy `p`. -/
def dropEnd (p : Char → Bool) (cs : List Char) : List Char :=
  (cs.reverse.dropWhile p).reverse

def trimLineEnd (s : String) : String :=
  String.ofList (dropEnd isLineEnd s.toList)

def trim (s : String) : String :=
  String.ofList (dropEnd isUnicode (s.toList.dropWhile isUnicode))

/-- The words of a text: the longest runs of characters other than ASCII
blanks.  `word` holds the characters of the run being read, last first. -/
def wordsFrom (word : List Char) : List Char → List String
  | [] => if word = [] then [] else [String.ofList word.reverse]
  | c :: rest =>
      if isAscii c then
        if word = [] then wordsFrom [] rest
        else String.ofList word.reverse :: wordsFrom [] rest
      else wordsFrom (c :: word) rest

def words (s : String) : List String :=
  wordsFrom [] s.toList

end Blank
end FtpClient
