/-
The written form of paths: segments between slashes.
-/

namespace FtpClient
namespace Path

/-- The segments of a path, where `segment` holds the characters of the one being
read, last first. -/
def segmentsFrom (segment : List Char) : List Char → List String
  | [] => [String.ofList segment.reverse]
  | c :: rest =>
      if c = '/' then String.ofList segment.reverse :: segmentsFrom [] rest
      else segmentsFrom (c :: segment) rest

/-- The texts between the slashes of a path, empty ones included.  There is at
least one. -/
def segments (path : String) : List String :=
  segmentsFrom [] path.toList

/-- The text after the last slash. -/
def lastSegment (path : String) : String :=
  (segments path).getLast?.getD ""

/-- The segments that name something: neither empty nor the directory itself. -/
def steps (path : String) : List String :=
  (segments path).filter fun s => s ≠ "" && s ≠ "."

/-- The name of the entry that a path leads to, unless it leads up or stays. -/
def fileName? (path : String) : Option String :=
  match (steps path).getLast? with
  | some name => if name = ".." then none else some name
  | none => none

end Path
end FtpClient
