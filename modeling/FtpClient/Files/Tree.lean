import FtpClient.Files.Path
import FtpClient.Stream.Sink
import FtpClient.Stream.Source
import FtpClient.Text.Utf8

/-
The local files: a tree of directories, regular files and devices, without
links.  A path is followed step by step, and each step needs a directory to
start from.
-/

namespace FtpClient

/-- A device file: an entry whose octets are kept elsewhere.  Each way of using
it may fail in a way of its own. -/
structure Device where
  refusal : Option SystemError
  source : Source
  /-- The number of octets that it takes, if there is a limit. -/
  room : Option Nat
  /-- How writing beyond that fails.  Without a failure nothing is taken. -/
  overflow : Option SystemError
  flushFailure : Option SystemError
  /-- How setting its length fails, if it does. -/
  lengthFailure : Option SystemError
deriving DecidableEq, Repr

namespace Device

/-- Takes all octets and holds none. -/
def null : Device :=
  { refusal := none, source := Source.ofBytes [], room := none, overflow := none
    flushFailure := none, lengthFailure := some .invalidArgument }

/-- Takes no octet.  It would give zeros without end, which is no file to send;
it is read as if it were empty. -/
def full : Device :=
  { null with room := some 0, overflow := some .noSpaceLeft }

/-- The sink that an open device is. -/
def sink (d : Device) : Sink :=
  { Sink.unlimited with
    limit := d.room, overflow := d.overflow, flushFailure := d.flushFailure }

end Device

/-- An entry of the tree. -/
inductive Node where
  | file (content : List UInt8)
  | dir
  | device (device : Device)
deriving DecidableEq, Repr

/-- The names that lead from the root to an entry. -/
abbrev Place := List String

/-- The local files.  The root is a directory that has no entry of its own. -/
structure FileTree where
  entries : List (Place × Node)
  /-- Where relative paths start. -/
  here : Place
deriving DecidableEq, Repr

namespace FileTree

/-- The longest name of an entry, in octets. -/
def nameLimit : Nat := 255

/-- The longest path, in octets. -/
def pathLimit : Nat := 4095

def node? (t : FileTree) : Place → Option Node
  | [] => some .dir
  | place => (t.entries.find? fun e => e.1 == place).map (·.2)

/-- Put an entry at a place, instead of what is there. -/
def set (place : Place) (node : Node) (t : FileTree) : FileTree :=
  { t with entries := (place, node) :: t.entries.filter fun e => e.1 != place }

/-- Take the entry at a place away. -/
def erase (place : Place) (t : FileTree) : FileTree :=
  { t with entries := t.entries.filter fun e => e.1 != place }

/-- A place that steps can start from. -/
def checkDir (t : FileTree) (place : Place) : Except SystemError Unit :=
  match t.node? place with
  | some .dir => .ok ()
  | some _ => .error .notADirectory
  | none => .error .noSuchEntry

def step (t : FileTree) (place : Place) (name : String) : Except SystemError Place := do
  t.checkDir place
  if name = "." then return place
  else if name = ".." then return place.dropLast
  else if name.utf8ByteSize > nameLimit then throw .nameTooLong
  else return place ++ [name]

/-- What a path leads to: a place that is already known to be a directory, or an
entry of a directory, which need not exist. -/
inductive Target where
  | dir (place : Place)
  /-- `slash` tells whether a slash follows the name. -/
  | entry (parent : Place) (name : String) (slash : Bool)
deriving DecidableEq, Repr

def follow (t : FileTree) (path : String) : Except SystemError Target := do
  if path.toList.contains '\x00' then throw .nulInName
  if path = "" then throw .noSuchEntry
  if path.utf8ByteSize > pathLimit then throw .nameTooLong
  let names := (Path.segments path).filter (· ≠ "")
  let start := if path.toList.head? = some '/' then [] else t.here
  let parent ← names.dropLast.foldlM t.step start
  t.checkDir parent
  match names.getLast? with
  | none => return .dir parent
  | some name =>
      if name = "." || name = ".." then return .dir (← t.step parent name)
      else return .entry parent name (path.toList.getLast? = some '/')

def find (t : FileTree) (path : String) : Except SystemError (Place × Node) := do
  match ← t.follow path with
  | .dir place => return (place, .dir)
  | .entry parent name slash =>
      let place ← t.step parent name
      match t.node? place with
      | none => throw .noSuchEntry
      | some node =>
          if slash && node != .dir then throw .notADirectory else return (place, node)

/-- Whether a path leads to anything. -/
def holds (t : FileTree) (path : String) : Bool :=
  match t.find path with
  | .ok _ => true
  | .error _ => false

/-- Open the file at a path for reading.  It has to be no directory. -/
def openForReading (t : FileTree) (path : String) : Except SystemError Source := do
  match (← t.find path).2 with
  | .file content => return Source.ofBytes content
  | .dir => throw .directoryAsFile
  | .device d =>
      match d.refusal with
      | some cause => throw cause
      | none => return d.source

/-- Open the file at a path for writing, and make an empty one if there is none.
Only with `replace` may there be one. -/
def openForWriting (path : String) (replace : Bool) (t : FileTree) :
    Except SystemError (Place × FileTree) := do
  match ← t.follow path with
  | .dir _ => throw (if replace then .isADirectory else .entryExists)
  | .entry parent name slash =>
      if slash then throw .isADirectory
      let place ← t.step parent name
      match t.node? place with
      | none => return (place, t.set place (.file []))
      | some node =>
          if !replace then throw .entryExists
          match node with
          | .file _ => return (place, t)
          | .dir => throw .isADirectory
          | .device d =>
              match d.refusal with
              | some cause => throw cause
              | none => return (place, t)

/-- The sink that the file at a place is, once it is open. -/
def sinkAt (t : FileTree) (place : Place) : Sink :=
  match t.node? place with
  | some (.device d) => d.sink
  | _ => Sink.unlimited

/-- Write octets over the beginning of the file at a place. -/
def overwrite (place : Place) (bytes : List UInt8) (t : FileTree) : FileTree :=
  match t.node? place with
  | some (.file old) => t.set place (.file (bytes ++ old.drop bytes.length))
  | _ => t

/-- Cut the file at a place to a length that it has at least. -/
def truncate (place : Place) (length : Nat) (t : FileTree) :
    Except SystemError FileTree :=
  match t.node? place with
  | some (.file old) => .ok (t.set place (.file (old.take length)))
  | some (.device d) =>
      match d.lengthFailure with
      | some cause => .error cause
      | none => .ok t
  | _ => .error .invalidArgument

/-- Make the directories that lead to a place, and the place itself one. -/
def makeDirs (place : Place) (t : FileTree) : FileTree :=
  (List.range (place.length + 1)).foldl (fun t n =>
    if n = 0 || (t.node? (place.take n)).isSome then t else t.set (place.take n) .dir) t

/-- The place of a relative path, as if all its steps were directories. -/
def placeOf (t : FileTree) (path : String) : Place :=
  t.here ++ Path.steps path

def addDir (path : String) (t : FileTree) : FileTree :=
  t.makeDirs (t.placeOf path)

def addFile (path : String) (content : List UInt8) (t : FileTree) : FileTree :=
  let place := t.placeOf path
  (t.makeDirs place.dropLast).set place (.file content)

/-- An empty working directory for temporary files, beside the two devices.  Its
name is empty, as no name in a path is, so no path leads to it from the root. -/
def scratch : FileTree :=
  { entries := [(["dev"], .dir), (["dev", "null"], .device .null),
      (["dev", "full"], .device .full), (["tmp"], .dir), (["tmp", ""], .dir)]
    here := ["tmp", ""] }

/-- The regular files below the working directory, by relative path. -/
def regularFiles (t : FileTree) : List (String × List UInt8) :=
  t.entries.filterMap fun e =>
    match e.2 with
    | .file content =>
        if t.here.isPrefixOf e.1 then
          some (String.intercalate "/" (e.1.drop t.here.length), content)
        else none
    | _ => none

end FileTree
end FtpClient
