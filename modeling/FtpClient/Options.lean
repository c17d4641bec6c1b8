/-
Settings of a client.  Times are in milliseconds.
-/

namespace FtpClient

/-- What a client applies to every connection it opens and to local files. -/
structure Options where
  connectTimeout : Option Nat
  readTimeout : Option Nat
  writeTimeout : Option Nat
  overwrite : Bool
deriving DecidableEq, Repr

namespace Options

def default : Options :=
  ⟨none, none, none, false⟩

/-- One change of the settings. -/
inductive Change where
  | connectTimeout (ms : Nat)
  /-- Sets the limits of reads and of writes. -/
  | ioTimeout (ms : Nat)
  | overwrite (allowed : Bool)
deriving DecidableEq, Repr

def change (o : Options) : Change → Options
  | .connectTimeout ms => { o with connectTimeout := some ms }
  | .ioTimeout ms => { o with readTimeout := some ms, writeTimeout := some ms }
  | .overwrite allowed => { o with overwrite := allowed }

/-- The settings after a list of changes to the default ones. -/
def ofChanges (changes : List Change) : Options :=
  changes.foldl change default

end Options
end FtpClient
