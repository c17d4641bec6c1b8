/-
Causes of failure that lie outside the protocol: what the operating system
answers, and the few conditions detected just above it.
-/

namespace FtpClient

/-- Why a call on a socket, a file or the terminal failed. -/
inductive SystemError where
  | noSuchEntry
  | noSuchDevice
  | timedOut
  | entryExists
  | notADirectory
  | isADirectory
  | invalidArgument
  | noSpaceLeft
  | nameTooLong
  | addressUnavailable
  | networkUnreachable
  | connectionAborted
  | connectionReset
  | connectionRefused
  | notConnected
  /-- A sink took no octet of a write. -/
  | tookNothing
  | zeroTimeout
  | nulInName
  | unknownHost
  /-- A host name that would have to be asked for, where nobody answers. -/
  | noNameService
  /-- A host name without any address. -/
  | noAddress
  /-- The server closed the connection where a reply was due. -/
  | endOfReplies
  /-- A directory was given as the file to send. -/
  | directoryAsFile
  | notUtf8
  | other (text : String)
deriving DecidableEq, Repr, Inhabited

namespace SystemError

def message : SystemError → String
  | noSuchEntry => "No such file or directory (os error 2)"
  | noSuchDevice => "No such device or address (os error 6)"
  | timedOut => "Resource temporarily unavailable (os error 11)"
  | entryExists => "File exists (os error 17)"
  | notADirectory => "Not a directory (os error 20)"
  | isADirectory => "Is a directory (os error 21)"
  | invalidArgument => "Invalid argument (os error 22)"
  | noSpaceLeft => "No space left on device (os error 28)"
  | nameTooLong => "File name too long (os error 36)"
  | addressUnavailable => "Cannot assign requested address (os error 99)"
  | networkUnreachable => "Network is unreachable (os error 101)"
  | connectionAborted => "Software caused connection abort (os error 103)"
  | connectionReset => "Connection reset by peer (os error 104)"
  | connectionRefused => "Connection refused (os error 111)"
  | notConnected => "not connected"
  | tookNothing => "failed to write whole buffer"
  | zeroTimeout => "cannot set a 0 duration timeout"
  | nulInName => "file name contained an unexpected NUL byte"
  | unknownHost => "failed to lookup address information: Name or service not known"
  | noNameService =>
      "failed to lookup address information: Temporary failure in name resolution"
  | noAddress => "host resolved to no address"
  | endOfReplies => "connection closed by server"
  | directoryAsFile => "is a directory"
  | notUtf8 => "stream did not contain valid UTF-8"
  | other text => text

/-- The errors that say that the far side of a connection is gone. -/
def isDisconnection : SystemError → Bool
  | notConnected | connectionReset | connectionAborted => true
  | _ => false

end SystemError
end FtpClient
