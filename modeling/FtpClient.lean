import FtpClient.Main
import FtpClient.Proofs.DataConnection
import FtpClient.Proofs.Turns
import FtpClient.Proofs.Feed
import FtpClient.Proofs.Secrecy
import FtpClient.Proofs.Streams
import FtpClient.Proofs.ReplyTexts
import FtpClient.Proofs.Subscriptions
import FtpClient.Proofs.Downloads
import FtpClient.Proofs.PromptRuns
import FtpClient.Proofs.DataPorts
import FtpClient.Proofs.CommandLines
import FtpClient.Proofs.ReceivedFiles
import FtpClient.Proofs.Uploads
import FtpClient.Proofs.TypedAddresses
import FtpClient.Proofs.Probing
import FtpClient.Proofs.DefaultNames
import FtpClient.Proofs.Quoting
import FtpClient.Proofs.OctetFraming
