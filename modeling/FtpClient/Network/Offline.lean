import FtpClient.Network
import FtpClient.Network.Host

/-
A system that is on no network: there is no way to any address.
-/

namespace FtpClient

/-- The network of a system that is on none.  It has no state. -/
structure Offline where
deriving DecidableEq, Repr

namespace Offline

instance : Network Offline where
  resolve _ := Host.addresses
  connect target n := (.unroutable (Host.noRoute target.address), n)
  peerAddress _ := .error .notConnected
  send _ n := ⟨.part 0 .notConnected, .none, n⟩
  hangUp n := n
  connectData target n := ⟨.unroutable (Host.noRoute target.address), .none, n⟩
  sendData _ n := ⟨.error .notConnected, .none, n⟩
  hangUpData n := ⟨.ok (), .none, n⟩
  pause n := ⟨(), .none, n⟩

end Offline
end FtpClient
