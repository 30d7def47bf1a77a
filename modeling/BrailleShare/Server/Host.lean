import BrailleShare.Server.Cycle

/-!
# The host's driver

To the host a server is itself a driver, in the place of the one that the server holds: windows and
status cells pass through as far as no client is in the way, and commands are what the clients leave
over. Keycodes and raw packets are for clients alone, so that the host's driver has none.
-/

namespace BrailleShare

/-- A server as the host sees it. -/
structure HostDriver (σ : Type) where
  server : Server σ

namespace HostDriver

variable {σ α : Type}

/-- What the server did, as the answer of a driver. -/
def answer (r : Except DriverError α × Server σ) : DriverAnswer (HostDriver σ) α :=
  ⟨r.1, ⟨r.2⟩, []⟩

instance [Driver σ] : Driver (HostDriver σ) where
  info d := d.server.hostInfo
  writeWindow d cells := answer (d.server.hostWindow cells)
  writeStatus d cells := answer (d.server.hostStatus cells)
  readCommand d := answer d.server.cycle
  readKey := Driver.Plain.readNothing
  commandOfKey _ _ := Command.none
  writePacket d _ := Driver.Plain.unsupported d.server.info.code d
  readPacket d := Driver.Plain.unsupported d.server.info.code d
  reset d := answer d.server.hostReset

end HostDriver

end BrailleShare
