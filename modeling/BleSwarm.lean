import BleSwarm.Gatt.Write
import BleSwarm.Gatt.Notified
import BleSwarm.Gatt.Completions
import BleSwarm.Transport.Candidates
import BleSwarm.Transport.Cooldown
import BleSwarm.Transport.Aborted
import BleSwarm.Transport.Clean
import BleSwarm.Transport.Hunting
import BleSwarm.Transport.Leaks
import BleSwarm.Gatt.Multiplex
import BleSwarm.Duplicates.Ends
import BleSwarm.Duplicates.SameDirection
import BleSwarm.Transport.Policy
import BleSwarm.Transport.Yield
import BleSwarm.Transport.Listeners
import BleSwarm.Transport.Preamble
import BleSwarm.Transport.Live
import BleSwarm.Transport.Suspended
import BleSwarm.Transport.Negotiation
import BleSwarm.Transport.Caps
import BleSwarm.Transport.Closed
import BleSwarm.Transport.Halted
import BleSwarm.Transport.Rotation
import BleSwarm.Transport.Ledger.Sole
import BleSwarm.Transport.Ledger.Reported
import BleSwarm.Transport.Carried.Unmixed
import BleSwarm.Transport.StaleDial
import BleSwarm.Transport.Reuse
import BleSwarm.Transport.Bootstrap
import BleSwarm.Swarm.Retire
import BleSwarm.Swarm.Resume
import BleSwarm.Swarm.Cycled
import BleSwarm.Swarm.Topic
import BleSwarm.Swarm.Reads
import BleSwarm.Codec
import BleSwarm.Transport.Toggles
import BleSwarm.Air.Delivery
import BleSwarm.Air.Handshake
import BleSwarm.Transport.Phases
import BleSwarm.Transport.Uuid
import BleSwarm.Swarm.Public
