import BrailleShare.Console
import BrailleShare.Driver.Rehearsal
import BrailleShare.Main
import BrailleShare.Proofs.Endpoint
import BrailleShare.Proofs.Frame.Packets
import BrailleShare.Proofs.RangeSet.CanonicalForm
import BrailleShare.Proofs.Request.Encodings
import BrailleShare.Proofs.Request.WriteGrammar
import BrailleShare.Proofs.Server.Capacity
import BrailleShare.Proofs.Server.DrawnWindows
import BrailleShare.Proofs.Server.Expiry
import BrailleShare.Proofs.Server.Gate
import BrailleShare.Proofs.Server.HostOutput
import BrailleShare.Proofs.Server.Independence
import BrailleShare.Proofs.Server.KeyMasks
import BrailleShare.Proofs.Server.RawMode
import BrailleShare.Proofs.Server.Replies
import BrailleShare.Proofs.Server.Warnings
import BrailleShare.Proofs.Session
import BrailleShare.Proofs.Split.Teardown
import BrailleShare.Proofs.Split.Windows
import BrailleShare.Proofs.Tty.Clearing
import BrailleShare.Proofs.Tty.Opening
import BrailleShare.Proofs.Tty.Search
import BrailleShare.Proofs.Tty.Shape
