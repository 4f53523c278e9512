import Sur40.Contacts
import Sur40.LostPackets
import Sur40.Decoders
import Sur40.Unplug
import Sur40.VideoRuns
import Sur40.CutFrames
import Sur40.Progress
import Sur40.BlobArray
import Sur40.EnterExit
import Sur40.Image
import Sur40.FailedTransfers
import Sur40.Ddr
import Sur40.Controls
import Sur40.Tracking
import Sur40.FailedReads
import Sur40.HandshakeFirst
import Sur40.BufferQueue
import Sur40.Broadcast
import Sur40.OscRoundTrip
import Sur40.TuioJoining
import Sur40.Lifetime
import Sur40.TcpStreams
