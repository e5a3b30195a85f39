import NatsClient.Proto
import NatsClient.Buffer
import NatsClient.State
import NatsClient.Client
import NatsClient.Supervisor
import NatsClient.System
import NatsClient.Replay
import NatsClient.Pongs
import NatsClient.Close
import NatsClient.LockOrder
import NatsClient.Wire
import NatsClient.Subs
import NatsClient.Sids
import NatsClient.TryPublish
import NatsClient.JetStream
import NatsClient.Connections
import NatsClient.Side
import NatsClient.Channels
import NatsClient.BufferRefinement
import NatsClient.Info
import NatsClient.AckSubject
import NatsClient.FlushRelease
import NatsClient.Exit
