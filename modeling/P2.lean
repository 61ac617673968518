import P2.Common
import P2.Watch.Basic
import P2.Watch.CheckHealth
import P2.Watch.UpdatePods
import P2.Watch.Monitor
import P2.Watch.Shutdown
import P2.Watch.Published
import P2.Watch.Refinement
import P2.Auth.ArtifactVerifier
import P2.Auth.Accepting
import P2.Preparer.Listener
import P2.Preparer.Hooks
import P2.Grpc.LabelStoreClient
import P2.Grpc.Delivery
