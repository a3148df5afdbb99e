import ClusterMap.Main
import ClusterMap.Paint.Codec
import ClusterMap.Proofs.Draw.Affordance
import ClusterMap.Proofs.Draw.Hidden
import ClusterMap.Proofs.Draw.OnScreen
import ClusterMap.Proofs.Menu.Finish
import ClusterMap.Proofs.Paint.Landing
import ClusterMap.Proofs.Paint.Written
import ClusterMap.Proofs.Refresh.Course
import ClusterMap.Proofs.Refresh.Retry
import ClusterMap.Proofs.Refresh.Worker
import ClusterMap.Proofs.Service.Answer
import ClusterMap.Proofs.Session.Delivery
import ClusterMap.Proofs.Session.Menu
import ClusterMap.Proofs.Session.Mode
import ClusterMap.Proofs.Session.Parity
import ClusterMap.Proofs.Session.Passes
import ClusterMap.Proofs.Session.Pinned
import ClusterMap.Proofs.Snapshot.Unknown
import ClusterMap.Proofs.Task.Address
import ClusterMap.Proofs.Task.Worker
import ClusterMap.Proofs.Text.Label
import ClusterMap.Proofs.Tree.Identifier
import ClusterMap.Proofs.Tree.Recovery
import ClusterMap.Proofs.Tree.Threshold
import ClusterMap.Proofs.Viewer.Canvas
import ClusterMap.Proofs.Viewer.Decision
import ClusterMap.Proofs.Viewer.Notices
import ClusterMap.Refresh.Worker
import ClusterMap.Service.Handler
import ClusterMap.Snapshot.Sample
import ClusterMap.Task.Address
import ClusterMap.Task.Worker
import ClusterMap.View.Codec
import ClusterMap.Viewer.Window
import ClusterMap.Proofs.Tree.Surroundings
import ClusterMap.Proofs.Settings
