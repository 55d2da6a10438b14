import Autopilot.Go
import Autopilot.Unstructured
import Autopilot.Assets.Loader
import Autopilot.Assets.Tombstone
import Autopilot.Cluster
import Autopilot.Engine.Tombstone
import Autopilot.Engine.Interleaving
import Autopilot.Engine.Exclusion
import Autopilot.Overrides.Validation
import Autopilot.Render.Output
import Autopilot.Debug.Handlers
import Autopilot.Proofs.TombstoneStep
import Autopilot.Proofs.BestEffort
import Autopilot.Proofs.Rerun
import Autopilot.Proofs.LabelGuard
import Autopilot.Proofs.Loading
import Autopilot.Proofs.RenderViews
import Autopilot.Proofs.MultiDoc
import Autopilot.Proofs.Depth
import Autopilot.Proofs.Ledger
import Autopilot.Proofs.YamlStream
import Autopilot.Proofs.Reports
import Autopilot.Proofs.Stuck
