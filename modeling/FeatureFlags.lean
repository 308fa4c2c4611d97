import FeatureFlags.Flight.Shared
import FeatureFlags.Log.Logger
import FeatureFlags.Proofs.Client.Callback
import FeatureFlags.Proofs.Client.Expiry
import FeatureFlags.Proofs.Client.Failing
import FeatureFlags.Proofs.Client.Fetching
import FeatureFlags.Proofs.Client.Influence
import FeatureFlags.Proofs.Client.Latest
import FeatureFlags.Proofs.Client.OneState
import FeatureFlags.Proofs.Client.Requests
import FeatureFlags.Proofs.Client.Responses
import FeatureFlags.Proofs.Client.Serving
import FeatureFlags.Proofs.Client.Sweeping
import FeatureFlags.Proofs.Client.Tiers
import FeatureFlags.Proofs.Client.Unnoticed
import FeatureFlags.Proofs.Flight.Sharing
import FeatureFlags.Proofs.Http.Addressing
import FeatureFlags.Proofs.Http.Exchange
import FeatureFlags.Proofs.Rule.FirstMatch
import FeatureFlags.Proofs.Rule.Kind
import FeatureFlags.Proofs.Settings.Layering
import FeatureFlags.Proofs.Settings.Loading
import FeatureFlags.Proofs.Snapshot.Grammar
import FeatureFlags.Proofs.Snapshot.Indexes
import FeatureFlags.Proofs.Yaml.Overlay
import FeatureFlags.Session.Step
import FeatureFlags.Settings.File
