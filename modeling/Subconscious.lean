import Subconscious.RelayEndings
import Subconscious.RelayAnswers
import Subconscious.ScopeTombstones
import Subconscious.ForwardingShutdown
import Subconscious.ForwardingCutover
import Subconscious.RegistryCatalog
import Subconscious.RouteBindBreakers
import Subconscious.RouterLaws
import Subconscious.ScopedParents
import Subconscious.ReleaseOrdering
import Subconscious.ReleaseCeremonies
import Subconscious.SpawnConsumer
import Subconscious.ChildRoster
import Subconscious.OriginEffectLog
import Subconscious.ActivityNumbers
import Subconscious.ActivityCredit
import Subconscious.GatewayHandles
import Subconscious.SessionRoutes
import Subconscious.HeldQuestions
import Subconscious.PolicyVerdicts
import Subconscious.StderrPump
import Subconscious.ForwardingQueries
import Subconscious.ScopeRefusals
