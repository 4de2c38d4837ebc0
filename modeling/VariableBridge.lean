import VariableBridge.Bridge.Json
import VariableBridge.Main
import VariableBridge.Proofs.Bridge.Coverage
import VariableBridge.Proofs.Bridge.LiveData
import VariableBridge.Proofs.Bridge.Product
import VariableBridge.Proofs.Bridge.Restart
import VariableBridge.Proofs.Bridge.Schedule
import VariableBridge.Stream.Feed
import VariableBridge.Proofs.Bridge.HandOver
import VariableBridge.Proofs.Bridge.SafetyCheck
import VariableBridge.Proofs.Stream.Listening
import VariableBridge.Proofs.Stream.Connection
import VariableBridge.Proofs.Stream.Filtering
import VariableBridge.Proofs.Bridge.Exactness
import VariableBridge.Proofs.Bridge.Interruption
import VariableBridge.Proofs.Json.RoundTrip
import VariableBridge.Proofs.Number.Rounding
import VariableBridge.Proofs.Json.Numerals
import VariableBridge.Proofs.Json.Encoding
import VariableBridge.Proofs.Stream.WireFormat
import VariableBridge.Proofs.Space.Separation
import VariableBridge.Proofs.Demo.Variables
import VariableBridge.Proofs.Bridge.Readiness
import VariableBridge.Proofs.Demo.Streams
import VariableBridge.Proofs.Demo.Account
import VariableBridge.Proofs.Bridge.Thinning
import VariableBridge.Proofs.Bridge.Identity
import VariableBridge.Proofs.Bridge.Settling
import VariableBridge.Proofs.Bridge.Delivery
import VariableBridge.Proofs.Space.Retirement
import VariableBridge.Proofs.Space.Discovery
import VariableBridge.Proofs.Config.Saving
import VariableBridge.Proofs.Config.VariableLists
import VariableBridge.Proofs.Bridge.Abandonment
import VariableBridge.Proofs.Stream.Legibility
