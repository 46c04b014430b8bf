import DesiredState.Proofs.Resource.CloudFunction
import DesiredState.Proofs.Resource.CryptoKey
import DesiredState.Proofs.Resource.Database
import DesiredState.Proofs.Resource.DnsZone
import DesiredState.Proofs.Resource.Queue
import DesiredState.Proofs.Resource.Server
import DesiredState.Proofs.Resource.Table
import DesiredState.Resource.Kind

/-!
# Every kind keeps the laws

The laws of `Rules` for all seven kinds at once.  What is proved from here on speaks of a kind and
never looks at which one it is.

Contents:

* `Kind.changeLaws`, `Kind.completionLaws` — changes and completion.
* `Kind.Untouched`, `Kind.frameLaws` — what changes leave as it was.
* `Kind.Filled`, `Kind.filled_fill` — what completion leaves as it was.
* `Kind.timeless`, `Kind.timelessObserved`, `Kind.clockLaws` — the part of the clock.
* `Kind.tagStrategy_eq` — the one kind that removes tags.
-/

namespace DesiredState.Kind

/-- Slots and wanted changes of each kind. -/
def changeLaws : (k : Kind) → k.rules.ChangeLaws
  | .queue => Queue.changeLaws
  | .server => Server.changeLaws
  | .database => Database.changeLaws
  | .cryptoKey => CryptoKey.changeLaws
  | .dnsZone => DnsZone.changeLaws
  | .cloudFunction => CloudFunction.changeLaws
  | .table => Table.changeLaws

theorem completionLaws : (k : Kind) → k.rules.CompletionLaws
  | .queue => Queue.completionLaws
  | .server => Server.completionLaws
  | .database => Database.completionLaws
  | .cryptoKey => CryptoKey.completionLaws
  | .dnsZone => DnsZone.completionLaws
  | .cloudFunction => CloudFunction.completionLaws
  | .table => Table.completionLaws

/-- Every attribute that no change of a list names is as before. -/
def Untouched : (k : Kind) → List k.Change → k.Attributes → k.Attributes → Prop
  | .queue => Queue.Untouched
  | .server => Server.Untouched
  | .database => Database.Untouched
  | .cryptoKey => CryptoKey.Untouched
  | .dnsZone => DnsZone.Untouched
  | .cloudFunction => CloudFunction.Untouched
  | .table => Table.Untouched

theorem frameLaws : (k : Kind) → k.rules.FrameLaws k.Untouched
  | .queue => Queue.frameLaws
  | .server => Server.frameLaws
  | .database => Database.frameLaws
  | .cryptoKey => CryptoKey.frameLaws
  | .dnsZone => DnsZone.frameLaws
  | .cloudFunction => CloudFunction.frameLaws
  | .table => Table.frameLaws

/-- Every setting that was made is as before; what was left open may have been filled in. -/
def Filled : (k : Kind) → k.Desired → k.Desired → Prop
  | .queue => Queue.Filled
  | .server => Server.Filled
  | .database => Database.Filled
  | .cryptoKey => CryptoKey.Filled
  | .dnsZone => DnsZone.Filled
  | .cloudFunction => CloudFunction.Filled
  | .table => Table.Filled

theorem filled_fill : (k : Kind) → (d : k.Desired) → k.Filled d (k.rules.fill d)
  | .queue => Queue.filled_fill
  | .server => Server.filled_fill
  | .database => Database.filled_fill
  | .cryptoKey => CryptoKey.filled_fill
  | .dnsZone => DnsZone.filled_fill
  | .cloudFunction => CloudFunction.filled_fill
  | .table => Table.filled_fill

/-! ## The clock -/

/-- The attributes without what was taken from the clock when the resource was created. -/
def timeless : (k : Kind) → k.Attributes → k.Attributes
  | .queue => Queue.Attributes.timeless
  | .server => Server.Attributes.timeless
  | .database => id
  | .cryptoKey => id
  | .dnsZone => id
  | .cloudFunction => id
  | .table => id

/-- What is copied from a hosted resource, without what was taken from the clock. -/
def timelessObserved : (k : Kind) → k.Observed → k.Observed
  | .queue => Queue.Observed.timeless
  | .server => Server.Observed.timeless
  | .database => id
  | .cryptoKey => id
  | .dnsZone => id
  | .cloudFunction => id
  | .table => id

theorem clockLaws : (k : Kind) → k.rules.ClockLaws k.timeless k.timelessObserved
  | .queue => Queue.clockLaws
  | .server => Server.clockLaws
  | .database => Database.clockLaws
  | .cryptoKey => CryptoKey.clockLaws
  | .dnsZone => DnsZone.clockLaws
  | .cloudFunction => CloudFunction.clockLaws
  | .table => Table.clockLaws

/-! ## Tags -/

/-- Only functions lose the tags that nobody asked for. -/
theorem tagStrategy_eq (k : Kind) :
    k.rules.tagStrategy = if k = .cloudFunction then .additiveWithRemoval else .additive := by
  cases k <;> rfl

end DesiredState.Kind
