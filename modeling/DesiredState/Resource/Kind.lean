import DesiredState.Resource.CloudFunction
import DesiredState.Resource.CryptoKey
import DesiredState.Resource.Database
import DesiredState.Resource.DnsZone
import DesiredState.Resource.Queue
import DesiredState.Resource.Server
import DesiredState.Resource.Table

/-!
# Kinds

The seven kinds of resources, and for each of them its four sides and its rules.

Contents:

* `Kind`: the kinds, in the order of their tables.
* `Kind.Desired`, `Kind.Attributes`, `Kind.Observed`, `Kind.Change`: the sides of a kind.
* `Kind.rules`: the rules of a kind.
* `Kind.ofLabel?`: the kind of a given name.
-/

namespace DesiredState

/-- The kinds of resources. -/
inductive Kind
  | queue
  | server
  | database
  | cryptoKey
  | dnsZone
  | cloudFunction
  | table
  deriving DecidableEq

namespace Kind

def all : List Kind := [.queue, .server, .database, .cryptoKey, .dnsZone, .cloudFunction, .table]

/-! ## The sides of a kind -/

abbrev Desired : Kind → Type
  | .queue => Queue.Desired
  | .server => Server.Desired
  | .database => Database.Desired
  | .cryptoKey => CryptoKey.Desired
  | .dnsZone => DnsZone.Desired
  | .cloudFunction => CloudFunction.Desired
  | .table => Table.Desired

/-- What a host reports besides identifier, name and tags. -/
abbrev Attributes : Kind → Type
  | .queue => Queue.Attributes
  | .server => Server.Attributes
  | .database => Database.Attributes
  | .cryptoKey => CryptoKey.Attributes
  | .dnsZone => DnsZone.Attributes
  | .cloudFunction => CloudFunction.Attributes
  | .table => Table.Attributes

abbrev Observed : Kind → Type
  | .queue => Queue.Observed
  | .server => Server.Observed
  | .database => Database.Observed
  | .cryptoKey => CryptoKey.Observed
  | .dnsZone => DnsZone.Observed
  | .cloudFunction => CloudFunction.Observed
  | .table => Table.Observed

abbrev Change : Kind → Type
  | .queue => Queue.Change
  | .server => Server.Change
  | .database => Database.Change
  | .cryptoKey => CryptoKey.Change
  | .dnsZone => DnsZone.Change
  | .cloudFunction => CloudFunction.Change
  | .table => Table.Change

instance : (k : Kind) → DecidableEq k.Desired
  | .queue => inferInstanceAs (DecidableEq Queue.Desired)
  | .server => inferInstanceAs (DecidableEq Server.Desired)
  | .database => inferInstanceAs (DecidableEq Database.Desired)
  | .cryptoKey => inferInstanceAs (DecidableEq CryptoKey.Desired)
  | .dnsZone => inferInstanceAs (DecidableEq DnsZone.Desired)
  | .cloudFunction => inferInstanceAs (DecidableEq CloudFunction.Desired)
  | .table => inferInstanceAs (DecidableEq Table.Desired)

instance : (k : Kind) → DecidableEq k.Attributes
  | .queue => inferInstanceAs (DecidableEq Queue.Attributes)
  | .server => inferInstanceAs (DecidableEq Server.Attributes)
  | .database => inferInstanceAs (DecidableEq Database.Attributes)
  | .cryptoKey => inferInstanceAs (DecidableEq CryptoKey.Attributes)
  | .dnsZone => inferInstanceAs (DecidableEq DnsZone.Attributes)
  | .cloudFunction => inferInstanceAs (DecidableEq CloudFunction.Attributes)
  | .table => inferInstanceAs (DecidableEq Table.Attributes)

instance : (k : Kind) → DecidableEq k.Observed
  | .queue => inferInstanceAs (DecidableEq Queue.Observed)
  | .server => inferInstanceAs (DecidableEq Server.Observed)
  | .database => inferInstanceAs (DecidableEq Database.Observed)
  | .cryptoKey => inferInstanceAs (DecidableEq CryptoKey.Observed)
  | .dnsZone => inferInstanceAs (DecidableEq DnsZone.Observed)
  | .cloudFunction => inferInstanceAs (DecidableEq CloudFunction.Observed)
  | .table => inferInstanceAs (DecidableEq Table.Observed)

instance : (k : Kind) → DecidableEq k.Change
  | .queue => inferInstanceAs (DecidableEq Queue.Change)
  | .server => inferInstanceAs (DecidableEq Server.Change)
  | .database => inferInstanceAs (DecidableEq Database.Change)
  | .cryptoKey => inferInstanceAs (DecidableEq CryptoKey.Change)
  | .dnsZone => inferInstanceAs (DecidableEq DnsZone.Change)
  | .cloudFunction => inferInstanceAs (DecidableEq CloudFunction.Change)
  | .table => inferInstanceAs (DecidableEq Table.Change)

/-! ## Rules -/

def rules : (k : Kind) → Rules k.Desired k.Attributes k.Observed k.Change
  | .queue => Queue.rules
  | .server => Server.rules
  | .database => Database.rules
  | .cryptoKey => CryptoKey.rules
  | .dnsZone => DnsZone.rules
  | .cloudFunction => CloudFunction.rules
  | .table => Table.rules

def label (k : Kind) : String := k.rules.label

def ofLabel? (name : String) : Option Kind :=
  all.find? fun k => k.label == name

end Kind

end DesiredState
