import PartitionHost.Address
import PartitionHost.Settings

/-!
# Brokers

A client connects to the broker at an address; the scheme of the address may be left out. Whether there
is a broker at an address shows only when something is asked of it.
-/

namespace PartitionHost.Broker

def holds (part : List Char) : List Char → Bool
  | [] => part.isEmpty
  | c :: cs => part.isPrefixOf (c :: cs) || holds part cs

def address? (url : String) : Option Address :=
  Address.ofText? (if holds "://".toList url.toList then url else "nats://" ++ url)

def connect (s : ClientSettings) : Except ClientError Address :=
  match address? s.url with
  | some address => .ok address
  | none => .error (.connection unspecified)

end PartitionHost.Broker
