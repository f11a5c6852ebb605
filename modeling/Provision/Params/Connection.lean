import Provision.Bag.Line
import Provision.Params.Basic

/-! Where a service is reached: protocol, host, port and address. An empty value counts as
missing, and a host may also be given by its number. -/

set_option autoImplicit false

namespace Provision

abbrev Connection := Params .connection

namespace Connection

def discoveryKey? (c : Connection) : Option String := c.indirection?

def usesDiscovery (c : Connection) : Bool := c.isIndirect

def protocol? (c : Connection) : Option String := c.bag.nonEmpty? "protocol"

def protocolOr (c : Connection) (default : String) : String := c.protocol?.getD default

/-- The host by name or else by number. -/
def host? (c : Connection) : Option String := c.bag.firstNonEmpty? "host" "ip"

/-- The port, if it is a number that a port may have. -/
def port? (c : Connection) : Option Nat :=
  (c.bag.natural? "port").filter (Word.fits 16)

def portOr (c : Connection) (default : Nat) : Nat := c.port?.getD default

def uri? (c : Connection) : Option String := c.bag.nonEmpty? "uri"

def setDiscoveryKey (c : Connection) (key : String) : Connection := c.put "discovery_key" key

def setProtocol (c : Connection) (protocol : String) : Connection := c.put "protocol" protocol

def setHost (c : Connection) (host : String) : Connection := c.put "host" host

def setPort (c : Connection) (port : UInt16) : Connection := c.put "port" (toString port.toNat)

def setUri (c : Connection) (uri : String) : Connection := c.put "uri" uri

end Connection

end Provision
