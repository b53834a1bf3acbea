import DnsForwarder.Error
import DnsForwarder.Net.Address.Reader

/-!
# Descriptions of resolvers

What a configuration says about one resolver. The address has to be an IP address; names are not
looked up.
-/

namespace DnsForwarder.Resolver

/-- A configured resolver. -/
structure Description where
  id : String
  name : String := ""
  address : String
  port : UInt16 := 53
  /-- Resolvers with a lower priority are asked first. -/
  priority : Int := 0
deriving DecidableEq, Repr

namespace Description

/-- The name to show, which is the identifier where no name is given. -/
def displayName (description : Description) : String :=
  if description.name.isEmpty then description.id else description.name

/-- Address and port as text. -/
def endpoint (description : Description) : String :=
  Net.endpoint description.address description.port

/-- The socket address that the endpoint spells. -/
def socketAddress (description : Description) : Except Error Net.SocketAddress :=
  match Net.SocketAddress.ofString? description.endpoint with
  | some address => .ok address
  | none =>
    let id := description.id
    let address := description.address
    .error (.invalidResolverAddress s!"resolver '{id}' has unparsable address '{address}'")

end Description

end DnsForwarder.Resolver
