/-!
# What can go wrong

`Error` names the causes for which the forwarder gives up on something; `Error.message` is the one
place where they are put into words. Servers are named by the text of their socket address.
-/

namespace DnsForwarder

/-- How a message travels. -/
inductive Transport where
  | udp
  | tcp
deriving DecidableEq, Repr, Inhabited

namespace Transport

/-- The name used in logs. -/
def name : Transport → String
  | .udp => "UDP"
  | .tcp => "TCP"

end Transport

/-- The causes of failure. -/
inductive Error where
  | invalidMessage (text : String)
  | invalidRedirectTarget (text : String)
  | invalidResolverAddress (text : String)
  | blocklistCheckFailed (text : String)
  | policyEvaluationFailed (text : String)
  | configuration (text : String)
  | timeout (server : String)
  | inputOutput (server reason : String)
  | connectionRefused (server : String)
  | poolExhausted (server : String)
  | poolClosed (server : String)
  | bindFailed (transport : Transport) (address reason : String)
  | noHealthyServers
deriving DecidableEq, Repr, Inhabited

namespace Error

/-- The text of an error. -/
def message : Error → String
  | .invalidMessage text => s!"Invalid DNS message: {text}"
  | .invalidRedirectTarget text => s!"Invalid redirect target: {text}"
  | .invalidResolverAddress text => s!"Invalid upstream address: {text}"
  | .blocklistCheckFailed text => s!"Blocklist check failed: {text}"
  | .policyEvaluationFailed text => s!"Policy evaluation failed: {text}"
  | .configuration text => s!"Configuration error: {text}"
  | .timeout server => s!"Transport timeout talking to {server}"
  | .inputOutput server reason => s!"Transport I/O error with {server}: {reason}"
  | .connectionRefused server => s!"Transport connection refused by {server}"
  | .poolExhausted server => s!"Upstream pool exhausted for {server}"
  | .poolClosed server => s!"Upstream pool is closed for {server}"
  | .bindFailed transport address reason =>
    s!"Failed to bind {transport.name} listener on {address}: {reason}"
  | .noHealthyServers => "No healthy upstream servers available"

end Error

end DnsForwarder
