import DnsForwarder.Proofs.Net.Endpoint
import DnsForwarder.Resolver.Description
import DnsForwarder.Server.Listener

/-!
# The address of a resolver

The address of a resolver is an IPv4 literal or an IPv6 literal, the latter with or without brackets
and the number of an interface; its socket address has this address and the configured port. Any
other text is an error that names it. A listener reads the address it is to be bound to in the same
way (`DnsForwarder.Resolver.Description.socketAddress_by_form`).
-/

namespace DnsForwarder

namespace Resolver

namespace Description

/-- The error for an address that is in none of the forms. -/
def unreadable (description : Description) : Error :=
  let id := description.id
  let address := description.address
  .invalidResolverAddress s!"resolver '{id}' has unparsable address '{address}'"

/-- The address of a resolver is what its endpoint is read as, and else an error. -/
theorem socketAddress_eq (description : Description) :
    description.socketAddress =
      (Net.SocketAddress.ofString? description.endpoint).elim
        (.error description.unreadable) .ok := by
  unfold socketAddress
  cases Net.SocketAddress.ofString? description.endpoint <;> rfl

/-- There is an address if the endpoint can be read. -/
theorem socketAddress_eq_ok_iff {description : Description} {address : Net.SocketAddress} :
    description.socketAddress = .ok address ↔
      Net.SocketAddress.ofString? description.endpoint = some address := by
  rw [socketAddress_eq]
  cases Net.SocketAddress.ofString? description.endpoint <;> simp

/-- The error tells that the endpoint cannot be read. -/
theorem socketAddress_eq_error_iff {description : Description} {error : Error} :
    description.socketAddress = .error error ↔
      Net.SocketAddress.ofString? description.endpoint = none ∧ error = description.unreadable := by
  rw [socketAddress_eq]
  cases Net.SocketAddress.ofString? description.endpoint <;> simp [eq_comm]

/-- The endpoint cannot be read if the configured address has no form of an address. -/
theorem endpoint_eq_none_iff {description : Description} :
    Net.SocketAddress.ofString? description.endpoint = none ↔
      ∀ address, ¬ Net.AddressForm description.port description.address.toList address := by
  rw [Option.eq_none_iff_forall_ne_some]
  exact forall_congr' fun _ => not_congr Net.ofString?_endpoint_eq_some_iff

/-- A resolver has a socket address exactly if its address is written in one of the forms, and then
the one that it spells, with the configured port. Otherwise there is an error, which tells the
resolver and the text. What a listener with the same address and port is bound to is the same socket
address, if there is one. -/
theorem socketAddress_by_form (description : Description) :
    (∀ address, description.socketAddress = .ok address ↔
      Net.AddressForm description.port description.address.toList address) ∧
    (∀ error, description.socketAddress = .error error ↔
      (∀ address, ¬ Net.AddressForm description.port description.address.toList address) ∧
        error = .invalidResolverAddress
          ("resolver '" ++ description.id ++ "' has unparsable address '" ++
            description.address ++ "'")) ∧
    ∀ settings : Server.Settings, settings.bindAddress = description.address →
      settings.port = description.port →
        Net.SocketAddress.ofString? settings.listenAddress =
          description.socketAddress.toOption := by
  refine ⟨fun address => ?_, fun error => ?_, fun settings sameAddress samePort => ?_⟩
  · exact socketAddress_eq_ok_iff.trans Net.ofString?_endpoint_eq_some_iff
  · rw [socketAddress_eq_error_iff, endpoint_eq_none_iff]
    rfl
  · rw [Server.Settings.listenAddress, sameAddress, samePort, socketAddress_eq, endpoint]
    cases Net.SocketAddress.ofString? (Net.endpoint description.address description.port) <;> rfl

end Description

end Resolver

end DnsForwarder
