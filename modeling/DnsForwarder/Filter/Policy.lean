import DnsForwarder.Filter.Blocklist

/-!
# Policy

A policy is a list of rules. The first rule that lists the domain or one of its parents decides what
happens to a query; where none does, the query is allowed.
-/

namespace DnsForwarder.Filter

/-- What a policy can ask for. -/
inductive Action where
  | allow
  | deny
  | redirect
deriving DecidableEq, Repr, Inhabited

namespace Action

/-- The name of an action in a configuration. -/
def configName : Action → String
  | .allow => "allow"
  | .deny => "deny"
  | .redirect => "redirect"

/-- The name of an action where its outcome is reported. -/
def outcomeName : Action → String
  | .allow => "allow"
  | .deny => "block"
  | .redirect => "redirect"

/-- The action with a configuration name. -/
def ofConfigName? : String → Option Action
  | "allow" => some .allow
  | "deny" => some .deny
  | "redirect" => some .redirect
  | _ => none

theorem ofConfigName?_configName (action : Action) :
    ofConfigName? action.configName = some action := by
  cases action <;> rfl

end Action

/-- What a policy decides about one domain. -/
structure Decision where
  action : Action
  /-- The rule that decided. -/
  policyId : Option String := none
  category : Option String := none
  /-- The target as the rule writes it; it is read when the answer is made. -/
  redirectTarget : Option String := none
deriving DecidableEq, Repr

namespace Decision

/-- The decision where no rule applies. -/
def allow : Decision := { action := .allow }

/-- A refusal by a rule. -/
def deny (policyId : String) : Decision := { action := .deny, policyId := some policyId }

/-- A redirection by a rule. -/
def redirect (policyId target : String) : Decision :=
  { action := .redirect, policyId := some policyId, redirectTarget := some target }

/-- The rule that decided, or the word "policy". -/
def reason (decision : Decision) : String := decision.policyId.getD "policy"

end Decision

/-- A rule as it is configured. -/
structure Rule where
  id : String
  category : Option String := none
  action : Action
  domains : List String := []
  redirectTarget : Option String := none
deriving DecidableEq, Repr

namespace Rule

/-- What a rule decides. Only a redirection keeps the configured target. -/
def decision (rule : Rule) : Decision where
  action := rule.action
  policyId := some rule.id
  category := rule.category
  redirectTarget := if rule.action = .redirect then rule.redirectTarget else none

end Rule

/-- A rule with its domains ready for look-up. -/
structure LoadedRule where
  decision : Decision
  domains : DomainSet

/-- Rules in the order in which they are tried. A disabled policy allows everything. -/
structure Policy where
  enabled : Bool
  rules : List LoadedRule

namespace Policy

/-- Loads configured rules. -/
def load (enabled : Bool) (rules : List Rule) : Policy where
  enabled
  rules := rules.map fun rule => ⟨rule.decision, .ofList rule.domains⟩

/-- What the policy decides about a domain. -/
def decide (policy : Policy) (domain : String) : Decision :=
  if policy.enabled then
    let normal := normalize domain
    match policy.rules.find? fun rule => rule.domains.covers normal with
    | some rule => rule.decision
    | none => .allow
  else
    .allow

end Policy

end DnsForwarder.Filter
