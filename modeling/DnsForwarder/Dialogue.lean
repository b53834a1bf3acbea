/-!
# Dialogues

A dialogue is a computation that puts requests to its surroundings, one after the other, and goes on
with what it is told. The same dialogue can be run against scripted answers, against the parts of a
forwarder or against another dialogue, and what it asked can be looked at afterwards.
-/

namespace DnsForwarder

/-- What can be asked, and what is told for each request. -/
structure Interface where
  Request : Type
  Answer : Request → Type

/-- A computation that asks for things of an interface. -/
inductive Dialogue (I : Interface) (α : Type) where
  | done (value : α)
  | ask (request : I.Request) (next : I.Answer request → Dialogue I α)

namespace Dialogue

variable {I J : Interface} {α β σ : Type}

/-- One dialogue and then another. -/
def bind : Dialogue I α → (α → Dialogue I β) → Dialogue I β
  | done value, next => next value
  | ask request answer, next => ask request fun told => (answer told).bind next

instance : Monad (Dialogue I) where
  pure := done
  bind := bind

/-- A single request. -/
def request (r : I.Request) : Dialogue I (I.Answer r) := ask r done

/-- Leads each request to another dialogue. -/
def through (handle : (r : I.Request) → Dialogue J (I.Answer r)) : Dialogue I α → Dialogue J α
  | done value => done value
  | ask r next => (handle r).bind fun told => (next told).through handle

/-- How a dialogue ended: its value, the state of the surroundings and what was asked, in order. -/
structure Outcome (I : Interface) (σ α : Type) where
  value : α
  state : σ
  asked : List I.Request

/-- Runs a dialogue with surroundings that answer from a state. -/
def run (answer : (r : I.Request) → σ → I.Answer r × σ) : Dialogue I α → σ → Outcome I σ α
  | done value, state => ⟨value, state, []⟩
  | ask r next, state =>
    let (told, state) := answer r state
    let outcome := (next told).run answer state
    { outcome with asked := r :: outcome.asked }

/-- Running one dialogue and then another. -/
theorem run_bind (answer : (r : I.Request) → σ → I.Answer r × σ) (first : Dialogue I α)
    (next : α → Dialogue I β) (state : σ) :
    (first.bind next).run answer state =
      let start := first.run answer state
      let finish := (next start.value).run answer start.state
      { finish with asked := start.asked ++ finish.asked } := by
  induction first generalizing state with
  | done value => rfl
  | ask r tell ih => simp only [bind, run, ih, List.cons_append]

end Dialogue

end DnsForwarder
