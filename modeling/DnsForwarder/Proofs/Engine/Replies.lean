import DnsForwarder.Proofs.Engine.Gating
import DnsForwarder.Proofs.Filter.NormalForm
import DnsForwarder.Proofs.Message.Synthesis
import DnsForwarder.Proofs.Net.Literal

/-!
# What a query is replied

What the filters and the resolvers say settles the reply in all its fields: a refusal, the address
of a redirection or a report of failure repeats the request, and what the resolvers answer is passed
on as it is (`DnsForwarder.Engine.process_consults`).
-/

namespace DnsForwarder

namespace Net.IPv4

/-- An address is written without blanks. -/
theorem isBlank_text {ip : IPv4} {c : Char} (member : c ∈ ip.text) : Text.isBlank c = false := by
  have digit {n : Nat} (written : c ∈ decimal n) : Text.isBlank c = false := by
    obtain ⟨value, read⟩ := Option.isSome_iff_exists.mp (digit_of_mem_decimal written)
    obtain ⟨first, last, -⟩ := decimal_of_digit? read
    rw [Bool.eq_false_iff]
    intro blank
    simp [Text.isBlank] at blank
    omega
  simp only [text, List.mem_append, List.mem_cons] at member
  rcases member with ((inFirst | rfl | inSecond) | rfl | inThird) | rfl | inLast
  · exact digit inFirst
  · rfl
  · exact digit inSecond
  · rfl
  · exact digit inThird
  · rfl
  · exact digit inLast

/-- The text of an address, and no other text, spells it. -/
theorem ofText?_eq_some_iff {text : List Char} {ip : IPv4} :
    ofText? text = some ip ↔ text = ip.text := by
  rw [ofText?]
  constructor
  · intro spelled
    split at spelled
    next other read =>
      obtain rfl := Option.some.inj spelled
      rw [(read_eq_some_iff.mp read).1, List.append_nil]
    next => exact nomatch spelled
  · rintro rfl
    have read : IPv4.read ip.text = some (ip, []) :=
      read_eq_some_iff.mpr ⟨(List.append_nil _).symm, nofun⟩
    rw [read]

end Net.IPv4

namespace Engine

open Text (isBlank)

/-- The target of a redirection is the text of an address, with nothing but blanks around it. -/
def RedirectsTo (decision : Filter.Decision) (target : Net.IPv4) : Prop :=
  ∃ text before after, decision.redirectTarget = some text ∧ (∀ c ∈ before, isBlank c) ∧
    (∀ c ∈ after, isBlank c) ∧ text.toList = before ++ target.text ++ after

/-- The target of a redirection is what is read from its text without the blanks around it. -/
theorem redirectsTo_iff {decision : Filter.Decision} {target : Net.IPv4} :
    RedirectsTo decision target ↔
      Net.IPv4.ofText? (Query.targetText decision).toList = some target := by
  have plain : Text.trim target.text = target.text :=
    Text.trim_of_unblanked fun c member => Net.IPv4.isBlank_text member
  rw [Net.IPv4.ofText?_eq_some_iff, Query.targetText, Text.trimBlank, String.toList_ofList,
    Text.trim_eq_iff plain, RedirectsTo]
  cases decision.redirectTarget with
  | none =>
    refine iff_of_false (by rintro ⟨_, _, _, none, -⟩; exact nomatch none) ?_
    rintro ⟨before, after, -, -, empty⟩
    have digits : target.text = [] :=
      (List.append_eq_nil_iff.mp (List.append_eq_nil_iff.mp empty.symm).1).2
    simp [Net.IPv4.text] at digits
  | some text =>
    constructor
    · rintro ⟨_, before, after, ⟨⟩, front, back, whole⟩
      exact ⟨before, after, front, back, whole⟩
    · rintro ⟨before, after, front, back, whole⟩
      exact ⟨text, before, after, rfl, front, back, whole⟩

/-- A reply does what the policy decides about a request, given what the resolvers answer. -/
inductive Fulfils (request : Message) (answered : Except Error Message) (decision : Filter.Decision)
    (reply : Message) : Prop where
  | denied (deny : decision.action = .deny) (refusal : reply.Repeats request 5 [])
  /-- The target is given as the address of the name that is asked for first. -/
  | redirected (question : Question) (target : Net.IPv4) (redirect : decision.action = .redirect)
      (first : request.questions.head? = some question) (leads : RedirectsTo decision target)
      (address : reply.Repeats request 0 [⟨question.name, classInternet, 60, .a target⟩])
  | misdirected (redirect : decision.action = .redirect)
      (nowhere : ∀ target, ¬ RedirectsTo decision target) (failure : reply.Repeats request 2 [])
  | relayed (allow : decision.action = .allow) (answer : answered = .ok reply)
  | failed (allow : decision.action = .allow) (error : Error) (unanswered : answered = .error error)
      (failure : reply.Repeats request 2 [])

/-- The reply by a decision fulfils it. -/
theorem exists_fulfils {request : Message} {question : Question}
    (first : request.questions.head? = some question) (answered : Except Error Message)
    (decision : Filter.Decision) :
    ∃ reply, replyBy request answered (.ok decision) = some reply ∧
      Fulfils request answered decision reply := by
  rw [replyBy]
  cases action : decision.action with
  | deny => exact ⟨_, rfl, .denied action (request.repeats_replyTo _)⟩
  | redirect =>
    refine ⟨_, rfl, ?_⟩
    rw [redirection]
    cases spelled : Net.IPv4.ofText? (Query.targetText decision).toList with
    | some target =>
      exact .redirected question target action first (redirectsTo_iff.mpr spelled)
        (Message.repeats_redirect first target)
    | none =>
      refine .misdirected action (fun target leads => ?_) (request.repeats_replyTo _)
      rw [redirectsTo_iff.mp leads] at spelled
      cases spelled
  | allow =>
    refine ⟨_, rfl, ?_⟩
    cases answered with
    | ok response => exact .relayed action rfl
    | error error => exact .failed action error rfl (request.repeats_replyTo _)

/-- A request is put to the blocklist, if there is one, if it has a question; to the policy, if it
has one and the blocklist does not say yes, be it that there is none, that it says no or that it
fails; and to the resolvers, as it is and with the timeout and the number of attempts that are set,
if the policy then allows it. There is no reply if there is no question or the policy fails. Else
the reply is a refusal, which is a repetition with response code 5, if the blocklist or the policy
is against the request; the target of a redirection for the name of the first question, if that is
an IPv4 address; the resolvers' answer to a request that was forwarded; and a report of failure, a
repetition with response code 2, if there is no such target or answer. -/
theorem process_consults {σ : Type} (timing : Timing) (forwarder : Forwarder σ) (resolvers : σ)
    (engine : Engine) (request : Message) (client : Net.SocketAddress) (transport : Transport) :
    let outcome := engine.process timing forwarder resolvers request client transport
    let domain? := request.questions.head?.map fun question => toString question.name
    let passing? := domain?.filter fun domain => !engine.filters.blocks domain
    let decided? := passing?.map engine.filters.decide
    let answered := (forwarder request engine.timeoutMs engine.maxRetries resolvers).1
    consultations outcome.asked =
        (if engine.filters.isBlocked.isSome then domain?.toList.map .isBlocked else []) ++
          passing?.toList.map .decide ++
          (if decided?.any allows then [.forward request engine.timeoutMs engine.maxRetries]
            else []) ∧
      (outcome.value = none ↔ domain? = none ∨ ∃ error, decided? = some (.error error)) ∧
      (∀ domain, domain? = some domain → engine.filters.blocks domain →
        ∃ reply, outcome.value = some reply ∧ reply.Repeats request 5 []) ∧
      ∀ decision, decided? = some (.ok decision) →
        ∃ reply, outcome.value = some reply ∧ Fulfils request answered decision reply := by
  intro outcome domain? passing? decided? answered
  obtain ⟨asked, silent, blocked, decided⟩ :=
    process_gates timing forwarder resolvers engine request client transport
  refine ⟨asked, silent, fun domain named listed => ?_, fun decision same => ?_⟩
  · exact ⟨_, blocked domain named listed, request.repeats_replyTo _⟩
  · obtain ⟨domain, passes, -⟩ := Option.map_eq_some_iff.mp same
    obtain ⟨question, first, -⟩ := Option.map_eq_some_iff.mp (Option.filter_eq_some_iff.mp passes).1
    obtain ⟨reply, replied, fulfils⟩ := exists_fulfils first answered decision
    exact ⟨reply, (decided (.ok decision) same).trans replied, fulfils⟩

end Engine

end DnsForwarder
