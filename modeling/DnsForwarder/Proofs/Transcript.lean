import DnsForwarder.Dialogue

/-!
# Transcripts of dialogues

A run keeps what a dialogue asked. Its transcript also keeps what the dialogue was told, so that a
statement about a run can speak of the answers and not only of the requests.
-/

namespace DnsForwarder.Dialogue

/-- A request and what was told for it. -/
structure Turn (I : Interface) where
  request : I.Request
  told : I.Answer request

variable {I : Interface} {α β σ : Type}

/-- What a dialogue asks and is told, in order. -/
def transcript (answer : (r : I.Request) → σ → I.Answer r × σ) :
    Dialogue I α → σ → List (Turn I)
  | done _, _ => []
  | ask r next, state =>
    ⟨r, (answer r state).1⟩ :: (next (answer r state).1).transcript answer (answer r state).2

/-- The requests of a transcript are those of the run. -/
theorem map_request_transcript (answer : (r : I.Request) → σ → I.Answer r × σ)
    (dialogue : Dialogue I α) (state : σ) :
    (dialogue.transcript answer state).map Turn.request = (dialogue.run answer state).asked := by
  induction dialogue generalizing state with
  | done value => rfl
  | ask r tell ih => simp only [transcript, run, List.map_cons, ih]

/-- What a dialogue and its continuation are asked for and told stands one after the other. -/
theorem transcript_bind (answer : (r : I.Request) → σ → I.Answer r × σ) (first : Dialogue I α)
    (next : α → Dialogue I β) (state : σ) :
    (first.bind next).transcript answer state =
      first.transcript answer state ++
        (next (first.run answer state).value).transcript answer (first.run answer state).state := by
  induction first generalizing state with
  | done value => rfl
  | ask r tell ih => simp only [bind, transcript, run, ih, List.cons_append]

end DnsForwarder.Dialogue
