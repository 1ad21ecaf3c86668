import AnvilAgents.Standing.Tokens

/-! When the token events of a standing turn are in order. -/

namespace AnvilAgents.Tokens

open Text List

variable (ids : TokenIdentity) (sink : HoldDoneSink) (ran first second : Streamed)
  (chunks : List String) (defers : String → Bool) (inTime : Bool)

/-- The events are numbered in their order, and the last of them alone is the end. -/
def InOrder (events : List TokenEvent) : Prop :=
  (events.map (·.seq)).Pairwise (· < ·) ∧ ∃ n, events.map (·.done) = replicate n false ++ [true]

/-- The sink has taken the end of the stream. -/
def Streamed.held : Bool :=
  ran.reply.any (!isBlank ·)

@[simp]
theorem seq_emitted : (emitted ids chunks).map (·.seq) = range chunks.length := by
  apply ext_getElem <;> simp [emitted]

@[simp]
theorem done_emitted :
    (emitted ids chunks).map (·.done) = replicate chunks.length false := by
  apply ext_getElem <;> simp [emitted]

/-- Chunks are published as they come. -/
theorem foldl_onToken {events : List TokenEvent} (open_ : ∀ event ∈ events, event.done = false) :
    events.foldl .onToken sink = { sink with published := sink.published ++ events } := by
  induction events generalizing sink with
  | nil => simp
  | cons event events ih =>
    rw [foldl_cons, ih _ fun e member => open_ e (.tail _ member)]
    simp [HoldDoneSink.onToken, open_ event (.head _)]

/-- What one call returns and does to the sink. -/
theorem streamTurn_eq : streamTurn ids sink ran =
    (if ran.held && ran.lasted then ran.reply else none,
      { published := sink.published ++ emitted ids ran.chunks
        done := if ran.held then some ⟨ids, ran.chunks.length, "", true⟩
          else sink.done }) := by
  have open_ : ∀ event ∈ emitted ids ran.chunks, event.done = false := by
    intro event member
    obtain ⟨seq, -, rfl⟩ := mem_mapIdx.mp member
    rfl
  simp only [streamTurn, foldl_onToken sink open_, Streamed.held]
  obtain ⟨chunks, reply, lasted⟩ := ran
  cases reply with
  | none => rfl
  | some reply =>
    cases blank : isBlank reply <;> cases lasted <;>
      simp [blank, HoldDoneSink.onToken]

/-- Two streams with one end are in order only if one of them is empty. -/
theorem inOrder_iff (more : List String) (last : Nat) :
    InOrder (emitted ids chunks ++ emitted ids more ++ [⟨ids, last, "", true⟩]) ↔
      (chunks.length = 0 ∨ more.length = 0) ∧ chunks.length ≤ last ∧ more.length ≤ last := by
  refine (and_iff_left ⟨chunks.length + more.length, by simp [-append_assoc]⟩).trans ?_
  simp only [map_append, seq_emitted, pairwise_append, pairwise_lt_range, mem_range, mem_append,
    map_cons, map_nil, mem_singleton, pairwise_singleton]
  constructor
  · rintro ⟨⟨-, -, apart⟩, -, before⟩
    refine ⟨?_, ?_, ?_⟩ <;> by_contra! fails
    · exact absurd (apart 0 (by omega) 0 (by omega)) (by omega)
    · exact absurd (before _ (.inl (by omega : chunks.length - 1 < _)) _ rfl) (by omega)
    · exact absurd (before _ (.inr (by omega : more.length - 1 < _)) _ rfl) (by omega)
  · rintro ⟨one, fewer, fewer'⟩
    refine ⟨⟨trivial, trivial, fun a inside b inside' => by omega⟩, trivial, ?_⟩
    rintro a (inside | inside) b rfl <;> omega

/-- The events of a turn are in order if and only if it is answered, and not by two streams. -/
theorem token_order_iff :
    InOrder (turnTokens ids first second defers inTime) ↔
      first.held ∧ first.lasted ∧ (first.reply.any defers && inTime → if second.held then
        first.chunks.length = 0 else second.chunks.length = 0) := by
  simp only [turnTokens, streamTurn_eq, nil_append]
  by_cases answered : first.held = true ∧ first.lasted = true
  · obtain ⟨reply, replied, solid⟩ : ∃ reply, first.reply = some reply ∧ isBlank reply = false := by
      simpa [Streamed.held, Option.any_eq_true] using answered.1
    simp only [answered, replied, Option.any_some, true_and, Bool.and_self, if_true, solid,
      Bool.false_eq_true, if_false]
    have order := inOrder_iff ids first.chunks
    cases defers reply && inTime with
    | false => simpa [HoldDoneSink.flush, emitted] using order [] first.chunks.length
    | true => cases second.held with
      | true =>
        refine (order second.chunks _).trans ?_
        simp only [if_true, forall_const]
        omega
      | false =>
        refine (order second.chunks _).trans ?_
        simp only [Bool.false_eq_true, if_false, forall_const]
        omega
  · -- Without an answer nothing is flushed, and no chunk is an end.
    have silent : (first.held && first.lasted) = false := by simpa using answered
    simp only [silent]
    refine iff_of_false (fun ordered => ?_) fun cond => answered ⟨cond.1, cond.2.1⟩
    obtain ⟨n, flags⟩ := ordered.2
    rw [if_neg Bool.false_ne_true, done_emitted] at flags
    have ended : true ∈ replicate first.chunks.length false := by simp [flags]
    exact absurd (eq_of_mem_replicate ended) (by decide)

/-- A reply that only promises to look is continued, and the second stream counts from zero again. -/
theorem continuation_out_of_order :
    ¬InOrder (turnTokens ⟨"thread", "turn", "run"⟩ ⟨["I'll check."], some "I'll check.", true⟩
      ⟨["Done."], some "Done.", true⟩ (fun _ => true) true) :=
  fun ordered => absurd ordered.1 (by decide +kernel)

end AnvilAgents.Tokens
