import GroupSync.Proofs.DecimalNumerals
import GroupSync.Proofs.RetryTimeline

/-!
# Delays that replies advise

A reply advises a delay by a number of seconds.  A number that 64 bits hold is honoured up to the
ceiling of the policy, and a warning tells when it is cut off.  A number beyond 64 bits is not
understood: the default delay takes its place, however long the advised one is.  What is done about
the advice stands in the trace of a delivery behind the rounds that were made before.
-/

namespace GroupSync

/-- A base delay after its growth up to a retry; what cannot be expressed becomes the greatest
delay. -/
def RetryPolicy.grown (policy : RetryPolicy) (base : Duration) (retry : Nat) : Duration :=
  (Duration.ofFloat? (base.toFloat *
    power policy.multiplier (min retry greatestExponent))).getD .greatest

theorem RetryPolicy.backoff_eq_grown (policy : RetryPolicy) (retry : Nat)
    (advised : Option Duration) :
    policy.backoff retry advised = policy.grown (policy.baseDelay advised) retry :=
  rfl

theorem Duration.nanoseconds_ofSeconds {seconds : Nat} (fits : seconds < 2 ^ 64) :
    (ofSeconds seconds).nanoseconds = seconds * nanosecondsPerSecond := by
  refine Nat.min_eq_left ?_
  simp only [greatestNanoseconds, nanosecondsPerSecond]
  omega

namespace Http

namespace Client

/-! ### Numbers of seconds -/

/-- A header value says a number of seconds in digits, with spaces and tabs around them. -/
def SpellsSeconds (value : String) (seconds : Nat) : Prop :=
  ∃ before digits after : List Char, (∀ character ∈ before, character = ' ' ∨ character = '\t') ∧
    (∀ character ∈ after, character = ' ' ∨ character = '\t') ∧ Number.Denotes digits seconds ∧
    value.toList = before ++ digits ++ after

variable {policy : RetryPolicy} {reply : Reply} {value other : String} {seconds more : Nat}

theorem isVisible_of_spellsSeconds (spells : SpellsSeconds value seconds) :
    isVisible value = true := by
  obtain ⟨before, digits, after, blankBefore, blankAfter, denotes, written⟩ := spells
  have fits {character : Char} (either : character = ' ' ∨ character = '\t') :
      (character == '\t' || (0x20 ≤ character.toNat && character.toNat < 0x7F)) = true := by
    rcases either with rfl | rfl <;> decide
  have digit {character : Char} (isDigit : character.isDigit = true) :
      (character == '\t' || (0x20 ≤ character.toNat && character.toNat < 0x7F)) = true := by
    have bounds : 48 ≤ character.toNat ∧ character.toNat ≤ 57 := Char.isDigit_iff_toNat.mp isDigit
    simp only [Bool.or_eq_true, Bool.and_eq_true, decide_eq_true_eq]
    omega
  rw [isVisible, written, List.all_append, List.all_append, Bool.and_eq_true, Bool.and_eq_true]
  exact ⟨⟨List.all_eq_true.mpr fun _ member => fits (blankBefore _ member),
    List.all_eq_true.mpr fun _ member => digit (denotes.numeral _ member)⟩,
    List.all_eq_true.mpr fun _ member => fits (blankAfter _ member)⟩

theorem adviceOf_eq (spells : SpellsSeconds value seconds) :
    adviceOf value = if seconds < 2 ^ 64 then some (.ofSeconds seconds) else none := by
  rw [adviceOf, if_pos (isVisible_of_spellsSeconds spells)]
  obtain ⟨before, digits, after, blankBefore, blankAfter, denotes, written⟩ := spells
  have blank {character : Char} (either : character = ' ' ∨ character = '\t') :
      Text.isBlank character = true := by
    rcases either with rfl | rfl <;> decide
  rw [readRetryAfter?, written,
    denotes.readUInt64_trimChars (fun _ member => blank (blankBefore _ member))
      fun _ member => blank (blankAfter _ member)]
  by_cases fits : seconds < 2 ^ 64
  · rw [if_pos fits, if_pos fits]
  · rw [if_neg fits, if_neg fits]

/-- The base delay under an advice that is understood is the advised one up to the ceiling. -/
theorem nanoseconds_baseDelay (spells : SpellsSeconds value seconds) (fits : seconds < 2 ^ 64) :
    (policy.baseDelay (adviceOf value)).nanoseconds =
      min (seconds * nanosecondsPerSecond) policy.maxRetryAfter.nanoseconds := by
  rw [adviceOf_eq spells, if_pos fits, ← Duration.nanoseconds_ofSeconds fits, RetryPolicy.baseDelay,
    Duration.shorter, Nat.min_def]
  exact apply_ite Duration.nanoseconds _ _ _

theorem baseDelay_of_beyond (spells : SpellsSeconds value seconds) (beyond : 2 ^ 64 ≤ seconds) :
    policy.baseDelay (adviceOf value) = policy.defaultDelay := by
  rw [adviceOf_eq spells, if_neg (Nat.not_lt.mpr beyond)]
  rfl

theorem baseDelay_mono (spells : SpellsSeconds value seconds)
    (otherSpells : SpellsSeconds other more) (fits : more < 2 ^ 64) (longer : seconds ≤ more) :
    policy.baseDelay (adviceOf value) ≤ policy.baseDelay (adviceOf other) := by
  have grown : seconds * nanosecondsPerSecond ≤ more * nanosecondsPerSecond :=
    Nat.mul_le_mul_right _ longer
  have shown : (policy.baseDelay (adviceOf value)).nanoseconds ≤
      (policy.baseDelay (adviceOf other)).nanoseconds := by
    rw [nanoseconds_baseDelay spells (Nat.lt_of_le_of_lt longer fits),
      nanoseconds_baseDelay otherSpells fits]
    omega
  exact shown

theorem advice_snd (header : reply.header? "retry-after" = some value)
    (spells : SpellsSeconds value seconds) (fits : seconds < 2 ^ 64) :
    (advice policy reply).2 =
      if policy.maxRetryAfter.nanoseconds < seconds * nanosecondsPerSecond then
        [clampedAdviceEvent policy (.ofSeconds seconds)] else [] := by
  rw [advice, header, ← Duration.nanoseconds_ofSeconds fits]
  simp only [adviceOf_eq spells, if_pos fits]
  rfl

theorem advice_snd_of_beyond (header : reply.header? "retry-after" = some value)
    (spells : SpellsSeconds value seconds) (beyond : 2 ^ 64 ≤ seconds) :
    (advice policy reply).2 = [ignoredAdviceEvent value] := by
  rw [advice, header]
  simp only [adviceOf_eq spells, if_neg (Nat.not_lt.mpr beyond)]

/-! ### Rounds before a reply -/

variable {client : Client} {request : Request} {world : World}

/-- The effects of the first attempts, each of which hears a rate-limited reply and waits. -/
def rounds (client : Client) (request : Request) (world : World) : Nat → List Effect
  | 0 => []
  | count + 1 =>
      client.rounds request world count ++
        match (world.arrivals request.url).get count with
        | .reply reply => client.round request reply (count + 1) (world.drawAt count)
        | _ => []

/-- A world in which the first arrivals were heard, each of which made a round. -/
structure HasHeard (client : Client) (request : Request) (world : World) (count : Nat)
    (after : World) : Prop where
  trace : after.trace = world.trace ++ client.rounds request world count
  arrivals : after.arrivals request.url = (world.arrivals request.url).drop count
  draws : ∀ index, after.drawAt index = world.drawAt (count + index)

theorem hasHeard_zero (client : Client) (request : Request) (world : World) :
    HasHeard client request world 0 world where
  trace := (List.append_nil _).symm
  arrivals := rfl
  draws index := congrArg world.drawAt (Nat.zero_add index).symm

theorem HasHeard.next {count : Nat} {after : World}
    (heard : HasHeard client request world count after)
    (next : (world.arrivals request.url).get count = .reply reply) :
    HasHeard client request world (count + 1)
      (client.afterRound request reply (count + 1) after) where
  trace := by
    rw [rounds, next, ← List.append_assoc, ← heard.trace, ← Nat.add_zero count, ← heard.draws]
    rfl
  arrivals := by
    have tail : (client.afterRound request reply (count + 1) after).arrivals request.url =
        (after.arrivals request.url).tail := arrivals_afterAttempt client request after
    rw [tail, heard.arrivals, Stream'.tail_drop']
  draws index := by
    rw [drawAt_afterRound, heard.draws, Nat.add_right_comm, Nat.add_assoc]

/-- After as many rate-limited replies as the policy lets pass, the delivery goes on from the next
attempt. -/
theorem exists_hasHeard (sendable : request.isSendable = true) (world : World) {count : Nat}
    (limits : ∀ index < count, ((world.arrivals request.url).get index).RateLimits)
    (early : count ≤ client.policy.maxRetries.toNat) (left : Nat) :
    ∃ after, HasHeard client request world count after ∧
      (client.deliverFrom request (left + count) 1).run world =
        (client.deliverFrom request left (count + 1)).run after := by
  induction count generalizing left with
  | zero => exact ⟨world, hasHeard_zero client request world, rfl⟩
  | succ count induction =>
      obtain ⟨after, heard, run⟩ := induction (fun index inside => limits index (by omega))
        (by omega) (left + 1)
      obtain ⟨reply, next, limited⟩ := limits count (by omega)
      have head : (after.arrivals request.url).head = .reply reply := by
        rw [heard.arrivals, Stream'.head_drop, next]
      -- The others left the counter one attempt more, which the last of them uses.
      refine ⟨_, heard.next next, ?_⟩
      rw [← run_deliverFrom_of_early sendable head limited early, ← run, Nat.add_right_comm,
        Nat.add_assoc]

/-- The effects behind the advice of a reply: the announcement of the retry and the wait, or a
warning that the retries are used up. -/
def closing (client : Client) (request : Request) (base : Duration) (retry draw : Nat) :
    List Effect :=
  if retry ≤ client.policy.maxRetries.toNat then
    let delay := client.policy.grown base retry + client.policy.jitter draw
    [.logged (retryEvent client.policy request.url retry delay (client.policy.jitter draw)),
      .slept delay]
  else [.logged (exhaustedEvent request.url retry)]

theorem trace_prefix_of_adds {α : Type} {session : Session α}
    {ends : Except Breakdown α → List Effect → Prop} (adds : session.Adds ends) (world : World) :
    world.trace <+: (session.run world).2.trace := by
  obtain ⟨effects, trace, -⟩ := adds world
  exact ⟨effects, trace.symm⟩

/-- What is done about the advice of a reply comes next in the trace. -/
theorem reply_prefix (sendable : request.isSendable = true) {left retry : Nat}
    (next : (world.arrivals request.url).head = .reply reply)
    (limited : reply.status = RetryPolicy.retryableStatus) :
    world.trace ++ .exchanged (client.introduce request) (.reply reply) ::
        ((advice client.policy reply).2.map .logged ++
          client.closing request (client.policy.baseDelay (advice client.policy reply).1) retry
            (world.drawAt 0)) <+:
      ((client.deliverFrom request (left + 1) retry).run world).2.trace := by
  by_cases early : retry ≤ client.policy.maxRetries.toNat
  · have round : (client.afterRound request reply retry world).trace =
        world.trace ++ .exchanged (client.introduce request) (.reply reply) ::
          ((advice client.policy reply).2.map .logged ++
            client.closing request (client.policy.baseDelay (advice client.policy reply).1) retry
              (world.drawAt 0)) := by
      rw [closing, if_pos early, advice_fst]
      rfl
    rw [run_deliverFrom_of_early sendable next limited early, ← round]
    exact trace_prefix_of_adds (deliverFrom_adds client request left (retry + 1)) _
  · have final : client.policy.verdict reply.status retry (advice client.policy reply).1
        (client.policy.jitter (world.drawAt 0)) = .final :=
      if_pos (.inr (Nat.not_le.mp early))
    rw [run_deliverFrom_of_limited sendable next limited, final, closing, if_neg early]
    simp [World.noted, afterReply, afterAttempt, next]

/-- Of each rate-limited reply whose advice is a number of seconds in digits, the trace tells what
is done about it.  If 64 bits hold the number, the base delay is the advised one up to the ceiling,
it grows with the number, and a warning tells exactly when it is cut off.  Otherwise the base delay
is the default one, and the advice is noted as not understood. -/
theorem deliver_followsAdvice (client : Client) (request : Request)
    (sendable : request.isSendable = true) (world : World) (count : Nat)
    (limits : ∀ index < count, ((world.arrivals request.url).get index).RateLimits)
    (allowed : count ≤ client.policy.maxRetries.toNat)
    (counted : count < RetryPolicy.greatestAttempt)
    (reply : Reply) (heard : (world.arrivals request.url).get count = .reply reply)
    (limited : reply.status = RetryPolicy.retryableStatus) (value : String)
    (header : reply.header? "retry-after" = some value) (seconds : Nat)
    (spells : SpellsSeconds value seconds) :
    let policy := client.policy
    let base := policy.baseDelay (adviceOf value)
    let warnings := (advice policy reply).2
    let ceiling := policy.maxRetryAfter.nanoseconds
    (world.trace ++ client.rounds request world count ++
        .exchanged (client.introduce request) (.reply reply) ::
          (warnings.map .logged ++
            client.closing request base (count + 1) (world.drawAt count)) <+:
      ((client.deliver (.ok request)).run world).2.trace) ∧
    (seconds < 2 ^ 64 →
      base.nanoseconds = min (seconds * nanosecondsPerSecond) ceiling ∧
      warnings = (if ceiling < seconds * nanosecondsPerSecond then
        [clampedAdviceEvent policy (.ofSeconds seconds)] else []) ∧
      ∀ other fewer, SpellsSeconds other fewer → fewer ≤ seconds →
        policy.baseDelay (adviceOf other) ≤ base) ∧
    (2 ^ 64 ≤ seconds →
      base = policy.defaultDelay ∧ warnings = [ignoredAdviceEvent value]) := by
  intro policy base warnings ceiling
  refine ⟨?_, fun fits => ⟨nanoseconds_baseDelay spells fits, advice_snd header spells fits,
    fun other fewer otherSpells less => baseDelay_mono otherSpells spells fits less⟩,
    fun beyond => ⟨baseDelay_of_beyond spells beyond, advice_snd_of_beyond header spells beyond⟩⟩
  obtain ⟨left, total⟩ : ∃ left, RetryPolicy.greatestAttempt = left + 1 + count :=
    ⟨RetryPolicy.greatestAttempt - 1 - count, by omega⟩
  obtain ⟨after, has, run⟩ := exists_hasHeard sendable world limits allowed (left + 1)
  have head : (after.arrivals request.url).head = .reply reply := by
    rw [has.arrivals, Stream'.head_drop, heard]
  have advised : (advice policy reply).1 = adviceOf value := by
    rw [advice_fst, Arrival.advised?, header]
    rfl
  have same : policy.baseDelay (advice policy reply).1 = base := congrArg policy.baseDelay advised
  have draw : after.drawAt 0 = world.drawAt count := has.draws 0
  have started : (client.deliver (.ok request)).run world =
      (client.deliverFrom request (left + 1) (count + 1)).run after := by
    rw [← run, ← total]
    rfl
  rw [started, ← has.trace, ← draw, ← same]
  exact reply_prefix sendable head limited

/-- A second reply advises two hours, which are cut off at the one hour of the standard policy. -/
theorem deliver_followsAdvice_clamped :
    let url : Url :=
      ⟨"http".toList, some ⟨[], none, some (.domain "umapi.test".toList), none⟩, .segments [[]],
        none, none⟩
    let client : Client := .new .standard
    let request : Request := ⟨"POST", url, [], "[]"⟩
    let value := " 7200\t"
    let first : Reply := ⟨429, [], [], true⟩
    let reply : Reply := ⟨429, [⟨"retry-after", value⟩], [], true⟩
    let world : World := .fresh ⟨["http"], [.reply first, .reply reply], .closed⟩ []
    let base := client.policy.baseDelay (adviceOf value)
    let warning := clampedAdviceEvent client.policy (.ofSeconds 7200)
    request.isSendable = true ∧
      (∀ index < 1, ((world.arrivals url).get index).RateLimits) ∧
      SpellsSeconds value 7200 ∧ base.nanoseconds = 3600 * nanosecondsPerSecond ∧
      (advice client.policy reply).2 = [warning] ∧
      (client.rounds request world 1 ++
          .exchanged (client.introduce request) (.reply reply) ::
            .logged warning :: client.closing request base 2 (world.drawAt 1)) <+:
        ((client.deliver (.ok request)).run world).2.trace := by
  intro url client request value first reply world base warning
  have sendable : request.isSendable = true := by decide
  have limits : ∀ index < 1, ((world.arrivals url).get index).RateLimits := by
    intro index inside
    obtain rfl := Nat.lt_one_iff.mp inside
    exact ⟨first, rfl, rfl⟩
  have spells : SpellsSeconds value 7200 :=
    ⟨[' '], "7200".toList, ['\t'], List.forall_mem_singleton.mpr (.inl rfl),
      List.forall_mem_singleton.mpr (.inr rfl),
      ⟨by decide, List.all_eq_true.mp (by decide), by decide⟩, by decide⟩
  obtain ⟨told, honoured, -⟩ := deliver_followsAdvice client request sendable world 1 limits
    (by decide) (by decide) reply rfl rfl value rfl 7200 spells
  obtain ⟨clamped, warned, -⟩ := honoured (by decide)
  have exceeds : client.policy.maxRetryAfter.nanoseconds < 7200 * nanosecondsPerSecond := by decide
  rw [if_pos exceeds] at warned
  rw [warned] at told
  exact ⟨sendable, limits, spells, clamped.trans (by decide), warned, told⟩

/-- An advice of 2 ^ 64 seconds makes the base delay five seconds, without a word about the ceiling,
where one second less makes it an hour. -/
theorem deliver_forgetsAdvice :
    let url : Url :=
      ⟨"http".toList, some ⟨[], none, some (.domain "umapi.test".toList), none⟩, .segments [[]],
        none, none⟩
    let client : Client := .new .standard
    let request : Request := ⟨"POST", url, [], "[]"⟩
    let value := "18446744073709551616"
    let shorter := "18446744073709551615"
    let reply : Reply := ⟨429, [⟨"retry-after", value⟩], [], true⟩
    let accepted : Reply := ⟨200, [], [], true⟩
    let world : World := .fresh ⟨["http"], [.reply reply, .reply accepted], .closed⟩ []
    let policy := client.policy
    let trace := ((client.deliver (.ok request)).run world).2.trace
    SpellsSeconds value (2 ^ 64) ∧ SpellsSeconds shorter (2 ^ 64 - 1) ∧
      policy.maxRetryAfter.nanoseconds < 2 ^ 64 * nanosecondsPerSecond ∧
      (policy.baseDelay (adviceOf value)).nanoseconds ≠
        min (2 ^ 64 * nanosecondsPerSecond) policy.maxRetryAfter.nanoseconds ∧
      policy.baseDelay (adviceOf value) = policy.defaultDelay ∧
      policy.baseDelay (adviceOf value) < policy.baseDelay (adviceOf shorter) ∧
      .slept (policy.grown policy.defaultDelay 1 + policy.jitter 0) ∈ trace ∧
      ∀ delay, .logged (clampedAdviceEvent policy delay) ∉ trace := by
  intro url client request value shorter reply accepted world policy trace
  have sendable : request.isSendable = true := by decide
  have spells : SpellsSeconds value (2 ^ 64) :=
    ⟨[], value.toList, [], List.forall_mem_nil _, List.forall_mem_nil _,
      ⟨by decide, List.all_eq_true.mp (by decide), by decide⟩, by decide⟩
  have shorterSpells : SpellsSeconds shorter (2 ^ 64 - 1) :=
    ⟨[], shorter.toList, [], List.forall_mem_nil _, List.forall_mem_nil _,
      ⟨by decide, List.all_eq_true.mp (by decide), by decide⟩, by decide⟩
  have default : policy.baseDelay (adviceOf value) = policy.defaultDelay :=
    baseDelay_of_beyond spells (by decide)
  have hour : (policy.baseDelay (adviceOf shorter)).nanoseconds =
      policy.maxRetryAfter.nanoseconds := by
    rw [nanoseconds_baseDelay shorterSpells (by decide)]
    decide
  have written : trace = client.round request reply 1 0 ++
      [.exchanged (client.introduce request) (.reply accepted)] := by
    have started : (client.deliver (.ok request)).run world =
        (client.deliverFrom request (0xFFFFFFFE + 1) 1).run world := rfl
    have early : 1 ≤ client.policy.maxRetries.toNat := by decide
    have free : ¬ ((client.afterRound request reply 1 world).arrivals url).head.RateLimits := by
      have next : ((client.afterRound request reply 1 world).arrivals url).head =
          .reply accepted := rfl
      rw [next, Arrival.reply_rateLimits_iff]
      decide
    have trace_eq : trace = ((client.deliver (.ok request)).run world).2.trace := rfl
    rw [trace_eq, started, run_deliverFrom_of_early sendable rfl rfl early,
      run_deliverFrom_of_free sendable free]
    rfl
  have waited : client.waitBefore (.reply reply) 1 0 =
      policy.grown policy.defaultDelay 1 + policy.jitter 0 := by
    have advised : (Arrival.reply reply).advised? = adviceOf value := rfl
    rw [waitBefore, advised, RetryPolicy.backoff_eq_grown, default]
  have ignored : (advice client.policy reply).2 = [ignoredAdviceEvent value] :=
    advice_snd_of_beyond rfl spells (by decide)
  refine ⟨spells, shorterSpells, by decide, ?_, default, ?_, ?_, fun delay => ?_⟩
  · rw [default]
    decide
  · have least : (policy.baseDelay (adviceOf value)).nanoseconds <
        (policy.baseDelay (adviceOf shorter)).nanoseconds := by
      rw [default, hour]
      decide
    exact least
  · rw [written, round, waited]
    simp
  · rw [written, round, ignored]
    simp [clampedAdviceEvent, ignoredAdviceEvent, retryEvent, event]

end Client

end Http

end GroupSync
