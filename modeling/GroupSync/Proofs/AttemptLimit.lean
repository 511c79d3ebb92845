import GroupSync.Proofs.AdvisedDelays

/-!
# The limit of attempts

A policy limits a request twice: by the number of retries after the first attempt, and by the number
of all attempts, which is cut off where a 32-bit counter ends.  The two agree unless the policy
allows as many retries as can be counted.  Then the retry that the limit no longer counts is
granted, and the counter of a request that is rate-limited for ever has no number for it.
-/

namespace GroupSync

namespace RetryPolicy

variable {policy : RetryPolicy} {status attempt : Nat} {advised : Option Duration}
  {jitter : Duration}

theorem exists_verdict_eq_again_iff :
    (∃ delay share, policy.verdict status attempt advised jitter = .again delay share) ↔
      status = retryableStatus ∧ attempt ≤ policy.maxRetries.toNat := by
  constructor
  · rintro ⟨delay, share, again⟩
    refine ⟨?_, le_of_verdict_eq_again again⟩
    by_contra other
    rw [verdict, if_pos (.inl other)] at again
    cases again
  · rintro ⟨limited, early⟩
    have neither : ¬ (status ≠ retryableStatus ∨ policy.maxRetries.toNat < attempt) := by
      omega
    exact ⟨_, _, if_neg neither⟩

theorem maxRetries_le_greatestAttempt (policy : RetryPolicy) :
    policy.maxRetries.toNat ≤ greatestAttempt :=
  Nat.le_of_lt_succ policy.maxRetries.toNat_lt

theorem attemptLimit_of_below (below : policy.maxRetries.toNat < greatestAttempt) :
    policy.attemptLimit = policy.maxRetries.toNat + 1 :=
  Nat.min_eq_left below

theorem attemptLimit_of_unlimited (unlimited : policy.maxRetries.toNat = greatestAttempt) :
    policy.attemptLimit = greatestAttempt := by
  rw [attemptLimit, unlimited]
  exact Nat.min_eq_right (Nat.le_succ _)

/-- A retry is granted exactly below the limit, but for the last number of the counter. -/
theorem again_iff_lt_attemptLimit_iff :
    ((∃ delay share, policy.verdict retryableStatus attempt advised jitter = .again delay share) ↔
        attempt < policy.attemptLimit) ↔
      ¬ (policy.maxRetries.toNat = greatestAttempt ∧ attempt = greatestAttempt) := by
  have counted := policy.maxRetries_le_greatestAttempt
  rw [exists_verdict_eq_again_iff, and_iff_right rfl, attemptLimit]
  omega

end RetryPolicy

namespace Http

namespace Client

variable {client : Client} {request : Request} {world : World}

/-- The exchanges of the first attempts for a request. -/
def attempts (client : Client) (request : Request) (world : World) (count : Nat) :
    List Exchange :=
  (List.range count).map fun index =>
    (client.introduce request, (world.arrivals request.url).get index)

/-- Each of the first rounds makes one exchange. -/
theorem exchangesOf_rounds {count : Nat}
    (limits : ∀ index < count, ((world.arrivals request.url).get index).RateLimits) :
    exchangesOf (client.rounds request world count) = client.attempts request world count := by
  induction count with
  | zero => rfl
  | succ count induction =>
      obtain ⟨reply, next, -⟩ := limits count (Nat.lt_succ_self count)
      have earlier := induction fun index inside => limits index (Nat.lt_succ_of_lt inside)
      have last := (repeats_round client request reply (count + 1) (world.drawAt count)).exchangesOf
      rw [rounds, exchangesOf_append, earlier, attempts, attempts, List.range_succ,
        List.map_append, List.map_singleton, next]
      exact congrArg _ last

/-- A request that is rate-limited for ever is sent once more than it may be repeated, if the
counter holds that many attempts, and the last reply is returned. -/
theorem run_deliver_of_below (sendable : request.isSendable = true)
    (endless : ∀ index, ((world.arrivals request.url).get index).RateLimits)
    (below : client.policy.maxRetries.toNat < RetryPolicy.greatestAttempt) :
    ((client.deliver (.ok request)).run world).2.exchanges =
        world.exchanges ++ client.attempts request world (client.policy.maxRetries.toNat + 1) ∧
      ∃ reply, (world.arrivals request.url).get client.policy.maxRetries.toNat = .reply reply ∧
        ((client.deliver (.ok request)).run world).1 = .ok (.ok reply) := by
  obtain ⟨rounds, closing, timeline⟩ : ∃ rounds closing,
      Timeline client request world 1 rounds closing ((client.deliver (.ok request)).run world) :=
    exists_timeline sendable RetryPolicy.greatestAttempt 1 (by omega) (by omega) world
  have counted : rounds.length = client.policy.maxRetries.toNat := by
    rcases timeline.last.final with exhausted | free
    · omega
    · exact absurd (endless _) free
  have result := timeline.result
  obtain ⟨reply, last, -⟩ := endless client.policy.maxRetries.toNat
  rw [counted, last] at result
  refine ⟨?_, reply, last, result⟩
  rw [World.exchanges, timeline.trace, List.append_assoc, exchangesOf_append, timeline.exchangesOf,
    counted]
  rfl

/-- A request that is rate-limited for ever uses up its counter if the policy allows as many retries
as can be counted. -/
theorem run_deliver_of_unlimited (sendable : request.isSendable = true)
    (endless : ∀ index, ((world.arrivals request.url).get index).RateLimits)
    (unlimited : client.policy.maxRetries.toNat = RetryPolicy.greatestAttempt) :
    ((client.deliver (.ok request)).run world).2.exchanges =
        world.exchanges ++ client.attempts request world RetryPolicy.greatestAttempt ∧
      ((client.deliver (.ok request)).run world).1 = .error .counterOverflow := by
  obtain ⟨after, heard, run⟩ := exists_hasHeard sendable world
    (fun index (_ : index < RetryPolicy.greatestAttempt) => endless index)
    (Nat.le_of_eq unlimited.symm) 0
  rw [Nat.zero_add] at run
  -- No attempt is left to the counter, so the next one overflows it.
  have ended : (client.deliver (.ok request)).run world = (.error .counterOverflow, after) := run
  rw [ended]
  refine ⟨?_, rfl⟩
  rw [World.exchanges, heard.trace, exchangesOf_append,
    exchangesOf_rounds fun index _ => endless index]
  rfl

/-- A request that is rate-limited for ever is sent exactly as often as the limit says.  A verdict
grants a retry exactly below the limit, the last reply is returned and the counter holds, unless the
policy allows as many retries as can be counted: then the verdict on the last attempt grants one
more, and the counter overflows. -/
theorem deliver_keepsLimit_iff (client : Client) (request : Request)
    (sendable : request.isSendable = true) (world : World)
    (endless : ∀ index, ((world.arrivals request.url).get index).RateLimits) :
    let policy := client.policy
    let retries := policy.maxRetries.toNat
    let ended := (client.deliver (.ok request)).run world
    (ended.2.exchanges = world.exchanges ++ (List.range policy.attemptLimit).map fun index =>
      (client.introduce request, (world.arrivals request.url).get index)) ∧
    (∀ attempt advised jitter,
      ((∃ delay share, policy.verdict RetryPolicy.retryableStatus attempt advised jitter =
          .again delay share) ↔ attempt < policy.attemptLimit) ↔
        ¬ (retries = RetryPolicy.greatestAttempt ∧ attempt = RetryPolicy.greatestAttempt)) ∧
    ((∃ reply, (world.arrivals request.url).get (policy.attemptLimit - 1) = .reply reply ∧
        ended.1 = .ok (.ok reply)) ↔ retries < RetryPolicy.greatestAttempt) ∧
    (ended.1 = .error .counterOverflow ↔ retries = RetryPolicy.greatestAttempt) := by
  intro policy retries ended
  rcases Nat.lt_or_eq_of_le policy.maxRetries_le_greatestAttempt with below | unlimited
  · obtain ⟨sent, reply, last, result⟩ := run_deliver_of_below sendable endless below
    have limit : policy.attemptLimit = retries + 1 := RetryPolicy.attemptLimit_of_below below
    have returned : ended.1 = .ok (.ok reply) := result
    refine ⟨?_, fun _ _ _ => RetryPolicy.again_iff_lt_attemptLimit_iff,
      iff_of_true ⟨reply, ?_, returned⟩ below, iff_of_false ?_ (Nat.ne_of_lt below)⟩
    · rw [limit]
      exact sent
    · rw [limit]
      exact last
    · rw [returned]
      exact nofun
  · obtain ⟨sent, overflown⟩ := run_deliver_of_unlimited sendable endless unlimited
    have limit : policy.attemptLimit = RetryPolicy.greatestAttempt :=
      RetryPolicy.attemptLimit_of_unlimited unlimited
    have broken : ended.1 = .error .counterOverflow := overflown
    refine ⟨?_, fun _ _ _ => RetryPolicy.again_iff_lt_attemptLimit_iff,
      iff_of_false ?_ (Nat.not_lt.mpr unlimited.ge), iff_of_true broken unlimited⟩
    · rw [limit]
      exact sent
    · rintro ⟨reply, -, returned⟩
      rw [broken] at returned
      cases returned

/-- Under the standard policy, a request that is rate-limited for ever is sent four times. -/
theorem deliver_keepsLimit_standard :
    let url : Url :=
      ⟨"http".toList, some ⟨[], none, some (.domain "umapi.test".toList), none⟩, .segments [[]],
        none, none⟩
    let client : Client := .new .standard
    let request : Request := ⟨"POST", url, [], "[]"⟩
    let reply : Reply := ⟨429, [], [], true⟩
    let world : World := .fresh ⟨["http"], [], .reply reply⟩ []
    let ended := (client.deliver (.ok request)).run world
    request.isSendable = true ∧ (∀ index, ((world.arrivals url).get index).RateLimits) ∧
      ended.2.exchanges = List.replicate 4 (client.introduce request, .reply reply) ∧
      ended.1 = .ok (.ok reply) := by
  intro url client request reply world ended
  have sendable : request.isSendable = true := by decide
  have endless : ∀ index, ((world.arrivals url).get index).RateLimits :=
    fun index => ⟨reply, rfl, rfl⟩
  obtain ⟨sent, -, returns, -⟩ := deliver_keepsLimit_iff client request sendable world endless
  obtain ⟨last, same, returned⟩ := returns.mpr (by decide)
  obtain rfl : reply = last := Arrival.reply.inj same
  exact ⟨sendable, endless, sent, returned⟩

/-- Where a policy allows as many retries as can be counted, the verdict on the last attempt grants
one more, although this attempt is the limit, and a request that is rate-limited for ever ends in an
overflow. -/
theorem deliver_overrunsLimit :
    let policy : RetryPolicy := .new 0xFFFFFFFF (.ofSeconds 5) 1.5
    let url : Url :=
      ⟨"http".toList, some ⟨[], none, some (.domain "umapi.test".toList), none⟩, .segments [[]],
        none, none⟩
    let request : Request := ⟨"POST", url, [], "[]"⟩
    let world : World := .fresh ⟨["http"], [], .reply ⟨429, [], [], true⟩⟩ []
    (∃ delay share, policy.verdict 429 0xFFFFFFFF none .zero = .again delay share) ∧
      ¬ 0xFFFFFFFF < policy.attemptLimit ∧
      (((Client.new policy).deliver (.ok request)).run world).1 = .error .counterOverflow := by
  intro policy url request world
  have sendable : request.isSendable = true := by decide
  have endless : ∀ index, ((world.arrivals url).get index).RateLimits :=
    fun index => ⟨_, rfl, rfl⟩
  have unlimited : policy.maxRetries.toNat = RetryPolicy.greatestAttempt := rfl
  have endsBadly : (((Client.new policy).deliver (.ok request)).run world).1 =
      .error .counterOverflow :=
    (run_deliver_of_unlimited sendable endless unlimited).2
  refine ⟨RetryPolicy.exists_verdict_eq_again_iff.mpr ⟨rfl, unlimited.ge⟩, ?_, endsBadly⟩
  rw [RetryPolicy.attemptLimit_of_unlimited unlimited]
  exact Nat.lt_irrefl _

end Client

end Http

end GroupSync
