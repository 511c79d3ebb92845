import GroupSync.Proofs.DeliveryTrace
import Mathlib.Data.Stream.Init
import Mathlib.Tactic.IntervalCases

/-!
# The timeline of a delivery

What the server answers to the requests for a URL is a sequence that goes on for ever, and a
delivery hears a beginning of it: the rate-limited arrivals up to the first other one, or as many as
the policy allows.  Between two attempts there is one announcement and one wait, whose length
follows from the arrival just heard and from the number of the attempt.  The proof follows the loop:
what one attempt does, then how a round is put in front of the rounds that follow it.
-/

namespace GroupSync

namespace Http

def Server.connects (server : Server) (url : Url) : Bool :=
  server.schemes.contains (String.ofList url.scheme)

/-- The server after some requests for a URL. -/
def Server.asked (server : Server) (url : Url) (count : Nat) : Server :=
  if server.connects url then { server with queue := server.queue.drop count } else server

/-- What comes of the requests for a URL from now on, one after another. -/
def World.arrivals (world : World) (url : Url) : Stream' Arrival := fun index =>
  if world.server.connects url then world.server.queue.getD index world.server.otherwise
  else .unreachable

def World.drawAt (world : World) (index : Nat) : Nat :=
  world.draws.getD index 0

def waitsOf (effects : List Effect) : List Duration :=
  effects.filterMap fun effect =>
    match effect with
    | .slept duration => some duration
    | _ => none

namespace Arrival

/-- The delay that an arrival advises: none unless it is a reply with a header that can be
understood. -/
def advised? : Arrival → Option Duration
  | reply received => (received.header? "retry-after").bind Client.adviceOf
  | _ => none

/-- Of attempts that are repeated while they are rate-limited, and `limit` times at most, the last
is number `count`: all before it are rate-limited, and it is not, or it is the last one allowed. -/
structure LastAttempt (arrivals : Stream' Arrival) (limit count : Nat) : Prop where
  positive : 0 < count
  bounded : count ≤ limit
  rateLimited : ∀ index, index + 1 < count → (arrivals.get index).RateLimits
  final : count = limit ∨ ¬ (arrivals.get (count - 1)).RateLimits

theorem lastAttempt_one {arrivals : Stream' Arrival} {limit : Nat} (allowed : 0 < limit)
    (final : limit = 1 ∨ ¬ arrivals.head.RateLimits) : LastAttempt arrivals limit 1 where
  positive := Nat.one_pos
  bounded := allowed
  rateLimited := fun index early => absurd early (by omega)
  final := final.imp_left Eq.symm

/-- Where some arrival is the first that is not rate-limited, the last attempt is the one that hears
it, or the last one allowed. -/
theorem LastAttempt.eq_min {arrivals : Stream' Arrival} {limit count first : Nat}
    (last : LastAttempt arrivals limit count) (free : ¬ (arrivals.get first).RateLimits)
    (limits : ∀ earlier < first, (arrivals.get earlier).RateLimits) :
    count = min (first + 1) limit := by
  have notLater : count ≤ first + 1 := by
    by_contra later
    exact free (last.rateLimited first (by omega))
  have positive := last.positive
  have bounded := last.bounded
  rcases last.final with exhausted | heard
  · omega
  · have notEarlier : first ≤ count - 1 := by
      by_contra earlier
      exact heard (limits (count - 1) (by omega))
    omega

theorem LastAttempt.after {arrivals : Stream' Arrival} {limit count : Nat}
    (limits : arrivals.head.RateLimits) (last : LastAttempt arrivals.tail limit count) :
    LastAttempt arrivals (limit + 1) (count + 1) where
  positive := Nat.succ_pos count
  bounded := Nat.succ_le_succ last.bounded
  rateLimited := by
    intro index early
    cases index with
    | zero => exact limits
    | succ index => exact last.rateLimited index (by omega)
  final := by
    obtain ⟨before, rfl⟩ : ∃ before, count = before + 1 :=
      Nat.exists_eq_succ_of_ne_zero (Nat.ne_of_gt last.positive)
    exact last.final.imp_left (congrArg (· + 1))

end Arrival

/-- An event announces a retry and the delay before it, in whole milliseconds as far as 64 bits
hold them. -/
structure AnnouncesRetry (event : LogEvent) (retry : Nat) (delay : Duration) : Prop where
  level : event.level = .info
  message : event.message = "Rate limited, retrying"
  retry : ("retry", .number retry) ∈ event.fields
  delay :
    ("delay_ms", .number (min (delay.nanoseconds / 1000000) (2 ^ 64 - 1) : Nat)) ∈ event.fields

namespace Client

/-- The delay before a retry: the backoff under the advice of the arrival just heard, and the jitter
that a random draw selects. -/
def waitBefore (client : Client) (arrival : Arrival) (retry draw : Nat) : Duration :=
  client.policy.backoff retry arrival.advised? + client.policy.jitter draw

/-- The effects of an attempt that is repeated: the exchange, warnings about the advice, and then
the announcement of the retry and the wait. -/
def Repeats (exchange : Exchange) (retry : Nat) (delay : Duration) (effects : List Effect) : Prop :=
  ∃ (warnings : List LogEvent) (announcement : LogEvent),
    effects = .exchanged exchange.1 exchange.2 ::
        (warnings.map .logged ++ [.logged announcement, .slept delay]) ∧
      (∀ warning ∈ warnings, warning.level = .warn) ∧ AnnouncesRetry announcement retry delay

/-- The effects of the last attempt: the exchange and warnings. -/
def Ends (exchange : Exchange) (effects : List Effect) : Prop :=
  ∃ warnings : List LogEvent,
    effects = .exchanged exchange.1 exchange.2 :: warnings.map .logged ∧
      ∀ warning ∈ warnings, warning.level = .warn

variable {client : Client} {request : Request}

theorem advice_fst (policy : RetryPolicy) (reply : Reply) :
    (advice policy reply).1 = (Arrival.reply reply).advised? := by
  rw [advice, Arrival.advised?]
  cases reply.header? "retry-after" with
  | none => rfl
  | some value =>
      dsimp only [Option.bind_some]
      cases adviceOf value <;> rfl

theorem level_of_mem_advice {policy : RetryPolicy} {reply : Reply} {event : LogEvent}
    (noted : event ∈ (advice policy reply).2) : event.level = .warn := by
  rw [advice] at noted
  split at noted
  · cases noted
  · split at noted
    · obtain rfl := List.mem_singleton.mp noted
      rfl
    · dsimp only at noted
      split at noted
      · obtain rfl := List.mem_singleton.mp noted
        rfl
      · cases noted

theorem announcesRetry_retryEvent (policy : RetryPolicy) (url : Url) (attempt : Nat)
    (delay jitter : Duration) :
    AnnouncesRetry (retryEvent policy url attempt delay jitter) attempt delay where
  level := rfl
  message := rfl
  retry := List.mem_cons_self
  delay := by
    apply List.mem_cons_of_mem
    apply List.mem_cons_of_mem
    exact List.mem_cons_self

/-! ### What one attempt does -/

/-- A world in which a request was sent once more and heard the next arrival. -/
def afterAttempt (client : Client) (request : Request) (world : World) : World :=
  { world with
    server := world.server.asked request.url 1
    trace := world.trace ++
      [.exchanged (client.introduce request) (world.arrivals request.url).head] }

theorem run_exchange_introduce (world : World) :
    (Session.exchange (client.introduce request)).run world =
      (.ok (world.arrivals request.url).head, client.afterAttempt request world) := by
  obtain ⟨⟨schemes, queue, otherwise⟩, draws, trace⟩ := world
  have head : (World.arrivals ⟨⟨schemes, queue, otherwise⟩, draws, trace⟩ request.url).head =
      if schemes.contains (String.ofList request.url.scheme) then queue.getD 0 otherwise
      else .unreachable := rfl
  rw [Session.exchange, Session.run_modifyGet, introduce_url, afterAttempt, head, Server.asked,
    Server.connects]
  cases schemes.contains (String.ofList request.url.scheme) with
  | false => rfl
  | true => cases queue <;> rfl

theorem run_attempt (sendable : request.isSendable = true) (world : World) :
    (client.attempt request).run world =
      (.ok ((world.arrivals request.url).head.outcome request.url),
        client.afterAttempt request world) := by
  rw [attempt, if_pos sendable, Session.run_bind, run_exchange_introduce]
  rfl

theorem arrivals_afterAttempt (client : Client) (request : Request) (world : World) :
    (client.afterAttempt request world).arrivals request.url =
      (world.arrivals request.url).tail := by
  funext index
  have asked : (world.server.asked request.url 1).connects request.url =
      world.server.connects request.url := by
    unfold Server.asked
    split <;> rfl
  have tail : (world.arrivals request.url).tail index =
      world.arrivals request.url (index + 1) := rfl
  rw [tail]
  unfold afterAttempt World.arrivals
  simp only [asked]
  split
  · rename_i connected
    rw [Server.asked, if_pos connected]
    simp
  · rfl

variable {world : World} {left attempt : Nat}

theorem run_deliverFrom_of_free (sendable : request.isSendable = true)
    (free : ¬ (world.arrivals request.url).head.RateLimits) :
    (client.deliverFrom request (left + 1) attempt).run world =
      (.ok ((world.arrivals request.url).head.outcome request.url),
        client.afterAttempt request world) := by
  rw [deliverFrom, Session.run_bind, run_attempt sendable]
  cases reached : (world.arrivals request.url).head.outcome request.url with
  | error failure => rfl
  | ok reply =>
      rw [Arrival.outcome_eq_ok_iff.mp reached, Arrival.reply_rateLimits_iff] at free
      dsimp only
      rw [if_pos free]
      rfl

/-- A world in which a rate-limited reply was looked at: what is wrong with its advice is noted and
a random number is drawn. -/
def afterReply (client : Client) (request : Request) (reply : Reply) (world : World) : World :=
  { (client.afterAttempt request world).noted (advice client.policy reply).2 with
    draws := world.draws.drop 1 }

theorem run_deliverFrom_of_limited (sendable : request.isSendable = true) {reply : Reply}
    (next : (world.arrivals request.url).head = .reply reply)
    (limited : reply.status = RetryPolicy.retryableStatus) :
    (client.deliverFrom request (left + 1) attempt).run world =
      match client.policy.verdict reply.status attempt (advice client.policy reply).1
        (client.policy.jitter (world.drawAt 0)) with
      | .final =>
          (.ok (.ok reply),
            (client.afterReply request reply world).noted [exhaustedEvent request.url attempt])
      | .again delay jitter =>
          (client.deliverFrom request left (attempt + 1)).run
            (((client.afterReply request reply world).noted
              [retryEvent client.policy request.url attempt delay jitter]).extend
                (.slept delay)) := by
  have received : (Arrival.reply reply).outcome request.url = .ok reply := rfl
  have repeatable : ¬ reply.status ≠ RetryPolicy.retryableStatus := not_not_intro limited
  have drawn : Session.draw.run
      ((client.afterAttempt request world).noted (advice client.policy reply).2) =
        (.ok (world.drawAt 0), client.afterReply request reply world) := by
    obtain ⟨server, draws, trace⟩ := world
    cases draws <;> rfl
  rw [deliverFrom, Session.run_bind, run_attempt sendable, next, received]
  simp only [if_neg repeatable, Session.run_bind, Session.run_recordAll, drawn]
  cases client.policy.verdict reply.status attempt (advice client.policy reply).1
      (client.policy.jitter (world.drawAt 0)) with
  | final => rfl
  | again delay jitter => rfl

/-! ### Rounds up to the last attempt -/

/-- A delivery goes on from attempt number `attempt` with some rounds, each for an arrival that is
rate-limited, and ends with what came of the last attempt. -/
structure Timeline (client : Client) (request : Request) (world : World) (attempt : Nat)
    (rounds : List (List Effect)) (closing : List Effect)
    (ended : Except Breakdown (Except Failure Reply) × World) : Prop where
  last : Arrival.LastAttempt (world.arrivals request.url)
    (client.policy.maxRetries.toNat + 2 - attempt) (rounds.length + 1)
  result : ended.1 =
    .ok (((world.arrivals request.url).get rounds.length).outcome request.url)
  trace : ended.2.trace = world.trace ++ rounds.flatten ++ closing
  server : ended.2.server = world.server.asked request.url (rounds.length + 1)
  repeats : ∀ index (inside : index < rounds.length),
    Repeats (client.introduce request, (world.arrivals request.url).get index) (attempt + index)
      (client.waitBefore ((world.arrivals request.url).get index) (attempt + index)
        (world.drawAt index)) rounds[index]
  ends : Ends (client.introduce request, (world.arrivals request.url).get rounds.length) closing

theorem timeline_of_free (sendable : request.isSendable = true)
    (free : ¬ (world.arrivals request.url).head.RateLimits)
    (allowed : attempt ≤ client.policy.maxRetries.toNat + 1) :
    Timeline client request world attempt []
      [.exchanged (client.introduce request) (world.arrivals request.url).head]
      ((client.deliverFrom request (left + 1) attempt).run world) := by
  rw [run_deliverFrom_of_free sendable free]
  refine ⟨Arrival.lastAttempt_one (by omega) (.inr free), rfl, ?_, rfl,
    fun index inside => absurd inside index.not_lt_zero, [], rfl,
    fun warning member => absurd member List.not_mem_nil⟩
  rw [List.flatten_nil, List.append_nil]
  rfl

theorem timeline_of_exhausted (sendable : request.isSendable = true) {reply : Reply}
    (next : (world.arrivals request.url).head = .reply reply)
    (limited : reply.status = RetryPolicy.retryableStatus)
    (exhausted : attempt = client.policy.maxRetries.toNat + 1) :
    Timeline client request world attempt []
      (.exchanged (client.introduce request) (.reply reply) ::
        ((advice client.policy reply).2 ++ [exhaustedEvent request.url attempt]).map .logged)
      ((client.deliverFrom request (left + 1) attempt).run world) := by
  have final : client.policy.verdict reply.status attempt (advice client.policy reply).1
      (client.policy.jitter (world.drawAt 0)) = .final := by
    rw [RetryPolicy.verdict, if_pos (.inr (by omega))]
  have get : (world.arrivals request.url).get 0 = .reply reply := next
  rw [run_deliverFrom_of_limited sendable next limited, final]
  refine ⟨Arrival.lastAttempt_one (by omega) (.inl (by omega)), ?_, ?_, rfl,
    fun index inside => absurd inside index.not_lt_zero,
    (advice client.policy reply).2 ++ [exhaustedEvent request.url attempt], ?_, ?_⟩
  · dsimp only [List.length_nil]
    rw [get]
    rfl
  · simp [World.noted, afterReply, afterAttempt, next]
  · dsimp only [List.length_nil]
    rw [get]
  · intro warning member
    rcases List.mem_append.mp member with noted | closing
    · exact level_of_mem_advice noted
    · obtain rfl := List.mem_singleton.mp closing
      rfl

def round (client : Client) (request : Request) (reply : Reply) (attempt draw : Nat) :
    List Effect :=
  let delay := client.waitBefore (.reply reply) attempt draw
  .exchanged (client.introduce request) (.reply reply) ::
    ((advice client.policy reply).2.map .logged ++
      [.logged (retryEvent client.policy request.url attempt delay (client.policy.jitter draw)),
        .slept delay])

theorem repeats_round (client : Client) (request : Request) (reply : Reply)
    (attempt draw : Nat) :
    Repeats (client.introduce request, .reply reply) attempt
      (client.waitBefore (.reply reply) attempt draw)
      (client.round request reply attempt draw) :=
  ⟨_, _, rfl, fun _ noted => level_of_mem_advice noted, announcesRetry_retryEvent _ _ _ _ _⟩

/-- A world in which a rate-limited request has waited for its next attempt. -/
def afterRound (client : Client) (request : Request) (reply : Reply) (attempt : Nat)
    (world : World) : World where
  server := world.server.asked request.url 1
  draws := world.draws.drop 1
  trace := world.trace ++ client.round request reply attempt (world.drawAt 0)

theorem run_deliverFrom_of_early (sendable : request.isSendable = true) {reply : Reply}
    (next : (world.arrivals request.url).head = .reply reply)
    (limited : reply.status = RetryPolicy.retryableStatus)
    (early : attempt ≤ client.policy.maxRetries.toNat) :
    (client.deliverFrom request (left + 1) attempt).run world =
      (client.deliverFrom request left (attempt + 1)).run
        (client.afterRound request reply attempt world) := by
  have again : client.policy.verdict reply.status attempt (advice client.policy reply).1
      (client.policy.jitter (world.drawAt 0)) =
        .again (client.waitBefore (.reply reply) attempt (world.drawAt 0))
          (client.policy.jitter (world.drawAt 0)) := by
    have allowed : ¬ (reply.status ≠ RetryPolicy.retryableStatus ∨
        client.policy.maxRetries.toNat < attempt) := by omega
    rw [RetryPolicy.verdict, if_neg allowed, advice_fst, waitBefore]
  have waited : ((client.afterReply request reply world).noted
      [retryEvent client.policy request.url attempt
        (client.waitBefore (.reply reply) attempt (world.drawAt 0))
        (client.policy.jitter (world.drawAt 0))]).extend
          (.slept (client.waitBefore (.reply reply) attempt (world.drawAt 0))) =
      client.afterRound request reply attempt world := by
    simp [World.noted, World.extend, afterReply, afterAttempt, afterRound, round, next]
  rw [run_deliverFrom_of_limited sendable next limited, again, ← waited]

theorem asked_asked (server : Server) (url : Url) (first second : Nat) :
    (server.asked url first).asked url second = server.asked url (first + second) := by
  unfold Server.asked
  by_cases connected : server.connects url = true
  · have still : ({ server with queue := server.queue.drop first } : Server).connects url = true :=
      connected
    simp only [if_pos connected, if_pos still, List.drop_drop]
  · simp only [if_neg connected]

theorem drawAt_afterRound (client : Client) (request : Request) (reply : Reply) (attempt : Nat)
    (world : World) (index : Nat) :
    (client.afterRound request reply attempt world).drawAt index = world.drawAt (index + 1) := by
  simp [World.drawAt, afterRound, List.getD_eq_getElem?_getD]

/-- A round is put in front of the rounds that follow it. -/
theorem Timeline.after {reply : Reply}
    (next : (world.arrivals request.url).head = .reply reply)
    (limited : reply.status = RetryPolicy.retryableStatus)
    (early : attempt ≤ client.policy.maxRetries.toNat)
    {rounds : List (List Effect)} {closing : List Effect}
    {ended : Except Breakdown (Except Failure Reply) × World}
    (later : Timeline client request (client.afterRound request reply attempt world) (attempt + 1)
      rounds closing ended) :
    Timeline client request world attempt
      (client.round request reply attempt (world.drawAt 0) :: rounds) closing ended := by
  have tail : (client.afterRound request reply attempt world).arrivals request.url =
      (world.arrivals request.url).tail := arrivals_afterAttempt client request world
  have limits : (world.arrivals request.url).head.RateLimits := ⟨reply, next, limited⟩
  obtain ⟨last, result, trace, server, repeats, ends⟩ := later
  rw [tail] at last result repeats ends
  refine ⟨?_, result, ?_, ?_, ?_, ends⟩
  · have counted : client.policy.maxRetries.toNat + 2 - attempt =
        client.policy.maxRetries.toNat + 2 - (attempt + 1) + 1 := by omega
    rw [counted]
    exact last.after limits
  · rw [trace, List.flatten_cons]
    simp [afterRound]
  · rw [server, List.length_cons, afterRound, asked_asked, Nat.add_comm 1]
  · intro index inside
    cases index with
    | zero =>
        have get : (world.arrivals request.url).get 0 = .reply reply := next
        rw [get]
        exact repeats_round client request reply attempt (world.drawAt 0)
    | succ index =>
        have following := repeats index (Nat.lt_of_succ_lt_succ inside)
        rw [drawAt_afterRound, Nat.add_right_comm] at following
        exact following

/-- From an attempt that the policy allows on, a delivery has a timeline, as long as the counter
holds the attempts that may follow. -/
theorem exists_timeline (sendable : request.isSendable = true) (left attempt : Nat)
    (allowed : attempt ≤ client.policy.maxRetries.toNat + 1)
    (counted : client.policy.maxRetries.toNat + 1 < attempt + left) (world : World) :
    ∃ rounds closing, Timeline client request world attempt rounds closing
      ((client.deliverFrom request left attempt).run world) := by
  induction left generalizing attempt world with
  | zero => omega
  | succ left induction =>
      by_cases limits : (world.arrivals request.url).head.RateLimits
      · obtain ⟨reply, next, limited⟩ := limits
        by_cases exhausted : attempt = client.policy.maxRetries.toNat + 1
        · exact ⟨[], _, timeline_of_exhausted sendable next limited exhausted⟩
        · have early : attempt ≤ client.policy.maxRetries.toNat := by omega
          obtain ⟨rounds, closing, later⟩ := induction (attempt + 1) (by omega) (by omega)
            (client.afterRound request reply attempt world)
          rw [run_deliverFrom_of_early sendable next limited early]
          exact ⟨_, closing, later.after next limited early⟩
      · exact ⟨[], _, timeline_of_free sendable limits allowed⟩

/-! ### Exchanges and waits of a timeline -/

theorem Repeats.exchangesOf {exchange : Exchange} {retry : Nat} {delay : Duration}
    {effects : List Effect} (repeats : Repeats exchange retry delay effects) :
    exchangesOf effects = [exchange] := by
  obtain ⟨warnings, announcement, rfl, -, -⟩ := repeats
  simp

theorem waitsOf_map_logged (events : List LogEvent) : waitsOf (events.map .logged) = [] := by
  simp [waitsOf, List.filterMap_map]

theorem Repeats.waitsOf {exchange : Exchange} {retry : Nat} {delay : Duration}
    {effects : List Effect} (repeats : Repeats exchange retry delay effects) :
    waitsOf effects = [delay] := by
  obtain ⟨warnings, announcement, rfl, -, -⟩ := repeats
  have silent := waitsOf_map_logged warnings
  unfold Http.waitsOf at silent ⊢
  simp [silent]

theorem Ends.exchangesOf {exchange : Exchange} {effects : List Effect}
    (ends : Ends exchange effects) : exchangesOf effects = [exchange] := by
  obtain ⟨warnings, rfl, -⟩ := ends
  simp

theorem Ends.waitsOf {exchange : Exchange} {effects : List Effect}
    (ends : Ends exchange effects) : waitsOf effects = [] := by
  obtain ⟨warnings, rfl, -⟩ := ends
  exact waitsOf_map_logged warnings

/-- What is picked out of rounds, one item of each, is picked round by round. -/
theorem filterMap_flatten_of_singletons {α : Type} {pick : Effect → Option α} {item : Nat → α}
    {rounds : List (List Effect)}
    (each : ∀ index (inside : index < rounds.length),
      rounds[index].filterMap pick = [item index]) :
    rounds.flatten.filterMap pick = (List.range rounds.length).map item := by
  induction rounds generalizing item with
  | nil => rfl
  | cons first rounds induction =>
      have head := each 0 (Nat.succ_pos rounds.length)
      have later : rounds.flatten.filterMap pick =
          (List.range rounds.length).map fun index => item (index + 1) :=
        induction fun index inside => each (index + 1) (Nat.succ_lt_succ inside)
      rw [List.flatten_cons, List.filterMap_append, later, List.length_cons,
        List.range_succ_eq_map, List.map_cons, List.map_map]
      exact congrArg (· ++ _) head

theorem Timeline.exchangesOf {rounds : List (List Effect)} {closing : List Effect}
    {ended : Except Breakdown (Except Failure Reply) × World}
    (timeline : Timeline client request world attempt rounds closing ended) :
    exchangesOf (rounds.flatten ++ closing) = (List.range (rounds.length + 1)).map fun index =>
      (client.introduce request, (world.arrivals request.url).get index) := by
  have repeated : Http.exchangesOf rounds.flatten = (List.range rounds.length).map fun index =>
      (client.introduce request, (world.arrivals request.url).get index) :=
    filterMap_flatten_of_singletons fun index inside =>
      (timeline.repeats index inside).exchangesOf
  rw [exchangesOf_append, repeated, timeline.ends.exchangesOf, List.range_succ, List.map_append]
  rfl

theorem Timeline.waitsOf {rounds : List (List Effect)} {closing : List Effect}
    {ended : Except Breakdown (Except Failure Reply) × World}
    (timeline : Timeline client request world attempt rounds closing ended) :
    waitsOf (rounds.flatten ++ closing) = (List.range rounds.length).map fun index =>
      client.waitBefore ((world.arrivals request.url).get index) (attempt + index)
        (world.drawAt index) := by
  have repeated : Http.waitsOf rounds.flatten = _ :=
    filterMap_flatten_of_singletons fun index inside => (timeline.repeats index inside).waitsOf
  have silent : Http.waitsOf closing = [] := timeline.ends.waitsOf
  unfold Http.waitsOf at repeated silent ⊢
  rw [List.filterMap_append, repeated, silent, List.append_nil]

theorem run_attempt_of_unsendable (refused : request.isSendable = false) (world : World) :
    (client.attempt request).run world =
      (.ok (.error (BuildFault.unusable request.url).toError), world) := by
  rw [attempt, refused]
  rfl

/-- A request that cannot be sent fails at its first attempt, without an exchange.  Any other
request is sent over and over, unchanged, up to the first arrival that is not rate-limited or as
often as the policy allows, and what came of the last attempt is returned.  In between there is one
wait for each rate-limited arrival that is not the last, announced right before it, and the retries
are counted from one, whatever was sent before. -/
theorem deliver_timeline (client : Client) (request : Request)
    (below : client.policy.maxRetries.toNat < RetryPolicy.greatestAttempt) (world : World) :
    let arrivals := world.arrivals request.url
    let ended := (client.deliver (.ok request)).run world
    (request.isSendable = false →
      ended = (.ok (.error (BuildFault.unusable request.url).toError), world)) ∧
    (request.isSendable = true → ∃ rounds closing,
      Timeline client request world 1 rounds closing ended ∧
        exchangesOf (rounds.flatten ++ closing) =
          (List.range (rounds.length + 1)).map
            (fun index => (client.introduce request, arrivals.get index)) ∧
        waitsOf (rounds.flatten ++ closing) =
          (List.range rounds.length).map fun index =>
            client.waitBefore (arrivals.get index) (1 + index) (world.drawAt index)) := by
  intro arrivals ended
  constructor
  · intro refused
    have started : RetryPolicy.greatestAttempt = 0xFFFFFFFE + 1 := rfl
    have first : ended = (client.deliverFrom request RetryPolicy.greatestAttempt 1).run world := rfl
    rw [first, started, deliverFrom, Session.run_bind, run_attempt_of_unsendable refused]
    rfl
  · intro sendable
    obtain ⟨rounds, closing, timeline⟩ : ∃ rounds closing,
        Timeline client request world 1 rounds closing ended :=
      exists_timeline sendable RetryPolicy.greatestAttempt 1 (by omega) (by omega) world
    exact ⟨rounds, closing, timeline, timeline.exchangesOf, timeline.waitsOf⟩

/-- Two rate-limited replies and then another one make three attempts and two waits. -/
theorem deliver_timeline_two_retries :
    let url : Url :=
      ⟨"http".toList, some ⟨[], none, some (.domain "umapi.test".toList), none⟩, .segments [[]],
        none, none⟩
    let client : Client := .new .standard
    let request : Request := ⟨"POST", url, [], "[]"⟩
    let limited (advised : String) : Arrival := .reply ⟨429, [⟨"retry-after", advised⟩], [], true⟩
    let accepted : Reply := ⟨200, [], [], true⟩
    let world : World := .fresh ⟨["http"], [limited "2", limited "5", .reply accepted], .closed⟩ []
    let ended := (client.deliver (.ok request)).run world
    client.policy.maxRetries.toNat < RetryPolicy.greatestAttempt ∧ request.isSendable = true ∧
      ended.1 = .ok (.ok accepted) ∧
      waitsOf ended.2.trace =
        [client.policy.backoff 1 (some (.ofSeconds 2)) + client.policy.jitter 0,
          client.policy.backoff 2 (some (.ofSeconds 5)) + client.policy.jitter 0] := by
  intro url client request limited accepted world ended
  have sendable : request.isSendable = true := by decide
  obtain ⟨rounds, closing, timeline, -, waits⟩ :=
    (deliver_timeline client request (by decide) world).2 sendable
  have first : (world.arrivals url).get 0 = limited "2" := rfl
  have second : (world.arrivals url).get 1 = limited "5" := rfl
  have third : (world.arrivals url).get 2 = .reply accepted := rfl
  have free : ¬ ((world.arrivals url).get 2).RateLimits := by
    rw [third, Arrival.reply_rateLimits_iff]
    decide
  have limits : ∀ earlier < 2, ((world.arrivals url).get earlier).RateLimits := by
    intro earlier early
    interval_cases earlier
    · exact ⟨_, first, rfl⟩
    · exact ⟨_, second, rfl⟩
  have counted : rounds.length = 2 := by
    have least := timeline.last.eq_min free limits
    have three : min (2 + 1) (client.policy.maxRetries.toNat + 2 - 1) = 3 := by decide
    omega
  have trace := timeline.trace
  have result := timeline.result
  rw [counted] at result waits
  have started : world.trace = [] := rfl
  have firstAdvice : (limited "2").advised? = some (.ofSeconds 2) := by decide
  have secondAdvice : (limited "5").advised? = some (.ofSeconds 5) := by decide
  rw [started, List.nil_append] at trace
  refine ⟨by decide, sendable, result, ?_⟩
  rw [trace, waits, ← firstAdvice, ← secondAdvice]
  rfl

end Client

end Http

end GroupSync
