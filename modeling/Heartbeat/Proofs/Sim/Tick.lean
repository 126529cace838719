import Heartbeat.Sim.Client
import Heartbeat.Proofs.Api.Admission
import Heartbeat.Proofs.Record.Wire
import Heartbeat.Proofs.Sim.Addresses

/-! The simulator sends what the daemon accepts. A request for a synthetic host needs no escape, is short and
names an address that trimming leaves alone; so a daemon with room takes it for a signal of that host, and its
answer is read back as it was sent. What becomes of one request is nothing to the others of the tick. A tick
for which a list cannot hold the hosts sends nothing at all. -/
namespace Heartbeat
open Text (encode trim Trimmed)

/-! ## A topic with room -/

/-- The topic takes the next payload. -/
def Topic.HasRoom (t : Topic) : Prop :=
  t.subscribed = true ∧ (t.awaited = true ∨ t.queue.length < t.capacity)

namespace Api

/-- The intake answers 200, and has put one payload on the topic, which is read as that signal. -/
def Takes (signal : Signal) (topic : Topic) (after : Reply × Topic) : Prop :=
  ∃ payload, after = (reply 200 "OK",
      { topic with queue := topic.queue ++ [payload], awaited := false }) ∧
    Signal.decode payload = .ok signal

/-- A request that names a host is taken wherever there is room. -/
theorem takes_of_room {request : Request} {topic : Topic} (trimmed : Trimmed request.ip) (now : Int64)
    (room : topic.HasRoom) :
    Takes ⟨request.ip, now, request.duration⟩ topic (intake now (encode request.render) topic) := by
  have read := request.parse_render
  have named : trim request.ip ≠ "" := trimmed.trim_eq.symm ▸ trimmed.1
  obtain ⟨subscribed, room⟩ := room
  have result := outcome now (encode request.render) topic
  generalize intake now (encode request.render) topic = after at result
  cases result with
  | accepted read' named =>
    cases read.symm.trans read'
    exact ⟨_, rfl, by rw [Signal.decode_observed named, trimmed.trim_eq]⟩
  | unreadable unread => cases read.symm.trans unread
  | nameless read' unnamed =>
    cases read.symm.trans read'
    exact absurd unnamed named
  | full _ _ _ unawaited crowded =>
    rcases room with awaited | below
    · exact absurd (unawaited.symm.trans awaited) (by decide)
    · exact absurd below (Nat.not_lt.mpr crowded)
  | unheard _ _ unsubscribed => exact absurd (unsubscribed.symm.trans subscribed) (by decide)

end Api

namespace Sim

/-- The request that a tick has for a host. -/
def Options.request (o : Options) (n : UInt32) : Request :=
  ⟨hostAddress n, reportedDuration o.intervalSecs, none⟩

/-- What becomes of a request that reaches the daemon, and the daemon behind it. -/
def carry (outgoing : Http.Outgoing) (s : Services) : Http.Outcome × Services :=
  let (answer, s) := Api.respond ⟨outgoing.method, outgoing.path, encode outgoing.body⟩ s
  (.replied answer.code (encode answer.body), s)

/-! ## The text of a request -/

/-- An address is written in digits and dots. -/
theorem mem_hostAddress {n : UInt32} {c : Char} (member : c ∈ (hostAddress n).toList) :
    c.isDigit = true ∨ c = '.' := by
  rw [hostAddress_eq, dotted] at member
  simp only [String.toList_append, List.mem_append] at member
  rcases member with (((((first | dot) | second) | dot) | third) | dot) | fourth
  · exact .inl (isDigit_of_mem_toString first)
  · exact .inr (by simpa using dot)
  · exact .inl (isDigit_of_mem_toString second)
  · exact .inr (by simpa using dot)
  · exact .inl (isDigit_of_mem_toString third)
  · exact .inr (by simpa using dot)
  · exact .inl (isDigit_of_mem_toString fourth)

/-- What an address is written in is no blank, and needs no escape. -/
theorem plain_of_written {c : Char} (written : c.isDigit = true ∨ c = '.') :
    Text.isBlank c = false ∧ Json.escapeChar c = c.toString := by
  rcases written with digit | rfl
  · have range : 0x30 ≤ c.toNat ∧ c.toNat ≤ 0x39 := Char.isDigit_iff_toNat.mp digit
    refine ⟨?_, Json.escapeChar_plain (by omega) ?_ ?_⟩
    · simp only [Text.isBlank, Bool.or_eq_false_iff, Bool.and_eq_false_iff, decide_eq_false_iff_not,
        beq_eq_false_iff_ne]
      omega
    · rintro rfl
      exact absurd range.1 (by decide)
    · rintro rfl
      exact absurd range.2 (by decide)
  · exact ⟨by decide, rfl⟩

theorem trimmed_hostAddress (n : UInt32) : Trimmed (hostAddress n) := by
  have solid (c : Char) (member : c ∈ (hostAddress n).toList) : Text.isBlank c = false :=
    (plain_of_written (mem_hostAddress member)).1
  have dot : '.' ∈ (hostAddress n).toList := by simp [hostAddress_eq, dotted]
  refine ⟨fun empty => ?_, fun c first => solid c (List.mem_of_mem_head? first),
    fun c last => solid c (List.mem_of_mem_getLast? last)⟩
  rw [empty] at dot
  cases dot

theorem renderText_hostAddress (n : UInt32) :
    Json.renderText (hostAddress n) = "\"" ++ hostAddress n ++ "\"" := by
  have unescaped : (hostAddress n).toList.map Json.escapeChar = (hostAddress n).toList.map Char.toString :=
    List.map_congr_left fun c member => (plain_of_written (mem_hostAddress member)).2
  have joined (chars : List Char) : String.join (chars.map Char.toString) = String.ofList chars := by
    induction chars with
    | nil => rfl
    | cons c chars ih =>
      rw [List.map_cons, String.join_cons, ih, String.ofList_cons]
      rfl
  rw [Json.renderText, unescaped, joined, String.ofList_toList]

/-- A number below a power of ten has no more digits than its exponent. -/
theorem length_encode_repr {n k : Nat} (small : n < 10 ^ (k + 1)) : (encode n.repr).length ≤ k + 1 := by
  induction k generalizing n with
  | zero =>
    rw [Json.encode_repr_of_lt (by simpa using small)]
    rfl
  | succ k ih =>
    rcases Nat.lt_or_ge n 10 with one | more
    · rw [Json.encode_repr_of_lt one]
      exact Nat.le_add_left 1 (k + 1)
    · have tenth : n / 10 < 10 ^ (k + 1) := by
        rw [Nat.pow_succ] at small
        omega
      rw [Json.encode_repr_of_ge more, List.length_append]
      exact Nat.succ_le_succ (ih tenth)

theorem length_hostAddress (n : UInt32) : (encode (hostAddress n)).length ≤ 40 := by
  have bound := n.toNat_lt
  have third : (encode (toString ((n.toNat - 1) / 254 + 1))).length ≤ 9 + 1 :=
    length_encode_repr (by omega)
  have fourth : (encode (toString ((n.toNat - 1) % 254 + 1))).length ≤ 9 + 1 :=
    length_encode_repr (by omega)
  rw [hostAddress_eq, dotted]
  simp only [Text.encode_append, List.length_append]
  have front : (encode (toString 192)).length = 3 ∧ (encode (toString 168)).length = 3 := by decide +kernel
  have dot : (encode ".").length = 1 := by decide +kernel
  omega

/-! ## What is reported -/

/-- The interval, or the largest duration there is. -/
theorem toInt_reportedDuration (intervalSecs : UInt64) :
    (reportedDuration intervalSecs).toInt = (min intervalSecs.toNat 9223372036854775807 : Nat) := by
  unfold reportedDuration
  split
  · rw [Int64.toInt_ofInt_of_le (by omega) (by omega)]
    omega
  · rw [Int64.toInt_maxValue]
    omega

/-- The text of a request needs no escape. -/
theorem render_request (o : Options) (n : UInt32) : (o.request n).render =
    "\x7b\"ip\":\"" ++ hostAddress n ++ "\",\"duration\":" ++
      toString (reportedDuration o.intervalSecs).toInt ++ "\x7d" := by
  have ip : Json.renderText "ip" = "\"ip\"" := by decide +kernel
  have duration : Json.renderText "duration" = "\"duration\"" := by decide +kernel
  rw [← String.toList_inj]
  simp [Options.request, Request.render, Request.toJson, Json.Value.render, Json.renderMembers,
    Json.Number.render, Json.Value.ofInt64, Json.Value.ofInt, renderText_hostAddress, ip, duration]

theorem length_request (o : Options) (n : UInt32) :
    (encode (o.request n).render).length ≤ Api.bodyLimit := by
  have address := length_hostAddress n
  -- the largest duration has nineteen digits
  have number : (encode (toString (reportedDuration o.intervalSecs).toInt)).length ≤ 18 + 1 := by
    rw [toInt_reportedDuration]
    exact length_encode_repr (by omega)
  have front : (encode "\x7b\"ip\":\"").length = 7 := by decide +kernel
  have middle : (encode "\",\"duration\":").length = 13 := by decide +kernel
  have back : (encode "\x7d").length = 1 := by decide +kernel
  rw [render_request]
  simp only [Text.encode_append, List.length_append, front, middle, back, Api.bodyLimit]
  omega

/-! ## What the daemon makes of it -/

/-- An answer that says that all went well is read as it was given. -/
theorem readReply_render (r : Reply) (success : Http.isSuccess r.code.toNat = true) :
    readReply (.replied r.code.toNat (encode r.render)) = .ok r := by
  simp only [readReply, success, if_true, Reply.parse_render]
  rfl

/-- Over HTTP, a daemon with room takes a request of a tick as its intake does. Nothing else of the daemon
changes but that the clock was read. -/
theorem carry_request (o : Options) (n : UInt32) {s : Services} (room : s.topic.HasRoom) :
    ∃ topic, Api.Takes ⟨hostAddress n, Int64.ofInt (s.clock s.readings).unixMillis,
        reportedDuration o.intervalSecs⟩ s.topic (Api.reply 200 "OK", topic) ∧
      carry (heartbeatRequest (o.request n)) s =
        (.replied 200 (encode (Api.reply 200 "OK").render), { s.readClock.2 with topic }) := by
  obtain ⟨payload, taken, decoded⟩ : Api.Takes _ s.topic (Api.intake
      (Int64.ofInt (s.clock s.readings).unixMillis) (encode (o.request n).render) s.topic) :=
    Api.takes_of_room (trimmed_hostAddress n) _ room
  have route : Api.route? "/healthcheck" = some .intake := by decide +kernel
  refine ⟨_, ⟨payload, rfl, decoded⟩, ?_⟩
  simp only [carry, heartbeatRequest, Api.respond, route, if_true, Api.takeHeartbeat,
    if_neg (Nat.not_lt.mpr (length_request o n)), Services.readClock, taken]
  rfl

/-! ## A tick -/

theorem tick?_eq_none_iff (o : Options) (draw : Nat → UInt32) (send : Nat → Http.Outgoing → Http.Outcome) :
    o.tick? draw send = none ↔ largestPick < o.perTick.toNat := by
  simp only [Options.tick?, pickHosts?, Option.map_eq_none_iff, ite_eq_right_iff, reduceCtorEq, imp_false,
    Nat.not_le]

/-- What becomes of each heartbeat of a tick: the request for its host is sent, and the outcome is read. -/
theorem tick?_eq_some {o : Options} {draw : Nat → UInt32} {send : Nat → Http.Outgoing → Http.Outcome}
    {results : List (String × Except SendFault Reply)} (sent : o.tick? draw send = some results) :
    results.length = o.perTick.toNat ∧ ∀ i < o.perTick.toNat,
      results[i]? = some (hostAddress (draw i), readReply (send i (heartbeatRequest (o.request (draw i))))) := by
  obtain ⟨picks, picked, rfl⟩ := Option.map_eq_some_iff.mp sent
  obtain ⟨-, drawn⟩ := Option.ite_none_right_eq_some.mp picked
  obtain rfl := Option.some.inj drawn
  refine ⟨by simp [sendTick, tickRequests, addresses], fun i before => ?_⟩
  have request : (tickRequests ((List.range o.perTick.toNat).map draw) o.intervalSecs)[i]? =
      some (o.request (draw i)) := by
    simp [tickRequests, addresses, before, Options.request]
  rw [sendTick, List.getElem?_mapIdx, request]
  rfl

/-- **The daemon accepts what the simulator sends.** A tick sends as many requests as it should, one for each
host that was drawn, and tells what became of each; only one with more hosts than a list can hold sends none.
A request has the interval as its duration, or the largest duration there is. A topic with room takes any of
them, at any time, for a signal of that host, also over HTTP; the answer is read as it was given; and what
becomes of a request depends on nothing but what it met itself. -/
theorem ticks_are_accepted (o : Options) (draw : Nat → UInt32) :
    (∀ send, o.tick? draw send = none ↔ largestPick < o.perTick.toNat) ∧
    (reportedDuration o.intervalSecs).toInt = (min o.intervalSecs.toNat 9223372036854775807 : Nat) ∧
    (∀ n,
      (∀ now topic, topic.HasRoom →
        Api.Takes ⟨hostAddress n, now, reportedDuration o.intervalSecs⟩ topic
          (Api.intake now (encode (o.request n).render) topic)) ∧
      ∀ s : Services, s.topic.HasRoom → ∃ topic,
        Api.Takes ⟨hostAddress n, Int64.ofInt (s.clock s.readings).unixMillis,
          reportedDuration o.intervalSecs⟩ s.topic (Api.reply 200 "OK", topic) ∧
        carry (heartbeatRequest (o.request n)) s =
          (.replied 200 (encode (Api.reply 200 "OK").render), { s.readClock.2 with topic })) ∧
    readReply (.replied 200 (encode (Api.reply 200 "OK").render)) = .ok (Api.reply 200 "OK") ∧
    ∀ send results, o.tick? draw send = some results →
      results.length = o.perTick.toNat ∧
      (∀ i < o.perTick.toNat, results[i]? =
        some (hostAddress (draw i), readReply (send i (heartbeatRequest (o.request (draw i)))))) ∧
      (∀ i < o.perTick.toNat, ∀ s : Services, s.topic.HasRoom →
        (∀ outgoing, send i outgoing = (carry outgoing s).1) →
        results[i]? = some (hostAddress (draw i), .ok (Api.reply 200 "OK"))) ∧
      ∀ send' results', o.tick? draw send' = some results' → ∀ i, send i = send' i →
        results[i]? = results'[i]? := by
  have answer := readReply_render (Api.reply 200 "OK") (by decide)
  refine ⟨fun send => tick?_eq_none_iff o draw send, toInt_reportedDuration _, fun n => ⟨?_, ?_⟩, answer,
    fun send results sent => ?_⟩
  · exact fun now topic room => Api.takes_of_room (trimmed_hostAddress n) now room
  · exact fun s room => carry_request o n room
  · obtain ⟨count, each⟩ := tick?_eq_some sent
    refine ⟨count, each, fun i before s room met => ?_, fun send' results' sent' i same => ?_⟩
    · obtain ⟨topic, -, carried⟩ := carry_request o (draw i) room
      rw [each i before, met, carried]
      exact congrArg (fun result => some (hostAddress (draw i), result)) answer
    · obtain ⟨count', each'⟩ := tick?_eq_some sent'
      by_cases before : i < o.perTick.toNat
      · rw [each i before, each' i before, same]
      · rw [List.getElem?_eq_none (by omega), List.getElem?_eq_none (by omega)]

/-- Two heartbeats to a tick, and an interval beyond the largest duration. -/
def rare : Options := { perTick := 2, intervalSecs := 18446744073709551615 }

/-- The first heartbeat of a tick is lost, and the second one, of the 255th host, is taken. -/
theorem second_heartbeat_is_accepted :
    Api.Takes ⟨"192.168.2.1", 7, Int64.maxValue⟩ ⟨"signals", 1, [], 1, true, false⟩
      (Api.intake 7 (encode (rare.request 255).render) ⟨"signals", 1, [], 1, true, false⟩) ∧
    ∃ results, rare.tick? (fun i => .ofNat (254 + i))
        (fun i outgoing => if i = 0 then .unreachable else (carry outgoing .plain).1) = some results ∧
      results[0]? = some ("192.168.1.254", .error .unsent) ∧
      results[1]? = some ("192.168.2.1", .ok (Api.reply 200 "OK")) := by
  have first : hostAddress 254 = "192.168.1.254" := by decide +kernel
  have second : hostAddress 255 = "192.168.2.1" := by decide +kernel
  have longest : reportedDuration 18446744073709551615 = Int64.maxValue := by decide +kernel
  obtain ⟨sends, -, taken, -, results⟩ := ticks_are_accepted rare fun i => .ofNat (254 + i)
  refine ⟨?_, ?_⟩
  · rw [← second, ← longest]
    exact (taken 255).1 7 ⟨"signals", 1, [], 1, true, false⟩ ⟨rfl, .inr Nat.one_pos⟩
  · have picked := mt (sends fun i outgoing => if i = 0 then .unreachable else (carry outgoing .plain).1).mp
      (by decide)
    obtain ⟨found, sent⟩ := Option.ne_none_iff_exists'.mp picked
    obtain ⟨-, each, met, -⟩ := results _ found sent
    refine ⟨found, sent, ?_, ?_⟩
    · rw [← first]
      exact each 0 (by decide)
    · rw [← second]
      exact met 1 (by decide) .plain ⟨rfl, .inr Nat.two_pos⟩ fun _ => rfl

/-- As many heartbeats to a tick as can be said. -/
def flood : Options := { perTick := 18446744073709551615 }

/-- No request is sent in a tick that should send the most of them. -/
theorem flood_sends_nothing : ¬ ∀ (o : Options) (draw : Nat → UInt32) (send : Nat → Http.Outgoing → Http.Outcome),
    ∃ results, o.tick? draw send = some results ∧ results.length = o.perTick.toNat := by
  intro claim
  obtain ⟨results, sent, -⟩ := claim flood (fun _ => 1) fun _ _ => .unreachable
  have none : flood.tick? (fun _ => 1) (fun _ _ => .unreachable) = none :=
    (tick?_eq_none_iff flood _ _).mpr (by decide)
  cases none.symm.trans sent

end Sim
end Heartbeat
