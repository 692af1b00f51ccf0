import DocSieve.Proofs.Generator.Schedule
import Mathlib

/-!
# The stream of requests

A workload and a stream of random words fix the stream of all requests: the one with the
number `n` is drawn where the one before it left off. Whatever the clock does and
whenever somebody receives, the pacer makes the first requests of this stream, and the
first ones of these are received: a request that was made and cannot be sent ends the
pacer, so no number and no word is ever skipped (`output_determined`).

The invariant ties the pacer to two numbers, those of the requests made and sent. They
are equal while it waits, and one apart while it sends.

Key definitions: `Workload.firsts`, `Pacer.Abreast`, `Pacer.Paced`.
Key theorems: `Pacer.Paced.advance`, `Pacer.output_determined`, `Pacer.closed_of_await`.
-/

namespace DocSieve

namespace Workload

variable (w : Workload) (words : WordStream)

/-- The position in the stream of random words after the first `n` requests. -/
def positionAfter : Nat → Nat
  | 0 => 0
  | n + 1 => (w.request words (positionAfter n) (UInt64.ofNat n)).2

/-- The request with the number `n`. -/
def nth (n : Nat) : Request := (w.request words (w.positionAfter words n) (UInt64.ofNat n)).1

/-- The first `n` requests. -/
def firsts (n : Nat) : List Request := (List.range n).map (w.nth words)

@[simp] theorem length_firsts (n : Nat) : (w.firsts words n).length = n := by simp [firsts]

theorem firsts_succ (n : Nat) : w.firsts words (n + 1) = w.firsts words n ++ [w.nth words n] := by
  simp [firsts, List.range_succ]

variable {w words} in
theorem eq_firsts_of_prefix {l : List Request} {n : Nat} (first : l <+: w.firsts words n) :
    l = w.firsts words l.length := by
  have short := first.length_le
  rw [length_firsts] at short
  have taken := List.prefix_iff_eq_take.mp first
  rwa [firsts, ← List.map_take, List.take_range, min_eq_left short] at taken

end Workload

namespace Pacer

/-- How far the requests made are ahead of the ones sent. -/
def Abreast (w : Workload) (words : WordStream) (made sent : Nat) : PacerPhase → Prop
  | .starting => made = sent
  | .waiting => made = sent ∧ ∀ max, w.maxDocuments = some max → sent < max.toNat
  | .sending request => made = sent + 1 ∧ request = w.nth words sent
  | .stopped => sent ≤ made ∧ made ≤ sent + 1

theorem Abreast.near {w : Workload} {words : WordStream} {made sent : Nat} {phase : PacerPhase}
    (abreast : Abreast w words made sent phase) : sent ≤ made ∧ made ≤ sent + 1 := by
  cases phase with
  | starting =>
    have level : made = sent := abreast
    omega
  | waiting =>
    obtain ⟨level, -⟩ := abreast
    omega
  | sending =>
    obtain ⟨level, -⟩ := abreast
    omega
  | stopped => exact abreast

/-- What holds of a pacer that made some requests, of which some were sent and some were
received, whatever it is doing. -/
structure Ledger (w : Workload) (words : WordStream) (slots : Nat) (made received : List Request)
    (sent : Nat) (p : Pacer) : Prop where
  asks : p.workload = w
  draws : p.words = words
  capacity : p.output.capacity = slots
  fits : p.output.items.length ≤ slots
  /-- Only the pacer sends, and only one receives. -/
  senders : p.output.senders ≤ 1
  receivers : p.output.receivers ≤ 1
  counter : p.counter = UInt64.ofNat sent
  position : p.position = w.positionAfter words made.length
  drawn : made = w.firsts words made.length
  carries : p.output.Carries (w.firsts words sent) received
  requests : p.tally.requests.toNat = made.length % 2 ^ 64
  bytes : p.tally.bytes.toNat = (made.map (·.size.toNat)).sum % 2 ^ 64
  limit : ∀ max, w.maxDocuments = some max → made.length ≤ max.toNat

/-- What holds of a pacer after a run. -/
structure Paced (w : Workload) (words : WordStream) (slots : Nat) (made received : List Request)
    (sent : Nat) (p : Pacer) : Prop extends Ledger w words slots made received sent p where
  abreast : Abreast w words made.length sent p.phase
  sender : p.output.hasSender = false ↔ p.phase = .stopped
  /-- Why the pacer has stopped. -/
  reason : p.phase = .stopped → p.cancelled = true ∨ p.output.hasReceiver = false ∨
    ∃ max, w.maxDocuments = some max ∧ sent = max.toNat

variable {w : Workload} {words : WordStream} {slots sent : Nat} {made received : List Request}
  {p q : Pacer}

theorem complete_iff (p : Pacer) :
    p.complete = true ↔ ∃ max, p.workload.maxDocuments = some max ∧ max ≤ p.counter := by
  unfold complete
  cases p.workload.maxDocuments <;> simp

namespace Ledger

theorem complete_iff (ledger : Ledger w words slots made received sent p)
    (abreast : made.length = sent) :
    p.complete = true ↔ ∃ max, w.maxDocuments = some max ∧ sent = max.toNat := by
  rw [Pacer.complete_iff, ledger.asks]
  refine exists_congr fun max => and_congr_right fun limited => ?_
  have within := ledger.limit max limited
  have small : sent < 2 ^ 64 := lt_of_le_of_lt (abreast ▸ within) max.toNat_lt
  rw [UInt64.le_iff_toNat_le, ledger.counter, UInt64.toNat_ofNat_of_lt' small]
  omega

/-- After each turn the pacer waits, or all requests were sent. -/
theorem next (ledger : Ledger w words slots made received sent p)
    (abreast : made.length = sent) (sender : p.output.hasSender = true) :
    Paced w words slots made received sent p.next := by
  have done := ledger.complete_iff abreast
  unfold Pacer.next
  split
  · rename_i complete
    exact { ledger with
      carries := ledger.carries.dropSender
      abreast := by
        show sent ≤ _ ∧ _
        omega
      senders := (Nat.sub_le _ _).trans ledger.senders
      sender := iff_of_true (Channel.hasSender_dropSender ledger.senders) rfl
      reason := fun _ => .inr (.inr (done.mp complete)) }
  · rename_i incomplete
    exact { ledger with
      abreast := by
        refine ⟨abreast, fun max limited => ?_⟩
        have within := ledger.limit max limited
        refine lt_of_le_of_ne (abreast ▸ within) fun same => ?_
        exact incomplete (done.mpr ⟨max, limited, same⟩)
      sender := by simp [sender]
      reason := fun stopped => by cases stopped }

end Ledger

namespace Paced

theorem hasSender (paced : Paced w words slots made received sent p) (phase : p.phase ≠ .stopped) :
    p.output.hasSender = true := by
  by_contra gone
  exact phase (paced.sender.mp (by simpa using gone))

/-- The request that a tick makes is the next one of the stream. -/
theorem fire (paced : Paced w words slots made received sent p) (phase : p.phase = .waiting) :
    Paced w words slots
      (made ++ [(p.workload.request p.words p.position p.counter).1]) received sent p.fire := by
  obtain ⟨level, more⟩ : made.length = sent ∧
      ∀ max, w.maxDocuments = some max → sent < max.toNat := by
    have abreast := paced.abreast
    rwa [phase] at abreast
  have drawn : p.workload.request p.words p.position p.counter =
      w.request words (w.positionAfter words sent) (UInt64.ofNat sent) := by
    rw [paced.asks, paced.draws, paced.position, paced.counter, level]
  have newest : (p.workload.request p.words p.position p.counter).1 = w.nth words sent :=
    congrArg Prod.fst drawn
  refine ⟨⟨paced.asks, paced.draws, paced.capacity, paced.fits, paced.senders, paced.receivers,
    paced.counter, ?_, ?_,
    paced.carries, ?_, ?_, fun max limited => ?_⟩, ?_, ?_, nofun⟩
  · show (p.workload.request p.words p.position p.counter).2 = _
    rw [drawn, List.length_append, List.length_singleton, level]
    rfl
  · rw [List.length_append, List.length_singleton, Workload.firsts_succ, ← paced.drawn, level,
      newest]
  · show (p.tally.requests + 1).toNat = _
    rw [UInt64.toNat_add, paced.requests, List.length_append, List.length_singleton]
    simp
  · show (p.tally.bytes + (p.workload.request p.words p.position p.counter).1.size).toNat = _
    rw [UInt64.toNat_add, paced.bytes, List.map_append, List.sum_append]
    simp
  · rw [List.length_append, List.length_singleton, level]
    exact more max limited
  · rw [List.length_append, List.length_singleton, level]
    exact ⟨rfl, newest⟩
  · have sender := paced.hasSender (by simp [phase])
    simp [Pacer.fire, sender]

theorem send (paced : Paced w words slots made received sent p) {request : Request}
    (phase : p.phase = .sending request) (receiver : p.output.hasReceiver = true)
    (room : p.output.hasRoom = true) :
    Paced w words slots made received (sent + 1) (p.sent request) := by
  obtain ⟨level, newest⟩ : made.length = sent + 1 ∧ request = w.nth words sent := by
    have abreast := paced.abreast
    rwa [phase] at abreast
  have sender := paced.hasSender (by simp [phase])
  refine Ledger.next ?_ level sender
  exact { paced.toLedger with
    fits := by
      have free : p.output.items.length < p.output.capacity := of_decide_eq_true room
      rw [paced.capacity] at free
      simpa [Channel.push] using Nat.succ_le_of_lt free
    counter := by
      show p.counter + 1 = _
      rw [paced.counter, UInt64.ofNat_add]
      rfl
    carries := by
      rw [Workload.firsts_succ, ← newest]
      exact paced.carries.push receiver request }

theorem quiet (paced : Paced w words slots made received sent p) :
    ∃ sent', Paced w words slots (made ++ Occurrence.quiet.made?.toList)
      (received ++ Occurrence.quiet.received?.toList) sent' p :=
  ⟨sent, by simpa [Occurrence.made?, Occurrence.received?] using paced⟩

/-- **Each step keeps pacer and stream together.** -/
theorem advance (paced : Paced w words slots made received sent p) {step : Step} {o : Occurrence}
    (n : Next p step o q) : ∃ sent', Paced w words slots (made ++ o.made?.toList)
      (received ++ o.received?.toList) sent' q := by
  have abreast := paced.abreast
  cases n with
  | start phase =>
    rw [phase] at abreast
    have ledger : Ledger w words slots made received sent { p with deadline := p.now } :=
      { paced.toLedger with }
    exact quiet (ledger.next abreast (paced.hasSender (by simp [phase])))
  | fire phase =>
    refine ⟨sent, ?_⟩
    show Paced w words slots (made ++ [_]) (received ++ []) sent p.fire
    rw [List.append_nil]
    exact paced.fire phase
  | send phase _ receiver room => exact quiet (paced.send phase receiver room)
  | stop phase =>
    have stops : p.cancelled = true ∨ p.output.hasReceiver = false := by
      rcases phase with ⟨-, cancelled⟩ | ⟨_, -, stops⟩
      · exact .inl cancelled
      · exact stops
    exact quiet { paced.toLedger with
      carries := paced.carries.dropSender
      abreast := abreast.near
      senders := (Nat.sub_le _ _).trans paced.senders
      sender := iff_of_true (Channel.hasSender_dropSender paced.senders) rfl
      reason := fun _ => stops.imp_right .inl }
  | pass => exact quiet { paced with }
  | take items =>
    refine ⟨sent, ?_⟩
    show Paced w words slots (made ++ []) (received ++ [_]) sent _
    rw [List.append_nil]
    exact { paced with
      fits := by
        have fits := paced.fits
        rw [items] at fits
        exact (Nat.le_succ _).trans fits
      carries := paced.carries.pop items }
  | miss none =>
    refine ⟨sent, ?_⟩
    show Paced w words slots (made ++ []) _ sent p
    rw [none, Option.toList_none, List.append_nil, List.append_nil]
    exact paced
  | cancel => exact quiet { paced with reason := fun _ => .inl rfl }
  | drop =>
    exact quiet { paced with
      fits := p.output.length_dropReceiver_le.trans paced.fits
      receivers := (Nat.sub_le _ _).trans paced.receivers
      carries := paced.carries.dropReceiver
      reason := fun _ => .inr (.inl (Channel.hasReceiver_dropReceiver paced.receivers)) }

/-- Who sees the channel closed has received all requests, or the pacer was cancelled. -/
theorem complete_of_closed (paced : Paced w words slots made received sent p)
    (closed : p.output.receive.2 = .closed) :
    p.cancelled = true ∨ ∃ max, w.maxDocuments = some max ∧ received.length = max.toNat := by
  obtain ⟨receiver, items, sender⟩ := Channel.receive_eq_closed.mp closed
  have whole := paced.carries.whole receiver
  rw [items, List.append_nil] at whole
  rcases paced.reason (paced.sender.mp sender) with cancelled | gone | ⟨max, limited, all⟩
  · exact .inl cancelled
  · rw [receiver] at gone
    cases gone
  · exact .inr ⟨max, limited, by rw [← whole, Workload.length_firsts, all]⟩

theorem lengths (paced : Paced w words slots made received sent p) :
    received.length ≤ sent ∧ sent ≤ made.length ∧ made.length ≤ sent + 1 := by
  have first := paced.carries.first.length_le
  rw [Workload.length_firsts] at first
  exact ⟨first, paced.abreast.near⟩

/-- As long as somebody receives, only so many requests are on their way. -/
theorem length_le (paced : Paced w words slots made received sent p)
    (receiver : p.output.hasReceiver = true) : made.length ≤ received.length + slots + 1 := by
  have whole := congrArg List.length (paced.carries.whole receiver)
  rw [Workload.length_firsts, List.length_append] at whole
  have fits := paced.fits
  have lengths := paced.lengths
  omega

end Paced

/-! ### Runs -/

variable {steps : List Step} {h : History}

theorem signals_of_replay (one : p.output.receivers ≤ 1) (run : replay steps p = some (q, h)) :
    (q.cancelled = true ↔ p.cancelled = true ∨ .cancel ∈ steps) ∧
    (q.output.hasReceiver = true ↔ p.output.hasReceiver = true ∧ .drop ∉ steps) := by
  refine (replayWith_invariant (P := fun steps _ q => q.output.receivers ≤ 1 ∧
    (q.cancelled = true ↔ p.cancelled = true ∨ .cancel ∈ steps) ∧
    (q.output.hasReceiver = true ↔ p.output.hasReceiver = true ∧ .drop ∉ steps))
    (b := []) (h := []) ?_ (by simpa using one) run).2
  rintro before h q step next o ⟨one, before_iff⟩ advance
  cases next_of_advance? advance with
  | start => exact ⟨by simpa using one, by simpa using before_iff⟩
  | fire => exact ⟨one, by simpa [fire] using before_iff⟩
  | send => exact ⟨by simpa [sent, Channel.push] using one, by simpa [sent] using before_iff⟩
  | stop => exact ⟨one, by simpa [stop] using before_iff⟩
  | cancel => exact ⟨one, by simpa using before_iff.2⟩
  | drop =>
    refine ⟨(Nat.sub_le _ _).trans one, ?_⟩
    simpa [Channel.hasReceiver_dropReceiver one] using before_iff.1
  | take => exact ⟨one, by simpa using! before_iff⟩
  | _ => exact ⟨one, by simpa using before_iff⟩

theorem made_of_cancelled (cancelled : p.cancelled = true) (run : replay steps p = some (q, h)) :
    h.made = [] := by
  refine (replayWith_invariant (P := fun _ h q => q.cancelled = true ∧ History.made h = [])
    (b := []) (h := []) ?_ ⟨cancelled, rfl⟩ run).2
  rintro before h q step next o ⟨cancelled, none⟩ advance
  rw [History.made_concat, none]
  cases next_of_advance? advance with
  | fire _ running =>
    rw [running] at cancelled
    cases cancelled
  | start => exact ⟨by simpa using cancelled, rfl⟩
  | send => exact ⟨by simpa [sent] using cancelled, rfl⟩
  | cancel => exact ⟨rfl, rfl⟩
  | _ => exact ⟨cancelled, rfl⟩

/-- A pacer without a receiver makes one request at most: none once it sends one. -/
theorem made_of_no_receiver (gone : p.output.hasReceiver = false)
    (run : replay steps p = some (q, h)) : h.made.length ≤ 1 := by
  refine (replayWith_invariant (P := fun _ h q => q.output.hasReceiver = false ∧
      (q.phase = .starting ∨ q.phase = .waiting → History.made h = []) ∧
      (History.made h).length ≤ 1)
    (b := []) (h := []) ?_ ⟨gone, fun _ => rfl, Nat.zero_le _⟩ run).2.2
  rintro before h q step next o ⟨gone, none, most⟩ advance
  rw [History.made_concat]
  cases next_of_advance? advance with
  | start phase =>
    refine ⟨by simpa using gone, ?_⟩
    simpa [Occurrence.made?] using ⟨fun _ => none (.inl phase), most⟩
  | fire phase =>
    rw [none (.inr phase)]
    exact ⟨gone, by simp [fire, Occurrence.made?]⟩
  | send _ _ receiver =>
    rw [receiver] at gone
    cases gone
  | stop => exact ⟨gone, by simpa [stop, Occurrence.made?] using most⟩
  | drop =>
    exact ⟨Channel.no_receiver_dropReceiver gone, by simpa [Occurrence.made?] using ⟨none, most⟩⟩
  | _ => exact ⟨gone, by simpa [Occurrence.made?] using ⟨none, most⟩⟩

theorem own_of_replay (own : ∀ step ∈ steps, step.isOwn = true)
    (run : replay steps p = some (q, h)) :
    h.received = [] ∧ .cancel ∉ steps ∧ .drop ∉ steps := by
  refine ⟨?_, fun cancel => ?_, fun drop => ?_⟩
  · have none := replayWith_invariant (P := fun steps h _ =>
      (∀ step ∈ steps, step.isOwn = true) → History.received h = [])
      (b := []) (h := []) ?_ (fun _ => rfl) run
    · exact none own
    intro before h p step next o none advance own
    have none := none fun step mem => own step (List.mem_append_left _ mem)
    have own := own step (by simp)
    rw [History.received_concat, none]
    cases next_of_advance? advance <;> first | rfl | cases own
  · cases own _ cancel
  · cases own _ drop

/-- **Waiting for a request is a run** in which just that request is received. -/
theorem runs_await (p : Pacer) : ∃ steps h, replay steps p = some (p.await.1, h) ∧
    h.received = p.await.2.toList ∧ .cancel ∉ steps ∧ .drop ∉ steps := by
  obtain ⟨first, shown, run, own⟩ := reaches_ready p
  obtain ⟨none, cancel, drop⟩ := own_of_replay own run
  rcases await_cases p with ⟨request, rest, receiver, items, await⟩ | ⟨await, -⟩
  · have receives : replay [.receive] p.ready = some
        ({ p.ready with output := { p.ready.output with items := rest } },
          [.received (.value request)]) := by
      simp [replayWith, advance?, tryReceive, Channel.receive, receiver, items]
    obtain ⟨last, shown', run', own'⟩ :=
      reaches_settle { p.ready with output := { p.ready.output with items := rest } }
    obtain ⟨none', cancel', drop'⟩ := own_of_replay own' run'
    rw [await]
    refine ⟨first ++ ([.receive] ++ last), _,
      replayWith_append run (replayWith_append receives run'), ?_, by simp [cancel, cancel'],
      by simp [drop, drop']⟩
    rw [History.received_append, History.received_append, none, none']
    rfl
  · rw [await]
    exact ⟨first, shown, run, none, cancel, drop⟩

variable {p₀ : Pacer}

/-- The slots that a pacer gets which asks for some. -/
def slotsFor (slots : Nat) : Nat := if slots = 0 then defaultSlots else slots

theorem eq_of_start (started : start w words slots = .ok p) :
    p = ⟨w, words, 0, 0, 0, 0, .starting, .new (slotsFor slots) 1 1, false, .zero⟩ := by
  change (if slotsFor slots ≤ maxSlots then pure _ else throw Fault.oversize) = Except.ok p
    at started
  split at started
  · cases started
    rfl
  · cases started

theorem paced_of_start (started : start w words slots = .ok p) :
    Paced w words (slotsFor slots) [] [] 0 p := by
  cases eq_of_start started
  exact {
    asks := rfl
    draws := rfl
    capacity := rfl
    fits := Nat.zero_le _
    counter := rfl
    position := rfl
    drawn := rfl
    senders := le_rfl
    receivers := le_rfl
    carries := Channel.carries_new _ _ _
    requests := rfl
    bytes := rfl
    limit := fun _ _ => Nat.zero_le _
    abreast := rfl
    sender := by simp [Channel.new, Channel.hasSender]
    reason := nofun }

theorem paced_of_replay (started : start w words slots = .ok p₀)
    (run : replay steps p₀ = some (p, h)) :
    ∃ sent, Paced w words (slotsFor slots) h.made h.received sent p := by
  refine replayWith_invariant (P := fun _ h p =>
    ∃ sent, Paced w words (slotsFor slots) (History.made h) (History.received h) sent p)
    (b := []) (h := []) ?_ ⟨0, paced_of_start started⟩ run
  rintro before h p step next o ⟨sent, paced⟩ advance
  rw [History.made_concat, History.received_concat]
  exact paced.advance (next_of_advance? advance)

theorem signals_of_start (started : start w words slots = .ok p₀)
    (run : replay steps p₀ = some (p, h)) :
    (p.cancelled = true ↔ .cancel ∈ steps) ∧ (p.output.hasReceiver = true ↔ .drop ∉ steps) := by
  cases eq_of_start started
  simpa [Channel.new, Channel.hasReceiver] using signals_of_replay le_rfl run

/-- **The output of the pacer does not depend on timing.** In every run the requests made
and the requests received are the first ones of the same stream, no more than the limit;
those on their way fit into the channel and one hand. The tally is that of the requests
made, modulo 2^64. The channel is seen closed only after cancellation, or when as many
requests were received as should be made. A pacer that was cancelled makes no request any
more, one whose receiver was dropped at most one. -/
theorem output_determined (started : start w words slots = .ok p₀)
    (run : replay steps p₀ = some (p, h)) :
    h.made = w.firsts words h.made.length ∧
    h.received = w.firsts words h.received.length ∧
    h.received.length ≤ h.made.length ∧
    (∀ max, w.maxDocuments = some max → h.made.length ≤ max.toNat) ∧
    (.drop ∉ steps →
      h.made.length ≤ h.received.length + (if slots = 0 then 100 else slots) + 1) ∧
    p.tally.requests.toNat = h.made.length % 2 ^ 64 ∧
    p.tally.bytes.toNat = (h.made.map (·.size.toNat)).sum % 2 ^ 64 ∧
    (p.tryReceive.2 = .closed → .cancel ∈ steps ∨
      ∃ max, w.maxDocuments = some max ∧ h.received.length = max.toNat) ∧
    ∀ {later q t}, replay later p = some (q, t) →
      (.cancel ∈ steps → t.made = []) ∧ (.drop ∈ steps → t.made.length ≤ 1) := by
  obtain ⟨sent, paced⟩ := paced_of_replay started run
  obtain ⟨cancelled_iff, receiver_iff⟩ := signals_of_start started run
  have lengths := paced.lengths
  refine ⟨paced.drawn, Workload.eq_firsts_of_prefix paced.carries.first, by omega, paced.limit,
    fun alive => paced.length_le (receiver_iff.mpr alive), paced.requests, paced.bytes,
    fun closed => ?_, fun more => ⟨fun cancel => ?_, fun drop => ?_⟩⟩
  · exact (paced.complete_of_closed closed).imp_left cancelled_iff.mp
  · exact made_of_cancelled (cancelled_iff.mpr cancel) more
  · refine made_of_no_receiver ?_ more
    by_contra alive
    exact receiver_iff.mp (by simpa using alive) drop

/-- Two windows of a file of one byte, a millisecond apart. -/
def pairWorkload : Workload := ⟨1, 1, "doc", 1000, "file", 1, some 2⟩

/-- The second request is made before the first one is received, and sent only afterwards. -/
def pairSteps : List Step := [.go, .go, .go, .pass 1000000, .go, .receive, .go, .receive]

theorem output_determined_pair :
    ∃ p₀ p h, start pairWorkload (fun _ => 0) 1 = .ok p₀ ∧ replay pairSteps p₀ = some (p, h) ∧
      h.received = pairWorkload.firsts (fun _ => 0) 2 ∧
      p.tally.requests.toNat = h.made.length % 2 ^ 64 ∧ p.tryReceive.2 = .closed ∧
      ∃ max, pairWorkload.maxDocuments = some max ∧ h.received.length = max.toNat := by
  obtain ⟨-, received, -, -, -, requests, -, closed, -⟩ :=
    output_determined (rfl : start pairWorkload (fun _ => 0) 1 = .ok _)
      (rfl : replay pairSteps _ = some (_, _))
  exact ⟨_, _, _, rfl, rfl, received, requests, rfl, (closed rfl).resolve_left (by decide)⟩

/-- **Who waits in vain for a request has received all**, or the pacer was cancelled. -/
theorem closed_of_await (started : start w words slots = .ok p₀)
    (run : replay steps p₀ = some (p, h)) (alive : .drop ∉ steps) (none : p.await.2 = none) :
    p.await.1.tryReceive.2 = .closed ∧ (.cancel ∈ steps ∨
      ∃ max, w.maxDocuments = some max ∧ h.received.length = max.toNat) := by
  rcases await_cases p with ⟨request, rest, -, -, await⟩ | ⟨await, refused⟩
  · rw [await] at none
    cases none
  obtain ⟨own, shown, runs, isOwn⟩ := reaches_ready p
  obtain ⟨missed, cancel, drop⟩ := own_of_replay isOwn runs
  obtain ⟨_, before⟩ := paced_of_replay started run
  have alive_before := (signals_of_start started run).2.mpr alive
  have whole := replayWith_append run runs
  obtain ⟨sent, paced⟩ := paced_of_replay started whole
  obtain ⟨cancelled_iff, receiver_iff⟩ := signals_of_start started whole
  have receiver := receiver_iff.mpr (by simp [alive, drop])
  have room : 0 < p.output.capacity := by
    rw [before.capacity]
    unfold slotsFor defaultSlots
    split <;> omega
  have items : p.ready.output.items = [] := by
    cases items : p.ready.output.items with
    | nil => rfl
    | cons request rest =>
      refine absurd ?_ (refused request)
      simp [Channel.receive, receiver, items]
  have stopped := (ready_cases room alive_before).resolve_left (not_not.mpr items)
  have closed := Channel.receive_eq_closed.mpr ⟨receiver, items, paced.sender.mpr stopped⟩
  rw [await]
  refine ⟨closed, ?_⟩
  have complete := paced.complete_of_closed closed
  rw [History.received_append, missed, List.append_nil] at complete
  refine complete.imp_left fun cancelled => ?_
  simpa [cancel] using cancelled_iff.mp cancelled

end Pacer

end DocSieve
