import DocSieve.Metrics.Snapshot
import DocSieve.Proofs.Metrics.Board
import DocSieve.Proofs.Metrics.Latency

/-!
# The recorder counts what happened

What a recorder shows after a sequence of events is said by the sequence itself. The
counts of a stage come from the events about this stage alone
(`Recorder.stats_ofEvents`), each latency lies in the one bucket between whose bounds it
is (`latencyBucket_eq_iff`), and the names on the board are those that were mentioned
(`Recorder.mem_names_ofEvents`). Each of these is carried from a sequence to the same
with one event more. None depends on the order of the events, but the sum of the
latencies, which is rounded along the way, and the threshold, which is the last one set.

Key definitions: `Recorder.ofEvents`, `StageStats.ofEvents`, `InBucket`,
`StageSnapshot.Counts`, `Snapshot.countsOnly`.
Key theorems: `Recorder.stats_ofEvents`, `latencyBucket_eq_iff`,
`Recorder.countsOnly_of_perm`, `Recorder.counts_whatever_order`.
-/

namespace DocSieve

/-! ### What an event says -/

namespace Event

def stage? : Event → Option String
  | .processed stage | .failed stage | .latency stage _ => some stage
  | _ => none

def takes (stage : String) : Event → Bool
  | .processed other => other == stage
  | _ => false

def fails (stage : String) : Event → Bool
  | .failed other => other == stage
  | _ => false

/-- The latency of an item that the stage delivered. -/
def latency? (stage : String) : Event → Option Float
  | .latency other ms => if other = stage then some ms else none
  | _ => none

def threshold? : Event → Option Float32
  | .threshold value => some value
  | _ => none

def requestCount : Event → Nat
  | .requests n => n.toNat
  | _ => 0

def byteCount : Event → Nat
  | .bytes n => n.toNat
  | _ => 0

def isDocument : Event → Bool
  | .document => true
  | _ => false

def isDuplicate : Event → Bool
  | .duplicate => true
  | _ => false

/-- A latency is that of a duration. -/
def Measured (e : Event) : Prop :=
  ∀ stage ms, e = .latency stage ms →
    ∃ seconds nanoseconds, latencyMs? seconds nanoseconds = some ms

/-- What the event changes in the counts of its stage. -/
def change : Event → StageStats → StageStats
  | .processed _ => StageStats.take
  | .failed _ => StageStats.fail
  | .latency _ ms => (StageStats.deliver · ms)
  | _ => id

end Event

/-- The latencies of the items that a stage delivered. -/
def latencies (stage : String) (events : List Event) : List Float :=
  events.filterMap (Event.latency? stage)

/-- The counts of a stage that events come to. -/
def StageStats.ofEvents (stage : String) (events : List Event) : StageStats where
  processed := events.countP (Event.takes stage)
  errors := events.countP (Event.fails stage)
  delivered := (latencies stage events).length
  latencySum := (latencies stage events).foldl (· + ·) 0.0
  buckets := (List.range (latencyBounds.length + 1)).map fun i =>
    (latencies stage events).countP (latencyBucket · == i)

/-- The recorder after events, from nothing. -/
def Recorder.ofEvents (events : List Event) : Recorder := events.foldl record empty

open Event

variable {events : List Event} {e : Event} {stage : String}

/-! ### One event more -/

theorem Recorder.ofEvents_concat : ofEvents (events ++ [e]) = (ofEvents events).record e :=
  List.foldl_concat ..

theorem Recorder.board_record (r : Recorder) :
    (r.record e).board = match e.stage? with
      | some stage => r.board.update stage e.change
      | none => r.board := by
  cases e <;> rfl

theorem modify_map_range (f : Nat → Nat) (n i : Nat) :
    ((List.range n).map f).modify i (· + 1)
      = (List.range n).map fun k => f k + if i = k then 1 else 0 := by
  refine List.ext_getElem (by simp) fun k hk hk' => ?_
  simp only [List.getElem_modify, List.getElem_map, List.getElem_range]
  split <;> rfl

theorem latencies_concat :
    latencies stage (events ++ [e]) = latencies stage events ++ (e.latency? stage).toList := by
  rw [latencies, List.filterMap_append, List.filterMap_cons, List.filterMap_nil]
  cases e.latency? stage <;> rfl

/-- An event changes the counts of its own stage and of no other. -/
theorem StageStats.ofEvents_concat : ofEvents stage (events ++ [e])
    = if e.stage? = some stage then e.change (ofEvents stage events)
      else ofEvents stage events := by
  unfold ofEvents
  rw [latencies_concat]
  cases e with
  | processed other | failed other =>
    by_cases same : other = stage <;>
      simp [takes, fails, latency?, stage?, change, take, fail, same]
  | latency other ms =>
    by_cases same : other = stage <;>
      simp [takes, fails, latency?, stage?, change, deliver, same, modify_map_range]
  | _ => simp [takes, fails, latency?, stage?]

theorem Recorder.ascending_ofEvents (events : List Event) : (ofEvents events).board.Ascending := by
  induction events using List.reverseRecOn with
  | nil => exact Board.ascending_nil
  | append_singleton events e ih =>
    rw [ofEvents_concat, board_record]
    split
    · exact ih.update _ _
    · exact ih

/-- **The board says of each stage what the events come to.** -/
theorem Recorder.stats_ofEvents (events : List Event) (stage : String) :
    (ofEvents events).board.stats stage = .ofEvents stage events := by
  induction events using List.reverseRecOn with
  | nil => rfl
  | append_singleton events e ih =>
    rw [ofEvents_concat, board_record, StageStats.ofEvents_concat, ← ih]
    cases e.stage? with
    | none => rfl
    | some other =>
      rw [Board.stats_update (ascending_ofEvents events)]
      simp only [Option.some.injEq, eq_comm]

/-! ### The names on the board -/

namespace Board

variable {board : Board} {name other : String}

theorem mem_names_update {change : StageStats → StageStats} :
    other ∈ (board.update name change).map Prod.fst
      ↔ other = name ∨ other ∈ board.map Prod.fst := by
  induction board with
  | nil => simp [update]
  | cons head rest ih =>
    obtain ⟨first, stats⟩ := head
    unfold update
    split_ifs with same less
    · simp [same]
    · simp
    · simp only [List.map_cons, List.mem_cons, ih]
      tauto

theorem Ascending.stats_of_mem (h : board.Ascending) {stats : StageStats}
    (mem : (name, stats) ∈ board) : board.stats name = stats := by
  induction board with
  | nil => cases mem
  | cons head rest ih =>
    obtain ⟨before, ascending⟩ := List.pairwise_cons.mp h
    rw [stats_cons]
    rcases List.mem_cons.mp mem with rfl | mem
    · exact if_pos rfl
    · rw [if_neg (before _ mem).ne', ih ascending mem]

/-- A board is told by its names and by what it says of each. -/
theorem Ascending.eq_map (h : board.Ascending) :
    board = (board.map Prod.fst).map fun name => (name, board.stats name) := by
  rw [List.map_map, List.map_congr_left (g := id) fun entry mem => ?_, List.map_id]
  exact Prod.ext rfl (h.stats_of_mem mem)

end Board

/-- **The stages on the board are those that events are about.** -/
theorem Recorder.mem_names_ofEvents :
    stage ∈ (ofEvents events).board.map Prod.fst ↔ ∃ e ∈ events, e.stage? = some stage := by
  induction events using List.reverseRecOn with
  | nil => simp [ofEvents, empty]
  | append_singleton events e ih =>
    simp only [List.mem_append, List.mem_singleton, or_and_right, exists_or, exists_eq_left]
    rw [ofEvents_concat, board_record, ← ih]
    cases e.stage? with
    | none => simp
    | some other =>
      dsimp only
      rw [Board.mem_names_update, Option.some.injEq, or_comm, eq_comm]

/-! ### Buckets -/

/-- A latency belongs to the bucket: it is above every bound before, and at most the
bound of the bucket, unless this is the last one. -/
def InBucket (i : Nat) (ms : Float) : Prop :=
  (∀ bound ∈ latencyBounds.take i, bound < ms) ∧ ∀ bound ∈ latencyBounds[i]?, ms ≤ bound

instance (i : Nat) (ms : Float) : Decidable (InBucket i ms) := by
  unfold InBucket
  infer_instance

theorem isNaN_latencyBounds : ∀ bound ∈ latencyBounds, bound.isNaN = false := by
  decide

theorem latencyBucket_lt (ms : Float) : latencyBucket ms < latencyBounds.length + 1 :=
  Nat.lt_succ_of_le List.findIdx_le_length

theorem latencyBucket_eq_iff {i : Nat} {ms : Float} (number : ms.isNaN = false)
    (h : i < latencyBounds.length + 1) : latencyBucket ms = i ↔ InBucket i ms := by
  have above {bound : Float} (mem : bound ∈ latencyBounds) :
      decide (ms ≤ bound) = false ↔ bound < ms := by
    rw [decide_eq_false_iff_not]
    exact ⟨Double.lt_of_not_le (isNaN_latencyBounds bound mem) number, Double.not_le_of_lt⟩
  have before : (∀ bound ∈ latencyBounds.take i, bound < ms)
      ↔ ∀ bound ∈ latencyBounds.take i, decide (ms ≤ bound) = false :=
    forall₂_congr fun bound mem => (above (List.mem_of_mem_take mem)).symm
  unfold latencyBucket InBucket
  rw [before]
  rcases Nat.lt_succ_iff_lt_or_eq.mp h with inside | rfl
  · rw [List.findIdx_eq inside, and_comm, List.getElem?_eq_getElem inside]
    simp only [List.forall_mem_iff_getElem, List.length_take, List.getElem_take, lt_min_iff,
      Option.mem_some_iff, forall_eq', decide_eq_true_iff]
    refine and_congr_left' ⟨fun all j lt => all j lt.1, fun all j lt => all j ⟨lt, ?_⟩⟩
    exact lt.trans inside
  · rw [List.findIdx_eq_length, List.take_length, List.getElem?_eq_none le_rfl]
    simp

/-- Each of a list is counted once. -/
theorem sum_countP_range {α : Type} (f : α → Nat) {n : Nat} {l : List α} (h : ∀ a ∈ l, f a < n) :
    ((List.range n).map fun k => l.countP (f · == k)).sum = l.length := by
  induction l with
  | nil => simp
  | cons a l ih =>
    have one : ((List.range n).map fun k => if (f a == k) = true then 1 else 0).sum = 1 := by
      change ∑ k ∈ Finset.range n, _ = 1
      simp [h a List.mem_cons_self]
    simp only [List.countP_cons, List.length_cons]
    rw [List.sum_map_add, ih fun b mem => h b (List.mem_cons_of_mem a mem), one]

/-! ### Snapshots -/

/-- The snapshot of a stage shows how many items it took, dropped and delivered, and in
which buckets the latencies of the last lie. -/
structure StageSnapshot.Counts (s : StageSnapshot) (stage : String) (events : List Event) :
    Prop where
  processed : s.processed.toNat = events.countP (takes stage)
  errors : s.errors.toNat = events.countP (fails stage)
  delivered : s.delivered.toNat = (latencies stage events).length
  buckets_length : s.latencyBuckets.length = 17
  buckets_sum : (s.latencyBuckets.map UInt64.toNat).sum = s.delivered.toNat
  bucket : ∀ (i : Nat) (h : i < s.latencyBuckets.length),
    s.latencyBuckets[i].toNat = (latencies stage events).countP (InBucket i ·)

/-- The counts without their mean. -/
def StageSnapshot.withoutMean (s : StageSnapshot) : StageSnapshot := { s with meanLatencyMs := 0.0 }

/-- The counts without the means and the threshold. -/
def Snapshot.countsOnly (s : Snapshot) : Snapshot :=
  { s with
    stages := s.stages.map fun entry => (entry.1, entry.2.withoutMean)
    threshold := 0.0 }

theorem isNaN_of_mem_latencies (measured : ∀ e ∈ events, e.Measured) :
    ∀ ms ∈ latencies stage events, ms.isNaN = false := by
  intro ms mem
  obtain ⟨e, mem, found⟩ := List.mem_filterMap.mp mem
  cases e with
  | latency other ms' =>
    obtain ⟨seconds, nanoseconds, duration⟩ := measured _ mem _ _ rfl
    by_cases same : other = stage
    · obtain rfl : ms' = ms := by simpa [latency?, same] using found
      exact isNaN_latencyMs? duration
    · simp [latency?, same] at found
  | _ => cases found

theorem countP_le_about {p : Event → Bool} (about : ∀ e, p e = true → e.stage? = some stage) :
    events.countP p ≤ events.countP (·.stage? == some stage) :=
  List.countP_mono_left fun e _ h => by simpa using about e h

theorem takes_about (e : Event) (h : e.takes stage = true) : e.stage? = some stage := by
  cases e <;> simp_all [takes, stage?]

theorem fails_about (e : Event) (h : e.fails stage = true) : e.stage? = some stage := by
  cases e <;> simp_all [fails, stage?]

theorem latency?_about (e : Event) (h : (e.latency? stage).isSome = true) :
    e.stage? = some stage := by
  cases e <;> simp_all [latency?, stage?]

/-- **The snapshot of a stage counts its events.** -/
theorem StageStats.counts_ofEvents (measured : ∀ e ∈ events, e.Measured)
    (few : events.countP (·.stage? == some stage) < 2 ^ 64) :
    (ofEvents stage events).snapshot.Counts stage events := by
  have fits {n : Nat} (h : n ≤ events.countP (·.stage? == some stage)) :
      (UInt64.ofNat n).toNat = n := UInt64.toNat_ofNat_of_lt' (h.trans_lt few)
  have delivered : (latencies stage events).length ≤ events.countP (·.stage? == some stage) := by
    rw [latencies, List.length_filterMap_eq_countP]
    exact countP_le_about latency?_about
  have bucket {p : Float → Bool} : (UInt64.ofNat ((latencies stage events).countP p)).toNat
      = (latencies stage events).countP p :=
    fits (List.countP_le_length.trans delivered)
  refine ⟨fits (countP_le_about takes_about), fits (countP_le_about fails_about), fits delivered,
    by simp [StageStats.snapshot, ofEvents, latencyBounds], ?_, fun i h => ?_⟩
  · have total := sum_countP_range latencyBucket (l := latencies stage events)
      fun ms _ => latencyBucket_lt ms
    simp only [StageStats.snapshot, ofEvents, List.map_map, Function.comp_def, bucket, total,
      fits delivered]
  · simp only [StageStats.snapshot, ofEvents, List.getElem_map, List.getElem_range, bucket]
    refine List.countP_congr fun ms mem => ?_
    rw [beq_iff_eq, decide_eq_true_iff]
    refine latencyBucket_eq_iff (isNaN_of_mem_latencies measured ms mem) ?_
    simpa [StageStats.snapshot, ofEvents] using h

/-! ### Requests, documents and the threshold -/

theorem toNat_add_mod {a : UInt64} {n : Nat} (h : a.toNat = n % 2 ^ 64) (b : UInt64) :
    (a + b).toNat = (n + b.toNat) % 2 ^ 64 := by
  rw [UInt64.toNat_add, h, Nat.mod_add_mod]

theorem Recorder.load_ofEvents (events : List Event) :
    (ofEvents events).load.requests.toNat = (events.map requestCount).sum % 2 ^ 64 ∧
    (ofEvents events).load.bytes.toNat = (events.map byteCount).sum % 2 ^ 64 := by
  induction events using List.reverseRecOn with
  | nil => exact ⟨rfl, rfl⟩
  | append_singleton events e ih =>
    rw [ofEvents_concat]
    simp only [List.map_append, List.sum_append, List.map_singleton, List.sum_singleton]
    cases e with
    | requests n => exact ⟨toNat_add_mod ih.1 n, ih.2⟩
    | bytes n => exact ⟨ih.1, toNat_add_mod ih.2 n⟩
    | _ => exact ih

theorem Recorder.index_ofEvents (events : List Event) :
    (ofEvents events).index.documents.toNat = events.countP isDocument % 2 ^ 64 ∧
    (ofEvents events).index.duplicates.toNat = events.countP isDuplicate % 2 ^ 64 := by
  induction events using List.reverseRecOn with
  | nil => exact ⟨rfl, rfl⟩
  | append_singleton events e ih =>
    rw [ofEvents_concat]
    simp only [List.countP_append, List.countP_singleton]
    cases e with
    | document => exact ⟨toNat_add_mod ih.1 1, ih.2⟩
    | duplicate => exact ⟨ih.1, toNat_add_mod ih.2 1⟩
    | _ => exact ih

theorem Recorder.threshold_ofEvents (events : List Event) :
    (ofEvents events).index.threshold = (events.filterMap threshold?).getLast?.getD 0.0 := by
  induction events using List.reverseRecOn with
  | nil => rfl
  | append_singleton events e ih =>
    rw [ofEvents_concat, List.filterMap_append]
    cases e <;> simp [threshold?, record, IndexTally.submitted, IndexTally.repeated, ih]

/-! ### Events in any order -/

section Order

variable {events' : List Event}

theorem StageStats.withoutMean_of_perm (perm : events.Perm events') (stage : String) :
    (ofEvents stage events).snapshot.withoutMean
      = (ofEvents stage events').snapshot.withoutMean := by
  have latencies : (latencies stage events).Perm (latencies stage events') := perm.filterMap _
  simp only [StageStats.snapshot, StageSnapshot.withoutMean, ofEvents, perm.countP_eq,
    latencies.length_eq, latencies.countP_eq]

theorem Recorder.stages_ofEvents (events : List Event) : (ofEvents events).snapshot.stages
    = ((ofEvents events).board.map Prod.fst).map fun stage =>
        (stage, (StageStats.ofEvents stage events).snapshot) := by
  change (ofEvents events).board.snapshot = _
  rw [Board.snapshot, (ascending_ofEvents events).eq_map]
  simp only [List.map_map, Function.comp_def, stats_ofEvents]

/-- The order of the events decides on no count. -/
theorem Recorder.countsOnly_of_perm (perm : events.Perm events') :
    (ofEvents events).snapshot.countsOnly = (ofEvents events').snapshot.countsOnly := by
  have names : (ofEvents events).board.map Prod.fst = (ofEvents events').board.map Prod.fst := by
    refine List.Pairwise.eq_of_mem_iff (List.pairwise_map.mpr (ascending_ofEvents events))
      (List.pairwise_map.mpr (ascending_ofEvents events')) fun stage => ?_
    simp only [mem_names_ofEvents, perm.mem_iff]
  have stages : (ofEvents events).snapshot.countsOnly.stages
      = (ofEvents events').snapshot.countsOnly.stages := by
    simp only [Snapshot.countsOnly, stages_ofEvents, names, List.map_map, Function.comp_def,
      StageStats.withoutMean_of_perm perm]
  obtain ⟨requests, bytes⟩ := load_ofEvents events
  obtain ⟨documents, duplicates⟩ := index_ofEvents events
  rw [(perm.map _).sum_eq, ← (load_ofEvents events').1, UInt64.toNat_inj] at requests
  rw [(perm.map _).sum_eq, ← (load_ofEvents events').2, UInt64.toNat_inj] at bytes
  rw [perm.countP_eq, ← (index_ofEvents events').1, UInt64.toNat_inj] at documents
  rw [perm.countP_eq, ← (index_ofEvents events').2, UInt64.toNat_inj] at duplicates
  exact Snapshot.mk.injEq .. ▸ ⟨requests, bytes, stages, rfl, documents, duplicates⟩

end Order

/-- **The recorder counts what happened, whatever the order.** -/
theorem Recorder.counts_whatever_order {events : List Event}
    (measured : ∀ e ∈ events, e.Measured)
    (few : ∀ stage, events.countP (·.stage? == some stage) < 2 ^ 64) :
    let s := (ofEvents events).snapshot
    (s.stages.map Prod.fst).Pairwise (· < ·) ∧
    (∀ stage, stage ∈ s.stages.map Prod.fst ↔ ∃ e ∈ events, e.stage? = some stage) ∧
    (∀ entry ∈ s.stages, entry.2.Counts entry.1 events) ∧
    s.loadRequests.toNat = (events.map requestCount).sum % 2 ^ 64 ∧
    s.requestedBytes.toNat = (events.map byteCount).sum % 2 ^ 64 ∧
    s.documents.toNat = events.countP isDocument % 2 ^ 64 ∧
    s.duplicates.toNat = events.countP isDuplicate % 2 ^ 64 ∧
    s.threshold = (events.filterMap threshold?).getLast?.getD 0.0 ∧
    ∀ events', events.Perm events' → (ofEvents events').snapshot.countsOnly = s.countsOnly := by
  intro s
  have names : s.stages.map Prod.fst = (ofEvents events).board.map Prod.fst := by
    simp only [s, stages_ofEvents, List.map_map, Function.comp_def]
  rw [names]
  refine ⟨List.pairwise_map.mpr (ascending_ofEvents events), fun stage => mem_names_ofEvents,
    fun entry mem => ?_, (load_ofEvents events).1, (load_ofEvents events).2,
    (index_ofEvents events).1, (index_ofEvents events).2, threshold_ofEvents events,
    fun events' perm => (countsOnly_of_perm perm).symm⟩
  simp only [s, stages_ofEvents, List.mem_map] at mem
  obtain ⟨stage, -, rfl⟩ := mem
  exact StageStats.counts_ofEvents measured (few stage)

/-- Two stages take turns, one latency is above every bound, and the requests wrap. -/
theorem Recorder.counts_whatever_order_turns :
    let events : List Event := [.processed "load", .processed "embed", .latency "load" 2000.0,
      .requests 0xffffffffffffffff, .failed "embed", .threshold 0.8, .latency "load" 0.25,
      .requests 3, .threshold 0.5]
    let s := (ofEvents events).snapshot
    (∀ e ∈ events, e.Measured) ∧
    (∀ stage, events.countP (·.stage? == some stage) < 2 ^ 64) ∧
    (∀ stage, stage ∈ s.stages.map Prod.fst ↔ ∃ e ∈ events, e.stage? = some stage) ∧
    (∀ entry ∈ s.stages, entry.2.Counts entry.1 events) ∧
    s.loadRequests.toNat = 2 ∧ s.threshold = 0.5 ∧
    (ofEvents events.reverse).snapshot.countsOnly = s.countsOnly := by
  intro events s
  have measured : ∀ e ∈ events, e.Measured := by
    intro e mem stage ms same
    subst same
    simp only [events, List.mem_cons, Event.latency.injEq, reduceCtorEq, List.not_mem_nil,
      or_false, false_or] at mem
    obtain ⟨-, rfl⟩ | ⟨-, rfl⟩ := mem
    · exact ⟨2, 0, by decide +kernel⟩
    · exact ⟨0, 250000, by decide +kernel⟩
  have few : ∀ stage, events.countP (·.stage? == some stage) < 2 ^ 64 :=
    fun stage => List.countP_le_length.trans_lt (by decide)
  obtain ⟨-, names, counts, requests, -, -, -, threshold, order⟩ :=
    counts_whatever_order measured few
  exact ⟨measured, few, names, counts, requests.trans (by simp [events, requestCount]),
    threshold.trans (by rfl), order _ (List.reverse_perm events).symm⟩

end DocSieve
