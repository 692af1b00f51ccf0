import DocSieve.Proofs.Sieve.Stages

/-!
# What a validated configuration can still not start

Validation looks at the threshold, the dimensions and the rate. The threshold and the
dimensions are looked at again when the collection and the embedder are made, within
the same bounds, so there a validated configuration has nothing to fear. But the slots
of the channels and the room of the index are made as they are asked for, and nobody has
looked at them before: a configuration that asks for more than can be addressed is valid
and does not start (`Config.vast_room_refused`). Of the sizes that are asked for these are
all that can be refused (`Config.starts_iff_addressable`). What a number of workers costs is
left out: their tasks and handles are taken to be had for any number.

Key definitions: `MadeIf`, `Config.start`, `Config.Addressable`.
Key theorems: `Config.validate_eq_ok_iff`, `Config.starts_iff_addressable`.
-/

namespace DocSieve

variable {α β : Type}

/-! ### What is made if it fits -/

/-- Something is made if it fits, and asks for more than can be addressed if not. -/
inductive MadeIf (fits : Prop) : Except Fault α → Prop
  | made (holds : fits) (a : α) : MadeIf fits (.ok a)
  | oversize (fails : ¬ fits) : MadeIf fits (.error .oversize)

namespace MadeIf

variable {p q : Prop} {x : Except Fault α}

theorem congr (same : p ↔ q) (h : MadeIf p x) : MadeIf q x := by
  cases h with
  | made holds a => exact .made (same.mp holds) a
  | oversize fails => exact .oversize (mt same.mpr fails)

/-- Two things are made one after the other if both fit. -/
theorem bind {f : α → Except Fault β} (first : MadeIf p x)
    (second : ∀ a, x = .ok a → MadeIf q (f a)) : MadeIf (p ∧ q) (x >>= f) := by
  cases first with
  | made holds a =>
    show MadeIf (p ∧ q) (f a)
    have next := second a rfl
    generalize f a = y at next ⊢
    cases next with
    | made holds' b => exact .made ⟨holds, holds'⟩ b
    | oversize fails => exact .oversize fun both => fails both.2
  | oversize fails => exact .oversize fun both => fails both.1

theorem of_ite (p : Prop) [Decidable p] (a : α) :
    MadeIf p (if p then pure a else throw .oversize) := by
  split
  · exact .made ‹p› a
  · exact .oversize ‹¬ p›

theorem iff (h : MadeIf p x) :
    ((∃ a, x = .ok a) ↔ p) ∧ ∀ fault, x = .error fault → fault = .oversize := by
  cases h with
  | made holds a => exact ⟨⟨fun _ => holds, fun _ => ⟨a, rfl⟩⟩, nofun⟩
  | oversize fails =>
    refine ⟨⟨nofun, fun holds => absurd holds fails⟩, fun fault same => ?_⟩
    exact (Except.error.inj same).symm

theorem eq_oversize (h : MadeIf p x) (fails : ¬ p) : x = .error .oversize := by
  cases h with
  | made holds a => exact absurd holds fails
  | oversize => rfl

end MadeIf

/-! ### The parts of a sieve -/

/-- A pacer without slots gets the default ones, so it fits if what it asks for does. -/
theorem Pacer.madeIf_start (workload : Workload) (words : WordStream) (slots : Nat) :
    MadeIf (slots ≤ maxSlots) (start workload words slots) := by
  have given : (if slots = 0 then defaultSlots else slots) ≤ maxSlots ↔ slots ≤ maxSlots := by
    unfold defaultSlots maxSlots
    split <;> omega
  exact (MadeIf.of_ite _ _).congr given

theorem Pacer.capacity_of_start {workload : Workload} {words : WordStream} {slots : Nat}
    {pacer : Pacer} (made : start workload words slots = .ok pacer) :
    0 < pacer.output.capacity ∧ pacer.output.capacity ≤ maxSlots := by
  have given : 0 < (if slots = 0 then defaultSlots else slots) := by
    unfold defaultSlots
    split <;> omega
  unfold start at made
  dsimp only at made
  generalize (if slots = 0 then defaultSlots else slots) = slots at made given
  split at made
  · cases made
    exact ⟨given, ‹slots ≤ maxSlots›⟩
  · cases made

theorem Stage.make_slots_le {σ : Type} (name : String) (workers slots : Nat)
    (transform : σ → α → σ × Outcome α) :
    (Stage.make name workers slots transform).slots ≤ maxSlots ↔ slots ≤ maxSlots := by
  unfold make defaultSlots maxSlots
  dsimp only
  split <;> omega

theorem Chain.madeIf_start {σ : Type} {slots : Nat} (pos : 0 < slots) (fits : slots ≤ maxSlots)
    (stages : List (Stage σ α)) (shared : σ) :
    MadeIf (∀ stage ∈ stages, stage.slots ≤ maxSlots) (start slots stages shared) := by
  have sizes : ((slots :: stages.map (·.slots)).all fun n => 0 < n ∧ n ≤ maxSlots) = true ↔
      ∀ stage ∈ stages, stage.slots ≤ maxSlots := by
    simp [pos, fits, Stage.slots_pos]
  exact (MadeIf.of_ite _ _).congr sizes

theorem Collection.madeIf_create? {threshold : Float32}
    (accepted : Index.acceptsThreshold threshold = true) (capacity : UInt64) :
    MadeIf (capacity.toNat * 16 ≤ maxAllocation) (create? threshold capacity) := by
  unfold create? Index.create?
  rw [accepted, if_neg (by decide)]
  split
  · rename_i vast
    exact .oversize (Nat.not_le.mpr vast)
  · rename_i fits
    exact .made (Nat.not_lt.mp fits) _

namespace Config

/-- What validation looks at, and nothing else. -/
theorem validate_eq_ok_iff (config : Config) : config.validate = .ok () ↔
    Index.acceptsThreshold config.index.threshold = true ∧ config.embedding.dimensions ≠ 0 ∧
      config.load.ratePerSec ≠ 0 ∧ config.load.ratePerSec ≤ maxRate := by
  unfold validate Index.acceptsThreshold
  cases accepted : decide (config.index.threshold > 0.0) && decide (config.index.threshold ≤ 1.0)
  · simp [accepted, bind, Except.bind, throw, throwThe, MonadExceptOf.throw]
  by_cases dimensions : config.embedding.dimensions = 0
  · simp [accepted, dimensions, bind, Except.bind, throw, throwThe, MonadExceptOf.throw]
  · simp [accepted, dimensions, throw, throwThe, MonadExceptOf.throw, pure, Except.pure]

/-- The pacer of a configuration for a file of a size, and the chain that it feeds. -/
def start (config : Config) (files : FileTree) (fileSize : UInt64) (words : WordStream) :
    Except Fault (Pacer × Chain Collection Parcel) := do
  let pacer ← Pacer.start (config.load.workload fileSize) words config.load.bufferSize.toNat
  let chain ← Sieve.startChain config files pacer.output.capacity
  return (pacer, chain)

theorem ofWorkload_eq (config : Config) (files : FileTree) (words : WordStream) :
    Sieve.ofWorkload config files words = (do
      let fileSize ← config.load.sizeOfFile files
      let (pacer, chain) ← config.start files fileSize words
      return ⟨chain, some pacer, none, false⟩) := by
  unfold Sieve.ofWorkload start
  simp

/-- All channels and the room of the index can be addressed. This is about sizes only: each
worker also costs a task and handles to its channels and to the shared state, and that there
is memory for them, and that the counts of the handles do not run over, is not part of it. -/
structure Addressable (config : Config) : Prop where
  feeder : config.load.bufferSize.toNat ≤ maxSlots
  /-- An entry takes sixteen bytes. -/
  room : config.index.initialCapacity.toNat * 16 ≤ maxAllocation
  load : config.stages.load.bufferSize.toNat ≤ maxSlots
  tokenize : config.stages.tokenize.bufferSize.toNat ≤ maxSlots
  embed : config.stages.embed.bufferSize.toNat ≤ maxSlots
  index : config.stages.index.bufferSize.toNat ≤ maxSlots

theorem madeIf_startChain {config : Config} (valid : config.validate = .ok ())
    (files : FileTree) {slots : Nat} (pos : 0 < slots) (fits : slots ≤ maxSlots) :
    MadeIf (config.index.initialCapacity.toNat * 16 ≤ maxAllocation ∧
        config.stages.load.bufferSize.toNat ≤ maxSlots ∧
        config.stages.tokenize.bufferSize.toNat ≤ maxSlots ∧
        config.stages.embed.bufferSize.toNat ≤ maxSlots ∧
        config.stages.index.bufferSize.toNat ≤ maxSlots)
      (Sieve.startChain config files slots) := by
  obtain ⟨accepted, dimensions, -, -⟩ := config.validate_eq_ok_iff.mp valid
  have embedder : Embedder.new? config.embedding.dimensions
      = .ok ⟨config.embedding.dimensions, dimensions⟩ := dif_neg dimensions
  unfold Sieve.startChain
  rw [embedder]
  refine (Collection.madeIf_create? accepted _).bind fun collection _ => ?_
  refine (Chain.madeIf_start pos fits _ collection).congr ?_
  simp [Sieve.stages, Sieve.plainStage, Stage.make_slots_le]

theorem madeIf_start {config : Config} (valid : config.validate = .ok ()) (files : FileTree)
    (fileSize : UInt64) (words : WordStream) :
    MadeIf config.Addressable (config.start files fileSize words) := by
  have feeder := Pacer.madeIf_start (config.load.workload fileSize) words
    config.load.bufferSize.toNat
  have made := feeder.bind (f := fun pacer => do
    let chain ← Sieve.startChain config files pacer.output.capacity
    return (pacer, chain)) fun pacer started =>
      (madeIf_startChain valid files (Pacer.capacity_of_start started).1
        (Pacer.capacity_of_start started).2).bind (q := True) fun chain _ => .made trivial _
  refine made.congr ⟨fun h => ?_, fun h => ?_⟩
  · exact ⟨h.1, h.2.1.1, h.2.1.2.1, h.2.1.2.2.1, h.2.1.2.2.2.1, h.2.1.2.2.2.2⟩
  · exact ⟨h.feeder, ⟨h.room, h.load, h.tokenize, h.embed, h.index⟩, trivial⟩

/-- **A validated configuration starts just when its sizes can be addressed**, and if it
does not, it is a size that is refused; the cost of its workers is left out, as
`Addressable` says. -/
theorem starts_iff_addressable {config : Config} (valid : config.validate = .ok ())
    (files : FileTree) (fileSize : UInt64) (words : WordStream) :
    ((∃ started, config.start files fileSize words = .ok started) ↔ config.Addressable) ∧
      ∀ fault, config.start files fileSize words = .error fault → fault = .oversize :=
  (madeIf_start valid files fileSize words).iff

/-- The configuration where nothing is said starts. -/
theorem starts_iff_addressable_default : default.validate = .ok () ∧
    ∃ started, default.start .empty 0 (fun _ => 0) = .ok started := by
  have valid : default.validate = .ok () := default.validate_eq_ok_iff.mpr (by decide +kernel)
  exact ⟨valid, (starts_iff_addressable valid .empty 0 fun _ => 0).1.mpr
    ⟨by decide, by decide, by decide, by decide, by decide, by decide⟩⟩

/-- The default configuration, with the most room for its index that a signed word
can ask for. -/
def vast : Config :=
  { default with index := { IndexConfig.default with initialCapacity := 0x7fffffffffffffff } }

/-- It is valid and does not start. -/
theorem vast_room_refused : vast.validate = .ok () ∧
    vast.start .empty 0 (fun _ => 0) = .error .oversize := by
  have valid : vast.validate = .ok () := vast.validate_eq_ok_iff.mpr (by decide +kernel)
  have vastRoom : ¬ vast.Addressable := fun addressable =>
    absurd addressable.room (by decide)
  exact ⟨valid, (madeIf_start valid .empty 0 fun _ => 0).eq_oversize vastRoom⟩

end Config

end DocSieve
