import Mathlib
import DocSieve.Proofs.Files.Window
import DocSieve.Proofs.Text.Utf8

/-!
# Windows that cut characters

A window of a file starts and ends at any byte, and the bytes of a character may lie on
both sides of that. The text that is read keeps the characters of which the window has
every byte; what it has of others is replaced, at its start byte by byte and at its end as
one (`remaining`). To see this the text is taken apart at both ends of the window
(`Parts`): the characters stand before the window, across its start, within it, across its
end or behind it (`Parts.placed_split`), and its bytes are the rest of the one across its
start, those of the characters within it and the beginning of the one across its end
(`Parts.bytes_eq`). A window that starts and ends between characters is read unchanged
(`FileTree.load_text`).

Key definitions: `placedFrom`, `wholeIn`, `continuedIn`, `unfinishedIn`, `Parts`.
Key theorems: `Parts.wholeIn_eq`, `Parts.continuedIn_eq`, `Parts.unfinishedIn_eq`,
`decodeLossy_range`, `FileTree.load_text`.
-/

namespace DocSieve

/-- A character of a text with the place of its first byte. -/
structure PlacedChar where
  char : Char
  start : Nat

/-- The place behind the last byte. -/
def PlacedChar.stop (c : PlacedChar) : Nat := c.start + c.char.utf8Size

/-- The characters of a text with their places, the first of which is given. -/
def placedFrom : Nat → List Char → List PlacedChar
  | _, [] => []
  | start, c :: text => ⟨c, start⟩ :: placedFrom (start + c.utf8Size) text

section Range

variable (text : List Char) (first last : Nat)

/-- The characters of a text of which all bytes lie in a range, in order. -/
def wholeIn : List Char :=
  ((placedFrom 0 text).filter fun c => first ≤ c.start ∧ c.stop ≤ last).map (·.char)

/-- The number of leading bytes of a range that continue a character begun before it. -/
def continuedIn : Nat :=
  ((List.range' first (last - first)).takeWhile fun place =>
    (placedFrom 0 text).any fun c => c.start < first ∧ place < c.stop).length

/-- Whether a range begins a character that it does not finish. -/
def unfinishedIn : Bool :=
  (placedFrom 0 text).any fun c => first ≤ c.start ∧ c.start < last ∧ last < c.stop

/-- The text that a range leaves: the characters within it, and replacements for what it
has of others, at its start for each byte and at its end for the character. -/
def remaining : List Char :=
  List.replicate (continuedIn text first last) replacement ++ wholeIn text first last
    ++ List.replicate (unfinishedIn text first last).toNat replacement

end Range

/-! ### Places -/

theorem placedFrom_append (start : Nat) (text more : List Char) :
    placedFrom start (text ++ more)
      = placedFrom start text ++ placedFrom (start + (encoded text).length) more := by
  induction text generalizing start with
  | nil => rfl
  | cons c text ih =>
    rw [List.cons_append, placedFrom, ih, placedFrom, encoded_cons, List.length_append,
      String.length_utf8EncodeChar, Nat.add_assoc]
    rfl

theorem map_placedFrom (start : Nat) (text : List Char) :
    (placedFrom start text).map (·.char) = text := by
  induction text generalizing start with
  | nil => rfl
  | cons c text ih => rw [placedFrom, List.map_cons, ih]

theorem bounds_of_mem_placedFrom {start : Nat} {text : List Char} {c : PlacedChar}
    (mem : c ∈ placedFrom start text) :
    start ≤ c.start ∧ c.start < c.stop ∧ c.stop ≤ start + (encoded text).length := by
  induction text generalizing start with
  | nil => simp [placedFrom] at mem
  | cons d text ih =>
    rw [encoded_cons, List.length_append, String.length_utf8EncodeChar]
    rcases List.mem_cons.mp mem with rfl | mem
    · have pos := d.utf8Size_pos
      unfold PlacedChar.stop
      dsimp only
      omega
    · have bounds := ih mem
      omega

/-- The place within the bytes of a text that lies so far behind its first part. -/
theorem Cut.bounds {cut : List Char} {n : Nat} (h : Cut cut n) {start : Nat} {c : PlacedChar}
    (mem : c ∈ placedFrom start cut) :
    c.start = start ∧ c.start < start + n ∧ start + n < c.stop ∧
      c.stop = start + (encoded cut).length := by
  cases h with
  | between => simp [placedFrom] at mem
  | within pos few =>
    obtain rfl : c = _ := by simpa [placedFrom] using mem
    rw [length_encoded_singleton]
    unfold PlacedChar.stop
    dsimp only
    omega

theorem Cut.exists_placed {cut : List Char} {n : Nat} (h : Cut cut n) (start : Nat)
    (more : n < (encoded cut).length) : ∃ c, c ∈ placedFrom start cut := by
  cases h with
  | between => simp at more
  | within => exact ⟨_, List.mem_singleton_self _⟩

theorem length_takeWhile_range' {p : Nat → Bool} {start count stop : Nat}
    (before : ∀ i, start ≤ i → i < start + count → (p i = true ↔ i < stop)) :
    ((List.range' start count).takeWhile p).length = min count (stop - start) := by
  induction count generalizing start with
  | zero => simp
  | succ count ih =>
    have tail : ((List.range' (start + 1) count).takeWhile p).length
        = min count (stop - (start + 1)) :=
      ih fun i least below => before i (by omega) (by omega)
    have head := before start (Nat.le_refl _) (by omega)
    rw [List.range'_succ, List.takeWhile_cons]
    by_cases low : start < stop
    · rw [if_pos (head.mpr low), List.length_cons, tail]
      omega
    · rw [if_neg (mt head.mp low), List.length_nil]
      omega

/-! ### The parts of a text -/

/-- The parts that a range makes of a text. It starts so many bytes into the character
`cut`, if any, has all of `inside`, and stops so many bytes into the character `begun`, if
any. A range that stops within `cut` has nothing of what follows. -/
structure Parts (text : List Char) (first last : Nat) where
  before : List Char
  cut : List Char
  inside : List Char
  begun : List Char
  after : List Char
  /-- The bytes of `cut` before the range. -/
  lost : Nat
  /-- The bytes of `begun` in the range. -/
  left : Nat
  split : text = before ++ cut ++ inside ++ begun ++ after
  front : Cut cut lost
  back : Cut begun left
  starts : first = (encoded before).length + lost
  stops : max last ((encoded before).length + (encoded cut).length)
    = (encoded before).length + (encoded cut).length + (encoded inside).length + left

namespace Parts

variable {text : List Char} {first last : Nat} (p : Parts text first last) {c : PlacedChar}

/-- The place behind the character that is cut at the start. -/
def border : Nat := (encoded p.before).length + (encoded p.cut).length

/-- The place behind the characters within the range. -/
def limit : Nat := p.border + (encoded p.inside).length

theorem max_border : max last p.border = p.limit + p.left := p.stops

theorem first_le_border : first ≤ p.border := by
  have starts := p.starts
  have bytes := p.front.le_length
  unfold border
  omega

theorem placed_split : placedFrom 0 text =
    placedFrom 0 p.before ++ placedFrom (encoded p.before).length p.cut
      ++ placedFrom p.border p.inside ++ placedFrom p.limit p.begun
      ++ placedFrom (p.limit + (encoded p.begun).length) p.after := by
  conv => lhs; rw [p.split]
  simp [placedFrom_append, border, limit, Nat.add_assoc]

theorem stop_le_first (mem : c ∈ placedFrom 0 p.before) : c.start < first ∧ c.stop ≤ first := by
  have bounds := bounds_of_mem_placedFrom mem
  have starts := p.starts
  omega

theorem stop_eq_border (mem : c ∈ placedFrom (encoded p.before).length p.cut) :
    c.start < first ∧ c.stop = p.border := by
  have bounds := p.front.bounds mem
  have starts := p.starts
  unfold border
  omega

theorem within (mem : c ∈ placedFrom p.border p.inside) : first ≤ c.start ∧ c.stop ≤ last := by
  have bounds := bounds_of_mem_placedFrom mem
  have starts := p.first_le_border
  have stops := p.max_border
  unfold limit at stops
  omega

theorem crosses (mem : c ∈ placedFrom p.limit p.begun) :
    first ≤ c.start ∧ c.start < last ∧ last < c.stop := by
  have bounds := p.back.bounds mem
  have starts := p.first_le_border
  have stops := p.max_border
  unfold limit at *
  omega

theorem last_le_start (mem : c ∈ placedFrom (p.limit + (encoded p.begun).length) p.after) :
    first ≤ c.start ∧ last ≤ c.start ∧ c.start < c.stop := by
  have bounds := bounds_of_mem_placedFrom mem
  have bytes := p.back.le_length
  have starts := p.first_le_border
  have stops := p.max_border
  unfold limit at *
  omega

/-- Where a character of the text stands to the range. -/
theorem stands (mem : c ∈ placedFrom 0 text) :
    c.start < first ∧ c.stop ≤ p.border ∨ first ≤ c.start ∧ c.stop ≤ last ∨
      c ∈ placedFrom p.limit p.begun ∨ last ≤ c.start ∧ first ≤ c.start := by
  rw [p.placed_split] at mem
  simp only [List.mem_append] at mem
  rcases mem with (((mem | mem) | mem) | mem) | mem
  · obtain ⟨starts, stops⟩ := p.stop_le_first mem
    exact .inl ⟨starts, Nat.le_trans stops p.first_le_border⟩
  · obtain ⟨starts, stops⟩ := p.stop_eq_border mem
    exact .inl ⟨starts, Nat.le_of_eq stops⟩
  · exact .inr (.inl (p.within mem))
  · exact .inr (.inr (.inl mem))
  · obtain ⟨starts, stops, -⟩ := p.last_le_start mem
    exact .inr (.inr (.inr ⟨stops, starts⟩))

/-! ### What a range leaves -/

theorem wholeIn_eq : wholeIn text first last = p.inside := by
  have keeps : (placedFrom 0 text).filter (fun c => first ≤ c.start ∧ c.stop ≤ last)
      = placedFrom p.border p.inside := by
    rw [p.placed_split]
    simp only [List.filter_append]
    -- one part of the text after another, from the last
    rw [List.filter_eq_nil_iff.mpr fun c mem => ?_, List.filter_eq_nil_iff.mpr fun c mem => ?_,
      List.filter_eq_self.mpr fun c mem => ?_, List.filter_eq_nil_iff.mpr fun c mem => ?_,
      List.filter_eq_nil_iff.mpr fun c mem => ?_]
    · simp
    · have behind := p.last_le_start mem
      simp
      omega
    · have crossing := p.crosses mem
      simp
      omega
    · simpa using p.within mem
    · have cut := p.stop_eq_border mem
      simp
      omega
    · have before := p.stop_le_first mem
      simp
      omega
  unfold wholeIn
  rw [keeps, map_placedFrom]

theorem unfinishedIn_eq : (unfinishedIn text first last).toNat = p.begun.length := by
  unfold unfinishedIn
  rcases p.back.eq_nil_or with none | ⟨d, one⟩
  · have all : (placedFrom 0 text).any (fun c => first ≤ c.start ∧ c.start < last ∧ last < c.stop)
        = false := by
      rw [List.any_eq_false]
      intro c mem crossing
      rw [decide_eq_true_iff] at crossing
      rcases p.stands mem with before | inside | mem | after
      · omega
      · omega
      · rw [none] at mem
        simp [placedFrom] at mem
      · omega
    rw [all, none]
    rfl
  · have mem : ⟨d, p.limit⟩ ∈ placedFrom p.limit p.begun := by simp [one, placedFrom]
    have some : (placedFrom 0 text).any (fun c => first ≤ c.start ∧ c.start < last ∧ last < c.stop)
        = true := by
      rw [List.any_eq_true]
      refine ⟨_, ?_, decide_eq_true (p.crosses mem)⟩
      rw [p.placed_split]
      simp [mem]
    rw [some, one]
    rfl

/-- A byte of the range continues a character begun before it if and only if it stands before
the border. -/
theorem continues_iff {place : Nat} (reached : first ≤ place) :
    (∃ c ∈ placedFrom 0 text, c.start < first ∧ place < c.stop) ↔ place < p.border := by
  constructor
  · rintro ⟨c, mem, starts, stops⟩
    rcases p.stands mem with before | inside | mem | after
    · omega
    · omega
    · have crossing := p.crosses mem
      omega
    · omega
  · intro before
    have starts := p.starts
    unfold border at before
    obtain ⟨c, mem⟩ := p.front.exists_placed (encoded p.before).length (by omega)
    obtain ⟨starts, stops⟩ := p.stop_eq_border mem
    refine ⟨c, ?_, starts, by rw [stops]; exact before⟩
    rw [p.placed_split]
    simp [mem]

theorem continuedIn_eq :
    continuedIn text first last = min (last - first) (p.border - first) := by
  unfold continuedIn
  apply length_takeWhile_range'
  intro place least _
  rw [← p.continues_iff least, List.any_eq_true]
  simp

theorem length_tail : ((encoded p.cut).drop p.lost).length = p.border - first := by
  have starts := p.starts
  rw [List.length_drop, border]
  omega

theorem bytes_eq : ((encoded text).drop first).take (last - first)
    = ((encoded p.cut).drop p.lost).take (last - first) ++ encoded p.inside
      ++ (encoded p.begun).take p.left := by
  have stops := p.max_border
  have reach := p.first_le_border
  have dropped : (encoded text).drop first = (encoded p.cut).drop p.lost
      ++ (encoded p.inside ++ (encoded p.begun ++ encoded p.after)) := by
    calc (encoded text).drop first
        = (encoded (p.before ++ p.cut ++ p.inside ++ p.begun ++ p.after)).drop
            ((encoded p.before).length + p.lost) :=
          congrArg₂ (fun text first => (encoded text).drop first) p.split p.starts
      _ = (encoded p.cut ++ (encoded p.inside ++ (encoded p.begun ++ encoded p.after))).drop
            p.lost := by
          simp only [encoded_append, List.append_assoc, List.drop_length_add_append]
      _ = _ := List.drop_append_of_le_length p.front.le_length
  have more : last - first - (p.border - first) = (encoded p.inside).length + p.left := by
    unfold limit at stops
    omega
  rw [dropped, List.take_append, p.length_tail, more, List.take_length_add_append,
    List.take_append_of_le_length p.back.le_length, List.append_assoc]

end Parts

theorem nonempty_parts {text : List Char} {first last : Nat} (ordered : first ≤ last)
    (within : last ≤ (encoded text).length) : Nonempty (Parts text first last) := by
  obtain ⟨before, cut, rest, lost, rfl, starts, front⟩ := exists_cut (Nat.le_trans ordered within)
  simp only [encoded_append, List.length_append] at within
  have more : last - ((encoded before).length + (encoded cut).length) ≤ (encoded rest).length := by
    omega
  obtain ⟨inside, begun, after, left, rfl, stops, back⟩ := exists_cut more
  exact ⟨⟨before, cut, inside, begun, after, lost, left, by simp, front, back, starts, by omega⟩⟩

theorem continuedIn_of_le (text : List Char) {first last : Nat} (none : last ≤ first) :
    continuedIn text first last = 0 := by
  unfold continuedIn
  rw [Nat.sub_eq_zero_of_le none]
  rfl

theorem remaining_of_le (text : List Char) {first last : Nat} (none : last ≤ first) :
    remaining text first last = [] := by
  have whole : wholeIn text first last = [] := by
    unfold wholeIn
    rw [List.filter_eq_nil_iff.mpr fun c mem => ?_, List.map_nil]
    have bounds := bounds_of_mem_placedFrom mem
    simp
    omega
  have unfinished : unfinishedIn text first last = false := by
    unfold unfinishedIn
    rw [List.any_eq_false]
    intro c _
    simp
    omega
  unfold remaining
  rw [whole, continuedIn_of_le text none, unfinished]
  rfl

theorem continuedIn_le (text : List Char) {first last : Nat}
    (within : last ≤ (encoded text).length) : continuedIn text first last ≤ 3 := by
  by_cases ordered : first ≤ last
  · obtain ⟨p⟩ := nonempty_parts ordered within
    have few := p.front.length_drop_le
    rw [p.length_tail] at few
    rw [p.continuedIn_eq]
    omega
  · rw [continuedIn_of_le text (Nat.le_of_not_le ordered)]
    exact Nat.zero_le 3

/-- **A range of the bytes of a text is read as what it leaves of the text.** -/
theorem decodeLossy_range (text : List Char) {first last : Nat}
    (within : last ≤ (encoded text).length) :
    decodeLossy (((encoded text).drop first).take (last - first))
      = String.ofList (remaining text first last) := by
  by_cases ordered : first ≤ last
  · obtain ⟨p⟩ := nonempty_parts ordered within
    have tail : ∀ b ∈ ((encoded p.cut).drop p.lost).take (last - first), Continues b :=
      fun b mem => p.front.continues_drop b (List.mem_of_mem_take mem)
    have length : (((encoded p.cut).drop p.lost).take (last - first)).length
        = continuedIn text first last := by
      rw [p.continuedIn_eq, List.length_take, p.length_tail]
    rw [p.bytes_eq, decodeLossy_cut tail _ p.back, length, remaining, p.wholeIn_eq,
      p.unfinishedIn_eq]
  · have none : last ≤ first := Nat.le_of_not_le ordered
    rw [Nat.sub_eq_zero_of_le none, remaining_of_le text none]
    rfl

theorem decodeLossy_encoded (text : List Char) :
    decodeLossy (encoded text) = String.ofList text := by
  have none : ∀ b ∈ ([] : List UInt8), Continues b := by simp
  simpa using decodeLossy_cut none text .between

/-! ### Files -/

theorem windowBytes_eq (bytes : List UInt8) (offset size : Nat) :
    windowBytes bytes offset size
      = (bytes.drop offset).take (min (offset + size) bytes.length - offset) := by
  unfold windowBytes
  rw [List.take_eq_take_iff, List.length_drop]
  omega

theorem utf8ByteSize_eq (text : String) : text.utf8ByteSize = (encoded text.toList).length := by
  rw [← toUTF8_eq_encoded, Array.length_toList]
  rfl

theorem FileTree.load_beyond {tree : FileTree} {request : Request} {bytes : List UInt8}
    (file : tree.find request.path = .ok (.file bytes))
    (beyond : maxOffset < request.offset.toNat) : tree.load request = .error invalidArgument := by
  unfold load
  rw [file]
  dsimp only [bind, Except.bind]
  rw [if_pos beyond]
  rfl

/-- **A window corrupts only the edges.** The file holds the bytes of a text. A window of it
from an offset that a file can have is read as a replacement for each of its leading bytes,
at most three, that continue a character begun before, the characters that lie within it,
and a replacement for a character that it begins and does not finish; so if it starts and
ends between characters, it is read as those between. -/
theorem FileTree.load_text {tree : FileTree} {request : Request} {text : String}
    (file : tree.find request.path = .ok (.file text.toUTF8.data.toList))
    (size : request.size.toNat ≤ maxAllocation) :
    let first := request.offset.toNat
    let last := min (first + request.size.toNat) text.utf8ByteSize
    (maxOffset < first → tree.load request = .error invalidArgument) ∧
    (first ≤ maxOffset →
      tree.load request = .ok ⟨request.id, String.ofList
        (List.replicate (continuedIn text.toList first last) replacement
          ++ wholeIn text.toList first last
          ++ List.replicate (if unfinishedIn text.toList first last then 1 else 0) replacement)⟩ ∧
      continuedIn text.toList first last ≤ 3 ∧
      ∀ before middle after : String, text = before ++ middle ++ after →
        first = before.utf8ByteSize → last = before.utf8ByteSize + middle.utf8ByteSize →
        tree.load request = .ok ⟨request.id, middle⟩) := by
  intro first last
  refine ⟨load_beyond file, fun offset => ?_⟩
  have loaded := load_file file offset size
  have bytes : text.utf8ByteSize = (encoded text.toList).length := utf8ByteSize_eq text
  have within : last ≤ (encoded text.toList).length := by omega
  have window : windowBytes text.toUTF8.data.toList first request.size.toNat
      = ((encoded text.toList).drop first).take (last - first) := by
    rw [windowBytes_eq, toUTF8_eq_encoded, ← bytes]
  rw [window] at loaded
  refine ⟨?_, continuedIn_le _ within, ?_⟩
  · rw [loaded, decodeLossy_range _ within, remaining]
    cases unfinishedIn text.toList first last <;> rfl
  · rintro before middle after rfl starts stops
    have length : last - first = (encoded middle.toList).length := by
      rw [stops, starts, utf8ByteSize_eq middle]
      omega
    have between : ((encoded (before ++ middle ++ after).toList).drop first).take (last - first)
        = encoded middle.toList := by
      rw [length, starts, utf8ByteSize_eq before]
      simp [List.append_assoc]
    rw [loaded, between, decodeLossy_encoded, String.ofList_toList]

/-- A file whose characters have two, three, one and four bytes. -/
def variedFiles : FileTree := .directory [("f", .file "é€b😀".toUTF8.data.toList)]

theorem load_text_varied :
    variedFiles.find "f" = .ok (.file "é€b😀".toUTF8.data.toList) ∧
      variedFiles.load ⟨"w", "f", 1, 7⟩ = .ok ⟨"w", "\ufffd€b\ufffd"⟩ := by
  have file : variedFiles.find "f" = .ok (.file "é€b😀".toUTF8.data.toList) := by cbv
  have left : List.replicate (continuedIn "é€b😀".toList 1 8) replacement
      ++ wholeIn "é€b😀".toList 1 8
      ++ List.replicate (if unfinishedIn "é€b😀".toList 1 8 then 1 else 0) replacement
      = "\ufffd€b\ufffd".toList := by decide
  obtain ⟨-, loads⟩ :=
    @FileTree.load_text variedFiles ⟨"w", "f", 1, 7⟩ "é€b😀" file (by decide)
  obtain ⟨loaded, -⟩ := loads (by decide)
  refine ⟨file, loaded.trans ?_⟩
  exact congrArg (fun text => Except.ok (Document.mk "w" (String.ofList text))) left

end DocSieve
