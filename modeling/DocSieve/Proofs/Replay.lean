import Mathlib.Data.List.Basic

/-!
# Runs of a machine

A machine makes a step if it can, and each step shows something. A run is any list of
steps that can be made one after the other; what the steps showed is its history,
oldest first.

Key definitions: `replayWith`.
Key theorems: `replayWith_append`, `replayWith_invariant`.
-/

namespace DocSieve

variable {S I O : Type} (advance? : S → I → Option (S × O))

/-- The state after some steps, and their history, if each can be made in its turn. -/
def replayWith : List I → S → Option (S × List O)
  | [], s => some (s, [])
  | step :: rest, s => do
    let (next, o) ← advance? s step
    let (last, h) ← replayWith rest next
    return (last, o :: h)

variable {advance?}

theorem replayWith_cons {step : I} {rest : List I} {s last : S} {h : List O}
    (run : replayWith advance? (step :: rest) s = some (last, h)) :
    ∃ next o t, advance? s step = some (next, o) ∧
      replayWith advance? rest next = some (last, t) ∧ h = o :: t := by
  simp only [replayWith, Option.bind_eq_bind, Option.bind_eq_some_iff, Option.pure_def,
    Option.some.injEq, Prod.mk.injEq, Prod.exists] at run
  obtain ⟨next, o, hstep, last', t, hrest, rfl, rfl⟩ := run
  exact ⟨next, o, t, hstep, hrest, rfl⟩

theorem replayWith_append {first second : List I} {s middle last : S} {h t : List O}
    (run : replayWith advance? first s = some (middle, h))
    (more : replayWith advance? second middle = some (last, t)) :
    replayWith advance? (first ++ second) s = some (last, h ++ t) := by
  induction first generalizing s h with
  | nil =>
    obtain ⟨rfl, rfl⟩ : s = middle ∧ [] = h := by simpa [replayWith] using run
    simpa using more
  | cons step rest ih =>
    obtain ⟨next, o, t', hstep, hrest, rfl⟩ := replayWith_cons run
    simp [replayWith, hstep, ih hrest]

/-- What every step preserves, every run preserves, whatever came before it. -/
theorem replayWith_invariant {P : List I → List O → S → Prop}
    (keep : ∀ b h s step next o, P b h s → advance? s step = some (next, o) →
      P (b ++ [step]) (h ++ [o]) next)
    {b steps : List I} {s last : S} {h t : List O} (start : P b h s)
    (run : replayWith advance? steps s = some (last, t)) : P (b ++ steps) (h ++ t) last := by
  induction steps generalizing s b h t with
  | nil =>
    obtain ⟨rfl, rfl⟩ : s = last ∧ [] = t := by simpa [replayWith] using run
    simpa using start
  | cons step rest ih =>
    obtain ⟨next, o, t', hstep, hrest, rfl⟩ := replayWith_cons run
    have hnext := ih (keep b h s step next o start hstep) hrest
    rwa [List.append_assoc, List.singleton_append, List.append_assoc, List.singleton_append]
      at hnext

end DocSieve
