import DocSieve.Document.Basic
import DocSieve.Text.Alphabetic
import DocSieve.Text.Lowercase

/-!
# Terms of a text

The terms of a text are the maximal runs of alphabetic characters of its
lower-case form, in order.

Key definitions: `maximalRuns`, `terms`, `Document.tokenize`.
-/

namespace DocSieve

/-- A run put before the runs that follow it, unless it is empty. -/
def putRun (run : List Char) (runs : List (List Char)) : List (List Char) :=
  if run.isEmpty then runs else run :: runs

/-- One more character in front: it extends the run at the front, or ends it. -/
def extendRuns (keep : Char → Bool) (c : Char) :
    List Char × List (List Char) → List Char × List (List Char)
  | (run, runs) => if keep c then (c :: run, runs) else ([], putRun run runs)

/-- The maximal runs of characters with a property, in order. -/
def maximalRuns (keep : Char → Bool) (text : List Char) : List (List Char) :=
  let (run, runs) := text.foldr (extendRuns keep) ([], [])
  putRun run runs

def terms (text : String) : List String :=
  (maximalRuns isAlphabetic (lowerCase text.toList)).map String.ofList

/-- The document split into its terms. -/
def Document.tokenize (doc : Document) : TokenizedDocument :=
  ⟨doc.id, (terms doc.text).map Token.mk⟩

end DocSieve
