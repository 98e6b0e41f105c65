import Mathlib.Data.Nat.Notation
import TemplateLanguage.Source.Document

/-!
# Searching for an offset

While a search goes on, every offset before the searched part is less than the one searched
for and every offset behind it is greater.  Each step keeps this, as the offsets increase, so
a search ends at the offset or at the first greater one.
-/

namespace TemplateLanguage.Text

variable {starts : List ℕ} {offset : ℕ}

/-- What the end of a search tells about the offsets. -/
def Placed (starts : List ℕ) (offset : ℕ) : Except ℕ ℕ → Prop
  | .ok index => starts[index]? = some offset
  | .error index => index ≤ starts.length ∧
      ∀ other start, starts[other]? = some start →
        if other < index then start < offset else offset < start

/-- The offsets outside the part between two indices are told from the one searched for. -/
structure Narrowed (starts : List ℕ) (offset low high : ℕ) : Prop where
  low_le : low ≤ high
  high_le : high ≤ starts.length
  before : ∀ index start, starts[index]? = some start → index < low → start < offset
  behind : ∀ index start, starts[index]? = some start → high ≤ index → offset < start

theorem narrowed_zero_length (starts : List ℕ) (offset : ℕ) :
    Narrowed starts offset 0 starts.length where
  low_le := Nat.zero_le _
  high_le := Nat.le_refl _
  before _ _ _ negative := absurd negative (Nat.not_lt_zero _)
  behind _ _ found outside :=
    absurd (List.getElem?_eq_some_iff.mp found).1 (Nat.not_lt_of_le outside)

theorem lt_of_getElem?_of_pairwise (increasing : starts.Pairwise (· < ·))
    {first second start other : ℕ} (found : starts[first]? = some start)
    (next : starts[second]? = some other) (before : first < second) : start < other := by
  obtain ⟨inside, rfl⟩ := List.getElem?_eq_some_iff.mp found
  obtain ⟨within, rfl⟩ := List.getElem?_eq_some_iff.mp next
  exact List.pairwise_iff_getElem.mp increasing first second inside within before

theorem le_of_getElem?_of_pairwise (increasing : starts.Pairwise (· < ·))
    {first second start other : ℕ} (found : starts[first]? = some start)
    (next : starts[second]? = some other) (before : first ≤ second) : start ≤ other := by
  rcases Nat.lt_or_eq_of_le before with less | rfl
  · exact Nat.le_of_lt (lt_of_getElem?_of_pairwise increasing found next less)
  · exact Nat.le_of_eq (Option.some.inj (found.symm.trans next))

namespace Narrowed

variable {low middle high start : ℕ}

theorem upper (narrowed : Narrowed starts offset low high)
    (increasing : starts.Pairwise (· < ·)) (inside : middle < high)
    (found : starts[middle]? = some start) (less : start < offset) :
    Narrowed starts offset (middle + 1) high where
  low_le := inside
  high_le := narrowed.high_le
  before _ _ other before :=
    Nat.lt_of_le_of_lt
      (le_of_getElem?_of_pairwise increasing other found (Nat.le_of_lt_succ before)) less
  behind := narrowed.behind

theorem lower (narrowed : Narrowed starts offset low high)
    (increasing : starts.Pairwise (· < ·)) (inside : low ≤ middle)
    (found : starts[middle]? = some start) (greater : offset < start) :
    Narrowed starts offset low middle where
  low_le := inside
  high_le := Nat.le_of_lt (List.getElem?_eq_some_iff.mp found).1
  before := narrowed.before
  behind _ _ other behind :=
    Nat.lt_of_lt_of_le greater (le_of_getElem?_of_pairwise increasing found other behind)

theorem placed (narrowed : Narrowed starts offset low low) :
    Placed starts offset (.error low) := by
  refine ⟨narrowed.high_le, fun other start found => ?_⟩
  split
  · rename_i before
    exact narrowed.before other start found before
  · rename_i behind
    exact narrowed.behind other start found (Nat.le_of_not_lt behind)

end Narrowed

/-- A search in a narrowed part of increasing offsets ends where it should. -/
theorem placed_search_of_narrowed (increasing : starts.Pairwise (· < ·)) {low high : ℕ}
    (narrowed : Narrowed starts offset low high) :
    Placed starts offset (search starts offset low high) := by
  fun_induction search starts offset low high with
  | case1 low high more middle missing =>
      have outside := List.getElem?_eq_none_iff.mp missing
      have inside : middle < high := by omega
      exact absurd (Nat.lt_of_lt_of_le inside narrowed.high_le) (Nat.not_lt_of_le outside)
  | case2 low high more middle found => exact found
  | case3 low high more middle start found different less ih =>
      exact ih (narrowed.upper increasing (by omega) found less)
  | case4 low high more middle start found different notLess ih =>
      exact ih (narrowed.lower increasing (by omega) found (by omega))
  | case5 low high closed =>
      obtain rfl : high = low := Nat.le_antisymm (Nat.le_of_not_lt closed) narrowed.low_le
      exact narrowed.placed

theorem placed_search (increasing : starts.Pairwise (· < ·)) (offset : ℕ) :
    Placed starts offset (search starts offset 0 starts.length) :=
  placed_search_of_narrowed increasing (narrowed_zero_length starts offset)

end TemplateLanguage.Text
