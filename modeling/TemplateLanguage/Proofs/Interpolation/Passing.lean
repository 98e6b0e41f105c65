import TemplateLanguage.Proofs.Interpolation.Concatenation

/-!
# What a scan has passed

What stands before the place at which a scan arrives is a text of its own that passes: every
section in it is closed in it.  The scan comes to the same place whatever stands there, as long
as that begins with the same character.
-/

namespace TemplateLanguage.Interpolation

variable {form : Form} {text before place : List Char}

/-- Whether a section begins somewhere depends on two characters. -/
theorem ne_opening_append_of_head? {char : Char} {rest other : List Char}
    (outside : ∀ (form : Form) (inside : List Char), char :: rest ≠ form.opening ++ inside)
    (same : ∀ next ∈ other.head?, rest.head? = some next) (form : Form) (inside : List Char) :
    char :: other ≠ form.opening ++ inside := by
  intro cut
  have leading : other.head? = some '{' := by
    cases form <;> exact congrArg List.head? (List.cons.inj cut).2
  obtain ⟨others, rfl⟩ := List.head?_eq_some_iff.mp (same '{' leading)
  apply outside form others
  cases form <;> rw [(List.cons.inj cut).1] <;> rfl

/-- A section is recognized alike whatever stands behind it. -/
theorem exists_reads_of_reads {inside after : List Char} {tokens : List Token}
    (reads : Lexer.Reads inside tokens after) (isSection : IsSection form tokens) :
    ∃ content, inside = content ++ '}' :: after ∧
      ∀ other, ∃ tokens, Lexer.Reads (content ++ '}' :: other) tokens other ∧
        IsSection form tokens := by
  obtain ⟨stop, recognized⟩ :=
    (recognize_initial_eq_ok_iff 0 2).mpr ⟨tokens, reads, isSection⟩
  obtain ⟨content, cut, _, same⟩ := exists_brace_of_recognize recognized
  exact ⟨content, cut, fun other => (recognize_initial_eq_ok_iff 0 2).mp ⟨_, same other⟩⟩

/-- A scan has passed a text of its own, and it passes it alike before everything that begins
with the same character. -/
theorem ScansTo.exists_passed (arrives : ScansTo place text) :
    ∃ before, text = before ++ place ∧ Scans before ∧
      ∀ other, other.head? = place.head? → ScansTo other (before ++ other) := by
  induction arrives with
  | here => exact ⟨[], rfl, .done, fun _ _ => .here⟩
  | escape _ ih =>
      obtain ⟨before, rfl, scans, again⟩ := ih
      exact ⟨_ :: _ :: before, rfl, .escape scans, fun other same => .escape (again other same)⟩
  | @skip char _ plain outside _ ih =>
      obtain ⟨before, rfl, scans, again⟩ := ih
      refine ⟨char :: before, rfl, ?_, ?_⟩
      · refine .skip plain (ne_opening_append_of_head? outside ?_) scans
        intro next leading
        rw [List.head?_append, leading]
        rfl
      · intro other same
        refine .skip plain (ne_opening_append_of_head? outside ?_) (again other same)
        intro next leading
        rw [List.head?_append, ← same, ← List.head?_append]
        exact leading
  | @interpolation form inside _ _ reads isSection _ ih =>
      obtain ⟨before, rfl, scans, again⟩ := ih
      obtain ⟨content, rfl, alike⟩ := exists_reads_of_reads reads isSection
      have cut : ∀ rest, form.opening ++ (content ++ '}' :: before) ++ rest =
          form.opening ++ (content ++ '}' :: (before ++ rest)) := by
        intro rest
        simp only [List.append_assoc, List.cons_append]
      refine ⟨form.opening ++ (content ++ '}' :: before), (cut place).symm, ?_, ?_⟩
      · obtain ⟨_, reads, isSection⟩ := alike before
        exact .interpolation reads isSection scans
      · intro other same
        obtain ⟨_, reads, isSection⟩ := alike (before ++ other)
        rw [cut]
        exact .interpolation reads isSection (again other same)

/-- What stands before the place at which a scan arrives passes on its own. -/
theorem ScansTo.scans_before (arrives : ScansTo place (before ++ place)) : Scans before := by
  obtain ⟨passed, cut, scans, _⟩ := arrives.exists_passed
  rw [List.append_cancel_right cut]
  exact scans

/-- A scan arrives at one section as at another of the same form in its place. -/
theorem ScansTo.replace {inside : List Char}
    (arrives : ScansTo (form.opening ++ inside) (before ++ (form.opening ++ inside)))
    (other : List Char) :
    ScansTo (form.opening ++ other) (before ++ (form.opening ++ other)) := by
  obtain ⟨passed, cut, _, again⟩ := arrives.exists_passed
  rw [List.append_cancel_right cut]
  apply again
  cases form <;> rfl

/-- A text passes if a scan arrives at an end of it that does. -/
theorem Scans.of_scansTo (scans : Scans place) (arrives : ScansTo place text) : Scans text := by
  induction arrives with
  | here => exact scans
  | escape _ ih => exact .escape ih
  | skip plain outside _ ih => exact .skip plain outside ih
  | interpolation reads isSection _ ih => exact .interpolation reads isSection ih

/-- Blanks are passed. -/
theorem Scans.blanks {blanks : List Char} (blank : ∀ char ∈ blanks, Token.isBlank char = true)
    (scans : Scans text) : Scans (blanks ++ text) := by
  induction blanks with
  | nil => exact scans
  | cons char others ih =>
      refine .skip ?_ ?_ (ih fun other member => blank other (List.mem_cons_of_mem char member))
      · rintro rfl
        cases blank '\\' List.mem_cons_self
      · intro form inside cut
        have isBlank := blank char List.mem_cons_self
        cases form with
        | plain =>
            rw [(List.cons.inj cut).1] at isBlank
            cases isBlank
        | numeric =>
            rw [(List.cons.inj cut).1] at isBlank
            cases isBlank

end TemplateLanguage.Interpolation
