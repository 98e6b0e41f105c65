import Mathlib.Data.List.DropRight
import TemplateLanguage.Proofs.Source.Guarded

/-!
# Lines and their terminators

A line is shown without its terminator: the carriage returns at its end and, on every line but
the last one, a line feed behind them.  What is shown of the lines and their terminators in turn
are the whole text, so nothing of it is lost, and nothing stands in two lines.
-/

namespace TemplateLanguage

namespace Text

/-- The terminators at the end of a line. -/
def terminator (line : List Char) : List Char :=
  line.rtakeWhile isTerminator

variable {line : List Char}

theorem trimTerminators_append_terminator (line : List Char) :
    trimTerminators line ++ terminator line = line :=
  List.rdropWhile_append_rtakeWhile

theorem trimTerminators_prefix (line : List Char) : trimTerminators line <+: line :=
  List.rdropWhile_prefix isTerminator line

theorem getLast?_trimTerminators_ne (line : List Char) :
    (trimTerminators line).getLast? ≠ some '\r' := by
  intro last
  have filled : line.rdropWhile isTerminator ≠ [] := fun empty => by
    rw [trimTerminators, ← List.rdropWhile, empty] at last
    cases last
  have kept := List.rdropWhile_last_not isTerminator line filled
  rw [trimTerminators, ← List.rdropWhile, List.getLast?_eq_some_getLast filled,
    Option.some.injEq] at last
  exact kept (last ▸ rfl)

/-- Where there is no line feed, only carriage returns are trimmed. -/
theorem exists_terminator_eq (absent : '\n' ∉ line) :
    ∃ returns, terminator line = List.replicate returns '\r' := by
  refine ⟨(terminator line).length, List.eq_replicate_iff.mpr ⟨rfl, ?_⟩⟩
  intro char member
  have ends : isTerminator char = true := List.mem_rtakeWhile_imp member
  have present : char ∈ line := (List.rtakeWhile_suffix isTerminator line).mem member
  rw [isTerminator, Bool.or_eq_true, decide_eq_true_eq, decide_eq_true_eq] at ends
  rcases ends with rfl | isReturn
  · exact absurd present absent
  · exact isReturn

/-- Every line but the last is a body and its line feed. -/
theorem AreLines.exists_body {lines : List (List Char)} (areLines : AreLines lines) {index : ℕ}
    (found : lines[index]? = some line) :
    ∃ body, '\n' ∉ body ∧ line = body ++ if index + 1 < lines.length then ['\n'] else [] := by
  induction areLines generalizing index with
  | @last single absent =>
      cases index with
      | zero =>
          obtain rfl := Option.some.inj found
          exact ⟨_, absent, (List.append_nil _).symm⟩
      | succ index => cases found
  | @cons body rest absent more ih =>
      rw [List.length_cons]
      cases index with
      | zero =>
          obtain rfl := Option.some.inj found
          have behind : 0 + 1 < rest.length + 1 :=
            Nat.succ_lt_succ (List.length_pos_iff.mpr more.ne_nil)
          exact ⟨body, absent, by rw [if_pos behind]⟩
      | succ index =>
          rw [List.getElem?_cons_succ] at found
          rcases ih found with ⟨inner, plain, shape⟩
          refine ⟨inner, plain, ?_⟩
          simpa only [Nat.add_lt_add_iff_right] using shape

/-- A line that is a body and perhaps a line feed is trimmed as its body is. -/
theorem trimTerminators_append_ite (body : List Char) (closed : Prop) [Decidable closed] :
    trimTerminators (body ++ if closed then ['\n'] else []) = trimTerminators body := by
  by_cases close : closed
  · rw [if_pos close]
    exact List.rdropWhile_concat_pos isTerminator body '\n' rfl
  · rw [if_neg close, List.append_nil]

theorem terminator_append_ite (body : List Char) (closed : Prop) [Decidable closed] :
    terminator (body ++ if closed then ['\n'] else []) =
      terminator body ++ if closed then ['\n'] else [] := by
  by_cases close : closed
  · rw [if_pos close]
    exact List.rtakeWhile_concat_pos isTerminator body '\n' rfl
  · rw [if_neg close, List.append_nil, List.append_nil]

/-- The lines one after another, each found by its number, are the lines put together. -/
theorem flatMap_range'_eq_flatten {lines : List (List Char)} {part : ℕ → List Char}
    (finds : ∀ index line, lines[index]? = some line → part (index + 1) = line) :
    (List.range' 1 lines.length).flatMap part = lines.flatten := by
  induction lines generalizing part with
  | nil => rfl
  | cons line rest ih =>
      have later : (List.range' 1 rest.length).flatMap (fun number => part (1 + number)) =
          rest.flatten := by
        apply ih
        intro index other found
        rw [Nat.add_comm]
        exact finds (index + 1) other found
      rw [List.length_cons, List.range'_succ, List.flatMap_cons, ← List.map_add_range',
        List.flatMap_map, later, finds 0 line rfl, List.flatten_cons]

end Text

namespace Document

/-- What is shown of the lines of a document and the terminators behind them are its text. -/
structure PartitionedBy (document : Document) (terminator : ℕ → List Char) : Prop where
  isSome_line?_iff : ∀ number,
    (document.line? number).isSome = true ↔ 1 ≤ number ∧ number ≤ document.lineCount
  /-- No step of cutting a line out fails; in particular no cut falls inside a character. -/
  guardedLine_eq : ∀ number, document.guardedLine number = .ok (document.line? number)
  lineFeed_not_mem : ∀ number line, document.line? number = some line → '\n' ∉ line
  getLast?_ne : ∀ number line, document.line? number = some line → line.getLast? ≠ some '\r'
  terminator_eq : ∀ number, 1 ≤ number → number ≤ document.lineCount →
    ∃ returns, terminator number =
      List.replicate returns '\r' ++ if number < document.lineCount then ['\n'] else []
  flatMap_eq :
    ((List.range' 1 document.lineCount).flatMap fun number =>
      (document.line? number).getD [] ++ terminator number) = document.text

variable {document : Document}

theorem exists_of_line?_eq_some {number : ℕ} {line : List Char}
    (shown : document.line? number = some line) :
    ∃ index whole, number = index + 1 ∧ document.lines[index]? = some whole ∧
      Text.trimTerminators whole = line := by
  cases number with
  | zero => cases shown
  | succ index =>
      rcases Option.map_eq_some_iff.mp shown with ⟨whole, found, trimmed⟩
      exact ⟨index, whole, rfl, found, trimmed⟩

theorem isSome_line?_iff (number : ℕ) :
    (document.line? number).isSome = true ↔ 1 ≤ number ∧ number ≤ document.lineCount := by
  cases number with
  | zero => exact iff_of_false Bool.noConfusion fun within => Nat.not_succ_le_zero 0 within.1
  | succ index =>
      rw [line?, Option.isSome_map, isSome_getElem?, lineCount_eq]
      exact (and_iff_right (Nat.succ_pos index)).symm

theorem exists_body {index : ℕ} {whole : List Char}
    (found : document.lines[index]? = some whole) :
    ∃ body, '\n' ∉ body ∧
      whole = body ++ if index + 1 < document.lineCount then ['\n'] else [] := by
  rw [lineCount_eq]
  exact (Text.areLines_lines document.text).exists_body found

theorem lineFeed_not_mem_line? {number : ℕ} {line : List Char}
    (shown : document.line? number = some line) : '\n' ∉ line := by
  rcases exists_of_line?_eq_some shown with ⟨index, whole, -, found, rfl⟩
  rcases exists_body found with ⟨body, absent, rfl⟩
  rw [Text.trimTerminators_append_ite]
  exact fun member => absent ((Text.trimTerminators_prefix body).mem member)

/-- What is trimmed from a line. -/
theorem exists_terminator_eq {index : ℕ} {whole : List Char}
    (found : document.lines[index]? = some whole) :
    ∃ returns, Text.terminator whole =
      List.replicate returns '\r' ++ if index + 1 < document.lineCount then ['\n'] else [] := by
  rcases exists_body found with ⟨body, absent, rfl⟩
  rcases Text.exists_terminator_eq absent with ⟨returns, ends⟩
  exact ⟨returns, by rw [Text.terminator_append_ite, ends]⟩

/-- The lines of a document, what is trimmed from them in turn, and nothing else are its text. -/
theorem exists_partitionedBy (document : Document) :
    ∃ terminator : ℕ → List Char, document.PartitionedBy terminator := by
  refine ⟨fun number => Text.terminator (document.lines[number - 1]?.getD []), ?_⟩
  exact
    { isSome_line?_iff := isSome_line?_iff
      guardedLine_eq := document.guardedLine_eq
      lineFeed_not_mem := fun _ _ => lineFeed_not_mem_line?
      getLast?_ne := fun number line shown => by
        rcases exists_of_line?_eq_some shown with ⟨_, whole, -, -, rfl⟩
        exact Text.getLast?_trimTerminators_ne whole
      terminator_eq := fun number positive atMost => by
        obtain ⟨index, rfl⟩ : ∃ index, number = index + 1 :=
          Nat.exists_eq_succ_of_ne_zero (Nat.ne_of_gt positive)
        have inside : index < document.lines.length := by
          rw [← lineCount_eq]
          exact atMost
        have found := List.getElem?_eq_getElem inside
        rw [Nat.add_sub_cancel, found, Option.getD_some]
        exact exists_terminator_eq found
      flatMap_eq := by
        rw [lineCount_eq, Text.flatMap_range'_eq_flatten, lines, Text.flatten_lines]
        intro index line found
        rw [line?, Nat.add_sub_cancel, found, Option.map_some, Option.getD_some,
          Option.getD_some, Text.trimTerminators_append_terminator] }

/-- Carriage returns stay where a line begins with them, and go where it ends with them. -/
example :
    (List.range 5).map (Document.line? ⟨"page.stl", "é\r\n\rb\r\n\r\r".toList⟩) =
      [none, some ['é'], some ['\r', 'b'], some [], none] := by
  decide +kernel

end Document

end TemplateLanguage
