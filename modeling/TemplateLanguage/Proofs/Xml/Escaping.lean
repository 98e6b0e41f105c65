import Mathlib.Data.List.Basic
import TemplateLanguage.Xml

/-!
# Escaping character by character

Escaping a text, whether as a whole or in pieces through a writer, replaces each of its
characters on its own.  So it does not matter how a text is cut before it is written:
what a writer holds is the escaped form of all that was written to it.
-/

namespace TemplateLanguage.Xml

/-- The characters that have an entity. -/
def entities : List (Char × List Char) :=
  [('<', ['&', 'l', 't', ';']),
    ('>', ['&', 'g', 't', ';']),
    ('&', ['&', 'a', 'm', 'p', ';']),
    ('"', ['&', 'q', 'u', 'o', 't', ';']),
    ('\'', ['&', 'a', 'p', 'o', 's', ';'])]

/-- The entity of a character, or the character itself if it has none. -/
def replacement (char : Char) : List Char :=
  (entities.lookup char).getD [char]

/-- A text with each of its characters replaced. -/
def replaced (text : List Char) : List Char :=
  text.flatMap replacement

/-! ## Characters -/

theorem lookup_entities (char : Char) : entities.lookup char = entity? char := by
  unfold entity?
  split
  case h_6 angle bracket ampersand quote apostrophe =>
    rw [List.lookup_eq_none_iff]
    intro entry listed
    apply bne_iff_ne.mpr
    rintro rfl
    simp only [entities, List.mem_cons, List.not_mem_nil, or_false] at listed
    rcases listed with rfl | rfl | rfl | rfl | rfl
    · exact angle rfl
    · exact bracket rfl
    · exact ampersand rfl
    · exact quote rfl
    · exact apostrophe rfl
  all_goals rfl

theorem replacement_of_entity? {char : Char} {spelled : List Char}
    (found : entity? char = some spelled) : replacement char = spelled := by
  rw [replacement, lookup_entities, found, Option.getD_some]

theorem replacement_of_entity?_eq_none {char : Char} (none : entity? char = none) :
    replacement char = [char] := by
  rw [replacement, lookup_entities, none, Option.getD_none]

theorem replaced_cons (char : Char) (rest : List Char) :
    replaced (char :: rest) = replacement char ++ replaced rest :=
  List.flatMap_cons

theorem replaced_append (first second : List Char) :
    replaced (first ++ second) = replaced first ++ replaced second :=
  List.flatMap_append

theorem isPlain_cons (char : Char) (rest : List Char) :
    isPlain (char :: rest) = true ↔ entity? char = none ∧ isPlain rest = true := by
  simp [isPlain]

theorem replaced_of_isPlain {text : List Char} (plain : isPlain text = true) :
    replaced text = text := by
  induction text with
  | nil => rfl
  | cons char rest ih =>
      obtain ⟨none, others⟩ := (isPlain_cons char rest).mp plain
      rw [replaced_cons, replacement_of_entity?_eq_none none, ih others]
      rfl

/-! ## Texts -/

/-- A stretch between two cuts of the text cuts no character. -/
theorem spelled?_stretch {text before run rest : List Char} (cut : text = before ++ run ++ rest) :
    (Piece.stretch (Text.width before) (Text.width (before ++ run))).spelled? text = some run := by
  rw [cut]
  exact Text.slice?_append before run rest

/-- The scan goes on where `before` has been written and `run` has been passed. -/
theorem piecesFrom_spec {text before run rest : List Char} (cut : text = before ++ run ++ rest) :
    (∀ piece ∈ piecesFrom (Text.width before) (Text.width (before ++ run)) rest,
        (piece.spelled? text).isSome = true) ∧
      (piecesFrom (Text.width before) (Text.width (before ++ run)) rest).flatMap
        (Piece.spelled text) = run ++ replaced rest := by
  induction rest generalizing before run with
  | nil =>
      have stretch := spelled?_stretch cut
      rw [piecesFrom]
      constructor
      · intro piece member
        rw [List.mem_singleton.mp member, stretch, Option.isSome_some]
      · rw [List.flatMap_singleton, Piece.spelled, stretch]
        exact (List.append_nil run).symm
  | cons char others ih =>
      have passed : Text.width (before ++ run) + char.utf8Size =
          Text.width (before ++ run ++ [char]) := by
        rw [Text.width_append _ [char], Text.width_cons, Text.width_nil, Nat.add_zero]
      rw [piecesFrom, passed, replaced_cons]
      cases found : entity? char with
      | some entity =>
          -- the run is written, and the next one begins behind the character
          have stretch := spelled?_stretch cut
          have after : text = before ++ run ++ [char] ++ [] ++ others := by
            rw [cut, List.append_nil, List.append_assoc _ [char], List.singleton_append]
          have rests := ih after
          rw [List.append_nil] at rests
          constructor
          · intro piece member
            rcases List.mem_cons.mp member with rfl | member
            · rw [stretch, Option.isSome_some]
            · rcases List.mem_cons.mp member with rfl | member
              · rfl
              · exact rests.1 piece member
          · rw [List.flatMap_cons, List.flatMap_cons, rests.2, Piece.spelled, stretch,
              replacement_of_entity? found]
            rfl
      | none =>
          -- the run goes on with the character
          have longer : text = before ++ (run ++ [char]) ++ others := by
            rw [cut, List.append_assoc before, List.append_assoc before, List.append_assoc run,
              List.singleton_append]
          have rests := ih longer
          rw [← List.append_assoc] at rests
          refine ⟨rests.1, ?_⟩
          rw [rests.2, replacement_of_entity?_eq_none found, List.append_assoc]

/-- No piece cuts a character. -/
theorem none_not_mem_spelled?_pieces (text : List Char) :
    none ∉ (pieces text).map (Piece.spelled? text) := by
  intro cut
  obtain ⟨piece, member, nothing⟩ := List.mem_map.mp cut
  have something := (piecesFrom_spec (show text = [] ++ [] ++ text from rfl)).1 piece member
  rw [nothing] at something
  cases something

theorem assemble_eq_replaced (text : List Char) : assemble text = replaced text :=
  (piecesFrom_spec (show text = [] ++ [] ++ text from rfl)).2

/-- Escaping a text replaces each character, whether the text is kept or put together. -/
theorem escape_eq_replaced (text : List Char) : escape text = replaced text := by
  rw [escape]
  split
  · rename_i plain
    exact (replaced_of_isPlain plain).symm
  · exact assemble_eq_replaced text

/-- A text is plain exactly if it holds none of the five characters. -/
theorem isPlain_iff (text : List Char) :
    isPlain text = true ↔ List.Disjoint text (entities.map Prod.fst) := by
  induction text with
  | nil => simp [isPlain]
  | cons char rest ih =>
      rw [isPlain_cons, ih, List.disjoint_cons_left, ← lookup_entities,
        List.lookup_eq_none_iff]
      apply and_congr_left'
      constructor
      · intro unlisted listed
        obtain ⟨entry, member, rfl⟩ := List.mem_map.mp listed
        exact bne_iff_ne.mp (unlisted entry member) rfl
      · intro unlisted entry member
        apply bne_iff_ne.mpr
        rintro rfl
        exact unlisted (List.mem_map_of_mem member)

/-! ## Writers -/

/-- A write adds the replaced content. -/
theorem written_write (writer : Writer) (write : Write) :
    (writer.write write).written = writer.written ++ replaced write.content := by
  cases write with
  | text content =>
      exact congrArg (writer.written ++ ·) (assemble_eq_replaced content)
  | char content =>
      have single : replaced [content] = replacement content := List.flatMap_singleton ..
      rw [Writer.write, Writer.writeChar, Write.content, single]
      cases found : entity? content with
      | some entity => rw [replacement_of_entity? found]
      | none => rw [replacement_of_entity?_eq_none found]

theorem written_foldl (writer : Writer) (writes : List Write) :
    (writes.foldl Writer.write writer).written =
      writer.written ++ replaced (writes.flatMap Write.content) := by
  induction writes generalizing writer with
  | nil => exact (List.append_nil _).symm
  | cons write others ih =>
      rw [List.foldl_cons, ih, written_write, List.flatMap_cons, replaced_append,
        List.append_assoc]

/-- At every point of a run, a writer holds what it held at first and the escaped form of
all that has been written.  The escaped form is put together without cutting a character,
and it has each character replaced by its entity, whether or not the text is its own
escaped form. -/
theorem written_foldl_write (writer : Writer) (writes : List Write) (count : Nat) :
    ((writes.take count).foldl Writer.write writer).written =
        writer.written ++ escape ((writes.take count).flatMap Write.content) ∧
      ∀ text, escape text = replaced text ∧ assemble text = replaced text ∧
        none ∉ (pieces text).map (Piece.spelled? text) ∧
        (isPlain text = true ↔ List.Disjoint text (entities.map Prod.fst)) := by
  constructor
  · rw [escape_eq_replaced]
    exact written_foldl writer (writes.take count)
  · intro text
    exact ⟨escape_eq_replaced text, assemble_eq_replaced text,
      none_not_mem_spelled?_pieces text, isPlain_iff text⟩

end TemplateLanguage.Xml
