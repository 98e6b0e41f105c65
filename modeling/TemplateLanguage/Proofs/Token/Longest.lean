import Mathlib.Data.List.TakeWhile
import TemplateLanguage.Proofs.Token.Pattern

/-!
# The longest match

The reader takes off the longest beginning of a text that belongs to the pattern
of some token, and prefers keywords to names.  It reads nothing where no pattern
has a beginning of the text, and in one more place: an `r` before a quote opens a
raw string, and is no name even if the quote does not come again.

Every text of a pattern at the beginning of a text gives rise to a token that is
read there and is no shorter.  As only one token is read there, it is the longest
one.
-/

namespace TemplateLanguage.Token

variable {text taken word rest : List Char} {token : Token}

/-- The text begins with a raw string whose quote does not come again. -/
def UnclosedRaw (text : List Char) : Prop :=
  ∃ quote others, isQuote quote = true ∧ text = 'r' :: quote :: others ∧ quote ∉ others

/-- The longest beginning of a text that belongs to a pattern, with its token:
where several patterns have it, the others are those of names. -/
structure Longest (text : List Char) (token : Token) (taken : List Char) : Prop where
  leads : taken <+: text
  belongs : taken ∈ token.pattern
  longest : ∀ (other : Token) (beginning : List Char), beginning ∈ other.pattern →
    beginning <+: text → beginning.length ≤ taken.length
  preferred : ∀ other : Token, taken ∈ other.pattern → other = token ∨ other = name

/-- No token begins a text. -/
def Unreadable (text : List Char) : Prop :=
  (∀ (token : Token) (beginning : List Char), beginning ∈ token.pattern → beginning ≠ [] →
    ¬beginning <+: text) ∨ UnclosedRaw text

/-- What is read from a text is no shorter than a text of a token, and where it
is the same text, it is the same token or the other one is a name. -/
structure Outruns (reading : Reading) (token : Token) (taken text : List Char) : Prop where
  read : read? text = some reading
  length_le : taken.length ≤ reading.text.length
  token_eq : reading.text = taken → token = reading.token ∨ token = name

/-! ## Reading where a pattern begins -/

theorem ReadsAs.outruns {longer after : List Char} {other : Token}
    (readsAs : ReadsAs other longer after) (cut : taken ++ rest = longer ++ after)
    (length_le : taken.length ≤ longer.length)
    (token_eq : longer = taken → token = other ∨ token = name) :
    ∃ reading, Outruns reading token taken (taken ++ rest) :=
  ⟨_, read?_eq_some_iff.mpr ⟨cut, readsAs⟩, length_le, token_eq⟩

theorem isWord_append {more : List Char} (isWord : isWord word = true)
    (all : ∀ char ∈ more, continuesWord char = true) : Token.isWord (word ++ more) = true := by
  cases word with
  | nil => cases isWord
  | cons first others =>
      rw [Token.isWord, Bool.and_eq_true] at isWord
      rw [List.cons_append, Token.isWord, isWord.1, List.all_append, isWord.2,
        List.all_eq_true.mpr all]
      rfl

theorem exists_outruns_word (isWord : isWord word = true)
    (closed : ¬UnclosedRaw (word ++ rest)) (token_eq : token = ofWord word ∨ token = name) :
    ∃ reading, Outruns reading token word (word ++ rest) := by
  by_cases raw : word = ['r'] ∧ ∃ quote ∈ rest.head?, isQuote quote = true
  · obtain ⟨rfl, quote, leading, isQuote⟩ := raw
    cases rest with
    | nil => cases leading
    | cons first others =>
        cases leading
        have again : quote ∈ others := by
          refine Classical.not_not.mp fun absent => ?_
          exact closed ⟨quote, others, isQuote, rfl, absent⟩
        obtain ⟨value, after, rfl, absent⟩ := List.eq_append_cons_of_mem again
        have readsAs : ReadsAs rawString ('r' :: quote :: (value ++ [quote])) after :=
          .rawString isQuote absent
        refine readsAs.outruns ?_ ?_ ?_
        · rw [List.append_cons value quote after]
          rfl
        · simp
        · intro same
          cases same
  · have cut : word ++ rest =
        word ++ rest.takeWhile continuesWord ++ rest.dropWhile continuesWord := by
      rw [List.append_assoc, List.takeWhile_append_dropWhile]
    have longer : Token.isWord (word ++ rest.takeWhile continuesWord) = true :=
      isWord_append isWord fun _ => List.mem_takeWhile_imp
    refine (ReadsAs.word longer (stops_dropWhile continuesWord rest) ?_).outruns cut ?_ ?_
    · intro single char leading
      -- the word itself is the `r`, and the rest is what follows it
      rcases List.append_eq_singleton_iff.mp single with ⟨rfl, _⟩ | ⟨rfl, none⟩
      · cases isWord
      · have left := List.takeWhile_append_dropWhile (p := continuesWord) (l := rest)
        rw [none, List.nil_append] at left
        rw [left] at leading
        rw [← Bool.not_eq_true]
        exact fun isQuote => raw ⟨rfl, char, leading, isQuote⟩
    · rw [List.length_append]
      exact Nat.le_add_right _ _
    · intro same
      rw [same]
      exact token_eq

theorem exists_outruns_integer {digits : List Char} (filled : digits ≠ [])
    (all : ∀ char ∈ digits, char.isDigit = true) :
    ∃ reading, Outruns reading integer digits (digits ++ rest) := by
  have whole : ∀ char ∈ digits ++ rest.takeWhile Char.isDigit, char.isDigit = true :=
    List.forall_mem_append.mpr ⟨all, fun _ => List.mem_takeWhile_imp⟩
  have wholeFilled := List.append_ne_nil_of_left_ne_nil filled (rest.takeWhile Char.isDigit)
  have cut : digits ++ rest =
      digits ++ rest.takeWhile Char.isDigit ++ rest.dropWhile Char.isDigit := by
    rw [List.append_assoc, List.takeWhile_append_dropWhile]
  by_cases places : ∃ next others, rest.dropWhile Char.isDigit = '.' :: next :: others ∧
      next.isDigit = true
  · obtain ⟨next, others, left, digit⟩ := places
    have placesFilled : (next :: others).takeWhile Char.isDigit ≠ [] := by
      simp [digit]
    refine (ReadsAs.decimal wholeFilled whole placesFilled (fun _ => List.mem_takeWhile_imp)
      (stops_dropWhile Char.isDigit (next :: others))).outruns ?_ ?_ ?_
    · rw [cut, left, List.append_assoc _ ('.' :: _), List.cons_append,
        List.takeWhile_append_dropWhile]
    · rw [List.append_assoc, List.length_append]
      exact Nat.le_add_right _ _
    · intro same
      have point : '.' ∈ digits := by
        rw [← same]
        exact List.mem_append_right _ List.mem_cons_self
      cases all '.' point
  · refine (ReadsAs.integer wholeFilled whole (stops_dropWhile Char.isDigit rest) ?_).outruns
      cut ?_ ?_
    · intro next others left
      rw [← Bool.not_eq_true]
      exact fun digit => places ⟨next, others, left, digit⟩
    · rw [List.length_append]
      exact Nat.le_add_right _ _
    · exact fun _ => Or.inl rfl

theorem exists_outruns_decimal {whole places : List Char} (filled : whole ≠ [])
    (all : ∀ char ∈ whole, char.isDigit = true) (placesFilled : places ≠ [])
    (allPlaces : ∀ char ∈ places, char.isDigit = true) :
    ∃ reading, Outruns reading decimal (whole ++ '.' :: places)
      (whole ++ '.' :: places ++ rest) := by
  have longer : ∀ char ∈ places ++ rest.takeWhile Char.isDigit, char.isDigit = true :=
    List.forall_mem_append.mpr ⟨allPlaces, fun _ => List.mem_takeWhile_imp⟩
  refine (ReadsAs.decimal filled all (List.append_ne_nil_of_left_ne_nil placesFilled _) longer
    (stops_dropWhile Char.isDigit rest)).outruns ?_ ?_ ?_
  · simp
  · simp
  · exact fun _ => Or.inl rfl

theorem exists_outruns_symbol (listed : (taken, token) ∈ symbols) :
    ∃ reading, Outruns reading token taken (taken ++ rest) := by
  have leads : taken <+: taken ++ rest := List.prefix_append taken rest
  cases read : readSymbol? (taken ++ rest) with
  | none =>
      have unread := List.find?_eq_none.mp (Option.map_eq_none_iff.mp read) _ listed
      exact (unread (List.isPrefixOf_iff_prefix.mpr leads)).elim
  | some reading =>
      refine ⟨reading, ?_, ?_, ?_⟩
      · rw [read?_of_mem_symbols listed, read]
      · exact length_le_of_readSymbol? read listed leads
      · intro same
        obtain ⟨_, otherListed, _⟩ := readSymbol?_eq_some_iff.mp read
        exact Or.inl (congrArg Prod.snd (eq_of_mem_symbols _ listed _ otherListed same.symm))

/-- Where a text of a pattern begins, a token is read that is no shorter. -/
theorem exists_outruns (belongs : Matches token taken) (closed : ¬UnclosedRaw (taken ++ rest)) :
    ∃ reading, Outruns reading token taken (taken ++ rest) := by
  cases belongs with
  | keyword listed =>
      have keyword : ∀ entry ∈ keywords, isWord entry.1 = true ∧ ofWord entry.1 = entry.2 := by
        decide
      obtain ⟨isWord, word⟩ := keyword _ listed
      exact exists_outruns_word isWord closed (Or.inl word.symm)
  | name isWord => exact exists_outruns_word isWord closed (Or.inr rfl)
  | integer filled all => exact exists_outruns_integer filled all
  | decimal filled all placesFilled allPlaces =>
      exact exists_outruns_decimal filled all placesFilled allPlaces
  | string isQuote valid =>
      exact (ReadsAs.string isQuote valid).outruns rfl (Nat.le_refl _) fun _ => Or.inl rfl
  | rawString isQuote absent =>
      exact (ReadsAs.rawString isQuote absent).outruns rfl (Nat.le_refl _) fun _ => Or.inl rfl
  | symbol listed => exact exists_outruns_symbol listed

/-! ## The token that is read -/

theorem ReadsAs.belongs (readsAs : ReadsAs token taken rest) : Matches token taken := by
  cases readsAs with
  | word isWord =>
      rcases mem_keywords_or_ofWord_eq_name taken with keyword | isName
      · exact .keyword keyword
      · rw [isName]
        exact .name isWord
  | integer filled all => exact .integer filled all
  | decimal filled all placesFilled allPlaces => exact .decimal filled all placesFilled allPlaces
  | string isQuote valid => exact .string isQuote valid
  | rawString isQuote absent => exact .rawString isQuote absent
  | symbol listed => exact .symbol listed

theorem read?_of_unclosedRaw (unclosed : UnclosedRaw text) : read? text = none := by
  obtain ⟨quote, others, isQuote, rfl, absent⟩ := unclosed
  rw [read?_of_raw isQuote, closeRaw?_eq_none_iff.mpr absent]
  rfl

theorem not_unclosedRaw_of_read? {reading : Reading} (read : read? text = some reading) :
    ¬UnclosedRaw text := by
  intro unclosed
  rw [read?_of_unclosedRaw unclosed] at read
  cases read

/-- The token that is read is the longest match. -/
theorem longest_of_read? {reading : Reading} (read : read? text = some reading) :
    Longest text reading.token reading.text := by
  have closed := not_unclosedRaw_of_read? read
  have cut := append_of_read? read
  have outrun : ∀ {other : Token} {beginning : List Char}, beginning ∈ other.pattern →
      beginning <+: text → Outruns reading other beginning text := by
    rintro other beginning member ⟨after, rfl⟩
    obtain ⟨again, outruns⟩ := exists_outruns (mem_pattern_iff.mp member) closed
    have same := outruns.read
    rw [read] at same
    cases same
    exact outruns
  refine ⟨⟨reading.rest, cut⟩, mem_pattern_iff.mpr (readsAs_of_read? read).belongs, ?_, ?_⟩
  · intro other beginning member leads
    exact (outrun member leads).length_le
  · intro other member
    exact (outrun member ⟨reading.rest, cut⟩).token_eq rfl

/-- Nothing is read exactly where no token begins. -/
theorem read?_eq_none_iff : read? text = none ↔ Unreadable text := by
  constructor
  · intro unread
    by_cases unclosed : UnclosedRaw text
    · exact Or.inr unclosed
    · refine Or.inl ?_
      rintro token beginning member _ ⟨after, rfl⟩
      obtain ⟨reading, outruns⟩ := exists_outruns (mem_pattern_iff.mp member) unclosed
      have read := outruns.read
      rw [unread] at read
      cases read
  · rintro (nowhere | unclosed)
    · cases read : read? text with
      | none => rfl
      | some reading =>
          have longest := longest_of_read? read
          exact (nowhere _ _ longest.belongs (text_ne_nil_of_read? read) longest.leads).elim
    · exact read?_of_unclosedRaw unclosed

end TemplateLanguage.Token
