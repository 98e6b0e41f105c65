import TemplateLanguage.Token.Lexer

/-!
# Where tokens end

`ReadsAs token taken rest` says without the reader that `taken` is a text of
the token and goes as far as it can before `rest`.  The reader takes a token off
a text exactly if the text is cut in this way.

Each kind of token asks something else of the rest: a word must not go on, nor a
number, and no symbol may be the beginning of a longer one.  A quoted string ends
at its quote, whatever follows.
-/

namespace TemplateLanguage.Token

/-- A letter or an underscore, and then letters, underscores and digits. -/
def isWord : List Char → Bool
  | [] => false
  | first :: others => startsWord first && others.all continuesWord

/-- What may stand between the quotes of a string with escapes. -/
inductive QuotedBody (quote : Char) : List Char → Prop
  | nil : QuotedBody quote []
  | plain {char : Char} {rest : List Char} : char ≠ quote → char ≠ '\\' →
      QuotedBody quote rest → QuotedBody quote (char :: rest)
  /-- A backslash takes the next character with it. -/
  | escape {char : Char} {rest : List Char} : char ≠ '\n' →
      QuotedBody quote rest → QuotedBody quote ('\\' :: char :: rest)

/-- A text of a token that goes as far as it can before the rest. -/
inductive ReadsAs : Token → List Char → List Char → Prop
  /-- An `r` before a quote is no word. -/
  | word {word rest : List Char} : isWord word = true →
      (∀ char ∈ rest.head?, continuesWord char = false) →
      (word = ['r'] → ∀ char ∈ rest.head?, isQuote char = false) →
      ReadsAs (ofWord word) word rest
  | integer {digits rest : List Char} : digits ≠ [] →
      (∀ char ∈ digits, char.isDigit = true) →
      (∀ char ∈ rest.head?, char.isDigit = false) →
      (∀ next others, rest = '.' :: next :: others → next.isDigit = false) →
      ReadsAs integer digits rest
  | decimal {whole places rest : List Char} : whole ≠ [] →
      (∀ char ∈ whole, char.isDigit = true) → places ≠ [] →
      (∀ char ∈ places, char.isDigit = true) →
      (∀ char ∈ rest.head?, char.isDigit = false) →
      ReadsAs decimal (whole ++ '.' :: places) rest
  | string {quote : Char} {body rest : List Char} : isQuote quote = true →
      QuotedBody quote body → ReadsAs string (quote :: (body ++ [quote])) rest
  | rawString {quote : Char} {value rest : List Char} : isQuote quote = true →
      quote ∉ value → ReadsAs rawString ('r' :: quote :: (value ++ [quote])) rest
  /-- No symbol goes on with the next character. -/
  | symbol {token : Token} {spelled rest : List Char} : (spelled, token) ∈ symbols →
      (∀ char ∈ rest.head?, spelled ++ [char] ∉ symbols.map Prod.fst) →
      ReadsAs token spelled rest

variable {text word taken rest : List Char} {quote : Char} {token : Token}

/-! ## Characters -/

/-- A beginning whose characters have a property is all of it if the rest begins
otherwise. -/
theorem span_append {property : Char → Bool}
    (all : ∀ char ∈ word, property char = true)
    (stops : ∀ char ∈ rest.head?, property char = false) :
    (word ++ rest).takeWhile property = word ∧ (word ++ rest).dropWhile property = rest := by
  rw [List.takeWhile_append_of_pos all, List.dropWhile_append_of_pos all]
  cases rest with
  | nil => exact ⟨List.append_nil word, rfl⟩
  | cons char others =>
      have stop := stops char rfl
      simp [stop]

theorem not_isDigit_of_startsWord {char : Char} (starts : startsWord char = true) :
    char.isDigit = false := by
  have range : (decide ('A'.val ≤ char.val ∧ char.val ≤ 'Z'.val) ||
      ('a'.val ≤ char.val && char.val ≤ 'z'.val) || char = '_') = true := starts
  simp only [Bool.or_eq_true, Bool.and_eq_true, decide_eq_true_eq, UInt32.le_iff_toNat_le]
    at range
  rw [← Bool.not_eq_true, Char.isDigit_iff_toNat]
  change ¬(48 ≤ char.val.toNat ∧ char.val.toNat ≤ 57)
  rcases range with (upper | lower) | rfl
  · have above : 65 ≤ char.val.toNat := upper.1
    omega
  · have above : 97 ≤ char.val.toNat := lower.1
    omega
  · decide

theorem not_isQuote_of_continuesWord {char : Char} (continues : continuesWord char = true) :
    isQuote char = false := by
  rw [isQuote, Bool.or_eq_false_iff, decide_eq_false_iff_not, decide_eq_false_iff_not]
  constructor
  · rintro rfl
    cases continues
  · rintro rfl
    cases continues

theorem ne_of_startsWord {char other : Char} (starts : startsWord char = true)
    (noStart : startsWord other = false) : char ≠ other := by
  rintro rfl
  rw [starts] at noStart
  cases noStart

theorem ne_of_isDigit {char other : Char} (digit : char.isDigit = true)
    (noDigit : other.isDigit = false) : char ≠ other := by
  rintro rfl
  rw [digit] at noDigit
  cases noDigit

/-! ## Words and numbers -/

/-- A word is a keyword or a name. -/
theorem mem_keywords_or_ofWord_eq_name (word : List Char) :
    (word, ofWord word) ∈ keywords ∨ ofWord word = name := by
  rw [ofWord]
  cases found : keywords.lookup word with
  | none => exact Or.inr rfl
  | some token =>
      obtain ⟨before, after, table, _⟩ := List.lookup_eq_some_iff.mp found
      refine Or.inl ?_
      rw [table]
      exact List.mem_append_right _ List.mem_cons_self

theorem exists_cons_of_isWord (isWord : isWord word = true) :
    ∃ first others, word = first :: others ∧ startsWord first = true ∧
      ∀ char ∈ word, continuesWord char = true := by
  cases word with
  | nil => cases isWord
  | cons first others =>
      rw [Token.isWord, Bool.and_eq_true, List.all_eq_true] at isWord
      refine ⟨first, others, rfl, isWord.1, ?_⟩
      intro char member
      rcases List.mem_cons.mp member with rfl | member
      · rw [continuesWord, isWord.1, Bool.true_or]
      · exact isWord.2 char member

/-- Where a word begins, it is read, unless it is the `r` before a quote. -/
theorem read?_of_startsWord {first : Char} {others : List Char}
    (starts : startsWord first = true)
    (unquoted : first = 'r' → ∀ char ∈ others.head?, isQuote char = false) :
    read? (first :: others) = some (readWord (first :: others)) := by
  unfold read?
  split
  · rename_i cut
    cases cut
  · rename_i quote following cut
    cases cut
    -- only here the second character matters: an `r` before a quote is no word
    rw [if_neg (by simp [unquoted rfl quote rfl])]
  · rename_i cut
    cases cut
    rw [if_pos starts]

theorem read?_of_isDigit {first : Char} {others : List Char} (digit : first.isDigit = true) :
    read? (first :: others) = some (readNumber (first :: others)) := by
  have noWord : startsWord first ≠ true := by
    intro starts
    rw [not_isDigit_of_startsWord starts] at digit
    cases digit
  unfold read?
  split
  · rename_i cut
    cases cut
  · rename_i cut
    cases cut
    cases digit
  · rename_i cut
    cases cut
    rw [if_neg noWord, if_pos digit]

theorem read?_digits {digits : List Char} (filled : digits ≠ [])
    (all : ∀ char ∈ digits, char.isDigit = true) :
    read? (digits ++ rest) = some (readNumber (digits ++ rest)) := by
  cases digits with
  | nil => exact absurd rfl filled
  | cons first others => exact read?_of_isDigit (all first List.mem_cons_self)

theorem stops_dropWhile (property : Char → Bool) (text : List Char) :
    ∀ char ∈ (text.dropWhile property).head?, property char = false := by
  intro char leading
  have stops := List.head?_dropWhile_not property text
  rw [Option.mem_def.mp leading] at stops
  exact stops

theorem readsAs_readWord {first : Char} {others : List Char} (starts : startsWord first = true)
    (unquoted : ∀ next more, first :: others = 'r' :: next :: more → isQuote next = false) :
    ReadsAs (readWord (first :: others)).token (readWord (first :: others)).text
      (readWord (first :: others)).rest := by
  have continues : continuesWord first = true := by
    rw [continuesWord, starts, Bool.true_or]
  refine .word ?_ (stops_dropWhile continuesWord _) ?_
  · rw [List.takeWhile_cons_of_pos continues, isWord, starts, Bool.true_and]
    exact List.all_takeWhile
  · intro single char leading
    have cut := append_readWord (first :: others)
    change (readWord (first :: others)).text = ['r'] at single
    change char ∈ (readWord (first :: others)).rest.head? at leading
    rw [single] at cut
    cases left : (readWord (first :: others)).rest with
    | nil =>
        rw [left] at leading
        cases leading
    | cons next more =>
        rw [left] at leading cut
        cases leading
        exact unquoted _ _ cut.symm

theorem readsAs_readNumber {first : Char} {others : List Char} (digit : first.isDigit = true) :
    ReadsAs (readNumber (first :: others)).token (readNumber (first :: others)).text
      (readNumber (first :: others)).rest := by
  have filled : (first :: others).takeWhile Char.isDigit ≠ [] := by
    simp [digit]
  have all : ∀ char ∈ (first :: others).takeWhile Char.isDigit, char.isDigit = true :=
    List.all_eq_true.mp List.all_takeWhile
  have stops := stops_dropWhile Char.isDigit (first :: others)
  unfold readNumber
  split
  · rename_i next more cut
    rw [cut] at stops
    split
    · rename_i place
      have placesFilled : (next :: more).takeWhile Char.isDigit ≠ [] := by
        simp [place]
      exact .decimal filled all placesFilled (List.all_eq_true.mp List.all_takeWhile)
        (stops_dropWhile Char.isDigit _)
    · rename_i noPlace
      refine .integer filled all stops ?_
      intro digit others same
      cases same
      exact Bool.eq_false_iff.mpr noPlace
  · rename_i noPlaces
    exact .integer filled all stops fun next more cut => (noPlaces next more cut).elim

/-! ## Strings -/

theorem closeRaw?_eq_some_iff :
    closeRaw? quote text = some (taken, rest) ↔
      ∃ value, quote ∉ value ∧ taken = value ++ [quote] ∧ text = value ++ quote :: rest := by
  induction text generalizing taken with
  | nil => simp [closeRaw?]
  | cons char others ih =>
      rw [closeRaw?]
      split
      · rename_i closes
        subst closes
        constructor
        · intro closed
          cases closed
          exact ⟨[], List.not_mem_nil, rfl, rfl⟩
        · rintro ⟨value, plain, rfl, cut⟩
          cases value with
          | nil =>
              cases cut
              rfl
          | cons first more =>
              cases cut
              exact (plain List.mem_cons_self).elim
      · rename_i goesOn
        rw [Option.map_eq_some_iff]
        constructor
        · rintro ⟨⟨inner, left⟩, closed, same⟩
          cases same
          obtain ⟨value, plain, rfl, rfl⟩ := ih.mp closed
          refine ⟨char :: value, ?_, rfl, rfl⟩
          rw [List.mem_cons, not_or]
          exact ⟨Ne.symm goesOn, plain⟩
        · rintro ⟨value, plain, rfl, cut⟩
          cases value with
          | nil =>
              cases cut
              exact (goesOn rfl).elim
          | cons first more =>
              cases cut
              rw [List.mem_cons, not_or] at plain
              exact ⟨(more ++ [quote], rest), ih.mpr ⟨more, plain.2, rfl, rfl⟩, rfl⟩

/-- A raw string is not closed exactly if its quote does not come again. -/
theorem closeRaw?_eq_none_iff : closeRaw? quote text = none ↔ quote ∉ text := by
  induction text with
  | nil => simp [closeRaw?]
  | cons char others ih =>
      rw [closeRaw?, List.mem_cons, not_or]
      split
      · rename_i closes
        simp [closes]
      · rename_i goesOn
        rw [Option.map_eq_none_iff, ih]
        exact (and_iff_right (Ne.symm goesOn)).symm

theorem closeCooked?_quotedBody (noBackslash : quote ≠ '\\') {body : List Char}
    (valid : QuotedBody quote body) :
    closeCooked? quote (body ++ quote :: rest) = some (body ++ [quote], rest) := by
  induction valid with
  | nil => simp [closeCooked?, noBackslash]
  | plain noQuote noBackslash _ ih => simp [closeCooked?, noQuote, noBackslash, ih]
  | escape noLine _ ih => simp [closeCooked?, noLine, ih]

theorem exists_quotedBody_of_closeCooked?
    (closed : closeCooked? quote text = some (taken, rest)) :
    ∃ body, QuotedBody quote body ∧ taken = body ++ [quote] ∧ text = body ++ quote :: rest := by
  fun_induction closeCooked? quote text generalizing taken with
  | case1 => cases closed
  | case2 => cases closed
  | case3 char others noLine ih =>
      obtain ⟨⟨inner, left⟩, found, same⟩ := Option.map_eq_some_iff.mp closed
      cases same
      obtain ⟨body, valid, rfl, rfl⟩ := ih found
      exact ⟨'\\' :: char :: body, .escape noLine valid, rfl, rfl⟩
  | case4 =>
      cases closed
      exact ⟨[], .nil, rfl, rfl⟩
  | case5 => cases closed
  | case6 char others _ noQuote noBackslash ih =>
      obtain ⟨⟨inner, left⟩, found, same⟩ := Option.map_eq_some_iff.mp closed
      cases same
      obtain ⟨body, valid, rfl, rfl⟩ := ih found
      exact ⟨char :: body, .plain noQuote noBackslash valid, rfl, rfl⟩

theorem ne_backslash_of_isQuote (isQuote : isQuote quote = true) : quote ≠ '\\' := by
  rintro rfl
  cases isQuote

/-! ## Symbols -/

theorem symbols_pairwise :
    symbols.Pairwise fun earlier later => earlier.1.isPrefixOf later.1 = false := by
  decide

/-- A symbol that begins another one also begins one with a single character
more. -/
theorem take_succ_mem_symbols :
    ∀ entry ∈ symbols, ∀ longer ∈ symbols, entry.1.isPrefixOf longer.1 = true →
      entry.1 = longer.1 ∨ longer.1.take (entry.1.length + 1) ∈ symbols.map Prod.fst := by
  decide

theorem eq_of_mem_symbols :
    ∀ entry ∈ symbols, ∀ other ∈ symbols, entry.1 = other.1 → entry = other := by
  decide

/-- The symbol that is read is the longest one with which the text begins. -/
theorem length_le_of_readSymbol? {reading : Reading} (read : readSymbol? text = some reading)
    {other : List Char × Token} (listed : other ∈ symbols) (leads : other.1 <+: text) :
    other.1.length ≤ reading.text.length := by
  obtain ⟨entry, found, rfl⟩ := Option.map_eq_some_iff.mp read
  obtain ⟨entryLeads, before, after, table, passed⟩ := List.find?_eq_some_iff_append.mp found
  have pairwise := symbols_pairwise
  rw [table] at listed pairwise
  rcases List.mem_append.mp listed with earlier | listed
  · have noPrefix := passed other earlier
    rw [List.isPrefixOf_iff_prefix.mpr leads] at noPrefix
    cases noPrefix
  · rcases List.mem_cons.mp listed with rfl | later
    · exact Nat.le_refl _
    · refine Nat.not_lt.mp fun longer => ?_
      have begins := List.prefix_of_prefix_length_le (List.isPrefixOf_iff_prefix.mp entryLeads)
        leads (Nat.le_of_lt longer)
      have apart := (List.pairwise_cons.mp (List.pairwise_append.mp pairwise).2.1).1 other later
      rw [List.isPrefixOf_iff_prefix.mpr begins] at apart
      cases apart

/-- Where no symbol goes on with the next character, no longer one begins the
text. -/
theorem length_le_of_mem_symbols {spelled : List Char} (listed : (spelled, token) ∈ symbols)
    (ends : ∀ char ∈ rest.head?, spelled ++ [char] ∉ symbols.map Prod.fst)
    {other : List Char × Token} (otherListed : other ∈ symbols)
    (leads : other.1 <+: spelled ++ rest) : other.1.length ≤ spelled.length := by
  refine Nat.not_lt.mp fun longer => ?_
  obtain ⟨more, cut⟩ := List.prefix_of_prefix_length_le (List.prefix_append spelled rest) leads
    (Nat.le_of_lt longer)
  cases more with
  | nil =>
      rw [List.append_nil] at cut
      rw [cut] at longer
      exact Nat.lt_irrefl _ longer
  | cons next more =>
      rw [← cut, List.prefix_append_right_inj, List.cons_prefix_iff] at leads
      obtain ⟨others, rfl, _⟩ := leads
      have begins : spelled.isPrefixOf other.1 = true :=
        List.isPrefixOf_iff_prefix.mpr ⟨next :: more, cut⟩
      rcases take_succ_mem_symbols _ listed _ otherListed begins with same | goesOn
      · rw [← same] at longer
        exact Nat.lt_irrefl _ longer
      · rw [← cut, List.take_length_add_append] at goesOn
        exact ends next rfl goesOn

/-- A symbol is read exactly if no symbol goes on with the next character. -/
theorem readSymbol?_eq_some_iff :
    readSymbol? text = some ⟨token, taken, rest⟩ ↔
      text = taken ++ rest ∧ (taken, token) ∈ symbols ∧
        ∀ char ∈ rest.head?, taken ++ [char] ∉ symbols.map Prod.fst := by
  constructor
  · intro read
    have cut := append_of_readSymbol? read
    obtain ⟨⟨spelled, _⟩, found, same⟩ := Option.map_eq_some_iff.mp read
    refine ⟨cut.symm, ?_, ?_⟩
    · cases same
      exact List.mem_of_find?_eq_some found
    · intro char leading longer
      obtain ⟨⟨_, other⟩, listed, rfl⟩ := List.mem_map.mp longer
      have leads : taken ++ [char] <+: text := by
        rw [← cut, List.prefix_append_right_inj]
        cases rest with
        | nil => cases leading
        | cons first others =>
            cases leading
            exact ⟨others, rfl⟩
      have bound := length_le_of_readSymbol? read listed leads
      rw [List.length_append] at bound
      exact Nat.not_succ_le_self _ bound
  · rintro ⟨rfl, listed, ends⟩
    have leads : taken.isPrefixOf (taken ++ rest) = true :=
      List.isPrefixOf_iff_prefix.mpr (List.prefix_append taken rest)
    cases read : readSymbol? (taken ++ rest) with
    | none =>
        have unread := List.find?_eq_none.mp (Option.map_eq_none_iff.mp read) _ listed
        exact (unread leads).elim
    | some reading =>
        have atLeast := length_le_of_readSymbol? read listed (List.prefix_append taken rest)
        obtain ⟨⟨spelled, other⟩, found, rfl⟩ := Option.map_eq_some_iff.mp read
        have otherListed := List.mem_of_find?_eq_some found
        have otherLeads : spelled <+: taken ++ rest :=
          List.isPrefixOf_iff_prefix.mp (List.find?_some found :)
        have atMost := length_le_of_mem_symbols listed ends otherListed otherLeads
        obtain rfl : spelled = taken :=
          (List.prefix_of_prefix_length_le otherLeads (List.prefix_append taken rest)
            atMost).eq_of_length (Nat.le_antisymm atMost atLeast)
        obtain rfl : other = token :=
          congrArg Prod.snd (eq_of_mem_symbols _ otherListed _ listed rfl)
        rw [List.drop_left]

/-! ## Reading -/

theorem read?_of_isQuote (isQuote : isQuote quote = true) :
    read? (quote :: rest) =
      (closeCooked? quote rest).map fun parts => ⟨string, quote :: parts.1, parts.2⟩ := by
  simp only [Token.isQuote, Bool.or_eq_true, decide_eq_true_eq] at isQuote
  rcases isQuote with rfl | rfl <;> rfl

theorem read?_of_raw (isQuote : isQuote quote = true) :
    read? ('r' :: quote :: rest) =
      (closeRaw? quote rest).map fun parts => ⟨rawString, 'r' :: quote :: parts.1, parts.2⟩ := by
  rw [read?, if_pos isQuote]

/-- A symbol begins neither a word nor a number nor a string. -/
theorem read?_of_mem_symbols {spelled : List Char} (listed : (spelled, token) ∈ symbols) :
    read? (spelled ++ rest) = readSymbol? (spelled ++ rest) := by
  have begins : ∀ entry ∈ symbols,
      (entry.1.head?.any fun first =>
        !startsWord first && !first.isDigit && !isQuote first) = true := by
    decide
  have leading := begins _ listed
  cases spelled with
  | nil => cases leading
  | cons first others =>
      simp only [List.head?_cons, Option.any_some, Bool.and_eq_true, Bool.not_eq_true'] at leading
      obtain ⟨⟨noWord, noDigit⟩, noQuote⟩ := leading
      rw [List.cons_append]
      unfold read?
      split
      · rename_i cut
        cases cut
      · rename_i cut
        obtain rfl := (List.cons.inj cut).1
        cases noWord
      · rename_i cut
        cases cut
        simp [noWord, noDigit, noQuote]

/-- No token begins with a blank. -/
theorem read?_of_isBlank {char : Char} (blank : isBlank char = true) :
    read? (char :: rest) = none := by
  simp only [isBlank, Bool.or_eq_true, decide_eq_true_eq] at blank
  rcases blank with ((rfl | rfl) | rfl) | rfl
  · rfl
  · rfl
  · rfl
  · rfl

theorem readsAs_of_read? {reading : Reading} (read : read? text = some reading) :
    ReadsAs reading.token reading.text reading.rest := by
  unfold read? at read
  split at read
  · cases read
  · rename_i quote others
    split at read
    · rename_i isQuote
      obtain ⟨⟨inner, left⟩, closed, rfl⟩ := Option.map_eq_some_iff.mp read
      obtain ⟨value, plain, rfl, _⟩ := closeRaw?_eq_some_iff.mp closed
      exact .rawString isQuote plain
    · rename_i noQuote
      cases read
      refine readsAs_readWord (by decide) ?_
      intro next more cut
      cases cut
      exact Bool.eq_false_iff.mpr noQuote
  · rename_i first others noRaw
    split at read
    · rename_i starts
      cases read
      exact readsAs_readWord starts fun next more cut =>
        (noRaw next more (List.cons.inj cut).1 (List.cons.inj cut).2).elim
    · split at read
      · rename_i digit
        cases read
        exact readsAs_readNumber digit
      · split at read
        · rename_i isQuote
          obtain ⟨⟨inner, left⟩, closed, rfl⟩ := Option.map_eq_some_iff.mp read
          obtain ⟨body, valid, rfl, _⟩ := exists_quotedBody_of_closeCooked? closed
          exact .string isQuote valid
        · obtain ⟨_, listed, ends⟩ := readSymbol?_eq_some_iff.mp read
          exact .symbol listed ends

theorem ReadsAs.read? (readsAs : ReadsAs token taken rest) :
    read? (taken ++ rest) = some ⟨token, taken, rest⟩ := by
  cases readsAs with
  | word isWord stops unquoted =>
      obtain ⟨first, others, rfl, starts, all⟩ := exists_cons_of_isWord isWord
      obtain ⟨taken, left⟩ := span_append all stops
      have noRaw : first = 'r' → ∀ char ∈ (others ++ rest).head?, isQuote char = false := by
        intro single char leading
        cases others with
        | nil => exact unquoted (congrArg ([·]) single) char leading
        | cons second more =>
            cases leading
            exact not_isQuote_of_continuesWord (all _ (by simp))
      rw [List.cons_append, read?_of_startsWord starts noRaw, ← List.cons_append, readWord, taken,
        left]
  | integer filled all stops noPlaces =>
      obtain ⟨taken, left⟩ := span_append all stops
      rw [read?_digits filled all, readNumber, taken, left]
      split
      · rw [if_neg (by simp [noPlaces _ _ rfl])]
      · rfl
  | @decimal whole places _ filled all placesFilled allPlaces stops =>
      have point : ∀ char ∈ ('.' :: (places ++ rest)).head?, char.isDigit = false := by
        intro char leading
        cases leading
        decide
      obtain ⟨taken, left⟩ := span_append all point
      obtain ⟨takenPlaces, leftPlaces⟩ := span_append allPlaces stops
      rw [List.append_assoc, List.cons_append, read?_digits filled all, readNumber, taken, left]
      cases places with
      | nil => exact absurd rfl placesFilled
      | cons digit others =>
          have isDigit := allPlaces digit List.mem_cons_self
          rw [List.cons_append] at takenPlaces leftPlaces
          simp only [List.cons_append, isDigit, if_true, takenPlaces, leftPlaces]
  | @string quote body _ isQuote valid =>
      have closed : closeCooked? quote (body ++ quote :: rest) = some (body ++ [quote], rest) :=
        closeCooked?_quotedBody (ne_backslash_of_isQuote isQuote) valid
      rw [List.cons_append, List.append_assoc, List.singleton_append, read?_of_isQuote isQuote,
        closed]
      rfl
  | @rawString quote value _ isQuote plain =>
      have closed : closeRaw? quote (value ++ quote :: rest) = some (value ++ [quote], rest) :=
        closeRaw?_eq_some_iff.mpr ⟨value, plain, rfl, rfl⟩
      rw [List.cons_append, List.cons_append, List.append_assoc, List.singleton_append,
        read?_of_raw isQuote, closed]
      rfl
  | symbol listed ends =>
      rw [read?_of_mem_symbols listed]
      exact readSymbol?_eq_some_iff.mpr ⟨rfl, listed, ends⟩

/-- The reader takes a token off a text exactly if the text is the token and a
rest before which the token ends. -/
theorem read?_eq_some_iff :
    read? text = some ⟨token, taken, rest⟩ ↔ text = taken ++ rest ∧ ReadsAs token taken rest := by
  constructor
  · intro read
    exact ⟨(append_of_read? read).symm, readsAs_of_read? read⟩
  · rintro ⟨rfl, readsAs⟩
    exact readsAs.read?

end TemplateLanguage.Token
