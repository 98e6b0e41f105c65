import Mathlib.Computability.Language
import TemplateLanguage.Proofs.Token.Boundary

/-!
# The patterns of tokens

Every token has a regular language of texts, its `pattern`.  The patterns are
put together from single characters without regard to the reader or to its
tables, and a text may belong to several of them.

`Matches` says token by token what the texts of a pattern look like.
-/

namespace TemplateLanguage.Token

open scoped Computability

/-! ## Patterns -/

/-- The texts of one character with a property. -/
def oneOf (property : Char → Bool) : Language Char :=
  {text | ∃ char, property char = true ∧ text = [char]}

/-- At least one digit. -/
def someDigits : Language Char :=
  oneOf Char.isDigit * (oneOf Char.isDigit)∗

/-- What may stand between two quotes: plain characters, and any character but a
line feed behind a backslash. -/
def cookedBody (quote : Char) : Language Char :=
  (oneOf (fun char => char ≠ quote && char ≠ '\\') + {['\\']} * oneOf (· ≠ '\n'))∗

/-- A string with escapes. -/
def cookedString (quote : Char) : Language Char :=
  {[quote]} * cookedBody quote * {[quote]}

/-- A string without escapes. -/
def rawLiteral (quote : Char) : Language Char :=
  {['r', quote]} * (oneOf (· ≠ quote))∗ * {[quote]}

/-- The texts of a token. -/
def pattern : Token → Language Char
  | trueWord => {['t', 'r', 'u', 'e']}
  | falseWord => {['f', 'a', 'l', 's', 'e']}
  | greaterWord => {['g', 't']}
  | greaterEqualWord => {['g', 't', 'e']}
  | lessWord => {['l', 't']}
  | lessEqualWord => {['l', 't', 'e']}
  | plus => {['+']}
  | minus => {['-']}
  | star => {['*']}
  | slash => {['/']}
  | percent => {['%']}
  | doubleEqual => {['=', '=']}
  | equal => {['=']}
  | notEqual => {['!', '=']}
  | less => {['<']}
  | lessEqual => {['<', '=']}
  | greater => {['>']}
  | greaterEqual => {['>', '=']}
  | doubleAmpersand => {['&', '&']}
  | doubleBar => {['|', '|']}
  | bang => {['!']}
  | question => {['?']}
  | doubleQuestion => {['?', '?']}
  | dot => {['.']}
  | range => {['.', '.']}
  | rangeExclusive => {['.', '.', '<']}
  | rangeBang => {['.', '.', '!']}
  | rangeStar => {['.', '.', '*']}
  | comma => {[',']}
  | colon => {[':']}
  | semicolon => {[';']}
  | leftParen => {['(']}
  | rightParen => {[')']}
  | leftBrace => {['{']}
  | rightBrace => {['}']}
  | leftBracket => {['[']}
  | rightBracket => {[']']}
  | integer => someDigits
  | decimal => someDigits * {['.']} * someDigits
  | string => cookedString '"' + cookedString '\''
  | rawString => rawLiteral '"' + rawLiteral '\''
  | name => oneOf startsWord * (oneOf continuesWord)∗

variable {property : Char → Bool} {quote : Char} {text : List Char} {token : Token}

/-! ## Classes of texts -/

theorem mem_single {spelled : List Char} : text ∈ ({spelled} : Language Char) ↔ text = spelled :=
  Iff.rfl

theorem append_mem_kstar {language : Language Char} {first others : List Char}
    (member : first ∈ language) (members : others ∈ language∗) :
    first ++ others ∈ language∗ := by
  obtain ⟨parts, rfl, all⟩ := Language.mem_kstar.mp members
  exact Language.mem_kstar.mpr ⟨first :: parts, rfl, List.forall_mem_cons.mpr ⟨member, all⟩⟩

/-- What holds of the empty text and is kept in front of it holds of a
repetition. -/
theorem kstar_induction {language : Language Char} {motive : List Char → Prop}
    (nil : motive [])
    (append : ∀ first others, first ∈ language → motive others → motive (first ++ others))
    (member : text ∈ language∗) : motive text := by
  obtain ⟨parts, rfl, all⟩ := Language.mem_kstar.mp member
  clear member
  induction parts with
  | nil => exact nil
  | cons first others ih =>
      obtain ⟨here, there⟩ := List.forall_mem_cons.mp all
      exact append first others.flatten here (ih there)

theorem mem_oneOf_kstar : text ∈ (oneOf property)∗ ↔ ∀ char ∈ text, property char = true := by
  constructor
  · intro member
    refine kstar_induction (motive := fun text => ∀ char ∈ text, property char = true)
      (fun _ absent => absurd absent List.not_mem_nil) ?_ member
    rintro _ others ⟨char, holds, rfl⟩ all
    exact List.forall_mem_cons.mpr ⟨holds, all⟩
  · intro all
    induction text with
    | nil => exact Language.nil_mem_kstar _
    | cons char others ih =>
        obtain ⟨here, there⟩ := List.forall_mem_cons.mp all
        have single : [char] ∈ oneOf property := ⟨char, here, rfl⟩
        exact append_mem_kstar single (ih there)

theorem mem_someDigits :
    text ∈ someDigits ↔ text ≠ [] ∧ ∀ char ∈ text, char.isDigit = true := by
  constructor
  · rintro ⟨_, ⟨first, digit, rfl⟩, others, all, rfl⟩
    exact ⟨List.cons_ne_nil _ _, List.forall_mem_cons.mpr ⟨digit, mem_oneOf_kstar.mp all⟩⟩
  · rintro ⟨filled, all⟩
    cases text with
    | nil => exact absurd rfl filled
    | cons first others =>
        obtain ⟨digit, all⟩ := List.forall_mem_cons.mp all
        exact ⟨[first], ⟨first, digit, rfl⟩, others, mem_oneOf_kstar.mpr all, rfl⟩

theorem mem_pattern_name : text ∈ name.pattern ↔ isWord text = true := by
  constructor
  · rintro ⟨_, ⟨first, starts, rfl⟩, others, all, rfl⟩
    simp only [List.singleton_append, isWord, starts, Bool.true_and, List.all_eq_true]
    exact mem_oneOf_kstar.mp all
  · intro isWord
    cases text with
    | nil => cases isWord
    | cons first others =>
        rw [Token.isWord, Bool.and_eq_true, List.all_eq_true] at isWord
        exact ⟨[first], ⟨first, isWord.1, rfl⟩, others, mem_oneOf_kstar.mpr isWord.2, rfl⟩

theorem mem_cookedBody : text ∈ cookedBody quote ↔ QuotedBody quote text := by
  constructor
  · intro member
    refine kstar_induction .nil ?_ member
    rintro first others (⟨char, plain, rfl⟩ | ⟨_, rfl, _, ⟨char, noLine, rfl⟩, rfl⟩) valid
    · simp only [Bool.and_eq_true, decide_eq_true_eq] at plain
      exact .plain plain.1 plain.2 valid
    · exact .escape (of_decide_eq_true noLine) valid
  · intro valid
    induction valid with
    | nil => exact Language.nil_mem_kstar _
    | @plain char rest noQuote noBackslash _ ih =>
        have single : [char] ∈ oneOf fun char => char ≠ quote && char ≠ '\\' :=
          ⟨char, by simp [noQuote, noBackslash], rfl⟩
        exact append_mem_kstar (Or.inl single) ih
    | @escape char rest noLine _ ih =>
        have pair : ['\\', char] ∈ ({['\\']} * oneOf (· ≠ '\n') : Language Char) :=
          ⟨['\\'], rfl, [char], ⟨char, decide_eq_true noLine, rfl⟩, rfl⟩
        exact append_mem_kstar (Or.inr pair) ih

theorem mem_cookedString :
    text ∈ cookedString quote ↔
      ∃ body, QuotedBody quote body ∧ text = quote :: (body ++ [quote]) := by
  constructor
  · rintro ⟨_, ⟨_, rfl, body, valid, rfl⟩, _, rfl, rfl⟩
    exact ⟨body, mem_cookedBody.mp valid, rfl⟩
  · rintro ⟨body, valid, rfl⟩
    exact ⟨quote :: body, ⟨[quote], rfl, body, mem_cookedBody.mpr valid, rfl⟩, [quote], rfl, rfl⟩

theorem mem_rawLiteral :
    text ∈ rawLiteral quote ↔
      ∃ value, quote ∉ value ∧ text = 'r' :: quote :: (value ++ [quote]) := by
  have plain : ∀ value : List Char,
      (∀ char ∈ value, decide (char ≠ quote) = true) ↔ quote ∉ value := by
    intro value
    simp only [decide_eq_true_eq]
    exact ⟨fun all member => all quote member rfl, fun absent char member same =>
      absent (same ▸ member)⟩
  constructor
  · rintro ⟨_, ⟨_, rfl, value, all, rfl⟩, _, rfl, rfl⟩
    exact ⟨value, (plain value).mp (mem_oneOf_kstar.mp all), rfl⟩
  · rintro ⟨value, absent, rfl⟩
    exact ⟨'r' :: quote :: value, ⟨['r', quote], rfl, value,
      mem_oneOf_kstar.mpr ((plain value).mpr absent), rfl⟩, [quote], rfl, rfl⟩

theorem isQuote_iff : isQuote quote = true ↔ quote = '"' ∨ quote = '\'' := by
  simp only [isQuote, Bool.or_eq_true, decide_eq_true_eq]

/-! ## What the texts look like -/

/-- A text of a token, by the kinds of tokens. -/
inductive Matches : Token → List Char → Prop
  | keyword {token : Token} {word : List Char} : (word, token) ∈ keywords → Matches token word
  | name {word : List Char} : isWord word = true → Matches name word
  | integer {digits : List Char} : digits ≠ [] → (∀ char ∈ digits, char.isDigit = true) →
      Matches integer digits
  | decimal {whole places : List Char} : whole ≠ [] → (∀ char ∈ whole, char.isDigit = true) →
      places ≠ [] → (∀ char ∈ places, char.isDigit = true) →
      Matches decimal (whole ++ '.' :: places)
  | string {quote : Char} {body : List Char} : isQuote quote = true → QuotedBody quote body →
      Matches string (quote :: (body ++ [quote]))
  | rawString {quote : Char} {value : List Char} : isQuote quote = true → quote ∉ value →
      Matches rawString ('r' :: quote :: (value ++ [quote]))
  | symbol {token : Token} {spelled : List Char} : (spelled, token) ∈ symbols →
      Matches token spelled

theorem Matches.mem_pattern (belongs : Matches token text) : text ∈ token.pattern := by
  have keywordListed : ∀ entry ∈ keywords, entry.1 ∈ entry.2.pattern := by
    simp [keywords, pattern, mem_single]
  have symbolListed : ∀ entry ∈ symbols, entry.1 ∈ entry.2.pattern := by
    simp [symbols, pattern, mem_single]
  cases belongs with
  | keyword listed => exact keywordListed _ listed
  | name isWord => exact mem_pattern_name.mpr isWord
  | integer filled all => exact mem_someDigits.mpr ⟨filled, all⟩
  | @decimal whole places filled all placesFilled allPlaces =>
      refine ⟨whole ++ ['.'], ⟨whole, mem_someDigits.mpr ⟨filled, all⟩, ['.'], rfl, rfl⟩, places,
        mem_someDigits.mpr ⟨placesFilled, allPlaces⟩, ?_⟩
      exact List.append_assoc whole ['.'] places
  | string isQuote valid =>
      rcases isQuote_iff.mp isQuote with rfl | rfl
      · exact Or.inl (mem_cookedString.mpr ⟨_, valid, rfl⟩)
      · exact Or.inr (mem_cookedString.mpr ⟨_, valid, rfl⟩)
  | rawString isQuote absent =>
      rcases isQuote_iff.mp isQuote with rfl | rfl
      · exact Or.inl (mem_rawLiteral.mpr ⟨_, absent, rfl⟩)
      · exact Or.inr (mem_rawLiteral.mpr ⟨_, absent, rfl⟩)
  | symbol listed => exact symbolListed _ listed

theorem Matches.of_mem_pattern (member : text ∈ token.pattern) : Matches token text := by
  cases token with
  | integer =>
      obtain ⟨filled, all⟩ := mem_someDigits.mp member
      exact .integer filled all
  | decimal =>
      obtain ⟨_, ⟨whole, wholeDigits, _, rfl, rfl⟩, places, placesDigits, rfl⟩ := member
      obtain ⟨filled, all⟩ := mem_someDigits.mp wholeDigits
      obtain ⟨placesFilled, allPlaces⟩ := mem_someDigits.mp placesDigits
      have decimal := Matches.decimal filled all placesFilled allPlaces
      rw [List.append_cons] at decimal
      exact decimal
  | string =>
      rcases member with double | single
      · obtain ⟨body, valid, rfl⟩ := mem_cookedString.mp double
        exact .string rfl valid
      · obtain ⟨body, valid, rfl⟩ := mem_cookedString.mp single
        exact .string rfl valid
  | rawString =>
      rcases member with double | single
      · obtain ⟨value, absent, rfl⟩ := mem_rawLiteral.mp double
        exact .rawString rfl absent
      · obtain ⟨value, absent, rfl⟩ := mem_rawLiteral.mp single
        exact .rawString rfl absent
  | name => exact .name (mem_pattern_name.mp member)
  | trueWord | falseWord | greaterWord | greaterEqualWord | lessWord | lessEqualWord =>
      rw [mem_single.mp member]
      exact .keyword (by decide)
  | _ =>
      rw [mem_single.mp member]
      exact .symbol (by decide)

/-- The pattern of a token is the set of the texts of its kind. -/
theorem mem_pattern_iff : text ∈ token.pattern ↔ Matches token text :=
  ⟨Matches.of_mem_pattern, Matches.mem_pattern⟩

end TemplateLanguage.Token
