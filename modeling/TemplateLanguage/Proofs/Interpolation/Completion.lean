import TemplateLanguage.Proofs.Interpolation.Acceptance

/-!
# Completing a section

Whatever is expected and whatever is open, some tokens close the section from
there: a name where an expression is due, and then what the open groups ask
for.  Every sequence of tokens is read from some text, so a section of the
grammar is a section of some text that passes the check.
-/

namespace TemplateLanguage

/-! ## Spelling tokens -/

namespace Token

/-- A text that is read as a given token. -/
def sample : Token → List Char
  | trueWord => ['t', 'r', 'u', 'e']
  | falseWord => ['f', 'a', 'l', 's', 'e']
  | greaterWord => ['g', 't']
  | greaterEqualWord => ['g', 't', 'e']
  | lessWord => ['l', 't']
  | lessEqualWord => ['l', 't', 'e']
  | integer => ['0']
  | decimal => ['0', '.', '0']
  | string => ['"', '"']
  | rawString => ['r', '"', '"']
  | name => ['a']
  | token => ((symbols.find? fun entry => entry.2 = token).map Prod.fst).getD []

theorem read?_sample (token : Token) (rest : List Char) :
    read? (token.sample ++ ' ' :: rest) = some ⟨token, token.sample, ' ' :: rest⟩ := by
  cases token <;> rfl

theorem dropWhile_isBlank_sample (token : Token) (rest : List Char) :
    (' ' :: token.sample ++ rest).dropWhile isBlank = token.sample ++ rest := by
  cases token <;> rfl

end Token

namespace Lexer

/-- A text of given tokens, with a blank before each of them and one at the
end. -/
def spelling (tokens : List Token) : List Char :=
  tokens.flatMap (fun token => ' ' :: token.sample) ++ [' ']

theorem spelling_cons (token : Token) (tokens : List Token) :
    spelling (token :: tokens) = ' ' :: token.sample ++ spelling tokens := by
  rw [spelling, List.flatMap_cons, List.append_assoc, ← spelling]

theorem spelling_eq_cons (tokens : List Token) : ∃ rest, spelling tokens = ' ' :: rest := by
  cases tokens with
  | nil => exact ⟨[], rfl⟩
  | cons token tokens => exact ⟨_, spelling_cons token tokens⟩

/-- Every sequence of tokens is read from some text. -/
theorem reads_spelling (tokens : List Token) : Reads (spelling tokens) tokens [' '] := by
  induction tokens with
  | nil => exact .nothing
  | cons token tokens ih =>
      obtain ⟨rest, blank⟩ := spelling_eq_cons tokens
      have read : Token.read? ((spelling (token :: tokens)).dropWhile Token.isBlank) =
          some ⟨token, token.sample, spelling tokens⟩ := by
        rw [spelling_cons, Token.dropWhile_isBlank_sample, blank]
        exact Token.read?_sample token rest
      exact .token read ih

/-- Reading a token after some blanks shortens the text. -/
theorem rest_length_lt_of_read?_dropWhile {text : List Char} {reading : Token.Reading}
    (read : Token.read? (text.dropWhile Token.isBlank) = some reading) :
    reading.rest.length < text.length :=
  Nat.lt_of_lt_of_le (Token.rest_length_lt_of_read? read)
    (List.dropWhile_sublist Token.isBlank).length_le

theorem length_le_of_reads {text after : List Char} {tokens : List Token}
    (reads : Reads text tokens after) : after.length ≤ text.length := by
  induction reads with
  | nothing => exact Nat.le_refl _
  | token read _ ih => exact Nat.le_trans ih (Nat.le_of_lt (rest_length_lt_of_read?_dropWhile read))

theorem not_reads_cons_self {text : List Char} {token : Token} {tokens : List Token} :
    ¬Reads text (token :: tokens) text := by
  intro reads
  cases reads with
  | token read reads =>
      exact Nat.lt_irrefl _
        (Nat.lt_of_lt_of_le (rest_length_lt_of_read?_dropWhile read) (length_le_of_reads reads))

/-- What is read from a text up to a place is determined. -/
theorem reads_unique {text after : List Char} {tokens others : List Token}
    (first : Reads text tokens after) (second : Reads text others after) : tokens = others := by
  induction first generalizing others with
  | nothing =>
      cases others with
      | nil => rfl
      | cons => exact absurd second not_reads_cons_self
  | token read reads ih =>
      cases second with
      | nothing => exact absurd (.token read reads) not_reads_cons_self
      | token again others =>
          rw [read] at again
          cases again
          rw [ih others]

end Lexer

namespace Interpolation

variable {form : Form} {groups : List Group} {tokens : List Token}

/-! ## Completing states -/

theorem leads_of_rest {category : Category} {rest : List Token → Prop}
    (derives : Derives category []) (follows : rest tokens) : Leads category rest tokens :=
  ⟨[], tokens, rfl, derives, follows⟩

theorem derives_name_operand : Derives .operand [.name] :=
  .unsigned (.literal rfl) .noTail

/-- A name is an expression before whatever may follow an expression. -/
theorem leads_expression_name {rest : List Token → Prop} (follows : rest tokens) :
    Leads .expression rest (.name :: tokens) :=
  ⟨[.name], tokens, rfl, .expression derives_name_operand .noOperation, follows⟩

/-- What may follow an expression may follow a primary. -/
theorem afterPrimary_of_afterExpression (follows : AfterExpression form groups tokens) :
    AfterPrimary form groups tokens :=
  leads_of_rest .noTail (leads_of_rest .noOperation follows)

/-- The open groups can be closed. -/
theorem exists_afterExpression (form : Form) (groups : List Group) :
    ∃ tokens, AfterExpression form groups tokens := by
  induction groups with
  | nil => exact ⟨[.rightBrace], .brace⟩
  | cons group outer ih =>
      obtain ⟨tokens, follows⟩ := ih
      have after := afterPrimary_of_afterExpression follows
      cases group with
      | paren => exact ⟨.rightParen :: tokens, opens_cons.mpr ⟨rfl, after⟩⟩
      | index => exact ⟨.rightBracket :: tokens, opens_cons.mpr ⟨rfl, after⟩⟩
      | argument =>
          exact ⟨.rightParen :: tokens, leads_of_rest .lastItem (opens_cons.mpr ⟨rfl, after⟩)⟩
      | item =>
          exact ⟨.rightBracket :: tokens, leads_of_rest .lastItem (opens_cons.mpr ⟨rfl, after⟩)⟩
      | entryKey =>
          exact ⟨.colon :: .name :: .rightBrace :: tokens, opens_cons.mpr ⟨rfl,
            leads_expression_name (leads_of_rest .lastEntry (opens_cons.mpr ⟨rfl, after⟩))⟩⟩
      | entryValue =>
          exact ⟨.rightBrace :: tokens, leads_of_rest .lastEntry (opens_cons.mpr ⟨rfl, after⟩)⟩

/-- From every state some tokens close the section. -/
theorem State.exists_closes (form : Form) (state : State) :
    ∃ tokens, state.Closes form tokens := by
  obtain ⟨expectation, groups⟩ := state
  obtain ⟨tokens, follows⟩ := exists_afterExpression form groups
  have operand : Leads .expression (AfterExpression form groups) (.name :: tokens) :=
    leads_expression_name follows
  have after := afterPrimary_of_afterExpression follows
  cases expectation with
  | first | operand => exact ⟨_, operand⟩
  | firstItem => exact ⟨_, Or.inl operand⟩
  | tail => exact ⟨tokens, after⟩
  | fallback => exact ⟨.name :: tokens, Or.inl ⟨[.name], tokens, rfl, .literal rfl, after⟩⟩
  | bound => exact ⟨_, Or.inl operand⟩
  | name => exact ⟨.name :: tokens, opens_cons.mpr ⟨rfl, after⟩⟩
  | format => exact ⟨[.rightBrace], [], List.not_mem_nil, rfl⟩

/-! ## Accepted sections -/

/-- A scan of a text arrives, outside of all sections, at a rest of it. -/
inductive ScansTo (rest : List Char) : List Char → Prop
  | here : ScansTo rest rest
  /-- A backslash takes the next character with it. -/
  | escape {char : Char} {text : List Char} : ScansTo rest text →
      ScansTo rest ('\\' :: char :: text)
  /-- Where no section begins, the scan goes on with the next character. -/
  | skip {char : Char} {text : List Char} : char ≠ '\\' →
      (∀ (form : Form) (inside : List Char), char :: text ≠ form.opening ++ inside) →
      ScansTo rest text → ScansTo rest (char :: text)
  /-- After a section the scan goes on just behind its closing brace. -/
  | interpolation {form : Form} {inside after : List Char} {tokens : List Token} :
      Lexer.Reads inside tokens after → IsSection form tokens → ScansTo rest after →
      ScansTo rest (form.opening ++ inside)

/-- Some text that passes the check has a section of a form with these tokens. -/
def Accepted (form : Form) (tokens : List Token) : Prop :=
  ∃ (text : String) (inside after : List Char) (start offset stop : Nat),
    check text = .ok () ∧ ScansTo (form.opening ++ inside) text.toList ∧
      Lexer.Reads inside tokens after ∧
      recognize form start .initial offset inside = .ok ⟨stop, after⟩

/-- The sections of texts that pass the check are those of the grammar. -/
theorem accepted_iff_isSection : Accepted form tokens ↔ IsSection form tokens := by
  constructor
  · rintro ⟨_, inside, after, start, offset, stop, _, _, reads, recognized⟩
    obtain ⟨others, again, isSection⟩ :=
      (recognize_initial_eq_ok_iff start offset).mp ⟨stop, recognized⟩
    rw [Lexer.reads_unique reads again]
    exact isSection
  · intro isSection
    have reads := Lexer.reads_spelling tokens
    obtain ⟨stop, recognized⟩ :=
      (recognize_initial_eq_ok_iff 0 2).mpr ⟨tokens, reads, isSection⟩
    have blank : Scans [' '] := by
      refine .skip (by decide) ?_ .done
      intro form inside cut
      cases form <;> cases cut
    refine ⟨String.ofList (form.opening ++ Lexer.spelling tokens), Lexer.spelling tokens, [' '],
      0, 2, stop, ?_, ?_, reads, recognized⟩
    · rw [check, String.toList_ofList]
      exact checkFrom_eq_ok_iff.mpr (.interpolation reads isSection blank)
    · rw [String.toList_ofList]
      exact .here

end Interpolation

end TemplateLanguage
