import TemplateLanguage.Unicode.CaseTable

/-!
# Lower case

The lower-case form of a text, by the full mapping of Unicode.  One character,
the capital i with a dot, becomes two.  A capital sigma becomes a final sigma
where a word ends: after a character with case and not before one, where
marks and some punctuation in between do not count.
-/

namespace TemplateLanguage.Unicode

/-- Whether a code point lies in one of several ranges. -/
def inRanges (ranges : List (Nat × Nat)) (char : Char) : Bool :=
  ranges.any fun range => range.1 ≤ char.toNat && char.toNat ≤ range.2

/-- Whether a character has case. -/
def isCased (char : Char) : Bool :=
  inRanges casedRanges char

/-- Whether a character does not count between two neighbours. -/
def isCaseIgnorable (char : Char) : Bool :=
  inRanges caseIgnorableRanges char

namespace CaseRange

/-- Whether a range holds a code point. -/
def contains (range : CaseRange) (code : Nat) : Bool :=
  range.first ≤ code && code ≤ range.last && (code - range.first) % range.step = 0

end CaseRange

/-- The lower-case form of a character by itself. -/
def lowerChar (char : Char) : List Char :=
  if char = '\u0130' then ['i', '\u0307']
  else
    match lowerRanges.find? fun range => range.contains char.toNat with
    | some range => [Char.ofNat ((char.toNat : Int) + range.offset).toNat]
    | none => [char]

/-- Whether the first character that counts has case. -/
def startsCased (text : List Char) : Bool :=
  (text.dropWhile isCaseIgnorable).head?.any isCased

/-- The lower-case form of a text after some characters, which are given from
last to first. -/
def lowerAfter (before : List Char) : List Char → List Char
  | [] => []
  | char :: rest =>
      let lower :=
        if char = 'Σ' then
          if startsCased before && !startsCased rest then ['ς'] else ['σ']
        else
          lowerChar char
      lower ++ lowerAfter (char :: before) rest

/-- The lower-case form of a text. -/
def lower (text : List Char) : List Char :=
  lowerAfter [] text

end TemplateLanguage.Unicode
