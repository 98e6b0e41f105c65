import Mathlib.Tactic.Push
import TemplateLanguage.Collation

/-!
# The strength of a locale

A locale is a tag of subtags with a hyphen or an underscore between neighbours, read
without regard to the case of ASCII letters.  The level that follows the first subtag `ks`
decides the strength, wherever in the tag that subtag stands.

The keyword `ks` belongs to the extension that begins with a subtag `u` behind the first
subtag.  If no `ks` stands before that extension, the strength is that of the keyword.  A
`ks` before it, such as that of the language Kashmiri, is taken for the keyword: it sets a
strength that the tag does not ask for, or hides the one that it does ask for.
-/

namespace TemplateLanguage.Collation

/-- Whether a character stands between subtags. -/
def isSeparator (char : Char) : Bool :=
  char = '-' || char = '_'

/-- What stands between the separators of a locale, in lower case. -/
def tagOf (locale : String) : List (List Char) :=
  (locale.toList.splitOnP isSeparator).map (List.map Char.toLower)

/-- A subtag stands at an index, and at no earlier index from a given one on. -/
structure FirstFrom (tag : List (List Char)) (start : Nat) (subtag : List Char) (index : Nat) :
    Prop where
  start_le : start ≤ index
  found : tag[index]? = some subtag
  first : ∀ earlier < index, start ≤ earlier → tag[earlier]? ≠ some subtag

/-- The subtag `ks` is followed by a level where it stands first. -/
def HasLevel (tag : List (List Char)) (level : List Char) : Prop :=
  ∃ key, FirstFrom tag 0 ['k', 's'] key ∧ tag[key + 1]? = some level

/-- The subtag `ks` is followed by a level where it stands first in the `u` extension. -/
def HasKeywordLevel (tag : List (List Char)) (level : List Char) : Prop :=
  ∃ extension key, FirstFrom tag 1 ['u'] extension ∧
    FirstFrom tag (extension + 1) ['k', 's'] key ∧ tag[key + 1]? = some level

/-- Every subtag `ks` stands in the `u` extension. -/
def OnlyKeywords (tag : List (List Char)) : Prop :=
  ∀ key < tag.length, tag[key]? = some ['k', 's'] →
    ∃ extension < key, 1 ≤ extension ∧ tag[extension]? = some ['u']

variable {tag rest : List (List Char)} {first level : List Char}

theorem subtags_eq (text : List Char) :
    subtags text = (text.splitOnP isSeparator).map (List.map Char.toLower) := by
  induction text with
  | nil => rfl
  | cons char rest ih =>
      rw [subtags, List.splitOnP_cons_eq_if_modifyHead, ih]
      by_cases separates : char = '-' ∨ char = '_'
      · have separator : isSeparator char = true := by simpa [isSeparator] using separates
        rw [if_pos separates, if_pos separator]
        rfl
      · have letter : ¬isSeparator char = true := by simpa [isSeparator] using separates
        rw [if_neg separates, if_neg letter]
        cases rest.splitOnP isSeparator <;> rfl

/-! ## The level of a tag -/

theorem not_hasLevel_of_length_le_one (short : tag.length ≤ 1) : ¬HasLevel tag level := by
  rintro ⟨key, _, after⟩
  have inside : key + 1 < tag.length := (List.getElem?_eq_some_iff.mp after).1
  omega

theorem hasLevel_cons_self : HasLevel (['k', 's'] :: rest) level ↔ rest.head? = some level := by
  constructor
  · rintro ⟨key, standing, after⟩
    cases key with
    | zero => rwa [List.head?_eq_getElem?]
    | succ key => exact absurd rfl (standing.first 0 (Nat.succ_pos key) (Nat.le_refl 0))
  · intro head
    refine ⟨0, ⟨Nat.le_refl 0, rfl, ?_⟩, ?_⟩
    · intro earlier before
      exact absurd before (Nat.not_lt_zero earlier)
    · rwa [List.head?_eq_getElem?] at head

theorem hasLevel_cons_of_ne (different : first ≠ ['k', 's']) :
    HasLevel (first :: rest) level ↔ HasLevel rest level := by
  constructor
  · rintro ⟨key, standing, after⟩
    cases key with
    | zero => exact absurd (Option.some.inj standing.found) different
    | succ key =>
        refine ⟨key, ⟨Nat.zero_le key, standing.found, ?_⟩, after⟩
        intro earlier before _
        exact standing.first (earlier + 1) (Nat.succ_lt_succ before) (Nat.zero_le _)
  · rintro ⟨key, standing, after⟩
    refine ⟨key + 1, ⟨Nat.zero_le _, standing.found, ?_⟩, after⟩
    intro earlier before _
    cases earlier with
    | zero => exact fun same => different (Option.some.inj same)
    | succ earlier => exact standing.first earlier (Nat.lt_of_succ_lt_succ before) (Nat.zero_le _)

theorem level?_eq_some_iff (tag : List (List Char)) (level : List Char) :
    level? tag = some level ↔ HasLevel tag level := by
  fun_induction level? tag with
  | case1 second rest => rw [hasLevel_cons_self, List.head?_cons]
  | case2 first second rest different ih => rw [hasLevel_cons_of_ne different, ih]
  | case3 tag short =>
      refine iff_of_false nofun (not_hasLevel_of_length_le_one ?_)
      match tag, short with
      | [], _ => exact Nat.zero_le 1
      | [_], _ => exact Nat.le_refl 1
      | first :: second :: rest, short => exact absurd rfl (short first second rest)

theorem strengthOfLevel_eq_primary_iff :
    strengthOfLevel level = .primary ↔ level = "level1".toList := by
  rw [strengthOfLevel]
  split
  · simpa
  · split <;> simpa

theorem strengthOfLevel_eq_secondary_iff :
    strengthOfLevel level = .secondary ↔ level = "level2".toList := by
  rw [strengthOfLevel]
  split
  · rename_i same
    rw [same]
    decide
  · split <;> simpa

/-- A strength other than the tertiary one comes from a level that stands for it. -/
theorem strength_ofLocale_eq_iff (locale : String) {strength : Strength}
    (named : ∀ {other}, strengthOfLevel other = strength ↔ other = level)
    (set : strength ≠ .tertiary) :
    (Collator.ofLocale locale).strength = strength ↔ HasLevel (tagOf locale) level := by
  rw [← level?_eq_some_iff, tagOf, ← subtags_eq, Collator.ofLocale, Collation.strength]
  cases level? (subtags locale.toList) with
  | none => simpa using set.symm
  | some other => simpa using named

/-! ## Levels inside and outside the extension -/

theorem exists_firstFrom {subtag : List Char} {start index : Nat} (le : start ≤ index)
    (found : tag[index]? = some subtag) :
    ∃ first ≤ index, FirstFrom tag start subtag first := by
  induction index using Nat.strongRecOn with
  | ind index ih =>
      by_cases earlier : ∃ other < index, start ≤ other ∧ tag[other]? = some subtag
      · obtain ⟨other, before, after, same⟩ := earlier
        obtain ⟨first, le, standing⟩ := ih other before after same
        exact ⟨first, Nat.le_trans le (Nat.le_of_lt before), standing⟩
      · refine ⟨index, Nat.le_refl index, le, found, ?_⟩
        intro other before after same
        exact earlier ⟨other, before, after, same⟩

theorem hasLevel_iff_hasKeywordLevel (only : OnlyKeywords tag) :
    HasLevel tag level ↔ HasKeywordLevel tag level := by
  constructor
  · rintro ⟨key, standing, after⟩
    have inside := (List.getElem?_eq_some_iff.mp standing.found).1
    obtain ⟨other, before, le, found⟩ := only key inside standing.found
    obtain ⟨extension, first_le, first⟩ := exists_firstFrom le found
    refine ⟨extension, key, first, ⟨by omega, standing.found, ?_⟩, after⟩
    intro earlier before _
    exact standing.first earlier before (Nat.zero_le earlier)
  · rintro ⟨extension, key, first, standing, after⟩
    refine ⟨key, ⟨Nat.zero_le key, standing.found, ?_⟩, after⟩
    intro earlier before _ same
    -- an earlier `ks` would stand behind a `u`, so behind the first one
    have inside := (List.getElem?_eq_some_iff.mp same).1
    obtain ⟨other, otherBefore, le, found⟩ := only earlier inside same
    rcases Nat.lt_or_ge other extension with early | late
    · exact first.first other early le found
    · exact standing.first earlier before (by omega) same

theorem exists_firstFrom_of_not_onlyKeywords (stray : ¬OnlyKeywords tag) :
    ∃ key, FirstFrom tag 0 ['k', 's'] key ∧
      ∀ extension < key, 1 ≤ extension → tag[extension]? ≠ some ['u'] := by
  rw [OnlyKeywords] at stray
  push Not at stray
  obtain ⟨other, _, found, outside⟩ := stray
  obtain ⟨key, le, standing⟩ := exists_firstFrom (Nat.zero_le other) found
  refine ⟨key, standing, ?_⟩
  intro extension before
  exact outside extension (Nat.lt_of_lt_of_le before le)

/-- The strength of a locale is set by the level behind its first `ks`, and is tertiary if
that is neither of the two levels.  If every `ks` stands in the `u` extension, this is the
level of the keyword there; otherwise the first `ks` stands before the extension. -/
theorem strength_ofLocale (locale : String) :
    ((Collator.ofLocale locale).strength = .primary ↔
        HasLevel (tagOf locale) "level1".toList) ∧
      ((Collator.ofLocale locale).strength = .secondary ↔
        HasLevel (tagOf locale) "level2".toList) ∧
      (OnlyKeywords (tagOf locale) →
        ∀ level, HasLevel (tagOf locale) level ↔ HasKeywordLevel (tagOf locale) level) ∧
      (¬OnlyKeywords (tagOf locale) → ∃ key, FirstFrom (tagOf locale) 0 ['k', 's'] key ∧
        ∀ extension < key, 1 ≤ extension → (tagOf locale)[extension]? ≠ some ['u']) :=
  ⟨strength_ofLocale_eq_iff locale strengthOfLevel_eq_primary_iff nofun,
    strength_ofLocale_eq_iff locale strengthOfLevel_eq_secondary_iff nofun,
    fun only _ => hasLevel_iff_hasKeywordLevel only,
    exists_firstFrom_of_not_onlyKeywords⟩

theorem strength_ofLocale_french :
    OnlyKeywords (tagOf "fr_FR-u-KS-LEVEL2") ∧
      HasKeywordLevel (tagOf "fr_FR-u-KS-LEVEL2") "level2".toList ∧
      (Collator.ofLocale "fr_FR-u-KS-LEVEL2").strength = .secondary := by
  obtain ⟨_, secondary, agree, _⟩ := strength_ofLocale "fr_FR-u-KS-LEVEL2"
  have only : OnlyKeywords (tagOf "fr_FR-u-KS-LEVEL2") := by
    rw [OnlyKeywords]
    decide +kernel
  have extension : FirstFrom (tagOf "fr_FR-u-KS-LEVEL2") 1 ['u'] 2 :=
    ⟨by decide, by decide +kernel, by decide +kernel⟩
  have key : FirstFrom (tagOf "fr_FR-u-KS-LEVEL2") 3 ['k', 's'] 3 :=
    ⟨by decide, by decide +kernel, by decide +kernel⟩
  have asked : HasKeywordLevel (tagOf "fr_FR-u-KS-LEVEL2") "level2".toList :=
    ⟨2, 3, extension, key, by decide +kernel⟩
  exact ⟨only, asked, secondary.mpr ((agree only _).mpr asked)⟩

/-- The language `ks` hides the keyword of the extension, and it sets a strength where
there is no extension. -/
theorem strength_ofLocale_kashmiri :
    (HasKeywordLevel (tagOf "ks-IN-u-ks-level1") "level1".toList ∧
        (Collator.ofLocale "ks-IN-u-ks-level1").strength = .tertiary) ∧
      ¬HasKeywordLevel (tagOf "ks-level1") "level1".toList ∧
        (Collator.ofLocale "ks-level1").strength = .primary := by
  have extension : FirstFrom (tagOf "ks-IN-u-ks-level1") 1 ['u'] 2 :=
    ⟨by decide, by decide +kernel, by decide +kernel⟩
  have key : FirstFrom (tagOf "ks-IN-u-ks-level1") 3 ['k', 's'] 3 :=
    ⟨by decide, by decide +kernel, by decide +kernel⟩
  refine ⟨⟨⟨2, 3, extension, key, by decide +kernel⟩, by decide +kernel⟩, ?_, by decide +kernel⟩
  rintro ⟨other, _, first, _⟩
  have absent : ['u'] ∉ tagOf "ks-level1" := by decide +kernel
  exact absent (List.mem_of_getElem? first.found)

end TemplateLanguage.Collation
