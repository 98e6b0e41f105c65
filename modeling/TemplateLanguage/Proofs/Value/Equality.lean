import Mathlib.Data.List.Perm.Subperm
import TemplateLanguage.Dictionary
import TemplateLanguage.Environment
import TemplateLanguage.Proofs.Value.Order

/-!
# The equality of values

Equality is symmetric on all values, and an equivalence on the values that hold no
floating-point number.  The order of the entries of a hash plays no part in it.

The comparison of two hashes looks up the keys of the first one only.  As they are
distinct and there are as many in the second hash, these are all keys of both: the
condition reads the same from either side.
-/

namespace TemplateLanguage

namespace Value

/-- The keys of every hash in a value are distinct. -/
inductive Keyed : Value → Prop
  | boolean (value : Bool) : Keyed (boolean value)
  | number (value : Number) : Keyed (number value)
  | string (value : String) : Keyed (string value)
  | sequence {items : List Value} : (∀ item ∈ items, Keyed item) → Keyed (sequence items)
  | collection {items : List Value} : (∀ item ∈ items, Keyed item) → Keyed (collection items)
  | hash {entries : List (String × Value)} : (entries.map Prod.fst).Nodup →
      (∀ entry ∈ entries, Keyed entry.2) → Keyed (hash entries)

/-- No number in a value is a floating-point number. -/
inductive Exact : Value → Prop
  | boolean (value : Bool) : Exact (boolean value)
  | number {value : Number} : value.isFloating = false → Exact (number value)
  | string (value : String) : Exact (string value)
  | sequence {items : List Value} : (∀ item ∈ items, Exact item) → Exact (sequence items)
  | collection {items : List Value} : (∀ item ∈ items, Exact item) → Exact (collection items)
  | hash {entries : List (String × Value)} : (∀ entry ∈ entries, Exact entry.2) →
      Exact (hash entries)

/-- Entries of hashes inside a value have changed their places. -/
inductive Rearranged : Value → Value → Prop
  | entries {entries others : List (String × Value)} : entries.Perm others →
      Rearranged (hash entries) (hash others)
  | inSequence {item other : Value} (before after : List Value) : Rearranged item other →
      Rearranged (sequence (before ++ item :: after)) (sequence (before ++ other :: after))
  | inCollection {item other : Value} (before after : List Value) : Rearranged item other →
      Rearranged (collection (before ++ item :: after)) (collection (before ++ other :: after))
  | inHash {value other : Value} (before after : List (String × Value)) (key : String) :
      Rearranged value other →
        Rearranged (hash (before ++ (key, value) :: after)) (hash (before ++ (key, other) :: after))
  | trans {first second third : Value} : Rearranged first second → Rearranged second third →
      Rearranged first third

/-! ## Parts of values -/

section

variable {items : List Value} {entries : List (String × Value)}

theorem Keyed.of_sequence (keyed : Keyed (.sequence items)) : ∀ item ∈ items, Keyed item := by
  cases keyed with
  | sequence keyed => exact keyed

theorem Keyed.of_collection (keyed : Keyed (.collection items)) : ∀ item ∈ items, Keyed item := by
  cases keyed with
  | collection keyed => exact keyed

theorem Keyed.of_hash (keyed : Keyed (.hash entries)) :
    (entries.map Prod.fst).Nodup ∧ ∀ entry ∈ entries, Keyed entry.2 := by
  cases keyed with
  | hash distinct keyed => exact ⟨distinct, keyed⟩

theorem Exact.of_number {value : Number} (exact : Exact (.number value)) :
    value.isFloating = false := by
  cases exact with
  | number exact => exact exact

theorem Exact.of_sequence (exact : Exact (.sequence items)) : ∀ item ∈ items, Exact item := by
  cases exact with
  | sequence exact => exact exact

theorem Exact.of_collection (exact : Exact (.collection items)) : ∀ item ∈ items, Exact item := by
  cases exact with
  | collection exact => exact exact

theorem Exact.of_hash (exact : Exact (.hash entries)) : ∀ entry ∈ entries, Exact entry.2 := by
  cases exact with
  | hash exact => exact exact

end

variable {collator : Collator}

/-! ## Hashes -/

theorem containedEntries_eq_all (entries others : List (String × Value)) :
    containedEntries collator entries others =
      entries.all fun entry => (others.lookup entry.1).any (equal collator entry.2) := by
  induction entries with
  | nil => rfl
  | cons entry rest ih =>
      rw [containedEntries, ih, List.all_cons]
      cases others.lookup entry.1 <;> rfl

/-- Hashes are equal exactly if they have the same keys, and equal values under
each of them. -/
theorem equal_hash_iff {entries others : List (String × Value)}
    (distinct : (entries.map Prod.fst).Nodup) (othersDistinct : (others.map Prod.fst).Nodup) :
    equal collator (hash entries) (hash others) = true ↔
      (entries.map Prod.fst).Perm (others.map Prod.fst) ∧
        ∀ key value other, (key, value) ∈ entries → (key, other) ∈ others →
          equal collator value other = true := by
  rw [equal, Bool.and_eq_true, decide_eq_true_iff, containedEntries_eq_all, List.all_eq_true]
  constructor
  · rintro ⟨sameLength, contained⟩
    have found : ∀ entry ∈ entries, ∃ other, (entry.1, other) ∈ others ∧
        equal collator entry.2 other = true := by
      intro entry member
      obtain ⟨other, lookup, same⟩ := (Option.any_eq_true _ _).mp (contained entry member)
      exact ⟨other, (Entries.lookup_eq_some_iff_mem othersDistinct).mp lookup, same⟩
    have keys : entries.map Prod.fst ⊆ others.map Prod.fst := by
      intro key member
      obtain ⟨entry, present, rfl⟩ := List.mem_map.mp member
      obtain ⟨other, otherPresent, _⟩ := found entry present
      exact List.mem_map.mpr ⟨_, otherPresent, rfl⟩
    refine ⟨(List.subperm_of_subset distinct keys).perm_of_length_le ?_, ?_⟩
    · rw [List.length_map, List.length_map]
      exact Nat.le_of_eq sameLength.symm
    · intro key value other member otherMember
      obtain ⟨again, againMember, same⟩ := found (key, value) member
      rw [Entries.eq_of_mem othersDistinct otherMember againMember]
      exact same
  · rintro ⟨sameKeys, sameValues⟩
    refine ⟨?_, ?_⟩
    · have sameLength := sameKeys.length_eq
      rw [List.length_map, List.length_map] at sameLength
      exact sameLength
    · intro entry member
      have key := sameKeys.mem_iff.mp (List.mem_map_of_mem member)
      obtain ⟨⟨_, other⟩, otherMember, same⟩ := List.mem_map.mp key
      cases same
      rw [(Entries.lookup_eq_some_iff_mem othersDistinct).mpr otherMember]
      exact sameValues _ _ _ member otherMember

/-! ## Symmetry -/

theorem equalItems_comm {items others : List Value}
    (commutes : ∀ item ∈ items, ∀ other ∈ others,
      equal collator item other = equal collator other item) :
    equalItems collator items others = equalItems collator others items := by
  induction items generalizing others with
  | nil => cases others <;> rfl
  | cons item rest ih =>
      cases others with
      | nil => rfl
      | cons other others =>
          rw [equalItems, equalItems, commutes item List.mem_cons_self other List.mem_cons_self]
          rw [ih fun _ member _ otherMember => commutes _ (List.mem_cons_of_mem _ member) _
            (List.mem_cons_of_mem _ otherMember)]

/-- Equality is symmetric. -/
theorem equal_comm {first second : Value} (keyed : Keyed first) (otherKeyed : Keyed second) :
    equal collator first second = equal collator second first := by
  induction keyed generalizing second with
  | boolean value =>
      cases otherKeyed with
      | boolean other => simp only [equal, eq_comm]
      | _ => simp only [equal]
  | number value =>
      cases otherKeyed with
      | number other => simp only [equal, Number.order?_eq_eq_comm]
      | _ => simp only [equal]
  | string value =>
      cases otherKeyed with
      | string other => simp only [equal, Collator.equal, eq_comm]
      | _ => simp only [equal]
  | sequence _ ih =>
      cases otherKeyed with
      | sequence keyed =>
          rw [equal, equal]
          exact equalItems_comm fun item member other otherMember =>
            ih item member (keyed other otherMember)
      | _ => simp only [equal]
  | collection _ ih =>
      cases otherKeyed with
      | collection keyed =>
          rw [equal, equal]
          exact equalItems_comm fun item member other otherMember =>
            ih item member (keyed other otherMember)
      | _ => simp only [equal]
  | hash distinct _ ih =>
      cases otherKeyed with
      | hash otherDistinct keyed =>
          rw [Bool.eq_iff_iff, equal_hash_iff distinct otherDistinct,
            equal_hash_iff otherDistinct distinct, List.perm_comm]
          refine and_congr_right fun _ => ⟨?_, ?_⟩
          · intro same key other value otherMember member
            rw [← ih _ member (keyed _ otherMember)]
            exact same key value other member otherMember
          · intro same key value other member otherMember
            rw [ih _ member (keyed _ otherMember)]
            exact same key other value otherMember member
      | _ => simp only [equal]

/-! ## Values without floating-point numbers -/

theorem equalItems_self {items : List Value}
    (same : ∀ item ∈ items, equal collator item item = true) :
    equalItems collator items items = true := by
  induction items with
  | nil => rfl
  | cons item rest ih =>
      obtain ⟨here, there⟩ := List.forall_mem_cons.mp same
      rw [equalItems, here, ih there]
      rfl

/-- Every value without floating-point numbers is equal to itself. -/
theorem equal_self {value : Value} (keyed : Keyed value) (exact : Exact value) :
    equal collator value value = true := by
  induction keyed with
  | boolean value => simp only [equal, decide_true]
  | number value =>
      obtain ⟨decimal, isDecimal⟩ := Number.exists_toDecimal? exact.of_number
      have same : decimal.order decimal = .eq := Std.ReflCmp.compare_self
      rw [equal, Number.order?_of_toDecimal? isDecimal isDecimal, same]
      rfl
  | string value => simp only [equal, Collator.equal, decide_true]
  | sequence _ ih =>
      rw [equal]
      exact equalItems_self fun item member => ih item member (exact.of_sequence item member)
  | collection _ ih =>
      rw [equal]
      exact equalItems_self fun item member => ih item member (exact.of_collection item member)
  | hash distinct _ ih =>
      refine (equal_hash_iff distinct distinct).mpr ⟨.refl _, ?_⟩
      intro key value other member otherMember
      rw [Entries.eq_of_mem distinct otherMember member]
      exact ih _ member (exact.of_hash _ member)

theorem equalItems_trans {items others third : List Value}
    (transitive : ∀ item ∈ items, ∀ other ∈ others, ∀ last ∈ third,
      equal collator item other = true → equal collator other last = true →
        equal collator item last = true)
    (first : equalItems collator items others = true)
    (second : equalItems collator others third = true) :
    equalItems collator items third = true := by
  induction items generalizing others third with
  | nil =>
      cases others with
      | nil => exact second
      | cons => cases first
  | cons item rest ih =>
      cases others with
      | nil => cases first
      | cons other others =>
          cases third with
          | nil => cases second
          | cons last third =>
              rw [equalItems, Bool.and_eq_true] at first second ⊢
              refine ⟨?_, ?_⟩
              · exact transitive item List.mem_cons_self other List.mem_cons_self last
                  List.mem_cons_self first.1 second.1
              · refine ih ?_ first.2 second.2
                intro item member other otherMember last lastMember
                exact transitive item (List.mem_cons_of_mem _ member) other
                  (List.mem_cons_of_mem _ otherMember) last (List.mem_cons_of_mem _ lastMember)

section

variable {second : Value}

theorem eq_boolean_of_equal {value : Bool} (same : equal collator (boolean value) second = true) :
    second = boolean value := by
  cases second with
  | boolean other =>
      rw [equal, decide_eq_true_iff] at same
      rw [same]
  | _ => simp only [equal, Bool.false_eq_true] at same

theorem exists_number_of_equal {value : Number}
    (same : equal collator (number value) second = true) :
    ∃ other, second = number other ∧ value.order? other = some .eq := by
  cases second with
  | number other =>
      rw [equal, decide_eq_true_iff] at same
      exact ⟨other, rfl, same⟩
  | _ => simp only [equal, Bool.false_eq_true] at same

theorem exists_string_of_equal {value : String}
    (same : equal collator (string value) second = true) :
    ∃ other, second = string other ∧ collator.key value = collator.key other := by
  cases second with
  | string other =>
      rw [equal, Collator.equal, decide_eq_true_iff] at same
      exact ⟨other, rfl, same⟩
  | _ => simp only [equal, Bool.false_eq_true] at same

theorem exists_sequence_of_equal {items : List Value}
    (same : equal collator (sequence items) second = true) :
    ∃ others, second = sequence others ∧ equalItems collator items others = true := by
  cases second with
  | sequence others =>
      rw [equal] at same
      exact ⟨others, rfl, same⟩
  | _ => simp only [equal, Bool.false_eq_true] at same

theorem exists_collection_of_equal {items : List Value}
    (same : equal collator (collection items) second = true) :
    ∃ others, second = collection others ∧ equalItems collator items others = true := by
  cases second with
  | collection others =>
      rw [equal] at same
      exact ⟨others, rfl, same⟩
  | _ => simp only [equal, Bool.false_eq_true] at same

theorem exists_hash_of_equal {entries : List (String × Value)}
    (same : equal collator (hash entries) second = true) : ∃ others, second = hash others := by
  cases second with
  | hash others => exact ⟨others, rfl⟩
  | _ => simp only [equal, Bool.false_eq_true] at same

end

/-- Equality is transitive on values without floating-point numbers. -/
theorem equal_trans {first second third : Value} (keyed : Keyed first)
    (secondKeyed : Keyed second) (thirdKeyed : Keyed third) (exact : Exact first)
    (secondExact : Exact second) (thirdExact : Exact third)
    (start : equal collator first second = true) (further : equal collator second third = true) :
    equal collator first third = true := by
  induction keyed generalizing second third with
  | boolean value =>
      rw [eq_boolean_of_equal start] at further
      exact further
  | number value =>
      obtain ⟨other, rfl, startSame⟩ := exists_number_of_equal start
      obtain ⟨last, rfl, furtherSame⟩ := exists_number_of_equal further
      rw [equal, decide_eq_true_iff]
      exact Number.order?_eq_eq_trans exact.of_number secondExact.of_number
        thirdExact.of_number startSame furtherSame
  | string value =>
      obtain ⟨other, rfl, startSame⟩ := exists_string_of_equal start
      obtain ⟨last, rfl, furtherSame⟩ := exists_string_of_equal further
      rw [equal, Collator.equal, decide_eq_true_iff]
      exact startSame.trans furtherSame
  | sequence _ ih =>
      obtain ⟨others, rfl, startSame⟩ := exists_sequence_of_equal start
      obtain ⟨last, rfl, furtherSame⟩ := exists_sequence_of_equal further
      rw [equal]
      refine equalItems_trans ?_ startSame furtherSame
      intro item member other otherMember last lastMember
      exact ih item member (secondKeyed.of_sequence other otherMember)
        (thirdKeyed.of_sequence last lastMember) (exact.of_sequence item member)
        (secondExact.of_sequence other otherMember) (thirdExact.of_sequence last lastMember)
  | collection _ ih =>
      obtain ⟨others, rfl, startSame⟩ := exists_collection_of_equal start
      obtain ⟨last, rfl, furtherSame⟩ := exists_collection_of_equal further
      rw [equal]
      refine equalItems_trans ?_ startSame furtherSame
      intro item member other otherMember last lastMember
      exact ih item member (secondKeyed.of_collection other otherMember)
        (thirdKeyed.of_collection last lastMember) (exact.of_collection item member)
        (secondExact.of_collection other otherMember) (thirdExact.of_collection last lastMember)
  | hash distinct _ ih =>
      obtain ⟨others, rfl⟩ := exists_hash_of_equal start
      obtain ⟨last, rfl⟩ := exists_hash_of_equal further
      obtain ⟨secondDistinct, secondKeyed⟩ := secondKeyed.of_hash
      obtain ⟨thirdDistinct, thirdKeyed⟩ := thirdKeyed.of_hash
      obtain ⟨startKeys, startSame⟩ := (equal_hash_iff distinct secondDistinct).mp start
      obtain ⟨furtherKeys, furtherSame⟩ := (equal_hash_iff secondDistinct thirdDistinct).mp further
      refine (equal_hash_iff distinct thirdDistinct).mpr ⟨startKeys.trans furtherKeys, ?_⟩
      intro key value last member lastMember
      have present := startKeys.mem_iff.mp (List.mem_map_of_mem member)
      obtain ⟨⟨_, other⟩, otherMember, rfl⟩ := List.mem_map.mp present
      exact ih _ member (secondKeyed _ otherMember) (thirdKeyed _ lastMember)
        (exact.of_hash _ member) (secondExact.of_hash _ otherMember)
        (thirdExact.of_hash _ lastMember) (startSame _ value other member otherMember)
        (furtherSame _ other last otherMember lastMember)

/-! ## The order of entries -/

theorem equalItems_append_cons {item other : Value} (before after : List Value)
    (same : ∀ value, equal collator item value = equal collator other value)
    (values : List Value) :
    equalItems collator (before ++ item :: after) values =
      equalItems collator (before ++ other :: after) values := by
  induction before generalizing values with
  | nil =>
      cases values with
      | nil => rfl
      | cons value values => rw [List.nil_append, List.nil_append, equalItems, equalItems, same]
  | cons first before ih =>
      cases values with
      | nil => rfl
      | cons value values =>
          rw [List.cons_append, List.cons_append, equalItems, equalItems, ih]

/-- Rearranging the first value leaves its comparisons as they are. -/
theorem Rearranged.equal {first second : Value} (rearranged : Rearranged first second)
    (value : Value) : first.equal collator value = second.equal collator value := by
  induction rearranged generalizing value with
  | entries permuted =>
      cases value with
      | hash others =>
          rw [Value.equal, Value.equal, containedEntries_eq_all, containedEntries_eq_all,
            permuted.length_eq, permuted.all_eq]
      | _ => simp only [Value.equal]
  | inSequence before after _ ih =>
      cases value with
      | sequence values =>
          rw [Value.equal, Value.equal]
          exact equalItems_append_cons before after ih values
      | _ => simp only [Value.equal]
  | inCollection before after _ ih =>
      cases value with
      | collection values =>
          rw [Value.equal, Value.equal]
          exact equalItems_append_cons before after ih values
      | _ => simp only [Value.equal]
  | inHash before after key _ ih =>
      cases value with
      | hash others =>
          simp only [Value.equal, containedEntries_eq_all, List.length_append, List.length_cons,
            List.all_append, List.all_cons, funext ih]
      | _ => simp only [Value.equal]
  | trans _ _ firstIh secondIh => rw [firstIh, secondIh]

/-- Rearranging a value keeps the keys of its hashes distinct. -/
theorem Rearranged.keyed {first second : Value} (rearranged : Rearranged first second)
    (keyed : Keyed first) : Keyed second := by
  induction rearranged with
  | entries permuted =>
      obtain ⟨distinct, keyed⟩ := keyed.of_hash
      refine .hash ((permuted.map Prod.fst).nodup_iff.mp distinct) ?_
      exact fun entry member => keyed entry (permuted.mem_iff.mpr member)
  | inSequence before after _ ih =>
      have keyed := keyed.of_sequence
      rw [List.forall_mem_append, List.forall_mem_cons] at keyed
      refine .sequence ?_
      rw [List.forall_mem_append, List.forall_mem_cons]
      exact ⟨keyed.1, ih keyed.2.1, keyed.2.2⟩
  | inCollection before after _ ih =>
      have keyed := keyed.of_collection
      rw [List.forall_mem_append, List.forall_mem_cons] at keyed
      refine .collection ?_
      rw [List.forall_mem_append, List.forall_mem_cons]
      exact ⟨keyed.1, ih keyed.2.1, keyed.2.2⟩
  | inHash before after key _ ih =>
      obtain ⟨distinct, keyed⟩ := keyed.of_hash
      rw [List.map_append, List.map_cons] at distinct
      rw [List.forall_mem_append, List.forall_mem_cons] at keyed
      refine .hash ?_ ?_
      · rw [List.map_append, List.map_cons]
        exact distinct
      · rw [List.forall_mem_append, List.forall_mem_cons]
        exact ⟨keyed.1, ih keyed.2.1, keyed.2.2⟩
  | trans _ _ firstIh secondIh => exact secondIh (firstIh keyed)

/-- Nor does it matter to the comparisons with another value. -/
theorem Rearranged.equal_right {first second value : Value} (rearranged : Rearranged first second)
    (keyed : Keyed first) (valueKeyed : Keyed value) :
    value.equal collator second = value.equal collator first := by
  rw [equal_comm valueKeyed (rearranged.keyed keyed), ← rearranged.equal,
    equal_comm keyed valueKeyed]

end Value

/-! ## Comparing values in an environment -/

namespace Environment

open Value

/-- Values are compared as one expects: equality is symmetric, an equivalence
where no floating-point number is involved, and blind to the order of entries;
the order of scalars of one type is total and transitive and agrees with it. -/
structure Lawful (environment : Environment) : Prop where
  equal_comm : ∀ first second : Value, first.Keyed → second.Keyed →
    environment.equal first second = environment.equal second first
  equal_self : ∀ value : Value, value.Keyed → value.Exact → environment.equal value value = true
  equal_trans : ∀ first second third : Value, first.Keyed → second.Keyed → third.Keyed →
    first.Exact → second.Exact → third.Exact → environment.equal first second = true →
      environment.equal second third = true → environment.equal first third = true
  equal_rearranged : ∀ first other second : Value, first.Keyed → second.Keyed →
    Rearranged first other →
      environment.equal other second = environment.equal first second ∧
        environment.equal second other = environment.equal second first
  exists_order? : ∀ first second : Value, SameScalar first second →
    ∃ ordering, environment.order? first second = some ordering
  order?_swap : ∀ first second : Value,
    environment.order? second first = (environment.order? first second).map Ordering.swap
  order?_trans : ∀ (first second third : Value) (start further : Ordering),
    SameScalar first second → SameScalar second third →
      environment.order? first second = some start → start.isLE = true →
        environment.order? second third = some further → further.isLE = true →
          ∃ ordering, environment.order? first third = some ordering ∧ ordering.isLE = true
  order?_eq_eq_iff : ∀ first second : Value, SameScalar first second →
    (environment.order? first second = some .eq ↔ environment.equal first second = true)

/-- Every environment compares values lawfully. -/
theorem lawful (environment : Environment) : environment.Lawful where
  equal_comm _ _ keyed otherKeyed := Value.equal_comm keyed otherKeyed
  equal_self _ keyed exact := Value.equal_self keyed exact
  equal_trans _ _ _ keyed secondKeyed thirdKeyed exact secondExact thirdExact start further :=
    Value.equal_trans keyed secondKeyed thirdKeyed exact secondExact thirdExact start further
  equal_rearranged _ _ second keyed secondKeyed rearranged :=
    ⟨(rearranged.equal second).symm, rearranged.equal_right keyed secondKeyed⟩
  exists_order? _ _ same := Value.exists_order? same
  order?_swap first second := Value.order?_swap environment.collator first second
  order?_trans _ _ _ start further same others startOrder startLE furtherOrder furtherLE :=
    NotAfter.trans same others ⟨start, startOrder, startLE⟩ ⟨further, furtherOrder, furtherLE⟩
  order?_eq_eq_iff _ _ same := Value.order?_eq_eq_iff same

/-- A hash of two entries, one of them a hash as well. -/
def menu : Value :=
  .hash (Entries.ofList [("name", .string "Café"),
    ("price", .hash (Entries.ofList [("amount", .number (.int 2)), ("unit", .string "EUR")]))])

/-- The same hash with the inner entries exchanged. -/
def rearrangedMenu : Value :=
  .hash [("name", .string "Café"),
    ("price", .hash [("unit", .string "EUR"), ("amount", .number (.int 2))])]

theorem lawful_menu :
    menu.Keyed ∧ menu.Exact ∧ Rearranged menu rearrangedMenu ∧
      (ofLocale "fr-u-ks-level1").equal rearrangedMenu menu = true := by
  have keyed : menu.Keyed := by
    refine .hash (Entries.nodup_keys_ofList _) (List.forall_mem_cons.mpr ⟨.string _, ?_⟩)
    refine List.forall_mem_singleton.mpr (.hash (Entries.nodup_keys_ofList _) ?_)
    exact List.forall_mem_cons.mpr ⟨.number _, List.forall_mem_singleton.mpr (.string _)⟩
  have exact : menu.Exact := by
    refine .hash (List.forall_mem_cons.mpr ⟨.string _, ?_⟩)
    refine List.forall_mem_singleton.mpr (.hash ?_)
    exact List.forall_mem_cons.mpr ⟨.number rfl, List.forall_mem_singleton.mpr (.string _)⟩
  have rearranged : Rearranged menu rearrangedMenu :=
    .inHash [("name", .string "Café")] [] "price" (.entries (.swap _ _ _))
  have lawful := lawful (ofLocale "fr-u-ks-level1")
  refine ⟨keyed, exact, rearranged, ?_⟩
  rw [(lawful.equal_rearranged menu rearrangedMenu menu keyed keyed rearranged).1]
  exact lawful.equal_self menu keyed exact

end Environment

end TemplateLanguage
