import TemplateLanguage.Proofs.Analysis.Finding
import TemplateLanguage.Template.Builder

/-!
# What a header decides

The parameters of a header are read from left to right, and one that cannot be read stops
nothing.  So the strict flag is that of the last parameter that sets it, and each parameter
that does not exist or cannot be read is reported by itself, before anything in the body.

Headers in the body are not looked at: what is reported of the body is never about a header.
-/

namespace TemplateLanguage

namespace Tree

/-- The strict flag that a parameter of a header sets, if its value can be read. -/
def strictFlag? (tree : Tree) (parameter : String × NodeId) : Option Bool :=
  if parameter.1 = "strict_vars" then tree.flag? parameter.2
  else if parameter.1 = "legacy_syntax" then (tree.flag? parameter.2).map not
  else none

/-- The diagnostic at a span of a flag whose value is no boolean literal. -/
def flagDiagnostic? (tree : Tree) (span : Span) (parameter : String × NodeId) :
    Option Diagnostic :=
  match tree.flag? parameter.2 with
  | some _ => none
  | none =>
      some
        { kind := .invalidHeaderParameter
          span
          message :=
            "The header parameter " ++ parameter.1 ++ " must be a boolean literal, found "
              ++ (tree.expression parameter.2).toText
          labels := [] }

/-- The diagnostic at a span of a parameter that does not exist or cannot be read. -/
def parameterDiagnostic? (tree : Tree) (span : Span) (parameter : String × NodeId) :
    Option Diagnostic :=
  if parameter.1 = "strict_vars" ∨ parameter.1 = "legacy_syntax" then
    tree.flagDiagnostic? span parameter
  else if parameter.1 = "encoding" then none
  else
    some
      { kind := .unknownHeaderParameter
        span
        message := "Unknown header parameter: " ++ parameter.1
        labels := [] }

end Tree

/-! ## Reading a header -/

namespace HeaderReading

variable {tree : Tree} {header value : NodeId} {parameters : Entries String NodeId} {key : String}

/-- The diagnostics of what was found wrong with a header so far. -/
def diagnostics (tree : Tree) (header : NodeId) (reading : HeaderReading) : List Diagnostic :=
  reading.problems.map fun problem => Finding.diagnostic tree ⟨problem, header⟩

/-- A parameter that a header has is a boolean literal, or it is something else. -/
theorem booleanParameter_eq (kind : tree.kind? header = some (.header parameters))
    (present : parameters.lookup key = some value) :
    tree.booleanParameter header key =
      match tree.flag? value with
      | some flag => .ok flag
      | none => .error (.notBoolean key (tree.expression value)) := by
  have found : tree.parameter header key = .ok value := by
    rw [Tree.parameter, kind]
    simp only [present]
  cases flag : tree.flag? value with
  | some flag => simp only [Tree.booleanParameter, found, flag]
  | none => simp only [Tree.booleanParameter, found, flag]

/-- A flag is set, or it is left and reported. -/
theorem readFlag_spec (kind : tree.kind? header = some (.header parameters))
    (present : parameters.lookup key = some value) (ofFlag : Bool → Bool)
    (reading : HeaderReading) :
    (readFlag tree header key ofFlag reading).strict =
        ((tree.flag? value).map ofFlag).getD reading.strict ∧
      (readFlag tree header key ofFlag reading).diagnostics tree header =
        reading.diagnostics tree header ++
          (tree.flagDiagnostic? (tree.span header) (key, value)).toList := by
  rw [readFlag, booleanParameter_eq kind present, Tree.flagDiagnostic?]
  cases tree.flag? value with
  | some flag => exact ⟨rfl, (List.append_nil _).symm⟩
  | none => exact ⟨rfl, List.map_append⟩

/-- A parameter sets the flag or leaves it, and is reported or not. -/
theorem readParameter_spec (kind : tree.kind? header = some (.header parameters))
    (present : parameters.lookup key = some value) (reading : HeaderReading) :
    (readParameter tree header reading key).strict =
        (tree.strictFlag? (key, value)).getD reading.strict ∧
      (readParameter tree header reading key).diagnostics tree header =
        reading.diagnostics tree header ++
          (tree.parameterDiagnostic? (tree.span header) (key, value)).toList := by
  have read := fun ofFlag => readFlag_spec kind present ofFlag reading
  have readStrict := read id
  rw [Option.map_id] at readStrict
  rw [readParameter, HeaderParameter.ofKey?, Tree.strictFlag?, Tree.parameterDiagnostic?]
  by_cases isStrict : key = "strict_vars"
  · rw [if_pos isStrict, if_pos isStrict, if_pos (Or.inl isStrict)]
    exact readStrict
  · rw [if_neg isStrict, if_neg isStrict]
    by_cases isLegacy : key = "legacy_syntax"
    · rw [if_pos isLegacy, if_pos isLegacy, if_pos (Or.inr isLegacy)]
      exact read not
    · rw [if_neg isLegacy, if_neg isLegacy, if_neg (not_or.mpr ⟨isStrict, isLegacy⟩)]
      by_cases isEncoding : key = "encoding"
      · rw [if_pos isEncoding, if_pos isEncoding]
        exact ⟨rfl, (List.append_nil _).symm⟩
      · rw [if_neg isEncoding, if_neg isEncoding]
        exact ⟨rfl, List.map_append⟩

/-- Some parameters of a header, read one after the other: the last one that sets the flag
decides, and the diagnostics stand in the order of the parameters. -/
theorem foldl_readParameter_spec (kind : tree.kind? header = some (.header parameters))
    (entries : List (String × NodeId))
    (present : ∀ entry ∈ entries, parameters.lookup entry.1 = some entry.2)
    (reading : HeaderReading) :
    ((entries.map Prod.fst).foldl (readParameter tree header) reading).strict =
        ((entries.filterMap tree.strictFlag?).getLast?).getD reading.strict ∧
      ((entries.map Prod.fst).foldl (readParameter tree header) reading).diagnostics tree header =
        reading.diagnostics tree header ++
          entries.filterMap (tree.parameterDiagnostic? (tree.span header)) := by
  induction entries generalizing reading with
  | nil => exact ⟨rfl, (List.append_nil _).symm⟩
  | cons entry rest ih =>
      obtain ⟨strict, diagnostics⟩ := readParameter_spec kind (present entry List.mem_cons_self)
        reading
      obtain ⟨strictAfter, diagnosticsAfter⟩ := ih
        (fun other member => present other (List.mem_cons_of_mem entry member))
        (readParameter tree header reading entry.1)
      rw [List.map_cons, List.foldl_cons, strictAfter, diagnosticsAfter, strict, diagnostics,
        List.filterMap_cons, List.filterMap_cons]
      constructor
      · cases tree.strictFlag? entry with
        | none => rfl
        | some flag =>
            cases later : (rest.filterMap tree.strictFlag?).getLast? with
            | none => simp [List.getLast?_cons, later]
            | some last => simp [List.getLast?_cons, later]
      · rw [List.append_assoc]
        cases tree.parameterDiagnostic? (tree.span header) entry <;> rfl

/-- What the parameters of a header decide, if each key has one value. -/
theorem ofHeader_spec (kind : tree.kind? header = some (.header parameters))
    (distinct : (parameters.map Prod.fst).Nodup) (strict : Bool) :
    (ofHeader tree strict header).strict =
        ((parameters.filterMap tree.strictFlag?).getLast?).getD strict ∧
      (ofHeader tree strict header).diagnostics tree header =
        parameters.filterMap (tree.parameterDiagnostic? (tree.span header)) := by
  rw [ofHeader, kind]
  exact foldl_readParameter_spec kind parameters
    (fun entry member => (Entries.lookup_eq_some_iff_mem distinct).mpr member) ⟨strict, []⟩

/-- A node that is no header decides nothing. -/
theorem ofHeader_of_not_header
    (other : ∀ parameters, tree.kind? header ≠ some (.header parameters)) (strict : Bool) :
    ofHeader tree strict header = ⟨strict, []⟩ := by
  rw [ofHeader]
  split
  · exact absurd ‹_› (other _)
  · rfl

end HeaderReading

/-! ## The body -/

/-- What is reported of a body is never about a header. -/
theorem Survey.kind_of_mem_findings {tree : Tree} {options : AnalysisOptions} {strict : Bool}
    {scopes : Scopes} {root : NodeId} {finding : Finding}
    (member : finding ∈ (ofTree tree options strict scopes root).findings.toList) :
    finding.problem.kind ∉
      [DiagnosticKind.unknownHeaderParameter, .invalidHeaderParameter] := by
  let ofHeader (kind : DiagnosticKind) : Bool :=
    kind ∈ [DiagnosticKind.unknownHeaderParameter, .invalidHeaderParameter]
  have undeclared : ∀ finding : Finding, finding.problem.kind = .duplicateDeclaration →
      ofHeader finding.problem.kind = false := by
    intro finding kind
    rw [kind]
    rfl
  have used : ∀ visit, (Usage.findings tree options visit).filter
      (fun finding => ofHeader finding.problem.kind) = [] :=
    fun visit => Finding.filter_eq_nil ofHeader (fun _ => Usage.kind_of_mem_findings) (by decide)
  have placed := Placement.filter_eq_nil ofHeader (by decide) tree strict
  have none : (ofTree tree options strict scopes root).findings.toList.filter
      (fun finding => ofHeader finding.problem.kind) = [] := by
    rw [ofTree, filter_findings_foldl undeclared]
    simp [used, placed, start]
  intro kind
  exact List.filter_eq_nil_iff.mp none finding member (decide_eq_true kind)

namespace Template

/-! ## Analyses -/

/-- The header of a template decides a strict flag and shows some diagnostics: the flag is
reported, stored, and used for the whole body, and the diagnostics come first, before those of
the body, none of which is about a header. -/
structure HeaderDecides (template : Template) (options : AnalysisOptions) (strict : Bool)
    (shown : List Diagnostic) : Prop where
  reported : (template.analyze options).1.strict = strict
  stored : (template.analyze options).2.strict = strict
  used : template.survey options = .ofTree template.tree options strict .start template.root
  recorded : (template.analyze options).2.recorded =
    shown ++ (template.survey options).findings.toList.map (Finding.diagnostic template.tree)
  body : ∀ diagnostic ∈
    (template.survey options).findings.toList.map (Finding.diagnostic template.tree),
      diagnostic.kind ∉ [.unknownHeaderParameter, .invalidHeaderParameter]

theorem headerDecides_readHeader (template : Template) (options : AnalysisOptions) :
    HeaderDecides template options (template.readHeader options).strict
      ((template.headerFindings options).map (Finding.diagnostic template.tree)) where
  reported := rfl
  stored := rfl
  used := rfl
  recorded := by rw [recorded_analyze, found, List.map_append]
  body := by
    intro diagnostic member
    obtain ⟨finding, reported, rfl⟩ := List.mem_map.mp member
    exact Survey.kind_of_mem_findings reported

/-- A header decides the strict flag by its last parameter that sets one, and shows a diagnostic
for each parameter that does not exist or cannot be read, in their order.  Without a header, the
options decide the flag, and nothing is shown. -/
theorem headerDecides_analyze (template : Template) (options : AnalysisOptions) :
    (∀ header parameters, template.header = some header →
      template.tree.kind? header = some (.header parameters) →
      (parameters.map Prod.fst).Nodup →
      HeaderDecides template options
        (((parameters.filterMap template.tree.strictFlag?).getLast?).getD options.strict)
        (parameters.filterMap
          (template.tree.parameterDiagnostic? (template.tree.span header)))) ∧
    ((∀ header parameters, template.header = some header →
        template.tree.kind? header ≠ some (.header parameters)) →
      HeaderDecides template options options.strict []) := by
  have decides := headerDecides_readHeader template options
  constructor
  · intro header parameters present kind distinct
    obtain ⟨strict, diagnostics⟩ :=
      HeaderReading.ofHeader_spec kind distinct options.strict
    have shown : (template.headerFindings options).map (Finding.diagnostic template.tree) =
        parameters.filterMap
          (template.tree.parameterDiagnostic? (template.tree.span header)) := by
      rw [← diagnostics, headerFindings, readHeader, present]
      exact List.map_map
    have flag : (template.readHeader options).strict =
        ((parameters.filterMap template.tree.strictFlag?).getLast?).getD options.strict := by
      rw [← strict, readHeader, present]
    rw [flag, shown] at decides
    exact decides
  · intro absent
    have reading : template.readHeader options = ⟨options.strict, []⟩ := by
      rw [readHeader]
      cases present : template.header with
      | none => rfl
      | some header =>
          exact HeaderReading.ofHeader_of_not_header (fun parameters => absent header parameters
            present) options.strict
    have nothing : template.headerFindings options = [] := by
      rw [headerFindings, reading]
      cases template.header <;> rfl
    rw [reading, nothing] at decides
    exact decides

/-- A header with a flag that is set, a misspelled one, one that cannot be read, and a parameter
of no account, above a body with another header in it. -/
def mixedHeader : Build Template := do
  let on ← Build.node (.expression (.boolean true)) []
  let misspelled ← Build.node (.expression (.boolean false)) []
  let word ← Build.node (.stringLiteral "no" false) []
  let charset ← Build.node (.stringLiteral "UTF-8" false) []
  let _ ← Build.header
    [("strict_vars", on), ("stric_vars", misspelled), ("legacy_syntax", word),
      ("encoding", charset)]
  let off ← Build.node (.expression (.boolean false)) []
  let inner ← Build.node (.header [("strict_vars", off), ("charset", off)]) [off]
  Build.finish [inner]

/-- The template of `mixedHeader`. -/
def mixedTemplate : Template :=
  (mixedHeader (.new "mixed")).get (by decide) |>.1

/-- The parameters of the header of `mixedTemplate`. -/
def mixedParameters : Entries String NodeId :=
  [("strict_vars", 0), ("stric_vars", 1), ("legacy_syntax", 2), ("encoding", 3)]

/-- The misspelled flag and the one that cannot be read are reported in this order, and the flag
that was set before them stays. -/
theorem headerDecides_mixedTemplate :
    mixedTemplate.header = some 4 ∧
      mixedTemplate.tree.kind? 4 = some (.header mixedParameters) ∧
      (mixedParameters.map Prod.fst).Nodup ∧
      HeaderDecides mixedTemplate {} true
        (mixedParameters.filterMap
          (mixedTemplate.tree.parameterDiagnostic? (mixedTemplate.tree.span 4))) ∧
      (mixedParameters.filterMap
          (mixedTemplate.tree.parameterDiagnostic? (mixedTemplate.tree.span 4))).map
        Diagnostic.kind = [.unknownHeaderParameter, .invalidHeaderParameter] := by
  have present : mixedTemplate.header = some 4 := by decide +kernel
  have kind : mixedTemplate.tree.kind? 4 = some (.header mixedParameters) := by decide +kernel
  have distinct : (mixedParameters.map Prod.fst).Nodup := by decide
  have decides := (headerDecides_analyze mixedTemplate {}).1 4 mixedParameters present kind distinct
  have flag : ((mixedParameters.filterMap mixedTemplate.tree.strictFlag?).getLast?).getD false =
      true := by
    decide +kernel
  exact ⟨present, kind, distinct, flag ▸ decides, by decide +kernel⟩

end Template

end TemplateLanguage
