import Mathlib.Data.List.TakeDrop
import TemplateLanguage.Proofs.Analysis.Finding
import TemplateLanguage.Template.Builder

/-!
# Sessions with a template

A host records diagnostics, takes them all, and has the template analysed, in any
order.  The diagnostics that it recorded since it last took them are pending.

An analysis keeps pending diagnostics from the front only, as many as were
pending at the earlier analysis that found the fewest of them: the length that
the template remembers is the number kept then, and what the host records later
stands behind it, like the diagnostics of the analysis itself.  So a diagnostic
that is recorded after an analysis is discarded by the next one, unless others
were taken in the meantime.
-/

namespace TemplateLanguage

/-- What a host does with a template. -/
inductive HostAction where
  | record (diagnostic : Diagnostic)
  | take
  | analyze (options : AnalysisOptions)
  | check (options : AnalysisOptions)

/-- What a host has recorded. -/
structure Ledger where
  /-- The diagnostics recorded since they were last taken. -/
  pending : List Diagnostic
  /-- The least number of pending diagnostics at an analysis. -/
  limit : Option Nat

namespace Ledger

/-- The pending diagnostics that an analysis keeps. -/
def kept (ledger : Ledger) : List Diagnostic :=
  ledger.pending.take (ledger.limit.getD ledger.pending.length)

/-- The number of pending diagnostics is noted at an analysis. -/
def analyze (ledger : Ledger) : Ledger :=
  { ledger with
    limit := some (min (ledger.limit.getD ledger.pending.length) ledger.pending.length) }

/-- Account for an action. -/
def perform (ledger : Ledger) : HostAction → Ledger
  | .record diagnostic => { ledger with pending := ledger.pending ++ [diagnostic] }
  | .take => { ledger with pending := [] }
  | .analyze _ | .check _ => ledger.analyze

/-- All pending diagnostics are kept exactly if there were as many at every
analysis so far. -/
theorem kept_eq_pending_iff {ledger : Ledger} :
    ledger.kept = ledger.pending ↔ ∀ limit ∈ ledger.limit, ledger.pending.length ≤ limit := by
  rw [kept, List.take_eq_self_iff]
  cases ledger.limit <;> simp

end Ledger

namespace Template

/-- The template after an action. -/
def perform (template : Template) : HostAction → Template
  | .record diagnostic => template.record diagnostic
  | .take => template.clearDiagnostics
  | .analyze options => (template.analyze options).2
  | .check options => (template.check options).2

/-- The template after several actions. -/
def performAll (template : Template) (actions : List HostAction) : Template :=
  actions.foldl perform template

/-- What a host has recorded in a template after several actions. -/
def ledger (template : Template) (actions : List HostAction) : Ledger :=
  actions.foldl Ledger.perform ⟨template.diagnostics.toList, none⟩

theorem check_snd (template : Template) (options : AnalysisOptions) :
    (template.check options).2 = (template.analyze options).2 := by
  rw [check]
  split
  rename_i ran
  rw [ran]
  split <;> rfl

/-! ## What is found -/

/-- No action changes what an analysis finds. -/
theorem found_perform (template : Template) (action : HostAction) (options : AnalysisOptions) :
    (template.perform action).found options = template.found options := by
  cases action with
  | record | take | analyze => rfl
  | check runOptions =>
      rw [perform, check_snd]
      rfl

theorem found_performAll (template : Template) (actions : List HostAction)
    (options : AnalysisOptions) :
    (template.performAll actions).found options = template.found options := by
  induction actions generalizing template with
  | nil => rfl
  | cons action rest ih => exact (ih _).trans (found_perform template action options)

/-! ## What is kept -/

/-- The diagnostics of a template are the pending ones, or they agree with them up
to the remembered length, which is within both. -/
structure Tracks (template : Template) (ledger : Ledger) : Prop where
  limit : template.analysisStart = ledger.limit
  agree : template.diagnostics.toList = ledger.pending ∨
    ∃ length, ledger.limit = some length ∧ length ≤ template.diagnostics.toList.length ∧
      length ≤ ledger.pending.length ∧
        template.diagnostics.toList.take length = ledger.pending.take length

variable {template : Template} {ledger : Ledger}

/-- A reset keeps diagnostics up to the remembered length. -/
theorem toList_diagnostics_resetAnalysis (template : Template) :
    template.resetAnalysis.diagnostics.toList =
      template.diagnostics.toList.take
        (template.analysisStart.getD template.diagnostics.toList.length) := by
  rw [resetAnalysis]
  cases template.analysisStart with
  | none => rw [Option.getD_none, List.take_length]
  | some start => simp

theorem Tracks.kept (tracks : Tracks template ledger) :
    template.resetAnalysis.diagnostics.toList = ledger.kept := by
  rw [toList_diagnostics_resetAnalysis, tracks.limit, Ledger.kept]
  rcases tracks.agree with same | ⟨length, limit, _, _, same⟩
  · rw [same]
  · rw [limit]
    exact same

theorem Tracks.record (tracks : Tracks template ledger) (diagnostic : Diagnostic) :
    Tracks (template.perform (.record diagnostic)) (ledger.perform (.record diagnostic)) := by
  have pushed : (template.record diagnostic).diagnostics.toList =
      template.diagnostics.toList ++ [diagnostic] :=
    Array.toList_push
  refine ⟨tracks.limit, ?_⟩
  rw [perform, Ledger.perform, pushed]
  rcases tracks.agree with same | ⟨length, limit, inside, pendingInside, same⟩
  · exact Or.inl (congrArg (· ++ [diagnostic]) same)
  · refine Or.inr ⟨length, limit, ?_, ?_, ?_⟩
    · rw [List.length_append]
      exact Nat.le_add_right_of_le inside
    · rw [List.length_append]
      exact Nat.le_add_right_of_le pendingInside
    · rw [List.take_append_of_le_length inside, List.take_append_of_le_length pendingInside, same]

theorem Tracks.take (tracks : Tracks template ledger) :
    Tracks (template.perform .take) (ledger.perform .take) :=
  ⟨tracks.limit, Or.inl rfl⟩

theorem Tracks.analyze (tracks : Tracks template ledger) (options : AnalysisOptions) :
    Tracks (template.analyze options).2 ledger.analyze := by
  have kept := tracks.kept
  have size : template.resetAnalysis.diagnostics.size = ledger.kept.length := by
    rw [← kept, Array.length_toList]
  have diagnostics : (template.analyze options).2.diagnostics.toList =
      ledger.kept ++ template.found options := by
    rw [diagnostics_analyze, Array.toList_appendList, kept]
  have length : ledger.kept.length =
      min (ledger.limit.getD ledger.pending.length) ledger.pending.length := by
    rw [Ledger.kept, List.length_take]
  have start : (template.analyze options).2.analysisStart = ledger.analyze.limit := by
    change some template.resetAnalysis.diagnostics.size = _
    rw [size, length]
    rfl
  refine ⟨start, Or.inr ⟨ledger.kept.length, ?_, ?_, ?_, ?_⟩⟩
  · rw [length]
    rfl
  · rw [diagnostics, List.length_append]
    exact Nat.le_add_right _ _
  · rw [length]
    exact Nat.min_le_right _ _
  · rw [diagnostics, List.take_left, length]
    change ledger.kept = ledger.pending.take _
    rw [Ledger.kept, List.take_eq_take_iff, Nat.min_assoc, Nat.min_self]

theorem Tracks.perform (tracks : Tracks template ledger) (action : HostAction) :
    Tracks (template.perform action) (ledger.perform action) := by
  cases action with
  | record diagnostic => exact tracks.record diagnostic
  | take => exact tracks.take
  | analyze options => exact tracks.analyze options
  | check options =>
      rw [Template.perform, check_snd]
      exact tracks.analyze options

theorem Tracks.foldl (tracks : Tracks template ledger) (actions : List HostAction) :
    Tracks (actions.foldl Template.perform template) (actions.foldl Ledger.perform ledger) := by
  induction actions generalizing template ledger with
  | nil => exact tracks
  | cons action rest ih => exact ih (tracks.perform action)

/-- A template that was never analysed and its ledger. -/
theorem tracks_ledger (unanalyzed : template.analysisStart = none) (actions : List HostAction) :
    Tracks (template.performAll actions) (template.ledger actions) :=
  Tracks.foldl ⟨unanalyzed, Or.inl rfl⟩ actions

/-- An analysis of a template that was not analysed before the session keeps the
first pending diagnostics, no more than there were at any earlier analysis, and
appends and counts what it would find in a new template.  It keeps all of them
exactly if their number has not grown since. -/
theorem diagnostics_analyze_performAll (unanalyzed : template.analysisStart = none)
    (actions : List HostAction) (options : AnalysisOptions) :
    ((template.performAll actions).analyze options).2.diagnostics.toList =
        (template.ledger actions).kept ++ template.found options ∧
      ((template.performAll actions).analyze options).1.problems =
        (template.found options).length ∧
      template.found options =
        ((ofTree template.name template.tree template.root template.header).analyze
          options).2.diagnostics.toList ∧
      (((template.performAll actions).analyze options).2.diagnostics.toList =
          (template.ledger actions).pending ++ template.found options ↔
        ∀ limit ∈ (template.ledger actions).limit,
          (template.ledger actions).pending.length ≤ limit) := by
  have found := found_performAll template actions options
  have diagnostics : ((template.performAll actions).analyze options).2.diagnostics.toList =
      (template.ledger actions).kept ++ template.found options := by
    rw [diagnostics_analyze, Array.toList_appendList, found,
      (tracks_ledger unanalyzed actions).kept]
  refine ⟨diagnostics, ?_, ?_, ?_⟩
  · rw [report_analyze, found]
  · rw [diagnostics_analyze, Array.toList_appendList]
    rfl
  · rw [diagnostics, List.append_left_inj]
    exact Ledger.kept_eq_pending_iff

/-- A template whose body is a break outside of every loop. -/
def strayBreak : Template :=
  (do
    let stray ← Build.node .breakDirective []
    Build.finish [stray] : Build Template) (.new "stray") |>.get (by decide) |>.1

/-- A diagnostic of the host. -/
def hostDiagnostic (message : String) : Diagnostic :=
  { kind := .invalidStringLiteral, span := ⟨1, 2, 1⟩, message }

/-- What the host records before the first analysis is kept. -/
theorem diagnostics_analyze_strayBreak :
    strayBreak.analysisStart = none ∧
      ((strayBreak.performAll [.record (hostDiagnostic "early"), .analyze {}]).analyze
          {}).2.diagnostics.toList =
        hostDiagnostic "early" :: strayBreak.found {} ∧
      (strayBreak.found {}).map Diagnostic.kind = [.misplacedBreak] := by
  have unanalyzed : strayBreak.analysisStart = none := by decide +kernel
  obtain ⟨diagnostics, _⟩ := diagnostics_analyze_performAll unanalyzed
    [.record (hostDiagnostic "early"), .analyze {}] {}
  have kept : (strayBreak.ledger [.record (hostDiagnostic "early"), .analyze {}]).kept =
      [hostDiagnostic "early"] := by
    decide +kernel
  rw [kept] at diagnostics
  exact ⟨unanalyzed, diagnostics, by decide +kernel⟩

/-- What the host records after an analysis is lost to the next one. -/
theorem diagnostics_analyze_ne_pending :
    strayBreak.analysisStart = none ∧
      (strayBreak.ledger [.analyze {}, .record (hostDiagnostic "late")]).pending =
        [hostDiagnostic "late"] ∧
      hostDiagnostic "late" ∉
        ((strayBreak.performAll [.analyze {}, .record (hostDiagnostic "late")]).analyze
          {}).2.diagnostics.toList := by
  decide +kernel

end Template

end TemplateLanguage
