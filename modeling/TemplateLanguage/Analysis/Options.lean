import TemplateLanguage.Dictionary

/-!
# AnalysisOptions of an analysis

An analysis is told which flag to assume where a header does not set one, and
which keys a setting may use besides the fixed ones.
-/

namespace TemplateLanguage

/-- The keys that a setting may always use. -/
def settingKeys : List String :=
  ["locale", "number_format", "time_format", "date_format", "datetime_format", "time_zone",
    "boolean_format", "url_escaping_charset"]

/-- What an analysis may be told. -/
structure AnalysisOptions where
  /-- Whether a template is strict if its header does not say. -/
  strict : Bool := false
  /-- Keys that a setting may use besides the fixed ones. -/
  extraKeys : Names := []
  deriving DecidableEq, Repr

namespace AnalysisOptions

/-- AnalysisOptions under which a template is strict if its header does not say. -/
def asStrict (options : AnalysisOptions) : AnalysisOptions :=
  { options with strict := true }

/-- AnalysisOptions with one more key for settings. -/
def withKey (options : AnalysisOptions) (key : String) : AnalysisOptions :=
  { options with extraKeys := Names.add key options.extraKeys }

/-- Whether a setting may use a key. -/
def allows (options : AnalysisOptions) (key : String) : Bool :=
  key ∈ settingKeys || key ∈ options.extraKeys

end AnalysisOptions

end TemplateLanguage
