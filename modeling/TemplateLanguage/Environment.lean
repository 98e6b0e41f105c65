import TemplateLanguage.Value.Compare

/-!
# Environments

An environment holds the locale under which values are compared.  Its collator
is the one of the locale, unless the environment was made for a collator of
its own; changing the locale gives that one up.  The collator of the locale is
made when it is first asked for, and the environment holds it from then on.
-/

namespace TemplateLanguage

/-- The settings that built-ins consult. -/
structure Environment where
  locale : String
  /-- The collator that is held: the one that the environment was made for, or
  that of the locale once it has been asked for. -/
  ownCollator : Option Collator
  deriving DecidableEq, Repr

namespace Environment

/-- The environment of a locale. -/
def ofLocale (locale : String) : Environment :=
  ⟨locale, none⟩

/-- The environment that is used if nothing is said. -/
def standard : Environment :=
  ofLocale "en"

/-- The environment of a collator. -/
def ofCollator (collator : Collator) : Environment :=
  ⟨collator.locale, some collator⟩

/-- The collator by which strings are compared. -/
def collator (environment : Environment) : Collator :=
  environment.ownCollator.getD (.ofLocale environment.locale)

/-- The environment under another locale. -/
def setLocale (_ : Environment) (locale : String) : Environment :=
  ofLocale locale

/-- Ask for the collator; if none is held, that of the locale is made and held. -/
def askCollator : StateM Environment Collator := do
  match (← get).ownCollator with
  | some held => return held
  | none =>
      let made := Collator.ofLocale (← get).locale
      modify fun environment => { environment with ownCollator := some made }
      return made

/-- Whether two values are equal in an environment. -/
def equal (environment : Environment) (first second : Value) : Bool :=
  first.equal environment.collator second

/-- The order of two values in an environment. -/
def order? (environment : Environment) (first second : Value) : Option Ordering :=
  first.order? environment.collator second

end Environment

end TemplateLanguage
