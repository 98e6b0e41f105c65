import Mathlib.Data.List.Basic
import TemplateLanguage.Proofs.Environment.Reading

/-!
# Sessions with an environment

In a session with an environment its locale is set, its locale and its collator are asked
for and values are compared, in any order.  Every reply comes from the locale and the
collator that are seen, and only setting a locale changes these.

So the collator of a session is always that of the locale that was set last, or the one
that the environment began with if none was set, and requests that only read change no
later reply.
-/

namespace TemplateLanguage.Environment

/-- What is done in a session. -/
inductive Request where
  | setLocale (locale : String)
  | locale
  | collator
  | equal (first second : Value)
  | order (first second : Value)

/-- What comes back for a request. -/
inductive Reply where
  | done
  | locale (locale : String)
  | collator (collator : Collator)
  | equal (holds : Bool)
  | order (ordering : Option Ordering)

/-- Carry out a request. -/
def perform : Request → StateM Environment Reply
  | .setLocale locale => do
      modify fun environment => environment.setLocale locale
      return .done
  | .locale => return .locale (← get).locale
  | .collator => return .collator (← askCollator)
  | .equal first second => return .equal (← askEqual first second)
  | .order first second => return .order (← askOrder? first second)

/-- Carry out several requests. -/
def performAll : List Request → StateM Environment (List Reply)
  | [] => return []
  | request :: rest => return (← perform request) :: (← performAll rest)

namespace View

/-- What is seen once a locale has been set. -/
def ofLocale (locale : String) : View :=
  ⟨locale, .ofLocale locale⟩

/-- The reply to a request. -/
def reply (view : View) : Request → Reply
  | .setLocale _ => .done
  | .locale => .locale view.locale
  | .collator => .collator view.collator
  | .equal first second => .equal (first.equal view.collator second)
  | .order first second => .order (first.order? view.collator second)

end View

/-- The locale that a request sets. -/
def Request.newLocale? : Request → Option String
  | .setLocale tag => some tag
  | _ => none

/-- The locale that requests set last. -/
def lastLocale? (requests : List Request) : Option String :=
  (requests.filterMap Request.newLocale?).getLast?

/-- How an environment is made. -/
inductive Origin where
  | standard
  | ofLocale (locale : String)
  | ofCollator (collator : Collator)

namespace Origin

/-- The environment that is made. -/
def environment : Origin → Environment
  | standard => .standard
  | ofLocale locale => .ofLocale locale
  | ofCollator collator => .ofCollator collator

/-- What is seen of the environment at first. -/
def view : Origin → View
  | standard => .ofLocale "en"
  | ofLocale locale => .ofLocale locale
  | ofCollator collator => ⟨collator.locale, collator⟩

/-- What is seen after requests: the locale that they set last and its collator, if they
set any. -/
def viewAfter (origin : Origin) (requests : List Request) : View :=
  match lastLocale? requests with
  | some locale => .ofLocale locale
  | none => origin.view

end Origin

variable {environment other : Environment}

/-! ## One request -/

theorem reply_perform (request : Request) (environment : Environment) :
    ((perform request).run environment).1 = environment.view.reply request := by
  cases request with
  | setLocale | locale => rfl
  | collator => exact (reads_askCollator.map _).answer_eq environment
  | equal first second => exact ((reads_askEqual first second).map _).answer_eq environment
  | order first second => exact ((reads_askOrder? first second).map _).answer_eq environment

/-- Only setting a locale changes what is seen. -/
theorem view_perform (request : Request) (environment : Environment) :
    ((perform request).run environment).2.view =
      (request.newLocale?.map View.ofLocale).getD environment.view := by
  cases request with
  | setLocale | locale => rfl
  | collator => exact (reads_askCollator.map Reply.collator).view_eq environment
  | equal first second =>
      exact ((reads_askEqual first second).map Reply.equal).view_eq environment
  | order first second =>
      exact ((reads_askOrder? first second).map Reply.order).view_eq environment

/-! ## Several requests -/

theorem run_performAll_cons (request : Request) (rest : List Request)
    (environment : Environment) :
    (performAll (request :: rest)).run environment =
      let first := (perform request).run environment
      let more := (performAll rest).run first.2
      (first.1 :: more.1, more.2) :=
  rfl

theorem lastLocale?_cons (request : Request) (rest : List Request) :
    lastLocale? (request :: rest) = (lastLocale? rest).or request.newLocale? := by
  rw [lastLocale?, lastLocale?, List.filterMap_cons]
  cases request.newLocale? with
  | none => exact (Option.or_none).symm
  | some locale =>
      rw [List.getLast?_cons]
      cases (rest.filterMap Request.newLocale?).getLast? <;> rfl

theorem view_performAll (requests : List Request) (environment : Environment) :
    ((performAll requests).run environment).2.view =
      ((lastLocale? requests).map View.ofLocale).getD environment.view := by
  induction requests generalizing environment with
  | nil => rfl
  | cons request rest ih =>
      rw [run_performAll_cons, ih, view_perform, lastLocale?_cons]
      cases lastLocale? rest <;> rfl

/-- Environments that are seen alike reply alike. -/
theorem replies_performAll_congr (same : environment.view = other.view)
    (requests : List Request) :
    ((performAll requests).run environment).1 = ((performAll requests).run other).1 := by
  induction requests generalizing environment other with
  | nil => rfl
  | cons request rest ih =>
      have after : ((perform request).run environment).2.view =
          ((perform request).run other).2.view := by
        rw [view_perform, view_perform, same]
      rw [run_performAll_cons, run_performAll_cons]
      simp only [reply_perform, same, ih after]

theorem lastLocale?_eq_none {requests : List Request}
    (reading : ∀ request ∈ requests, request.newLocale? = none) :
    lastLocale? requests = none := by
  rw [lastLocale?, List.filterMap_eq_nil_iff.mpr reading]
  rfl

theorem view_performAll_origin (origin : Origin) (requests : List Request) :
    ((performAll requests).run origin.environment).2.view = origin.viewAfter requests := by
  have atFirst : origin.environment.view = origin.view := by cases origin <;> rfl
  rw [view_performAll, atFirst, Origin.viewAfter]
  cases lastLocale? requests <;> rfl

/-- At every point of a session the replies come from the locale that was set last and its
collator, or from what the environment was made with, and requests that only read change
none of the later replies. -/
theorem reply_perform_performAll (origin : Origin) (history : List Request) :
    let environment := ((performAll history).run origin.environment).2
    (∀ request, ((perform request).run environment).1 =
        (origin.viewAfter history).reply request) ∧
      ∀ reading later, (∀ request ∈ reading, request.newLocale? = none) →
        ((performAll later).run ((performAll reading).run environment).2).1 =
          ((performAll later).run environment).1 := by
  intro environment
  constructor
  · intro request
    rw [reply_perform, view_performAll_origin]
  · intro reading later onlyRead
    apply replies_performAll_congr
    rw [view_performAll, lastLocale?_eq_none onlyRead]
    rfl

/-- A collator of its own is given up when the locale is set, also to the same locale. -/
theorem replies_performAll_german :
    let reading : List Request := [.collator, .equal (.string "Maß") (.string "maß")]
    let environment := (Origin.ofCollator ⟨"de", .primary⟩).environment
    (∀ request ∈ reading, request.newLocale? = none) ∧
      ((performAll [.collator, .setLocale "de", .collator]).run
          ((performAll reading).run environment).2).1 =
        [.collator ⟨"de", .primary⟩, .done, .collator ⟨"de", .tertiary⟩] := by
  intro reading environment
  have onlyRead : ∀ request ∈ reading, request.newLocale? = none := by
    simp [reading, Request.newLocale?]
  have session := reply_perform_performAll (.ofCollator ⟨"de", .primary⟩) []
  exact ⟨onlyRead, (session.2 reading _ onlyRead).trans rfl⟩

end TemplateLanguage.Environment
