/-!
The platforms that a build can be asked for.

Both are legal names on the wire; only one of them can be built. Names are
exact: neither other capitals nor blanks around a name are accepted.
-/

set_option autoImplicit false

namespace BuildService

/-- A platform named in a request. -/
inductive Platform where
  | android
  | ios
  deriving DecidableEq, Repr

namespace Platform

def name : Platform → String
  | .android => "android"
  | .ios => "ios"

def all : List Platform := [.android, .ios]

def ofName? (s : String) : Option Platform := all.find? (·.name == s)

/-- Whether builds for the platform can be run at all. -/
def isExecutable : Platform → Bool
  | .android => true
  | .ios => false

/-- A platform is found by its name, and by no other. -/
theorem ofName?_eq_some_iff {s : String} {p : Platform} : ofName? s = some p ↔ s = p.name := by
  by_cases ha : s = "android"
  · subst ha; cases p <;> decide
  · by_cases hi : s = "ios"
    · subst hi; cases p <;> decide
    · have h1 : ("android" == s) = false := by simpa using fun h => ha h.symm
      have h2 : ("ios" == s) = false := by simpa using fun h => hi h.symm
      cases p <;> simp [ofName?, all, name, List.find?, h1, h2, ha, hi]

end Platform

end BuildService
