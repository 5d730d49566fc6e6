import BuildService.JobState
import BuildService.Fault
/-!
The table of jobs: which state the latest build of each project is in.

The table never holds `unknown` and never holds a project twice; both are kept
by its type. Every operation touches one project and leaves the others alone.
-/

set_option autoImplicit false

namespace BuildService

/-- The latest state of every project that has been built. -/
structure Registry where
  entries : List (String × JobState)
  nodup : (entries.map Prod.fst).Nodup
  known : ∀ e ∈ entries, e.2 ≠ .unknown

namespace Registry

def empty : Registry := ⟨[], by simp, by simp⟩

instance : Inhabited Registry := ⟨empty⟩

def get (r : Registry) (project : String) : JobState :=
  ((r.entries.find? (·.1 == project)).map (·.2)).getD .unknown

/-- The entries without those of a project keep both promises of the type. -/
private theorem nodup_without {es : List (String × JobState)} (project : String)
    (h : (es.map Prod.fst).Nodup) :
    ((es.filter (·.1 != project)).map Prod.fst).Nodup :=
  List.Pairwise.sublist (List.Sublist.map _ (List.filter_sublist)) h

/-- Forgets a project. -/
def erase (r : Registry) (project : String) : Registry where
  entries := r.entries.filter (·.1 != project)
  nodup := nodup_without project r.nodup
  known e he := r.known e (List.mem_filter.1 he).1

/-- Puts a state that can be stored in the place of whatever the project had. -/
def put (r : Registry) (project : String) (state : JobState) (h : state ≠ .unknown) : Registry where
  entries := (project, state) :: r.entries.filter (·.1 != project)
  nodup := by
    refine List.nodup_cons.2 ⟨?_, nodup_without project r.nodup⟩
    simp
  known e he := by
    rcases List.mem_cons.1 he with rfl | he
    · exact h
    · exact r.known e (List.mem_filter.1 he).1

/-- Stores a state whatever was there before; storing `unknown` forgets the project. -/
def set (r : Registry) (project : String) (state : JobState) : Registry :=
  if h : state = .unknown then r.erase project else r.put project state h

/-- Marks a project as running, unless it is. -/
def tryBegin (r : Registry) (project : String) : Except Fault Registry :=
  if r.get project = .running then .error (.alreadyRunning project)
  else .ok (r.put project .running (by decide))

/-- Ends a running job. The answer says whether anything changed: it does only if the job is
running and the state is one in which a job ends. -/
def complete (r : Registry) (project : String) (state : JobState) : Bool × Registry :=
  if h : state.isTerminal ∧ r.get project = .running then
    (true, r.put project state (by rintro rfl; simp [JobState.isTerminal] at h))
  else (false, r)

def snapshot (r : Registry) : List (String × JobState) := r.entries

/-! ## What each operation does to the states -/

theorem get_put (r : Registry) (project other : String) (state : JobState) (h : state ≠ .unknown) :
    (r.put project state h).get other = if other = project then state else r.get other := by
  by_cases ho : other = project
  · simp [get, put, ho]
  · have hne : (project == other) = false := by simpa using fun e => ho e.symm
    simp only [get, put, List.find?_cons, hne, ho, if_false]
    congr 2
    rw [List.find?_filter]
    congr 1
    funext e
    by_cases he : e.1 = other
    · simp [he, ho]
    · simp [he]

/-- A job can be begun unless it is running; then it runs, and no other job is touched. -/
theorem get_of_tryBegin {r r' : Registry} {project : String} (h : r.tryBegin project = .ok r') :
    r.get project ≠ .running ∧
      ∀ other, r'.get other = if other = project then .running else r.get other := by
  unfold tryBegin at h
  split at h
  · cases h
  · rename_i hr
    obtain rfl := Except.ok.inj h
    exact ⟨hr, fun other => get_put r project other .running (by decide)⟩

/-- A running job that is ended is in the state it ended in, and no other job is touched. -/
theorem get_complete {r : Registry} {project : String} {state : JobState}
    (ht : state.isTerminal = true) (hr : r.get project = .running) (other : String) :
    (r.complete project state).2.get other = if other = project then state else r.get other := by
  have hu : state ≠ .unknown := by
    rintro rfl
    cases ht
  rw [complete, dif_pos ⟨ht, hr⟩]
  exact get_put r project other state hu

end Registry

end BuildService
