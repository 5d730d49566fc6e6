import BuildService.Api
import BuildService.Proofs.Live
/-!
Triggering a build over HTTP: when it is accepted, which failure is reported if
it is not, and that it has no effect then.

Each check that a trigger has to pass is written down on its own, without the
ones before it (`Api.checks`). The service makes them one inside the other, and
`trigger_eq` says that this comes to the first one that fails. So who
wants to know what becomes of a request has to look at no nesting.
-/

set_option autoImplicit false

namespace BuildService

/-! ## Paths between slashes -/

/-- A text without the separator is one part. -/
theorem splitOn_eq_singleton_iff {xs a : List Char} :
    xs.splitOn '/' = [a] ↔ xs = a ∧ '/' ∉ a := by
  constructor
  · intro h
    by_cases hx : '/' ∈ xs
    · obtain ⟨u, v, rfl, hu⟩ := List.eq_append_cons_of_mem hx
      rw [List.splitOn_append_cons_self_of_not_mem hu] at h
      exact absurd (List.cons.inj h).2 (List.splitOn_ne_nil _ _)
    · rw [List.splitOn_eq_singleton hx] at h
      obtain rfl := (List.cons.inj h).1
      exact ⟨rfl, hx⟩
  · rintro ⟨rfl, hx⟩
    exact List.splitOn_eq_singleton hx

/-- The first part of several ends at the first separator. -/
theorem splitOn_eq_cons_cons_iff {xs a b : List Char} {rest : List (List Char)} :
    xs.splitOn '/' = a :: b :: rest ↔
      '/' ∉ a ∧ ∃ v, xs = a ++ '/' :: v ∧ v.splitOn '/' = b :: rest := by
  constructor
  · intro h
    by_cases hx : '/' ∈ xs
    · obtain ⟨u, v, rfl, hu⟩ := List.eq_append_cons_of_mem hx
      rw [List.splitOn_append_cons_self_of_not_mem hu] at h
      obtain ⟨rfl, hv⟩ := List.cons.inj h
      exact ⟨hu, v, rfl, hv⟩
    · rw [List.splitOn_eq_singleton hx] at h
      cases h
  · rintro ⟨ha, v, rfl, hv⟩
    rw [List.splitOn_append_cons_self_of_not_mem ha, hv]

namespace Route

/-- A segment of a path that stands for a value. -/
def IsSegment (segment : String) : Prop := segment ≠ "" ∧ '/' ∉ segment.toList

/-- The parts of a path are texts, so they are compared as lists of characters. -/
theorem segments_eq_iff {path : String} {parts : List String} :
    segments path = parts ↔ path.toList.splitOn '/' = parts.map String.toList := by
  rw [segments]
  constructor
  · rintro rfl
    simp [Function.comp_def]
  · intro h
    rw [h]
    simp [Function.comp_def]

/-- **The paths that trigger a build.** -/
theorem ofPath?_eq_build_iff {path segment : String} :
    ofPath? path = some (.build segment) ↔ path = "/build/" ++ segment ∧ IsSegment segment := by
  -- `ofPath?` reads off three segments of which the first is empty.
  have hroute : ofPath? path = some (.build segment) ↔
      segments path = ["", "build", segment] ∧ segment ≠ "" := by
    constructor
    · intro h
      unfold ofPath? at h
      split at h
      · cases h
      · rename_i p hp
        split at h
        · cases h
        · rename_i hne
          cases h
          exact ⟨hp, by simpa [String.isEmpty_iff] using hne⟩
      · split at h <;> cases h
      · split at h <;> cases h
      · cases h
    · rintro ⟨hp, hne⟩
      simp [ofPath?, hp, String.isEmpty_iff, hne]
  have hfirst : '/' ∉ ("" : String).toList := by decide
  have hbuild : '/' ∉ "build".toList := by decide
  rw [hroute, segments_eq_iff, List.map_cons, List.map_cons, List.map_singleton,
    splitOn_eq_cons_cons_iff, IsSegment, ← and_assoc, and_right_comm (b := segment ≠ "")]
  refine and_congr_left fun _ => ?_
  constructor
  · rintro ⟨-, v, hv, hrest⟩
    obtain ⟨-, w, rfl, hw⟩ := splitOn_eq_cons_cons_iff.1 hrest
    obtain ⟨rfl, hslash⟩ := splitOn_eq_singleton_iff.1 hw
    refine ⟨String.toList_injective ?_, hslash⟩
    rw [hv, String.toList_append]
    rfl
  · rintro ⟨rfl, hslash⟩
    refine ⟨hfirst, "build".toList ++ '/' :: segment.toList, ?_, ?_⟩
    · rw [String.toList_append]
      rfl
    · exact splitOn_eq_cons_cons_iff.2
        ⟨hbuild, _, rfl, splitOn_eq_singleton_iff.2 ⟨rfl, hslash⟩⟩

end Route

namespace Api

open Http

/-! ## The checks, each on its own -/

/-- One thing that has to be right for a build to be triggered: the status of the answer if it is
not, and how the request is refused then. -/
structure Check where
  status : Nat
  failure : Option Refusal

/-- The status that goes with a body that is not the JSON of a request. -/
def jsonStatus : Json.Fault → Nat
  | .malformed | .cutShort => 400
  | .mismatch _ _ => 422

/-- The text of the segment that names the platform can be read. -/
def pathCheck (segment : String) : Check where
  status := 400
  failure := if Text.percentDecode? segment = none then some (.path "platform") else none

def mediaTypeCheck (m : Message) : Check where
  status := 415
  failure := if m.isJson then none else some .mediaType

def sizeCheck (m : Message) : Check where
  status := 413
  failure := if bodyLimit < m.body.length then some .size else none

/-- The body is the JSON of a request. -/
def bodyCheck (m : Message) : Check where
  status := match Request.ofJson m.body with
    | .error e => jsonStatus e
    | .ok _ => 400
  failure := match Request.ofJson m.body with
    | .error e => some (.body e)
    | .ok _ => none

/-- The segment names a platform. -/
def platformCheck (segment : String) : Check where
  status := 400
  failure := (Text.percentDecode? segment).bind fun name =>
    if Platform.ofName? name = none then some (.fault (.invalidPlatform name)) else none

/-- The platform is one that can be built. -/
def executableCheck (segment : String) : Check where
  status := 422
  failure := if Text.percentDecode? segment = some "ios" then
    some (.fault (.unsupportedPlatform "ios")) else none

/-- Every field is inside its allow-list. -/
def fieldCheck (m : Message) : Check where
  status := 400
  failure := match Request.ofJson m.body with
    | .error _ => none
    | .ok r => r.firstFault?.map fun (f, reason) => .fault (.invalidField f reason.message)

/-- The project is not being built. -/
def idleCheck (s : Dispatcher) (m : Message) : Check where
  status := 409
  failure := match Request.ofJson m.body with
    | .error _ => none
    | .ok r =>
      if s.registry.get r.projectId = .running then some (.fault (.alreadyRunning r.projectId))
      else none

/-- What a trigger is checked for, in the order in which failures are reported. -/
def checks (s : Dispatcher) (segment : String) (m : Message) : List Check :=
  [pathCheck segment, mediaTypeCheck m, sizeCheck m, bodyCheck m, platformCheck segment,
    executableCheck segment, fieldCheck m, idleCheck s m]

variable {s : Dispatcher} {segment : String} {m : Message} {e : Refusal}

/-- A check that fails is answered with its status. -/
theorem status_of_mem_checks {c : Check} (hc : c ∈ checks s segment m) (he : c.failure = some e) :
    e.response.status = c.status := by
  -- Each check refuses in one way, except that a body may be refused with two statuses.
  simp only [checks, List.mem_cons, List.not_mem_nil, or_false] at hc
  rcases hc with rfl | rfl | rfl | rfl | rfl | rfl | rfl | rfl
  · unfold pathCheck at he ⊢
    split at he <;> cases he
    rfl
  · unfold mediaTypeCheck at he ⊢
    split at he <;> cases he
    rfl
  · unfold sizeCheck at he ⊢
    split at he <;> cases he
    rfl
  · unfold bodyCheck at he ⊢
    split at he <;> cases he
    rename_i fault _
    cases fault <;> rfl
  · obtain ⟨name, -, hname⟩ := Option.bind_eq_some_iff.1 he
    split at hname <;> cases hname
    rfl
  · unfold executableCheck at he ⊢
    split at he <;> cases he
    rfl
  · unfold fieldCheck at he ⊢
    split at he
    · cases he
    · obtain ⟨⟨f, reason⟩, -, rfl⟩ := Option.map_eq_some_iff.1 he
      rfl
  · unfold idleCheck at he ⊢
    split at he
    · cases he
    · split at he <;> cases he
      rfl

/-! ## The decision -/

/-- The state in which a request has been admitted and nothing else has happened. -/
def admitting (s : Dispatcher) (r : Request) (registry : Registry) : Dispatcher :=
  { s with
    registry := registry
    tasks := s.tasks ++ [⟨⟨s.nextId, r, false⟩, .arrived⟩]
    nextId := s.nextId + 1 }

/-- Once the platform and the request have been read, the last three checks decide. -/
theorem accept_eq (s : Dispatcher) {p : Platform} {r : Request}
    (hname : Text.percentDecode? segment = some p.name) (hbody : Request.ofJson m.body = .ok r) :
    match [executableCheck segment, fieldCheck m, idleCheck s m].findSome? Check.failure with
    | some e => ∃ fault, e = .fault fault ∧ s.accept false p r = .error fault
    | none => p = .android ∧ ∃ registry, s.registry.tryBegin r.projectId = .ok registry ∧
        s.accept false p r = .ok (⟨s.nextId, r, false⟩, admitting s r registry) := by
  cases p with
  | ios =>
    simp [executableCheck, hname, Platform.name, Dispatcher.accept, Dispatcher.check,
      Platform.isExecutable]
  | android =>
    have hexec : (executableCheck segment).failure = none := by
      simp [executableCheck, hname, Platform.name]
    cases hfault : r.firstFault? with
    | some fault =>
      obtain ⟨f, reason⟩ := fault
      simp [hexec, fieldCheck, hbody, hfault, Dispatcher.accept, Dispatcher.check,
        Platform.isExecutable, Request.validate]
    | none =>
      by_cases hrun : s.registry.get r.projectId = .running
      · simp [hexec, fieldCheck, idleCheck, hbody, hfault, hrun, Dispatcher.accept,
          Dispatcher.check, Platform.isExecutable, Request.validate, Registry.tryBegin]
      · simp [hexec, fieldCheck, idleCheck, hbody, hfault, hrun, Dispatcher.accept,
          Dispatcher.check, Platform.isExecutable, Request.validate, Registry.tryBegin, admitting]

/-- **A trigger is refused for the first check that fails, and accepted if none does.** -/
theorem trigger_eq (s : Dispatcher) (segment : String) (m : Message) :
    match (checks s segment m).findSome? Check.failure with
    | some e => trigger s segment m = .error e
    | none => ∃ r registry, Request.ofJson m.body = .ok r ∧
        s.registry.tryBegin r.projectId = .ok registry ∧
        trigger s segment m = .ok (started r .android, admitting s r registry) := by
  -- The nesting is opened from the outside: each check that fails ends both sides.
  cases hname : Text.percentDecode? segment with
  | none => simp [checks, pathCheck, trigger, segmentValue, hname]
  | some name =>
    cases hjson : m.isJson with
    | false =>
      simp [checks, pathCheck, mediaTypeCheck, trigger, segmentValue, readBody, hname, hjson]
    | true =>
      by_cases hsize : bodyLimit < m.body.length
      · simp [checks, pathCheck, mediaTypeCheck, sizeCheck, trigger, segmentValue, readBody, hname,
          hjson, hsize]
      cases hbody : Request.ofJson m.body with
      | error fault =>
        simp [checks, pathCheck, mediaTypeCheck, sizeCheck, bodyCheck, trigger, segmentValue,
          readBody, hname, hjson, hsize, hbody]
      | ok r =>
        have hread : readBody m = .ok r := by
          simp [readBody, hjson, hsize, hbody]
        cases hp : Platform.ofName? name with
        | none =>
          simp [checks, pathCheck, mediaTypeCheck, sizeCheck, bodyCheck, platformCheck, trigger,
            segmentValue, platformOf, hread, hname, hjson, hsize, hbody, hp]
        | some p =>
          obtain rfl := Platform.ofName?_eq_some_iff.1 hp
          -- The first five checks have passed, and the other three are those of `accept`.
          have houter : (checks s segment m).findSome? Check.failure =
              [executableCheck segment, fieldCheck m, idleCheck s m].findSome? Check.failure := by
            simp [checks, pathCheck, mediaTypeCheck, sizeCheck, bodyCheck, platformCheck, hname,
              hjson, hsize, hbody, hp]
          have haccept := accept_eq s hname hbody
          rw [← houter] at haccept
          cases hfirst : (checks s segment m).findSome? Check.failure with
          | some e =>
            rw [hfirst] at haccept
            obtain ⟨fault, rfl, ha⟩ := haccept
            simp [trigger, segmentValue, platformOf, hread, hname, hp, ha]
          | none =>
            rw [hfirst] at haccept
            obtain ⟨rfl, registry, hbegin, ha⟩ := haccept
            refine ⟨r, registry, rfl, hbegin, ?_⟩
            simp [trigger, segmentValue, platformOf, hread, hname, hp, ha]

/-- Everything that has to be right for a build to be triggered. -/
structure Accepts (s : Dispatcher) (m : Message) (segment : String) (r : Request) : Prop where
  method : m.method = "POST"
  path : m.target.path = "/build/" ++ segment
  oneSegment : '/' ∉ segment.toList
  platform : Text.percentDecode? segment = some "android"
  mediaType : m.isJson = true
  size : m.body.length ≤ bodyLimit
  body : Request.ofJson m.body = .ok r
  valid : r.validate = .ok ()
  idle : s.registry.get r.projectId ≠ .running

theorem firstFault?_eq_none_iff {r : Request} : r.firstFault? = none ↔ r.validate = .ok () := by
  rw [Request.validate]
  split
  · simp_all
  · simp_all

/-- What it means that no check fails. -/
theorem findSome?_checks_eq_none_iff :
    (checks s segment m).findSome? Check.failure = none ↔
      Text.percentDecode? segment = some "android" ∧ m.isJson = true ∧
        m.body.length ≤ bodyLimit ∧ ∃ r, Request.ofJson m.body = .ok r ∧ r.validate = .ok () ∧
          s.registry.get r.projectId ≠ .running := by
  simp only [List.findSome?_eq_none_iff, checks, List.forall_mem_cons, List.not_mem_nil,
    false_implies, implies_true, and_true]
  constructor
  · rintro ⟨hpath, hmedia, hsize, hbody, hplatform, hexec, hfield, hidle⟩
    obtain ⟨name, hname⟩ : ∃ name, Text.percentDecode? segment = some name := by
      rw [← Option.ne_none_iff_exists']
      intro hnone
      simp [pathCheck, hnone] at hpath
    obtain ⟨r, hr⟩ : ∃ r, Request.ofJson m.body = .ok r := by
      cases hr : Request.ofJson m.body with
      | ok r => exact ⟨r, rfl⟩
      | error e => simp [bodyCheck, hr] at hbody
    obtain ⟨p, hp⟩ : ∃ p, Platform.ofName? name = some p := by
      rw [← Option.ne_none_iff_exists']
      intro hnone
      simp [platformCheck, hname, hnone] at hplatform
    obtain rfl := Platform.ofName?_eq_some_iff.1 hp
    refine ⟨?_, by simpa [mediaTypeCheck] using hmedia, by simpa [sizeCheck] using hsize, r, hr,
      ?_, ?_⟩
    · cases p with
      | android => exact hname
      | ios => simp [executableCheck, hname, Platform.name] at hexec
    · rw [← firstFault?_eq_none_iff]
      simpa [fieldCheck, hr] using hfield
    · simpa [idleCheck, hr] using hidle
  · rintro ⟨hname, hmedia, hsize, r, hr, hvalid, hidle⟩
    have hplatform : Platform.ofName? "android" = some .android := by decide
    rw [← firstFault?_eq_none_iff] at hvalid
    simp [pathCheck, mediaTypeCheck, sizeCheck, bodyCheck, platformCheck, executableCheck,
      fieldCheck, idleCheck, hname, hmedia, hsize, hr, hvalid, hidle, hplatform]

/-! ## Answers -/

/-- A refusal is never the acknowledgement of a build, and its body is sent. -/
theorem response_of_refusal (e : Refusal) :
    e.response.status ≠ 202 ∧ e.response.headOnly = false := by
  cases e with
  | body fault =>
    cases fault <;> simp [Refusal.response, ofBodyFault, Response.plain]
  | fault fault =>
    cases fault <;> simp [Refusal.response, ofFault, statusOf, Response.object]
  | _ => simp [Refusal.response, Response.plain, Response.bare, Response.object]

/-- The answer to a trigger: its body is always sent. -/
theorem answer_of_build (s : Dispatcher) (hm : m.method = "POST")
    (hp : m.target.path = "/build/" ++ segment) (hs : Route.IsSegment segment) :
    answer s m = match trigger s segment m with
      | .ok done => ({ done.1 with headOnly := false }, done.2)
      | .error e => (e.response, s) := by
  have hroute := Route.ofPath?_eq_build_iff.2 ⟨hp, hs⟩
  have htakes : (Route.build segment).takes "POST" = true := by
    simp [Route.takes, Route.isTrigger]
  cases htrigger : trigger s segment m with
  | ok done =>
    simp [answer, decide, hroute, hm, htakes, run, htrigger]
  | error e =>
    have hbody : { e.response with headOnly := false } = e.response := by
      rw [← (response_of_refusal e).2]
    simp [answer, decide, hroute, hm, htakes, run, htrigger, hbody]

/-- A route that triggers nothing only looks. -/
theorem run_of_not_trigger (s : Dispatcher) (m : Message) {route : Route}
    (h : route.isTrigger = false) :
    (∃ e, run s m route = .error e) ∨
      ∃ response, run s m route = .ok (response, s) ∧ response.status = 200 := by
  have hlog : ∀ segment response, showLog s segment = .ok response → response.status = 200 := by
    intro segment response hr
    unfold showLog at hr
    repeat' split at hr
    all_goals cases hr
    rfl
  have hstatus : ∀ segment response, showStatus s segment = .ok response →
      response.status = 200 := by
    intro segment response hr
    unfold showStatus at hr
    split at hr <;> cases hr
    rfl
  cases route with
  | build segment => cases h
  | logs segment =>
    cases hr : showLog s segment with
    | error e => exact .inl ⟨e, by simp [run, hr, Except.map]⟩
    | ok response => exact .inr ⟨response, by simp [run, hr, Except.map], hlog _ _ hr⟩
  | status segment =>
    cases hr : showStatus s segment with
    | error e => exact .inl ⟨e, by simp [run, hr, Except.map]⟩
    | ok response => exact .inr ⟨response, by simp [run, hr, Except.map], hstatus _ _ hr⟩
  | health => exact .inr ⟨_, rfl, rfl⟩

/-- Whatever is no trigger is not acknowledged as one, and changes nothing. -/
theorem answer_of_other (s : Dispatcher)
    (h : ∀ segment, m.method = "POST" → Route.ofPath? m.target.path ≠ some (.build segment)) :
    (answer s m).1.status ≠ 202 ∧ (answer s m).2 = s := by
  have hdecide : (∃ e, decide s m = .error e) ∨
      ∃ response, decide s m = .ok (response, s) ∧ response.status = 200 := by
    cases hroute : Route.ofPath? m.target.path with
    | none => exact .inl ⟨.noRoute, by simp [decide, hroute]⟩
    | some route =>
      cases htakes : route.takes m.method with
      | false => exact .inl ⟨.method route, by simp [decide, hroute, htakes]⟩
      | true =>
        have hlooks : route.isTrigger = false := by
          cases route with
          | build segment =>
            refine absurd hroute (h segment ?_)
            simpa [Route.takes, Route.isTrigger] using htakes
          | _ => rfl
        have hrun : decide s m = run s m route := by simp [decide, hroute, htakes]
        rw [hrun]
        exact run_of_not_trigger s m hlooks
  unfold answer
  rcases hdecide with ⟨e, he⟩ | ⟨response, he, hs⟩
  · rw [he]
    exact ⟨(response_of_refusal e).1, rfl⟩
  · rw [he]
    refine ⟨?_, rfl⟩
    simp [hs]

/-- A segment that names a platform holds something. -/
theorem Accepts.isSegment {r : Request} (h : Accepts s m segment r) : Route.IsSegment segment := by
  refine ⟨?_, h.oneSegment⟩
  rintro rfl
  have hempty : Text.percentDecode? "" = some "" := by decide
  have hname := h.platform
  rw [hempty] at hname
  revert hname
  decide

/-- What an accepted trigger is answered, and the state that it leaves. -/
theorem answer_of_accepts {r : Request} (h : Accepts s m segment r) :
    ∃ registry, s.registry.tryBegin r.projectId = .ok registry ∧
      answer s m = (started r .android, admitting s r registry) := by
  have hnone : (checks s segment m).findSome? Check.failure = none :=
    findSome?_checks_eq_none_iff.2
      ⟨h.platform, h.mediaType, h.size, r, h.body, h.valid, h.idle⟩
  have htrigger := trigger_eq s segment m
  rw [hnone] at htrigger
  obtain ⟨r', registry, hbody, hbegin, htrigger⟩ := htrigger
  obtain rfl : r = r' := Except.ok.inj (h.body.symm.trans hbody)
  refine ⟨registry, hbegin, ?_⟩
  rw [answer_of_build s h.method h.path h.isSegment, htrigger]
  rfl

/-- The text that acknowledges a build. -/
theorem body_started (r : Request) :
    (started r .android).body =
      .member "message" ("Build for project " ++ r.projectId ++ " (android) started") := by
  have hend : " (" ++ (Platform.android.name ++ ") started") = " (android) started" := by decide
  rw [started, Response.object, ← hend]
  simp only [String.append_assoc]

/-- A trigger that fails a check is answered for the first one it fails, and changes nothing. -/
theorem answer_of_failure (hm : m.method = "POST") (hp : m.target.path = "/build/" ++ segment)
    (hs : Route.IsSegment segment)
    (hfail : (checks s segment m).findSome? Check.failure = some e) :
    answer s m = (e.response, s) := by
  have htrigger := trigger_eq s segment m
  rw [hfail] at htrigger
  rw [answer_of_build s hm hp hs, htrigger]

/-- A request triggers a build, or it changes nothing and its answer is no acknowledgement. -/
theorem accepts_or_unchanged (s : Dispatcher) (m : Message) :
    (∃ segment r, Accepts s m segment r) ∨ (answer s m).1.status ≠ 202 ∧ (answer s m).2 = s := by
  by_cases hroute : ∃ segment, m.method = "POST" ∧
      Route.ofPath? m.target.path = some (.build segment)
  · obtain ⟨segment, hm, hroute⟩ := hroute
    obtain ⟨hp, hs⟩ := Route.ofPath?_eq_build_iff.1 hroute
    cases hfirst : (checks s segment m).findSome? Check.failure with
    | some e =>
      right
      rw [answer_of_failure hm hp hs hfirst]
      exact ⟨(response_of_refusal e).1, rfl⟩
    | none =>
      left
      obtain ⟨hname, hmedia, hsize, r, hbody, hvalid, hidle⟩ :=
        findSome?_checks_eq_none_iff.1 hfirst
      exact ⟨segment, r, hm, hp, hs.2, hname, hmedia, hsize, hbody, hvalid, hidle⟩
  · right
    refine answer_of_other s fun segment hm hbuild => ?_
    exact hroute ⟨segment, hm, hbuild⟩

/-- **A request has an effect only if it is acknowledged, and exactly then if it is right.**

Whatever is asked, and in whatever state: an answer other than 202 leaves the service as it was.
The answer is 202 for a trigger that passes every check, and for nothing else. It names the
project, whose job already runs; no other job, no file and no call of a tool is touched. And a
trigger that fails some checks is answered for the first of them. -/
theorem trigger_decided_and_confined (s : Dispatcher) (m : Message) :
    ((answer s m).1.status ≠ 202 → (answer s m).2 = s) ∧
      ((answer s m).1.status = 202 ↔ ∃ segment r, Accepts s m segment r) ∧
      (∀ segment r, Accepts s m segment r →
        (answer s m).1.body =
            .member "message" ("Build for project " ++ r.projectId ++ " (android) started") ∧
          (∀ p, (answer s m).2.registry.get p =
            if p = r.projectId then .running else s.registry.get p) ∧
          (answer s m).2.disk = s.disk ∧ (answer s m).2.calls = s.calls ∧
          (answer s m).2.live = s.live ++ [⟨s.nextId, r, false⟩]) ∧
      ∀ segment, m.method = "POST" → m.target.path = "/build/" ++ segment →
        Route.IsSegment segment →
          (∀ before c after e, checks s segment m = before ++ c :: after →
            (∀ b ∈ before, b.failure = none) → c.failure = some e →
              (answer s m).1 = e.response ∧ (answer s m).1.status = c.status) ∧
          ((∀ c ∈ checks s segment m, c.failure = none) → (answer s m).1.status = 202) := by
  have haccepted : ∀ {segment r}, Accepts s m segment r → (answer s m).1.status = 202 := by
    intro segment r h
    obtain ⟨registry, -, hanswer⟩ := answer_of_accepts h
    rw [hanswer]
    rfl
  refine ⟨?_, ?_, ?_, ?_⟩
  · intro hstatus
    rcases accepts_or_unchanged s m with ⟨segment, r, h⟩ | ⟨-, hsame⟩
    · exact absurd (haccepted h) hstatus
    · exact hsame
  · constructor
    · intro hstatus
      rcases accepts_or_unchanged s m with h | ⟨hne, -⟩
      · exact h
      · exact absurd hstatus hne
    · rintro ⟨segment, r, h⟩
      exact haccepted h
  · intro segment r h
    obtain ⟨registry, hbegin, hanswer⟩ := answer_of_accepts h
    rw [hanswer]
    refine ⟨body_started r, (Registry.get_of_tryBegin hbegin).2, rfl, rfl, ?_⟩
    simp [admitting, Dispatcher.live]
  · intro segment hm hp hs
    constructor
    · intro before c after e hchecks hbefore hc
      have hfirst : (checks s segment m).findSome? Check.failure = some e :=
        List.findSome?_eq_some_iff.2 ⟨before, c, after, hchecks, hc, hbefore⟩
      have hmem : c ∈ checks s segment m := by
        rw [hchecks]
        exact List.mem_append_right _ List.mem_cons_self
      rw [answer_of_failure hm hp hs hfirst]
      exact ⟨rfl, status_of_mem_checks hmem hc⟩
    · intro hpass
      have hnone := List.findSome?_eq_none_iff.2 hpass
      obtain ⟨hname, hmedia, hsize, r, hbody, hvalid, hidle⟩ :=
        findSome?_checks_eq_none_iff.1 hnone
      exact haccepted ⟨hm, hp, hs.2, hname, hmedia, hsize, hbody, hvalid, hidle⟩

end Api

end BuildService
