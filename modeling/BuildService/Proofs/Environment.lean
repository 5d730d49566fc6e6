import BuildService.Proofs.LogFiles
import BuildService.Proofs.Rejection
/-!
What a request puts into the environment of the build tool.

The values come from a client, so what matters is what they cannot be: once a
request has passed the checks no value is empty and none holds a control
character, which leaves out the zero byte that would end a variable and the line
feed that would start another line. Each shape rules them out in its own way. The
classes of names, tokens and words lie inside the visible range of ASCII; an
address and an application name are open to all of Unicode and are searched for
control characters; a package name is a list of segments, so its characters have
to be found in them first (`mem_segments`).

The other direction matters as well: nothing is lost on the way. The seven
variables have different names, so the request can be read off them again.
-/

set_option autoImplicit false

namespace BuildService

namespace Request

/-- A value that can stand in a variable: it is not empty and holds no control character. -/
def IsClean (value : String) : Prop := value ≠ "" ∧ ∀ c ∈ value.toList, Text.isControl c = false

/-! ## The classes of characters -/

variable {c : Char}

/-- What stands from the blank of ASCII to the tilde is no control character. -/
theorem isControl_of_range (hlow : 0x20 ≤ c.toNat) (hhigh : c.toNat < 0x7F) :
    Text.isControl c = false := by
  simp only [Text.isControl, Bool.or_eq_false_iff, Bool.and_eq_false_iff, decide_eq_false_iff_not]
  omega

theorem isControl_of_isAlphanumeric (h : isAlphanumeric c = true) : Text.isControl c = false := by
  have hranges : (decide ('A'.val ≤ c.val ∧ c.val ≤ 'Z'.val) ||
      ('a'.val ≤ c.val && c.val ≤ 'z'.val) || ('0'.val ≤ c.val && c.val ≤ '9'.val)) = true := h
  simp only [Bool.or_eq_true, Bool.and_eq_true, decide_eq_true_eq, UInt32.le_iff_toNat_le]
    at hranges
  -- The ends of the three ranges, as numbers.
  have hA : 'A'.val.toNat = 65 := rfl
  have ha : 'a'.val.toNat = 97 := rfl
  have h0 : '0'.val.toNat = 48 := rfl
  have hhigh : c.toNat ≤ 122 := LogStore.val_le_of_isAlphanumeric h
  have hlow : 48 ≤ c.toNat := by
    change 48 ≤ c.val.toNat
    omega
  exact isControl_of_range (by omega) (by omega)

theorem isControl_of_isNameChar (h : isNameChar c = true) : Text.isControl c = false := by
  simp only [isNameChar, Bool.or_eq_true, beq_iff_eq] at h
  rcases h with ((h | rfl) | rfl) | rfl
  · exact isControl_of_isAlphanumeric h
  all_goals decide

theorem isControl_of_isTokenChar (h : isTokenChar c = true) : Text.isControl c = false := by
  simp only [isTokenChar, Bool.or_eq_true] at h
  rcases h with h | h
  · exact isControl_of_isAlphanumeric h
  · have hall : (['.', '_', '~', '+', '/', '=', ':', '-'].all (!Text.isControl ·)) = true := by
      decide
    simpa using List.all_eq_true.1 hall c (List.contains_iff_mem.1 h)

theorem isControl_of_isWordChar (h : isWordChar c = true) : Text.isControl c = false := by
  simp only [isWordChar, Bool.or_eq_true, beq_iff_eq] at h
  rcases h with h | rfl
  · exact isControl_of_isAlphanumeric h
  · decide

/-! ## The shapes -/

/-- A run of a class without control characters is clean. -/
theorem isClean_of_isRun {cls : Char → Bool} {most : Nat} {value : String}
    (hcls : ∀ c, cls c = true → Text.isControl c = false) (h : isRun cls most value = true) :
    IsClean value := by
  simp only [isRun, Bool.and_eq_true, Bool.not_eq_true', List.isEmpty_eq_false_iff,
    List.all_eq_true] at h
  exact ⟨fun he => h.1.1 (by rw [he]; rfl), fun c hc => hcls c (h.2 c hc)⟩

theorem isClean_of_isProjectId {value : String} (h : isProjectId value = true) :
    IsClean value := by
  obtain ⟨⟨c, cs, hcs, -, -⟩, hall⟩ := LogStore.chars_of_isProjectId h
  refine ⟨fun he => ?_, fun c hc => isControl_of_isNameChar (hall c hc)⟩
  rw [he] at hcs
  cases hcs

theorem isClean_of_urlFault? {value : String} (h : urlFault? value = none) : IsClean value := by
  unfold urlFault? at h
  split at h
  · cases h
  split at h
  · cases h
  rename_i hscheme
  split at h
  · cases h
  rename_i hchars
  refine ⟨fun he => hscheme (by rw [he]; rfl), fun c hc => ?_⟩
  by_contra hcontrol
  exact hchars (List.any_eq_true.2 ⟨c, hc, by simp [hcontrol]⟩)

theorem isClean_of_appNameFault? {value : String} (h : appNameFault? value = none) :
    IsClean value := by
  unfold appNameFault? at h
  dsimp only at h
  split at h
  · cases h
  rename_i hlength
  split at h
  · cases h
  rename_i hchars
  refine ⟨fun he => hlength (by rw [he]; rfl), fun c hc => ?_⟩
  by_contra hcontrol
  exact hchars (List.any_eq_true.2 ⟨c, hc, by simpa using hcontrol⟩)

/-- A character is a dot, or it stands in one of the pieces between the dots. -/
theorem mem_segments {cs : List Char} (h : c ∈ cs) : c = '.' ∨ ∃ s ∈ segments cs, c ∈ s := by
  induction cs with
  | nil => cases h
  | cons d cs ih =>
    unfold segments
    split
    · rename_i hdot
      rcases List.mem_cons.1 h with rfl | h
      · exact .inl hdot
      · obtain hc | ⟨s, hs, hcs⟩ := ih h
        · exact .inl hc
        · exact .inr ⟨s, List.mem_cons_of_mem _ hs, hcs⟩
    · -- A character that is no dot goes to the front of the first piece.
      cases hseg : segments cs with
      | nil =>
        rcases List.mem_cons.1 h with rfl | h
        · exact .inr ⟨[c], by simp, by simp⟩
        · obtain hc | ⟨s, hs, -⟩ := ih h
          · exact .inl hc
          · rw [hseg] at hs
            cases hs
      | cons first rest =>
        rcases List.mem_cons.1 h with rfl | h
        · exact .inr ⟨c :: first, by simp, by simp⟩
        · obtain hc | ⟨s, hs, hcs⟩ := ih h
          · exact .inl hc
          · rw [hseg, List.mem_cons] at hs
            rcases hs with rfl | hs
            · exact .inr ⟨d :: s, by simp, List.mem_cons_of_mem _ hcs⟩
            · exact .inr ⟨s, List.mem_cons_of_mem _ hs, hcs⟩

theorem isControl_of_isSegment {s : List Char} (h : isSegment s = true) (hc : c ∈ s) :
    Text.isControl c = false := by
  cases s with
  | nil => cases hc
  | cons d cs =>
    simp only [isSegment, Bool.and_eq_true, List.all_eq_true] at h
    rcases List.mem_cons.1 hc with rfl | hc
    · refine isControl_of_isAlphanumeric ?_
      simp [isAlphanumeric, Char.isAlphanum, h.1]
    · exact isControl_of_isWordChar (h.2 c hc)

theorem isClean_of_packageNameFault? {value : String} (h : packageNameFault? value = none) :
    IsClean value := by
  unfold packageNameFault? at h
  split at h
  · cases h
  split at h
  · rename_i hshape
    simp only [isPackageName, Bool.and_eq_true, decide_eq_true_eq, List.all_eq_true] at hshape
    refine ⟨fun he => ?_, fun c hc => ?_⟩
    · rw [he] at hshape
      exact absurd hshape.1 (by decide)
    · rcases mem_segments hc with rfl | ⟨s, hs, hcs⟩
      · decide
      · exact isControl_of_isSegment (hshape.2 s hs) hcs
  · cases h

/-! ## The fields -/

/-- **Every value that passes the check of its field is clean.** -/
theorem isClean_of_fieldFault? {f : Field} {value : String} (h : fieldFault? f value = none) :
    IsClean value := by
  cases f with
  | url => exact isClean_of_urlFault? h
  | styleUrl => exact isClean_of_urlFault? h
  | appName => exact isClean_of_appNameFault? h
  | packageName => exact isClean_of_packageNameFault? h
  | projectId =>
    simp only [fieldFault?, projectIdFault?] at h
    split at h
    · exact isClean_of_isProjectId ‹_›
    · cases h
  | appEnv =>
    simp only [fieldFault?] at h
    split at h
    · exact isClean_of_isRun (fun _ => isControl_of_isNameChar) ‹_›
    · cases h
  | projectToken =>
    simp only [fieldFault?] at h
    split at h
    · exact isClean_of_isRun (fun _ => isControl_of_isTokenChar) ‹_›
    · cases h

/-- The variables of a request that has passed the checks are clean. -/
theorem isClean_of_mem_environment {r : Request} (hv : r.validate = .ok ()) :
    ∀ v ∈ r.environment, IsClean v.2 := by
  intro v hmem
  obtain ⟨f, -, rfl⟩ := List.mem_map.1 hmem
  exact isClean_of_fieldFault? (validate_eq_ok_iff.1 hv f)

/-! ## Back from the environment -/

/-- The names of the variables, in the order of the fields. -/
def variableNames : List String := Field.all.map Field.variable

theorem nodup_variableNames : variableNames.Nodup := by decide

/-- The request whose variables these are. -/
def ofEnvironment (environment : List (String × String)) : Request :=
  ofValues fun f => (environment.lookup f.variable).getD ""

theorem map_fst_environment (r : Request) : r.environment.map Prod.fst = variableNames := by
  simp [environment, variableNames]

/-- A variable holds the value of its field. -/
theorem lookup_environment (r : Request) (f : Field) :
    r.environment.lookup f.variable = some (r.get f) := by
  cases f <;> rfl

/-- **A request can be read off its variables.** -/
theorem ofEnvironment_environment (r : Request) : ofEnvironment r.environment = r := by
  simp only [ofEnvironment, lookup_environment, Option.getD_some]
  exact ofValues_get r

end Request

end BuildService
