import BuildService.Proofs.LogFiles
/-!
An open log on any disk.

Whatever a log path leads to, through links or not, it is opened there and goes on
leading there. If that is a plain file, the log is empty at first, and every line
that is written stands at its end (`Opened.writeLine`). Nothing is asked of other
logs here; that they are not touched is said elsewhere.
-/

set_option autoImplicit false

namespace BuildService

namespace Disk

variable {d d' : Disk} {n : NodeId} {path : String}

/-- What is opened: something new at a free place, or what the path leads to, which is emptied if it
is a file. -/
theorem create_cases (h : d.create path = .ok (n, d')) :
    (∃ k name, d.locate true path = .ok (.free k name) ∧ n = d.nodes.length ∧
      d' = d.addNode k name (.file (.ofBytes []) false)) ∨
    d.locate true path = .ok (.found n) ∧
      ((∃ c x, d.node? n = some (.file c x) ∧ d' = d.setNode n (.file (.ofBytes []) x)) ∨
        d' = d ∧ ∀ c x, d.node? n ≠ some (.file c x)) := by
  unfold create at h
  split at h
  · cases h
  · rename_i k name hl
    cases h
    exact .inl ⟨k, name, hl, rfl, rfl⟩
  · rename_i m hl
    split at h
    · cases h
    · rename_i c x hm
      cases h
      exact .inr ⟨hl, .inl ⟨c, x, hm, rfl⟩⟩
    · cases h
    · -- A device is opened as it is.
      rename_i hfile _
      cases h
      exact .inr ⟨hl, .inr ⟨rfl, hfile⟩⟩

/-- What is opened is found at its path, and if it is a file it is empty. -/
theorem locate_of_create (h : d.create path = .ok (n, d')) :
    d'.locate true path = .ok (.found n) ∧
      ∀ c x, d'.node? n = some (.file c x) → c.bytes = [] := by
  rcases create_cases h with ⟨k, name, hl, rfl, rfl⟩ | ⟨hl, ⟨c, x, hn, rfl⟩ | ⟨rfl, hfile⟩⟩
  · have hk := (locate_eq_ok_iff.1 hl).2.of_free.1
    obtain ⟨parent, names, -, hnode⟩ := node?_addNode hk name (.file (.ofBytes []) false)
    refine ⟨locate_addNode hl (by simp) (by simp), fun c x hc => ?_⟩
    rw [hnode, if_pos rfl] at hc
    cases hc
    rfl
  · refine ⟨locate_found_mono (extends_setNode_file hn) hl, fun c x hc => ?_⟩
    rw [node?_setNode hn, if_pos rfl] at hc
    cases hc
    rfl
  · exact ⟨hl, fun c x hc => absurd hc (hfile c x)⟩

end Disk

namespace LogSink

/-- Writes several lines, as far as they can be written. -/
def writeLines (s : LogSink) (d : Disk) : List String → Except IoFault (LogSink × Disk)
  | [] => .ok (s, d)
  | line :: lines =>
    match s.writeLine d line with
    | .error e => .error e
    | .ok (s, d) => s.writeLines d lines

variable {s s' : LogSink} {d d' : Disk}

/-- One more line is written behind the others. -/
theorem writeLines_append_one {lines : List String} (h : s.writeLines d lines = .ok (s', d'))
    (line : String) : s.writeLines d (lines ++ [line]) = s'.writeLine d' line := by
  induction lines generalizing s d with
  | nil =>
    cases h
    simp only [List.nil_append, writeLines]
    cases s'.writeLine d' line <;> rfl
  | cons first lines ih =>
    simp only [List.cons_append, writeLines] at h ⊢
    cases hw : s.writeLine d first with
    | error e =>
      rw [hw] at h
      cases h
    | ok next =>
      rw [hw] at h
      exact ih h

end LogSink

namespace LogStore

variable {s : LogStore} {d d' : Disk} {p : String} {sink : LogSink} {bytes : List UInt8}

/-- The path of a log leads to the file that the sink writes; the file holds these bytes, and the
sink stands behind them. -/
structure Opened (s : LogStore) (d : Disk) (p : String) (sink : LogSink) (bytes : List UInt8) :
    Prop where
  place : d.locate true (s.pathFor p) = .ok (.found sink.node)
  file : ∃ c x, d.node? sink.node = some (.file c x) ∧ c.bytes = bytes
  position : sink.position = bytes.length

/-- A log is opened where its path leads, and there it is empty if it is a file. -/
theorem locate_of_reset (h : s.reset d p = (.ok sink, d')) :
    d'.locate true (s.pathFor p) = .ok (.found sink.node) ∧ sink.position = 0 ∧
      ∀ c x, d'.node? sink.node = some (.file c x) → c.bytes = [] := by
  unfold reset at h
  split at h
  · cases h
  · split at h
    · cases h
    · rename_i hcreate
      cases h
      obtain ⟨hl, hempty⟩ := Disk.locate_of_create hcreate
      exact ⟨hl, rfl, hempty⟩

/-- **A log that has just been opened is empty.** It may be a device, and then it holds nothing that
could be read. -/
theorem opened_of_reset (h : s.reset d p = (.ok sink, d'))
    (hfile : ∃ c x, d'.node? sink.node = some (.file c x)) : s.Opened d' p sink [] := by
  obtain ⟨hl, hposition, hempty⟩ := locate_of_reset h
  obtain ⟨c, x, hc⟩ := hfile
  exact ⟨hl, ⟨c, x, hc, hempty c x hc⟩, hposition⟩

namespace Opened

/-- **A line is written at the end.** -/
theorem writeLine (h : s.Opened d p sink bytes) (line : String) :
    ∃ sink' d', sink.writeLine d line = .ok (sink', d') ∧
      s.Opened d' p sink' (bytes ++ LogSink.lineBytes line) := by
  obtain ⟨c, x, hn, hc⟩ := h.file
  refine ⟨{ sink with position := sink.position + (LogSink.lineBytes line).length },
    d.setNode sink.node (.file (c.overwrite sink.position (LogSink.lineBytes line)) x),
    ?_, ?_, ?_, ?_⟩
  · simp only [LogSink.writeLine, Disk.writeAt, hn]
  · exact Disk.locate_found_mono (Disk.extends_setNode_file hn) h.place
  · refine ⟨_, x, by rw [Disk.node?_setNode hn, if_pos rfl], ?_⟩
    rw [Content.bytes_overwrite, hc, h.position, Content.spliced]
    simp
  · simp [h.position]

/-- As many lines as one likes are written, one after the other. -/
theorem writeLines (h : s.Opened d p sink bytes) (lines : List String) :
    ∃ sink' d', sink.writeLines d lines = .ok (sink', d') ∧
      s.Opened d' p sink' (bytes ++ lines.flatMap LogSink.lineBytes) := by
  induction lines generalizing d sink bytes with
  | nil => exact ⟨sink, d, rfl, by simpa using h⟩
  | cons line lines ih =>
    obtain ⟨sink₁, d₁, hw, h₁⟩ := h.writeLine line
    obtain ⟨sink', d', hws, h'⟩ := ih h₁
    refine ⟨sink', d', by simp only [LogSink.writeLines, hw, hws], ?_⟩
    rwa [List.flatMap_cons, ← List.append_assoc]

/-- What is in an open log is read byte for byte. -/
theorem read_bytes (h : s.Opened d p sink bytes) : d.read (s.pathFor p) = .ok bytes := by
  obtain ⟨c, x, hn, hc⟩ := h.file
  simp only [Disk.read, Disk.find, h.place, Disk.bytes, hn, hc]

/-- A text that is in an open log is read. -/
theorem read {text : String} (h : s.Opened d p sink (Utf8.encode text)) :
    s.read d p = .ok (some text) := by
  delta LogStore.read
  rw [h.read_bytes]
  simp only [Utf8.lossy_encode]

end Opened

end LogStore

end BuildService
