import BuildService.Proofs.Logs
import BuildService.Proofs.Supervise
/-!
The log of a program is a function of what it has given out.

The lines that a program has written into its log are the lines of its output
when it ends by itself, so the log holds the normal form of the text that the
output is. Nothing else goes in: not the chunks in which the output came, nor the
times, nor what else the program did, as long as it left its log alone.
-/

set_option autoImplicit false

namespace BuildService

/-- Lines that are written stand in the log as one text. -/
theorem LogSink.flatMap_lineBytes (lines : List String) :
    lines.flatMap LogSink.lineBytes = Utf8.encode (String.join (lines.map (· ++ "\n"))) := by
  induction lines with
  | nil => rfl
  | cons line lines ih =>
    rw [List.flatMap_cons, ih, LogSink.lineBytes_eq, ← Utf8.encode_append, List.map_cons,
      String.join_cons]

namespace Output

/-- What stands behind the last newline is a line of its own. -/
theorem lines_append_of_not_mem {front last : List UInt8}
    (hfront : ∀ x, front.getLast? = some x → x = 0x0A) (hne : last ≠ []) (h : 0x0A ∉ last) :
    lines (front ++ last) = lines front ++ [lineText last] := by
  rw [lines_eq_map_pieces, pieces_append hfront, pieces_of_not_mem hne h, List.map_append,
    ← lines_eq_map_pieces, List.map_singleton]

end Output

variable {store : LogStore} {d₀ d d₁ : Disk} {p : String} {sink : LogSink} {c : Command}
  {timeout : Duration} {stopped : Option Nat} {b : Behaviour}

/-- A program that ends by itself has the lines of its output in its log. -/
theorem opened_of_supervise (h : store.Opened d p sink [])
    (hended : (supervise d sink c timeout stopped b).1 = .ok .success ∨
      ∃ code, (supervise d sink c timeout stopped b).1 = .ok (.failed code)) :
    ∃ sink', store.Opened (supervise d sink c timeout stopped b).2 p sink'
      (Utf8.encode (Output.normalise (Utf8.lossy b.output))) := by
  obtain ⟨x, hx, hr, ⟨sink', hlog⟩, -, hlines⟩ :=
    Scene.exists_of_supervise d sink c timeout stopped b
  have hdrained : x.Drained := by
    rcases hended with he | ⟨code, he⟩
    · exact (hx.accounted.due _ (hr.trans (congrArg some he))).1
    · exact (hx.accounted.due _ (hr.trans (congrArg some he))).1
  rw [hdrained.lines, hlines hdrained.ended] at hlog
  obtain ⟨sink₂, d₂, hwritten, hopened⟩ := h.writeLines (Output.lines b.output)
  -- Writing is a function: the sink and the disk of the scene are those of the open log.
  obtain ⟨rfl, rfl⟩ := Prod.mk.inj (Except.ok.inj (hlog.symm.trans hwritten))
  rw [List.nil_append, LogSink.flatMap_lineBytes, Output.join_lines] at hopened
  exact ⟨sink', hopened⟩

/-- **The log of a program that has ended by itself is the normal form of its output.** The log was
opened for it, and starting the program has left the log alone. -/
theorem read_supervise_eq_normalise (hreset : store.reset d₀ p = (.ok sink, d₁))
    (hfile : ∃ content isExecutable, d₁.node? sink.node = some (.file content isExecutable))
    (hplace : d.locate true (store.pathFor p) = d₁.locate true (store.pathFor p))
    (hnode : d.node? sink.node = d₁.node? sink.node)
    (hended : (supervise d sink c timeout stopped b).1 = .ok .success ∨
      ∃ code, (supervise d sink c timeout stopped b).1 = .ok (.failed code)) :
    (Launch.start d₁ c timeout.millis = .ok (b, d) →
      runCommand d₁ sink c timeout stopped = supervise d sink c timeout stopped b) ∧
    store.read (supervise d sink c timeout stopped b).2 p =
      .ok (some (Output.normalise (Utf8.lossy b.output))) ∧
    Output.lines b.output = (Output.pieces '\n' (Utf8.lossy b.output).toList).map
      (fun piece => String.ofList (Output.trimReturns piece)) ∧
    Output.pieces '\n' (Output.normalise (Utf8.lossy b.output)).toList =
      (Output.pieces '\n' (Utf8.lossy b.output).toList).map Output.trimReturns ∧
    (Output.normalise (Utf8.lossy b.output)).toList.count '\n' =
      (Output.pieces '\n' (Utf8.lossy b.output).toList).length ∧
    (∀ front last, b.output = front ++ last → (∀ x, front.getLast? = some x → x = 0x0A) →
      last ≠ [] → 0x0A ∉ last →
        Output.lines b.output = Output.lines front ++ [Output.lineText last]) ∧
    ∀ text, Output.normalise text = text → b.output = Utf8.encode text →
      (supervise d sink c timeout stopped b).2.read (store.pathFor p) = .ok b.output := by
  have hfresh := LogStore.opened_of_reset hreset hfile
  have hopened : store.Opened d p sink [] :=
    ⟨hplace.trans hfresh.place, hnode ▸ hfresh.file, hfresh.position⟩
  obtain ⟨sink', hlog⟩ := opened_of_supervise hopened hended
  refine ⟨fun hlaunch => ?_, hlog.read, Output.lines_eq _, Output.pieces_normalise _,
    Output.count_normalise _, fun front last hout hfront hne hlast => ?_, fun text hnormal hout => ?_⟩
  · rw [runCommand_eq, hlaunch]
  · rw [hout, Output.lines_append_of_not_mem hfront hne hlast]
  · rw [hlog.read_bytes, hout, Utf8.lossy_encode, hnormal]

/-- The output of a tool in two chunks: the first one is cut inside the end of a line, the second one
breaks off inside a character. -/
def tornBehaviour : Behaviour where
  chunks := [(0, [0x6F, 0x6B, 0x0D]), (5, [0x0A, 0xC3])]
  closed := some 7
  exited := some (6, .code 3)

/-- Such a tool leaves two whole lines in the first log of the initial disk. -/
theorem read_of_tornBehaviour :
    (supervise (Dispatcher.logsDisk.addNode 32 "demo_log.txt" (.file (.ofBytes []) false))
      ⟨"logs/demo_log.txt", 33, 0⟩ ⟨"tool", "tool", [], none, []⟩ ⟨1000⟩ none tornBehaviour).1 =
        .ok (.failed 3) ∧
    LogStore.read ⟨"logs"⟩
      (supervise (Dispatcher.logsDisk.addNode 32 "demo_log.txt" (.file (.ofBytes []) false))
        ⟨"logs/demo_log.txt", 33, 0⟩ ⟨"tool", "tool", [], none, []⟩ ⟨1000⟩ none tornBehaviour).2
      "demo" = .ok (some "ok\n\uFFFD\n") := by
  have hended : (supervise
      (Dispatcher.logsDisk.addNode 32 "demo_log.txt" (.file (.ofBytes []) false))
      ⟨"logs/demo_log.txt", 33, 0⟩ ⟨"tool", "tool", [], none, []⟩ ⟨1000⟩ none tornBehaviour).1 =
        .ok (.failed 3) := rfl
  have hmain := (read_supervise_eq_normalise Dispatcher.reset_initial ⟨.ofBytes [], false, rfl⟩
    rfl rfl (.inr ⟨3, hended⟩)).2.1
  exact ⟨hended, hmain.trans (by decide)⟩

end BuildService
