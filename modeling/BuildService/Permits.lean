/-!
Permits of which a fixed number exists, given in the order in which they are
asked for.

Who asks for a permit gets one if one is free, and otherwise waits. A permit that
is given back goes straight to the first who waits, so nobody waits while a
permit is free; this is kept by the type. Who waits may also give up its place.
-/

set_option autoImplicit false

namespace BuildService

/-- The number of a build, in the order of admission. -/
abbrev BuildId := Nat

/-- The permits of a service: who holds one and who waits for one, in the order in which they
were given or began to wait. -/
structure Permits where
  /-- The permits that nobody holds. -/
  free : Nat
  holders : List BuildId
  queue : List BuildId
  busy : queue ≠ [] → free = 0
  deriving Repr

namespace Permits

def start (n : Nat) : Permits := ⟨n, [], [], by simp⟩

def total (p : Permits) : Nat := p.free + p.holders.length

def acquire (p : Permits) (id : BuildId) : Permits :=
  if h : p.free = 0 then ⟨0, p.holders, p.queue ++ [id], fun _ => rfl⟩
  else ⟨p.free - 1, p.holders ++ [id], p.queue, fun hq => absurd (p.busy hq) h⟩

/-- Who gets the permit that is given back next. -/
def heir? (p : Permits) : Option BuildId := p.queue.head?

def release (p : Permits) (id : BuildId) : Permits :=
  match h : p.queue with
  | [] => ⟨p.free + 1, p.holders.erase id, [], by simp⟩
  -- The permit is handed on and is not free in between.
  | next :: rest =>
    ⟨p.free, p.holders.erase id ++ [next], rest, fun _ => p.busy (by simp [h])⟩

/-- Gives up a permit, or else a place among those who wait. -/
def giveUp (p : Permits) (id : BuildId) : Permits :=
  if id ∈ p.holders then p.release id
  else ⟨p.free, p.holders, p.queue.erase id, fun h => p.busy (by
    intro hq
    simp [hq] at h)⟩

/-- Everybody who has asked for a permit and not given it up, in the order in which they asked or
were given their permits. -/
def line (p : Permits) : List BuildId := p.holders ++ p.queue

/-! ## What each operation does -/

theorem free_eq_zero_of_mem_queue {p : Permits} {id : BuildId} (h : id ∈ p.queue) : p.free = 0 :=
  p.busy (List.ne_nil_of_mem h)

theorem total_acquire (p : Permits) (id : BuildId) : (p.acquire id).total = p.total := by
  unfold acquire
  split
  · rename_i h
    simp only [total, h]
  · simp only [total, List.length_append, List.length_singleton]
    omega

/-- A permit that is given back is free again or is held by somebody else. -/
theorem total_release {p : Permits} {id : BuildId} (h : id ∈ p.holders) :
    (p.release id).total = p.total := by
  have hpos : 0 < p.holders.length := List.length_pos_of_mem h
  unfold release
  split <;>
    simp only [total, List.length_append, List.length_singleton, List.length_erase_of_mem h] <;>
    omega

theorem total_giveUp (p : Permits) (id : BuildId) : (p.giveUp id).total = p.total := by
  unfold giveUp
  split
  · rename_i h
    exact total_release h
  · rfl

/-- Who asks goes to the end of the line, with a permit or without one. -/
theorem line_acquire (p : Permits) (id : BuildId) : (p.acquire id).line = p.line ++ [id] := by
  unfold acquire line
  split
  · exact (List.append_assoc _ _ _).symm
  · rename_i h
    have hq : p.queue = [] := Decidable.byContradiction fun hq => h (p.busy hq)
    simp [hq]

/-- Who gives a permit back leaves the line, and nobody else moves in it. -/
theorem line_release {p : Permits} {id : BuildId} (h : id ∈ p.holders) :
    (p.release id).line = p.line.erase id := by
  unfold line
  rw [List.erase_append_left _ h]
  unfold release
  split <;> rename_i hq <;> simp [hq]

theorem line_giveUp (p : Permits) (id : BuildId) : (p.giveUp id).line = p.line.erase id := by
  unfold giveUp
  split
  · rename_i h
    exact line_release h
  · rename_i h
    simp only [line, List.erase_append_right _ h]

/-- Who asks while a permit is free gets one, behind those who have got theirs. -/
theorem holders_acquire (p : Permits) (id : BuildId) :
    (p.acquire id).holders = if p.free = 0 then p.holders else p.holders ++ [id] := by
  unfold acquire
  split <;> rfl

/-- Who is handed the permit that is given back comes behind those who have got theirs. -/
theorem holders_release (p : Permits) (id : BuildId) :
    (p.release id).holders = p.holders.erase id ++ p.heir?.toList := by
  unfold release heir?
  split <;> rename_i hq <;> simp [hq]

theorem mem_holders_acquire {p : Permits} {id other : BuildId} (h : other ∈ p.holders) :
    other ∈ (p.acquire id).holders := by
  rw [holders_acquire]
  split
  · exact h
  · exact List.mem_append_left _ h

theorem mem_holders_release {p : Permits} {id other : BuildId} (h : other ∈ p.holders)
    (hne : other ≠ id) : other ∈ (p.release id).holders := by
  rw [holders_release]
  exact List.mem_append_left _ ((List.mem_erase_of_ne hne).2 h)

theorem mem_holders_giveUp {p : Permits} {id other : BuildId} (h : other ∈ p.holders)
    (hne : other ≠ id) : other ∈ (p.giveUp id).holders := by
  unfold giveUp
  split
  · exact mem_holders_release h hne
  · exact h

/-- Who asks while a permit is free does not wait; who asks while none is waits behind the others. -/
theorem queue_acquire (p : Permits) (id : BuildId) :
    (p.acquire id).queue = if p.free = 0 then p.queue ++ [id] else p.queue := by
  unfold acquire
  split <;> rfl

/-- A permit that is given back goes to the first who waits. -/
theorem queue_release (p : Permits) (id : BuildId) :
    p.heir?.toList ++ (p.release id).queue = p.queue := by
  unfold release heir?
  split <;> rename_i hq <;> simp [hq]

theorem queue_giveUp_of_mem {p : Permits} {id : BuildId} (h : id ∈ p.holders) :
    p.heir?.toList ++ (p.giveUp id).queue = p.queue := by
  rw [giveUp, if_pos h]
  exact queue_release p id

/-- A place that is given up is filled by those behind it. -/
theorem queue_giveUp_of_not_mem {p : Permits} {id : BuildId} (h : id ∉ p.holders) :
    (p.giveUp id).queue = p.queue.erase id := by
  rw [giveUp, if_neg h]

end Permits

end BuildService
