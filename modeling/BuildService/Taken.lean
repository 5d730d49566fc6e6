/-!
What a reader takes from the front of its input.

A reader gives back a value, the rest of the input, and the fact that the rest
is shorter than a given size. The size is most often the length of the input, so
the fact says that something was taken, and a reader that calls itself on the
rest comes to an end.
-/

set_option autoImplicit false

namespace BuildService

/-- A value that has been read, and what follows it, which is shorter than a given size. -/
structure Taken (σ α : Type) (size : Nat) where
  value : α
  rest : List σ
  shorter : rest.length < size

namespace Taken

variable {σ α β : Type} {small large : Nat}

/-- A value that was read from one item, and the rest of an input that has that item in front. -/
def one (value : α) (rest : List σ) : Taken σ α (rest.length + 1) :=
  ⟨value, rest, Nat.lt_succ_self rest.length⟩

/-- What was taken from a short input, seen from a longer one. -/
def widen (t : Taken σ α small) (h : small ≤ large) : Taken σ α large :=
  ⟨t.value, t.rest, Nat.lt_of_lt_of_le t.shorter h⟩

/-- What was taken from an input, seen from the input with one more item in front. -/
def wider (t : Taken σ α small) : Taken σ α (small + 1) := t.widen (Nat.le_succ small)

def map (f : α → β) (t : Taken σ α small) : Taken σ β small := ⟨f t.value, t.rest, t.shorter⟩

end Taken

end BuildService
