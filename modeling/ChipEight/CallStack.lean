import ChipEight.Failure

/-!
# The call stack

The return addresses of the calls in progress. The stack is no part of memory and programs cannot
see its depth; it holds at most as many addresses as its capacity, none at all if the capacity is
below zero.
-/

namespace ChipEight

/-- The return addresses of the calls in progress. -/
structure CallStack where
  /-- The greatest number of addresses. -/
  capacity : Int
  /-- The addresses, the most recent first. -/
  frames : List Int
  deriving DecidableEq, Repr

namespace CallStack

/-- The usual capacity. -/
def usualCapacity : Int := 16

/-- A stack of a given capacity without addresses. -/
def empty (capacity : Int) : CallStack :=
  ⟨capacity, []⟩

/-- The number of addresses held. -/
def depth (s : CallStack) : Nat :=
  s.frames.length

/-- The addresses held, the least recent first. -/
def items (s : CallStack) : List Int :=
  s.frames.reverse

/-- Refuses an address if the stack is full. -/
def checkRoom (s : CallStack) (item : Int) : Except Failure Unit :=
  if (s.depth : Int) ≥ s.capacity then .error (.fault (.stackOverflow item s.capacity)) else .ok ()

/-- The stack with an address added, full or not. -/
def add (s : CallStack) (item : Int) : CallStack :=
  { s with frames := item :: s.frames }

/-- Adds an address, unless the stack is full. -/
def push (s : CallStack) (item : Int) : Except Failure CallStack := do
  s.checkRoom item
  return s.add item

/-- The most recent address, if there is one. -/
def top (s : CallStack) : Except Failure Int :=
  match s.frames with
  | [] => .error (.fault .stackUnderflow)
  | item :: _ => .ok item

/-- The stack without the most recent address. -/
def drop (s : CallStack) : CallStack :=
  { s with frames := s.frames.tail }

/-- Removes the most recent address, unless there is none. -/
def pop (s : CallStack) : Except Failure (Int × CallStack) := do
  return (← s.top, s.drop)

/-- Forgets every address. -/
def clear (s : CallStack) : CallStack :=
  { s with frames := [] }

/-- What was pushed last is popped first. -/
theorem pop_of_push {s t : CallStack} {item : Int} (h : s.push item = .ok t) :
    t.pop = .ok (item, s) := by
  unfold push checkRoom at h
  split at h
  · contradiction
  · cases h; rfl

end CallStack

end ChipEight
