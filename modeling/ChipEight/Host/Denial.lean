import ChipEight.Host.Renderer

/-!
# Denials

A host may deny a call that is made to it, and then whatever made the call fails at once. The call
has been recorded by then, and nothing that would have come after it is.

What an operation records on a host that denies nothing is known in advance, so what it comes to on
any other host is found by adding its entries one by one up to the first call denied.

## Main definitions

* `Denial`: the calls that a host denies.
* `Denial.sparingCursor`: what is left of them when it does not matter whether a terminal can show
  its cursor.
* `Journal.attempt`, `Journal.bringUp`: what an operation and the bringing up of a device come to on
  a host that may deny calls.
-/

namespace ChipEight

variable {α β : Type}

/-- The calls that a host denies, with the failures that result. A host may deny a call at one
moment of a session and grant it at another; a moment is known by the number of entries recorded
before it. -/
abbrev Denial := Nat → HostCall → Option Failure

namespace Denial

/-- Every call is granted. -/
def never : Denial :=
  fun _ _ ↦ none

/-- The calls that a terminal denies: those for a cursor that it refuses. -/
def ofTerminal (t : TerminalHost) : Denial := fun _ call ↦
  match call with
  | .cursor mode => t.cursorFailure? mode
  | _ => none

/-- The failure with which an entry is denied. Only calls are. -/
def entry? (denies : Denial) (moment : Nat) : Entry α → Option Failure
  | .call c => denies moment c
  | _ => none

/-- The denials other than those of a terminal that cannot show its cursor as it is asked to. -/
def sparingCursor (denies : Denial) : Denial := fun moment call ↦
  match call, denies moment call with
  | .cursor _, some .cursorRefused => none
  | _, denied? => denied?

end Denial

namespace Journal

/-- Adds entries in turn, up to the first one that the host denies. Yields the failure if there is
one. -/
def extend (denies : Denial) (j : Journal α) : List (Entry α) → Option Failure × Journal α
  | [] => (none, j)
  | entry :: rest =>
    match denies.entry? j.size entry with
    | some failure => (some failure, j.push entry)
    | none => extend denies (j.push entry) rest

/-- What an operation comes to on a host that may deny its calls, given the result and the journal
that it has on a host that grants them: a call denied takes the place of the result. -/
def attempt (denies : Denial) (failed : Failure → β) (j : Journal α) (operation : β × Journal α) :
    β × Journal α :=
  match j.extend denies operation.2.toList with
  | (some failure, j) => (failed failure, j)
  | (none, j) => (operation.1, j)

/-- What bringing a device up comes to on a host that may deny the calls it takes. -/
def bringUp (denies : Denial) (j : Journal α) (device : Except Failure β × List HostCall) :
    Except Failure β × Journal α :=
  j.attempt denies .error (device.1, ofCalls device.2)

end Journal

end ChipEight
