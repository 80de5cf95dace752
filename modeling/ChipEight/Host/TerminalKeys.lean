import ChipEight.Host.Keymap
import ChipEight.TimeNumber

/-!
# Keys of a terminal

A terminal reports characters, not keys going down and up. A reader puts the key of each character
typed into a queue, and a poll treats a key as held for a short time after its character was last
taken out of the queue.

The queue holds at most sixteen items. A key that finds it full is lost. Escape and Ctrl+C end the
reader, whatever the keymap says of them: it puts a quit mark into the queue, and waits with it
until there is a place.

The reader runs beside everything else. A character that it cannot turn into lower case ends it with
a failure of its own, which reaches nobody: from then on, nothing is read.

## Main definitions

* `Reader`: how the reader goes on.
* `TerminalKeys.read`: the reader, from a state in which it waits for a character.
* `TerminalKeys.resume`: the reader from any of its states.
* `TerminalKeys.poll`: a poll at some time.
-/

namespace ChipEight

variable {α : Type} [TimeNumber α]

/-- What a reader does next. -/
inductive Reading
  /-- It waits for a character. -/
  | listening
  /-- It waits for a place in the queue for its quit mark. -/
  | waiting
  /-- Nothing: it has ended. -/
  | ended
  deriving DecidableEq, Repr

/-- How a reader goes on, unless it has failed. -/
abbrev Reader := Except Failure Reading

/-- The keys typed at a terminal. -/
structure TerminalKeys (α : Type) where
  /-- The codes that stand for keys. -/
  keymap : Keymap
  /-- The keys typed and not yet polled, in order; `none` is a quit mark. -/
  queue : List (Option Key)
  /-- The time up to which each key counts as held. -/
  heldUntil : Vector α 16
  /-- Whether the reader was told to stop. -/
  stopped : Bool

namespace TerminalKeys

/-- The greatest number of items in the queue. -/
def queueLimit : Nat := 16

/-- How long a key counts as held, a fifth of a second. -/
def holdTime : α := TimeNumber.ratio 1 5

/-- No key typed yet. -/
def start (keymap : Keymap) : TerminalKeys α :=
  ⟨keymap, [], Vector.replicate 16 TimeNumber.zero, false⟩

/-! ### The reader -/

/-- Whether a lower-case character code asks to quit: Escape or Ctrl+C. -/
def quits (code : Int) : Bool :=
  code == 27 || code == 3

/-- Whether the queue has no place left. -/
def isFull (t : TerminalKeys α) : Bool :=
  t.queue.length ≥ queueLimit

/-- The queue with an item at its end. -/
def put (t : TerminalKeys α) (item : Option Key) : TerminalKeys α :=
  { t with queue := t.queue ++ [item] }

/-- The queue with a key, which is lost if there is no place for it. -/
def enqueue (t : TerminalKeys α) (key : Key) : TerminalKeys α :=
  if t.isFull then t else t.put (some key)

/-- The queue with the key of a character, if it stands for one. -/
def enqueueCode (t : TerminalKeys α) (code : Int) : TerminalKeys α :=
  match t.keymap.key? code with
  | some key => t.enqueue key
  | none => t

/-- The queue with a quit mark, which ends the reader. Without a place for it the reader waits. -/
def mark (t : TerminalKeys α) : Reading × TerminalKeys α :=
  if t.isFull then (.waiting, t) else (.ended, t.put none)

/-- Reads characters until they run out or one of them asks to quit. A reader that was told to stop
reads nothing. A character without a lower-case form ends the reader with a failure. -/
def read (t : TerminalKeys α) : List Int → Reader × TerminalKeys α
  | [] => (.ok (if t.stopped then .ended else .listening), t)
  | code :: codes =>
    if t.stopped then (.ok .ended, t)
    else
      match Keymap.lowerCode code with
      | .error failure => (.error failure, t)
      | .ok lower =>
        if quits lower then
          let (reading, t) := t.mark
          (.ok reading, t)
        else (t.enqueueCode lower).read codes

/-- The reader goes on with characters. One that waits with its quit mark tries again, and reads
nothing any more; nor does one that has ended or failed. -/
def resume (t : TerminalKeys α) (reader : Reader) (codes : List Int) : Reader × TerminalKeys α :=
  match reader with
  | .ok .listening => t.read codes
  | .ok .waiting =>
    let (reading, t) := t.mark
    (.ok reading, t)
  | .ok .ended | .error _ => (reader, t)

/-- Tells the reader to stop. -/
def stop (t : TerminalKeys α) : TerminalKeys α :=
  { t with stopped := true }

/-! ### Polls -/

/-- The keys with one of them held from some time on. -/
def hold (t : TerminalKeys α) (now : α) : Key → Except Failure (TerminalKeys α)
  | ⟨key, hkey⟩ => do
    let until_ ← TimeNumber.add now holdTime
    return { t with heldUntil := t.heldUntil.set key until_ hkey }

/-- Takes the items out of the queue at some time, up to a quit mark, and holds the keys among them
from then on. Tells whether there was a quit mark. -/
def drain (now : α) : List (Option Key) → TerminalKeys α → Except Failure Bool × TerminalKeys α
  | [], t => (.ok false, { t with queue := [] })
  | none :: rest, t => (.ok true, { t with queue := rest })
  | some key :: rest, t =>
    match t.hold now key with
    | .error failure => (.error failure, { t with queue := rest })
    | .ok t => drain now rest t

/-- Whether a key counts as held at some time. -/
def holds (t : TerminalKeys α) (now : α) (key : Key) : Bool :=
  TimeNumber.lt now (t.heldUntil.get key)

/-- The keypad with every key held or let go as it counts at some time. -/
def apply (t : TerminalKeys α) (now : α) (keypad : Keypad) : Keypad :=
  Key.all.foldl (fun k key ↦ if t.holds now key then k.press key else k.release key) keypad

/-- Takes the keys typed out of the queue and brings the keypad up to date. A quit mark leaves the
keypad as it is. -/
def poll (t : TerminalKeys α) (now : α) (keypad : Keypad) :
    Except Failure Bool × TerminalKeys α × Keypad :=
  match drain now t.queue t with
  | (.ok false, t) => (.ok false, t, t.apply now keypad)
  | (result, t) => (result, t, keypad)

end TerminalKeys

end ChipEight
