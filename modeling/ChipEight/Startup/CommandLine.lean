import ChipEight.Startup.CommandOption
import ChipEight.Startup.Settings
import ChipEight.Text.Quoted

/-!
# The command line

A command line holds the name of a program file and options. Reading it takes two passes.

The first pass tells what each argument is, on its own. An argument that does not begin with a dash
is a value. One that does is an option if it is a spelling of one, a spelling with a value attached
by `=`, the beginning of exactly one long spelling, or a short spelling with something behind it. A
beginning of several long spellings is a mistake. Of what is left, a negative number and an argument
with a space are values, the rest is not recognised. Everything behind `--` is a value.

The second pass goes through the arguments. The first value that no option takes is the name of the
file; further ones are not recognised. An option takes the value attached to it or else the argument
behind it, which must be a value. A short flag with something behind it stands for itself and the
short option that its next character spells. The last use of an option wins. A mistake ends the
pass where it is found; that the file is missing, and what was not recognised, is found out last.

## Main definitions

* `Argument.classifyAll`: the first pass.
* `CommandLine.parse`: both passes.
* `UsageProblem.message`: the text of a mistake.
-/

namespace ChipEight

/-- The mistakes on a command line. -/
inductive UsageProblem
  /-- The beginning of several long spellings. -/
  | ambiguous (text : String) (spellings : List String)
  /-- An option that lacks its value. -/
  | valueExpected (o : CommandOption)
  /-- A flag with a value. -/
  | valueIgnored (o : CommandOption) (value : String)
  /-- A value that is no whole number. -/
  | notWhole (o : CommandOption) (value : String)
  /-- A word that is none of the choices. -/
  | noSuchWord (o : CommandOption) (value : String) (choices : List String)
  /-- A number that is none of the choices. -/
  | noSuchNumber (o : CommandOption) (value : Int) (choices : List Int)
  /-- No name of a file. -/
  | fileMissing
  /-- Arguments that mean nothing. -/
  | unrecognized (texts : List String)
  deriving DecidableEq, Repr

namespace UsageProblem

/-- The text of a mistake with an option. -/
def aboutOption (o : CommandOption) (text : String) : String :=
  "argument " ++ o.displayName ++ ": " ++ text

/-- The text of a value that is none of the choices. -/
def choiceText (value : String) (choices : List String) : String :=
  "invalid choice: " ++ value ++ " (choose from " ++ ", ".intercalate choices ++ ")"

/-- The text of a mistake. -/
def message : UsageProblem → String
  | ambiguous text spellings =>
    "ambiguous option: " ++ text ++ " could match " ++ ", ".intercalate spellings
  | valueExpected o => aboutOption o "expected one argument"
  | valueIgnored o value => aboutOption o ("ignored explicit argument " ++ Quoted.render value)
  | notWhole o value => aboutOption o ("invalid int value: " ++ Quoted.render value)
  | noSuchWord o value choices =>
    aboutOption o (choiceText (Quoted.render value) (choices.map Quoted.render))
  | noSuchNumber o value choices =>
    aboutOption o (choiceText (toString value) (choices.map toString))
  | fileMissing => "the following arguments are required: filename"
  | unrecognized texts => "unrecognized arguments: " ++ " ".intercalate texts

end UsageProblem

/-- Why a command line yields no settings. -/
inductive Refusal
  /-- Help was asked for. -/
  | help
  /-- There is a mistake. -/
  | problem (p : UsageProblem)
  deriving DecidableEq, Repr

/-- What an argument is on its own. -/
inductive Argument
  /-- A value. -/
  | value (text : String)
  /-- The mark behind which everything is a value. -/
  | endMark
  /-- An option, whether it is spelled with a single dash, and the value attached to it. -/
  | option (o : CommandOption) (short : Bool) (attached : Option String)
  /-- Nothing that is recognised. -/
  | unknown (text : String)
  deriving DecidableEq, Repr

namespace Argument

/-! ### Spellings -/

/-- The mark behind which everything is a value. -/
def endText : String := "--"

/-- Whether a spelling has a single dash. -/
def isShort (spelling : String) : Bool :=
  match spelling.toList with
  | _ :: '-' :: _ => false
  | _ => true

/-- The option of a spelling, as an argument. -/
def ofEntry (attached : Option String) (entry : String × CommandOption) : Argument :=
  .option entry.2 (isShort entry.1) attached

/-- A text up to the first equals sign, and what is behind it, if there is one. -/
def splitEquals (text : String) : String × Option String :=
  let cs := text.toList
  match cs.dropWhile (· != '=') with
  | [] => (text, none)
  | _ :: rest => (String.ofList (cs.takeWhile (· != '=')), some (String.ofList rest))

/-- Whether the characters of one text begin another. -/
def begins (start text : String) : Bool :=
  start.toList.isPrefixOf text.toList

/-- The spellings that an argument with a dash can stand for, each as an argument. With two dashes
these are the spellings that begin with it; with one, the spelling of its first two characters with
the rest attached, and the spellings that begin with it. -/
def readings (text : String) : List (String × Argument) :=
  if begins "--" text then
    let (beginning, attached) := splitEquals text
    (CommandOption.spellings.filter fun entry ↦ begins beginning entry.1).map fun entry ↦
      (entry.1, ofEntry attached entry)
  else
    let short := String.ofList (text.toList.take 2)
    let rest := String.ofList (text.toList.drop 2)
    CommandOption.spellings.filterMap fun entry ↦
      if entry.1 = short then some (entry.1, ofEntry (some rest) entry)
      else if begins text entry.1 then some (entry.1, ofEntry none entry)
      else none

/-! ### The first pass -/

/-- A row of characters without a newline at its end. -/
def dropNewline (cs : List Char) : List Char :=
  if cs.getLast? = some '\n' then cs.dropLast else cs

/-- Whether characters are digits, possibly with a point in front of the last of them. -/
def isPlainNumber (cs : List Char) : Bool :=
  let behind := cs.dropWhile DecimalDigit.isDigit
  match behind with
  | [] => !cs.isEmpty
  | '.' :: fraction => !fraction.isEmpty && fraction.all DecimalDigit.isDigit
  | _ => false

/-- Whether an argument is a dash and a number. -/
def isNegativeNumber (text : String) : Bool :=
  match text.toList with
  | '-' :: cs => isPlainNumber (dropNewline cs)
  | _ => false

/-- What an argument with a dash that is no spelling is. -/
def classifyOther (text : String) : Except UsageProblem Argument :=
  match readings text with
  | [(_, argument)] => .ok argument
  | [] =>
    if isNegativeNumber text || text.toList.contains ' ' then .ok (.value text)
    else .ok (.unknown text)
  | several => .error (.ambiguous text (several.map Prod.fst))

/-- What an argument is on its own, the end mark apart. -/
def classify (text : String) : Except UsageProblem Argument :=
  if !begins "-" text || text = "-" then .ok (.value text)
  else
    match CommandOption.ofSpelling? text, splitEquals text with
    | some o, _ => .ok (ofEntry none (text, o))
    | none, (spelling, some attached) =>
      match CommandOption.ofSpelling? spelling with
      | some o => .ok (ofEntry (some attached) (spelling, o))
      | none => classifyOther text
    | none, (_, none) => classifyOther text

/-- What each argument is. Behind the end mark, all are values. -/
def classifyAll : List String → Except UsageProblem (List Argument)
  | [] => .ok []
  | text :: rest =>
    if text = endText then .ok (.endMark :: rest.map .value)
    else do
      let argument ← classify text
      return argument :: (← classifyAll rest)

/-- The text of a value or of the end mark. -/
def text : Argument → String
  | value text | unknown text => text
  | endMark => endText
  | option .. => ""

end Argument

namespace CommandLine

/-! ### Values -/

/-- What has been read of a command line. -/
structure Progress where
  /-- The settings, the name of the file apart. -/
  settings : CommandSettings
  /-- The name of the file. -/
  filename : Option String
  /-- The arguments that were not recognised. -/
  extras : List String

/-- The whole number that a value stands for. -/
def wholeValue (o : CommandOption) (value : String) : Except UsageProblem Int :=
  match Numeral.read? .ten value with
  | some n => .ok n
  | none => .error (.notWhole o value)

/-- The number that a value stands for, which must be one of the choices. -/
def chosenNumber (o : CommandOption) (choices : List Int) (value : String) :
    Except UsageProblem Int := do
  let n ← wholeValue o value
  if choices.contains n then return n else throw (.noSuchNumber o n choices)

/-- The value, which must be one of the choices. -/
def chosenWord (o : CommandOption) (choices : List String) (value : String) :
    Except UsageProblem String :=
  if choices.contains value then .ok value else .error (.noSuchWord o value choices)

/-- The settings after an option with a value. -/
def assign (o : CommandOption) (value : String) (s : CommandSettings) :
    Except UsageProblem CommandSettings := do
  match o with
  | .clockSpeed => return { s with clockSpeed := ← wholeValue o value }
  | .renderer => return { s with renderer := ← chosenWord o CommandOption.rendererWords value }
  | .scale => return { s with scale := ← wholeValue o value }
  | .mute => return { s with mute := ← chosenNumber o CommandOption.muteNumbers value }
  | .keymap => return { s with keymap := value }
  | .seed => return { s with seed := ← wholeValue o value }
  | .cursorMode =>
    return { s with cursorMode := ← chosenNumber o CommandOption.cursorNumbers value }
  | .palette => return { s with palette := value }
  | .logLevel => return { s with logLevel := ← chosenWord o CommandOption.levelWords value }
  | .help | .debug => return s

/-- The settings after an option, given its value if it takes one. An end mark as value leaves the
option without one. -/
def take (o : CommandOption) (value : Option String) (s : CommandSettings) :
    Except Refusal CommandSettings :=
  match o, value with
  | .help, _ => .error .help
  | .debug, _ => .ok { s with debug := true }
  | o, none => .error (.problem (.valueExpected o))
  | o, some value =>
    if value = Argument.endText then .ok { s with emptied := o :: s.emptied }
    else
      match assign o value { s with emptied := s.emptied.filter (· != o) } with
      | .ok s => .ok s
      | .error p => .error (.problem p)

/-! ### Options -/

/-- The short flags that are spelled in one argument, and the option at its end with the value
attached to that. -/
def unchain (o : CommandOption) : List Char →
    Except UsageProblem (List CommandOption × CommandOption × Option String)
  | [] => .ok ([], o, none)
  | c :: cs =>
    if o.takesValue then .ok ([], o, some (String.ofList (c :: cs)))
    else
      match CommandOption.ofSpelling? (String.ofList ['-', c]) with
      | none => .error (.valueIgnored o (String.ofList (c :: cs)))
      | some next => do
        let (flags, last) ← unchain next cs
        return (o :: flags, last)

/-- The flags and the option that an argument spells, and the value attached to the option. -/
def spelled (o : CommandOption) (short : Bool) (attached : Option String) :
    Except UsageProblem (List CommandOption × CommandOption × Option String) :=
  match attached with
  | none => .ok ([], o, none)
  | some value =>
    if o.takesValue then .ok ([], o, some value)
    else if short && value != "" then unchain o value.toList
    else .error (.valueIgnored o value)

/-- Whether an option still needs the argument behind it. -/
def needsNext (last : CommandOption × Option String) : Bool :=
  last.1.takesValue && last.2.isNone

/-- The settings after flags and an option with its value. -/
def takeAll (flags : List CommandOption) (o : CommandOption) (value : Option String)
    (s : CommandSettings) : Except Refusal CommandSettings := do
  let s ← flags.foldlM (fun s flag ↦ take flag none s) s
  take o value s

/-! ### The second pass -/

/-- Reads the arguments behind the end mark, given whether the mark itself belongs to the name of
the file. -/
def readValues (p : Progress) (rest : List Argument) : Progress :=
  match p.filename, rest with
  | none, .value text :: rest =>
    { p with filename := some text, extras := p.extras ++ rest.map Argument.text }
  | _, rest => { p with extras := p.extras ++ Argument.endText :: rest.map Argument.text }

/-- Reads arguments in turn. -/
def read (p : Progress) : List Argument → Except Refusal Progress
  | [] => .ok p
  | .endMark :: rest => .ok (readValues p rest)
  | .unknown text :: rest => read { p with extras := p.extras ++ [text] } rest
  | .value text :: rest =>
    match p.filename with
    | some _ => read { p with extras := p.extras ++ [text] } rest
    | none =>
      let p := { p with filename := some text }
      match rest with
      | .endMark :: rest => .ok { p with extras := p.extras ++ rest.map Argument.text }
      | rest => read p rest
  | .option o short attached :: rest =>
    match spelled o short attached with
    | .error problem => .error (.problem problem)
    | .ok (flags, last, value) =>
      if needsNext (last, value) then
        match rest with
        | .value text :: rest => do
          read { p with settings := ← takeAll flags last (some text) p.settings } rest
        | _ => .error (.problem (.valueExpected last))
      else do read { p with settings := ← takeAll flags last value p.settings } rest

/-- The settings of a command line that has been read to its end. -/
def finish (p : Progress) : Except Refusal CommandSettings :=
  match p.filename with
  | none => .error (.problem .fileMissing)
  | some filename =>
    if p.extras.isEmpty then .ok { p.settings with filename }
    else .error (.problem (.unrecognized p.extras))

/-- Reads a command line. -/
def parse (arguments : List String) : Except Refusal CommandSettings :=
  match Argument.classifyAll arguments with
  | .error problem => .error (.problem problem)
  | .ok arguments => do finish (← read ⟨CommandSettings.ofFile "", none, []⟩ arguments)

end CommandLine

end ChipEight
