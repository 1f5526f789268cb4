import CallEdits.Json.Basic
import CallEdits.Text.Digit
import CallEdits.Text.Quoted

/-!
# Command/Flags — the words of a command line

    word ──classify──▸ option, value, divider or unknown ──consume──▸ flags

An option is written out, or as any start of its long name that fits no other option, and may carry
its value after `=`.  Short options take no value and may be run together.  Words that are no
options and no values of options are left over, and refused at the end; every other complaint is
made at once.
-/

namespace CallEdits.Command

/-- The options. -/
inductive Opt
  | help
  | config
  | report
  | function
  | root
  | policy
  | separator
  | dryRun
  | backup
  | list
  | verbose
  deriving DecidableEq

/-- How options are spelled, in the order in which they are offered. -/
def spellings : List (String × Opt) := [
    ("-h", .help), ("--help", .help), ("--config", .config), ("--report", .report),
    ("--function", .function), ("--root", .root), ("--policy", .policy),
    ("--separator", .separator), ("--dry-run", .dryRun), ("--backup", .backup), ("--list", .list),
    ("-v", .verbose), ("--verbose", .verbose)]

namespace Opt

/-- Is the option followed by a value? -/
def takesValue : Opt → Bool
  | config | report | function | root | policy | separator => true
  | help | dryRun | backup | list | verbose => false

/-- The option with all its spellings, as complaints name it. -/
def title (o : Opt) : Text :=
  Text.join ['/'] ((spellings.filter fun entry => entry.2 = o).map fun entry => entry.1.toList)

/-- The option of a spelling. -/
def ofSpelling? (t : Text) : Option Opt :=
  (spellings.find? fun entry => entry.1.toList = t).map Prod.snd

end Opt

/-- **Why a command line is refused.** -/
inductive Refusal
  | ambiguous (word : Text) (matching : List Text)
  | noValue (option : Opt)
  | ignoredValue (option : Opt) (value : Text)
  | noChoice (option : Opt) (value : Text) (choices : List Text)
  | leftOver (words : List Text)
  deriving DecidableEq

/-- What is said when a command line is refused. -/
def Refusal.message : Refusal → Text
  | ambiguous word matching =>
    "ambiguous option: ".toList ++ word ++ " could match ".toList
      ++ Text.join ", ".toList matching
  | noValue option => "argument ".toList ++ option.title ++ ": expected one argument".toList
  | ignoredValue option value =>
    "argument ".toList ++ option.title ++ ": ignored explicit argument ".toList
      ++ Text.quoted value
  | noChoice option value choices =>
    "argument ".toList ++ option.title ++ ": invalid choice: ".toList ++ Text.quoted value
      ++ " (choose from ".toList ++ Text.join ", ".toList (choices.map Text.quoted) ++ [')']
  | leftOver words => "unrecognized arguments: ".toList ++ Text.join [' '] words

/-- How reading a command line ends early. -/
inductive Stop
  /-- Help was asked for. -/
  | help
  | refused (refusal : Refusal)
  deriving DecidableEq

/-! ## Words -/

/-- **What a word of the command line is.** -/
inductive Word
  | value (text : Text)
  /-- The word `--`, after which no word is an option. -/
  | divider
  /-- An option, and the value after its `=`. -/
  | option (option : Opt) (attached : Option Text)
  /-- A short option with more letters in the same word. -/
  | bundle (option : Opt) (letters : Text)
  /-- A word that looks like an option and is none. -/
  | unknown (text : Text)
  deriving DecidableEq

/-- The text before and after the first `=`. -/
def cutAtEquals (t : Text) : Text × Option Text :=
  let name := t.takeWhile (· ≠ '=')
  match t.drop name.length with
  | [] => (name, none)
  | _ :: value => (name, some value)

/-- Does a text begin with two dashes, as the long names of options do? -/
def isLong (t : Text) : Bool := t.take 2 = ['-', '-']

/-- The readings of a word that begins with two dashes: options whose name begins with it. -/
def longReadings (t : Text) : List (Text × Word) :=
  let (name, value) := cutAtEquals t
  spellings.filterMap fun (spelling, o) =>
    if name.isPrefixOf spelling.toList then some (spelling.toList, .option o value) else none

/-- The readings of a word that begins with one dash: a short option and the letters after it. -/
def shortReadings (t : Text) : List (Text × Word) :=
  spellings.filterMap fun (spelling, o) =>
    if spelling.toList = t.take 2 then some (spelling.toList, .bundle o (t.drop 2)) else none

/-- A negative number: digits after a dash, or some digits, a point and digits.  One line break may
follow. -/
def looksNegative (t : Text) : Bool :=
  match t with
  | '-' :: r =>
    let r := if r.getLast? = some '\n' then r.dropLast else r
    let whole := r.takeWhile Text.isDecimal
    match r.drop whole.length with
    | [] => !whole.isEmpty
    | '.' :: places => !places.isEmpty && places.all Text.isDecimal
    | _ => false
  | _ => false

/-- A word that starts with a dash and is no full spelling of an option. -/
def classifyPart (t : Text) : Except Refusal Word :=
  match if isLong t then longReadings t else shortReadings t with
  | [(_, word)] => .ok word
  | [] =>
    if looksNegative t || t.contains ' ' then .ok (.value t) else .ok (.unknown t)
  | readings => .error (.ambiguous t (readings.map Prod.fst))

/-- **What a word is**, before any divider. -/
def classify (t : Text) : Except Refusal Word :=
  if t.head? ≠ some '-' || t.length = 1 then .ok (.value t)
  else
    match Opt.ofSpelling? t with
    | some o => .ok (.option o none)
    | none =>
      match cutAtEquals t with
      | (name, some value) =>
        match Opt.ofSpelling? name with
        | some o => .ok (if isLong name then .option o (some value) else .bundle o value)
        | none => classifyPart t
      | (_, none) => classifyPart t

/-- All words; after a divider they are values. -/
def classifyAll : List Text → Except Refusal (List Word)
  | [] => .ok []
  | t :: rest =>
    if t = ['-', '-'] then .ok (.divider :: rest.map .value)
    else
      match classify t with
      | .error refusal => .error refusal
      | .ok word =>
        match classifyAll rest with
        | .error refusal => .error refusal
        | .ok words => .ok (word :: words)

/-! ## Flags -/

/-- **What an option is given.** -/
inductive Given
  | text (value : Text)
  /-- No value at all: a divider stands in its place. -/
  | nothing
  deriving DecidableEq

/-- What an option is given by the text after its `=`.  A divider there is taken away, as earlier
releases of the standard argument parser do; later ones hand it over like any other text. -/
def Given.ofAttached (t : Text) : Given := if t = ['-', '-'] then .nothing else .text t

/-- **What a command line asks for.** -/
structure Flags where
  config : Option Given := none
  report : Option Given := none
  function : Option Given := none
  root : Option Given := none
  policy : Option Given := none
  separator : Option Given := none
  dryRun : Bool := false
  backup : Bool := false
  list : Bool := false
  verbose : Bool := false
  deriving DecidableEq

/-- The policies to choose from. -/
def policyChoices : List Text := ["diagnostic".toList, "leading-argument".toList]

/-- Give an option its value.  A policy has to be one of the choices. -/
def Flags.set (f : Flags) (o : Opt) (given : Given) : Except Stop Flags :=
  match o, given with
  | .config, _ => .ok { f with config := some given }
  | .report, _ => .ok { f with report := some given }
  | .function, _ => .ok { f with function := some given }
  | .root, _ => .ok { f with root := some given }
  | .separator, _ => .ok { f with separator := some given }
  | .policy, .nothing => .ok { f with policy := some .nothing }
  | .policy, .text t =>
    if t ∈ policyChoices then .ok { f with policy := some (.text t) }
    else .error (.refused (.noChoice .policy t policyChoices))
  | _, _ => .ok f

/-- Turn on an option that takes no value. -/
def Flags.turnOn (f : Flags) (o : Opt) : Except Stop Flags :=
  match o with
  | .help => .error .help
  | .dryRun => .ok { f with dryRun := true }
  | .backup => .ok { f with backup := true }
  | .list => .ok { f with list := true }
  | .verbose => .ok { f with verbose := true }
  | _ => .ok f

/-- Turn on several options, one after the other. -/
def Flags.turnOnAll (f : Flags) : List Opt → Except Stop Flags
  | [] => .ok f
  | o :: rest =>
    match f.turnOn o with
    | .error stop => .error stop
    | .ok f => f.turnOnAll rest

/-- The options that are run together in one word: `o` and those of the letters after it.  Where a
letter is no option, the last option before it is given the rest of the word, and takes none. -/
def unbundle (o : Opt) : Text → Except Refusal (List Opt)
  | [] => .ok [o]
  | c :: r =>
    match Opt.ofSpelling? ['-', c] with
    | none => .error (.ignoredValue o (c :: r))
    | some next =>
      match unbundle next r with
      | .error refusal => .error refusal
      | .ok os => .ok (o :: os)

/-- **Take the words one after the other.**  `left` holds the words left over, newest first. -/
def consume (f : Flags) (left : List Text) : List Word → Except Stop (Flags × List Text)
  | [] => .ok (f, left.reverse)
  | .value t :: rest => consume f (t :: left) rest
  | .divider :: rest => consume f (['-', '-'] :: left) rest
  | .unknown t :: rest => consume f (t :: left) rest
  | .option o none :: rest =>
    if o.takesValue then
      match rest with
      | .value v :: rest =>
        match f.set o (.text v) with
        | .error stop => .error stop
        | .ok f => consume f left rest
      | _ => .error (.refused (.noValue o))
    else
      match f.turnOn o with
      | .error stop => .error stop
      | .ok f => consume f left rest
  | .option o (some value) :: rest =>
    if o.takesValue then
      match f.set o (.ofAttached value) with
      | .error stop => .error stop
      | .ok f => consume f left rest
    else .error (.refused (.ignoredValue o value))
  | .bundle o [] :: _ => .error (.refused (.ignoredValue o []))
  | .bundle o letters :: rest =>
    match unbundle o letters with
    | .error refusal => .error (.refused refusal)
    | .ok os =>
      match f.turnOnAll os with
      | .error stop => .error stop
      | .ok f => consume f left rest

/-- **The flags of a command line.** -/
def Flags.parse (words : List Text) : Except Stop Flags :=
  match classifyAll words with
  | .error refusal => .error (.refused refusal)
  | .ok words =>
    match consume {} [] words with
    | .error stop => .error stop
    | .ok (f, []) => .ok f
    | .ok (_, left) => .error (.refused (.leftOver left))

end CallEdits.Command
