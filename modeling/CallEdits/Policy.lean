import CallEdits.Call.Site
import CallEdits.Failure

/-!
# Policy — what a call becomes

A policy turns a call into the text that replaces it, from the function's name to the closing
parenthesis.  The code that follows, usually a semicolon, stays.

* The *diagnostic* policy numbers the call in its first argument and puts a second statement after
  it, which receives the later arguments:

      set_error(BASE + 0, __FILE__, __LINE__, __func__, "bad %d", value);
      /* TO-DELETE */ printf(__func__, "bad %d", value);

* The *leading-argument* policy puts a numbered identifier in front of the arguments, and may give
  the function another name.
-/

namespace CallEdits

/-- **The diagnostic policy.** -/
structure Policy.Diagnostic where
  idExpression : Text := "BASE_ERROR_ID".toList
  idStart : Int := 0
  function : Text := "printf".toList
  marker : Text := "/* TO-DELETE */".toList
  /-- The first argument that the diagnostic receives, counted from the end if negative. -/
  passFrom : Int := 3
  deriving DecidableEq

/-- **The leading-argument policy.** -/
structure Policy.Leading where
  idStem : Text := "ERR_".toList
  idStart : Int := 0
  /-- The new name of the function; an empty one keeps the old name. -/
  renameTo : Option Text := none
  deriving DecidableEq

/-- **A way to replace calls.** -/
inductive Policy
  | diagnostic (policy : Policy.Diagnostic)
  | leading (policy : Policy.Leading)
  deriving DecidableEq

namespace Policy

/-- Arguments put one after the other. -/
def commaJoin (arguments : List Text) : Text := Text.join [',', ' '] arguments

/-- A function applied to arguments. -/
def application (function : Text) (arguments : List Text) : Text :=
  function ++ '(' :: commaJoin arguments ++ [')']

/-- The arguments from a place on; a negative place counts from the end. -/
def dropFrom (place : Int) (arguments : List Text) : List Text :=
  if 0 ≤ place then arguments.drop place.toNat
  else arguments.drop ((arguments.length : Int) + place).toNat

/-- The generated first argument of the diagnostic policy, once its number is written. -/
def Diagnostic.firstArgument (p : Diagnostic) (number : Text) : Text :=
  p.idExpression ++ [' ', '+', ' '] ++ number

/-- The statement that follows the call. -/
def Diagnostic.statement (p : Diagnostic) (site : Call.Site) : Text :=
  (if p.marker.isEmpty then [] else p.marker ++ [' '])
    ++ application p.function (dropFrom p.passFrom site.arguments)

/-- **The diagnostic replacement.**  A call without arguments for the diagnostic is refused. -/
def Diagnostic.apply (p : Diagnostic) (site : Call.Site) : Except Failure Text :=
  if (site.arguments.length : Int) ≤ p.passFrom then
    .error (.ofFault (.call
      (.fewArguments site.path site.line site.function site.arguments.length p.passFrom) none none))
  else
    match Numeral.write (p.idStart + site.index) with
    | .error fault => .error (.numeral fault)
    | .ok number =>
      .ok (application site.function (p.firstArgument number :: site.arguments.drop 1) ++ [';']
        ++ site.newline ++ site.indent ++ p.statement site)

/-- The name of the function in a leading-argument replacement. -/
def Leading.name (p : Leading) (function : Text) : Text :=
  match p.renameTo with
  | none => function
  | some [] => function
  | some name => name

/-- **The leading-argument replacement.** -/
def Leading.apply (p : Leading) (site : Call.Site) : Except Failure Text :=
  match Numeral.write (p.idStart + site.index) with
  | .error fault => .error (.numeral fault)
  | .ok number => .ok (application (p.name site.function) ((p.idStem ++ number) :: site.arguments))

/-- **What a call becomes.** -/
def apply : Policy → Call.Site → Except Failure Text
  | diagnostic p, site => p.apply site
  | leading p, site => p.apply site

end Policy

end CallEdits
