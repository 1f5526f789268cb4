import CallEdits.Location
import CallEdits.Path

/-!
# Event — the log of a run

Every step that reads, changes or skips something leaves an event.  Events of level `debug` are
shown on request only.
-/

namespace CallEdits

/-- How much an event matters. -/
inductive Level
  | debug
  | info
  | error
  deriving DecidableEq

/-- **What happened.** -/
inductive Event
  | reportLoad (path : Path)
  | reportParsed (sites files : Nat)
  | skip (site : Location)
  | begin (site : Location) (shift target : Int)
  | replaced (site : Location) (arguments : Nat) (delta : Int)
  | finished (calls : Nat)
  | load (target : Path)
  | loadOverlay (path : Text)
  | write (target : Path)
  | writeOverlay (path : Text)
  | backup (target : Path)
  | invalidSettings (detail : Option Text)
  | aborted (message : Text)
  | done (files : Nat)
  deriving DecidableEq

/-- The name of a level in the log. -/
def Level.name : Level → Text
  | debug => "DEBUG".toList
  | info => "INFO".toList
  | error => "ERROR".toList

namespace Event

/-- The level of an event: single loads and writes are details. -/
def level : Event → Level
  | load _ | loadOverlay _ | write _ | writeOverlay _ => .debug
  | invalidSettings _ | aborted _ => .error
  | _ => .info

/-- What the log says about an event. -/
def message : Event → Text
  | reportLoad path => "REPORT_LOAD: ".toList ++ path.text
  | reportParsed sites files =>
    "REPORT_PARSED: ".toList ++ Numeral.ofNat sites ++ " call site(s) in ".toList
      ++ Numeral.ofNat files ++ " file(s)".toList
  | skip site => "REWRITE_SKIP: ".toList ++ site.render ++ " (declaration file)".toList
  | begin site shift target =>
    "REWRITE_BEGIN: ".toList ++ site.render ++ " (".toList ++ Numeral.signed shift
      ++ ") -> ".toList ++ Numeral.ofInt target
  | replaced site arguments delta =>
    "REWRITE_OK: ".toList ++ site.render ++ " args=".toList ++ Numeral.ofNat arguments
      ++ " lines".toList ++ Numeral.signed delta
  | finished calls =>
    "REWRITE_DONE: ".toList ++ Numeral.ofNat calls ++ " call(s) rewritten".toList
  | load target => "LOAD: ".toList ++ target.text
  | loadOverlay path => "LOAD (overlay): ".toList ++ path
  | write target => "WRITE: ".toList ++ target.text
  | writeOverlay path => "WRITE (dry run): ".toList ++ path
  | backup target => "BACKUP: ".toList ++ target.text
  | invalidSettings none => "Invalid configuration:".toList
  | invalidSettings (some detail) => "Invalid configuration: ".toList ++ detail
  | aborted text => "Refactoring aborted: ".toList ++ text
  | done files => "Done. Changed ".toList ++ Numeral.ofNat files ++ " file(s).".toList

/-- Is the event shown? -/
def isShown (verbose : Bool) (e : Event) : Bool := verbose || e.level ≠ .debug

/-- The event as text: its level and its message. -/
def text (e : Event) : Text := e.level.name ++ ": ".toList ++ e.message

end Event

end CallEdits
