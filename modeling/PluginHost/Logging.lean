import PluginHost.Journal
import PluginHost.Json.Printer
import PluginHost.Number.Reader
import PluginHost.Text.Basic

set_option autoImplicit false

namespace PluginHost

/-- The least level that is shown for targets that begin in some way; nothing is shown if there is
none. -/
structure Directive where
  target : String
  least : Option Level
deriving DecidableEq, Repr

/-- Why a text is no directive. -/
inductive DirectiveFault where
  | malformed
  | unknownLevel
deriving DecidableEq, Repr

def DirectiveFault.message : DirectiveFault → String
  | malformed => "invalid filter directive"
  | unknownLevel => "error parsing level filter: expected one of \"off\", \"error\", \"warn\", "
      ++ "\"info\", \"debug\", \"trace\", or a number 0-5"

namespace Directive

/-- Levels by their numbers. -/
def numbered : Nat → Option (Option Level)
  | 0 => some none
  | 1 => some (some .error)
  | 2 => some (some .warn)
  | 3 => some (some .info)
  | 4 => some (some .debug)
  | 5 => some (some .trace)
  | _ => none

/-- The level that a text names, in any case, or its number. -/
def level? (text : String) : Option (Option Level) :=
  match Number.readInt 0 5 text.toList with
  | some n => numbered n.toNat
  | none =>
    let name := text.toLower
    if name = "off" then some none
    else (Level.all.find? fun l => l.name.toLower = name).map some

/-- What a directive may begin with. -/
def beginsTarget (c : Char) : Bool :=
  c.isAlphanum || 128 ≤ c.toNat || c = '-' || c = ':' || c = '_'

/-- A directive that names spans, which no event here is in, says nothing. -/
def spans (chars : List Char) : Except DirectiveFault (Option Directive) :=
  if chars.contains ']' then .ok none else .error .malformed

/-- Reads a directive: a level, a target, or both with an equals sign. A target alone asks for
everything. -/
def read (text : String) : Except DirectiveFault (Option Directive) :=
  let chars := (Text.trim text).toList
  match chars with
  | [] => .error .malformed
  | first :: _ =>
    if first = '[' then spans chars
    else if !beginsTarget first then .error .malformed
    else
      let head := chars.takeWhile fun c => c ≠ '=' && c ≠ '['
      let word := String.ofList head
      match chars.drop head.length with
      | '=' :: [] => .ok (some ⟨word, some .trace⟩)
      | '=' :: level =>
        match level? (String.ofList level) with
        | some least => .ok (some ⟨word, least⟩)
        | none => .error .unknownLevel
      | _ :: rest => spans rest
      | [] =>
        match level? word with
        | some least => .ok (some ⟨"", least⟩)
        | none => .ok (some ⟨word, some .trace⟩)

end Directive

/-- Directives, each target once. -/
structure LogFilter where
  directives : List Directive
deriving DecidableEq, Repr

namespace LogFilter

/-- What holds where nothing is said. -/
def errorsOnly : LogFilter := ⟨[⟨"", some .error⟩]⟩

/-- Adds a directive; one for the same target is replaced. -/
def add (f : LogFilter) (d : Directive) : LogFilter :=
  ⟨f.directives.filter (fun old => old.target ≠ d.target) ++ [d]⟩

/-- The filter of some directives, some of which say nothing. -/
def ofDirectives (directives : List (Option Directive)) : LogFilter :=
  if directives.isEmpty then errorsOnly
  else (directives.filterMap id).foldl add ⟨[]⟩

/-- The parts of a filter's text. -/
def parts (text : String) : List String := (text.splitOn ",").filter fun part => !part.isEmpty

/-- A filter all of whose directives can be read. -/
def read? (text : String) : Option LogFilter :=
  match (parts text).mapM Directive.read with
  | .ok directives => some (ofDirectives directives)
  | .error _ => none

/-- The filter of those directives that can be read, and a complaint about each other one. -/
def readLoosely (text : String) : LogFilter × List String :=
  let results := (parts text).map fun part => (part, Directive.read part)
  let directives := results.filterMap fun r => r.2.toOption
  let complaints := results.filterMap fun r =>
    match r.2 with
    | .ok _ => none
    | .error fault => some ("ignoring `" ++ r.1 ++ "`: " ++ fault.message)
  (ofDirectives directives, complaints)

/-- The directive that counts for a target. -/
def directive? (f : LogFilter) (target : String) : Option Directive :=
  f.directives.foldl
    (fun best d =>
      if d.target.toList.isPrefixOf target.toList
          && best.all (fun (b : Directive) => b.target.length < d.target.length)
      then some d else best) none

/-- Whether an event is shown. -/
def shows (f : LogFilter) (e : Event) : Bool :=
  match (f.directive? e.target).bind Directive.least with
  | some least => least.rank ≤ e.level.rank
  | none => false

/-- The filter that the environment asks for, or else the one that is configured; complaints are
about the latter only. -/
def choose (asked : Option String) (configured : String) : LogFilter × List String :=
  match asked.bind read? with
  | some f => (f, [])
  | none => readLoosely configured

end LogFilter

def FieldValue.toJson : FieldValue → Json
  | .text value => .string value
  | .number value => .int value

namespace Event

/-- The fields by name. -/
def fieldMembers (e : Event) : Members Json :=
  Members.ofList (e.fields.map fun field => (field.1, field.2.toJson))

/-- One JSON object on a line. `time` and `thread` are left out if they are not given. -/
def jsonLine (e : Event) (time thread : Option String) : String :=
  let text (name : String) : Option String → String
    | some value => "\"" ++ name ++ "\":" ++ (Json.string value).render ++ ","
    | none => ""
  let fields := Json.object (e.fieldMembers.insert "message" (.string e.message))
  let last := match thread with
    | some id => ",\"threadId\":" ++ (Json.string id).render
    | none => ""
  "\x7b" ++ text "timestamp" time ++ text "level" (some e.level.name)
    ++ "\"fields\":" ++ fields.render ++ ",\"target\":" ++ (Json.string e.target).render ++ last ++ "\x7d"

/-- Time, level, target and message, and the fields behind them. -/
def prettyLine (e : Event) (time : String) : String :=
  e.fields.foldl (fun line field => line ++ ", " ++ field.1 ++ ": " ++ field.2.plain)
    ("  " ++ time ++ "  " ++ e.level.name ++ " " ++ e.target ++ ": " ++ e.message) ++ "\n"

end Event

end PluginHost
