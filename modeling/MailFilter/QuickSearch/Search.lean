import MailFilter.Matching.Matcher
import MailFilter.QuickSearch.Expansion
import MailFilter.Rule.Parser
import MailFilter.Rule.Printer

/-!
# Quick Search

A quick search looks for a text in one header, or reads its query as a rule with aliases. A query
that is blank or is no rule switches the search off, and then every message passes; so a query that
is still being typed shows everything.

## Main results

* `run_inactive`: a search that is switched off lets every message pass and runs nothing.
-/

namespace MailFilter.QuickSearch

open CommandTemplate (Fault)

/-- Where a quick search looks. -/
inductive Mode where
  | subject
  | sender
  | recipient
  | extended
deriving DecidableEq, Repr

namespace Mode

/-- The name of a mode. -/
def name : Mode → String
  | subject => "subject"
  | sender => "from"
  | recipient => "to"
  | extended => "extended"

/-- The mode of a name. -/
def ofName? : String → Option Mode
  | "subject" => some subject
  | "from" => some sender
  | "to" => some recipient
  | "extended" => some extended
  | _ => none

/-- A mode is found under its name. -/
theorem ofName?_name (m : Mode) : ofName? m.name = some m := by cases m <;> rfl

/-- Reads a mode, without regard to case and to blanks around it. -/
def read (text : String) : Except String Mode :=
  let name := Text.lowered (Text.trimmed text)
  match ofName? name with
  | some m => .ok m
  | none =>
    .error s!"unknown search mode '{name}' (expected subject, from, to or extended)"

end Mode

/-- What a search that is switched on asks of a message. -/
inductive Query where
  | contains (field : Field) (needle : String)
  | rule (matcher : Matcher)

/-- A quick search: its text as it was typed, its mode, and what it asks for, if it is on. -/
structure Search where
  raw : String
  mode : Mode
  query : Option Query

namespace Search

/-- Whether the search is switched on. -/
def isActive (s : Search) : Bool := s.query.isSome

/-- The rule that a query stands for. -/
def rule (query : String) : Except SyntaxError Rule :=
  match expand query with
  | .error e => .error e
  | .ok text => Rule.parse text

/-- Prepares a search. -/
def prepare (raw : String) (mode : Mode) : Search :=
  let text := Text.trimmed raw
  let query :=
    if text = "" then none
    else
      match mode with
      | .subject => some (.contains .subject text)
      | .sender => some (.contains .sender text)
      | .recipient => some (.contains .recipient text)
      | .extended =>
        match rule text with
        | .ok r => some (.rule (.ofRule r))
        | .error _ => none
  ⟨raw, mode, query⟩

/-- The rule of a search that has one, in its canonical text. -/
def ruleText? (s : Search) : Option String :=
  match s.mode, rule (Text.trimmed s.raw), s.query with
  | .extended, .ok r, some _ => some r.text
  | _, _, _ => none

/-- Whether a message passes the search. -/
def run (ctx : Context) (m : Message) (s : Search) (log : CallLog) :
    Except Fault (Bool × Search × CallLog) :=
  match s.query with
  | none => .ok (true, s, log)
  | some (.contains field needle) =>
    .ok ((m.texts field).any (Comparison.plain.occurs needle), s, log)
  | some (.rule matcher) =>
    match matcher.run ctx m log with
    | .error e => .error e
    | .ok (verdict, matcher, log) =>
      .ok (verdict, { s with query := some (.rule matcher) }, log)

/-- A search that is switched off lets every message pass and runs nothing. -/
theorem run_inactive {ctx : Context} {m : Message} {s : Search} {log : CallLog}
    (h : s.isActive = false) : s.run ctx m log = .ok (true, s, log) := by
  obtain ⟨raw, mode, query⟩ := s
  cases query with
  | none => rfl
  | some _ => cases h

/-- Whether messages pass the search, in order. -/
def runAll (ctx : Context) :
    List Message → Search → CallLog → Except Fault (List Bool × Search × CallLog)
  | [], s, log => .ok ([], s, log)
  | m :: rest, s, log =>
    match s.run ctx m log with
    | .error e => .error e
    | .ok (verdict, s, log) =>
      match runAll ctx rest s log with
      | .error e => .error e
      | .ok (verdicts, s, log) => .ok (verdict :: verdicts, s, log)

end Search

end MailFilter.QuickSearch
