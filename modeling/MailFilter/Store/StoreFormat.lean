import MailFilter.Store.RuleStore
import MailFilter.Toml.Document
import MailFilter.Toml.Printer

/-!
# The Document of the Rule Store

Stored rules are written as a TOML document with one table `rule` for each of them. Reading takes
any document whose `rule` is a list of such tables; keys that are not known are left alone, and a
description and a count of uses may be missing.
-/

namespace MailFilter

open Calendar (Instant)

/-- How stored rules are written to a file and read from it. -/
structure StoreFormat where
  render : RuleStore → String
  read? : String → Option RuleStore

namespace StoreFormat

open Toml (Entries Row Scalar Value)

/-! ### Writing -/

/-- The lines of one rule. -/
def row (r : StoredRule) : Row :=
  [("name", .text r.name), ("description", .text r.description),
    ("created", .text r.created.timestamp), ("last_used", .text r.lastUsed.timestamp),
    ("use_count", .integer (Int64.ofNat r.useCount.toNat)), ("rule", .text r.rule)]

/-- The document of the rules. -/
def renderToml (s : RuleStore) : String := String.ofList (Toml.writeRows "rule" (s.map row))

/-! ### Reading -/

/-- A text. -/
def text? : Value → Option String
  | .scalar (.text t) => some t
  | _ => none

/-- An instant, written as a text. -/
def instant? (v : Value) : Option Instant :=
  (text? v).bind fun t => Instant.ofLenientTimestamp? t.toList

/-- A count of uses. -/
def count? : Value → Option UInt32
  | .scalar (.integer n) =>
    if 0 ≤ n.toInt ∧ n.toInt < UInt32.size then some (UInt32.ofNat n.toInt.toNat) else none
  | _ => none

/-- A value that may be missing. -/
def orMissing {α : Type} (read? : Value → Option α) (default : α) : Option Value → Option α
  | some v => read? v
  | none => some default

/-- A stored rule from the values of its fields, where `field` finds them. -/
def rule? (field : Nat → String → Option Value) : Option StoredRule := do
  let name ← (field 0 "name").bind text?
  let description ← orMissing text? "" (field 1 "description")
  let created ← (field 2 "created").bind instant?
  let lastUsed ← (field 3 "last_used").bind instant?
  let useCount ← orMissing count? 0 (field 4 "use_count")
  let rule ← (field 5 "rule").bind text?
  return ⟨name, description, created, lastUsed, useCount, rule⟩

/-- Reads one rule: a table with its fields, or a list of them in order. -/
def readRule? : Value → Option StoredRule
  | .table _ entries => rule? fun _ key => entries.lookup key
  | .list items => rule? fun place _ => items[place]?
  | _ => none

/-- Reads the rules of a document. -/
def readRows? : Option Value → Option RuleStore
  | none => some []
  | some (.tables rows) => rows.mapM fun entries => readRule? (.table .header entries)
  | some (.list items) => items.mapM readRule?
  | some _ => none

/-- Reads a document. -/
def readToml? (text : String) : Option RuleStore :=
  (Toml.read? text).bind fun entries => readRows? (entries.lookup "rule")

/-- The format of the file of rules. -/
def toml : StoreFormat := ⟨renderToml, readToml?⟩

end StoreFormat

end MailFilter
