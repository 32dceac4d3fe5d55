import MailFilter.Calendar.Timestamp
import MailFilter.Json.Decoder
import MailFilter.Message.Message

/-!
# Messages in JSON

A file of messages is an array of records. Fields may be missing or, where that makes sense,
`null`. The date is a timestamp in the lenient form.
-/

namespace MailFilter.Message

open Json (Reader RecordField)

/-- Reads a timestamp. -/
def readTimestamp : Reader Calendar.Instant := fun s =>
  match Json.string s with
  | .error e => .error e
  | .ok (text, s) =>
    match Calendar.Instant.ofLenientTimestamp? text.toList with
    | some t => .ok (t, s)
    | none => .error .mistyped

/-- A field that is read by itself and then put into the record. -/
def field {σ α : Type} (name : String) (read : Reader α) (put : σ → α → σ) : RecordField σ :=
  ⟨name, fun record s => (read s).map fun (a, s) => (put record a, s)⟩

/-- The fields of the status flags. -/
def flagFields : List (RecordField Flags) := [
  field "unread" Json.bool fun f b => { f with unread := b },
  field "new" Json.bool fun f b => { f with new := b },
  field "marked" Json.bool fun f b => { f with marked := b },
  field "deleted" Json.bool fun f b => { f with deleted := b },
  field "replied" Json.bool fun f b => { f with replied := b },
  field "forwarded" Json.bool fun f b => { f with forwarded := b },
  field "locked" Json.bool fun f b => { f with locked := b }]

/-- The fields of a message, in the order in which an array gives them. -/
def jsonFields : List (RecordField Message) := [
  field "subject" (Json.nullable Json.string) fun m t => { m with subject := t },
  field "from" (Json.nullable Json.string) fun m t => { m with sender := t },
  field "to" (Json.nullable Json.string) fun m t => { m with recipient := t },
  field "cc" (Json.nullable Json.string) fun m t => { m with cc := t },
  field "newsgroups" (Json.nullable Json.string) fun m t => { m with newsgroups := t },
  field "in_reply_to" (Json.nullable Json.string) fun m t => { m with inReplyTo := t },
  field "references" (Json.nullable Json.string) fun m t => { m with references := t },
  field "x_label" (Json.nullable Json.string) fun m t => { m with xLabel := t },
  field "message_id" (Json.nullable Json.string) fun m t => { m with messageId := t },
  field "headers" (Json.dictionary Json.string Headers.empty Headers.insert)
    fun m h => { m with headers := h },
  field "body" (Json.nullable Json.string) fun m t => { m with body := t },
  field "size" Json.uint64 fun m n => { m with size := n },
  field "score" Json.int64 fun m n => { m with score := n },
  field "date" (Json.nullable readTimestamp) fun m t => { m with date := t },
  field "flags" (Json.record flagFields {}) fun m f => { m with flags := f },
  field "file" (Json.nullable Json.string) fun m t => { m with file := t }]

/-- Reads a message. -/
def readJson : Reader Message := Json.record jsonFields {}

/-- The messages of a file. -/
def listOfJson (text : String) : Except Json.Fault (List Message) :=
  Json.document (Json.array readJson) text.toList

end MailFilter.Message
