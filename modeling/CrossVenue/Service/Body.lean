import CrossVenue.Json.Encoded
import CrossVenue.Json.Parts
import CrossVenue.Schema.Reader
import CrossVenue.Service.Reply

/-!
# Bodies of requests

A body is JSON that a reader checks; its issues are found under `body`.  A reply that lists issues also
shows the values that break the rules, and neither numbers that are not finite nor texts that are not
plain can be shown.
-/

set_option autoImplicit false

namespace CrossVenue

/-- The part of a value that a step leads to. -/
def Json.part? : Json → Place → Option Json
  | .arr items, .item i => items[i]?
  | v, .field name => v.field? name
  | _, _ => none

/-- The part of a value at the end of a path. -/
def Json.partAt? (v : Json) (path : List Place) : Option Json := path.foldlM Json.part? v

namespace Body

/-- Where issues of bodies are found. -/
def place : Place := .field "body"

/-- The value that an issue is about: what lacks a field, or what breaks another rule. -/
def culprit? (v : Json) (i : Issue) : Option Json :=
  v.partAt? (if i.rule = .missing then i.path.dropLast else i.path)

/-- Do all values that issues are about pass a test? -/
def allCulprits (test : Json → Bool) (v : Json) (issues : List Issue) : Bool :=
  issues.all fun i => (culprit? v i).all test

/-- The reply that lists issues of a value. -/
def refuse (v : Json) (issues : List Issue) : Attempt Reply :=
  if !allCulprits Json.isFinite v issues then breakDown .badText
  else if !allCulprits Json.isPlain v issues then breakDown .notPlain
  else .ok (.refused (issues.map (Issue.under place)))

/-- The reply that lists one broken rule of the body itself. -/
def refuseWhole (rule : Rule) : Attempt Reply := .ok (.refused [⟨rule, [place]⟩])

/-- Reads a value and hands it on. -/
def handleValue {α : Type} (r : Schema.Reader α) (next : α → Attempt Reply) (v : Json) :
    Attempt Reply :=
  match r v with
  | .accepted a => next a
  | .refused issues => refuse v issues

/-- Reads a body and hands it on. -/
def handle {α : Type} (room : Room) (body : Bytes) (r : Schema.Reader α) (next : α → Attempt Reply) :
    Attempt Reply :=
  if body.isEmpty then refuseWhole .missing
  else
    match Json.readBytes room body with
    | .ok v => handleValue r next v
    | .error (.notRead (.malformed ..)) => refuseWhole .jsonInvalid
    | .error _ => .ok .unreadable

end Body

end CrossVenue
