import CrossVenue.Encoding.Base64
import CrossVenue.Schema.Checked
import CrossVenue.Schema.Numeral

/-!
# Readers of untrusted values

Readers are lenient where no meaning is lost: an integer may come as text or as a whole
floating-point number, a truth value as one of a few words.  Only texts are texts.

* `text_eq_accepted_iff`, `listOf_eq_accepted_iff` : what these readers accept.
-/

set_option autoImplicit false

namespace CrossVenue.Schema

/-- A reader of untrusted values. -/
abbrev Reader (α : Type) := Json → Checked α

variable {α : Type}

/-- A text. -/
def text : Reader Text
  | .str s => .accepted s
  | _ => .refuse .stringType

/-- Does a signed word of 64 bits hold the integer? -/
def fits64 (n : Int) : Bool := -0x8000000000000000 ≤ n && n ≤ 0x7fffffffffffffff

/-- The characters of a plain text, handed on to a check. -/
def plainText (t : Text) (check : List Char → Checked α) : Checked α :=
  match t.chars? with
  | some cs => check cs
  | none => .refuse .stringUnicode

/-- The integer that a floating-point number is; the least word is not taken. -/
def wholeNumber (x : Binary64) : Checked Int :=
  match x.truncate? with
  | none => .refuse .finiteNumber
  | some n =>
    if !x.isInteger then .refuse .intFromFloat
    else if fits64 n && fits64 (-n) then .accepted n
    else .refuse .intParsingSize

/-- The integer that characters spell. -/
def integerText (cs : List Char) : Checked Int :=
  match readNumeral cs with
  | .ok n => .accepted n
  | .error .malformed => .refuse .intParsing
  | .error .oversized => .refuse .intParsingSize

/-- An integer, also as a truth value, a whole floating-point number or a numeral. -/
def integer : Reader Int
  | .int n => .accepted n
  | .bool b => .accepted (if b then 1 else 0)
  | .float x => wholeNumber x
  | .str s => plainText s integerText
  | _ => .refuse .intType

/-- An integer between two bounds; what is above breaks the given rule. -/
def between (lo hi : Int) (tooHigh : Rule) : Reader { n : Int // lo ≤ n ∧ n ≤ hi } := fun v =>
  (integer v).andThen fun n =>
    if h : hi < n then .refuse tooHigh
    else if h' : n < lo then .refuse .greaterThanEqual
    else .accepted ⟨n, by omega⟩

/-- A natural number up to a bound. -/
abbrev UpTo (hi : Nat) := { n : Nat // n ≤ hi }

/-- A natural number up to a bound; what is above breaks the given rule. -/
def upTo (hi : Nat) (tooHigh : Rule) : Reader (UpTo hi) := fun v =>
  (between 0 hi tooHigh v).map fun n => ⟨n.val.toNat, by have := n.property; omega⟩

/-- A natural number that is not below a bound. -/
abbrev AtLeast (lo : Nat) := { n : Nat // lo ≤ n }

/-- A natural number from a bound up. -/
def atLeast (lo : Nat) : Reader (AtLeast lo) := fun v =>
  (integer v).andThen fun n =>
    if h : n < lo then .refuse .greaterThanEqual else .accepted ⟨n.toNat, by omega⟩

/-- The words for false. -/
def falseWords : List String := ["0", "off", "f", "false", "n", "no"]

/-- The words for true. -/
def trueWords : List String := ["1", "on", "t", "true", "y", "yes"]

/-- The truth value of a word, in which ASCII capitals count as small letters. -/
def booleanText (cs : List Char) : Checked Bool :=
  let word := String.ofList (cs.map Char.toLower)
  if falseWords.contains word then .accepted false
  else if trueWords.contains word then .accepted true
  else .refuse .boolParsing

/-- The truth value of zero and one. -/
def zeroOrOne (n : Int) : Checked Bool :=
  if n = 0 then .accepted false
  else if n = 1 then .accepted true
  else if fits64 n then .refuse .boolParsing
  else .refuse .boolType

/-- A truth value, also as zero, one or a word. -/
def boolean : Reader Bool
  | .bool b => .accepted b
  | .int n => zeroOrOne n
  | .float x =>
    match wholeNumber x with
    | .accepted n => zeroOrOne n
    | .refused _ => .refuse .boolType
  | .str s => plainText s booleanText
  | _ => .refuse .boolType

/-- Bytes as base64 text. -/
def bytes : Reader Bytes
  | .str s =>
    match Base64.decode? s with
    | some bs => .accepted bs
    | none => .refuse .valueError
  | _ => .refuse .bytesType

/-- A text that names one of a few things. -/
def named (ofName? : Text → Option α) : Reader α
  | .str s =>
    plainText s fun _ =>
      match ofName? s with
      | some a => .accepted a
      | none => .refuse .enumeration
  | _ => .refuse .enumeration

/-- Null, or what the reader takes. -/
def nullable (r : Reader α) : Reader (Option α)
  | .null => .accepted none
  | v => (r v).map some

/-- The items of a list, each checked at its position. -/
def checkItems (r : Reader α) (items : List Json) : Checked (List α) :=
  .collect (items.mapIdx fun i v => (r v).under (.item i))

/-- A list of what the reader takes. -/
def listOf (r : Reader α) : Reader (List α)
  | .arr items => checkItems r items
  | _ => .refuse .listType

/-- An object whose every field is what the reader takes. -/
def tableOf (r : Reader α) : Reader (Table α)
  | .obj fields => .collect (fields.map fun p => ((r p.2).map fun a => (p.1, a)).under (.field p.1))
  | _ => .refuse .dictType

/-- The fields of an object; other values break the given rule. -/
def object (rule : Rule) : Reader Json.Fields
  | .obj fields => .accepted fields
  | _ => .refuse rule

/-- A field that has to be present. -/
def required (fields : Json.Fields) (name : Text) (r : Reader α) : Checked α :=
  match fields.lookup name with
  | some v => (r v).under (.field name)
  | none => .refused [⟨.missing, [.field name]⟩]

/-- A field with a value for when it is absent. -/
def defaulted (fields : Json.Fields) (name : Text) (value : α) (r : Reader α) : Checked α :=
  match fields.lookup name with
  | some v => (r v).under (.field name)
  | none => .accepted value

theorem text_eq_accepted_iff {v : Json} {s : Text} : text v = .accepted s ↔ v = .str s := by
  cases v <;> simp [text, Checked.refuse]

theorem listOf_eq_accepted_iff {r : Reader α} {v : Json} {as : List α} :
    listOf r v = .accepted as ↔
      ∃ items, v = .arr items ∧
        (items.mapIdx fun i w => (r w).under (.item i)) = as.map Checked.accepted := by
  cases v <;> simp [listOf, checkItems, Checked.refuse, Checked.collect_eq_accepted_iff]

end CrossVenue.Schema
