/-
# Values of a document

What a JSON, YAML or TOML text denotes: numbers, texts, dates, sequences and mappings whose
entries stay in the order they were written.  JSON writes `null`, truth values, numbers, texts,
lists and mappings with text keys only; the rest comes from the other two.

Two texts belong to a value: `shown`, which is the value itself when it is a text, and `written`,
which puts texts in quotes and is used for what lies inside a list or a mapping.  The items of a set
have no order of their own, so the text of a set is one of several; `written` takes the order of the
document.
-/

import TypeFiles.Calendar
import TypeFiles.Decimal.Shortest
import TypeFiles.Text.Quoted

namespace TypeFiles

/-- A value of a document. -/
inductive Value where
  | null
  | bool (b : Bool)
  | int (n : Int)
  | float (x : Float)
  | text (s : String)
  | bytes (b : List UInt8)
  | date (d : Date)
  | time (t : TimeOfDay)
  | moment (m : Moment)
  | list (items : List Value)
  | tuple (items : List Value)
  | set (items : List Value)
  | mapping (entries : List (Value × Value))
  deriving Inhabited

namespace Value

/-- Whether a value counts as true: not null, not zero and not empty. -/
def isTruthy : Value → Bool
  | .null => false
  | .bool b => b
  | .int n => n != 0
  | .float x => x != 0
  | .text s => !s.isEmpty
  | .bytes b => !b.isEmpty
  | .date _ | .time _ | .moment _ => true
  | .list items | .tuple items | .set items => !items.isEmpty
  | .mapping entries => !entries.isEmpty

/-- The value under a text key of a mapping; a value that is no mapping has none. -/
def get? (v : Value) (key : String) : Option Value :=
  match v with
  | .mapping entries => (entries.find? fun (k, _) => match k with
      | .text s => s == key
      | _ => false).map (·.2)
  | _ => none

/-- Items with a separator between them. -/
def joined (separator : String) (items : List String) : String :=
  separator.intercalate items

/-- A date as a constructor call, for the inside of a list. -/
def writtenDate (d : Date) : String := s!"datetime.date({d.year}, {d.month}, {d.day})"

/-- The seconds and microseconds of a time as the last arguments of a call; zeros are left out. -/
def writtenSeconds (t : TimeOfDay) : String :=
  if t.microsecond = 0 then if t.second = 0 then "" else s!", {t.second}"
  else s!", {t.second}, {t.microsecond}"

/-- An offset from universal time as a constructor call. -/
def writtenOffset (seconds : Int) : String :=
  if seconds = 0 then "datetime.timezone.utc"
  else
    let days := seconds.fdiv 86400
    let rest := seconds.fmod 86400
    let dayPart := if days = 0 then "" else s!"days={days}, "
    s!"datetime.timezone(datetime.timedelta({dayPart}seconds={rest}))"

/-- A moment as a constructor call. -/
def writtenMoment (m : Moment) : String :=
  let zone := (m.offsetSeconds.map fun o => ", tzinfo=" ++ writtenOffset o).getD ""
  s!"datetime.datetime({m.date.year}, {m.date.month}, {m.date.day}, " ++
    s!"{m.time.hour}, {m.time.minute}" ++ writtenSeconds m.time ++ zone ++ ")"

mutual

/-- A value with its texts in quotes, the items of sets in the order of the document. -/
def written : Value → String
  | .null => "None"
  | .bool true => "True"
  | .bool false => "False"
  | .int n => toString n
  | .float x => Decimal.ofDouble x
  | .text s => Text.quoted s
  | .bytes b => Text.quotedBytes b
  | .date d => writtenDate d
  | .time t => s!"datetime.time({t.hour}, {t.minute}" ++ writtenSeconds t ++ ")"
  | .moment m => writtenMoment m
  | .list items => "[" ++ joined ", " (writtenAll items) ++ "]"
  | .tuple [item] => "(" ++ written item ++ ",)"
  | .tuple items => "(" ++ joined ", " (writtenAll items) ++ ")"
  | .set [] => "set()"
  | .set items => "\x7b" ++ joined ", " (writtenAll items) ++ "\x7d"
  | .mapping entries => "\x7b" ++ joined ", " (writtenEntries entries) ++ "\x7d"

/-- The items of a sequence, each written. -/
def writtenAll : List Value → List String
  | [] => []
  | v :: rest => written v :: writtenAll rest

/-- The entries of a mapping, each written as key, colon and value. -/
def writtenEntries : List (Value × Value) → List String
  | [] => []
  | (k, v) :: rest => (written k ++ ": " ++ written v) :: writtenEntries rest

end

/-- The text of a value: a text is its own, dates and times are shown in digits, anything else is
shown as it is written. -/
def shown : Value → String
  | .text s => s
  | .date d => d.text
  | .time t => t.text
  | .moment m => m.text
  | v => written v

/-- The least whole number with too many digits. -/
def leastTooLong : Nat := Decimal.tenTo Decimal.mostDigits

mutual

/-- Whether a value has a text: no whole number in it may have too many digits. -/
def hasText : Value → Bool
  | .int n => n.natAbs < leastTooLong
  | .list items | .tuple items | .set items => allHaveText items
  | .mapping entries => entriesHaveText entries
  | _ => true

/-- Whether all items of a sequence have texts. -/
def allHaveText : List Value → Bool
  | [] => true
  | v :: rest => hasText v && allHaveText rest

/-- Whether all keys and values of a mapping have texts. -/
def entriesHaveText : List (Value × Value) → Bool
  | [] => true
  | (k, v) :: rest => hasText k && hasText v && entriesHaveText rest

end

/-- The whole number that a value counts as, if it does; truth values count as `1` and `0`. -/
def whole? : Value → Option Int
  | .bool b => some (if b then 1 else 0)
  | .int n => some n
  | _ => none

/-- Whether two values are the same number, whatever their kinds.  What is not a number, `.nan`, is
one thing however often it is named. -/
def sameNumber : Value → Value → Bool
  | .float x, .float y => x == y || (x.isNaN && y.isNaN)
  | .float x, v | v, .float x => v.whole?.any (Decimal.isExactly x)
  | v, w => v.whole?.isSome && v.whole? == w.whole?

mutual

/-- Whether two values are the same key of a mapping: numbers are compared by size, moments by when
they are, and everything else part by part. -/
def sameKey : Value → Value → Bool
  | .null, .null => true
  | .text s, .text t => s == t
  | .bytes a, .bytes b => a == b
  | .date a, .date b => a == b
  | .time a, .time b => a == b
  | .moment a, .moment b => a.isSame b
  | .tuple a, .tuple b => sameKeys a b
  | a, b => sameNumber a b

/-- Whether two sequences agree item by item as keys. -/
def sameKeys : List Value → List Value → Bool
  | [], [] => true
  | a :: as, b :: bs => sameKey a b && sameKeys as bs
  | _, _ => false

end

/-- No other key is the same as a text. -/
theorem sameKey_text_iff {v : Value} {name : String} :
    sameKey v (.text name) = true ↔ v = .text name := by
  cases v <;> simp [sameKey, sameNumber, whole?]

/-- The entries of a mapping with one more: a key that is there keeps its place and takes the new
value, another one goes to the end. -/
def insertEntry (entries : List (Value × Value)) (key value : Value) : List (Value × Value) :=
  if entries.any fun (k, _) => sameKey k key then
    entries.map fun (k, v) => if sameKey k key then (k, value) else (k, v)
  else entries ++ [(key, value)]

/-- A mapping with text keys. -/
def ofFields (fields : List (String × Value)) : Value :=
  .mapping (fields.map fun (k, v) => (.text k, v))

end Value

end TypeFiles
