import AntennaBench.Storage.ValidateV3

/-!
# JSON texts

The compact and the pretty rendering `serde_json` gives a document, for documents
without floating point numbers, and the rendering of instants. A compact text is
one line.
-/

namespace AntennaBench

inductive JsonText where
  | null
  | bool (value : Bool)
  | nat (value : ℕ)
  | string (value : String)
  | array (items : List JsonText)
  | object (members : List (String × JsonText))

namespace JsonText

def decimal (n : ℕ) : Bytes :=
  (Nat.toDigits 10 n).map fun c => UInt8.ofNat c.toNat

def hexDigit (n : UInt8) : UInt8 :=
  if n < 10 then 48 + n else 87 + n

/-- One byte of a string: quotes, backslashes and control characters are escaped. -/
def escape (b : UInt8) : Bytes :=
  if 32 ≤ b.toNat then
    if b.toNat = 34 ∨ b.toNat = 92 then [92, b] else [b]
  else if b = 8 then [92, 98]
  else if b = 9 then [92, 116]
  else if b = 10 then [92, 110]
  else if b = 12 then [92, 102]
  else if b = 13 then [92, 114]
  else [92, 117, 48, 48, hexDigit (b / 16), hexDigit (b % 16)]

def quoted (value : String) : Bytes :=
  34 :: (stringBytes value).flatMap escape ++ [34]

mutual

/-- `serde_json::to_vec`. -/
def compact : JsonText → Bytes
  | null => stringBytes "null"
  | bool value => stringBytes (if value then "true" else "false")
  | nat value => decimal value
  | string value => quoted value
  | array items => 91 :: compactItems items
  | object members => 123 :: compactMembers members

def compactItems : List JsonText → Bytes
  | [] => [93]
  | [item] => item.compact ++ [93]
  | item :: rest => item.compact ++ 44 :: compactItems rest

def compactMembers : List (String × JsonText) → Bytes
  | [] => [125]
  | [(key, value)] => quoted key ++ 58 :: value.compact ++ [125]
  | (key, value) :: rest => quoted key ++ 58 :: value.compact ++ 44 :: compactMembers rest

end

/-- A new line at an indentation of two blanks a level. -/
def newLine (level : ℕ) : Bytes :=
  newline :: List.replicate (2 * level) 32

mutual

/-- `serde_json::to_vec_pretty`, at an indentation level. -/
def prettyAt (level : ℕ) : JsonText → Bytes
  | null => stringBytes "null"
  | bool value => stringBytes (if value then "true" else "false")
  | nat value => decimal value
  | string value => quoted value
  | array [] => [91, 93]
  | array (item :: rest) => 91 :: prettyItems level (item :: rest)
  | object [] => [123, 125]
  | object (member :: rest) => 123 :: prettyMembers level (member :: rest)

def prettyItems (level : ℕ) : List JsonText → Bytes
  | [] => newLine level ++ [93]
  | [item] => newLine (level + 1) ++ item.prettyAt (level + 1) ++ newLine level ++ [93]
  | item :: rest => newLine (level + 1) ++ item.prettyAt (level + 1) ++ 44 :: prettyItems level rest

def prettyMembers (level : ℕ) : List (String × JsonText) → Bytes
  | [] => newLine level ++ [125]
  | [(key, value)] =>
    newLine (level + 1) ++ quoted key ++ 58 :: 32 :: value.prettyAt (level + 1) ++
      newLine level ++ [125]
  | (key, value) :: rest =>
    newLine (level + 1) ++ quoted key ++ 58 :: 32 :: value.prettyAt (level + 1) ++
      44 :: prettyMembers level rest

end

def pretty (text : JsonText) : Bytes := text.prettyAt 0

/-- The text of a number; a float must be whole. -/
def numberChars : JsonNumber → List Char
  | .posInt value => Nat.toDigits 10 value
  | .negInt value => '-' :: Nat.toDigits 10 value.natAbs
  | .float (.finite value) =>
    (if value < 0 then ['-'] else []) ++ Nat.toDigits 10 value.num.natAbs ++ ['.', '0']
  | .float _ => []

def quotedChars (value : String) : List Char :=
  '\x22' :: value.toList.flatMap (fun c => if c = '\x22' ∨ c = '\x5c' then ['\x5c', c] else [c]) ++
    ['\x22']

mutual

/-- `serde_json::to_string` of a value without control characters. -/
def valueChars : JsonValue → List Char
  | .null => ['n', 'u', 'l', 'l']
  | .bool value => if value then ['t', 'r', 'u', 'e'] else ['f', 'a', 'l', 's', 'e']
  | .number value => numberChars value
  | .string value => quotedChars value
  | .array items => '[' :: itemsChars items
  | .object members => '{' :: membersChars members

def itemsChars : List JsonValue → List Char
  | [] => [']']
  | [item] => valueChars item ++ [']']
  | item :: rest => valueChars item ++ ',' :: itemsChars rest

def membersChars : List (String × JsonValue) → List Char
  | [] => ['}']
  | [(key, value)] => quotedChars key ++ ':' :: valueChars value ++ ['}']
  | (key, value) :: rest => quotedChars key ++ ':' :: valueChars value ++ ',' :: membersChars rest

end

def padded (width n : ℕ) : List Char :=
  let digits := Nat.toDigits 10 n
  List.replicate (width - digits.length) '0' ++ digits

/-- Year, month and day of a day counted from 1970-01-01. -/
def civilFromDays (days : ℤ) : ℤ × ℤ × ℤ :=
  let z := days + 719468
  let era := z / 146097
  let dayOfEra := z % 146097
  let yearOfEra := (dayOfEra - dayOfEra / 1460 + dayOfEra / 36524 - dayOfEra / 146096) / 365
  let dayOfYear := dayOfEra - (365 * yearOfEra + yearOfEra / 4 - yearOfEra / 100)
  let shifted := (5 * dayOfYear + 2) / 153
  let day := dayOfYear - (153 * shifted + 2) / 5 + 1
  let month := if shifted < 10 then shifted + 3 else shifted - 9
  (yearOfEra + era * 400 + if month ≤ 2 then 1 else 0, month, day)

/-- RFC 3339 to the second, for a year of four digits. -/
def rfc3339 (at_ : DateTime) : String :=
  let seconds := at_ / DateTime.nanosPerSecond
  let (year, month, day) := civilFromDays (seconds / 86400)
  let time := (seconds % 86400).toNat
  String.ofList (padded 4 year.toNat ++ '-' :: padded 2 month.toNat ++ '-' :: padded 2 day.toNat ++
    'T' :: padded 2 (time / 3600) ++ ':' :: padded 2 (time / 60 % 60) ++
    ':' :: padded 2 (time % 60) ++ ['Z'])

def instant (at_ : DateTime) : JsonText := .string (rfc3339 at_)

def optional (f : α → JsonText) : Option α → JsonText
  | some value => f value
  | none => .null

/-- A member that is skipped when there is no value. -/
def member? (key : String) (f : α → JsonText) : Option α → List (String × JsonText)
  | some value => [(key, f value)]
  | none => []

end JsonText

end AntennaBench
