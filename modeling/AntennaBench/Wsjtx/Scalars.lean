import AntennaBench.Core.Ieee
import AntennaBench.Core.Model

/-!
# Numbers and identifiers in provider text

What the WSPR adapters read out of a JSON value: the integer and float readings
of `serde_json` and of `str::parse`, and the normal forms of call signs and grid
locators.
-/

namespace AntennaBench

def isAsciiDigit (c : Char) : Bool := '0' ≤ c && c ≤ '9'

def digitsValue (digits : List Char) : ℕ :=
  digits.foldl (fun value c => value * 10 + (c.toNat - '0'.toNat)) 0

def parseDigits (digits : List Char) : Option ℕ :=
  if !digits.isEmpty && digits.all isAsciiDigit then some (digitsValue digits) else none

/-- `str::parse::<u64>`. -/
def parseU64 (text : String) : Option ℕ :=
  let value := match text.toList with
    | '+' :: digits => parseDigits digits
    | digits => parseDigits digits
  value.filter (· < 2 ^ 64)

/-- `str::parse::<i64>`. -/
def parseI64 (text : String) : Option ℤ :=
  let value := match text.toList with
    | '-' :: digits => (parseDigits digits).map fun value => -(value : ℤ)
    | '+' :: digits => (parseDigits digits).map fun value => (value : ℤ)
    | digits => (parseDigits digits).map fun value => (value : ℤ)
  value.filter fun value => -2 ^ 63 ≤ value && value < 2 ^ 63

/-- The exponent part of a decimal: nothing, or `e` with an optional sign and digits. -/
def parseExponent : List Char → Option ℤ
  | [] => some 0
  | e :: rest =>
    if asciiLowerChar e != 'e' then none
    else match rest with
      | '-' :: digits => (parseDigits digits).map fun value => -(value : ℤ)
      | '+' :: digits => (parseDigits digits).map fun value => (value : ℤ)
      | digits => (parseDigits digits).map fun value => (value : ℤ)

/-- The unsigned decimals `f64::from_str` reads, exactly. -/
def parseDecimal (text : List Char) : Option ℚ :=
  let whole := text.takeWhile isAsciiDigit
  let afterWhole := text.dropWhile isAsciiDigit
  let pointed := afterWhole.head? == some '.'
  let tail := if pointed then afterWhole.drop 1 else afterWhole
  let fraction := if pointed then tail.takeWhile isAsciiDigit else []
  let exponent := parseExponent (if pointed then tail.dropWhile isAsciiDigit else tail)
  if whole.isEmpty && fraction.isEmpty then none
  else exponent.map fun (exponent : ℤ) =>
    (digitsValue (whole ++ fraction) : ℚ) * 10 ^ (exponent - (fraction.length : ℤ))

def parseUnsignedF64 (negative : Bool) (text : List Char) : Option IeeeFloat :=
  let lower := text.map asciiLowerChar
  if lower == ['i', 'n', 'f'] || lower == ['i', 'n', 'f', 'i', 'n', 'i', 't', 'y'] then
    some (.infinite negative)
  else if lower == ['n', 'a', 'n'] then some .nan
  else (parseDecimal text).map fun value =>
    IeeeFormat.f64.round negative (if negative then -value else value)

/-- `str::parse::<f64>`. -/
def parseF64 (text : String) : Option IeeeFloat :=
  match text.toList with
  | '-' :: rest => parseUnsignedF64 true rest
  | '+' :: rest => parseUnsignedF64 false rest
  | rest => parseUnsignedF64 false rest

namespace JsonValue

def asU64? : JsonValue → Option ℕ
  | number (.posInt value) => some value
  | _ => none

def asI64? : JsonValue → Option ℤ
  | number (.posInt value) => if value < 2 ^ 63 then some value else none
  | number (.negInt value) => some value
  | _ => none

def asF64? : JsonValue → Option IeeeFloat
  | number (.posInt value) => some (IeeeFormat.f64.round false value)
  | number (.negInt value) => some (IeeeFormat.f64.round true value)
  | number (.float value) => some value
  | _ => none

def asArray? : JsonValue → Option (List JsonValue)
  | array items => some items
  | _ => none

def isObject : JsonValue → Bool
  | object _ => true
  | _ => false

end JsonValue

/-- `unsigned`: a JSON integer, or text that parses as one. -/
def jsonUnsigned (value : JsonValue) : Option ℕ :=
  value.asU64? <|> value.asStr?.bind parseU64

/-- `integer`. -/
def jsonInteger (value : JsonValue) : Option ℤ :=
  value.asI64? <|> value.asStr?.bind parseI64

/-- `number`. -/
def jsonNumber (value : JsonValue) : Option IeeeFloat :=
  value.asF64? <|> value.asStr?.bind parseF64

/-- `i16::try_from`. -/
def toI16? (value : ℤ) : Option ℤ :=
  if -2 ^ 15 ≤ value ∧ value < 2 ^ 15 then some value else none

def isAsciiUppercase (c : Char) : Bool := 'A' ≤ c && c ≤ 'Z'

def isAsciiAlphabetic (c : Char) : Bool :=
  isAsciiUppercase c || ('a' ≤ c && c ≤ 'z')

def isAsciiAlphanumeric (c : Char) : Bool := isAsciiAlphabetic c || isAsciiDigit c

def normalizeWsprCallsign (value : String) : Option String :=
  let callsign := toAsciiUppercase value
  let chars := callsign.toList
  let validLength := 3 ≤ callsign.utf8ByteSize && callsign.utf8ByteSize ≤ 12
  let validChars := chars.all isAsciiAlphanumeric
  let hasLetter := chars.any isAsciiAlphabetic
  let hasDigit := chars.any isAsciiDigit
  if validLength && validChars && hasLetter && hasDigit then some callsign else none

def normalizeWsprReporterId (value : String) : Option String :=
  let reporterId := toAsciiUppercase value
  let chars := reporterId.toList
  let validLength := 3 ≤ reporterId.utf8ByteSize && reporterId.utf8ByteSize ≤ 12
  let validChars := chars.all fun c => isAsciiAlphanumeric c || c == '-' || c == '/'
  let hasLetter := chars.any isAsciiAlphabetic
  if validLength && validChars && hasLetter then some reporterId else none

def isGridField (c : Char) : Bool := 'A' ≤ c && c ≤ 'R'

def isGridSubsquare (c : Char) : Bool := 'A' ≤ c && c ≤ 'X'

def normalizeMaidenheadGrid (value : String) : Option String :=
  let grid := toAsciiUppercase value
  match grid.toList with
  | [a, b, c, d] =>
    if isGridField a && isGridField b && isAsciiDigit c && isAsciiDigit d then some grid else none
  | [a, b, c, d, e, f] =>
    if isGridField a && isGridField b && isAsciiDigit c && isAsciiDigit d &&
        isGridSubsquare e && isGridSubsquare f then some grid
    else none
  | _ => none

def bandFromFrequencyHz (frequencyHz : ℕ) : Option Band :=
  if 1800000 ≤ frequencyHz ∧ frequencyHz ≤ 2000000 then some .m160
  else if 3500000 ≤ frequencyHz ∧ frequencyHz ≤ 4000000 then some .m80
  else if 5000000 ≤ frequencyHz ∧ frequencyHz ≤ 5500000 then some .m60
  else if 7000000 ≤ frequencyHz ∧ frequencyHz ≤ 7300000 then some .m40
  else if 10100000 ≤ frequencyHz ∧ frequencyHz ≤ 10150000 then some .m30
  else if 14000000 ≤ frequencyHz ∧ frequencyHz ≤ 14350000 then some .m20
  else if 18068000 ≤ frequencyHz ∧ frequencyHz ≤ 18168000 then some .m17
  else if 21000000 ≤ frequencyHz ∧ frequencyHz ≤ 21450000 then some .m15
  else if 24890000 ≤ frequencyHz ∧ frequencyHz ≤ 24990000 then some .m12
  else if 28000000 ≤ frequencyHz ∧ frequencyHz ≤ 29700000 then some .m10
  else if 50000000 ≤ frequencyHz ∧ frequencyHz ≤ 54000000 then some .m6
  else if 144000000 ≤ frequencyHz ∧ frequencyHz ≤ 148000000 then some .m2
  else none

/-- The name a band has in the JSON files. -/
def Band.jsonName : Band → String
  | .m160 => "160m"
  | .m80 => "80m"
  | .m60 => "60m"
  | .m40 => "40m"
  | .m30 => "30m"
  | .m20 => "20m"
  | .m17 => "17m"
  | .m15 => "15m"
  | .m12 => "12m"
  | .m10 => "10m"
  | .m6 => "6m"
  | .m2 => "2m"

end AntennaBench
