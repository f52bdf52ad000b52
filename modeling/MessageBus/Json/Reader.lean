import MessageBus.Json.Description
import MessageBus.Text.Hex

/-! Reading JSON data from octets. A reader takes its part off the front and hands on the rest. A
fault carries how many octets lie behind it, so its place in the text follows from the length.

An object may also hold its value as a text: when its first key is the marker of such texts, then
the string under it is read as a text of its own, and what that gives stands for the object. -/
namespace MessageBus.Json

/-- What is wrong with a text. -/
inductive Fault where
  | endInValue
  | endInString
  | endInList
  | endInObject
  | expectedValue
  | expectedIdent
  | invalidNumber
  | numberOutOfRange
  | invalidEscape
  | endOfHexEscape
  | loneSurrogate
  | controlCharacter
  | invalidCodePoint
  | keyNotString
  | expectedColon
  | expectedListEnd
  | expectedObjectEnd
  | trailingComma
  | trailingCharacters
  | tooDeep
  /-- Data where a text that holds a value is expected. -/
  | notText (found : String)
  deriving DecidableEq, Repr

def Fault.message : Fault → String
  | endInValue => "EOF while parsing a value"
  | endInString => "EOF while parsing a string"
  | endInList => "EOF while parsing a list"
  | endInObject => "EOF while parsing an object"
  | expectedValue => "expected value"
  | expectedIdent => "expected ident"
  | invalidNumber => "invalid number"
  | numberOutOfRange => "number out of range"
  | invalidEscape => "invalid escape"
  | endOfHexEscape => "unexpected end of hex escape"
  | loneSurrogate => "lone leading surrogate in hex escape"
  | controlCharacter => "control character (\\u0000-\\u001F) found while parsing a string"
  | invalidCodePoint => "invalid unicode code point"
  | keyNotString => "key must be a string"
  | expectedColon => "expected `:`"
  | expectedListEnd => "expected `,` or `]`"
  | expectedObjectEnd => "expected `,` or `\x7d`"
  | trailingComma => "trailing comma"
  | trailingCharacters => "trailing characters"
  | tooDeep => "recursion limit exceeded"
  | notText found => s!"invalid type: {found}, expected raw value"

/-- A fault with its place: the line, and the octets of the line consumed before it was seen. -/
structure ReadError where
  fault : Fault
  line : Nat
  column : Nat
  deriving DecidableEq, Repr

def ReadError.message (e : ReadError) : String :=
  s!"{e.fault.message} at line {e.line} column {e.column}"

/-- Where the reading of a text stops. -/
inductive Stop where
  /-- At a fault with so many octets of the text behind it. -/
  | here (fault : Fault) (left : Nat)
  /-- At an error of a text inside the text, which has its place in that one. -/
  | inner (error : ReadError)

abbrev Reader (α : Type) := Bytes → Except Stop (α × Bytes)

/-- A fault seen after the octets that were consumed. -/
def fail {α : Type} (fault : Fault) (left : Bytes) : Except Stop α :=
  .error (.here fault left.length)

/-- A fault of the next octet, which counts as consumed. -/
def failAt {α : Type} (fault : Fault) (rest : Bytes) : Except Stop α :=
  fail fault rest.tail

/-- The octet of an ASCII character. -/
def octet (c : Char) : UInt8 := c.toNat.toUInt8

def isDigit (b : UInt8) : Bool := octet '0' ≤ b && b ≤ octet '9'

def digitOf (b : UInt8) : Nat := b.toNat - 48

def isSpace (b : UInt8) : Bool :=
  b == octet ' ' || b == octet '\n' || b == octet '\t' || b == octet '\r'

def skipSpace (b : Bytes) : Bytes := b.dropWhile isSpace

/-- The rest of a word such as `null`, of which the first octet is consumed. -/
def readWord : List Char → Json → Reader Json
  | [], value, rest => .ok (value, rest)
  | _ :: _, _, [] => fail .endInValue []
  | c :: cs, value, b :: rest =>
    if b = octet c then readWord cs value rest else fail .expectedIdent rest

/-! Numbers. -/

/-- A significand of at most 64 bits and a power of ten, rounded in one step where the power is at
most the 308th, else in steps of that power. -/
def scaled (significand : Nat) (exponent : Int) : Option Float :=
  let rec go (fuel : Nat) (x : Float) (e : Int) : Option Float :=
    match fuel with
    | 0 => some x
    | fuel + 1 =>
      if e.natAbs ≤ 308 then
        if 0 ≤ e then
          let y := x * Float.ofScientific 1 false e.natAbs
          if y.isInf then none else some y
        else some (x / Float.ofScientific 1 false e.natAbs)
      else if x == 0 then some x
      else if 0 ≤ e then none
      else go fuel (x / Float.ofScientific 1 false 308) (e + 308)
  go 10 (Number.nearestFloat significand) exponent

def doubleOf (negative : Bool) (significand : Nat) (exponent : Int) (rest : Bytes) :
    Except Stop (JsonNumber × Bytes) :=
  match scaled significand exponent with
  | some x => .ok (.double (.ofFloat (if negative then -x else x)), rest)
  | none => fail .numberOutOfRange rest

/-- The digits of an exponent; `value` holds those before. A number that cannot be held in 31 bits
makes the result zero or too large at once. -/
def readExponentDigits (negative down : Bool) (significand : Nat) (exponent : Int) :
    Nat → Reader JsonNumber
  | value, [] => finish value []
  | value, b :: rest =>
    if isDigit b then
      let next := 10 * value + digitOf b
      if next < 2_147_483_648 then readExponentDigits negative down significand exponent next rest
      else if significand = 0 ∨ down then
        .ok (.double (.ofFloat (if negative then -0.0 else 0.0)), rest.dropWhile isDigit)
      else fail .numberOutOfRange rest
    else finish value (b :: rest)
where
  finish (value : Nat) (rest : Bytes) : Except Stop (JsonNumber × Bytes) :=
    doubleOf negative significand (if down then exponent - value else exponent + value) rest

/-- The part of a number after its `e`. -/
def readExponent (negative : Bool) (significand : Nat) (exponent : Int) : Reader JsonNumber :=
  fun b =>
    let (down, b) := match b with
      | s :: rest =>
        if s = octet '+' then (false, rest) else if s = octet '-' then (true, rest) else (false, b)
      | [] => (false, b)
    match b with
    | [] => fail .endInValue []
    | d :: rest =>
      if isDigit d then readExponentDigits negative down significand exponent (digitOf d) rest
      else fail .invalidNumber rest

/-- What follows the digits of a floating point number. -/
def readTail (negative : Bool) (significand : Nat) (exponent : Int) : Reader JsonNumber
  | [] => doubleOf negative significand exponent []
  | b :: rest =>
    if b = octet 'e' ∨ b = octet 'E' then readExponent negative significand exponent rest
    else doubleOf negative significand exponent (b :: rest)

/-- The digits after a point, `count` of which are read. Digits that the significand has no room for
are passed over. -/
def readFraction (negative : Bool) (exponent : Int) : Nat → Nat → Reader JsonNumber
  | significand, count, [] =>
    if count = 0 then fail .endInValue [] else doubleOf negative significand (exponent - count) []
  | significand, count, b :: rest =>
    if isDigit b then
      let next := 10 * significand + digitOf b
      if next < UInt64.size then readFraction negative exponent next (count + 1) rest
      else readTail negative significand (exponent - count) (rest.dropWhile isDigit)
    else if count = 0 then failAt .invalidNumber (b :: rest)
    else readTail negative significand (exponent - count) (b :: rest)

/-- A whole number, unless a point or an exponent follows or it does not fit. -/
def readAfterDigits (negative : Bool) (significand : Nat) : Reader JsonNumber
  | b :: rest =>
    if b = octet '.' then readFraction negative 0 significand 0 rest
    else if b = octet 'e' ∨ b = octet 'E' then readExponent negative significand 0 rest
    else .ok (whole, b :: rest)
  | [] => .ok (whole, [])
where
  whole : JsonNumber :=
    if !negative then .int significand
    else if 0 < significand ∧ significand ≤ 9_223_372_036_854_775_808 then .int (-significand)
    else .double (.ofFloat (-(Number.nearestFloat significand)))

/-- Digits that the significand has no room for; `extra` of them are passed over. -/
def readLongInteger (negative : Bool) (significand : Nat) : Nat → Reader JsonNumber
  | extra, [] => doubleOf negative significand extra []
  | extra, b :: rest =>
    if isDigit b then readLongInteger negative significand (extra + 1) rest
    else if b = octet '.' then readFraction negative extra significand 0 rest
    else if b = octet 'e' ∨ b = octet 'E' then readExponent negative significand extra rest
    else doubleOf negative significand extra (b :: rest)

def readDigits (negative : Bool) : Nat → Reader JsonNumber
  | significand, [] => readAfterDigits negative significand []
  | significand, b :: rest =>
    if isDigit b then
      let next := 10 * significand + digitOf b
      if next < UInt64.size then readDigits negative next rest
      else readLongInteger negative significand 0 (b :: rest)
    else readAfterDigits negative significand (b :: rest)

/-- A number without its sign. A leading zero stands alone. -/
def readNumber (negative : Bool) : Reader JsonNumber
  | [] => fail .endInValue []
  | b :: rest =>
    if b = octet '0' then
      match rest with
      | d :: _ =>
        if isDigit d then failAt .invalidNumber rest else readAfterDigits negative 0 rest
      | [] => readAfterDigits negative 0 rest
    else if isDigit b then readDigits negative (digitOf b) rest
    else fail .invalidNumber rest

/-! Strings. -/

/-- Four digits in base sixteen. -/
def readHex : Reader Nat
  | a :: b :: c :: d :: rest =>
    match valueOf? a, valueOf? b, valueOf? c, valueOf? d with
    | some a, some b, some c, some d => .ok (((a * 16 + b) * 16 + c) * 16 + d, rest)
    | _, _, _, _ => fail .invalidEscape rest
  | _ => fail .endInString []
where
  valueOf? (b : UInt8) : Option Nat := Text.hexValue? (Char.ofUInt8 b)

/-- The backslash and the `u` before the second half of a pair of surrogates. -/
def readPairMark : Reader Unit
  | [] => fail .endInString []
  | b :: rest =>
    if b ≠ octet '\\' then fail .endOfHexEscape rest
    else match rest with
      | [] => fail .endInString []
      | u :: rest => if u = octet 'u' then .ok ((), rest) else fail .endOfHexEscape rest

/-- The character of a `\u` escape. Characters beyond 16 bits are given by a pair of surrogates. -/
def readUnicode (b : Bytes) : Except Stop (Char × Bytes) := do
  let (n, rest) ← readHex b
  if 0xDC00 ≤ n ∧ n ≤ 0xDFFF then fail .loneSurrogate rest
  else if n < 0xD800 ∨ 0xDBFF < n then .ok (Char.ofNat n, rest)
  else
    let (_, rest) ← readPairMark rest
    let (m, rest) ← readHex rest
    if m < 0xDC00 ∨ 0xDFFF < m then fail .loneSurrogate rest
    else .ok (Char.ofNat (0x10000 + (n - 0xD800) * 0x400 + (m - 0xDC00)), rest)

/-- The character of an escape, of which the backslash is consumed. -/
def readEscape : Reader Char
  | [] => fail .endInString []
  | b :: rest =>
    if b = octet '"' then .ok ('"', rest)
    else if b = octet '\\' then .ok ('\\', rest)
    else if b = octet '/' then .ok ('/', rest)
    else if b = octet 'b' then .ok ('\x08', rest)
    else if b = octet 'f' then .ok ('\x0c', rest)
    else if b = octet 'n' then .ok ('\n', rest)
    else if b = octet 'r' then .ok ('\r', rest)
    else if b = octet 't' then .ok ('\t', rest)
    else if b = octet 'u' then readUnicode rest
    else fail .invalidEscape rest

/-- What one step inside a string finds. -/
inductive StringPart where
  | close
  | char (c : Char)
  /-- An octet that begins no character. -/
  | stray

def readPart : Reader StringPart
  | [] => fail .endInString []
  | b :: rest =>
    if b = octet '"' then .ok (.close, rest)
    else if b = octet '\\' then do
      let (c, rest) ← readEscape rest
      .ok (.char c, rest)
    else if b < 32 then fail .controlCharacter rest
    else match Text.nextChar? (b :: rest) with
      | some (c, rest) => .ok (.char c, rest)
      | none => .ok (.stray, rest)

/-- The characters up to the closing quote. When there was a stray octet, the fault is seen at the
quote, and its place is the quote's less what the string holds from the first stray octet on: one
octet for each stray one, and the UTF-8 form of each character, also of one that was written as an
escape. `stray` counts them. Each step consumes an octet, so their number is fuel enough. -/
def readStringParts (fuel : Nat) (chars : List Char) (stray : Option Nat) (b : Bytes) :
    Except Stop (String × Bytes) :=
  match fuel with
  | 0 => fail .endInString []
  | fuel + 1 =>
    match readPart b with
    | .error stop => .error stop
    | .ok (.char c, rest) =>
      readStringParts fuel (c :: chars) (stray.map fun n => n + c.utf8Size) rest
    | .ok (.stray, rest) => readStringParts fuel chars (some (stray.getD 0 + 1)) rest
    | .ok (.close, rest) =>
      match stray with
      | some n => .error (.here .invalidCodePoint (rest.length + n))
      | none => .ok (String.ofList chars.reverse, rest)

/-- A string of which the opening quote is consumed. -/
def readString : Reader String := fun b =>
  readStringParts (b.length + 1) [] none b

/-! Arrays and objects. -/

/-- The items of an array after the first, each behind a comma, up to the bracket. -/
def readMoreItems (item : Reader Json) (fuel : Nat) (items : List Json) (b : Bytes) :
    Except Stop (Json × Bytes) :=
  match fuel with
  | 0 => fail .endInList []
  | fuel + 1 =>
    match skipSpace b with
    | [] => fail .endInList []
    | c :: rest =>
      if c = octet ']' then .ok (array items.reverse, rest)
      else if c = octet ',' then
        match skipSpace rest with
        | [] => fail .endInValue []
        | d :: after =>
          if d = octet ']' then fail .trailingComma after
          else match item (d :: after) with
            | .error stop => .error stop
            | .ok (x, rest) => readMoreItems item fuel (x :: items) rest
      else fail .expectedListEnd rest

/-- An array of which the opening bracket is consumed. -/
def readItems (item : Reader Json) : Reader Json := fun b =>
  match skipSpace b with
  | [] => fail .endInList []
  | c :: rest =>
    if c = octet ']' then .ok (array [], rest)
    else match item (c :: rest) with
      | .error stop => .error stop
      | .ok (x, rest) => readMoreItems item (rest.length + 1) [x] rest

/-- A key and the colon after it; the quote that opens the key is consumed. -/
def readKey : Reader String := fun b =>
  match readString b with
  | .error stop => .error stop
  | .ok (key, rest) =>
    match skipSpace rest with
    | [] => fail .endInObject []
    | c :: rest => if c = octet ':' then .ok (key, rest) else fail .expectedColon rest

/-- A key and its value; the quote that opens the key is consumed. -/
def readMember (item : Reader Json) : Reader (String × Json) := fun b =>
  match readKey b with
  | .error stop => .error stop
  | .ok (key, rest) =>
    match item rest with
    | .error stop => .error stop
    | .ok (x, rest) => .ok ((key, x), rest)

/-- The members of an object after the first, each behind a comma, up to the brace. -/
def readMoreMembers (item : Reader Json) (fuel : Nat) (members : List (String × Json)) (b : Bytes) :
    Except Stop (Json × Bytes) :=
  match fuel with
  | 0 => fail .endInObject []
  | fuel + 1 =>
    match skipSpace b with
    | [] => fail .endInObject []
    | c :: rest =>
      if c = octet '\x7d' then .ok (object members, rest)
      else if c = octet ',' then
        match skipSpace rest with
        | [] => fail .endInValue []
        | d :: after =>
          if d = octet '"' then
            match readMember item after with
            | .error stop => .error stop
            | .ok ((k, x), rest) => readMoreMembers item fuel (setMember k x members) rest
          else if d = octet '\x7d' then fail .trailingComma after
          else fail .keyNotString after
      else fail .expectedObjectEnd rest

/-- The key that marks an object as one that holds its value as a text. -/
def textKey : String := "$serde_json::private::RawValue"

/-- The end of an object that holds its value as a text: nothing may follow the text. -/
def readTextEnd (value : Json) : Reader Json := fun b =>
  match skipSpace b with
  | [] => fail .endInObject []
  | c :: rest =>
    if c = octet '\x7d' then .ok (value, rest)
    else if c = octet ',' then fail .trailingComma rest
    else fail .trailingCharacters rest

/-- The rest of an object that holds its value as a text, of which the key and the colon are
consumed. The text is read by `text`. -/
def readTextValue (text : Bytes → Except ReadError Json) (item : Reader Json) : Reader Json :=
  fun b =>
    match skipSpace b with
    | [] => fail .endInValue []
    | c :: rest =>
      if c = octet '"' then
        match readString rest with
        | .error stop => .error stop
        | .ok (s, rest) =>
          match text (Text.toBytes s) with
          | .error e => .error (.inner e)
          | .ok value => readTextEnd value rest
      else if c = octet '[' then fail (.notText (array []).description) (c :: rest)
      else if c = octet '\x7b' then fail (.notText (object []).description) (c :: rest)
      else match item (c :: rest) with
        | .error stop => .error stop
        | .ok (x, rest) => fail (.notText x.description) rest

/-- An object of which the opening brace is consumed. -/
def readMembers (text : Bytes → Except ReadError Json) (item : Reader Json) : Reader Json :=
  fun b =>
    match skipSpace b with
    | [] => fail .endInObject []
    | c :: rest =>
      if c = octet '\x7d' then .ok (object [], rest)
      else if c = octet '"' then
        match readKey rest with
        | .error stop => .error stop
        | .ok (key, rest) =>
          if key = textKey then readTextValue text item rest
          else match item rest with
            | .error stop => .error stop
            | .ok (x, rest) => readMoreMembers item (rest.length + 1) [(key, x)] rest
      else fail .keyNotString rest

/-- A value inside at most `depth` further arrays and objects. -/
def readValue (text : Bytes → Except ReadError Json) : Nat → Reader Json
  | depth, b =>
    match skipSpace b with
    | [] => fail .endInValue []
    | c :: rest =>
      if c = octet 'n' then readWord ['u', 'l', 'l'] null rest
      else if c = octet 't' then readWord ['r', 'u', 'e'] (bool true) rest
      else if c = octet 'f' then readWord ['a', 'l', 's', 'e'] (bool false) rest
      else if c = octet '-' then asNumber (readNumber true rest)
      else if isDigit c then asNumber (readNumber false (c :: rest))
      else if c = octet '"' then
        match readString rest with
        | .error stop => .error stop
        | .ok (s, rest) => .ok (string s, rest)
      else if c = octet '[' then
        match depth with
        | 0 => fail .tooDeep rest
        | depth + 1 => readItems (readValue text depth) rest
      else if c = octet '\x7b' then
        match depth with
        | 0 => fail .tooDeep rest
        | depth + 1 => readMembers text (readValue text depth) rest
      else fail .expectedValue rest
where
  asNumber (r : Except Stop (JsonNumber × Bytes)) : Except Stop (Json × Bytes) :=
    match r with
    | .error stop => .error stop
    | .ok (n, rest) => .ok (number n, rest)

/-- How deeply arrays and objects may be nested. -/
def depthLimit : Nat := 127

/-- A whole text: one value, with blanks around it. -/
def readAll (text : Bytes → Except ReadError Json) (b : Bytes) : Except Stop Json :=
  match readValue text depthLimit b with
  | .error stop => .error stop
  | .ok (value, rest) =>
    match skipSpace rest with
    | [] => .ok value
    | _ :: rest => fail .trailingCharacters rest

def Stop.locate (b : Bytes) : Stop → ReadError
  | .inner e => e
  | .here fault left =>
    let consumed := b.take (b.length - left)
    { fault
      line := 1 + consumed.count (octet '\n')
      column := (consumed.reverse.takeWhile fun c => c != octet '\n').length }

/-- A text with texts inside it, fewer than `levels` of them inside one another. -/
def readText : (levels : Nat) → Bytes → Except ReadError Json
  | 0, _ => .error ⟨.tooDeep, 1, 0⟩
  | levels + 1, b => (readAll (readText levels) b).mapError (Stop.locate b)

/-- A text inside another one is shorter, so their number is less than the length. -/
def ofBytes (b : Bytes) : Except ReadError Json := readText (b.length + 1) b

def ofText (s : String) : Except ReadError Json := ofBytes (Text.toBytes s)

end MessageBus.Json
