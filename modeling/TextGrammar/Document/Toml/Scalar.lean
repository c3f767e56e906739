import TextGrammar.Document.Basic
import TextGrammar.Text.Reader
/-!
# Numbers, truth values, dates and times in TOML

A scalar without quotes is first taken as a whole and then recognised by its form.
-/
namespace TextGrammar.Toml

/-- Digits of a base, where an underscore may stand between two of them. -/
private def digits? (isDigit : Char → Bool) : List Char → Option (List Char)
  | [] => none
  | [c] => if isDigit c then some [c] else none
  | c :: '_' :: rest => if isDigit c then (digits? isDigit rest).map (c :: ·) else none
  | c :: rest => if isDigit c then (digits? isDigit rest).map (c :: ·) else none

/-- A number from the smallest signed to the largest unsigned one of 128 bits. -/
private def integer? (negative : Bool) (value : Nat) : Option Document :=
  if negative then if value ≤ 1 <<< 127 then some (.integer (-(value : Int))) else none
  else if value < 1 <<< 128 then some (.integer value) else none

private def based? (base : Nat) (isDigit : Char → Bool) (written : List Char) : Option Document :=
  (digits? isDigit written).bind fun digits => integer? false (digitsValue base digits)

private def splitSign : List Char → Bool × List Char
  | '-' :: rest => (true, rest)
  | '+' :: rest => (false, rest)
  | rest => (false, rest)

private def whole? (written : List Char) : Option (List Char) :=
  match digits? Char.isDigit written with
  | some ('0' :: _ :: _) => none
  | found => found

private def isExponentMark (c : Char) : Bool := c == 'e' || c == 'E'

private def isExponent (written : List Char) : Bool :=
  (digits? Char.isDigit (splitSign written).2).isSome

/-- A whole part, then a fraction, an exponent or both. -/
private def isFloat (written : List Char) : Bool :=
  let mantissa := written.takeWhile fun c => !isExponentMark c
  let exponent := written.drop (mantissa.length + 1)
  let whole := mantissa.takeWhile (· != '.')
  let fraction := mantissa.drop (whole.length + 1)
  let hasExponent := mantissa.length != written.length
  let hasFraction := whole.length != mantissa.length
  (hasExponent || hasFraction) && (whole? whole).isSome
    && (!hasExponent || isExponent exponent)
    && (!hasFraction || (digits? Char.isDigit fraction).isSome)

private def number? (written : List Char) : Option Document :=
  let (negative, body) := splitSign written
  match written with
  | '0' :: 'x' :: digits => based? 16 isHexDigit digits
  | '0' :: 'o' :: digits => based? 8 (fun c => '0' ≤ c && c ≤ '7') digits
  | '0' :: 'b' :: digits => based? 2 (fun c => c == '0' || c == '1') digits
  | _ =>
    match whole? body with
    | some digits => integer? negative (digitsValue 10 digits)
    | none =>
      if isFloat body || body == ['i', 'n', 'f'] || body == ['n', 'a', 'n'] then
        some (.decimal (String.ofList written))
      else none

private def pair : Reader Nat := do
  let tens ← Reader.next
  let ones ← Reader.next
  guard (tens.isDigit && ones.isDigit)
  return digitsValue 10 [tens, ones]

private def daysOf (year month : Nat) : Nat :=
  let isLeap := (year % 4 == 0 && year % 100 != 0) || year % 400 == 0
  if month == 2 then if isLeap then 29 else 28
  else if month == 4 || month == 6 || month == 9 || month == 11 then 30
  else 31

private def date : Reader Unit := do
  let century ← pair
  let year ← pair
  Reader.expect '-'
  let month ← pair
  Reader.expect '-'
  let day ← pair
  guard (1 ≤ month && month ≤ 12 && 1 ≤ day && day ≤ daysOf (100 * century + year) month)

/-- Seconds and their fraction may be left out; a second may be a leap second. -/
private def time : Reader Unit := do
  let hour ← pair
  Reader.expect ':'
  let minute ← pair
  guard (hour ≤ 23 && minute ≤ 59)
  if ← Reader.accept ':' then
    let second ← pair
    guard (second ≤ 60)
    if ← Reader.accept '.' then
      let fraction ← Reader.takeWhile Char.isDigit
      guard !fraction.isEmpty

private def offset : Reader Unit := do
  match ← Reader.peek with
  | none => return ()
  | some 'Z' | some 'z' =>
    let _ ← Reader.next
  | some _ =>
    let sign ← Reader.next
    guard (sign == '+' || sign == '-')
    let hour ← pair
    Reader.expect ':'
    let minute ← pair
    guard (hour ≤ 23 && minute ≤ 59)

private def dateTime : Reader Unit := do
  date
  match ← Reader.peek with
  | none => return ()
  | some c =>
    guard (c == 'T' || c == 't' || c == ' ')
    let _ ← Reader.next
    time
    offset

private def moment? (written : List Char) : Option Document :=
  if (Reader.readAll dateTime written).isSome || (Reader.readAll time written).isSome then
    some (.moment (String.ofList written))
  else none

def scalar? (written : List Char) : Option Document :=
  if written == "true".toList then some (.bool true)
  else if written == "false".toList then some (.bool false)
  else (number? written).or (moment? written)

end TextGrammar.Toml
