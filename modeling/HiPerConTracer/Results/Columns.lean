import HiPerConTracer.Lib.Separated
import HiPerConTracer.Results.Statement

/-!
# Columns of results lines (`reader-traceroute.cc`)

The functions of `TracerouteReader` that parse one column each, also for `PingReader`.  Numbers are
read by `std::stoul` and `std::stoull`, which are the same for 64 bits; most results are then cut to
the type of the result.
-/

namespace HiPerConTracer.Results
open Net

/-- What the parsing of a file depends on: its name in error messages, the time, and
`boost::asio::ip::make_address` with the text of its exception. -/
structure Input where
  file : String
  /-- Nanoseconds since the epoch. -/
  now : Int
  makeAddress : Text → Except String Address

variable (i : Input)

/-! ## Numbers -/

/-- The message of an error about a value. -/
def Input.message (what : String) (value : Text) : String :=
  what ++ String.ofList value ++ " in input file " ++ i.file

/-- A number that is the whole value; `function` is what its exception says. -/
def parseNumber (what function : String) (base : Nat) (value : Text) : Except Failure Nat :=
  match Numeral.scan base value with
  | .error _ => .error (.dataError (i.message what value ++ ": " ++ function))
  | .ok (number, index) =>
    if index = value.length then .ok number else .error (.dataError (i.message what value))

/-- A number with bounds, with the message for a number out of bounds. -/
def parseBounded (what invalid : String) (base lower upper : Nat) (value : Text) :
    Except Failure Nat :=
  match parseNumber i what "stoul" base value with
  | .error e => .error e
  | .ok number =>
    if number < lower ∨ upper < number then .error (.dataError (i.message invalid value))
    else .ok number

/-- Conversion of a number to `unsigned int`. -/
def toUnsigned (r : Except Failure Nat) : Except Failure Nat := r.map (· % 2 ^ 32)

/-- Conversion of a number to `long long`. -/
def toLongLong (n : Nat) : Int := if n < 2 ^ 63 then n else n - 2 ^ 64

/-- Each caller converts the measurement identifier to `unsigned int`. -/
def parseMeasurementID (value : Text) : Except Failure Nat :=
  toUnsigned (parseNumber i "Bad measurement ID value " "stoull" 10 value)

def parseAddress (value : Text) : Except Failure Address :=
  match i.makeAddress value with
  | .ok a => .ok a
  | .error what => .error (.dataError (i.message "Bad address " value ++ ": " ++ what))

/-- Nanoseconds of an hour. -/
def hours (n : Nat) : Int := n * 3600 * 1000000000

/-- At most ten years in the past and one day in the future. -/
def Input.inTime (timeStamp : Int) : Bool :=
  i.now - hours (10 * 365 * 24) ≤ timeStamp ∧ timeStamp ≤ i.now + hours 24

/-- `parseTimeStamp`, in nanoseconds. -/
def parseTimeStamp (value : Text) : Except Failure Int :=
  match parseNumber i "Bad time stamp format " "stoull" 16 value with
  | .error e => .error e
  | .ok ts =>
    if i.inTime (toLongLong ts) then .ok (toLongLong ts)
    else
      .error (.dataError
        (i.message "Invalid time stamp value (too old, or in the future) " value))

def parseRoundNumber (value : Text) : Except Failure Nat :=
  toUnsigned (parseNumber i "Bad round number " "stoul" 10 value)

def parseTrafficClass (value : Text) : Except Failure Nat :=
  parseBounded i "Bad traffic class format " "Invalid traffic class value " 16 0 0xff value

def parsePacketSize (value : Text) : Except Failure Nat :=
  toUnsigned (parseNumber i "Bad packet size format " "stoul" 10 value)

def parseResponseSize (value : Text) : Except Failure Nat :=
  toUnsigned (parseNumber i "Bad response size format " "stoul" 10 value)

def parseChecksum (value : Text) : Except Failure Nat :=
  parseBounded i "Bad checksum format " "Invalid checksum value " 16 0 0xffff value

def parsePort (value : Text) : Except Failure Nat :=
  parseBounded i "Bad port format " "Invalid port value " 10 0 65535 value

/-- `parseStatus`; without a base, it is 16. -/
def parseStatus (value : Text) (base : Nat) : Except Failure Nat :=
  toUnsigned (parseNumber i "Bad status format " "stoul" base value)

def parsePathHash (value : Text) : Except Failure Int :=
  (parseNumber i "Bad path hash " "stoull" 16 value).map toLongLong

def parseTotalHops (value : Text) : Except Failure Nat :=
  parseBounded i "Bad total hops value " "Invalid total hops value " 10 1 255 value

def parseHopNumber (value : Text) : Except Failure Nat :=
  parseBounded i "Bad hop number value " "Invalid hop number value " 10 1 255 value

def parseTimeSource (value : Text) : Except Failure Nat :=
  toUnsigned (parseNumber i "Bad time source format " "stoul" 16 value)

def parseNanoseconds (value : Text) : Except Failure Int :=
  (parseNumber i "Bad nanoseconds format " "stoul" 10 value).map toLongLong

/-! ## Tuples -/

/-- The columns of a line. -/
def columnsOf (line : Text) : List Text := Separated.words ' ' line

/-- The tuple with the columns of a line; behind them, what has been in the tuple before. -/
def assignColumns (maxColumns : Nat) (columns tuple : List Text) : List Text :=
  columns.take maxColumns ++ tuple.drop (columns.take maxColumns).length

/-- A column of a tuple. -/
def column (tuple : List Text) (k : Nat) : Text := tuple.getD k []

end HiPerConTracer.Results
