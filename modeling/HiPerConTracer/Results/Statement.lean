import HiPerConTracer.Lib.Numeral
import HiPerConTracer.Net.Address

/-!
# Statements of the importer (`database-statement.h`, `database-statement.cc`)

A `Statement` is a text to which rows are added, one at a time: `beginRow`, the cells with `sep`
between them, and `endRow`.  Texts are lists of characters, each of which is a byte.
-/

namespace HiPerConTracer.Results
open Net

abbrev Text := List Char

/-- `%d` of a number without sign. -/
def dec (n : Nat) : Text := Numeral.text 10 n

/-- `%x`. -/
def hex (n : Nat) : Text := Numeral.text 16 n

/-- What ends a function early. -/
inductive Failure where
  /-- `ResultsReaderDataErrorException`. -/
  | dataError (what : String)
  /-- Another `std::exception`. -/
  | exception (what : String)
  /-- A failing assertion. -/
  | assertion
  /-- A write behind the end of an array. -/
  | outOfBounds
deriving DecidableEq, Repr

/-- The failures that `catch(std::exception&)` gets. -/
def Failure.isException : Failure → Bool
  | dataError _ => true
  | exception _ => true
  | assertion => false
  | outOfBounds => false

inductive Backend where
  | sqlDebug
  | sqlMariaDB
  | sqlPostgreSQL
  | sqlCassandra
  | noSqlDebug
  | noSqlMongoDB
deriving DecidableEq, Repr

/-- `SQL_Generic`; the other backends are `NoSQL_Generic`. -/
def Backend.isSQL : Backend → Bool
  | sqlDebug => true
  | sqlMariaDB => true
  | sqlPostgreSQL => true
  | sqlCassandra => true
  | noSqlDebug => false
  | noSqlMongoDB => false

structure Statement where
  backend : Backend
  rows : Nat
  inTuple : Bool
  text : Text
deriving DecidableEq, Repr

namespace Statement

def clear (s : Statement) : Statement := { s with text := [], rows := 0, inTuple := false }

/-- `<<`. -/
def append (s : Statement) (t : Text) : Statement := { s with text := s.text ++ t }

/-- What stands between two rows and begins the second one. -/
def rowBegin (isSQL : Bool) (rows : Nat) (multipleLines : Bool) : Text :=
  (if rows = 0 then [] else [',']) ++ (if multipleLines then ['\n'] else []) ++
    (if isSQL then ['('] else ['\x7b'])

def rowEnd (isSQL : Bool) : Text := if isSQL then [')'] else ['\x7d']

def beginRow (s : Statement) (multipleLines : Bool) : Except Failure Statement :=
  if s.inTuple then .error .assertion
  else .ok ({ s with inTuple := true }.append (rowBegin s.backend.isSQL s.rows multipleLines))

def endRow (s : Statement) : Except Failure Statement :=
  if s.inTuple then
    .ok ({ s with inTuple := false, rows := s.rows + 1 }.append (rowEnd s.backend.isSQL))
  else .error .assertion

def sep (s : Statement) : Except Failure Text :=
  if s.inTuple then .ok (if s.backend.isSQL then [','] else [',', ' ']) else .error .assertion

/-- Cells, with `sep` between them. -/
def cells (s : Statement) : List Text → Except Failure Statement
  | [] => .ok s
  | [c] => .ok (s.append c)
  | c :: cs =>
    match s.sep with
    | .error e => .error e
    | .ok t => (s.append (c ++ t)).cells cs

/-- `std::quoted`. -/
def quoted (delimiter escape : Char) (t : Text) : Text :=
  [delimiter] ++ (t.flatMap fun c =>
    if c = delimiter ∨ c = escape then [escape, c] else [c]) ++ [delimiter]

/-- `make_address_v6(v4_mapped, …)`. -/
def v4Mapped (value : UInt32) : Address := .v6 (BitVec.ofNat 128 (0xffff * 2 ^ 32 + value.toNat)) 0

/-- `encodeAddress`, with the text of an address and the Base64 encoding of its bytes. -/
def encodeAddress (addressText base64 : Address → Text) (backend : Backend) (a : Address) : Text :=
  if backend.isSQL then
    match backend, a with
    | .sqlMariaDB, .v4 value => quoted '\x27' '\x5c' (addressText (v4Mapped value))
    | _, _ => quoted '\x27' '\x5c' (addressText a)
  else "\x7b\"$type\":\"0\",\"$binary\":\"".toList ++ base64 a ++ "\"\x7d".toList

/-- A signed number in decimal digits. -/
def decimal (n : Int) : Text :=
  if n < 0 then '-' :: Numeral.text 10 n.natAbs else Numeral.text 10 n.natAbs

/-! ## Rows -/

/-- Cells with the separator of the backend between them. -/
def joined (isSQL : Bool) (cs : List Text) : Text :=
  (if isSQL then [','] else [',', ' ']).intercalate cs

theorem cells_eq {s : Statement} (h : s.inTuple = true) (cs : List Text) :
    s.cells cs = .ok (s.append (joined s.backend.isSQL cs)) := by
  induction cs generalizing s with
  | nil =>
    unfold cells append joined
    rw [List.intercalate_nil, List.append_nil]
  | cons c cs ih =>
    cases cs with
    | nil =>
      unfold cells joined
      rw [List.intercalate_singleton]
    | cons d ds =>
      unfold cells sep
      rw [if_pos h]
      simp only
      rw [ih (s := s.append _) h]
      unfold append joined
      rw [List.intercalate_cons_cons]
      simp only [List.append_assoc]

end Statement

end HiPerConTracer.Results
