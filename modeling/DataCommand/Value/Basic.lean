import DataCommand.Value.Calendar
import DataCommand.Json.Printer
import DataCommand.Number.Decimal
import DataCommand.Number.Word
import DataCommand.Value.Uuid

/-!
Values that a command binds to its placeholders, and the ordered list of them. A value has a
readable form, for people, and a JSON form, for programs.
-/

namespace DataCommand

/-- A bound argument. -/
inductive Value where
  | null
  | bool (b : Bool)
  | int (n : Int)
  | float (x : Binary64)
  | text (s : String)
  | bytes (bs : List UInt8)
  | json (j : Json)
  | uuid (u : Uuid)
  | timestamp (t : Timestamp)
  | date (d : Date)
  | decimal (d : Decimal)
  deriving Inhabited

namespace Value

def isNull : Value → Bool
  | .null => true
  | _ => false

/-- The text of a text value. -/
def text? : Value → Option String
  | .text s => some s
  | _ => none

/-- Scalars of JSON become values of their own, arrays and objects stay JSON. An integer beyond 64
signed bits becomes the nearest floating-point number. -/
def ofJson : Json → Value
  | .null => .null
  | .bool b => .bool b
  | .int n => if Number.fitsWord n then .int n else .float (Binary64.ofInt n)
  | .float x => .float x
  | .str s => .text s
  | .arr items => .json (.arr items)
  | .obj entries => .json (.obj entries)

/-- The JSON form: bytes as an array of numbers, moments and identifiers as strings. -/
def toJson : Value → Json
  | .null => .null
  | .bool b => .bool b
  | .int n => .int n
  | .float x => if x.isFinite then .float x else .null
  | .text s => .str s
  | .bytes bs => .arr (bs.map fun b => .int b.toNat)
  | .json j => j
  | .uuid u => .str u.text
  | .timestamp t => .str t.zuluText
  | .date d => .str d.text
  | .decimal d => .str d.text

/-- The readable form: texts and moments between single quotes, nothing escaped. -/
def display : Value → String
  | .null => "NULL"
  | .bool b => if b then "true" else "false"
  | .int n => toString n
  | .float x => x.plainText
  | .text s => "'" ++ s ++ "'"
  | .bytes bs => "<" ++ toString bs.length ++ " bytes>"
  | .json j => j.compact
  | .uuid u => "'" ++ u.text ++ "'"
  | .timestamp t => "'" ++ t.offsetText ++ "'"
  | .date d => "'" ++ d.text ++ "'"
  | .decimal d => d.text

/-- Equality of values: kinds must agree, and numbers of one kind compare by value. -/
def equal : Value → Value → Bool
  | .null, .null => true
  | .bool a, .bool b => a == b
  | .int a, .int b => a == b
  | .float a, .float b => a.equal b
  | .text a, .text b => a == b
  | .bytes a, .bytes b => a == b
  | .json a, .json b => a.equal b
  | .uuid a, .uuid b => a == b
  | .timestamp a, .timestamp b => a == b
  | .date a, .date b => a == b
  | .decimal a, .decimal b => a.equal b
  | _, _ => false

/-- Equality of lists of values. -/
def equalAll : List Value → List Value → Bool
  | [], [] => true
  | a :: as, b :: bs => a.equal b && equalAll as bs
  | _, _ => false

end Value

/-- The values of a command in the order of its placeholders. -/
abbrev Arguments := List Value

namespace Arguments

/-- The arguments with a value at their end, and its position, counted from one. -/
def push (args : Arguments) (v : Value) : Arguments × Nat := (args ++ [v], args.length + 1)

/-- The arguments as a JSON array. -/
def toJson (args : Arguments) : Json := .arr (args.map Value.toJson)

end Arguments

end DataCommand
