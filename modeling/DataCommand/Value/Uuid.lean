/-!
Universally unique identifiers: sixteen bytes, written as five groups of lower-case hexadecimal
digits.
-/

namespace DataCommand

/-- Hexadecimal digits, two for each byte. -/
def hexBytes (bytes : List UInt8) : String :=
  String.ofList (bytes.flatMap fun b =>
    [Nat.digitChar (b.toNat / 16), Nat.digitChar (b.toNat % 16)])

/-- The value of a hexadecimal digit of either case. -/
def hexDigit? (c : Char) : Option Nat :=
  let n := c.toNat
  if 48 ≤ n ∧ n ≤ 57 then some (n - 48)
  else if 65 ≤ n ∧ n ≤ 70 then some (n - 55)
  else if 97 ≤ n ∧ n ≤ 102 then some (n - 87)
  else none

/-- Bytes from pairs of hexadecimal digits. -/
def bytesOfHex? : List Char → Option (List UInt8)
  | [] => some []
  | [_] => none
  | a :: b :: rest =>
    match hexDigit? a, hexDigit? b, bytesOfHex? rest with
    | some x, some y, some bs => some (UInt8.ofNat (16 * x + y) :: bs)
    | _, _, _ => none

structure Uuid where
  bytes : List UInt8
  deriving DecidableEq, Inhabited

namespace Uuid

/-- The form `67e55044-10b1-426f-9247-bb680e5fe0c8`. -/
def text (u : Uuid) : String :=
  let group := fun start count => hexBytes ((u.bytes.drop start).take count)
  group 0 4 ++ "-" ++ group 4 2 ++ "-" ++ group 6 2 ++ "-" ++ group 8 2 ++ "-" ++ group 10 6

/-- Reads thirty-two hexadecimal digits, with or without the hyphens between the groups. -/
def ofText? (s : String) : Option Uuid :=
  match bytesOfHex? (s.toList.filter (· ≠ '-')) with
  | some bytes => if bytes.length = 16 then some ⟨bytes⟩ else none
  | none => none

end Uuid

end DataCommand
