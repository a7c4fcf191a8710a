/-! # Entry Identifiers

    Entries of a priority list may carry a universally unique identifier: 128 bits,
    written as 32 hexadecimal digits.  Reading takes the digits in one run, in groups of
    8, 4, 4, 4 and 12 joined by hyphens, and the groups in braces or after `urn:uuid:`, in
    capitals or not.  Writing always gives the groups, in lower case.
-/

namespace ActionPriority

/-- A universally unique identifier. -/
structure Uuid where
  bits : BitVec 128
  deriving DecidableEq, Repr

namespace Uuid

/-- The value of a hexadecimal digit. -/
def hexValue? (c : Char) : Option Nat :=
  if '0' ≤ c ∧ c ≤ '9' then some (c.toNat - '0'.toNat)
  else if 'a' ≤ c ∧ c ≤ 'f' then some (c.toNat - 'a'.toNat + 10)
  else if 'A' ≤ c ∧ c ≤ 'F' then some (c.toNat - 'A'.toNat + 10)
  else none

/-- The hexadecimal digit of a value, in lower case. -/
def hexDigit (n : Nat) : Char := Char.ofNat (if n < 10 then '0'.toNat + n else 'a'.toNat + n - 10)

/-- The identifier of a run of 32 digits. -/
def ofDigits? (digits : List Char) : Option Uuid := do
  guard (digits.length = 32)
  let values ← digits.mapM hexValue?
  return ⟨BitVec.ofNat 128 (values.foldl (fun acc d => 16 * acc + d) 0)⟩

/-- The lengths of the groups. -/
def groups : List Nat := [8, 4, 4, 4, 12]

/-- The digits of text in groups of these lengths, joined by hyphens. -/
def ungroup? : List Nat → List Char → Option (List Char)
  | [], [] => some []
  | [n], text => if text.length = n then some text else none
  | n :: rest, text =>
    match text.drop n with
    | '-' :: more => (ungroup? rest more).map (text.take n ++ ·)
    | _ => none
  | [], _ :: _ => none

/-- The identifier of hyphenated text. -/
def ofGroups? (text : List Char) : Option Uuid := (ungroup? groups text).bind ofDigits?

/-- Reads an identifier in any of its forms. -/
def read? (text : String) : Option Uuid :=
  match text.toList with
  | '{' :: more => if more.getLast? = some '}' then ofGroups? more.dropLast else none
  | chars =>
    if (chars.take 9).map Char.toLower = "urn:uuid:".toList then ofGroups? (chars.drop 9)
    else (ofDigits? chars).or (ofGroups? chars)

/-- The 32 digits of an identifier. -/
def digits (u : Uuid) : List Char :=
  (List.range 32).map fun i => hexDigit (u.bits.toNat / Nat.pow 16 (31 - i) % 16)

/-- Digits in groups of these lengths, joined by hyphens. -/
def group : List Nat → List Char → List Char
  | [], text => text
  | [_], text => text
  | n :: rest, text => text.take n ++ '-' :: group rest (text.drop n)

/-- The text of an identifier. -/
def text (u : Uuid) : String := String.ofList (group groups u.digits)

end Uuid

end ActionPriority
