import Mathlib.Algebra.Ring.Nat

/-! Base64 as a strict reader takes it: groups of four digits, padding in the last group only,
and no bits that the padding cuts off. -/
namespace MannyUploader.Foundation

/-- The six bits of a base64 digit. -/
def base64Value (byte : UInt8) : Option Nat :=
  if 65 ≤ byte ∧ byte ≤ 90 then some (byte.toNat - 65)
  else if 97 ≤ byte ∧ byte ≤ 122 then some (byte.toNat - 71)
  else if 48 ≤ byte ∧ byte ≤ 57 then some (byte.toNat + 4)
  else if byte = 43 then some 62
  else if byte = 47 then some 63
  else none

/-- The last group with its padding. The bits that the padding cuts off must be zero. -/
def base64Last (a b c : UInt8) : Option (List UInt8) := do
  let first ← base64Value a
  let second ← base64Value b
  if c = 61 then
    if second % 16 = 0 then some [UInt8.ofNat (4 * first + second / 16)] else none
  else do
    let third ← base64Value c
    if third % 4 = 0 then
      some [UInt8.ofNat (4 * first + second / 16), UInt8.ofNat (16 * (second % 16) + third / 4)]
    else none

def base64Decode : List UInt8 → Option (List UInt8)
  | [] => some []
  | a :: b :: c :: d :: rest =>
    if d = 61 then if rest = [] then base64Last a b c else none
    else do
      let first ← base64Value a
      let second ← base64Value b
      let third ← base64Value c
      let fourth ← base64Value d
      let behind ← base64Decode rest
      some (UInt8.ofNat (4 * first + second / 16) ::
        UInt8.ofNat (16 * (second % 16) + third / 4) ::
        UInt8.ofNat (64 * (third % 4) + fourth) :: behind)
  | _ => none

end MannyUploader.Foundation
