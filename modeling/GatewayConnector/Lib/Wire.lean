/-
**Fields on the wire.**

A message is written as a sequence of fields. A field of bytes is its number with wire type 2, the
length of the data, the data; a field of a number is its number with wire type 0, the value. Numbers
are base-128, lowest digits first, with the high bit set on every byte but the last.

* `readVarint_varint` — a number is read back and the bytes after it are left untouched.
* `readField_field` — so is a field.
* `fields_injective` — two messages of a required first field and an optional second one have the
  same bytes only if they have the same fields.
-/

import Mathlib.Data.Nat.Notation

namespace GatewayConnector.Lib

namespace Wire

/-- The digits of a number that is below `128 ^ (fuel + 1)`. -/
def varintDigits : ℕ → ℕ → List UInt8
  | 0, number => [UInt8.ofNat number]
  | fuel + 1, number =>
    if number < 128 then [UInt8.ofNat number]
    else UInt8.ofNat (number % 128 + 128) :: varintDigits fuel (number / 128)

/-- A number in base 128. -/
def varint (number : ℕ) : List UInt8 := varintDigits number number

/-- Read a number off the front of some bytes. -/
def readVarint : List UInt8 → Option (ℕ × List UInt8)
  | [] => none
  | digit :: rest =>
    if digit.toNat < 128 then some (digit.toNat, rest)
    else (readVarint rest).map fun (high, left) => (digit.toNat - 128 + 128 * high, left)

theorem toNat_digit {number : ℕ} (small : number < 256) : (UInt8.ofNat number).toNat = number := by
  rw [UInt8.toNat_ofNat']
  exact Nat.mod_eq_of_lt small

theorem readVarint_digits (fuel number : ℕ) (enough : number ≤ fuel) (rest : List UInt8) :
    readVarint (varintDigits fuel number ++ rest) = some (number, rest) := by
  induction fuel generalizing number with
  | zero =>
    obtain rfl : number = 0 := by omega
    rfl
  | succ fuel ih =>
    rw [varintDigits]
    by_cases small : number < 128
    · have value := toNat_digit (show number < 256 by omega)
      rw [if_pos small]
      show (if (UInt8.ofNat number).toNat < 128 then _ else _) = _
      rw [value, if_pos small]
      rfl
    · have value := toNat_digit (show number % 128 + 128 < 256 by omega)
      rw [if_neg small, List.cons_append, readVarint, value, if_neg (by omega),
        ih (number / 128) (by omega), Option.map_some]
      have whole : number % 128 + 128 - 128 + 128 * (number / 128) = number := by omega
      exact congrArg (fun read => some (read, rest)) whole

/-- **A number is read back.** -/
theorem readVarint_varint (number : ℕ) (rest : List UInt8) :
    readVarint (varint number ++ rest) = some (number, rest) :=
  readVarint_digits number number (Nat.le_refl number) rest

/-- A field with wire type 2. -/
def field (tag : ℕ) (data : List UInt8) : List UInt8 :=
  varint (tag * 8 + 2) ++ (varint data.length ++ data)

/-- A field with wire type 0. -/
def numberField (tag value : ℕ) : List UInt8 := varint (tag * 8) ++ varint value

/-- Read a field with the given number off the front of some bytes. -/
def readField (tag : ℕ) (bytes : List UInt8) : Option (List UInt8 × List UInt8) := do
  let (key, afterKey) ← readVarint bytes
  if key = tag * 8 + 2 then
    let (length, afterLength) ← readVarint afterKey
    if length ≤ afterLength.length then
      some (afterLength.take length, afterLength.drop length)
    else none
  else none

/-- **A field is read back.** -/
theorem readField_field (tag : ℕ) (data rest : List UInt8) :
    readField tag (field tag data ++ rest) = some (data, rest) := by
  unfold readField field
  rw [List.append_assoc, readVarint_varint]
  show (if _ then _ else _) = _
  rw [if_pos rfl, List.append_assoc, readVarint_varint]
  show (if _ then _ else _) = _
  rw [if_pos (by rw [List.length_append]; omega), List.take_left, List.drop_left]

/-- A message of a required field `1` and an optional field `3`. -/
def fields (first : List UInt8) (third : Option (List UInt8)) : List UInt8 :=
  field 1 first ++ (third.map (field 3)).getD []

theorem field_ne_nil (tag : ℕ) (data : List UInt8) : field tag data ≠ [] := by
  intro empty
  have read := readField_field tag data []
  rw [empty] at read
  cases read

/-- **The fields of a message can be told from its bytes.** -/
theorem fields_injective {first first' : List UInt8} {third third' : Option (List UInt8)}
    (same : fields first third = fields first' third') : first = first' ∧ third = third' := by
  have heads := congrArg (readField 1) same
  unfold fields at heads
  rw [readField_field, readField_field] at heads
  obtain ⟨firsts, rests⟩ := Prod.mk.inj (Option.some.inj heads)
  refine ⟨firsts, ?_⟩
  cases third with
  | none =>
    cases third' with
    | none => rfl
    | some data' => exact absurd rests.symm (field_ne_nil 3 data')
  | some data =>
    cases third' with
    | none => exact absurd rests (field_ne_nil 3 data)
    | some data' =>
      have tails := congrArg (fun bytes => readField 3 (bytes ++ [])) rests
      simp only [Option.map_some, Option.getD_some, readField_field] at tails
      rw [(Prod.mk.inj (Option.some.inj tails)).1]

end Wire

end GatewayConnector.Lib
