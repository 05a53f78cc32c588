import Mathlib.Data.List.Basic
import Mathlib.Tactic.Common

/-!
# Hexadecimal text

Two digits for each byte, the high half first.  What is written has lower-case digits;
both cases are read.

## Main results

* `decode_encode` — what is written is read back
* `isDigit_of_mem_encode` — only digits are written
-/

namespace TheVoteApp.Foundations.Hex

/-- The value of a digit. -/
def digitValue (c : Char) : Option ℕ :=
  if '0' ≤ c ∧ c ≤ '9' then some (c.toNat - 0x30)
  else if 'a' ≤ c ∧ c ≤ 'f' then some (c.toNat - 0x57)
  else if 'A' ≤ c ∧ c ≤ 'F' then some (c.toNat - 0x37)
  else none

/-- The character is a digit, of either case. -/
def isDigit (c : Char) : Bool := (digitValue c).isSome

/-- The digits of one byte. -/
def bytePair (byte : UInt8) : List Char :=
  [Nat.digitChar (byte.toNat / 16), Nat.digitChar (byte.toNat % 16)]

/-- The digits of a row of bytes, in lower case. -/
def encode (bytes : List UInt8) : List Char := bytes.flatMap bytePair

/-- The bytes that the digits stand for; an odd digit or another character is an
error. -/
def decode : List Char → Option (List UInt8)
  | [] => some []
  | [_] => none
  | high :: low :: rest => do
      let high ← digitValue high
      let low ← digitValue low
      let bytes ← decode rest
      some (UInt8.ofNat (16 * high + low) :: bytes)

theorem digitValue_digitChar {n : ℕ} (small : n < 16) :
    digitValue (Nat.digitChar n) = some n := by
  have all : ∀ n < 16, digitValue (Nat.digitChar n) = some n := by decide
  exact all n small

@[simp] theorem encode_nil : encode [] = [] := rfl

theorem encode_cons (byte : UInt8) (bytes : List UInt8) :
    encode (byte :: bytes) = bytePair byte ++ encode bytes := rfl

theorem encode_append (front back : List UInt8) :
    encode (front ++ back) = encode front ++ encode back :=
  List.flatMap_append

/-- What is read begins with the bytes whose digits come first. -/
theorem decode_append (front : List UInt8) (digits : List Char) :
    decode (encode front ++ digits) = (decode digits).map (front ++ ·) := by
  induction front with
  | nil =>
      show decode digits = (decode digits).map id
      rw [Option.map_id, id]
  | cons byte front ih =>
      have small := byte.toNat_lt
      have back : 16 * (byte.toNat / 16) + byte.toNat % 16 = byte.toNat := by omega
      simp only [encode_cons, bytePair, List.cons_append, List.nil_append, decode,
        digitValue_digitChar (show byte.toNat / 16 < 16 by omega),
        digitValue_digitChar (show byte.toNat % 16 < 16 by omega), ih, bind, Option.bind_some,
        back, UInt8.ofNat_toNat]
      cases decode digits with
      | none => rfl
      | some bytes => rfl

theorem decode_encode (bytes : List UInt8) : decode (encode bytes) = some bytes := by
  have read := decode_append bytes []
  rwa [List.append_nil, decode, Option.map_some, List.append_nil] at read

theorem encode_injective : Function.Injective encode := by
  intro front back same
  have read := decode_encode front
  rw [same, decode_encode] at read
  exact (Option.some.inj read).symm

/-- An odd number of digits is never read. -/
theorem length_decode {digits : List Char} {bytes : List UInt8}
    (read : decode digits = some bytes) : digits.length = 2 * bytes.length := by
  induction digits using decode.induct generalizing bytes with
  | case1 =>
      obtain rfl := Option.some.inj read
      rfl
  | case2 => cases read
  | case3 high low rest ih =>
      simp only [decode, Option.bind_eq_bind, Option.bind_eq_some_iff, Option.some.injEq] at read
      obtain ⟨_, -, _, -, tail, inside, rfl⟩ := read
      simp only [List.length_cons, ih inside]
      omega

theorem length_encode (bytes : List UInt8) : (encode bytes).length = 2 * bytes.length := by
  induction bytes with
  | nil => rfl
  | cons byte bytes ih =>
      rw [encode_cons, List.length_append, ih]
      show 2 + 2 * bytes.length = 2 * (bytes.length + 1)
      omega

/-- Only digits are written. -/
theorem isDigit_of_mem_encode {bytes : List UInt8} {c : Char} (mem : c ∈ encode bytes) :
    isDigit c = true := by
  obtain ⟨byte, -, mem⟩ := List.mem_flatMap.mp mem
  have small := byte.toNat_lt
  rcases List.mem_pair.mp mem with rfl | rfl
  · rw [isDigit, digitValue_digitChar (by omega)]
    rfl
  · rw [isDigit, digitValue_digitChar (by omega)]
    rfl

theorem all_isDigit_encode (bytes : List UInt8) : (encode bytes).all isDigit = true := by
  rw [List.all_eq_true]
  intro c mem
  exact isDigit_of_mem_encode mem

end TheVoteApp.Foundations.Hex
