import TheVoteApp.Foundations.Hex
import Mathlib.Data.Int.Basic

/-!
# Numerals with a sign

How the standard libraries read an integer of a machine type in a base: a sign that may
be missing, at least one digit and nothing else, and a value in the range of the type.
The alphabet and its digits are parameters.

## Main definitions

* `readNat` — digits alone
* `Notation.readInt` — digits behind a sign, within a range

## Main results

* `readNat_encode` — pairs of hexadecimal digits are read as the number whose bytes
  they are
* `Notation.readInt_encode` — the same, in an alphabet with digits of its own
-/

namespace TheVoteApp.Foundations.Numerals

variable {α β : Type}

/-- The digits behind what has been read. -/
def readFrom (base : ℕ) (digit : α → Option ℕ) (value : ℕ) : List α → Option ℕ
  | [] => some value
  | c :: text => (digit c).bind fun d => readFrom base digit (value * base + d) text

/-- A number written in digits, of which there is one at least. -/
def readNat (base : ℕ) (digit : α → Option ℕ) : List α → Option ℕ
  | [] => none
  | c :: text => readFrom base digit 0 (c :: text)

/-- The characters that numerals are written in. -/
structure Notation (α : Type) where
  minus : α
  plus : α
  base : ℕ
  digit : α → Option ℕ

section Readers

variable [DecidableEq α] (form : Notation α)

/-- A numeral whose first character may be a sign. -/
def Notation.readSigned : List α → Option ℤ
  | [] => none
  | c :: text =>
      if c = form.minus then (readNat form.base form.digit text).map fun n => -(n : ℤ)
      else if c = form.plus then (readNat form.base form.digit text).map Int.ofNat
      else (readNat form.base form.digit (c :: text)).map Int.ofNat

/-- A numeral whose value lies between `low` and `high`. -/
def Notation.readInt (low high : ℤ) (text : List α) : Option ℤ :=
  (form.readSigned text).filter fun value => low ≤ value ∧ value ≤ high

theorem Notation.readInt_eq_some_iff {low high value : ℤ} {text : List α} :
    form.readInt low high text = some value ↔
      form.readSigned text = some value ∧ low ≤ value ∧ value ≤ high := by
  rw [readInt, Option.filter_eq_some_iff, decide_eq_true_eq]

/-- Without a sign the digits are read alone. -/
theorem Notation.readInt_of_readNat {low high : ℤ} {c : α} {text : List α} {n : ℕ}
    (noMinus : c ≠ form.minus) (noPlus : c ≠ form.plus)
    (read : readNat form.base form.digit (c :: text) = some n)
    (above : low ≤ n) (below : n ≤ high) :
    form.readInt low high (c :: text) = some (n : ℤ) := by
  refine form.readInt_eq_some_iff.mpr ⟨?_, above, below⟩
  rw [readSigned, if_neg noMinus, if_neg noPlus, read]
  rfl

end Readers

/-! ## The alphabet -/

theorem readFrom_map (base : ℕ) (digit : β → Option ℕ) (f : α → β) (value : ℕ) (text : List α) :
    readFrom base digit value (text.map f) = readFrom base (digit ∘ f) value text := by
  induction text generalizing value with
  | nil => rfl
  | cons c text ih =>
      rw [List.map_cons, readFrom, readFrom]
      congr 1
      funext d
      exact ih (value * base + d)

theorem readNat_map (base : ℕ) (digit : β → Option ℕ) (f : α → β) (text : List α) :
    readNat base digit (text.map f) = readNat base (digit ∘ f) text := by
  cases text with
  | nil => rfl
  | cons c text => exact readFrom_map base digit f 0 (c :: text)

/-- Only the digits of the characters in the text are looked up. -/
theorem readFrom_congr {base : ℕ} {digit digit' : α → Option ℕ} {text : List α}
    (same : ∀ c ∈ text, digit c = digit' c) (value : ℕ) :
    readFrom base digit value text = readFrom base digit' value text := by
  induction text generalizing value with
  | nil => rfl
  | cons c text ih =>
      rw [readFrom, readFrom, same c List.mem_cons_self]
      congr 1
      funext d
      exact ih (fun c mem => same c (List.mem_cons_of_mem _ mem)) (value * base + d)

theorem readNat_congr {base : ℕ} {digit digit' : α → Option ℕ} {text : List α}
    (same : ∀ c ∈ text, digit c = digit' c) :
    readNat base digit text = readNat base digit' text := by
  cases text with
  | nil => rfl
  | cons c text => exact readFrom_congr same 0

/-! ## Hexadecimal text -/

/-- Two digits at a time. -/
theorem readFrom_encode (bytes : List UInt8) (value : ℕ) :
    readFrom 16 Hex.digitValue value (Hex.encode bytes) =
      some (bytes.foldl (fun value byte => value * 256 + byte.toNat) value) := by
  induction bytes generalizing value with
  | nil => rfl
  | cons byte bytes ih =>
      have small := byte.toNat_lt
      have next : (value * 16 + byte.toNat / 16) * 16 + byte.toNat % 16 =
          value * 256 + byte.toNat := by omega
      rw [Hex.encode_cons, Hex.bytePair, List.cons_append, List.cons_append, List.nil_append,
        readFrom, Hex.digitValue_digitChar (by omega), Option.bind_some, readFrom,
        Hex.digitValue_digitChar (by omega), Option.bind_some, next, ih, List.foldl_cons]

theorem readNat_encode {bytes : List UInt8} (nonempty : bytes ≠ []) :
    readNat 16 Hex.digitValue (Hex.encode bytes) =
      some (bytes.foldl (fun value byte => value * 256 + byte.toNat) 0) := by
  cases bytes with
  | nil => exact absurd rfl nonempty
  | cons byte bytes => exact readFrom_encode (byte :: bytes) 0

/-- Hexadecimal digits keep their values under `f`, and none becomes a sign. -/
structure Notation.Hexadecimal (form : Notation α) (f : Char → α) : Prop where
  base : form.base = 16
  digit : ∀ c, Hex.isDigit c = true → form.digit (f c) = Hex.digitValue c
  ne_minus : ∀ c, Hex.isDigit c = true → f c ≠ form.minus
  ne_plus : ∀ c, Hex.isDigit c = true → f c ≠ form.plus

/-- What is written for bytes is read as their number, where that is in the range. -/
theorem Notation.readInt_encode [DecidableEq α] {form : Notation α} {f : Char → α}
    (hex : form.Hexadecimal f) {low high : ℤ} {bytes : List UInt8} {n : ℕ} (nonempty : bytes ≠ [])
    (value : bytes.foldl (fun value byte => value * 256 + byte.toNat) 0 = n)
    (above : low ≤ n) (below : n ≤ high) :
    form.readInt low high ((Hex.encode bytes).map f) = some (n : ℤ) := by
  have digits : ∀ c ∈ Hex.encode bytes, (form.digit ∘ f) c = Hex.digitValue c :=
    fun c mem => hex.digit c (Hex.isDigit_of_mem_encode mem)
  have read : readNat form.base form.digit ((Hex.encode bytes).map f) = some n := by
    rw [readNat_map, readNat_congr digits, hex.base, readNat_encode nonempty, value]
  cases shape : Hex.encode bytes with
  | nil =>
      rw [shape] at read
      cases read
  | cons c text =>
      have isDigit : Hex.isDigit c = true := Hex.isDigit_of_mem_encode (by
        rw [shape]
        exact List.mem_cons_self)
      rw [shape, List.map_cons] at read
      rw [List.map_cons]
      exact form.readInt_of_readNat (hex.ne_minus c isDigit) (hex.ne_plus c isDigit) read above
        below

end TheVoteApp.Foundations.Numerals
