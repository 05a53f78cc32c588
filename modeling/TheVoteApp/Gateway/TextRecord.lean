import TheVoteApp.Foundations.Numerals
import TheVoteApp.JavaScript.Literals
import TheVoteApp.Solidity.Abi

/-!
# The gateway lookup: the answer

`decodeABIString` takes the string out of what the public node answers: the offset in
the first word, the length in the word the offset leads to, and that many bytes.  The
answer is any text at all.

Neither app decodes UTF-8.  Each byte becomes the character of that number, so that a
string comes back exactly when it is ASCII (`latin1_eq_toList_iff`,
`latin1_eq_utf16_iff`).

Java's arithmetic wraps and all that goes wrong is caught; Swift's stops the app.
The iOS app checks each bound after it has computed it, and never the signs:
an offset or a length too large to be doubled and a negative offset stop the app, and
nothing else does (`Ios.decodeABIString_ok_iff`).

## Main definitions

* `Ios.decodeABIString`, `Android.decodeABIString`
* `encoded` — the standard encoding of a string, as the node writes it
* `IsAscii`, `Ios.Tame` — where the apps do what they should
-/

namespace TheVoteApp.GatewayResolver

open Solidity JavaScript Foundations Numerals

/-! ## The iOS app -/

namespace Ios

/-- A Swift `Character`: the scalars of a grapheme cluster. -/
structure Character where
  first : Char
  rest : List Char
deriving DecidableEq

/-- The scalars of a character. -/
def Character.scalars (c : Character) : List Char := c.first :: c.rest

/-- `Character(UnicodeScalar(c))` -/
def Character.ofScalar (c : Char) : Character := ⟨c, []⟩

/-- The bound of `Int`. -/
def limit : ℤ := 2 ^ 63

/-- A Swift `String`.  Its `count` is an `Int`. -/
structure Text where
  characters : List Character
  count_lt : (characters.length : ℤ) < limit

/-- How a Swift program stops. -/
inductive Trap where
  | overflow
  | outOfBounds
deriving DecidableEq

/-- The result of an operation on `Int`s. -/
def checked (n : ℤ) : Except Trap ℤ :=
  if -limit ≤ n ∧ n < limit then .ok n else .error .overflow

/-- The numerals that `Int(_:radix:)` reads. -/
def numerals : Notation Char where
  minus := '-'
  plus := '+'
  base := 16
  digit := Hex.digitValue

/-- `Int(text, radix: 16)`, which reads the scalars of the text. -/
def readInt (text : List Character) : Option ℤ :=
  numerals.readInt (-limit) (limit - 1) (text.flatMap Character.scalars)

/-- `UInt8(text, radix: 16)` -/
def readUInt8 (text : List Character) : Option ℤ :=
  numerals.readInt 0 255 (text.flatMap Character.scalars)

/-- `hex.hasPrefix("0x") ? String(hex.dropFirst(2)) : hex` -/
def dropPrefix : List Character → List Character
  | ⟨'0', []⟩ :: ⟨'x', []⟩ :: clean => clean
  | hex => hex

/-- `text[text.index(text.startIndex, offsetBy: n)...]` -/
def suffixFrom (text : List Character) (n : ℤ) : Except Trap (List Character) :=
  if 0 ≤ n ∧ n ≤ text.length then .ok (text.drop n.toNat) else .error .outOfBounds

/-- The loop over `strHex`: a pair that is no byte is passed over. -/
def appendBytes : List Character → Except Trap (List Char)
  | [] => .ok []
  | [_] => .error .outOfBounds
  | high :: low :: rest => do
      let result ← appendBytes rest
      match readUInt8 [high, low] with
      | some byte => return Char.ofNat byte.toNat :: result
      | none => return result

/-- What follows once `len` is read. -/
def decodeString (clean : List Character) (charOffset len : ℤ) :
    Except Trap (Option (List Char)) := do
  if len ≤ 0 then return none
  else
    let strStart ← checked (charOffset + 64)
    let size ← checked (len * 2)
    let strEnd ← checked (strStart + size)
    if clean.length < strEnd then return none
    else
      let tail ← suffixFrom clean strStart
      let result ← appendBytes (tail.take size.toNat)
      return some result

/-- What follows once `offset` is read. -/
def decodeFrom (clean : List Character) (offset : ℤ) : Except Trap (Option (List Char)) := do
  let charOffset ← checked (offset * 2)
  let wordEnd ← checked (charOffset + 64)
  if clean.length < wordEnd then return none
  else
    let word ← suffixFrom clean charOffset
    match readInt (word.take 64) with
    | none => return none
    | some len => decodeString clean charOffset len

/-- `decodeABIString` of the iOS app. -/
def decodeABIString (hex : Text) : Except Trap (Option (List Char)) :=
  let clean := dropPrefix hex.characters
  if clean.length < 128 then .ok none
  else
    match readInt (clean.take 64) with
    | none => .ok none
    | some offset => decodeFrom clean offset

/-- The offset and the length of the answer keep within `Int` when they are doubled and
added, and the offset is not negative. -/
def Tame (clean : List Character) : Prop :=
  128 ≤ clean.length → ∀ offset, readInt (clean.take 64) = some offset →
    0 ≤ offset ∧ offset * 2 + 64 < limit ∧
      (offset * 2 + 64 ≤ clean.length →
        ∀ len, readInt ((clean.drop (offset * 2).toNat).take 64) = some len → 0 < len →
          offset * 2 + 64 + len * 2 < limit)

end Ios

/-! ## The Android app -/

namespace Android

/-- The bound of `Int`. -/
def limit : ℤ := 2 ^ 31

/-- A Java `String`.  Its `length` is an `Int`. -/
structure Text where
  units : JavaScript.Text
  length_lt : (units.length : ℤ) < limit

/-- The exceptions that the body of the `try` throws. -/
inductive Exception where
  | numberFormat
  | stringIndexOutOfBounds
deriving DecidableEq

/-- `Character.digit` in base 16, which reads the digits of all scripts. -/
structure DigitTable where
  digit : CodeUnit → Option ℕ
  digit_ascii : ∀ c : Char, c.toNat < 128 → digit (UInt16.ofNat c.toNat) = Hex.digitValue c

/-- The result of an operation on `Int`s. -/
def wrap (n : ℤ) : ℤ := Int.bmod n (2 ^ 32)

/-- The numerals that `toInt(16)` reads. -/
def numerals (table : DigitTable) : Notation CodeUnit where
  minus := 0x2D
  plus := 0x2B
  base := 16
  digit := table.digit

/-- `removePrefix("0x")` -/
def removePrefix : JavaScript.Text → JavaScript.Text
  | 0x30 :: 0x78 :: clean => clean
  | hex => hex

/-- `substring(startIndex, endIndex)` -/
def substring (text : JavaScript.Text) (startIndex endIndex : ℤ) :
    Except Exception JavaScript.Text :=
  if 0 ≤ startIndex ∧ startIndex ≤ endIndex ∧ endIndex ≤ text.length then
    .ok ((text.drop startIndex.toNat).take (endIndex - startIndex).toNat)
  else .error .stringIndexOutOfBounds

/-- `chunked(2)` -/
def chunked : JavaScript.Text → List JavaScript.Text
  | [] => []
  | [u] => [[u]]
  | u :: v :: rest => [u, v] :: chunked rest

variable (table : DigitTable)

/-- `toInt(16)` -/
def toInt (text : JavaScript.Text) : Except Exception ℤ :=
  match (numerals table).readInt (-limit) (limit - 1) text with
  | some n => .ok n
  | none => .error .numberFormat

/-- `toInt(16).toChar()` -/
def toChar (text : JavaScript.Text) : Except Exception CodeUnit := do
  let n ← toInt table text
  return UInt16.ofNat (n % 2 ^ 16).toNat

/-- The body of the `try`. -/
def decodeBody (hex : JavaScript.Text) : Except Exception JavaScript.Text := do
  let clean := removePrefix hex
  let offsetHex ← substring clean 0 64
  let offset := wrap ((← toInt table offsetHex) * 2)
  let lenHex ← substring clean offset (wrap (offset + 64))
  let len ← toInt table lenHex
  let strHex ← substring clean (wrap (offset + 64)) (wrap (wrap (offset + 64) + wrap (len * 2)))
  (chunked strHex).mapM (toChar table)

/-- `decodeABIString` of the Android app, which catches every exception. -/
def decodeABIString (hex : Text) : Except Exception (Option JavaScript.Text) :=
  tryCatch (do return some (← decodeBody table hex.units)) fun _ => return none

end Android

/-! ## The encoding of a string -/

/-- The standard encoding of a string, as it is written in an answer. -/
def encoded (withPrefix : Bool) (s : String) : List Char :=
  (if withPrefix then ['0', 'x'] else []) ++ Hex.encode (Abi.encode [.dynamic (toUtf8Bytes s)])

/-- The string is of ASCII characters. -/
def IsAscii (s : String) : Prop := ∀ c ∈ s.toList, c.toNat < 128

instance (s : String) : Decidable (IsAscii s) := List.decidableBAll _ _

/-! ## Bytes as characters -/

theorem toUtf8Bytes_eq_flatMap (s : String) :
    toUtf8Bytes s = s.toList.flatMap String.utf8EncodeChar := by
  have bytes : s.toByteArray = (s.toList.flatMap String.utf8EncodeChar).toByteArray :=
    String.utf8Encode_toList.symm
  show s.toByteArray.data.toList = _
  rw [bytes, List.toList_data_toByteArray]

/-- Of two encodings, of which one is never the longer, the texts of equal length are
those whose characters all have codes of equal length. -/
theorem length_eq_of_flatMap {α β γ : Type} {f : α → List β} {g : α → List γ}
    (le : ∀ c, (g c).length ≤ (f c).length) {text : List α}
    (same : (text.flatMap f).length = (text.flatMap g).length) :
    ∀ c ∈ text, (f c).length = (g c).length := by
  have total : ∀ text : List α, (text.flatMap g).length ≤ (text.flatMap f).length := by
    intro text
    induction text with
    | nil => exact le_rfl
    | cons c text ih =>
        rw [List.flatMap_cons, List.flatMap_cons, List.length_append, List.length_append]
        exact Nat.add_le_add (le c) ih
  induction text with
  | nil =>
      intro c mem
      cases mem
  | cons c text ih =>
      have head := le c
      have rest := total text
      rw [List.flatMap_cons, List.flatMap_cons, List.length_append, List.length_append] at same
      intro d mem
      rcases List.mem_cons.mp mem with rfl | mem
      · omega
      · exact ih (by omega) d mem

theorem utf8Size_eq_one_iff (c : Char) : c.utf8Size = 1 ↔ c.toNat < 128 := by
  have value : c.val.toNat = c.toNat := rfl
  rw [Char.utf8Size_eq_one_iff, UInt32.le_iff_toNat_le, value]
  show c.toNat ≤ 127 ↔ _
  omega

theorem utf8Size_eq_four {c : Char} (large : ¬ c.toNat < 0x10000) : c.utf8Size = 4 := by
  have value : c.val.toNat = c.toNat := rfl
  rw [Char.utf8Size_eq_four_iff, UInt32.lt_iff_toNat_lt, value]
  show 0xffff < c.toNat
  omega

theorem utf8EncodeChar_of_lt {c : Char} (ascii : c.toNat < 128) :
    String.utf8EncodeChar c = [UInt8.ofNat c.toNat] := by
  rw [String.utf8EncodeChar_eq_singleton ((utf8Size_eq_one_iff c).mpr ascii)]
  rfl

/-- The bytes, read by `f` one at a time, are the codes of the characters under `g` where
each ASCII character's are. -/
theorem map_toUtf8Bytes_eq_iff {β : Type} {f : UInt8 → β} {g : Char → List β}
    (shorter : ∀ c, (g c).length ≤ c.utf8Size)
    (shorter_iff : ∀ c, (g c).length = c.utf8Size → c.toNat < 128)
    (ascii : ∀ c, c.toNat < 128 → [f (UInt8.ofNat c.toNat)] = g c) (s : String) :
    (toUtf8Bytes s).map f = s.toList.flatMap g ↔ IsAscii s := by
  rw [toUtf8Bytes_eq_flatMap]
  constructor
  · intro same c mem
    have lengths := congrArg List.length same
    rw [List.length_map] at lengths
    have each := length_eq_of_flatMap (fun c => by
      rw [String.length_utf8EncodeChar]
      exact shorter c) lengths c mem
    rw [String.length_utf8EncodeChar] at each
    exact shorter_iff c each.symm
  · intro all
    rw [List.map_flatMap]
    refine List.flatMap_congr fun c mem => ?_
    rw [utf8EncodeChar_of_lt (all c mem), List.map_singleton]
    exact ascii c (all c mem)

theorem toNat_ofNat_of_lt {n : ℕ} (ascii : n < 128) : (UInt8.ofNat n).toNat = n := by
  rw [UInt8.toNat_ofNat', Nat.mod_eq_of_lt (by omega)]

/-- In scalars. -/
theorem latin1_eq_toList_iff (s : String) :
    (toUtf8Bytes s).map (fun byte => Char.ofNat byte.toNat) = s.toList ↔ IsAscii s := by
  have each := map_toUtf8Bytes_eq_iff (f := fun byte => Char.ofNat byte.toNat)
    (g := fun c => [c]) (fun c => c.utf8Size_pos)
    (fun c one => (utf8Size_eq_one_iff c).mp one.symm)
    (fun c small => by
      rw [toNat_ofNat_of_lt small, Char.ofNat_toNat]) s
  rwa [List.flatMap_singleton'] at each

theorem length_utf16Units (c : Char) :
    (utf16Units c).length = if c.toNat < 0x10000 then 1 else 2 := by
  unfold utf16Units
  split
  · rfl
  · rfl

/-- In UTF-16. -/
theorem latin1_eq_utf16_iff (s : String) :
    (toUtf8Bytes s).map (fun byte => UInt16.ofNat byte.toNat) = utf16 s ↔ IsAscii s := by
  refine map_toUtf8Bytes_eq_iff (g := utf16Units) ?_ ?_ ?_ s
  · intro c
    rw [length_utf16Units]
    split
    · exact c.utf8Size_pos
    · rename_i large
      rw [utf8Size_eq_four large]
      decide
  · intro c same
    rw [length_utf16Units] at same
    split at same
    · exact (utf8Size_eq_one_iff c).mp same.symm
    · rename_i large
      rw [utf8Size_eq_four large] at same
      cases same
  · intro c small
    rw [toNat_ofNat_of_lt small, utf16Units, if_pos (by omega)]

/-! ## The iOS app -/

namespace Ios

theorem limit_eq : limit = 0x8000000000000000 := by norm_num [limit]

theorem checked_of_mem {n : ℤ} (above : -limit ≤ n) (below : n < limit) : checked n = .ok n :=
  if_pos ⟨above, below⟩

theorem checked_of_limit_le {n : ℤ} (large : limit ≤ n) : checked n = .error .overflow :=
  if_neg fun range => absurd range.2 (not_lt.mpr large)

/-- The loop never leaves a text of even length. -/
theorem appendBytes_ok {text : List Character} (even : text.length % 2 = 0) :
    ∃ result, appendBytes text = .ok result := by
  induction text using appendBytes.induct with
  | case1 => exact ⟨[], rfl⟩
  | case2 c => cases even
  | case3 high low rest ih =>
      obtain ⟨result, isResult⟩ := ih (by
        rw [List.length_cons, List.length_cons] at even
        omega)
      simp only [appendBytes, isResult]
      cases readUInt8 [high, low] with
      | none => exact ⟨result, rfl⟩
      | some byte => exact ⟨Char.ofNat byte.toNat :: result, rfl⟩

theorem decodeFrom_of_limit_le (clean : List Character) {offset : ℤ}
    (large : limit ≤ offset * 2 + 64) : decodeFrom clean offset = .error .overflow := by
  have bound := limit_eq
  by_cases fits : offset * 2 < limit
  · simp only [decodeFrom, checked_of_mem (show -limit ≤ offset * 2 by omega) fits, bind,
      Except.bind, checked_of_limit_le large]
  · simp only [decodeFrom, checked_of_limit_le (not_lt.mp fits), bind, Except.bind]

theorem decodeFrom_of_length_lt {clean : List Character} {offset : ℤ}
    (small : offset * 2 + 64 < limit) (short : (clean.length : ℤ) < offset * 2 + 64) :
    decodeFrom clean offset = .ok none := by
  have bound := limit_eq
  simp only [decodeFrom, checked_of_mem (show -limit ≤ offset * 2 by omega) (by omega), bind,
    Except.bind, checked_of_mem (show -limit ≤ offset * 2 + 64 by omega) small, if_pos short]
  rfl

section Bounds

variable {clean : List Character} (count : (clean.length : ℤ) < limit)
include count

/-- A string that ends within the text is read out of it. -/
theorem decodeString_eq {charOffset len : ℤ} (start : 0 ≤ charOffset) (positive : 0 < len)
    (within : charOffset + 64 + len * 2 ≤ clean.length) :
    decodeString clean charOffset len =
      (appendBytes ((clean.drop (charOffset + 64).toNat).take (len * 2).toNat)).map some := by
  have bound := limit_eq
  have begins : 0 ≤ charOffset + 64 ∧ charOffset + 64 ≤ clean.length := by omega
  simp only [decodeString, if_neg (not_le.mpr positive),
    checked_of_mem (show -limit ≤ charOffset + 64 by omega) (by omega),
    checked_of_mem (show -limit ≤ len * 2 by omega) (by omega), bind, Except.bind,
    checked_of_mem (show -limit ≤ charOffset + 64 + len * 2 by omega) (by omega),
    if_neg (not_lt.mpr within), suffixFrom, if_pos begins]
  cases appendBytes _ with
  | error trap => rfl
  | ok result => rfl

/-- What the length has to keep to. -/
theorem decodeString_ok_iff {charOffset len : ℤ} (start : 0 ≤ charOffset)
    (within : charOffset + 64 ≤ clean.length) :
    (∃ result, decodeString clean charOffset len = .ok result) ↔
      (0 < len → charOffset + 64 + len * 2 < limit) := by
  have bound := limit_eq
  constructor
  · rintro ⟨result, isResult⟩ positive
    by_contra large
    -- either the doubling or the sum overflows
    have wrong : decodeString clean charOffset len = .error .overflow := by
      simp only [decodeString, if_neg (not_le.mpr positive), bind, Except.bind,
        checked_of_mem (show -limit ≤ charOffset + 64 by omega) (by omega)]
      by_cases fits : len * 2 < limit
      · rw [checked_of_mem (by omega) fits]
        simp only [checked_of_limit_le (not_lt.mp large)]
      · simp only [checked_of_limit_le (not_lt.mp fits)]
    rw [wrong] at isResult
    cases isResult
  · intro fits
    by_cases positive : 0 < len
    · have small := fits positive
      by_cases short : (clean.length : ℤ) < charOffset + 64 + len * 2
      · refine ⟨none, ?_⟩
        simp only [decodeString, if_neg (not_le.mpr positive),
          checked_of_mem (show -limit ≤ charOffset + 64 by omega) (by omega),
          checked_of_mem (show -limit ≤ len * 2 by omega) (by omega), bind, Except.bind,
          checked_of_mem (show -limit ≤ charOffset + 64 + len * 2 by omega) small,
          if_pos short]
        rfl
      · have even : ((clean.drop (charOffset + 64).toNat).take (len * 2).toNat).length % 2 = 0 := by
          rw [List.length_take, List.length_drop]
          omega
        obtain ⟨result, isResult⟩ := appendBytes_ok even
        refine ⟨some result, ?_⟩
        rw [decodeString_eq count start positive (not_lt.mp short), isResult]
        rfl
    · refine ⟨none, ?_⟩
      rw [decodeString, if_pos (not_lt.mp positive)]
      rfl

/-- From an offset that keeps to its bounds on. -/
theorem decodeFrom_eq {offset : ℤ} (start : 0 ≤ offset)
    (within : offset * 2 + 64 ≤ clean.length) :
    decodeFrom clean offset =
      match readInt ((clean.drop (offset * 2).toNat).take 64) with
      | none => .ok none
      | some len => decodeString clean (offset * 2) len := by
  have bound := limit_eq
  have begins : 0 ≤ offset * 2 ∧ offset * 2 ≤ clean.length := by omega
  simp only [decodeFrom, checked_of_mem (show -limit ≤ offset * 2 by omega) (by omega), bind,
    Except.bind, checked_of_mem (show -limit ≤ offset * 2 + 64 by omega) (by omega),
    if_neg (not_lt.mpr within), suffixFrom, if_pos begins]
  rfl

/-- A negative offset is an index before the text, if it can be doubled at all. -/
theorem decodeFrom_of_neg {offset : ℤ} (negative : offset < 0) (long : 128 ≤ clean.length) :
    ∃ trap, decodeFrom clean offset = .error trap := by
  have bound := limit_eq
  by_cases fits : -limit ≤ offset * 2
  · refine ⟨.outOfBounds, ?_⟩
    -- the guard looks at the end of the word alone, which is within the text
    have before : ¬ (0 ≤ offset * 2 ∧ offset * 2 ≤ clean.length) := by omega
    have within : offset * 2 + 64 ≤ clean.length := by omega
    simp only [decodeFrom, checked_of_mem fits (by omega), bind, Except.bind,
      checked_of_mem (show -limit ≤ offset * 2 + 64 by omega) (by omega),
      if_neg (not_lt.mpr within), suffixFrom, if_neg before]
  · refine ⟨.overflow, ?_⟩
    have wrong : checked (offset * 2) = .error .overflow := if_neg fun range => fits range.1
    simp only [decodeFrom, wrong, bind, Except.bind]

/-- What the offset has to keep to. -/
theorem decodeFrom_ok_iff {offset : ℤ} (long : 128 ≤ clean.length) :
    (∃ result, decodeFrom clean offset = .ok result) ↔
      0 ≤ offset ∧ offset * 2 + 64 < limit ∧
        (offset * 2 + 64 ≤ clean.length →
          ∀ len, readInt ((clean.drop (offset * 2).toNat).take 64) = some len → 0 < len →
            offset * 2 + 64 + len * 2 < limit) := by
  by_cases start : 0 ≤ offset
  · by_cases small : offset * 2 + 64 < limit
    · by_cases within : offset * 2 + 64 ≤ clean.length
      · rw [decodeFrom_eq count start within]
        have begins : 0 ≤ offset * 2 := by omega
        cases read : readInt ((clean.drop (offset * 2).toNat).take 64) with
        | none => simp [start, small]
        | some len =>
            have step : (∃ result, decodeString clean (offset * 2) len = .ok result) ↔
                (0 < len → offset * 2 + 64 + len * 2 < limit) :=
              decodeString_ok_iff count begins within
            simp only [step, start, small, within, true_and, true_implies, Option.some.injEq,
              forall_eq']
      · rw [decodeFrom_of_length_lt small (not_le.mp within)]
        simp [start, small, within]
    · rw [decodeFrom_of_limit_le clean (not_lt.mp small)]
      simp [small]
  · obtain ⟨trap, stops⟩ := decodeFrom_of_neg count (not_le.mp start) long
    rw [stops]
    simp [start]

end Bounds

theorem length_dropPrefix_le (hex : List Character) : (dropPrefix hex).length ≤ hex.length := by
  unfold dropPrefix
  split
  · rw [List.length_cons, List.length_cons]
    omega
  · exact le_rfl

theorem count_dropPrefix_lt (hex : Text) : ((dropPrefix hex.characters).length : ℤ) < limit :=
  lt_of_le_of_lt (Int.ofNat_le.mpr (length_dropPrefix_le _)) hex.count_lt

/-- **The answers that stop the app.** -/
theorem decodeABIString_ok_iff (hex : Text) :
    (∃ result, decodeABIString hex = .ok result) ↔ Tame (dropPrefix hex.characters) := by
  have count := count_dropPrefix_lt hex
  unfold decodeABIString Tame
  by_cases long : 128 ≤ (dropPrefix hex.characters).length
  · simp only [if_neg (not_lt.mpr long)]
    cases read : readInt ((dropPrefix hex.characters).take 64) with
    | none => simp
    | some offset =>
        simp only [decodeFrom_ok_iff count long, long, true_implies, Option.some.injEq, forall_eq']
  · simp [long, not_le.mp long]

end Ios

/-! ## The encoding of a string -/

section Encoded

variable (s : String)

/-- The word of the offset, the word of the length, the bytes and their padding. -/
theorem encode_string :
    Hex.encode (Abi.encode [.dynamic (toUtf8Bytes s)]) =
      Hex.encode (bigEndian 32 32) ++ (Hex.encode (bigEndian 32 (toUtf8Bytes s).length) ++
        (Hex.encode (toUtf8Bytes s) ++
          Hex.encode (List.replicate (paddingLength (toUtf8Bytes s).length) 0))) := by
  simp only [Abi.encode, Abi.encodeFrom, padRight, List.length_cons, List.length_nil,
    List.append_nil, Hex.encode_append]

theorem length_toUtf8Bytes_pos {s : String} (nonempty : s ≠ "") : 0 < (toUtf8Bytes s).length := by
  rw [List.length_pos_iff]
  intro none
  apply nonempty
  apply toUtf8Bytes_injective
  rw [none]
  rfl

/-- The number in a word. -/
theorem value_word {n : ℕ} (small : n < 256 ^ 32) :
    (bigEndian 32 n).foldl (fun value byte => value * 256 + byte.toNat) 0 = n := by
  show ofBigEndian (bigEndian 32 n) = n
  rw [ofBigEndian_bigEndian, Nat.mod_eq_of_lt small]

theorem bigEndian_ne_nil (n : ℕ) : bigEndian 32 n ≠ [] := by
  rw [← List.length_pos_iff, bigEndian_length]
  decide

/-- The text begins with zeros. -/
theorem encode_string_start :
    ∃ digits, Hex.encode (Abi.encode [.dynamic (toUtf8Bytes s)]) = '0' :: '0' :: digits := by
  have word : bigEndian 32 32 = 0 :: (bigEndian 32 32).tail := by decide
  have pair : Hex.bytePair 0 = ['0', '0'] := by decide
  rw [encode_string, word, Hex.encode_cons, pair]
  exact ⟨_, rfl⟩

theorem length_map_word {α : Type} (f : Char → α) (n : ℕ) :
    ((Hex.encode (bigEndian 32 n)).map f).length = 64 := by
  rw [List.length_map, Hex.length_encode, bigEndian_length]

/-- Where the parts of a text are found, the first two of which are words. -/
theorem parts_of_append {α : Type} {first second : List α} (length : first.length = 64)
    (length' : second.length = 64) (third rest : List α) :
    let text := first ++ (second ++ (third ++ rest))
    text.take 64 = first ∧ (text.drop 64).take 64 = second ∧
      (text.drop 128).take third.length = third ∧ 128 + third.length ≤ text.length := by
  refine ⟨List.take_left' length, ?_, ?_, ?_⟩
  · rw [List.drop_left' length, List.take_left' length']
  · have behind : 128 = 64 + 64 := rfl
    rw [behind, ← List.drop_drop, List.drop_left' length, List.drop_left' length', List.take_left]
  · simp only [List.length_append]
    omega

/-- Where the offset, the length and the bytes of a string are found, in an alphabet. -/
theorem parts_of_encode_string {α : Type} (f : Char → α) {clean : List α}
    (isClean : clean = (Hex.encode (Abi.encode [.dynamic (toUtf8Bytes s)])).map f) :
    clean.take 64 = (Hex.encode (bigEndian 32 32)).map f ∧
      (clean.drop 64).take 64 = (Hex.encode (bigEndian 32 (toUtf8Bytes s).length)).map f ∧
      (clean.drop 128).take (2 * (toUtf8Bytes s).length) = (Hex.encode (toUtf8Bytes s)).map f ∧
      128 + 2 * (toUtf8Bytes s).length ≤ clean.length := by
  have parts := parts_of_append (length_map_word f 32) (length_map_word f (toUtf8Bytes s).length)
    ((Hex.encode (toUtf8Bytes s)).map f)
    ((Hex.encode (List.replicate (paddingLength (toUtf8Bytes s).length) 0)).map f)
  rw [List.length_map, Hex.length_encode] at parts
  rw [isClean, encode_string, List.map_append, List.map_append, List.map_append]
  exact parts

end Encoded

namespace Ios

theorem flatMap_scalars (text : List Char) :
    (text.map Character.ofScalar).flatMap Character.scalars = text := by
  rw [List.flatMap_map]
  exact List.flatMap_singleton' text

theorem hexadecimal : numerals.Hexadecimal id where
  base := rfl
  digit _ _ := rfl
  ne_minus := by
    rintro c isDigit rfl
    cases isDigit
  ne_plus := by
    rintro c isDigit rfl
    cases isDigit

theorem readInt_word {n : ℕ} (small : (n : ℤ) < limit) :
    readInt ((Hex.encode (bigEndian 32 n)).map Character.ofScalar) = some (n : ℤ) := by
  have bound := limit_eq
  have word : n < 256 ^ 32 := by
    have wide : 0x8000000000000000 < 256 ^ 32 := by norm_num
    omega
  have read : numerals.readInt (-limit) (limit - 1) ((Hex.encode (bigEndian 32 n)).map id) =
      some (n : ℤ) :=
    Notation.readInt_encode hexadecimal (bigEndian_ne_nil n) (value_word word) (by omega)
      (by omega)
  rw [readInt, flatMap_scalars]
  rwa [List.map_id] at read

theorem readUInt8_bytePair (byte : UInt8) :
    readUInt8 ((Hex.bytePair byte).map Character.ofScalar) = some (byte.toNat : ℤ) := by
  have small := byte.toNat_lt
  have read : numerals.readInt 0 255 ((Hex.encode [byte]).map id) = some (byte.toNat : ℤ) :=
    Notation.readInt_encode hexadecimal (List.cons_ne_nil byte []) (by simp) (by omega) (by omega)
  rw [readUInt8, flatMap_scalars]
  rwa [List.map_id, Hex.encode_cons, Hex.encode_nil, List.append_nil] at read

/-- The bytes of a string come out as characters of their numbers. -/
theorem appendBytes_encode (bytes : Bytes) :
    appendBytes ((Hex.encode bytes).map Character.ofScalar) =
      .ok (bytes.map fun byte => Char.ofNat byte.toNat) := by
  induction bytes with
  | nil => rfl
  | cons byte bytes ih =>
      have read := readUInt8_bytePair byte
      rw [Hex.bytePair, List.map_cons, List.map_cons, List.map_nil] at read
      rw [Hex.encode_cons, Hex.bytePair, List.cons_append, List.cons_append, List.nil_append,
        List.map_cons, List.map_cons, appendBytes, ih]
      simp only [bind, Except.bind, read]
      rfl

/-- With or without `0x`. -/
theorem dropPrefix_encoded (withPrefix : Bool) (s : String) :
    dropPrefix ((encoded withPrefix s).map Character.ofScalar) =
      (Hex.encode (Abi.encode [.dynamic (toUtf8Bytes s)])).map Character.ofScalar := by
  obtain ⟨digits, start⟩ := encode_string_start s
  rw [encoded, start]
  cases withPrefix with
  | true => rfl
  | false => rfl

/-- A well-formed answer, after `0x`: the string begins behind the second word. -/
theorem decodeABIString_of_words {hex : Text} {clean : List Character} {n : ℕ}
    (isClean : dropPrefix hex.characters = clean) (positive : 0 < n)
    (long : 128 + 2 * n ≤ clean.length) (offset : readInt (clean.take 64) = some 32)
    (len : readInt ((clean.drop 64).take 64) = some (n : ℤ)) :
    decodeABIString hex = (appendBytes ((clean.drop 128).take (2 * n))).map some := by
  have count := count_dropPrefix_lt hex
  rw [isClean] at count
  have enough : ¬ clean.length < 128 := by omega
  have begins : (32 * 2 : ℤ).toNat = 64 := rfl
  have start : (32 * 2 + 64 : ℤ).toNat = 128 := rfl
  have size : ((n : ℤ) * 2).toNat = 2 * n := by omega
  simp only [decodeABIString, isClean, if_neg enough, offset]
  rw [decodeFrom_eq count (by decide) (by omega), begins, len]
  show decodeString clean (32 * 2) n = _
  rw [decodeString_eq count (by decide) (by omega) (by omega), start, size]

/-- What the app makes of the encoding of a string. -/
theorem decodeABIString_encoded {s : String} (nonempty : s ≠ "") {withPrefix : Bool} {hex : Text}
    (isEncoded : hex.characters = (encoded withPrefix s).map Character.ofScalar) :
    decodeABIString hex =
      .ok (some ((toUtf8Bytes s).map fun byte => Char.ofNat byte.toNat)) := by
  have isClean := dropPrefix_encoded withPrefix s
  rw [← isEncoded] at isClean
  obtain ⟨offset, len, bytes, long⟩ := parts_of_encode_string s Character.ofScalar isClean
  have count := count_dropPrefix_lt hex
  have bound := limit_eq
  rw [decodeABIString_of_words rfl (length_toUtf8Bytes_pos nonempty) long
    (by rw [offset]; exact readInt_word (by omega))
    (by rw [len]; exact readInt_word (by omega)), bytes, appendBytes_encode]
  rfl

end Ios

namespace Android

/-- The code unit of an ASCII character. -/
def unit (c : Char) : CodeUnit := UInt16.ofNat c.toNat

theorem limit_eq : limit = 0x80000000 := by norm_num [limit]

theorem wrap_of_mem {n : ℤ} (above : -limit ≤ n) (below : n < limit) : wrap n = n := by
  rw [limit_eq] at above below
  exact Int.bmod_eq_of_le (show -(2 ^ 32 / 2 : ℤ) ≤ n by norm_num; omega)
    (show n < (2 ^ 32 + 1) / 2 by norm_num; omega)

theorem isDigit_lt {c : Char} (isDigit : Hex.isDigit c = true) : c.toNat < 128 := by
  have small : c ≤ '9' ∨ c ≤ 'f' ∨ c ≤ 'F' := by
    simp only [Hex.isDigit, Hex.digitValue] at isDigit
    split at isDigit
    · rename_i range
      exact .inl range.2
    · split at isDigit
      · rename_i range
        exact .inr (.inl range.2)
      · split at isDigit
        · rename_i range
          exact .inr (.inr range.2)
        · cases isDigit
  have values : ∀ d : Char, c ≤ d → c.toNat ≤ d.toNat := fun d le => le
  rcases small with le | le | le
  · exact lt_of_le_of_lt (values _ le) (by decide)
  · exact lt_of_le_of_lt (values _ le) (by decide)
  · exact lt_of_le_of_lt (values _ le) (by decide)

variable (table : DigitTable)

theorem unit_inj {c d : Char} (ascii : c.toNat < 128) (ascii' : d.toNat < 128)
    (same : unit c = unit d) : c = d := by
  have values := congrArg UInt16.toNat same
  have small : 128 < UInt16.size := by decide
  rw [unit, unit, UInt16.toNat_ofNat_of_lt' (ascii.trans small),
    UInt16.toNat_ofNat_of_lt' (ascii'.trans small)] at values
  exact Char.toNat_inj.mp values

theorem hexadecimal : (numerals table).Hexadecimal unit where
  base := rfl
  digit c isDigit := table.digit_ascii c (isDigit_lt isDigit)
  ne_minus c isDigit same := by
    obtain rfl : c = '-' := unit_inj (isDigit_lt isDigit) (by decide) same
    cases isDigit
  ne_plus c isDigit same := by
    obtain rfl : c = '+' := unit_inj (isDigit_lt isDigit) (by decide) same
    cases isDigit

theorem toInt_word {n : ℕ} (small : (n : ℤ) < limit) :
    toInt table ((Hex.encode (bigEndian 32 n)).map unit) = .ok (n : ℤ) := by
  have bound := limit_eq
  have word : n < 256 ^ 32 := by
    have wide : 0x80000000 < 256 ^ 32 := by norm_num
    omega
  rw [toInt, Notation.readInt_encode (hexadecimal table) (bigEndian_ne_nil n) (value_word word)
    (by omega) (by omega)]

theorem toChar_bytePair (byte : UInt8) :
    toChar table ((Hex.bytePair byte).map unit) = .ok (UInt16.ofNat byte.toNat) := by
  have bound := limit_eq
  have small := byte.toNat_lt
  have value : ((byte.toNat : ℤ) % 2 ^ 16).toNat = byte.toNat := by omega
  have read : (numerals table).readInt (-limit) (limit - 1) ((Hex.encode [byte]).map unit) =
      some (byte.toNat : ℤ) :=
    Notation.readInt_encode (hexadecimal table) (List.cons_ne_nil byte []) (by simp) (by omega)
      (by omega)
  rw [Hex.encode_cons, Hex.encode_nil, List.append_nil] at read
  simp only [toChar, toInt, read, bind, Except.bind, value]
  rfl

theorem mapM_toChar_encode (bytes : Bytes) :
    (chunked ((Hex.encode bytes).map unit)).mapM (toChar table) =
      .ok (bytes.map fun byte => UInt16.ofNat byte.toNat) := by
  induction bytes with
  | nil => rfl
  | cons byte bytes ih =>
      have read := toChar_bytePair table byte
      rw [Hex.bytePair, List.map_cons, List.map_cons, List.map_nil] at read
      rw [Hex.encode_cons, Hex.bytePair, List.cons_append, List.cons_append, List.nil_append,
        List.map_cons, List.map_cons, chunked, List.mapM_cons, read, ih]
      rfl

theorem removePrefix_encoded (withPrefix : Bool) (s : String) :
    removePrefix ((encoded withPrefix s).map unit) =
      (Hex.encode (Abi.encode [.dynamic (toUtf8Bytes s)])).map unit := by
  obtain ⟨digits, start⟩ := encode_string_start s
  rw [encoded, start]
  cases withPrefix with
  | true => rfl
  | false => rfl

theorem length_removePrefix_le (hex : JavaScript.Text) :
    (removePrefix hex).length ≤ hex.length := by
  unfold removePrefix
  split
  · rw [List.length_cons, List.length_cons]
    omega
  · exact le_rfl

theorem substring_eq (text : JavaScript.Text) {startIndex endIndex : ℤ} (start size : ℕ)
    (isStart : startIndex = start) (isEnd : endIndex = start + size)
    (within : start + size ≤ text.length) :
    substring text startIndex endIndex = .ok ((text.drop start).take size) := by
  have bounds : 0 ≤ startIndex ∧ startIndex ≤ endIndex ∧ endIndex ≤ text.length := by omega
  have atStart : startIndex.toNat = start := by omega
  have atSize : (endIndex - startIndex).toNat = size := by omega
  rw [substring, if_pos bounds, atStart, atSize]

theorem ok_bind {α β : Type} (a : α) (next : α → Except Exception β) :
    (Except.ok a >>= next) = next a := rfl

/-- A well-formed answer, after `0x`: the string begins behind the second word. -/
theorem decodeBody_of_words {hex clean : JavaScript.Text} {n : ℕ}
    (isClean : removePrefix hex = clean) (count : (clean.length : ℤ) < limit)
    (long : 128 + 2 * n ≤ clean.length) (offset : toInt table (clean.take 64) = .ok 32)
    (len : toInt table ((clean.drop 64).take 64) = .ok (n : ℤ)) :
    decodeBody table hex = (chunked ((clean.drop 128).take (2 * n))).mapM (toChar table) := by
  have bound := limit_eq
  have first : substring clean 0 64 = .ok (clean.take 64) :=
    substring_eq clean 0 64 rfl rfl (by omega)
  have second : substring clean 64 128 = .ok ((clean.drop 64).take 64) :=
    substring_eq clean 64 64 rfl rfl (by omega)
  have third : substring clean 128 (128 + (n : ℤ) * 2) = .ok ((clean.drop 128).take (2 * n)) :=
    substring_eq clean 128 (2 * n) rfl (by omega) long
  have begins : wrap (32 * 2) = 64 := by
    rw [wrap_of_mem (by omega) (by omega)]
    norm_num
  have start : wrap (64 + 64) = 128 := by
    rw [wrap_of_mem (by omega) (by omega)]
    norm_num
  have double : wrap ((n : ℤ) * 2) = (n : ℤ) * 2 := wrap_of_mem (by omega) (by omega)
  have stop : wrap (128 + (n : ℤ) * 2) = 128 + (n : ℤ) * 2 := wrap_of_mem (by omega) (by omega)
  rw [decodeBody, isClean, first, ok_bind, offset, ok_bind, begins]
  dsimp only
  rw [start, second, ok_bind, len, ok_bind, double, stop, third, ok_bind]

/-- What the app makes of the encoding of a string. -/
theorem decodeABIString_encoded (s : String) {withPrefix : Bool} {hex : Text}
    (isEncoded : hex.units = (encoded withPrefix s).map unit) :
    decodeABIString table hex =
      .ok (some ((toUtf8Bytes s).map fun byte => UInt16.ofNat byte.toNat)) := by
  have isClean := removePrefix_encoded withPrefix s
  rw [← isEncoded] at isClean
  obtain ⟨offset, len, bytes, long⟩ := parts_of_encode_string s unit isClean
  have count : ((removePrefix hex.units).length : ℤ) < limit :=
    lt_of_le_of_lt (Int.ofNat_le.mpr (length_removePrefix_le _)) hex.length_lt
  have bound := limit_eq
  have body := decodeBody_of_words table rfl count long
    (by rw [offset]; exact toInt_word table (by omega))
    (by rw [len]; exact toInt_word table (by omega))
  rw [bytes, mapM_toChar_encode] at body
  simp only [decodeABIString, body]
  rfl

/-- What goes wrong in the body is caught. -/
theorem decodeABIString_ok (hex : Text) : ∃ result, decodeABIString table hex = .ok result := by
  unfold decodeABIString
  cases decodeBody table hex.units with
  | ok text => exact ⟨some text, rfl⟩
  | error exception => exact ⟨none, rfl⟩

end Android

/-! ## Round trips and traps -/

/-- **Where `decodeABIString` is a safe inverse.**  A string comes back, on either
platform, exactly when it is ASCII.  The Android app always returns; the iOS app returns
exactly from tame answers. -/
theorem decodeABIString_safe_iff (table : Android.DigitTable) :
    (∀ s, s ≠ "" → ∀ withPrefix (hex : Ios.Text),
        hex.characters = (encoded withPrefix s).map Ios.Character.ofScalar →
          (Ios.decodeABIString hex = .ok (some s.toList) ↔ IsAscii s)) ∧
      (∀ s, s ≠ "" → ∀ withPrefix (hex : Android.Text),
        hex.units = (encoded withPrefix s).map Android.unit →
          (Android.decodeABIString table hex = .ok (some (utf16 s)) ↔ IsAscii s)) ∧
      (∀ hex : Ios.Text, (∃ result, Ios.decodeABIString hex = .ok result) ↔
        Ios.Tame (Ios.dropPrefix hex.characters)) ∧
      ∀ hex : Android.Text, ∃ result, Android.decodeABIString table hex = .ok result := by
  refine ⟨?_, ?_, Ios.decodeABIString_ok_iff, Android.decodeABIString_ok table⟩
  · intro s nonempty withPrefix hex isEncoded
    rw [Ios.decodeABIString_encoded nonempty isEncoded, Except.ok.injEq, Option.some.injEq]
    exact latin1_eq_toList_iff s
  · intro s nonempty withPrefix hex isEncoded
    rw [Android.decodeABIString_encoded table s isEncoded, Except.ok.injEq, Option.some.injEq]
    exact latin1_eq_utf16_iff s

/-! ## Two answers -/

/-- The digits of ASCII alone. -/
def asciiDigits : Android.DigitTable where
  digit u := if u.toNat < 128 then Hex.digitValue (Char.ofNat u.toNat) else none
  digit_ascii c ascii := by
    have value : (UInt16.ofNat c.toNat).toNat = c.toNat :=
      UInt16.toNat_ofNat_of_lt' (ascii.trans (by decide))
    rw [value, if_pos ascii, Char.ofNat_toNat]

/-- An answer on iOS, of ASCII characters. -/
def iosText (text : List Char) (short : (text.length : ℤ) < Ios.limit) : Ios.Text where
  characters := text.map Ios.Character.ofScalar
  count_lt := by rwa [List.length_map]

/-- The same on Android. -/
def androidText (text : List Char) (short : (text.length : ℤ) < Android.limit) :
    Android.Text where
  units := text.map Android.unit
  length_lt := by rwa [List.length_map]

/-- A CID comes back, on both platforms and with the prefix or without. -/
theorem decodeABIString_safe_iff_sample :
    Ios.decodeABIString (iosText (encoded true "QmT5NvUtoM5n") (by decide +kernel)) =
        .ok (some "QmT5NvUtoM5n".toList) ∧
      Android.decodeABIString asciiDigits
          (androidText (encoded false "QmT5NvUtoM5n") (by decide +kernel)) =
        .ok (some (utf16 "QmT5NvUtoM5n")) := by
  have ascii : IsAscii "QmT5NvUtoM5n" := by decide
  have safe := decodeABIString_safe_iff asciiDigits
  have ios := safe.1 "QmT5NvUtoM5n" (by decide) true
    (iosText (encoded true "QmT5NvUtoM5n") (by decide +kernel)) rfl
  have android := safe.2.1 "QmT5NvUtoM5n" (by decide) false
    (androidText (encoded false "QmT5NvUtoM5n") (by decide +kernel)) rfl
  exact ⟨ios.mpr ascii, android.mpr ascii⟩

/-- An offset of `2 ^ 63 - 1`, and a word behind it. -/
def hostile : List Char :=
  List.replicate 48 '0' ++ '7' :: List.replicate 15 'f' ++ List.replicate 64 '0'

/-- **An accent and an offset.**  The encoding of `é` comes back as two characters on both
platforms, and the iOS app does not survive the doubling of the largest `Int`. -/
theorem decodeABIString_counterexample :
    Ios.decodeABIString (iosText (encoded true "é") (by decide +kernel)) =
        .ok (some ['Ã', '©']) ∧
      (∀ table, Android.decodeABIString table
          (androidText (encoded true "é") (by decide +kernel)) = .ok (some (utf16 "Ã©"))) ∧
      ['Ã', '©'] ≠ "é".toList ∧ utf16 "Ã©" ≠ utf16 "é" ∧
      Ios.decodeABIString (iosText hostile (by decide +kernel)) = .error .overflow := by
  refine ⟨?_, ?_, by decide, by decide, ?_⟩
  · rw [Ios.decodeABIString_encoded (s := "é") (by decide) rfl]
    decide
  · intro table
    rw [Android.decodeABIString_encoded table "é" rfl]
    decide
  · have clean : Ios.dropPrefix (iosText hostile (by decide +kernel)).characters =
        hostile.map Ios.Character.ofScalar := by
      decide
    have long : ¬ (hostile.map Ios.Character.ofScalar).length < 128 := by decide +kernel
    have read : Ios.readInt ((hostile.map Ios.Character.ofScalar).take 64) =
        some 0x7fffffffffffffff := by
      decide
    rw [Ios.decodeABIString, clean]
    simp only [if_neg long, read]
    apply Ios.decodeFrom_of_limit_le
    rw [Ios.limit_eq]
    norm_num

end TheVoteApp.GatewayResolver
