import TheVoteApp.JavaScript.JsonRoundTrip
import TheVoteApp.Solidity.Abi

/-!
# Texts as bytes

`Buffer.from(text)` and `TextEncoder` write a text in UTF-8, with U+FFFD in place of a
surrogate that is alone.  What `JSON.stringify` prints has none: it escapes them
(`wellFormed_stringify`).  So a printed value arrives as it was printed
(`decodeUtf8_stringify`).

## Main definitions

* `WellFormed` — the text has no surrogate that is alone
* `encodeUtf8`, `decodeUtf8`
-/

namespace TheVoteApp.JavaScript

open Solidity

/-- The UTF-8 bytes of a text. -/
def encodeUtf8 (text : Text) : Bytes := toUtf8Bytes (String.ofList (scalarValues text))

/-- The text that the bytes are the UTF-8 of. -/
def decodeUtf8 (bytes : Bytes) : Option Text := (fromUtf8Bytes bytes).map utf16

theorem encodeUtf8_utf16 (text : String) : encodeUtf8 (utf16 text) = toUtf8Bytes text := by
  rw [encodeUtf8, scalarValues_utf16, String.ofList_toList]

/-! ## Well-formed texts -/

/-- The text is one of characters: no surrogate is alone. -/
def WellFormed (text : Text) : Prop := ∃ string : String, utf16 string = text

theorem WellFormed.utf16 (string : String) : WellFormed (utf16 string) := ⟨string, rfl⟩

theorem WellFormed.decodeUtf8_encodeUtf8 {text : Text} (wellFormed : WellFormed text) :
    decodeUtf8 (encodeUtf8 text) = some text := by
  obtain ⟨string, rfl⟩ := wellFormed
  rw [encodeUtf8_utf16, decodeUtf8, fromUtf8Bytes_toUtf8Bytes, Option.map_some]

theorem WellFormed.append {front back : Text} (wellFormed : WellFormed front)
    (wellFormed' : WellFormed back) : WellFormed (front ++ back) := by
  obtain ⟨string, rfl⟩ := wellFormed
  obtain ⟨string', rfl⟩ := wellFormed'
  exact ⟨string ++ string', utf16_append string string'⟩

theorem WellFormed.nil : WellFormed [] := ⟨"", rfl⟩

/-- One character. -/
theorem wellFormed_utf16Units (c : Char) : WellFormed (utf16Units c) := by
  refine ⟨String.ofList [c], ?_⟩
  unfold JavaScript.utf16
  rw [String.toList_ofList, List.flatMap_singleton]

theorem wellFormed_unit {u : CodeUnit} (high : ¬ isHighSurrogate u) (low : ¬ isLowSurrogate u) :
    WellFormed [u] := by
  have small : u.toNat < 0x10000 := u.toNat_lt
  rw [isHighSurrogate_iff_toNat] at high
  rw [isLowSurrogate_iff_toNat] at low
  have valid : u.toNat.isValidChar := by
    unfold Nat.isValidChar
    omega
  have value : (Char.ofNat u.toNat).toNat = u.toNat := by rw [Char.toNat_ofNat, if_pos valid]
  have units : utf16Units (Char.ofNat u.toNat) = [u] := by
    rw [utf16Units, value, if_pos small, UInt16.ofNat_toNat]
  rw [← units]
  exact wellFormed_utf16Units _

/-- A pair of surrogates. -/
theorem wellFormed_pair {u v : CodeUnit} (high : isHighSurrogate u) (low : isLowSurrogate v) :
    WellFormed [u, v] := by
  rw [isHighSurrogate_iff_toNat] at high
  rw [isLowSurrogate_iff_toNat] at low
  have valid : (0x10000 + (u.toNat - 0xD800) * 0x400 + (v.toNat - 0xDC00)).isValidChar := by
    unfold Nat.isValidChar
    omega
  have value := (Char.toNat_ofNat _).trans (if_pos valid)
  have units : utf16Units
      (Char.ofNat (0x10000 + (u.toNat - 0xD800) * 0x400 + (v.toNat - 0xDC00))) = [u, v] := by
    rw [utf16Units, value, if_neg (by omega)]
    have first : 0xD800 + (0x10000 + (u.toNat - 0xD800) * 0x400 + (v.toNat - 0xDC00) - 0x10000) /
        0x400 = u.toNat := by omega
    have second : 0xDC00 + (0x10000 + (u.toNat - 0xD800) * 0x400 + (v.toNat - 0xDC00) - 0x10000) %
        0x400 = v.toNat := by omega
    rw [first, second, UInt16.ofNat_toNat, UInt16.ofNat_toNat]
  rw [← units]
  exact wellFormed_utf16Units _

/-- Below the surrogates every unit is a character. -/
theorem wellFormed_of_lt {text : Text} (small : ∀ u ∈ text, u < 0xD800) : WellFormed text := by
  induction text with
  | nil => exact .nil
  | cons u text ih =>
      have below : u.toNat < 0xD800 := UInt16.lt_iff_toNat_lt.mp (small u List.mem_cons_self)
      have high : ¬ isHighSurrogate u := by
        rw [isHighSurrogate_iff_toNat]
        exact fun range => absurd (range.1.trans_lt below) (lt_irrefl _)
      have low : ¬ isLowSurrogate u := by
        rw [isLowSurrogate_iff_toNat]
        exact fun range => absurd (range.1.trans_lt below) (by decide)
      exact .append (wellFormed_unit high low)
        (ih fun v mem => small v (List.mem_cons_of_mem u mem))

/-! ## Printed texts are well-formed -/

theorem hexDigit_lt {n : ℕ} (small : n < 16) : hexDigit n < 0xD800 := by
  have value : (if n < 10 then 0x30 + n else 0x57 + n) < 0xD800 := by
    split <;> omega
  rw [hexDigit, UInt16.lt_iff_toNat_lt,
    UInt16.toNat_ofNat_of_lt' (value.trans (show 0xD800 < 0x10000 by decide))]
  exact value

theorem wellFormed_quoteUnit (u : CodeUnit) : WellFormed (quoteUnit u) := by
  have value : u.toNat < 65536 := u.toNat_lt
  unfold quoteUnit
  cases short : shortEscapes.lookup u with
  | some letter =>
      have letters : ∀ pair ∈ shortEscapes, pair.2 < 0xD800 := by simp [shortEscapes]
      obtain ⟨before, after, split, -⟩ := List.lookup_eq_some_iff.mp short
      have mem : (u, letter) ∈ shortEscapes := by simp [split]
      refine wellFormed_of_lt fun v mem' => ?_
      rcases List.mem_pair.mp mem' with rfl | rfl
      · decide
      · exact letters _ mem
  | none =>
      show WellFormed (if _ then _ else _)
      split
      · refine wellFormed_of_lt fun v mem => ?_
        simp only [hexDigits, List.mem_cons, List.not_mem_nil, or_false] at mem
        rcases mem with rfl | rfl | rfl | rfl | rfl | rfl
        · decide
        · decide
        · exact hexDigit_lt (by omega)
        · exact hexDigit_lt (by omega)
        · exact hexDigit_lt (by omega)
        · exact hexDigit_lt (by omega)
      · rename_i plain
        exact wellFormed_unit (fun high => plain (.inr (.inl high)))
          fun low => plain (.inr (.inr low))

theorem wellFormed_quoteUnits (text : Text) : WellFormed (quoteUnits text) := by
  induction text using quoteUnits.induct with
  | case1 => exact .nil
  | case2 u => exact wellFormed_quoteUnit u
  | case3 u v rest pair ih =>
      rw [quoteUnits, if_pos pair]
      exact .append (wellFormed_pair pair.1 pair.2) ih
  | case4 u v rest pair ih =>
      rw [quoteUnits, if_neg pair]
      exact .append (wellFormed_quoteUnit u) ih

theorem wellFormed_quote (text : Text) : WellFormed (quote text) := by
  have mark : WellFormed [0x22] := wellFormed_of_lt (by simp)
  exact mark.append ((wellFormed_quoteUnits text).append mark)

theorem wellFormed_newline (spaces depth : ℕ) : WellFormed (newline spaces depth) := by
  refine wellFormed_of_lt fun u mem => ?_
  have white := white_newline spaces depth u mem
  rcases of_decide_eq_true white with rfl | rfl | rfl | rfl
  · decide
  · decide
  · decide
  · decide

theorem wellFormed_joinParts {spaces depth : ℕ} {parts : List Text}
    (all : ∀ part ∈ parts, WellFormed part) : WellFormed (joinParts spaces depth parts) := by
  induction parts using joinParts.induct with
  | case1 => exact .nil
  | case2 part => exact all part List.mem_cons_self
  | case3 part next parts ih =>
      have comma : WellFormed [0x2C] := wellFormed_of_lt (by simp)
      have later := ih fun other mem => all other (List.mem_cons_of_mem part mem)
      exact (all part List.mem_cons_self).append
        (comma.append ((wellFormed_newline spaces depth).append later))

theorem wellFormed_enclose {opening closing : CodeUnit} {spaces depth : ℕ} {parts : List Text}
    (opens : opening < 0xD800) (closes : closing < 0xD800)
    (all : ∀ part ∈ parts, WellFormed part) :
    WellFormed (enclose opening closing spaces depth parts) := by
  have first : WellFormed [opening] := wellFormed_of_lt (by simpa using opens)
  have last : WellFormed [closing] := wellFormed_of_lt (by simpa using closes)
  unfold enclose
  split
  · exact first.append last
  · exact first.append ((((wellFormed_newline spaces (depth + 1)).append
      (wellFormed_joinParts all)).append (wellFormed_newline spaces depth)).append last)

theorem lt_of_isScalarUnit {u : CodeUnit} (scalar : isScalarUnit u) : u < 0xD800 := by
  simp only [isScalarUnit, isDigit, decide_eq_true_eq, UInt16.le_iff_toNat_le] at scalar
  rw [UInt16.lt_iff_toNat_lt]
  rcases scalar with h | h | h | rfl | rfl | rfl
  · exact lt_of_le_of_lt h.2 (by decide)
  · exact lt_of_le_of_lt h.2 (by decide)
  · exact lt_of_le_of_lt h.2 (by decide)
  · decide
  · decide
  · decide

variable {format : NumberFormat} {spaces : ℕ}

theorem wellFormed_printNumber (x : format.Number) : WellFormed (printNumber format x) := by
  unfold printNumber
  cases printed : format.print x with
  | none => exact wellFormed_of_lt (by simp [nullText])
  | some text =>
      obtain ⟨literal, read, -⟩ := NumberFormat.literal_of_print printed
      exact wellFormed_of_lt fun u mem => lt_of_isScalarUnit ((scalar_of_readLiteral read).2 u mem)

theorem wellFormed_printValue {v : Value format.Number} (ordered : v.Ordered) (depth : ℕ) :
    WellFormed (printValue format spaces depth v) := by
  induction ordered generalizing depth with
  | null => exact wellFormed_of_lt (by simp [printValue, nullText])
  | bool b =>
      cases b with
      | true => exact wellFormed_of_lt (by simp [printValue, trueText])
      | false => exact wellFormed_of_lt (by simp [printValue, falseText])
  | number x => exact wellFormed_printNumber x
  | string text => exact wellFormed_quote text
  | array all ih =>
      rw [printValue, printItems_eq_map]
      refine wellFormed_enclose (by decide) (by decide) fun part mem => ?_
      obtain ⟨v, inside, rfl⟩ := List.mem_map.mp mem
      exact ih v inside (depth + 1)
  | object inOrder all ih =>
      rw [printValue, printMembers_eq_map]
      refine wellFormed_enclose (by decide) (by decide) fun part mem => ?_
      obtain ⟨member, inside, rfl⟩ := List.mem_map.mp mem
      have colons : WellFormed (colon spaces) := by
        unfold colon
        split
        · exact wellFormed_of_lt (by simp)
        · exact wellFormed_of_lt (by simp)
      exact ((wellFormed_quote member.1).append colons).append (ih member inside (depth + 1))

/-- **What is printed is well-formed**, whatever the strings in it are. -/
theorem wellFormed_stringify {v : Value format.Number} (ordered : v.Ordered) :
    WellFormed (stringify format spaces v) :=
  wellFormed_printValue ordered 0

/-- The bytes of a printed value are read as the printed text. -/
theorem decodeUtf8_stringify {v : Value format.Number} (ordered : v.Ordered) :
    decodeUtf8 (encodeUtf8 (stringify format spaces v)) = some (stringify format spaces v) :=
  (wellFormed_stringify ordered).decodeUtf8_encodeUtf8

end TheVoteApp.JavaScript
