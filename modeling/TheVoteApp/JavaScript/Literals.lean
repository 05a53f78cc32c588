import Mathlib

/-!
# Literals of JSON

Texts of UTF-16 code units, string literals as `JSON.stringify` writes them and
`JSON.parse` reads them, and number literals.

## Main definitions

* `Text` — a JavaScript string
* `utf16`, `scalarValues` — the code units of characters, and the characters of units
* `quote`, `readString` — string literals
* `readLiteral`, `decimal` — number literals, and the digits of a natural number
* `NumberFormat` — how the numbers of the language are printed and read

## Main results

* `readString_quoteUnits` — a quoted string is read back, whatever follows
* `readLiteral_decimal` — so is a natural number

## Design notes

The grammar of number literals is defined here (`readLiteral`); which number a
literal stands for, and which literal a number is printed as, is a parameter with
a few laws.
-/

namespace TheVoteApp.JavaScript

/-- A UTF-16 code unit. -/
abbrev CodeUnit := UInt16

/-- A string: any sequence of code units, lone surrogates included. -/
abbrev Text := List CodeUnit

/-- The code units of a character. -/
def utf16Units (c : Char) : Text :=
  if c.toNat < 0x10000 then [UInt16.ofNat c.toNat]
  else [UInt16.ofNat (0xD800 + (c.toNat - 0x10000) / 0x400),
    UInt16.ofNat (0xDC00 + (c.toNat - 0x10000) % 0x400)]

/-- The code units of a text of characters. -/
def utf16 (text : String) : Text := text.toList.flatMap utf16Units

/-- The first half of a pair. -/
def isHighSurrogate (u : CodeUnit) : Bool := 0xD800 ≤ u ∧ u ≤ 0xDBFF

/-- The second half of a pair. -/
def isLowSurrogate (u : CodeUnit) : Bool := 0xDC00 ≤ u ∧ u ≤ 0xDFFF

/-- The characters of a string; `none` when a surrogate is alone. -/
def readUtf16 : Text → Option (List Char)
  | [] => some []
  | u :: rest =>
      if isHighSurrogate u then
        match rest with
        | [] => none
        | v :: rest =>
            if isLowSurrogate v then
              (readUtf16 rest).map fun chars =>
                Char.ofNat (0x10000 + (u.toNat - 0xD800) * 0x400 + (v.toNat - 0xDC00)) :: chars
            else none
      else if isLowSurrogate u then none
      else (readUtf16 rest).map fun chars => Char.ofNat u.toNat :: chars

/-- The characters of a text, U+FFFD for a surrogate that is alone. -/
def scalarValues : Text → List Char
  | [] => []
  | [u] => [if isHighSurrogate u ∨ isLowSurrogate u then '\uFFFD' else Char.ofNat u.toNat]
  | u :: v :: rest =>
      if isHighSurrogate u then
        if isLowSurrogate v then
          Char.ofNat (0x10000 + (u.toNat - 0xD800) * 0x400 + (v.toNat - 0xDC00)) ::
            scalarValues rest
        else '\uFFFD' :: scalarValues (v :: rest)
      else if isLowSurrogate u then '\uFFFD' :: scalarValues (v :: rest)
      else Char.ofNat u.toNat :: scalarValues (v :: rest)

theorem isHighSurrogate_iff_toNat {u : CodeUnit} :
    isHighSurrogate u = true ↔ 0xD800 ≤ u.toNat ∧ u.toNat ≤ 0xDBFF := by
  rw [isHighSurrogate, decide_eq_true_eq, UInt16.le_iff_toNat_le, UInt16.le_iff_toNat_le]
  exact Iff.rfl

theorem isLowSurrogate_iff_toNat {u : CodeUnit} :
    isLowSurrogate u = true ↔ 0xDC00 ≤ u.toNat ∧ u.toNat ≤ 0xDFFF := by
  rw [isLowSurrogate, decide_eq_true_eq, UInt16.le_iff_toNat_le, UInt16.le_iff_toNat_le]
  exact Iff.rfl

theorem isHighSurrogate_iff {n : ℕ} (small : n < 0x10000) :
    isHighSurrogate (UInt16.ofNat n) = true ↔ 0xD800 ≤ n ∧ n ≤ 0xDBFF := by
  rw [isHighSurrogate_iff_toNat, UInt16.toNat_ofNat_of_lt' small]

theorem isLowSurrogate_iff {n : ℕ} (small : n < 0x10000) :
    isLowSurrogate (UInt16.ofNat n) = true ↔ 0xDC00 ≤ n ∧ n ≤ 0xDFFF := by
  rw [isLowSurrogate_iff_toNat, UInt16.toNat_ofNat_of_lt' small]

theorem readUtf16_utf16Units (c : Char) (rest : Text) :
    readUtf16 (utf16Units c ++ rest) = (readUtf16 rest).map fun chars => c :: chars := by
  have valid : c.toNat < 0xD800 ∨ 0xDFFF < c.toNat ∧ c.toNat < 0x110000 := c.valid
  rw [utf16Units]
  split
  · rename_i small
    have notHigh : ¬ isHighSurrogate (UInt16.ofNat c.toNat) := by
      rw [isHighSurrogate_iff small]
      omega
    have notLow : ¬ isLowSurrogate (UInt16.ofNat c.toNat) := by
      rw [isLowSurrogate_iff small]
      omega
    have value : (UInt16.ofNat c.toNat).toNat = c.toNat := UInt16.toNat_ofNat_of_lt' small
    rw [List.singleton_append, readUtf16.eq_def]
    simp only [if_neg notHigh, if_neg notLow, value, Char.ofNat_toNat]
  · rename_i large
    have high : isHighSurrogate (UInt16.ofNat (0xD800 + (c.toNat - 0x10000) / 0x400)) := by
      rw [isHighSurrogate_iff (by omega)]
      omega
    have low : isLowSurrogate (UInt16.ofNat (0xDC00 + (c.toNat - 0x10000) % 0x400)) := by
      rw [isLowSurrogate_iff (by omega)]
      omega
    have valueHigh : (UInt16.ofNat (0xD800 + (c.toNat - 0x10000) / 0x400)).toNat =
        0xD800 + (c.toNat - 0x10000) / 0x400 :=
      UInt16.toNat_ofNat_of_lt' (show _ < 0x10000 by omega)
    have valueLow : (UInt16.ofNat (0xDC00 + (c.toNat - 0x10000) % 0x400)).toNat =
        0xDC00 + (c.toNat - 0x10000) % 0x400 :=
      UInt16.toNat_ofNat_of_lt' (show _ < 0x10000 by omega)
    have value : 0x10000 + (0xD800 + (c.toNat - 0x10000) / 0x400 - 0xD800) * 0x400 +
        (0xDC00 + (c.toNat - 0x10000) % 0x400 - 0xDC00) = c.toNat := by omega
    rw [List.cons_append, List.singleton_append, readUtf16.eq_def]
    simp only [if_pos high, if_pos low, valueHigh, valueLow, value, Char.ofNat_toNat]

/-- Every text of characters is read back. -/
theorem readUtf16_utf16 (text : String) : readUtf16 (utf16 text) = some text.toList := by
  unfold utf16
  induction text.toList with
  | nil => rfl
  | cons c chars ih => rw [List.flatMap_cons, readUtf16_utf16Units, ih, Option.map_some]

theorem utf16_injective : Function.Injective utf16 := fun text text' same => by
  have read := readUtf16_utf16 text
  rw [same, readUtf16_utf16] at read
  exact (String.toList_inj.mp (Option.some.inj read)).symm

/-- Where all characters can be read, none is replaced. -/
theorem scalarValues_of_readUtf16 {text : Text} {chars : List Char}
    (read : readUtf16 text = some chars) : scalarValues text = chars := by
  induction text using scalarValues.induct generalizing chars with
  | case1 => exact Option.some.inj read
  | case2 u =>
      rw [readUtf16.eq_def] at read
      by_cases high : isHighSurrogate u
      · simp only [if_pos high] at read
        cases read
      by_cases low : isLowSurrogate u
      · simp only [if_neg high, if_pos low] at read
        cases read
      simp only [if_neg high, if_neg low] at read
      rw [scalarValues, if_neg (by simp [high, low])]
      exact Option.some.inj read
  | case3 u v rest high low ih =>
      rw [readUtf16.eq_def] at read
      simp only [if_pos high, if_pos low] at read
      obtain ⟨chars, inside, rfl⟩ := Option.map_eq_some_iff.mp read
      rw [scalarValues, if_pos high, if_pos low, ih inside]
  | case4 u v rest high low ih =>
      rw [readUtf16.eq_def] at read
      simp only [if_pos high, if_neg low] at read
      cases read
  | case5 u v rest high low ih =>
      rw [readUtf16.eq_def] at read
      simp only [if_neg high, if_pos low] at read
      cases read
  | case6 u v rest high low ih =>
      rw [readUtf16.eq_def] at read
      simp only [if_neg high, if_neg low] at read
      obtain ⟨chars, inside, rfl⟩ := Option.map_eq_some_iff.mp read
      rw [scalarValues, if_neg high, if_neg low, ih inside]

theorem scalarValues_utf16 (text : String) : scalarValues (utf16 text) = text.toList :=
  scalarValues_of_readUtf16 (readUtf16_utf16 text)

theorem utf16_append (front back : String) : utf16 (front ++ back) = utf16 front ++ utf16 back := by
  unfold utf16
  rw [String.toList_append, List.flatMap_append]

/-! ## String literals -/

/-- The escapes of one letter that are written: the unit, and the letter. -/
def shortEscapes : List (CodeUnit × CodeUnit) :=
  [(0x08, 0x62), (0x09, 0x74), (0x0A, 0x6E), (0x0C, 0x66), (0x0D, 0x72), (0x22, 0x22), (0x5C, 0x5C)]

/-- The letters that are read after a backslash: the letter, and the unit. -/
def letterEscapes : List (CodeUnit × CodeUnit) :=
  [(0x62, 0x08), (0x74, 0x09), (0x6E, 0x0A), (0x66, 0x0C), (0x72, 0x0D), (0x22, 0x22), (0x5C, 0x5C),
    (0x2F, 0x2F)]

/-- The digit of a number below 16, in lower case. -/
def hexDigit (n : ℕ) : CodeUnit := UInt16.ofNat (if n < 10 then 0x30 + n else 0x57 + n)

/-- The value of a digit, of either case. -/
def readHexDigit (u : CodeUnit) : Option ℕ :=
  if 0x30 ≤ u ∧ u ≤ 0x39 then some (u.toNat - 0x30)
  else if 0x61 ≤ u ∧ u ≤ 0x66 then some (u.toNat - 0x57)
  else if 0x41 ≤ u ∧ u ≤ 0x46 then some (u.toNat - 0x37)
  else none

/-- Four hexadecimal digits. -/
def hexDigits (u : CodeUnit) : Text :=
  [hexDigit (u.toNat / 4096), hexDigit (u.toNat / 256 % 16), hexDigit (u.toNat / 16 % 16),
    hexDigit (u.toNat % 16)]

/-- The unit that four digits stand for. -/
def readHexDigits (a b c d : CodeUnit) : Option CodeUnit := do
  let a ← readHexDigit a
  let b ← readHexDigit b
  let c ← readHexDigit c
  let d ← readHexDigit d
  return UInt16.ofNat (((a * 16 + b) * 16 + c) * 16 + d)

/-- `QuoteJSONString` on a code unit that is not half of a pair. -/
def quoteUnit (u : CodeUnit) : Text :=
  match shortEscapes.lookup u with
  | some letter => [0x5C, letter]
  | none =>
    if u < 0x20 ∨ isHighSurrogate u ∨ isLowSurrogate u then 0x5C :: 0x75 :: hexDigits u else [u]

/-- A text between its quotation marks.  A pair of surrogates is left as it is. -/
def quoteUnits : Text → Text
  | [] => []
  | [u] => quoteUnit u
  | u :: v :: rest =>
      if isHighSurrogate u ∧ isLowSurrogate v then u :: v :: quoteUnits rest
      else quoteUnit u ++ quoteUnits (v :: rest)

/-- `QuoteJSONString`. -/
def quote (text : Text) : Text := 0x22 :: (quoteUnits text ++ [0x22])

/-- A string literal after its quotation mark: what it stands for, and what
follows. -/
def readString : Text → Option (Text × Text)
  | [] => none
  | u :: rest =>
      if u = 0x22 then some ([], rest)
      else if u < 0x20 then none
      else if u = 0x5C then
        match rest with
        | [] => none
        | letter :: rest =>
            if letter = 0x75 then
              match rest with
              | a :: b :: c :: d :: rest =>
                  (readHexDigits a b c d).bind fun unit =>
                    (readString rest).map fun (text, rest) => (unit :: text, rest)
              | _ => none
            else
              (letterEscapes.lookup letter).bind fun unit =>
                (readString rest).map fun (text, rest) => (unit :: text, rest)
      else (readString rest).map fun (text, rest) => (u :: text, rest)

theorem readHexDigit_hexDigit {n : ℕ} (small : n < 16) : readHexDigit (hexDigit n) = some n := by
  have all : ∀ n < 16, readHexDigit (hexDigit n) = some n := by decide
  exact all n small

theorem readHexDigits_hexDigits (u : CodeUnit) :
    readHexDigits (hexDigit (u.toNat / 4096)) (hexDigit (u.toNat / 256 % 16))
      (hexDigit (u.toNat / 16 % 16)) (hexDigit (u.toNat % 16)) = some u := by
  have small : u.toNat < 65536 := u.toNat_lt
  have value : ((u.toNat / 4096 * 16 + u.toNat / 256 % 16) * 16 + u.toNat / 16 % 16) * 16 +
      u.toNat % 16 = u.toNat := by omega
  rw [readHexDigits, readHexDigit_hexDigit (by omega), readHexDigit_hexDigit (by omega),
    readHexDigit_hexDigit (by omega), readHexDigit_hexDigit (by omega)]
  simp only [Option.bind_eq_bind, Option.bind_some, Option.pure_def, value, UInt16.ofNat_toNat]

/-- A unit that stands for itself. -/
theorem readString_cons {u : CodeUnit} (plain : u ≠ 0x22 ∧ ¬ u < 0x20 ∧ u ≠ 0x5C) (rest : Text) :
    readString (u :: rest) = (readString rest).map fun (text, rest) => (u :: text, rest) := by
  rw [readString.eq_def]
  simp only [if_neg plain.1, if_neg plain.2.1, if_neg plain.2.2]

theorem readString_quotationMark (rest : Text) : readString (0x22 :: rest) = some ([], rest) := by
  rw [readString.eq_def]
  exact if_pos rfl

theorem readString_quoteUnit (u : CodeUnit) (rest : Text) :
    readString (quoteUnit u ++ rest) =
      (readString rest).map fun (text, rest) => (u :: text, rest) := by
  unfold quoteUnit
  cases short : shortEscapes.lookup u with
  | some letter =>
      -- the two tables of escapes are inverse to each other
      have pairs : ∀ pair ∈ shortEscapes, pair.2 ≠ 0x75 ∧
          letterEscapes.lookup pair.2 = some pair.1 := by
        simp [shortEscapes, letterEscapes, List.lookup]
      have mem : (u, letter) ∈ shortEscapes := by
        obtain ⟨before, after, split, -⟩ := List.lookup_eq_some_iff.mp short
        rw [split]
        exact List.mem_append_right _ List.mem_cons_self
      obtain ⟨notHex, back⟩ := pairs (u, letter) mem
      show readString (0x5C :: letter :: rest) = _
      rw [readString.eq_def]
      simp only [show (0x5C : CodeUnit) ≠ 0x22 by decide, show ¬ (0x5C : CodeUnit) < 0x20 by decide,
        if_false, if_true, if_neg notHex, back, Option.bind_some]
  | none =>
      have notShort : ∀ pair ∈ shortEscapes, pair.1 ≠ u := by
        intro pair mem same
        rw [List.lookup_eq_none_iff] at short
        exact absurd same.symm (by simpa using short pair mem)
      show readString ((if _ then _ else _) ++ rest) = _
      split
      · show readString (0x5C :: 0x75 :: hexDigit _ :: hexDigit _ :: hexDigit _ :: hexDigit _ ::
          rest) = _
        rw [readString.eq_def]
        simp only [show (0x5C : CodeUnit) ≠ 0x22 by decide,
          show ¬ (0x5C : CodeUnit) < 0x20 by decide, if_false, if_true, readHexDigits_hexDigits,
          Option.bind_some]
      · rename_i plain
        refine readString_cons ⟨?_, fun control => plain (.inl control), ?_⟩ rest
        · exact (notShort (0x22, 0x22) (by decide)).symm
        · exact (notShort (0x5C, 0x5C) (by decide)).symm

/-- **String literals are read back.** -/
theorem readString_quoteUnits (text rest : Text) :
    readString (quoteUnits text ++ 0x22 :: rest) = some (text, rest) := by
  induction text using quoteUnits.induct with
  | case1 => exact readString_quotationMark rest
  | case2 u =>
      rw [quoteUnits, readString_quoteUnit, readString_quotationMark]
      rfl
  | case3 u v text pair ih =>
      have plain {w : CodeUnit} (surrogate : 0xD800 ≤ w.toNat) :
          w ≠ 0x22 ∧ ¬ w < 0x20 ∧ w ≠ 0x5C := by
        refine ⟨?_, ?_, ?_⟩
        · rintro rfl
          exact absurd surrogate (by decide)
        · rw [UInt16.lt_iff_toNat_lt]
          exact fun small => absurd (surrogate.trans_lt small) (by decide)
        · rintro rfl
          exact absurd surrogate (by decide)
      have high : 0xD800 ≤ u.toNat := UInt16.le_iff_toNat_le.mp (of_decide_eq_true pair.1).1
      have low : 0xDC00 ≤ v.toNat := UInt16.le_iff_toNat_le.mp (of_decide_eq_true pair.2).1
      rw [quoteUnits, if_pos pair, List.cons_append, List.cons_append, readString_cons (plain high),
        readString_cons (plain (le_trans (by decide) low)), ih]
      rfl
  | case4 u v text pair ih =>
      rw [quoteUnits, if_neg pair, List.append_assoc, readString_quoteUnit, ih]
      rfl

/-! ## Number literals -/

/-- A decimal digit. -/
def isDigit (u : CodeUnit) : Bool := 0x30 ≤ u ∧ u ≤ 0x39

/-- The number a run of digits stands for. -/
def digitsValue (digits : Text) : ℕ := digits.foldl (fun n u => 10 * n + (u.toNat - 0x30)) 0

/-- The decimal digits of a number. -/
def decimal (n : ℕ) : Text := (Nat.toDigits 10 n).map fun c => UInt16.ofNat c.toNat

/-- What a literal says: a sign, and `digits * 10 ^ exponent`. -/
structure Literal where
  negative : Bool
  digits : ℕ
  exponent : ℤ
deriving DecidableEq

/-- The digits after a decimal point, if there is one. -/
def readFraction : Text → Option (Text × Text)
  | [] => some ([], [])
  | u :: rest =>
      if u = 0x2E then
        if rest.takeWhile isDigit = [] then none
        else some (rest.takeWhile isDigit, rest.dropWhile isDigit)
      else some ([], u :: rest)

/-- The digits of an exponent that ends the literal. -/
def readExponentDigits (digits : Text) : Option ℕ :=
  if digits = [] ∨ ¬ digits.all isDigit then none else some (digitsValue digits)

/-- The exponent, if there is one. -/
def readExponent : Text → Option ℤ
  | [] => some 0
  | u :: rest =>
      if u = 0x65 ∨ u = 0x45 then
        match rest with
        | [] => none
        | sign :: digits =>
            if sign = 0x2D then (readExponentDigits digits).map fun n : ℕ => -(n : ℤ)
            else if sign = 0x2B then (readExponentDigits digits).map fun n : ℕ => (n : ℤ)
            else (readExponentDigits (sign :: digits)).map fun n : ℕ => (n : ℤ)
      else none

/-- The literal without its sign. -/
def readUnsigned (negative : Bool) (text : Text) : Option Literal :=
  let whole := text.takeWhile isDigit
  if whole = [] ∨ (whole.head? = some 0x30 ∧ whole.length ≠ 1) then none
  else
    (readFraction (text.dropWhile isDigit)).bind fun (fraction, rest) =>
      (readExponent rest).map fun exponent =>
        ⟨negative, digitsValue (whole ++ fraction), exponent - fraction.length⟩

/-- A number literal; `none` when the text is none. -/
def readLiteral : Text → Option Literal
  | [] => none
  | u :: rest => if u = 0x2D then readUnsigned true rest else readUnsigned false (u :: rest)

/-- What a scalar is written with. -/
def isScalarUnit (u : CodeUnit) : Bool :=
  isDigit u ∨ (0x61 ≤ u ∧ u ≤ 0x7A) ∨ (0x41 ≤ u ∧ u ≤ 0x5A) ∨ u = 0x2B ∨ u = 0x2D ∨ u = 0x2E

theorem isScalarUnit_of_isDigit {u : CodeUnit} (digit : isDigit u) : isScalarUnit u := by
  simp [isScalarUnit, digit]

theorem scalar_of_readFraction {text fraction rest : Text}
    (read : readFraction text = some (fraction, rest)) (scalar : ∀ u ∈ rest, isScalarUnit u) :
    ∀ u ∈ text, isScalarUnit u := by
  cases text with
  | nil => simp
  | cons u text =>
      rw [readFraction] at read
      split at read
      · rename_i point
        split at read
        · cases read
        · obtain ⟨-, rfl⟩ := Prod.mk.inj (Option.some.inj read)
          rw [← List.takeWhile_append_dropWhile (p := isDigit) (l := text)]
          intro v mem
          rcases List.mem_cons.mp mem with rfl | mem
          · rw [point]
            decide
          · rcases List.mem_append.mp mem with digit | later
            · exact isScalarUnit_of_isDigit (List.mem_takeWhile_imp digit)
            · exact scalar v later
      · obtain ⟨-, rfl⟩ := Prod.mk.inj (Option.some.inj read)
        exact scalar

theorem scalar_of_readExponentDigits {digits : Text} {n : ℕ}
    (read : readExponentDigits digits = some n) : ∀ u ∈ digits, isScalarUnit u := by
  unfold readExponentDigits at read
  split at read
  · cases read
  · rename_i proper
    rw [not_or, not_not] at proper
    exact fun u mem => isScalarUnit_of_isDigit (List.all_eq_true.mp proper.2 u mem)

theorem scalar_of_readExponent {text : Text} {exponent : ℤ}
    (read : readExponent text = some exponent) : ∀ u ∈ text, isScalarUnit u := by
  cases text with
  | nil => simp
  | cons u text =>
      rw [readExponent.eq_def] at read
      simp only at read
      split at read
      swap
      · cases read
      rename_i letter
      have first : isScalarUnit u := by
        rcases letter with rfl | rfl
        · decide
        · decide
      cases text with
      | nil => cases read
      | cons sign digits =>
          simp only at read
          refine List.forall_mem_cons.mpr ⟨first, ?_⟩
          split at read
          · rename_i minus
            obtain ⟨n, found, -⟩ := Option.map_eq_some_iff.mp read
            refine List.forall_mem_cons.mpr ⟨?_, scalar_of_readExponentDigits found⟩
            rw [minus]
            decide
          · split at read
            · rename_i plus
              obtain ⟨n, found, -⟩ := Option.map_eq_some_iff.mp read
              refine List.forall_mem_cons.mpr ⟨?_, scalar_of_readExponentDigits found⟩
              rw [plus]
              decide
            · obtain ⟨n, found, -⟩ := Option.map_eq_some_iff.mp read
              exact scalar_of_readExponentDigits found

theorem scalar_of_readUnsigned {negative : Bool} {text : Text} {literal : Literal}
    (read : readUnsigned negative text = some literal) :
    text ≠ [] ∧ ∀ u ∈ text, isScalarUnit u := by
  unfold readUnsigned at read
  dsimp only at read
  split at read
  · cases read
  · rename_i proper
    obtain ⟨⟨fraction, rest⟩, fractionRead, read⟩ := Option.bind_eq_some_iff.mp read
    obtain ⟨exponent, exponentRead, -⟩ := Option.map_eq_some_iff.mp read
    refine ⟨?_, ?_⟩
    · rintro rfl
      exact proper (.inl rfl)
    · rw [← List.takeWhile_append_dropWhile (p := isDigit) (l := text)]
      intro u mem
      rcases List.mem_append.mp mem with digit | later
      · exact isScalarUnit_of_isDigit (List.mem_takeWhile_imp digit)
      · exact scalar_of_readFraction fractionRead (scalar_of_readExponent exponentRead) u later

/-- A literal is a scalar. -/
theorem scalar_of_readLiteral {text : Text} {literal : Literal}
    (read : readLiteral text = some literal) : text ≠ [] ∧ ∀ u ∈ text, isScalarUnit u := by
  cases text with
  | nil => cases read
  | cons u text =>
      rw [readLiteral] at read
      split at read
      · rename_i minus
        refine ⟨List.cons_ne_nil _ _, List.forall_mem_cons.mpr ⟨?_, ?_⟩⟩
        · rw [minus]
          decide
        · exact (scalar_of_readUnsigned read).2
      · exact scalar_of_readUnsigned read

/-! ## Decimal digits -/

theorem isDigit_digitChar {n : ℕ} (small : n < 10) :
    isDigit (UInt16.ofNat n.digitChar.toNat) ∧
      (UInt16.ofNat n.digitChar.toNat).toNat - 0x30 = n := by
  have all : ∀ n < 10, isDigit (UInt16.ofNat n.digitChar.toNat) ∧
      (UInt16.ofNat n.digitChar.toNat).toNat - 0x30 = n := by decide
  exact all n small

theorem decimal_of_lt {n : ℕ} (small : n < 10) :
    decimal n = [UInt16.ofNat n.digitChar.toNat] := by
  rw [decimal, Nat.toDigits_of_lt_base small, List.map_singleton]

theorem decimal_of_le {n : ℕ} (large : 10 ≤ n) :
    decimal n = decimal (n / 10) ++ decimal (n % 10) := by
  rw [decimal_of_lt (Nat.mod_lt n (by decide)), decimal,
    Nat.toDigits_of_base_le (by decide) large, List.map_append, decimal, List.map_singleton]

theorem isDigit_of_mem_decimal {n : ℕ} : ∀ u ∈ decimal n, isDigit u := by
  induction n using Nat.strongRecOn with
  | ind n ih =>
      rcases Nat.lt_or_ge n 10 with small | large
      · intro u mem
        rw [decimal_of_lt small, List.mem_singleton] at mem
        exact mem ▸ (isDigit_digitChar small).1
      · intro u mem
        rw [decimal_of_le large] at mem
        rcases List.mem_append.mp mem with before | last
        · exact ih (n / 10) (Nat.div_lt_self (by omega) (by decide)) u before
        · exact ih (n % 10) ((Nat.mod_lt n (by decide)).trans_le large) u last

theorem digitsValue_append (before after : Text) :
    digitsValue (before ++ after) =
      after.foldl (fun n u => 10 * n + (u.toNat - 0x30)) (digitsValue before) :=
  List.foldl_append

@[simp] theorem digitsValue_decimal (n : ℕ) : digitsValue (decimal n) = n := by
  induction n using Nat.strongRecOn with
  | ind n ih =>
      rcases Nat.lt_or_ge n 10 with small | large
      · rw [decimal_of_lt small]
        exact (Nat.zero_add _).trans (isDigit_digitChar small).2
      · have small : n % 10 < 10 := Nat.mod_lt n (by decide)
        rw [decimal_of_le large, digitsValue_append,
          ih (n / 10) (Nat.div_lt_self (by omega) (by decide)), decimal_of_lt small]
        show 10 * (n / 10) + ((UInt16.ofNat (n % 10).digitChar.toNat).toNat - 0x30) = n
        rw [(isDigit_digitChar small).2]
        exact Nat.div_add_mod n 10

theorem decimal_injective : Function.Injective decimal := fun n m same => by
  rw [← digitsValue_decimal n, same, digitsValue_decimal]

theorem head_decimal {n : ℕ} (positive : 0 < n) :
    ∃ u rest, decimal n = u :: rest ∧ u ≠ 0x30 := by
  induction n using Nat.strongRecOn with
  | ind n ih =>
      rcases Nat.lt_or_ge n 10 with small | large
      · refine ⟨_, _, decimal_of_lt small, fun zero => ?_⟩
        have value := (isDigit_digitChar small).2
        rw [zero] at value
        exact positive.ne value
      · obtain ⟨u, rest, first, nonzero⟩ := ih (n / 10)
          (Nat.div_lt_self (by omega) (by decide)) (by omega)
        exact ⟨u, rest ++ decimal (n % 10), by rw [decimal_of_le large, first, List.cons_append],
          nonzero⟩

theorem takeWhile_digits {digits rest : Text} (all : ∀ u ∈ digits, isDigit u)
    (next : ∀ u ∈ rest.head?, isDigit u = false) :
    (digits ++ rest).takeWhile isDigit = digits ∧ (digits ++ rest).dropWhile isDigit = rest := by
  rw [List.takeWhile_append_of_pos all, List.dropWhile_append_of_pos all]
  cases rest with
  | nil => simp
  | cons u rest =>
      have other := next u rfl
      rw [List.takeWhile_cons_of_neg (by simp [other]), List.append_nil]
      exact ⟨rfl, List.dropWhile_cons_of_neg (by simp [other])⟩

theorem readUnsigned_decimal (negative : Bool) (n : ℕ) :
    readUnsigned negative (decimal n) = some ⟨negative, n, 0⟩ := by
  obtain ⟨whole, rest⟩ := @takeWhile_digits (decimal n) [] isDigit_of_mem_decimal (by simp)
  rw [List.append_nil] at whole rest
  have proper : ¬ (decimal n = [] ∨ ((decimal n).head? = some 0x30 ∧ (decimal n).length ≠ 1)) := by
    rcases Nat.eq_zero_or_pos n with rfl | positive
    · decide
    · obtain ⟨u, digits, first, nonzero⟩ := head_decimal positive
      simp [first, nonzero]
  rw [readUnsigned]
  simp only [whole, rest, if_neg proper]
  simp [readFraction, readExponent]

/-- A natural number is a literal. -/
theorem readLiteral_decimal (n : ℕ) : readLiteral (decimal n) = some ⟨false, n, 0⟩ := by
  cases digits : decimal n with
  | nil =>
      have read := readUnsigned_decimal false n
      rw [digits] at read
      cases read
  | cons u rest =>
      have notSign : u ≠ 0x2D := by
        rintro rfl
        have mem : 0x2D ∈ decimal n := digits ▸ List.mem_cons_self
        have digit := isDigit_of_mem_decimal 0x2D mem
        exact absurd digit (by decide)
      rw [readLiteral, if_neg notSign, ← digits, readUnsigned_decimal]

/-- How numbers are printed and read.  `print` is `Number::toString`, or `none` for
a number that is not finite; `ofNat` are the integers that are represented
exactly. -/
structure NumberFormat where
  Number : Type
  decidableEq : DecidableEq Number
  print : Number → Option Text
  read : Literal → Number
  ofNat : ℕ → Number
  negativeZero : Number
  read_print : ∀ x text, x ≠ negativeZero → print x = some text →
    ∃ literal, readLiteral text = some literal ∧ read literal = x
  print_negativeZero : print negativeZero = print (ofNat 0)
  ofNat_zero_ne : ofNat 0 ≠ negativeZero
  print_ofNat : ∀ n < 2 ^ 53, print (ofNat n) = some (decimal n)

instance (format : NumberFormat) : DecidableEq format.Number := format.decidableEq

namespace NumberFormat

variable {format : NumberFormat} {n m : ℕ}

theorem ofNat_inj (small : n < 2 ^ 53) (small' : m < 2 ^ 53)
    (same : format.ofNat n = format.ofNat m) : n = m := by
  have printed := format.print_ofNat n small
  rw [same, format.print_ofNat m small'] at printed
  exact (decimal_injective (Option.some.inj printed)).symm

theorem ofNat_ne_negativeZero (small : n < 2 ^ 53) : format.ofNat n ≠ format.negativeZero := by
  intro same
  have printed := format.print_ofNat n small
  rw [same, format.print_negativeZero, format.print_ofNat 0 (by decide)] at printed
  obtain rfl : 0 = n := decimal_injective (Option.some.inj printed)
  exact format.ofNat_zero_ne same

/-- The natural numbers, and `-0`. -/
def naturals : NumberFormat where
  Number := Option ℕ
  decidableEq := inferInstance
  print x := some (decimal (x.getD 0))
  read literal := some literal.digits
  ofNat := some
  negativeZero := none
  read_print x text proper printed := by
    obtain ⟨n, rfl⟩ := Option.ne_none_iff_exists'.mp proper
    exact ⟨⟨false, n, 0⟩, Option.some.inj printed ▸ readLiteral_decimal n, rfl⟩
  print_negativeZero := rfl
  ofNat_zero_ne := Option.some_ne_none 0
  print_ofNat _ _ := rfl

end NumberFormat

end TheVoteApp.JavaScript
