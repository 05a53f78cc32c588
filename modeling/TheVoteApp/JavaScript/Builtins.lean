import TheVoteApp.JavaScript.Literals

/-!
# Built-ins of JavaScript

The string functions the message handlers use, and reading a property of an
object literal.  An object literal also answers for the names every object
inherits: the value found there is a function or an object, never `undefined`,
and appears in texts as that value prints.

## Main definitions

* `split`, `splitSpaces` — `split` at a character, `split(/\s+/)`
* `trim`, `parseInt` — `trim`, and `parseInt` to base ten
* `slice` — a slice of the code units
* `CaseTable.toUpperCase` — `toUpperCase`, for a table of upper-case characters
* `property` — a property of an object literal, inherited ones included
-/

namespace TheVoteApp.JavaScript

/-- Splitting at a character. -/
def split (separator : Char) (text : String) : List String :=
  (text.toList.splitOn separator).map String.ofList

/-- White space and line terminators. -/
def isWhiteSpace (c : Char) : Bool :=
  c.toNat ∈ [0x09, 0x0A, 0x0B, 0x0C, 0x0D, 0x20, 0xA0, 0x1680, 0x2028, 0x2029, 0x202F, 0x205F,
    0x3000, 0xFEFF] ∨ (0x2000 ≤ c.toNat ∧ c.toNat ≤ 0x200A)

/-- `trim`, at both ends. -/
def trim (text : String) : String :=
  String.ofList (((text.toList.dropWhile isWhiteSpace).reverse.dropWhile isWhiteSpace).reverse)

/-- Splitting at runs of white space: what stands between two adjacent white
spaces is no piece, what stands before the first and after the last is. -/
def splitSpaces (text : String) : List String :=
  match text.toList.splitOnP isWhiteSpace with
  | [] => []
  | [piece] => [String.ofList piece]
  | first :: rest =>
      ((first :: (rest.dropLast.filter (· ≠ []))) ++ rest.getLast?.toList).map String.ofList

/-- The number a list of decimal digits stands for, the digits before it
included. -/
def readDigits (before : ℕ) : List Char → ℕ
  | [] => before
  | c :: cs => readDigits (10 * before + (c.toNat - '0'.toNat)) cs

/-- `parseInt(text, 10)`: the longest run of digits after white space and a
sign; `none` for `NaN`. -/
def parseInt (text : String) : Option ℤ :=
  let trimmed := text.toList.dropWhile isWhiteSpace
  let negative := trimmed.head? = some '-'
  let unsigned := if negative ∨ trimmed.head? = some '+' then trimmed.tail else trimmed
  let digits := unsigned.takeWhile Char.isDigit
  if digits = [] then none
  else if negative then some (-(readDigits 0 digits : ℤ))
  else some (readDigits 0 digits)

/-- `slice(start, stop)` on a string, which counts code units.  Half a pair that is
left at an end is sent as U+FFFD. -/
def slice (start stop : ℕ) (text : String) : String :=
  String.ofList (scalarValues (((utf16 text).take stop).drop start))

/-- `text.startsWith(start)`. -/
def startsWith (start text : String) : Bool := start.toList.isPrefixOf text.toList

/-- The names every object inherits. -/
def inheritedNames : List String :=
  ["__proto__", "constructor", "hasOwnProperty", "isPrototypeOf", "propertyIsEnumerable",
    "toLocaleString", "toString", "valueOf", "__defineGetter__", "__defineSetter__",
    "__lookupGetter__", "__lookupSetter__"]

/-- What an inherited property prints as. -/
def inherited (name : String) : Option String :=
  if name = "__proto__" then some "[object Object]"
  else if name = "constructor" then some "function Object() \x7b [native code] \x7d"
  else if name ∈ inheritedNames then
    some ("function " ++ name ++ "() \x7b [native code] \x7d")
  else none

/-- A property of an object literal with the given members; `none` for
`undefined`. -/
def property (members : List (String × String)) (name : String) : Option String :=
  (members.lookup name).or (inherited name)

/-! ## Slices -/

/-- A slice of what comes after a text. -/
theorem slice_append (front back : String) (stop : ℕ) :
    slice (utf16 front).length ((utf16 front).length + stop) (front ++ back) =
      slice 0 stop back := by
  rw [slice, utf16_append, List.take_length_add_append, List.drop_left, slice, List.drop_zero]

/-- Where every character is one code unit, a slice counts characters. -/
theorem slice_of_lt {text : String} (small : ∀ c ∈ text.toList, c.toNat < 0x10000)
    (start stop : ℕ) :
    slice start stop text = String.ofList ((text.toList.take stop).drop start) := by
  have units (chars : List Char) (small : ∀ c ∈ chars, c.toNat < 0x10000) :
      chars.flatMap utf16Units = chars.map fun c => UInt16.ofNat c.toNat := by
    rw [List.map_eq_flatMap]
    exact List.flatMap_congr fun c mem => if_pos (small c mem)
  have part : ((utf16 text).take stop).drop start =
      utf16 (String.ofList ((text.toList.take stop).drop start)) := by
    rw [utf16, utf16, units _ small, String.toList_ofList, units, List.map_drop, List.map_take]
    exact fun c mem => small c (List.mem_of_mem_take (List.mem_of_mem_drop mem))
  rw [slice, part, scalarValues_utf16, String.toList_ofList]

/-! ## Inherited names -/

theorem mem_inheritedNames {name : String} (foreign : inherited name ≠ none) :
    name ∈ inheritedNames := by
  by_contra absent
  apply foreign
  simp only [inheritedNames, List.mem_cons, List.not_mem_nil, or_false, not_or] at absent
  simp [inherited, inheritedNames, absent]

/-! ## Upper case -/

/-- The upper case of every character, one or more characters: each of them is
its own upper case, and ASCII is mapped as usual. -/
structure CaseTable where
  upper : Char → List Char
  stable : ∀ c, ∀ d ∈ upper c, upper d = [d]
  ascii : ∀ c, c.toNat < 128 → upper c = [c.toUpper]

namespace CaseTable

variable (table : CaseTable)

/-- `toUpperCase`, character by character. -/
def toUpperCase (text : String) : String := String.ofList (text.toList.flatMap table.upper)

/-- The table that maps ASCII and nothing else. -/
def ofAscii : CaseTable where
  upper c := [c.toUpper]
  stable c d mem := by
    obtain rfl := List.mem_singleton.mp mem
    exact congrArg (fun c => [c]) (Char.toUpper_eq_of_not_isLower (by simp))
  ascii _ _ := rfl

variable {table}

/-- A text of upper-case characters is its own upper case. -/
theorem toUpperCase_of_forall {text : String}
    (upper : ∀ c ∈ text.toList, table.upper c = [c]) : table.toUpperCase text = text := by
  have same : text.toList.flatMap table.upper = text.toList.flatMap fun c => [c] :=
    List.flatMap_congr upper
  rw [toUpperCase, same, List.flatMap_singleton', String.ofList_toList]

theorem upper_of_mem_toUpperCase {text : String} {c : Char}
    (mem : c ∈ (table.toUpperCase text).toList) : table.upper c = [c] := by
  rw [toUpperCase, String.toList_ofList, List.mem_flatMap] at mem
  obtain ⟨original, -, mem⟩ := mem
  exact table.stable original c mem

theorem toUpperCase_of_ascii {text : String} (ascii : ∀ c ∈ text.toList, c.toNat < 128) :
    table.toUpperCase text = String.ofList (text.toList.map Char.toUpper) := by
  have same : text.toList.flatMap table.upper = text.toList.flatMap fun c => [c.toUpper] :=
    List.flatMap_congr fun c mem => table.ascii c (ascii c mem)
  rw [toUpperCase, same, ← List.map_eq_flatMap]

end CaseTable

/-! ## Pieces of a text -/

/-- The pieces of a list hold elements of the list. -/
theorem mem_of_mem_splitOnP {α : Type} {separates : α → Bool} {c : α} {piece list : List α}
    (split : piece ∈ list.splitOnP separates) (mem : c ∈ piece) : c ∈ list := by
  induction list generalizing piece with
  | nil =>
      rw [List.splitOnP_nil, List.mem_singleton] at split
      rwa [split] at mem
  | cons first list ih =>
      rw [List.splitOnP_cons_eq_if_modifyHead] at split
      by_cases separator : separates first = true
      · rw [if_pos separator] at split
        rcases List.mem_cons.mp split with rfl | split
        · cases mem
        · exact List.mem_cons_of_mem _ (ih split mem)
      · rw [if_neg separator] at split
        cases pieces : list.splitOnP separates with
        | nil => exact absurd pieces (List.splitOnP_ne_nil _ _)
        | cons head tail =>
            rw [pieces, List.modifyHead_cons] at split
            rcases List.mem_cons.mp split with rfl | split
            · rcases List.mem_cons.mp mem with rfl | mem
              · exact List.mem_cons_self
              · exact List.mem_cons_of_mem _ (ih (pieces ▸ List.mem_cons_self) mem)
            · exact List.mem_cons_of_mem _ (ih (pieces ▸ List.mem_cons_of_mem _ split) mem)

theorem mem_of_mem_splitSpaces {text word : String} {c : Char} (split : word ∈ splitSpaces text)
    (mem : c ∈ word.toList) : c ∈ text.toList := by
  have piece : ∃ piece ∈ text.toList.splitOnP isWhiteSpace, word = String.ofList piece := by
    unfold splitSpaces at split
    generalize pieces : text.toList.splitOnP isWhiteSpace = list at split
    match list, split with
    | [piece], split => exact ⟨piece, List.mem_singleton_self _, List.mem_singleton.mp split⟩
    | first :: second :: rest, split =>
        simp only [List.mem_map, List.mem_append, List.mem_cons, List.mem_filter] at split
        obtain ⟨piece, (rfl | ⟨middle, -⟩) | last, rfl⟩ := split
        · exact ⟨piece, List.mem_cons_self, rfl⟩
        · exact ⟨piece, List.mem_cons_of_mem _ (List.mem_of_mem_dropLast middle), rfl⟩
        · rw [Option.mem_toList] at last
          exact ⟨piece, List.mem_cons_of_mem _ (List.mem_of_mem_getLast? last), rfl⟩
  obtain ⟨piece, among, rfl⟩ := piece
  exact mem_of_mem_splitOnP among (by rwa [String.toList_ofList] at mem)

/-- The first piece of a text is what stands before the first separator. -/
theorem headD_split (separator : Char) (text alternative : String) :
    (split separator text).headD alternative =
      String.ofList (text.toList.takeWhile (· ≠ separator)) := by
  have head (list : List Char) :
      (list.splitOnP (· == separator)).head? = some (list.takeWhile (· ≠ separator)) := by
    induction list with
    | nil => rfl
    | cons c list ih =>
        rw [List.splitOnP_cons_eq_if_modifyHead]
        by_cases same : c = separator
        · simp [same]
        · cases pieces : list.splitOnP (· == separator) with
          | nil => simp [pieces] at ih
          | cons first rest =>
              rw [pieces, List.head?_cons, Option.some.injEq] at ih
              simp [same, ih]
  rw [split, List.splitOn_eq_splitOnP, List.headD_eq_head?_getD, List.head?_map, head]
  rfl

example : splitSpaces "VOTE  POL-001 SUPPORT" = ["VOTE", "POL-001", "SUPPORT"] := by decide

example : parseInt "-12a" = some (-12) := by decide

end TheVoteApp.JavaScript
