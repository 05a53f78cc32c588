import TheVoteApp.JavaScript.Literals

/-!
# JSON in JavaScript

`JSON.stringify` and `JSON.parse`.  The members of an object are listed in the
order of its own properties: the array indices among the keys first, in increasing
order, then the other keys as they were created.

## Main definitions

* `setProperty`, `InOrder` — creating a property, and the order that results
* `Value`, `Value.Ordered` — JSON values, and the order of their properties
* `stringify`, `parse`

## Main results

* `inOrder_ofEntries`, `ofEntries_of_inOrder` — objects are created in order, and
  created anew from their members
* `ordered_of_parse` — what is read is a value of the language
* `readValue_of_le` — the fuel of the parser does not matter

## Design notes

A scalar is read as the longest run of letters, digits, signs and points.  No such
character may follow a scalar in JSON, so this refuses the same texts.
-/

namespace TheVoteApp.JavaScript

/-! ## The order of properties -/

/-- The array index a key is the canonical form of. -/
def arrayIndex (key : Text) : Option ℕ :=
  if key ≠ [] ∧ key.all isDigit ∧ (key.head? ≠ some 0x30 ∨ key.length = 1) ∧
      digitsValue key < 2 ^ 32 - 1 then some (digitsValue key)
  else none

/-- The key is an array index, and comes before the other one even if it is created
later. -/
def Precedes (key other : Text) : Prop := ∃ i ∈ arrayIndex key, ∀ j ∈ arrayIndex other, i < j

instance decidablePrecedes (key other : Text) : Decidable (Precedes key other) :=
  inferInstanceAs (Decidable (∃ _ ∈ _, ∀ _ ∈ _, _))

section Properties

variable {V : Type}

/-- `object[key] = value`, or creating the property. -/
def setProperty : List (Text × V) → Text → V → List (Text × V)
  | [], key, value => [(key, value)]
  | (k, w) :: rest, key, value =>
      if k = key then (k, value) :: rest
      else if Precedes key k then (key, value) :: (k, w) :: rest
      else (k, w) :: setProperty rest key value

/-- The object with the given entries, created one after the other. -/
def ofEntries (entries : List (Text × V)) : List (Text × V) :=
  entries.foldl (fun members entry => setProperty members entry.1 entry.2) []

/-- The keys of an object, in the order of its properties. -/
def InOrder (members : List (Text × V)) : Prop :=
  members.Pairwise fun a b => a.1 ≠ b.1 ∧ ¬ Precedes b.1 a.1

instance decidableInOrder (members : List (Text × V)) : Decidable (InOrder members) :=
  inferInstanceAs (Decidable (List.Pairwise _ _))

theorem inOrder_iff_keys {members : List (Text × V)} :
    InOrder members ↔
      (members.map Prod.fst).Pairwise fun key key' => key ≠ key' ∧ ¬ Precedes key' key := by
  rw [List.pairwise_map]
  exact Iff.rfl

theorem mem_setProperty {members : List (Text × V)} {key : Text} {value : V}
    {member : Text × V} (mem : member ∈ setProperty members key value) :
    member = (key, value) ∨ member ∈ members := by
  induction members with
  | nil => exact .inl (List.mem_singleton.mp mem)
  | cons first rest ih =>
      obtain ⟨k, w⟩ := first
      rw [setProperty] at mem
      split at mem
      · rename_i same
        subst same
        exact (List.mem_cons.mp mem).imp_right (List.mem_cons_of_mem _)
      · split at mem
        · exact List.mem_cons.mp mem
        · rcases List.mem_cons.mp mem with rfl | mem
          · exact .inr List.mem_cons_self
          · exact (ih mem).imp_right (List.mem_cons_of_mem _)

theorem mem_ofEntries {entries : List (Text × V)} {member : Text × V}
    (mem : member ∈ ofEntries entries) : member ∈ entries := by
  unfold ofEntries at mem
  induction entries using List.reverseRecOn with
  | nil => exact mem
  | append_singleton entries entry ih =>
      rw [List.foldl_append] at mem
      rcases mem_setProperty mem with rfl | earlier
      · exact List.mem_append_right _ (List.mem_singleton_self _)
      · exact List.mem_append_left _ (ih earlier)

/-- A key that precedes another one comes before all that the other one may precede. -/
theorem Precedes.apart {key k b : Text} (before : Precedes key k) (later : ¬ Precedes b k) :
    key ≠ b ∧ ¬ Precedes b key := by
  obtain ⟨i, index, less⟩ := before
  constructor
  · rintro rfl
    exact later ⟨i, index, less⟩
  · rintro ⟨j, indexB, lessB⟩
    exact later ⟨j, indexB, fun n indexK => (lessB i index).trans (less n indexK)⟩

theorem inOrder_setProperty {members : List (Text × V)} (inOrder : InOrder members) (key : Text)
    (value : V) : InOrder (setProperty members key value) := by
  induction members with
  | nil => exact List.pairwise_singleton _ _
  | cons first rest ih =>
      obtain ⟨k, w⟩ := first
      obtain ⟨head, tail⟩ := List.pairwise_cons.mp inOrder
      rw [setProperty]
      split
      · exact List.pairwise_cons.mpr ⟨head, tail⟩
      · rename_i other
        split
        · rename_i before
          refine List.pairwise_cons.mpr ⟨fun b mem => ?_, inOrder⟩
          rcases List.mem_cons.mp mem with rfl | mem
          · refine ⟨fun same => other same.symm, ?_⟩
            rintro ⟨j, indexB, lessB⟩
            obtain ⟨i, index, less⟩ := before
            exact (less j indexB).asymm (lessB i index)
          · exact before.apart (head b mem).2
        · rename_i after
          refine List.pairwise_cons.mpr ⟨fun b mem => ?_, ih tail⟩
          rcases mem_setProperty mem with rfl | mem
          · exact ⟨other, after⟩
          · exact head b mem

theorem inOrder_ofEntries (entries : List (Text × V)) : InOrder (ofEntries entries) := by
  unfold ofEntries
  induction entries using List.reverseRecOn with
  | nil => exact List.Pairwise.nil
  | append_singleton entries entry ih =>
      rw [List.foldl_append]
      exact inOrder_setProperty ih entry.1 entry.2

/-- A property that comes after all the others is created at the end. -/
theorem setProperty_concat {members : List (Text × V)} {key : Text}
    (last : ∀ member ∈ members, member.1 ≠ key ∧ ¬ Precedes key member.1) (value : V) :
    setProperty members key value = members ++ [(key, value)] := by
  induction members with
  | nil => rfl
  | cons first rest ih =>
      obtain ⟨k, w⟩ := first
      obtain ⟨⟨other, after⟩, later⟩ := List.forall_mem_cons.mp last
      rw [setProperty, if_neg other, if_neg after, ih later]
      rfl

/-- An object is created from its members, in their order. -/
theorem ofEntries_of_inOrder {members : List (Text × V)} (inOrder : InOrder members) :
    ofEntries members = members := by
  induction members using List.reverseRecOn with
  | nil => rfl
  | append_singleton members member ih =>
      obtain ⟨earlier, -, last⟩ := List.pairwise_append.mp inOrder
      have before : ofEntries members = members := ih earlier
      unfold ofEntries at before ⊢
      rw [List.foldl_append, before]
      exact setProperty_concat
        (fun other mem => last other mem member (List.mem_singleton_self _)) _

end Properties

/-! ## Values -/

/-- A JSON value. -/
inductive Value (N : Type) where
  | null
  | bool (b : Bool)
  | number (x : N)
  | string (text : Text)
  | array (items : List (Value N))
  | object (members : List (Text × Value N))

namespace Value

variable {N : Type}

/-- The objects of the value list their members in the order of their properties. -/
inductive Ordered : Value N → Prop where
  | null : Ordered .null
  | bool (b : Bool) : Ordered (.bool b)
  | number (x : N) : Ordered (.number x)
  | string (text : Text) : Ordered (.string text)
  | array {items : List (Value N)} (all : ∀ v ∈ items, Ordered v) : Ordered (.array items)
  | object {members : List (Text × Value N)} (inOrder : InOrder members)
      (all : ∀ member ∈ members, Ordered member.2) : Ordered (.object members)

/-- An own property of the value; `none` for `undefined`. -/
def get (key : Text) : Value N → Option (Value N)
  | .object members => members.lookup key
  | _ => none

end Value

/-- Whether a value read from JSON is truthy. -/
def truthy {format : NumberFormat} : Value format.Number → Bool
  | .null => false
  | .bool b => b
  | .number x => x ≠ format.ofNat 0 ∧ x ≠ format.negativeZero
  | .string text => text ≠ []
  | .array _ => true
  | .object _ => true

/-! ## Printing -/

/-- `null` -/
def nullText : Text := [0x6E, 0x75, 0x6C, 0x6C]

/-- `true` -/
def trueText : Text := [0x74, 0x72, 0x75, 0x65]

/-- `false` -/
def falseText : Text := [0x66, 0x61, 0x6C, 0x73, 0x65]

/-- What separates two members: with a third argument of `spaces`, a line break and
the indentation. -/
def newline (spaces depth : ℕ) : Text :=
  if spaces = 0 then [] else 0x0A :: List.replicate (spaces * depth) 0x20

/-- `parts` separated by commas. -/
def joinParts (spaces depth : ℕ) : List Text → Text
  | [] => []
  | [part] => part
  | part :: next :: parts =>
      part ++ 0x2C :: (newline spaces depth ++ joinParts spaces depth (next :: parts))

/-- An array or an object, given its printed members. -/
def enclose (opening closing : CodeUnit) (spaces depth : ℕ) (parts : List Text) : Text :=
  if parts = [] then [opening, closing]
  else opening :: (newline spaces (depth + 1) ++ joinParts spaces (depth + 1) parts ++
    newline spaces depth ++ [closing])

/-- What separates a key and its value. -/
def colon (spaces : ℕ) : Text := if spaces = 0 then [0x3A] else [0x3A, 0x20]

section Printing

variable (format : NumberFormat) (spaces : ℕ)

/-- A number, `null` for one that is not finite. -/
def printNumber (x : format.Number) : Text := (format.print x).getD nullText

mutual

/-- `SerializeJSONProperty`. -/
def printValue (depth : ℕ) : Value format.Number → Text
  | .null => nullText
  | .bool true => trueText
  | .bool false => falseText
  | .number x => printNumber format x
  | .string text => quote text
  | .array items => enclose 0x5B 0x5D spaces depth (printItems (depth + 1) items)
  | .object members => enclose 0x7B 0x7D spaces depth (printMembers (depth + 1) members)

/-- The members of an array, each printed. -/
def printItems (depth : ℕ) : List (Value format.Number) → List Text
  | [] => []
  | v :: items => printValue depth v :: printItems depth items

/-- The members of an object, each printed after its key. -/
def printMembers (depth : ℕ) : List (Text × Value format.Number) → List Text
  | [] => []
  | (key, v) :: members =>
      (quote key ++ colon spaces ++ printValue depth v) :: printMembers depth members

end

/-- `JSON.stringify(v, null, spaces)`; without further arguments `spaces` is zero. -/
def stringify (v : Value format.Number) : Text := printValue format (min spaces 10) 0 v

end Printing

/-! ## Reading -/

/-- White space of JSON. -/
def isWhitespace (u : CodeUnit) : Bool := u = 0x20 ∨ u = 0x09 ∨ u = 0x0A ∨ u = 0x0D

/-- The text after white space. -/
def skip (text : Text) : Text := text.dropWhile isWhitespace

/-- The text after white space and the given unit. -/
def expect (u : CodeUnit) (text : Text) : Option Text :=
  match skip text with
  | [] => none
  | v :: rest => if v = u then some rest else none

section Reading

variable (format : NumberFormat)

/-- A keyword or a number. -/
def readScalar (text : Text) : Option (Value format.Number × Text) :=
  let word := text.takeWhile isScalarUnit
  let rest := text.dropWhile isScalarUnit
  if word = nullText then some (.null, rest)
  else if word = trueText then some (.bool true, rest)
  else if word = falseText then some (.bool false, rest)
  else (readLiteral word).map fun literal => (.number (format.read literal), rest)

mutual

/-- A value at the beginning of a text, and what follows it. -/
def readValue : ℕ → Text → Option (Value format.Number × Text)
  | 0, _ => none
  | fuel + 1, text =>
    match skip text with
    | [] => none
    | u :: rest =>
        if u = 0x22 then (readString rest).map fun (text, rest) => (.string text, rest)
        else if u = 0x5B then
          match expect 0x5D rest with
          | some rest => some (.array [], rest)
          | none => (readItems fuel rest).map fun (items, rest) => (.array items, rest)
        else if u = 0x7B then
          match expect 0x7D rest with
          | some rest => some (.object [], rest)
          | none =>
              (readMembers fuel rest).map fun (entries, rest) => (.object (ofEntries entries), rest)
        else readScalar format (u :: rest)

/-- The items of an array, up to its bracket. -/
def readItems : ℕ → Text → Option (List (Value format.Number) × Text)
  | 0, _ => none
  | fuel + 1, text =>
      (readValue fuel text).bind fun (v, rest) =>
        match expect 0x2C rest with
        | some rest => (readItems fuel rest).map fun (items, rest) => (v :: items, rest)
        | none => (expect 0x5D rest).map fun rest => ([v], rest)

/-- The entries of an object, up to its brace. -/
def readMembers : ℕ → Text → Option (List (Text × Value format.Number) × Text)
  | 0, _ => none
  | fuel + 1, text =>
      (expect 0x22 text).bind fun rest =>
        (readString rest).bind fun (key, rest) =>
          (expect 0x3A rest).bind fun rest =>
            (readValue fuel rest).bind fun (v, rest) =>
              match expect 0x2C rest with
              | some rest =>
                  (readMembers fuel rest).map fun (entries, rest) => ((key, v) :: entries, rest)
              | none => (expect 0x7D rest).map fun rest => ([(key, v)], rest)

end

/-- `JSON.parse`; `none` is a `SyntaxError`.  Every two levels of the parser
consume a character, so the fuel does not run out. -/
def parse (text : Text) : Option (Value format.Number) :=
  match readValue format (2 * text.length + 1) text with
  | some (v, rest) => if skip rest = [] then some v else none
  | none => none

end Reading

/-! ## The cases of the parser -/

section Cases

variable {format : NumberFormat} {fuel : ℕ} {text rest : Text} {v : Value format.Number}

theorem readScalar_cases (read : readScalar format text = some (v, rest)) :
    text.takeWhile isScalarUnit ≠ [] ∧ rest = text.dropWhile isScalarUnit ∧
      (v = .null ∨ (∃ b, v = .bool b) ∨ ∃ literal, v = .number (format.read literal)) := by
  unfold readScalar at read
  dsimp only at read
  split at read
  · rename_i word
    obtain ⟨rfl, rfl⟩ := Prod.mk.inj (Option.some.inj read)
    exact ⟨by rw [word]; decide, rfl, .inl rfl⟩
  split at read
  · rename_i word
    obtain ⟨rfl, rfl⟩ := Prod.mk.inj (Option.some.inj read)
    exact ⟨by rw [word]; decide, rfl, .inr (.inl ⟨true, rfl⟩)⟩
  split at read
  · rename_i word
    obtain ⟨rfl, rfl⟩ := Prod.mk.inj (Option.some.inj read)
    exact ⟨by rw [word]; decide, rfl, .inr (.inl ⟨false, rfl⟩)⟩
  · obtain ⟨literal, found, same⟩ := Option.map_eq_some_iff.mp read
    obtain ⟨rfl, rfl⟩ := Prod.mk.inj same
    exact ⟨(scalar_of_readLiteral found).1, rfl, .inr (.inr ⟨literal, rfl⟩)⟩

/-- A value is a string, an array, an object or a scalar. -/
theorem readValue_cases (read : readValue format (fuel + 1) text = some (v, rest)) :
    ∃ u after, skip text = u :: after ∧
      ((∃ value, readString after = some (value, rest) ∧ v = .string value) ∨
        (expect 0x5D after = some rest ∧ v = .array []) ∨
        (∃ items, readItems format fuel after = some (items, rest) ∧ v = .array items) ∨
        (expect 0x7D after = some rest ∧ v = .object []) ∨
        (∃ entries, readMembers format fuel after = some (entries, rest) ∧
          v = .object (ofEntries entries)) ∨
        readScalar format (u :: after) = some (v, rest)) := by
  rw [readValue] at read
  split at read
  · cases read
  rename_i u after skipped
  refine ⟨u, after, skipped, ?_⟩
  split at read
  · obtain ⟨⟨value, rest'⟩, found, same⟩ := Option.map_eq_some_iff.mp read
    obtain ⟨rfl, rfl⟩ := Prod.mk.inj same
    exact .inl ⟨value, found, rfl⟩
  split at read
  · split at read
    · rename_i closed
      obtain ⟨rfl, rfl⟩ := Prod.mk.inj (Option.some.inj read)
      exact .inr (.inl ⟨closed, rfl⟩)
    · obtain ⟨⟨items, rest'⟩, found, same⟩ := Option.map_eq_some_iff.mp read
      obtain ⟨rfl, rfl⟩ := Prod.mk.inj same
      exact .inr (.inr (.inl ⟨items, found, rfl⟩))
  split at read
  · split at read
    · rename_i closed
      obtain ⟨rfl, rfl⟩ := Prod.mk.inj (Option.some.inj read)
      exact .inr (.inr (.inr (.inl ⟨closed, rfl⟩)))
    · obtain ⟨⟨entries, rest'⟩, found, same⟩ := Option.map_eq_some_iff.mp read
      obtain ⟨rfl, rfl⟩ := Prod.mk.inj same
      exact .inr (.inr (.inr (.inr (.inl ⟨entries, found, rfl⟩))))
  · exact .inr (.inr (.inr (.inr (.inr read))))

/-- After an item come further ones or the bracket. -/
theorem readItems_cases {items : List (Value format.Number)}
    (read : readItems format (fuel + 1) text = some (items, rest)) :
    ∃ v after, readValue format fuel text = some (v, after) ∧
      ((∃ behind later, expect 0x2C after = some behind ∧
          readItems format fuel behind = some (later, rest) ∧ items = v :: later) ∨
        expect 0x5D after = some rest ∧ items = [v]) := by
  rw [readItems] at read
  obtain ⟨⟨v, after⟩, first, read⟩ := Option.bind_eq_some_iff.mp read
  refine ⟨v, after, first, ?_⟩
  dsimp only at read
  split at read
  · rename_i behind comma
    obtain ⟨⟨later, rest'⟩, found, same⟩ := Option.map_eq_some_iff.mp read
    obtain ⟨rfl, rfl⟩ := Prod.mk.inj same
    exact .inl ⟨behind, later, comma, found, rfl⟩
  · obtain ⟨rest', closed, same⟩ := Option.map_eq_some_iff.mp read
    obtain ⟨rfl, rfl⟩ := Prod.mk.inj same
    exact .inr ⟨closed, rfl⟩

/-- After an entry come further ones or the brace. -/
theorem readMembers_cases {entries : List (Text × Value format.Number)}
    (read : readMembers format (fuel + 1) text = some (entries, rest)) :
    ∃ opened key afterKey afterColon v after, expect 0x22 text = some opened ∧
      readString opened = some (key, afterKey) ∧ expect 0x3A afterKey = some afterColon ∧
      readValue format fuel afterColon = some (v, after) ∧
      ((∃ behind later, expect 0x2C after = some behind ∧
          readMembers format fuel behind = some (later, rest) ∧ entries = (key, v) :: later) ∨
        expect 0x7D after = some rest ∧ entries = [(key, v)]) := by
  rw [readMembers] at read
  obtain ⟨opened, quotation, read⟩ := Option.bind_eq_some_iff.mp read
  obtain ⟨⟨key, afterKey⟩, keyRead, read⟩ := Option.bind_eq_some_iff.mp read
  obtain ⟨afterColon, colon, read⟩ := Option.bind_eq_some_iff.mp read
  obtain ⟨⟨v, after⟩, first, read⟩ := Option.bind_eq_some_iff.mp read
  refine ⟨opened, key, afterKey, afterColon, v, after, quotation, keyRead, colon, first, ?_⟩
  dsimp only at read
  split at read
  · rename_i behind comma
    obtain ⟨⟨later, rest'⟩, found, same⟩ := Option.map_eq_some_iff.mp read
    obtain ⟨rfl, rfl⟩ := Prod.mk.inj same
    exact .inl ⟨behind, later, comma, found, rfl⟩
  · obtain ⟨rest', closed, same⟩ := Option.map_eq_some_iff.mp read
    obtain ⟨rfl, rfl⟩ := Prod.mk.inj same
    exact .inr ⟨closed, rfl⟩

end Cases

/-! ## What is read -/

section Parsed

variable {format : NumberFormat}

theorem ordered_of_readScalar {text rest : Text} {v : Value format.Number}
    (read : readScalar format text = some (v, rest)) : v.Ordered := by
  obtain ⟨-, -, rfl | ⟨b, rfl⟩ | ⟨literal, rfl⟩⟩ := readScalar_cases read
  · exact .null
  · exact .bool b
  · exact .number _

theorem ordered_of_read (fuel : ℕ) :
    (∀ text v rest, readValue format fuel text = some (v, rest) → v.Ordered) ∧
    (∀ text items rest, readItems format fuel text = some (items, rest) →
      ∀ v ∈ items, v.Ordered) ∧
    ∀ text entries rest, readMembers format fuel text = some (entries, rest) →
      ∀ entry ∈ entries, entry.2.Ordered := by
  induction fuel with
  | zero =>
      refine ⟨fun _ _ _ read => ?_, fun _ _ _ read => ?_, fun _ _ _ read => ?_⟩
      · cases read
      · cases read
      · cases read
  | succ fuel ih =>
      obtain ⟨value, items, entries⟩ := ih
      refine ⟨fun text v rest read => ?_, fun text vs rest read => ?_,
        fun text es rest read => ?_⟩
      · obtain ⟨u, after, -, parsed⟩ := readValue_cases read
        rcases parsed with ⟨value, -, rfl⟩ | ⟨-, rfl⟩ | ⟨vs, inner, rfl⟩ | ⟨-, rfl⟩ |
          ⟨es, inner, rfl⟩ | scalar
        · exact .string value
        · exact .array (by simp)
        · exact .array (items _ vs rest inner)
        · exact .object .nil (by simp)
        · exact .object (inOrder_ofEntries es) fun member mem =>
            entries _ es rest inner member (mem_ofEntries mem)
        · exact ordered_of_readScalar scalar
      · obtain ⟨v, after, first, ⟨behind, later, -, inner, rfl⟩ | ⟨-, rfl⟩⟩ := readItems_cases read
        · exact List.forall_mem_cons.mpr ⟨value _ v after first, items _ later rest inner⟩
        · exact List.forall_mem_cons.mpr ⟨value _ v after first, by simp⟩
      · obtain ⟨_, key, _, _, v, after, -, -, -, first, ends⟩ := readMembers_cases read
        rcases ends with ⟨behind, later, -, inner, rfl⟩ | ⟨-, rfl⟩
        · exact List.forall_mem_cons.mpr ⟨value _ v after first, entries _ later rest inner⟩
        · exact List.forall_mem_cons.mpr ⟨value _ v after first, by simp⟩

/-- What is read is a value of the language. -/
theorem ordered_of_parse {text : Text} {v : Value format.Number}
    (read : parse format text = some v) : v.Ordered := by
  unfold parse at read
  split at read
  · rename_i w rest found
    split at read
    · obtain rfl := Option.some.inj read
      exact (ordered_of_read _).1 text w rest found
    · cases read
  · cases read

end Parsed

/-! ## The fuel of the parser -/

section Fuel

variable {format : NumberFormat}

theorem length_skip_le (text : Text) : (skip text).length ≤ text.length :=
  List.length_dropWhile_le _ _

theorem length_of_skip {text rest : Text} {u : CodeUnit} (skipped : skip text = u :: rest) :
    rest.length < text.length := by
  have bound := length_skip_le text
  rw [skipped, List.length_cons] at bound
  omega

theorem length_of_expect {u : CodeUnit} {text rest : Text} (found : expect u text = some rest) :
    rest.length < text.length := by
  unfold expect at found
  split at found
  · cases found
  · rename_i v after skipped
    split at found
    · obtain rfl := Option.some.inj found
      exact length_of_skip skipped
    · cases found

theorem length_of_readString (text : Text) : ∀ value rest,
    readString text = some (value, rest) → rest.length < text.length := by
  fun_induction readString text with
  | case1 => intro value rest read; cases read
  | case2 after =>
      intro value rest read
      obtain ⟨-, rfl⟩ := Prod.mk.inj (Option.some.inj read)
      exact Nat.lt_succ_self _
  | case3 u after _ control => intro value rest read; cases read
  | case4 => intro value rest read; cases read
  | case5 a b c d after _ _ ih =>
      intro value rest read
      obtain ⟨unit, -, read⟩ := Option.bind_eq_some_iff.mp read
      obtain ⟨⟨later, rest'⟩, found, read⟩ := Option.map_eq_some_iff.mp read
      obtain ⟨-, rfl⟩ := Prod.mk.inj read
      have shorter := ih later rest' found
      simp only [List.length_cons]
      omega
  | case6 => intro value rest read; cases read
  | case7 letter after _ _ _ ih =>
      intro value rest read
      obtain ⟨unit, -, read⟩ := Option.bind_eq_some_iff.mp read
      obtain ⟨⟨later, rest'⟩, found, read⟩ := Option.map_eq_some_iff.mp read
      obtain ⟨-, rfl⟩ := Prod.mk.inj read
      have shorter := ih later rest' found
      simp only [List.length_cons]
      omega
  | case8 u after _ _ _ ih =>
      intro value rest read
      obtain ⟨⟨later, rest'⟩, found, read⟩ := Option.map_eq_some_iff.mp read
      obtain ⟨-, rfl⟩ := Prod.mk.inj read
      exact (ih later rest' found).trans (Nat.lt_succ_self _)

/-- A scalar is at least one character. -/
theorem length_of_readScalar {text rest : Text} {v : Value format.Number}
    (read : readScalar format text = some (v, rest)) : rest.length < text.length := by
  obtain ⟨word, rfl, -⟩ := readScalar_cases read
  have positive := List.length_pos_of_ne_nil word
  have parts : (text.takeWhile isScalarUnit).length + (text.dropWhile isScalarUnit).length =
      text.length := by
    rw [← List.length_append, List.takeWhile_append_dropWhile]
  omega

/-- Whatever is read is at least one character. -/
theorem length_of_read (fuel : ℕ) :
    (∀ text v rest, readValue format fuel text = some (v, rest) → rest.length < text.length) ∧
    (∀ text items rest, readItems format fuel text = some (items, rest) →
      rest.length < text.length) ∧
    ∀ text entries rest, readMembers format fuel text = some (entries, rest) →
      rest.length < text.length := by
  induction fuel with
  | zero =>
      refine ⟨fun _ _ _ read => ?_, fun _ _ _ read => ?_, fun _ _ _ read => ?_⟩
      · cases read
      · cases read
      · cases read
  | succ fuel ih =>
      obtain ⟨value, items, entries⟩ := ih
      refine ⟨fun text v rest read => ?_, fun text vs rest read => ?_,
        fun text es rest read => ?_⟩
      · obtain ⟨u, after, skipped, parsed⟩ := readValue_cases read
        have shorter := length_of_skip skipped
        rcases parsed with ⟨_, found, -⟩ | ⟨closed, -⟩ | ⟨_, inner, -⟩ | ⟨closed, -⟩ |
          ⟨_, inner, -⟩ | scalar
        · exact (length_of_readString _ _ _ found).trans shorter
        · exact (length_of_expect closed).trans shorter
        · exact (items _ _ _ inner).trans shorter
        · exact (length_of_expect closed).trans shorter
        · exact (entries _ _ _ inner).trans shorter
        · have bound := length_skip_le text
          rw [skipped] at bound
          exact (length_of_readScalar scalar).trans_le bound
      · obtain ⟨v, after, first, ends⟩ := readItems_cases read
        have shorter := value _ _ _ first
        rcases ends with ⟨behind, later, comma, inner, -⟩ | ⟨closed, -⟩
        · exact ((items _ _ _ inner).trans (length_of_expect comma)).trans shorter
        · exact (length_of_expect closed).trans shorter
      · obtain ⟨opened, _, afterKey, afterColon, v, after, quotation, keyRead, colon, first,
          ends⟩ := readMembers_cases read
        have shorter : after.length < text.length :=
          calc
            after.length < afterColon.length := value _ _ _ first
            _ < afterKey.length := length_of_expect colon
            _ < opened.length := length_of_readString _ _ _ keyRead
            _ < text.length := length_of_expect quotation
        rcases ends with ⟨behind, later, comma, inner, -⟩ | ⟨closed, -⟩
        · exact ((entries _ _ _ inner).trans (length_of_expect comma)).trans shorter
        · exact (length_of_expect closed).trans shorter

/-- With fuel for every character, one unit more changes nothing. -/
theorem read_succ (fuel : ℕ) :
    (∀ text, 2 * text.length < fuel →
      readValue format (fuel + 1) text = readValue format fuel text) ∧
    (∀ text, 2 * text.length + 1 < fuel →
      readItems format (fuel + 1) text = readItems format fuel text) ∧
    ∀ text, 2 * text.length + 1 < fuel →
      readMembers format (fuel + 1) text = readMembers format fuel text := by
  -- for the three readers at once, of which two levels consume a character
  induction fuel with
  | zero => exact ⟨fun _ few => by omega, fun _ few => by omega, fun _ few => by omega⟩
  | succ fuel ih =>
      obtain ⟨value, items, entries⟩ := ih
      refine ⟨fun text enough => ?_, fun text enough => ?_, fun text enough => ?_⟩
      · rw [readValue, readValue]
        split
        · rfl
        · rename_i u after skipped
          have shorter := length_of_skip skipped
          rw [items after (by omega), entries after (by omega)]
      · rw [readItems, readItems, value text (by omega)]
        refine Option.bind_congr fun ⟨v, after⟩ first => ?_
        have shorter := (length_of_read fuel).1 _ _ _ first
        dsimp only
        cases found : expect 0x2C after with
        | none => rfl
        | some rest =>
            have afterComma := length_of_expect found
            simp only [items rest (by omega)]
      · rw [readMembers, readMembers]
        refine Option.bind_congr fun opened quotation => ?_
        refine Option.bind_congr fun key keyRead => ?_
        refine Option.bind_congr fun afterColon colon => ?_
        have opening := length_of_expect quotation
        have afterKey := length_of_readString _ _ _ keyRead
        have shorter := length_of_expect colon
        rw [value afterColon (by omega)]
        refine Option.bind_congr fun ⟨v, after⟩ first => ?_
        have afterValue := (length_of_read fuel).1 _ _ _ first
        dsimp only
        cases found : expect 0x2C after with
        | none => rfl
        | some rest =>
            have afterComma := length_of_expect found
            simp only [entries rest (by omega)]

/-- **The fuel does not matter**, from twice the length of the text on. -/
theorem readValue_of_le {text : Text} {fuel : ℕ} (enough : 2 * text.length + 1 ≤ fuel) :
    readValue format fuel text = readValue format (2 * text.length + 1) text := by
  induction fuel, enough using Nat.le_induction with
  | base => rfl
  | succ fuel enough ih => rw [(read_succ fuel).1 text enough, ih]

end Fuel

end TheVoteApp.JavaScript
