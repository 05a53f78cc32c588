import TheVoteApp.JavaScript.Json

/-!
# What is printed is read back

Reading a printed value gives the value back, with `null` for a number that is not
finite and `0` for `-0` (`parse_stringify`).  So printing is injective where
neither occurs (`eq_of_stringify_eq`).

## Main definitions

* `printedValue` — what a printed value is read as
* `ReadBack` — the printed value is read back in every place
* `Plain` — the values that are read back as they are
-/

namespace TheVoteApp.JavaScript

section Printed

variable (format : NumberFormat)

/-- What a printed number is read as. -/
def printedNumber (x : format.Number) : Value format.Number :=
  if format.print x = none then .null
  else if x = format.negativeZero then .number (format.ofNat 0) else .number x

mutual

/-- What a printed value is read as. -/
def printedValue : Value format.Number → Value format.Number
  | .null => .null
  | .bool b => .bool b
  | .number x => printedNumber format x
  | .string text => .string text
  | .array items => .array (printedItems items)
  | .object members => .object (printedMembers members)

/-- What the printed members of an array are read as. -/
def printedItems : List (Value format.Number) → List (Value format.Number)
  | [] => []
  | v :: items => printedValue v :: printedItems items

/-- What the printed members of an object are read as. -/
def printedMembers :
    List (Text × Value format.Number) → List (Text × Value format.Number)
  | [] => []
  | (key, v) :: members => (key, printedValue v) :: printedMembers members

end

end Printed

/-! ## Printed texts are read back -/

theorem skip_append {white : Text} (all : ∀ u ∈ white, isWhitespace u) (text : Text) :
    skip (white ++ text) = skip text := List.dropWhile_append_of_pos all

theorem skip_cons {u : CodeUnit} (proper : isWhitespace u = false) (text : Text) :
    skip (u :: text) = u :: text := List.dropWhile_cons_of_neg (by simp [proper])

theorem expect_append {white : Text} (all : ∀ u ∈ white, isWhitespace u) (u : CodeUnit)
    (text : Text) : expect u (white ++ text) = expect u text := by
  rw [expect, skip_append all, expect]

theorem expect_cons_self {u : CodeUnit} (proper : isWhitespace u = false) (text : Text) :
    expect u (u :: text) = some text := by
  simp [expect, skip_cons proper]

theorem expect_cons_of_ne {u v : CodeUnit} (proper : isWhitespace v = false) (other : v ≠ u)
    (text : Text) : expect u (v :: text) = none := by
  simp [expect, skip_cons proper, other]

theorem white_newline (spaces depth : ℕ) : ∀ u ∈ newline spaces depth, isWhitespace u := by
  intro u mem
  unfold newline at mem
  split at mem
  · cases mem
  · rcases List.mem_cons.mp mem with rfl | mem
    · decide
    · rw [List.eq_of_mem_replicate mem]
      decide

/-- The text does not go on with a scalar. -/
def Delimited (text : Text) : Prop := ∀ u ∈ text.head?, isScalarUnit u = false

theorem delimited_cons {u : CodeUnit} (other : isScalarUnit u = false) (text : Text) :
    Delimited (u :: text) := by
  intro v mem
  obtain rfl := Option.some.inj mem
  exact other

theorem delimited_append {white : Text} (all : ∀ u ∈ white, isWhitespace u) {text : Text}
    (delimited : Delimited text) : Delimited (white ++ text) := by
  cases white with
  | nil => exact delimited
  | cons u white =>
      refine delimited_cons ?_ _
      have space : isWhitespace u := all u List.mem_cons_self
      rcases of_decide_eq_true space with rfl | rfl | rfl | rfl
      · decide
      · decide
      · decide
      · decide

theorem takeWhile_scalar {word rest : Text} (scalar : ∀ u ∈ word, isScalarUnit u)
    (delimited : Delimited rest) : (word ++ rest).takeWhile isScalarUnit = word := by
  rw [List.takeWhile_append_of_pos scalar]
  cases rest with
  | nil => simp
  | cons u rest => rw [List.takeWhile_cons_of_neg (by simp [delimited u rfl]), List.append_nil]

theorem dropWhile_scalar {word rest : Text} (scalar : ∀ u ∈ word, isScalarUnit u)
    (delimited : Delimited rest) : (word ++ rest).dropWhile isScalarUnit = rest := by
  rw [List.dropWhile_append_of_pos scalar]
  cases rest with
  | nil => rfl
  | cons u rest => exact List.dropWhile_cons_of_neg (by simp [delimited u rfl])

theorem ne_of_isScalarUnit {u v : CodeUnit} (scalar : isScalarUnit u)
    (other : isScalarUnit v = false) : u ≠ v := by
  rintro rfl
  exact absurd scalar (by simp [other])

theorem not_isWhitespace_of_isScalarUnit {u : CodeUnit} (scalar : isScalarUnit u) :
    isWhitespace u = false := by
  refine decide_eq_false ?_
  rintro (same | same | same | same)
  · exact ne_of_isScalarUnit scalar (by decide) same
  · exact ne_of_isScalarUnit scalar (by decide) same
  · exact ne_of_isScalarUnit scalar (by decide) same
  · exact ne_of_isScalarUnit scalar (by decide) same

section RoundTrip

variable {format : NumberFormat} {spaces depth fuel : ℕ} {rest : Text}

/-- Where a scalar stands, a scalar is read. -/
theorem readValue_scalar {word : Text} (nonempty : word ≠ [])
    (scalar : ∀ u ∈ word, isScalarUnit u) :
    readValue format (fuel + 1) (word ++ rest) = readScalar format (word ++ rest) := by
  obtain ⟨u, word, rfl⟩ := List.exists_cons_of_ne_nil nonempty
  have first : isScalarUnit u := scalar u List.mem_cons_self
  rw [readValue, List.cons_append, skip_cons (not_isWhitespace_of_isScalarUnit first)]
  simp only [if_neg (ne_of_isScalarUnit (v := 0x22) first (by decide)),
    if_neg (ne_of_isScalarUnit (v := 0x5B) first (by decide)),
    if_neg (ne_of_isScalarUnit (v := 0x7B) first (by decide))]

theorem readScalar_literal {word : Text} {literal : Literal}
    (read : readLiteral word = some literal) (delimited : Delimited rest) :
    readScalar format (word ++ rest) = some (.number (format.read literal), rest) := by
  have scalar := (scalar_of_readLiteral read).2
  have notNull : word ≠ nullText := by
    rintro rfl
    have none : readLiteral nullText = none := by decide
    cases none.symm.trans read
  have notTrue : word ≠ trueText := by
    rintro rfl
    have none : readLiteral trueText = none := by decide
    cases none.symm.trans read
  have notFalse : word ≠ falseText := by
    rintro rfl
    have none : readLiteral falseText = none := by decide
    cases none.symm.trans read
  rw [readScalar]
  simp only [takeWhile_scalar scalar delimited, dropWhile_scalar scalar delimited, if_neg notNull,
    if_neg notTrue, if_neg notFalse, read, Option.map_some]

theorem readScalar_null (delimited : Delimited rest) :
    readScalar format (nullText ++ rest) = some (.null, rest) := by
  have scalar : ∀ u ∈ nullText, isScalarUnit u := List.all_eq_true.mp (by decide)
  rw [readScalar]
  simp only [takeWhile_scalar scalar delimited, dropWhile_scalar scalar delimited, if_true]

theorem readValue_null (delimited : Delimited rest) :
    readValue format (fuel + 1) (nullText ++ rest) = some (.null, rest) := by
  rw [readValue_scalar (by decide) (List.all_eq_true.mp (by decide)), readScalar_null delimited]

theorem readValue_bool (b : Bool) (delimited : Delimited rest) :
    readValue format (fuel + 1) (printValue format spaces depth (.bool b) ++ rest) =
      some (.bool b, rest) := by
  cases b with
  | true =>
      have scalar : ∀ u ∈ trueText, isScalarUnit u := List.all_eq_true.mp (by decide)
      rw [printValue, readValue_scalar (by decide) scalar, readScalar]
      simp only [takeWhile_scalar scalar delimited, dropWhile_scalar scalar delimited,
        if_neg (show trueText ≠ nullText by decide), if_true]
  | false =>
      have scalar : ∀ u ∈ falseText, isScalarUnit u := List.all_eq_true.mp (by decide)
      rw [printValue, readValue_scalar (by decide) scalar, readScalar]
      simp only [takeWhile_scalar scalar delimited, dropWhile_scalar scalar delimited,
        if_neg (show falseText ≠ nullText by decide),
        if_neg (show falseText ≠ trueText by decide), if_true]

/-- What is printed for a finite number. -/
theorem NumberFormat.literal_of_print {x : format.Number} {text : Text}
    (printed : format.print x = some text) :
    ∃ literal, readLiteral text = some literal ∧
      Value.number (format.read literal) = printedNumber format x := by
  rw [printedNumber, if_neg (by simp [printed])]
  split
  · rename_i zero
    subst zero
    rw [format.print_negativeZero] at printed
    obtain ⟨literal, read, value⟩ := format.read_print _ text format.ofNat_zero_ne printed
    exact ⟨literal, read, congrArg Value.number value⟩
  · rename_i proper
    obtain ⟨literal, read, value⟩ := format.read_print x text proper printed
    exact ⟨literal, read, congrArg Value.number value⟩

theorem readValue_number (x : format.Number) (delimited : Delimited rest) :
    readValue format (fuel + 1) (printNumber format x ++ rest) =
      some (printedNumber format x, rest) := by
  cases printed : format.print x with
  | none =>
      rw [printNumber, printed, printedNumber, if_pos printed]
      exact readValue_null delimited
  | some text =>
      obtain ⟨literal, read, value⟩ := format.literal_of_print printed
      obtain ⟨nonempty, scalar⟩ := scalar_of_readLiteral read
      rw [printNumber, printed, Option.getD_some, readValue_scalar nonempty scalar,
        readScalar_literal read delimited, value]

theorem readValue_quote (text : Text) :
    readValue format (fuel + 1) (quote text ++ rest) = some (.string text, rest) := by
  rw [quote, readValue, List.cons_append, skip_cons (by decide)]
  simp only [if_true, List.append_assoc, List.singleton_append, readString_quoteUnits,
    Option.map_some]

theorem readValue_append {white : Text} (all : ∀ u ∈ white, isWhitespace u) (text : Text) :
    readValue format fuel (white ++ text) = readValue format fuel text := by
  cases fuel with
  | zero => rfl
  | succ fuel => rw [readValue, skip_append all, readValue]

theorem readItems_append {white : Text} (all : ∀ u ∈ white, isWhitespace u) (text : Text) :
    readItems format fuel (white ++ text) = readItems format fuel text := by
  cases fuel with
  | zero => rfl
  | succ fuel => rw [readItems, readValue_append all, readItems]

theorem readMembers_append {white : Text} (all : ∀ u ∈ white, isWhitespace u) (text : Text) :
    readMembers format fuel (white ++ text) = readMembers format fuel text := by
  cases fuel with
  | zero => rfl
  | succ fuel => rw [readMembers, expect_append all, readMembers]

/-- The printed value is read back in every place. -/
def ReadBack (format : NumberFormat) (spaces depth : ℕ) (v : Value format.Number) : Prop :=
  ∀ fuel rest, (printValue format spaces depth v).length < fuel → Delimited rest →
    readValue format fuel (printValue format spaces depth v ++ rest) =
      some (printedValue format v, rest)

theorem readItems_joinParts {items : List (Value format.Number)} (nonempty : items ≠ [])
    (all : ∀ v ∈ items, ReadBack format spaces depth v) {white : Text}
    (space : ∀ u ∈ white, isWhitespace u)
    (enough : (joinParts spaces depth (printItems format spaces depth items)).length + 1 < fuel) :
    readItems format fuel (joinParts spaces depth (printItems format spaces depth items) ++
      (white ++ 0x5D :: rest)) = some (printedItems format items, rest) := by
  induction items generalizing fuel with
  | nil => exact absurd rfl nonempty
  | cons v items ih =>
      obtain ⟨first, others⟩ := List.forall_mem_cons.mp all
      cases fuel with
      | zero => omega
      | succ fuel =>
        cases items with
        | nil =>
            -- the last item, which no comma follows
            have delimited : Delimited (white ++ 0x5D :: rest) :=
              delimited_append space (delimited_cons (by decide) _)
            have only : joinParts spaces depth (printItems format spaces depth [v]) =
                printValue format spaces depth v := rfl
            rw [only] at enough ⊢
            rw [readItems, first fuel _ (by omega) delimited]
            simp only [Option.bind_some, expect_append space,
              expect_cons_of_ne (u := 0x2C) (v := 0x5D) (by decide) (by decide),
              expect_cons_self (u := 0x5D) (by decide), Option.map_some, printedItems]
        | cons w items =>
            have parts : joinParts spaces depth (printItems format spaces depth (v :: w :: items)) =
                printValue format spaces depth v ++ 0x2C :: (newline spaces depth ++
                  joinParts spaces depth (printItems format spaces depth (w :: items))) := rfl
            rw [parts] at enough ⊢
            simp only [List.length_append, List.length_cons] at enough
            have enough' : (joinParts spaces depth
                (printItems format spaces depth (w :: items))).length + 1 < fuel := by omega
            have next := ih (List.cons_ne_nil _ _) others enough'
            rw [List.append_assoc, List.cons_append, readItems,
              first fuel _ (by omega) (delimited_cons (by decide) _)]
            simp only [Option.bind_some, expect_cons_self (u := 0x2C) (by decide),
              List.append_assoc, readItems_append (white_newline spaces depth), next,
              Option.map_some, printedItems]

/-- After the quotation mark that opens a key. -/
theorem readMembers_quote (key text : Text) {v : Value format.Number} {after : Text}
    (read : readValue format fuel text = some (v, after)) :
    (∀ rest ∈ expect 0x2C after,
      readMembers format (fuel + 1) (quote key ++ (colon spaces ++ text)) =
        (readMembers format fuel rest).map fun (entries, rest) => ((key, v) :: entries, rest)) ∧
    (expect 0x2C after = none →
      readMembers format (fuel + 1) (quote key ++ (colon spaces ++ text)) =
        (expect 0x7D after).map fun rest => ([(key, v)], rest)) := by
  have white : ∀ u ∈ [(0x20 : CodeUnit)], isWhitespace u := by simp [isWhitespace]
  have blank : readValue format fuel (0x20 :: text) = readValue format fuel text :=
    readValue_append white text
  have afterColon : (expect 0x3A (colon spaces ++ text)).bind (readValue format fuel) =
      some (v, after) := by
    unfold colon
    split
    · rw [List.singleton_append, expect_cons_self (by decide), Option.bind_some, read]
    · rw [List.cons_append, List.singleton_append, expect_cons_self (by decide), Option.bind_some,
        blank, read]
  obtain ⟨rest, found, read⟩ := Option.bind_eq_some_iff.mp afterColon
  rw [quote, List.cons_append, readMembers, expect_cons_self (by decide)]
  simp only [Option.bind_some, List.append_assoc, List.singleton_append, readString_quoteUnits,
    found, read]
  constructor
  · intro rest comma
    rw [Option.mem_def.mp comma]
  · intro other
    rw [other]

theorem readMembers_joinParts {members : List (Text × Value format.Number)}
    (nonempty : members ≠ []) (all : ∀ member ∈ members, ReadBack format spaces depth member.2)
    {white : Text} (space : ∀ u ∈ white, isWhitespace u)
    (enough : (joinParts spaces depth (printMembers format spaces depth members)).length + 1 <
      fuel) :
    readMembers format fuel (joinParts spaces depth (printMembers format spaces depth members) ++
      (white ++ 0x7D :: rest)) = some (printedMembers format members, rest) := by
  induction members generalizing fuel with
  | nil => exact absurd rfl nonempty
  | cons member members ih =>
      obtain ⟨key, v⟩ := member
      obtain ⟨(first : ReadBack format spaces depth v), others⟩ := List.forall_mem_cons.mp all
      cases fuel with
      | zero => omega
      | succ fuel =>
        cases members with
        | nil =>
            -- the last member, which no comma follows
            have delimited : Delimited (white ++ 0x7D :: rest) :=
              delimited_append space (delimited_cons (by decide) _)
            have only : joinParts spaces depth (printMembers format spaces depth [(key, v)]) =
                quote key ++ colon spaces ++ printValue format spaces depth v := rfl
            rw [only] at enough ⊢
            simp only [List.length_append] at enough
            have last : expect 0x2C (white ++ 0x7D :: rest) = none := by
              rw [expect_append space, expect_cons_of_ne (by decide) (by decide)]
            rw [List.append_assoc, List.append_assoc,
              (readMembers_quote key _ (first fuel _ (by omega) delimited)).2 last,
              expect_append space, expect_cons_self (by decide)]
            rfl
        | cons member members =>
            -- a member, a comma and the members after it
            have parts : joinParts spaces depth
                (printMembers format spaces depth ((key, v) :: member :: members)) =
                (quote key ++ colon spaces ++ printValue format spaces depth v) ++
                  0x2C :: (newline spaces depth ++ joinParts spaces depth
                    (printMembers format spaces depth (member :: members))) := rfl
            rw [parts] at enough ⊢
            simp only [List.length_append, List.length_cons] at enough
            have enough' : (joinParts spaces depth
                (printMembers format spaces depth (member :: members))).length + 1 < fuel := by
              omega
            have next := ih (List.cons_ne_nil _ _) others enough'
            rw [List.append_assoc, List.append_assoc, List.append_assoc, List.cons_append,
              (readMembers_quote key _ (first fuel _ (by omega) (delimited_cons (by decide) _))).1 _
                (expect_cons_self (by decide) _), List.append_assoc,
              readMembers_append (white_newline spaces depth), next]
            rfl

theorem printedMembers_eq_map (members : List (Text × Value format.Number)) :
    printedMembers format members = members.map fun m => (m.1, printedValue format m.2) := by
  induction members with
  | nil => rfl
  | cons member members ih => rw [printedMembers, ih, List.map_cons]

theorem inOrder_printedMembers {members : List (Text × Value format.Number)}
    (inOrder : InOrder members) : InOrder (printedMembers format members) := by
  rw [printedMembers_eq_map]
  exact List.pairwise_map.mpr inOrder

/-- A printed value begins with a character that is neither white space nor a
closing bracket. -/
theorem head_printValue (v : Value format.Number) :
    ∃ u text, printValue format spaces depth v = u :: text ∧ isWhitespace u = false ∧ u ≠ 0x5D := by
  have scalar {word : Text} (nonempty : word ≠ []) (all : ∀ u ∈ word, isScalarUnit u) :
      ∃ u text, word = u :: text ∧ isWhitespace u = false ∧ u ≠ 0x5D := by
    obtain ⟨u, text, rfl⟩ := List.exists_cons_of_ne_nil nonempty
    have first : isScalarUnit u := all u List.mem_cons_self
    exact ⟨u, text, rfl, not_isWhitespace_of_isScalarUnit first,
      ne_of_isScalarUnit first (by decide)⟩
  cases v with
  | null => exact ⟨_, _, rfl, by decide, by decide⟩
  | bool b =>
      cases b with
      | true => exact ⟨_, _, rfl, by decide, by decide⟩
      | false => exact ⟨_, _, rfl, by decide, by decide⟩
  | number x =>
      rw [printValue, printNumber]
      cases printed : format.print x with
      | none => exact ⟨_, _, rfl, by decide, by decide⟩
      | some text =>
          obtain ⟨literal, read, -⟩ := format.literal_of_print printed
          obtain ⟨nonempty, all⟩ := scalar_of_readLiteral read
          exact scalar nonempty all
  | string text => exact ⟨_, _, rfl, by decide, by decide⟩
  | array items =>
      rw [printValue, enclose]
      split
      · exact ⟨_, _, rfl, by decide, by decide⟩
      · exact ⟨_, _, rfl, by decide, by decide⟩
  | object members =>
      rw [printValue, enclose]
      split
      · exact ⟨_, _, rfl, by decide, by decide⟩
      · exact ⟨_, _, rfl, by decide, by decide⟩

theorem printItems_eq_map (items : List (Value format.Number)) :
    printItems format spaces depth items = items.map (printValue format spaces depth) := by
  induction items with
  | nil => rfl
  | cons v items ih => rw [printItems, ih, List.map_cons]

theorem printMembers_eq_map (members : List (Text × Value format.Number)) :
    printMembers format spaces depth members =
      members.map fun m => quote m.1 ++ colon spaces ++ printValue format spaces depth m.2 := by
  induction members with
  | nil => rfl
  | cons member members ih => rw [printMembers, ih, List.map_cons]

/-- What follows the bracket or brace that opens a printed array or object is not
the one that closes it. -/
theorem expect_joinParts {closing : CodeUnit} {parts : List Text} {white text : Text}
    (space : ∀ u ∈ white, isWhitespace u) (nonempty : parts ≠ [])
    (first : ∀ part ∈ parts, ∀ text, expect closing (part ++ text) = none) :
    expect closing (white ++ (joinParts spaces depth parts ++ text)) = none := by
  rw [expect_append space]
  match parts, nonempty with
  | [part], _ => exact first part List.mem_cons_self text
  | part :: next :: parts, _ =>
      rw [joinParts, List.append_assoc]
      exact first part List.mem_cons_self _

theorem readBack_array {items : List (Value format.Number)}
    (all : ∀ v ∈ items, ReadBack format spaces (depth + 1) v) :
    ReadBack format spaces depth (.array items) := by
  intro fuel rest enough delimited
  cases fuel with
  | zero => omega
  | succ fuel =>
    rw [printValue, enclose] at enough ⊢
    by_cases none : items = []
    · subst none
      rw [printItems, if_pos rfl, List.cons_append, readValue, skip_cons (by decide),
        printedValue, printedItems]
      simp only [if_neg (show (0x5B : CodeUnit) ≠ 0x22 by decide), if_true, List.cons_append,
        List.nil_append, expect_cons_self (u := 0x5D) (by decide)]
    · have some' : printItems format spaces (depth + 1) items ≠ [] := by
        rwa [printItems_eq_map, ne_eq, List.map_eq_nil_iff]
      -- what follows the bracket is an item, so that the array is not read as empty
      have open' (text : Text) : expect 0x5D (newline spaces (depth + 1) ++
          (joinParts spaces (depth + 1) (printItems format spaces (depth + 1) items) ++ text)) =
          Option.none := by
        refine expect_joinParts (white_newline _ _) some' fun part mem text => ?_
        rw [printItems_eq_map] at mem
        obtain ⟨v, -, rfl⟩ := List.mem_map.mp mem
        obtain ⟨u, tail, printed, proper, other⟩ :=
          @head_printValue format spaces (depth + 1) v
        rw [printed, List.cons_append]
        exact expect_cons_of_ne proper other _
      rw [if_neg some'] at enough ⊢
      simp only [List.length_append, List.length_cons, List.length_nil] at enough
      have enough' : (joinParts spaces (depth + 1)
          (printItems format spaces (depth + 1) items)).length + 1 < fuel := by omega
      rw [List.cons_append, readValue, skip_cons (by decide)]
      simp only [if_neg (show (0x5B : CodeUnit) ≠ 0x22 by decide), if_true, List.append_assoc,
        List.singleton_append, open', readItems_append (white_newline spaces (depth + 1)),
        readItems_joinParts none all (white_newline spaces depth) enough',
        Option.map_some, printedValue]

theorem readBack_object {members : List (Text × Value format.Number)} (inOrder : InOrder members)
    (all : ∀ member ∈ members, ReadBack format spaces (depth + 1) member.2) :
    ReadBack format spaces depth (.object members) := by
  intro fuel rest enough delimited
  cases fuel with
  | zero => omega
  | succ fuel =>
    rw [printValue, enclose] at enough ⊢
    by_cases none : members = []
    · subst none
      rw [printMembers, if_pos rfl, List.cons_append, readValue, skip_cons (by decide),
        printedValue, printedMembers]
      simp only [if_neg (show (0x7B : CodeUnit) ≠ 0x22 by decide),
        if_neg (show (0x7B : CodeUnit) ≠ 0x5B by decide), if_true, List.cons_append,
        List.nil_append, expect_cons_self (u := 0x7D) (by decide)]
    · have some' : printMembers format spaces (depth + 1) members ≠ [] := by
        rwa [printMembers_eq_map, ne_eq, List.map_eq_nil_iff]
      -- what follows the brace is a key, so that the object is not read as empty
      have open' (text : Text) : expect 0x7D (newline spaces (depth + 1) ++
          (joinParts spaces (depth + 1) (printMembers format spaces (depth + 1) members) ++
            text)) = Option.none := by
        refine expect_joinParts (white_newline _ _) some' fun part mem text => ?_
        rw [printMembers_eq_map] at mem
        obtain ⟨member, -, rfl⟩ := List.mem_map.mp mem
        rw [quote, List.cons_append, List.cons_append, List.cons_append]
        exact expect_cons_of_ne (by decide) (by decide) _
      rw [if_neg some'] at enough ⊢
      simp only [List.length_append, List.length_cons, List.length_nil] at enough
      have enough' : (joinParts spaces (depth + 1)
          (printMembers format spaces (depth + 1) members)).length + 1 < fuel := by omega
      rw [List.cons_append, readValue, skip_cons (by decide)]
      simp only [if_neg (show (0x7B : CodeUnit) ≠ 0x22 by decide),
        if_neg (show (0x7B : CodeUnit) ≠ 0x5B by decide), if_true, List.append_assoc,
        List.singleton_append, open', readMembers_append (white_newline spaces (depth + 1)),
        readMembers_joinParts none all (white_newline spaces depth) enough',
        Option.map_some, printedValue, ofEntries_of_inOrder (inOrder_printedMembers inOrder)]

/-- **A printed value is read back**, wherever it stands. -/
theorem readBack_of_ordered {v : Value format.Number} (ordered : v.Ordered) (depth : ℕ) :
    ReadBack format spaces depth v := by
  induction ordered generalizing depth with
  | null =>
      intro fuel rest enough delimited
      obtain ⟨fuel, rfl⟩ := Nat.exists_eq_succ_of_ne_zero (Nat.ne_of_gt (Nat.zero_lt_of_lt enough))
      exact readValue_null delimited
  | bool b =>
      intro fuel rest enough delimited
      obtain ⟨fuel, rfl⟩ := Nat.exists_eq_succ_of_ne_zero (Nat.ne_of_gt (Nat.zero_lt_of_lt enough))
      exact readValue_bool b delimited
  | number x =>
      intro fuel rest enough delimited
      obtain ⟨fuel, rfl⟩ := Nat.exists_eq_succ_of_ne_zero (Nat.ne_of_gt (Nat.zero_lt_of_lt enough))
      exact readValue_number x delimited
  | string text =>
      intro fuel rest enough delimited
      obtain ⟨fuel, rfl⟩ := Nat.exists_eq_succ_of_ne_zero (Nat.ne_of_gt (Nat.zero_lt_of_lt enough))
      exact readValue_quote text
  | array all ih => exact readBack_array fun v mem => ih v mem (depth + 1)
  | object inOrder all ih =>
      exact readBack_object inOrder fun member mem => ih member mem (depth + 1)

end RoundTrip

/-- **JSON round trip.** -/
theorem parse_stringify (format : NumberFormat) (spaces : ℕ) {v : Value format.Number}
    (ordered : v.Ordered) :
    parse format (stringify format spaces v) = some (printedValue format v) := by
  have nothing : Delimited [] := fun u mem => by cases mem
  have read := @readBack_of_ordered format (min spaces 10) v ordered 0
    (2 * (stringify format spaces v).length + 1) [] (by rw [stringify]; omega) nothing
  rw [List.append_nil] at read
  rw [parse, stringify] at *
  rw [read]
  rfl

/-! ## Values that survive -/

section Plain

variable {format : NumberFormat}

/-- Nothing in the value is `null`, or prints like another number. -/
inductive Plain (format : NumberFormat) : Value format.Number → Prop where
  | bool (b : Bool) : Plain format (.bool b)
  | number {x : format.Number} {text : Text} (printed : format.print x = some text)
      (nonzero : x ≠ format.negativeZero ∧ x ≠ format.ofNat 0) : Plain format (.number x)
  | string (text : Text) : Plain format (.string text)
  | array {items : List (Value format.Number)} (all : ∀ v ∈ items, Plain format v) :
      Plain format (.array items)
  | object {members : List (Text × Value format.Number)}
      (all : ∀ member ∈ members, Plain format member.2) : Plain format (.object members)

theorem printedItems_eq_map (items : List (Value format.Number)) :
    printedItems format items = items.map (printedValue format) := by
  induction items with
  | nil => rfl
  | cons v items ih => rw [printedItems, ih, List.map_cons]

/-- A plain value is read back as it is. -/
theorem Plain.printedValue_eq {v : Value format.Number} (plain : Plain format v) :
    printedValue format v = v := by
  induction plain with
  | bool b => rfl
  | number printed nonzero =>
      rw [printedValue, printedNumber, if_neg (by simp [printed]), if_neg nonzero.1]
  | string text => rfl
  | array all ih =>
      rw [printedValue, printedItems_eq_map, List.map_congr_left ih, List.map_id']
  | object all ih =>
      rw [printedValue, printedMembers_eq_map]
      refine congrArg Value.object
        ((List.map_congr_left fun member mem => ?_).trans (List.map_id' _))
      rw [ih member mem]

/-- No other value is printed like a plain one. -/
theorem Plain.eq_of_printedValue_eq {v w : Value format.Number} (plain : Plain format w)
    (same : printedValue format v = w) : v = w := by
  induction plain generalizing v with
  | bool b =>
      cases v with
      | bool c => exact same
      | number x =>
          rw [printedValue, printedNumber] at same
          -- a number is printed as a number or as `null`
          split_ifs at same
      | _ => cases same
  | number printed nonzero =>
      cases v with
      | number x =>
          rw [printedValue, printedNumber] at same
          split_ifs at same
          · exact absurd (Value.number.inj same).symm nonzero.2
          · exact same
      | _ => cases same
  | string text =>
      cases v with
      | string text' => exact same
      | number x =>
          rw [printedValue, printedNumber] at same
          split_ifs at same
      | _ => cases same
  | @array items all ih =>
      cases v with
      | array items' =>
          rw [printedValue, printedItems_eq_map] at same
          have mapped := Value.array.inj same
          refine congrArg Value.array (mapped ▸ ?_)
          refine (List.map_congr_left fun v mem => ?_).trans (List.map_id' _) |>.symm
          exact (ih _ (mapped ▸ List.mem_map_of_mem mem) rfl).symm
      | number x =>
          rw [printedValue, printedNumber] at same
          split_ifs at same
      | _ => cases same
  | @object members all ih =>
      cases v with
      | object members' =>
          rw [printedValue, printedMembers_eq_map] at same
          have mapped := Value.object.inj same
          refine congrArg Value.object (mapped ▸ ?_)
          refine (List.map_congr_left fun member mem => ?_).trans (List.map_id' _) |>.symm
          have inside := ih _ (mapped ▸ List.mem_map_of_mem mem) (v := member.2) rfl
          exact Prod.ext rfl inside.symm
      | number x =>
          rw [printedValue, printedNumber] at same
          split_ifs at same
      | _ => cases same

theorem printedNumber_ofNat {n : ℕ} (small : n < 2 ^ 53) :
    printedNumber format (format.ofNat n) = .number (format.ofNat n) := by
  rw [printedNumber, if_neg (by simp [format.print_ofNat n small]),
    if_neg (NumberFormat.ofNat_ne_negativeZero small)]

theorem Plain.ofNat {n : ℕ} (positive : 0 < n) (small : n < 2 ^ 53) :
    Plain format (.number (format.ofNat n)) :=
  .number (format.print_ofNat n small) ⟨NumberFormat.ofNat_ne_negativeZero small,
    fun zero => positive.ne' (NumberFormat.ofNat_inj small (by decide) zero)⟩

/-- Values that are printed alike are read back alike. -/
theorem printedValue_eq_of_stringify_eq {spaces : ℕ} {v w : Value format.Number}
    (ordered : v.Ordered) (ordered' : w.Ordered)
    (same : stringify format spaces v = stringify format spaces w) :
    printedValue format v = printedValue format w := by
  have read := parse_stringify format spaces ordered
  rw [same, parse_stringify format spaces ordered'] at read
  exact (Option.some.inj read).symm

/-- **Printing is injective** at plain values. -/
theorem eq_of_stringify_eq {spaces : ℕ} {v w : Value format.Number} (ordered : v.Ordered)
    (ordered' : w.Ordered) (plain : Plain format w)
    (same : stringify format spaces v = stringify format spaces w) : v = w :=
  plain.eq_of_printedValue_eq
    ((printedValue_eq_of_stringify_eq ordered ordered' same).trans plain.printedValue_eq)

/-- The properties of an object that is read back. -/
theorem get_printedValue (members : List (Text × Value format.Number)) (key : Text) :
    (printedValue format (.object members)).get key =
      ((Value.object members).get key).map (printedValue format) := by
  rw [printedValue, Value.get, Value.get]
  induction members with
  | nil => rfl
  | cons member members ih =>
      rw [printedMembers, List.lookup_cons, List.lookup_cons, ih]
      split
      · rfl
      · rfl

end Plain

end TheVoteApp.JavaScript
