import TheVoteApp.JavaScript.Builtins

/-!
# Words and the spaces between them

A text of words with white space around and between them is read back word by word: `trim`
takes the outer spaces away and `splitSpaces` the inner ones.  Upper case leaves the spaces
where they are.

## Main definitions

* `joinWords` — words with a gap in front of each but the first
* `Spaces`, `Word` — runs of white space, and words
-/

namespace TheVoteApp.JavaScript

/-- White space only. -/
def Spaces (gap : List Char) : Prop := ∀ c ∈ gap, isWhiteSpace c = true

/-- One character at least, and no white space. -/
def Word (word : List Char) : Prop := word ≠ [] ∧ ∀ c ∈ word, isWhiteSpace c = false

/-- A first word, and then gaps and words in turn. -/
def joinWords (first : List Char) : List (List Char × List Char) → List Char
  | [] => first
  | (gap, word) :: rest => first ++ gap ++ joinWords word rest

/-- Gaps and words, as they may stand behind a first word. -/
def Spaced (rest : List (List Char × List Char)) : Prop :=
  ∀ entry ∈ rest, Spaces entry.1 ∧ entry.1 ≠ [] ∧ Word entry.2

/-! ## Splitting -/

/-- A gap separates once, and leaves nothing between its spaces. -/
theorem splitOnP_gap {word gap : List Char} (plain : ∀ c ∈ word, isWhiteSpace c = false)
    (spaces : Spaces gap) (nonempty : gap ≠ []) (rest : List Char) :
    (word ++ gap ++ rest).splitOnP isWhiteSpace =
      word :: (List.replicate (gap.length - 1) [] ++ rest.splitOnP isWhiteSpace) := by
  induction gap generalizing word with
  | nil => exact absurd rfl nonempty
  | cons space gap ih =>
      obtain ⟨first, others⟩ := List.forall_mem_cons.mp spaces
      rw [List.append_assoc, List.cons_append,
        List.splitOnP_append_cons_of_forall_mem plain space first]
      cases gap with
      | nil => rfl
      | cons next gap =>
          have inner := @ih [] (by simp) others (by simp)
          rw [List.nil_append] at inner
          rw [inner]
          rfl

/-- The pieces of words and gaps: the first is the first word, the last is one of the
words, and without the empty ones they are the words. -/
theorem splitOnP_joinWords {first : List Char} {rest : List (List Char × List Char)}
    (word : Word first) (spaced : Spaced rest) :
    ∃ pieces, (joinWords first rest).splitOnP isWhiteSpace = first :: pieces ∧
      (first :: pieces).getLast (by simp) ≠ [] ∧
      (first :: pieces).filter (· ≠ []) = first :: rest.map Prod.snd := by
  induction rest generalizing first with
  | nil =>
      refine ⟨[], List.splitOnP_eq_singleton word.2, word.1, ?_⟩
      simp [word.1]
  | cons entry rest ih =>
      obtain ⟨gap, next⟩ := entry
      obtain ⟨⟨spaces, nonempty, nextWord⟩, others⟩ := List.forall_mem_cons.mp spaced
      obtain ⟨pieces, split, last, words⟩ := ih nextWord others
      refine ⟨List.replicate (gap.length - 1) [] ++ next :: pieces, ?_, ?_, ?_⟩
      · rw [joinWords, splitOnP_gap word.2 spaces nonempty, split]
      · rw [List.getLast_cons (by simp), List.getLast_append_of_ne_nil (by simp) (by simp)]
        exact last
      · rw [List.filter_cons_of_pos (by simpa using word.1), List.filter_append, words]
        simp

/-- Pieces that neither start nor end with an empty one lose the empty ones. -/
theorem splitSpaces_eq_filter {text : String} {first : List Char} {pieces : List (List Char)}
    (split : text.toList.splitOnP isWhiteSpace = first :: pieces) (start : first ≠ [])
    (last : (first :: pieces).getLast (by simp) ≠ []) :
    splitSpaces text = ((first :: pieces).filter (· ≠ [])).map String.ofList := by
  rw [splitSpaces, split]
  cases pieces with
  | nil => simp [start]
  | cons second rest =>
      rw [List.getLast_cons (by simp)] at last
      have final : (second :: rest).getLast? = some ((second :: rest).getLast (by simp)) :=
        List.getLast?_eq_getLast_of_ne_nil (by simp)
      have whole := List.dropLast_append_getLast (l := second :: rest) (by simp)
      show (first :: ((second :: rest).dropLast.filter (· ≠ [])) ++
        (second :: rest).getLast?.toList).map String.ofList = _
      rw [final, List.filter_cons_of_pos (by simpa using start)]
      conv_rhs => rw [← whole]
      rw [List.filter_append]
      simp [last]

theorem splitSpaces_joinWords {first : List Char} {rest : List (List Char × List Char)}
    (word : Word first) (spaced : Spaced rest) :
    splitSpaces (String.ofList (joinWords first rest)) =
      (first :: rest.map Prod.snd).map String.ofList := by
  obtain ⟨pieces, split, last, words⟩ := splitOnP_joinWords word spaced
  rw [splitSpaces_eq_filter (by rwa [String.toList_ofList]) word.1 last, words]

/-! ## Trimming -/

theorem dropWhile_spaces {lead text : List Char} (spaces : Spaces lead)
    (starts : ∀ c ∈ text.head?, isWhiteSpace c = false) :
    (lead ++ text).dropWhile isWhiteSpace = text := by
  rw [List.dropWhile_append_of_pos spaces]
  cases text with
  | nil => rfl
  | cons c text => exact List.dropWhile_cons_of_neg (by simp [starts c rfl])

theorem head?_joinWords {first : List Char} {rest : List (List Char × List Char)}
    (word : Word first) : ∀ c ∈ (joinWords first rest).head?, isWhiteSpace c = false := by
  obtain ⟨nonempty, plain⟩ := word
  obtain ⟨c, cs, rfl⟩ := List.exists_cons_of_ne_nil nonempty
  intro d mem
  have head : (joinWords (c :: cs) rest).head? = some c := by
    cases rest <;> rfl
  rw [head] at mem
  obtain rfl := Option.mem_some_iff.mp mem
  exact plain c List.mem_cons_self

theorem getLast?_joinWords {first : List Char} {rest : List (List Char × List Char)}
    (word : Word first) (spaced : Spaced rest) :
    joinWords first rest ≠ [] ∧
      ∀ c ∈ (joinWords first rest).getLast?, isWhiteSpace c = false := by
  induction rest generalizing first with
  | nil =>
      refine ⟨word.1, fun c mem => ?_⟩
      exact word.2 c (List.mem_of_getLast? mem)
  | cons entry rest ih =>
      obtain ⟨⟨-, -, nextWord⟩, others⟩ := List.forall_mem_cons.mp spaced
      obtain ⟨nonempty, ends⟩ := ih nextWord others
      refine ⟨by simp [joinWords, word.1], fun c mem => ends c ?_⟩
      rwa [joinWords, List.getLast?_append_of_ne_nil _ nonempty] at mem

theorem trim_joinWords {lead first trail : List Char} {rest : List (List Char × List Char)}
    (before : Spaces lead) (word : Word first) (spaced : Spaced rest) (behind : Spaces trail) :
    trim (String.ofList (lead ++ joinWords first rest ++ trail)) =
      String.ofList (joinWords first rest) := by
  obtain ⟨nonempty, ends⟩ := getLast?_joinWords word spaced
  have starts : ∀ c ∈ (joinWords first rest ++ trail).head?, isWhiteSpace c = false := by
    rw [List.head?_append_of_ne_nil _ nonempty]
    exact head?_joinWords word
  have tail : Spaces trail.reverse := fun c mem => behind c (List.mem_reverse.mp mem)
  have finish : ∀ c ∈ (joinWords first rest).reverse.head?, isWhiteSpace c = false := by
    rw [List.head?_reverse]
    exact ends
  rw [trim, String.toList_ofList, List.append_assoc, dropWhile_spaces before starts,
    List.reverse_append, dropWhile_spaces tail finish, List.reverse_reverse]

/-! ## Upper case -/

/-- Upper case does not touch white space. -/
def CaseTable.KeepsSpaces (table : CaseTable) : Prop :=
  ∀ c, isWhiteSpace c = true → table.upper c = [c]

theorem toUpper_of_isWhiteSpace {c : Char} (space : isWhiteSpace c = true) : c.toUpper = c := by
  apply Char.toUpper_eq_of_not_isLower
  intro lower
  have range : 97 ≤ c.toNat ∧ c.toNat ≤ 122 := by
    simpa [Char.isLower, UInt32.le_iff_toNat_le] using lower
  simp only [isWhiteSpace, List.mem_cons, List.not_mem_nil, or_false, Bool.decide_or,
    Bool.or_eq_true, decide_eq_true_eq] at space
  omega

theorem CaseTable.keepsSpaces_ofAscii : CaseTable.ofAscii.KeepsSpaces := by
  intro c space
  show [c.toUpper] = [c]
  rw [toUpper_of_isWhiteSpace space]

theorem flatMap_upper_joinWords {table : CaseTable} (keeps : table.KeepsSpaces)
    (first : List Char) {rest : List (List Char × List Char)} (spaced : Spaced rest) :
    (joinWords first rest).flatMap table.upper =
      joinWords (first.flatMap table.upper)
        (rest.map fun entry => (entry.1, entry.2.flatMap table.upper)) := by
  induction rest generalizing first with
  | nil => rfl
  | cons entry rest ih =>
      obtain ⟨gap, next⟩ := entry
      obtain ⟨⟨spaces, -, -⟩, others⟩ := List.forall_mem_cons.mp spaced
      have kept : gap.flatMap table.upper = gap := by
        rw [List.flatMap_congr fun c mem => keeps c (spaces c mem), List.flatMap_singleton']
      rw [joinWords, List.flatMap_append, List.flatMap_append, kept, ih next others]
      rfl

end TheVoteApp.JavaScript
