import TheVoteApp.AuditLog.Service
import TheVoteApp.Foundations.DescendingPages
import TheVoteApp.JavaScript.Number

/-!
# Listing the audit entries

`GET /audit` shows the entries of the contract in pages, the newest first.  The
ids on a page are computed in JavaScript numbers from the number of entries, which
moves between requests.  They are those of `DescendingPages.page`
(`ids_eq_page`), or none at all when the limit is not positive (`ids_of_nonpos`),
so walking the pages passes over no entry.

Each entry is then read through `getEntry`, with the declaration of
`AuditLogService`; that declaration reads no entry (`recorded_entry_never_decodes`
is the same observation), so what the pages would show is not shown.

## Main definitions

* `ids`, `listEntries` — the handler
* `Session` — pages fetched one after the other while the log grows
* `LosesNothing` — what a walk through the pages should show
-/

namespace TheVoteApp.AuditRoute

open Solidity Foundations JavaScript AuditLogService

/-! ## The handler -/

/-- What `parseInt` makes of a query parameter that begins with an integer, or
with none. -/
def parsed (query : Option ℤ) : Number := query.elim .nan Number.ofInt

/-- `Math.max(1, parseInt(page))`. -/
def pageOf (query : Option ℤ) : Number := Number.max (.int 1) (parsed query)

/-- `Math.min(50, parseInt(limit))`. -/
def limitOf (query : Option ℤ) : Number := Number.min (.int 50) (parsed query)

/-- `Math.max(0, total - skipped)`. -/
def clamp (total skipped : Number) : Number := Number.max (.int 0) (Number.sub total skipped)

/-- The ids that are asked for. -/
def ids (total page limit : Number) : List Number :=
  let start := clamp total (page.mul limit)
  let stop := clamp total ((page.sub (.int 1)).mul limit)
  ((List.range (stop.sub start).toLength).map fun i : ℕ => start.add (.int i)).reverse

/-- An entry as the page shows it. -/
structure Row where
  id : ℕ
  actor : Address
  action : String
  cid : String
  timestamp : ℕ
deriving DecidableEq

/-- The body of the answer. -/
structure Listing where
  total : Number
  page : Number
  limit : Number
  entries : List Row
deriving DecidableEq

/-- A number as an argument of type `uint256`: a safe integer that is not
negative. -/
def uintArgument : Number → Option ℕ
  | .int n => if 0 ≤ n ∧ n < 2 ^ 53 then some n.toNat else none
  | _ => none

/-- One entry, `decode` being how the return data of `getEntry` are read; `none`
is an exception. -/
def readEntry (decode : Bytes → Option Decoded) (s : AuditLog) (id : Number) : Option Row := do
  let id ← uintArgument id
  let data ← (s.getEntry id).toOption
  let raw ← decode data
  let actor ← raw.actor
  let action ← raw.action
  let cid ← raw.ipfsCid
  return ⟨id, actor, action, cid, toNumber raw.timestamp⟩

/-- `GET /`, when `counted` is the contract that `entryCount` sees and `read` the
one that the calls of `getEntry` see; `none` is the status 500. -/
def listEntries (decode : Bytes → Option Decoded) (counted read : AuditLog)
    (page limit : Option ℤ) : Option Listing := do
  let total := Number.ofInt counted.entryCount
  let entries ← (ids total (pageOf page) (limitOf limit)).mapM (readEntry decode read)
  return ⟨total, pageOf page, limitOf limit, entries⟩

/-! ## The ids of a page -/

section Ids

variable {total : ℕ}

theorem ofInt_zero : Number.ofInt 0 = .int 0 := Number.ofInt_of_small (by decide)

theorem ofInt_safe (safe : total < 2 ^ 53) : Number.ofInt total = .int total :=
  Number.ofInt_of_small (by omega)

theorem max_int (a b : ℤ) : Number.max (.int a) (.int b) = .int (max a b) := by
  rcases le_total a b with order | order
  · rw [max_eq_right order, Number.max_eq_right (Number.le_int.mpr order)]
  · rw [max_eq_left order, Number.max_eq_left (Number.le_int.mpr order)]

/-- Nothing above zero is left of a total less at least as much. -/
theorem clamp_of_le {skipped : Number} (order : Number.le (.int total) skipped = true) :
    clamp (.int total) skipped = .int 0 := by
  apply Number.max_eq_left
  cases skipped with
  | nan => cases order
  | negInfinity => cases order
  | infinity => rfl
  | int n =>
      have enough : (total : ℤ) ≤ n := Number.le_int.mp order
      rw [← ofInt_zero]
      exact Number.ofInt_mono (show total + -n ≤ 0 by omega)

/-- A total less an exact product. -/
theorem clamp_ofInt (safe : total < 2 ^ 53) (skipped : ℕ) :
    clamp (.int total) (.ofInt skipped) = .int (total - skipped : ℕ) := by
  rcases Nat.lt_or_ge skipped total with less | enough
  · have exact : Number.ofInt skipped = .int skipped := Number.ofInt_of_small (by omega)
    have left : Number.ofInt (total + -(skipped : ℤ)) = .int (total + -(skipped : ℤ)) :=
      Number.ofInt_of_small (by omega)
    rw [exact]
    show Number.max (.int 0) (Number.ofInt (total + -(skipped : ℤ))) = _
    rw [left, max_int]
    congr 1
    omega
  · have order := Number.ofInt_mono (show (total : ℤ) ≤ skipped by omega)
    rw [ofInt_safe safe] at order
    rw [clamp_of_le order, Nat.sub_eq_zero_of_le enough, Nat.cast_zero]

theorem pageOf_of_le {page : ℤ} (small : page ≤ 2 ^ 53) :
    pageOf (some page) = .int (max 1 page) := by
  rcases le_or_gt page 1 with first | later
  · rw [max_eq_left first]
    apply Number.max_eq_left
    rw [show Number.int 1 = .ofInt 1 from (Number.ofInt_of_small (by decide)).symm]
    exact Number.ofInt_mono first
  · have exact : Number.ofInt page = .int page := Number.ofInt_of_small (by omega)
    rw [← max_int, ← exact]
    rfl

theorem pageOf_of_lt {page : ℤ} (large : 2 ^ 53 < page) :
    pageOf (some page) = .ofInt page ∧ Number.le (.int (2 ^ 53)) (.ofInt page) = true := by
  have order := Number.ofInt_mono large.le
  rw [show Number.ofInt (2 ^ 53) = .int (2 ^ 53) from Number.ofInt_of_small (by decide)] at order
  refine ⟨?_, order⟩
  apply Number.max_eq_right
  exact Number.le_trans (show Number.le (.int 1) (.int (2 ^ 53)) = true by decide) order

/-- A number no smaller than the total is so times the size of a page. -/
theorem le_mul (safe : total < 2 ^ 53) {size : ℕ} (positive : 1 ≤ size) {x : Number}
    (order : Number.le (.int total) x = true) :
    Number.le (.int total) (x.mul (.int size)) = true := by
  have whole : (total : ℤ) ≤ total * size :=
    le_mul_of_one_le_right (Int.natCast_nonneg total) (by exact_mod_cast positive)
  have bound := Number.ofInt_mono whole
  rw [ofInt_safe safe] at bound
  exact Number.le_trans bound (Number.le_mul_int order (by omega))

/-- The page before one far behind the last is no smaller than the total either. -/
theorem le_sub_one (safe : total < 2 ^ 53) {x : Number}
    (order : Number.le (.int (2 ^ 53)) x = true) :
    Number.le (.int total) (x.sub (.int 1)) = true := by
  have bound := Number.ofInt_mono (show (total : ℤ) ≤ 2 ^ 53 - 1 by omega)
  rw [ofInt_safe safe] at bound
  exact Number.le_trans bound (Number.le_sub_int order 1)

/-- What the pages up to a page, and before it, take from the total. -/
theorem clamp_page (safe : total < 2 ^ 53) {size : ℕ} (positive : 1 ≤ size) (page : ℤ) :
    let k := (max 1 page).toNat - 1
    clamp (.int total) ((pageOf (some page)).mul (.int size)) =
      .int (total - (k + 1) * size : ℕ) ∧
    clamp (.int total) (((pageOf (some page)).sub (.int 1)).mul (.int size)) =
      .int (total - k * size : ℕ) := by
  intro k
  rcases le_or_gt page (2 ^ 53) with small | large
  · have whole : max 1 page = (k + 1 : ℕ) := by omega
    have before : Number.ofInt ((k + 1 : ℕ) + -1) = .int k := by
      rw [show ((k + 1 : ℕ) + -1 : ℤ) = k by push_cast; ring]
      exact Number.ofInt_of_small (by omega)
    rw [pageOf_of_le small, whole]
    refine ⟨?_, ?_⟩
    · show clamp _ (Number.ofInt ((k + 1 : ℕ) * size)) = _
      rw [← clamp_ofInt safe]
      push_cast
      rfl
    · show clamp _ (Number.mul (Number.ofInt ((k + 1 : ℕ) + -1)) (.int size)) = _
      rw [before, ← clamp_ofInt safe]
      push_cast
      rfl
  · -- far behind the last page
    obtain ⟨isPage, beyond⟩ := pageOf_of_lt large
    have many : total ≤ k * size := by
      have : total ≤ k := by omega
      exact this.trans (Nat.le_mul_of_pos_right k positive)
    have more : total ≤ (k + 1) * size := many.trans (Nat.mul_le_mul_right _ (Nat.le_succ k))
    have order : Number.le (.int total) (.ofInt page) = true :=
      Number.le_trans (Number.le_int.mpr (by omega)) beyond
    rw [isPage, Nat.sub_eq_zero_of_le many, Nat.sub_eq_zero_of_le more]
    exact ⟨clamp_of_le (le_mul safe positive order),
      clamp_of_le (le_mul safe positive (le_sub_one safe beyond))⟩

/-- A limit from one on is a double as it stands. -/
theorem limitOf_of_pos {limit : ℤ} (positive : 1 ≤ limit) :
    limitOf (some limit) = .int (min 50 limit) := by
  rcases le_or_gt limit 50 with small | large
  · have exact : Number.ofInt limit = .int limit := Number.ofInt_of_small (by omega)
    rw [min_eq_right small]
    show Number.min (.int 50) (Number.ofInt limit) = _
    rw [exact]
    exact Number.min_eq_right (Number.le_int.mpr small)
  · rw [min_eq_left large.le]
    apply Number.min_eq_left
    rw [show Number.int 50 = .ofInt 50 from (Number.ofInt_of_small (by decide)).symm]
    exact Number.ofInt_mono large.le

/-- **The ids of a page.**  A positive limit cuts the numbers below the total into
pages, whatever the page asked for. -/
theorem ids_eq_page (safe : total < 2 ^ 53) (page : ℤ) {limit : ℤ} (positive : 1 ≤ limit) :
    ids (.int total) (pageOf (some page)) (limitOf (some limit)) =
      (DescendingPages.page (min 50 limit).toNat total ((max 1 page).toNat - 1)).map
        fun id : ℕ => .int id := by
  obtain ⟨size, isSize⟩ := Int.eq_ofNat_of_zero_le (show 0 ≤ min 50 limit by omega)
  obtain ⟨start, stop⟩ := clamp_page safe (show 1 ≤ size by omega) page
  rw [limitOf_of_pos positive, isSize, Int.toNat_natCast, ids, DescendingPages.page, start, stop,
    List.map_reverse, List.map_map]
  generalize (max 1 page).toNat - 1 = k
  -- below `2 ^ 53` the two cuts and their difference are exact
  have cuts : total - (k + 1) * size ≤ total - k * size := by
    rw [Nat.succ_mul]
    omega
  have length : Number.toLength (.sub (.int (total - k * size : ℕ))
      (.int (total - (k + 1) * size : ℕ))) = total - k * size - (total - (k + 1) * size) := by
    show Number.toLength (Number.ofInt ((total - k * size : ℕ) +
      -((total - (k + 1) * size : ℕ) : ℤ))) = _
    rw [Number.ofInt_of_small (by omega)]
    show Int.toNat _ = _
    omega
  rw [length]
  congr 1
  apply List.map_congr_left
  intro i inPage
  rw [List.mem_range] at inPage
  have exact : Number.ofInt ((total - (k + 1) * size : ℕ) + (i : ℤ)) =
      .int ((total - (k + 1) * size : ℕ) + (i : ℤ)) := Number.ofInt_of_small (by omega)
  exact exact

/-- The more is skipped, the less is left. -/
theorem clamp_anti {x y : Number} (order : Number.le x y = true) :
    Number.le (clamp (.int total) y) (clamp (.int total) x) = true := by
  refine Number.max_mono nofun ?_
  cases x with
  | nan => cases order
  | negInfinity =>
      cases y with
      | nan => cases order
      | negInfinity => rfl
      | int m =>
          show Number.le (Number.ofInt _) .infinity = true
          cases rounded : Number.ofInt (total + -m) with
          | nan => exact absurd rounded (Number.ofInt_ne_nan _)
          | _ => rfl
      | infinity => rfl
  | int n =>
      cases y with
      | nan => cases order
      | negInfinity => cases order
      | int m =>
          have less : n ≤ m := Number.le_int.mp order
          exact Number.ofInt_mono (show total + -m ≤ total + -n by omega)
      | infinity =>
          show Number.le .negInfinity (Number.ofInt _) = true
          cases rounded : Number.ofInt (total + -n) with
          | nan => exact absurd rounded (Number.ofInt_ne_nan _)
          | _ => rfl
  | infinity =>
      cases y with
      | infinity => rfl
      | _ => cases order

/-- The page that is asked for is a double from one on. -/
theorem pageOf_cases (page : ℤ) :
    pageOf (some page) = .infinity ∨
      ∃ p, 1 ≤ p ∧ pageOf (some page) = .int p ∧ Number.ofInt p = .int p := by
  rcases le_or_gt page (2 ^ 53) with small | large
  · exact Or.inr ⟨max 1 page, le_max_left 1 page, pageOf_of_le small,
      Number.ofInt_of_small (by omega)⟩
  · obtain ⟨isPage, beyond⟩ := pageOf_of_lt large
    rw [isPage]
    cases rounded : Number.ofInt page with
    | nan => exact absurd rounded (Number.ofInt_ne_nan _)
    | infinity => exact Or.inl rfl
    | negInfinity =>
        rw [rounded] at beyond
        cases beyond
    | int p =>
        rw [rounded] at beyond
        have large : 2 ^ 53 ≤ p := Number.le_int.mp beyond
        refine Or.inr ⟨p, by omega, rfl, ?_⟩
        exact Number.ofInt_of_ofInt rounded

theorem ids_eq_nil {page limit : Number}
    (empty : ((clamp (.int total) ((page.sub (.int 1)).mul limit)).sub
      (clamp (.int total) (page.mul limit))).toLength = 0) : ids (.int total) page limit = [] := by
  simp only [ids, empty, List.range_zero, List.map_nil, List.reverse_nil]

/-- Where the limit is not positive, one page fewer skips no less. -/
theorem le_sub_one_mul {p l : ℤ} (first : 1 ≤ p) (double : Number.ofInt p = .int p)
    (nonpos : l ≤ 0) :
    Number.le (.ofInt (p * l)) (Number.mul (.ofInt (p + -1)) (.int l)) = true := by
  have upper := Number.ofInt_mono (show p + -1 ≤ p by omega)
  have lower := Number.ofInt_mono (show 0 ≤ p + -1 by omega)
  rw [double] at upper
  rw [ofInt_zero] at lower
  cases before : Number.ofInt (p + -1) with
  | nan => exact absurd before (Number.ofInt_ne_nan _)
  | negInfinity =>
      rw [before] at lower
      cases lower
  | infinity =>
      rw [before] at upper
      cases upper
  | int q =>
      rw [before] at upper
      exact Number.ofInt_mono (mul_le_mul_of_nonpos_right (Number.le_int.mp upper) nonpos)

/-- No ids without a positive limit: the first cut is not below the second. -/
theorem ids_of_nonpos (page : ℤ) {limit : ℤ} (nonpos : limit ≤ 0) :
    ids (.int total) (pageOf (some page)) (limitOf (some limit)) = [] := by
  have below : Number.le (.ofInt limit) (.int 0) = true := by
    rw [← ofInt_zero]
    exact Number.ofInt_mono nonpos
  have isLimit : limitOf (some limit) = .ofInt limit :=
    Number.min_eq_right (Number.le_trans below (show Number.le (.int 0) (.int 50) = true by decide))
  rw [isLimit]
  apply ids_eq_nil
  cases rounded : Number.ofInt limit with
  | nan => exact absurd rounded (Number.ofInt_ne_nan _)
  | infinity =>
      rw [rounded] at below
      cases below
  | negInfinity =>
      -- the first cut is infinite
      have skipped : (pageOf (some page)).mul .negInfinity = .negInfinity := by
        rcases pageOf_cases page with isPage | ⟨p, first, isPage, -⟩
        · rw [isPage]
          rfl
        · rw [isPage]
          show Number.infinite (-p) = .negInfinity
          rw [Number.infinite, if_neg (by omega), if_neg (by omega)]
      rw [skipped]
      exact Number.toLength_sub_infinity _
  | int l =>
      rw [rounded] at below
      have nonpos : l ≤ 0 := Number.le_int.mp below
      rcases pageOf_cases page with isPage | ⟨p, first, isPage, double⟩
      · rw [isPage]
        exact Number.toLength_sub_self _
      · rw [isPage]
        apply Number.toLength_sub_of_le
        apply clamp_anti
        exact le_sub_one_mul first double nonpos

/-- **No other entry is asked for.**  Whatever the query says, every id is that of
an entry. -/
theorem mem_ids (safe : total < 2 ^ 53) (page limit : Option ℤ) {id : Number}
    (mem : id ∈ ids (.int total) (pageOf page) (limitOf limit)) :
    ∃ i < total, id = .int (i : ℕ) := by
  cases page with
  | none =>
      rw [ids_eq_nil (Number.toLength_sub_nan _)] at mem
      cases mem
  | some page =>
      cases limit with
      | none =>
          have skipped : (pageOf (some page)).mul (limitOf none) = .nan := by
            cases pageOf (some page) <;> rfl
          have empty : ids (.int total) (pageOf (some page)) (limitOf none) = [] := by
            apply ids_eq_nil
            rw [skipped]
            exact Number.toLength_sub_nan _
          rw [empty] at mem
          cases mem
      | some limit =>
          rcases le_or_gt limit 0 with nonpos | positive
          · rw [ids_of_nonpos page nonpos] at mem
            cases mem
          · rw [ids_eq_page safe page positive] at mem
            obtain ⟨i, onPage, rfl⟩ := List.mem_map.mp mem
            exact ⟨i, DescendingPages.lt_of_mem_page onPage, rfl⟩

end Ids

/-! ## Rows -/

theorem exists_mapM_eq_some {α β : Type} {f : α → Option β} {R : α → β → Prop} {xs : List α}
    (each : ∀ x ∈ xs, ∃ y, f x = some y ∧ R x y) :
    ∃ ys, xs.mapM f = some ys ∧ List.Forall₂ R xs ys := by
  induction xs with
  | nil => exact ⟨[], rfl, .nil⟩
  | cons x xs ih =>
      obtain ⟨y, first, related⟩ := each x List.mem_cons_self
      obtain ⟨ys, rest, all⟩ := ih fun x' mem => each x' (List.mem_cons_of_mem x mem)
      refine ⟨y :: ys, ?_, .cons related all⟩
      rw [List.mapM_cons, first, rest]
      rfl

theorem exists_of_mem_mapM {α β : Type} {f : α → Option β} {xs : List α} {ys : List β}
    (mapped : xs.mapM f = some ys) {y : β} (mem : y ∈ ys) : ∃ x ∈ xs, f x = some y := by
  induction xs generalizing ys with
  | nil =>
      obtain rfl : [] = ys := Option.some.inj mapped
      cases mem
  | cons x xs ih =>
      rw [List.mapM_cons] at mapped
      obtain ⟨first, isFirst, mapped⟩ := Option.bind_eq_some_iff.mp mapped
      obtain ⟨rest, isRest, mapped⟩ := Option.bind_eq_some_iff.mp mapped
      obtain rfl : first :: rest = ys := Option.some.inj mapped
      rcases List.mem_cons.mp mem with rfl | mem
      · exact ⟨x, List.mem_cons_self, isFirst⟩
      · obtain ⟨x', memX, isY⟩ := ih isRest mem
        exact ⟨x', List.mem_cons_of_mem x memX, isY⟩

/-- The row shows an entry as it is stored, under its id. -/
structure Row.Shows (row : Row) (id : ℕ) (entry : AuditLog.Entry) : Prop where
  id : row.id = id
  actor : row.actor = entry.actor
  action : toUtf8Bytes row.action = entry.action
  cid : toUtf8Bytes row.cid = entry.ipfsCid
  timestamp : row.timestamp = toNumber entry.timestamp

/-- The return data of an entry are read as what is stored. -/
def Reads (decode : Bytes → Option Decoded) (entry : AuditLog.Entry) : Prop :=
  ∃ action cid, toUtf8Bytes action = entry.action ∧ toUtf8Bytes cid = entry.ipfsCid ∧
    decode (AuditLog.encodeEntry entry) =
      some ⟨some entry.actor, some action, some cid, entry.timestamp⟩

/-- An entry that the decoder reads is shown. -/
theorem readEntry_of_reads {decode : Bytes → Option Decoded} {s : AuditLog} {id : ℕ}
    {entry : AuditLog.Entry} (safe : id < 2 ^ 53) (stored : s.entries[id]? = some entry)
    (reads : Reads decode entry) :
    ∃ row, readEntry decode s (.int id) = some row ∧ row.Shows id entry := by
  obtain ⟨action, cid, isAction, isCid, decoded⟩ := reads
  have argument : uintArgument (.int id) = some id := by
    have inRange : (0 : ℤ) ≤ id ∧ (id : ℤ) < 2 ^ 53 :=
      ⟨Int.natCast_nonneg id, by exact_mod_cast safe⟩
    rw [uintArgument, if_pos inRange, Int.toNat_natCast]
  have data : s.getEntry id = .ok (AuditLog.encodeEntry entry) := by
    rw [AuditLog.getEntry, stored]
  refine ⟨⟨id, entry.actor, action, cid, toNumber entry.timestamp⟩, ?_,
    ⟨rfl, rfl, isAction, isCid, rfl⟩⟩
  simp only [readEntry, argument, data, decoded, Except.toOption, Option.bind_eq_bind,
    Option.bind_some]
  rfl

/-- Return data read as what `getEntry` returns, a struct behind its offset. -/
def decodeStruct (data : Bytes) : Option Decoded := do
  let offset ← Abi.readWord data 0
  decodeEntry (data.drop offset)

/-- A string is decoded from the offset at its head. -/
theorem decodeString_append {data before after : Bytes} {text : String} {head : ℕ}
    (isData : data = before ++ (bigEndian 32 (toUtf8Bytes text).length ++
      (padRight (toUtf8Bytes text) ++ after)))
    (isHead : Abi.readWord data head = some before.length) (safeHead : before.length < 2 ^ 53)
    (safe : (toUtf8Bytes text).length < 2 ^ 53) : decodeString data head = some (some text) := by
  have small : (toUtf8Bytes text).length < 2 ^ 256 := safe.trans (by norm_num)
  have length := Abi.readWord_append before (padRight (toUtf8Bytes text) ++ after)
    (toUtf8Bytes text).length
  have bytes := Abi.readDynamic_append before after _ small
  rw [← isData] at length bytes
  rw [Nat.mod_eq_of_lt small] at length
  have offsetSafe : isSafe before.length = true := decide_eq_true safeHead
  have lengthSafe : isSafe (toUtf8Bytes text).length = true := decide_eq_true safe
  simp only [decodeString, isHead, length, offsetSafe, lengthSafe, Bool.not_true,
    Bool.false_eq_true, if_false, bytes, fromUtf8Bytes_toUtf8Bytes, Option.bind_eq_bind,
    Option.bind_some]
  rfl

/-- A word is read at the length of what stands before it. -/
theorem readWord_of_eq {data before after : Bytes} {n offset : ℕ}
    (isData : data = before ++ (bigEndian 32 n ++ after)) (isOffset : before.length = offset)
    (small : n < 2 ^ 256) : Abi.readWord data offset = some n := by
  rw [isData, ← isOffset, Abi.readWord_append, Nat.mod_eq_of_lt small]

/-- Where the second string of an entry begins in its struct. -/
def secondOffset (entry : AuditLog.Entry) : ℕ := 128 + (32 + (padRight entry.action).length)

/-- The words of the struct and the tails of its strings. -/
theorem drop_encodeEntry (entry : AuditLog.Entry) :
    (AuditLog.encodeEntry entry).drop 32 =
      bigEndian 32 entry.actor.toNat ++ (bigEndian 32 128 ++ (bigEndian 32 (secondOffset entry) ++
        (bigEndian 32 entry.timestamp ++
          (bigEndian 32 entry.action.length ++ (padRight entry.action ++
            (bigEndian 32 entry.ipfsCid.length ++ (padRight entry.ipfsCid ++ []))))))) := by
  rw [AuditLog.encodeEntry, List.drop_left' (bigEndian_length 32 32)]
  simp only [Abi.encode, Abi.encodeFrom, List.length_cons, List.length_nil, List.append_assoc,
    List.length_append, bigEndian_length, List.nil_append, Nat.reduceAdd, Nat.reduceMul,
    secondOffset]

/-- Read so, every entry of texts comes back. -/
theorem reads_decodeStruct {entry : AuditLog.Entry} {action cid : String}
    (isAction : toUtf8Bytes action = entry.action) (isCid : toUtf8Bytes cid = entry.ipfsCid)
    (shortAction : entry.action.length < 2 ^ 52) (shortCid : entry.ipfsCid.length < 2 ^ 52)
    (timestamp : entry.timestamp < 2 ^ 256) : Reads decodeStruct entry := by
  refine ⟨action, cid, isAction, isCid, ?_⟩
  have padded : secondOffset entry < 2 ^ 53 := by
    simp only [secondOffset, padRight, paddingLength, List.length_append, List.length_replicate]
    omega
  have actorSmall : entry.actor.toNat < 2 ^ 256 := entry.actor.isLt.trans (by norm_num)
  have struct := drop_encodeEntry entry
  rw [← isAction, ← isCid] at struct
  have secondOf : secondOffset entry = 128 + (32 + (padRight (toUtf8Bytes action)).length) := by
    rw [secondOffset, isAction]
  rw [decodeStruct, readWord_encodeEntry_zero, Option.bind_eq_bind, Option.bind_some]
  generalize (AuditLog.encodeEntry entry).drop 32 = data at struct
  generalize secondOffset entry = second at struct padded secondOf
  -- the words one after the other, each behind those before it
  have actor : Abi.readWord data 0 = some entry.actor.toNat :=
    readWord_of_eq (struct.trans (List.nil_append _).symm) rfl actorSmall
  have firstHead : Abi.readWord data 32 = some 128 :=
    readWord_of_eq struct (by simp) (by norm_num)
  rw [← List.append_assoc] at struct
  have secondHead : Abi.readWord data 64 = some second :=
    readWord_of_eq struct (by simp) (by omega)
  rw [← List.append_assoc] at struct
  have time : Abi.readWord data 96 = some entry.timestamp :=
    readWord_of_eq struct (by simp) timestamp
  rw [← List.append_assoc] at struct
  have readAction : decodeString data 32 = some (some action) :=
    decodeString_append struct (by simpa using firstHead) (by simp) (isAction ▸ shortAction.trans
      (by norm_num))
  rw [← List.append_assoc, ← List.append_assoc] at struct
  have readCid : decodeString data 64 = some (some cid) := by
    refine decodeString_append struct ?_ ?_ (isCid ▸ shortCid.trans (by norm_num))
    · rw [secondHead, secondOf]
      simp only [List.length_append, bigEndian_length, Option.some.injEq]
      omega
    · simp only [List.length_append, bigEndian_length]
      omega
  have isActor : (if entry.actor.toNat < 2 ^ 160 then some (BitVec.ofNat 160 entry.actor.toNat)
      else none) = some entry.actor := by
    rw [if_pos entry.actor.isLt, BitVec.ofNat_toNat, BitVec.setWidth_eq]
  simp only [decodeEntry, actor, readAction, readCid, time, isActor, Option.bind_eq_bind,
    Option.bind_some]
  rfl

/-- The service's own declaration shows no entry: for the one actor it would get
right, the action is no text. -/
theorem not_shows_of_readEntry {s : AuditLog} {argument : Number} {row : Row}
    (read : readEntry decodeEntry s argument = some row) {id : ℕ} {entry : AuditLog.Entry}
    (stored : s.entries[id]? = some entry) : ¬ row.Shows id entry := by
  intro shows
  obtain ⟨id', -, read⟩ := Option.bind_eq_some_iff.mp read
  obtain ⟨data, isData, read⟩ := Option.bind_eq_some_iff.mp read
  obtain ⟨raw, decoded, read⟩ := Option.bind_eq_some_iff.mp read
  obtain ⟨actor, isActor, read⟩ := Option.bind_eq_some_iff.mp read
  obtain ⟨action, isAction, read⟩ := Option.bind_eq_some_iff.mp read
  obtain ⟨cid, -, read⟩ := Option.bind_eq_some_iff.mp read
  obtain rfl := Option.some.inj read
  obtain rfl : id' = id := shows.id
  obtain rfl : actor = entry.actor := shows.actor
  rw [AuditLog.getEntry, stored] at isData
  obtain rfl := Option.some.inj isData
  -- what is taken for the actor is the offset of the struct
  obtain ⟨offset, text⟩ := decodeEntry_eq_some decoded
  rw [isActor, Option.some.injEq] at offset
  rw [decodeString_encodeEntry offset, isAction] at text
  cases text

/-! ## Walking the pages -/

/-- The contract as each of the pages 1, 2, 3, … finds it: first counted, then
read.  Transactions may come in between. -/
structure Session where
  counted : ℕ → AuditLog
  read : ℕ → AuditLog
  during : ∀ k, ∃ txs, read k = AuditLog.machine.run (counted k) txs
  between : ∀ k, ∃ txs, counted (k + 1) = AuditLog.machine.run (read k) txs

namespace Session

variable (session : Session) (decode : Bytes → Option Decoded) (limit : ℕ)

/-- The answer for page `k + 1`. -/
def response (k : ℕ) : Option Listing :=
  listEntries decode (session.counted k) (session.read k) (some (k + 1)) (some limit)

/-- The page after `n` others is the first that is answered with no entries. -/
def FirstEmpty (n : ℕ) : Prop :=
  (∃ listing, session.response decode limit n = some listing ∧ listing.entries = []) ∧
    ∀ k < n, ∀ listing, session.response decode limit k = some listing → listing.entries ≠ []

/-- The ids on the answer for page `k + 1`. -/
def shownIds (k : ℕ) : List ℕ :=
  (session.response decode limit k).elim [] fun listing => listing.entries.map Row.id

/-- What a walk that ends with page `n + 1` should have shown. -/
structure LosesNothing (n : ℕ) : Prop where
  shown : ∀ id entry, (session.counted 0).entries[id]? = some entry →
    ∃ k < n, ∃ listing, session.response decode limit k = some listing ∧
      ∃ row ∈ listing.entries, row.Shows id entry
  ordered : ∀ k ≤ n, ∀ listing, session.response decode limit k = some listing →
    (listing.entries.map Row.id).Pairwise (· > ·) ∧
      ∃ total, listing.total = .int total ∧ ∀ row ∈ listing.entries, row.id < total
  whole : (∀ k, (session.counted k).entryCount = (session.counted 0).entryCount) →
    (List.range n).flatMap (session.shownIds decode limit) =
      (List.range (session.counted 0).entryCount).reverse

variable {session}

theorem stored_run {s s' : AuditLog} {id : ℕ} {entry : AuditLog.Entry}
    (later : ∃ txs, s' = AuditLog.machine.run s txs) (stored : s.entries[id]? = some entry) :
    s'.entries[id]? = some entry := by
  obtain ⟨txs, rfl⟩ := later
  exact AuditLog.getElem?_entries_run txs stored

/-- What is stored at the first page is stored at every later one. -/
theorem stored_read {id : ℕ} {entry : AuditLog.Entry}
    (stored : (session.counted 0).entries[id]? = some entry) (k : ℕ) :
    (session.read k).entries[id]? = some entry := by
  have counted : (session.counted k).entries[id]? = some entry := by
    induction k with
    | zero => exact stored
    | succ k ih => exact stored_run (session.between k) (stored_run (session.during k) ih)
  exact stored_run (session.during k) counted

theorem entryCount_le_of_run {s s' : AuditLog}
    (later : ∃ txs, s' = AuditLog.machine.run s txs) : s.entryCount ≤ s'.entryCount := by
  by_contra shorter
  have inBounds : s'.entryCount < s.entries.length := Nat.lt_of_not_le shorter
  have stored := stored_run later (List.getElem?_eq_getElem inBounds)
  exact absurd (List.getElem?_eq_some_iff.mp stored).1 (lt_irrefl _)

/-- The total never shrinks. -/
theorem monotone_entryCount : Monotone fun k => (session.counted k).entryCount :=
  monotone_nat_of_le_succ fun k =>
    (entryCount_le_of_run (session.during k)).trans (entryCount_le_of_run (session.between k))

variable {decode : Bytes → Option Decoded} {limit : ℕ}

/-- The rows show the entries of a list of ids. -/
def ShowAll (s : AuditLog) : List ℕ → List Row → Prop :=
  List.Forall₂ fun id row => row.id = id ∧ ∀ entry, s.entries[id]? = some entry → row.Shows id entry

theorem ShowAll.map_id {s : AuditLog} {ids : List ℕ} {rows : List Row} (all : ShowAll s ids rows) :
    rows.map Row.id = ids := by
  have same : List.Forall₂ Eq ids (rows.map Row.id) :=
    List.forall₂_map_right_iff.mpr (all.imp fun _ _ shows => shows.1.symm)
  rw [List.forall₂_eq_eq_eq] at same
  exact same.symm

theorem ShowAll.exists_row {s : AuditLog} {ids : List ℕ} {rows : List Row}
    (all : ShowAll s ids rows) {id : ℕ} (mem : id ∈ ids) {entry : AuditLog.Entry}
    (stored : s.entries[id]? = some entry) : ∃ row ∈ rows, row.Shows id entry := by
  induction all with
  | nil => cases mem
  | @cons first row ids rows shows _ ih =>
      rcases List.mem_cons.mp mem with rfl | mem
      · exact ⟨row, List.mem_cons_self, shows.2 entry stored⟩
      · obtain ⟨later, memRows, shows⟩ := ih mem
        exact ⟨later, List.mem_cons_of_mem row memRows, shows⟩

/-- An answer whose entries can all be read. -/
theorem response_of_reads (positive : 1 ≤ limit) (bound : limit ≤ 50) {k : ℕ}
    (safe : (session.counted k).entryCount < 2 ^ 53)
    (reads : ∀ entry ∈ (session.read k).entries, Reads decode entry) :
    ∃ listing, session.response decode limit k = some listing ∧
      listing.total = .int (session.counted k).entryCount ∧
      ShowAll (session.read k) (DescendingPages.page limit (session.counted k).entryCount k)
        listing.entries := by
  have asked := ids_eq_page safe (k + 1) (show (1 : ℤ) ≤ limit by exact_mod_cast positive)
  rw [min_eq_right (by exact_mod_cast bound), Int.toNat_natCast,
    show (max 1 ((k : ℤ) + 1)).toNat - 1 = k by omega] at asked
  have each : ∀ id ∈ DescendingPages.page limit (session.counted k).entryCount k, ∃ row,
      (readEntry decode (session.read k) ∘ fun id : ℕ => Number.int id) id = some row ∧
        (row.id = id ∧ ∀ entry, (session.read k).entries[id]? = some entry →
          row.Shows id entry) := by
    intro id onPage
    have counted := DescendingPages.lt_of_mem_page onPage
    -- what was counted is still there when it is read
    have inBounds : id < (session.read k).entries.length :=
      counted.trans_le (entryCount_le_of_run (session.during k))
    have stored := List.getElem?_eq_getElem inBounds
    obtain ⟨row, read, shows⟩ := readEntry_of_reads (counted.trans safe) stored
      (reads _ (List.getElem_mem inBounds))
    refine ⟨row, ?_, shows.id, ?_⟩
    · rw [Function.comp_apply]
      exact read
    · intro entry same
      rw [stored] at same
      exact Option.some.inj same ▸ shows
  obtain ⟨rows, mapped, shown⟩ := exists_mapM_eq_some each
  refine ⟨⟨.int (session.counted k).entryCount, pageOf (some (k + 1)), limitOf (some limit),
    rows⟩, ?_, rfl, shown⟩
  rw [response, listEntries, ofInt_safe safe, asked, List.mapM_map, mapped]
  rfl

/-- **The pages show everything**, when the entries can be read. -/
theorem losesNothing_of_reads (positive : 1 ≤ limit) (bound : limit ≤ 50) {n : ℕ}
    (safe : ∀ k, (session.counted k).entryCount < 2 ^ 53)
    (reads : ∀ k, ∀ entry ∈ (session.read k).entries, Reads decode entry)
    (first : session.FirstEmpty decode limit n) : session.LosesNothing decode limit n := by
  have answers := fun k => response_of_reads positive bound (safe k) (reads k)
  -- the walk ends at an empty page
  obtain ⟨⟨last, isLast, empty⟩, -⟩ := first
  have emptyPage : DescendingPages.page limit (session.counted n).entryCount n = [] := by
    obtain ⟨listing, answer, -, all⟩ := answers n
    obtain rfl := Option.some.inj (answer.symm.trans isLast)
    rw [← all.map_id, empty, List.map_nil]
  refine ⟨?_, ?_, ?_⟩
  · intro id entry stored
    obtain ⟨old, -⟩ := List.getElem?_eq_some_iff.mp stored
    have grows : Monotone fun k => (session.counted k).entryCount := monotone_entryCount
    -- a growing total pushes entries to later pages, never off them
    obtain ⟨k, before, onPage⟩ := DescendingPages.mem_page_of_growing grows positive emptyPage old
    obtain ⟨listing, answer, -, all⟩ := answers k
    exact ⟨k, before, listing, answer, all.exists_row onPage (stored_read stored k)⟩
  · intro k _ listing answer
    obtain ⟨_, answer', total, all⟩ := answers k
    obtain rfl := Option.some.inj (answer.symm.trans answer')
    refine ⟨?_, (session.counted k).entryCount, total, ?_⟩
    · rw [all.map_id]
      exact DescendingPages.pairwise_page
    · intro row mem
      have onPage : row.id ∈ listing.entries.map Row.id := List.mem_map_of_mem mem
      rw [all.map_id] at onPage
      exact_mod_cast DescendingPages.lt_of_mem_page onPage
  · intro still
    have shownIds : session.shownIds decode limit =
        DescendingPages.page limit (session.counted 0).entryCount := by
      funext k
      obtain ⟨listing, answer, -, all⟩ := answers k
      rw [Session.shownIds, answer, Option.elim_some, all.map_id, still]
    rw [still] at emptyPage
    rw [shownIds, DescendingPages.flatMap_page_of_empty positive emptyPage]

/-- When nothing is appended, some page is empty. -/
theorem exists_firstEmpty (positive : 1 ≤ limit) (bound : limit ≤ 50)
    (safe : (session.counted 0).entryCount < 2 ^ 53)
    (still : ∀ k, (session.counted k).entryCount = (session.counted 0).entryCount)
    (reads : ∀ k, ∀ entry ∈ (session.read k).entries, Reads decode entry) :
    ∃ n, session.FirstEmpty decode limit n := by
  have answers := fun k =>
    response_of_reads positive bound (show (session.counted k).entryCount < 2 ^ 53 by
      rw [still]
      exact safe) (reads k)
  obtain ⟨m, emptyPage⟩ :=
    DescendingPages.exists_page_eq_nil positive (session.counted 0).entryCount
  have some_empty : ∃ n, ∃ listing, session.response decode limit n = some listing ∧
      listing.entries = [] := by
    obtain ⟨listing, answer, -, all⟩ := answers m
    refine ⟨m, listing, answer, ?_⟩
    rw [still] at all
    have noIds := all.map_id.trans emptyPage
    exact List.map_eq_nil_iff.mp noIds
  classical
  refine ⟨Nat.find some_empty, Nat.find_spec some_empty, ?_⟩
  intro k before listing answer empty
  exact Nat.find_min some_empty before ⟨listing, answer, empty⟩

/-- The walk over a log without entries is over with the first page. -/
theorem losesNothing_of_empty (positive : 1 ≤ limit) {n : ℕ}
    (first : session.FirstEmpty decode limit n) (none : (session.counted 0).entryCount = 0) :
    session.LosesNothing decode limit n := by
  have safe : (session.counted 0).entryCount < 2 ^ 53 := by
    rw [none]
    decide
  have noIds : ids (.ofInt (session.counted 0).entryCount) (pageOf (some ((0 : ℕ) + 1)))
      (limitOf (some limit)) = [] := by
    rw [ofInt_safe safe, ids_eq_page safe _ (by exact_mod_cast positive), none]
    simp [DescendingPages.page]
  have answer : session.response decode limit 0 =
      some ⟨.int 0, pageOf (some ((0 : ℕ) + 1)), limitOf (some limit), []⟩ := by
    rw [response, listEntries, noIds, ofInt_safe safe, none]
    rfl
  obtain rfl : n = 0 := by
    by_contra later
    exact first.2 0 (Nat.pos_of_ne_zero later) _ answer rfl
  refine ⟨?_, ?_, ?_⟩
  · intro id entry stored
    have inBounds : id < (session.counted 0).entryCount := (List.getElem?_eq_some_iff.mp stored).1
    omega
  · intro k last listing answer'
    obtain rfl : k = 0 := Nat.le_zero.mp last
    obtain rfl := Option.some.inj (answer.symm.trans answer')
    exact ⟨List.Pairwise.nil, 0, rfl, List.forall_mem_nil _⟩
  · intro _
    rw [none]
    rfl

/-- With the service's own declaration a walk shows nothing that is stored; it
ends as it should exactly when nothing is stored at its first page. -/
theorem losesNothing_iff (positive : 1 ≤ limit) {n : ℕ}
    (first : session.FirstEmpty decodeEntry limit n) :
    session.LosesNothing decodeEntry limit n ↔ (session.counted 0).entryCount = 0 := by
  constructor
  · intro held
    by_contra nonempty
    have stored := List.getElem?_eq_getElem (Nat.pos_of_ne_zero nonempty)
    obtain ⟨k, -, listing, answer, row, mem, shows⟩ := held.shown 0 _ stored
    obtain ⟨rows, mapped, answer⟩ := Option.bind_eq_some_iff.mp answer
    obtain rfl := Option.some.inj answer
    obtain ⟨argument, -, read⟩ := exists_of_mem_mapM mapped mem
    exact not_shows_of_readEntry read (stored_read stored k) shows
  · intro none
    exact losesNothing_of_empty positive first none

end Session

/-- **Paging through the audit log.**  With the declaration of the service a walk
shows every stored entry exactly when none is stored at its first page.  The
paging is not to blame: with a declaration that reads the entries nothing is
lost, and no id that is not that of an entry is ever asked for. -/
theorem audit_pages (session : Session) (limit : ℕ) (positive : 1 ≤ limit) (bound : limit ≤ 50)
    (n : ℕ) :
    (session.FirstEmpty decodeEntry limit n →
      (session.LosesNothing decodeEntry limit n ↔ (session.counted 0).entryCount = 0)) ∧
    (∀ decode, (∀ k, (session.counted k).entryCount < 2 ^ 53) →
      (∀ k, ∀ entry ∈ (session.read k).entries, Reads decode entry) →
      session.FirstEmpty decode limit n → session.LosesNothing decode limit n) ∧
    ∀ (s : AuditLog) (page anyLimit : Option ℤ), s.entryCount < 2 ^ 53 →
      ∀ id ∈ ids (.ofInt s.entryCount) (pageOf page) (limitOf anyLimit),
        ∃ i < s.entryCount, id = .int (i : ℕ) := by
  refine ⟨Session.losesNothing_iff positive, ?_, ?_⟩
  · intro decode safe reads first
    exact Session.losesNothing_of_reads positive bound safe reads first
  · intro s page anyLimit safe id mem
    rw [ofInt_safe safe] at mem
    exact mem_ids safe page anyLimit mem

/-! ## The sample -/

/-- Nothing is appended while the pages are fetched. -/
def Session.still (s : AuditLog) : Session where
  counted _ := s
  read _ := s
  during _ := ⟨[], rfl⟩
  between _ := ⟨[], rfl⟩

theorem reads_sample : ∀ entry ∈ sampleStored.entries, Reads decodeStruct entry := by
  intro entry mem
  obtain rfl := List.mem_singleton.mp mem
  exact reads_decodeStruct rfl rfl (by decide) (by decide) (by norm_num)

/-- Whichever declaration is used, the second page of the sample is the first that
is answered with no entries. -/
theorem firstEmpty_sample {decode : Bytes → Option Decoded}
    (entries : ((Session.still sampleStored).response decode 20 0).map Listing.entries ≠ some [])
    (last : ((Session.still sampleStored).response decode 20 1).map Listing.entries = some []) :
    (Session.still sampleStored).FirstEmpty decode 20 1 := by
  refine ⟨Option.map_eq_some_iff.mp last, ?_⟩
  intro k before listing answer empty
  obtain rfl : k = 0 := by omega
  rw [answer, Option.map_some, empty] at entries
  exact entries rfl

/-- The sample read as a struct is shown; with the service's own declaration the
walk over a log without entries is the one that ends well. -/
theorem audit_pages_sample :
    (Session.still sampleStored).LosesNothing decodeStruct 20 1 ∧
      (Session.still (AuditLog.initialized sampleSigner)).LosesNothing decodeEntry 20 0 := by
  obtain ⟨-, struct, -⟩ :=
    audit_pages (Session.still sampleStored) 20 (by decide) (by decide) 1
  obtain ⟨own, -, -⟩ :=
    audit_pages (Session.still (AuditLog.initialized sampleSigner)) 20 (by decide) (by decide) 0
  refine ⟨?_, ?_⟩
  · apply struct decodeStruct
    · intro k
      show 1 < 2 ^ 53
      norm_num
    · exact fun _ => reads_sample
    · exact firstEmpty_sample (by decide +kernel) (by decide)
  · have answer : ((Session.still (AuditLog.initialized sampleSigner)).response decodeEntry 20
        0).map Listing.entries = some [] := by decide
    exact (own ⟨Option.map_eq_some_iff.mp answer, nofun⟩).mpr rfl

/-- **The sample is lost.**  Page 1 is answered with the status 500 and page 2 is
empty, while the log holds an entry. -/
theorem audit_pages_counterexample :
    (Session.still sampleStored).response decodeEntry 20 0 = none ∧
      (Session.still sampleStored).FirstEmpty decodeEntry 20 1 ∧
      ¬ (Session.still sampleStored).LosesNothing decodeEntry 20 1 := by
  have failed : (Session.still sampleStored).response decodeEntry 20 0 = none := by
    decide +kernel
  have first : (Session.still sampleStored).FirstEmpty decodeEntry 20 1 := by
    apply firstEmpty_sample
    · rw [failed]
      exact nofun
    · decide
  refine ⟨failed, first, ?_⟩
  rw [Session.losesNothing_iff (by decide) first]
  decide

end TheVoteApp.AuditRoute
