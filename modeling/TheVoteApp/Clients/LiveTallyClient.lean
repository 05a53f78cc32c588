import TheVoteApp.Backend.LiveFeed

/-!
# The live tally clients

`LiveTallyClient.kt` and `LiveTallyClient.swift`: what an app reads in the
messages of the live feed.

The texts of the server are those of `WSBroadcaster.ts`, so the codec is judged
against them: a tally whose numbers fit the integers of the app is read as it
was sent, on the platform's own width (`decode_text`), a number that does not fit
makes the whole message unreadable, and no message is taken for one about another
policy (`policyId_of_decode`).

## Main definitions

* `TallyUpdate`, `decode` — the message of an app
* `updateOf` — what the app is to read in a message

## Design notes

The JSON libraries of the platforms are parameters: `IntegerReader` reads an
integer literal.
-/

namespace TheVoteApp.LiveTallyClient

open JavaScript TallyService WSBroadcaster

/-! ## Reading an update -/

/-- The integer an integral number stands for. -/
structure IntegerReader (format : NumberFormat) where
  toInteger : format.Number → Option ℤ
  toInteger_ofNat : ∀ n < 2 ^ 53, toInteger (format.ofNat n) = some (n : ℤ)

/-- `PolicyTallyDTO`. -/
structure PolicyTallyDTO where
  policyId : Text
  support : ℤ
  oppose : ℤ
  abstain : ℤ
  total : ℤ
  lastBlock : ℤ
  finalized : Bool
deriving DecidableEq

/-- A message as the app reads it. -/
structure TallyUpdate where
  type : Text
  policyId : Text
  tally : PolicyTallyDTO
  blockNumber : Option ℤ
deriving DecidableEq

/-- The width of `Int` in the Android app. -/
def kotlinInt : ℕ := 32

/-- The width of `Int` in the iOS app. -/
def swiftInt : ℕ := 64

section Decode

variable {format : NumberFormat} (reader : IntegerReader format) (bits : ℕ)

/-- A member that has to be a string. -/
def readString (v : Value format.Number) (key : String) : Option Text :=
  match v.get (utf16 key) with
  | some (.string text) => some text
  | _ => none

/-- A member that has to be a boolean. -/
def readBool (v : Value format.Number) (key : String) : Option Bool :=
  match v.get (utf16 key) with
  | some (.bool b) => some b
  | _ => none

/-- An `Int` of the given width; a number that does not fit is an error. -/
def readInt (v : Value format.Number) (key : String) : Option ℤ :=
  match v.get (utf16 key) with
  | some (.number x) =>
      (reader.toInteger x).filter fun n => -2 ^ (bits - 1) ≤ n ∧ n < 2 ^ (bits - 1)
  | _ => none

/-- `Int?`, which may be missing. -/
def readOptionalInt (v : Value format.Number) (key : String) : Option (Option ℤ) :=
  match v.get (utf16 key) with
  | none | some .null => some none
  | some _ => (readInt reader bits v key).map some

/-- The seven members of a tally, none of which may be missing. -/
def readTally (v : Value format.Number) : Option PolicyTallyDTO := do
  let policyId ← readString v "policyId"
  let support ← readInt reader bits v "support"
  let oppose ← readInt reader bits v "oppose"
  let abstain ← readInt reader bits v "abstain"
  let total ← readInt reader bits v "total"
  let lastBlock ← readInt reader bits v "lastBlock"
  let finalized ← readBool v "finalized"
  pure ⟨policyId, support, oppose, abstain, total, lastBlock, finalized⟩

/-- `decodeFromString<TallyUpdate>`; `none` when it throws. -/
def decode (text : Text) : Option TallyUpdate := do
  let v ← parse format text
  let type ← readString v "type"
  let policyId ← readString v "policyId"
  let tally ← (v.get (utf16 "tally")).bind (readTally reader bits)
  let blockNumber ← readOptionalInt reader bits v "blockNumber"
  pure ⟨type, policyId, tally, blockNumber⟩

/-- The updates the client hands on: tallies and snapshots. -/
def accept (text : Text) : Option TallyUpdate :=
  (decode reader bits text).filter fun update =>
    update.type = utf16 "tally" ∨ update.type = utf16 "snapshot"

end Decode

/-- The numbers an app reads exactly: they fit its integers and are printed digit by
digit. -/
def limit (bits : ℕ) : ℕ := 2 ^ min (bits - 1) 53

/-- The numbers of the tally are small enough. -/
structure Fits (bits : ℕ) (tally : PolicyTally) : Prop where
  support : tally.support < limit bits
  oppose : tally.oppose < limit bits
  abstain : tally.abstain < limit bits
  total : tally.total < limit bits
  lastBlock : tally.lastBlock < limit bits

/-- The numbers of the message are small enough. -/
def MessageFits (bits : ℕ) : ServerMessage → Prop
  | .snapshot _ counts => Fits bits counts
  | .tally update => Fits bits update.tally ∧ update.blockNumber < limit bits
  | .error _ | .pong => True

/-- The tally as the app has it. -/
def toDTO (tally : PolicyTally) : PolicyTallyDTO :=
  ⟨utf16 tally.policyId, tally.support, tally.oppose, tally.abstain, tally.total,
    tally.lastBlock, tally.finalized⟩

/-- The update a message of the server stands for. -/
def updateOf : ServerMessage → Option TallyUpdate
  | .snapshot policyId counts => some ⟨utf16 "snapshot", policyId, toDTO counts, none⟩
  | .tally update =>
      some ⟨utf16 "tally", utf16 update.policyId, toDTO update.tally, some update.blockNumber⟩
  | .error _ | .pong => none

section Codec

variable {format : NumberFormat} {reader : IntegerReader format} {bits : ℕ}

theorem lookup_of_mem {members : List (Text × Value format.Number)}
    (distinct : (members.map Prod.fst).Nodup) {key : Text} {v : Value format.Number}
    (mem : (key, v) ∈ members) : members.lookup key = some v := by
  induction members with
  | nil => cases mem
  | cons member members ih =>
      rw [List.map_cons, List.nodup_cons] at distinct
      rcases List.mem_cons.mp mem with rfl | later
      · exact List.lookup_cons_self
      · have other : key ≠ member.1 := by
          rintro rfl
          exact distinct.1 (List.mem_map.mpr ⟨_, later, rfl⟩)
        rw [List.lookup_cons, beq_false_of_ne other]
        exact ih distinct.2 later

/-- A property of an object that was printed. -/
theorem get_of_mem {members : List (Text × Value format.Number)}
    (distinct : (members.map Prod.fst).Nodup) {key : Text} {v : Value format.Number}
    (mem : (key, v) ∈ members) :
    (printedValue format (.object members)).get key = some (printedValue format v) := by
  rw [get_printedValue, Value.get, lookup_of_mem distinct mem, Option.map_some]

theorem get_of_notMem {members : List (Text × Value format.Number)} {key : Text}
    (missing : key ∉ members.map Prod.fst) :
    (printedValue format (.object members)).get key = none := by
  rw [get_printedValue, Value.get, List.lookup_eq_none_iff.mpr, Option.map_none]
  intro member mem
  refine bne_iff_ne.mpr ?_
  rintro rfl
  exact missing (List.mem_map_of_mem mem)

theorem readString_of_get {v : Value format.Number} {key : String} {text : Text}
    (found : v.get (utf16 key) = some (printedValue format (.string text))) :
    readString v key = some text := by
  rw [readString, found, printedValue]

theorem readBool_of_get {v : Value format.Number} {key : String} {b : Bool}
    (found : v.get (utf16 key) = some (printedValue format (.bool b))) :
    readBool v key = some b := by
  rw [readBool, found, printedValue]

theorem lt_two_pow_of_lt_limit {n : ℕ} (small : n < limit bits) : n < 2 ^ 53 :=
  small.trans_le (Nat.pow_le_pow_right (by omega) (by omega))

theorem readInt_of_get {v : Value format.Number} {key : String} {n : ℕ}
    (found : v.get (utf16 key) = some (printedValue format (.number (format.ofNat n))))
    (fits : n < limit bits) : readInt reader bits v key = some (n : ℤ) := by
  have narrow : n < 2 ^ (bits - 1) := fits.trans_le (Nat.pow_le_pow_right (by omega) (by omega))
  have inRange : -2 ^ (bits - 1) ≤ (n : ℤ) ∧ (n : ℤ) < 2 ^ (bits - 1) := by
    have upper : (n : ℤ) < 2 ^ (bits - 1) := by exact_mod_cast narrow
    exact ⟨le_trans (neg_nonpos.mpr (by positivity)) (Int.natCast_nonneg n), upper⟩
  rw [readInt, found, printedValue, printedNumber_ofNat (lt_two_pow_of_lt_limit fits)]
  dsimp only
  rw [reader.toInteger_ofNat n (lt_two_pow_of_lt_limit fits), Option.filter_some,
    if_pos (decide_eq_true inRange)]

theorem readOptionalInt_of_get {v : Value format.Number} {key : String} {n : ℕ}
    (found : v.get (utf16 key) = some (printedValue format (.number (format.ofNat n))))
    (fits : n < limit bits) : readOptionalInt reader bits v key = some (some (n : ℤ)) := by
  rw [readOptionalInt, readInt_of_get found fits, found, printedValue,
    printedNumber_ofNat (lt_two_pow_of_lt_limit fits)]
  rfl

/-- The members of a printed tally. -/
def tallyMembers (format : NumberFormat) (tally : PolicyTally) :
    List (Text × Value format.Number) :=
  [(utf16 "policyId", .string (utf16 tally.policyId)),
    (utf16 "support", .number (format.ofNat tally.support)),
    (utf16 "oppose", .number (format.ofNat tally.oppose)),
    (utf16 "abstain", .number (format.ofNat tally.abstain)),
    (utf16 "total", .number (format.ofNat tally.total)),
    (utf16 "lastBlock", .number (format.ofNat tally.lastBlock)),
    (utf16 "finalized", .bool tally.finalized)]

theorem get_tallyValue {tally : PolicyTally} {key : String} {v : Value format.Number}
    (mem : (utf16 key, v) ∈ tallyMembers format tally) :
    (printedValue format (tallyValue format tally)).get (utf16 key) =
      some (printedValue format v) := by
  have distinct : ((tallyMembers format tally).map Prod.fst).Nodup := by
    show [utf16 "policyId", utf16 "support", utf16 "oppose", utf16 "abstain", utf16 "total",
      utf16 "lastBlock", utf16 "finalized"].Nodup
    decide
  exact get_of_mem distinct mem

/-- A printed tally is read as it was. -/
theorem readTally_tallyValue {tally : PolicyTally} (fits : Fits bits tally) :
    readTally reader bits (printedValue format (tallyValue format tally)) = some (toDTO tally) := by
  have number {key : String} {n : ℕ} (small : n < limit bits)
      (mem : (utf16 key, .number (format.ofNat n)) ∈ tallyMembers format tally) :
      readInt reader bits (printedValue format (tallyValue format tally)) key = some (n : ℤ) :=
    readInt_of_get (get_tallyValue mem) small
  have policyId : readString (printedValue format (tallyValue format tally)) "policyId" =
      some (utf16 tally.policyId) := readString_of_get (get_tallyValue (by simp [tallyMembers]))
  have finalized : readBool (printedValue format (tallyValue format tally)) "finalized" =
      some tally.finalized := readBool_of_get (get_tallyValue (by simp [tallyMembers]))
  unfold readTally
  rw [policyId, number fits.support (by simp [tallyMembers]),
    number fits.oppose (by simp [tallyMembers]), number fits.abstain (by simp [tallyMembers]),
    number fits.total (by simp [tallyMembers]), number fits.lastBlock (by simp [tallyMembers]),
    finalized]
  rfl

/-- The members of a message; an `error` and a `pong` have no policy. -/
def messageMembers (format : NumberFormat) : ServerMessage → List (Text × Value format.Number)
  | .error message =>
      [(utf16 "type", .string (utf16 "error")), (utf16 "message", .string (utf16 message))]
  | .pong => [(utf16 "type", .string (utf16 "pong"))]
  | .snapshot policyId counts =>
      [(utf16 "type", .string (utf16 "snapshot")), (utf16 "policyId", .string policyId),
        (utf16 "tally", tallyValue format counts)]
  | .tally update =>
      [(utf16 "type", .string (utf16 "tally")),
        (utf16 "policyId", .string (utf16 update.policyId)),
        (utf16 "tally", tallyValue format update.tally),
        (utf16 "blockNumber", .number (format.ofNat update.blockNumber))]

theorem text_eq (m : ServerMessage) :
    m.text format = stringify format 0 (.object (messageMembers format m)) := by
  cases m <;> rfl

theorem messageKeys (m : ServerMessage) :
    ((messageMembers format m).map Prod.fst).Pairwise fun key key' =>
      key ≠ key' ∧ ¬ Precedes key' key := by
  cases m with
  | error message =>
      show [utf16 "type", utf16 "message"].Pairwise _
      decide
  | pong =>
      show [utf16 "type"].Pairwise _
      decide
  | snapshot policyId counts =>
      show [utf16 "type", utf16 "policyId", utf16 "tally"].Pairwise _
      decide
  | tally update =>
      show [utf16 "type", utf16 "policyId", utf16 "tally", utf16 "blockNumber"].Pairwise _
      decide

theorem parse_text (m : ServerMessage) :
    parse format (m.text format) =
      some (printedValue format (.object (messageMembers format m))) := by
  rw [text_eq]
  refine parse_stringify format 0 (.object ?_ ?_)
  · rw [inOrder_iff_keys]
    exact messageKeys m
  · intro member mem
    cases m <;> simp only [messageMembers, List.mem_cons, List.not_mem_nil, or_false] at mem
    · rcases mem with rfl | rfl <;> exact .string _
    · subst mem
      exact .string _
    · rcases mem with rfl | rfl | rfl
      · exact .string _
      · exact .string _
      · exact ordered_tallyValue
    · rcases mem with rfl | rfl | rfl | rfl
      · exact .string _
      · exact .string _
      · exact ordered_tallyValue
      · exact .number _

theorem get_message {m : ServerMessage} {key : String} {v : Value format.Number}
    (mem : (utf16 key, v) ∈ messageMembers format m) :
    (printedValue format (.object (messageMembers format m))).get (utf16 key) =
      some (printedValue format v) :=
  get_of_mem ((messageKeys m).imp And.left) mem

/-- The policy of a message. -/
def policyOf : ServerMessage → Option Text
  | .snapshot policyId _ => some policyId
  | .tally update => some (utf16 update.policyId)
  | .error _ | .pong => none

theorem readString_policyId (m : ServerMessage) :
    readString (printedValue format (.object (messageMembers format m))) "policyId" =
      policyOf m := by
  have absent : ∀ {m : ServerMessage},
      utf16 "policyId" ∉ (messageMembers format m).map Prod.fst →
      readString (printedValue format (.object (messageMembers format m))) "policyId" = none := by
    intro m missing
    rw [readString, get_of_notMem missing]
  cases m with
  | error message =>
      apply absent
      show utf16 "policyId" ∉ [utf16 "type", utf16 "message"]
      decide
  | pong =>
      apply absent
      show utf16 "policyId" ∉ [utf16 "type"]
      decide
  | snapshot policyId counts => exact readString_of_get (get_message (by simp [messageMembers]))
  | tally update => exact readString_of_get (get_message (by simp [messageMembers]))

/-- No message is taken for one about another policy. -/
theorem policyId_of_decode {m : ServerMessage} {update : TallyUpdate}
    (read : decode reader bits (m.text format) = some update) :
    policyOf m = some update.policyId := by
  unfold decode at read
  rw [parse_text] at read
  simp only [Option.bind_eq_bind, Option.bind_some, Option.bind_eq_some_iff,
    Option.pure_def, Option.some.injEq] at read
  obtain ⟨type, -, policyId, named, tally, -, blockNumber, -, rfl⟩ := read
  rw [← @readString_policyId format, named]

/-- **The codec.**  A message whose numbers are small enough is read as it was sent. -/
theorem decode_text {m : ServerMessage} (fits : MessageFits bits m) :
    decode reader bits (m.text format) = updateOf m := by
  unfold decode
  rw [parse_text]
  simp only [Option.bind_eq_bind, Option.bind_some, readString_policyId]
  cases m with
  | error message =>
      simp only [policyOf, Option.bind_none]
      exact Option.bind_fun_none _
  | pong =>
      simp only [policyOf, Option.bind_none]
      exact Option.bind_fun_none _
  | snapshot policyId counts =>
      have type : readString (printedValue format (.object (messageMembers format
          (.snapshot policyId counts)))) "type" = some (utf16 "snapshot") :=
        readString_of_get (get_message (by simp [messageMembers]))
      have tally : (printedValue format (.object (messageMembers format
          (.snapshot policyId counts)))).get (utf16 "tally") =
            some (printedValue format (tallyValue format counts)) :=
        get_message (by simp [messageMembers])
      have missing : utf16 "blockNumber" ∉
          (messageMembers format (.snapshot policyId counts)).map Prod.fst := by
        show utf16 "blockNumber" ∉ [utf16 "type", utf16 "policyId", utf16 "tally"]
        decide
      rw [type, tally, readOptionalInt, get_of_notMem missing]
      simp only [policyOf, Option.bind_some, readTally_tallyValue (show Fits bits counts from fits)]
      rfl
  | tally update =>
      obtain ⟨small, smallBlock⟩ := fits
      have type : readString (printedValue format (.object (messageMembers format
          (.tally update)))) "type" = some (utf16 "tally") :=
        readString_of_get (get_message (by simp [messageMembers]))
      have tally : (printedValue format (.object (messageMembers format
          (.tally update)))).get (utf16 "tally") =
            some (printedValue format (tallyValue format update.tally)) :=
        get_message (by simp [messageMembers])
      have block : readOptionalInt reader bits (printedValue format (.object (messageMembers format
          (.tally update)))) "blockNumber" = some (some (update.blockNumber : ℤ)) :=
        readOptionalInt_of_get (get_message (by simp [messageMembers])) smallBlock
      rw [type, tally, block]
      simp only [policyOf, Option.bind_some, readTally_tallyValue small]
      rfl

/-! ### Numbers that do not fit -/

/-- A number that is read fits. -/
theorem lt_limit_of_readInt {v : Value format.Number} {key : String} {n : ℕ} {k : ℤ}
    (found : v.get (utf16 key) = some (printedValue format (.number (format.ofNat n))))
    (exact : n < 2 ^ 53) (read : readInt reader bits v key = some k) : n < limit bits := by
  rw [readInt, found, printedValue, printedNumber_ofNat exact] at read
  dsimp only at read
  rw [reader.toInteger_ofNat n exact, Option.filter_eq_some_iff] at read
  obtain ⟨same, inRange⟩ := read
  obtain rfl := Option.some.inj same
  have upper : (n : ℤ) < 2 ^ (bits - 1) := (of_decide_eq_true inRange).2
  have narrow : n < 2 ^ (bits - 1) := by exact_mod_cast upper
  rcases Nat.le_total (bits - 1) 53 with narrower | wider
  · rwa [limit, min_eq_left narrower]
  · rwa [limit, min_eq_right wider]

theorem fits_of_readTally {tally : PolicyTally} {dto : PolicyTallyDTO} (exact : Fits 54 tally)
    (read : readTally reader bits (printedValue format (tallyValue format tally)) = some dto) :
    Fits bits tally := by
  unfold readTally at read
  simp only [Option.bind_eq_bind, Option.bind_eq_some_iff] at read
  obtain ⟨-, -, support, readSupport, oppose, readOppose, abstain, readAbstain, total, readTotal,
    lastBlock, readLastBlock, -⟩ := read
  have small {key : String} {n : ℕ} {k : ℤ} (exact : n < limit 54)
      (mem : (utf16 key, .number (format.ofNat n)) ∈ tallyMembers format tally)
      (read : readInt reader bits (printedValue format (tallyValue format tally)) key = some k) :
      n < limit bits :=
    lt_limit_of_readInt (get_tallyValue mem) (lt_two_pow_of_lt_limit exact) read
  exact ⟨small exact.support (by simp [tallyMembers]) readSupport,
    small exact.oppose (by simp [tallyMembers]) readOppose,
    small exact.abstain (by simp [tallyMembers]) readAbstain,
    small exact.total (by simp [tallyMembers]) readTotal,
    small exact.lastBlock (by simp [tallyMembers]) readLastBlock⟩

/-- **A message is read whole or not at all.**  One whose numbers are printed digit by
digit is read as it was sent when they fit the integers of the app, and is
unreadable otherwise. -/
theorem decode_text_cases (reader : IntegerReader format) (bits : ℕ) {m : ServerMessage}
    (exact : MessageFits 54 m) :
    (MessageFits bits m → decode reader bits (m.text format) = updateOf m) ∧
      (¬ MessageFits bits m → decode reader bits (m.text format) = none) := by
  refine ⟨decode_text, ?_⟩
  intro large
  rw [Option.eq_none_iff_forall_ne_some]
  intro update read
  apply large
  unfold decode at read
  rw [parse_text] at read
  simp only [Option.bind_eq_bind, Option.bind_some, Option.bind_eq_some_iff] at read
  obtain ⟨-, -, -, -, dto, ⟨v, found, readTally⟩, block, readBlock, -⟩ := read
  cases m with
  | error message => trivial
  | pong => trivial
  | snapshot policyId counts =>
      rw [get_message (v := tallyValue format counts) (by simp [messageMembers])] at found
      obtain rfl := Option.some.inj found
      exact fits_of_readTally exact readTally
  | tally sent =>
      obtain ⟨exactTally, exactBlock⟩ := exact
      rw [get_message (v := tallyValue format sent.tally) (by simp [messageMembers])] at found
      obtain rfl := Option.some.inj found
      have named : (printedValue format (.object (messageMembers format (.tally sent)))).get
          (utf16 "blockNumber") =
            some (printedValue format (.number (format.ofNat sent.blockNumber))) :=
        get_message (by simp [messageMembers])
      refine ⟨fits_of_readTally exactTally readTally, ?_⟩
      rw [readOptionalInt, named, printedValue,
        printedNumber_ofNat (lt_two_pow_of_lt_limit exactBlock)] at readBlock
      obtain ⟨k, read, -⟩ := Option.map_eq_some_iff.mp readBlock
      exact lt_limit_of_readInt named (lt_two_pow_of_lt_limit exactBlock) read

/-! ### A large tally -/

/-- A reader of the natural numbers. -/
def sampleReader : IntegerReader .naturals where
  toInteger x := x.map Int.ofNat
  toInteger_ofNat _ _ := rfl

/-- A tally that fits 64 bits and not 32. -/
def sampleMessage : ServerMessage :=
  .snapshot (utf16 "pol-001") ⟨"pol-001", 3000000000, 1, 0, 3000000001, 100, false⟩

theorem decode_text_cases_sample :
    decode sampleReader swiftInt (sampleMessage.text .naturals) = updateOf sampleMessage ∧
      decode sampleReader kotlinInt (sampleMessage.text .naturals) = none := by
  have exact : MessageFits 54 sampleMessage :=
    ⟨by decide, by decide, by decide, by decide, by decide⟩
  refine ⟨(decode_text_cases sampleReader swiftInt exact).1 ?_,
    (decode_text_cases sampleReader kotlinInt exact).2 ?_⟩
  · exact ⟨by decide, by decide, by decide, by decide, by decide⟩
  · intro fits
    exact absurd fits.support (by decide)

end Codec

end TheVoteApp.LiveTallyClient
