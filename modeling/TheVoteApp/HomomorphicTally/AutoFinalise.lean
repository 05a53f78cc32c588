import TheVoteApp.HomomorphicTally.PollsGetter
import TheVoteApp.JavaScript.Number

/-!
# Finalising a poll when it closes

`HomomorphicTallyService.start` sets a timer for every `PollRegistered` event, five
seconds after the close of the poll; the callback finalises all options unless the
poll is still open.

A timer holds its delay in 32 bits, and Node replaces a larger one by a
millisecond.  The callback of a poll that closes later than that runs at once,
finds the poll open and returns; nothing runs it again.  The guard is passed at
every moment the callback may run exactly when the delay fits
(`guard_passed_iff`).

Closing times are arbitrary integers and go through `Number`; below the largest
time of a clock the arithmetic is exact, and above it only the order matters.
-/

namespace TheVoteApp.HomomorphicTallyService

open Solidity Foundations JavaScript HomomorphicTally

/-- The largest value of `Date.now()`. -/
def maxTime : ℕ := 8_640_000_000_000_000

/-- `TIMEOUT_MAX` of Node, the largest delay of a timer in milliseconds. -/
def timeoutMax : ℕ := 2 ^ 31 - 1

/-- The delay that `setTimeout` gives a timer. -/
def timerDelay (delay : Number) : ℕ :=
  if Number.le (.int 1) delay ∧ Number.le delay (.int timeoutMax) then delay.toLength else 1

/-- `Number(closeTime) * 1000`. -/
def closeTimeMs (closeTime : ℕ) : Number := (Number.ofInt closeTime).mul (.int 1000)

/-- The listener to `PollRegistered`, at time `now`: the delay of the timer it sets,
if it sets one. -/
def onPollRegistered (closeTime now : ℕ) : Option ℕ :=
  let msUntilClose := (closeTimeMs closeTime).sub (.int now)
  if Number.lt (.int 0) msUntilClose then some (timerDelay (msUntilClose.add (.int 5000)))
  else none

/-- The guard of `_finaliseAll`: the poll is not closed yet. -/
def notClosedYet (closeTime now : ℕ) : Bool := Number.lt (.int now) (closeTimeMs closeTime)

/-- The times at which the callback of a timer may run, when the timer is set at
`now`. -/
def MayRunAt (now delay time : ℕ) : Prop := now + delay ≤ time ∧ time ≤ maxTime

/-! ## Times as numbers -/

section Times

variable {closeTime now : ℕ}

/-- A close beyond the end of time in milliseconds. -/
theorem le_closeTimeMs {k : ℕ} (small : k ≤ 2 ^ 43) (order : k ≤ closeTime) :
    Number.le (.int (k * 1000 : ℕ)) (closeTimeMs closeTime) = true := by
  have seconds := Number.ofInt_mono (show (k : ℤ) ≤ closeTime by exact_mod_cast order)
  rw [Number.ofInt_of_small (show (k : ℤ).natAbs ≤ 2 ^ 53 by omega)] at seconds
  have product := Number.le_mul_int seconds (show (0 : ℤ) < 1000 by decide)
  rwa [Number.ofInt_of_small (show ((k : ℤ) * 1000).natAbs ≤ 2 ^ 53 by omega)] at product

theorem closeTimeMs_of_small (small : closeTime ≤ 2 ^ 43) :
    closeTimeMs closeTime = .int (closeTime * 1000 : ℕ) := by
  rw [closeTimeMs, Number.ofInt_of_small (by omega)]
  show Number.ofInt (closeTime * 1000) = _
  rw [Number.ofInt_of_small (by omega)]
  push_cast
  rfl

/-- The guard compares exact times. -/
theorem notClosedYet_iff (clock : now ≤ maxTime) :
    notClosedYet closeTime now = true ↔ now < closeTime * 1000 := by
  unfold maxTime at clock
  rcases le_or_gt closeTime (2 ^ 43) with small | large
  · rw [notClosedYet, closeTimeMs_of_small small, Number.lt_int]
    exact Nat.cast_lt
  · refine iff_of_true ?_ (by omega)
    exact Number.lt_of_lt_of_le (by omega) (le_closeTimeMs le_rfl large.le)

/-- The guard of the loop over the options is the same. -/
theorem lt_toNumber_mul_iff (clock : now ≤ maxTime) :
    now < toNumber closeTime * 1000 ↔ now < closeTime * 1000 := by
  unfold maxTime at clock
  rcases Nat.lt_or_ge closeTime (2 ^ 53) with small | large
  · rw [toNumber_of_lt small]
  · have bound := toNumber_mono large
    rw [toNumber_two_pow] at bound
    omega

theorem timerDelay_of_le {delay : ℕ} (positive : 1 ≤ delay) (fits : delay ≤ timeoutMax) :
    timerDelay (.int delay) = delay := by
  rw [timerDelay, if_pos ⟨Number.le_int.mpr (by omega), Number.le_int.mpr (by omega)⟩]
  rfl

/-- A delay that does not fit. -/
theorem timerDelay_of_lt {delay : Number} {n : ℤ} (large : timeoutMax < n)
    (order : Number.le (.int n) delay = true) : timerDelay delay = 1 := by
  rw [timerDelay, if_neg]
  rintro ⟨-, fits⟩
  have := Number.le_int.mp (Number.le_trans order fits)
  omega

/-- **The timer.**  While the poll is open one is set, for five seconds after the
close if that many milliseconds fit, and for one millisecond otherwise. -/
theorem onPollRegistered_eq (clock : now ≤ maxTime) (isOpen : now < closeTime * 1000) :
    onPollRegistered closeTime now =
      some (if closeTime * 1000 - now + 5000 ≤ timeoutMax then closeTime * 1000 - now + 5000
        else 1) := by
  unfold maxTime at clock
  rcases le_or_gt closeTime (2 ^ 43) with small | large
  · -- every number is exact up to the last sum
    have left : (closeTimeMs closeTime).sub (.int now) = .int (closeTime * 1000 - now : ℕ) := by
      rw [closeTimeMs_of_small small]
      show Number.ofInt ((closeTime * 1000 : ℕ) + -(now : ℤ)) = _
      rw [Number.ofInt_of_small (by omega)]
      congr 1
      omega
    have sum : Number.add (.int (closeTime * 1000 - now : ℕ)) (.int 5000) =
        .ofInt (closeTime * 1000 - now + 5000 : ℕ) := rfl
    have started : Number.lt (.int 0) (.int (closeTime * 1000 - now : ℕ)) = true :=
      Number.lt_int.mpr (by omega)
    simp only [onPollRegistered, left, sum, started, if_true]
    by_cases fits : closeTime * 1000 - now + 5000 ≤ timeoutMax
    · have bound : closeTime * 1000 - now + 5000 ≤ 2 ^ 31 - 1 := fits
      rw [if_pos fits, Number.ofInt_of_small (by omega), timerDelay_of_le (by omega) fits]
    · have bound := Number.ofInt_mono
        (show ((timeoutMax + 1 : ℕ) : ℤ) ≤ (closeTime * 1000 - now + 5000 : ℕ) by omega)
      rw [Number.ofInt_of_small (by decide)] at bound
      rw [if_neg fits, timerDelay_of_lt (by omega) bound]
  · -- the close is so far away that only the order is known
    have left := Number.le_sub_int (le_closeTimeMs le_rfl large.le) now
    rw [Number.ofInt_of_small (by omega)] at left
    have sum := Number.le_add_int left 5000
    rw [Number.ofInt_of_small (by omega)] at sum
    have beyond : ¬ closeTime * 1000 - now + 5000 ≤ timeoutMax := by
      unfold timeoutMax
      omega
    rw [onPollRegistered, if_pos (Number.lt_of_lt_of_le (by omega) left), if_neg beyond,
      timerDelay_of_lt (by unfold timeoutMax; omega) sum]

end Times

/-! ## The guard at the time of the callback -/

/-- **The guard is passed whenever the callback runs** exactly when the delay fits
a timer. -/
theorem guard_passed_iff {closeTime now : ℕ} (clock : now < maxTime)
    (isOpen : now < closeTime * 1000) :
    (∃ delay, onPollRegistered closeTime now = some delay ∧
      ∀ time, MayRunAt now delay time → notClosedYet closeTime time = false) ↔
      closeTime * 1000 - now + 5000 ≤ timeoutMax := by
  rw [onPollRegistered_eq clock.le isOpen]
  constructor
  · rintro ⟨delay, isDelay, passed⟩
    by_contra large
    rw [if_neg large, Option.some.injEq] at isDelay
    -- one millisecond later the poll is still open
    have early := passed (now + 1) ⟨by omega, clock⟩
    have still : notClosedYet closeTime (now + 1) = true := by
      rw [notClosedYet_iff clock]
      unfold timeoutMax at large
      omega
    rw [still] at early
    cases early
  · intro fits
    rw [if_pos fits]
    refine ⟨_, rfl, ?_⟩
    rintro time ⟨later, clock'⟩
    rw [Bool.eq_false_iff, Ne, notClosedYet_iff clock']
    omega

/-! ## The callback -/

section Callback

variable (keccak256 : Bytes → Bytes32) (key : Option ℤ) (pollId : Bytes32)
variable (getResult : ℕ → ℕ × Bool) (getAccumulated : ℕ → AccumulatedCiphertext)

/-- The callback, at some time, passes the guard and comes to the finalisation of
every option. -/
structure Finalises (polls : Bytes) (closeTime time : ℕ) : Prop where
  passed : notClosedYet closeTime time = false
  attempted : ∃ pollData, decodePolls polls = some pollData ∧
    finaliseAll keccak256 key polls time pollId getResult getAccumulated =
      some ((List.range (toNumber pollData.optionCount)).map fun i =>
        finaliseOption keccak256 key pollId i (getResult i) (getAccumulated i))

/-- Return data of `polls` that decode to nothing but the poll of the event. -/
def OfPoll (polls : Bytes) (closeTime : ℕ) : Prop :=
  ∀ pollData, decodePolls polls = some pollData →
    pollData.pollExists = true ∧ pollData.closeTime = closeTime

/-- After the close the callback visits every option of a poll it can read. -/
theorem finalises_of_closed {polls : Bytes} {closeTime time : ℕ} (clock : time ≤ maxTime)
    (closed : closeTime * 1000 ≤ time) (ofPoll : OfPoll polls closeTime) {pollData : PollData}
    (decoded : decodePolls polls = some pollData) :
    Finalises keccak256 key pollId getResult getAccumulated polls closeTime time := by
  obtain ⟨registered, isClose⟩ := ofPoll pollData decoded
  have past : ¬ time < toNumber pollData.closeTime * 1000 := by
    rw [isClose, lt_toNumber_mul_iff clock]
    exact Nat.not_lt.mpr closed
  refine ⟨?_, pollData, decoded, ?_⟩
  · rw [Bool.eq_false_iff, Ne, notClosedYet_iff clock]
    exact Nat.not_lt.mpr closed
  · rw [finaliseAll, decoded]
    simp only [Option.bind_eq_bind, Option.bind_some, registered, Bool.not_true, Bool.false_eq_true,
      if_false, past]
    rfl

/-- The service cannot read the poll through the getter of the contract. -/
theorem not_finalises_pollsGetter (s : HomomorphicTally) (closeTime time : ℕ) :
    ¬ Finalises keccak256 key pollId getResult getAccumulated (s.pollsGetter pollId) closeTime
      time := by
  rintro ⟨-, pollData, decoded, -⟩
  rw [decodePolls_pollsGetter] at decoded
  cases decoded

/-- **Auto-finalisation.**  For an event handled before the close: the guard is
passed whenever the callback may run exactly when the delay fits a timer, and
every option is then come to exactly when the poll can be read as well.  Through
the getter of the contract it cannot. -/
theorem autoFinalise_iff (closeTime now : ℕ) (clock : now + timeoutMax ≤ maxTime)
    (isOpen : now < closeTime * 1000) :
    ((∃ delay, onPollRegistered closeTime now = some delay ∧
        ∀ time, MayRunAt now delay time → notClosedYet closeTime time = false) ↔
      closeTime * 1000 - now + 5000 ≤ timeoutMax) ∧
    (∀ polls, OfPoll polls closeTime →
      ((∃ delay, onPollRegistered closeTime now = some delay ∧
          ∀ time, MayRunAt now delay time →
            Finalises keccak256 key pollId getResult getAccumulated polls closeTime time) ↔
        (decodePolls polls).isSome = true ∧ closeTime * 1000 - now + 5000 ≤ timeoutMax)) ∧
    ∀ (s : HomomorphicTally) (time : ℕ),
      ¬ Finalises keccak256 key pollId getResult getAccumulated (s.pollsGetter pollId) closeTime
        time := by
  have earlier : now < maxTime := by
    have positive : 0 < timeoutMax := by decide
    omega
  have guard := guard_passed_iff earlier isOpen
  refine ⟨guard, ?_, fun s time => not_finalises_pollsGetter _ _ _ _ _ s closeTime time⟩
  intro polls ofPoll
  constructor
  · rintro ⟨delay, isDelay, finalises⟩
    have fits := guard.mp ⟨delay, isDelay, fun time run => (finalises time run).passed⟩
    refine ⟨?_, fits⟩
    -- the callback runs at the earliest when the delay is over
    rw [onPollRegistered_eq earlier.le isOpen, if_pos fits, Option.some.injEq] at isDelay
    obtain ⟨pollData, decoded, -⟩ := (finalises (now + delay) ⟨le_rfl, by omega⟩).attempted
    rw [decoded, Option.isSome_some]
  · rintro ⟨readable, fits⟩
    obtain ⟨pollData, decoded⟩ := Option.isSome_iff_exists.mp readable
    refine ⟨_, onPollRegistered_eq earlier.le isOpen, ?_⟩
    rintro time ⟨later, clock'⟩
    rw [if_pos fits] at later
    exact finalises_of_closed _ _ _ _ _ clock' (by omega) ofPoll decoded

end Callback

/-! ## A poll of one month -/

/-- Return data that the service's declaration fits: a poll with two options that
closes 30 days after `1790000000`. -/
def monthPoll : Bytes :=
  Abi.encode [.word 1, .word 2, .word 2, .word 1792592000, .word 1]

theorem decodePolls_monthPoll :
    decodePolls monthPoll = some ⟨(1, 2), 2, 1792592000, true⟩ := by decide +kernel

/-- Handled an hour before the close, the same poll is finalised. -/
theorem autoFinalise_iff_sample :
    ∃ delay, onPollRegistered 1792592000 1792588400000 = some delay ∧
      ∀ time, MayRunAt 1792588400000 delay time →
        Finalises (fun _ => 0) none 0 (fun _ => (0, false)) (fun _ => ⟨(0, 1), (0, 1), 0⟩) monthPoll
          1792592000 time := by
  have ofPoll : OfPoll monthPoll 1792592000 := by
    intro pollData decoded
    rw [decodePolls_monthPoll, Option.some.injEq] at decoded
    rw [← decoded]
    exact ⟨rfl, rfl⟩
  have iff := (autoFinalise_iff (fun _ => 0) none 0 (fun _ => (0, false))
    (fun _ => ⟨(0, 1), (0, 1), 0⟩) 1792592000 1792588400000 (by decide) (by decide)).2.1 monthPoll
    ofPoll
  refine iff.mpr ⟨?_, by decide⟩
  rw [decodePolls_monthPoll]
  rfl

/-- **A poll of one month is not finalised.**  Its timer is set for a millisecond,
and the callback returns without coming to an option. -/
theorem autoFinalise_counterexample :
    onPollRegistered 1792592000 1790000000000 = some 1 ∧
      MayRunAt 1790000000000 1 1790000000001 ∧
      notClosedYet 1792592000 1790000000001 = true ∧
      finaliseAll (fun _ => 0) none monthPoll 1790000000001 0 (fun _ => (0, false))
        (fun _ => ⟨(0, 1), (0, 1), 0⟩) = some [] ∧
      ∀ s : HomomorphicTally, finaliseAll (fun _ => 0) none (s.pollsGetter 0) 1790000000001 0
        (fun _ => (0, false)) (fun _ => ⟨(0, 1), (0, 1), 0⟩) = none := by
  refine ⟨by decide, ⟨by decide, by decide⟩, by decide, ?_, ?_⟩
  · rw [finaliseAll, decodePolls_monthPoll]
    rfl
  · intro s
    rw [finaliseAll, decodePolls_pollsGetter]
    rfl

end TheVoteApp.HomomorphicTallyService
