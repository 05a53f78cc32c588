import TheVoteApp.Redis.Database

/-!
# Check, then add

Programs that ask whether a member is in a set and, when it is not, add it with
the next command.  Check and addition are two commands, so between them other
programs may run.  As long as nobody checks a member that somebody else is about
to add (`Unraced`), no member is added twice.

## Main definitions

* `Phase`, `Conforms` — where a program stands, and that it keeps to the pattern
* `Unraced` — the condition on one command of a run
* `Asks` — the command is a check of a given member

## Main results

* `Checked.run` — the invariant of a run
* `exclusive` — at most one program records a member, the others are refused
-/

namespace TheVoteApp.Redis

open Foundations

variable {V α : Type}

/-- What the result of a program says about the member it checked. -/
inductive Outcome where
  | other
  | recorded (member : String)
  | refused
deriving DecidableEq

/-- Where a program stands. -/
inductive Phase where
  | fresh
  | checked (member : String)
  | recorded (member : String)
  | refused (member : String)
deriving DecidableEq

/-- The member a program has checked. -/
def Phase.About : Phase → String → Prop
  | .fresh, _ => False
  | .checked member, member' => member' = member
  | .recorded member, member' => member' = member
  | .refused member, member' => member' = member

/-- The program may add, or has added, the member. -/
def Phase.Holds : Phase → String → Prop
  | .checked member, member' => member' = member
  | .recorded member, member' => member' = member
  | _, _ => False

/-- The command leaves the set `key` alone and does not ask about it. -/
def Command.Neutral (key : String) : Command V → Prop
  | .get _ => True
  | .setex _ _ _ => True
  | .del key' => key ≠ key'
  | .sismember key' _ => key ≠ key'
  | .sadd key' _ => key ≠ key'

theorem Command.Neutral.sets_exec {key : String} {command : Command V}
    (neutral : command.Neutral key) (redis : Database V) :
    (exec command redis).2.sets key = redis.sets key := by
  cases command with
  | get key' => rfl
  | setex key' seconds value => rfl
  | del key' => exact redis.sets_delete_of_ne neutral
  | sismember key' member => rfl
  | sadd key' member => exact redis.sets_addMember_of_ne member neutral

/-- The program checks before it adds, and its result says which it did. -/
inductive Conforms (key : String) (outcome : α → Outcome) : Phase → Program V α → Prop where
  | returnsOther {result : α} (verdict : outcome result = .other) :
      Conforms key outcome .fresh (.done result)
  | returnsRecorded {member : String} {result : α} (verdict : outcome result = .recorded member) :
      Conforms key outcome (.recorded member) (.done result)
  | returnsRefused {member : String} {result : α} (verdict : outcome result = .refused) :
      Conforms key outcome (.refused member) (.done result)
  | neutral {phase : Phase} {command : Command V} {next : command.Reply → Program V α}
      (unchecked : ∀ member, phase ≠ .checked member) (neutral : command.Neutral key)
      (goesOn : ∀ reply, Conforms key outcome phase (next reply)) :
      Conforms key outcome phase (.command command next)
  | check {member : String} {next : Bool → Program V α}
      (found : Conforms key outcome (.refused member) (next true))
      (missing : Conforms key outcome (.checked member) (next false)) :
      Conforms key outcome .fresh (.command (.sismember key member) next)
  | add {member : String} {next : Unit → Program V α}
      (added : Conforms key outcome (.recorded member) (next ())) :
      Conforms key outcome (.checked member) (.command (.sadd key member) next)

/-- Programs running as the calls of one pool. -/
abbrev Concurrent (ι V α : Type) := Pool ι (Program V α) (Database V) α

/-- The next command of call `i`. -/
def nextCommand {ι : Type} (s : Concurrent ι V α) (i : ι) : Option (Command V) :=
  (Program.left (s.calls i)).nextCommand

/-- If the next command of call `i` checks a member, no call is about to add it. -/
def Unraced {ι : Type} (key : String) (s : Concurrent ι V α) (i : ι) : Prop :=
  ∀ member, nextCommand s i = some (.sismember key member) →
    ∀ j, nextCommand s j ≠ some (.sadd key member)

/-- The next command of call `i` checks the member. -/
def Asks {ι : Type} (key : String) (i : ι) (member : String) (s : Concurrent ι V α) (j : ι) :
    Prop := j = i ∧ nextCommand s i = some (.sismember key member)

/-- The machine of all programs. -/
abbrev concurrently (ι V α : Type) [DecidableEq ι] :
    Machine (Concurrent ι V α) ι (ι × α) Unit := Pool.machine (Program.step exec)

/-- All programs, before their first command. -/
def launch {ι : Type} (programs : ι → Program V α) (redis : Database V) : Concurrent ι V α :=
  ⟨redis, fun i => .inl (programs i)⟩

/-! ## The invariant -/

variable {ι : Type} {key : String} {outcome : ι → α → Outcome}

/-- Each call is in its phase; a member has at most one holder; what has been
recorded is in the set. -/
structure Checked (key : String) (outcome : ι → α → Outcome) (phase : ι → Phase)
    (s : Concurrent ι V α) : Prop where
  conforms : ∀ i, Conforms key (outcome i) (phase i) (Program.left (s.calls i))
  holder_unique : ∀ member i j, (phase i).Holds member → (phase j).Holds member → i = j
  present : ∀ i member, phase i = .recorded member → s.shared.sets key member = true

namespace Checked

variable {phase : ι → Phase} {s : Concurrent ι V α} {i : ι}

/-- A call that has found a member missing is about to add it. -/
theorem nextCommand_of_checked (held : Checked key outcome phase s) {member : String}
    (checked : phase i = .checked member) : nextCommand s i = some (.sadd key member) := by
  have conforms := held.conforms i
  rw [checked] at conforms
  rw [nextCommand]
  generalize Program.left (s.calls i) = program at conforms
  cases conforms with
  | neutral unchecked _ _ => exact absurd rfl (unchecked member)
  | add _ => rfl

/-- A member that is missing, and that an unraced check asks about, has no holder:
a holder would be about to add it, or have added it. -/
theorem not_holds_of_missing (held : Checked key outcome phase s) (unraced : Unraced key s i)
    {member : String} (asks : nextCommand s i = some (.sismember key member))
    (missing : s.shared.sets key member = false) (j : ι) : ¬ (phase j).Holds member := by
  intro holds
  cases entry : phase j with
  | fresh => simp [entry, Phase.Holds] at holds
  | refused other => simp [entry, Phase.Holds] at holds
  | checked other =>
      obtain rfl : member = other := by simpa [entry, Phase.Holds] using holds
      exact unraced member asks j (held.nextCommand_of_checked entry)
  | recorded other =>
      obtain rfl : member = other := by simpa [entry, Phase.Holds] using holds
      rw [held.present j member entry] at missing
      cases missing

variable [DecidableEq ι]

/-- A call that enters a phase about its member leaves every call about its own. -/
theorem about_update {entered : Phase}
    (keeps : ∀ member, (phase i).About member → entered.About member) (j : ι) (member : String)
    (about : (phase j).About member) : (Function.update phase i entered j).About member := by
  by_cases same : j = i
  · subst same
    rw [Function.update_self]
    exact keeps member about
  · rwa [Function.update_of_ne same]

/-- Call `i` enters a new phase. -/
theorem update (held : Checked key outcome phase s) {entered : Phase} {program : Program V α}
    {redis : Database V} (conforms : Conforms key (outcome i) entered program)
    (grows : ∀ member, s.shared.sets key member = true → redis.sets key member = true)
    (holds : ∀ member, entered.Holds member →
      ∀ j, j ≠ i → ¬ (phase j).Holds member)
    (recorded : ∀ member, entered = .recorded member → redis.sets key member = true) :
    Checked key outcome (Function.update phase i entered)
      ⟨redis, Function.update s.calls i (.inl program)⟩ where
  conforms j := by
    by_cases same : j = i
    · subst same
      simpa [Program.left] using conforms
    · simpa [Function.update_of_ne same] using held.conforms j
  holder_unique member j k holdsJ holdsK := by
    by_cases sameJ : j = i <;> by_cases sameK : k = i
    · rw [sameJ, sameK]
    · subst sameJ
      rw [Function.update_self] at holdsJ
      rw [Function.update_of_ne sameK] at holdsK
      exact absurd holdsK (holds member holdsJ k sameK)
    · subst sameK
      rw [Function.update_self] at holdsK
      rw [Function.update_of_ne sameJ] at holdsJ
      exact absurd holdsJ (holds member holdsK j sameJ)
    · rw [Function.update_of_ne sameJ] at holdsJ
      rw [Function.update_of_ne sameK] at holdsK
      exact held.holder_unique member j k holdsJ holdsK
  present j member isRecorded := by
    by_cases same : j = i
    · subst same
      exact recorded member (by simpa using isRecorded)
    · rw [Function.update_of_ne same] at isRecorded
      exact grows member (held.present j member isRecorded)

/-- **One command** of an unraced run keeps the invariant; a call that asks about
a member is about it from then on, and no call changes its member. -/
theorem next (held : Checked key outcome phase s) (unraced : Unraced key s i) :
    ∃ phase', Checked key outcome phase' ((concurrently ι V α).next s i) ∧
      (∀ j member, (phase j).About member → (phase' j).About member) ∧
      ∀ member, nextCommand s i = some (.sismember key member) → (phase' i).About member := by
  by_cases succeeds : (concurrently ι V α).Succeeds s i
  swap
  · rw [Machine.next_of_not_succeeds succeeds]
    refine ⟨phase, held, fun _ _ about => about, ?_⟩
    intro member asks
    cases left : s.calls i with
    | inl program => exact absurd (Pool.succeeds_of_left left) succeeds
    | inr result => simp [nextCommand, left, Program.left, Program.nextCommand] at asks
  obtain ⟨⟨s', new⟩, moved⟩ := succeeds
  obtain ⟨program, left, rfl, -⟩ := Pool.call_eq_ok moved
  rw [Machine.next_of_ok moved]
  have conforms := held.conforms i
  simp only [left, Program.left] at conforms
  cases program with
  | done result =>
      -- the return: the same program is left, in the same phase
      refine ⟨phase, ⟨?_, held.holder_unique, held.present⟩, fun _ _ about => about, ?_⟩
      · intro j
        by_cases same : j = i
        · subst same
          simpa [Program.step, Program.left] using conforms
        · simpa [Program.step, Function.update_of_ne same] using held.conforms j
      · simp [nextCommand, left, Program.left, Program.nextCommand]
  | command command next =>
      simp only [Program.step]
      generalize entry : phase i = before at conforms
      cases conforms with
      | neutral unchecked neutral goesOn =>
          have kept : Function.update phase i before = phase := by
            rw [← entry, Function.update_eq_self]
          have sameSets := neutral.sets_exec s.shared
          refine ⟨Function.update phase i before, held.update (goesOn _) ?_ ?_ ?_, ?_, ?_⟩
          · intro member present
            rwa [sameSets]
          · intro member holds j other holdsJ
            exact other (held.holder_unique member j i holdsJ (by rwa [entry]))
          · intro member isRecorded
            rw [sameSets]
            exact held.present i member (by rw [entry, isRecorded])
          · rw [kept]
            exact fun _ _ about => about
          · intro member asks
            simp only [nextCommand, left, Program.left, Program.nextCommand,
              Option.some.injEq] at asks
            subst asks
            exact absurd rfl neutral
      | @check member next found missing =>
          have asks : nextCommand s i = some (.sismember key member) := by
            simp [nextCommand, left, Program.left, Program.nextCommand]
          have about_self : ∀ {entered : Phase}, entered.About member →
              ∀ member', nextCommand s i = some (.sismember key member') →
                (Function.update phase i entered i).About member' := by
            intro entered about member' asks'
            rw [asks, Option.some.injEq, Command.sismember.injEq] at asks'
            rw [Function.update_self, ← asks'.2]
            exact about
          cases present : s.shared.sets key member with
          | true =>
              refine ⟨Function.update phase i (.refused member), held.update ?_ ?_ ?_ ?_,
                about_update ?_, about_self rfl⟩
              · simpa [exec, present] using found
              · exact fun _ isPresent => isPresent
              · exact fun _ holds => holds.elim
              · exact fun _ isRecorded => by cases isRecorded
              · intro member' about
                rw [entry] at about
                exact about.elim
          | false =>
              refine ⟨Function.update phase i (.checked member), held.update ?_ ?_ ?_ ?_,
                about_update ?_, about_self rfl⟩
              · simpa [exec, present] using missing
              · exact fun _ isPresent => isPresent
              · rintro member' rfl j -
                exact held.not_holds_of_missing unraced asks present j
              · exact fun _ isRecorded => by cases isRecorded
              · intro member' about
                rw [entry] at about
                exact about.elim
      | @add member next added =>
          refine ⟨Function.update phase i (.recorded member), held.update added ?_ ?_ ?_,
            about_update ?_, ?_⟩
          · intro member' isPresent
            exact (s.shared.sets_addMember_self key member member').mpr (.inr isPresent)
          · intro member' holds j other holdsJ
            exact other (held.holder_unique member' j i holdsJ (by rw [entry]; exact holds))
          · rintro member' isRecorded
            obtain rfl := Phase.recorded.inj isRecorded
            exact (s.shared.sets_addMember_self key member member).mpr (.inl rfl)
          · intro member' about
            rw [entry] at about
            exact about
          · simp [nextCommand, left, Program.left, Program.nextCommand]

/-- **The invariant of a run.**  In an unraced run a call that has asked about a
member is about that member. -/
theorem run {programs : ι → Program V α} (redis : Database V)
    (conforms : ∀ i, Conforms key (outcome i) .fresh (programs i)) (schedule : List ι)
    (unraced : (concurrently ι V α).Along (Unraced key) (launch programs redis) schedule) :
    ∃ phase, Checked key outcome phase
        ((concurrently ι V α).run (launch programs redis) schedule) ∧
      ∀ i member, (concurrently ι V α).Sometime (Asks key i member) (launch programs redis)
        schedule → (phase i).About member := by
  induction schedule using List.reverseRecOn with
  | nil =>
      refine ⟨fun _ => .fresh, ⟨conforms, ?_, ?_⟩, fun _ _ never => never.elim⟩
      · exact fun _ _ _ holds => holds.elim
      · exact fun _ _ isRecorded => by cases isRecorded
  | append_singleton schedule j ih =>
      obtain ⟨earlier, last⟩ := (Machine.along_concat _ schedule j).mp unraced
      obtain ⟨phase, held, asked⟩ := ih earlier
      obtain ⟨phase', held', keeps, enters⟩ := held.next last
      rw [Machine.run_concat]
      refine ⟨phase', held', ?_⟩
      intro i member sometime
      rcases (Machine.sometime_concat _ schedule j).mp sometime with before | ⟨rfl, asks⟩
      · exact keeps i member (asked i member before)
      · exact enters member asks

end Checked

/-- **Check, then add.**  In an unraced run at most one program returns having
recorded a given member, and every program that asked about it returns having
recorded it or been refused. -/
theorem exclusive [DecidableEq ι] {programs : ι → Program V α} (redis : Database V)
    (conforms : ∀ i, Conforms key (outcome i) .fresh (programs i)) (schedule : List ι)
    (unraced : (concurrently ι V α).Along (Unraced key) (launch programs redis) schedule)
    (member : String) :
    (∀ i j a b,
      ((concurrently ι V α).run (launch programs redis) schedule).calls i = .inr a →
      outcome i a = .recorded member →
      ((concurrently ι V α).run (launch programs redis) schedule).calls j = .inr b →
      outcome j b = .recorded member → i = j) ∧
    ∀ i a,
      (concurrently ι V α).Sometime (Asks key i member) (launch programs redis) schedule →
      ((concurrently ι V α).run (launch programs redis) schedule).calls i = .inr a →
      outcome i a = .recorded member ∨ outcome i a = .refused := by
  obtain ⟨phase, held, asked⟩ := Checked.run redis conforms schedule unraced
  -- a call that has returned conforms as a finished program
  have returned : ∀ i a,
      ((concurrently ι V α).run (launch programs redis) schedule).calls i = .inr a →
      Conforms key (outcome i) (phase i) (.done a : Program V α) := by
    intro i a result
    have conformsI := held.conforms i
    rwa [result] at conformsI
  have holds_of_recorded : ∀ i a,
      ((concurrently ι V α).run (launch programs redis) schedule).calls i = .inr a →
      outcome i a = .recorded member → (phase i).Holds member := by
    intro i a result verdict
    have conformsI := returned i a result
    generalize phase i = entry at conformsI
    cases conformsI with
    | returnsOther other => rw [verdict] at other; cases other
    | returnsRecorded recorded =>
        rw [verdict] at recorded
        exact Outcome.recorded.inj recorded
    | returnsRefused refused => rw [verdict] at refused; cases refused
  constructor
  · intro i j a b resultI verdictI resultJ verdictJ
    exact held.holder_unique member i j (holds_of_recorded i a resultI verdictI)
      (holds_of_recorded j b resultJ verdictJ)
  · intro i a asks result
    have about := asked i member asks
    have conformsI := returned i a result
    generalize phase i = entry at conformsI about
    cases conformsI with
    | returnsOther _ => exact about.elim
    | returnsRecorded recorded =>
        obtain rfl := about
        exact Or.inl recorded
    | returnsRefused refused => exact Or.inr refused

end TheVoteApp.Redis
