import TheVoteApp.Notifications.Service
import TheVoteApp.Foundations.OpenPool

/-!
# Registrations that overlap

The routes do not wait for the service, so calls about one user run side by side.
A registration reads the old record, then moves the user from one country to
another with three commands; a broadcast reads the records of its recipients and
later deletes those that turn out to be stale.  A command of another call in
between leaves a user in two countries, or in none, or deletes a token that has
just been registered.

Records and countries agree, and only tokens that were read are deleted, in the
runs where the calls about one user exclude each other: no call begins to change
a user that another call is at work on, and no broadcast reads a user that is
being changed.

## Main definitions

* `Stage`, `step` — a call between its commands, and its next command
* `UserView` — what the database holds about one user
* `Exclusive` — the condition on one command
* `Indexed` — the invariant, for one user

## Main results

* `left_step` — the stages are the programs of the methods
* `consistent_of_exclusive` — the two guarantees, for the runs of exclusive calls
-/

namespace TheVoteApp.NotificationService

open Foundations

/-! ## Stages -/

/-- Where a call stands: the command that is next, with what the method knows by
then. -/
inductive Stage (T : Type) where
  | begins (call : Call)
  | leaves (userId : String) (record : TokenRecord) (old : String)
  | stores (userId : String) (record : TokenRecord)
  | lists (userId : String) (record : TokenRecord)
  | unlists (userId countryCode : String)
  | forgets (userId : String)
  | reads (send : List String → Option (List Bool)) (userId : String) (userIds : List String)
      (recipients : List (Recipient T))
  | deletes (recipient : Recipient T) (recipients : List (Recipient T))
  | removes (recipient : Recipient T) (recipients : List (Recipient T))

variable {T : Type}

/-- What is left of a method. -/
def Stage.program (registration : T) : Stage T → Program T Unit
  | .begins call => call.program registration
  | .leaves userId record old => do
      removeFrom userId (some old)
      issue (.setToken userId ⟨record, registration⟩)
      issue (.saddCountry record.countryCode userId)
  | .stores userId record => do
      issue (.setToken userId ⟨record, registration⟩)
      issue (.saddCountry record.countryCode userId)
  | .lists userId record => issue (.saddCountry record.countryCode userId)
  | .unlists userId countryCode => do
      removeFrom userId (some countryCode)
      issue (.delToken userId)
  | .forgets userId => issue (.delToken userId)
  | .reads send userId userIds recipients => do
      let rest ← getRecipients (userId :: userIds)
      removeStale (staleRecipients send (recipients ++ rest))
  | .deletes recipient recipients => removeStale (recipient :: recipients)
  | .removes recipient recipients => do
      issue (.sremCountry recipient.entry.record.countryCode recipient.userId)
      removeStale recipients

/-- The removals that are left, or the return. -/
def cleanup : List (Recipient T) → Stage T ⊕ Unit
  | [] => .inr ()
  | recipient :: recipients => .inl (.deletes recipient recipients)

/-- The records that are left to read, or the removals. -/
def readOn (send : List String → Option (List Bool)) (userIds : List String)
    (recipients : List (Recipient T)) : Stage T ⊕ Unit :=
  match userIds with
  | [] => cleanup (staleRecipients send recipients)
  | userId :: userIds => .inl (.reads send userId userIds recipients)

/-- The first command of a call. -/
def begin (redis : Store T) : Call → Stage T ⊕ Unit
  | .register userId record =>
    match NotificationService.leaves (redis.tokens userId) record.countryCode with
    | some old => .inl (.leaves userId record old)
    | none => .inl (.stores userId record)
  | .unregister userId =>
    match redis.tokens userId with
    | some entry => .inl (.unlists userId entry.record.countryCode)
    | none => .inl (.forgets userId)
  | .broadcast countryCode message send => readOn (send message) (redis.countries countryCode) []

/-- The next command of a call. -/
def step (registration : T) : Stage T → Store T → (Stage T ⊕ Unit) × Store T
  | .begins call, redis => (begin redis call, redis)
  | .leaves userId record old, redis =>
      (.inl (.stores userId record), redis.removeFromCountry old userId)
  | .stores userId record, redis =>
      (.inl (.lists userId record), redis.setToken userId (some ⟨record, registration⟩))
  | .lists userId record, redis => (.inr (), redis.addToCountry record.countryCode userId)
  | .unlists userId countryCode, redis =>
      (.inl (.forgets userId), redis.removeFromCountry countryCode userId)
  | .forgets userId, redis => (.inr (), redis.setToken userId none)
  | .reads send userId userIds recipients, redis =>
      (readOn send userIds
        (recipients ++ ((redis.tokens userId).map (Recipient.mk userId)).toList), redis)
  | .deletes recipient recipients, redis =>
      (.inl (.removes recipient recipients), redis.setToken recipient.userId none)
  | .removes recipient recipients, redis =>
      (cleanup recipients,
        redis.removeFromCountry recipient.entry.record.countryCode recipient.userId)

/-- What is left of a call. -/
def leftProgram (registration : T) : Stage T ⊕ Unit → Program T Unit
  | .inl stage => stage.program registration
  | .inr () => .done ()

theorem leftProgram_cleanup (registration : T) (recipients : List (Recipient T)) :
    leftProgram registration (cleanup recipients) = removeStale recipients := by
  cases recipients <;> rfl

theorem leftProgram_readOn (registration : T) (send : List String → Option (List Bool))
    (userIds : List String) (recipients : List (Recipient T)) :
    leftProgram registration (readOn send userIds recipients) =
      (getRecipients userIds >>= fun rest =>
        removeStale (staleRecipients send (recipients ++ rest))) := by
  cases userIds with
  | nil =>
      rw [readOn, leftProgram_cleanup]
      simp [getRecipients]
  | cons userId userIds => rfl

/-- **The stages are the methods**: a command of the program leads from what is
left at one stage to what is left at the next. -/
theorem left_step (registration : T) (stage : Stage T) (redis : Store T) :
    Program.left ((stage.program registration).step exec redis).1 =
        leftProgram registration (step registration stage redis).1 ∧
      ((stage.program registration).step exec redis).2 = (step registration stage redis).2 := by
  cases stage with
  | begins call =>
      cases call with
      | register userId record =>
          simp only [Stage.program, Call.program, registerToken, Program.command_bind,
            Program.done_bind, Program.step, Program.left, exec, step, begin, and_true]
          cases NotificationService.leaves (redis.tokens userId) record.countryCode <;> rfl
      | unregister userId =>
          simp only [Stage.program, Call.program, unregisterToken, Program.command_bind,
            Program.done_bind, Program.step, Program.left, exec, step, begin, and_true]
          cases redis.tokens userId <;> rfl
      | broadcast countryCode message send =>
          simp only [Stage.program, Call.program, broadcast, Program.command_bind,
            Program.done_bind, Program.step, Program.left, exec, step, begin,
            leftProgram_readOn, List.nil_append, and_true]
  | reads send userId userIds recipients =>
      simp [Stage.program, getRecipients, Program.step, Program.left, step, exec,
        leftProgram_readOn, Program.bind_assoc]
  | removes recipient recipients =>
      simp [Stage.program, Program.step, Program.left, step, exec, leftProgram_cleanup]
  | _ => exact ⟨rfl, rfl⟩

/-! ## Who is at work on whom -/

/-- The user a registration or an unregistration is changing. -/
def Stage.writer : Stage T → Option String
  | .leaves userId _ _ => some userId
  | .stores userId _ => some userId
  | .lists userId _ => some userId
  | .unlists userId _ => some userId
  | .forgets userId => some userId
  | _ => none

/-- The recipients whose tokens a broadcast may still delete. -/
def Stage.held : Stage T → List (Recipient T)
  | .reads _ _ _ recipients => recipients
  | .deletes recipient recipients => recipient :: recipients
  | .removes _ recipients => recipients
  | _ => []

/-- The recipient whose token a broadcast has deleted, and who is still listed. -/
def Stage.removing : Stage T → Option (Recipient T)
  | .removes recipient _ => some recipient
  | _ => none

/-- The user the next command is about. -/
def Stage.subject : Stage T → Option String
  | .begins (.register userId _) => some userId
  | .begins (.unregister userId) => some userId
  | .begins (.broadcast _ _ _) => none
  | .leaves userId _ _ => some userId
  | .stores userId _ => some userId
  | .lists userId _ => some userId
  | .unlists userId _ => some userId
  | .forgets userId => some userId
  | .reads _ userId _ _ => some userId
  | .deletes recipient _ => some recipient.userId
  | .removes recipient _ => some recipient.userId

/-- The user that a call is changing. -/
def writerOf (left : Stage T ⊕ Unit) : Option String := left.getLeft?.bind Stage.writer

/-- The recipients that a call has read. -/
def heldBy (left : Stage T ⊕ Unit) : List (Recipient T) :=
  (left.getLeft?.map Stage.held).getD []

/-- The recipient that a call is removing. -/
def removedBy (left : Stage T ⊕ Unit) : Option (Recipient T) := left.getLeft?.bind Stage.removing

/-- The call is changing the user, or may delete what it has read of the user. -/
def Concerns (left : Stage T ⊕ Unit) (userId : String) : Prop :=
  writerOf left = some userId ∨ (∃ recipient ∈ heldBy left, recipient.userId = userId) ∨
    ∃ recipient ∈ removedBy left, recipient.userId = userId

instance decidableConcerns (left : Stage T ⊕ Unit) (userId : String) :
    Decidable (Concerns left userId) :=
  inferInstanceAs (Decidable (_ = _ ∨ (∃ _ ∈ _, _) ∨ ∃ _ ∈ _, _))

section Runs

variable {ι : Type} [DecidableEq ι]

/-- Calls in progress on every instance of the backend. -/
abbrev Calls (ι : Type) := Pool ι (Stage ι) (Store ι) Unit

/-- The calls and the database, as one machine. -/
abbrev machine : Machine (Calls ι) (Pool.Move ι Empty) (ι × Unit) Unit :=
  Pool.openMachine step fun action _ => action.elim

/-- No call has begun. -/
abbrev start (calls : ι → Call) : Calls ι := Pool.launch (fun i => .begins (calls i)) Store.empty

/-- The call has not begun, or has returned. -/
def Idle : Stage T ⊕ Unit → Prop
  | .inl (.begins _) => True
  | .inl _ => False
  | .inr _ => True

instance decidableIdle : ∀ left : Stage T ⊕ Unit, Decidable (Idle left)
  | .inl (.begins _) => isTrue trivial
  | .inr _ => isTrue trivial
  | .inl (.leaves _ _ _) => isFalse id
  | .inl (.stores _ _) => isFalse id
  | .inl (.lists _ _) => isFalse id
  | .inl (.unlists _ _) => isFalse id
  | .inl (.forgets _) => isFalse id
  | .inl (.reads _ _ _ _) => isFalse id
  | .inl (.deletes _ _) => isFalse id
  | .inl (.removes _ _) => isFalse id

/-- A call that begins to change a user finds no other call at work on the user; a
broadcast reads no user that is being changed. -/
def StageExclusive (s : Calls ι) : Stage ι → Prop
  | .begins (.register userId _) => ∀ j, ¬ Concerns (s.calls j) userId
  | .begins (.unregister userId) => ∀ j, ¬ Concerns (s.calls j) userId
  | .reads _ userId _ _ => ∀ j, writerOf (s.calls j) ≠ some userId
  | _ => True

instance decidableStageExclusive [Fintype ι] (s : Calls ι) :
    ∀ stage, Decidable (StageExclusive s stage)
  | .begins (.register _ _) => inferInstanceAs (Decidable (∀ _, _))
  | .begins (.unregister _) => inferInstanceAs (Decidable (∀ _, _))
  | .reads _ _ _ _ => inferInstanceAs (Decidable (∀ _, _))
  | .begins (.broadcast _ _ _) => isTrue trivial
  | .leaves _ _ _ => isTrue trivial
  | .stores _ _ => isTrue trivial
  | .lists _ _ => isTrue trivial
  | .unlists _ _ => isTrue trivial
  | .forgets _ => isTrue trivial
  | .deletes _ _ => isTrue trivial
  | .removes _ _ => isTrue trivial

/-- The next command respects the calls at work on its user. -/
def Exclusive (s : Calls ι) : Pool.Move ι Empty → Prop
  | .call i => ∀ stage ∈ (s.calls i).getLeft?, StageExclusive s stage
  | .act _ => True

instance decidableExclusive [Fintype ι] (s : Calls ι) : ∀ move, Decidable (Exclusive s move)
  | .call _ => inferInstanceAs (Decidable (∀ _ ∈ _, _))
  | .act action => action.elim

end Runs

/-! ## What the database holds about a user -/

/-- The token of a user, and the countries that list the user. -/
structure UserView (T : Type) where
  token : Option (Entry T)
  countries : Set String

/-- What the database holds about one user. -/
def Store.view (redis : Store T) (userId : String) : UserView T :=
  ⟨redis.tokens userId, {countryCode | userId ∈ redis.countries countryCode}⟩

namespace UserView

/-- The record and the countries agree. -/
def Settled (view : UserView T) : Prop :=
  ∀ countryCode, countryCode ∈ view.countries ↔
    ∃ entry ∈ view.token, entry.record.countryCode = countryCode

/-- The token is stored, or deleted. -/
def setToken (view : UserView T) (entry : Option (Entry T)) : UserView T :=
  { view with token := entry }

/-- A country lists the user. -/
def add (view : UserView T) (countryCode : String) : UserView T :=
  { view with countries := insert countryCode view.countries }

/-- A country no longer lists the user. -/
def remove (view : UserView T) (countryCode : String) : UserView T :=
  { view with countries := view.countries \ {countryCode} }

end UserView

section View

variable (redis : Store T) (countryCode : String) {userId userId' : String}

@[simp] theorem view_setToken_self (entry : Option (Entry T)) :
    (redis.setToken userId entry).view userId = (redis.view userId).setToken entry := by
  simp [Store.view, UserView.setToken]

theorem view_setToken_of_ne (other : userId' ≠ userId) (entry : Option (Entry T)) :
    (redis.setToken userId entry).view userId' = redis.view userId' := by
  simp [Store.view, Function.update_of_ne other]

@[simp] theorem view_addToCountry_self :
    (redis.addToCountry countryCode userId).view userId = (redis.view userId).add countryCode := by
  have listed :
      {countryCode' | userId ∈ (redis.addToCountry countryCode userId).countries countryCode'} =
        insert countryCode {countryCode' | userId ∈ redis.countries countryCode'} := by
    ext countryCode'
    simp [Store.mem_addToCountry]
  simp only [Store.view, UserView.add, Store.tokens_addToCountry, listed]

theorem view_addToCountry_of_ne (other : userId' ≠ userId) :
    (redis.addToCountry countryCode userId).view userId' = redis.view userId' := by
  simp [Store.view, Store.mem_addToCountry, other]

@[simp] theorem view_removeFromCountry_self :
    (redis.removeFromCountry countryCode userId).view userId =
      (redis.view userId).remove countryCode := by
  have listed : {countryCode' | userId ∈ (redis.removeFromCountry countryCode userId).countries
      countryCode'} = {countryCode' | userId ∈ redis.countries countryCode'} \ {countryCode} := by
    ext countryCode'
    simp [Store.mem_removeFromCountry]
  simp only [Store.view, UserView.remove, Store.tokens_removeFromCountry, listed]

theorem view_removeFromCountry_of_ne (other : userId' ≠ userId) :
    (redis.removeFromCountry countryCode userId).view userId' = redis.view userId' := by
  simp [Store.view, Store.mem_removeFromCountry, other]

end View

/-- A command changes the view of its subject only. -/
theorem view_step_of_ne (registration : T) (stage : Stage T) (redis : Store T) {userId : String}
    (other : stage.subject ≠ some userId) :
    (step registration stage redis).2.view userId = redis.view userId := by
  have ne {userId' : String} (subject : stage.subject = some userId') : userId ≠ userId' := by
    rintro rfl
    exact other subject
  cases stage with
  | begins call => rfl
  | reads send userId' userIds recipients => rfl
  | leaves userId' record old => exact view_removeFromCountry_of_ne redis old (ne rfl)
  | stores userId' record => exact view_setToken_of_ne redis (ne rfl) _
  | lists userId' record => exact view_addToCountry_of_ne redis _ (ne rfl)
  | unlists userId' countryCode => exact view_removeFromCountry_of_ne redis countryCode (ne rfl)
  | forgets userId' => exact view_setToken_of_ne redis (ne rfl) _
  | deletes recipient recipients => exact view_setToken_of_ne redis (ne rfl) _
  | removes recipient recipients => exact view_removeFromCountry_of_ne redis _ (ne rfl)

/-! ## What a command leads to -/

section Step

variable {registration : T} {stage : Stage T} {redis : Store T} {userId : String}
  {recipient : Recipient T}

theorem mem_of_mem_staleRecipients {send : List String → Option (List Bool)}
    {recipients : List (Recipient T)} (mem : recipient ∈ staleRecipients send recipients) :
    recipient ∈ recipients := by
  unfold staleRecipients at mem
  split at mem
  · cases mem
  split at mem
  · cases mem
  · obtain ⟨⟨recipient', stale⟩, listed, rfl⟩ := List.mem_map.mp mem
    exact (List.of_mem_zip (List.mem_of_mem_filter listed)).1

theorem heldBy_cleanup (recipients : List (Recipient T)) :
    heldBy (cleanup recipients) = recipients := by
  cases recipients <;> rfl

/-- A broadcast that reads on holds no more than it has read. -/
theorem mem_of_mem_heldBy_readOn {send : List String → Option (List Bool)} {userIds : List String}
    {recipients : List (Recipient T)} (mem : recipient ∈ heldBy (readOn send userIds recipients)) :
    recipient ∈ recipients := by
  cases userIds with
  | nil =>
      rw [readOn, heldBy_cleanup] at mem
      exact mem_of_mem_staleRecipients mem
  | cons userId userIds => exact mem

/-- A broadcast writes no user. -/
theorem writerOf_cleanup (recipients : List (Recipient T)) :
    writerOf (cleanup recipients) = none := by
  cases recipients <;> rfl

theorem writerOf_readOn (send : List String → Option (List Bool)) (userIds : List String)
    (recipients : List (Recipient T)) : writerOf (readOn send userIds recipients) = none := by
  cases userIds with
  | nil => exact writerOf_cleanup _
  | cons userId userIds => rfl

theorem removedBy_cleanup (recipients : List (Recipient T)) :
    removedBy (cleanup recipients) = none := by
  cases recipients <;> rfl

theorem removedBy_readOn (send : List String → Option (List Bool)) (userIds : List String)
    (recipients : List (Recipient T)) : removedBy (readOn send userIds recipients) = none := by
  cases userIds with
  | nil => exact removedBy_cleanup _
  | cons userId userIds => rfl

/-- A call changes the subject of its last command. -/
theorem subject_of_writerOf_step
    (writes : writerOf (step registration stage redis).1 = some userId) :
    stage.subject = some userId := by
  cases stage with
  | begins call =>
      cases call with
      | register userId' record =>
          simp only [step, begin] at writes
          split at writes <;> exact writes
      | unregister userId' =>
          simp only [step, begin] at writes
          split at writes <;> exact writes
      | broadcast countryCode message send =>
          rw [step, begin, writerOf_readOn] at writes
          cases writes
  | leaves userId' record old => exact writes
  | stores userId' record => exact writes
  | lists userId' record => cases writes
  | unlists userId' countryCode => exact writes
  | forgets userId' => cases writes
  | reads send userId' userIds recipients =>
      rw [step, writerOf_readOn] at writes
      cases writes
  | deletes recipient recipients => cases writes
  | removes recipient recipients =>
      rw [step, writerOf_cleanup] at writes
      cases writes

/-- A broadcast holds what it held, and what its last command has read. -/
theorem mem_heldBy_step (mem : recipient ∈ heldBy (step registration stage redis).1) :
    recipient ∈ stage.held ∨
      stage.subject = some recipient.userId ∧
        redis.tokens recipient.userId = some recipient.entry := by
  cases stage with
  | begins call =>
      cases call with
      | register userId' record =>
          simp only [step, begin] at mem
          split at mem <;> cases mem
      | unregister userId' =>
          simp only [step, begin] at mem
          split at mem <;> cases mem
      | broadcast countryCode message send =>
          cases mem_of_mem_heldBy_readOn mem
  | lists userId' record => cases mem
  | forgets userId' => cases mem
  | reads send userId' userIds recipients =>
      rcases List.mem_append.mp (mem_of_mem_heldBy_readOn mem) with before | read
      · exact .inl before
      · obtain ⟨entry, found, rfl⟩ := Option.map_eq_some_iff.mp (Option.mem_toList.mp read)
        exact .inr ⟨rfl, found⟩
  | deletes recipient' recipients => exact .inl (List.mem_cons_of_mem _ mem)
  | removes recipient' recipients =>
      rw [step, heldBy_cleanup] at mem
      exact .inl mem
  | _ => cases mem

/-- A recipient is removed whose token the last command has deleted. -/
theorem deletes_of_mem_removedBy_step
    (mem : recipient ∈ removedBy (step registration stage redis).1) :
    ∃ recipients, stage = .deletes recipient recipients := by
  cases stage with
  | begins call =>
      cases call with
      | register userId' record =>
          simp only [step, begin] at mem
          split at mem <;> cases mem
      | unregister userId' =>
          simp only [step, begin] at mem
          split at mem <;> cases mem
      | broadcast countryCode message send =>
          rw [step, begin, removedBy_readOn] at mem
          cases mem
  | reads send userId' userIds recipients =>
      rw [step, removedBy_readOn] at mem
      cases mem
  | deletes recipient' recipients =>
      obtain rfl := Option.some.inj mem
      exact ⟨recipients, rfl⟩
  | removes recipient' recipients =>
      rw [step, removedBy_cleanup] at mem
      cases mem
  | _ => cases mem

end Step

/-! ## The invariant -/

/-- What a call that changes the user has made of the view so far. -/
def Stage.Prepared (view : UserView T) : Stage T → Prop
  | .leaves _ _ old => view.countries ⊆ {old}
  | .stores _ record => view.countries ⊆ {record.countryCode}
  | .lists _ record => view.countries ⊆ {record.countryCode} ∧
      ∃ entry ∈ view.token, entry.record.countryCode = record.countryCode
  | .unlists _ countryCode => view.countries ⊆ {countryCode}
  | .forgets _ => view.countries = ∅
  | _ => True

section Invariant

variable {ι : Type} [DecidableEq ι] {s : Calls ι} {i : ι} {stage : Stage ι} {userId : String}

/-- A call that changes the user is alone with the user.  While nobody changes the
user, the record and the countries agree, up to the removals that are left. -/
structure Indexed (s : Calls ι) (userId : String) : Prop where
  alone : ∀ i j, writerOf (s.calls i) = some userId → Concerns (s.calls j) userId → j = i
  prepared : ∀ i stage, s.calls i = .inl stage → stage.writer = some userId →
    stage.Prepared (s.shared.view userId)
  held : ∀ i, ∀ recipient ∈ heldBy (s.calls i), recipient.userId = userId →
    (s.shared.view userId).token = none ∨ (s.shared.view userId).token = some recipient.entry
  removing : ∀ i, ∀ recipient ∈ removedBy (s.calls i), recipient.userId = userId →
    (s.shared.view userId).token = none
  stored : (∀ i, writerOf (s.calls i) ≠ some userId) → ∀ entry ∈ (s.shared.view userId).token,
    entry.record.countryCode ∈ (s.shared.view userId).countries
  listed : (∀ i, writerOf (s.calls i) ≠ some userId) →
    ∀ countryCode ∈ (s.shared.view userId).countries,
      (∃ entry ∈ (s.shared.view userId).token, entry.record.countryCode = countryCode) ∨
      ∃ i, ∃ recipient ∈ removedBy (s.calls i), recipient.userId = userId ∧
        recipient.entry.record.countryCode = countryCode

omit [DecidableEq ι] in
/-- A user nobody is at work on is settled. -/
theorem Indexed.settled (indexed : Indexed s userId)
    (unconcerned : ∀ i, ¬ Concerns (s.calls i) userId) : (s.shared.view userId).Settled := by
  have unwritten : ∀ i, writerOf (s.calls i) ≠ some userId := fun i writes =>
    unconcerned i (.inl writes)
  intro countryCode
  constructor
  · intro mem
    rcases indexed.listed unwritten countryCode mem with agrees | ⟨i, recipient, removed, own, -⟩
    · exact agrees
    · exact absurd (.inr (.inr ⟨recipient, removed, own⟩)) (unconcerned i)
  · rintro ⟨entry, found, rfl⟩
    exact indexed.stored unwritten entry found

omit [DecidableEq ι] in
/-- Nobody at work, and the view settled. -/
theorem indexed_of_unconcerned (unconcerned : ∀ i, ¬ Concerns (s.calls i) userId)
    (settled : (s.shared.view userId).Settled) : Indexed s userId where
  alone i _ writes := absurd (.inl writes) (unconcerned i)
  prepared i stage left writes := by
    refine absurd (.inl ?_) (unconcerned i)
    rw [left]
    exact writes
  held i recipient mem own := absurd (.inr (.inl ⟨recipient, mem, own⟩)) (unconcerned i)
  removing i recipient mem own := absurd (.inr (.inr ⟨recipient, mem, own⟩)) (unconcerned i)
  stored _ entry found := (settled _).mpr ⟨entry, found, rfl⟩
  listed _ countryCode mem := .inl ((settled countryCode).mp mem)

omit [DecidableEq ι] in
/-- One call at work, which changes the user. -/
theorem indexed_of_writer (left : s.calls i = .inl stage) (writes : stage.writer = some userId)
    (prepared : stage.Prepared (s.shared.view userId))
    (others : ∀ j, j ≠ i → ¬ Concerns (s.calls j) userId) : Indexed s userId := by
  -- nobody else is at work on the user, so every clause is about this call
  have only {j : ι} (concerns : Concerns (s.calls j) userId) : j = i := by
    by_contra other
    exact others j other concerns
  have idle : stage.held = [] ∧ stage.removing = none := by
    cases stage <;> first | exact ⟨rfl, rfl⟩ | cases writes
  have writing : writerOf (s.calls i) = some userId := by
    rw [left]
    exact writes
  refine ⟨fun a b writesA concernsB => (only concernsB).trans (only (.inl writesA)).symm, ?_, ?_,
    ?_, fun unwritten => absurd writing (unwritten i),
    fun unwritten => absurd writing (unwritten i)⟩
  · intro j stage' left' writes'
    have concerns : Concerns (s.calls j) userId := by
      refine .inl ?_
      rw [left']
      exact writes'
    obtain rfl := only concerns
    obtain rfl := Sum.inl.inj (left.symm.trans left')
    exact prepared
  · intro j recipient mem own
    obtain rfl := only (.inr (.inl ⟨recipient, mem, own⟩))
    have none : heldBy (s.calls j) = [] := by
      rw [left]
      exact idle.1
    rw [none] at mem
    cases mem
  · intro j recipient mem own
    obtain rfl := only (.inr (.inr ⟨recipient, mem, own⟩))
    have none : removedBy (s.calls j) = none := by
      rw [left]
      exact idle.2
    rw [none] at mem
    cases mem

/-! ## A command about somebody else -/

omit [DecidableEq ι] in
/-- What a command about somebody else leaves of a call's concern for a user. -/
theorem concerns_of_step (other : stage.subject ≠ some userId)
    (concerns : Concerns (step i stage s.shared).1 userId) :
    ∃ recipient ∈ stage.held, recipient.userId = userId := by
  rcases concerns with writes | ⟨recipient, mem, rfl⟩ | ⟨recipient, mem, rfl⟩
  · exact absurd (subject_of_writerOf_step writes) other
  · rcases mem_heldBy_step mem with before | ⟨subject, -⟩
    · exact ⟨recipient, before, rfl⟩
    · exact absurd subject other
  · obtain ⟨recipients, rfl⟩ := deletes_of_mem_removedBy_step mem
    exact absurd rfl other

theorem indexed_advance_of_ne (indexed : Indexed s userId) (left : s.calls i = .inl stage)
    (other : stage.subject ≠ some userId) : Indexed (Pool.advance step s i stage) userId := by
  have view : (Pool.advance step s i stage).shared.view userId = s.shared.view userId :=
    view_step_of_ne i stage s.shared other
  have concerned {j : ι} (concerns : Concerns ((Pool.advance step s i stage).calls j) userId) :
      Concerns (s.calls j) userId := by
    by_cases same : j = i
    · subst same
      rw [Pool.calls_advance_self] at concerns
      obtain ⟨recipient, held, own⟩ := concerns_of_step other concerns
      exact .inr (.inl ⟨recipient, by rw [left]; exact held, own⟩)
    · rwa [Pool.calls_advance_of_ne same] at concerns
  have writer {j : ι} :
      writerOf ((Pool.advance step s i stage).calls j) = some userId ↔
        writerOf (s.calls j) = some userId := by
    by_cases same : j = i
    · subst same
      rw [Pool.calls_advance_self, left]
      refine iff_of_false (fun writes => other (subject_of_writerOf_step writes)) fun writes => ?_
      cases stage <;> first | exact other writes | cases writes
    · rw [Pool.calls_advance_of_ne same]
  have removed {j : ι} {recipient : Recipient ι} (own : recipient.userId = userId) :
      recipient ∈ removedBy ((Pool.advance step s i stage).calls j) ↔
        recipient ∈ removedBy (s.calls j) := by
    by_cases same : j = i
    · subst same
      rw [Pool.calls_advance_self, left]
      refine iff_of_false (fun mem => ?_) fun mem => ?_
      · obtain ⟨recipients, rfl⟩ := deletes_of_mem_removedBy_step mem
        exact other (congrArg some own)
      · cases stage <;> cases mem
        exact other (congrArg some own)
    · rw [Pool.calls_advance_of_ne same]
  -- view, writers and removals are those of before, and with them each clause
  refine ⟨fun a b writes concerns => indexed.alone a b (writer.mp writes) (concerned concerns), ?_,
    ?_, ?_, ?_, ?_⟩
  · intro j stage' left' writes'
    rw [view]
    have same : j ≠ i := by
      rintro rfl
      rw [Pool.calls_advance_self] at left'
      have written : writerOf (step j stage s.shared).1 = some userId := by
        rw [left']
        exact writes'
      exact other (subject_of_writerOf_step written)
    rw [Pool.calls_advance_of_ne same] at left'
    exact indexed.prepared j stage' left' writes'
  · intro j recipient mem own
    rw [view]
    by_cases same : j = i
    · subst same
      rw [Pool.calls_advance_self] at mem
      rcases mem_heldBy_step mem with before | ⟨subject, -⟩
      · exact indexed.held j recipient (by rw [left]; exact before) own
      · exact absurd (subject.trans (congrArg some own)) other
    · rw [Pool.calls_advance_of_ne same] at mem
      exact indexed.held j recipient mem own
  · intro j recipient mem own
    rw [view]
    exact indexed.removing j recipient ((removed own).mp mem) own
  · intro unwritten
    rw [view]
    exact indexed.stored fun j writes => unwritten j (writer.mpr writes)
  · intro unwritten countryCode mem
    rw [view] at mem ⊢
    have quiet := fun j writes => unwritten j (writer.mpr writes)
    refine (indexed.listed quiet countryCode mem).imp_right ?_
    rintro ⟨j, recipient, mem', own, country⟩
    exact ⟨j, recipient, (removed own).mpr mem', own, country⟩

/-! ## A command about the user -/

/-- The call that changes the user is the only one at work on the user. -/
theorem others_of_writer (indexed : Indexed s userId) (left : s.calls i = .inl stage)
    (writes : stage.writer = some userId) :
    ∀ j, j ≠ i → ¬ Concerns ((Pool.advance step s i stage).calls j) userId := by
  intro j other concerns
  rw [Pool.calls_advance_of_ne other] at concerns
  refine other (indexed.alone i j ?_ concerns)
  rw [left]
  exact writes

/-- A call that returns is not at work on anybody. -/
theorem unconcerned_of_return (returned : (step i stage s.shared).1 = .inr ())
    (others : ∀ j, j ≠ i → ¬ Concerns ((Pool.advance step s i stage).calls j) userId) (j : ι) :
    ¬ Concerns ((Pool.advance step s i stage).calls j) userId := by
  by_cases same : j = i
  · subst same
    rw [Pool.calls_advance_self, returned]
    rintro (writes | ⟨recipient, mem, -⟩ | ⟨recipient, mem, -⟩)
    · cases writes
    · cases mem
    · cases mem
  · exact others j same

/-- **A change of the user begins.** -/
theorem indexed_advance_begins (indexed : Indexed s userId) {call : Call}
    (left : s.calls i = .inl (.begins call)) (subject : (Stage.begins call : Stage ι).subject =
      some userId) (exclusive : ∀ j, ¬ Concerns (s.calls j) userId) :
    Indexed (Pool.advance step s i (.begins call)) userId := by
  have settled := indexed.settled exclusive
  have others : ∀ j, j ≠ i →
      ¬ Concerns ((Pool.advance step s i (.begins call)).calls j) userId := by
    intro j other
    rw [Pool.calls_advance_of_ne other]
    exact exclusive j
  cases call with
  | broadcast countryCode message send => cases subject
  | register user record =>
      obtain rfl := Option.some.inj subject
      cases moved : NotificationService.leaves (s.shared.tokens user) record.countryCode with
      | some old =>
          have next : (step i (.begins (.register user record)) s.shared).1 =
              .inl (.leaves user record old) := by
            simp only [step, begin, moved]
          refine indexed_of_writer (Pool.calls_advance_self.trans next) rfl ?_ others
          intro countryCode mem
          obtain ⟨entry, found, rfl⟩ := (settled countryCode).mp mem
          -- the one country of before is the one that is left
          have country := (Option.filter_eq_some_iff.mp moved).1
          rw [show s.shared.tokens user = some entry from found] at country
          exact Option.some.inj country
      | none =>
          have next : (step i (.begins (.register user record)) s.shared).1 =
              .inl (.stores user record) := by
            simp only [step, begin, moved]
          refine indexed_of_writer (Pool.calls_advance_self.trans next) rfl ?_ others
          intro countryCode mem
          obtain ⟨entry, found, rfl⟩ := (settled countryCode).mp mem
          -- nothing is to be left: the stored country is the record's own
          rw [show s.shared.tokens user = some entry from found] at moved
          simpa [NotificationService.leaves] using moved
  | unregister user =>
      obtain rfl := Option.some.inj subject
      cases stored : s.shared.tokens user with
      | some entry =>
          have next : (step i (.begins (.unregister user)) s.shared).1 =
              .inl (.unlists user entry.record.countryCode) := by
            simp only [step, begin, stored]
          refine indexed_of_writer (Pool.calls_advance_self.trans next) rfl ?_ others
          intro countryCode mem
          obtain ⟨entry', found, rfl⟩ := (settled countryCode).mp mem
          obtain rfl := Option.some.inj (stored.symm.trans found)
          exact rfl
      | none =>
          have next : (step i (.begins (.unregister user)) s.shared).1 = .inl (.forgets user) := by
            simp only [step, begin, stored]
          refine indexed_of_writer (Pool.calls_advance_self.trans next) rfl ?_ others
          refine Set.eq_empty_of_forall_notMem fun countryCode mem => ?_
          obtain ⟨entry, found, -⟩ := (settled countryCode).mp mem
          cases stored.symm.trans found

/-- **A change of the user goes on**, or ends. -/
theorem indexed_advance_writer (indexed : Indexed s userId) (left : s.calls i = .inl stage)
    (writes : stage.writer = some userId) : Indexed (Pool.advance step s i stage) userId := by
  have prepared := indexed.prepared i stage left writes
  have others := others_of_writer indexed left writes
  cases stage with
  | leaves user record old =>
      obtain rfl := Option.some.inj writes
      refine indexed_of_writer Pool.calls_advance_self rfl ?_ others
      rw [Pool.shared_advance, step, view_removeFromCountry_self]
      rintro countryCode ⟨mem, other⟩
      exact absurd (prepared mem) other
  | stores user record =>
      obtain rfl := Option.some.inj writes
      refine indexed_of_writer Pool.calls_advance_self rfl ?_ others
      rw [Pool.shared_advance, step, view_setToken_self]
      exact ⟨prepared, ⟨record, i⟩, rfl, rfl⟩
  | lists user record =>
      obtain rfl := Option.some.inj writes
      refine indexed_of_unconcerned (unconcerned_of_return rfl others) ?_
      rw [Pool.shared_advance, step, view_addToCountry_self]
      -- the last command: the countries are again what the token says
      obtain ⟨within, entry, found, country⟩ := prepared
      intro countryCode
      constructor
      · rintro (rfl | mem)
        · exact ⟨entry, found, country⟩
        · exact ⟨entry, found, country.trans (within mem).symm⟩
      · rintro ⟨entry', found', rfl⟩
        obtain rfl := Option.some.inj (found.symm.trans found')
        exact .inl country
  | unlists user countryCode =>
      obtain rfl := Option.some.inj writes
      refine indexed_of_writer Pool.calls_advance_self rfl ?_ others
      rw [Pool.shared_advance, step, view_removeFromCountry_self]
      exact Set.sdiff_eq_empty.mpr prepared
  | forgets user =>
      obtain rfl := Option.some.inj writes
      refine indexed_of_unconcerned (unconcerned_of_return rfl others) ?_
      rw [Pool.shared_advance, step, view_setToken_self]
      intro countryCode
      refine iff_of_false ?_ (by rintro ⟨entry, found, -⟩; cases found)
      intro mem
      have none : countryCode ∈ (∅ : Set String) := prepared ▸ mem
      exact none
  | _ => cases writes

/-- **A broadcast reads the user**, whom nobody is changing. -/
theorem indexed_advance_reads (indexed : Indexed s userId)
    {send : List String → Option (List Bool)} {userIds : List String}
    {recipients : List (Recipient ι)}
    (left : s.calls i = .inl (.reads send userId userIds recipients))
    (exclusive : ∀ j, writerOf (s.calls j) ≠ some userId) :
    Indexed (Pool.advance step s i (.reads send userId userIds recipients)) userId := by
  have unwritten (j : ι) : writerOf ((Pool.advance step s i (.reads send userId userIds
      recipients)).calls j) ≠ some userId := by
    by_cases same : j = i
    · subst same
      rw [Pool.calls_advance_self, step, writerOf_readOn]
      exact Option.some_ne_none userId |>.symm
    · rw [Pool.calls_advance_of_ne same]
      exact exclusive j
  have removed (j : ι) : removedBy ((Pool.advance step s i (.reads send userId userIds
      recipients)).calls j) = removedBy (s.calls j) := by
    by_cases same : j = i
    · subst same
      rw [Pool.calls_advance_self, step, removedBy_readOn, left]
      rfl
    · rw [Pool.calls_advance_of_ne same]
  -- only what is held is new, and it has just been read
  refine ⟨fun j _ writes => absurd writes (unwritten j), ?_, ?_, ?_,
    fun _ => indexed.stored exclusive, fun _ => ?_⟩
  · intro j stage' left' writes
    refine absurd ?_ (unwritten j)
    rw [left']
    exact writes
  · intro j recipient mem own
    by_cases same : j = i
    · subst same
      rw [Pool.calls_advance_self] at mem
      rcases mem_heldBy_step mem with before | ⟨-, found⟩
      · exact indexed.held j recipient (by rw [left]; exact before) own
      · exact .inr (own ▸ found)
    · rw [Pool.calls_advance_of_ne same] at mem
      exact indexed.held j recipient mem own
  · intro j recipient mem own
    exact indexed.removing j recipient (removed j ▸ mem) own
  · simp only [removed]
    exact indexed.listed exclusive

omit [DecidableEq ι] in
/-- While a broadcast is at work on a user, nobody changes the user. -/
theorem unwritten_of_broadcast (indexed : Indexed s userId) (left : s.calls i = .inl stage)
    (broadcasts : stage.writer = none) (concerns : Concerns (.inl stage) userId) (j : ι) :
    writerOf (s.calls j) ≠ some userId := by
  intro writes
  obtain rfl := indexed.alone j i writes (left ▸ concerns)
  rw [left] at writes
  cases broadcasts.symm.trans writes

omit [DecidableEq ι] in
/-- A user without a token, whom nobody changes, while the countries that are left are to
be removed. -/
theorem indexed_of_token_none (unwritten : ∀ j, writerOf (s.calls j) ≠ some userId)
    (gone : (s.shared.view userId).token = none)
    (removed : ∀ countryCode ∈ (s.shared.view userId).countries,
      ∃ j, ∃ recipient ∈ removedBy (s.calls j), recipient.userId = userId ∧
        recipient.entry.record.countryCode = countryCode) : Indexed s userId where
  alone j _ writes := absurd writes (unwritten j)
  prepared j stage left writes := by
    refine absurd ?_ (unwritten j)
    rw [left]
    exact writes
  held _ _ _ _ := .inl gone
  removing _ _ _ _ := gone
  stored _ entry found := by
    rw [gone] at found
    cases found
  listed _ countryCode mem := .inr (removed countryCode mem)

/-- **A broadcast deletes the token** it has read. -/
theorem indexed_advance_deletes (indexed : Indexed s userId) {recipient : Recipient ι}
    {recipients : List (Recipient ι)} (own : recipient.userId = userId)
    (left : s.calls i = .inl (.deletes recipient recipients)) :
    Indexed (Pool.advance step s i (.deletes recipient recipients)) userId := by
  subst own
  have before := unwritten_of_broadcast indexed left rfl
    (.inr (.inl ⟨recipient, List.mem_cons_self, rfl⟩))
  have unwritten (j : ι) : writerOf ((Pool.advance step s i (.deletes recipient
      recipients)).calls j) ≠ some recipient.userId := by
    by_cases same : j = i
    · subst same
      rw [Pool.calls_advance_self]
      exact Option.some_ne_none _ |>.symm
    · rw [Pool.calls_advance_of_ne same]
      exact before j
  have view : (Pool.advance step s i (.deletes recipient recipients)).shared.view
      recipient.userId = (s.shared.view recipient.userId).setToken none := by
    rw [Pool.shared_advance, step, view_setToken_self]
  refine indexed_of_token_none unwritten (by rw [view]; rfl) fun countryCode mem => ?_
  rw [view] at mem
  -- a country that is left is that of the deleted token, or to be removed already
  rcases indexed.listed before countryCode mem with ⟨entry, found, country⟩ | ⟨j, recipient',
    removed, own, country⟩
  · rcases indexed.held i recipient (by rw [left]; exact List.mem_cons_self) rfl with none | read
    · cases none.symm.trans found
    · obtain rfl := Option.some.inj (read.symm.trans found)
      refine ⟨i, recipient, ?_, rfl, country⟩
      rw [Pool.calls_advance_self]
      rfl
  · refine ⟨j, recipient', ?_, own, country⟩
    have other : j ≠ i := by
      rintro rfl
      rw [left] at removed
      cases removed
    rwa [Pool.calls_advance_of_ne other]

/-- **A broadcast removes the user** whose token it has deleted from the country. -/
theorem indexed_advance_removes (indexed : Indexed s userId) {recipient : Recipient ι}
    {recipients : List (Recipient ι)} (own : recipient.userId = userId)
    (left : s.calls i = .inl (.removes recipient recipients)) :
    Indexed (Pool.advance step s i (.removes recipient recipients)) userId := by
  subst own
  have before := unwritten_of_broadcast indexed left rfl (.inr (.inr ⟨recipient, rfl, rfl⟩))
  have unwritten (j : ι) : writerOf ((Pool.advance step s i (.removes recipient
      recipients)).calls j) ≠ some recipient.userId := by
    by_cases same : j = i
    · subst same
      rw [Pool.calls_advance_self, step, writerOf_cleanup]
      exact Option.some_ne_none _ |>.symm
    · rw [Pool.calls_advance_of_ne same]
      exact before j
  have gone : (s.shared.view recipient.userId).token = none :=
    indexed.removing i recipient (by rw [left]; rfl) rfl
  have view : (Pool.advance step s i (.removes recipient recipients)).shared.view
      recipient.userId =
        (s.shared.view recipient.userId).remove recipient.entry.record.countryCode := by
    rw [Pool.shared_advance, step, view_removeFromCountry_self]
  refine indexed_of_token_none unwritten (by rw [view]; exact gone) fun countryCode mem => ?_
  rw [view] at mem
  obtain ⟨listed, elsewhere⟩ := mem
  rcases indexed.listed before countryCode listed with
    ⟨entry, found, -⟩ | ⟨j, recipient', removed, own, country⟩
  · cases gone.symm.trans found
  · have other : j ≠ i := by
      rintro rfl
      rw [left] at removed
      obtain rfl := Option.some.inj removed
      exact elsewhere country.symm
    refine ⟨j, recipient', ?_, own, country⟩
    rwa [Pool.calls_advance_of_ne other]

/-! ## Runs -/

/-- **One command**, of a call that excludes the others. -/
theorem indexed_advance (indexed : Indexed s userId) (left : s.calls i = .inl stage)
    (exclusive : StageExclusive s stage) : Indexed (Pool.advance step s i stage) userId := by
  by_cases subject : stage.subject = some userId
  · cases stage with
    | begins call =>
        refine indexed_advance_begins indexed left subject ?_
        cases call with
        | broadcast countryCode message send => cases subject
        | register user record => exact Option.some.inj subject ▸ exclusive
        | unregister user => exact Option.some.inj subject ▸ exclusive
    | reads send user userIds recipients =>
        obtain rfl := Option.some.inj subject
        exact indexed_advance_reads indexed left exclusive
    | deletes recipient recipients =>
        exact indexed_advance_deletes indexed (Option.some.inj subject) left
    | removes recipient recipients =>
        exact indexed_advance_removes indexed (Option.some.inj subject) left
    | _ => exact indexed_advance_writer indexed left subject
  · exact indexed_advance_of_ne indexed left subject

omit [DecidableEq ι] in
theorem indexed_start (calls : ι → Call) : Indexed (start calls) userId := by
  refine indexed_of_unconcerned (fun i concerns => ?_) fun countryCode => ?_
  · rcases concerns with writes | ⟨recipient, mem, -⟩ | ⟨recipient, mem, -⟩
    · cases writes
    · cases mem
    · cases mem
  · refine iff_of_false (fun mem => ?_) fun ⟨entry, found, _⟩ => ?_
    · cases mem
    · cases found

theorem indexed_run (calls : ι → Call) (moves : List (Pool.Move ι Empty))
    (exclusive : machine.Along Exclusive (start calls) moves) (userId : String) :
    Indexed (machine.run (start calls) moves) userId :=
  Pool.openMachine_invariant (I := fun s => Indexed s userId) (indexed_start calls)
    (fun _ _ _ indexed exclusive left =>
      indexed_advance indexed left (exclusive _ (Sum.getLeft?_eq_some_iff.mpr left)))
    (fun _ action _ _ => action.elim) moves exclusive

omit [DecidableEq ι] in
theorem not_concerns_of_idle {left : Stage ι ⊕ Unit} (idle : Idle left) :
    ¬ Concerns left userId := by
  match left, idle with
  | .inl (.begins call), _ =>
      rintro (writes | ⟨recipient, mem, -⟩ | ⟨recipient, mem, -⟩)
      · cases writes
      · cases mem
      · cases mem
  | .inr (), _ =>
      rintro (writes | ⟨recipient, mem, -⟩ | ⟨recipient, mem, -⟩)
      · cases writes
      · cases mem
      · cases mem

end Invariant

/-- **The index is consistent** when all calls have finished, and a broadcast
deletes no token but the one it has read, in the runs of exclusive calls. -/
theorem consistent_of_exclusive {ι : Type} [DecidableEq ι] (calls : ι → Call)
    (moves : List (Pool.Move ι Empty))
    (exclusive : machine.Along Exclusive (start calls) moves) :
    ((∀ i, Idle ((machine.run (start calls) moves).calls i)) → ∀ userId countryCode,
      userId ∈ (machine.run (start calls) moves).shared.countries countryCode ↔
        ∃ entry ∈ (machine.run (start calls) moves).shared.tokens userId,
          entry.record.countryCode = countryCode) ∧
    ∀ done rest, moves = done ++ rest → ∀ i recipient recipients,
      (machine.run (start calls) done).calls i = .inl (.deletes recipient recipients) →
        ∀ entry ∈ (machine.run (start calls) done).shared.tokens recipient.userId,
          entry = recipient.entry := by
  constructor
  · intro idle userId
    exact (indexed_run calls moves exclusive userId).settled fun i => not_concerns_of_idle (idle i)
  · rintro done rest rfl i recipient recipients left entry found
    have indexed := indexed_run calls done ((Machine.along_append _ _ _).mp exclusive).1
      recipient.userId
    rcases indexed.held i recipient (by rw [left]; exact List.mem_cons_self) rfl with none | read
    · cases none.symm.trans found
    · exact Option.some.inj (found.symm.trans read)

/-! ## A user who moves, and a token that is renewed -/

/-- The token the sample user registers first. -/
def oldToken : TokenRecord := ⟨"old", .android, "GB"⟩

/-- The token the sample user registers next. -/
def newToken : TokenRecord := ⟨"new", .android, "GB"⟩

/-- The first token, registered from another country. -/
def movedToken : TokenRecord := ⟨"old", .android, "NG"⟩

/-- Registrations of one user, in a country, in another one and with a new token,
and a broadcast that finds the old token stale. -/
def sampleCalls : Fin 4 → Call
  | 0 => .register "voter" oldToken
  | 1 => .register "voter" movedToken
  | 2 => .register "voter" newToken
  | 3 => .broadcast "GB" (notifyPolicyOpened "pol-001" "NHS Funding Increase") fun _ tokens =>
      some (tokens.map (· = "old"))

/-- Commands of the calls, in the order of the list. -/
def commands (order : List (Fin 4)) : List (Pool.Move (Fin 4) Empty) := order.map .call

/-- One call after the other. -/
def inTurn : List (Pool.Move (Fin 4) Empty) := commands [0, 0, 0, 3, 3, 3, 3, 2, 2, 2, 1, 1, 1, 1]

theorem consistent_of_exclusive_sample :
    ((∀ i, Idle ((machine.run (start sampleCalls) inTurn).calls i)) → ∀ userId countryCode,
      userId ∈ (machine.run (start sampleCalls) inTurn).shared.countries countryCode ↔
        ∃ entry ∈ (machine.run (start sampleCalls) inTurn).shared.tokens userId,
          entry.record.countryCode = countryCode) ∧
    ∀ done rest, inTurn = done ++ rest → ∀ i recipient recipients,
      (machine.run (start sampleCalls) done).calls i = .inl (.deletes recipient recipients) →
        ∀ entry ∈ (machine.run (start sampleCalls) done).shared.tokens recipient.userId,
          entry = recipient.entry :=
  consistent_of_exclusive sampleCalls inTurn (by decide)

/-- Two registrations that both read before they write leave the user listed in a
country the record does not name. -/
def bothRead : List (Pool.Move (Fin 4) Empty) := commands [0, 1, 0, 0, 1, 1]

/-- The token is renewed between the broadcast's reading and its cleanup. -/
def renewed : List (Pool.Move (Fin 4) Empty) := commands [0, 0, 0, 3, 3, 2, 2, 2]

theorem consistent_counterexample :
    ((∀ i, Idle ((machine.run (start sampleCalls) bothRead).calls i)) ∧
      "voter" ∈ (machine.run (start sampleCalls) bothRead).shared.countries "GB" ∧
      (machine.run (start sampleCalls) bothRead).shared.tokens "voter" = some ⟨movedToken, 1⟩) ∧
    (machine.run (start sampleCalls) renewed).calls 3 =
      .inl (.deletes ⟨"voter", ⟨oldToken, 0⟩⟩ []) ∧
    (machine.run (start sampleCalls) renewed).shared.tokens "voter" = some ⟨newToken, 2⟩ := by
  refine ⟨⟨?_, ?_, ?_⟩, ?_, ?_⟩
  · decide
  · decide
  · decide
  · rfl
  · decide

end TheVoteApp.NotificationService
