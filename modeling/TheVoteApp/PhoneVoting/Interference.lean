import TheVoteApp.Foundations.Machine
import TheVoteApp.PhoneVoting.Sms

/-!
# Votes of different numbers

A nullifier is the hash of the number, the policy and the salt, written one
after the other.  Where the number ends is not marked: a longer policy after a
shorter number is the same text, and `A` can spend the nullifier of a vote that
`B` has not cast.

Apart from such a text, shared by a vote of `A` and a later vote of `B` and not
spent by anyone else, `A` has no influence on the votes of `B`.

## Main definitions

* `voteText` — the text a vote is hashed from, without the salt
* `outcomesOf` — what happens to the messages of one number
* `Separated` — no vote of `B` meets a text that only `A` has spent
-/

namespace TheVoteApp.SMSVoteService

open Foundations JavaScript Redis

/-- Whether a vote was recorded, or refused as cast already; `none` where the
message was no vote. -/
def Reply.vote : Reply → Option Bool
  | .recorded _ _ _ _ => some true
  | .alreadyVoted _ => some false
  | _ => none

section Messages

variable (sha256 toUpperCase : String → String) (config : Config)

/-- The number and the policy of a message that votes, one after the other. -/
def voteText (message : Message) : Option String :=
  if ¬ Permits config message.phone then none
  else
    match words toUpperCase message.body with
    | "VOTE" :: policyId :: optionRaw :: _ =>
      if (property optionMap optionRaw).isSome then some (message.phone ++ policyId) else none
    | _ => none

/-- The nullifier of a text. -/
def nullifierOf (text : String) : String := "0x" ++ sha256 (text ++ config.salt)

/-- The service, one message after the other. -/
def machine : Machine (Database Unit) Message (Message × Reply) Unit where
  call redis message :=
    let handled := (handleInbound sha256 toUpperCase config message.phone message.body).run exec
      redis
    .ok (handled.2, [(message, handled.1)])

/-- What happens to each message of a number. -/
def outcomesOf (number : String) (redis : Database Unit) (messages : List Message) :
    List (Option Bool) :=
  ((machine sha256 toUpperCase config).events redis messages).filterMap fun entry =>
    if entry.1.phone = number then some entry.2.vote else none

end Messages

variable {sha256 toUpperCase : String → String} {config : Config}

/-! ## One message -/

/-- A message votes, or is answered without a command and not as a vote. -/
theorem handleInbound_cases (message : Message) :
    (∃ policyId optionRaw rest optionId, Permits config message.phone ∧
      words toUpperCase message.body = "VOTE" :: policyId :: optionRaw :: rest ∧
      property optionMap optionRaw = some optionId ∧
      handleInbound sha256 toUpperCase config message.phone message.body =
        handleVote sha256 config message.phone policyId optionRaw) ∨
    (∃ reply, reply.vote = none ∧
      handleInbound sha256 toUpperCase config message.phone message.body = .done reply) ∧
      ∀ policyId optionRaw rest, Permits config message.phone →
        words toUpperCase message.body = "VOTE" :: policyId :: optionRaw :: rest →
          property optionMap optionRaw = none := by
  unfold handleInbound
  by_cases permits : Permits config message.phone
  swap
  · rw [if_pos permits]
    exact .inr ⟨⟨.unavailable, rfl, rfl⟩, fun _ _ _ permits' => absurd permits' permits⟩
  rw [if_neg (not_not.mpr permits)]
  split
  · rename_i command
    exact .inr ⟨⟨.help, rfl, rfl⟩, fun _ _ _ _ same => by simp [command] at same⟩
  · rename_i txHash rest command
    refine .inr ⟨?_, fun _ _ _ _ same => by simp [command] at same⟩
    split
    · exact ⟨.unrecognised, rfl, rfl⟩
    · exact ⟨.checking txHash, rfl, rfl⟩
  · rename_i policyId optionRaw rest command
    cases known : property optionMap optionRaw with
    | none =>
        refine .inr ⟨⟨.unknownOption optionRaw, rfl, ?_⟩, fun _ optionRaw' _ _ same => ?_⟩
        · rw [handleVote, known]
          rfl
        · obtain ⟨-, rfl, -⟩ : policyId = _ ∧ optionRaw = optionRaw' ∧ rest = _ := by
            simpa [command] using same
          exact known
    | some optionId =>
        exact .inl ⟨policyId, optionRaw, rest, optionId, permits, command, known, rfl⟩
  · rename_i noVote
    exact .inr ⟨⟨.unrecognised, rfl, rfl⟩, fun _ _ _ _ same => (noVote _ _ _ same).elim⟩

/-- **What one message does.**  A vote adds its nullifier, and is recorded if the
nullifier was missing; any other message does nothing. -/
theorem run_handleInbound (redis : Database Unit) (message : Message) :
    (((handleInbound sha256 toUpperCase config message.phone message.body).run exec redis).2 =
      match voteText toUpperCase config message with
      | some text => redis.addMember nullifiersKey (nullifierOf sha256 config text)
      | none => redis) ∧
    ((handleInbound sha256 toUpperCase config message.phone message.body).run exec redis).1.vote =
      (voteText toUpperCase config message).map fun text =>
        !redis.sets nullifiersKey (nullifierOf sha256 config text) := by
  rcases @handleInbound_cases sha256 toUpperCase config message with
    ⟨policyId, optionRaw, rest, optionId, permits, command, known, handled⟩ |
    ⟨⟨reply, noVote, handled⟩, unknown⟩
  · have votes : voteText toUpperCase config message = some (message.phone ++ policyId) := by
      simp [voteText, permits, command, known]
    have nullifier : deriveNullifier sha256 config message.phone policyId =
        nullifierOf sha256 config (message.phone ++ policyId) := rfl
    rw [handled, run_handleVote known, votes, nullifier, Option.map_some]
    cases spent : redis.sets nullifiersKey
        (nullifierOf sha256 config (message.phone ++ policyId)) with
    | true => exact ⟨(Database.addMember_of_mem spent).symm, rfl⟩
    | false => exact ⟨rfl, rfl⟩
  · have silent : voteText toUpperCase config message = none := by
      unfold voteText
      split
      · rfl
      · rename_i permits
        split
        · rename_i command
          simp [unknown _ _ _ (not_not.mp permits) command]
        · rfl
    rw [handled, silent]
    exact ⟨rfl, noVote⟩

theorem next_eq (redis : Database Unit) (message : Message) :
    (machine sha256 toUpperCase config).next redis message =
      match voteText toUpperCase config message with
      | some text => redis.addMember nullifiersKey (nullifierOf sha256 config text)
      | none => redis := (run_handleInbound redis message).1

/-! ## Many messages -/

/-- The nullifiers spent are those of the votes. -/
theorem sets_run_iff (redis : Database Unit) (messages : List Message) (nullifier : String) :
    ((machine sha256 toUpperCase config).run redis messages).sets nullifiersKey nullifier = true ↔
      redis.sets nullifiersKey nullifier = true ∨ ∃ message ∈ messages,
        ∃ text, voteText toUpperCase config message = some text ∧
          nullifierOf sha256 config text = nullifier := by
  induction messages generalizing redis with
  | nil => simp
  | cons message messages ih =>
      rw [Machine.run_cons, ih, next_eq]
      cases vote : voteText toUpperCase config message with
      | none => simp [vote]
      | some text =>
          simp only [redis.sets_addMember_self, List.exists_mem_cons_iff, vote, Option.some.injEq,
            exists_eq_left']
          rw [eq_comm (a := nullifier), or_comm (a := nullifierOf sha256 config text = nullifier),
            or_assoc]

/-- The outcomes of a number, message by message. -/
theorem outcomesOf_cons (number : String) (redis : Database Unit) (message : Message)
    (messages : List Message) :
    outcomesOf sha256 toUpperCase config number redis (message :: messages) =
      (if message.phone = number then
        [(voteText toUpperCase config message).map fun text =>
          !redis.sets nullifiersKey (nullifierOf sha256 config text)] else []) ++
      outcomesOf sha256 toUpperCase config number
        ((machine sha256 toUpperCase config).next redis message) messages := by
  have emitted : (machine sha256 toUpperCase config).emitted redis message =
      [(message, ((handleInbound sha256 toUpperCase config message.phone message.body).run exec
        redis).1)] := rfl
  rw [outcomesOf, Machine.events, emitted, List.filterMap_append, outcomesOf]
  congr 1
  by_cases own : message.phone = number
  · simp [own, ← (run_handleInbound redis message).2]
  · simp [own]

/-- A condition on every place of a list, the first place apart. -/
theorem forall_split_cons {α : Type} {P : List α → α → Prop} (first : α) (list : List α) :
    (∀ done x rest, first :: list = done ++ x :: rest → P done x) ↔
      P [] first ∧ ∀ done x rest, list = done ++ x :: rest → P (first :: done) x := by
  constructor
  · intro all
    exact ⟨all [] first list rfl, fun done x rest split =>
      all (first :: done) x rest (by rw [split, List.cons_append])⟩
  · rintro ⟨now, later⟩ done x rest split
    cases done with
    | nil =>
        obtain ⟨rfl, -⟩ := List.cons.inj split
        exact now
    | cons head done =>
        obtain ⟨rfl, rest'⟩ := List.cons.inj split
        exact later done x rest rest'

/-! ## Without the messages of `A` -/

section Interference

variable (sha256 toUpperCase : String → String) (config : Config) (A B : String)

/-- The messages of other numbers. -/
def without (messages : List Message) : List Message :=
  messages.filter fun message => message.phone ≠ A

/-- Every vote of `B` whose text `A` has voted with before finds the nullifier
spent without `A` as well: from the start, or by a vote of another number. -/
def Separated (redis : Database Unit) (messages : List Message) : Prop :=
  ∀ done message rest, messages = done ++ message :: rest → message.phone = B →
    ∀ text, voteText toUpperCase config message = some text →
      (∃ a ∈ done, a.phone = A ∧ voteText toUpperCase config a = some text) →
      redis.sets nullifiersKey (nullifierOf sha256 config text) = true ∨
        ∃ c ∈ done, c.phone ≠ A ∧ voteText toUpperCase config c = some text

variable {sha256 toUpperCase config A B}

/-- Two runs, one with and one without the messages of `A`, treat the messages
of `B` alike when each of its votes finds its nullifier in the same state. -/
theorem outcomesOf_without_iff (distinct : A ≠ B) (reduced full : Database Unit)
    (messages : List Message) :
    outcomesOf sha256 toUpperCase config B reduced (without A messages) =
        outcomesOf sha256 toUpperCase config B full messages ↔
      ∀ done message rest, messages = done ++ message :: rest → message.phone = B →
        ∀ text, voteText toUpperCase config message = some text →
          ((machine sha256 toUpperCase config).run reduced (without A done)).sets nullifiersKey
              (nullifierOf sha256 config text) =
            ((machine sha256 toUpperCase config).run full done).sets nullifiersKey
              (nullifierOf sha256 config text) := by
  induction messages generalizing reduced full with
  | nil => simp [without, outcomesOf, Machine.events]
  | cons message messages ih =>
      rw [forall_split_cons]
      -- the message is dropped in the one run and does not count for `B` in the other
      by_cases fromA : message.phone = A
      · have notB : message.phone ≠ B := fun same => distinct (fromA.symm.trans same)
        have dropped : ∀ list, without A (message :: list) = without A list := fun list => by
          simp [without, fromA]
        rw [dropped, outcomesOf_cons, if_neg notB, List.nil_append, ih]
        simp only [dropped, Machine.run_cons]
        exact (and_iff_right fun same => absurd same notB).symm
      · have kept (list : List Message) :
            without A (message :: list) = message :: without A list := by
          simp [without, fromA]
        rw [kept, outcomesOf_cons, outcomesOf_cons]
        simp only [kept, Machine.run_cons]
        by_cases own : message.phone = B
        · rw [if_pos own, if_pos own, List.singleton_append, List.singleton_append,
            List.cons.injEq, ih]
          refine and_congr_left' ?_
          cases vote : voteText toUpperCase config message with
          | none => simp
          | some text => simp [own, without]
        · rw [if_neg own, if_neg own, List.nil_append, List.nil_append, ih]
          exact (and_iff_right fun same => absurd same own).symm

/-- What the votes among some messages hash. -/
def hashInputs (toUpperCase : String → String) (config : Config) (messages : List Message) :
    Set String :=
  {input | ∃ message ∈ messages, ∃ text,
    voteText toUpperCase config message = some text ∧ input = text ++ config.salt}

/-- Without collisions a nullifier is spent by the votes of its text. -/
theorem spent_iff {messages done : List Message} {text : String} {message : Message}
    (collisionFree : Set.InjOn sha256 (hashInputs toUpperCase config messages))
    (among : ∀ message ∈ done, message ∈ messages) (sent : message ∈ messages)
    (vote : voteText toUpperCase config message = some text) (redis : Database Unit) :
    ((machine sha256 toUpperCase config).run redis done).sets nullifiersKey
        (nullifierOf sha256 config text) = true ↔
      redis.sets nullifiersKey (nullifierOf sha256 config text) = true ∨
        ∃ message ∈ done, voteText toUpperCase config message = some text := by
  rw [sets_run_iff]
  refine or_congr_right (exists_congr fun other => and_congr_right fun mem => ?_)
  constructor
  · rintro ⟨text', vote', same⟩
    have sameInput := collisionFree ⟨other, among other mem, text', vote', rfl⟩
      ⟨message, sent, text, vote, rfl⟩ ((String.append_right_inj "0x").mp same)
    rwa [(String.append_left_inj config.salt).mp sameInput] at vote'
  · intro vote'
    exact ⟨text, vote', rfl⟩

end Interference

/-- **Interference.**  Removing the messages of `A` leaves the outcome of every
message of `B` as it was if and only if no vote of `B` meets a text that only
`A` has spent. -/
theorem outcomesOf_without_iff_separated {sha256 : String → String}
    (toUpperCase : String → String) {config : Config} {A B : String} (distinct : A ≠ B)
    (redis : Database Unit) {messages : List Message}
    (collisionFree : Set.InjOn sha256 (hashInputs toUpperCase config messages)) :
    outcomesOf sha256 toUpperCase config B redis (without A messages) =
        outcomesOf sha256 toUpperCase config B redis messages ↔
      Separated sha256 toUpperCase config A B redis messages := by
  rw [outcomesOf_without_iff distinct]
  refine forall_congr' fun done => forall_congr' fun message => forall_congr' fun rest =>
    forall_congr' fun split => forall_congr' fun own => forall_congr' fun text =>
      forall_congr' fun vote => ?_
  have sent : message ∈ messages := by simp [split]
  have among : ∀ other ∈ done, other ∈ messages := by
    intro other mem
    simp [split, mem]
  have amongRest : ∀ other ∈ without A done, other ∈ messages := fun other mem =>
    among other (List.mem_of_mem_filter mem)
  rw [Bool.eq_iff_iff, spent_iff collisionFree amongRest sent vote,
    spent_iff collisionFree among sent vote]
  simp only [without, List.mem_filter, decide_eq_true_eq, ne_eq]
  constructor
  · rintro same ⟨a, memA, -, voteA⟩
    rcases same.mpr (.inr ⟨a, memA, voteA⟩) with spent | ⟨c, ⟨memC, otherC⟩, voteC⟩
    · exact Or.inl spent
    · exact Or.inr ⟨c, memC, otherC, voteC⟩
  · intro separated
    constructor
    · rintro (spent | ⟨c, ⟨memC, -⟩, voteC⟩)
      · exact Or.inl spent
      · exact Or.inr ⟨c, memC, voteC⟩
    · rintro (spent | ⟨c, memC, voteC⟩)
      · exact Or.inl spent
      · by_cases fromA : c.phone = A
        -- the text of `A` is also spent by somebody else
        · rcases separated ⟨c, memC, fromA, voteC⟩ with spent | ⟨d, memD, otherD, voteD⟩
          · exact Or.inl spent
          · exact Or.inr ⟨d, ⟨memD, otherD⟩, voteD⟩
        · exact Or.inr ⟨c, ⟨memC, fromA⟩, voteC⟩

/-! ## A longer policy after a shorter number -/

/-- Two numbers, of which one continues the other, voting on the policies that
make up the difference. -/
def sampleMessages : List Message :=
  [⟨"+44770090012", "VOTE 3POL-001 SUPPORT"⟩, ⟨"+447700900123", "VOTE POL-001 SUPPORT"⟩]

theorem outcomesOf_without_iff_separated_sample :
    outcomesOf sampleSha256 id sampleConfig "+447700900123" Database.empty
          (without "+44770090012" sampleMessages) =
        outcomesOf sampleSha256 id sampleConfig "+447700900123" Database.empty sampleMessages ↔
      Separated sampleSha256 id sampleConfig "+44770090012" "+447700900123" Database.empty
        sampleMessages := by
  refine outcomesOf_without_iff_separated id (by decide) Database.empty ?_
  -- both votes hash one text
  have texts : ∀ message ∈ sampleMessages,
      voteText id sampleConfig message = some "+447700900123POL-001" := by
    decide +kernel
  rintro _ ⟨m₁, mem₁, text₁, vote₁, rfl⟩ _ ⟨m₂, mem₂, text₂, vote₂, rfl⟩ -
  rw [texts m₁ mem₁] at vote₁
  rw [texts m₂ mem₂] at vote₂
  rw [← Option.some.inj vote₁, ← Option.some.inj vote₂]

/-- The first message spends the nullifier of the second. -/
theorem outcomesOf_without_counterexample :
    "+44770090012" ≠ "+447700900123" ∧
      outcomesOf sampleSha256 id sampleConfig "+447700900123" Database.empty
          (without "+44770090012" sampleMessages) = [some true] ∧
      outcomesOf sampleSha256 id sampleConfig "+447700900123" Database.empty sampleMessages =
        [some false] := by
  decide +kernel

end TheVoteApp.SMSVoteService
