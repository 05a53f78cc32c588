import TheVoteApp.JavaScript.Spacing
import TheVoteApp.PhoneVoting.CrossChannel

/-!
# The policy a text message names

A message is written in any case and with any spaces, so the handler turns the whole of it
to upper case before it splits it, the id of the policy included.  The vote is submitted
for that word: for the policy of the country files only if its id is in upper case already
(`votes_reach_iff`), and no id in the files is.  The files are not looked at either; a vote
is submitted for whatever the second word is.

## Main definitions

* `Configured` — a policy of a country file
* `Spelling` — a message that names a policy and an option, in any case and spacing
* `Reaches`, `Refused` — a vote for exactly this id, and no vote
-/

namespace TheVoteApp.SMSVoteService

open Foundations JavaScript Redis

/-! ## Country files -/

/-- `PolicySchema`, of which the handler could need the id. -/
structure PolicyConfig where
  id : String
deriving DecidableEq

/-- `CountryConfigSchema`, likewise. -/
structure CountryConfig where
  code : String
  policies : List PolicyConfig
deriving DecidableEq

/-- Some country file has a policy of that id. -/
def Configured (countries : List CountryConfig) (id : String) : Prop :=
  ∃ country ∈ countries, ∃ policy ∈ country.policies, policy.id = id

/-! ## Messages -/

/-- Letters, digits, `_` and `-`. -/
def isNameChar (c : Char) : Bool := c.isAlphanum || c == '_' || c == '-'

/-- The text is one word of the characters of a name. -/
def IsName (text : String) : Prop := text.toList ≠ [] ∧ text.toList.all isNameChar = true

instance (text : String) : Decidable (IsName text) := inferInstanceAs (Decidable (_ ∧ _))

/-- The word, in any letter case. -/
def InAnyCase (letters : List Char) (word : String) : Prop :=
  letters.map Char.toUpper = word.toList.map Char.toUpper

instance (letters : List Char) (word : String) : Decidable (InAnyCase letters word) :=
  inferInstanceAs (Decidable (_ = _))

/-- `VOTE <id> <option>`, in any letter case, with any white space around and between. -/
structure Spelling (id option : String) where
  lead : List Char
  command : List Char
  firstGap : List Char
  policy : List Char
  secondGap : List Char
  choice : List Char
  trail : List Char
  spaces_lead : Spaces lead
  inAnyCase_command : InAnyCase command "VOTE"
  spaces_firstGap : Spaces firstGap
  firstGap_ne_nil : firstGap ≠ []
  inAnyCase_policy : InAnyCase policy id
  spaces_secondGap : Spaces secondGap
  secondGap_ne_nil : secondGap ≠ []
  inAnyCase_choice : InAnyCase choice option
  spaces_trail : Spaces trail

/-- The body of the message. -/
def Spelling.body {id option : String} (spelling : Spelling id option) : String :=
  String.ofList (spelling.lead ++ joinWords spelling.command
    [(spelling.firstGap, spelling.policy), (spelling.secondGap, spelling.choice)] ++
      spelling.trail)

/-! ## Names are ASCII words -/

theorem toUpper_of_isNameChar {c : Char} (name : isNameChar c = true) :
    isWhiteSpace c.toUpper = false ∧ c.toUpper.toNat < 128 := by
  have small : c.toNat < 128 := by
    simp only [isNameChar, Char.isAlphanum, Char.isAlpha, Char.isUpper, Char.isLower,
      Char.isDigit, Bool.or_eq_true, Bool.and_eq_true, decide_eq_true_eq, beq_iff_eq,
      UInt32.le_iff_toNat_le, ge_iff_le] at name
    change ((((65 ≤ c.toNat ∧ c.toNat ≤ 90) ∨ 97 ≤ c.toNat ∧ c.toNat ≤ 122) ∨
      48 ≤ c.toNat ∧ c.toNat ≤ 57) ∨ c = '_') ∨ c = '-' at name
    rcases name with (letter | rfl) | rfl
    · omega
    · decide
    · decide
  have all : ∀ n < 128, isNameChar (Char.ofNat n) = true →
      isWhiteSpace (Char.ofNat n).toUpper = false ∧ (Char.ofNat n).toUpper.toNat < 128 := by
    decide
  have both := all c.toNat small
  rw [Char.ofNat_toNat] at both
  exact both name

theorem toNat_lt_of_toUpper {c : Char} (small : c.toUpper.toNat < 128) : c.toNat < 128 := by
  by_cases lower : c.isLower = true
  · have range : 97 ≤ c.toNat ∧ c.toNat ≤ 122 := by
      simpa [Char.isLower, UInt32.le_iff_toNat_le] using lower
    omega
  · rwa [Char.toUpper_eq_of_not_isLower lower] at small

/-- A name in any letter case is a word of ASCII characters. -/
theorem InAnyCase.word {letters : List Char} {name : String} (same : InAnyCase letters name)
    (isName : IsName name) : Word letters ∧ ∀ c ∈ letters, c.toNat < 128 := by
  have upper : ∀ c ∈ letters, isWhiteSpace c.toUpper = false ∧ c.toUpper.toNat < 128 := by
    intro c mem
    have there : c.toUpper ∈ name.toList.map Char.toUpper := by
      rw [← same]
      exact List.mem_map_of_mem mem
    obtain ⟨d, listed, shared⟩ := List.mem_map.mp there
    rw [← shared]
    exact toUpper_of_isNameChar (List.all_eq_true.mp isName.2 d listed)
  refine ⟨⟨?_, fun c mem => ?_⟩, fun c mem => toNat_lt_of_toUpper (upper c mem).2⟩
  · rintro rfl
    exact isName.1 (List.map_eq_nil_iff.mp same.symm)
  · by_contra space
    rw [Bool.not_eq_false] at space
    have kept := (upper c mem).1
    rw [toUpper_of_isWhiteSpace space, space] at kept
    cases kept

/-- Upper case makes all spellings of a name one. -/
theorem InAnyCase.upper {letters : List Char} {name : String} (same : InAnyCase letters name)
    (isName : IsName name) (table : CaseTable) :
    letters.flatMap table.upper = name.toList.map Char.toUpper := by
  rw [List.flatMap_congr fun c mem => table.ascii c ((same.word isName).2 c mem),
    ← List.map_eq_flatMap, same]

theorem toUpperCase_of_isName {name : String} (isName : IsName name) (table : CaseTable) :
    table.toUpperCase name = String.ofList (name.toList.map Char.toUpper) :=
  CaseTable.toUpperCase_of_ascii ((show InAnyCase name.toList name from rfl).word isName).2

theorem word_map_toUpper {name : String} (isName : IsName name) :
    Word (name.toList.map Char.toUpper) := by
  have same : InAnyCase (name.toList.map Char.toUpper) name := by simp [InAnyCase]
  exact (same.word isName).1

theorem toUpper_eq_self_iff (c : Char) : c.toUpper = c ↔ c.isLower = false := by
  constructor
  · intro same
    rw [← same]
    exact Char.isLower_toUpper_eq_false c
  · intro notLower
    apply Char.toUpper_eq_of_not_isLower
    rw [notLower]
    exact Bool.false_ne_true

/-- The upper case of a name is the name exactly where it has no lower-case letter. -/
theorem toUpperCase_eq_self_iff {name : String} (isName : IsName name) (table : CaseTable) :
    table.toUpperCase name = name ↔ ∀ c ∈ name.toList, c.isLower = false := by
  rw [toUpperCase_of_isName isName, ← String.toList_inj, String.toList_ofList]
  conv_lhs => rhs; rw [← List.map_id name.toList]
  rw [List.map_inj_left]
  exact forall₂_congr fun c _ => toUpper_eq_self_iff c

/-! ## The words of a spelling -/

theorem isName_of_option {option : String} (offered : option ∈ optionMap.map Prod.fst) :
    IsName option ∧ option.toList.map Char.toUpper = option.toList := by
  have all : ∀ option ∈ optionMap.map Prod.fst,
      IsName option ∧ option.toList.map Char.toUpper = option.toList := by decide
  exact all option offered

theorem exists_lookup_of_option {option : String} (offered : option ∈ optionMap.map Prod.fst) :
    ∃ optionId, optionMap.lookup option = some optionId := by
  have all : ∀ option ∈ optionMap.map Prod.fst, (optionMap.lookup option).isSome = true := by
    decide
  exact Option.isSome_iff_exists.mp (all option offered)

/-- Whatever the case and the spacing, the handler reads three words. -/
theorem words_body {table : CaseTable} (keeps : table.KeepsSpaces) {id option : String}
    (isName : IsName id) (offered : option ∈ optionMap.map Prod.fst)
    (spelling : Spelling id option) :
    words table.toUpperCase spelling.body = ["VOTE", table.toUpperCase id, option] := by
  have vote : IsName "VOTE" := by decide
  obtain ⟨optionName, optionUpper⟩ := isName_of_option offered
  have command := spelling.inAnyCase_command.word vote
  have policy := spelling.inAnyCase_policy.word isName
  have choice := spelling.inAnyCase_choice.word optionName
  have spaced :
      Spaced [(spelling.firstGap, spelling.policy), (spelling.secondGap, spelling.choice)] :=
    List.forall_mem_cons.mpr ⟨⟨spelling.spaces_firstGap, spelling.firstGap_ne_nil, policy.1⟩,
      List.forall_mem_singleton.mpr
        ⟨spelling.spaces_secondGap, spelling.secondGap_ne_nil, choice.1⟩⟩
  rw [words, Spelling.body, trim_joinWords spelling.spaces_lead command.1 spaced
    spelling.spaces_trail, CaseTable.toUpperCase, String.toList_ofList,
    flatMap_upper_joinWords keeps _ spaced]
  simp only [List.map_cons, List.map_nil, spelling.inAnyCase_command.upper vote table,
    spelling.inAnyCase_policy.upper isName table, spelling.inAnyCase_choice.upper optionName table]
  -- the words in upper case are words again, with the same gaps
  have spacedUpper : Spaced [(spelling.firstGap, id.toList.map Char.toUpper),
      (spelling.secondGap, option.toList.map Char.toUpper)] :=
    List.forall_mem_cons.mpr
      ⟨⟨spelling.spaces_firstGap, spelling.firstGap_ne_nil, word_map_toUpper isName⟩,
        List.forall_mem_singleton.mpr
          ⟨spelling.spaces_secondGap, spelling.secondGap_ne_nil, word_map_toUpper optionName⟩⟩
  rw [splitSpaces_joinWords (word_map_toUpper vote) spacedUpper, toUpperCase_of_isName isName]
  simp only [List.map_cons, List.map_nil, optionUpper, String.ofList_toList]
  rfl

/-! ## Which votes are submitted -/

section Votes

variable (sha256 : String → String) (table : CaseTable) (config : Config)

/-- The reply to a message. -/
def replyTo (redis : Database Unit) (message : Message) : Reply :=
  ((handleInbound sha256 table.toUpperCase config message.phone message.body).run exec redis).1

/-- A vote of the message's number is submitted for exactly this policy, with the option
of that word. -/
def Reaches (redis : Database Unit) (message : Message) (id option : String) : Prop :=
  ∃ optionId, optionMap.lookup option = some optionId ∧
    replyTo sha256 table config redis message =
      .recorded id optionId (deriveNullifier sha256 config message.phone id)
        (submitToChain sha256 (deriveNullifier sha256 config message.phone id) id optionId)

/-- No vote is recorded, and no nullifier. -/
def Refused (redis : Database Unit) (message : Message) : Prop :=
  (replyTo sha256 table config redis message).recordedPolicy = none ∧
    ((handleInbound sha256 table.toUpperCase config message.phone message.body).run exec
      redis).2.sets = redis.sets

/-- The number has voted on the policy. -/
def Spent (redis : Database Unit) (phone policyId : String) : Prop :=
  redis.sets nullifiersKey (deriveNullifier sha256 config phone policyId) = true

/-- The message is a `VOTE`, and its second word is no configured policy in any letter
case. -/
def NamesNone (countries : List CountryConfig) (message : Message) : Prop :=
  (words table.toUpperCase message.body)[0]? = some "VOTE" ∧
    ∀ id, Configured countries id →
      (words table.toUpperCase message.body)[1]? ≠ some (table.toUpperCase id)

variable {sha256 table config}

/-- A vote on an id that the number has not voted on is submitted for the id in upper
case. -/
theorem replyTo_body (keeps : table.KeepsSpaces) {id option optionId : String}
    (isName : IsName id) (found : optionMap.lookup option = some optionId)
    (spelling : Spelling id option) {redis : Database Unit} {phone : String}
    (permits : Permits config phone)
    (unspent : ¬ Spent sha256 config redis phone (table.toUpperCase id)) :
    replyTo sha256 table config redis ⟨phone, spelling.body⟩ =
      .recorded (table.toUpperCase id) optionId
        (deriveNullifier sha256 config phone (table.toUpperCase id))
        (submitToChain sha256 (deriveNullifier sha256 config phone (table.toUpperCase id))
          (table.toUpperCase id) optionId) := by
  have offered : option ∈ optionMap.map Prod.fst := by
    obtain ⟨before, after, listed, -⟩ := List.lookup_eq_some_iff.mp found
    simp [listed]
  have known : property optionMap option = some optionId := by
    rw [property, found, Option.some_or]
  have handled : handleInbound sha256 table.toUpperCase config phone spelling.body =
      handleVote sha256 config phone (table.toUpperCase id) option := by
    simp only [handleInbound, permits, not_true_eq_false, if_false,
      words_body keeps isName offered spelling]
  rw [replyTo, handled, run_handleVote known]
  exact congrArg Prod.fst (if_neg unspent)

theorem votePolicy_eq_some_iff {message : Message} {policyId : String} :
    votePolicy table.toUpperCase config message = some policyId ↔
      Permits config message.phone ∧ ∃ optionRaw rest,
        words table.toUpperCase message.body = "VOTE" :: policyId :: optionRaw :: rest ∧
          (property optionMap optionRaw).isSome = true := by
  unfold votePolicy
  by_cases permits : Permits config message.phone
  · rw [if_neg (not_not.mpr permits)]
    split
    · rename_i named optionRaw rest command
      rw [command]
      constructor
      · intro vote
        obtain ⟨known, same⟩ := Option.ite_none_right_eq_some.mp vote
        obtain rfl := Option.some.inj same
        exact ⟨permits, optionRaw, rest, rfl, known⟩
      · rintro ⟨-, optionRaw', rest', same, known⟩
        obtain ⟨rfl, rfl, rfl⟩ : named = policyId ∧ optionRaw = optionRaw' ∧ rest = rest' := by
          simpa using same
        rw [if_pos known]
    · rename_i noVote
      constructor
      · intro vote
        cases vote
      · rintro ⟨-, optionRaw, rest, command, -⟩
        exact (noVote policyId optionRaw rest command).elim
  · rw [if_pos permits]
    simp [permits]

/-- A message is refused where its vote, if it is one, has been cast before. -/
theorem refused_iff {redis : Database Unit} {message : Message} :
    Refused sha256 table config redis message ↔
      ∀ policyId, votePolicy table.toUpperCase config message = some policyId →
        Spent sha256 config redis message.phone policyId := by
  obtain ⟨after, recorded⟩ :=
    @run_handleInbound_recorded table.toUpperCase config sha256 redis message
  rw [Refused, replyTo, recorded, after]
  cases vote : votePolicy table.toUpperCase config message with
  | none => simp
  | some policyId =>
      rw [Option.filter_some]
      constructor
      · rintro ⟨silent, -⟩ policyId' same
        obtain rfl := Option.some.inj same
        by_contra unspent
        have fresh := Bool.eq_false_iff.mpr unspent
        rw [fresh] at silent
        cases silent
      · intro cast
        have spent : redis.sets nullifiersKey _ = true := cast policyId rfl
        dsimp only
        rw [spent, Database.addMember_of_mem spent]
        exact ⟨rfl, rfl⟩

end Votes

/-- **Which votes by text message reach the policy they name.**  A vote on a configured id,
spelled in any way, is submitted for that id exactly where the id has no lower-case letter.
A `VOTE` that names no configured policy is refused exactly where any other would be: the
number is not allowed, the option is unknown, or the vote has been cast before. -/
theorem votes_reach_iff (sha256 : String → String) (table : CaseTable)
    (keeps : table.KeepsSpaces) (config : Config) (countries : List CountryConfig)
    (redis : Database Unit) (phone : String) :
    (∀ id option, Configured countries id → IsName id → option ∈ optionMap.map Prod.fst →
      ∀ spelling : Spelling id option, Permits config phone → ¬ Spent sha256 config redis phone id →
        (Reaches sha256 table config redis ⟨phone, spelling.body⟩ id option ↔
          ∀ c ∈ id.toList, c.isLower = false)) ∧
    ∀ body, NamesNone table countries ⟨phone, body⟩ →
      (Refused sha256 table config redis ⟨phone, body⟩ ↔
        ∀ policyId optionRaw rest,
          words table.toUpperCase body = "VOTE" :: policyId :: optionRaw :: rest →
            ¬ Permits config phone ∨ property optionMap optionRaw = none ∨
              Spent sha256 config redis phone policyId) := by
  constructor
  · intro id option _ isName offered spelling permits unspent
    -- the id that is voted on is the one that is named, in upper case
    rw [← toUpperCase_eq_self_iff isName table]
    constructor
    · rintro ⟨optionId, -, reply⟩
      have recorded := (@run_handleInbound_recorded table.toUpperCase config sha256 redis
        ⟨phone, spelling.body⟩).2
      have named : some id = _ := (congrArg Reply.recordedPolicy reply).symm.trans recorded
      exact toUpperCase_of_votePolicy (Option.filter_eq_some_iff.mp named.symm).1
    · intro upper
      obtain ⟨optionId, found⟩ := exists_lookup_of_option offered
      refine ⟨optionId, found, ?_⟩
      have reply := replyTo_body keeps isName found spelling permits (by rwa [upper])
      rwa [upper] at reply
  · intro body _
    rw [refused_iff]
    constructor
    · intro cast policyId optionRaw rest command
      by_contra accepted
      obtain ⟨permits, known, unspent⟩ := by simpa only [not_or, not_not] using accepted
      apply unspent
      apply cast policyId
      exact votePolicy_eq_some_iff.mpr
        ⟨permits, optionRaw, rest, command, Option.isSome_iff_ne_none.mpr known⟩
    · intro barred policyId vote
      obtain ⟨permits, optionRaw, rest, command, known⟩ := votePolicy_eq_some_iff.mp vote
      rcases barred policyId optionRaw rest command with foreign | unknown | spent
      · exact absurd permits foreign
      · rw [unknown] at known
        cases known
      · exact spent

/-! ### A country file -/

/-- A policy of the file `gb.json`, and one with an id in upper case. -/
def sampleCountries : List CountryConfig := [⟨"GB", [⟨"gb-nhs-reform-2026"⟩, ⟨"POL-001"⟩]⟩]

theorem spaces_space : Spaces [' '] := by simp [Spaces, isWhiteSpace]

theorem spaces_two : Spaces [' ', ' '] := by simp [Spaces, isWhiteSpace]

theorem spaces_lineFeed : Spaces ['\n'] := by simp [Spaces, isWhiteSpace]

theorem inAnyCase_vote : InAnyCase "vote".toList "VOTE" := by decide

/-- ` vote  <policy> <choice>`, with a line feed at the end. -/
def spell {id option : String} (policy choice : String)
    (inAnyCase_policy : InAnyCase policy.toList id)
    (inAnyCase_choice : InAnyCase choice.toList option) : Spelling id option where
  lead := [' ']
  command := "vote".toList
  firstGap := [' ', ' ']
  policy := policy.toList
  secondGap := [' ']
  choice := choice.toList
  trail := ['\n']
  spaces_lead := spaces_space
  inAnyCase_command := inAnyCase_vote
  spaces_firstGap := spaces_two
  firstGap_ne_nil := by simp
  inAnyCase_policy := inAnyCase_policy
  spaces_secondGap := spaces_space
  secondGap_ne_nil := by simp
  inAnyCase_choice := inAnyCase_choice
  spaces_trail := spaces_lineFeed

/-- The digests of the texts that a vote on either policy hashes. -/
def fileSha256 (text : String) : String :=
  if text = "+447700900123GB-NHS-REFORM-2026default-salt-replace-in-prod" then
    "218a5d7a360dd19fee0f3b40c2a7f72e80a1d35d653aa8aefacd6c9dc42edc59"
  else if text = "0x218a5d7a360dd19fee0f3b40c2a7f72e80a1d35d653aa8aefacd6c9dc42edc59" ++
      "GB-NHS-REFORM-2026option-support" then
    "ab01e6af26e17c96355b8d88b0b25fdbab53dde75ea4dd03c220fa292a008c52"
  else sampleSha256 text

/-- The id in upper case is reached. -/
theorem votes_reach_iff_sample :
    Reaches fileSha256 CaseTable.ofAscii sampleConfig Database.empty
      ⟨"+447700900123", (@spell "POL-001" "SUPPORT" "pol-001" "Support" (by decide)
        (by decide)).body⟩ "POL-001" "SUPPORT" := by
  obtain ⟨reach, -⟩ := votes_reach_iff fileSha256 CaseTable.ofAscii
    CaseTable.keepsSpaces_ofAscii sampleConfig sampleCountries Database.empty "+447700900123"
  have configured : Configured sampleCountries "POL-001" :=
    ⟨_, List.mem_cons_self, _, List.mem_cons_of_mem _ List.mem_cons_self, rfl⟩
  have upper : "POL-001".toList.any Char.isLower = false := by decide
  apply (reach "POL-001" "SUPPORT" configured (by decide) (by decide) _
    (by decide) (by simp [Spent, Database.empty])).mpr
  intro c mem
  exact Bool.eq_false_iff.mpr (List.any_eq_false.mp upper c mem)

/-- The id of the file is not: the vote is submitted for another.  And where that id is
the only one, a vote on `POL-001` is recorded all the same. -/
theorem votes_reach_counterexample :
    Configured sampleCountries "gb-nhs-reform-2026" ∧
      replyTo fileSha256 CaseTable.ofAscii sampleConfig Database.empty
        ⟨"+447700900123", "VOTE gb-nhs-reform-2026 SUPPORT"⟩ =
      .recorded "GB-NHS-REFORM-2026" "option-support"
        "0x218a5d7a360dd19fee0f3b40c2a7f72e80a1d35d653aa8aefacd6c9dc42edc59"
        "0xab01e6af26e17c96355b8d88b0b25fdbab53dde75ea4dd03c220fa292a008c52" ∧
      ¬ Reaches fileSha256 CaseTable.ofAscii sampleConfig Database.empty
        ⟨"+447700900123", "VOTE gb-nhs-reform-2026 SUPPORT"⟩ "gb-nhs-reform-2026" "SUPPORT" ∧
      NamesNone CaseTable.ofAscii [⟨"GB", [⟨"gb-nhs-reform-2026"⟩]⟩]
        ⟨"+447700900123", "VOTE POL-001 SUPPORT"⟩ ∧
      ¬ Refused fileSha256 CaseTable.ofAscii sampleConfig Database.empty
        ⟨"+447700900123", "VOTE POL-001 SUPPORT"⟩ := by
  have submitted : replyTo fileSha256 CaseTable.ofAscii sampleConfig Database.empty
      ⟨"+447700900123", "VOTE gb-nhs-reform-2026 SUPPORT"⟩ =
      .recorded "GB-NHS-REFORM-2026" "option-support"
        "0x218a5d7a360dd19fee0f3b40c2a7f72e80a1d35d653aa8aefacd6c9dc42edc59"
        "0xab01e6af26e17c96355b8d88b0b25fdbab53dde75ea4dd03c220fa292a008c52" := by
    decide +kernel
  refine ⟨⟨_, List.mem_cons_self, _, List.mem_cons_self, rfl⟩, submitted, ?_, ?_, ?_⟩
  · rintro ⟨optionId, -, reached⟩
    have same := (Reply.recorded.inj (submitted.symm.trans reached)).1
    exact absurd same (by decide)
  · refine ⟨by decide, ?_⟩
    rintro _ ⟨country, file, policy, listed, rfl⟩
    obtain rfl := List.mem_singleton.mp file
    obtain rfl := List.mem_singleton.mp listed
    decide
  · rintro ⟨silent, -⟩
    exact absurd silent (by decide)

end TheVoteApp.SMSVoteService
