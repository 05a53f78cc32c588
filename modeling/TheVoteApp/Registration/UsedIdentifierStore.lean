import TheVoteApp.Foundations.Interleaving

/-!
# The claim store and its in-memory specification

`RedisUsedIdentifierStore` claims with two commands, `SET NX` and, when the key
is taken, `GET`; a key that vanished in between sends it back to the `SET`.
`InMemoryUsedIdentifierStore` does the whole call at once.

Whatever the interleaving, the last command of a call decides it: a `SET` that
succeeds, a `GET` that finds a holder, or the script of `release`.
-/

namespace TheVoteApp.Registration

open Foundations

/-- A call of the store. -/
inductive ClaimCall where
  | claim (key commitment : String)
  | release (key commitment : String)
deriving DecidableEq

/-- What a call resolves to. -/
inductive ClaimReply where
  /-- `{ claimed: true }` -/
  | claimed
  /-- `{ claimed: false, existing }` -/
  | existing (commitment : String)
  /-- `release` resolves to nothing. -/
  | released
deriving DecidableEq

/-! ## The store in memory -/

namespace InMemoryUsedIdentifierStore

/-- The `Map`. -/
abbrev Contents := String → Option String

/-- `claim` on the `Map`. -/
def claim (key commitment : String) (map : Contents) : ClaimReply × Contents :=
  match map key with
  | some existing => (.existing existing, map)
  | none => (.claimed, Function.update map key (some commitment))

/-- `release` on the `Map`. -/
def release (key commitment : String) (map : Contents) : ClaimReply × Contents :=
  if map key = some commitment then (.released, Function.update map key none)
  else (.released, map)

/-- A call of either method. -/
def perform : ClaimCall → Contents → ClaimReply × Contents
  | .claim key commitment => claim key commitment
  | .release key commitment => release key commitment

end InMemoryUsedIdentifierStore

/-! ## The store in Redis -/

namespace RedisUsedIdentifierStore

/-- The strings of the database. -/
abbrev Database := String → Option String

/-- `k`, the database key of an identifier. -/
def k (key : String) : String := "zkp:uid:" ++ key

theorem k_injective : Function.Injective k := by
  intro key key' same
  exact (String.append_right_inj "zkp:uid:").mp same

/-- A call between two commands, by the command that comes next. -/
inductive Work where
  | setNX (key commitment : String)
  | get (key commitment : String)
  | compareAndDelete (key commitment : String)
deriving DecidableEq

/-- The first command of a call. -/
def begin : ClaimCall → Work
  | .claim key commitment => .setNX key commitment
  | .release key commitment => .compareAndDelete key commitment

/-- The next command of a call. -/
def step : Work → Database → (Work ⊕ ClaimReply) × Database
  | .setNX key commitment, redis =>
      match redis (k key) with
      | none => (.inr .claimed, Function.update redis (k key) (some commitment))
      | some _ => (.inl (.get key commitment), redis)
  | .get key commitment, redis =>
      match redis (k key) with
      -- the key vanished between SET and GET: claim again
      | none => (.inl (.setNX key commitment), redis)
      | some existing => (.inr (.existing existing), redis)
  | .compareAndDelete key commitment, redis =>
      if redis (k key) = some commitment then
        (.inr .released, Function.update redis (k key) none)
      else (.inr .released, redis)

/-- The identifiers in use, as the in-memory store keeps them. -/
def contents (redis : Database) : InMemoryUsedIdentifierStore.Contents := fun key => redis (k key)

theorem contents_update (redis : Database) (key : String) (value : Option String) :
    contents (Function.update redis (k key) value) =
      Function.update (contents redis) key value := by
  funext key'
  by_cases same : key' = key
  · subst same
    simp [contents]
  · rw [Function.update_of_ne same]
    exact Function.update_of_ne (k_injective.ne same) _ _

/-- The work that can be left of a call. -/
def Describes : ClaimCall → Work → Prop
  | .claim key commitment, work => work = .setNX key commitment ∨ work = .get key commitment
  | .release key commitment, work => work = .compareAndDelete key commitment

theorem describes_begin (call : ClaimCall) : Describes call (begin call) := by
  cases call with
  | claim key commitment => exact Or.inl rfl
  | release key commitment => exact rfl

/-- A command after which work is left changes no identifier. -/
theorem step_silent {call : ClaimCall} {work work' : Work} {redis : Database}
    (describes : Describes call work) (left : (step work redis).1 = .inl work') :
    Describes call work' ∧ contents (step work redis).2 = contents redis := by
  cases call with
  | claim key commitment =>
      rcases describes with rfl | rfl
      · cases held : redis (k key) with
        | none => simp [step, held] at left
        | some existing =>
            simp only [step, held, Sum.inl.injEq] at left ⊢
            exact ⟨Or.inr left.symm, trivial⟩
      · cases held : redis (k key) with
        | none =>
            simp only [step, held, Sum.inl.injEq] at left ⊢
            exact ⟨Or.inl left.symm, trivial⟩
        | some existing => simp [step, held] at left
  | release key commitment =>
      obtain rfl : work = .compareAndDelete key commitment := describes
      by_cases held : redis (k key) = some commitment <;> simp [step, held] at left

/-- The last command of a call does what the in-memory store does. -/
theorem step_final {call : ClaimCall} {work : Work} {redis : Database} {reply : ClaimReply}
    (describes : Describes call work) (returns : (step work redis).1 = .inr reply) :
    InMemoryUsedIdentifierStore.perform call (contents redis) =
      (reply, contents (step work redis).2) := by
  cases call with
  | claim key commitment =>
      simp only [InMemoryUsedIdentifierStore.perform, InMemoryUsedIdentifierStore.claim]
      rcases describes with rfl | rfl
      · cases held : redis (k key) with
        | none =>
            simp only [step, held, Sum.inr.injEq] at returns ⊢
            rw [contents_update, ← returns]
            simp only [contents, held]
        | some existing => simp [step, held] at returns
      · cases held : redis (k key) with
        | none => simp [step, held] at returns
        | some existing =>
            simp only [step, held, Sum.inr.injEq] at returns ⊢
            simp only [contents, held, returns]
  | release key commitment =>
      simp only [InMemoryUsedIdentifierStore.perform, InMemoryUsedIdentifierStore.release]
      obtain rfl : work = .compareAndDelete key commitment := describes
      by_cases held : redis (k key) = some commitment
      · simp only [step, if_pos held, Sum.inr.injEq] at returns ⊢
        rw [contents_update, ← returns]
        exact if_pos held
      · simp only [step, if_neg held, Sum.inr.injEq] at returns ⊢
        rw [← returns]
        exact if_neg held

/-- **The claim store is linearizable.**  For any calls, any contents to start
from and any interleaving of their commands, every call that returned did so as
if the in-memory store had performed it at one instant between its first and its
last command, and the contents agree. -/
theorem redisUsedIdentifierStore_linearizable {ι : Type} [DecidableEq ι] (calls : ι → ClaimCall)
    (redis : Database) (schedule : List ι) :
    Pool.Linearizable step (fun i => InMemoryUsedIdentifierStore.perform (calls i)) contents
      ⟨redis, fun i => .inl (begin (calls i))⟩ schedule :=
  Pool.linearizable_of_final_command (J := fun i work => Describes (calls i) work) redis
    (fun i => describes_begin (calls i))
    (fun _ _ _ _ describes left => step_silent describes left)
    (fun _ _ _ _ describes returns => step_final describes returns) schedule

end RedisUsedIdentifierStore

end TheVoteApp.Registration
