import TheVoteApp.Foundations.Program

/-!
# Redis commands

The commands the message handlers issue, and their effect on a database with
string keys and set keys.  A string value is what the program stores under the
key and reads back, already parsed.  Expiry is not modelled: `SETEX` keeps the
number of seconds, and keys stay until they are deleted.
-/

namespace TheVoteApp.Redis

open Foundations

/-- A command, for string values `V`. -/
inductive Command (V : Type) where
  | get (key : String)
  | setex (key : String) (seconds : ℕ) (value : V)
  | del (key : String)
  | sismember (key member : String)
  | sadd (key member : String)
deriving DecidableEq

variable {V α : Type}

/-- What a command is answered with. -/
abbrev Command.Reply : Command V → Type
  | .get _ => Option V
  | .setex _ _ _ => Unit
  | .del _ => Unit
  | .sismember _ _ => Bool
  | .sadd _ _ => Unit

/-- The string keys and the set keys of a database. -/
@[ext]
structure Database (V : Type) where
  strings : String → Option V
  sets : String → String → Bool

namespace Database

/-- The database without keys. -/
def empty : Database V where
  strings _ := none
  sets _ _ := false

/-- A string is written over. -/
def setString (redis : Database V) (key : String) (value : V) : Database V :=
  { redis with strings := Function.update redis.strings key (some value) }

/-- The key is gone, whatever it held. -/
def delete (redis : Database V) (key : String) : Database V where
  strings := Function.update redis.strings key none
  sets := Function.update redis.sets key fun _ => false

/-- A member joins the set at a key. -/
def addMember (redis : Database V) (key member : String) : Database V :=
  { redis with
    sets := Function.update redis.sets key (Function.update (redis.sets key) member true) }

@[simp] theorem strings_setString (redis : Database V) (key : String) (value : V) :
    (redis.setString key value).strings = Function.update redis.strings key (some value) := rfl

@[simp] theorem sets_setString (redis : Database V) (key : String) (value : V) :
    (redis.setString key value).sets = redis.sets := rfl

@[simp] theorem strings_delete (redis : Database V) (key : String) :
    (redis.delete key).strings = Function.update redis.strings key none := rfl

theorem sets_delete_of_ne (redis : Database V) {key other : String} (different : other ≠ key) :
    (redis.delete key).sets other = redis.sets other := Function.update_of_ne different _ _

@[simp] theorem strings_addMember (redis : Database V) (key member : String) :
    (redis.addMember key member).strings = redis.strings := rfl

theorem sets_addMember_of_ne (redis : Database V) {key other : String} (member : String)
    (different : other ≠ key) : (redis.addMember key member).sets other = redis.sets other :=
  Function.update_of_ne different _ _

theorem sets_addMember_self (redis : Database V) (key member member' : String) :
    (redis.addMember key member).sets key member' = true ↔
      member' = member ∨ redis.sets key member' = true := by
  have stored : (redis.addMember key member).sets key =
      Function.update (redis.sets key) member true := Function.update_self ..
  rw [stored]
  by_cases same : member' = member
  · subst same
    simp
  · simp [same]

@[simp] theorem setString_setString (redis : Database V) (key : String) (value value' : V) :
    (redis.setString key value).setString key value' = redis.setString key value' := by
  simp [setString]

@[simp] theorem delete_setString (redis : Database V) (key : String) (value : V) :
    (redis.setString key value).delete key = redis.delete key := by
  simp [delete]

@[simp] theorem delete_delete (redis : Database V) (key : String) :
    (redis.delete key).delete key = redis.delete key := by
  simp [delete]

theorem addMember_setString (redis : Database V) (key member key' : String) (value : V) :
    (redis.setString key' value).addMember key member =
      (redis.addMember key member).setString key' value := rfl

theorem addMember_of_mem {redis : Database V} {key member : String}
    (present : redis.sets key member = true) : redis.addMember key member = redis := by
  have same : Function.update (redis.sets key) member true = redis.sets key := by
    rw [← present, Function.update_eq_self]
  rw [addMember, same, Function.update_eq_self]

end Database

/-- The reply to a command and its effect. -/
def exec : (command : Command V) → Database V → command.Reply × Database V
  | .get key, redis => (redis.strings key, redis)
  | .setex key _ value, redis => ((), redis.setString key value)
  | .del key, redis => ((), redis.delete key)
  | .sismember key member, redis => (redis.sets key member, redis)
  | .sadd key member, redis => ((), redis.addMember key member)

/-- Programs that talk to Redis. -/
abbrev Program (V α : Type) := Foundations.Program (Command V) Command.Reply α

/-- `GET`. -/
def get (key : String) : Program V (Option V) := .command (.get key) .done

/-- `SETEX`. -/
def setex (key : String) (seconds : ℕ) (value : V) : Program V Unit :=
  .command (.setex key seconds value) .done

/-- `DEL`. -/
def del (key : String) : Program V Unit := .command (.del key) .done

/-- `SISMEMBER`. -/
def sismember (key member : String) : Program V Bool := .command (.sismember key member) .done

/-- `SADD`. -/
def sadd (key member : String) : Program V Unit := .command (.sadd key member) .done

@[simp] theorem get_bind (key : String) (f : Option V → Program V α) :
    (get key >>= f) = .command (.get key) f := rfl

@[simp] theorem setex_bind (key : String) (seconds : ℕ) (value : V) (f : Unit → Program V α) :
    (setex key seconds value >>= f) = .command (.setex key seconds value) f := rfl

@[simp] theorem del_bind (key : String) (f : Unit → Program V α) :
    (del key >>= f) = .command (.del key) f := rfl

@[simp] theorem sismember_bind (key member : String) (f : Bool → Program V α) :
    (sismember key member >>= f) = .command (.sismember key member) f := rfl

@[simp] theorem sadd_bind (key member : String) (f : Unit → Program V α) :
    (sadd key member >>= f) = .command (.sadd key member) f := rfl

end TheVoteApp.Redis
