import TheVoteApp.Foundations.Machine
import TheVoteApp.Solidity.Abi

/-!
# The contract AuditLog

`AuditLog.sol`: an append-only list of entries, each with the account that added
it, an action, a content identifier and a time.  `getEntry` returns the entry as
a struct; a struct with strings is a dynamic value, so the return data begin
with the offset of its encoding.
-/

namespace TheVoteApp

open Solidity Foundations

namespace AuditLog

/-- `struct Entry`, the strings as their bytes. -/
structure Entry where
  actor : Address
  action : Bytes
  ipfsCid : Bytes
  timestamp : ℕ
deriving DecidableEq

/-- The roles of the contract's access control. -/
inductive Role where
  | defaultAdmin
  | auditor
  | upgrader
deriving DecidableEq

/-- The event of the contract. -/
inductive Event where
  | auditEntryAdded (id : ℕ) (actor : Address) (action ipfsCid : Bytes) (timestamp : ℕ)
deriving DecidableEq

/-- What a call reverts with. -/
inductive Error where
  | accessControlUnauthorizedAccount (account : Address) (neededRole : Role)
  /-- "Entry not found" -/
  | entryNotFound
deriving DecidableEq

end AuditLog

/-- The storage of `AuditLog.sol`. -/
structure AuditLog where
  hasRole : AuditLog.Role → Address → Bool
  entries : List AuditLog.Entry

namespace AuditLog

/-- `initialize`. -/
def initialized (admin : Address) : AuditLog where
  hasRole _ account := decide (account = admin)
  entries := []

/-- `addEntry`, for auditors only. -/
def addEntry (s : AuditLog) (env : Env) (action ipfsCid : Bytes) :
    Except Error (AuditLog × List Event) :=
  if !s.hasRole .auditor env.sender then
    .error (.accessControlUnauthorizedAccount env.sender .auditor)
  else
    let id := s.entries.length
    .ok ({ s with entries := s.entries ++ [⟨env.sender, action, ipfsCid, env.timestamp⟩] },
      [.auditEntryAdded id env.sender action ipfsCid env.timestamp])

/-- The return data of a struct of type `Entry`. -/
def encodeEntry (entry : Entry) : Bytes :=
  bigEndian 32 32 ++ Abi.encode [.word entry.actor.toNat, .dynamic entry.action,
    .dynamic entry.ipfsCid, .word entry.timestamp]

/-- `getEntry`, as return data. -/
def getEntry (s : AuditLog) (id : ℕ) : Except Error Bytes :=
  match s.entries[id]? with
  | none => .error .entryNotFound
  | some entry => .ok (encodeEntry entry)

/-- `entryCount`. -/
def entryCount (s : AuditLog) : ℕ := s.entries.length

/-- A call of `addEntry`. -/
structure Tx where
  env : Env
  action : Bytes
  ipfsCid : Bytes

/-- The contract, as the machine its transactions drive. -/
def machine : Machine AuditLog Tx Event Error where
  call s tx := s.addEntry tx.env tx.action tx.ipfsCid

variable {s s' : AuditLog} {env : Env} {action ipfsCid : Bytes} {new : List Event}

/-- **`addEntry`** appends one entry. -/
theorem addEntry_eq_ok_iff :
    s.addEntry env action ipfsCid = .ok (s', new) ↔
      s.hasRole .auditor env.sender = true ∧
        s' = { s with entries := s.entries ++ [⟨env.sender, action, ipfsCid, env.timestamp⟩] } ∧
        new = [.auditEntryAdded s.entries.length env.sender action ipfsCid env.timestamp] := by
  unfold addEntry
  cases s.hasRole .auditor env.sender <;> simp [eq_comm]

/-- Entries are never changed or removed. -/
theorem getElem?_entries_run {id : ℕ} {entry : Entry} (txs : List Tx)
    (stored : s.entries[id]? = some entry) : (machine.run s txs).entries[id]? = some entry := by
  refine Machine.run_invariant (I := fun s : AuditLog => s.entries[id]? = some entry) stored ?_ txs
  intro s tx s' new held success
  obtain ⟨-, rfl, -⟩ := addEntry_eq_ok_iff.mp success
  rw [List.getElem?_append_left (List.getElem?_eq_some_iff.mp held).1]
  exact held

end AuditLog

end TheVoteApp
