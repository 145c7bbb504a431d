import BuildScheduler.Event

/-!
# Build locks

A lock record names a lock and says when it expires; it is live up to that instant, the instant
included. A store holds at most one record a name. The main lemmas say what `get?` shows after
each operation.
-/

namespace BuildScheduler

structure LockRecord where
  name : String
  expiresAt : Instant
deriving DecidableEq

namespace LockRecord

instance : Inhabited LockRecord := ⟨⟨"", default⟩⟩

def isExpired (record : LockRecord) (now : Instant) : Bool := record.expiresAt < now

def decoding : Json.Record LockRecord where
  title := "struct LockRecord"
  blank := default
  fields := [
    ⟨"name", .required, fun node record => do pure { record with name := ← Json.Decode.string node }⟩,
    ⟨"expires_at", .required,
      fun node record => do pure { record with expiresAt := ← Instant.decode node }⟩]

def decode : Json.Decoder LockRecord := decoding.decode

def toJson (record : LockRecord) : Json :=
  Json.object [("name", .str record.name), ("expires_at", record.expiresAt.toJson)]

end LockRecord

structure LockStore where
  records : List LockRecord := []
deriving DecidableEq

namespace LockStore

def empty : LockStore := {}

/-- The record of a name, expired or not. -/
def get? (store : LockStore) (name : String) : Option LockRecord :=
  store.records.find? (·.name == name)

/-- Drops the record of a name. -/
def delete (store : LockStore) (name : String) : LockStore :=
  ⟨store.records.filter (·.name != name)⟩

/-- Writes a record over whatever its name had. -/
def write (store : LockStore) (record : LockRecord) : LockStore :=
  ⟨record :: (store.delete record.name).records⟩

/-- Whether the record of a name is live. -/
def isHeld (store : LockStore) (name : String) (now : Instant) : Bool :=
  (store.get? name).any fun record => !record.isExpired now

/-- Writes a record unless its name has a live one; says whether it was written. -/
def put (store : LockStore) (record : LockRecord) (now : Instant) : Bool × LockStore :=
  if store.isHeld record.name now then (false, store) else (true, store.write record)

@[simp] theorem get?_empty (name : String) : empty.get? name = none := rfl

theorem get?_delete (store : LockStore) (name other : String) :
    (store.delete name).get? other = if other = name then none else store.get? other := by
  unfold delete get?
  induction store.records with
  | nil => simp
  | cons record rest ih =>
      by_cases hn : record.name = name
      · by_cases ho : other = name
        · simp_all
        · have : ¬ record.name = other := fun h => ho (h ▸ hn)
          simp_all
      · by_cases ho : record.name = other
        · have : ¬ other = name := fun h => hn (ho ▸ h)
          simp_all
        · simp_all

theorem get?_write (store : LockStore) (record : LockRecord) (other : String) :
    (store.write record).get? other = if other = record.name then some record else store.get? other := by
  by_cases h : other = record.name
  · simp [write, get?, h]
  · have hne : (record.name == other) = false := by simpa using fun e => h e.symm
    have hd := get?_delete store record.name other
    rw [if_neg h] at hd
    rw [if_neg h, ← hd]
    simp [write, get?, hne]

end LockStore

end BuildScheduler
