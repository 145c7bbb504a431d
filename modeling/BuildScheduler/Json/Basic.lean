import BuildScheduler.Number.Binary64

/-!
# JSON values

A number is an integer of at most 64 bits, signed or unsigned, or a double. The members of
an object stand in strictly increasing order of their names; `Json.Canonical` says so for
every object inside a value.
-/

namespace BuildScheduler

inductive Json where
  | null
  | bool (value : Bool)
  | int (value : Int)
  | double (value : Binary64)
  | str (text : String)
  | arr (items : List Json)
  | obj (members : List (String × Json))
deriving Inhabited

namespace Json

abbrev Members := List (String × Json)

/-- The integers a JSON number can hold exactly. -/
def IsInteger (n : Int) : Prop := -9223372036854775808 ≤ n ∧ n ≤ 18446744073709551615

instance (n : Int) : Decidable (IsInteger n) := by unfold IsInteger; infer_instance

mutual

/-- Equality of values, name by name and item by item. -/
def beq : Json → Json → Bool
  | .null, .null => true
  | .bool a, .bool b => a == b
  | .int a, .int b => a == b
  | .double a, .double b => a == b
  | .str a, .str b => a == b
  | .arr a, .arr b => beqItems a b
  | .obj a, .obj b => beqMembers a b
  | _, _ => false

def beqItems : List Json → List Json → Bool
  | [], [] => true
  | a :: as, b :: bs => beq a b && beqItems as bs
  | _, _ => false

def beqMembers : List (String × Json) → List (String × Json) → Bool
  | [], [] => true
  | (k, a) :: as, (l, b) :: bs => k == l && beq a b && beqMembers as bs
  | _, _ => false

end

mutual

theorem eq_of_beq : ∀ {a b : Json}, beq a b = true → a = b
  | .null, b, h => by cases b <;> simp_all [beq]
  | .bool _, b, h => by cases b <;> simp_all [beq]
  | .int _, b, h => by cases b <;> simp_all [beq]
  | .double _, b, h => by cases b <;> simp_all [beq]
  | .str _, b, h => by cases b <;> simp_all [beq]
  | .arr as, b, h => by
      cases b <;> simp only [beq, Bool.false_eq_true] at h
      rw [eq_of_beqItems h]
  | .obj as, b, h => by
      cases b <;> simp only [beq, Bool.false_eq_true] at h
      rw [eq_of_beqMembers h]

theorem eq_of_beqItems : ∀ {as bs : List Json}, beqItems as bs = true → as = bs
  | [], bs, h => by cases bs <;> simp_all [beqItems]
  | a :: as, bs, h => by
      cases bs with
      | nil => simp [beqItems] at h
      | cons b bs =>
          simp only [beqItems, Bool.and_eq_true] at h
          rw [eq_of_beq h.1, eq_of_beqItems h.2]

theorem eq_of_beqMembers :
    ∀ {as bs : List (String × Json)}, beqMembers as bs = true → as = bs
  | [], bs, h => by cases bs <;> simp_all [beqMembers]
  | (k, a) :: as, bs, h => by
      cases bs with
      | nil => simp [beqMembers] at h
      | cons b bs =>
          obtain ⟨l, b⟩ := b
          simp only [beqMembers, Bool.and_eq_true, beq_iff_eq] at h
          rw [h.1.1, eq_of_beq h.1.2, eq_of_beqMembers h.2]

end

mutual

theorem beq_self : ∀ a : Json, beq a a = true
  | .null | .bool _ | .int _ | .double _ | .str _ => by simp [beq]
  | .arr as => by simp [beq, beqItems_self as]
  | .obj as => by simp [beq, beqMembers_self as]

theorem beqItems_self : ∀ as : List Json, beqItems as as = true
  | [] => by simp [beqItems]
  | a :: as => by simp [beqItems, beq_self a, beqItems_self as]

theorem beqMembers_self : ∀ as : List (String × Json), beqMembers as as = true
  | [] => by simp [beqMembers]
  | (k, a) :: as => by simp [beqMembers, beq_self a, beqMembers_self as]

end

instance : DecidableEq Json := fun a b =>
  if h : beq a b then isTrue (eq_of_beq h)
  else isFalse fun e => h (e ▸ beq_self a)

/-- Writes one member: in place of the one of that name, else at its place in the order. -/
def Members.insert (name : String) (value : Json) : Members → Members
  | [] => [(name, value)]
  | (other, held) :: rest =>
      if name < other then (name, value) :: (other, held) :: rest
      else if name = other then (name, value) :: rest
      else (other, held) :: insert name value rest

/-- The last member of each name, in the order of the names. -/
def Members.ofList (members : List (String × Json)) : Members :=
  members.foldl (fun object member => Members.insert member.1 member.2 object) []

def Members.names (members : Members) : List String := members.map (·.1)

/-- An object of the last member of each name. -/
def object (members : List (String × Json)) : Json := .obj (Members.ofList members)

/-- The value under a name; null where there is none. -/
def member (value : Json) (name : String) : Json :=
  match value with
  | .obj members => (members.lookup name).getD .null
  | _ => .null

mutual

/-- Integers fit, and every object has its names in strictly increasing order. -/
def Canonical : Json → Prop
  | .int n => IsInteger n
  | .arr items => CanonicalItems items
  | .obj members => (members.map (·.1)).Pairwise (· < ·) ∧ CanonicalMembers members
  | _ => True

def CanonicalItems : List Json → Prop
  | [] => True
  | item :: rest => Canonical item ∧ CanonicalItems rest

def CanonicalMembers : List (String × Json) → Prop
  | [] => True
  | (_, value) :: rest => Canonical value ∧ CanonicalMembers rest

end

end Json

end BuildScheduler
