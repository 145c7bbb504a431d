import BuildScheduler.Json.Printer
import BuildScheduler.Json.Reader
import BuildScheduler.Proofs.Json.Values
import BuildScheduler.Proofs.Text.Digits

/-!
# Written values are read back

The compact text of a value without doubles is met as the node of that value, with nothing after
it, if no more than 127 compounds stand inside each other.
-/

namespace BuildScheduler.Json

/-! ## Numbers -/

namespace Number

/-- What can follow a value: the end of the text, or the next mark of the compound around it. -/
def Delimits (rest : List Char) : Prop := ∀ c ∈ rest.head?, c = ',' ∨ c = ']' ∨ c = '}'

theorem digits_of_all {ds : List Char} (hd : ∀ c ∈ ds, Text.isDigit c = true) {rest : List Char}
    (hr : Delimits rest) : digits (ds ++ rest) = (ds, rest) := by
  induction ds with
  | nil =>
      cases rest with
      | nil => rfl
      | cons c rest =>
          have hc : Text.isDigit c = false := by
            rcases hr c rfl with rfl | rfl | rfl
            · rfl
            · rfl
            · rfl
          simp only [List.nil_append, digits, hc, Bool.false_eq_true, if_false]
  | cons c ds ih =>
      obtain ⟨hc, hd⟩ := List.forall_mem_cons.1 hd
      simp only [List.cons_append, digits, hc, if_true, ih hd]

/-- Digits whose value fits 64 bits are all taken. -/
theorem accumulate_eq {ds : List Char} {value : Nat} (taken : Nat)
    (h : ds.foldl (fun n c => 10 * n + Text.digitValue c) value ≤ 18446744073709551615) :
    accumulate value taken ds =
      (ds.foldl (fun n c => 10 * n + Text.digitValue c) value, taken + ds.length) := by
  have hgrows : ∀ (ds : List Char) (value : Nat),
      value ≤ ds.foldl (fun n c => 10 * n + Text.digitValue c) value := by
    intro ds
    induction ds with
    | nil => exact fun value => Nat.le_refl value
    | cons c ds ih =>
        intro value
        have hstep := ih (10 * value + Text.digitValue c)
        rw [List.foldl_cons]
        omega
  induction ds generalizing value taken with
  | nil => rfl
  | cons c ds ih =>
      rw [List.foldl_cons] at h ⊢
      have hnext := Nat.le_trans (hgrows ds _) h
      rw [accumulate, if_pos hnext, ih (taken + 1) h, List.length_cons]
      congr 1
      omega

/-- The parts of an integer that is written in digits, after the minus sign if there is one. -/
theorem parts_of_digits {ds rest : List Char} (hne : ds ≠ [])
    (hd : ∀ c ∈ ds, Text.isDigit c = true) (hz : ¬ (ds.head? = some '0' ∧ 1 < ds.length))
    (hr : Delimits rest) :
    parts (ds ++ rest) = .ok (⟨false, ds, none, none⟩, rest) ∧
      parts ('-' :: (ds ++ rest)) = .ok (⟨true, ds, none, none⟩, rest) := by
  have hdigits := digits_of_all hd hr
  have hempty : ds.isEmpty = false := by
    cases ds with
    | nil => exact absurd rfl hne
    | cons c ds => rfl
  have hsign : ∀ tail, ds ++ rest ≠ '-' :: tail := by
    intro tail he
    cases ds with
    | nil => exact hne rfl
    | cons c ds =>
        cases he
        exact absurd (hd '-' List.mem_cons_self) (by decide)
  have hnext : rest = [] ∨
      ∃ tail, rest = ',' :: tail ∨ rest = ']' :: tail ∨ rest = '}' :: tail := by
    cases rest with
    | nil => exact .inl rfl
    | cons c tail =>
        rcases hr c rfl with rfl | rfl | rfl
        · exact .inr ⟨tail, .inl rfl⟩
        · exact .inr ⟨tail, .inr (.inl rfl)⟩
        · exact .inr ⟨tail, .inr (.inr rfl)⟩
  constructor
  · unfold parts
    split
    rename_i negative cs hcs
    split at hcs
    · rename_i tail he
      exact absurd he (hsign tail)
    · cases hcs
      simp only [hdigits, hempty, hz, if_false, Bool.false_eq_true]
      -- neither a point nor an exponent follows
      rcases hnext with rfl | ⟨tail, rfl | rfl | rfl⟩ <;> rfl
  · unfold parts
    simp only [hdigits, hempty, hz, if_false, Bool.false_eq_true]
    rcases hnext with rfl | ⟨tail, rfl | rfl | rfl⟩ <;> rfl

theorem node_of_digits {ds : List Char} (h : Text.natural ds ≤ 18446744073709551615) :
    node ⟨false, ds, none, none⟩ = .int (Text.natural ds) := by
  have hall : accumulate 0 0 ds = (Text.natural ds, ds.length) :=
    (accumulate_eq 0 h).trans (by rw [Nat.zero_add]; rfl)
  unfold node significand
  simp [hall]

theorem node_of_negative_digits {ds : List Char} (hpos : Text.natural ds ≠ 0)
    (h : Text.natural ds ≤ 9223372036854775808) :
    node ⟨true, ds, none, none⟩ = .int (-(Text.natural ds : Int)) := by
  have hall : accumulate 0 0 ds = (Text.natural ds, ds.length) :=
    (accumulate_eq 0 (Nat.le_trans h (by decide))).trans (by rw [Nat.zero_add]; rfl)
  have hlarge : ¬ (Text.natural ds = 0 ∨ 9223372036854775808 < Text.natural ds) := by omega
  unfold node significand
  simp [hall, hlarge]

theorem toString_ofNat (m : Nat) : (toString (Int.ofNat m)).toList = Nat.toDigits 10 m := by
  show (String.ofList (Nat.toDigits 10 m)).toList = _
  exact String.toList_ofList

theorem toString_negSucc (m : Nat) :
    (toString (Int.negSucc m)).toList = '-' :: Nat.toDigits 10 (m + 1) := by
  show ("-" ++ String.ofList (Nat.toDigits 10 (m + 1))).toList = _
  rw [String.toList_append]
  exact congrArg ('-' :: ·) String.toList_ofList

/-- An integer of at most 64 bits is read as it is written. -/
theorem read_toString {n : Int} (hn : IsInteger n) {rest : List Char} (hr : Delimits rest) :
    ∃ found, parts ((toString n).toList ++ rest) = .ok (found, rest) ∧ node found = .int n := by
  have hdigits : ∀ m : Nat, Nat.toDigits 10 m ≠ [] ∧
      (∀ c ∈ Nat.toDigits 10 m, Text.isDigit c = true) ∧
      ¬ ((Nat.toDigits 10 m).head? = some '0' ∧ 1 < (Nat.toDigits 10 m).length) := by
    intro m
    refine ⟨?_, fun c => Text.isDigit_of_mem_toDigits, fun hz => ?_⟩
    · exact List.length_pos_iff.1 Nat.length_toDigits_pos
    · have hzero := Text.head?_toDigits_eq_zero hz.1
      rw [hzero] at hz
      exact absurd hz.2 (by decide)
  obtain ⟨hlow, hhigh⟩ := hn
  cases n with
  | ofNat m =>
      obtain ⟨hne, hd, hz⟩ := hdigits m
      have hvalue := @node_of_digits (Nat.toDigits 10 m)
      rw [Text.natural_toDigits] at hvalue
      rw [toString_ofNat]
      exact ⟨_, (parts_of_digits hne hd hz hr).1, hvalue (Int.ofNat_le.1 hhigh)⟩
  | negSucc m =>
      obtain ⟨hne, hd, hz⟩ := hdigits (m + 1)
      have hvalue := @node_of_negative_digits (Nat.toDigits 10 (m + 1))
      rw [Text.natural_toDigits] at hvalue
      rw [toString_negSucc]
      exact ⟨_, (parts_of_digits hne hd hz hr).2, hvalue (by omega) (by omega)⟩

end Number

/-! ## Strings -/

namespace Reader

def withPiece (piece : Piece) (tail : Except Fault (List Piece × List Char)) :
    Except Fault (List Piece × List Char) := do
  let (tail, rest) ← tail
  pure (piece :: tail, rest)

/-- A code unit of a control character stands for it alone. -/
theorem codeUnit_control {n : Nat} (h : n < 32) (rest : List Char) :
    codeUnit ('0' :: '0' :: Text.hexChar (n / 16) :: Text.hexChar (n % 16) :: rest) =
      .ok (n, rest) := by
  have hhigh := Text.hexValue?_hexChar (n / 16) (by omega)
  have hlow := Text.hexValue?_hexChar (n % 16) (by omega)
  have hzero : Text.hexValue? '0' = some 0 := rfl
  have hvalue : ((0 * 16 + 0) * 16 + n / 16) * 16 + n % 16 = n := by omega
  unfold codeUnit
  simp only [hzero, hhigh, hlow, hvalue]

theorem pieces_of_control (fuel : Nat) {c : Char} (h : c.toNat < 32) (rest : List Char) :
    pieces (fuel + 1) ('\\' :: 'u' :: '0' :: '0' :: Text.hexChar (c.toNat / 16) ::
      Text.hexChar (c.toNat % 16) :: rest) = withPiece (some c) (pieces fuel rest) := by
  have hleading : isLeading c.toNat = false := by
    unfold isLeading
    simp only [Bool.and_eq_false_iff, decide_eq_false_iff_not]
    omega
  have htrailing : isTrailing c.toNat = false := by
    unfold isTrailing
    simp only [Bool.and_eq_false_iff, decide_eq_false_iff_not]
    omega
  have hpiece : unitPiece c.toNat = some c := by
    unfold unitPiece
    rw [hleading, htrailing, Char.ofNat_toNat]
    rfl
  rw [pieces, codeUnit_control h]
  simp only [bind, Except.bind, hleading, hpiece]
  rfl

theorem pieces_of_plain (fuel : Nat) {c : Char} (hq : c ≠ '"') (hb : c ≠ '\\')
    (h : ¬ c.toNat < 32) (rest : List Char) :
    pieces (fuel + 1) (c :: rest) = withPiece (some c) (pieces fuel rest) := by
  rw [pieces]
  · rw [if_neg h]
    rfl
  · exact hq
  · exact fun _ he _ => hb he
  · exact fun he _ => hb he
  · exact fun _ _ he _ => hb he

/-- An escaped character is read as the character. -/
theorem pieces_escape (fuel : Nat) (c : Char) (rest : List Char) :
    pieces (fuel + 1) (Printer.escape c ++ rest) = withPiece (some c) (pieces fuel rest) := by
  unfold Printer.escape
  split
  · rfl
  · rfl
  · rfl
  · rfl
  · rfl
  · rfl
  · rfl
  · rename_i hq hb _ _ _ _ _
    split
    · rename_i h
      exact pieces_of_control fuel h rest
    · rename_i h
      exact pieces_of_plain fuel hq hb h rest

theorem length_escape_pos (c : Char) : 0 < (Printer.escape c).length := by
  unfold Printer.escape
  split
  all_goals try exact Nat.succ_pos _
  split
  · exact Nat.succ_pos _
  · exact Nat.succ_pos _

theorem pieces_escaped {fuel : Nat} {text : List Char}
    (h : (text.flatMap Printer.escape).length < fuel) (rest : List Char) :
    pieces fuel (text.flatMap Printer.escape ++ '"' :: rest) = .ok (text.map some, rest) := by
  induction text generalizing fuel with
  | nil =>
      cases fuel with
      | zero => cases h
      | succ fuel => rfl
  | cons c text ih =>
      rw [List.flatMap_cons, List.length_append] at h
      have hpos := length_escape_pos c
      cases fuel with
      | zero => cases h
      | succ fuel =>
          rw [List.flatMap_cons, List.append_assoc, pieces_escape, ih (by omega)]
          rfl

theorem joinPieces_some (text : List Char) :
    joinPieces (text.map some) = some (String.ofList text) := by
  have hall : (text.map some).mapM id = some text := by
    induction text with
    | nil => rfl
    | cons c text ih =>
        rw [List.map_cons, List.mapM_cons, ih]
        rfl
  rw [joinPieces, hall]
  rfl

/-- A text is read back from its escaped form. -/
theorem string_escaped (text : String) (rest : List Char) :
    string (text.toList.flatMap Printer.escape ++ '"' :: rest) = .ok (some text, rest) := by
  unfold string
  rw [pieces_escaped (by rw [List.length_append]; omega)]
  show Except.ok (joinPieces (text.toList.map some), rest) = _
  rw [joinPieces_some, String.ofList_toList]

/-! ## Values -/

theorem skipSpace_cons {c : Char} (h : isSpace c = false) (rest : List Char) :
    skipSpace (c :: rest) = c :: rest := by
  unfold skipSpace
  rw [List.dropWhile_cons, h]
  rfl

def Begins (c : Char) : Prop := c = '-' ∨ Text.isDigit c = true

theorem isSpace_of_begins {c : Char} (h : Begins c) : isSpace c = false := by
  unfold isSpace
  simp only [Bool.or_eq_false_iff, beq_eq_false_iff_ne, ne_eq]
  refine ⟨⟨⟨?_, ?_⟩, ?_⟩, ?_⟩
  all_goals
    rintro rfl
    exact absurd h (by unfold Begins; decide)

theorem exists_cons_toString (n : Int) :
    ∃ c rest, (toString n).toList = c :: rest ∧ Begins c := by
  cases n with
  | ofNat m =>
      have hall : ∀ c ∈ Nat.toDigits 10 m, Text.isDigit c = true :=
        fun c => Text.isDigit_of_mem_toDigits
      have hpos : 0 < (Nat.toDigits 10 m).length := Nat.length_toDigits_pos
      rw [Number.toString_ofNat]
      cases hd : Nat.toDigits 10 m with
      | nil =>
          rw [hd] at hpos
          cases hpos
      | cons c rest => exact ⟨c, rest, rfl, .inr (hall c (hd ▸ List.mem_cons_self))⟩
  | negSucc m => exact ⟨'-', _, Number.toString_negSucc m, .inl rfl⟩

theorem value_of_number {c : Char} (h : Begins c) (fuel depth : Nat) (rest : List Char) :
    value (fuel + 1) depth (c :: rest) =
      match Number.parts (c :: rest) with
      | .error cause => (.fault cause, none)
      | .ok (parts, rest) => (Number.node parts, some rest) := by
  rw [value, skipSpace_cons (isSpace_of_begins h)]
  split
  all_goals rename_i he
  · cases he
  all_goals
    cases he
    first
      | exact absurd h (by unfold Begins; decide)
      | exact if_pos h

/-- The first character of a value. -/
theorem exists_cons_value (v : Json) (h : ∀ x, v ≠ .double x) :
    ∃ c rest, Printer.value v = c :: rest ∧ isSpace c = false ∧ c ≠ ']' := by
  cases v with
  | null => exact ⟨_, _, rfl, rfl, by decide⟩
  | bool value =>
      cases value with
      | true => exact ⟨_, _, rfl, rfl, by decide⟩
      | false => exact ⟨_, _, rfl, rfl, by decide⟩
  | int n =>
      obtain ⟨c, rest, hc, hb⟩ := exists_cons_toString n
      refine ⟨c, rest, by rw [Printer.value, hc], isSpace_of_begins hb, ?_⟩
      rintro rfl
      exact absurd hb (by unfold Begins; decide)
  | double x => exact absurd rfl (h x)
  | str text => exact ⟨_, _, by rw [Printer.value, Printer.string], rfl, by decide⟩
  | arr items =>
      cases items with
      | nil => exact ⟨_, _, by rw [Printer.value], rfl, by decide⟩
      | cons item rest => exact ⟨_, _, by rw [Printer.value], rfl, by decide⟩
  | obj members =>
      cases members with
      | nil => exact ⟨_, _, by rw [Printer.value], rfl, by decide⟩
      | cons member rest => exact ⟨_, _, by rw [Printer.value], rfl, by decide⟩

end Reader

mutual

/-- A value without doubles whose integers fit, and in which no more than that many compounds stand
inside each other. -/
def Plain : Json → Nat → Prop
  | .int n, _ => IsInteger n
  | .double _, _ => False
  | .arr _, 0 => False
  | .arr items, room + 1 => PlainItems items room
  | .obj _, 0 => False
  | .obj members, room + 1 => PlainMembers members room
  | _, _ => True

def PlainItems : List Json → Nat → Prop
  | [], _ => True
  | item :: rest, room => Plain item room ∧ PlainItems rest room

def PlainMembers : List (String × Json) → Nat → Prop
  | [], _ => True
  | (_, value) :: rest, room => Plain value room ∧ PlainMembers rest room

end

/-- A plain value is no double. -/
theorem Plain.ne_double {v : Json} {room : Nat} (h : v.Plain room) (x : Binary64) :
    v ≠ .double x := by
  rintro rfl
  simp only [Plain] at h

namespace Reader

open Number (Delimits)

/-! ## Steps of a reading -/

/-- A text that goes on with a value, as far as blanks and brackets go. -/
def Starts (cs : List Char) : Prop := ∃ c rest, cs = c :: rest ∧ isSpace c = false ∧ c ≠ ']'

theorem starts_value {v : Json} {room : Nat} (h : v.Plain room) (rest : List Char) :
    Starts (Printer.value v ++ rest) := by
  obtain ⟨c, more, hc, hs, hb⟩ := exists_cons_value v h.ne_double
  exact ⟨c, more ++ rest, by rw [hc, List.cons_append], hs, hb⟩

section Steps

variable {fuel depth : Nat} {cs rest : List Char} {node : Node}

theorem value_of_list (h : Starts cs) :
    value (fuel + 1) depth ('[' :: cs) =
      (atDepth depth (.arr (items fuel (depth + 1) cs).1 (items fuel (depth + 1) cs).2.1),
        (items fuel (depth + 1) cs).2.2) := by
  obtain ⟨c, more, rfl, hs, hb⟩ := h
  have hskip : skipSpace ('[' :: c :: more) = '[' :: c :: more := skipSpace_cons rfl _
  rw [value, hskip]
  simp only [skipSpace_cons hs]
  split
  · rename_i he
    cases he
    exact absurd rfl hb
  · rfl

theorem value_of_object (name : String) :
    value (fuel + 1) depth ('{' :: (Printer.string name ++ cs)) =
      (atDepth depth (.obj (members fuel (depth + 1) (Printer.string name ++ cs)).1
        (members fuel (depth + 1) (Printer.string name ++ cs)).2.1),
        (members fuel (depth + 1) (Printer.string name ++ cs)).2.2) := by
  have hquote : skipSpace (Printer.string name ++ cs) = Printer.string name ++ cs :=
    skipSpace_cons rfl _
  rw [value, skipSpace_cons rfl]
  simp only [hquote]
  rfl

theorem items_of_start (h : Starts cs) :
    items (fuel + 1) depth cs =
      match value fuel depth cs with
      | (node, none) => ([node], none, none)
      | (node, some rest) =>
          match skipSpace rest with
          | ']' :: rest => ([node], none, some rest)
          | ',' :: rest => (node :: (items fuel depth rest).1, (items fuel depth rest).2)
          | rest => ([node], some (wrong rest), none) := by
  obtain ⟨c, more, rfl, hs, hb⟩ := h
  rw [items, skipSpace_cons hs]
  split
  · rename_i he
    cases he
  · rename_i he
    cases he
    exact absurd rfl hb
  · rfl

theorem items_of_last (h : Starts cs) (hv : value fuel depth cs = (node, some (']' :: rest))) :
    items (fuel + 1) depth cs = ([node], none, some rest) := by
  have hskip : skipSpace (']' :: rest) = ']' :: rest := skipSpace_cons rfl _
  rw [items_of_start h, hv]
  simp only [hskip]

theorem items_of_next (h : Starts cs) (hv : value fuel depth cs = (node, some (',' :: rest))) :
    items (fuel + 1) depth cs = (node :: (items fuel depth rest).1, (items fuel depth rest).2) := by
  have hskip : skipSpace (',' :: rest) = ',' :: rest := skipSpace_cons rfl _
  rw [items_of_start h, hv]
  simp only [hskip]

theorem members_of_name (name : String) :
    members (fuel + 1) depth (Printer.string name ++ ':' :: cs) =
      match value fuel depth cs with
      | (node, none) => ([(some name, node)], none, none)
      | (node, some rest) =>
          match skipSpace rest with
          | '}' :: rest => ([(some name, node)], none, some rest)
          | ',' :: rest =>
              ((some name, node) :: (members fuel depth rest).1, (members fuel depth rest).2)
          | rest => ([(some name, node)], some (wrong rest), none) := by
  have hname : Printer.string name ++ ':' :: cs =
      '"' :: (name.toList.flatMap Printer.escape ++ '"' :: ':' :: cs) := by
    rw [Printer.string, List.cons_append, List.append_assoc]
    rfl
  have hquote : ∀ more, skipSpace ('"' :: more) = '"' :: more := fun more => skipSpace_cons rfl _
  have hcolon : skipSpace (':' :: cs) = ':' :: cs := skipSpace_cons rfl _
  rw [hname, members, hquote]
  simp only [string_escaped]
  generalize hr : skipSpace (':' :: cs) = more
  rw [hcolon] at hr
  subst hr
  rfl

theorem members_of_last (name : String) (hv : value fuel depth cs = (node, some ('}' :: rest))) :
    members (fuel + 1) depth (Printer.string name ++ ':' :: cs) =
      ([(some name, node)], none, some rest) := by
  have hskip : skipSpace ('}' :: rest) = '}' :: rest := skipSpace_cons rfl _
  rw [members_of_name, hv]
  simp only [hskip]

theorem members_of_next (name : String) (hv : value fuel depth cs = (node, some (',' :: rest))) :
    members (fuel + 1) depth (Printer.string name ++ ':' :: cs) =
      ((some name, node) :: (members fuel depth rest).1, (members fuel depth rest).2) := by
  have hskip : skipSpace (',' :: rest) = ',' :: rest := skipSpace_cons rfl _
  rw [members_of_name, hv]
  simp only [hskip]

end Steps

/-! ## Values -/

theorem delimits_moreItems (more : List Json) (rest : List Char) :
    Delimits (Printer.moreItems more ++ rest) := by
  cases more with
  | nil =>
      intro c hc
      cases hc
      exact .inr (.inl rfl)
  | cons item more =>
      rw [Printer.moreItems]
      intro c hc
      cases hc
      exact .inl rfl

theorem delimits_moreMembers (more : Members) (rest : List Char) :
    Delimits (Printer.moreMembers more ++ rest) := by
  cases more with
  | nil =>
      intro c hc
      cases hc
      exact .inr (.inr rfl)
  | cons member more =>
      rw [Printer.moreMembers]
      intro c hc
      cases hc
      exact .inl rfl

theorem length_value_pos {v : Json} {room : Nat} (h : v.Plain room) :
    0 < (Printer.value v).length := by
  obtain ⟨c, rest, hc, -⟩ := exists_cons_value v h.ne_double
  rw [hc]
  exact Nat.succ_pos _

theorem atDepth_of_lt {depth : Nat} (h : depth < 127) (node : Node) : atDepth depth node = node :=
  if_neg (Nat.not_le.2 h)

mutual

/-- The text of a value is met as its node. The fuel that a reading of the text starts with covers
its parts, as each of them leaves the marks of the compound around it. -/
theorem value_printed : ∀ (v : Json) {room : Nat}, v.Plain room → ∀ (fuel depth : Nat)
    {rest : List Char}, depth + room ≤ 127 → Delimits rest →
      2 * (Printer.value v).length ≤ fuel →
        value fuel depth (Printer.value v ++ rest) = (v.toNode, some rest)
  | v, _, hv, 0, _, _, _, _, hfuel => by
      have hpos := length_value_pos hv
      omega
  | .null, _, _, fuel + 1, _, _, _, _, _ => by
      rw [value]
      rfl
  | .bool flag, _, _, fuel + 1, _, _, _, _, _ => by
      cases flag with
      | true => rw [value]; rfl
      | false => rw [value]; rfl
  | .int n, _, hv, fuel + 1, depth, rest, _, hr, _ => by
      simp only [Plain] at hv
      obtain ⟨c, more, hc, hb⟩ := exists_cons_toString n
      obtain ⟨found, hp, hn⟩ := Number.read_toString hv hr
      rw [hc, List.cons_append] at hp
      rw [Printer.value, hc, List.cons_append, value_of_number hb]
      simp only [hp, hn]
      rfl
  | .double x, _, hv, _ + 1, _, _, _, _, _ => absurd rfl (hv.ne_double x)
  | .str text, _, _, fuel + 1, depth, rest, _, _, _ => by
      have htext : Printer.value (.str text) ++ rest =
          '"' :: (text.toList.flatMap Printer.escape ++ '"' :: rest) := by
        rw [Printer.value, Printer.string, List.cons_append, List.append_assoc]
        rfl
      rw [htext, value, skipSpace_cons rfl]
      simp only [string_escaped]
      rfl
  | .arr items, 0, hv, _, _, _, _, _, _ => by simp only [Plain] at hv
  | .arr [], room + 1, _, fuel + 1, depth, rest, hd, _, _ => by
      have hread : value (fuel + 1) depth (Printer.value (.arr []) ++ rest) =
          (atDepth depth (.arr [] none), some rest) := by
        rw [value]
        rfl
      rw [hread, atDepth_of_lt (by omega)]
      rfl
  | .arr (item :: more), room + 1, hv, fuel + 1, depth, rest, hd, _, hfuel => by
      simp only [Plain, PlainItems] at hv
      rw [Printer.value, List.length_cons, List.length_append] at hfuel
      have hitems := items_printed item more hv.1 hv.2 fuel (depth + 1) rest (by omega) (by omega)
      rw [Printer.value, List.cons_append, List.append_assoc,
        value_of_list (starts_value hv.1 _), hitems, atDepth_of_lt (by omega)]
      rfl
  | .obj members, 0, hv, _, _, _, _, _, _ => by simp only [Plain] at hv
  | .obj [], room + 1, _, fuel + 1, depth, rest, hd, _, _ => by
      have hread : value (fuel + 1) depth (Printer.value (.obj []) ++ rest) =
          (atDepth depth (.obj [] none), some rest) := by
        rw [value]
        rfl
      rw [hread, atDepth_of_lt (by omega)]
      rfl
  | .obj ((name, v) :: more), room + 1, hv, fuel + 1, depth, rest, hd, _, hfuel => by
      simp only [Plain, PlainMembers] at hv
      simp only [Printer.value, List.length_cons, List.length_append] at hfuel
      have hmembers := members_printed name v more hv.1 hv.2 fuel (depth + 1) rest (by omega)
        (by omega)
      have htext : Printer.value (.obj ((name, v) :: more)) ++ rest =
          '{' :: (Printer.string name ++ ':' :: (Printer.value v ++
            (Printer.moreMembers more ++ rest))) := by
        simp only [Printer.value, List.cons_append, List.append_assoc]
      rw [htext, value_of_object name, hmembers, atDepth_of_lt (by omega)]
      rfl
termination_by _ _ _ fuel => fuel

theorem items_printed : ∀ (item : Json) (more : List Json) {room : Nat}, item.Plain room →
    PlainItems more room → ∀ (fuel depth : Nat) (rest : List Char), depth + room ≤ 127 →
      2 * ((Printer.value item).length + (Printer.moreItems more).length) ≤ fuel →
        items fuel depth (Printer.value item ++ (Printer.moreItems more ++ rest)) =
          (item.toNode :: itemNodes more, none, some rest)
  | _, _, _, hi, _, 0, _, _, _, hfuel => by
      have hpos := length_value_pos hi
      omega
  | item, [], _, hi, _, fuel + 1, depth, rest, hd, hfuel => by
      rw [Printer.moreItems, List.length_singleton] at hfuel
      have hvalue := value_printed item hi fuel depth hd (delimits_moreItems [] rest) (by omega)
      exact items_of_last (starts_value hi _) hvalue
  | item, next :: more, _, hi, hm, fuel + 1, depth, rest, hd, hfuel => by
      simp only [PlainItems] at hm
      rw [Printer.moreItems, List.length_cons, List.length_append] at hfuel
      have hvalue := value_printed item hi fuel depth hd (delimits_moreItems (next :: more) rest)
        (by omega)
      have hitems := items_printed next more hm.1 hm.2 fuel depth rest hd (by omega)
      have hmark : Printer.moreItems (next :: more) ++ rest =
          ',' :: (Printer.value next ++ (Printer.moreItems more ++ rest)) := by
        rw [Printer.moreItems, List.cons_append, List.append_assoc]
      rw [hmark] at hvalue ⊢
      rw [items_of_next (starts_value hi _) hvalue, hitems, itemNodes]
termination_by _ _ _ _ _ fuel => fuel

theorem members_printed : ∀ (name : String) (v : Json) (more : Members) {room : Nat},
    v.Plain room → PlainMembers more room → ∀ (fuel depth : Nat) (rest : List Char),
      depth + room ≤ 127 →
      2 * ((Printer.string name).length + (Printer.value v).length +
        (Printer.moreMembers more).length) ≤ fuel →
        members fuel depth (Printer.string name ++ ':' :: (Printer.value v ++
          (Printer.moreMembers more ++ rest))) =
          ((some name, v.toNode) :: memberNodes more, none, some rest)
  | _, _, _, _, hv, _, 0, _, _, _, hfuel => by
      have hpos := length_value_pos hv
      omega
  | name, v, [], _, hv, _, fuel + 1, depth, rest, hd, hfuel => by
      rw [Printer.moreMembers, List.length_singleton] at hfuel
      have hvalue := value_printed v hv fuel depth hd (delimits_moreMembers [] rest) (by omega)
      exact members_of_last name hvalue
  | name, v, (next, w) :: more, _, hv, hm, fuel + 1, depth, rest, hd, hfuel => by
      simp only [PlainMembers] at hm
      simp only [Printer.moreMembers, List.length_cons, List.length_append] at hfuel
      have hvalue := value_printed v hv fuel depth hd
        (delimits_moreMembers ((next, w) :: more) rest) (by omega)
      have hmembers := members_printed next w more hm.1 hm.2 fuel depth rest hd (by omega)
      have hmark : Printer.moreMembers ((next, w) :: more) ++ rest =
          ',' :: (Printer.string next ++ ':' :: (Printer.value w ++
            (Printer.moreMembers more ++ rest))) := by
        simp only [Printer.moreMembers, List.cons_append, List.append_assoc]
      rw [hmark] at hvalue ⊢
      rw [members_of_next name hvalue, hmembers, memberNodes]
termination_by _ _ _ _ _ _ fuel => fuel

end

end Reader

/-- The compact text of a plain value is met as the node of the value. -/
theorem ofText_render {v : Json} (h : v.Plain 127) :
    Document.ofText v.render = ⟨v.toNode, none⟩ := by
  have hend : Number.Delimits [] := fun c hc => by cases hc
  have hv := Reader.value_printed v h (2 * (Printer.value v).length + 2) 0 (by decide) hend
    (by omega)
  rw [List.append_nil] at hv
  unfold Document.ofText render
  rw [String.toList_ofList]
  simp only [hv]
  rfl

end BuildScheduler.Json
