import BuildScheduler.BuildId
import Mathlib.Data.List.Basic

/-!
# Spellings of identifiers

An identifier is spelled by its 32 hexadecimal digits in either case: bare, in groups, in groups
between braces, or as a URN. Every spelling is read as the identifier that is spelled, and the text
that it is written as is one of its spellings.
-/

namespace BuildScheduler

/-! ## Digits -/

namespace Text

theorem hexValue?_toLower (c : Char) : hexValue? c.toLower = hexValue? c := by
  by_cases hu : c.isUpper = true
  · have hall : ∀ n < 91, 65 ≤ n →
        hexValue? (Char.ofNat n).toLower = hexValue? (Char.ofNat n) := by decide
    have hc : Char.ofNat c.toNat = c := Char.ofNat_toNat c
    have hbounds : 65 ≤ c.toNat ∧ c.toNat ≤ 90 := of_decide_eq_true hu
    have hone := hall c.toNat (by omega) hbounds.1
    rwa [hc] at hone
  · have hsame : c.toLower = c := dif_neg fun h => hu (decide_eq_true h)
    rw [hsame]

end Text

namespace BuildId

/-- The value that the first digits of a number of 32 digits have. -/
theorem hexNatural_digits {n : Nat} (hn : n < Nat.pow 16 32) (count : Nat) (hc : count ≤ 32) :
    Text.hexNatural ((List.range count).map fun place => n / Nat.pow 16 (31 - place) % 16) =
      n / Nat.pow 16 (32 - count) := by
  induction count with
  | zero => exact (Nat.div_eq_of_lt hn).symm
  | succ count ih =>
      have hpow : Nat.pow 16 (32 - count) = Nat.pow 16 (31 - count) * 16 := by
        rw [show 32 - count = 31 - count + 1 by omega]
        rfl
      have hplace : 32 - (count + 1) = 31 - count := by omega
      have hfirst := ih (by omega)
      unfold Text.hexNatural at hfirst ⊢
      rw [List.range_succ, List.map_append, List.foldl_append, hfirst, hpow,
        ← Nat.div_div_eq_div_mul, hplace]
      exact Nat.div_add_mod (n / Nat.pow 16 (31 - count)) 16

theorem length_digits (id : BuildId) : id.digits.length = 32 := by
  simp [digits]

/-- The digits of an identifier are read as it, in either case. -/
theorem ofDigits?_of_lower {id : BuildId} {ds : List Char} (h : ds.map Char.toLower = id.digits) :
    ofDigits? ds = some id := by
  have hlength : ds.length = 32 := by
    rw [← length_digits id, ← h, List.length_map]
  have hvalues : ds.mapM Text.hexValue? =
      some ((List.range 32).map fun place => id.bits.toNat / Nat.pow 16 (31 - place) % 16) := by
    have hlower : Text.hexValue? ∘ Char.toLower = Text.hexValue? :=
      funext Text.hexValue?_toLower
    have hdigit : Text.hexValue? ∘ id.digit =
        fun place => pure (id.bits.toNat / Nat.pow 16 (31 - place) % 16) :=
      funext fun place => Text.hexValue?_hexChar _ (Nat.mod_lt _ (by decide))
    rw [← hlower, ← List.mapM_map, h, digits, List.mapM_map, hdigit, List.mapM_pure]
    rfl
  have hbits : id.bits.toNat < Nat.pow 16 32 := id.bits.isLt
  have hwhole : id.bits.toNat / Nat.pow 16 (32 - 32) = id.bits.toNat := Nat.div_one _
  unfold ofDigits?
  rw [if_pos hlength, hvalues, Option.map_some, hexNatural_digits hbits 32 (Nat.le_refl 32),
    hwhole, BitVec.ofNat_toNat, BitVec.setWidth_eq]

/-! ## Groups of digits -/

/-- Digits in their groups. -/
theorem exists_groups {ds : List Char} (h : ds.length = 32) : ∃ a b c d e : List Char,
    ds = a ++ (b ++ (c ++ (d ++ e))) ∧ a.length = 8 ∧ b.length = 4 ∧ c.length = 4 ∧
      d.length = 4 ∧ e.length = 12 := by
  have hsplit : ∀ place, (ds.drop place).take 4 ++ ds.drop (place + 4) = ds.drop place := by
    intro place
    rw [← List.drop_drop, List.take_append_drop]
  refine ⟨ds.take 8, (ds.drop 8).take 4, (ds.drop 12).take 4, (ds.drop 16).take 4, ds.drop 20,
    ?_, ?_, ?_, ?_, ?_, ?_⟩
  · rw [hsplit 16, hsplit 12, hsplit 8, List.take_append_drop]
  all_goals simp [h]

theorem unhyphenate?_hyphenate {ds : List Char} (h : ds.length = 32) :
    (hyphenate ds).length = 36 ∧ unhyphenate? (hyphenate ds) = some ds := by
  obtain ⟨a, b, c, d, e, rfl, ha, hb, hc, hd, he⟩ := exists_groups h
  have hgroups : hyphenate (a ++ (b ++ (c ++ (d ++ e)))) =
      a ++ '-' :: (b ++ '-' :: (c ++ '-' :: (d ++ '-' :: e))) := by
    simp [hyphenate, List.drop_append, List.drop_eq_nil_of_le, ha, hb, hc, hd]
  rw [hgroups]
  constructor
  · simp [ha, hb, hc, hd, he]
  · simp [unhyphenate?, List.drop_append, List.drop_eq_nil_of_le, ha, hb, hc, hd, he]

theorem ofHyphenated?_hyphenate {id : BuildId} {ds : List Char}
    (h : ds.map Char.toLower = id.digits) : ofHyphenated? (hyphenate ds) = some id := by
  have hlength : ds.length = 32 := by
    rw [← length_digits id, ← h, List.length_map]
  rw [ofHyphenated?, (unhyphenate?_hyphenate hlength).2]
  exact ofDigits?_of_lower h

/-! ## Spellings -/

inductive Form where
  | bare
  | hyphenated
  | braced
  | urn
deriving DecidableEq

def Form.chars (ds : List Char) : Form → List Char
  | bare => ds
  | hyphenated => hyphenate ds
  | braced => '\x7b' :: (hyphenate ds ++ ['\x7d'])
  | urn => "urn:uuid:".toList ++ hyphenate ds

/-- The text has the digits of the identifier, in either case, in some form. -/
def Spells (id : BuildId) (text : String) : Prop :=
  ∃ (form : Form) (ds : List Char),
    text.toList = form.chars ds ∧ ds.map Char.toLower = id.digits

/-- Which form characters are read in depends on how many they are. -/
theorem ofChars?_of_length {cs : List Char} :
    (cs.length = 32 → ofChars? cs = ofDigits? cs) ∧
      (cs.length = 36 → ofChars? cs = ofHyphenated? cs) ∧
      (cs.length = 38 ∧ cs.head? = some '\x7b' ∧ cs.getLast? = some '\x7d' →
        ofChars? cs = ofHyphenated? ((cs.drop 1).take 36)) ∧
      (cs.length = 45 ∧ (cs.take 9).map Char.toLower = "urn:uuid:".toList →
        ofChars? cs = ofHyphenated? (cs.drop 9)) := by
  unfold ofChars?
  refine ⟨fun h => ?_, fun h => ?_, fun h => ?_, fun h => ?_⟩
  · rw [if_pos h]
  · rw [if_neg (by omega), if_pos h]
  · rw [if_neg (by omega), if_neg (by omega), if_pos h]
  · rw [if_neg (by omega), if_neg (by omega), if_neg (by omega), if_pos h]

/-- Every spelling of an identifier is read as it. -/
theorem ofText?_of_spells {id : BuildId} {text : String} (h : id.Spells text) :
    ofText? text = some id := by
  obtain ⟨form, ds, ht, hd⟩ := h
  have hlength : ds.length = 32 := by
    rw [← length_digits id, ← hd, List.length_map]
  have hgroups := (unhyphenate?_hyphenate hlength).1
  have hread := ofHyphenated?_hyphenate hd
  unfold ofText?
  rw [ht]
  cases form with
  | bare =>
      show ofChars? ds = some id
      rw [ofChars?_of_length.1 hlength]
      exact ofDigits?_of_lower hd
  | hyphenated =>
      show ofChars? (hyphenate ds) = some id
      rw [ofChars?_of_length.2.1 hgroups]
      exact hread
  | braced =>
      have hlast : (('\x7b' :: hyphenate ds) ++ ['\x7d']).getLast? = some '\x7d' :=
        List.getLast?_concat
      show ofChars? (('\x7b' :: hyphenate ds) ++ ['\x7d']) = some id
      rw [ofChars?_of_length.2.2.1 ⟨by simp [hgroups], rfl, hlast⟩, List.cons_append, List.drop_one,
        List.tail_cons, List.take_left' hgroups]
      exact hread
  | urn =>
      show ofChars? ("urn:uuid:".toList ++ hyphenate ds) = some id
      rw [ofChars?_of_length.2.2.2 ⟨by simp [hgroups], rfl⟩]
      exact hread

theorem spells_toText (id : BuildId) : id.Spells id.toText := by
  have hchar : ∀ n < 16, (Text.hexChar n).toLower = Text.hexChar n := by decide
  have hlower : id.digits.map Char.toLower = id.digits := by
    unfold digits
    rw [List.map_map]
    exact List.map_congr_left fun place _ => hchar _ (Nat.mod_lt _ (by decide))
  exact ⟨.hyphenated, id.digits, String.toList_ofList, hlower⟩

end BuildId

end BuildScheduler
