import BuildScheduler.BuildId

/-!
# Identifiers are given out once

The count in a new identifier tells those of one supply apart, up to `2 ^ 74` of them.
-/

namespace BuildScheduler

/-- The time does not make up for another count. -/
theorem BuildId.count_eq_of_ofTimeAndCount_eq {millis other count count' : Nat}
    (hc : count < twoTo 74) (hc' : count' < twoTo 74)
    (h : ofTimeAndCount millis count = ofTimeAndCount other count') : count = count' := by
  have h80 : twoTo 80 = 1208925819614629174706176 := rfl
  have h76 : twoTo 76 = 75557863725914323419136 := rfl
  have h74 : twoTo 74 = 18889465931478580854784 := rfl
  have h64 : twoTo 64 = 18446744073709551616 := rfl
  have h62 : twoTo 62 = 4611686018427387904 := rfl
  have h48 : twoTo 48 = 281474976710656 := rfl
  have h12 : twoTo 12 = 4096 := rfl
  have hbits := congrArg (fun id : BuildId => id.bits.toNat) h
  simp only [ofTimeAndCount, BitVec.toNat_ofNat, h80, h76, h64, h62, h48, h12] at hbits
  rw [h74] at hc hc'
  omega

namespace IdSupply

/-- Every identifier that was given out has as its count the number of those before it. -/
def Counted (supply : IdSupply) : Prop :=
  ∀ before id after, supply.given = before ++ id :: after →
    ∃ millis, id = BuildId.ofTimeAndCount millis after.length

theorem counted_new : Counted {} := by
  intro before id after h
  cases before with
  | nil => cases h
  | cons first rest => cases h

theorem Counted.next {supply : IdSupply} (h : supply.Counted) (millis : Nat) :
    (supply.next millis).2.Counted := by
  intro before id after hg
  cases before with
  | nil =>
      cases hg
      exact ⟨millis, rfl⟩
  | cons first rest => exact h rest id after (List.cons.inj hg).2

theorem Counted.next_not_mem {supply : IdSupply} (h : supply.Counted)
    (hr : supply.given.length < twoTo 74) (millis : Nat) :
    (supply.next millis).1 ∉ supply.given := by
  intro hm
  obtain ⟨before, after, hg⟩ := List.append_of_mem hm
  obtain ⟨other, he⟩ := h before _ after hg
  have hl : after.length < supply.given.length := by
    rw [hg, List.length_append, List.length_cons]
    omega
  have hcount := BuildId.count_eq_of_ofTimeAndCount_eq hr (Nat.lt_trans hl hr) he
  omega

end IdSupply

end BuildScheduler
