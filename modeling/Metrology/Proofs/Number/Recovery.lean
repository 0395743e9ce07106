import Metrology.Proofs.Number.Order

/-!
# A factor divided out of its product

The product of two doubles, divided by one of them again, is a number other than zero and infinity
exactly where the product is one (`isProper_mul_div_iff`).  Rounding the product moves the quotient
by less than half of the other factor, so that it does not vanish, and a quotient out of range would
need a product above the exact one beside the greatest double, where there is none
(`not_between`).
-/

open Float.Model (Format UnpackedFloat)
open Float.Model.UnpackedFloat

namespace Metrology.Binary64

variable {x y c : Float} {s t : Sign} {f : UnpackedFloat} {z : ℚ} {k m n : Nat} {e e' : Int}

/-! ## Numbers other than zero and infinity -/

/-- The double is a finite number other than zero. -/
def IsProper (x : Float) : Prop := ∃ s m e hm, x.toModel.unpack = .finite s m e hm

theorem isProper_iff : IsProper x ↔ x.isFinite = true ∧ (x == 0) = false := by
  have finite_eq : x.isFinite = x.toModel.unpack.isFinite := rfl
  have beq_eq : (x == 0) = x.toModel.unpack.beq (.zero .positive) := rfl
  rw [finite_eq, beq_eq, IsProper]
  rcases x.toModel.unpack with s | _ | s | ⟨s, m, e, hm⟩
  · simp [isFinite]
  · simp [isFinite]
  · simp [UnpackedFloat.beq, UnpackedFloat.compare]
  · cases s <;> simp [isFinite, UnpackedFloat.beq, UnpackedFloat.compare, hm]

theorem IsPositive.isProper (h : IsPositive x) : IsProper x := by
  obtain ⟨m, e, hm, unpacked⟩ := h
  exact ⟨_, m, e, hm, unpacked⟩

theorem IsProper.neg (h : IsProper x) : IsProper (-x) := by
  obtain ⟨s, m, e, hm, unpacked⟩ := h
  exact ⟨-s, m, e, hm, by rw [unpack_neg, unpacked]; rfl⟩

/-- The least double above zero. -/
def leastSize : ℚ := 2 ^ (-1074 : Int)

/-- The last place of the greatest doubles. -/
def greatestPlace : ℚ := 2 ^ (971 : Int)

/-- The greatest double. -/
def greatestSize : ℚ := (2 ^ 53 - 1) * greatestPlace

theorem leastSize_pos : 0 < leastSize := zpow_pos two_pos _

theorem greatestPlace_pos : 0 < greatestPlace := zpow_pos two_pos _

theorem one_le_greatestPlace : 1 ≤ greatestPlace := one_le_zpow₀ one_le_two (by norm_num)

theorem half_le_greatestSize : 1 / 2 ≤ greatestSize / 2 ^ 53 := by
  have place := one_le_greatestPlace
  rw [greatestSize, le_div_iff₀ (by norm_num)]
  linarith only [place]

theorem leastSize_half : leastSize / 2 = 2 ^ (-1075 : Int) := (zpow_sub_one₀ two_ne_zero _).symm

theorem IsProper.size_bounds (h : IsProper x) :
    leastSize ≤ size x.toModel.unpack ∧ size x.toModel.unpack ≤ greatestSize := by
  have canonical : IsCanonical x.toModel.unpack := isCanonical_unpack _
  obtain ⟨s, m, e, hm, unpacked⟩ := h
  have exponent : e ≤ 971 := exponent_unpack_le unpacked
  rw [unpacked] at canonical ⊢
  obtain ⟨bits, least, -⟩ := (isCanonical_iff hm).1 canonical
  have one : (1 : ℚ) ≤ m := by exact_mod_cast hm
  have bits : (m : ℚ) ≤ 2 ^ 53 - 1 := by
    rw [le_sub_iff_add_le]
    exact_mod_cast bits
  constructor
  · calc leastSize ≤ 2 ^ e := zpow_le_zpow_right₀ one_le_two least
      _ ≤ m * 2 ^ e := le_mul_of_one_le_left (zpow_pos two_pos e).le one
  · exact mul_le_mul bits (zpow_le_zpow_right₀ one_le_two exponent) (zpow_pos two_pos e).le
      (by norm_num)

theorem IsProper.size_pos (h : IsProper x) : 0 < size x.toModel.unpack :=
  leastSize_pos.trans_le h.size_bounds.1

theorem mul_zpow_le_of_exponent_lt (bits : m < 2 ^ 53) (less : e < 971) :
    (m : ℚ) * 2 ^ e ≤ greatestSize - greatestPlace := by
  have power := greatestPlace_pos
  have bits : (m : ℚ) ≤ 2 ^ 53 := by exact_mod_cast bits.le
  have half : (2 : ℚ) ^ e ≤ greatestPlace / 2 := by
    have place : greatestPlace / 2 = 2 ^ (970 : Int) := (zpow_sub_one₀ two_ne_zero _).symm
    rw [place]
    exact zpow_le_zpow_right₀ one_le_two (by omega)
  calc (m : ℚ) * 2 ^ e ≤ 2 ^ 53 * (greatestPlace / 2) :=
        mul_le_mul bits half (zpow_pos two_pos e).le (by norm_num)
    _ ≤ greatestSize - greatestPlace := by
      rw [greatestSize]
      linarith

/-- The doubles below the greatest one are below it by its last place or more. -/
theorem IsProper.size_eq_or (h : IsProper x) : size x.toModel.unpack = greatestSize ∨
    size x.toModel.unpack ≤ greatestSize - greatestPlace := by
  have canonical : IsCanonical x.toModel.unpack := isCanonical_unpack _
  obtain ⟨s, m, e, hm, unpacked⟩ := h
  have exponent : e ≤ 971 := exponent_unpack_le unpacked
  rw [unpacked] at canonical ⊢
  obtain ⟨bits, -, -⟩ := (isCanonical_iff hm).1 canonical
  rcases exponent.lt_or_eq with less | rfl
  · exact .inr (mul_zpow_le_of_exponent_lt bits less)
  · rcases Nat.lt_or_ge m (2 ^ 53 - 1) with less | full
    · right
      have bits : (m : ℚ) ≤ 2 ^ 53 - 2 := by
        rw [le_sub_iff_add_le]
        exact_mod_cast (by omega : m + 2 ≤ 2 ^ 53)
      calc (m : ℚ) * greatestPlace ≤ (2 ^ 53 - 2) * greatestPlace :=
            mul_le_mul_of_nonneg_right bits greatestPlace_pos.le
        _ = greatestSize - greatestPlace := by
          rw [greatestSize]
          ring
    · left
      have bits : (m : ℚ) = 2 ^ 53 - 1 := by
        rw [eq_sub_iff_add_eq]
        exact_mod_cast (by omega : m + 1 = 2 ^ 53)
      rw [size, bits]
      rfl

/-! ## Rounding in the range of doubles -/

theorem Rounds.size_pos (rounds : Rounds s z f) (above : leastSize / 2 < z) : 0 < size f := by
  have positive : 0 < z := (half_pos leastSize_pos).trans above
  have error : max (z / 2 ^ 53) (2 ^ (-1075 : Int)) < z :=
    max_lt (div_lt_self positive (by norm_num)) (leastSize_half ▸ above)
  linarith [(abs_le.1 rounds.error).1]

/-- Rounding comes to more than half of the number, unless it comes to zero. -/
theorem Rounds.lt_two_mul_size (rounds : Rounds s z f) (positive : 0 < z)
    (least : leastSize ≤ size f) : z < 2 * size f := by
  have error := (abs_le.1 rounds.error).1
  rw [← leastSize_half] at error
  rcases le_total (z / 2 ^ 53) (leastSize / 2) with small | great
  · rw [max_eq_right small] at error
    linarith
  · rw [max_eq_left great] at error
    linarith

/-- A number between the least double, halved, and the greatest is rounded to a proper double. -/
theorem isProper_of_rounds (rounds : Rounds s z f) (unpacked : x.toModel.unpack = saturate f)
    (above : leastSize / 2 < z) (below : z ≤ greatestSize) : IsProper x := by
  have positive := rounds.size_pos above
  obtain rfl | ⟨m, e, hm, rfl⟩ := rounds.kind
  · exact absurd positive (lt_irrefl 0)
  have small : (m : ℚ) * 2 ^ e < 2 ^ (1024 : Int) := by
    have error := (abs_le.1 rounds.error).2
    have power : (2 : ℚ) ^ (1024 : Int) = 2 ^ 53 * greatestPlace := zpow_add₀ two_ne_zero 53 971
    have least : (2 : ℚ) ^ (-1075 : Int) < greatestPlace :=
      zpow_lt_zpow_right₀ one_lt_two (by norm_num)
    have place := greatestPlace_pos
    rw [greatestSize] at below
    have last : max (z / 2 ^ 53) (2 ^ (-1075 : Int)) < greatestPlace := by
      refine max_lt ?_ least
      rw [div_lt_iff₀ (by norm_num)]
      linarith only [below, place]
    rw [size] at error
    rw [power]
    linarith only [error, last, below]
  have exponent := exponent_le_of_size_lt rounds.canonical small
  rw [saturate, if_neg (by omega)] at unpacked
  exact ⟨s, m, e, hm, unpacked⟩

/-! ## Products and quotients -/

theorem IsProper.exists_rounds_mul (h : IsProper x) (h' : IsProper y) :
    ∃ s f, Rounds s (size x.toModel.unpack * size y.toModel.unpack) f ∧
      (x * y).toModel.unpack = saturate f := by
  have canonical : IsCanonical x.toModel.unpack := isCanonical_unpack _
  have canonical' : IsCanonical y.toModel.unpack := isCanonical_unpack _
  have product := unpack_mul x y
  obtain ⟨s, m, e, hm, unpacked⟩ := h
  obtain ⟨t, n, e', hn, unpacked'⟩ := h'
  rw [unpacked] at canonical product ⊢
  rw [unpacked'] at canonical' product ⊢
  exact ⟨_, _, rounds_mul canonical canonical', product⟩

theorem IsProper.exists_rounds_div (h : IsProper x) (h' : IsProper y) :
    ∃ s f, Rounds s (size x.toModel.unpack / size y.toModel.unpack) f ∧
      (x / y).toModel.unpack = saturate f := by
  have quotient := unpack_div x y
  obtain ⟨s, m, e, hm, unpacked⟩ := h
  obtain ⟨t, n, e', hn, unpacked'⟩ := h'
  rw [unpacked] at quotient ⊢
  rw [unpacked'] at quotient ⊢
  exact ⟨_, _, rounds_div, quotient⟩

/-- A product that is zero or infinite stays so when it is divided. -/
theorem isProper_of_div (h : IsProper c) (h' : IsProper (x / c)) : IsProper x := by
  obtain ⟨t, n, e', hn, unpacked⟩ := h
  have quotient := unpack_div x c
  rw [unpacked] at quotient
  obtain ⟨s, m, e, hm, proper⟩ := h'
  rw [proper] at quotient
  rcases unpacked' : x.toModel.unpack with s | _ | s | ⟨s, m, e, hm⟩ <;> rw [unpacked'] at quotient
  · cases quotient
  · cases quotient
  · cases quotient
  · exact ⟨s, m, e, hm, unpacked'⟩

/-- Between the exact product with the greatest double and the one with the next power of two there
is no double. -/
theorem not_between {r : Nat} (hk : k < 2 ^ 53) (hn : n < 2 ^ 53) (full : 2 ^ 52 ≤ n ∨ r ≤ 53)
    (above : k * (2 ^ 53 - 1) < n * 2 ^ r) : k * 2 ^ 53 ≤ n * 2 ^ r := by
  have small : k < 2 ^ r := by
    by_contra great
    have : n * 2 ^ r ≤ (2 ^ 53 - 1) * k := Nat.mul_le_mul (by omega) (not_lt.1 great)
    omega
  by_contra below
  rw [not_le] at below
  rcases Nat.lt_or_ge 53 r with long | short
  · have full : 2 ^ 52 ≤ n := full.resolve_right (by omega)
    have : 2 ^ 52 * 2 ^ 54 ≤ n * 2 ^ r :=
      Nat.mul_le_mul full (Nat.pow_le_pow_right two_pos long)
    omega
  · have split : k * 2 ^ 53 = k * 2 ^ (53 - r) * 2 ^ r := by
      rw [mul_assoc, ← pow_add, Nat.sub_add_cancel short]
    rw [split] at below
    have next : (n + 1) * 2 ^ r ≤ k * 2 ^ (53 - r) * 2 ^ r :=
      Nat.mul_le_mul_right _ (Nat.lt_of_mul_lt_mul_right below)
    rw [← split, add_one_mul] at next
    omega

theorem not_between_zpow {i : Int} (positive : 0 < k) (hk : k < 2 ^ 53) (hn : n < 2 ^ 53)
    (full : 2 ^ 52 ≤ n ∨ i ≤ 53) (above : (k : ℚ) * (2 ^ 53 - 1) < n * 2 ^ i) :
    (k : ℚ) * 2 ^ 53 ≤ n * 2 ^ i := by
  rcases lt_or_ge i 0 with negative | natural
  · have shrunk : (n : ℚ) * 2 ^ i ≤ n :=
      mul_le_of_le_one_right (Nat.cast_nonneg n) (zpow_le_one_of_nonpos₀ one_le_two negative.le)
    have one : (1 : ℚ) ≤ k := by exact_mod_cast positive
    have bits : (n : ℚ) + 1 ≤ 2 ^ 53 := by exact_mod_cast hn
    linarith
  · obtain ⟨r, rfl⟩ := Int.eq_ofNat_of_zero_le natural
    have last : ((2 ^ 53 - 1 : Nat) : ℚ) = 2 ^ 53 - 1 := by norm_num
    rw [zpow_natCast, ← last] at above
    rw [zpow_natCast]
    exact_mod_cast not_between hk hn (full.imp_right fun _ => by omega) (by exact_mod_cast above)

theorem Rounds.sub_mul_greatest_le (h : IsProper c)
    (rounds : Rounds s (size c.toModel.unpack * greatestSize) f) :
    size f - size c.toModel.unpack * greatestSize ≤
      size c.toModel.unpack * greatestSize / 2 ^ 53 := by
  refine (abs_le.1 rounds.error).2.trans (max_le le_rfl ?_)
  rw [← leastSize_half, mul_div_assoc, div_eq_mul_one_div]
  exact mul_le_mul h.size_bounds.1 half_le_greatestSize (by norm_num) (size_nonneg _)

/-- A product with the greatest double is not rounded up. -/
theorem Rounds.size_le_mul_greatest (h : IsProper c)
    (rounds : Rounds s (size c.toModel.unpack * greatestSize) f) :
    size f ≤ size c.toModel.unpack * greatestSize := by
  have canonical : IsCanonical c.toModel.unpack := isCanonical_unpack _
  have error := rounds.sub_mul_greatest_le h
  obtain ⟨t, k, e, hk, unpacked⟩ := h
  rw [unpacked] at canonical error rounds ⊢
  obtain ⟨bits, least', -⟩ := (isCanonical_iff hk).1 canonical
  obtain rfl | ⟨n, e', hn, rfl⟩ := rounds.kind
  · exact mul_nonneg (size_nonneg _) (mul_pos (by norm_num) greatestPlace_pos).le
  obtain ⟨bits', -, full⟩ := (isCanonical_iff hn).1 rounds.canonical
  by_contra above
  rw [not_le] at above
  -- The number of last places of the product, which is whole.
  have unit : (0 : ℚ) < 2 ^ e * greatestPlace := mul_pos (zpow_pos two_pos e) greatestPlace_pos
  have product : size (.finite t k e hk) * greatestSize =
      k * (2 ^ 53 - 1) * (2 ^ e * greatestPlace) := by
    rw [size, greatestSize]
    ring
  have rounded : size (.finite s n e' hn) =
      n * 2 ^ (e' - (e + 971)) * (2 ^ e * greatestPlace) := by
    rw [size, greatestPlace, ← zpow_add₀ two_ne_zero, mul_assoc, ← zpow_add₀ two_ne_zero,
      sub_add_cancel]
  rw [product, rounded] at above error
  have above : (k : ℚ) * (2 ^ 53 - 1) < n * 2 ^ (e' - (e + 971)) :=
    lt_of_mul_lt_mul_right above unit.le
  have below : (n : ℚ) * 2 ^ (e' - (e + 971)) < k * 2 ^ 53 := by
    rw [← sub_mul, mul_div_right_comm] at error
    have error := le_of_mul_le_mul_right error unit
    have positive : (0 : ℚ) < k := by exact_mod_cast hk
    linarith
  refine below.not_ge (not_between_zpow hk bits bits' ?_ above)
  exact full.imp_right fun _ => by omega

/-- The quotient of a rounded product by a factor does not vanish. -/
theorem IsProper.lt_quotient (h : IsProper c) (h' : IsProper y)
    (rounds : Rounds s (size c.toModel.unpack * size y.toModel.unpack) f)
    (nonzero : leastSize ≤ size f) : leastSize / 2 < size f / size c.toModel.unpack := by
  have positive := h.size_pos
  have least := h'.size_bounds.1
  have half := rounds.lt_two_mul_size (mul_pos positive h'.size_pos) nonzero
  rw [lt_div_iff₀ positive]
  calc leastSize / 2 * size c.toModel.unpack
      ≤ size c.toModel.unpack * size y.toModel.unpack / 2 := by
        rw [div_mul_eq_mul_div, mul_comm]
        gcongr
    _ < size f := by linarith

/-- A product with a double below the greatest is rounded by less than the product with its last
place. -/
theorem Rounds.sub_le_mul_greatestPlace (h : IsProper c)
    (rounds : Rounds s (size c.toModel.unpack * z) f) (less : z ≤ greatestSize - greatestPlace) :
    size f - size c.toModel.unpack * z ≤ size c.toModel.unpack * greatestPlace := by
  have place := one_le_greatestPlace
  refine (abs_le.1 rounds.error).2.trans (max_le ?_ ?_)
  · rw [mul_div_assoc]
    refine mul_le_mul_of_nonneg_left ?_ (size_nonneg _)
    rw [greatestSize] at less
    rw [div_le_iff₀ (by norm_num)]
    linarith only [less, place]
  · rw [← leastSize_half]
    calc leastSize / 2 ≤ leastSize * 1 := by linarith only [leastSize_pos]
      _ ≤ size c.toModel.unpack * greatestPlace :=
        mul_le_mul h.size_bounds.1 place zero_le_one (size_nonneg _)

/-- The quotient of a rounded product by a factor is no greater than the greatest double. -/
theorem IsProper.quotient_le (h : IsProper c) (h' : IsProper y)
    (rounds : Rounds s (size c.toModel.unpack * size y.toModel.unpack) f) :
    size f / size c.toModel.unpack ≤ greatestSize := by
  have positive := h.size_pos
  rw [div_le_iff₀ positive, mul_comm]
  rcases h'.size_eq_or with greatest | less
  · rw [greatest] at rounds
    exact rounds.size_le_mul_greatest h
  · calc size f ≤ size c.toModel.unpack * size y.toModel.unpack +
          size c.toModel.unpack * greatestPlace :=
          sub_le_iff_le_add'.1 (rounds.sub_le_mul_greatestPlace h less)
      _ ≤ size c.toModel.unpack * (greatestSize - greatestPlace) +
          size c.toModel.unpack * greatestPlace := by gcongr
      _ = size c.toModel.unpack * greatestSize := by ring

/-- The product of two numbers, divided by the first of them, is a number other than zero and
infinity exactly where the product is one. -/
theorem isProper_mul_div_iff (h : IsProper c) (h' : IsProper y) :
    IsProper (c * y / c) ↔ IsProper (c * y) := by
  constructor
  · exact isProper_of_div h
  · intro product
    obtain ⟨s, f, rounds, unpacked⟩ := h.exists_rounds_mul h'
    obtain ⟨t, g, quotient, unpacked'⟩ := product.exists_rounds_div h
    have kept : (c * y).toModel.unpack = f := by
      obtain ⟨t, m, e, hm, proper⟩ := product
      rw [unpacked] at proper ⊢
      cases f with
      | finite t m e hm =>
        rw [saturate] at proper ⊢
        split_ifs at proper ⊢
        rfl
      | _ => cases proper
    rw [kept] at quotient
    have above := h.lt_quotient h' rounds (kept ▸ product.size_bounds.1)
    exact isProper_of_rounds quotient unpacked' above (h.quotient_le h' rounds)

end Metrology.Binary64
