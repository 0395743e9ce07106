import Metrology.Proofs.Number.Recovery
import Metrology.Proofs.Parser.Coefficients
import Metrology.Proofs.Parser.ExtensionSymbols

/-!
# Magnitudes of units behind a coefficient

The magnitude of the unit of a text is not kept when the text is parsed: it is the quantity divided
by the coefficient again.  So it is a finite number other than zero if and only if the magnitude of
the quantity is one (`Parser.unit_isProper_iff`).
-/

namespace Metrology.Parser

open Expression Binary64

variable {p : Parser} {source unit : String} {t : List Char} {x : Float} {q : Quantity}

/-- A parse that succeeds leaves the magnitude of its quantity without the coefficient. -/
theorem prefixFactor_parse (ok : (p.parse source).result = .ok q) :
    (p.parse source).parser.state.prefixFactor =
      unitMagnitude q (p.parse source).parser.state.numericalValue := by
  have zero := zero_notMem_of_parse_ok ok
  rw [parse_of_zero_notMem zero] at ok ⊢
  unfold parseText at ok ⊢
  dsimp only at ok ⊢
  split at ok
  · cases ok
  · cases ok
  · cases ok
    rfl

section

variable (behind : Coefficient (Text.trim source.toList) (some x) t)
  (alone : Coefficient (Text.trim unit.toList) none t) (parsed : (p.parse unit).result = .ok q)

include behind alone parsed

/-- Behind a coefficient a text is accepted that is accepted alone. -/
theorem result_behind : (p.parse source).result = .ok (q.scale x) ∧
    (p.parse source).parser.state.numericalValue = x := by
  have zero := zero_notMem_of_parse_ok parsed
  have inside : '\x00' ∉ t := by
    obtain ⟨w, text, -⟩ : Passes ['\x00'] (Text.trim unit.toList) t :=
      passes_coefficient (by decide) (by decide) (by decide) alone
    rw [text] at zero
    exact fun member => zero (List.mem_append_right w member)
  have zero' := zero_notMem_of_coefficient behind inside
  rw [result_parse zero alone] at parsed
  refine ⟨?_, numericalValue_parse zero' behind⟩
  rw [result_parse zero' behind]
  cases verdict : p.verdict t with
  | error refused =>
    rw [verdict] at parsed
    cases parsed
  | ok u =>
    rw [verdict, answered, Option.getD_none, Quantity.scale_one] at parsed
    cases parsed
    rfl

/-- The unit behind a coefficient is the quantity divided by the coefficient. -/
theorem unit_behind (nonzero : (x == 0) = false) :
    (p.parse source).parser.state.prefixFactor = x * q.value / x ∧
      p.unit source = .ok ⟨q.dimension, x * q.value / x⟩ := by
  obtain ⟨result, coefficient⟩ := result_behind behind alone parsed
  constructor
  · rw [prefixFactor_parse result, coefficient, unitMagnitude, nonzero]
    rfl
  · unfold Parser.unit
    dsimp only
    rw [result, coefficient]
    rfl

end

/-- The unit of an accepted text, behind a coefficient `x` that is a finite number other than zero,
has such a magnitude exactly where the quantity has one. -/
theorem unit_isProper_iff (p : Parser) (source unit : String) (t : List Char) (x : Float)
    (q : Quantity) (behind : Coefficient (Text.trim source.toList) (some x) t)
    (alone : Coefficient (Text.trim unit.toList) none t) (parsed : (p.parse unit).result = .ok q)
    (coefficient : x.isFinite = true ∧ (x == 0) = false)
    (magnitude : q.value.isFinite = true ∧ (q.value == 0) = false) :
    (p.parse source).result = .ok ⟨q.dimension, x * q.value⟩ ∧
    ∃ u, (p.parse source).parser.state.prefixFactor = u ∧
      p.unit source = .ok ⟨q.dimension, u⟩ ∧
      (u.isFinite = true ∧ (u == 0) = false ↔
        (x * q.value).isFinite = true ∧ (x * q.value == 0) = false) := by
  obtain ⟨factor, one⟩ := unit_behind behind alone parsed coefficient.2
  refine ⟨(result_behind behind alone parsed).1, x * q.value / x, factor, one, ?_⟩
  rw [← isProper_iff, ← isProper_iff]
  exact isProper_mul_div_iff (isProper_iff.2 coefficient) (isProper_iff.2 magnitude)

/-- A number and a blank in front of a text are its coefficient.  The text alone has none, if it
starts like neither blank nor number. -/
theorem coefficients_of_read {w s : List Char} (read : Literal.value? w = some x)
    (noBlank : Text.Stops Text.isBlank s) (noNumber : Text.Stops Literal.isStart s) :
    Coefficient (w ++ ' ' :: s) (some x) s ∧ Coefficient s none s := by
  obtain ⟨n, rfl, rfl⟩ := Literal.value?_eq_some_iff.1 read
  exact ⟨coefficient_numeral n noBlank, .absent (b := []) rfl noBlank noNumber⟩

theorem parse_kilometersPerHour :
    (({} : Parser).parse "km/h").result = .ok ⟨.length / .timeInterval, 1000 / 3600⟩ := by
  have km : Word (default : Options).escape ['k', 'm'] (.scaled 1e3 (.unit "m")) :=
    .letter (n := []) rfl ⟨rfl, rfl⟩ (by decide) (by decide)
  have hour : Word (default : Options).escape ['h'] (.unit "h") :=
    .plain (n := []) ⟨rfl, rfl⟩ (by rintro _ ⟨⟩)
  have known : ({} : Parser).Knows (.quotient (.scaled 1e3 (.unit "m")) (.unit "h")) := by
    intro name member
    rcases List.mem_cons.1 member with rfl | member
    · exact ⟨SI.meter, rfl⟩
    · exact List.mem_singleton.1 member ▸ ⟨SI.hour, rfl⟩
  have reads := readsAs_unitText (p := {}) (.over_word km hour) known
  exact reads.result.trans (by decide +kernel)

/-- The unit of `45 km/h` is one kilometer per hour. -/
theorem unit_isProper_kilometersPerHour :
    Coefficient (Text.trim "45 km/h".toList) (some 45) "km/h".toList ∧
    Coefficient (Text.trim "km/h".toList) none "km/h".toList ∧
    (({} : Parser).parse "km/h").result = .ok ⟨.length / .timeInterval, 1000 / 3600⟩ ∧
    ((45 : Float).isFinite = true ∧ ((45 : Float) == 0) = false) ∧
    ((1000 / 3600 : Float).isFinite = true ∧ ((1000 / 3600 : Float) == 0) = false) ∧
    (({} : Parser).parse "45 km/h").result = .ok ⟨.length / .timeInterval, 45 * (1000 / 3600)⟩ ∧
    ∃ u, (({} : Parser).parse "45 km/h").parser.state.prefixFactor = u ∧
      ({} : Parser).unit "45 km/h" = .ok ⟨.length / .timeInterval, u⟩ ∧
      u.isFinite = true ∧ (u == 0) = false := by
  have read : Literal.value? "45".toList = some 45 := by decide +kernel
  obtain ⟨behind, alone⟩ : Coefficient (Text.trim "45 km/h".toList) (some 45) "km/h".toList ∧
      Coefficient (Text.trim "km/h".toList) none "km/h".toList :=
    coefficients_of_read read (Text.stops_cons.2 rfl) (Text.stops_cons.2 rfl)
  have coefficient : (45 : Float).isFinite = true ∧ ((45 : Float) == 0) = false := by
    decide +kernel
  have magnitude : (1000 / 3600 : Float).isFinite = true ∧ ((1000 / 3600 : Float) == 0) = false := by
    decide +kernel
  obtain ⟨accepted, u, factor, one, proper⟩ := unit_isProper_iff {} "45 km/h" "km/h" _ 45 _ behind
    alone parse_kilometersPerHour coefficient magnitude
  exact ⟨behind, alone, parse_kilometersPerHour, coefficient, magnitude, accepted, u, factor, one,
    proper.2 (by decide +kernel)⟩

theorem parse_yottameter : (({} : Parser).parse "Ym").result = .ok ⟨.length, 1e24⟩ := by
  have word : Word (default : Options).escape ['Y', 'm'] (.scaled 1e24 (.unit "m")) :=
    .letter (n := []) rfl ⟨rfl, rfl⟩ (by decide) (by decide)
  have reads := readsAs_scaled_word (p := {}) word (q := SI.meter) rfl
  exact reads.result.trans (by decide +kernel)

/-- The unit of `1e300 Ym` is infinite, though a yottameter is not. -/
theorem unit_yottameters :
    (1e300 : Float).isFinite = true ∧ ((1e300 : Float) == 0) = false ∧
    (({} : Parser).parse "Ym").result = .ok ⟨.length, 1e24⟩ ∧
    (1e24 : Float).isFinite = true ∧ ((1e24 : Float) == 0) = false ∧
    (({} : Parser).parse "1e300 Ym").result = .ok ⟨.length, Magnitude.infinity⟩ ∧
    (({} : Parser).parse "1e300 Ym").parser.state.numericalValue = 1e300 ∧
    (({} : Parser).parse "1e300 Ym").parser.state.prefixFactor = Magnitude.infinity ∧
    ({} : Parser).unit "1e300 Ym" = .ok ⟨.length, Magnitude.infinity⟩ ∧
    Magnitude.infinity.isFinite = false := by
  have read : Literal.value? "1e300".toList = some 1e300 := by decide +kernel
  obtain ⟨behind, alone⟩ : Coefficient (Text.trim "1e300 Ym".toList) (some 1e300) "Ym".toList ∧
      Coefficient (Text.trim "Ym".toList) none "Ym".toList :=
    coefficients_of_read read (Text.stops_cons.2 rfl) (Text.stops_cons.2 rfl)
  have overflow : (1e300 * 1e24 : Float) = Magnitude.infinity := by decide +kernel
  have kept : (1e300 * 1e24 / 1e300 : Float) = Magnitude.infinity := by decide +kernel
  obtain ⟨result, coefficient⟩ := result_behind behind alone parse_yottameter
  obtain ⟨factor, one⟩ := unit_behind behind alone parse_yottameter (by decide +kernel)
  rw [kept] at factor one
  rw [Quantity.scale, overflow] at result
  exact ⟨by decide +kernel, by decide +kernel, parse_yottameter, by decide +kernel,
    by decide +kernel, result, coefficient, factor, one, by decide +kernel⟩

end Metrology.Parser
