import Metrology.Options.Schema
import Metrology.Proofs.Options.Updates

/-!
# Two validations of options

The schema of option files and the validation that makes options agree on every JSON value, but for
one thing: the schema takes any single character as the escape character, and leaves those that are
reserved to the validation: besides the letters and digits, the other numerals too.  So each option
is looked at on its own first, by both (`flagViolations_eq_nil_iff`,
`escapeViolations_eq_nil_iff`), then the objects as a whole (`violations_object_eq_nil_iff`,
`ofMembers?_eq_ok_iff`).
-/

namespace Metrology.Options

variable {ms : List (String × Json)} {v : Option Json} {o : Options} {c : Char} {b : Bool}

/-! ## Flags -/

theorem readFlag_eq_ok_iff {default : Bool} :
    readFlag default v = .ok b ↔ v.getD (.bool default) = .bool b := by
  rcases v with _ | v
  · simp [readFlag]
  · cases v <;> simp [readFlag]

theorem flagViolations_eq_nil_iff (default : Bool) :
    flagViolations v = [] ↔ ∃ b, readFlag default v = .ok b := by
  rcases v with _ | v
  · simp [flagViolations, readFlag]
  · cases v <;> simp [flagViolations, readFlag]

/-! ## The escape character -/

/-- The character cannot mark names: it is alphanumeric, which means a letter, a digit or any other
numeral such as `½`, or a blank, or it has a meaning in unit expressions or as the end of every
text. -/
def IsReserved (c : Char) : Prop :=
  Text.isAlphanumeric c = true ∨ Text.isBlank c = true ∨ c ∈ reservedCharacters ∨ c = '\x00'

/-- What is wrong with a reserved character. -/
def reservedFault (c : Char) : Fault := if c = '\x00' then .escapeEndsText else .escapeNotFree

theorem isReserved_iff : IsReserved c ↔ isEscape c = false := by
  simp only [IsReserved, isEscape, isFreeCharacter, Bool.and_eq_false_iff, Bool.not_eq_false',
    Bool.or_eq_true, bne_eq_false_iff_eq, List.contains_iff_mem, or_assoc]

/-- The character that ends every text has no meaning in unit expressions. -/
theorem isFreeCharacter_iff (h : IsReserved c) : isFreeCharacter c = true ↔ c = '\x00' := by
  rw [isReserved_iff, isEscape, Bool.and_eq_false_iff, bne_eq_false_iff_eq] at h
  constructor
  · intro free
    exact h.resolve_left (by simp [free])
  · rintro rfl
    decide +kernel

theorem readEscape_of_isReserved (default : Escape) (h : IsReserved c) :
    readEscape default (some (.text (String.singleton c))) = .error (reservedFault c) := by
  have text : (String.singleton c).toList = [c] := String.toList_singleton _
  simp only [readEscape, text, isReserved_iff.1 h, Bool.false_eq_true, dite_false, reservedFault,
    isFreeCharacter_iff h]

theorem readEscape_eq_ok_iff {default escape : Escape} : readEscape default v = .ok escape ↔
    v.getD (.text (String.singleton default.1)) = .text (String.singleton escape.1) := by
  rcases v with _ | v
  · simp [readEscape, Subtype.ext_iff, String.singleton_inj]
  constructor
  · intro read
    exact eq_of_readEscape_ok read
  · rintro same
    obtain rfl : v = .text (String.singleton escape.1) := same
    have text : (String.singleton escape.1).toList = [escape.1] := String.toList_singleton _
    simp only [readEscape, text, escape.2, dite_true]

/-- The schema wants a single character, whatever it means. -/
theorem escapeViolations_text_eq_nil_iff {s : String} :
    escapeViolations (some (.text s)) = [] ↔ ∃ c, s = String.singleton c := by
  constructor
  · intro kept
    rcases text : s.toList with _ | ⟨c, _ | ⟨d, t⟩⟩
    · obtain rfl : s = "" := String.toList_eq_nil_iff.1 text
      simp [escapeViolations] at kept
    · refine ⟨c, ?_⟩
      rw [← String.ofList_toList (s := s), text]
      rfl
    · have long : 1 < s.length := by
        rw [← String.length_toList, text]
        simp
      rw [escapeViolations, if_pos long] at kept
      split_ifs at kept
  · rintro ⟨c, rfl⟩
    simp [escapeViolations]

theorem escapeViolations_eq_nil_iff (default : Escape) : escapeViolations v = [] ↔
    (∃ escape, readEscape default v = .ok escape) ∨
      ∃ c, v = some (.text (String.singleton c)) ∧ IsReserved c := by
  rcases v with _ | v
  · simp [escapeViolations, readEscape]
  cases v with
  | text s =>
    rw [escapeViolations_text_eq_nil_iff]
    constructor
    · rintro ⟨c, rfl⟩
      by_cases reserved : IsReserved c
      · exact .inr ⟨c, rfl, reserved⟩
      · rw [isReserved_iff, Bool.not_eq_false] at reserved
        exact .inl ⟨⟨c, reserved⟩, readEscape_eq_ok_iff.2 rfl⟩
    · rintro (⟨escape, read⟩ | ⟨c, same, -⟩)
      · exact ⟨escape.1, Json.text.inj (readEscape_eq_ok_iff.1 read)⟩
      · exact ⟨c, Json.text.inj (Option.some.inj same)⟩
  | _ => simp [escapeViolations, readEscape]

/-! ## Objects -/

/-- The members of an object give the options: those that are left out have their defaults, and
there are no others. -/
structure Describes (ms : List (String × Json)) (o : Options) : Prop where
  debug : (Json.member? ms "debug").getD (.bool false) = .bool o.debug
  extend : (Json.member? ms "extend").getD (.bool false) = .bool o.extend
  dimensionless : (Json.member? ms "dimensionless").getD (.bool false) = .bool o.dimensionless
  escape : (Json.member? ms "escape").getD (.text "!") = .text (String.singleton o.escape)
  known : ∀ m ∈ ms, m.1 ∈ names

theorem unknownNames_eq_nil_iff : unknownNames ms = [] ↔ ∀ m ∈ ms, m.1 ∈ names := by
  simp [unknownNames, List.filter_eq_nil_iff]

theorem ofMembers?_eq_ok_iff : ofMembers? ms = .ok o ↔ Describes ms o := by
  constructor
  · intro made
    simp only [ofMembers?] at made
    split at made
    · next debug extend dimensionless escape unknown =>
      cases made
      exact ⟨readFlag_eq_ok_iff.1 debug, readFlag_eq_ok_iff.1 extend,
        readFlag_eq_ok_iff.1 dimensionless, readEscape_eq_ok_iff.1 escape,
        unknownNames_eq_nil_iff.1 unknown⟩
    · cases made
  · rintro ⟨debug, extend, dimensionless, escape, known⟩
    have escape' : readEscape ⟨'!', by decide +kernel⟩ (Json.member? ms "escape") =
        .ok ⟨o.escape, o.escape_fits⟩ := readEscape_eq_ok_iff.2 escape
    simp only [ofMembers?, readFlag_eq_ok_iff.2 debug, readFlag_eq_ok_iff.2 extend,
      readFlag_eq_ok_iff.2 dimensionless, escape', unknownNames_eq_nil_iff.2 known]

theorem violations_object_eq_nil_iff : violations (.object ms) = [] ↔
    unknownNames ms = [] ∧ flagViolations (Json.member? ms "debug") = [] ∧
      flagViolations (Json.member? ms "extend") = [] ∧
      flagViolations (Json.member? ms "dimensionless") = [] ∧
      escapeViolations (Json.member? ms "escape") = [] := by
  simp [violations, nameViolations]

theorem violationMessages_eq_nil_iff {v : Json} : violationMessages v = [] ↔ violations v = [] := by
  rw [violationMessages, sortTexts, ← List.length_eq_zero_iff, List.length_mergeSort,
    List.length_map, List.length_eq_zero_iff]

/-- What a value that keeps to the schema gives: options, unless its escape character is reserved,
which is its only problem then. -/
inductive Admitted (ms : List (String × Json)) : Except (List Problem) Options → Prop where
  | options (o : Options) (describes : Describes ms o)
    (free : ∀ c, Json.member? ms "escape" = some (.text (String.singleton c)) → ¬ IsReserved c) :
    Admitted ms (.ok o)
  | reserved (c : Char) (member : Json.member? ms "escape" = some (.text (String.singleton c)))
    (reserved : IsReserved c) : Admitted ms (.error [⟨"escape", reservedFault c⟩])

theorem Describes.not_isReserved (h : Describes ms o)
    (member : Json.member? ms "escape" = some (.text (String.singleton c))) : ¬ IsReserved c := by
  have same := h.escape
  rw [member, Option.getD_some, Json.text.injEq, String.singleton_inj] at same
  rw [same, isReserved_iff, o.escape_fits]
  exact Bool.noConfusion

theorem admitted_ofMembers? (kept : violations (.object ms) = []) : Admitted ms (ofMembers? ms) := by
  obtain ⟨known, debug, extend, dimensionless, escape⟩ := violations_object_eq_nil_iff.1 kept
  obtain ⟨debug', debug⟩ := (flagViolations_eq_nil_iff false).1 debug
  obtain ⟨extend', extend⟩ := (flagViolations_eq_nil_iff false).1 extend
  obtain ⟨dimensionless', dimensionless⟩ := (flagViolations_eq_nil_iff false).1 dimensionless
  obtain ⟨escape', read⟩ | ⟨c, member, reserved⟩ :=
    (escapeViolations_eq_nil_iff ⟨'!', by decide +kernel⟩).1 escape
  · have made : ofMembers? ms = .ok ⟨debug', extend', dimensionless', escape'.1, escape'.2⟩ := by
      simp only [ofMembers?, debug, extend, dimensionless, read, known]
    have describes := ofMembers?_eq_ok_iff.1 made
    rw [made]
    exact .options _ describes fun c => describes.not_isReserved
  · have refused : ofMembers? ms = .error [⟨"escape", reservedFault c⟩] := by
      simp only [ofMembers?, debug, extend, dimensionless, member, known,
        readEscape_of_isReserved _ reserved]
      rfl
    rw [refused]
    exact .reserved c member reserved

/-- What options describe keeps to the schema. -/
theorem Describes.violations_eq_nil (h : Describes ms o) : violations (.object ms) = [] :=
  violations_object_eq_nil_iff.2
    ⟨unknownNames_eq_nil_iff.2 h.known,
      (flagViolations_eq_nil_iff false).2 ⟨_, readFlag_eq_ok_iff.2 h.debug⟩,
      (flagViolations_eq_nil_iff false).2 ⟨_, readFlag_eq_ok_iff.2 h.extend⟩,
      (flagViolations_eq_nil_iff false).2 ⟨_, readFlag_eq_ok_iff.2 h.dimensionless⟩,
      (escapeViolations_eq_nil_iff ⟨'!', by decide +kernel⟩).2
        (.inl ⟨⟨o.escape, o.escape_fits⟩, readEscape_eq_ok_iff.2 h.escape⟩)⟩

/-! ## All values -/

theorem violations_eq_nil_of_ofJson? {v : Json} (h : ofJson? v = .ok o) : violations v = [] := by
  cases v with
  | object ms => exact (ofMembers?_eq_ok_iff.1 h).violations_eq_nil
  | _ => cases h

theorem admitted_ofJson? {v : Json} (kept : violations v = []) :
    ∃ ms, v = .object ms ∧ Admitted ms (ofJson? v) := by
  cases v with
  | object ms => exact ⟨ms, rfl, admitted_ofMembers? kept⟩
  | _ => cases kept

theorem violations_of_load? {text : List Char} {v : Json} {problems : List Problem}
    (h : load? text = .error (.invalid v problems)) :
    violations v = [] ∧ ofJson? v = .error problems := by
  unfold load? at h
  split at h
  · cases h
  split at h
  · cases h
  · next kept =>
    split at h
    · next refused =>
      cases h
      exact ⟨kept, refused⟩
    · cases h

/-- The two validations agree on every value, and files of options have no problem but a reserved
escape character. -/
theorem validations_agree (v : Json) :
    (∀ o, ofJson? v = .ok o → violationMessages v = []) ∧
    (violationMessages v = [] → ∃ ms, v = .object ms ∧ Admitted ms (ofJson? v)) ∧
    ∀ text problems, load? text = .error (.invalid v problems) →
      ∃ ms c, v = .object ms ∧ Json.member? ms "escape" = some (.text (String.singleton c)) ∧
        IsReserved c ∧ problems = [⟨"escape", reservedFault c⟩] := by
  refine ⟨fun o made => ?accepted, fun kept => ?kept, fun text problems loaded => ?loaded⟩
  case accepted => exact violationMessages_eq_nil_iff.2 (violations_eq_nil_of_ofJson? made)
  case kept => exact admitted_ofJson? (violationMessages_eq_nil_iff.1 kept)
  case loaded =>
    obtain ⟨kept, refused⟩ := violations_of_load? loaded
    obtain ⟨ms, object, admitted⟩ := admitted_ofJson? kept
    rw [refused] at admitted
    obtain _ | ⟨c, member, reserved⟩ := admitted
    exact ⟨ms, c, object, member, reserved, rfl⟩

/-- The schema takes a fraction as the escape character and the validation does not, although it is
no letter, digit or blank and has no meaning in unit expressions. -/
theorem validations_differ_at_fraction :
    violationMessages (.object [("escape", .text "½")]) = [] ∧
    ofJson? (.object [("escape", .text "½")]) = .error [⟨"escape", .escapeNotFree⟩] ∧
    Text.isAlphabetic '½' = false ∧ Text.isDigitLike '½' = false ∧ Text.isBlank '½' = false ∧
    '½' ∉ reservedCharacters ∧ '½' ≠ '\x00' := by
  decide +kernel

end Metrology.Options
