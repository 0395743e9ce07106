import Mathlib
import Metrology.Text.Blank

/-!
# Spans

The longest prefix of a text whose characters fit ends where a character does not fit (`Stops`).
-/

namespace Metrology.Text

/-- No character that fits comes first. -/
def Stops (fits : Char → Bool) (s : List Char) : Prop := ∀ c ∈ s.head?, fits c = false

variable {fits : Char → Bool} {c : Char} {s r w : List Char}

theorem stops_nil : Stops fits [] := fun _ h => by cases h

theorem stops_cons : Stops fits (c :: s) ↔ fits c = false := by
  simp [Stops]

theorem not_any_head?_iff : ¬s.head?.any fits = true ↔ Stops fits s := by
  cases s with
  | nil => simp [Stops]
  | cons c s => simp [stops_cons]

theorem any_head?_append (h : s.head?.any fits = true) : (s ++ r).head?.any fits = true := by
  cases s with
  | nil => cases h
  | cons c s => exact h

theorem Stops.of_any {p : Char → Bool} (h : s.head?.any p = true)
    (h' : ∀ c, p c = true → fits c = false) : Stops fits s := by
  cases s with
  | nil => cases h
  | cons c s => exact stops_cons.2 (h' c h)

theorem Stops.append (h : Stops fits s) (ne : s ≠ []) (r : List Char) : Stops fits (s ++ r) := by
  cases s with
  | nil => exact absurd rfl ne
  | cons c s => exact h

theorem Stops.append_stops (h : Stops fits s) (h' : Stops fits r) : Stops fits (s ++ r) := by
  cases s with
  | nil => exact h'
  | cons c s => exact h

theorem Stops.mono (h : Stops fits s) (h' : r <+: s) : Stops fits r := by
  obtain ⟨t, rfl⟩ := h'
  cases r with
  | nil => exact stops_nil
  | cons c r => exact h

theorem stops_reverse_append (h : Stops fits s.reverse) (ne : s ≠ []) (r : List Char) :
    Stops fits (r ++ s).reverse := by
  rw [List.reverse_append]
  exact h.append (List.reverse_ne_nil_iff.2 ne) _

theorem stops_of_all (h : ∀ c ∈ s, fits c = false) : Stops fits s :=
  fun c first => h c (List.mem_of_head? first)

theorem stops_dropWhile (s : List Char) : Stops fits (s.dropWhile fits) := by
  intro c h
  have := List.head?_dropWhile_not fits s
  rw [h] at this
  exact this

theorem takeWhile_eq_nil_iff_stops : s.takeWhile fits = [] ↔ Stops fits s := by
  cases s with
  | nil => simp [Stops]
  | cons c s => simp [stops_cons]

theorem dropWhile_of_stops (h : Stops fits s) : s.dropWhile fits = s := by
  cases s with
  | nil => rfl
  | cons c s => rw [List.dropWhile_cons_of_neg (by rw [stops_cons.1 h]; decide)]

theorem takeWhile_append_of_stops (h : w.all fits = true) (h' : Stops fits r) :
    (w ++ r).takeWhile fits = w := by
  rw [List.takeWhile_append_of_pos (List.all_eq_true.1 h), takeWhile_eq_nil_iff_stops.2 h',
    List.append_nil]

theorem dropWhile_append_of_stops (h : w.all fits = true) (h' : Stops fits r) :
    (w ++ r).dropWhile fits = r := by
  rw [List.dropWhile_append_of_pos (List.all_eq_true.1 h), dropWhile_of_stops h']

theorem all_takeWhile : (s.takeWhile fits).all fits = true :=
  List.all_eq_true.2 fun _ h => List.mem_takeWhile_imp h

/-- A text without characters that fit at its ends is not trimmed. -/
theorem trimWhere_of_stops (h : Stops fits s) (h' : Stops fits s.reverse) :
    trimWhere fits s = s := by
  rw [trimWhere, dropWhile_of_stops h, dropWhile_of_stops h', List.reverse_reverse]

theorem isPrefix_trimWhere (s : List Char) : trimWhere fits s <+: s.dropWhile fits := by
  have := List.reverse_prefix.2 (List.dropWhile_suffix fits (l := (s.dropWhile fits).reverse))
  rwa [List.reverse_reverse] at this

theorem trim_infix (s : List Char) : trim s <:+: s :=
  (isPrefix_trimWhere s).isInfix.trans (List.dropWhile_suffix _).isInfix

/-- A trimmed text does not start with a character that fits. -/
theorem stops_trimWhere (s : List Char) : Stops fits (trimWhere fits s) :=
  (stops_dropWhile s).mono (isPrefix_trimWhere s)

/-- A trimmed text does not end with a character that fits. -/
theorem stops_reverse_trimWhere (s : List Char) : Stops fits (trimWhere fits s).reverse := by
  rw [trimWhere, List.reverse_reverse]
  exact stops_dropWhile _

end Metrology.Text
