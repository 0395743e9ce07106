import Metrology.Proofs.Expression.Texts

/-!
# Places in a text

All places that a reading names lie in its text (`Reading.Within`): those of its requests, with the
names that are requested, and the two of a syntax error.  The readers keep this, rule by rule
(`within_readTerm`), and so does the reading of a whole text (`place_le_of_read_error`,
`isRequestIn_of_read`).
-/

namespace Metrology.Expression

namespace Reading

variable {α β : Type} {s : List Char}

/-- The place of a request lies in a text, and its name is a part of the text that is read as a
name. -/
structure IsRequestIn (s : List Char) (name : String) (left : Nat) : Prop where
  left_le : left ≤ s.length
  isBareName : IsBareName name.toList
  isInfix : name.toList <:+: s

theorem IsRequestIn.widen {r : List Char} {name : String} {left : Nat} (h : IsRequestIn r name left)
    (suffix : r <:+ s) : IsRequestIn s name left :=
  ⟨Nat.le_trans h.left_le suffix.length_le, h.isBareName, h.isInfix.trans suffix.isInfix⟩

/-- The places of a reading lie in its text. -/
structure Within (x : Reading α s) : Prop where
  request : ∀ name left, .request name left ∈ x.steps → IsRequestIn s name left
  error : ∀ e, x.result = .error e → e.place ≤ s.length ∧ e.left ≤ s.length

variable {x : Reading α s}

theorem within_done {a : α} {r : List Char} {h : r <:+ s} : (done a r h).Within :=
  ⟨by rintro _ _ ⟨⟩, by rintro _ ⟨⟩⟩

theorem within_error {e : SyntaxError} (h : e.place ≤ s.length) (h' : e.left ≤ s.length) :
    (⟨[], .error e⟩ : Reading α s).Within :=
  ⟨by rintro _ _ ⟨⟩, by rintro _ ⟨⟩; exact ⟨h, h'⟩⟩

theorem within_fail {fault : SyntaxFault} : (fail fault : Reading α s).Within :=
  within_error (Nat.le_refl _) (Nat.le_refl _)

theorem Within.noting {note : Note} (h : x.Within) : (x.noting note).Within := by
  refine ⟨fun name left member => ?_, h.error⟩
  exact h.request name left ((List.mem_cons.1 member).resolve_left (by rintro ⟨⟩))

theorem Within.after_request {name : String} {left : Nat} (h : x.Within)
    (h' : IsRequestIn s name left) :
    (x.after (.request name left)).Within := by
  refine ⟨fun name' left' member => ?_, h.error⟩
  rcases List.mem_cons.1 member with same | member
  · cases same
    exact h'
  · exact h.request name' left' member

theorem Within.widen {r : List Char} {x : Reading α r} (h : x.Within) (suffix : r <:+ s) :
    (x.widen suffix).Within := by
  have shorter := suffix.length_le
  refine ⟨fun name left member => (h.request name left member).widen suffix, fun e he => ?_⟩
  rcases result : x.result with e' | ⟨a, t⟩ <;> simp only [Reading.widen, result] at he
  · cases he
    obtain ⟨place, left⟩ := h.error _ result
    exact ⟨Nat.le_trans place shorter, Nat.le_trans left shorter⟩
  · cases he

theorem Within.andThen {f : α → (r : List Char) → r.length ≤ s.length → Reading β r} (h : x.Within)
    (h' : ∀ a r hr, (f a r hr).Within) : (x.andThen f).Within := by
  rcases result : x.result with e | ⟨a, r, suffix⟩ <;> simp only [Reading.andThen, result]
  · exact ⟨h.request, by rintro _ ⟨⟩; exact h.error _ result⟩
  · have second := (h' a r suffix.length_le).widen suffix
    refine ⟨fun name left member => ?_, second.error⟩
    rcases List.mem_append.1 member with member | member
    · exact h.request name left member
    · exact second.request name left member

end Reading

open Reading

variable {o : Options} {s : List Char} {e : Expression}

/-! ## Rules without recursion -/

theorem within_readCoefficient : (readCoefficient s).Within := by
  have shorter : (Text.dropBlanks s).length ≤ s.length := (List.dropWhile_suffix _).length_le
  unfold readCoefficient
  refine .noting ?_
  split_ifs
  · refine .noting ?_
    split
    · have scanned : (Literal.split (Text.dropBlanks s)).2 <:+ Text.dropBlanks s :=
        ⟨_, Literal.split_append _⟩
      exact within_error shorter (Nat.le_trans scanned.length_le shorter)
    · exact within_done.noting
  · exact within_done.noting

theorem within_readScale {escape : Char} : (readScale escape s).Within := by
  unfold readScale
  refine .noting ?_
  split
  · split_ifs
    · exact within_done
    · exact within_done
    · split <;> exact within_done
  · exact within_done

/-- What is scanned as a name, without the escape character in front, is one. -/
theorem isBareName_takeWhile (starts : startsName o.escape s = true) :
    IsBareName ((if s.head? = some o.escape then s.tail else s).takeWhile isNameCharacter) := by
  rcases startsName_iff.1 starts with letter | ⟨t, rfl, letter⟩ | ⟨t, rfl⟩
  · rw [if_neg]
    · exact .inl (isName_takeWhile letter)
    · intro escape
      rw [escape, Option.any_some, o.isLetter_escape] at letter
      cases letter
  · rw [List.head?_cons, if_pos rfl]
    exact .inl (isName_takeWhile letter)
  · rw [if_neg]
    · exact .inr ⟨t.takeWhile isNameCharacter, rfl, Text.all_takeWhile⟩
    · exact fun escape => o.escape_ne (Options.isEscape_of_reserved rfl) (Option.some.inj escape)

theorem isRequestIn_takeWhile {t : List Char} (suffix : t <:+ s)
    (name : IsBareName (t.takeWhile isNameCharacter)) :
    IsRequestIn s (String.ofList (t.takeWhile isNameCharacter))
      (t.dropWhile isNameCharacter).length := by
  refine ⟨Nat.le_trans (List.dropWhile_suffix _).length_le suffix.length_le, ?_, ?_⟩ <;>
    rw [String.toList_ofList]
  · exact name
  · exact (List.takeWhile_prefix _).isInfix.trans suffix.isInfix

theorem within_readUnit : (readUnit o.escape s).Within := by
  unfold readUnit
  refine .noting ?_
  by_cases one : s.head? = some '1'
  · rw [if_pos one]
    split_ifs
    · exact within_done
    · exact within_fail
  rw [if_neg one]
  by_cases starts : startsName o.escape s = true
  · rw [if_pos starts]
    have suffix : (if s.head? = some o.escape then s.tail else s) <:+ s := by
      split_ifs
      · exact List.tail_suffix s
      · exact List.suffix_refl s
    have request := isRequestIn_takeWhile suffix (isBareName_takeWhile starts)
    exact (within_done.after_request request).noting
  · rw [if_neg starts]
    exact within_fail

theorem within_readPower : (readPower e s).Within := by
  unfold readPower
  refine .noting ?_
  split_ifs
  · refine .noting ?_
    split
    · exact within_error (Nat.le_refl _) (List.dropWhile_suffix _).length_le
    · exact within_done
  · exact within_done

theorem within_readClosing : (readClosing s).Within := by
  unfold readClosing
  split
  · exact within_done
  · exact within_fail

theorem within_readSimpleFactor : (readSimpleFactor o s).Within := by
  unfold readSimpleFactor
  split_ifs
  · exact within_done
  · exact within_readScale.andThen fun _ _ _ =>
      within_readUnit.andThen fun _ _ _ => within_readPower

/-! ## Terms and parentheses -/

mutual

theorem within_readNested (s : List Char) : (readNested o s).Within := by
  rw [readNested]
  exact .noting <| within_readCoefficient.andThen fun _ r _ =>
    (within_readTerm r).andThen fun _ _ _ => within_done
termination_by 4 * s.length + 3

theorem within_readTerm (s : List Char) : (readTerm o s).Within := by
  rw [readTerm]
  exact (within_readFactor s).andThen fun e r _ => within_readContinued false e r
termination_by 4 * s.length + 2

theorem within_readFactor (s : List Char) : (readFactor o s).Within := by
  rw [readFactor.eq_def]
  refine .noting ?_
  split
  · next r =>
    exact .widen ((within_readNested r).andThen fun _ _ _ =>
      within_readClosing.andThen fun _ _ _ => within_readPower) _
  · exact within_readSimpleFactor
termination_by 4 * s.length + 1

theorem within_readContinued (divided : Bool) (e : Expression) :
    (s : List Char) → (readContinued o divided e s).Within
  | [] => by
    rw [readContinued]
    exact within_done
  | c :: r => by
    rw [readContinued]
    by_cases operator : isOperator c = true
    · rw [if_pos operator]
      split
      · exact within_fail
      · refine .noting ?_
        by_cases again : (decide (c = '/') && divided) = true
        · rw [if_pos again]
          exact within_fail
        · rw [if_neg again]
          exact .widen ((within_readFactor r).andThen fun _ t _ => within_readContinued _ _ t) _
    · rw [if_neg operator]
      exact within_done
termination_by s => 4 * s.length

end

/-! ## Whole texts -/

theorem length_le_of_whole_error {t : List Char} (within : t.length ≤ s.length)
    {result : Except SyntaxError (Expression × {r : List Char // r <:+ t})} {e : SyntaxError}
    (h : ∀ e, result = .error e → e.place ≤ t.length ∧ e.left ≤ t.length)
    (h' : whole result = .error e) : e.place ≤ s.length ∧ e.left ≤ s.length := by
  rcases result with e' | ⟨f, _ | ⟨c, r⟩, suffix⟩
  · cases h'
    obtain ⟨place, left⟩ := h _ rfl
    exact ⟨Nat.le_trans place within, Nat.le_trans left within⟩
  · cases h'
  · cases h'
    have := Nat.le_trans suffix.length_le within
    exact ⟨this, this⟩

/-- The places of a syntax error lie in the text. -/
theorem place_le_of_read_error {e : SyntaxError} (h : (read o s).result = .error e) :
    e.place ≤ s.length ∧ e.left ≤ s.length := by
  cases result : (readCoefficient s).result with
  | error e' =>
    simp only [read, noting, after, result] at h
    cases h
    exact within_readCoefficient.error _ result
  | ok scanned =>
    obtain ⟨x, t, suffix⟩ := scanned
    rw [read_of_ok result] at h
    exact length_le_of_whole_error suffix.length_le (within_readTerm t).error h

/-- What is requested is a name in the text, at a place in the text. -/
theorem isRequestIn_of_read {name : String} {left : Nat}
    (h : .request name left ∈ (read o s).steps) : IsRequestIn s name left := by
  cases result : (readCoefficient s).result with
  | error e =>
    simp only [read, noting, after, result] at h
    exact within_readCoefficient.noting.request name left h
  | ok scanned =>
    obtain ⟨x, t, suffix⟩ := scanned
    rw [read_of_ok result] at h
    rcases List.mem_append.1 ((List.mem_cons.1 h).resolve_left (by rintro ⟨⟩)) with h | h
    · exact within_readCoefficient.request name left h
    · exact ((within_readTerm t).request name left h).widen suffix

end Metrology.Expression
