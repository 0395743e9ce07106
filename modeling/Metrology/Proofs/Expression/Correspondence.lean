import Metrology.Proofs.Expression.Counterparts
import Metrology.Proofs.Expression.Requests

/-!
# Readings of paired texts

Two readings correspond (`Pairing.Corresponds`) if the second one makes the same requests as the
first and ends in the same way, or if the first one goes beyond the horizon and the second one
repeats all requests that the first one makes before.  The readers keep this on paired texts, rule
by rule (`Pairing.corresponds_readTerm`), and so does the reading of a whole text
(`Pairing.corresponds_readWhole`).
-/

namespace Metrology.Expression

open Reading

variable {o o' : Options}

/-! ## Faults -/

/-- The fault of the second reading is that of the first one, up to counterparts of the characters
that it shows. -/
inductive FaultsAlike (o o' : Options) : SyntaxFault → SyntaxFault → Prop
  | same (fault : SyntaxFault) : FaultsAlike o o' fault fault
  | garbage {c c' : Char} (h : Counterpart o o' c c') : FaultsAlike o o' (.garbage c) (.garbage c')
  | notReciprocal {a a' : Option Char} (h : Ahead o o' a a') :
    FaultsAlike o o' (.notReciprocal a) (.notReciprocal a')
  | noUnit {a a' : Option Char} (h : Ahead o o' a a') : FaultsAlike o o' (.noUnit a) (.noUnit a')

/-- Under the same options only the same fault is alike. -/
theorem FaultsAlike.eq_of_same {fault fault' : SyntaxFault} (h : FaultsAlike o o fault fault') :
    fault' = fault := by
  cases h with
  | same => rfl
  | garbage h => rw [h.eq_of_same]
  | notReciprocal h => rw [h.eq_of_same]
  | noUnit h => rw [h.eq_of_same]

/-! ## Correspondence -/

/-- What a list of two parts starts with ends in the first part or in the second one. -/
theorem concat_prefix_append {γ : Type} {a b before : List γ} {q : γ}
    (h : before ++ [q] <+: a ++ b) :
    before ++ [q] <+: a ∨ ∃ before', before = a ++ before' ∧ before' ++ [q] <+: b := by
  obtain ⟨t, split⟩ := h
  rcases List.append_eq_append_iff.1 split with ⟨u, rfl, -⟩ | ⟨u, first, rfl⟩
  · exact .inl (List.prefix_append _ _)
  · rcases List.eq_nil_or_concat' u with rfl | ⟨before', q', rfl⟩
    · rw [List.append_nil] at first
      exact .inl (first ▸ List.prefix_refl _)
    · rw [← List.append_assoc] at first
      obtain ⟨rfl, last⟩ := List.append_inj' first rfl
      cases last
      exact .inr ⟨before', rfl, List.prefix_append _ _⟩

namespace Pairing

variable (T : Pairing o o') {α β : Type} {s s' : List Char}

/-- The place in the second text of a place in the first one, if it lies within the horizon. -/
def moved (n : Nat) : Nat := n + T.behind' - T.behind

/-- The places `n` and `n'` lie as far from the starts of the two texts. -/
def SamePlace (n n' : Nat) : Prop := n' + T.behind = n + T.behind'

theorem samePlace_moved {n : Nat} (h : T.horizon ≤ n) : T.SamePlace n (T.moved n) := by
  have := T.behind_le
  unfold SamePlace moved
  omega

/-- Both readings end with one value and paired rests, or with faults that are alike, at the same
places. -/
inductive Ends : Except SyntaxError (α × {r : List Char // r <:+ s}) →
    Except SyntaxError (α × {r : List Char // r <:+ s'}) → Prop
  | error {e e' : SyntaxError} (fault : FaultsAlike o o' e.fault e'.fault)
    (place : T.SamePlace e.place e'.place) (left : T.SamePlace e.left e'.left) :
    Ends (.error e) (.error e')
  | ok {a : α} {r : {r : List Char // r <:+ s}} {r' : {r : List Char // r <:+ s'}}
    (rest : T.Pairs r.1 r'.1) : Ends (.ok (a, r)) (.ok (a, r'))

/-- The second reading follows the first one, up to the horizon at least. -/
inductive Corresponds (x : Reading α s) (x' : Reading α s') : Prop
  | whole (requests : x'.requests = x.requests.map (Prod.map id T.moved))
    (ends : T.Ends x.result x'.result)
  | part (beyond : x.left < T.horizon)
    (requests : ∀ before q, T.horizon ≤ q.2 → before ++ [q] <+: x.requests →
      (before ++ [q]).map (Prod.map id T.moved) <+: x'.requests)

variable {T} {x : Reading α s} {x' : Reading α s'}

theorem corresponds_of_silent (silent : x.requests = []) (silent' : x'.requests = [])
    (ends : T.horizon ≤ x.left → T.Ends x.result x'.result) : T.Corresponds x x' := by
  by_cases seen : T.horizon ≤ x.left
  · exact .whole (by rw [silent, silent']; rfl) (ends seen)
  · refine .part (Nat.lt_of_not_le seen) fun before q _ isPrefix => ?_
    rw [silent, List.prefix_nil] at isPrefix
    exact absurd isPrefix (by simp)

/-- Nothing has to be followed where the text is beyond the horizon. -/
theorem corresponds_of_beyond (within : x.Within) (beyond : s.length < T.horizon) :
    T.Corresponds x x' := by
  refine .part (Nat.lt_of_le_of_lt within.left_le beyond) fun before q seen isPrefix => ?_
  have := within.le_of_mem_requests (isPrefix.subset (List.mem_append_right _ List.mem_cons_self))
  omega

theorem corresponds_done {a : α} {r r' : List Char} {h : r <:+ s} {h' : r' <:+ s'}
    (rest : T.Pairs r r') : T.Corresponds (done a r h) (done a r' h') :=
  .whole rfl (.ok rest)

theorem corresponds_fail {fault fault' : SyntaxFault} (pair : T.Pairs s s')
    (alike : FaultsAlike o o' fault fault') :
    T.Corresponds (fail fault : Reading α s) (fail fault' : Reading α s') :=
  .whole rfl (.error alike (T.length_eq pair) (T.length_eq pair))

theorem Corresponds.noting {note note' : Note} (h : T.Corresponds x x') :
    T.Corresponds (x.noting note) (x'.noting note') := by
  cases h with
  | whole requests ends => exact .whole requests ends
  | part beyond requests => exact .part beyond requests

theorem Ends.widen {t t' : List Char} {y : Reading α t} {y' : Reading α t'}
    (ends : T.Ends y.result y'.result) (h : t <:+ s) (h' : t' <:+ s') :
    T.Ends (y.widen h).result (y'.widen h').result := by
  unfold Reading.widen
  generalize y.result = result at ends
  generalize y'.result = result' at ends
  cases ends with
  | error fault place left => exact .error fault place left
  | ok rest => exact .ok rest

theorem Corresponds.widen {t t' : List Char} {y : Reading α t} {y' : Reading α t'} {h : t <:+ s}
    {h' : t' <:+ s'} (corresponds : T.Corresponds y y') :
    T.Corresponds (y.widen h) (y'.widen h') := by
  cases corresponds with
  | whole requests ends => exact .whole requests (ends.widen h h')
  | part beyond requests => exact .part (by rwa [left_widen]) requests

theorem Corresponds.andThen {f : α → (r : List Char) → r.length ≤ s.length → Reading β r}
    {f' : α → (r : List Char) → r.length ≤ s'.length → Reading β r} (h : T.Corresponds x x')
    (within : ∀ a r hr, (f a r hr).Within)
    (second : ∀ a r hr r' hr', T.Pairs r r' → T.Corresponds (f a r hr) (f' a r' hr')) :
    T.Corresponds (x.andThen f) (x'.andThen f') := by
  cases h with
  | whole requests ends =>
    rcases result : x.result with e | ⟨a, r⟩ <;> rcases result' : x'.result with e' | ⟨a', r'⟩ <;>
      rw [result, result'] at ends <;> cases ends
    · next fault place left =>
      refine .whole ?_ ?_
      · rwa [requests_andThen_of_error result, requests_andThen_of_error result']
      · rw [andThen_of_error result, andThen_of_error result']
        exact .error fault place left
    · next rest =>
      cases second a r.1 r.2.length_le r'.1 r'.2.length_le rest with
      | whole requests' ends' =>
        refine .whole ?_ ?_
        · rw [requests_andThen_of_ok result, requests_andThen_of_ok result', requests, requests',
            List.map_append]
        · rw [andThen_of_ok result, andThen_of_ok result']
          exact ends'.widen r.2 r'.2
      | part beyond requests' =>
        refine .part ?_ fun before q seen isPrefix => ?_
        · rwa [left_andThen_of_ok result]
        · rw [requests_andThen_of_ok result] at isPrefix
          rw [requests_andThen_of_ok result', requests]
          rcases concat_prefix_append isPrefix with first | ⟨before', rfl, isPrefix'⟩
          · exact (first.map _).trans (List.prefix_append _ _)
          · rw [List.append_assoc, List.map_append, List.prefix_append_right_inj]
            exact requests' before' q seen isPrefix'
  | part beyond requests =>
    refine .part ?_ fun before q seen isPrefix => ?_
    · refine Nat.lt_of_le_of_lt ?_ beyond
      rcases result : x.result with e | ⟨a, r⟩
      · rw [andThen_of_error result, Reading.left, Reading.left, result]
      · rw [left_andThen_of_ok result, left_of_ok result]
        exact (within a r.1 r.2.length_le).left_le
    · refine (requests before q seen ?_).trans requests_prefix_andThen
      rcases result : x.result with e | ⟨a, r⟩
      · rwa [requests_andThen_of_error result] at isPrefix
      · rw [requests_andThen_of_ok result] at isPrefix
        rcases concat_prefix_append isPrefix with first | ⟨before', -, isPrefix⟩
        · exact first
        · -- The second reading has no request within the horizon.
          have member := isPrefix.subset (List.mem_append_right _ List.mem_cons_self)
          have := (within a r.1 r.2.length_le).le_of_mem_requests member
          rw [left_of_ok result] at beyond
          omega

/-! ## Rules without recursion -/

theorem corresponds_readCoefficient (pair : T.Pairs s s') :
    T.Corresponds (readCoefficient s) (readCoefficient s') := by
  refine corresponds_of_silent requests_readCoefficient requests_readCoefficient fun seen => ?_
  have dropped {t t' : List Char} (pair : T.Pairs t t')
      (seen : T.horizon ≤ (Text.dropBlanks t).length) :
      T.Pairs (Text.dropBlanks t) (Text.dropBlanks t') :=
    (T.span_eq reserves_isBlank pair seen).2
  dsimp only [readCoefficient] at seen ⊢
  by_cases starts : (Text.dropBlanks s).head?.any Literal.isStart = true
  · rw [if_pos starts] at seen ⊢
    have scanned : T.horizon ≤ (Literal.split (Text.dropBlanks s)).2.length := by
      cases value : Literal.value? (Literal.split (Text.dropBlanks s)).1 with
      | none =>
        simp only [value] at seen
        exact seen
      | some x =>
        simp only [value] at seen
        exact Nat.le_trans seen (List.dropWhile_suffix _).length_le
    have suffix : (Literal.split (Text.dropBlanks s)).2 <:+ Text.dropBlanks s :=
      ⟨_, Literal.split_append _⟩
    have inside := Nat.le_trans scanned suffix.length_le
    have blanks := dropped pair inside
    have starts' : (Text.dropBlanks s').head?.any Literal.isStart = true :=
      ((T.view blanks inside).head?.any_eq reserves_isStart).trans starts
    obtain ⟨digits, rest⟩ := T.keeps_split _ _ blanks scanned
    rw [if_pos starts']
    simp only [digits]
    cases value : Literal.value? (Literal.split (Text.dropBlanks s)).1 with
    | none =>
      refine .error (.same _) ?_ ?_
      · exact T.length_eq blanks
      · exact T.length_eq rest
    | some x =>
      simp only [value] at seen
      refine .ok ?_
      exact dropped rest seen
  · rw [if_neg starts] at seen ⊢
    have blanks := dropped pair seen
    have starts' : ¬(Text.dropBlanks s').head?.any Literal.isStart = true := by
      rwa [(T.view blanks seen).head?.any_eq reserves_isStart]
    rw [if_neg starts']
    exact .ok blanks

theorem corresponds_readScale (pair : T.Pairs s s') :
    T.Corresponds (readScale o.escape s) (readScale o'.escape s') := by
  refine corresponds_of_silent requests_readScale requests_readScale fun seen => ?_
  cases T.view pair (Nat.le_trans seen within_readScale.left_le) with
  | nil => exact .ok pair
  | @cons c c' t t' first ahead rest =>
    rcases t with _ | ⟨d, u⟩ <;> rcases t' with _ | ⟨d', u'⟩ <;> cases ahead
    · exact .ok pair
    · next next =>
      cases first with
      | escape =>
        simp only [readScale, decide_true, Bool.true_or, if_true]
        exact .ok pair
      | other plain plain' =>
        have same : (decide (c = o'.escape) || !(decide (d' = o'.escape) || Text.isLetter d') ||
            isUnprefixedPair c d') =
            (decide (c = o.escape) || !(decide (d = o.escape) || Text.isLetter d) ||
              isUnprefixedPair c d) := by
          rw [decide_eq_false plain, decide_eq_false plain', decide_eq_decide.2 next.eq_escape_iff,
            next.fits_eq reserves_isLetter, next.fits_eq (reserves_isUnprefixedPair c)]
        have deka : (decide (c = 'd') && decide (d' = 'a')) =
            (decide (c = 'd') && decide (d = 'a')) := by
          rw [decide_eq_decide.2 (next.eq_iff (Options.isEscape_of_isLetter rfl))]
        dsimp only [readScale] at seen ⊢
        rw [same, deka]
        split_ifs at seen ⊢
        · exact .ok pair
        · cases T.view rest (Nat.le_trans seen (Nat.le_succ _)) with
          | cons first' ahead' rest' => exact .ok rest'
        · split
          · exact .ok rest
          · exact .ok pair

/-- The request of a name is followed, if the name is the same as far as it is seen. -/
theorem corresponds_request {name name' : String} {r r' : List Char} {h : r <:+ s} {h' : r' <:+ s'}
    (same : T.horizon ≤ r.length → name' = name ∧ T.Pairs r r') :
    T.Corresponds (.after (.request name r.length) (.done (Expression.unit name) r h))
      (.after (.request name' r'.length) (.done (Expression.unit name') r' h')) := by
  by_cases seen : T.horizon ≤ r.length
  · obtain ⟨rfl, rest⟩ := same seen
    have length := T.length_eq rest
    have := T.behind_le
    have place : r'.length = T.moved r.length := by
      unfold moved
      omega
    exact .whole (by simp [requests, Reading.after, Reading.done, Step.request?, place]) (.ok rest)
  · refine .part (Nat.lt_of_not_le seen) fun before q seen' isPrefix => ?_
    have member := isPrefix.subset (List.mem_append_right _ List.mem_cons_self)
    cases List.mem_singleton.1 member
    exact absurd seen' seen

theorem corresponds_readUnit (pair : T.Pairs s s') :
    T.Corresponds (readUnit o.escape s) (readUnit o'.escape s') := by
  by_cases seen : T.horizon ≤ s.length
  · have view := T.view pair seen
    have starts := view.startsName_eq
    have one := view.head?.eq_some_iff (Options.isEscape_of_isDigit (c := '1') (by decide))
    have marked := view.head?.eq_escape_iff
    unfold readUnit
    refine .noting ?_
    by_cases isOne : s.head? = some '1'
    · rw [if_pos isOne, if_pos (one.2 isOne)]
      cases view with
      | nil => cases isOne
      | @cons c c' t t' first ahead rest =>
        have divided : (c' :: t').tail.head? = some '/' ↔ (c :: t).tail.head? = some '/' :=
          ahead.eq_some_iff (Options.isEscape_of_reserved rfl)
        by_cases solidus : (c :: t).tail.head? = some '/'
        · rw [if_pos solidus, if_pos (divided.2 solidus)]
          exact corresponds_done rest
        · rw [if_neg solidus, if_neg (divided.not.2 solidus)]
          exact corresponds_fail pair (.notReciprocal ahead)
    · rw [if_neg isOne, if_neg (one.not.2 isOne)]
      by_cases named : startsName o.escape s = true
      · rw [if_pos named, if_pos (starts.trans named)]
        have name : T.Pairs (if s.head? = some o.escape then s.tail else s)
            (if s'.head? = some o'.escape then s'.tail else s') := by
          rw [if_congr marked rfl rfl]
          split_ifs
          · cases view with
            | nil => exact pair
            | cons first ahead rest => exact rest
          · exact pair
        refine .noting (corresponds_request fun seen => ?_)
        obtain ⟨same, rest⟩ := T.span_eq reserves_isNameCharacter name seen
        exact ⟨by rw [same], rest⟩
      · rw [if_neg named, if_neg (by rwa [starts])]
        exact corresponds_fail pair (.noUnit view.head?)
  · exact corresponds_of_beyond within_readUnit (Nat.lt_of_not_le seen)

theorem corresponds_readPower {e : Expression} (pair : T.Pairs s s') :
    T.Corresponds (readPower e s) (readPower e s') := by
  refine corresponds_of_silent requests_readPower requests_readPower fun seen => ?_
  have view := T.view pair (Nat.le_trans seen within_readPower.left_le)
  have same := view.head?.any_eq reserves_isSignedDigit
  unfold readPower at seen ⊢
  by_cases signed : s.head?.any Literal.isSignedDigit = true
  · rw [if_pos signed] at seen ⊢
    have scanned : T.horizon ≤ (s.dropWhile Literal.isSignedDigit).length := by
      cases value : Whole.read? (s.takeWhile Literal.isSignedDigit) <;>
        · simp only [value] at seen
          exact seen
    obtain ⟨digits, rest⟩ := T.span_eq reserves_isSignedDigit pair scanned
    rw [if_pos (same.trans signed)]
    simp only [digits]
    cases value : Whole.read? (s.takeWhile Literal.isSignedDigit) with
    | none =>
      refine .error (.same _) ?_ ?_
      · exact T.length_eq pair
      · exact T.length_eq rest
    | some n =>
      refine .ok ?_
      exact rest
  · rw [if_neg signed, if_neg (by rwa [same])]
    exact .ok pair

theorem corresponds_readClosing (pair : T.Pairs s s') :
    T.Corresponds (readClosing s) (readClosing s') := by
  by_cases seen : T.horizon ≤ s.length
  · have view := T.view pair seen
    have closing := view.head?.eq_some_iff (Options.isEscape_of_reserved (c := ')') rfl)
    by_cases closes : s.head? = some ')'
    · have closes' := closing.2 closes
      cases view with
      | nil => cases closes
      | cons first ahead rest =>
        cases closes
        cases closes'
        exact corresponds_done rest
    · rw [readClosing_of_ne closes, readClosing_of_ne (closing.not.2 closes)]
      exact corresponds_fail pair (.same _)
  · exact corresponds_of_beyond within_readClosing (Nat.lt_of_not_le seen)

theorem corresponds_readSimpleFactor (same : o'.dimensionless = o.dimensionless)
    (pair : T.Pairs s s') : T.Corresponds (readSimpleFactor o s) (readSimpleFactor o' s') := by
  by_cases seen : T.horizon ≤ s.length
  · have view := T.view pair seen
    have one : decide (s'.head? = some '1') = decide (s.head? = some '1') :=
      decide_eq_decide.2 (view.head?.eq_some_iff (Options.isEscape_of_isDigit (by decide)))
    unfold readSimpleFactor
    rw [same, view.startsName_eq, one]
    split_ifs
    · exact corresponds_done pair
    · refine (corresponds_readScale pair).andThen
        (fun _ _ _ => within_readUnit.andThen fun _ _ _ => within_readPower) ?_
      intro x r _ r' _ pair
      refine (corresponds_readUnit pair).andThen (fun _ _ _ => within_readPower) ?_
      exact fun e t _ t' _ pair => corresponds_readPower pair
  · exact corresponds_of_beyond within_readSimpleFactor (Nat.lt_of_not_le seen)

/-! ## Terms and parentheses -/

-- The recursion is that of the readers, on the measure of the first text.
mutual

theorem corresponds_readNested (same : o'.dimensionless = o.dimensionless) (s s' : List Char)
    (pair : T.Pairs s s') : T.Corresponds (readNested o s) (readNested o' s') := by
  rw [readNested, readNested]
  refine .noting ((corresponds_readCoefficient pair).andThen
    (fun _ r _ => (within_readTerm r).andThen fun _ _ _ => within_done) ?_)
  intro x r _ r' _ pair
  refine (corresponds_readTerm same r r' pair).andThen (fun _ _ _ => within_done) ?_
  exact fun e t _ t' _ pair => corresponds_done pair
termination_by 4 * s.length + 3

theorem corresponds_readTerm (same : o'.dimensionless = o.dimensionless) (s s' : List Char)
    (pair : T.Pairs s s') : T.Corresponds (readTerm o s) (readTerm o' s') := by
  rw [readTerm, readTerm]
  refine (corresponds_readFactor same s s' pair).andThen
    (fun e r _ => within_readContinued false e r) ?_
  exact fun e r _ r' _ pair => corresponds_readContinued same false e r r' pair
termination_by 4 * s.length + 2

theorem corresponds_readFactor (same : o'.dimensionless = o.dimensionless) (s s' : List Char)
    (pair : T.Pairs s s') : T.Corresponds (readFactor o s) (readFactor o' s') := by
  by_cases seen : T.horizon ≤ s.length
  · have view := T.view pair seen
    have group := view.head?.eq_some_iff (Options.isEscape_of_reserved (c := '(') rfl)
    by_cases opens : s.head? = some '('
    · have opens' := group.2 opens
      cases view with
      | nil => cases opens
      | @cons c c' r r' first ahead rest =>
        cases opens
        cases opens'
        rw [readFactor, readFactor]
        refine .noting (.widen ((corresponds_readNested same r r' rest).andThen
          (fun _ _ _ => within_readClosing.andThen fun _ _ _ => within_readPower) ?_))
        intro e t _ t' _ pair
        refine (corresponds_readClosing pair).andThen (fun _ _ _ => within_readPower) ?_
        exact fun _ u _ u' _ pair => corresponds_readPower pair
    · rw [readFactor_of_ne opens, readFactor_of_ne (group.not.2 opens)]
      exact .noting (corresponds_readSimpleFactor same pair)
  · exact corresponds_of_beyond (within_readFactor s) (Nat.lt_of_not_le seen)
termination_by 4 * s.length + 1

theorem corresponds_readContinued (same : o'.dimensionless = o.dimensionless) (divided : Bool)
    (e : Expression) : (s s' : List Char) → T.Pairs s s' →
    T.Corresponds (readContinued o divided e s) (readContinued o' divided e s')
  | [], s', pair => by
    by_cases seen : T.horizon ≤ 0
    · cases T.view pair seen
      rw [readContinued, readContinued]
      exact corresponds_done pair
    · exact corresponds_of_beyond (within_readContinued divided e []) (Nat.lt_of_not_le seen)
  | c :: r, s', pair => by
    by_cases seen : T.horizon ≤ (c :: r).length
    · cases T.view pair seen with
      | @cons _ c' _ r' first ahead rest =>
        rw [readContinued, readContinued]
        by_cases operator : isOperator c = true
        · obtain rfl := first.eq_of_fits reserves_isOperator operator
          rw [if_pos operator, if_pos operator, ahead.filter_eq reserves_isOperator]
          cases next : r.head?.filter isOperator with
          | some d => exact corresponds_fail pair (.same _)
          | none =>
            refine .noting ?_
            by_cases again : (c' = '/' && divided) = true
            · rw [if_pos again, if_pos again]
              exact corresponds_fail pair (.same _)
            · rw [if_neg again, if_neg again]
              refine .widen ((corresponds_readFactor same r r' rest).andThen
                (fun _ t _ => within_readContinued _ _ t) ?_)
              exact fun f t shorter t' _ pair => corresponds_readContinued same _ _ t t' pair
        · rw [if_neg operator, if_neg (by rwa [first.fits_eq reserves_isOperator])]
          exact corresponds_done pair
    · exact corresponds_of_beyond (within_readContinued divided e _) (Nat.lt_of_not_le seen)
termination_by s => 4 * s.length

end

/-! ## Whole texts -/

theorem corresponds_readEnd {α : Type} {a : α} (pair : T.Pairs s s') :
    T.Corresponds (readEnd a s) (readEnd a s') := by
  by_cases seen : T.horizon ≤ s.length
  · cases T.view pair seen with
    | nil => exact corresponds_done pair
    | cons first ahead rest => exact corresponds_fail pair (.garbage first)
  · exact corresponds_of_beyond within_readEnd (Nat.lt_of_not_le seen)

/-- The readings of two paired texts correspond. -/
theorem corresponds_readWhole (same : o'.dimensionless = o.dimensionless) (pair : T.Pairs s s') :
    T.Corresponds (readWhole o s) (readWhole o' s') := by
  refine (corresponds_readCoefficient pair).andThen
    (fun _ r _ => (within_readTerm r).andThen fun _ _ _ => within_readEnd) ?_
  intro x r _ r' _ pair
  refine (corresponds_readTerm same r r' pair).andThen (fun _ _ _ => within_readEnd) ?_
  exact fun e t _ t' _ pair => corresponds_readEnd pair

end Pairing

end Metrology.Expression
