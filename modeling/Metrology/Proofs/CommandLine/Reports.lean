import Metrology.Proofs.CommandLine.Script
import Metrology.Proofs.Engineering.Signs
import Metrology.Proofs.Number.Finite
import Metrology.Proofs.Parser.Growth
import Metrology.Proofs.Registry.Names

/-!
# Reports of sessions

The entries of a script bring reports, the expressions among them by parses with one parser
(`reports`).  What a session answers in the end is put together from its reports
(`Session.perform_eq`), and a report can be written unless its quantity has an exponent with too
many digits, or the format has too many digits for a finite magnitude (`Report.exists_text_iff`).
-/

namespace Metrology.CommandLine

/-! ## Reports -/

/-- A piece of what a session writes: a text, or the report of the parse of an expression. -/
inductive Report where
  | shown (text : String)
  | parsed (expression : String) (parsed : Parser.Parsed)

namespace Report

/-- The text of a report in a format. -/
def text (f : Engineering.Format) : Report → Except TextFault String
  | shown text => .ok text
  | parsed expression x => reportText f expression x

/-- Whether no parse failed. -/
def succeeded : Report → Bool
  | shown _ => true
  | parsed _ x => x.result.isOk

/-- The records of the parse. -/
def log : Report → List Log.Record
  | shown _ => []
  | parsed _ x => x.log

/-- The quantity of a report can be written in a format: no exponent has too many digits, and a
finite magnitude has no more digits than a text can have. -/
def IsWritable (f : Engineering.Format) : Report → Prop
  | shown _ => True
  | parsed _ x => ∀ q, x.result = .ok q →
      q.dimension.isWritable = true ∧
        (q.value.isFinite = true → f.digits ≤ Engineering.precisionLimit)

end Report

/-- The report of an entry by a parser. -/
def Entry.report (p : Parser) : Entry → Report
  | shown text => .shown text
  | expression text => .parsed text (p.parse text)

/-- The parser after an entry. -/
def Entry.next (p : Parser) : Entry → Parser
  | shown _ => p
  | expression text => (p.parse text).parser

/-- The reports of entries, each by the parser that the one before it leaves behind. -/
def reports (p : Parser) : List Entry → List Report
  | [] => []
  | entry :: es => entry.report p :: reports (entry.next p) es

/-! ## Sessions and their reports -/

namespace Session

/-- The response of a session to entries whose reports have the texts. -/
def written (s : Session) (es : List Entry) (texts : List String) : Response where
  session :=
    { s with
      parser := es.foldl Entry.next s.parser
      succeeded := s.succeeded && (reports s.parser es).all Report.succeeded }
  output := String.join texts
  log := (reports s.parser es).flatMap Report.log

/-- A session answers an entry with its report. -/
theorem respond_eq (s : Session) (entry : Entry) :
    s.respond entry = ((entry.report s.parser).text s.format).map fun text =>
      s.written [entry] [text] := by
  cases entry with
  | shown text =>
    simp [respond, Entry.report, Report.text, Except.map, written, reports, Entry.next,
      Report.succeeded, Report.log]
  | expression text =>
    simp [respond, report, Entry.report, Report.text, written, reports, Entry.next,
      Report.succeeded, Report.log]

/-- A session writes the reports of its entries in their order, if each of them can be written. -/
theorem perform_eq (s : Session) (es : List Entry) :
    s.perform es = ((reports s.parser es).mapM (Report.text s.format)).map (s.written es) := by
  induction es generalizing s with
  | nil => simp [perform, reports, Except.map, written, Response.silent, pure, Except.pure]
  | cons entry es ih =>
    rw [perform, respond_eq, reports, List.mapM_cons]
    cases (entry.report s.parser).text s.format with
    | error fault => rfl
    | ok text =>
      simp only [Except.map, ok_bind, Response.andThen, ih]
      have parser : (s.written [entry] [text]).session.parser = entry.next s.parser := rfl
      have format : (s.written [entry] [text]).session.format = s.format := rfl
      rw [parser, format]
      cases (reports (entry.next s.parser) es).mapM (Report.text s.format) with
      | error fault => rfl
      | ok texts =>
        simp [written, reports, Bool.and_assoc, pure, Except.pure, bind, Except.bind, Entry.next]

end Session

/-! ## What can be written -/

section Formats

variable {f : Engineering.Format} {q : Quantity} {r : Registry}

theorem exists_mantissaText_iff (general : f.fixed = false) (s : Engineering.Scaled) :
    (∃ m, f.mantissaText s = .ok m) ↔ f.digits ≤ Engineering.precisionLimit := by
  have three : 3 ≤ Engineering.precisionLimit := by decide
  rw [Engineering.Format.mantissaText, general, if_neg Bool.false_ne_true, exists_map_ok_iff,
    Engineering.exists_checkPrecision_iff, max_le_iff, and_iff_left three]

theorem exists_body_iff (general : f.fixed = false) {d : Dimension} {symbol : String} {x : Float} :
    (∃ p, f.body r d symbol x = .ok p) ↔
      (x.isFinite = true → f.digits ≤ Engineering.precisionLimit) := by
  unfold Engineering.Format.body
  split_ifs with finite
  · rw [exists_map_ok_iff, exists_mantissaText_iff general, imp_iff_right finite]
  · exact iff_of_true ⟨_, rfl⟩ fun h => absurd h finite

/-- A quantity is written in a format if its symbol is, and a finite magnitude has no more digits
than a text can have. -/
theorem exists_text_iff (general : f.fixed = false) :
    (∃ t, f.text q r = .ok t) ↔ (∃ symbol, q.symbol r = .ok symbol) ∧
      (q.value.isFinite = true → f.digits ≤ Engineering.precisionLimit) := by
  rw [Engineering.Format.text, exists_map_ok_iff, Engineering.Format.parts_eq_body]
  refine exists_bind_ok_iff.trans ?_
  simp only [exists_map_ok_iff, exists_body_iff general, Engineering.isFinite_absolute,
    exists_and_right]

end Formats

/-- A parse keeps the registry among those that a history of operations leaves. -/
theorem exists_run_parse {p : Parser} (h : ∃ ops, p.registry = Registry.run ops) (text : String) :
    ∃ ops, (p.parse text).parser.registry = Registry.run ops := by
  obtain ⟨ops, known⟩ := h
  obtain ⟨names, requested, -⟩ := p.exists_requests text
  obtain ⟨more, run, -⟩ := Registry.exists_run_requests p.options.extend names ops
  exact ⟨ops ++ more, by rw [requested, known, run]⟩

namespace Report

variable {f : Engineering.Format} {x : Parser.Parsed} {p : Parser}

/-- After any history every slot has a label, so that the report of a parse can be written if the
exponents and the number of digits allow for it. -/
theorem exists_reportText_iff (general : f.fixed = false)
    (h : ∃ ops, x.parser.registry = Registry.run ops) (expression : String) :
    (∃ t, reportText f expression x = .ok t) ↔ (parsed expression x).IsWritable f := by
  obtain ⟨ops, registry⟩ := h
  rw [reportText, IsWritable]
  cases x.result with
  | error e => exact iff_of_true ⟨_, rfl⟩ (by rintro q ⟨⟩)
  | ok q =>
    have product := Registry.baseSymbol_run ops q.dimension
    rw [← registry] at product
    have base : q.baseSymbol x.parser.registry = _ :=
      (Registry.symbol_of_unnamed (.inl rfl)).trans product
    simp only [Except.ok.injEq, forall_eq']
    by_cases writable : q.dimension.isWritable = true
    · rw [if_pos writable] at base product
      have symbol : ∃ symbol, q.symbol x.parser.registry = .ok symbol := by
        rcases x.parser.registry.symbol_cases q.dimension true with ⟨name, -, named⟩ | unnamed
        · exact ⟨name, named⟩
        · exact ⟨_, unnamed.trans product⟩
      rw [and_iff_right writable]
      refine Iff.trans ?_ ((exists_text_iff general).trans (and_iff_right symbol))
      cases f.text q x.parser.registry with
      | error fault => exact iff_of_false (by rintro ⟨_, ⟨⟩⟩) (by rintro ⟨_, ⟨⟩⟩)
      | ok t =>
        rw [ok_bind, base]
        exact iff_of_true ⟨_, rfl⟩ ⟨t, rfl⟩
    · rw [if_neg writable] at base
      refine iff_of_false ?_ fun h => writable h.1
      rw [base]
      cases f.text q x.parser.registry with
      | error fault => rintro ⟨_, ⟨⟩⟩
      | ok t => rintro ⟨_, ⟨⟩⟩

theorem exists_text_iff_of_mem {report : Report} {es : List Entry} (general : f.fixed = false)
    (h : ∃ ops, p.registry = Registry.run ops) (member : report ∈ reports p es) :
    (∃ t, report.text f = .ok t) ↔ report.IsWritable f := by
  induction es generalizing p with
  | nil => cases member
  | cons entry es ih =>
    cases entry with
    | shown text =>
      rcases List.mem_cons.1 member with rfl | member
      · exact iff_of_true ⟨text, rfl⟩ trivial
      · exact ih h member
    | expression text =>
      have run := exists_run_parse h text
      rcases List.mem_cons.1 member with rfl | member
      · exact exists_reportText_iff general run text
      · exact ih run member

end Report

/-- The reports of entries can all be written if each of them can. -/
theorem exists_texts_iff {f : Engineering.Format} {p : Parser} (general : f.fixed = false)
    (h : ∃ ops, p.registry = Registry.run ops) (es : List Entry) :
    (∃ texts, (reports p es).mapM (Report.text f) = .ok texts) ↔
      ∀ report ∈ reports p es, report.IsWritable f := by
  rw [exists_mapM_ok_iff]
  exact forall₂_congr fun report member => Report.exists_text_iff_of_mem general h member

end Metrology.CommandLine
