import Metrology.Parser
import Metrology.Proofs.Options.Updates

/-!
# Parsers used again

A parser can be used again after any calls, failed ones among them: from its options and its
registry on it is a new parser (`Parser.reuse`).  Every field of the state is written before it is
read (`Parser.parse_congr`), and a call that sets an option changes that option or nothing
(`Parser.call_set`).
-/

namespace Metrology

namespace Parser

/-! ## Calls -/

/-- What is asked of a parser. -/
inductive Call where
  | parse (source : String)
  | tryParse (source : String)
  | set (name : String) (value : Json)

/-- What a parser answers. -/
inductive Reply where
  | parsed (result : Except ParseError Quantity)
  | tried (trial : Trial)
  | accepted
  | refused (problems : List Options.Problem)

/-- The answer to a call, and what it leaves behind. -/
structure Turn where
  reply : Reply
  parser : Parser
  log : List Log.Record := []

def call (p : Parser) : Call → Turn
  | .parse source =>
    let parsed := p.parse source
    { reply := .parsed parsed.result, parser := parsed.parser, log := parsed.log }
  | .tryParse source =>
    let parsed := p.parse source
    { reply := .tried parsed.trial, parser := parsed.parser, log := parsed.log }
  | .set name value =>
    match p.set name value with
    | .ok p' => { reply := .accepted, parser := p' }
    | .error problems => { reply := .refused problems, parser := p }

/-- The parser after a history of calls. -/
def afterCalls (p : Parser) (history : List Call) : Parser :=
  history.foldl (fun p call => (p.call call).parser) p

/-- The replies to calls one after another, with the records of each. -/
def replies (p : Parser) : List Call → List (Reply × List Log.Record)
  | [] => []
  | call :: calls => ((p.call call).reply, (p.call call).log) :: (p.call call).parser.replies calls

/-- A parser that was not used yet. -/
def unused (options : Options) (registry : Registry) : Parser := { options, registry }

variable {p p' : Parser} {name : String} {value : Json}

/-! ## Settings -/

/-- An option takes a value that fits it. -/
inductive Sets (o : Options) : String → Json → Options → Prop where
  | flag (flag : Options.Flag) (b : Bool) : Sets o flag.name (.bool b) (o.setFlag flag b)
  | escape (c : Options.Escape) :
    Sets o "escape" (.text (String.singleton c.1)) (o.setEscape c)

theorem call_set_of_ok {o : Options} (h : p.options.update [(name, value)] = .ok o) :
    p.call (.set name value) = { reply := .accepted, parser := { p with options := o } } := by
  have set : p.set name value = .ok { p with options := o } := by
    rw [Parser.set, h]
    rfl
  simp only [call, set]

theorem call_set_of_error {problems : List Options.Problem}
    (h : p.options.update [(name, value)] = .error problems) :
    p.call (.set name value) = { reply := .refused problems, parser := p } := by
  have set : p.set name value = .error problems := by
    rw [Parser.set, h]
    rfl
  simp only [call, set]

theorem flag_or_escape_of_mem_names (h : name ∈ Options.names) :
    (∃ flag : Options.Flag, name = flag.name) ∨ name = "escape" := by
  have listed : Options.names = ["debug", "extend", "dimensionless", "escape"] := rfl
  rw [listed] at h
  simp only [List.mem_cons, List.not_mem_nil, or_false] at h
  rcases h with rfl | rfl | rfl | rfl
  · exact .inl ⟨.debug, rfl⟩
  · exact .inl ⟨.extend, rfl⟩
  · exact .inl ⟨.dimensionless, rfl⟩
  · exact .inr rfl

/-- A call that sets an option gives it the value, and changes nothing else; or it is refused for
one problem at that name, and changes nothing. -/
theorem call_set (p : Parser) (name : String) (value : Json) :
    (∃ o, Sets p.options name value o ∧
      p.call (.set name value) = { reply := .accepted, parser := { p with options := o } }) ∨
    ∃ fault, p.call (.set name value) = { reply := .refused [⟨name, fault⟩], parser := p } := by
  by_cases known : name ∈ Options.names
  · rcases flag_or_escape_of_mem_names known with ⟨flag, rfl⟩ | rfl
    · have updated := p.options.update_flag flag value
      cases read : Options.readFlag false (some value) with
      | error fault => exact .inr ⟨fault, call_set_of_error (by rw [updated, read])⟩
      | ok b =>
        obtain rfl := Options.eq_of_readFlag_ok read
        exact .inl ⟨_, .flag flag b, call_set_of_ok (by rw [updated, read])⟩
    · have updated := p.options.update_escape ⟨_, p.options.escape_fits⟩ value
      cases read : Options.readEscape ⟨_, p.options.escape_fits⟩ (some value) with
      | error fault => exact .inr ⟨fault, call_set_of_error (by rw [updated, read])⟩
      | ok c =>
        obtain rfl := Options.eq_of_readEscape_ok read
        exact .inl ⟨_, .escape c, call_set_of_ok (by rw [updated, read])⟩
  · exact .inr ⟨_, call_set_of_error (p.options.update_of_unknown known value)⟩

/-! ## Parsers with the same options and registry -/

/-- The parsers have the same options and the same registry. -/
structure Matches (p p' : Parser) : Prop where
  options : p.options = p'.options
  registry : p.registry = p'.registry

/-- A parse depends on the options and the registry alone: what the state holds is replaced. -/
theorem parse_congr (h : p.Matches p') (source : String) : p.parse source = p'.parse source := by
  unfold parse refuse parseText
  simp only [ParserState.load_start, h.options, h.registry]

theorem Matches.set (h : p.Matches p') (name : String) (value : Json) :
    (p.call (.set name value)).reply = (p'.call (.set name value)).reply ∧
      (p.call (.set name value)).log = (p'.call (.set name value)).log ∧
      (p.call (.set name value)).parser.Matches (p'.call (.set name value)).parser := by
  cases updated : p.options.update [(name, value)] with
  | error problems =>
    have updated' := h.options ▸ updated
    rw [call_set_of_error updated, call_set_of_error updated']
    exact ⟨rfl, rfl, h⟩
  | ok o =>
    have updated' := h.options ▸ updated
    rw [call_set_of_ok updated, call_set_of_ok updated']
    exact ⟨rfl, rfl, rfl, h.registry⟩

/-- One call: the parsers reply alike, and match again. -/
theorem Matches.call (h : p.Matches p') (c : Call) :
    (p.call c).reply = (p'.call c).reply ∧ (p.call c).log = (p'.call c).log ∧
      (p.call c).parser.Matches (p'.call c).parser := by
  cases c with
  | parse source =>
    simp only [Parser.call, parse_congr h source, true_and]
    exact ⟨rfl, rfl⟩
  | tryParse source =>
    simp only [Parser.call, parse_congr h source, true_and]
    exact ⟨rfl, rfl⟩
  | set name value => exact h.set name value

/-- Any calls: parsers that match reply alike. -/
theorem Matches.replies_eq (h : p.Matches p') (calls : List Call) :
    p.replies calls = p'.replies calls := by
  induction calls generalizing p p' with
  | nil => rfl
  | cons c calls ih =>
    obtain ⟨reply, log, later⟩ := h.call c
    rw [replies, replies, reply, log, ih later]

/-- After any history of calls a parser parses like one that was not used yet, with the same
options and registry: the outcome, the state, the registry and the log are the same, and so are the
replies to all later calls.  A call that sets an option in vain leaves the whole parser as it was. -/
theorem reuse (p : Parser) (history : List Call) :
    let used := p.afterCalls history
    let new := unused used.options used.registry
    (∀ source, used.parse source = new.parse source) ∧
    (∀ calls, used.replies calls = new.replies calls) ∧
    ∀ name value,
      (∃ o, Sets used.options name value o ∧ used.call (.set name value) =
        { reply := .accepted, parser := { used with options := o } }) ∨
      ∃ fault, used.call (.set name value) =
        { reply := .refused [⟨name, fault⟩], parser := used } := by
  intro used new
  have alike : used.Matches new := ⟨rfl, rfl⟩
  exact ⟨parse_congr alike, alike.replies_eq, used.call_set⟩

end Parser

end Metrology
