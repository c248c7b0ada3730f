import Scrutineer.Command.Run
import Scrutineer.Proofs.Craft.RoundTrip
import Scrutineer.Proofs.ErrorKind
import Scrutineer.Proofs.Rule.Stored

/-! The two commands compile the same text with the same limit. Rules that pass the
check are the rules that crafts are judged by, and no craft is judged by rules that
fail it. What a check prints about failing rules is told from each rule by itself, and
how a craft is judged does not depend on what is printed. -/

namespace Scrutineer

/-! ### What is printed about rules that fail -/

/-- The lines about a rule that does not compile: its strategy and one line for
each parameter at fault, or what is wrong with the strategy. -/
inductive Rule.ComplainedOf (rule : Rule) : List String → Prop where
  | params {strategy : String} {errors : List ParamError}
      (failed : Condition.compile rule.strategy rule.params =
        .error (.invalidParams strategy errors)) :
      ComplainedOf rule (("  [" ++ rule.id ++ "] " ++ strategy) ::
        errors.map fun error => "      " ++ error.message)
  | strategy {name : String}
      (failed : Condition.compile rule.strategy rule.params = .error (.unknownStrategy name)) :
      ComplainedOf rule ["  [" ++ rule.id ++ "] " ++ (RuleError.unknownStrategy name).message]

namespace Rule

theorem complainedOf_lines {rule : Rule} {rejected : RejectedRule}
    (reported : rule.rejection? = some rejected) : rule.ComplainedOf rejected.lines := by
  obtain ⟨id, failed⟩ := error_of_rejection? reported
  obtain ⟨_ruleId, error⟩ := rejected
  cases id
  cases Condition.names_of_compile failed with
  | unknown absent => exact .strategy failed
  | params named some => exact .params failed

theorem forall₂_complainedOf (rules : List Rule) :
    List.Forall₂ ComplainedOf (rules.filter fun rule => !rule.isAccepted)
      ((rules.filterMap rejection?).map RejectedRule.lines) := by
  induction rules with
  | nil => exact .nil
  | cons rule rest ih =>
      rw [List.filter_cons, List.filterMap_cons]
      unfold isAccepted
      cases reported : rule.rejection? with
      | none => exact ih
      | some rejected => exact .cons (complainedOf_lines reported) ih

end Rule

/-! ### What is printed about crafts -/

namespace Verdict

def outcomeLines (verdict : Verdict) : List String :=
  if verdict.passed then ["PASS (" ++ toString verdict.evaluated ++ " rules evaluated)"]
  else
    ("FAIL (" ++ toString verdict.failures.length ++ " of " ++ toString verdict.evaluated ++
        " rules failed)") ::
      verdict.failures.map fun failure => "  [" ++ failure.ruleId ++ "] " ++ failure.message

theorem lines_eq (verdict : Verdict) :
    verdict.lines = verdict.outcomeLines ++ verdict.trace.map ("  trace: " ++ ·) :=
  rfl

def isTraceLine (line : String) : Bool :=
  "  trace: ".toList.isPrefixOf line.toList

theorem isTraceLine_trace (line : String) : isTraceLine ("  trace: " ++ line) = true := by
  unfold isTraceLine
  rw [List.isPrefixOf_iff_prefix, String.toList_append]
  exact List.prefix_append _ line.toList

theorem isTraceLine_append {front : String} (rest : String)
    (apart : ∀ characters, "  trace: ".toList.isPrefixOf (front.toList ++ characters) = false) :
    isTraceLine (front ++ rest) = false := by
  unfold isTraceLine
  rw [String.toList_append]
  exact apart rest.toList

theorem isTraceLine_outcome (verdict : Verdict) :
    ∀ line ∈ verdict.outcomeLines, isTraceLine line = false := by
  intro line member
  unfold outcomeLines at member
  split at member
  · rw [List.mem_singleton.mp member, String.append_assoc]
    exact isTraceLine_append _ fun _characters => rfl
  · rcases List.mem_cons.mp member with rfl | failure
    · rw [String.append_assoc, String.append_assoc, String.append_assoc]
      exact isTraceLine_append _ fun _characters => rfl
    · obtain ⟨failed, _within, rfl⟩ := List.mem_map.mp failure
      rw [String.append_assoc, String.append_assoc]
      exact isTraceLine_append _ fun _characters => rfl

/-- Of the lines of a verdict, those of the trace are told by how they begin. -/
theorem filter_isTraceLine_lines (verdict : Verdict) :
    verdict.lines.filter isTraceLine = verdict.trace.map ("  trace: " ++ ·) := by
  have own : ∀ line ∈ verdict.trace.map ("  trace: " ++ ·), isTraceLine line = true := by
    intro line member
    obtain ⟨inner, _within, rfl⟩ := List.mem_map.mp member
    exact isTraceLine_trace inner
  have others : ∀ line ∈ verdict.outcomeLines, ¬isTraceLine line = true := by
    intro line member
    rw [verdict.isTraceLine_outcome line member]
    exact Bool.false_ne_true
  rw [lines_eq, List.filter_append, List.filter_eq_self.mpr own,
    List.filter_eq_nil_iff.mpr others, List.nil_append]

theorem passed_ofRules_iff (withTrace : Bool) (craft : Craft) (rules : List CompiledRule) :
    (ofRules withTrace craft rules).passed = true ↔ ∀ rule ∈ rules, rule.holds craft = true := by
  have silent (rule : CompiledRule) : rule.failure? craft = none ↔ rule.holds craft = true := by
    unfold CompiledRule.failure?
    cases rule.holds craft <;> simp
  change (rules.filterMap (·.failure? craft)).isEmpty = true ↔ _
  rw [List.isEmpty_iff, List.filterMap_eq_nil_iff]
  simp only [silent]

end Verdict

/-- What is printed about a craft shows a trace, as those lines that begin like
lines of a trace or as one member of the object that the JSON text reads as. -/
inductive OutputFormat.Shows (trace : List String) : OutputFormat → List String → Prop where
  | text {lines : List String}
      (own : lines.filter Verdict.isTraceLine = trace.map ("  trace: " ++ ·)) :
      Shows trace .text lines
  | json {printed : String} {members : List (Option String × Document)}
      (read : Document.ofText? printed = some (.object members))
      (own : members.filter (·.1 == some "evaluation_trace") =
        [(some "evaluation_trace", .array (trace.map fun line => .text (some line)))]) :
      Shows trace .json [printed]

theorem Document.ofItems_map_text (texts : List String) :
    ofItems (texts.map Json.text) = texts.map fun content => .text (some content) := by
  rw [ofItems_eq_map, List.map_map]
  rfl

theorem Verdict.shows_print (verdict : Verdict) (timing : Timing) (format : OutputFormat) :
    format.Shows verdict.trace (verdict.print timing format) := by
  cases format with
  | text => exact .text verdict.filter_isTraceLine_lines
  | json =>
      refine .json (Document.ofText?_pretty (verdict.toJson timing)) ?_
      rw [← Document.ofItems_map_text]
      rfl

/-! ### The two commands -/

namespace Command

def compiledRules (settings : EngineSettings) (rulesText : String) :
    Except RuleError (List CompiledRule) :=
  (Compiler.compileText { version := 0, maxRules := settings.maxRules } rulesText).1

/-- How checking goes, by what the rules compile to. -/
structure Checks (rulesText : String) (compiled : Except RuleError (List CompiledRule))
    (checked : Except CommandError Report) : Prop where
  exitsZero : (∃ report, checked = .ok report ∧ report.code = 0) ↔ ∃ rules, compiled = .ok rules
  printsCount : ∀ rules, compiled = .ok rules →
    ∃ stored, Rule.listDecoder.ofText rulesText = .ok stored ∧
      List.Forall₂ (fun rule known => known.IsOf rule) stored rules ∧
      checked = .ok { lines := ["OK: " ++ toString stored.length ++ " rules compiled"], code := 0 }
  exitsOne : (∃ report, checked = .ok report ∧ report.code = 1) ↔
    ∃ rejected, compiled = .error (.rejected rejected)
  printsRejected : ∀ rejected, compiled = .error (.rejected rejected) →
    ∃ stored complaints, Rule.listDecoder.ofText rulesText = .ok stored ∧
      List.Forall₂ Rule.ComplainedOf (stored.filter fun rule => !rule.isAccepted) complaints ∧
      checked = .ok {
        lines := ("REJECTED: " ++ toString complaints.length ++ " rules failed to compile") ::
          complaints.flatten
        code := 1 }
  fails : (∃ failure, checked = .error failure) ↔
    ∃ error, compiled = .error error ∧ ∀ rejected, error ≠ .rejected rejected

/-- How judging goes, by what the rules compile to. -/
structure Evaluates (traceEnabled : Bool) (files : FileReader)
    (compiled : Except RuleError (List CompiledRule))
    (evaluate : String → Timing → OutputFormat → Bool → Except CommandError Report) : Prop where
  failsOnRules : ∀ error, compiled = .error error → ∀ craftPath timing format trace,
    ∃ failure, evaluate craftPath timing format trace = .error failure
  failsOnCraft : ∀ rules, compiled = .ok rules → ∀ craftPath craftText,
    files craftPath = .ok craftText → ∀ timing format trace,
      ((∃ failure, evaluate craftPath timing format trace = .error failure) ↔
        ∃ error, Craft.load craftText = .error error)
  judges : ∀ rules, compiled = .ok rules → ∀ craftPath craftText craft,
    files craftPath = .ok craftText → Craft.load craftText = .ok craft →
      ∀ timing format trace, ∃ report, evaluate craftPath timing format trace = .ok report ∧
        (report.code = 0 ↔ ∀ rule ∈ rules, rule.holds craft = true) ∧
        (report.code = 1 ↔ ¬∀ rule ∈ rules, rule.holds craft = true) ∧
        format.Shows (if trace || traceEnabled then rules.map (·.traceLine craft) else [])
          report.lines

variable {settings : EngineSettings} {files : FileReader} {rulesPath rulesText : String}

theorem runCheck_of_readable (readable : files rulesPath = .ok rulesText) :
    runCheck settings files rulesPath =
      match compiledRules settings rulesText with
      | .ok rules =>
          .ok { lines := ["OK: " ++ toString rules.length ++ " rules compiled"], code := 0 }
      | .error (.rejected rejected) =>
          .ok {
            lines := ("REJECTED: " ++ toString rejected.length ++ " rules failed to compile") ::
              rejected.flatMap RejectedRule.lines
            code := 1 }
      | .error other => .error (.check other) := by
  unfold runCheck readFile
  rw [readable]
  rfl

theorem exists_stored_of_accepted {rules : List CompiledRule}
    (accepted : compiledRules settings rulesText = .ok rules) :
    ∃ stored, Rule.listDecoder.ofText rulesText = .ok stored ∧
      List.Forall₂ (fun rule known => known.IsOf rule) stored rules := by
  unfold compiledRules at accepted
  rcases Compiler.compileText_cases _ rulesText with ⟨stored, read, same⟩ | ⟨cause, _unread, same⟩
  · rw [same] at accepted
    exact ⟨stored, read, Compiler.compileSet_forall₂ _ stored rules accepted⟩
  · rw [same] at accepted
    cases accepted

theorem exists_stored_of_rejected {rejected : List RejectedRule}
    (failed : compiledRules settings rulesText = .error (.rejected rejected)) :
    ∃ stored, Rule.listDecoder.ofText rulesText = .ok stored ∧
      rejected = stored.filterMap Rule.rejection? := by
  unfold compiledRules at failed
  rcases Compiler.compileText_cases _ rulesText with ⟨stored, read, same⟩ | ⟨cause, _unread, same⟩
  · rw [same] at failed
    rcases Compiler.compileSet_error_cases failed with ⟨_over, impossible⟩ | ⟨_some, rejections⟩
    · cases impossible
    · exact ⟨stored, read, RuleError.rejected.inj rejections⟩
  · rw [same] at failed
    cases failed

theorem checks_accepted {rules : List CompiledRule}
    (accepted : compiledRules settings rulesText = .ok rules) :
    Checks rulesText (.ok rules)
      (.ok { lines := ["OK: " ++ toString rules.length ++ " rules compiled"], code := 0 }) where
  exitsZero := iff_of_true ⟨_, rfl, rfl⟩ ⟨rules, rfl⟩
  printsCount := by
    rintro _ ⟨⟩
    obtain ⟨stored, read, each⟩ := exists_stored_of_accepted accepted
    refine ⟨stored, read, each, ?_⟩
    rw [each.length_eq]
  exitsOne := iff_of_false (by rintro ⟨_, ⟨⟩, ⟨⟩⟩) (by rintro ⟨_, ⟨⟩⟩)
  printsRejected := nofun
  fails := iff_of_false (by rintro ⟨_, ⟨⟩⟩) (by rintro ⟨_, ⟨⟩, _⟩)

theorem checks_rejected {rejected : List RejectedRule}
    (failed : compiledRules settings rulesText = .error (.rejected rejected)) :
    Checks rulesText (.error (.rejected rejected))
      (.ok {
        lines := ("REJECTED: " ++ toString rejected.length ++ " rules failed to compile") ::
          rejected.flatMap RejectedRule.lines
        code := 1 }) where
  exitsZero := iff_of_false (by rintro ⟨_, ⟨⟩, ⟨⟩⟩) (by rintro ⟨_, ⟨⟩⟩)
  printsCount := nofun
  exitsOne := iff_of_true ⟨_, rfl, rfl⟩ ⟨rejected, rfl⟩
  printsRejected := by
    rintro _ ⟨⟩
    obtain ⟨stored, read, rfl⟩ := exists_stored_of_rejected failed
    refine ⟨stored, _, read, Rule.forall₂_complainedOf stored, ?_⟩
    rw [List.length_map, List.flatMap_def]
  fails := by
    refine iff_of_false (by rintro ⟨_, ⟨⟩⟩) ?_
    rintro ⟨_, ⟨⟩, other⟩
    exact other rejected rfl

theorem checks_failed {error : RuleError} (other : ∀ rejected, error ≠ .rejected rejected) :
    Checks rulesText (.error error) (.error (.check error)) where
  exitsZero := iff_of_false (by rintro ⟨_, ⟨⟩, _⟩) (by rintro ⟨_, ⟨⟩⟩)
  printsCount := nofun
  exitsOne := by
    refine iff_of_false (by rintro ⟨_, ⟨⟩, _⟩) ?_
    rintro ⟨rejected, same⟩
    exact other rejected (Except.error.inj same)
  printsRejected := fun rejected same => absurd (Except.error.inj same) (other rejected)
  fails := iff_of_true ⟨_, rfl⟩ ⟨error, rfl, other⟩

theorem checks_runCheck (readable : files rulesPath = .ok rulesText) :
    Checks rulesText (compiledRules settings rulesText) (runCheck settings files rulesPath) := by
  rw [runCheck_of_readable readable]
  cases compiled : compiledRules settings rulesText with
  | ok rules => exact checks_accepted compiled
  | error error =>
      cases error with
      | rejected rejected => exact checks_rejected compiled
      | _ => exact checks_failed nofun

/-! ### Judging -/

theorem runEvaluate_of_failed (readable : files rulesPath = .ok rulesText) {error : RuleError}
    (failed : compiledRules settings rulesText = .error error) (craftPath : String)
    (timing : Timing) (format : OutputFormat) (trace : Bool) :
    runEvaluate settings files timing craftPath rulesPath format trace =
      .error (.rules rulesPath error) := by
  unfold runEvaluate readFile
  rw [readable]
  change ((compiledRules settings rulesText).mapError (CommandError.rules rulesPath) >>= _) = _
  rw [failed]
  rfl

theorem runEvaluate_of_accepted (readable : files rulesPath = .ok rulesText)
    {rules : List CompiledRule} (accepted : compiledRules settings rulesText = .ok rules)
    {craftPath craftText : String} (craftReadable : files craftPath = .ok craftText)
    (timing : Timing) (format : OutputFormat) (trace : Bool) :
    runEvaluate settings files timing craftPath rulesPath format trace =
      match Craft.load craftText with
      | .error error => .error (.craft craftPath error)
      | .ok craft =>
          let verdict := Verdict.ofRules (trace || settings.traceEnabled) craft rules
          .ok {
            lines := verdict.print timing format
            code := if verdict.passed then 0 else 1 } := by
  unfold runEvaluate readFile
  rw [readable, craftReadable]
  change ((compiledRules settings rulesText).mapError (CommandError.rules rulesPath) >>= _) = _
  rw [accepted]
  change ((Craft.load craftText).mapError (CommandError.craft craftPath) >>= _) = _
  cases loaded : Craft.load craftText with
  | error error => rfl
  | ok craft =>
      -- What was loaded has been validated, so that judging does not fail.
      obtain ⟨_decoded, _decoding, _complete, valid⟩ :=
        (Craft.load_eq_ok_iff craftText craft).mp loaded
      change ((Verdict.judge (trace || settings.traceEnabled) craft rules).mapError
        CommandError.judge >>= _) = _
      rw [Verdict.judge_of_valid _ craft rules valid]
      rfl

theorem evaluates_runEvaluate (readable : files rulesPath = .ok rulesText) :
    Evaluates settings.traceEnabled files (compiledRules settings rulesText)
      fun craftPath timing format trace =>
        runEvaluate settings files timing craftPath rulesPath format trace where
  failsOnRules := by
    intro error failed craftPath timing format trace
    exact ⟨_, runEvaluate_of_failed readable failed craftPath timing format trace⟩
  failsOnCraft := by
    intro rules accepted craftPath craftText craftReadable timing format trace
    rw [runEvaluate_of_accepted readable accepted craftReadable]
    cases Craft.load craftText with
    | error error => exact iff_of_true ⟨_, rfl⟩ ⟨error, rfl⟩
    | ok craft => exact iff_of_false (by rintro ⟨_, ⟨⟩⟩) (by rintro ⟨_, ⟨⟩⟩)
  judges := by
    intro rules accepted craftPath craftText craft craftReadable loaded timing format trace
    have passed := Verdict.passed_ofRules_iff (trace || settings.traceEnabled) craft rules
    have codes : ∀ passes : Bool, ((if passes then 0 else 1) = 0 ↔ passes = true) ∧
        ((if passes then 0 else 1) = 1 ↔ ¬passes = true) := by decide
    rw [runEvaluate_of_accepted readable accepted craftReadable, loaded, ← passed]
    exact ⟨_, rfl, (codes _).1, (codes _).2,
      (Verdict.ofRules _ craft rules).shows_print timing format⟩

/-- Checking and judging agree on every text of rules. What the rules compile to
decides how each of them goes, and a craft is judged by the rules that pass the
check. -/
theorem check_and_evaluate_agree (settings : EngineSettings) (files : FileReader)
    (rulesPath rulesText : String) (readable : files rulesPath = .ok rulesText) :
    Checks rulesText (compiledRules settings rulesText) (runCheck settings files rulesPath) ∧
      Evaluates settings.traceEnabled files (compiledRules settings rulesText)
        fun craftPath timing format trace =>
          runEvaluate settings files timing craftPath rulesPath format trace :=
  ⟨checks_runCheck readable, evaluates_runEvaluate readable⟩

private def engineFiles : FileReader := fun path =>
  if path = "rules.json" then .ok (Rule.listToJson [Compiler.engineRule]).compact
  else .ok (Craft.engineSnapshot []).compact

private theorem read_engineRule :
    Rule.listDecoder.ofText (Rule.listToJson [Compiler.engineRule]).compact =
      .ok [Compiler.engineRule] := by
  have canonical : ∀ rule ∈ [Compiler.engineRule], Json.Canonical (.object rule.params) := by
    intro rule member
    rw [List.mem_singleton.mp member]
    refine .object _ (List.pairwise_singleton _ _) fun param within => ?_
    rw [List.mem_singleton.mp within]
    exact .text "engine"
  have shallow : (Rule.listToJson [Compiler.engineRule]).nesting ≤ Document.depthLimit := by
    decide
  exact (Decoder.ofText_eq_ok_iff _ _ _).mpr
    ⟨_, Document.ofText?_compact _, Rule.listDecoder_toJson canonical shallow⟩

/-- The rule that asks for an engine passes the check, and the craft with one
engine is judged by it and passes. -/
theorem check_and_evaluate_agree_on_engine :
    engineFiles "rules.json" = .ok (Rule.listToJson [Compiler.engineRule]).compact ∧
      runCheck .fallback engineFiles "rules.json" =
        .ok { lines := ["OK: 1 rules compiled"], code := 0 } ∧
      ∀ timing format trace, ∃ report,
        runEvaluate .fallback engineFiles timing "craft.json" "rules.json" format trace =
          .ok report ∧ report.code = 0 := by
  have agree := check_and_evaluate_agree .fallback engineFiles "rules.json" _ rfl
  have compiles := (Condition.compile_eq_ok_iff "part_exists" [("part", .text "engine")]
    (.partExists "engine")).mpr ⟨.partExists, by decide, .partExists rfl⟩
  obtain ⟨rules, made⟩ := Compiler.exists_compileSet_eq_ok
    { version := 0, maxRules := EngineSettings.fallback.maxRules } [Compiler.engineRule]
    (by decide) fun rule member => by
      rw [List.mem_singleton.mp member]
      exact ⟨_, compiles⟩
  have accepted : compiledRules .fallback (Rule.listToJson [Compiler.engineRule]).compact =
      .ok rules := by
    unfold compiledRules Compiler.compileText
    rw [read_engineRule]
    exact made
  obtain ⟨stored, read, each, printed⟩ := agree.1.printsCount rules accepted
  cases read_engineRule.symm.trans read
  refine ⟨rfl, printed, ?_⟩
  intro timing format trace
  have passes : (Craft.load (Craft.engineSnapshot []).compact).toOption.map
      (fun craft => (Condition.partExists "engine").holds craft) = some true := by decide +kernel
  cases loaded : Craft.load (Craft.engineSnapshot []).compact with
  | error fault =>
      rw [loaded] at passes
      cases passes
  | ok craft =>
      rw [loaded] at passes
      obtain ⟨report, judged, zero, _one, _shows⟩ :=
        agree.2.judges rules accepted "craft.json" _ craft rfl loaded timing format trace
      refine ⟨report, judged, zero.mpr ?_⟩
      cases each with
      | cons isOf none =>
          cases none
          have same := Except.ok.inj (compiles.symm.trans isOf.condition)
          intro rule member
          rw [List.mem_singleton.mp member, CompiledRule.holds, ← same]
          exact Option.some.inj passes

end Command
end Scrutineer
