import Mathlib.Algebra.Group.Nat.Defs
import Bytebeat.Proofs.Tool.Runs
import Bytebeat.Proofs.Tool.Unpack

namespace Bytebeat

structure Labelled (code : Text) : Prop where
  source : ∃ t, Size.label code.utf8Length = .ok t
  packed : ∃ t, Size.label (Packing.encode code).utf8Length = .ok t

theorem Size.exists_label_of_ok {size : Nat} {plain compact : Bool} {t : Text} (labelled : label size plain = .ok t) :
    ∃ t, label size compact = .ok t := by
  have natural : ¬ (size : Int) < 0 := by omega
  rw [label, if_neg natural] at labelled ⊢
  by_cases small : (size : Int) < plainLimit
  · rw [if_pos small]
    exact ⟨_, rfl⟩
  · rw [if_neg small] at labelled ⊢
    split at labelled
    · exact ⟨_, rfl⟩
    · cases labelled

theorem Layout.Config.ofValues_of_kinds {considerParens maxParenDepth : Value} (flag : considerParens.kind = .bool)
    (depth : maxParenDepth.kind = .int) : ∃ n, maxParenDepth = .int n ∧
      ((0 ≤ n ∧ ∃ config, ofValues considerParens maxParenDepth = .ok config) ∨
        (n < 0 ∧ ofValues considerParens maxParenDepth = .error (.negativeDepth n))) := by
  cases considerParens with
  | bool b =>
      cases maxParenDepth with
      | int n =>
          refine ⟨n, rfl, ?_⟩
          by_cases negative : n < 0
          · exact .inr ⟨negative, if_pos negative⟩
          · exact .inl ⟨Int.not_lt.mp negative, _, if_neg negative⟩
      | _ => cases depth
  | _ => cases flag

theorem Text.endingWith_eq (start : Text) (n : Int) : endingWith start n =
    if n.natAbs < 10 ^ digitLimit then start ++ ofInt n else tooManyDigits := by
  have short : (ofNat n.natAbs).length ≤ digitLimit ↔ n.natAbs < 10 ^ digitLimit := by
    rw [ofNat, List.length_map]
    exact Nat.length_toDigits_le_iff (by decide) (by decide)
  rw [endingWith]
  by_cases fits : n.natAbs < 10 ^ digitLimit
  · rw [if_pos fits, if_neg (Nat.not_lt.mpr (short.mpr fits))]
  · rw [if_neg fits, if_pos (Nat.lt_of_not_le (mt short.mp fits))]

theorem Failure.head?_message {cause : Failure} (complete : ∀ message, cause ≠ .brokeOff message) :
    cause.message.head? ≠ some 'T' := by
  cases cause with
  | badInput e => cases e <;> exact fun same => nomatch same
  | badConfig e =>
      cases e with
      | considerParensKind got => exact fun same => nomatch same
      | maxParenDepthKind got => exact fun same => nomatch same
      | negativeDepth n =>
          rw [message, Layout.ConfigError.message, Text.endingWith]
          split
          · decide +kernel
          · exact fun same => nomatch same
  | unbalanced i => exact fun same => nomatch same
  | alreadyPacked => decide
  | notReversible => decide
  | brokeOff message => exact absurd rfl (complete message)

def Report.Complete (r : Report) : Prop := ∀ message : Text, r.error? ≠ some ("Tool execution failed: " ++ message)

@[simp] theorem Report.complete_success (data : Fields) (metadata : Option Fields) : (success data metadata).Complete :=
  fun _ same => nomatch same

@[simp] theorem Report.complete_failure_iff {cause : Failure} {metadata : Option Fields} :
    (failure cause metadata).Complete ↔ ∀ message, cause ≠ .brokeOff message := by
  constructor
  · rintro complete message rfl
    exact complete message rfl
  · intro complete message same
    apply Failure.head?_message complete
    rw [Option.some.inj same]
    rfl

namespace Tool

/-! ## What accepted arguments hold -/

variable {tool : Tool} {args : Arguments} {code : Text}

theorem Accepts.handsIn (accepts : tool.Accepts args) {description : Text}
    (mem : codeParameter description ∈ tool.parameters) : ∃ code, tool.HandsIn args code := by
  obtain ⟨v, given⟩ := Option.ne_none_iff_exists'.mp (accepts.present _ mem rfl)
  have kind : v.kind = .text := accepts.kinds _ mem v given
  cases v with
  | text code => exact ⟨code, accepts.known, given⟩
  | _ => cases kind

theorem Accepts.kind_getD (accepts : tool.Accepts args) {p : Parameter} (mem : p ∈ tool.parameters)
    (default : p.default.kind = p.kind) : ((args.given? p.name).getD p.default).kind = p.kind := by
  cases given : args.given? p.name with
  | none => exact default
  | some v => exact accepts.kinds p mem v given

theorem exists_measures (accepts : codeSize.Accepts args) : ∃ compact code, Measures args compact code := by
  obtain ⟨code, handsIn⟩ := accepts.handsIn List.mem_cons_self
  have kind := accepts.kind_getD (p := codeSize.parameters[1]) (List.getElem_mem _) rfl
  cases flag : (args.given? "compact").getD (.bool false) with
  | bool compact => exact ⟨compact, code, handsIn, flag⟩
  | _ => cases (congrArg Value.kind flag).symm.trans kind

/-! ## How the tools end -/

theorem unpackCode_ends (accepts : unpackCode.Accepts args) :
    ∃ code, unpackCode.HandsIn args code ∧ (unpackCode.run args).report = unpackReport code := by
  obtain ⟨code, handsIn⟩ := accepts.handsIn List.mem_cons_self
  refine ⟨code, handsIn, ?_⟩
  rw [handsIn.run_eq rfl rfl]
  rfl

theorem codeSize_ends (accepts : codeSize.Accepts args)
    (labelled : ∀ code, args.given? "code" = some (.text code) → ∃ t, Size.label code.utf8Length = .ok t) :
    ∃ compact code label, Measures args compact code ∧ Size.label code.utf8Length compact = .ok label ∧
      (codeSize.run args).report = .success [("bytes", .int code.utf8Length), ("label", .text label)]
        (some [("length", .int code.length)]) := by
  obtain ⟨compact, code, measures⟩ := exists_measures accepts
  obtain ⟨label, labels, report⟩ | ⟨tooLarge, -⟩ := codeSize_report measures
  · exact ⟨compact, code, label, measures, labels, report⟩
  · obtain ⟨plain, labels⟩ := labelled code measures.code
    obtain ⟨label, labels⟩ := Size.exists_label_of_ok labels
    cases labels.symm.trans tooLarge

theorem packCode_ends (accepts : packCode.Accepts args)
    (labelled : ∀ code, args.given? "code" = some (.text code) → Labelled code) :
    (∃ data metadata, (packCode.run args).report = .success data metadata) ∨
    (packCode.run args).report = .failure .alreadyPacked none ∨
    (packCode.run args).report = .failure .notReversible none := by
  obtain ⟨code, handsIn⟩ := accepts.handsIn List.mem_cons_self
  obtain ⟨⟨size, label⟩, packedSize, packedLabel⟩ := labelled code handsIn.code
  have run : packCode.run args = packCode.conclude (pack code) := handsIn.run_eq rfl rfl
  rw [run]
  obtain ⟨-, ended⟩ | ⟨-, -, ended⟩ | ⟨-, -, ended⟩ := pack_outcome label packedLabel
  · exact .inr (.inl (report_conclude_of_ok ended))
  · exact .inr (.inr (report_conclude_of_ok ended))
  · exact .inl ⟨_, _, report_conclude_of_ok ended⟩

theorem Requests.natural {config : Layout.Config} (requests : Requests args config code) {n : Int}
    (given : args.given? "max_paren_depth" = some (.int n)) : 0 ≤ n := by
  have made := requests.config
  obtain ⟨flag, depth⟩ := Layout.Config.kinds_of_ofValues made
  obtain ⟨m, same, ⟨natural, -⟩ | ⟨-, refused⟩⟩ := Layout.Config.ofValues_of_kinds flag depth
  · rw [given] at same
    cases same
    exact natural
  · cases made.symm.trans refused

theorem formatCode_ends (accepts : formatCode.Accepts args) :
    (∃ config code, Requests args config code ∧
      ∃ data metadata, (formatCode.run args).report = .success data metadata) ∨
    (∃ config code i, Requests args config code ∧ Layout.format config code = .error i ∧
      ∃ metadata, (formatCode.run args).report = .failure (.unbalanced i) metadata) ∨
    ∃ n, n < 0 ∧ args.given? "max_paren_depth" = some (.int n) ∧
      (formatCode.run args).report = .failure (.badConfig (.negativeDepth n)) none := by
  obtain ⟨code, handsIn⟩ := accepts.handsIn List.mem_cons_self
  have flag : ((args.given? "consider_parens").getD (.bool true)).kind = .bool :=
    accepts.kind_getD (p := formatCode.parameters[1]) (List.getElem_mem _) rfl
  have depth : ((args.given? "max_paren_depth").getD (.int 0)).kind = .int :=
    accepts.kind_getD (p := formatCode.parameters[2]) (List.getElem_mem _) rfl
  obtain ⟨n, isDepth, ⟨-, config, made⟩ | ⟨negative, refused⟩⟩ := Layout.Config.ofValues_of_kinds flag depth
  · have requests : Requests args config code := ⟨handsIn.known, handsIn.code, made⟩
    obtain ⟨out, -, metadata, report⟩ | ⟨i, unbalanced, report⟩ := formatCode_report requests
    · exact .inl ⟨config, code, requests, _, _, report⟩
    · exact .inr (.inl ⟨config, code, i, requests, unbalanced, _, report⟩)
  · refine .inr (.inr ⟨n, negative, ?_, ?_⟩)
    · cases given : args.given? "max_paren_depth" with
      | none =>
          -- The default depth is not negative.
          rw [given] at isDepth
          cases isDepth
          cases negative
      | some v => rw [← isDepth, given, Option.getD_some]
    · rw [run_of_accepts accepts (by decide), formatCode_execute handsIn.code, refused]
      rfl

theorem formatCode_of_negative (accepts : formatCode.Accepts args) {n : Int}
    (given : args.given? "max_paren_depth" = some (.int n)) (negative : n < 0) :
    (formatCode.run args).report = .failure (.badConfig (.negativeDepth n)) none := by
  obtain ⟨config, code, requests, -⟩ | ⟨config, code, i, requests, -⟩ | ⟨m, -, same, report⟩ := formatCode_ends accepts
  · exact absurd (requests.natural given) (Int.not_le.mpr negative)
  · exact absurd (requests.natural given) (Int.not_le.mpr negative)
  · cases given.symm.trans same
    exact report

inductive LayoutFails (args : Arguments) : Text → Prop where
  | unbalanced {config : Layout.Config} {code : Text} {i : Layout.Imbalance} (requests : Requests args config code)
      (fails : Layout.format config code = .error i) : LayoutFails args ("Format failed: " ++ i.reason ++ "!")
  | negative {n : Int} (given : args.given? "max_paren_depth" = some (.int n)) (negative : n < 0)
      (short : n.natAbs < 10 ^ Text.digitLimit) :
      LayoutFails args ("max_paren_depth must be non-negative, got " ++ Text.ofInt n)
  | tooLong {n : Int} (given : args.given? "max_paren_depth" = some (.int n)) (negative : n < 0)
      (long : 10 ^ Text.digitLimit ≤ n.natAbs) : LayoutFails args Text.tooManyDigits

theorem layoutFails_of_ends (accepts : formatCode.Accepts args) : (formatCode.run args).report.succeeded = true ∨
    ∃ message, (formatCode.run args).report.error? = some message ∧ LayoutFails args message := by
  obtain ⟨config, code, -, data, metadata, report⟩ | ⟨config, code, i, requests, fails, metadata, report⟩ |
    ⟨n, negative, given, report⟩ := formatCode_ends accepts
  · rw [report]
    exact .inl rfl
  · rw [report]
    exact .inr ⟨_, rfl, .unbalanced requests fails⟩
  · rw [report]
    refine .inr ⟨_, rfl, ?_⟩
    rw [Failure.message, Layout.ConfigError.message, Text.endingWith_eq]
    split
    · rename_i short
      exact .negative given negative short
    · rename_i long
      exact .tooLong given negative (Nat.le_of_not_lt long)

theorem complete_run (builtin : tool ∈ builtin)
    (labelled : ∀ code, args.given? "code" = some (.text code) → Labelled code) : (tool.run args).report.Complete := by
  cases fault : tool.fault? args with
  | some e => simp [run_of_fault? fault]
  | none =>
      have accepts := fault?_eq_none_iff.mp fault
      simp only [Tool.builtin, List.mem_cons, List.not_mem_nil, or_false] at builtin
      rcases builtin with rfl | rfl | rfl | rfl
      · obtain ⟨compact, code, label, -, -, report⟩ :=
          codeSize_ends accepts fun code given => (labelled code given).source
        simp [report]
      · obtain ⟨config, code, -, data, metadata, report⟩ | ⟨config, code, i, -, -, metadata, report⟩ |
          ⟨n, -, -, report⟩ := formatCode_ends accepts
        · simp [report]
        · simp [report]
        · simp [report]
      · obtain ⟨data, metadata, report⟩ | report | report := packCode_ends accepts labelled
        · simp [report]
        · simp [report]
        · simp [report]
      · obtain ⟨code, -, report⟩ := unpackCode_ends accepts
        simp [report, unpackReport]

end Tool
end Bytebeat
