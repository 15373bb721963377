import Mathlib.Logic.Function.Basic
import Std.Data.String.ToInt
import OpcodeRecovery.Proofs.Batches
import OpcodeRecovery.Proofs.Mnemonics

/-!
Records of a batch. Each instruction that is judged leaves one record, whether it is identified or
not, and a batch that stays incomplete leaves one warning more, with the numbers of its report. A
record can be read back: it tells the virtual code, the handler and the verdict, so that batches
with the same records, in whatever order they were written, had the same outcomes.
-/
namespace OpcodeRecovery

open Text

theorem VirtualInstruction.text_append_inj {v w : VirtualInstruction} {r s : String}
    (same : v.text ++ r = w.text ++ s) :
    v.virtualCode = w.virtualCode ∧ v.handler = w.handler ∧ r = s := by
  unfold text at same
  simp only [String.append_assoc] at same
  have numbers := (String.append_right_inj "virtual opcode ").mp same
  obtain ⟨codes, rest⟩ := append_inj (plain_toString_int _) (plain_toString_int _)
    (parts_append (c := ' ') rfl (by decide)) (parts_append (c := ' ') rfl (by decide)) numbers
  obtain ⟨handlers, rest⟩ := append_inj (plain_token _) (plain_token _)
    (parts_append (c := ')') rfl (by decide)) (parts_append (c := ')') rfl (by decide))
    ((String.append_right_inj " (handler ").mp rest)
  exact ⟨Int32.toInt_inj.mp (Int.repr_injective codes), token_text_inj handlers,
    (String.append_right_inj ")").mp rest⟩

/-! ## What a record tells -/

inductive Level where
  | debug | warn
  deriving DecidableEq, Repr

def Level.word : Level → String
  | .debug => "DEBUG "
  | .warn => "WARN "

theorem Level.apart_word : Apart Level.word := by
  intro k l
  cases k <;> cases l <;> decide

structure Outcome where
  virtualCode : Int32
  handler : Token
  verdict : Option Opcode
  deriving DecidableEq, Repr

def VirtualInstruction.outcome (v : VirtualInstruction) (verdict : Option Opcode) : Outcome :=
  ⟨v.virtualCode, v.handler, verdict⟩

namespace Event

def level : Event → Level
  | .identified _ _ | .unmatched _ => .debug
  | .leftUnresolved _ _ => .warn

def outcome? : Event → Option Outcome
  | .identified v c => some (v.outcome (some c))
  | .unmatched v => some (v.outcome none)
  | .leftUnresolved _ _ => none

def said : Event → String
  | .identified v c => "identified " ++ (v.text ++ (" as " ++ c.mnemonic))
  | .unmatched v => "no recognizer matched " ++ v.text
  | .leftUnresolved unresolved total =>
    toString unresolved ++ " of " ++ toString total ++ " virtual instructions left unresolved"

theorem text_eq (e : Event) : e.text = e.level.word ++ e.said := by
  cases e with
  | identified v c =>
    calc (identified v c).text
      _ = "DEBUG " ++ "identified " ++ v.text ++ " as " ++ c.mnemonic := rfl
      _ = "DEBUG " ++ ("identified " ++ (v.text ++ (" as " ++ c.mnemonic))) := by
        simp only [String.append_assoc]
  | unmatched v =>
    calc (unmatched v).text
      _ = "DEBUG " ++ "no recognizer matched " ++ v.text := rfl
      _ = "DEBUG " ++ ("no recognizer matched " ++ v.text) := String.append_assoc
  | leftUnresolved unresolved total =>
    calc (leftUnresolved unresolved total).text
      _ = "WARN " ++ toString unresolved ++ " of " ++ toString total ++
          " virtual instructions left unresolved" := rfl
      _ = "WARN " ++ (toString unresolved ++ " of " ++ toString total ++
          " virtual instructions left unresolved") := by simp only [String.append_assoc]

theorem level_eq_iff {e : Event} {l : Level} : e.level = l ↔ ∃ rest, e.text = l.word ++ rest := by
  constructor
  · rintro rfl
    exact ⟨e.said, e.text_eq⟩
  · rintro ⟨rest, opens⟩
    rw [text_eq] at opens
    exact Level.apart_word.eq_of_append_eq opens

theorem outcome?_eq_of_said_eq {e e' : Event} (levels : e.level = e'.level)
    (same : e.said = e'.said) : e.outcome? = e'.outcome? := by
  cases e with
  | identified v c =>
    cases e' with
    | identified w d =>
      obtain ⟨codes, handlers, names⟩ :=
        VirtualInstruction.text_append_inj ((String.append_right_inj "identified ").mp same)
      have opcodes := Opcode.mnemonic_injective ((String.append_right_inj " as ").mp names)
      rw [outcome?, outcome?, VirtualInstruction.outcome, VirtualInstruction.outcome, codes,
        handlers, opcodes]
    | unmatched w => exact absurd same (append_ne_append (by decide))
    | leftUnresolved unresolved total => cases levels
  | unmatched v =>
    cases e' with
    | identified w d => exact absurd same (append_ne_append (by decide))
    | unmatched w =>
      have texts : v.text ++ "" = w.text ++ "" :=
        congrArg (· ++ "") ((String.append_right_inj "no recognizer matched ").mp same)
      obtain ⟨codes, handlers, _⟩ := VirtualInstruction.text_append_inj texts
      rw [outcome?, outcome?, VirtualInstruction.outcome, VirtualInstruction.outcome, codes,
        handlers]
    | leftUnresolved unresolved total => cases levels
  | leftUnresolved unresolved total =>
    cases e' with
    | identified w d => cases levels
    | unmatched w => cases levels
    | leftUnresolved unresolved' total' => rfl

theorem outcome?_factorsThrough_text : outcome?.FactorsThrough text := by
  intro e e' same
  rw [text_eq, text_eq] at same
  have levels := Level.apart_word.eq_of_append_eq same
  rw [levels] at same
  exact outcome?_eq_of_said_eq levels ((String.append_right_inj _).mp same)

theorem text_verdict_factorsThrough_outcome :
    (text ∘ Function.uncurry verdict).FactorsThrough
      (Function.uncurry VirtualInstruction.outcome) := by
  rintro ⟨v, verdict⟩ ⟨w, verdict'⟩ same
  obtain ⟨codes, handlers, rfl⟩ := Outcome.mk.inj same
  have texts : v.text = w.text := by
    unfold VirtualInstruction.text
    rw [codes, handlers]
  cases verdict with
  | some c =>
    calc (identified v c).text
      _ = "DEBUG " ++ ("identified " ++ (v.text ++ (" as " ++ c.mnemonic))) := text_eq _
      _ = "DEBUG " ++ ("identified " ++ (w.text ++ (" as " ++ c.mnemonic))) := by rw [texts]
      _ = (identified w c).text := (text_eq (identified w c)).symm
  | none =>
    calc (unmatched v).text
      _ = "DEBUG " ++ ("no recognizer matched " ++ v.text) := text_eq _
      _ = "DEBUG " ++ ("no recognizer matched " ++ w.text) := by rw [texts]
      _ = (unmatched w).text := (text_eq (unmatched w)).symm

@[simp] theorem level_verdict (v : VirtualInstruction) (verdict : Option Opcode) :
    (Event.verdict v verdict).level = .debug := by
  cases verdict <;> rfl

@[simp] theorem outcome?_verdict (v : VirtualInstruction) (verdict : Option Opcode) :
    (Event.verdict v verdict).outcome? = some (v.outcome verdict) := by
  cases verdict <;> rfl

end Event

/-! ## Records of a report -/

def Report.records (r : Report) : List Event :=
  r.identified.map (fun (v, c) => .identified v c) ++ r.unresolved.map .unmatched

namespace Event

def warnings (unresolved total : Nat) : List Event :=
  if unresolved = 0 then [] else [.leftUnresolved unresolved total]

theorem filter_level_eq_self {es : List Event} {l : Level} (same : ∀ e ∈ es, e.level = l) :
    (es.filter fun e => e.level == l) = es :=
  List.filter_eq_self.mpr fun e member => beq_iff_eq.mpr (same e member)

theorem filter_level_eq_nil {es : List Event} {k l : Level} (same : ∀ e ∈ es, e.level = k)
    (other : k ≠ l) : (es.filter fun e => e.level == l) = [] := by
  refine List.filter_eq_nil_iff.mpr ?_
  intro e member
  rwa [same e member, beq_iff_eq]

theorem level_of_mem_warnings {m n : Nat} : ∀ e ∈ warnings m n, e.level = .warn := by
  intro e member
  unfold warnings at member
  split at member
  · cases member
  · rw [List.mem_singleton.mp member]
    rfl

/-- There is one warning at most, and so it has one order only. -/
theorem eq_warnings_of_perm {es : List Event} {m n : Nat} (perm : es.Perm (warnings m n)) :
    es = warnings m n := by
  unfold warnings at perm ⊢
  by_cases none : m = 0
  · rw [if_pos none] at perm ⊢
    exact perm.eq_nil
  · rw [if_neg none] at perm ⊢
    exact List.perm_singleton.mp perm

theorem filterMap_outcome?_warnings (m n : Nat) :
    (warnings m n).filterMap outcome? = [] := by
  unfold warnings
  split <;> rfl

/-- Sorting forgets the order of the records and nothing else. -/
theorem sortedTexts_eq_iff {es es' : List Event} :
    sortedTexts es = sortedTexts es' ↔ (es.map text).Perm (es'.map text) := by
  have sorts (texts : List String) := List.mergeSort_perm texts fun a b => decide (a ≤ b)
  constructor
  · intro same
    unfold sortedTexts at same
    exact (sorts _).symm.trans (same ▸ sorts _)
  · intro perm
    have ordered (texts : List String) :
        (texts.mergeSort fun a b => decide (a ≤ b)).Pairwise (· ≤ ·) := by
      have pairwise : (texts.mergeSort fun a b => decide (a ≤ b)).Pairwise
          fun a b => decide (a ≤ b) = true :=
        List.pairwise_mergeSort (fun a b c => by simpa using String.le_trans)
          (fun a b => by simpa using String.le_total a b) texts
      simpa only [decide_eq_true_eq] using pairwise
    exact ((sorts _).trans (perm.trans (sorts _).symm)).eq_of_pairwise
      (fun _ _ _ _ => String.le_antisymm) (ordered _) (ordered _)

theorem outcomes_perm_of_texts_perm {es es' : List Event}
    (perm : (es.map text).Perm (es'.map text)) :
    (es.filterMap outcome?).Perm (es'.filterMap outcome?) := by
  have read (es : List Event) : es.filterMap outcome? =
      (es.map text).filterMap (Function.extend text outcome? fun _ => none) := by
    rw [List.filterMap_map]
    refine List.filterMap_congr fun e _ => ?_
    exact (outcome?_factorsThrough_text.extend_apply _ e).symm
  rw [read es, read es']
  exact perm.filterMap _

end Event

theorem Report.events_warn (r : Report) (total : Nat) :
    (r.warn total).events = Event.warnings r.unresolved.length total := by
  unfold warn Event.warnings
  simp only [isComplete, List.isEmpty_iff, List.length_eq_zero_iff]
  split <;> rfl

theorem Report.records_enter (r : Report) (v : VirtualInstruction) (verdict : Option Opcode) :
    (r.enter v verdict).records.Perm (r.records ++ [.verdict v verdict]) := by
  cases verdict with
  | some c =>
    simp only [enter, records, Event.verdict, List.map_append, List.append_assoc]
    exact List.perm_append_comm.append_left _
  | none =>
    simp only [enter, records, Event.verdict, List.map_append, List.append_assoc]
    exact .refl _

namespace Policy
variable (p q : Policy) (pool pool' : Pool) (batch batch' : List VirtualInstruction)

def outcome (v : VirtualInstruction) : Outcome := v.outcome (p.recover? v)

theorem records_foldl_enter (r : Report) :
    (batch.foldl (fun r v => r.enter v (p.recover? v)) r).records.Perm
      (r.records ++ batch.map p.event) := by
  induction batch generalizing r with
  | nil =>
    rw [List.map_nil, List.append_nil]
    exact .refl _
  | cons v rest ih =>
    have entered := (r.records_enter v (p.recover? v)).append_right (rest.map p.event)
    rw [List.append_assoc] at entered
    exact (ih (r.enter v (p.recover? v))).trans entered

theorem records_recoverAll :
    (p.recoverAll batch).records.Perm (batch.map p.event) := by
  have run := p.records_foldl_enter batch ⟨[], []⟩
  rw [foldl_enter] at run
  exact run

/-- The run of a batch notes what its attempts note, whichever thread is first. -/
theorem events_verdicts : (p.verdicts pool batch).events.Perm (batch.map p.event) := by
  have attempts : (batch.flatMap fun v => (p.attempt v).events) = batch.map p.event := by
    simp only [attempt_eq, List.map_eq_flatMap]
  unfold verdicts
  split
  · rw [Pool.mapM_eq, ← attempts, List.flatMap_def]
    exact pool.perm _
  · rw [Noted.mapM_eq, attempts]

theorem events_report :
    (p.report pool batch).events = (p.verdicts pool batch).events ++
      Event.warnings (p.recoverAll batch).unresolved.length batch.length := by
  have made : Report.ofVerdicts (batch.zip (p.verdicts pool batch).result) = p.recoverAll batch :=
    (p.result_report pool batch).trans (p.recoverAll_eq batch).symm
  rw [report, Noted.events_bind, made, Noted.events_bind, Report.events_warn, Noted.events_pure,
    List.append_nil]

theorem events_perm :
    (p.events batch pool).Perm (batch.map p.event ++
      Event.warnings (p.recoverAll batch).unresolved.length batch.length) := by
  rw [events, events_report]
  exact (p.events_verdicts pool batch).append_right _

theorem level_of_mem_verdicts : ∀ e ∈ batch.map p.event, e.level = .debug := by
  intro e member
  obtain ⟨v, _, rfl⟩ := List.mem_map.mp member
  exact Event.level_verdict v _

theorem debug_events :
    ((p.events batch pool).filter fun e => e.level == .debug).Perm (batch.map p.event) := by
  have kept := (p.events_perm pool batch).filter fun e => e.level == .debug
  rwa [List.filter_append, Event.filter_level_eq_self (p.level_of_mem_verdicts batch),
    Event.filter_level_eq_nil Event.level_of_mem_warnings (by decide), List.append_nil] at kept

theorem warn_events :
    ((p.events batch pool).filter fun e => e.level == .warn) =
      Event.warnings (p.recoverAll batch).unresolved.length batch.length := by
  have kept := (p.events_perm pool batch).filter fun e => e.level == .warn
  rw [List.filter_append, Event.filter_level_eq_nil (p.level_of_mem_verdicts batch) (by decide),
    Event.filter_level_eq_self Event.level_of_mem_warnings, List.nil_append] at kept
  exact Event.eq_warnings_of_perm kept

theorem filterMap_outcome?_events :
    ((p.events batch pool).filterMap Event.outcome?).Perm (batch.map p.outcome) := by
  have verdicts : Event.outcome? ∘ p.event = some ∘ p.outcome :=
    funext fun v => Event.outcome?_verdict v _
  have told := (p.events_perm pool batch).filterMap Event.outcome?
  rw [List.filterMap_append, Event.filterMap_outcome?_warnings, List.append_nil,
    List.filterMap_map, verdicts, List.filterMap_eq_map] at told
  exact told

theorem length_unresolved_recoverAll :
    (p.recoverAll batch).unresolved.length =
      ((batch.map p.outcome).filter fun o => o.verdict.isNone).length := by
  rw [unresolved_recoverAll, List.filter_map, List.length_map]
  rfl

theorem texts_perm_of_outcomes_perm
    (perm : (batch.map p.outcome).Perm (batch'.map q.outcome)) :
    ((p.events batch pool).map Event.text).Perm ((q.events batch' pool').map Event.text) := by
  have written (p : Policy) (batch : List VirtualInstruction) :
      (batch.map p.event).map Event.text =
        (batch.map p.outcome).map (Function.extend (Function.uncurry VirtualInstruction.outcome)
          (Event.text ∘ Function.uncurry Event.verdict) fun _ => "") := by
    rw [List.map_map, List.map_map]
    refine List.map_congr_left fun v _ => ?_
    exact (Event.text_verdict_factorsThrough_outcome.extend_apply _ (v, p.recover? v)).symm
  have left : (p.recoverAll batch).unresolved.length = (q.recoverAll batch').unresolved.length := by
    rw [length_unresolved_recoverAll, length_unresolved_recoverAll]
    exact (perm.filter _).length_eq
  have total : batch.length = batch'.length := by simpa using perm.length_eq
  have texts := (p.events_perm pool batch).map Event.text
  have texts' := (q.events_perm pool' batch').map Event.text
  rw [List.map_append, written] at texts texts'
  rw [← left, ← total] at texts'
  exact texts.trans (((perm.map _).append_right _).trans texts'.symm)

theorem summary_recoverAll :
    (p.recoverAll batch).summary = if batch = [] then "No virtual instructions"
      else "Identified " ++ toString (p.recoverAll batch).identified.length ++ " of " ++
        toString batch.length ++ " virtual instructions, " ++
        toString (p.recoverAll batch).unresolved.length ++ " unresolved" := by
  unfold Report.summary Report.isEmpty
  simp only [size_recoverAll, beq_iff_eq, List.length_eq_zero_iff]

/-- On the way to its report, a batch notes each of its instructions once and, if some are left
    unresolved, warns once with the numbers of the summary; threads change the order only. From
    the sorted records, the outcomes can be read off up to their order. -/
theorem records_account_for_batch :
    (∀ (e : Event) (l : Level), e.level = l ↔ ∃ rest, e.text = l.word ++ rest) ∧
    (p.report pool batch).result = p.recoverAll batch ∧
    ((p.events batch pool).filter fun e => e.level == .debug).Perm (batch.map p.event) ∧
    ((p.events batch pool).filter fun e => e.level == .debug).length = batch.length ∧
    ((p.events batch pool).filter fun e => e.level == .debug).Perm
      ((p.recoverAll batch).identified.map (fun (v, c) => Event.identified v c) ++
        (p.recoverAll batch).unresolved.map Event.unmatched) ∧
    ((p.events batch pool).filter fun e => e.level == .warn) =
      (if (p.recoverAll batch).unresolved = [] then []
        else [.leftUnresolved (p.recoverAll batch).unresolved.length batch.length]) ∧
    ((p.recoverAll batch).summary = if batch = [] then "No virtual instructions"
      else "Identified " ++ toString (p.recoverAll batch).identified.length ++ " of " ++
        toString batch.length ++ " virtual instructions, " ++
        toString (p.recoverAll batch).unresolved.length ++ " unresolved") ∧
    (Event.sortedTexts (p.events batch pool) = Event.sortedTexts (q.events batch' pool') ↔
      (batch.map p.outcome).Perm (batch'.map q.outcome)) := by
  have records := p.debug_events pool batch
  refine ⟨fun _ _ => Event.level_eq_iff, ?_, records, ?_, ?_, ?_, p.summary_recoverAll batch, ?_⟩
  · rw [result_report, recoverAll_eq]
  · rw [records.length_eq, List.length_map]
  · exact records.trans (p.records_recoverAll batch).symm
  · rw [warn_events]
    simp only [Event.warnings, List.length_eq_zero_iff]
  · rw [Event.sortedTexts_eq_iff]
    constructor
    · intro perm
      have outcomes := Event.outcomes_perm_of_texts_perm perm
      exact (p.filterMap_outcome?_events pool batch).symm.trans
        (outcomes.trans (q.filterMap_outcome?_events pool' batch'))
    · exact p.texts_perm_of_outcomes_perm q pool pool' batch batch'

end Policy
end OpcodeRecovery
