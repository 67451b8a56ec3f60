import Tableaux.Proofs.Json.Decode
import Tableaux.Proofs.Leniency
import Tableaux.Solver.Request
import Tableaux.Solver.Response

/-!
# What is sent to the solver and back is read again

A request or a response is read back from its text exactly if all its numbers are
finite, and it is then the same, whatever its texts hold and whichever optional fields
are absent. Programs that are read strictly have finite numbers, so their requests can
always be read.
-/
namespace Tableaux.Solver

open Json (Regains Restores Value ofFloat ofInt ofList ofNat ofString)

def Request.numbers (r : Request) : List Float := r.constraints.flatten ++ r.rhs

def Report.numbers (r : Report) : List Float :=
  r.constraints.flatten ++ r.rhs ++ r.realCosts ++ r.mCosts ++ [r.realObjective, r.mObjective]

def Response.numbers (r : Response) : List Float := (r.steps.getD []).flatMap Report.numbers

def Finite (numbers : List Float) : Prop := ∀ x ∈ numbers, x.isFinite = true

theorem finite_append (xs ys : List Float) : Finite (xs ++ ys) ↔ Finite xs ∧ Finite ys := by
  simp only [Finite, List.mem_append]
  exact ⟨fun h => ⟨fun x hx => h x (Or.inl hx), fun x hx => h x (Or.inr hx)⟩,
    fun h _ hx => hx.elim (h.1 _) (h.2 _)⟩

theorem finite_flatten (rows : List (List Float)) :
    Finite rows.flatten ↔ ∀ row ∈ rows, Finite row := by
  simp only [Finite, List.mem_flatten]
  exact ⟨fun h row hrow x hx => h x ⟨row, hrow, hx⟩, fun h _ ⟨row, hrow, hx⟩ => h row hrow _ hx⟩

theorem finite_pair (x y : Float) :
    Finite [x, y] ↔ x.isFinite = true ∧ y.isFinite = true := by
  simp [Finite]

/-- The finite numbers among some are restored. -/
def Restored (numbers : List Float) : Prop := ∀ x ∈ numbers, x.isFinite = true → Restores x

instance (numbers : List Float) : Decidable (Finite numbers) :=
  inferInstanceAs (Decidable (∀ x ∈ numbers, x.isFinite = true))

instance (numbers : List Float) : Decidable (Restored numbers) :=
  inferInstanceAs (Decidable (∀ x ∈ numbers, x.isFinite = true → Restores x))

theorem Restored.sublist {xs ys : List Float} (h : Restored ys) (hs : xs ⊆ ys) : Restored xs :=
  fun _ hx => h _ (hs hx)

theorem floats_regained (xs : List Float) (h : Restored xs) :
    Regains (Finite xs) xs ((ofList ofFloat xs).list? Value.float?) :=
  Json.list_ofList fun x hx => Json.float_ofFloat (h x hx)

theorem rows_regained (rows : List (List Float)) (h : Restored rows.flatten) :
    Regains (Finite rows.flatten) rows
      ((ofList (ofList ofFloat) rows).list? (Value.list? Value.float?)) :=
  (Json.list_ofList fun row hrow => floats_regained row
    (h.sublist fun _ hx => List.mem_flatten.mpr ⟨row, hrow, hx⟩)).congr (finite_flatten rows).symm

theorem texts_regained (texts : List String) :
    Regains True texts ((ofList ofString texts).list? Value.string?) :=
  (Json.list_ofList fun text _ => Json.string_ofString text).congr (by simp)

theorem plain_floats (xs : List Float) : (ofList ofFloat xs).Plain :=
  Json.plain_ofList fun x _ => Json.plain_ofFloat x

theorem plain_rows (rows : List (List Float)) : (ofList (ofList ofFloat) rows).Plain :=
  Json.plain_ofList fun row _ => plain_floats row

theorem plain_texts (texts : List String) : (ofList ofString texts).Plain :=
  Json.plain_ofList fun text _ => Json.plain_ofString text

namespace Request

theorem pivotRule_name (rule : PivotRule) :
    Regains True rule (pivotRule? (ofString rule.name)) := by
  have hname : pivotRule? (ofString rule.name) = pivotRuleNamed? rule.name := by
    rw [ofString, pivotRule?, Json.text_codePoints]
    rfl
  have hrule : pivotRuleNamed? rule.name = some rule := by cases rule <;> decide
  rw [hname, hrule]
  exact Regains.sure rule

theorem plain_json (r : Request) : r.json.Plain := by
  apply Json.plain_record
  simp only [List.forall_mem_cons, List.not_mem_nil, false_imp_iff, implies_true, and_true]
  exact ⟨plain_texts r.cost, plain_rows r.constraints, plain_floats r.rhs,
    Json.plain_bool r.minimizes, Json.plain_ofString r.pivotRule.name⟩

theorem ofJson_json {r : Request} (h : Restored r.numbers) :
    Regains (Finite r.numbers) r (ofJson? r.json) := by
  have hfields : r.json.fields? ["c_T", "A", "b_T", "is_minimize", "pivot_rule"] =
      some [some (ofList ofString r.cost), some (ofList (ofList ofFloat) r.constraints),
        some (ofList ofFloat r.rhs), some (.bool r.minimizes),
        some (ofString r.pivotRule.name)] := by
    rw [json, Json.fields_record]
    simp [Json.field?]
  have hrows := rows_regained r.constraints (h.sublist (List.subset_append_left _ _))
  have hrhs := floats_regained r.rhs (h.sublist (List.subset_append_right _ _))
  unfold ofJson?
  rw [hfields]
  refine Regains.congr ((texts_regained r.cost).bind (hrows.bind (hrhs.bind
    ((Json.bool_bool r.minimizes).bind ((pivotRule_name r.pivotRule).bind
      (Regains.sure r)))))) ?_
  simp only [numbers, finite_append, true_and, and_true]

theorem read_write {r : Request} (h : Restored r.numbers) :
    Regains (Finite r.numbers) r (read? r.write) := by
  rw [read?, write, Json.ofText_compact (plain_json r)]
  exact ofJson_json h

end Request

namespace Report

theorem plain_json (r : Report) : r.json.Plain := by
  apply Json.plain_record
  simp only [List.forall_mem_cons, List.not_mem_nil, false_imp_iff, implies_true, and_true]
  exact ⟨Json.plain_ofList fun i _ => Json.plain_ofNat i.toNat, plain_rows r.constraints,
    plain_floats r.rhs, plain_floats r.realCosts, plain_floats r.mCosts,
    Json.plain_ofFloat r.realObjective, Json.plain_ofFloat r.mObjective,
    Json.plain_ofList fun n _ => Json.plain_ofInt n.toInt⟩

theorem ofJson_json {r : Report} (h : Restored r.numbers) :
    Regains (Finite r.numbers) r (ofJson? r.json) := by
  have hfields : r.json.fields?
      ["basis", "A", "b", "r_R", "r_M", "neg_obj_R", "neg_obj_M", "next_pivot"] =
      some [some (ofList (fun i => ofNat i.toNat) r.basis),
        some (ofList (ofList ofFloat) r.constraints),
        some (ofList ofFloat r.rhs), some (ofList ofFloat r.realCosts),
        some (ofList ofFloat r.mCosts), some (ofFloat r.realObjective),
        some (ofFloat r.mObjective),
        some (ofList (fun n => ofInt n.toInt) [r.pivotRow, r.pivotColumn])] := by
    rw [json, Json.fields_record]
    simp [Json.field?]
  have hbasis : Regains True r.basis
      ((ofList (fun i => ofNat i.toNat) r.basis).list? Value.index?) :=
    (Json.list_ofList fun i _ => Json.index_ofNat i).congr (by simp)
  have hpivot : Regains True [r.pivotRow, r.pivotColumn]
      ((ofList (fun n => ofInt n.toInt) [r.pivotRow, r.pivotColumn]).list? Value.signed?) :=
    (Json.list_ofList fun n _ => Json.signed_ofInt n).congr (by simp)
  have hrows := rows_regained r.constraints (h.sublist fun x hx => by simp [numbers, hx])
  have hrhs := floats_regained r.rhs (h.sublist fun x hx => by simp [numbers, hx])
  have hreal := floats_regained r.realCosts (h.sublist fun x hx => by simp [numbers, hx])
  have hm := floats_regained r.mCosts (h.sublist fun x hx => by simp [numbers, hx])
  have hobjective := Json.float_ofFloat (h r.realObjective (by simp [numbers]))
  have hmultiple := Json.float_ofFloat (h r.mObjective (by simp [numbers]))
  unfold ofJson?
  rw [hfields]
  refine Regains.congr (hpivot.bind (hbasis.bind (hrows.bind (hrhs.bind (hreal.bind (hm.bind
    (hobjective.bind (hmultiple.bind (Regains.sure r))))))))) ?_
  simp only [numbers, finite_append, finite_pair, true_and, and_true, and_assoc]

end Report

namespace Response

theorem plain_json (r : Response) : r.json.Plain := by
  apply Json.plain_record
  intro f hf
  rcases List.mem_append.mp hf with hf | hf
  · cases hsteps : r.steps with
    | none => simp [hsteps, optionalField] at hf
    | some reports =>
      obtain rfl : f = ("steps", ofList Report.json reports) := by
        simpa [hsteps, optionalField] using hf
      exact Json.plain_ofList fun report _ => report.plain_json
  · cases herror : r.error with
    | none => simp [herror, optionalField] at hf
    | some message =>
      obtain rfl : f = ("error", ofString message) := by
        simpa [herror, optionalField] using hf
      exact Json.plain_ofString message

theorem fields_json (r : Response) : r.json.fields? ["steps", "error"] =
    some [r.steps.map (ofList Report.json), r.error.map ofString] := by
  rw [json, Json.fields_record]
  cases r.steps <;> cases r.error <;> simp [optionalField, Json.field?]

theorem finite_numbers (r : Response) :
    Finite r.numbers ↔ ∀ reports ∈ r.steps, ∀ report ∈ reports, Finite report.numbers := by
  simp only [Finite, numbers, List.mem_flatMap]
  cases r.steps with
  | none => simp
  | some reports =>
    simp only [Option.getD_some, Option.mem_some_iff, forall_eq']
    exact ⟨fun h report hreport x hx => h x ⟨report, hreport, hx⟩,
      fun h x ⟨report, hreport, hx⟩ => h report hreport x hx⟩

theorem ofJson_json {r : Response} (h : Restored r.numbers) :
    Regains (Finite r.numbers) r (ofJson? r.json) := by
  have hlist : ∀ reports, ofList Report.json reports ≠ .null := nofun
  have htext : ∀ message, ofString message ≠ .null := nofun
  have hsteps : Regains (∀ reports ∈ r.steps, ∀ report ∈ reports, Finite report.numbers) r.steps
      (Json.optional? (Value.list? Report.ofJson?) (r.steps.map (ofList Report.json))) := by
    apply Json.optional_regained hlist
    intro reports hreports
    apply Json.list_ofList
    intro report hreport
    apply Report.ofJson_json
    apply h.sublist
    intro x hx
    exact List.mem_flatMap.mpr ⟨report, by rw [hreports]; exact hreport, hx⟩
  have herror : Regains True r.error (Json.optional? Value.string? (r.error.map ofString)) :=
    (Json.optional_regained htext fun message _ => Json.string_ofString message).congr (by simp)
  unfold ofJson?
  rw [fields_json]
  refine Regains.congr (hsteps.bind (herror.bind (Regains.sure r))) ?_
  rw [finite_numbers]
  simp

theorem read_write {r : Response} (h : Restored r.numbers) :
    Regains (Finite r.numbers) r (read? r.write) := by
  rw [read?, write, Json.ofText_compact (plain_json r)]
  exact ofJson_json h

end Response

theorem finite_of_read {format : Format} {text : String} {p : Program}
    (h : (format.read .strict text).outcome = .ok p) : Finite (Request.ofProgram p).numbers := by
  have hfinite := (Format.read_yields (Reading.strict_reads.weaken (fun _ hx => hx)
    fun _ _ => trivial) (fun _ _ => trivial) format text).ok h
  rw [Request.numbers, finite_append, finite_flatten]
  exact ⟨hfinite.row, hfinite.rhs⟩

/-- If the finite numbers of a request or a response are restored from their texts, then
the whole is accepted exactly if all its numbers are finite, and is then the same as
before. So the request of a strictly read program can be read back. -/
theorem written_is_read_back :
    (∀ r : Request, Restored r.numbers →
      ((∃ s, Request.read? r.write = some s) ↔ Finite r.numbers) ∧
        ∀ s, Request.read? r.write = some s → s = r) ∧
    (∀ r : Response, Restored r.numbers →
      ((∃ s, Response.read? r.write = some s) ↔ Finite r.numbers) ∧
        ∀ s, Response.read? r.write = some s → s = r) ∧
    ∀ (format : Format) (text : String) (p : Program),
      (format.read .strict text).outcome = .ok p → Restored (Request.ofProgram p).numbers →
      Request.read? (Request.ofProgram p).write = some (Request.ofProgram p) := by
  refine ⟨?_, ?_, ?_⟩
  · intro r h
    exact (Request.read_write h).accepted
  · intro r h
    exact (Response.read_write h).accepted
  · intro format text p hp h
    exact (Request.read_write h).some (finite_of_read hp)

def sampleRequest : Request :=
  ⟨["2", "\"-M\"\\\n\x01é𝄞"], [[1.5, -0]], [1e-3], false, .largestCoefficient⟩

def sampleResponse : Response :=
  ⟨some [⟨[18446744073709551615], [[-0.25]], [1e21], [0], [-1], 3, -4, -1, 2⟩], some "\"\t\""⟩

def sampleText : String := "c: 2, -M\nA: 1.5, -0\nb: 1e-3\nobj: max"

theorem sampleText_request :
    (Format.standardized.read .strict sampleText).outcome.map Request.ofProgram
      = .ok ⟨["2", "-M"], [[1.5, -0]], [1e-3], false, .bland⟩ := by
  decide +kernel

/-- With NaN on its right-hand side the request could not be read. -/
theorem samples_read_back :
    Request.read? sampleRequest.write = some sampleRequest ∧
    (¬ ∃ s, Request.read? { sampleRequest with rhs := [0.0 / 0.0] }.write = some s) ∧
    Response.read? sampleResponse.write = some sampleResponse ∧
    ∃ p, (Format.standardized.read .strict sampleText).outcome = .ok p ∧
      Request.read? (Request.ofProgram p).write = some (Request.ofProgram p) := by
  obtain ⟨hrequest, hresponse, hstrict⟩ := written_is_read_back
  refine ⟨?_, ?_, ?_, ?_⟩
  · obtain ⟨haccepted, hsame⟩ := hrequest sampleRequest (by decide +kernel)
    obtain ⟨s, hs⟩ := haccepted.mpr (by decide)
    rw [hs, hsame s hs]
  · obtain ⟨haccepted, -⟩ :=
      hrequest { sampleRequest with rhs := [0.0 / 0.0] } (by decide +kernel)
    exact fun hs => absurd (haccepted.mp hs) (by decide)
  · obtain ⟨haccepted, hsame⟩ := hresponse sampleResponse (by decide +kernel)
    obtain ⟨s, hs⟩ := haccepted.mpr (by decide)
    rw [hs, hsame s hs]
  · have hread := sampleText_request
    cases hp : (Format.standardized.read .strict sampleText).outcome with
    | error e => rw [hp] at hread; cases hread
    | ok p =>
      rw [hp] at hread
      have hrequest : Request.ofProgram p = _ := Except.ok.inj hread
      refine ⟨p, rfl, hstrict .standardized sampleText p hp ?_⟩
      rw [hrequest]
      decide +kernel

end Tableaux.Solver
