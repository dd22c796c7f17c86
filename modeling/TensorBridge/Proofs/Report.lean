import Mathlib
import TensorBridge.Report
import TensorBridge.Proofs.Json.RoundTrip
import TensorBridge.Proofs.Literal.RoundTrip

/-!
# Reports lose nothing

Both forms of a report tell the whole result.  The values of the JSON form are made of the texts of
the elements, read as JSON, so it has to be shown that each stays an integer; the lines of the text
form are put together with nothing but line breaks between them, so it has to be shown that there
are none inside.

* `Json.ofText_toString`: the text of an integer becomes this integer.
* `Tensor.oneLine_literal`: a literal is a single line.
* `reportResults_lossless`: what the two forms of a report say.
-/

namespace TensorBridge

/-! ## Values -/

/-- The text of an integer of 64 bits becomes a number, not a string. -/
lemma Json.ofText_toString {n : Int} (hn : JsonNumber.Kept n) :
    Json.ofText (toString n) = .number (.integer n) := by
  have hread := (Json.Exact.integer hn).read?_pretty
  rw [Json.pretty.eq_def, Json.toList_integer] at hread
  rw [Json.ofText, hread]
  rfl

lemma ElementType.format?_of_integer {t : ElementType} (ht : t = .i32 ∨ t = .i64) :
    Scalar.format? t = none := by
  rcases ht with rfl | rfl <;> rfl

/-- Integers of either width are kept. -/
lemma Scalar.kept_toInt {t : ElementType} (s : Scalar t) : JsonNumber.Kept s.toInt := by
  have hwidth : 8 * t.width - 1 ≤ 63 := by cases t <;> decide
  have hpow : (2 : Int) ^ (8 * t.width - 1) ≤ 2 ^ 63 := pow_le_pow_right₀ (by decide) hwidth
  have hlow := s.le_toInt
  have hhigh := s.toInt_lt
  constructor
  · simp only [JsonNumber.negativeLimit]
    norm_num at *
    omega
  · simp only [JsonNumber.integerLimit]
    norm_num at *
    omega

lemma Shape.kept_toInt (d : Int64) : JsonNumber.Kept d.toInt :=
  Scalar.kept_toInt (t := .i64) d.toBitVec

/-! ## Lines -/

/-- The text has no line break in it. -/
def OneLine (text : String) : Prop := '\n' ∉ text.toList

instance (text : String) : Decidable (OneLine text) :=
  inferInstanceAs (Decidable ('\n' ∉ text.toList))

lemma OneLine.append {first second : String} (hfirst : OneLine first) (hsecond : OneLine second) :
    OneLine (first ++ second) := by
  rw [OneLine, String.toList_append, List.mem_append]
  exact not_or_intro hfirst hsecond

lemma oneLine_join {texts : List String} (h : ∀ text ∈ texts, OneLine text) :
    OneLine (String.join texts) := by
  rw [OneLine, String.toList_join, List.mem_flatMap]
  rintro ⟨text, htext, hmem⟩
  exact h text htext hmem

lemma oneLine_intercalate {separator : String} {texts : List String}
    (hseparator : OneLine separator)
    (h : ∀ text ∈ texts, OneLine text) : OneLine (separator.intercalate texts) := by
  induction texts with
  | nil => simp [OneLine]
  | cons text rest ih =>
    obtain ⟨htext, hrest⟩ := List.forall_mem_cons.1 h
    cases rest with
    | nil => simpa using htext
    | cons next rest =>
      rw [String.intercalate_cons_of_ne_nil (List.cons_ne_nil _ _)]
      exact (htext.append hseparator).append (ih hrest)

/-- What stands between separators is one line. -/
lemma oneLine_of_isItem {text : String} (h : Literal.IsItem text.toList) : OneLine text := by
  intro hmem
  exact absurd (h.not_separator '\n' hmem) (by decide)

lemma oneLine_toString_nat (n : Nat) : OneLine (toString n) := by
  rw [OneLine, Nat.toString_eq_ofList_toDigits, String.toList_ofList]
  intro hmem
  exact absurd ((isDigits_digitsOf n).isDigit '\n' hmem) (by decide)

lemma oneLine_toString (n : Int) : OneLine (toString n) :=
  oneLine_of_isItem (Literal.isItem_of_integerText (IntegerText.toString n))

/-- A literal is a single line, whatever the tensor. -/
lemma Tensor.oneLine_literal (tensor : Tensor) : OneLine tensor.literal := by
  have hx : OneLine "x" := by decide
  have hequals : OneLine "=" := by decide
  have hspace : OneLine " " := by decide
  have htoken : OneLine tensor.elementType.token := by
    cases tensor.elementType <;> decide
  have hdimensions : OneLine (String.join (tensor.shape.map fun d => toString d.toInt ++ "x")) := by
    refine oneLine_join fun text htext => ?_
    obtain ⟨d, -, rfl⟩ := List.mem_map.1 htext
    exact (oneLine_toString d.toInt).append hx
  have hvalues : OneLine (" ".intercalate tensor.valueTexts) := by
    refine oneLine_intercalate hspace fun text htext => ?_
    obtain ⟨piece, -, rfl⟩ := List.mem_map.1 htext
    exact oneLine_of_isItem (Literal.isItem_display _)
  exact ((hdimensions.append htoken).append hequals).append hvalues

/-! ## Reports -/

namespace Tensor

/-- The bit patterns that a tensor stores, as integers. -/
def integers (tensor : Tensor) : List Int :=
  (scalarsOfBytes tensor.elementType tensor.data).map BitVec.toInt

/-- What the object for a tensor has to say: its position, type, shape and integers. -/
def exactReport (index : Nat) (tensor : Tensor) : Json :=
  .object [
    ("index", .number (.integer index)),
    ("element_type", .string tensor.elementType.token),
    ("shape", .array (tensor.shape.map fun d => .number (.integer d.toInt))),
    ("values", .array (tensor.integers.map fun n => .number (.integer n)))]

/-- A tensor of integers that is in order. -/
structure Integral (tensor : Tensor) : Prop where
  /-- Shape and data fit together. -/
  valid : tensor.validate = .ok ()
  /-- The elements are integers. -/
  integer : tensor.elementType = .i32 ∨ tensor.elementType = .i64

variable {tensor : Tensor}

/-- A tensor of integers is made of scalars, whose texts are those of their integers. -/
lemma Integral.exists_scalars (h : tensor.Integral) :
    ∃ scalars : List (Scalar tensor.elementType),
      tensor = ofScalars tensor.elementType tensor.shape scalars ∧
        tensor.shape.elementCount = .ok scalars.length ∧
        tensor.integers = scalars.map BitVec.toInt ∧
        tensor.valueTexts = scalars.map fun s => toString s.toInt := by
  obtain ⟨t, shape, data⟩ := tensor
  obtain ⟨count, hcount, -, hlength⟩ := validate_eq_ok_iff.1 h.valid
  dsimp only at hcount hlength
  obtain ⟨scalars, rfl, rfl⟩ := TensorBridge.exists_scalars hlength
  have hdisplay : Scalar.display t = fun s => toString s.toInt := by
    funext s
    rw [Scalar.display, ElementType.format?_of_integer h.integer]
  refine ⟨scalars, rfl, hcount, ?_, ?_⟩
  · rw [integers, scalarsOfBytes_bytesOfScalars]
  · rw [← hdisplay]
    exact Literal.valueTexts_ofScalars

/-- The texts of the elements become the integers. -/
lemma Integral.report_eq (h : tensor.Integral) (index : Nat) :
    tensor.report index = tensor.exactReport index := by
  obtain ⟨scalars, -, -, hintegers, htexts⟩ := h.exists_scalars
  rw [report, exactReport, htexts, hintegers, List.map_map, List.map_map]
  have hvalues : scalars.map (Json.ofText ∘ fun s => toString s.toInt) =
      scalars.map ((fun n => Json.number (.integer n)) ∘ BitVec.toInt) :=
    List.map_congr_left fun s _ => Json.ofText_toString (Scalar.kept_toInt s)
  rw [hvalues]

/-- The literal is read back as the tensor itself. -/
lemma Integral.parse_literal_eq (h : tensor.Integral) : parse tensor.literal = .ok tensor := by
  obtain ⟨scalars, htensor, hcount, -, -⟩ := h.exists_scalars
  have hcanonical : scalars.map (Scalar.canonical tensor.elementType) = scalars := by
    refine (List.map_congr_left fun s _ => ?_).trans (List.map_id scalars)
    rw [Scalar.canonical, ElementType.format?_of_integer h.integer, id]
  have hparse := parse_literal_ofScalars hcount
  rwa [hcanonical, ← htensor] at hparse

/-- All numbers in the object are integers of 64 bits. -/
lemma exact_exactReport {index : Nat} (hindex : index < addressSpace) :
    (tensor.exactReport index).Exact := by
  have hkept : JsonNumber.Kept index := by
    refine ⟨by omega, ?_⟩
    rw [addressSpace] at hindex
    simp only [JsonNumber.integerLimit]
    omega
  refine .object ?_
  simp only [List.forall_mem_cons, List.not_mem_nil, false_implies, implies_true, and_true]
  refine ⟨.integer hkept, .string _, .array fun v hv => ?_, .array fun v hv => ?_⟩
  · obtain ⟨d, -, rfl⟩ := List.mem_map.1 hv
    exact .integer (Shape.kept_toInt d)
  · obtain ⟨n, hn, rfl⟩ := List.mem_map.1 hv
    obtain ⟨s, -, rfl⟩ := List.mem_map.1 hn
    exact .integer (Scalar.kept_toInt s)

end Tensor

/-- The JSON form is read back as one object for each tensor. -/
lemma read?_reportResults_json {results : List Tensor} (hresults : ∀ t ∈ results, t.Integral)
    (hlength : results.length ≤ addressSpace) :
    Json.read? (reportResults .json results).toList =
      some (.array (results.mapIdx Tensor.exactReport)) := by
  have hreport : results.mapIdx Tensor.report = results.mapIdx Tensor.exactReport := by
    refine List.mapIdx_eq_mapIdx_iff.2 fun index hindex => ?_
    exact (hresults _ (List.getElem_mem hindex)).report_eq index
  rw [reportResults, hreport]
  refine Json.Exact.read?_pretty (.array fun v hv => ?_)
  obtain ⟨index, hindex, rfl⟩ := List.mem_mapIdx.1 hv
  exact Tensor.exact_exactReport (Nat.lt_of_lt_of_le hindex hlength)

/-- The text form has a line for each tensor. -/
lemma splitOn_reportResults_text {results : List Tensor} (hne : results ≠ []) :
    (reportResults .text results).toList.splitOn '\n' =
      results.mapIdx fun index t => s!"result[{index}]: {t.literal}".toList := by
  rw [reportResults, List.isEmpty_eq_false_iff.2 hne]
  simp only [Bool.false_eq_true, if_false]
  have hlines : ∀ line ∈ results.mapIdx fun index t => s!"result[{index}]: {t.literal}".toList,
      '\n' ∉ line := by
    intro line hline
    obtain ⟨index, hindex, rfl⟩ := List.mem_mapIdx.1 hline
    have hopen : OneLine "result[" := by decide
    have hclose : OneLine "]: " := by decide
    exact ((hopen.append (oneLine_toString_nat index)).append hclose).append
      (Tensor.oneLine_literal _)
  have hsplit := List.splitOn_intercalate '\n' hlines (List.mapIdx_ne_nil_iff.2 hne)
  rw [← hsplit, String.toList_intercalate]
  simp only [List.mapIdx_eq_zipIdx_map, List.map_map]
  rfl

/-- **Reports lose nothing**, of however many tensors that have addresses.  The JSON form, read as
JSON, is one object for each tensor, in order, with its position, type, shape and elements as
integers: no element has become a double or a string.  The text form has one line for each tensor,
in order, with the position and a literal that is read as the tensor. -/
theorem reportResults_lossless {results : List Tensor} (hresults : ∀ t ∈ results, t.Integral)
    (hlength : results.length ≤ addressSpace) :
    Json.read? (reportResults .json results).toList =
        some (.array (results.mapIdx Tensor.exactReport)) ∧
      (results ≠ [] →
        (reportResults .text results).toList.splitOn '\n' =
          results.mapIdx fun index t => s!"result[{index}]: {t.literal}".toList) ∧
      ∀ t ∈ results, Tensor.parse t.literal = .ok t :=
  ⟨read?_reportResults_json hresults hlength, splitOn_reportResults_text,
    fun t ht => (hresults t ht).parse_literal_eq⟩

/-- The two integers at the limits, and a tensor without elements. -/
theorem reportResults_lossless_limits : ∃ results : List Tensor,
    results.map Tensor.integers = [[9223372036854775807, -9223372036854775808], []] ∧
      (∀ t ∈ results, t.Integral) ∧
      Json.read? (reportResults .json results).toList =
        some (.array (results.mapIdx Tensor.exactReport)) ∧
      (reportResults .text results).toList.splitOn '\n' =
        ["result[0]: 2xi64=9223372036854775807 -9223372036854775808".toList,
          "result[1]: 0x3xi32=".toList] := by
  let results : List Tensor :=
    [.ofScalars .i64 [2] [0x7fffffffffffffff, 0x8000000000000000], .ofScalars .i32 [0, 3] []]
  have hresults : ∀ t ∈ results, t.Integral := by
    intro t ht
    rcases List.mem_pair.1 ht with rfl | rfl
    · exact ⟨by decide, by decide⟩
    · exact ⟨by decide, by decide⟩
  obtain ⟨hjson, htext, -⟩ := reportResults_lossless hresults (by decide)
  refine ⟨results, ?_, hresults, hjson, (htext (List.cons_ne_nil _ _)).trans ?_⟩
  · simp only [results, List.map_cons, Tensor.integers, Tensor.ofScalars,
      scalarsOfBytes_bytesOfScalars]
    decide
  · simp only [results, List.mapIdx_cons, Tensor.literal, Literal.valueTexts_ofScalars]
    decide

end TensorBridge
