/-
**Text in a report is no markup.**

A report puts strings from a store between tags and into quoted attribute values, escaped each time.
Escaped text has no angle bracket and no quote, so it leaves a reader of HTML where it is.  When the
strings of the store are replaced by others, the tags of the report and the names of their
attributes therefore stay.  One thing about a string does show: an empty label of a record is left
out, with the tags around it.

Each part of a report is shown to be a block that keeps its tags, and the report is put together of
its parts.

Main definitions:

* `TftpHarness.Scorecard.respell` — a scorecard with its strings replaced;
* `TftpHarness.Scorecard.strings` — the strings of a scorecard;
* `TftpHarness.KeepsApart` — the replacement keeps which strings are empty and which are equal.

Main results:

* `TftpHarness.inert_htmlEscape` — **escaped text is inert**;
* `TftpHarness.sharedReportCss_raw` — the style sheet does not end early;
* `TftpHarness.alike_renderSingleReport` — **the report of one implementation keeps its tags**.
-/

import TftpHarness.HtmlReport
import TftpHarness.HtmlTokens

set_option relaxedAutoImplicit false
set_option autoImplicit false

namespace TftpHarness

open HtmlTokens

/-! ### Inert text -/

theorem inert_cons {c : UInt8} {t : Bytes} (hc : c ≠ 60 ∧ c ≠ 62 ∧ c ≠ 34 ∧ c ≠ 39)
    (ht : Inert t) : Inert (c :: t) :=
  List.forall_mem_cons.2 ⟨hc, ht⟩

theorem inert_flatMap {β : Type} {f : β → Bytes} {xs : List β} (h : ∀ x ∈ xs, Inert (f x)) :
    Inert (xs.flatMap f) := by
  intro c hc
  obtain ⟨x, hx, hc⟩ := List.mem_flatMap.1 hc
  exact h x hx c hc

theorem inert_take {t : Bytes} (h : Inert t) (n : ℕ) : Inert (t.take n) :=
  fun c hc => h c (List.mem_of_mem_take hc)

/-- One of two inert texts. -/
theorem inert_ite {p : Prop} [Decidable p] {t u : Bytes} (ht : Inert t) (hu : Inert u) :
    Inert (if p then t else u) := by
  split
  · exact ht
  · exact hu

instance decidableInert (t : Bytes) : Decidable (Inert t) :=
  List.decidableBAll (fun c => c ≠ 60 ∧ c ≠ 62 ∧ c ≠ 34 ∧ c ≠ 39) t

/-- **Escaped text is inert.** -/
theorem inert_htmlEscape (raw : Bytes) : Inert (htmlEscape raw) := by
  rw [htmlEscape_eq]
  refine inert_flatMap fun c _ => ?_
  have hentities : ∀ entity ∈ htmlEntities, Inert entity.2 := by decide
  rcases htmlCode_cases c with hentity | ⟨hplain, hcode⟩
  · exact hentities _ hentity
  · have hkeys (d : UInt8) (hd : d ∈ htmlEntities.map Prod.fst) : c ≠ d := by
      rintro rfl
      exact hplain hd
    rw [hcode]
    exact inert_cons ⟨hkeys 60 (by decide), hkeys 62 (by decide), hkeys 34 (by decide),
      hkeys 39 (by decide)⟩ inert_nil

/-- The characters of numbers are inert. -/
theorem inert_numberText {t : Bytes} (h : NumberText t) : Inert t := fun c hc =>
  ⟨ne_of_isNumberByte (h c hc) rfl, ne_of_isNumberByte (h c hc) rfl,
    ne_of_isNumberByte (h c hc) rfl, ne_of_isNumberByte (h c hc) rfl⟩

theorem inert_toDecimal (n : ℕ) : Inert (toDecimal n) := inert_numberText (numberText_toDecimal n)

theorem inert_printDouble (value : Double) : Inert (printDouble value) := by
  cases value with
  | finite x => exact inert_numberText (numberText_formatGeneral 6 x.value)
  | infinite negative => cases negative <;> decide
  | notANumber negative => cases negative <;> decide

theorem inert_formatPlaces (decimals : ℕ) (q : ℚ) : Inert (formatPlaces decimals q) := by
  have hpad (k : ℕ) : Inert (List.replicate k 48) := fun c hc => by
    rw [(List.mem_replicate.1 hc).2]
    decide
  unfold formatPlaces
  refine (Inert.append (inert_ite (by decide) inert_nil) (inert_toDecimal _)).append
    (inert_ite inert_nil ?_)
  exact inert_cons (by decide) ((hpad _).append (inert_toDecimal _))

theorem inert_formatDouble (value : Double) (decimals : ℕ) :
    Inert (formatDouble value decimals) := by
  refine inert_take ?_ 63
  cases value with
  | finite x => exact inert_formatPlaces decimals x.value
  | infinite negative =>
      rw [Double.formatFixed]
      cases negative <;> decide
  | notANumber negative =>
      rw [Double.formatFixed]
      cases negative <;> decide

theorem inert_formatBytesPerSecond (value : Double) : Inert (formatBytesPerSecond value) := by
  unfold formatBytesPerSecond
  exact inert_ite ((inert_formatDouble _ _).append (by decide))
    (inert_ite ((inert_formatDouble _ _).append (by decide))
      ((inert_formatDouble _ _).append (by decide)))

theorem inert_outcomeBadgeClass (o : Outcome) : Inert (outcomeBadgeClass o) := by
  cases o <;> decide

theorem inert_outcomeName (o : Outcome) : Inert (outcomeName o) := by
  cases o <;> decide

theorem inert_badgeOf (outcome : Bytes) : Inert (badgeOf outcome) :=
  inert_ite (by decide) (inert_ite (by decide) (by decide))

theorem inert_counterOrDash (record : MetricRecord) (name : Bytes) :
    Inert (counterOrDash record name) := by
  unfold counterOrDash
  split
  · decide
  · exact inert_ite (inert_numberText (numberText_signedDecimal _)) (inert_formatDouble _ _)

/-! ### Replacing the strings -/

section Respell

variable (f : Bytes → Bytes)

def MetricRecord.respell (record : MetricRecord) : MetricRecord :=
  { record with
    testId := f record.testId
    title := f record.title
    rfcClause := f record.rfcClause
    intensityLabel := f record.intensityLabel
    narrative := f record.narrative
    implementationName := f record.implementationName }

def ResilienceCurve.respell (curve : ResilienceCurve Double) : ResilienceCurve Double :=
  { curve with
    impairmentId := f curve.impairmentId
    title := f curve.title
    points := curve.points.map fun point => { point with label := f point.label } }

def IntegrityEntry.respell (entry : IntegrityEntry) : IntegrityEntry :=
  { entry with
    testId := f entry.testId
    intensityLabel := f entry.intensityLabel
    narrative := f entry.narrative }

/-- The scorecard with its strings replaced.  The map of the capabilities has the new keys, and
their order. -/
def Scorecard.respell (card : Scorecard Double) : Scorecard Double :=
  { card with
    implementationName := f card.implementationName
    sections := card.sections.map fun score => { score with section_ := f score.section_ }
    mustFailureIds := card.mustFailureIds.map f
    curves := card.curves.map (ResilienceCurve.respell f)
    integrityViolations := card.integrityViolations.map (IntegrityEntry.respell f)
    capabilitySupported :=
      sortByKey Prod.fst (card.capabilitySupported.map fun entry => (f entry.1, entry.2))
    records := card.records.map (MetricRecord.respell f) }

end Respell

def MetricRecord.strings (record : MetricRecord) : List Bytes :=
  [record.testId, record.title, record.rfcClause, record.intensityLabel, record.narrative,
    record.implementationName]

/-- All strings of a scorecard. -/
def Scorecard.strings (card : Scorecard Double) : List Bytes :=
  [card.implementationName] ++ card.sections.map SectionScore.section_ ++ card.mustFailureIds ++
    card.curves.flatMap (fun curve =>
      [curve.impairmentId, curve.title] ++ curve.points.map ResiliencePoint.label) ++
    card.integrityViolations.flatMap (fun entry =>
      [entry.testId, entry.intensityLabel, entry.narrative]) ++
    card.capabilitySupported.map Prod.fst ++ card.records.flatMap MetricRecord.strings

/-- **The replacement keeps which of the strings are empty and which are equal.** -/
structure KeepsApart (f : Bytes → Bytes) (strings : List Bytes) : Prop where
  nil_iff : ∀ s ∈ strings, f s = [] ↔ s = []
  eq_iff : ∀ s ∈ strings, ∀ t ∈ strings, f s = f t ↔ s = t

/-! ### Charts -/

section Charts

variable (frame : ChartFrame) (points : List (ResiliencePoint Double))

theorem inert_svgPoint (point : ResiliencePoint Double) : Inert (svgPoint frame point) :=
  ((inert_printDouble _).append (by decide)).append (inert_printDouble _)

theorem inert_svgArea : Inert (svgArea frame points) := by
  have hbase (point : Option (ResiliencePoint Double)) :
      Inert ((point.map fun p => printDouble (frame.sx p.intensity)).getD [] ++ text "," ++
        printDouble (ChartFrame.sy (Double.ofInt 0))) := by
    refine Inert.append (Inert.append ?_ (by decide)) (inert_printDouble _)
    cases point with
    | none => exact inert_nil
    | some p => exact inert_printDouble _
  have hpoints : Inert (points.flatMap fun p => text " L" ++ svgPoint frame p) :=
    inert_flatMap fun p _ => Inert.append (by decide) (inert_svgPoint frame p)
  have hmove : Inert (text "M") := by decide
  have hline : Inert (text " L") := by decide
  have hclose : Inert (text " Z") := by decide
  exact ((((hmove.append (hbase _)).append hpoints).append hline).append (hbase _)).append hclose

theorem inert_svgLine : Inert (svgLine frame points) :=
  inert_flatMap fun p _ =>
    (inert_ite (by decide) (by decide)).append (inert_svgPoint frame p.1)

theorem alike_svgGridline (gy : Double) : Alike (svgGridline gy) (svgGridline gy) := by
  have hprint := inert_printDouble
  exact (Parallel.startLiteral _ _ |>.inert (hprint _) |>.literal _ |>.inert (hprint _) |>.literal _
    |>.inert (hprint _) |>.literal _ |>.inert (hprint _) |>.literal _ |>.literal _
    |>.inert (hprint _) |>.literal _ |>.inert (hprint _) |>.literal _
    |>.inert (inert_formatDouble _ _) |>.literal _).alike rfl

theorem alike_svgAxes : Alike svgAxes svgAxes := by
  have hprint := inert_printDouble
  exact (Parallel.startLiteral _ _ |>.inert (hprint _) |>.literal _ |>.inert (hprint _) |>.literal _
    |>.inert (hprint _) |>.literal _ |>.inert (hprint _) |>.literal _ |>.literal _
    |>.inert (hprint _) |>.literal _ |>.inert (hprint _) |>.literal _ |>.inert (hprint _)
    |>.literal _ |>.inert (hprint _) |>.literal _).alike rfl

theorem alike_svgDot (point : ResiliencePoint Double) :
    Alike (svgDot frame point) (svgDot frame point) := by
  have hprint := inert_printDouble
  exact (Parallel.startLiteral _ _ |>.inert (hprint _) |>.literal _ |>.inert (hprint _) |>.literal _
    |>.literal _ |>.inert (hprint _) |>.literal _ |>.inert (hprint _) |>.literal _
    |>.inert (inert_formatDouble _ _) |>.literal _).alike rfl

theorem alike_svgCurve : Alike (svgCurve points) (svgCurve points) := by
  unfold svgCurve
  split
  · exact alike_of_inert inert_nil inert_nil
  · have hdots : Alike (points.flatMap (svgDot (ChartFrame.ofPoints points)))
        (points.flatMap (svgDot (ChartFrame.ofPoints points))) :=
      alike_flatMap (List.forall₂_same.2 fun p _ => alike_svgDot _ p)
    exact (Parallel.startLiteral _ _ |>.inert (inert_svgArea _ points) |>.literal _ |>.literal _
      |>.inert (inert_svgLine _ points) |>.literal _ |>.block hdots).alike rfl

/-- The labels of the points are not drawn. -/
theorem svgCurve_relabel (f : Bytes → Bytes) :
    svgCurve (points.map fun point => { point with label := f point.label }) =
      svgCurve points := by
  have hframe : ChartFrame.ofPoints (points.map fun point =>
      { point with label := f point.label }) = ChartFrame.ofPoints points := by
    unfold ChartFrame.ofPoints
    rw [List.head?_map, List.getLast?_map]
    cases points.head? <;> cases points.getLast? <;> rfl
  unfold svgCurve
  rw [hframe]
  simp only [List.map_eq_nil_iff, svgArea, svgLine, List.head?_map, List.getLast?_map,
    List.flatMap_map, Option.map_map, List.zipIdx_map, Function.comp_def]
  rfl

end Charts

/-! ### The parts of a report -/

theorem text_ofList (l : List Char) :
    text (String.ofList l) = l.flatMap String.utf8EncodeChar := by
  rw [text, String.toList_ofList]

theorem text_append (s t : String) : text (s ++ t) = text s ++ text t := by
  unfold text
  rw [String.toList_append, List.flatMap_append]

/-- The style sheet has no angle bracket that could end it. -/
theorem sharedReportCss_raw : ∀ c ∈ sharedReportCss, c ≠ 60 := by
  have hliteral {l : List Char} (h : l.all fun x => 60 ∉ String.utf8EncodeChar x) :
      60 ∉ text (String.ofList l) := by
    rw [text_ofList, List.mem_flatMap]
    rintro ⟨x, hx, hc⟩
    exact of_decide_eq_true (List.all_eq_true.1 h x hx) hc
  have hlines : ∀ line ∈ cssLines, 60 ∉ text line := by
    simp only [cssLines, List.forall_mem_cons, text_append, List.mem_append, not_or]
    repeat' apply And.intro
    all_goals first
      | exact hliteral (by decide)
      | exact List.forall_mem_nil _
  rintro c hc rfl
  obtain ⟨line, hline, hc⟩ := List.mem_flatMap.1 hc
  rcases List.mem_append.1 hc with hc | hc
  · exact hlines line hline hc
  · revert hc
    decide

section Parts

variable (f : Bytes → Bytes)

/-- The only string in a chart is the title of the curve. -/
theorem alike_renderResilienceSvg (curve : ResilienceCurve Double) :
    Alike (renderResilienceSvg (curve.respell f)) (renderResilienceSvg curve) := by
  have hprint := inert_printDouble
  have hgrid := alike_flatMap (List.forall₂_same.2 fun gy
    (_ : gy ∈ [Double.ofInt 0, Double.ofRat (1 / 2), Double.ofInt 1]) => alike_svgGridline gy)
  have hcurve : Alike (svgCurve (curve.respell f).points) (svgCurve curve.points) := by
    rw [ResilienceCurve.respell, svgCurve_relabel]
    exact alike_svgCurve curve.points
  exact (Parallel.startLiteral _ _ |>.inert (hprint _) |>.literal _ |>.inert (hprint _) |>.literal _
    |>.hole (inert_htmlEscape _) (inert_htmlEscape _) |>.literal _ |>.block hgrid
    |>.block alike_svgAxes |>.block hcurve |>.literal _ |>.inert (hprint _) |>.literal _
    |>.inert (hprint _) |>.literal _ |>.literal _ |>.literal _).alike rfl

theorem alike_conformanceTile (a b : Scorecard Double) :
    Alike (conformanceTile a) (conformanceTile b) := by
  have hclass (x : Double) :
      Inert (if (Double.ofInt 90).le x then text "good"
        else if (Double.ofInt 70).le x then text "warn" else text "bad") :=
    inert_ite (by decide) (inert_ite (by decide) (by decide))
  exact (Parallel.startLiteral _ _ |>.literal _ |>.hole (hclass _) (hclass _) |>.literal _
    |>.hole (inert_formatDouble _ _) (inert_formatDouble _ _) |>.literal _ |>.literal _).alike rfl

theorem alike_resilienceTile (a b : Scorecard Double) :
    Alike (resilienceTile a) (resilienceTile b) :=
  (Parallel.startLiteral _ _ |>.literal _ |>.hole (inert_formatDouble _ _) (inert_formatDouble _ _)
    |>.literal _).alike rfl

theorem alike_integrityTile (a b : Scorecard Double) :
    Alike (integrityTile a) (integrityTile b) := by
  have hclass (p : Prop) [Decidable p] : Inert (if p then text "good" else text "bad") :=
    inert_ite (by decide) (by decide)
  exact (Parallel.startLiteral _ _ |>.literal _ |>.hole (hclass _) (hclass _) |>.literal _
    |>.hole (inert_toDecimal _) (inert_toDecimal _) |>.literal _ |>.literal _).alike rfl

theorem alike_degradationTile (a b : Scorecard Double) :
    Alike (degradationTile a) (degradationTile b) :=
  (Parallel.startLiteral _ _ |>.literal _ |>.hole (inert_formatDouble _ _) (inert_formatDouble _ _)
    |>.literal _).alike rfl

theorem alike_throughputTile (a b : Scorecard Double) :
    Alike (throughputTile a) (throughputTile b) :=
  (Parallel.startLiteral _ _ |>.literal _
    |>.hole (inert_formatBytesPerSecond _) (inert_formatBytesPerSecond _) |>.literal _
    |>.hole (inert_formatDouble _ _) (inert_formatDouble _ _) |>.literal _).alike rfl

theorem alike_resultsTile (a b : Scorecard Double) : Alike (resultsTile a) (resultsTile b) :=
  (Parallel.startLiteral _ _ |>.literal _ |>.hole (inert_toDecimal _) (inert_toDecimal _)
    |>.literal _ |>.hole (inert_toDecimal _) (inert_toDecimal _) |>.literal _ |>.literal _
    |>.hole (inert_toDecimal _) (inert_toDecimal _) |>.literal _).alike rfl

/-- The tiles hold no string of the store: those of any two scorecards are alike. -/
theorem alike_renderTiles (a b : Scorecard Double) : Alike (renderTiles a) (renderTiles b) :=
  (Parallel.startLiteral _ _ |>.block (alike_conformanceTile a b)
    |>.block (alike_resilienceTile a b) |>.block (alike_integrityTile a b)
    |>.block (alike_degradationTile a b) |>.block (alike_throughputTile a b)
    |>.block (alike_resultsTile a b) |>.literal _).alike rfl

theorem alike_renderMustFailures (card : Scorecard Double) :
    Alike (renderMustFailures (card.respell f)) (renderMustFailures card) := by
  have hids : Alike
      ((card.respell f).mustFailureIds.flatMap fun id =>
        text "<li class=\"mono\">" ++ htmlEscape id ++ text "</li>")
      (card.mustFailureIds.flatMap fun id =>
        text "<li class=\"mono\">" ++ htmlEscape id ++ text "</li>") :=
    alike_flatMap_map fun id _ => (Parallel.startLiteral _ _
      |>.hole (inert_htmlEscape _) (inert_htmlEscape _) |>.literal _).alike rfl
  have hlength : (card.respell f).mustFailureIds.length = card.mustFailureIds.length :=
    List.length_map f
  have hnil : (card.respell f).mustFailureIds = [] ↔ card.mustFailureIds = [] :=
    List.map_eq_nil_iff
  unfold renderMustFailures
  by_cases h : card.mustFailureIds = []
  · rw [if_pos h, if_pos (hnil.2 h)]
    exact (Parallel.startLiteral _ _ |>.literal _).alike rfl
  · rw [if_neg h, if_neg (mt hnil.1 h), hlength]
    exact (Parallel.startLiteral _ _ |>.inert (inert_toDecimal _) |>.literal _ |>.literal _
      |>.block hids |>.literal _).alike rfl

theorem alike_renderSectionTable (card : Scorecard Double) :
    Alike (renderSectionTable (card.respell f)) (renderSectionTable card) := by
  have hrows : Alike ((card.respell f).sections.flatMap sectionRow)
      (card.sections.flatMap sectionRow) :=
    alike_flatMap_map fun score _ => (Parallel.startLiteral _ _
      |>.hole (inert_htmlEscape _) (inert_htmlEscape _) |>.literal _ |>.inert (inert_toDecimal _)
      |>.literal _ |>.inert (inert_toDecimal _) |>.literal _ |>.inert (inert_toDecimal _)
      |>.literal _ |>.inert (inert_formatDouble _ _) |>.literal _).alike rfl
  exact (Parallel.startLiteral _ _ |>.literal _ |>.literal _ |>.block hrows |>.literal _).alike rfl

/-- The rows of the matrix are in the order of the keys, but they are all alike. -/
theorem alike_renderCapabilityMatrix (card : Scorecard Double) :
    Alike (renderCapabilityMatrix (card.respell f)) (renderCapabilityMatrix card) := by
  have hrow (x y : Bytes × Bool) : Alike (capabilityRow x) (capabilityRow y) := by
    have hclass (b : Bool) : Inert (if b then text "yes" else text "no") :=
      inert_ite (by decide) (by decide)
    have hlabel (b : Bool) : Inert (if b then text "yes" else text "no (tests SKIPPED)") :=
      inert_ite (by decide) (by decide)
    exact (Parallel.startLiteral _ _ |>.hole (inert_htmlEscape _) (inert_htmlEscape _) |>.literal _
      |>.hole (hclass _) (hclass _) |>.literal _ |>.hole (hlabel _) (hlabel _)
      |>.literal _).alike rfl
  have hlength : (card.respell f).capabilitySupported.length =
      card.capabilitySupported.length := by
    simp only [Scorecard.respell, sortByKey, List.length_mergeSort, List.length_map]
  exact (Parallel.startLiteral _ _ |>.literal _
    |>.block (alike_flatMap_of_length hlength fun x _ y _ => hrow x y) |>.literal _).alike rfl

theorem alike_renderCurves (card : Scorecard Double) :
    Alike (renderCurves (card.respell f)) (renderCurves card) := by
  have hcards : Alike ((card.respell f).curves.flatMap curveCard)
      (card.curves.flatMap curveCard) :=
    alike_flatMap_map fun curve _ => (Parallel.startLiteral _ _
      |>.hole (inert_htmlEscape _) (inert_htmlEscape _) |>.literal _
      |>.hole (inert_htmlEscape _) (inert_htmlEscape _) |>.literal _
      |>.inert (inert_formatDouble _ _) |>.literal _ |>.block (alike_renderResilienceSvg f curve)
      |>.literal _).alike rfl
  have hnil : (card.respell f).curves = [] ↔ card.curves = [] := List.map_eq_nil_iff
  unfold renderCurves
  by_cases h : card.curves = []
  · rw [if_pos h, if_pos (hnil.2 h)]
    exact (Parallel.startLiteral _ _).alike rfl
  · rw [if_neg h, if_neg (mt hnil.1 h)]
    exact (Parallel.startLiteral _ _ |>.block hcards |>.literal _).alike rfl

theorem alike_renderIntegrityLedger (card : Scorecard Double) :
    Alike (renderIntegrityLedger (card.respell f)) (renderIntegrityLedger card) := by
  have hrows : Alike ((card.respell f).integrityViolations.flatMap integrityRow)
      (card.integrityViolations.flatMap integrityRow) :=
    alike_flatMap_map fun entry _ => (Parallel.startLiteral _ _
      |>.hole (inert_htmlEscape _) (inert_htmlEscape _) |>.literal _
      |>.hole (inert_htmlEscape _) (inert_htmlEscape _) |>.literal _
      |>.hole (inert_htmlEscape _) (inert_htmlEscape _) |>.literal _
      |>.inert (inert_toDecimal _) |>.literal _).alike rfl
  have hlength : (card.respell f).integrityViolations.length = card.integrityViolations.length :=
    List.length_map _
  have hnil : (card.respell f).integrityViolations = [] ↔ card.integrityViolations = [] :=
    List.map_eq_nil_iff
  unfold renderIntegrityLedger
  by_cases h : card.integrityViolations = []
  · rw [if_pos h, if_pos (hnil.2 h)]
    exact (Parallel.startLiteral _ _ |>.literal _ |>.literal _).alike rfl
  · rw [if_neg h, if_neg (mt hnil.1 h), hlength]
    exact (Parallel.startLiteral _ _ |>.inert (inert_toDecimal _) |>.literal _ |>.literal _
      |>.literal _ |>.literal _ |>.literal _ |>.block hrows |>.literal _).alike rfl

/-- A row of the appendix: an empty label is left out. -/
theorem alike_appendixRow {record : MetricRecord}
    (hlabel : f record.intensityLabel = [] ↔ record.intensityLabel = []) :
    Alike (appendixRow (record.respell f)) (appendixRow record) := by
  have hbreak : Alike
      (if f record.intensityLabel = [] then []
        else text "<br><span class=\"sub mono\">" ++ htmlEscape (f record.intensityLabel) ++
          text "</span>")
      (if record.intensityLabel = [] then []
        else text "<br><span class=\"sub mono\">" ++ htmlEscape record.intensityLabel ++
          text "</span>") := by
    by_cases h : record.intensityLabel = []
    · rw [if_pos h, if_pos (hlabel.2 h)]
      exact alike_of_inert inert_nil inert_nil
    · rw [if_neg h, if_neg (mt hlabel.1 h)]
      exact (Parallel.startLiteral _ _ |>.hole (inert_htmlEscape _) (inert_htmlEscape _)
        |>.literal _).alike rfl
  have hcritical : Alike
      (if record.severity = .critical ∧ record.outcome = .fail then
        text " <span class=\"badge fail\">CRITICAL</span>" else [])
      (if record.severity = .critical ∧ record.outcome = .fail then
        text " <span class=\"badge fail\">CRITICAL</span>" else []) := by
    split
    · exact alike_markup (by decide)
    · exact alike_of_inert inert_nil inert_nil
  exact (Parallel.startLiteral _ _ |>.hole (inert_htmlEscape _) (inert_htmlEscape _) |>.block hbreak
    |>.literal _ |>.hole (inert_htmlEscape _) (inert_htmlEscape _) |>.literal _
    |>.inert (inert_outcomeBadgeClass _) |>.literal _ |>.inert (inert_outcomeName _) |>.literal _
    |>.block hcritical |>.literal _ |>.hole (inert_htmlEscape _) (inert_htmlEscape _)
    |>.literal _ |>.inert (inert_counterOrDash _ _) |>.literal _
    |>.inert (inert_counterOrDash _ _) |>.literal _
    |>.hole (inert_htmlEscape _) (inert_htmlEscape _) |>.literal _
    |>.inert (inert_toDecimal _) |>.literal _).alike rfl

theorem alike_renderAppendix {card : Scorecard Double}
    (hlabels : ∀ record ∈ card.records,
      f record.intensityLabel = [] ↔ record.intensityLabel = []) :
    Alike (renderAppendix (card.respell f)) (renderAppendix card) := by
  have hrows : Alike ((card.respell f).records.flatMap appendixRow)
      (card.records.flatMap appendixRow) :=
    alike_flatMap_map fun record hrecord => alike_appendixRow f (hlabels record hrecord)
  exact (Parallel.startLiteral _ _ |>.literal _ |>.literal _ |>.block hrows |>.literal _).alike rfl

/-- **The report of one implementation keeps its tags.** -/
theorem alike_renderSingleReport {card : Scorecard Double}
    (hlabels : ∀ record ∈ card.records,
      f record.intensityLabel = [] ↔ record.intensityLabel = []) :
    Alike (renderSingleReport (card.respell f)) (renderSingleReport card) := by
  exact (Parallel.startLiteral _ _ |>.literal _ |>.literal _
    |>.hole (inert_htmlEscape _) (inert_htmlEscape _) |>.literal _ |>.raw sharedReportCss_raw
    |>.literal _ |>.literal _ |>.literal _ |>.hole (inert_htmlEscape _) (inert_htmlEscape _)
    |>.literal _ |>.literal _ |>.literal _ |>.literal _ |>.literal _
    |>.block (alike_renderTiles _ card) |>.literal _
    |>.block (alike_renderMustFailures f card) |>.literal _
    |>.block (alike_renderSectionTable f card) |>.literal _ |>.literal _ |>.literal _
    |>.block (alike_renderCapabilityMatrix f card) |>.literal _ |>.literal _ |>.literal _
    |>.literal _ |>.block (alike_renderCurves f card) |>.literal _
    |>.block (alike_renderIntegrityLedger f card) |>.literal _
    |>.block (alike_renderAppendix f hlabels) |>.literal _ |>.literal _ |>.literal _ |>.literal _
    |>.literal _).alike rfl

end Parts

end TftpHarness
