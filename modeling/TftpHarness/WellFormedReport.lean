/-
**The reports are documents.**

`ReportMarkup` shows that the strings of a store do not change the tags of a report.  Here it is
shown that the tags are right to begin with: whatever the scorecards hold, and whichever of its
parts are left out, a report is one HTML document whose elements are closed in order.

The parts of a report are blocks, one after the other or in each other, and the parts of a chart are
blocks of a drawing.

Main results:

* `TftpHarness.nested_renderResilienceSvg`, `TftpHarness.nested_renderAppendix` and the like — the
  parts of a report are blocks;
* `TftpHarness.reports_wellFormed` — **both reports are well-formed documents**.
-/

import TftpHarness.ComparisonMarkup
import TftpHarness.HtmlNesting

set_option relaxedAutoImplicit false
set_option autoImplicit false

namespace TftpHarness

open HtmlTokens

/-! ### Charts -/

section Charts

variable (frame : ChartFrame) (points : List (ResiliencePoint Double))

theorem nested_svgGridline (gy : Double) : Nested true (svgGridline gy) := by
  have hprint := inert_printDouble
  exact nested_of_leads (fun _ _ => leads_literal _ _ _ |>.inert (hprint _) |>.literal _
    |>.inert (hprint _) |>.literal _ |>.inert (hprint _) |>.literal _ |>.inert (hprint _)
    |>.literal _ |>.literal _ |>.inert (hprint _) |>.literal _ |>.inert (hprint _) |>.literal _
    |>.inert (inert_formatDouble _ _) |>.literal _) fun _ _ => rfl

theorem nested_svgAxes : Nested true svgAxes := by
  have hprint := inert_printDouble
  exact nested_of_leads (fun _ _ => leads_literal _ _ _ |>.inert (hprint _) |>.literal _
    |>.inert (hprint _) |>.literal _ |>.inert (hprint _) |>.literal _ |>.inert (hprint _)
    |>.literal _ |>.literal _ |>.inert (hprint _) |>.literal _ |>.inert (hprint _) |>.literal _
    |>.inert (hprint _) |>.literal _ |>.inert (hprint _) |>.literal _) fun _ _ => rfl

theorem nested_svgDot (point : ResiliencePoint Double) : Nested true (svgDot frame point) := by
  have hprint := inert_printDouble
  exact nested_of_leads (fun _ _ => leads_literal _ _ _ |>.inert (hprint _) |>.literal _
    |>.inert (hprint _) |>.literal _ |>.literal _ |>.inert (hprint _) |>.literal _
    |>.inert (hprint _) |>.literal _ |>.inert (inert_formatDouble _ _) |>.literal _) fun _ _ => rfl

theorem nested_svgCurve : Nested true (svgCurve points) := by
  unfold svgCurve
  split
  · exact nested_inert true inert_nil
  · have hdots : Nested true (points.flatMap (svgDot (ChartFrame.ofPoints points))) :=
      nested_flatMap fun point _ => nested_svgDot _ point
    exact nested_of_leads (fun _ _ => leads_literal _ _ _ |>.inert (inert_svgArea _ points)
      |>.literal _ |>.literal _ |>.inert (inert_svgLine _ points) |>.literal _
      |>.block hdots) fun _ _ => rfl

/-- A chart is a drawing of its own. -/
theorem nested_renderResilienceSvg (curve : ResilienceCurve Double) :
    Nested false (renderResilienceSvg curve) := by
  have hprint := inert_printDouble
  have hgrid : Nested true
      ([Double.ofInt 0, Double.ofRat (1 / 2), Double.ofInt 1].flatMap svgGridline) :=
    nested_flatMap fun gy _ => nested_svgGridline gy
  exact nested_of_leads (fun _ _ => leads_literal _ _ _ |>.inert (hprint _) |>.literal _
    |>.inert (hprint _) |>.literal _ |>.inert (inert_htmlEscape _) |>.literal _ |>.block hgrid
    |>.block nested_svgAxes |>.block (nested_svgCurve curve.points) |>.literal _
    |>.inert (hprint _) |>.literal _ |>.inert (hprint _) |>.literal _ |>.literal _
    |>.literal _) fun _ _ => rfl

end Charts

/-! ### The parts of a report -/

section Parts

variable (card : Scorecard Double)

theorem nested_conformanceTile : Nested false (conformanceTile card) := by
  have hclass (x : Double) :
      Inert (if (Double.ofInt 90).le x then text "good"
        else if (Double.ofInt 70).le x then text "warn" else text "bad") :=
    inert_ite (by decide) (inert_ite (by decide) (by decide))
  exact nested_of_leads (fun _ _ => leads_literal _ _ _ |>.literal _ |>.inert (hclass _)
    |>.literal _ |>.inert (inert_formatDouble _ _) |>.literal _ |>.literal _) fun _ _ => rfl

theorem nested_resilienceTile : Nested false (resilienceTile card) :=
  nested_of_leads (fun _ _ => leads_literal _ _ _ |>.literal _ |>.inert (inert_formatDouble _ _)
    |>.literal _) fun _ _ => rfl

theorem nested_integrityTile : Nested false (integrityTile card) := by
  have hclass (p : Prop) [Decidable p] : Inert (if p then text "good" else text "bad") :=
    inert_ite (by decide) (by decide)
  exact nested_of_leads (fun _ _ => leads_literal _ _ _ |>.literal _ |>.inert (hclass _)
    |>.literal _ |>.inert (inert_toDecimal _) |>.literal _ |>.literal _) fun _ _ => rfl

theorem nested_degradationTile : Nested false (degradationTile card) :=
  nested_of_leads (fun _ _ => leads_literal _ _ _ |>.literal _ |>.inert (inert_formatDouble _ _)
    |>.literal _) fun _ _ => rfl

theorem nested_throughputTile : Nested false (throughputTile card) :=
  nested_of_leads (fun _ _ => leads_literal _ _ _ |>.literal _
    |>.inert (inert_formatBytesPerSecond _) |>.literal _ |>.inert (inert_formatDouble _ _)
    |>.literal _) fun _ _ => rfl

theorem nested_resultsTile : Nested false (resultsTile card) :=
  nested_of_leads (fun _ _ => leads_literal _ _ _ |>.literal _ |>.inert (inert_toDecimal _)
    |>.literal _ |>.inert (inert_toDecimal _) |>.literal _ |>.literal _
    |>.inert (inert_toDecimal _) |>.literal _) fun _ _ => rfl

theorem nested_renderTiles : Nested false (renderTiles card) :=
  nested_of_leads (fun _ _ => leads_literal _ _ _ |>.block (nested_conformanceTile card)
    |>.block (nested_resilienceTile card) |>.block (nested_integrityTile card)
    |>.block (nested_degradationTile card) |>.block (nested_throughputTile card)
    |>.block (nested_resultsTile card) |>.literal _) fun _ _ => rfl

theorem nested_renderMustFailures : Nested false (renderMustFailures card) := by
  have hids : Nested false (card.mustFailureIds.flatMap fun id =>
      text "<li class=\"mono\">" ++ htmlEscape id ++ text "</li>") :=
    nested_flatMap fun id _ => nested_of_leads (fun _ _ => leads_literal _ _ _
      |>.inert (inert_htmlEscape _) |>.literal _) fun _ _ => rfl
  unfold renderMustFailures
  split
  · exact nested_of_leads (fun _ _ => leads_literal _ _ _ |>.literal _) fun _ _ => rfl
  · exact nested_of_leads (fun _ _ => leads_literal _ _ _ |>.inert (inert_toDecimal _)
      |>.literal _ |>.literal _ |>.block hids |>.literal _) fun _ _ => rfl

theorem nested_renderSectionTable : Nested false (renderSectionTable card) := by
  have hrows : Nested false (card.sections.flatMap sectionRow) :=
    nested_flatMap fun score _ => nested_of_leads (fun _ _ => leads_literal _ _ _
      |>.inert (inert_htmlEscape _) |>.literal _ |>.inert (inert_toDecimal _) |>.literal _
      |>.inert (inert_toDecimal _) |>.literal _ |>.inert (inert_toDecimal _) |>.literal _
      |>.inert (inert_formatDouble _ _) |>.literal _) fun _ _ => rfl
  exact nested_of_leads (fun _ _ => leads_literal _ _ _ |>.literal _ |>.literal _ |>.block hrows
    |>.literal _) fun _ _ => rfl

theorem nested_renderCapabilityMatrix : Nested false (renderCapabilityMatrix card) := by
  have hclass (b : Bool) : Inert (if b then text "yes" else text "no") :=
    inert_ite (by decide) (by decide)
  have hlabel (b : Bool) : Inert (if b then text "yes" else text "no (tests SKIPPED)") :=
    inert_ite (by decide) (by decide)
  have hrows : Nested false (card.capabilitySupported.flatMap capabilityRow) :=
    nested_flatMap fun entry _ => nested_of_leads (fun _ _ => leads_literal _ _ _
      |>.inert (inert_htmlEscape _) |>.literal _ |>.inert (hclass _) |>.literal _
      |>.inert (hlabel _) |>.literal _) fun _ _ => rfl
  exact nested_of_leads (fun _ _ => leads_literal _ _ _ |>.literal _ |>.block hrows
    |>.literal _) fun _ _ => rfl

theorem nested_renderCurves : Nested false (renderCurves card) := by
  have hcards : Nested false (card.curves.flatMap curveCard) :=
    nested_flatMap fun curve _ => nested_of_leads (fun _ _ => leads_literal _ _ _
      |>.inert (inert_htmlEscape _) |>.literal _ |>.inert (inert_htmlEscape _) |>.literal _
      |>.inert (inert_formatDouble _ _) |>.literal _ |>.block (nested_renderResilienceSvg curve)
      |>.literal _) fun _ _ => rfl
  unfold renderCurves
  split
  · exact nested_of_leads (fun _ _ => leads_literal _ _ _) fun _ _ => rfl
  · exact nested_of_leads (fun _ _ => leads_literal _ _ _ |>.block hcards |>.literal _)
      fun _ _ => rfl

theorem nested_renderIntegrityLedger : Nested false (renderIntegrityLedger card) := by
  have hrows : Nested false (card.integrityViolations.flatMap integrityRow) :=
    nested_flatMap fun entry _ => nested_of_leads (fun _ _ => leads_literal _ _ _
      |>.inert (inert_htmlEscape _) |>.literal _ |>.inert (inert_htmlEscape _) |>.literal _
      |>.inert (inert_htmlEscape _) |>.literal _ |>.inert (inert_toDecimal _)
      |>.literal _) fun _ _ => rfl
  unfold renderIntegrityLedger
  split
  · exact nested_of_leads (fun _ _ => leads_literal _ _ _ |>.literal _ |>.literal _) fun _ _ => rfl
  · exact nested_of_leads (fun _ _ => leads_literal _ _ _ |>.inert (inert_toDecimal _)
      |>.literal _ |>.literal _ |>.literal _ |>.literal _ |>.literal _ |>.block hrows
      |>.literal _) fun _ _ => rfl

theorem nested_appendixRow (record : MetricRecord) : Nested false (appendixRow record) := by
  have hbreak : Nested false
      (if record.intensityLabel = [] then []
        else text "<br><span class=\"sub mono\">" ++ htmlEscape record.intensityLabel ++
          text "</span>") := by
    split
    · exact nested_inert false inert_nil
    · exact nested_of_leads (fun _ _ => leads_literal _ _ _ |>.inert (inert_htmlEscape _)
        |>.literal _) fun _ _ => rfl
  have hcritical : Nested false
      (if record.severity = .critical ∧ record.outcome = .fail then
        text " <span class=\"badge fail\">CRITICAL</span>" else []) := by
    split
    · exact nested_of_leads (fun _ _ => leads_literal _ _ _) fun _ _ => rfl
    · exact nested_inert false inert_nil
  exact nested_of_leads (fun _ _ => leads_literal _ _ _ |>.inert (inert_htmlEscape _)
    |>.block hbreak |>.literal _ |>.inert (inert_htmlEscape _) |>.literal _
    |>.inert (inert_outcomeBadgeClass _) |>.literal _ |>.inert (inert_outcomeName _) |>.literal _
    |>.block hcritical |>.literal _ |>.inert (inert_htmlEscape _) |>.literal _
    |>.inert (inert_counterOrDash _ _) |>.literal _ |>.inert (inert_counterOrDash _ _)
    |>.literal _ |>.inert (inert_htmlEscape _) |>.literal _ |>.inert (inert_toDecimal _)
    |>.literal _) fun _ _ => rfl

theorem nested_renderAppendix : Nested false (renderAppendix card) := by
  have hrows : Nested false (card.records.flatMap appendixRow) :=
    nested_flatMap fun record _ => nested_appendixRow record
  exact nested_of_leads (fun _ _ => leads_literal _ _ _ |>.literal _ |>.literal _ |>.block hrows
    |>.literal _) fun _ _ => rfl

/-- The report of one implementation. -/
theorem wellFormed_renderSingleReport : IsDocument (renderSingleReport card) :=
  (leads_literal _ _ _ |>.literal _ |>.literal _
    |>.inert (inert_htmlEscape _) |>.literal _ |>.raw sharedReportCss_raw
    |>.literal _ |>.literal _ |>.literal _ |>.inert (inert_htmlEscape _)
    |>.literal _ |>.literal _ |>.literal _ |>.literal _ |>.literal _
    |>.block (nested_renderTiles card) |>.literal _
    |>.block (nested_renderMustFailures card) |>.literal _
    |>.block (nested_renderSectionTable card) |>.literal _ |>.literal _ |>.literal _
    |>.block (nested_renderCapabilityMatrix card) |>.literal _ |>.literal _ |>.literal _
    |>.literal _ |>.block (nested_renderCurves card) |>.literal _
    |>.block (nested_renderIntegrityLedger card) |>.literal _
    |>.block (nested_renderAppendix card) |>.literal _ |>.literal _ |>.literal _ |>.literal _
    |>.literal _).wellFormed rfl

end Parts

/-! ### The comparison -/

theorem nested_renderAxisTable (a b : Scorecard Double) : Nested false (renderAxisTable a b) := by
  have hbadge (p : Prop) [Decidable p] : Inert (if p then text "pass" else text "skip") :=
    inert_ite (by decide) (by decide)
  have hrows : Nested false ((axisRows a b).flatMap renderAxisRow) :=
    nested_flatMap fun row _ => nested_of_leads (fun _ _ => leads_literal _ _ _
      |>.inert (inert_htmlEscape _) |>.literal _ |>.inert (inert_htmlEscape _) |>.literal _
      |>.inert (inert_htmlEscape _) |>.literal _ |>.inert (hbadge _) |>.literal _
      |>.inert (inert_htmlEscape _) |>.literal _ |>.inert (inert_htmlEscape _)
      |>.literal _) fun _ _ => rfl
  exact nested_of_leads (fun _ _ => leads_literal _ _ _ |>.literal _ |>.literal _ |>.block hrows
    |>.literal _) fun _ _ => rfl

theorem nested_divergenceTable {ds : List Divergence}
    (hds : ∀ d ∈ ds, Inert d.aOutcome ∧ Inert d.bOutcome) : Nested false (divergenceTable ds) := by
  have hrows : Nested false (ds.flatMap divergenceRow) :=
    nested_flatMap fun d hd => nested_of_leads (fun _ _ => leads_literal _ _ _
      |>.inert (inert_htmlEscape _) |>.literal _ |>.inert (inert_htmlEscape _) |>.literal _
      |>.inert (inert_badgeOf _) |>.literal _ |>.inert (hds d hd).1 |>.literal _
      |>.inert (inert_badgeOf _) |>.literal _ |>.inert (hds d hd).2 |>.literal _
      |>.inert (inert_htmlEscape _) |>.literal _ |>.inert (inert_htmlEscape _)
      |>.literal _) fun _ _ => rfl
  exact nested_of_leads (fun _ _ => leads_literal _ _ _ |>.inert (inert_toDecimal _) |>.literal _
    |>.literal _ |>.literal _ |>.literal _ |>.literal _ |>.block hrows |>.literal _) fun _ _ => rfl

theorem nested_renderDivergences {sortByTest : List Divergence → List Divergence}
    (hsort : ∀ ds, (sortByTest ds).Perm ds) (a b : Scorecard Double) :
    Nested false (renderDivergences sortByTest a b) := by
  unfold renderDivergences
  split
  · exact nested_of_leads (fun _ _ => leads_literal _ _ _ |>.literal _ |>.literal _) fun _ _ => rfl
  · exact nested_divergenceTable (inert_reported hsort a b)

/-- The report of two implementations. -/
theorem wellFormed_renderComparisonReport {sortByTest : List Divergence → List Divergence}
    (hsort : ∀ ds, (sortByTest ds).Perm ds) (a b : Scorecard Double) :
    IsDocument (renderComparisonReport sortByTest a b) := by
  unfold renderComparisonReport comparisonHead comparisonFoot
  simp only [← List.append_assoc]
  exact (leads_literal _ _ _ |>.literal _ |>.literal _
    |>.inert (inert_htmlEscape _) |>.literal _ |>.inert (inert_htmlEscape _) |>.literal _
    |>.raw sharedReportCss_raw |>.literal _ |>.literal _ |>.literal _
    |>.inert (inert_htmlEscape _) |>.literal _ |>.inert (inert_htmlEscape _) |>.literal _
    |>.literal _ |>.inert (inert_overallVerdict _ _) |>.literal _ |>.literal _
    |>.block (nested_renderAxisTable a b) |>.literal _
    |>.block (nested_renderDivergences hsort a b) |>.literal _ |>.literal _ |>.literal _
    |>.literal _).wellFormed rfl

/-- **Both reports are well-formed documents**, whatever the scorecards hold: a declaration and one
element, whose elements are closed in order, with void elements outside charts and elements closed
in their own tag inside them, and no attribute twice in a tag. -/
theorem reports_wellFormed (sortByTest : List Divergence → List Divergence)
    (hsort : ∀ ds, (sortByTest ds).Perm ds) :
    (∀ card : Scorecard Double, IsDocument (renderSingleReport card)) ∧
      ∀ a b : Scorecard Double, IsDocument (renderComparisonReport sortByTest a b) :=
  ⟨wellFormed_renderSingleReport, wellFormed_renderComparisonReport hsort⟩

/-- With the divergences sorted by the tests. -/
theorem reports_wellFormed_sorted :
    (∀ card : Scorecard Double, IsDocument (renderSingleReport card)) ∧
      ∀ a b : Scorecard Double,
        IsDocument (renderComparisonReport (sortByKey Divergence.testId) a b) :=
  reports_wellFormed (sortByKey Divergence.testId) fun ds => List.mergeSort_perm ds _

end TftpHarness
