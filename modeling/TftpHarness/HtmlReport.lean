/-
**The HTML reports.**

`render_single_report` turns a scorecard into one HTML document: tiles with the scores, the tables,
a chart for each resilience curve, and an appendix with every record.  `render_comparison_report`
sets two scorecards side by side: the verdict, the axes, and the divergences.  A document is a
string that is written piece after piece, and every string that comes from a store goes through
`html_escape` on its way.

A number is written as `printf` and `operator<<` write it; the coordinates of a chart are computed
in `double`s, as in the source.

Main definitions:

* `TftpHarness.formatDouble`, `TftpHarness.formatBytesPerSecond`, `TftpHarness.counterOrDash` —
  numbers as text;
* `TftpHarness.renderResilienceSvg` — the chart of a curve;
* `TftpHarness.renderTiles`, `TftpHarness.renderMustFailures`, `TftpHarness.renderSectionTable`,
  `TftpHarness.renderCapabilityMatrix`, `TftpHarness.renderCurves`,
  `TftpHarness.renderIntegrityLedger`, `TftpHarness.renderAppendix` — the parts of the report;
* `TftpHarness.renderSingleReport` — **the report of one implementation**;
* `TftpHarness.renderAxisTable`, `TftpHarness.renderComparisonReport` — **the report of two**.
-/

import TftpHarness.OverallVerdict

set_option relaxedAutoImplicit false
set_option autoImplicit false

namespace TftpHarness

/-! ### Numbers -/

/-- `%.df` of a finite number: the decimal nearest to it with so many places. -/
def formatPlaces (decimals : ℕ) (q : ℚ) : Bytes :=
  let n := (Rounding.roundHalfEven (|q| * 10 ^ decimals)).toNat
  let fraction := toDecimal (n % 10 ^ decimals)
  (if q < 0 then [45] else []) ++ toDecimal (n / 10 ^ decimals) ++
    if decimals = 0 then []
    else 46 :: (List.replicate (decimals - fraction.length) 48 ++ fraction)

/-- `%.df`. -/
def Double.formatFixed (decimals : ℕ) : Double → Bytes
  | .finite x => formatPlaces decimals x.value
  | .infinite negative => text (if negative then "-inf" else "inf")
  | .notANumber negative => text (if negative then "-nan" else "nan")

/-- `format_double`.  The buffer has room for 63 bytes. -/
def formatDouble (value : Double) (decimals : ℕ) : Bytes := (value.formatFixed decimals).take 63

/-- What `operator<<` writes of a `double`. -/
def printDouble (value : Double) : Bytes := value.format 6

/-- `format_bytes_per_second`. -/
def formatBytesPerSecond (value : Double) : Bytes :=
  if (Double.ofInt (1024 * 1024)).le value then
    formatDouble (value / Double.ofInt (1024 * 1024)) 2 ++ text " MiB/s"
  else if (Double.ofInt 1024).le value then
    formatDouble (value / Double.ofInt 1024) 1 ++ text " KiB/s"
  else formatDouble value 0 ++ text " B/s"

/-- `outcome_badge_class`. -/
def outcomeBadgeClass : Outcome → Bytes
  | .pass => text "badge pass"
  | .fail => text "badge fail"
  | .skipped => text "badge skip"

/-- `std::floor(x) == x`. -/
def Double.isWhole : Double → Bool
  | .finite x => (⌊x.value⌋ : ℚ) = x.value
  | .infinite _ => true
  | .notANumber _ => false

/-- `counter_or_dash`. -/
def counterOrDash (record : MetricRecord) (name : Bytes) : Bytes :=
  match record.counters[name]? with
  | none => text "—"
  | some value => if value.isWhole then signedDecimal value.toInt64 else formatDouble value 1

/-! ### The style sheet -/

/-- The lines of the style sheet. -/
def cssLines : List String :=
  ["",
    ":root\x7b",
    "  --surface:#f4f4f1; --card:#ffffff; --ink:#0b0b0b; --ink2:#52514e; --muted:#8a8a85;",
    "  --series:#2a78d6; --good:#008300; --warn:#b07400; --bad:#d13a39;",
    "  --border:#e0e0da; --grid:#ececE6; --axis:#b8b8b1;",
    "  --good-bg:#e7f3e7; --warn-bg:#faf1dd; --bad-bg:#fbe7e7;",
    "\x7d",
    "@media (prefers-color-scheme: dark)\x7b",
    "  :root\x7b",
    "    --surface:#141413; --card:#1f1f1d; --ink:#f4f4f0; --ink2:#c3c2b7; --muted:#8f8e86;",
    "    --series:#3987e5; --good:#4fae4f; --warn:#e0a52a; --bad:#e66767;",
    "    --border:#33332f; --grid:#2a2a27; --axis:#4a4a45;",
    "    --good-bg:#16241a; --warn-bg:#2a2416; --bad-bg:#2c1a1a;",
    "  \x7d",
    "\x7d",
    ":root[data-theme=light]\x7b",
    "  --surface:#f4f4f1; --card:#ffffff; --ink:#0b0b0b; --ink2:#52514e; --muted:#8a8a85;",
    "  --series:#2a78d6; --good:#008300; --warn:#b07400; --bad:#d13a39;",
    "  --border:#e0e0da; --grid:#ececE6; --axis:#b8b8b1;",
    "  --good-bg:#e7f3e7; --warn-bg:#faf1dd; --bad-bg:#fbe7e7;",
    "\x7d",
    ":root[data-theme=dark]\x7b",
    "  --surface:#141413; --card:#1f1f1d; --ink:#f4f4f0; --ink2:#c3c2b7; --muted:#8f8e86;",
    "  --series:#3987e5; --good:#4fae4f; --warn:#e0a52a; --bad:#e66767;",
    "  --border:#33332f; --grid:#2a2a27; --axis:#4a4a45;",
    "  --good-bg:#16241a; --warn-bg:#2a2416; --bad-bg:#2c1a1a;",
    "\x7d",
    "*\x7bbox-sizing:border-box;\x7d",
    "body\x7bmargin:0;background:var(--surface);color:var(--ink);",
    "  font-family:-apple-system,BlinkMacSystemFont,\"Segoe UI\",Roboto,Helvetica,Arial," ++
      "sans-serif;",
    "  line-height:1.5;\x7d",
    ".wrap\x7bmax-width:1080px;margin:0 auto;padding:32px 20px 80px;\x7d",
    "h1\x7bfont-size:26px;margin:0 0 4px;letter-spacing:-0.01em;\x7d",
    "h2\x7bfont-size:19px;margin:40px 0 14px;padding-bottom:6px;border-bottom:1px solid " ++
      "var(--border);\x7d",
    "h3\x7bfont-size:15px;margin:24px 0 8px;color:var(--ink2);\x7d",
    ".sub\x7bcolor:var(--ink2);font-size:14px;margin:0 0 4px;\x7d",
    ".mono\x7bfont-family:ui-monospace,SFMono-Regular,Menlo,Consolas,monospace;\x7d",
    ".tiles\x7bdisplay:grid;grid-template-columns:repeat(auto-fit,minmax(165px,1fr));" ++
      "gap:14px;margin-top:20px;\x7d",
    ".tile\x7bbackground:var(--card);border:1px solid var(--border);border-radius:12px;" ++
      "padding:16px 18px;\x7d",
    ".tile .label\x7bfont-size:12px;text-transform:uppercase;letter-spacing:0.04em;" ++
      "color:var(--muted);\x7d",
    ".tile .value\x7bfont-size:30px;font-weight:650;margin-top:6px;letter-spacing:-0.02em;" ++
      "\x7d",
    ".tile .value.small\x7bfont-size:20px;\x7d",
    ".tile .foot\x7bfont-size:12px;color:var(--ink2);margin-top:4px;\x7d",
    ".value.good\x7bcolor:var(--good);\x7d .value.warn\x7bcolor:var(--warn);\x7d " ++
      ".value.bad\x7bcolor:var(--bad);\x7d",
    "table\x7bwidth:100%;border-collapse:collapse;font-size:13.5px;margin-top:8px;\x7d",
    "th,td\x7btext-align:left;padding:8px 10px;border-bottom:1px solid var(--border);" ++
      "vertical-align:top;\x7d",
    "th\x7bcolor:var(--muted);font-weight:600;font-size:12px;text-transform:uppercase;" ++
      "letter-spacing:0.03em;\x7d",
    ".tablewrap\x7boverflow-x:auto;background:var(--card);border:1px solid var(--border);" ++
      "border-radius:12px;\x7d",
    ".badge\x7bdisplay:inline-block;padding:2px 9px;border-radius:999px;font-size:12px;" ++
      "font-weight:600;\x7d",
    ".badge.pass\x7bbackground:var(--good-bg);color:var(--good);\x7d",
    ".badge.fail\x7bbackground:var(--bad-bg);color:var(--bad);\x7d",
    ".badge.skip\x7bbackground:var(--grid);color:var(--muted);\x7d",
    ".callout\x7bborder-radius:12px;padding:14px 18px;margin-top:16px;font-size:14px;\x7d",
    ".callout.bad\x7bbackground:var(--bad-bg);border:1px solid var(--bad);\x7d",
    ".callout.good\x7bbackground:var(--good-bg);border:1px solid var(--good);\x7d",
    ".callout ul\x7bmargin:8px 0 0;padding-left:20px;\x7d",
    ".charts\x7bdisplay:grid;grid-template-columns:repeat(auto-fit,minmax(300px,1fr));" ++
      "gap:16px;margin-top:16px;\x7d",
    ".chartcard\x7bbackground:var(--card);border:1px solid var(--border);border-radius:12px;" ++
      "padding:14px 16px 8px;\x7d",
    ".chartcard .ct\x7bfont-size:14px;font-weight:600;margin-bottom:2px;\x7d",
    ".chartcard .cs\x7bfont-size:12px;color:var(--muted);margin-bottom:6px;\x7d",
    "svg\x7bmax-width:100%;height:auto;display:block;\x7d",
    ".svg-grid\x7bstroke:var(--grid);stroke-width:1;\x7d",
    ".svg-axis\x7bstroke:var(--axis);stroke-width:1;\x7d",
    ".svg-line\x7bstroke:var(--series);stroke-width:2;fill:none;stroke-linejoin:round;" ++
      "stroke-linecap:round;\x7d",
    ".svg-dot\x7bfill:var(--series);\x7d",
    ".svg-text\x7bfill:var(--ink2);font-size:10px;font-family:inherit;\x7d",
    ".svg-area\x7bfill:var(--series);opacity:0.10;\x7d",
    ".caprow\x7bdisplay:flex;align-items:center;gap:8px;\x7d",
    ".dot\x7bwidth:9px;height:9px;border-radius:50%;display:inline-block;\x7d",
    ".dot.yes\x7bbackground:var(--good);\x7d .dot.no\x7bbackground:var(--muted);\x7d",
    ".narrative\x7bcolor:var(--ink2);\x7d",
    ".foot-note\x7bmargin-top:40px;color:var(--muted);font-size:12px;\x7d",
    "code\x7bbackground:var(--grid);padding:1px 5px;border-radius:5px;font-size:12.5px;\x7d"]

/-- `shared_report_css`. -/
def sharedReportCss : Bytes := cssLines.flatMap fun line => text line ++ [10]

/-! ### The chart of a curve -/

/-- The geometry of a chart: the extent of the plot, and the range of the intensities. -/
structure ChartFrame where
  minX : Double
  maxX : Double

namespace ChartFrame

def width : Double := Double.ofInt 320

def height : Double := Double.ofInt 190

def left : Double := Double.ofInt 38

def right : Double := Double.ofInt 12

def top : Double := Double.ofInt 12

def bottom : Double := Double.ofInt 30

def plotW : Double := width - left - right

def plotH : Double := height - top - bottom

/-- The frame of a curve; an interval without extent is widened. -/
def ofPoints (points : List (ResiliencePoint Double)) : ChartFrame :=
  match points.head?, points.getLast? with
  | some front, some back =>
      { minX := front.intensity
        maxX := if back.intensity.le front.intensity then front.intensity + Double.ofInt 1
          else back.intensity }
  | _, _ => { minX := Double.ofInt 0, maxX := Double.ofInt 1 }

def sx (frame : ChartFrame) (x : Double) : Double :=
  left + plotW * (x - frame.minX) / (frame.maxX - frame.minX)

def sy (y : Double) : Double := top + plotH * (Double.ofInt 1 - y)

end ChartFrame

open ChartFrame

/-- A horizontal line of the grid, with its label. -/
def svgGridline (gy : Double) : Bytes :=
  text "<line class=\"svg-grid\" x1=\"" ++ printDouble left ++ text "\" y1=\"" ++
    printDouble (sy gy) ++ text "\" x2=\"" ++ printDouble (width - right) ++ text "\" y2=\"" ++
    printDouble (sy gy) ++ text "\"/>" ++
    text "<text class=\"svg-text\" x=\"" ++ printDouble (left - Double.ofInt 6) ++
    text "\" y=\"" ++ printDouble (sy gy + Double.ofInt 3) ++ text "\" text-anchor=\"end\">" ++
    formatDouble (gy * Double.ofInt 100) 0 ++ text "%</text>"

/-- The two axes. -/
def svgAxes : Bytes :=
  text "<line class=\"svg-axis\" x1=\"" ++ printDouble left ++ text "\" y1=\"" ++
    printDouble (sy (Double.ofInt 0)) ++ text "\" x2=\"" ++ printDouble (width - right) ++
    text "\" y2=\"" ++ printDouble (sy (Double.ofInt 0)) ++ text "\"/>" ++
    text "<line class=\"svg-axis\" x1=\"" ++ printDouble left ++ text "\" y1=\"" ++
    printDouble top ++ text "\" x2=\"" ++ printDouble left ++ text "\" y2=\"" ++
    printDouble (sy (Double.ofInt 0)) ++ text "\"/>"

/-- The coordinates of a point. -/
def svgPoint (frame : ChartFrame) (point : ResiliencePoint Double) : Bytes :=
  printDouble (frame.sx point.intensity) ++ text "," ++ printDouble (sy point.success)

/-- The path around the area under the curve. -/
def svgArea (frame : ChartFrame) (points : List (ResiliencePoint Double)) : Bytes :=
  let base (point : Option (ResiliencePoint Double)) : Bytes :=
    (point.map fun p => printDouble (frame.sx p.intensity)).getD [] ++ text "," ++
      printDouble (sy (Double.ofInt 0))
  text "M" ++ base points.head? ++ points.flatMap (fun p => text " L" ++ svgPoint frame p) ++
    text " L" ++ base points.getLast? ++ text " Z"

/-- The path along the curve. -/
def svgLine (frame : ChartFrame) (points : List (ResiliencePoint Double)) : Bytes :=
  points.zipIdx.flatMap fun p =>
    (if p.2 = 0 then text "M" else text " L") ++ svgPoint frame p.1

/-- The dot of a point, and the label below it. -/
def svgDot (frame : ChartFrame) (point : ResiliencePoint Double) : Bytes :=
  text "<circle class=\"svg-dot\" cx=\"" ++ printDouble (frame.sx point.intensity) ++
    text "\" cy=\"" ++ printDouble (sy point.success) ++ text "\" r=\"3\"/>" ++
    text "<text class=\"svg-text\" x=\"" ++ printDouble (frame.sx point.intensity) ++
    text "\" y=\"" ++ printDouble (height - bottom + Double.ofInt 14) ++
    text "\" text-anchor=\"middle\">" ++ formatDouble point.intensity 2 ++ text "</text>"

/-- The curve itself; a curve without points is not drawn. -/
def svgCurve (points : List (ResiliencePoint Double)) : Bytes :=
  if points = [] then []
  else
    let frame := ofPoints points
    text "<path class=\"svg-area\" d=\"" ++ svgArea frame points ++ text "\"/>" ++
      text "<path class=\"svg-line\" d=\"" ++ svgLine frame points ++ text "\"/>" ++
      points.flatMap (svgDot frame)

/-- `render_resilience_svg`. -/
def renderResilienceSvg (curve : ResilienceCurve Double) : Bytes :=
  text "<svg viewBox=\"0 0 " ++ printDouble width ++ text " " ++ printDouble height ++
    text "\" role=\"img\" aria-label=\"" ++ htmlEscape curve.title ++
    text " success rate versus intensity\">" ++
    [Double.ofInt 0, Double.ofRat (1 / 2), Double.ofInt 1].flatMap svgGridline ++ svgAxes ++
    svgCurve curve.points ++
    text "<text class=\"svg-text\" x=\"" ++ printDouble (left + plotW / Double.ofInt 2) ++
    text "\" y=\"" ++ printDouble (height - Double.ofInt 3) ++
    text "\" text-anchor=\"middle\">impairment intensity" ++ text "</text>" ++ text "</svg>"

/-! ### The parts of the report -/

/-- The tile of the conformance score. -/
def conformanceTile (card : Scorecard Double) : Bytes :=
  let confClass :=
    if (Double.ofInt 90).le card.conformanceScore then text "good"
    else if (Double.ofInt 70).le card.conformanceScore then text "warn"
    else text "bad"
  text "<div class=\"tile\"><div class=\"label\">Conformance score</div>" ++
    text "<div class=\"value " ++ confClass ++ text "\">" ++
    formatDouble card.conformanceScore 1 ++ text "</div>" ++
    text "<div class=\"foot\">weighted over A-E, G (CRITICAL &gt; MAJOR &gt; MINOR)</div></div>"

/-- The tile of the resilience index. -/
def resilienceTile (card : Scorecard Double) : Bytes :=
  text "<div class=\"tile\"><div class=\"label\">Resilience index</div>" ++
    text "<div class=\"value\">" ++ formatDouble card.resilienceIndex 3 ++
    text "</div><div class=\"foot\">mean area under F success curves (0-1)</div></div>"

/-- The tile of the integrity violations. -/
def integrityTile (card : Scorecard Double) : Bytes :=
  text "<div class=\"tile\"><div class=\"label\">Integrity violations</div>" ++
    text "<div class=\"value " ++
    (if card.integrityViolations = [] then text "good" else text "bad") ++ text "\">" ++
    toDecimal card.integrityViolations.length ++ text "</div>" ++
    text "<div class=\"foot\">reported success but delivered wrong bytes</div></div>"

/-- The tile of graceful degradation. -/
def degradationTile (card : Scorecard Double) : Bytes :=
  text "<div class=\"tile\"><div class=\"label\">Graceful degradation</div>" ++
    text "<div class=\"value\">" ++
    formatDouble (card.gracefulDegradationRate * Double.ofInt 100) 0 ++
    text "%</div><div class=\"foot\">of failures ended in a clean error, not a hang</div></div>"

/-- The tile of the efficiency. -/
def throughputTile (card : Scorecard Double) : Bytes :=
  text "<div class=\"tile\"><div class=\"label\">Avg throughput</div>" ++
    text "<div class=\"value small\">" ++
    formatBytesPerSecond card.averageThroughputBytesPerSecond ++
    text "</div><div class=\"foot\">across passing transfers; " ++
    formatDouble card.totalRetransmissions 0 ++ text " retransmissions total</div></div>"

/-- The tile of the results. -/
def resultsTile (card : Scorecard Double) : Bytes :=
  text "<div class=\"tile\"><div class=\"label\">Results</div>" ++
    text "<div class=\"value small\"><span class=\"badge pass\">" ++
    toDecimal card.totalPassed ++ text " pass</span> <span class=\"badge fail\">" ++
    toDecimal card.totalFailed ++ text " fail</span></div>" ++ text "<div class=\"foot\">" ++
    toDecimal card.totalSkipped ++ text " skipped (unsupported)</div></div>"

/-- `render_tiles`. -/
def renderTiles (card : Scorecard Double) : Bytes :=
  text "<div class=\"tiles\">" ++ conformanceTile card ++ resilienceTile card ++
    integrityTile card ++ degradationTile card ++ throughputTile card ++ resultsTile card ++
    text "</div>"

/-- The row of a section. -/
def sectionRow (score : SectionScore Double) : Bytes :=
  text "<tr><td class=\"mono\">" ++ htmlEscape score.section_ ++ text "</td><td>" ++
    toDecimal score.passed ++ text "</td><td>" ++ toDecimal score.failed ++ text "</td><td>" ++
    toDecimal score.skipped ++ text "</td><td>" ++ formatDouble score.weightedScore 1 ++
    text "</td></tr>"

/-- `render_section_table`. -/
def renderSectionTable (card : Scorecard Double) : Bytes :=
  text "<div class=\"tablewrap\"><table><thead><tr><th>Section</th>" ++
    text "<th>Pass</th><th>Fail</th><th>Skipped</th><th>Weighted " ++
    text "score</th></tr></thead><tbody>" ++ card.sections.flatMap sectionRow ++
    text "</tbody></table></div>"

/-- `render_must_failures`. -/
def renderMustFailures (card : Scorecard Double) : Bytes :=
  if card.mustFailureIds = [] then
    text "<div class=\"callout good\"><strong>No MUST-level (CRITICAL) " ++
      text "failures.</strong> Every CRITICAL conformance check passed.</div>"
  else
    text "<div class=\"callout bad\"><strong>" ++ toDecimal card.mustFailureIds.length ++
      text " MUST-level (CRITICAL) failure(s)</strong> — shown separately, " ++
      text "never averaged into the score:<ul>" ++
      card.mustFailureIds.flatMap (fun id =>
        text "<li class=\"mono\">" ++ htmlEscape id ++ text "</li>") ++
      text "</ul></div>"

/-- The row of a capability. -/
def capabilityRow (entry : Bytes × Bool) : Bytes :=
  text "<tr><td class=\"mono\">" ++ htmlEscape entry.1 ++
    text "</td><td><span class=\"caprow\"><span class=\"dot " ++
    (if entry.2 then text "yes" else text "no") ++ text "\"></span>" ++
    (if entry.2 then text "yes" else text "no (tests SKIPPED)") ++ text "</span></td></tr>"

/-- `render_capability_matrix`. -/
def renderCapabilityMatrix (card : Scorecard Double) : Bytes :=
  text "<div class=\"tablewrap\"><table><thead><tr><th>Capability</th>" ++
    text "<th>Supported</th></tr></thead><tbody>" ++
    card.capabilitySupported.flatMap capabilityRow ++ text "</tbody></table></div>"

/-- The card of a curve. -/
def curveCard (curve : ResilienceCurve Double) : Bytes :=
  text "<div class=\"chartcard\"><div class=\"ct mono\">" ++ htmlEscape curve.impairmentId ++
    text "</div><div class=\"cs\">" ++ htmlEscape curve.title ++ text " — area " ++
    formatDouble curve.area 3 ++ text "</div>" ++ renderResilienceSvg curve ++ text "</div>"

/-- `render_curves`. -/
def renderCurves (card : Scorecard Double) : Bytes :=
  if card.curves = [] then text "<p class=\"sub\">No resilience sweeps in this run.</p>"
  else text "<div class=\"charts\">" ++ card.curves.flatMap curveCard ++ text "</div>"

/-- The row of an integrity violation. -/
def integrityRow (entry : IntegrityEntry) : Bytes :=
  text "<tr><td class=\"mono\">" ++ htmlEscape entry.testId ++ text "</td><td>" ++
    htmlEscape entry.intensityLabel ++ text "</td><td>" ++ htmlEscape entry.narrative ++
    text "</td><td class=\"mono\">" ++ toDecimal entry.seed.toNat ++ text "</td></tr>"

/-- `render_integrity_ledger`. -/
def renderIntegrityLedger (card : Scorecard Double) : Bytes :=
  if card.integrityViolations = [] then
    text "<div class=\"callout good\"><strong>Integrity ledger is " ++
      text "clean.</strong> No transfer reported success while delivering " ++
      text "non-matching bytes.</div>"
  else
    text "<div class=\"callout bad\"><strong>" ++ toDecimal card.integrityViolations.length ++
      text " silent data-integrity failure(s).</strong> A transfer reported " ++
      text "success but delivered corrupted bytes — the most severe outcome in " ++
      text "the matrix.</div>" ++
      text "<div class=\"tablewrap\"><table><thead><tr><th>Test</th>" ++
      text "<th>Condition</th><th>Detail</th><th>Seed</th></tr></thead><tbody>" ++
      card.integrityViolations.flatMap integrityRow ++ text "</tbody></table></div>"

/-- The row of a record. -/
def appendixRow (record : MetricRecord) : Bytes :=
  text "<tr><td class=\"mono\">" ++ htmlEscape record.testId ++
    (if record.intensityLabel = [] then []
      else text "<br><span class=\"sub mono\">" ++ htmlEscape record.intensityLabel ++
        text "</span>") ++
    text "</td><td>" ++ htmlEscape record.title ++ text "</td><td><span class=\"" ++
    outcomeBadgeClass record.outcome ++ text "\">" ++ outcomeName record.outcome ++
    text "</span>" ++
    (if record.severity = .critical ∧ record.outcome = .fail then
      text " <span class=\"badge fail\">CRITICAL</span>" else []) ++
    text "</td><td class=\"sub\">" ++ htmlEscape record.rfcClause ++ text "</td><td>" ++
    counterOrDash record (text "retransmissions") ++ text "</td><td>" ++
    counterOrDash record (text "datagrams_dropped") ++ text "</td><td class=\"narrative\">" ++
    htmlEscape record.narrative ++ text "</td><td class=\"mono\">" ++
    toDecimal record.seed.toNat ++ text "</td></tr>"

/-- `render_appendix`. -/
def renderAppendix (card : Scorecard Double) : Bytes :=
  text "<div class=\"tablewrap\"><table><thead><tr><th>ID</th>" ++
    text "<th>Behavior</th><th>Outcome</th><th>RFC</th><th>Retx</th>" ++
    text "<th>Drop</th><th>Narrative</th><th>Seed</th></tr></thead><tbody>" ++
    card.records.flatMap appendixRow ++ text "</tbody></table></div>"

/-! ### The report -/

/-- **`render_single_report`.** -/
def renderSingleReport (card : Scorecard Double) : Bytes :=
  text "<!doctype html><html lang=\"en\"><head><meta charset=\"utf-8\">" ++
    text "<meta name=\"viewport\" content=\"width=device-width,initial-scale=1\">" ++
    text "<title>TFTP conformance report — " ++ htmlEscape card.implementationName ++
    text "</title><style>" ++ sharedReportCss ++
    text "</style></head><body><div class=\"wrap\">" ++
    text "<h1>TFTP Conformance &amp; Robustness Report</h1>" ++
    text "<p class=\"sub\">Implementation under test: <strong>" ++
    htmlEscape card.implementationName ++ text "</strong></p>" ++
    text "<p class=\"sub\">Every result traces to a stable test ID and the RFC " ++
    text "clause it derives from. MUST-level failures are listed separately " ++
    text "and are never averaged into the conformance score.</p>" ++
    text "<h2>Executive scorecard</h2>" ++ renderTiles card ++
    text "<h2>MUST-level conformance</h2>" ++ renderMustFailures card ++
    text "<h2>Per-section conformance</h2>" ++ renderSectionTable card ++
    text "<h2>Capability matrix</h2>" ++
    text "<p class=\"sub\">Unsupported capabilities cause their tests to be " ++
    text "recorded SKIPPED, never FAILED.</p>" ++ renderCapabilityMatrix card ++
    text "<h2>Resilience curves (F-series)</h2>" ++
    text "<p class=\"sub\">Byte-exact success rate as each impairment " ++
    text "intensifies. The normalized area under a curve is the resilience " ++
    text "index contribution.</p>" ++ renderCurves card ++
    text "<h2>Integrity ledger</h2>" ++ renderIntegrityLedger card ++
    text "<h2>Appendix — every result</h2>" ++ renderAppendix card ++
    text "<p class=\"foot-note\">Generated by the TFTP conformance &amp; " ++
    text "robustness test harness. Impairments applied by a local loopback " ++
    text "UDP proxy; each result records the PRNG seed for exact " ++
    text "reproduction.</p>" ++ text "</div></body></html>"

/-! ### The comparison -/

instance negDouble : Neg Double := ⟨Double.neg⟩

structure AxisRow where
  axis : Bytes
  valueA : Bytes
  valueB : Bytes
  winner : Bytes
  note : Bytes

/-- `winner_of`. -/
def winnerOf (a b : Double) (higherBetter : Bool) : Bytes :=
  if stdAbs (a - b) < Double.ofRat (1 / 10 ^ 9) then text "tie"
  else
    let aBetter : Bool := if higherBetter then b.lt a else a.lt b
    if aBetter then text "A" else text "B"

/-- The rows of the table of the axes. -/
def axisRows (a b : Scorecard Double) : List AxisRow :=
  [{ axis := text "Conformance score"
     valueA := formatDouble a.conformanceScore 1
     valueB := formatDouble b.conformanceScore 1
     winner := winnerOf a.conformanceScore b.conformanceScore true
     note := text "weighted over A-E, G" },
    { axis := text "MUST-level (CRITICAL) failures"
      valueA := toDecimal a.mustFailureIds.length
      valueB := toDecimal b.mustFailureIds.length
      winner := winnerOf (Double.ofInt a.mustFailureIds.length)
        (Double.ofInt b.mustFailureIds.length) false
      note := text "fewer is better" },
    { axis := text "Resilience index"
      valueA := formatDouble a.resilienceIndex 3
      valueB := formatDouble b.resilienceIndex 3
      winner := winnerOf a.resilienceIndex b.resilienceIndex true
      note := text "mean area under F curves" },
    { axis := text "Integrity violations"
      valueA := toDecimal a.integrityViolations.length
      valueB := toDecimal b.integrityViolations.length
      winner := winnerOf (Double.ofInt a.integrityViolations.length)
        (Double.ofInt b.integrityViolations.length) false
      note := text "silent corruption; fewer is better" },
    { axis := text "Graceful degradation"
      valueA := formatDouble (a.gracefulDegradationRate * Double.ofInt 100) 0 ++ text "%"
      valueB := formatDouble (b.gracefulDegradationRate * Double.ofInt 100) 0 ++ text "%"
      winner := winnerOf a.gracefulDegradationRate b.gracefulDegradationRate true
      note := text "clean failures vs hangs" },
    { axis := text "Avg throughput (B/s)"
      valueA := formatDouble a.averageThroughputBytesPerSecond 0
      valueB := formatDouble b.averageThroughputBytesPerSecond 0
      winner := winnerOf a.averageThroughputBytesPerSecond b.averageThroughputBytesPerSecond true
      note := text "passing transfers" }]

/-- The row of an axis. -/
def renderAxisRow (row : AxisRow) : Bytes :=
  let badge := if row.winner = text "A" ∨ row.winner = text "B" then text "pass" else text "skip"
  let label :=
    if row.winner = text "A" then text "A"
    else if row.winner = text "B" then text "B"
    else text "tie"
  text "<tr><td>" ++ htmlEscape row.axis ++ text "</td><td>" ++ htmlEscape row.valueA ++
    text "</td><td>" ++ htmlEscape row.valueB ++ text "</td><td><span class=\"badge " ++ badge ++
    text "\">" ++ htmlEscape label ++ text "</span></td><td class=\"sub\">" ++
    htmlEscape row.note ++ text "</td></tr>"

/-- `render_axis_table`. -/
def renderAxisTable (a b : Scorecard Double) : Bytes :=
  text "<div class=\"tablewrap\"><table><thead><tr><th>Axis</th>" ++
    text "<th>A</th><th>B</th><th>Advantage</th><th>Note</th></tr></thead>" ++
    text "<tbody>" ++ (axisRows a b).flatMap renderAxisRow ++ text "</tbody></table></div>"

/-- What the comparison report says before the divergences. -/
def comparisonHead (a b : Scorecard Double) : Bytes :=
  text "<!doctype html><html lang=\"en\"><head><meta charset=\"utf-8\">" ++
    text "<meta name=\"viewport\" content=\"width=device-width,initial-scale=1\">" ++
    text "<title>TFTP comparison — " ++ htmlEscape a.implementationName ++ text " vs " ++
    htmlEscape b.implementationName ++ text "</title><style>" ++ sharedReportCss ++
    text "</style></head><body><div class=\"wrap\">" ++
    text "<h1>TFTP Implementation Comparison</h1>" ++
    text "<p class=\"sub\"><strong>A:</strong> " ++ htmlEscape a.implementationName ++
    text "<br><strong>B:</strong> " ++ htmlEscape b.implementationName ++ text "</p>" ++
    text "<div class=\"callout good\"><strong>Verdict.</strong> " ++
    overallVerdict (fun x => x) a b ++ text "</div>" ++
    text "<h2>Scoring axes</h2>" ++ renderAxisTable a b ++
    text "<h2>Divergences (per test ID and RFC clause)</h2>"

/-- And after them. -/
def comparisonFoot : Bytes :=
  text "<p class=\"foot-note\">Both implementations were run independently " ++
    text "through the identical suite. Every divergence above is attributed to " ++
    text "a stable test ID and the RFC clause it derives from.</p>" ++
    text "</div></body></html>"

/-- **`render_comparison_report`.** -/
def renderComparisonReport (sortByTest : List Divergence → List Divergence)
    (a b : Scorecard Double) : Bytes :=
  comparisonHead a b ++ renderDivergences sortByTest a b ++ comparisonFoot

end TftpHarness
