/-
**Text in a comparison is no markup.**

The report of two implementations escapes the strings of both stores, as the report of one does, and
the sentence of its verdict is plain text.  What the strings decide is how many rows the table of
divergences has: two records are set side by side when they have one key.  The key of a record is
its test, a bar and its label, so it does not tell where the test ends, and different pairs may have
the same key.  A replacement that keeps which keys are equal keeps the divergences, each in its new
spelling; one that keeps only the strings apart need not.

Main definitions:

* `TftpHarness.diverging` — the records of one store that diverge from those of the other;
* `TftpHarness.KeepsKeys` — the replacement keeps which keys are equal.

Main results:

* `TftpHarness.diverging_map` — **the same records diverge** when the keys stay apart;
* `TftpHarness.alike_renderComparisonReport` — the report of two keeps its tags;
* `TftpHarness.report_markup` — **both reports keep their tags**;
* `TftpHarness.shared_key_lost` — two strings apart with one key.
-/

import TftpHarness.ReportMarkup

set_option relaxedAutoImplicit false
set_option autoImplicit false

namespace TftpHarness

open HtmlTokens

/-! ### The axes and the verdict -/

/-- No string of the store is on an axis. -/
theorem axisRows_respell (f : Bytes → Bytes) (a b : Scorecard Double) :
    axisRows (a.respell f) (b.respell f) = axisRows a b := by
  simp only [axisRows, Scorecard.respell, List.length_map]

theorem alike_renderAxisRow (row : AxisRow) : Alike (renderAxisRow row) (renderAxisRow row) := by
  have hbadge (p : Prop) [Decidable p] : Inert (if p then text "pass" else text "skip") :=
    inert_ite (by decide) (by decide)
  exact (Parallel.startLiteral _ _ |>.inert (inert_htmlEscape _) |>.literal _
    |>.inert (inert_htmlEscape _) |>.literal _ |>.inert (inert_htmlEscape _) |>.literal _
    |>.inert (hbadge _) |>.literal _ |>.inert (inert_htmlEscape _) |>.literal _
    |>.inert (inert_htmlEscape _) |>.literal _).alike rfl

theorem alike_renderAxisTable (f : Bytes → Bytes) (a b : Scorecard Double) :
    Alike (renderAxisTable (a.respell f) (b.respell f)) (renderAxisTable a b) := by
  have hrows : Alike ((axisRows a b).flatMap renderAxisRow)
      ((axisRows a b).flatMap renderAxisRow) :=
    alike_flatMap (List.forall₂_same.2 fun row _ => alike_renderAxisRow row)
  unfold renderAxisTable
  rw [axisRows_respell]
  exact (Parallel.startLiteral _ _ |>.literal _ |>.literal _ |>.block hrows |>.literal _).alike rfl

/-- A sentence without special characters. -/
theorem inert_literal {l : List Char} (h : l.all fun x => Inert (String.utf8EncodeChar x)) :
    Inert (text (String.ofList l)) := by
  rw [text_ofList]
  exact inert_flatMap fun x hx => of_decide_eq_true (List.all_eq_true.1 h x hx)

theorem inert_superiority (axis : VerdictAxis) {name : Bytes} (hname : Inert name) :
    Inert (superiority axis name) := by
  cases axis with
  | integrity => exact ((inert_literal (by decide)).append hname).append (inert_literal (by decide))
  | mustFailures => exact hname.append (inert_literal (by decide))
  | conformance => exact hname.append (inert_literal (by decide))
  | resilience => exact hname.append (inert_literal (by decide))

/-- **The verdict is plain text.** -/
theorem inert_overallVerdict (a b : Scorecard Double) :
    Inert (overallVerdict (fun x => x) a b) := by
  have haxis (axis : VerdictAxis) (name : Bytes) : Inert (superiority axis (htmlEscape name)) :=
    inert_superiority axis (inert_htmlEscape name)
  unfold overallVerdict
  exact inert_ite (haxis _ _) (inert_ite (haxis _ _) (inert_ite (haxis _ _)
    (inert_ite (haxis _ _) (inert_literal (by decide)))))

/-! ### The divergences -/

/-- The records of the first list that diverge, in the order of the keys. -/
def diverging (as bs : List MetricRecord) : List MetricRecord :=
  (recordsByKey as).toList.filterMap fun entry =>
    match (recordsByKey bs)[entry.1]? with
    | none => none
    | some rb => if Diverges entry.2 rb then some entry.2 else none

section Diverging

variable {as bs : List MetricRecord}

/-- There is one divergence for each of them. -/
theorem length_divergences : (divergences as bs).length = (diverging as bs).length := by
  unfold divergences diverging
  rw [List.length_filterMap_eq_countP, List.length_filterMap_eq_countP]
  refine List.countP_congr fun entry _ => ?_
  cases (recordsByKey bs)[entry.1]? with
  | none => exact Iff.rfl
  | some rb =>
      dsimp only
      split <;> exact Iff.rfl

/-- They are the last records of their keys whose counterpart disagrees. -/
theorem mem_diverging {record : MetricRecord} : record ∈ diverging as bs ↔
    (∃ j, LastOfKey as j record) ∧
      ∃ rb, (∃ k, LastOfKey bs k rb) ∧ recordKey rb = recordKey record ∧ Diverges record rb := by
  simp only [diverging, List.mem_filterMap, Prod.exists,
    Std.ExtTreeMap.mem_toList_iff_getElem?_eq_some]
  constructor
  · rintro ⟨key, ra, ha, hrecord⟩
    obtain ⟨rfl, hlast⟩ := getElem?_recordsByKey.1 ha
    split at hrecord
    · cases hrecord
    · next rb hb =>
        obtain ⟨hkey, hlastb⟩ := getElem?_recordsByKey.1 hb
        split at hrecord
        · next hdiv =>
            obtain rfl := Option.some.inj hrecord
            exact ⟨hlast, rb, hlastb, hkey, hdiv⟩
        · cases hrecord
  · rintro ⟨hlast, rb, hlastb, hkey, hdiv⟩
    have hb : (recordsByKey bs)[recordKey record]? = some rb :=
      getElem?_recordsByKey.2 ⟨hkey, hlastb⟩
    refine ⟨recordKey record, record, getElem?_recordsByKey.2 ⟨rfl, hlast⟩, ?_⟩
    simp only [hb, if_pos hdiv]

/-- Their keys are distinct. -/
theorem pairwise_diverging :
    (diverging as bs).Pairwise fun ra ra' => recordKey ra ≠ recordKey ra' := by
  have hkey {entry : Bytes × MetricRecord} (hentry : entry ∈ (recordsByKey as).toList) :
      recordKey entry.2 = entry.1 :=
    (getElem?_recordsByKey.1 (Std.ExtTreeMap.mem_toList_iff_getElem?_eq_some.1 hentry)).1
  have hrecord {entry : Bytes × MetricRecord} {record : MetricRecord}
      (h : (match (recordsByKey bs)[entry.1]? with
        | none => none
        | some rb => if Diverges entry.2 rb then some entry.2 else none) = some record) :
      entry.2 = record := by
    split at h
    · cases h
    · split at h
      · exact Option.some.inj h
      · cases h
  refine List.pairwise_filterMap.2 (Std.ExtTreeMap.distinct_keys_toList.imp_of_mem ?_)
  intro entry entry' hentry hentry' hne ra hra ra' hra' heq
  rw [← hrecord hra, ← hrecord hra', hkey hentry, hkey hentry'] at heq
  exact hne (Std.LawfulEqCmp.compare_eq_iff_eq.2 heq)

/-! ### Other strings, the same records -/

variable {g : MetricRecord → MetricRecord}

/-- The last records of the keys after a change that keeps which keys are equal. -/
theorem lastOfKey_map
    (hkeys : ∀ r ∈ as, ∀ r' ∈ as, recordKey (g r) = recordKey (g r') ↔ recordKey r = recordKey r')
    {j : ℕ} {record : MetricRecord} :
    LastOfKey (as.map g) j record ↔ ∃ ra, LastOfKey as j ra ∧ g ra = record := by
  simp only [LastOfKey, List.getElem?_map, Option.map_eq_some_iff]
  constructor
  · rintro ⟨⟨ra, hj, rfl⟩, hlast⟩
    refine ⟨ra, ⟨hj, fun k later hk hlater heq => ?_⟩, rfl⟩
    exact hlast k (g later) hk ⟨later, hlater, rfl⟩
      ((hkeys _ (List.mem_of_getElem? hlater) _ (List.mem_of_getElem? hj)).2 heq)
  · rintro ⟨ra, ⟨hj, hlast⟩, rfl⟩
    refine ⟨⟨ra, hj, rfl⟩, ?_⟩
    rintro k _ hk ⟨later, hlater, rfl⟩ heq
    exact hlast k later hk hlater
      ((hkeys _ (List.mem_of_getElem? hlater) _ (List.mem_of_getElem? hj)).1 heq)

/-- **The same records diverge** after a change that keeps which keys are equal and the outcomes. -/
theorem diverging_map
    (hkeys : ∀ r ∈ as ++ bs, ∀ r' ∈ as ++ bs,
      recordKey (g r) = recordKey (g r') ↔ recordKey r = recordKey r')
    (hdiv : ∀ r r', Diverges (g r) (g r') ↔ Diverges r r') :
    (diverging (as.map g) (bs.map g)).Perm ((diverging as bs).map g) := by
  have hkeysA (r : MetricRecord) (hr : r ∈ as) := fun r' hr' =>
    hkeys r (List.mem_append_left bs hr) r' (List.mem_append_left bs hr')
  have hkeysB (r : MetricRecord) (hr : r ∈ bs) := fun r' hr' =>
    hkeys r (List.mem_append_right as hr) r' (List.mem_append_right as hr')
  have hnodup {l : List MetricRecord} (h : l.Pairwise fun r r' => recordKey r ≠ recordKey r') :
      l.Nodup :=
    h.imp fun hne heq => hne (congrArg recordKey heq)
  have hmemA {r : MetricRecord} (hr : r ∈ diverging as bs) : r ∈ as := by
    obtain ⟨⟨j, hlast⟩, -⟩ := mem_diverging.1 hr
    exact List.mem_of_getElem? hlast.1
  have hright : ((diverging as bs).map g).Nodup :=
    hnodup (List.pairwise_map.2 (pairwise_diverging.imp_of_mem fun hr hr' hne heq =>
      hne ((hkeysA _ (hmemA hr) _ (hmemA hr')).1 heq)))
  refine (List.perm_ext_iff_of_nodup (hnodup pairwise_diverging) hright).2 fun record => ?_
  simp only [List.mem_map, mem_diverging, lastOfKey_map hkeysA, lastOfKey_map hkeysB]
  constructor
  · rintro ⟨⟨j, ra, hlast, rfl⟩, _, ⟨k, rb, hlastb, rfl⟩, hkey, hdiverges⟩
    refine ⟨ra, ⟨⟨j, hlast⟩, rb, ⟨k, hlastb⟩, ?_, (hdiv ra rb).1 hdiverges⟩, rfl⟩
    exact (hkeys _ (List.mem_append_right as (List.mem_of_getElem? hlastb.1)) _
      (List.mem_append_left bs (List.mem_of_getElem? hlast.1))).1 hkey
  · rintro ⟨ra, ⟨⟨j, hlast⟩, rb, ⟨k, hlastb⟩, hkey, hdiverges⟩, rfl⟩
    refine ⟨⟨j, ra, hlast, rfl⟩, g rb, ⟨k, rb, hlastb, rfl⟩, ?_, (hdiv ra rb).2 hdiverges⟩
    exact (hkeys _ (List.mem_append_right as (List.mem_of_getElem? hlastb.1)) _
      (List.mem_append_left bs (List.mem_of_getElem? hlast.1))).2 hkey

end Diverging

/-- **The replacement keeps which keys are equal.** -/
def KeepsKeys (f : Bytes → Bytes) (records : List MetricRecord) : Prop :=
  ∀ r ∈ records, ∀ r' ∈ records,
    recordKey (r.respell f) = recordKey (r'.respell f) ↔ recordKey r = recordKey r'

/-- There are as many divergences as before. -/
theorem length_divergences_respell {f : Bytes → Bytes} {as bs : List MetricRecord}
    (hkeys : KeepsKeys f (as ++ bs)) :
    (divergences (as.map (MetricRecord.respell f)) (bs.map (MetricRecord.respell f))).length =
      (divergences as bs).length := by
  rw [length_divergences, length_divergences,
    (diverging_map hkeys fun _ _ => Iff.rfl).length_eq, List.length_map]

/-! ### The table of divergences -/

/-- The outcomes in a divergence are names of outcomes. -/
theorem inert_outcomes {as bs : List MetricRecord} {d : Divergence} (hd : d ∈ divergences as bs) :
    Inert d.aOutcome ∧ Inert d.bOutcome := by
  obtain ⟨entry, -, hentry⟩ := List.mem_filterMap.1 hd
  split at hentry
  · cases hentry
  · split at hentry
    · obtain rfl := Option.some.inj hentry
      exact ⟨inert_outcomeName _, inert_outcomeName _⟩
    · cases hentry

/-- The rows of any two divergences are alike. -/
theorem alike_divergenceRow {d e : Divergence} (hd : Inert d.aOutcome ∧ Inert d.bOutcome)
    (he : Inert e.aOutcome ∧ Inert e.bOutcome) : Alike (divergenceRow d) (divergenceRow e) :=
  (Parallel.startLiteral _ _ |>.hole (inert_htmlEscape _) (inert_htmlEscape _) |>.literal _
    |>.hole (inert_htmlEscape _) (inert_htmlEscape _) |>.literal _
    |>.hole (inert_badgeOf _) (inert_badgeOf _) |>.literal _ |>.hole hd.1 he.1 |>.literal _
    |>.hole (inert_badgeOf _) (inert_badgeOf _) |>.literal _ |>.hole hd.2 he.2 |>.literal _
    |>.hole (inert_htmlEscape _) (inert_htmlEscape _) |>.literal _
    |>.hole (inert_htmlEscape _) (inert_htmlEscape _) |>.literal _).alike rfl

theorem alike_divergenceTable {ds es : List Divergence} (hlength : ds.length = es.length)
    (hds : ∀ d ∈ ds, Inert d.aOutcome ∧ Inert d.bOutcome)
    (hes : ∀ e ∈ es, Inert e.aOutcome ∧ Inert e.bOutcome) :
    Alike (divergenceTable ds) (divergenceTable es) := by
  have hrows : Alike (ds.flatMap divergenceRow) (es.flatMap divergenceRow) :=
    alike_flatMap_of_length hlength fun d hd e he => alike_divergenceRow (hds d hd) (hes e he)
  exact (Parallel.startLiteral _ _ |>.hole (inert_toDecimal _) (inert_toDecimal _) |>.literal _
    |>.literal _ |>.literal _ |>.literal _ |>.literal _ |>.block hrows |>.literal _).alike rfl

theorem inert_reported {sortByTest : List Divergence → List Divergence}
    (hsort : ∀ ds, (sortByTest ds).Perm ds) (a b : Scorecard Double) :
    ∀ d ∈ reported sortByTest a b, Inert d.aOutcome ∧ Inert d.bOutcome :=
  fun _ hd => inert_outcomes ((hsort _).mem_iff.1 hd)

theorem alike_noDivergences : Alike noDivergences noDivergences :=
  (Parallel.startLiteral _ _ |>.literal _ |>.literal _).alike rfl

/-- **The divergences keep their tags** when the keys stay apart. -/
theorem alike_renderDivergences {f : Bytes → Bytes}
    {sortByTest : List Divergence → List Divergence}
    (hsort : ∀ ds, (sortByTest ds).Perm ds) {a b : Scorecard Double}
    (hkeys : KeepsKeys f (a.records ++ b.records)) :
    Alike (renderDivergences sortByTest (a.respell f) (b.respell f))
      (renderDivergences sortByTest a b) := by
  have hlength : (reported sortByTest (a.respell f) (b.respell f)).length =
      (reported sortByTest a b).length := by
    unfold reported
    rw [(hsort _).length_eq, (hsort _).length_eq]
    exact length_divergences_respell hkeys
  have hnil : reported sortByTest (a.respell f) (b.respell f) = [] ↔
      reported sortByTest a b = [] := by
    rw [← List.length_eq_zero_iff, hlength, List.length_eq_zero_iff]
  unfold renderDivergences
  by_cases h : reported sortByTest a b = []
  · rw [if_pos h, if_pos (hnil.2 h)]
    exact alike_noDivergences
  · rw [if_neg h, if_neg (mt hnil.1 h)]
    exact alike_divergenceTable hlength (inert_reported hsort _ _) (inert_reported hsort _ _)

/-! ### The comparison -/

/-- Before the divergences only the names of the implementations are strings of the stores. -/
theorem alike_comparisonHead (f : Bytes → Bytes) (a b : Scorecard Double) :
    Alike (comparisonHead (a.respell f) (b.respell f)) (comparisonHead a b) :=
  (Parallel.startLiteral _ _ |>.literal _ |>.literal _
    |>.hole (inert_htmlEscape _) (inert_htmlEscape _) |>.literal _
    |>.hole (inert_htmlEscape _) (inert_htmlEscape _) |>.literal _ |>.raw sharedReportCss_raw
    |>.literal _ |>.literal _ |>.literal _
    |>.hole (inert_htmlEscape _) (inert_htmlEscape _) |>.literal _
    |>.hole (inert_htmlEscape _) (inert_htmlEscape _) |>.literal _ |>.literal _
    |>.hole (inert_overallVerdict _ _) (inert_overallVerdict _ _) |>.literal _ |>.literal _
    |>.block (alike_renderAxisTable f a b) |>.literal _).alike rfl

theorem alike_comparisonFoot : Alike comparisonFoot comparisonFoot :=
  (Parallel.startLiteral _ _ |>.literal _ |>.literal _ |>.literal _).alike rfl

/-- **The report of two implementations keeps its tags** when the keys stay apart. -/
theorem alike_renderComparisonReport {f : Bytes → Bytes}
    {sortByTest : List Divergence → List Divergence}
    (hsort : ∀ ds, (sortByTest ds).Perm ds) {a b : Scorecard Double}
    (hkeys : KeepsKeys f (a.records ++ b.records)) :
    Alike (renderComparisonReport sortByTest (a.respell f) (b.respell f))
      (renderComparisonReport sortByTest a b) :=
  ((alike_comparisonHead f a b).append (alike_renderDivergences hsort hkeys)).append
    alike_comparisonFoot

/-- **Both reports keep their tags** and the names of their attributes, whatever the strings of the
stores are: when the replacement keeps which strings are empty and which are equal, and for two
stores which keys of their records are equal. -/
theorem report_markup (f : Bytes → Bytes) (sortByTest : List Divergence → List Divergence)
    (hsort : ∀ ds, (sortByTest ds).Perm ds) :
    (∀ card : Scorecard Double, KeepsApart f card.strings →
      tokens (renderSingleReport (card.respell f)) = tokens (renderSingleReport card)) ∧
    ∀ a b : Scorecard Double, KeepsApart f (a.strings ++ b.strings) →
      KeepsKeys f (a.records ++ b.records) →
      tokens (renderComparisonReport sortByTest (a.respell f) (b.respell f)) =
        tokens (renderComparisonReport sortByTest a b) := by
  constructor
  · intro card hf
    refine (alike_renderSingleReport f fun record hrecord => hf.nil_iff _ ?_).tokens_eq
    have hlabel : record.intensityLabel ∈ record.strings := by
      simp only [MetricRecord.strings, List.mem_cons, true_or, or_true]
    exact List.mem_append_right _ (List.mem_flatMap.2 ⟨record, hrecord, hlabel⟩)
  · intro a b _ hkeys
    exact (alike_renderComparisonReport hsort hkeys).tokens_eq

/-- A record whose title is a tag backwards. -/
def backwards (outcome : Outcome) : MetricRecord where
  testId := text "A-06"
  title := text ">tpircs<"
  outcome := outcome

/-- Texts written backwards. -/
theorem report_markup_backwards :
    tokens (renderSingleReport ((scorecardOf [backwards .fail]).respell List.reverse)) =
        tokens (renderSingleReport (scorecardOf [backwards .fail])) ∧
      tokens (renderComparisonReport (sortByKey Divergence.testId)
          ((scorecardOf [backwards .fail]).respell List.reverse)
          ((scorecardOf [backwards .pass]).respell List.reverse)) =
        tokens (renderComparisonReport (sortByKey Divergence.testId)
          (scorecardOf [backwards .fail]) (scorecardOf [backwards .pass])) := by
  have hapart (strings : List Bytes) : KeepsApart List.reverse strings :=
    ⟨fun _ _ => List.reverse_eq_nil_iff, fun _ _ _ _ => List.reverse_inj⟩
  have hkeys : KeepsKeys List.reverse
      ((scorecardOf [backwards .fail]).records ++ (scorecardOf [backwards .pass]).records) := by
    have heq : ∀ r ∈ [backwards .fail, backwards .pass], ∀ r' ∈ [backwards .fail, backwards .pass],
        r.testId = r'.testId ∧ r.intensityLabel = r'.intensityLabel := by decide
    intro r hr r' hr'
    obtain ⟨htest, hlabel⟩ := heq r hr r' hr'
    simp only [recordKey, MetricRecord.respell, htest, hlabel]
  obtain ⟨hsingle, hcomparison⟩ :=
    report_markup List.reverse (sortByKey Divergence.testId) fun ds => List.mergeSort_perm ds _
  exact ⟨hsingle _ (hapart _), hcomparison _ _ (hapart _) hkeys⟩

/-! ### Two records with one key -/

/-- A test whose name ends in a bar. -/
def barInTest : MetricRecord where
  testId := text "A|"
  intensityLabel := text "x"
  outcome := .pass

/-- A label that begins with one. -/
def barInLabel : MetricRecord where
  testId := text "A"
  intensityLabel := text "|x"
  outcome := .fail

/-- Another name for the test. -/
def withoutBar (s : Bytes) : Bytes := if s = text "A|" then text "B" else s

/-- The table begins with a paragraph, the report that there are no divergences with a division. -/
theorem tokens_divergenceTable_ne (ds : List Divergence) :
    tokens (divergenceTable ds) ≠ tokens noDivergences := by
  have hparagraph : run .data (text "<p class=\"sub\">") =
      (.data, [.tag { closing := false, name := text "p", attributes := [text "class"] }]) := by
    decide +kernel
  have hdivision : (run .data
      (text "<div class=\"callout good\">The two implementations produced ")).2 =
      [.tag { closing := false, name := text "div", attributes := [text "class"] }] := by
    decide +kernel
  intro h
  unfold divergenceTable noDivergences tokens at h
  simp only [List.append_assoc, run_append, hparagraph, hdivision, List.singleton_append,
    List.cons.injEq, Token.tag.injEq, Tag.mk.injEq] at h
  have hname : text "p" ≠ text "div" := by decide
  exact hname h.1.2.1

/-- The two records have one key and diverge.  With the other name they have two, and there is no
divergence. -/
theorem shared_key_lost :
    KeepsApart withoutBar
        ((scorecardOf [barInTest]).strings ++ (scorecardOf [barInLabel]).strings) ∧
      tokens (renderComparisonReport (sortByKey Divergence.testId)
          ((scorecardOf [barInTest]).respell withoutBar)
          ((scorecardOf [barInLabel]).respell withoutBar)) ≠
        tokens (renderComparisonReport (sortByKey Divergence.testId)
          (scorecardOf [barInTest]) (scorecardOf [barInLabel])) := by
  have hsort (ds : List Divergence) : (sortByKey Divergence.testId ds).Perm ds :=
    List.mergeSort_perm ds _
  have hnone : divergences [barInTest.respell withoutBar] [barInLabel.respell withoutBar] = [] := by
    decide +kernel
  have hsome : (divergences [barInTest] [barInLabel]).length = 1 := by decide +kernel
  have hlost : renderDivergences (sortByKey Divergence.testId)
      ((scorecardOf [barInTest]).respell withoutBar)
      ((scorecardOf [barInLabel]).respell withoutBar) = noDivergences := by
    refine if_pos (List.perm_nil.1 ?_)
    rw [← hnone]
    exact hsort _
  have hkept : reported (sortByKey Divergence.testId) (scorecardOf [barInTest])
      (scorecardOf [barInLabel]) ≠ [] := by
    have hlength : (reported (sortByKey Divergence.testId) (scorecardOf [barInTest])
        (scorecardOf [barInLabel])).length = 1 := (hsort _).length_eq.trans hsome
    intro h
    rw [h] at hlength
    cases hlength
  have hinert := inert_reported hsort (scorecardOf [barInTest]) (scorecardOf [barInLabel])
  refine ⟨⟨by decide +kernel, by decide +kernel⟩, fun h => ?_⟩
  unfold renderComparisonReport at h
  rw [hlost, renderDivergences, if_neg hkept, List.append_assoc, List.append_assoc,
    (alike_comparisonHead _ _ _).tokens_append_iff, alike_noDivergences.tokens_append,
    (alike_divergenceTable rfl hinert hinert).tokens_append] at h
  exact tokens_divergenceTable_ne _ (List.append_cancel_right h).symm

end TftpHarness
