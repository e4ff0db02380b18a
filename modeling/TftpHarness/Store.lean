/-
**The metrics store and its crashes.**

The store is a file of lines: a header, then one record after the other, each flushed as it is
appended, so that an interrupted run keeps what it has finished.  Loading goes through the lines and
skips those that do not parse.  A crash leaves a prefix of the file.

Main definitions:

* `TftpHarness.MetricsStore`, with `create`, `append` and `load` — the store and its file;
* `TftpHarness.lineEnds` — where the line of each record ends;
* `TftpHarness.Storable` — the records whose numbers the store keeps.

Main results:

* `TftpHarness.loadLine_line`, `TftpHarness.loadLine_torn` — a whole line is read as its record,
  and a torn one not at all;
* `TftpHarness.crash_consistent` — **the store is crash-consistent**.
-/

import TftpHarness.Seed
import TftpHarness.TornText

set_option relaxedAutoImplicit false
set_option autoImplicit false

namespace TftpHarness

/-! ### The store -/

/-- `MetricsStore`, with the contents of its file. -/
structure MetricsStore where
  implementationName : Bytes := []
  records : List MetricRecord := []
  file : Bytes := []
  isOpen : Bool := false

/-- The header that makes the file stand alone. -/
def headerJson (implementationName : Bytes) : JsonValue :=
  JsonValue.object []
    |>.set (text "type") (.string (text "header"))
    |>.set (text "format") (.string (text "tftp-test-harness-metrics/1"))
    |>.set (text "implementation_name") (.string implementationName)

/-- The line of a record. -/
def MetricRecord.line (r : MetricRecord) : Bytes := r.toJson.serialize false

namespace MetricsStore

/-- `MetricsStore::open`, on a path that can be written: the file is truncated and gets its header.
-/
def create (implementationName : Bytes) : MetricsStore where
  implementationName := implementationName
  file := (headerJson implementationName).serialize false ++ [10]
  isOpen := true

/-- `MetricsStore::append`. -/
def append (store : MetricsStore) (r : MetricRecord) : MetricsStore :=
  let store := { store with records := store.records ++ [r] }
  if store.isOpen then { store with file := store.file ++ (r.line ++ [10]) } else store

end MetricsStore

/-- The lines that `std::getline` returns one after the other: without their line breaks, and a last
one without a line break only when it is not empty. -/
def getLines (line : Bytes) : Bytes → List Bytes
  | [] => if line = [] then [] else [line]
  | c :: rest => if c = 10 then line :: getLines [] rest else getLines (line ++ [c]) rest

/-- The body of the loop of `MetricsStore::load`. -/
def loadLine (out : MetricsStore) (line : Bytes) : MetricsStore :=
  if line = [] then out
  else
    match parseJson line with
    | none => out
    | some v =>
        if v.has (text "type") then
          let type := (v.getAt (text "type")).asString
          if type = text "header" then
            if v.has (text "implementation_name") then
              { out with implementationName := (v.getAt (text "implementation_name")).asString }
            else out
          else if type = text "metric" then
            { out with records := out.records ++ [MetricRecord.fromJson v] }
          else out
        else out

/-- `MetricsStore::load`; `none` when the file cannot be opened. -/
def MetricsStore.load (out : MetricsStore) (file : Option Bytes) : Option MetricsStore :=
  match file with
  | none => none
  | some bytes =>
      some ((getLines [] bytes).foldl loadLine { out with records := [], file := bytes })

/-! ### Lines -/

theorem getLines_append (line : Bytes) {s : Bytes} (h : (10 : UInt8) ∉ s) (rest : Bytes) :
    getLines line (s ++ rest) = getLines (line ++ s) rest := by
  induction s generalizing line with
  | nil => rw [List.nil_append, List.append_nil]
  | cons c s ih =>
      rw [List.mem_cons, not_or] at h
      rw [List.cons_append, getLines, if_neg (Ne.symm h.1), ih _ h.2, List.append_assoc,
        List.singleton_append]

/-- A line with its line break is returned, and then the lines after it. -/
theorem getLines_line {s : Bytes} (h : (10 : UInt8) ∉ s) (rest : Bytes) :
    getLines [] (s ++ 10 :: rest) = s :: getLines [] rest := by
  rw [getLines_append [] h, List.nil_append, getLines, if_pos rfl]

/-- A last line without its line break is returned unless it is empty. -/
theorem getLines_last {s : Bytes} (h : (10 : UInt8) ∉ s) :
    getLines [] s = if s = [] then [] else [s] := by
  have happend := getLines_append [] h []
  rwa [List.append_nil, List.nil_append] at happend

theorem newline_notMem_of_printable {s : Bytes} (h : Printable s) : (10 : UInt8) ∉ s := by
  intro hmem
  exact absurd (h 10 hmem) (by decide)

/-! ### Records -/

/-- A measured number that is an integer of at most fifteen digits. -/
def IntegralBelow (x : Double) : Prop := ∃ n : ℤ, |n| < 10 ^ 15 ∧ x = Double.ofInt n

/-- The records whose numbers the store keeps. -/
structure Storable (r : MetricRecord) : Prop where
  seed : r.seed.toNat < 2 ^ 53
  intensity : ∀ x, r.intensity = some x → IntegralBelow x
  counters : ∀ (name : Bytes) (x : Double), r.counters[name]? = some x → IntegralBelow x

theorem reread_measured {x : Double} (h : IntegralBelow x) :
    (measured x).reread = some (.number x true) := by
  obtain ⟨n, hn, rfl⟩ := h
  have hdouble := isDouble_intCast (by omega : |n| < 2 ^ 53)
  rw [Double.ofInt, Double.ofRat_of_isDouble hdouble, measured, JsonValue.reread, rereadNumber,
    formatNumber_finite_int hdouble (Or.inl hn), numberOfToken_signedDecimal (by omega),
    JsonValue.integer, Double.ofInt, Double.ofRat_of_isDouble hdouble]
  rfl

theorem signedSeed_of_small {r : MetricRecord} (h : r.seed.toNat < 2 ^ 53) :
    r.signedSeed = r.seed.toNat := by
  have hsmall : 2 * r.seed.toBitVec.toNat < 2 ^ 64 := by
    change r.seed.toBitVec.toNat < 2 ^ 53 at h
    omega
  exact BitVec.toInt_eq_toNat_of_lt hsmall

/-- Inserting the entries of a map gives the map. -/
theorem insertMany_toList (counters : Counters) :
    (∅ : Counters).insertMany counters.toList = counters := by
  refine Std.ExtTreeMap.ext_getElem? fun key => ?_
  cases hkey : counters[key]? with
  | some x =>
      exact Std.ExtTreeMap.getElem?_insertMany_list_of_mem Std.ReflCmp.compare_self
        Std.ExtTreeMap.distinct_keys_toList
        (Std.ExtTreeMap.mem_toList_iff_getElem?_eq_some.2 hkey)
  | none =>
      rw [Std.ExtTreeMap.getElem?_insertMany_list_of_contains_eq_false,
        Std.ExtTreeMap.getElem?_empty]
      rw [Bool.eq_false_iff]
      intro hcontains
      obtain ⟨entry, hentry, hname⟩ := List.mem_map.1 (List.contains_iff_mem.1 hcontains)
      have hsome := Std.ExtTreeMap.mem_toList_iff_getElem?_eq_some.1 hentry
      rw [hname, hkey] at hsome
      cases hsome

theorem countersOfMembers_toList (counters : Counters) :
    countersOfMembers (counters.toList.map fun c => (c.1, JsonValue.number c.2 true)) =
      counters := by
  conv_rhs => rw [← insertMany_toList counters]
  rw [Std.ExtTreeMap.insertMany_list_eq_foldl, countersOfMembers, List.foldl_map]
  rfl

/-- What the parser makes of the line of a storable record: an object with the members of the
record, from which the record is read. -/
theorem parse_line {r : MetricRecord} (h : Storable r) :
    ∃ intensity seed counters,
      parseJson r.line = some (.object (recordMembers r intensity seed counters)) ∧
        MetricRecord.fromJson (.object (recordMembers r intensity seed counters)) = r := by
  have hsigned := signedSeed_of_small h.seed
  have hsmall : |r.signedSeed| < 2 ^ 53 := by
    rw [hsigned, abs_of_nonneg (by positivity)]
    exact_mod_cast h.seed
  have hseedvalue : (Int64.ofInt (JsonValue.integer r.signedSeed).asInteger).toUInt64 = r.seed := by
    obtain ⟨hlow, hhigh⟩ := signedSeed_bounds r
    have hvalue : (JsonValue.integer r.signedSeed).asInteger = r.signedSeed := by
      rw [JsonValue.integer, Double.ofInt, Double.ofRat_of_isDouble (isDouble_intCast hsmall)]
      exact Double.toInt64_of_int rfl hlow hhigh
    rw [hvalue, toUInt64_eq_seed_iff r hlow hhigh]
  have hintensity : Option.Rel (fun x v => (measured x).reread = some v) r.intensity
      (r.intensity.map fun x => .number x true) := by
    cases hx : r.intensity with
    | none => exact .none
    | some x => exact .some (reread_measured (h.intensity x hx))
  have hcounters : List.Forall₂ CounterReadsBack r.counters.toList
      (r.counters.toList.map fun c => (c.1, JsonValue.number c.2 true)) := by
    rw [List.forall₂_map_right_iff, List.forall₂_same]
    intro counter hmem
    exact ⟨rfl, reread_measured (h.counters counter.1 counter.2
      (Std.ExtTreeMap.mem_toList_iff_getElem?_eq_some.1 hmem))⟩
  refine ⟨_, _, _, parse_toJson false hintensity (reread_integer hsmall) hcounters, ?_⟩
  have hsame : intensityOf (r.intensity.map fun x => JsonValue.number x true) = r.intensity := by
    cases r.intensity <;> rfl
  rw [fromJson_recordMembers, hsame, hseedvalue, JsonValue.members,
    countersOfMembers_toList r.counters]

theorem line_ne_nil (r : MetricRecord) : r.line ≠ [] := by
  obtain ⟨c, rest, hcons, -⟩ := startsElement_serializeInto false 0 r.toJson
  rw [MetricRecord.line, JsonValue.serialize, hcons]
  exact List.cons_ne_nil _ _

/-- **A whole line is read as its record.** -/
theorem loadLine_line {r : MetricRecord} (h : Storable r) (out : MetricsStore) :
    loadLine out r.line = { out with records := out.records ++ [r] } := by
  obtain ⟨intensity, seed, counters, hparse, hread⟩ := parse_line h
  have htype : (text "type", JsonValue.string (text "metric")) ∈
      recordMembers r intensity seed counters := by
    simp [recordMembers]
  have hnotHeader : text "metric" ≠ text "header" := by decide +kernel
  unfold loadLine
  rw [if_neg (line_ne_nil r), hparse]
  dsimp only
  rw [JsonValue.has_of_mem htype, JsonValue.getAt_of_mem (nodup_recordMembers ..) htype, hread]
  simp only [JsonValue.asString, if_neg hnotHeader, if_true]

/-- **A torn line is not read at all.** -/
theorem loadLine_torn {r : MetricRecord} {p q : Bytes} (hsplit : r.line = p ++ q) (hq : q ≠ [])
    (out : MetricsStore) : loadLine out p = out := by
  unfold loadLine
  split
  · rfl
  · rw [MetricRecord.line, toJson_eq] at hsplit
    rw [parseJson_torn hsplit hq]

/-! ### The header -/

/-- The members of the header. -/
def headerMembers (implementationName : Bytes) : List (Bytes × JsonValue) :=
  [(text "type", .string (text "header")),
    (text "format", .string (text "tftp-test-harness-metrics/1")),
    (text "implementation_name", .string implementationName)]

theorem nodup_headerMembers (implementationName : Bytes) :
    ((headerMembers implementationName).map Prod.fst).Nodup := by
  have hkeys : [text "type", text "format", text "implementation_name"].Nodup := by decide +kernel
  exact hkeys

theorem headerJson_eq (implementationName : Bytes) :
    headerJson implementationName = .object (headerMembers implementationName) := by
  rw [← JsonValue.foldl_set_empty (nodup_headerMembers implementationName)]
  rfl

theorem loadLine_header (implementationName : Bytes) (out : MetricsStore) :
    loadLine out ((headerJson implementationName).serialize false) =
      { out with implementationName := implementationName } := by
  have hreads : List.Forall₂ MemberReadsBack (headerMembers implementationName)
      (headerMembers implementationName) := by
    have hstring : ∀ key value, MemberReadsBack (key, .string value) (key, .string value) :=
      fun key value => ⟨rfl, by rw [JsonValue.reread]⟩
    exact .cons (hstring _ _) (.cons (hstring _ _) (.cons (hstring _ _) .nil))
  have hparse : parseJson ((headerJson implementationName).serialize false) =
      some (.object (headerMembers implementationName)) := by
    rw [parseJson_serialize, headerJson_eq, reread_object (nodup_headerMembers _) hreads]
  have htype : (text "type", JsonValue.string (text "header")) ∈
      headerMembers implementationName := by
    simp [headerMembers]
  have hname : (text "implementation_name", JsonValue.string implementationName) ∈
      headerMembers implementationName := by
    simp [headerMembers]
  have hne : (headerJson implementationName).serialize false ≠ [] := by
    obtain ⟨c, rest, hcons, -⟩ := startsElement_serializeInto false 0
      (headerJson implementationName)
    rw [JsonValue.serialize, hcons]
    exact List.cons_ne_nil _ _
  unfold loadLine
  rw [if_neg hne, hparse]
  dsimp only
  rw [JsonValue.has_of_mem htype, JsonValue.getAt_of_mem (nodup_headerMembers _) htype,
    JsonValue.has_of_mem hname, JsonValue.getAt_of_mem (nodup_headerMembers _) hname]
  simp only [JsonValue.asString, if_true]

theorem loadLine_torn_header {implementationName p q : Bytes}
    (hsplit : (headerJson implementationName).serialize false = p ++ q) (hq : q ≠ [])
    (out : MetricsStore) : loadLine out p = out := by
  unfold loadLine
  split
  · rfl
  · rw [headerJson_eq] at hsplit
    rw [parseJson_torn hsplit hq]

/-! ### Crashes -/

/-- The part of the file that a sequence of lines takes. -/
def linesText (lines : List Bytes) : Bytes := lines.flatMap (· ++ [10])

/-- The records, each with the position in the file at which its line ends, its line break not
counted. -/
def lineEnds (start : ℕ) : List MetricRecord → List (MetricRecord × ℕ)
  | [] => []
  | r :: rs => (r, start + r.line.length) :: lineEnds (start + r.line.length + 1) rs

/-- The file after the store was opened and records were appended. -/
def storeFile (implementationName : Bytes) (rs : List MetricRecord) : Bytes :=
  (rs.foldl MetricsStore.append (MetricsStore.create implementationName)).file

theorem storeFile_eq (implementationName : Bytes) (rs : List MetricRecord) :
    storeFile implementationName rs =
      (headerJson implementationName).serialize false ++
        10 :: linesText (rs.map MetricRecord.line) := by
  have happend : ∀ (rs : List MetricRecord) (store : MetricsStore), store.isOpen = true →
      (rs.foldl MetricsStore.append store).file =
        store.file ++ linesText (rs.map MetricRecord.line) := by
    intro rs
    induction rs with
    | nil =>
        intro store _
        exact (List.append_nil _).symm
    | cons r rs ih =>
        intro store hopen
        have hstep : (store.append r).isOpen = true ∧
            (store.append r).file = store.file ++ (r.line ++ [10]) := by
          simp only [MetricsStore.append, hopen, if_true, and_self]
        rw [List.foldl_cons, ih _ hstep.1, hstep.2, List.append_assoc]
        rfl
  rw [storeFile, happend rs _ rfl, MetricsStore.create, List.append_assoc, List.singleton_append]

/-- No line ends before the position at which the first of them starts. -/
theorem le_lineEnds {start : ℕ} {rs : List MetricRecord} {e : MetricRecord × ℕ}
    (h : e ∈ lineEnds start rs) : start ≤ e.2 := by
  induction rs generalizing start with
  | nil => cases h
  | cons r rs ih =>
      rcases List.mem_cons.1 h with rfl | h
      · exact Nat.le_add_right _ _
      · have := ih h
        omega

theorem filter_lineEnds_of_lt {start k : ℕ} (h : k < start) (rs : List MetricRecord) :
    (lineEnds start rs).filter (fun e => e.2 ≤ k) = [] := by
  rw [List.filter_eq_nil_iff]
  intro e he
  have := le_lineEnds he
  simp only [decide_eq_true_eq]
  omega

/-- Loading the lines of records up to a cut gives the records whose lines end before it. -/
theorem load_cut_lines {rs : List MetricRecord} (h : ∀ r ∈ rs, Storable r) (start n : ℕ)
    (out : MetricsStore) :
    (getLines [] ((linesText (rs.map MetricRecord.line)).take n)).foldl loadLine out =
      { out with
        records := out.records ++
          ((lineEnds start rs).filter (fun e => e.2 ≤ start + n)).map Prod.fst } := by
  induction rs generalizing start n out with
  | nil =>
      rw [List.map_nil, linesText, List.flatMap_nil, List.take_nil, lineEnds]
      simp [getLines]
  | cons r rs ih =>
      have hprintable : (10 : UInt8) ∉ r.line :=
        newline_notMem_of_printable (printable_serialize r.toJson)
      have htext : linesText ((r :: rs).map MetricRecord.line) =
          r.line ++ 10 :: linesText (rs.map MetricRecord.line) := by
        rw [List.map_cons, linesText, List.flatMap_cons, List.append_assoc, List.singleton_append]
        rfl
      rw [htext, lineEnds]
      rcases lt_trichotomy n r.line.length with hlt | heq | hgt
      · -- the cut falls into the line: what is left of it is not read
        have htorn : r.line = r.line.take n ++ r.line.drop n := (List.take_append_drop n _).symm
        have hnot : (10 : UInt8) ∉ r.line.take n := fun hmem =>
          hprintable (List.mem_of_mem_take hmem)
        have hdrop : r.line.drop n ≠ [] := by
          rw [ne_eq, List.drop_eq_nil_iff]
          omega
        rw [List.take_append_of_le_length (le_of_lt hlt), getLines_last hnot,
          List.filter_cons_of_neg (by simpa using hlt),
          filter_lineEnds_of_lt (by omega) rs]
        split
        · simp
        · rw [List.foldl_cons, List.foldl_nil, loadLine_torn htorn hdrop]
          simp
      · -- the line is whole, only its line break is missing
        rw [heq, List.take_left, getLines_last hprintable, if_neg (line_ne_nil r), List.foldl_cons,
          List.foldl_nil, loadLine_line (h r (List.mem_cons_self ..)),
          List.filter_cons_of_pos (by simp), filter_lineEnds_of_lt (by omega) rs]
        rfl
      · obtain ⟨m, rfl⟩ : ∃ m, n = r.line.length + (m + 1) := ⟨n - r.line.length - 1, by omega⟩
        rw [List.take_length_add_append, List.take_succ_cons, getLines_line hprintable,
          List.foldl_cons, loadLine_line (h r (List.mem_cons_self ..)),
          ih (fun r' hr' => h r' (List.mem_cons_of_mem _ hr')) (start + r.line.length + 1),
          List.filter_cons_of_pos (by simp), List.map_cons, List.append_assoc,
          List.singleton_append]
        have hend : start + r.line.length + 1 + m = start + (r.line.length + (m + 1)) := by omega
        rw [hend]

/-- **The store is crash-consistent**: of the file cut at any position, loading returns the records
whose lines lie wholly in what is left, in order, and nothing else. -/
theorem crash_consistent (implementationName : Bytes) (rs : List MetricRecord)
    (h : ∀ r ∈ rs, Storable r) (k : ℕ) (out : MetricsStore) :
    ∃ loaded, MetricsStore.load out (some ((storeFile implementationName rs).take k)) =
      some loaded ∧
      loaded.records =
        ((lineEnds ((headerJson implementationName).serialize false ++ [10]).length rs).filter
          (fun e => e.2 ≤ k)).map Prod.fst := by
  set header := (headerJson implementationName).serialize false with hheader
  have hprintable := newline_notMem_of_printable
    (printable_serialize (headerJson implementationName))
  refine ⟨_, rfl, ?_⟩
  rw [storeFile_eq, ← hheader, List.length_append, List.length_singleton]
  rcases lt_or_ge k (header.length + 1) with hlt | hge
  · -- the cut falls into the header or before its line break
    have htake : (header ++ 10 :: linesText (rs.map MetricRecord.line)).take k = header.take k :=
      List.take_append_of_le_length (by omega)
    have hnot : (10 : UInt8) ∉ header.take k := fun hmem => hprintable (List.mem_of_mem_take hmem)
    rw [htake, getLines_last hnot, filter_lineEnds_of_lt hlt rs]
    split
    · rfl
    · rcases Nat.lt_succ_iff_lt_or_eq.1 hlt with hcut | hwhole
      · have hdrop : header.drop k ≠ [] := by
          rw [ne_eq, List.drop_eq_nil_iff]
          omega
        rw [List.foldl_cons, List.foldl_nil,
          loadLine_torn_header (List.take_append_drop k header).symm hdrop]
        rfl
      · rw [hwhole, List.take_length, List.foldl_cons, List.foldl_nil, hheader, loadLine_header]
        rfl
  · obtain ⟨m, rfl⟩ : ∃ m, k = header.length + (m + 1) := ⟨k - header.length - 1, by omega⟩
    rw [List.take_length_add_append, List.take_succ_cons, getLines_line hprintable, List.foldl_cons,
      hheader, loadLine_header, load_cut_lines h (header.length + 1)]
    have hend : header.length + 1 + m = header.length + (m + 1) := by omega
    rw [hend, ← hheader]
    rfl

/-- A download that passed, with two counters. -/
def downloadRecord : MetricRecord where
  testId := text "A-01"
  title := text "Octet download"
  rfcClause := text "RFC 1350"
  outcome := .pass
  seed := 7
  narrative := text "identical"
  counters := (∅ : Counters).insert (text "bytes") (Double.ofInt 1500)
    |>.insert (text "blocks") (Double.ofInt 3)
  implementationName := text "reference"

/-- A transfer that failed at a fifth of the datagrams lost. -/
def lossRecord : MetricRecord where
  testId := text "F-02"
  title := text "Loss"
  outcome := .fail
  intensity := some (Double.ofInt 20)
  intensityLabel := text "20%"
  seed := 41
  narrative := text "gave up:\t\"no ACK\""
  ungracefulFailure := true

theorem storable_downloadRecord : Storable downloadRecord where
  seed := by decide
  intensity _ hx := by cases hx
  counters name x hx := by
    simp only [downloadRecord, Std.ExtTreeMap.getElem?_insert] at hx
    split at hx
    · exact ⟨3, by decide, (Option.some.inj hx).symm⟩
    · split at hx
      · exact ⟨1500, by decide, (Option.some.inj hx).symm⟩
      · rw [Std.ExtTreeMap.getElem?_empty] at hx
        cases hx

theorem storable_lossRecord : Storable lossRecord where
  seed := by decide
  intensity _ hx := ⟨20, by decide, (Option.some.inj hx).symm⟩
  counters name x hx := by
    rw [show lossRecord.counters = ∅ from rfl, Std.ExtTreeMap.getElem?_empty] at hx
    cases hx

/-- Three records, and a crash in the middle of the third line. -/
theorem crash_consistent_third_line :
    ∃ loaded, MetricsStore.load {}
        (some ((storeFile (text "reference") [downloadRecord, lossRecord, downloadRecord]).take
          700)) = some loaded ∧
      loaded.records = [downloadRecord, lossRecord] := by
  have hstorable : ∀ r ∈ [downloadRecord, lossRecord, downloadRecord], Storable r := by
    simp [storable_downloadRecord, storable_lossRecord]
  obtain ⟨loaded, hload, hrecords⟩ := crash_consistent (text "reference") _ hstorable 700 {}
  -- the lines end at 389, 667 and 966
  have hheader : ((headerJson (text "reference")).serialize false ++ [10]).length = 91 := by
    decide +kernel
  have hdownload : downloadRecord.line.length = 298 := by decide +kernel
  have hloss : lossRecord.line.length = 277 := by decide +kernel
  refine ⟨loaded, hload, hrecords.trans ?_⟩
  rw [hheader]
  simp [lineEnds, hdownload, hloss]

end TftpHarness
