import Granary.Compile.Statement
import Granary.Proofs.Data.Record
import Granary.Proofs.Text.Part

/-!
# Requests that are written and read again

A request is read leniently, from older names, nulls and loosely typed values, and written in one
form only.  Reading what was written gives the request again, but for one thing: a metric whose
aggregation was not known has become one that counts, and is read as such.  Nothing that a request
compiles to depends on the difference.

A request that was read has metrics with trimmed columns and without a bar, and a positive limit
(`Request.IsWritten`), and this is what the way back needs.
-/

namespace Granary

open Outcome
open Data (Choice Decoder Fields)

/-! ## Scalars, lists and choices -/

namespace Data

variable {α β : Type}

theorem listOf_map {d : Decoder Json β} {write : α → Json} {f : α → β} {xs : List α}
    (h : ∀ x ∈ xs, d (write x) = .ok (f x)) :
    listOf d (.array (xs.map write)) = .ok (xs.map f) := by
  show (xs.map write).mapM d = _
  induction xs with
  | nil => rfl
  | cons x rest ih =>
    obtain ⟨hx, hrest⟩ := List.forall_mem_cons.1 h
    rw [List.map_cons, List.mapM_cons, hx, ih hrest]
    rfl

/-- A list is not null. -/
theorem nullOr_listOf_map {d : Decoder Json α} {write : α → Json} {xs : List α}
    (h : ∀ x ∈ xs, d (write x) = .ok x) :
    nullOr [] (listOf d) (.array (xs.map write)) = .ok xs := by
  have hlist := listOf_map (f := id) h
  rwa [List.map_id] at hlist

theorem Choice.decode_name {c : Choice α} {name : String} {a : α} (h : c.named? name = some a) :
    c.decode (Json.string name) = .ok a := by
  show c.ofName name = _
  rw [ofName, h]

theorem forall_of_nullOr_listOf {P : α → Prop} {d : Decoder Json α} {v : Json} {xs : List α}
    (hd : ∀ {v a}, d v = .ok a → P a) (h : nullOr [] (listOf d) v = .ok xs) : ∀ x ∈ xs, P x := by
  unfold nullOr listOf at h
  split at h
  · rw [← Except.ok.inj h]
    exact fun x hx => absurd hx List.not_mem_nil
  · split at h
    · exact forall_of_mapM (fun v _ a hv => hd hv) h
    · cases h

theorem forall_of_optional {P : α → Prop} {d : Decoder Json α} {v : Json} {a? : Option α}
    (hd : ∀ {v a}, d v = .ok a → P a) (h : optional d v = .ok a?) : ∀ a ∈ a?, P a := by
  unfold optional at h
  split at h
  · rw [← Except.ok.inj h]
    exact fun a ha => absurd ha (Option.not_mem_none a)
  · cases hv : d v with
    | error e =>
      rw [hv] at h
      cases h
    | ok a =>
      rw [hv] at h
      rw [← Except.ok.inj h]
      exact fun b hb => Option.some.inj hb ▸ hd hv

/-- A text, or null where there is none. -/
theorem optional_text (s? : Option String) :
    optional text (Json.ofOption .string s?) = .ok s? := by
  cases s? with
  | none => rfl
  | some s => rfl

end Data

/-! ## Metrics -/

namespace Metric

/-- The column can be told from the aggregation once the metric is written. -/
structure IsWritten (m : Metric) : Prop where
  trimmed : Text.trim m.column = m.column
  nonempty : m.column ≠ ""
  unbarred : '|' ∉ m.column.toList

/-- The metric with an aggregation that is known. -/
def settled (m : Metric) : Metric := { m with fallback := false }

theorem IsWritten.settled {m : Metric} (h : m.IsWritten) : m.settled.IsWritten :=
  ⟨h.trimmed, h.nonempty, h.unbarred⟩

theorem isWritten_of_parse {s : String} {m : Metric} (h : parse s = .ok m) : m.IsWritten := by
  have hcut : '|' ∉ ((Text.cut "|" s).getD (s, "")).1.toList := by
    have hbar : "|".toList = ['|'] := rfl
    rw [Text.cut, hbar]
    cases hcut : Text.cutAt ['|'] s.toList with
    | none => exact Text.cutAt_singleton_eq_none_iff.1 hcut
    | some cut =>
      rw [Option.map_some, Option.getD_some, String.toList_ofList]
      exact Text.not_mem_of_cutAt hcut
  have hwritten : ∀ aggregation fallback,
      Text.trim ((Text.cut "|" s).getD (s, "")).1 ≠ "" →
        IsWritten ⟨Text.trim ((Text.cut "|" s).getD (s, "")).1, aggregation, fallback⟩ := by
    intro aggregation fallback hne
    refine ⟨Text.trim_trim _, hne, fun hmem => hcut ?_⟩
    rw [Text.trim, String.toList_ofList] at hmem
    exact Text.mem_of_mem_trimChars hmem
  unfold parse at h
  dsimp only at h
  split at h
  · cases h
  · rename_i hne
    rw [String.isEmpty_iff] at hne
    split at h
    · rw [← Except.ok.inj h]
      exact hwritten _ _ hne
    · rw [← Except.ok.inj h]
      exact hwritten _ _ hne

/-- The names of aggregations are trimmed and in upper case. -/
theorem asciiUpper_aggregationName (a : Sql.Aggregation) :
    Text.asciiUpper (Text.trim (aggregationName a)) = aggregationName a := by
  cases a with
  | _ => decide +kernel

theorem aggregation?_aggregationName (a : Sql.Aggregation) :
    aggregation? (aggregationName a) = some a := by
  cases a with
  | _ => rfl

theorem parse_text {m : Metric} (h : m.IsWritten) : parse m.text = .ok m.settled := by
  have hcut : Text.cut "|" m.text = some (m.column, aggregationName m.aggregation) := by
    have hbar : "|".toList = ['|'] := rfl
    rw [Text.cut, hbar, text, String.toList_append, String.toList_append, hbar, List.append_assoc,
      List.singleton_append, Text.cutAt_singleton_append h.unbarred, Option.map_some,
      String.ofList_toList, String.ofList_toList]
  have hne : ¬ m.column.isEmpty = true := by
    rw [String.isEmpty_iff]
    exact h.nonempty
  rw [parse, hcut]
  simp only [Option.getD_some, h.trimmed, if_neg hne, asciiUpper_aggregationName,
    aggregation?_aggregationName]
  rfl

theorem decode_string (s : String) : decode (.string s) = (parse s).mapError .refused := by
  simp only [decode, pure_bind]

theorem isWritten_of_decode {v : Json} {m : Metric} (h : decode v = .ok m) : m.IsWritten := by
  have hparse : ∀ {s : String}, (parse s).mapError Data.Fault.refused = .ok m → m.IsWritten :=
    fun hs => isWritten_of_parse (mapError_eq_ok.1 hs)
  unfold decode at h
  split at h
  · rw [pure_bind] at h
    exact hparse h
  · obtain ⟨s, _, hs⟩ := bind_eq_ok.1 h
    exact hparse hs

theorem decode_toJson {m : Metric} (h : m.IsWritten) : decode m.toJson = .ok m.settled := by
  rw [toJson, decode_string, parse_text h]
  rfl

end Metric

/-! ## Joins and filters -/

namespace Requested

theorem asciiUpper_name (kind : Sql.JoinKind) :
    Text.asciiUpper (Text.trim kind.name) = kind.name := by
  cases kind with
  | _ => decide +kernel

theorem joinKind_name (kind : Sql.JoinKind) : joinKind kind.name = .ok kind := by
  rw [joinKind, asciiUpper_name]
  cases kind with
  | _ => rfl

theorem decodeJoinKind_name (kind : Sql.JoinKind) :
    decodeJoinKind (.string kind.name) = .ok kind := by
  show (joinKind kind.name).mapError Data.Fault.refused = _
  rw [joinKind_name]
  rfl

theorem JoinOn.decode_toJson (on : JoinOn) : JoinOn.decode on.toJson = .ok on := by
  have hnodup : ([("left", Json.string on.left), ("right", .string on.right)].map (·.1)).Nodup := by
    simp
  have hleft := Json.field?_ofFields hnodup (f := ("left", .string on.left)) (by simp)
  have hright := Json.field?_ofFields hnodup (f := ("right", .string on.right)) (by simp)
  refine Data.record_of_reads (by unfold Data.Rule.Distinct; decide) ["left", "right"] rfl (by simp)
    ?_
  refine .seq (.map mk (Fields.reads_field (d := Data.text) hleft rfl)) ?_
  exact Fields.reads_field (d := Data.text) hright rfl

theorem Join.decode_toJson (j : Join) : Join.decode j.toJson = .ok j := by
  have hnames : (([("table", Json.string j.table), ("join_type", .string j.kind.name)] ++
      j.on.toList.map (fun on => ("on", on.toJson))).map (·.1)).Sublist
        ["table", "join_type", "on"] := by
    rw [List.map_append]
    exact (List.Sublist.refl ["table", "join_type"]).append (Json.names_sublist _ _ j.on)
  have hget := Json.field?_ofFields_eq (hnames.nodup (by decide))
  have htable := hget "table" (some (.string j.table)) (by simp [eq_comm])
  have hkind := hget "join_type" (some (.string j.kind.name)) (by simp [eq_comm])
  have hon := hget "on" (j.on.map (·.toJson)) (by simp)
  refine Data.record_of_reads (by unfold Data.Rule.Distinct; decide) _ rfl hnames.subset ?_
  refine .seq (.seq (.map mk (Fields.reads_field (d := Data.text) htable rfl)) ?_) ?_
  · exact Fields.reads_fieldOr hkind (decodeJoinKind_name j.kind)
  · refine Fields.reads_fieldOr_none hon fun on _ => ?_
    show (JoinOn.decode on.toJson).map some = _
    rw [on.decode_toJson]
    rfl

end Requested

namespace Filter

theorem named?_operator (o : Operator) : Operator.choice.named? o.name = some o := by
  cases o with
  | _ => rfl

theorem named?_logic (l : Logic) : Logic.choice.named? l.name = some l := by
  cases l with
  | _ => rfl

theorem named?_mode (m : Mode) : Mode.choice.named? m.name = some m := by
  cases m with
  | _ => rfl

theorem decode_toJson (f : Filter) : decode f.toJson = .ok f := by
  have hnodup : ([("column", Json.ofOption .string f.column), ("operator", .string f.operator.name),
      ("value", f.value), ("logic", .string f.logic.name),
      ("mode", .string f.mode.name)].map (·.1)).Nodup := by
    simp
  have hget := fun e => Json.field?_ofFields hnodup (f := e)
  have hcolumn := hget ("column", _) List.mem_cons_self
  have hoperator := hget ("operator", _) (List.mem_of_mem_drop (i := 1) List.mem_cons_self)
  have hvalue := hget ("value", _) (List.mem_of_mem_drop (i := 2) List.mem_cons_self)
  have hlogic := hget ("logic", _) (List.mem_of_mem_drop (i := 3) List.mem_cons_self)
  have hmode := hget ("mode", _) (List.mem_of_mem_drop (i := 4) List.mem_cons_self)
  refine Data.record_of_reads (by unfold Data.Rule.Distinct; decide)
    ["column", "operator", "value", "logic", "mode"] rfl (by simp) ?_
  refine .seq (.seq (.seq (.seq (.map mk ?_) ?_) ?_) ?_) ?_
  · exact Fields.reads_fieldOr hcolumn (Data.optional_text f.column)
  · exact Fields.reads_fieldOr hoperator (Data.Choice.decode_name (named?_operator f.operator))
  · exact Fields.reads_fieldOr (d := Json.asIs) hvalue rfl
  · exact Fields.reads_fieldOr hlogic (Data.Choice.decode_name (named?_logic f.logic))
  · exact Fields.reads_fieldOr hmode (Data.Choice.decode_name (named?_mode f.mode))

/-- Filters are written as objects, so none of them is passed over. -/
theorem decodeAll_toJson (fs : List Filter) : decodeAll (.array (fs.map toJson)) = .ok fs := by
  have hlist := Data.listOf_map (f := id) (fun f (_ : f ∈ fs) => f.decode_toJson)
  rw [List.map_id] at hlist
  rw [decodeAll, List.filter_eq_self.2]
  · exact hlist
  · intro item hitem
    obtain ⟨f, _, rfl⟩ := List.mem_map.1 hitem
    rfl

end Filter

/-! ## Periods -/

theorem Granularity.named?_name (g : Granularity) : choice.named? g.name = some g := by
  cases g with
  | _ => rfl

theorem DisplayFormat.named?_name (d : DisplayFormat) : choice.named? d.name = some d := by
  cases d with
  | _ => rfl

/-! ## Requests -/

namespace Request

/-- What can be written so that it is read again. -/
structure IsWritten (r : Request) : Prop where
  metrics : ∀ m ∈ r.metrics, m.IsWritten
  ranking : ∀ m ∈ r.ranking, m.IsWritten
  top : ∀ n ∈ r.top, 0 < n

/-- The request with aggregations that are known. -/
def settled (r : Request) : Request :=
  { r with metrics := r.metrics.map (·.settled), ranking := r.ranking.map (·.settled) }

theorem pos_of_positiveCount {v : Json} {n : Nat} (h : positiveCount v = some n) : 0 < n := by
  unfold positiveCount at h
  split at h
  · exact of_decide_eq_true (Option.filter_eq_some_iff.1 h).2
  · exact of_decide_eq_true (Option.filter_eq_some_iff.1 h).2
  · cases h

theorem positiveCount_nat {n : Nat} (h : 0 < n) : positiveCount (Json.nat n) = some n := by
  simp [positiveCount, Json.nat, Number.asNat?, h]

theorem isWritten_of_decode {v : Json} {r : Request} (h : decode v = .ok r) : r.IsWritten := by
  obtain ⟨get, hbuild⟩ := Data.build_of_record h
  -- The fields are taken off from the last one to the first.
  obtain ⟨_, hranked, display, _, hdisplay⟩ := Fields.build_seq.1 hbuild
  obtain ⟨_, htopped, ranking, hranking, rfl⟩ := Fields.build_seq.1 hranked
  obtain ⟨_, hfiltered, top, htop, rfl⟩ := Fields.build_seq.1 htopped
  obtain ⟨_, hdated, dateFilter, _, rfl⟩ := Fields.build_seq.1 hfiltered
  obtain ⟨_, hgathered, dateColumn, _, rfl⟩ := Fields.build_seq.1 hdated
  obtain ⟨_, hkept, granularity, _, rfl⟩ := Fields.build_seq.1 hgathered
  obtain ⟨_, hjoined, filters, _, rfl⟩ := Fields.build_seq.1 hkept
  obtain ⟨_, hmeasured, joins, _, rfl⟩ := Fields.build_seq.1 hjoined
  obtain ⟨_, hgrouped, metrics, hmetrics, rfl⟩ := Fields.build_seq.1 hmeasured
  obtain ⟨_, hnamed, dimensions, _, rfl⟩ := Fields.build_seq.1 hgrouped
  obtain ⟨table, _, rfl⟩ := Fields.build_map.1 hnamed
  subst hdisplay
  refine ⟨?_, ?_, ?_⟩
  · obtain rfl | ⟨v, hv⟩ := Fields.cases_of_fieldOr hmetrics
    · exact fun m hm => absurd hm List.not_mem_nil
    · exact Data.forall_of_nullOr_listOf Metric.isWritten_of_decode hv
  · obtain rfl | ⟨v, hv⟩ := Fields.cases_of_fieldOr hranking
    · exact fun m hm => absurd hm (Option.not_mem_none m)
    · exact Data.forall_of_optional Metric.isWritten_of_decode hv
  · obtain rfl | ⟨v, hv⟩ := Fields.cases_of_fieldOr htop
    · exact fun n hn => absurd hn (Option.not_mem_none n)
    · exact fun n hn => pos_of_positiveCount ((Except.ok.inj hv).trans hn)

/-- The details of a date filter around its column. -/
def dateFilterJson (column : Option String) : Json :=
  Json.ofFields [("column", Json.ofOption .string column)]

theorem decodeDateFilter_toJson (column : Option String) :
    decodeDateFilter (dateFilterJson column) = .ok column := by
  have hnodup : ([("column", Json.ofOption .string column)].map (·.1)).Nodup := by simp
  have hget := Json.field?_ofFields hnodup List.mem_cons_self
  refine Data.record_of_reads (by unfold Data.Rule.Distinct; decide) ["column"] rfl (by simp) ?_
  exact .map id (Fields.reads_fieldOption hget (Data.optional_text column))

/-- The fields that are written. -/
def entries (r : Request) : List (String × Json) :=
  [("table", .string r.table), ("dimensions", Json.strings r.dimensions),
    ("metrics", .array (r.metrics.map Metric.toJson)),
    ("joins", .array (r.joins.map Requested.Join.toJson)),
    ("filters", .array (r.filters.map Filter.toJson)),
    ("granularity", .string r.granularity.name), ("display_format", .string r.display.name)] ++
  r.dateColumn.toList.map (fun c => ("date_column", .string c)) ++
  r.dateFilter.toList.map (fun c => ("date_filter_details", dateFilterJson c)) ++
  r.top.toList.map (fun n => ("topN", Json.nat n)) ++
  r.ranking.toList.map (fun m => ("topN_metric", m.toJson))

theorem names_entries (r : Request) : (r.entries.map (·.1)).Sublist ["table", "dimensions",
    "metrics", "joins", "filters", "granularity", "display_format", "date_column",
    "date_filter_details", "topN", "topN_metric"] := by
  rw [entries, List.map_append, List.map_append, List.map_append, List.map_append]
  exact ((((List.Sublist.refl _).append (Json.names_sublist _ _ _)).append
    (Json.names_sublist _ _ _)).append (Json.names_sublist _ _ _)).append
    (Json.names_sublist _ _ _)

/-- A request that can be written is read as what it was, with aggregations that are known. -/
theorem decode_toJson_of_isWritten {r : Request} (h : r.IsWritten) :
    decode r.toJson = .ok r.settled := by
  have hget := Json.field?_ofFields_eq (r.names_entries.nodup (by decide))
  have htable := hget "table" (some (.string r.table)) (by simp [entries, eq_comm])
  have hdimensions := hget "dimensions" (some (Json.strings r.dimensions))
    (by simp [entries, eq_comm])
  have hmetrics := hget "metrics" (some (.array (r.metrics.map Metric.toJson)))
    (by simp [entries, eq_comm])
  have hjoins := hget "joins" (some (.array (r.joins.map Requested.Join.toJson)))
    (by simp [entries, eq_comm])
  have hfilters := hget "filters" (some (.array (r.filters.map Filter.toJson)))
    (by simp [entries, eq_comm])
  have hgranularity := hget "granularity" (some (.string r.granularity.name))
    (by simp [entries, eq_comm])
  have hdateColumn := hget "date_column" (r.dateColumn.map .string) (by simp [entries])
  have hdateFilter := hget "date_filter_details" (r.dateFilter.map dateFilterJson)
    (by simp [entries])
  have htop := hget "topN" (r.top.map Json.nat) (by simp [entries])
  have hranking := hget "topN_metric" ((r.ranking.map (·.settled)).map Metric.toJson)
    (by rw [Option.map_map]; simp [entries, Metric.toJson, Metric.text, Metric.settled])
  have hdisplay := hget "display_format" (some (.string r.display.name))
    (by simp [entries, eq_comm])
  refine Data.record_of_reads (by unfold Data.Rule.Distinct; decide)
    ["table", "dimensions", "metrics", "joins", "filters", "granularity", "date_column",
      "date_filter_details", "topN", "topN_metric", "display_format"] rfl
    (List.Subset.trans r.names_entries.subset (by decide)) ?_
  refine .seq (.seq (.seq (.seq (.seq (.seq (.seq (.seq (.seq (.seq (.map mk ?_) ?_) ?_) ?_) ?_) ?_)
    ?_) ?_) ?_) ?_) ?_
  · exact Fields.reads_field (d := Data.text) htable rfl
  · exact Fields.reads_fieldOr hdimensions (Data.nullOr_listOf_map (d := Data.text) fun s _ => rfl)
  · exact Fields.reads_fieldOr hmetrics
      (Data.listOf_map fun m hm => Metric.decode_toJson (h.metrics m hm))
  · exact Fields.reads_fieldOr hjoins (Data.nullOr_listOf_map fun j _ => j.decode_toJson)
  · exact Fields.reads_fieldOr hfilters (Filter.decodeAll_toJson r.filters)
  · exact Fields.reads_fieldOr hgranularity
      (Data.Choice.decode_name (Granularity.named?_name r.granularity))
  · exact Fields.reads_fieldOr_none hdateColumn fun c _ => rfl
  · refine Fields.reads_fieldOr_none hdateFilter fun c _ => ?_
    show (decodeDateFilter (dateFilterJson c)).map some = _
    rw [decodeDateFilter_toJson]
    rfl
  · exact Fields.reads_fieldOr_none htop fun n hn =>
      congrArg Except.ok (positiveCount_nat (h.top n hn))
  · refine Fields.reads_fieldOr_none hranking fun m hm => ?_
    obtain ⟨named, hnamed, rfl⟩ := Option.map_eq_some_iff.1 hm
    show (Metric.decode named.settled.toJson).map some = _
    rw [Metric.decode_toJson (h.ranking named hnamed).settled]
    rfl
  · exact Fields.reads_fieldOr hdisplay
      (Data.Choice.decode_name (DisplayFormat.named?_name r.display))

/-! ## Compiling what was read -/

theorem rankingOrder_settled (m : Metric) : rankingOrder m.settled = rankingOrder m := rfl

theorem rankedOrder_settled (r : Request) : r.settled.rankedOrder = r.rankedOrder := by
  funext scope selected order
  unfold rankedOrder settled
  cases r.top with
  | none => rfl
  | some n =>
    cases r.metrics with
    | nil => rfl
    | cons first rest =>
      have hbest : (r.ranking.map (·.settled)).getD first.settled =
          (r.ranking.getD first).settled := by
        cases r.ranking with
        | none => rfl
        | some m => rfl
      simp only [List.map_cons, hbest, rankingOrder_settled]

/-- A statement does not tell whether an aggregation was known. -/
theorem compile_settled (r : Request) (snapshot? : Option Snapshot) :
    r.settled.compile snapshot? = r.compile snapshot? := by
  have hselect : ∀ scope, r.settled.metrics.mapM (·.select scope) =
      r.metrics.mapM (·.select scope) := fun scope => List.mapM_map
  unfold compile
  rw [rankedOrder_settled]
  simp only [hselect]
  rfl

/-- Whatever a request was read from, writing it and reading it again gives a request that is equal
but for the mark that an aggregation was not known, and that compiles to the same. -/
theorem decode_toJson_of_decode {v : Json} {r : Request} (h : decode v = .ok r) :
    ∃ r', decode r.toJson = .ok r' ∧ r' = r.settled ∧
      ∀ snapshot?, r'.compile snapshot? = r.compile snapshot? :=
  ⟨r.settled, decode_toJson_of_isWritten (isWritten_of_decode h), rfl, compile_settled r⟩

/-- A request by older names, with nulls, a metric as an object and filters that are no list. -/
def olderReport : Json := .object [
  ("tabel", .string "orders"), ("dimensi", .null),
  ("metriks", .array [.string " amount | sum",
    .object [("column", .string "price"), ("aggregation", .string "median")]]),
  ("tabel_join", .array [.object [("tabel", .string "customers"), ("join_type", .string "left")]]),
  ("filters", .string "none"), ("granularity", .string "DAILY"),
  ("date_filter_details", .object [("column", .string "created_at")]), ("top_n", Json.nat 5),
  ("top_n_metric", .string "amount|total"), ("display_format", .string "fancy")]

theorem decode_olderReport : ∃ r, decode olderReport = .ok r ∧
    r.metrics = [⟨"amount", .sum, false⟩, ⟨"price", .count, true⟩] ∧ r.top = some 5 ∧
    ∃ r', decode r.toJson = .ok r' ∧ r' = r.settled ∧
      ∀ snapshot?, r'.compile snapshot? = r.compile snapshot? := by
  have hread : (decode olderReport).toOption.map (fun r => (r.metrics, r.top)) =
      some ([⟨"amount", .sum, false⟩, ⟨"price", .count, true⟩], some 5) := by decide +kernel
  obtain ⟨r, hr, hfields⟩ := Option.map_eq_some_iff.1 hread
  have hdecode := toOption_eq_some.1 hr
  exact ⟨r, hdecode, congrArg Prod.fst hfields, congrArg Prod.snd hfields,
    decode_toJson_of_decode hdecode⟩

end Request

end Granary
