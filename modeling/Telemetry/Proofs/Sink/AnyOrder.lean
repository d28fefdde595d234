import Telemetry.Proofs.Json.RoundTrip
import Telemetry.Proofs.Sink.Journal

/-!
# Metrics in any order

The metrics of an event are a table, and a table has an order. What is published does not show it: a
message lists the metrics by their keys, and so does a line. Neither ever has to compare two values,
because no two metrics have one key; so it does not matter what the values are.

A record is emitted if the logger takes the level, the level is an integer and every metric can be
written, and otherwise nothing is.

Main statements: `write_dict_congr_of_perm` and `metricsText_eq_ok_iff` (a line and a message have one
order for their keys), `serve_log_of_emits` and `published_in_any_order`.
-/

namespace Telemetry

/-! ## Keys in order -/

/-- The code points of a text. -/
def Text.codes (s : String) : List Nat := s.toList.map Char.toNat

theorem Text.codes_lt_codes_iff {s t : String} : codes s < codes t ↔ s < t := by
  rw [String.lt_iff_toList_lt, codes, codes]
  generalize s.toList = cs
  generalize t.toList = ds
  induction cs generalizing ds with
  | nil => cases ds <;> simp
  | cons c cs ih =>
      cases ds with
      | nil => simp
      | cons d ds =>
          rw [List.map_cons, List.map_cons, List.cons_lt_cons_iff, List.cons_lt_cons_iff, ih,
            Char.toNat_inj]
          exact Iff.rfl

namespace Table

variable {α : Type} {t : Table α}

/-- Sorted keys are in strictly increasing order of their code points. -/
theorem pairwise_keys_sorted (hkeys : t.keys.Nodup) :
    t.sorted.keys.Pairwise fun k l => Text.codes k < Text.codes l := by
  have hle : t.sorted.keys.Pairwise (· ≤ ·) := List.pairwise_map.mpr t.pairwise_sorted
  refine (hle.and (nodup_keys_sorted hkeys)).imp ?_
  rintro k l ⟨hkl, hne⟩
  exact Text.codes_lt_codes_iff.mpr (lt_of_le_of_ne hkl hne)

end Table

/-! ## Dictionaries in writing -/

namespace Json

theorem write_dict (entries : Table Value) : write (.dict entries) = object (writeEntries entries) := by
  rw [write]

/-- **A dictionary is written alike, in whatever order its entries are.** -/
theorem write_dict_congr_of_perm {entries others : Table Value} (hkeys : entries.keys.Nodup)
    (h : others.Perm entries) : write (.dict others) = write (.dict entries) := by
  have hothers : others.keys.Nodup := (h.map Prod.fst).nodup_iff.mpr hkeys
  rw [write_dict, write_dict, object, object, sorted_writeEntries hothers,
    sorted_writeEntries hkeys, Table.sorted_congr_of_perm hkeys h]

end Json

namespace Sink

/-! ## Messages and lines -/

variable {event : Event} {metrics : Table Value}

/-- The text of a metric in a message. -/
def pairText (p : String × Value) : String := p.1 ++ "=" ++ valueText p.2

/-- Metrics in a message, in a given order. -/
def listing (order : Table Value) : String := " ".intercalate (order.map pairText)

theorem metricText_eq_ok_iff {p : String × Value} {text : String} :
    metricText (.str p.1) p.2 = .ok text ↔ p.2.isWritable = true ∧ pairText p = text := by
  rw [metricText]
  split
  · next hwritable =>
    exact ⟨fun h => ⟨hwritable, Except.ok.inj h⟩, fun h => congrArg Except.ok h.2⟩
  · next hlong => exact ⟨nofun, fun h => absurd h.1 hlong⟩

theorem mapM_metricText_eq_ok_iff {order : Table Value} {texts : List String} :
    order.mapM (fun p => metricText (.str p.1) p.2) = .ok texts ↔
      (∀ p ∈ order, p.2.isWritable = true) ∧ order.map pairText = texts := by
  rw [Fault.mapM_eq_ok_iff]
  simp only [metricText_eq_ok_iff]
  rw [List.forall₂_and_left, ← List.forall₂_map_left_iff, List.forall₂_eq_eq_eq]

/-- **The metrics are listed by their keys**, if every value can be written. -/
theorem metricsText_eq_ok_iff (hkeys : metrics.keys.Nodup) {text : String} :
    metricsText metrics = .ok text ↔
      (∀ p ∈ metrics, p.2.isWritable = true) ∧ text = listing metrics.sorted := by
  have hmem : (∀ p ∈ metrics.sorted, p.2.isWritable = true) ↔
      ∀ p ∈ metrics, p.2.isWritable = true :=
    forall_congr' fun p => by rw [metrics.perm_sorted.mem_iff]
  rw [metricsText, Entries.sorted_ofTable hkeys, Fault.ok_bind, Entries.ofTable, List.mapM_map,
    ← hmem]
  constructor
  · intro h
    obtain ⟨texts, htexts, h⟩ := Fault.bind_eq_ok.mp h
    obtain ⟨hwritable, rfl⟩ := mapM_metricText_eq_ok_iff.mp htexts
    exact ⟨hwritable, (Except.ok.inj h).symm⟩
  · rintro ⟨hwritable, rfl⟩
    exact Fault.bind_eq_ok.mpr ⟨_, mapM_metricText_eq_ok_iff.mpr ⟨hwritable, rfl⟩, rfl⟩

theorem metricsText_congr_of_perm {others : Table Value} (hkeys : metrics.keys.Nodup)
    (h : others.Perm metrics) : metricsText others = metricsText metrics := by
  have hothers : others.keys.Nodup := (h.map Prod.fst).nodup_iff.mpr hkeys
  rw [metricsText, metricsText, Entries.sorted_ofTable hothers, Entries.sorted_ofTable hkeys,
    Table.sorted_congr_of_perm hkeys h]

theorem lineText_congr_of_perm (hkeys : event.metrics.keys.Nodup)
    (h : metrics.Perm event.metrics) : lineText { event with metrics } = lineText event := by
  unfold lineText
  dsimp only
  simp only [Json.write_dict, Json.writeEntries, Json.write_dict_congr_of_perm hkeys h]

/-- Whether a sink publishes text: a message or a line for each event. -/
def publishesText : Sink → Bool
  | log .. | lines .. => true
  | _ => false

theorem serve_congr_of_perm (hkeys : event.metrics.keys.Nodup) (h : metrics.Perm event.metrics)
    {sink : Sink} (htext : sink.publishesText = true) (host : Host) :
    serve (.write { event with metrics }) sink host = serve (.write event) sink host := by
  cases sink with
  | log level logger =>
      simp only [serve, write, writeLog, metricsText_congr_of_perm hkeys h]
      rfl
  | lines path place isOpen =>
      simp only [serve, write, writeLine, lineText_congr_of_perm hkeys h]
  | summary | recorder | guest => cases htext

/-- A log sink has a record to emit: its logger takes the level, which is an integer, and every metric
can be written. -/
structure Emits (level : Value) (logger : String) (event : Event) (host : Host) : Prop where
  enabled : host.loggers.enabled logger level = .ok true
  isInteger : isLevel level = true
  writable : ∀ p ∈ event.metrics, p.2.isWritable = true

/-- **A record that there is to emit is emitted.** -/
theorem serve_log_of_emits (hkeys : event.metrics.keys.Nodup) {level : Value} {logger : String}
    {host : Host} (h : Emits level logger event host) :
    serve (.write event) (.log level logger) host =
      (.ok (), .log level logger,
        host.addRecord
          { logger, level, message := messageText event (listing event.metrics.sorted) }) := by
  have hlisted := (metricsText_eq_ok_iff hkeys).mpr ⟨h.writable, rfl⟩
  simp only [serve, write, writeLog, h.enabled, hlisted, h.isInteger, if_true]

theorem serve_log_of_not_emits (hkeys : event.metrics.keys.Nodup) {level : Value} {logger : String}
    {host : Host} (h : ¬ Emits level logger event host) :
    (serve (.write event) (.log level logger) host).2 = (.log level logger, host) := by
  simp only [serve, write, writeLog]
  cases henabled : host.loggers.enabled logger level with
  | error fault => rfl
  | ok kept =>
      cases kept with
      | false => rfl
      | true =>
          cases hlisted : metricsText event.metrics with
          | error fault => rfl
          | ok text =>
              cases hlevel : isLevel level with
              | false => rfl
              | true =>
                  have hwritable := ((metricsText_eq_ok_iff hkeys).mp hlisted).1
                  exact absurd ⟨henabled, hlevel, hwritable⟩ h

/-- What publishes text publishes nothing if it fails. -/
theorem serve_eq_of_error (hkeys : event.metrics.keys.Nodup) {sink : Sink}
    (htext : sink.publishesText = true) {host : Host} {fault : Fault}
    (h : (serve (.write event) sink host).1 = .error fault) :
    serve (.write event) sink host = (.error fault, sink, host) := by
  cases sink with
  | log level logger =>
      by_cases hemits : Emits level logger event host
      · rw [serve_log_of_emits hkeys hemits] at h
        cases h
      · exact Prod.ext h (serve_log_of_not_emits hkeys hemits)
  | lines path place isOpen =>
      rw [serve_lines_write] at h ⊢
      cases hline : lineText event with
      | error cause =>
          rw [hline] at h
          cases h
          rfl
      | ok line =>
          rw [hline] at h
          cases isOpen with
          | true => cases h
          | false =>
              cases h
              rfl
  | summary | recorder | guest => cases htext

/-- A write to a line sink that succeeds appends one line. -/
theorem appended_of_serve_lines {path place : Path} {isOpen : Bool} {host : Host}
    (h : (serve (.write event) (.lines path place isOpen) host).1 = .ok ()) :
    isOpen = true ∧ ∃ line, lineText event = .ok line ∧
      serve (.write event) (.lines path place isOpen) host =
        (.ok (), .lines path place isOpen,
          { host with files := host.files.append place line }) := by
  rw [serve_lines_write] at h ⊢
  cases hline : lineText event with
  | error fault =>
      rw [hline] at h
      cases h
  | ok line =>
      rw [hline] at h
      cases isOpen with
      | false => cases h
      | true => exact ⟨rfl, line, rfl, rfl⟩

/-! ## Publishing -/

/-- **What is published as text does not depend on the order of the metrics.** An event whose metrics
have different keys, and the same event with its metrics in another order, make a log sink do the same
and make a line sink do the same: the same record or the same line, or the same fault, and then
nothing is published. A record is emitted exactly if the logger takes the level, the level is an
integer and every metric can be written; it lists every metric once, in strictly increasing order of
the code points of the keys. A line sink whose write succeeds was open and has appended one line. -/
theorem published_in_any_order (event : Event) (hkeys : event.metrics.keys.Nodup)
    (metrics : Table Value) (hmetrics : metrics.Perm event.metrics) :
    (∀ (sink : Sink) (host : Host), sink.publishesText = true →
      serve (.write { event with metrics }) sink host = serve (.write event) sink host ∧
        ∀ fault, (serve (.write event) sink host).1 = .error fault →
          serve (.write event) sink host = (.error fault, sink, host)) ∧
    (∃ order : Table Value, order.Perm event.metrics ∧
      (order.keys.Pairwise fun k l => Text.codes k < Text.codes l) ∧
      ∀ (level : Value) (logger : String) (host : Host),
        (Emits level logger event host →
          serve (.write event) (.log level logger) host =
            (.ok (), .log level logger,
              host.addRecord { logger, level, message := messageText event (listing order) })) ∧
        (¬ Emits level logger event host →
          (serve (.write event) (.log level logger) host).2 = (.log level logger, host))) ∧
    ∀ (path place : Path) (isOpen : Bool) (host : Host),
      (serve (.write event) (.lines path place isOpen) host).1 = .ok () →
        isOpen = true ∧ ∃ line, lineText event = .ok line ∧
          serve (.write event) (.lines path place isOpen) host =
            (.ok (), .lines path place isOpen,
              { host with files := host.files.append place line }) := by
  refine ⟨?_, ⟨event.metrics.sorted, event.metrics.perm_sorted,
    Table.pairwise_keys_sorted hkeys, ?_⟩, ?_⟩
  · intro sink host htext
    exact ⟨serve_congr_of_perm hkeys hmetrics htext host, fun fault => serve_eq_of_error hkeys htext⟩
  · intro level logger host
    exact ⟨serve_log_of_emits hkeys, serve_log_of_not_emits hkeys⟩
  · intro path place isOpen host
    exact appended_of_serve_lines

/-- An event with values of three kinds. -/
def mixedEvent : Event where
  timestamp := .int 0
  scope := .str "svc"
  metrics := [("a.count", .str "many"), ("a.rate", .float 0), ("jobs", .int 7)]
  step := .int 4

/-- Its metrics the other way round make the same record, which lists them by their keys. -/
theorem published_in_any_order_mixed :
    let host : Host := { loggers := { root := Level.info }, room := 0 }
    let other := { mixedEvent with metrics := mixedEvent.metrics.reverse }
    mixedEvent.metrics.keys.Nodup ∧ Emits (.int Level.info) "m" mixedEvent host ∧
      (metricsText mixedEvent.metrics >>= messageText mixedEvent).toOption =
        some "[svc] step=4 a.count=many a.rate=0 jobs=7" ∧
      serve (.write other) (.log (.int Level.info) "m") host =
        serve (.write mixedEvent) (.log (.int Level.info) "m") host := by
  intro host other
  have hkeys : mixedEvent.metrics.keys.Nodup := by decide
  obtain ⟨hsame, -⟩ := published_in_any_order mixedEvent hkeys mixedEvent.metrics.reverse
    (List.reverse_perm _)
  exact ⟨hkeys, ⟨rfl, rfl, by decide +kernel⟩, by decide +kernel,
    (hsame _ host rfl).1⟩

end Sink

end Telemetry
