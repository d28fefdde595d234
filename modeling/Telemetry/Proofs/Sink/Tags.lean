import Mathlib.Data.List.Nodup
import Telemetry.Proofs.Registry.Life
import Telemetry.Proofs.Registry.Service

/-!
# Tags of keys

A summary sink hands over every value of an event under a tag. The readings of a meter are grouped by
what they read, so that `a.rate` becomes `rate/a`; all other keys are copied. Nothing keeps a key that
is copied from reading as a group itself, and then two series get one tag: the key `rate/a` mimics
`a.rate`. There is no other way for two keys to meet.

* `tag_eq_iff` says when two keys have one tag.
* `nodup_keys_report` says that the events of a registry have no key twice.
* `tags_of_event` puts both together for what a summary sink does with an event.
-/

namespace Telemetry

namespace Sink

/-! ## Grouped keys -/

/-- A key that is grouped: a name with the ending of a group. -/
def IsGrouped (key : List Char) : Prop :=
  ∃ name ending, name ≠ [] ∧ ending ∈ groups ∧ key = name ++ '.' :: ending

/-- A key that is copied and reads as another is grouped. -/
def Mimics (key other : List Char) : Prop :=
  ¬ IsGrouped key ∧ ∃ name ending, name ≠ [] ∧ ending ∈ groups ∧
    other = name ++ '.' :: ending ∧ key = ending ++ '/' :: name

theorem mem_groups_iff {ending : List Char} :
    ending ∈ groups ↔ ending = ['r', 'a', 't', 'e'] ∨ ending = ['c', 'o', 'u', 'n', 't'] := by
  simp [groups]

theorem dot_not_mem_of_groups {ending : List Char} (h : ending ∈ groups) : '.' ∉ ending := by
  rcases mem_groups_iff.mp h with rfl | rfl <;> decide

/-- The parts of a key are the parts before and behind a dot of it. -/
theorem eq_append_of_splitLastDot? {key name ending : List Char}
    (h : splitLastDot? key = some (name, ending)) : key = name ++ '.' :: ending := by
  unfold splitLastDot? at h
  generalize hbefore : key.reverse.dropWhile (· ≠ '.') = before at h
  cases before with
  | nil => cases h
  | cons c before =>
    cases h
    -- what is dropped first, from the end on, is followed by the dot that stopped it
    have hc : c = '.' := by
      have hhead := List.head?_dropWhile_not (fun c : Char => c ≠ '.') key.reverse
      rw [hbefore] at hhead
      simpa using hhead
    have hparts := List.takeWhile_append_dropWhile (p := (· ≠ '.')) (l := key.reverse)
    rw [hbefore, hc] at hparts
    calc key = key.reverse.reverse := (List.reverse_reverse key).symm
      _ = (key.reverse.takeWhile (· ≠ '.') ++ '.' :: before).reverse := congrArg _ hparts.symm
      _ = before.reverse ++ '.' :: (key.reverse.takeWhile (· ≠ '.')).reverse := by simp

/-! ## Tags -/

theorem tagChars_grouped (scope : List Char) {name ending : List Char} (hname : name ≠ [])
    (hending : ending ∈ groups) :
    tagChars scope (name ++ '.' :: ending) = scope ++ '/' :: (ending ++ '/' :: name) := by
  rw [tagChars, splitLastDot?_append (dot_not_mem_of_groups hending)]
  simp [hname, hending]

theorem tagChars_copied (scope : List Char) {key : List Char} (h : ¬ IsGrouped key) :
    tagChars scope key = scope ++ '/' :: key := by
  unfold tagChars
  split
  · next name ending hsplit =>
    apply if_neg
    rintro ⟨hname, hending⟩
    exact h ⟨name, ending, hname, hending, eq_append_of_splitLastDot? hsplit⟩
  · rfl

/-- The groups have no ending in common with each other, so that a tag shows what was grouped. -/
theorem grouped_inj {name ending other otherEnding : List Char} (hending : ending ∈ groups)
    (hother : otherEnding ∈ groups) (h : ending ++ '/' :: name = otherEnding ++ '/' :: other) :
    name ++ '.' :: ending = other ++ '.' :: otherEnding := by
  rcases mem_groups_iff.mp hending with rfl | rfl <;>
    rcases mem_groups_iff.mp hother with rfl | rfl <;> simp_all

/-- **Two keys have one tag exactly if they are one, or one of them mimics the other.** -/
theorem tagChars_eq_iff {scope key other : List Char} :
    tagChars scope key = tagChars scope other ↔
      key = other ∨ Mimics key other ∨ Mimics other key := by
  constructor
  · intro h
    by_cases hkey : IsGrouped key
    · have hkey' := hkey
      obtain ⟨name, ending, hname, hending, rfl⟩ := hkey'
      rw [tagChars_grouped scope hname hending] at h
      by_cases hother : IsGrouped other
      · obtain ⟨name', ending', hname', hending', rfl⟩ := hother
        rw [tagChars_grouped scope hname' hending'] at h
        exact .inl (grouped_inj hending hending' (by simpa using h))
      · rw [tagChars_copied scope hother] at h
        exact .inr (.inr ⟨hother, name, ending, hname, hending, rfl, by simpa using h.symm⟩)
    · rw [tagChars_copied scope hkey] at h
      by_cases hother : IsGrouped other
      · obtain ⟨name, ending, hname, hending, rfl⟩ := hother
        rw [tagChars_grouped scope hname hending] at h
        exact .inr (.inl ⟨hkey, name, ending, hname, hending, rfl, by simpa using h⟩)
      · rw [tagChars_copied scope hother] at h
        exact .inl (by simpa using h)
  · rintro (rfl | ⟨hkey, name, ending, hname, hending, rfl, rfl⟩ |
      ⟨hother, name, ending, hname, hending, rfl, rfl⟩)
    · rfl
    · rw [tagChars_copied scope hkey, tagChars_grouped scope hname hending]
    · rw [tagChars_copied scope hother, tagChars_grouped scope hname hending]

theorem tag_eq_iff {scope key other : String} :
    tag scope key = tag scope other ↔
      key = other ∨ Mimics key.toList other.toList ∨ Mimics other.toList key.toList := by
  rw [tag, tag, String.ofList_inj, tagChars_eq_iff, String.toList_inj]

/-- No key mimics itself: it would have to be grouped. -/
theorem not_mimics_self (key : List Char) : ¬ Mimics key key := by
  rintro ⟨hkey, name, ending, hname, hending, heq, -⟩
  exact hkey ⟨name, ending, hname, hending, heq⟩

end Sink

/-! ## Events -/

namespace Store

/-- A snapshot has no key twice. -/
theorem nodup_keys_snapshot {named : Table Ref} {s : Store} {values : Table Value}
    (h : (s.snapshot named).1 = .ok values) : values.keys.Nodup := by
  have hreadable : s.Readable named := by
    rw [← isOk_snapshot_iff, h]
    rfl
  rw [snapshot_of_readable hreadable] at h
  cases h
  exact Table.nodup_keys_ofPairs _

end Store

/-- **The event of a report has no key twice.** -/
theorem Registry.nodup_keys_report {reg : Registry} {now : Value} {w : World} {event : Event}
    (h : (reg.report now w).1 = .ok event) : event.metrics.keys.Nodup := by
  rcases reg.report_cases now w with ⟨fault, -, hreport⟩ | ⟨metrics, deeds, hmetrics, -, hreport⟩
  · rw [hreport] at h
    cases h
  · rw [hreport] at h
    cases h
    exact Store.nodup_keys_snapshot hmetrics

namespace Sink

/-- The tags of keys are different exactly if no key mimics another. -/
theorem nodup_tags_iff (scope : String) {keys : List String} (hkeys : keys.Nodup) :
    (keys.map (tag scope)).Nodup ↔
      ∀ key ∈ keys, ∀ other ∈ keys, ¬ Mimics key.toList other.toList := by
  rw [List.nodup_map_iff_inj_on hkeys]
  constructor
  · intro hinj key hkey other hother hmimics
    obtain rfl := hinj key hkey other hother (tag_eq_iff.mpr (.inr (.inl hmimics)))
    exact not_mimics_self key.toList hmimics
  · intro hnone key hkey other hother htag
    rcases tag_eq_iff.mp htag with heq | hmimics | hmimics
    · exact heq
    · exact absurd hmimics (hnone key hkey other hother)
    · exact absurd hmimics (hnone other hother key hkey)

/-! ## Handing over -/

end Sink

namespace SummaryWriter

/-- A writer takes calls one after another, behind those that it has received. -/
def Takes (writer : SummaryWriter) (made asked : List SummaryCall) : Prop :=
  ∀ before call after, asked = before ++ call :: after → writer (made ++ before) call = .ok ()

variable {writer : SummaryWriter} {made asked rest : List SummaryCall} {call : SummaryCall}

theorem takes_cons :
    writer.Takes made (call :: rest) ↔
      writer made call = .ok () ∧ writer.Takes (made ++ [call]) rest := by
  constructor
  · intro htakes
    refine ⟨by simpa using htakes [] call rest rfl, ?_⟩
    intro before next after hrest
    have hnext := htakes (call :: before) next after (by rw [hrest]; rfl)
    rwa [List.append_cons] at hnext
  · rintro ⟨hcall, htakes⟩ before next after hasked
    cases before with
    | nil =>
        obtain ⟨rfl, -⟩ := List.cons.inj hasked
        simpa using hcall
    | cons first before =>
        obtain ⟨rfl, hrest⟩ := List.cons.inj hasked
        rw [List.append_cons]
        exact htakes before next after hrest

theorem make_of_takes (h : writer.Takes made asked) :
    writer.make made asked = (.ok (), made ++ asked) := by
  induction asked generalizing made with
  | nil => simp [make]
  | cons call rest ih =>
      obtain ⟨hcall, hrest⟩ := takes_cons.mp h
      rw [make, hcall]
      simp [ih hrest]

/-- The first call that fails is the last one that is made. -/
theorem make_of_fails {before : List SummaryCall} {fault : Fault}
    (h : writer.Takes made before) (hfails : writer (made ++ before) call = .error fault)
    (after : List SummaryCall) :
    writer.make made (before ++ call :: after) = (.error fault, made ++ before ++ [call]) := by
  induction before generalizing made with
  | nil =>
      rw [List.append_nil] at hfails
      rw [List.nil_append, make, hfails, List.append_nil]
  | cons first before ih =>
      obtain ⟨hfirst, hrest⟩ := takes_cons.mp h
      rw [List.append_cons] at hfails
      have hmade := ih hrest hfails
      rw [← List.append_cons] at hmade
      rwa [List.cons_append, make, hfirst]

end SummaryWriter

namespace Sink

/-- The number that the values of an event are handed over with. -/
def stepOf (event : Event) (events : Nat) : Value :=
  match event.step with
  | .null => .int events
  | step => step

/-- **What a summary sink does with an event whose keys are different**, as those of every report of a
registry are. It hands over every value once, all with one number and each under the tag of its key,
unless the writer fails at one of them, which is then the last. Two keys have one tag exactly if one
of them mimics the other, whatever the scope is; so two values of an event are handed over under one
tag exactly if there is such a pair of keys in it. -/
theorem tags_of_event (directory : String) (writer : SummaryWriter) (events : Nat)
    (calls : List SummaryCall) (event : Event) (host : Host)
    (hkeys : event.metrics.keys.Nodup) :
    (writer.Takes calls (event.metrics.map fun p =>
          .scalar (tag event.scope.text p.1) p.2 (stepOf event events)) →
        (summary directory writer events calls).write event host =
          (.ok (), summary directory writer (events + 1)
            (calls ++ event.metrics.map fun p =>
              .scalar (tag event.scope.text p.1) p.2 (stepOf event events)), host)) ∧
      (∀ before call after fault,
        (event.metrics.map fun p =>
          SummaryCall.scalar (tag event.scope.text p.1) p.2 (stepOf event events)) =
            before ++ call :: after →
        writer.Takes calls before → writer (calls ++ before) call = .error fault →
        (summary directory writer events calls).write event host =
          (.error fault, summary directory writer events (calls ++ before ++ [call]), host)) ∧
      (∀ scope key other, tag scope key = tag scope other ↔
        key = other ∨ Mimics key.toList other.toList ∨ Mimics other.toList key.toList) ∧
      ((event.metrics.keys.map (tag event.scope.text)).Nodup ↔
        ∀ key ∈ event.metrics.keys, ∀ other ∈ event.metrics.keys,
          ¬ Mimics key.toList other.toList) ∧
      ∀ (reg : Registry) (now : Value) (w : World) (published : Event),
        (reg.report now w).1 = .ok published → published.metrics.keys.Nodup := by
  refine ⟨?_, ?_, ?_, nodup_tags_iff event.scope.text hkeys, ?_⟩
  · intro htakes
    have hmade := SummaryWriter.make_of_takes htakes
    simp only [write, writeSummaries, summariesOf]
    exact hmade ▸ rfl
  · intro before call after fault hasked htakes hfails
    have hmade := SummaryWriter.make_of_fails htakes hfails after
    rw [← hasked] at hmade
    simp only [write, writeSummaries, summariesOf]
    exact hmade ▸ rfl
  · intro scope key other
    exact tag_eq_iff
  · intro reg now w published
    exact reg.nodup_keys_report

/-- A writer that never fails. -/
def willing : SummaryWriter := fun _ _ => .ok ()

/-- A meter, and a counter whose name is not grouped. -/
def meteredEvent : Event where
  timestamp := .int 0
  scope := .str "svc"
  metrics := [("a.count", .int 3), ("a.rate", .float 0), ("jobs", .int 7)]

theorem tags_of_meteredEvent :
    meteredEvent.metrics.keys.Nodup ∧
      (meteredEvent.metrics.keys.map (tag "svc")).Nodup ∧
      ∀ key ∈ meteredEvent.metrics.keys, ∀ other ∈ meteredEvent.metrics.keys,
        ¬ Mimics key.toList other.toList := by
  have hkeys : meteredEvent.metrics.keys.Nodup := by decide
  have htags : (meteredEvent.metrics.keys.map (tag "svc")).Nodup := by decide +kernel
  obtain ⟨-, -, -, hiff, -⟩ :=
    tags_of_event "tb" willing 0 [] meteredEvent
      { loggers := { root := Level.warning }, room := 0 } hkeys
  exact ⟨hkeys, htags, hiff.mp htags⟩

/-- A meter, and beside it a counter whose name reads as the group of its rate. -/
def groupedBeside : List Registry.Turn :=
  [.call (.meter "a" none .null), .call (.counter "rate/a" none),
   .aside [.change .increase 4 (.int 3)] Registry.twoViews.host]

/-- **Two series of a registry get one tag**: a rate and a count are handed over as one. -/
theorem tags_meet_groupedBeside :
    let reg : Registry := { Registry.bare with sinks := [summary "tb" willing 0 []] }
    let now := (reg.live Registry.twoViews groupedBeside).1
    let world := (reg.live Registry.twoViews groupedBeside).2
    tag "meterkit" "a.rate" = tag "meterkit" "rate/a" ∧
      now.metrics = [("a", 3), ("rate/a", 4)] ∧
      (now.report (.int 0) world).2.1.sinks =
        [summary "tb" willing 1 [.scalar "meterkit/count/a" (.int 0) (.int 0),
          .scalar "meterkit/rate/a" (.float 0) (.int 0),
          .scalar "meterkit/rate/a" (.int 3) (.int 0)]] := by
  refine ⟨?_, ?_, ?_⟩
  · decide +kernel
  · rfl
  · rfl

end Sink

end Telemetry
