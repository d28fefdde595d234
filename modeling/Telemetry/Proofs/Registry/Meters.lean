import Telemetry.Proofs.Registry.Readings
import Telemetry.Proofs.Registry.Roll
import Telemetry.Proofs.Registry.Running
import Telemetry.Proofs.Session.Meters
import Telemetry.Proofs.Settings.Acceptance

/-!
# The meters of a registry

Settings are checked when they are accepted. The workers of a registry check their intervals once
more, and every meter checks its span and its interval when it is built. None of these checks refuses
what the first one let pass: a registry is created if its sinks can be built, and as long as its
settings are left alone it builds a meter for every name that is free and for every span, if only
there is room for the readings. Nothing looks at that beforehand, so that even the usual span may be
one that no meter can have.

Main statements: `create_of_fit`, `GoesBy.live` (a registry goes by its settings for life),
`isOk_built_iff` (what can be built for a name) and `meters_of_accepted`.
-/

namespace Telemetry

theorem Worker.create_of_positive {interval : Value}
    (h : ∀ field, interval.requirePositive field = .ok ()) (name : String) :
    Worker.create name interval = .ok { name, interval } := by
  rw [create, h, Fault.ok_bind]
  rfl

theorem Worker.interval_of_start {w v : Worker} (h : w.start = .ok v) :
    v.interval = w.interval := by
  unfold start at h
  split at h
  · cases h
  · cases h
    rfl

namespace Window

/-- The fault of readings that find no room. -/
def IsRoomFault (fault : Fault) : Prop := fault = .lengthTooLarge ∨ fault = .outOfMemory

theorem requireRoom_eq_error {room length : ℕ} (h : ¬ length ≤ min lengthLimit room) :
    ∃ fault, IsRoomFault fault ∧ requireRoom room length = .error fault := by
  unfold requireRoom
  split
  · exact ⟨_, .inl rfl, rfl⟩
  · exact ⟨_, .inr rfl, if_pos (by omega)⟩

/-- Whole numbers of seconds are refused for want of room only. -/
theorem create_eq_error {room : ℕ} {span interval : Value} {asked seconds : ℤ}
    (hspan : span.IsSeconds asked) (hinterval : interval.IsSeconds seconds) (hpos : 0 < seconds)
    (hroom : ¬ HasRoom room asked seconds) :
    ∃ fault, IsRoomFault fault ∧ create room span interval = .error fault := by
  have hnat : 0 < seconds.toNat := by omega
  obtain ⟨fault, hcause, hfault⟩ := requireRoom_eq_error hroom
  refine ⟨fault, hcause, ?_⟩
  rw [create_of_seconds room hspan hinterval hpos hnat, hfault]
  rfl

end Window

namespace Registry

/-! ## Registries and their settings -/

/-- A registry goes by settings: it has them, and its workers have the intervals that they set. -/
structure GoesBy (reg : Registry) (settings : Settings) : Prop where
  kept : reg.settings = settings
  updater : reg.updater.worker.interval = settings.samplingInterval
  reporter : reg.reporter.interval = settings.reportInterval

/-- **No worker refuses settings that were accepted.** -/
theorem create_of_fit {settings : Settings} {seconds usual : ℤ} (h : settings.Fit seconds usual)
    (sinks : List Sink) {host : Host} (hsinks : (buildSinks settings host).1.isOk = true) :
    ∃ reg after, create settings sinks host = (.ok reg, after) ∧ reg.GoesBy settings := by
  have hupdater : Updater.create settings.samplingInterval = .ok
      { views := [], worker := { name := "metric-view-updater", interval := .int seconds } } := by
    have hpositive : ∀ field, (Value.int seconds).requirePositive field = .ok () :=
      fun _ => Value.requirePositive_int.mpr h.interval_pos
    rw [h.interval, Updater.create, Worker.create_of_positive hpositive]
    rfl
  have hreporter := Worker.create_of_positive h.report "metric-reporter"
  unfold create
  cases hbuilt : buildSinks settings host with
  | mk result after =>
      rw [hbuilt] at hsinks
      cases result with
      | error fault => cases hsinks
      | ok built =>
          dsimp only
          rw [hupdater, hreporter]
          exact ⟨_, after, rfl, rfl, h.interval.symm, rfl⟩

variable {reg : Registry} {settings : Settings}

theorem GoesBy.same {after : Registry} (h : reg.GoesBy settings)
    (hsettings : after.settings = reg.settings) (hworkers : reg.SameWorkers after) :
    after.GoesBy settings where
  kept := hsettings.trans h.kept
  updater := by rw [hworkers.updater, h.updater]
  reporter := by rw [hworkers.reporter, h.reporter]

theorem settings_register (reg : Registry) (name : String) (r : Ref) (w : World) :
    (reg.register name r w).2.1.settings = reg.settings := by
  rcases reg.register_cases name r w with hsame | ⟨-, -, hafter, -⟩
  · rw [hsame]
  · rw [hafter, track]
    split <;> rfl

theorem settings_registerBuilt (reg : Registry) (name : String)
    (built : Except Fault (Ref × Store)) (w : World) :
    (reg.registerBuilt name built w).2.1.settings = reg.settings := by
  rcases reg.registerBuilt_cases name built w with hsame | ⟨r, store, -, hdone⟩
  · rw [hsame]
  · rw [hdone]
    exact reg.settings_register name r { w with store }

theorem settings_unregister (reg : Registry) (name : String) (w : World) :
    (reg.unregister name w).2.1.settings = reg.settings := by
  rcases reg.unregister_cases name w with hsame | ⟨r, -, hafter, -⟩
  · rw [hsame]
  · rw [hafter]

theorem settings_report (reg : Registry) (now : Value) (w : World) :
    (reg.report now w).2.1.settings = reg.settings := by
  unfold report
  dsimp only
  split <;> rfl

theorem GoesBy.start (h : reg.GoesBy settings) (w : World) : (reg.start w).2.1.GoesBy settings := by
  unfold Registry.start
  split
  · exact h
  · split
    · exact h
    · next updating hupdating =>
      have hupdater := (Worker.interval_of_start hupdating).trans h.updater
      dsimp only
      split
      · exact ⟨h.kept, hupdater, h.reporter⟩
      · next reporter hreporter =>
        refine ⟨h.kept, hupdater, ?_⟩
        show reporter.interval = settings.reportInterval
        rw [← h.reporter]
        split at hreporter
        · cases hreporter
          rfl
        · exact Worker.interval_of_start hreporter

/-- **A call keeps to the settings**, unless it changes them. -/
theorem GoesBy.call (h : reg.GoesBy settings) (w : World) (c : Call)
    (hkeeps : ∀ name v, c ≠ .assign name v) : (reg.call w c).1.GoesBy settings := by
  cases c with
  | register name r =>
      exact h.same (reg.settings_register name r w) (reg.sameWorkers_register name r w)
  | counter name | gauge name | meter name | gaugeMeter name =>
      exact h.same (reg.settings_registerBuilt name _ w) (reg.sameWorkers_registerBuilt name _ w)
  | unregister name =>
      exact h.same (reg.settings_unregister name w) (reg.sameWorkers_unregister name w)
  | updateViews | snapshot => exact h
  | report now => exact h.same (reg.settings_report now w) (reg.sameWorkers_report now w)
  | start => exact h.start w
  | close => exact ⟨h.kept, h.updater, h.reporter⟩
  | assign name v => exact absurd rfl (hkeeps name v)

/-- **A registry goes by its settings for life**, as long as they are left alone. -/
theorem GoesBy.live (h : reg.GoesBy settings) (w : World) {turns : List Turn}
    (hkeeps : ∀ name v, Turn.call (.assign name v) ∉ turns) :
    (reg.live w turns).1.GoesBy settings := by
  induction turns generalizing reg w with
  | nil => exact h
  | cons t rest ih =>
      have hrest : ∀ name v, Turn.call (.assign name v) ∉ rest :=
        fun name v hmem => hkeeps name v (List.mem_cons_of_mem t hmem)
      refine ih ?_ (reg.turn w t).2 hrest
      cases t with
      | call c =>
          refine h.call w c ?_
          rintro name v rfl
          exact hkeeps name v List.mem_cons_self
      | aside actions host => exact h

/-! ## Meters -/

/-- A span asks for a number of seconds: its own, or the usual one if there is none. -/
def Asks (usual : ℤ) (span : Value) (asked : ℤ) : Prop :=
  span.IsSeconds asked ∨ span = .null ∧ asked = usual

theorem isSeconds_spanOf {usual asked : ℤ} (hreg : reg.settings.defaultSpan = .int usual)
    {span : Value} (h : Asks usual span asked) : (reg.spanOf span).IsSeconds asked := by
  rcases h with hseconds | ⟨rfl, rfl⟩
  · rcases hseconds with rfl | ⟨x, rfl, hwhole⟩
    · exact .inl rfl
    · exact .inr ⟨x, rfl, hwhole⟩
  · exact .inl hreg

/-- What is to come of a call for a meter. If the host has room for its readings, it is built, covers
what was asked for and stands under its name; otherwise the call is refused and nothing has changed. -/
structure Meters (reg : Registry) (w : World) (name : String) (asked seconds : ℤ)
    (result : Except Fault Ref × Registry × World) : Prop where
  given : Window.HasRoom w.host.room asked seconds → ∃ r followed window, result.1 = .ok r ∧
    result.2.1.metrics = reg.metrics ++ [(name, r)] ∧
    result.2.2.store.get? r = some (.meter followed window) ∧ window.Covers asked seconds
  refused : ¬ Window.HasRoom w.host.room asked seconds →
    ∃ fault, Window.IsRoomFault fault ∧ result = (.error fault, reg, w)

/-- A meter is registered under every name that is free. -/
theorem registerBuilt_of_meter {name : String} (hfree : name ∉ reg.metrics.keys) {s : Store} {r : Ref}
    {followed : Ref} {window : Window} (hmeter : s.get? r = some (.meter followed window))
    (w : World) :
    (reg.registerBuilt name (.ok (r, s)) w).1 = .ok r ∧
      (reg.registerBuilt name (.ok (r, s)) w).2.1.metrics = reg.metrics ++ [(name, r)] ∧
      (reg.registerBuilt name (.ok (r, s)) w).2.2.store = s := by
  have hmetric : ((s.get? r).map Metric.isMetric).getD false = true := by
    rw [hmeter]
    rfl
  obtain ⟨hresult, hafter⟩ := register_of_free (w := { w with store := s }) hmetric hfree
  have hstore := reg.store_register name r { w with store := s }
  unfold registerBuilt
  dsimp only
  cases hdone : reg.register name r { w with store := s } with
  | mk result rest =>
      rw [hdone] at hresult hafter hstore
      cases hresult
      refine ⟨rfl, ?_, hstore⟩
      show rest.1.metrics = reg.metrics ++ [(name, r)]
      rw [hafter, track]
      split <;> rfl

/-- **What is built with the window of a proper request is registered under every free name.** -/
theorem meters_of_builds {name : String} (hfree : name ∉ reg.metrics.keys) {span interval : Value}
    {asked seconds : ℤ} (hspan : span.IsSeconds asked) (hinterval : interval.IsSeconds seconds)
    (hpos : 0 < seconds) {built : Except Fault (Ref × Store)}
    {w : World} (hbuilds : Store.Builds w.host.room span interval built) :
    reg.Meters w name asked seconds (reg.registerBuilt name built w) := by
  obtain ⟨place, rfl, hplace⟩ := hbuilds
  constructor
  · intro hroom
    have hrequest : Window.Requests w.host.room span interval asked seconds :=
      ⟨hspan, hinterval, hpos, hroom⟩
    let window := Window.empty asked seconds.toNat hrequest.toNat_pos
    obtain ⟨followed, hmeter⟩ := hplace window
    obtain ⟨hresult, hmetrics, hstore⟩ := registerBuilt_of_meter hfree hmeter w
    rw [hrequest.create_eq_ok]
    refine ⟨(place window).1, followed, window, hresult, hmetrics, ?_, ?_⟩
    · show Store.get? (reg.registerBuilt name (.ok (place window)) w).2.2.store _ = _
      rw [hstore]
      exact hmeter
    · exact Window.covers_empty asked hpos hrequest.toNat_pos
  · intro hroom
    obtain ⟨fault, hcause, hfault⟩ := Window.create_eq_error hspan hinterval hpos hroom
    rw [hfault]
    exact ⟨fault, hcause, rfl⟩

/-! ## What can be built -/

/-- An offer is a gauge of the store, or a function. -/
def OffersGauge (s : Store) : Store.Offer → Prop
  | .metric r => ∃ m, s.get? r = some m ∧ m.isGauge = true
  | .function _ => True
  | .value _ => False

/-- **A gauge is made of what is one, or of a function**, and of nothing else. -/
theorem isOk_gaugeOf_iff {s : Store} {offer : Store.Offer} :
    (s.gaugeOf offer).isOk = true ↔ OffersGauge s offer := by
  cases offer with
  | metric r =>
      have hshape : (s.gaugeOf (.metric r)).isOk = ((s.get? r).map Metric.isGauge).getD false := by
        rw [Store.gaugeOf]
        split
        · next hgauge => exact hgauge.symm
        · next hother => exact (Bool.eq_false_of_not_eq_true hother).symm
      rw [hshape]
      show _ ↔ ∃ m, s.get? r = some m ∧ m.isGauge = true
      cases s.get? r with
      | none =>
          constructor
          · intro h
            cases h
          · rintro ⟨m, hm, -⟩
            cases hm
      | some m =>
          constructor
          · intro hgauge
            exact ⟨m, rfl, hgauge⟩
          · rintro ⟨found, hfound, hgauge⟩
            cases hfound
            exact hgauge
  | function source => exact ⟨fun _ => trivial, fun _ => rfl⟩
  | value v =>
      constructor
      · intro h
        cases h
      · exact False.elim

/-- A span is requested properly of a registry: it goes with its interval, and there is room. -/
def RequestsSpan (reg : Registry) (w : World) (span : Value) : Prop :=
  ∃ asked seconds, Window.Requests w.host.room (reg.spanOf span)
    (intervalOf w.host.processInterval reg.settings.samplingInterval) asked seconds

/-- What a call is to enrol can be built. -/
def CanBuild (reg : Registry) (w : World) : Call → Prop
  | .gauge _ offer => OffersGauge w.store offer
  | .meter _ _ span => reg.RequestsSpan w span
  | .gaugeMeter _ offer span => OffersGauge w.store offer ∧ reg.RequestsSpan w span
  | _ => True

/-- **A metric is built for a name exactly if it can be**: gauges take what is callable, and meters take
a span that is requested properly. -/
theorem isOk_built_iff {reg : Registry} {w : World} {c : Call} {name : String}
    {built : Except Fault (Ref × Store)} (h : reg.demand? w c = some (.enrol name built)) :
    built.isOk = true ↔ reg.CanBuild w c := by
  cases c with
  | register given r =>
      cases h
      exact ⟨fun _ => trivial, fun _ => rfl⟩
  | counter given counter =>
      cases counter <;> cases h <;> exact ⟨fun _ => trivial, fun _ => rfl⟩
  | gauge given offer =>
      cases h
      exact isOk_gaugeOf_iff
  | meter given counter span =>
      cases h
      exact (w.store.builds_newMeter _ counter _ _).isOk_iff
  | gaugeMeter given offer span =>
      cases h
      have hoffer : (w.store.gaugeOf offer).isOk = true ↔ OffersGauge w.store offer :=
        isOk_gaugeOf_iff
      cases hgauge : w.store.gaugeOf offer with
      | error fault =>
          rw [hgauge] at hoffer
          exact ⟨nofun, fun hcan => hoffer.mpr hcan.1⟩
      | ok made =>
          rw [hgauge] at hoffer
          have hmeter := (made.2.builds_newGaugeMeter w.host.room made.1 (reg.spanOf span)
            (intervalOf w.host.processInterval reg.settings.samplingInterval)).isOk_iff
          exact hmeter.trans ⟨fun hspan => ⟨hoffer.mp rfl, hspan⟩, And.right⟩
  | _ => cases h

/-! ## Accepted settings -/

/-- **The checks of settings, workers and meters agree.** A registry with settings that were accepted,
in whichever form, is created whenever the sinks that they list can be built. From then on, as long as
the settings are not changed, and whatever else happens: the interval of its updater is the one that
was set, and a call for a meter under a free name, over whatever counter, or over a gauge or a function,
with the usual span or any whole number of seconds, gives a meter of that interval whose span is the one
asked for, floored to a multiple of the interval but not below one. The readings have to find room;
otherwise, and only then, the call is refused and leaves everything as it was. -/
theorem meters_of_accepted {settings : Settings} (haccepted : settings.Accepted) (sinks : List Sink)
    (host : Host) (hsinks : (buildSinks settings host).1.isOk = true) :
    ∃ reg after seconds usual, create settings sinks host = (.ok reg, after) ∧
      0 < seconds ∧ settings.samplingInterval = .int seconds ∧ settings.defaultSpan = .int usual ∧
      ∀ (w : World) (turns : List Turn), (∀ name v, Turn.call (.assign name v) ∉ turns) →
        let now := (reg.live w turns).1
        let world := (reg.live w turns).2
        now.updater.worker.interval = .int seconds ∧
        ∀ name span asked, name ∉ now.metrics.keys → Asks usual span asked →
          (∀ counter, now.Meters world name asked seconds (now.meter name counter span world)) ∧
          ∀ offer, OffersGauge world.store offer →
            now.Meters world name asked seconds (now.gaugeMeter name offer span world) := by
  obtain ⟨seconds, usual, hfit⟩ := haccepted.checked.exists_fit
  have hpos : 0 < seconds := hfit.interval_pos
  obtain ⟨reg, after, hcreate, hgoes⟩ := create_of_fit hfit sinks hsinks
  refine ⟨reg, after, seconds, usual, hcreate, hpos, hfit.interval, hfit.span, ?_⟩
  intro w turns hkeeps now world
  have hnow : now.GoesBy settings := hgoes.live w hkeeps
  refine ⟨hnow.updater.trans hfit.interval, ?_⟩
  intro name span asked hfree hasks
  have hspan : (now.spanOf span).IsSeconds asked :=
    isSeconds_spanOf (by rw [hnow.kept, hfit.span]) hasks
  have hinterval : (intervalOf world.host.processInterval now.settings.samplingInterval).IsSeconds
      seconds := by
    rw [hnow.kept, hfit.interval]
    exact .inl rfl
  constructor
  · intro counter
    exact meters_of_builds hfree hspan hinterval hpos (world.store.builds_newMeter _ counter _ _)
  · intro offer hoffer
    obtain ⟨⟨gauge, store⟩, hgauge⟩ := Fault.exists_eq_ok (isOk_gaugeOf_iff.mpr hoffer)
    unfold gaugeMeter
    rw [hgauge, Fault.ok_bind]
    exact meters_of_builds hfree hspan hinterval hpos (store.builds_newGaugeMeter _ gauge _ _)

/-- A call gave a meter of this interval and this span. -/
def GaveMeter (interval span : ℕ) (result : Except Fault Ref × Registry × World) : Prop :=
  ∃ r followed window, result.1 = .ok r ∧
    result.2.2.store.get? r = some (.meter followed window) ∧
    window.interval = interval ∧ window.span = span

theorem Meters.gaveMeter {w : World} {name : String} {asked : ℤ} {interval span : ℕ}
    {result : Except Fault Ref × Registry × World} (h : reg.Meters w name asked interval result)
    (hroom : Window.HasRoom w.host.room asked interval)
    (hspan : max (asked - asked % interval) interval = span) : GaveMeter interval span result := by
  obtain ⟨r, followed, window, hresult, -, hmeter, hcovers⟩ := h.given hroom
  refine ⟨r, followed, window, hresult, hmeter, ?_, ?_⟩
  · exact_mod_cast hcovers.interval
  · exact_mod_cast hcovers.span_eq.trans hspan

/-- The usual span, a span that is no multiple of the interval, and one below zero. -/
theorem meters_of_meteredApart :
    let now := (bare.live twoViews meteredApart).1
    let world := (bare.live twoViews meteredApart).2
    GaveMeter 5 60 (now.meter "bytes" none .null world) ∧
    GaveMeter 5 10 (now.gaugeMeter "growth" (.metric 3) (.int 13) world) ∧
    GaveMeter 5 5 (now.meter "bytes" (some 2) (.int (-7)) world) := by
  intro now world
  have haccepted : bare.settings.Accepted :=
    ⟨5, .options (.dict [("report_interval_seconds", .int 10)]), rfl⟩
  obtain ⟨reg, after, seconds, usual, hcreate, -, hseconds, husual, hlife⟩ :=
    meters_of_accepted haccepted [] twoViews.host rfl
  obtain ⟨hreg, -⟩ := Prod.mk.inj (create_bare.symm.trans hcreate)
  cases hreg
  cases hseconds
  cases husual
  obtain ⟨-, hmeters⟩ := hlife twoViews meteredApart (by simp [meteredApart])
  have hbytes : "bytes" ∉ now.metrics.keys := by decide +kernel
  have hgrowth : "growth" ∉ now.metrics.keys := by decide +kernel
  have hgauge : OffersGauge world.store (.metric 3) := ⟨_, rfl, rfl⟩
  refine ⟨?_, ?_, ?_⟩
  · exact ((hmeters "bytes" .null 60 hbytes (.inr ⟨rfl, rfl⟩)).1 none).gaveMeter
      (by decide) (by decide)
  · exact ((hmeters "growth" (.int 13) 13 hgrowth (.inl (.inl rfl))).2 _ hgauge).gaveMeter
      (by decide) (by decide)
  · exact ((hmeters "bytes" (.int (-7)) (-7) hbytes (.inl (.inl rfl))).1 (some 2)).gaveMeter
      (by decide) (by decide)

/-- **Accepted settings may ask for more than there is room for.** A registry of theirs is created, and
its first meter is refused; a span of that length is refused by every other registry as well. -/
theorem meter_refused_endless :
    ∃ settings reg,
      Settings.ofOptions 5 [("default_time_span_seconds", .int 1000000000000000000000000000000),
        ("report_interval_seconds", .int 10)] = .ok settings ∧
      create settings [] twoViews.host = (.ok reg, twoViews.host) ∧
      reg.metrics = [] ∧
      (reg.meter "requests" none .null twoViews).1 = .error .lengthTooLarge ∧
      (bare.meter "requests" none (.int 1000000000000000000000000000000) twoViews).1 =
        .error .lengthTooLarge :=
  ⟨_, _, rfl, rfl, rfl, rfl, rfl⟩

end Registry

end Telemetry
