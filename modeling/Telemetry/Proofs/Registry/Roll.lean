import Mathlib.Data.List.AList
import Telemetry.Proofs.Registry.Views
import Telemetry.Session

/-!
# The roll of a registry

A roll is a finite map of names to metrics that knows the order in which they were enrolled. All
that a registry does with names can be said with a roll alone: what is enrolled or struck off, what
each demand is answered, and what is found under a name.

Main statements: `answers_live` (a registry answers as a roll does, and keeps holding what the roll
holds), `Enrolled.get_eq` and `Enrolled.names` (what is found in it) and `names_of_life` (all of
this for the life of a registry).
-/

namespace Telemetry

/-- Whether there is a metric behind a reference. -/
def Store.isMetric (s : Store) (r : Ref) : Bool := ((s.get? r).map Metric.isMetric).getD false

/-- Metrics under names. The entry that was enrolled last stands first. -/
abbrev Roll := AList fun _ : String => Ref

namespace Roll

/-- The entries in the order in which they were enrolled. -/
def inOrder (roll : Roll) : Table Ref := roll.entries.reverse.map fun entry => (entry.1, entry.2)

/-- What is demanded of a roll. -/
inductive Demand where
  /-- Enrol what was built under a name, if it could be built. -/
  | enrol (name : String) (built : Except Fault (Ref × Store))
  | strike (name : String)

/-- Enrolling takes a metric and a name that is free, striking off takes a name that is there. -/
def answer (roll : Roll) : Demand → Except Fault Ref × Roll
  | .enrol _ (.error fault) => (.error fault, roll)
  | .enrol name (.ok (r, s)) =>
    if s.isMetric r then
      if name ∈ roll then (.error (.nameTaken name), roll) else (.ok r, roll.insert name r)
    else (.error (.notMetric (Registry.kindOf s r)), roll)
  | .strike name => match roll.lookup name with
    | some r => (.ok r, roll.erase name)
    | none => (.error (.unknownName name), roll)

/-- Demands one after another: the answers, and the roll that is left. -/
def answers (roll : Roll) : List Demand → List (Except Fault Ref) × Roll
  | [] => ([], roll)
  | demand :: rest =>
    ((roll.answer demand).1 :: ((roll.answer demand).2.answers rest).1,
      ((roll.answer demand).2.answers rest).2)

theorem answers_append (roll : Roll) (first second : List Demand) :
    roll.answers (first ++ second) =
      ((roll.answers first).1 ++ ((roll.answers first).2.answers second).1,
        ((roll.answers first).2.answers second).2) := by
  induction first generalizing roll with
  | nil => rfl
  | cons demand rest ih =>
      rw [List.cons_append, answers, answers, ih]
      rfl

/-! ## What a roll answers -/

theorem answer_enrol_eq_ok_iff {roll : Roll} {name : String} {built : Except Fault (Ref × Store)}
    {r : Ref} :
    (roll.answer (.enrol name built)).1 = .ok r ↔
      ∃ s, built = .ok (r, s) ∧ s.isMetric r = true ∧ name ∉ roll := by
  cases built with
  | error fault => simp [answer]
  | ok made =>
      obtain ⟨r', s⟩ := made
      rw [answer]
      split
      · next hmetric =>
        split
        · next htaken => simp [htaken]
        · next hfree =>
          constructor
          · intro h
            cases h
            exact ⟨s, rfl, hmetric, hfree⟩
          · rintro ⟨s', hbuilt, -, -⟩
            cases hbuilt
            rfl
      · next hmetric =>
        constructor
        · intro h
          cases h
        · rintro ⟨s', hbuilt, hmetric', -⟩
          cases hbuilt
          exact absurd hmetric' hmetric

theorem answer_strike_eq_ok_iff {roll : Roll} {name : String} {r : Ref} :
    (roll.answer (.strike name)).1 = .ok r ↔ roll.lookup name = some r := by
  rw [answer]
  cases roll.lookup name with
  | none => simp
  | some held => simp

/-- When a demand is granted: enrolling if what was built is a metric and the name is free, striking
off if the metric is what the name stands for. -/
def Grants (roll : Roll) (r : Ref) : Demand → Prop
  | .enrol name built => ∃ s, built = .ok (r, s) ∧ s.isMetric r = true ∧ name ∉ roll
  | .strike name => roll.lookup name = some r

theorem answer_eq_ok_iff {roll : Roll} {demand : Demand} {r : Ref} :
    (roll.answer demand).1 = .ok r ↔ roll.Grants r demand := by
  cases demand with
  | enrol name built => exact answer_enrol_eq_ok_iff
  | strike name => exact answer_strike_eq_ok_iff

theorem lookup_of_enrolled {roll : Roll} {name : String} {built : Except Fault (Ref × Store)}
    {r : Ref} (h : (roll.answer (.enrol name built)).1 = .ok r) :
    (roll.answer (.enrol name built)).2.lookup name = some r := by
  obtain ⟨s, rfl, hmetric, hfree⟩ := answer_enrol_eq_ok_iff.mp h
  rw [answer, if_pos hmetric, if_neg hfree]
  exact roll.lookup_insert

theorem lookup_of_struck {roll : Roll} {name : String} {r : Ref}
    (h : (roll.answer (.strike name)).1 = .ok r) :
    (roll.answer (.strike name)).2.lookup name = none := by
  rw [answer, answer_strike_eq_ok_iff.mp h]
  exact roll.lookup_erase name

/-! ## Entries in order -/

theorem keys_inOrder (roll : Roll) : roll.inOrder.keys = roll.keys.reverse := by
  rw [Table.keys, inOrder, List.map_map, List.map_reverse]
  rfl

theorem mem_inOrder {roll : Roll} {name : String} {r : Ref} :
    (name, r) ∈ roll.inOrder ↔ roll.lookup name = some r := by
  have hlookup := roll.mem_lookup_iff (a := name) (b := r)
  rw [Option.mem_def] at hlookup
  rw [hlookup, inOrder, List.mem_map]
  constructor
  · rintro ⟨⟨name', r'⟩, hmem, heq⟩
    cases heq
    exact List.mem_reverse.mp hmem
  · intro hmem
    exact ⟨⟨name, r⟩, List.mem_reverse.mpr hmem, rfl⟩

theorem nodup_keys_inOrder (roll : Roll) : roll.inOrder.keys.Nodup := by
  rw [keys_inOrder, List.nodup_reverse]
  exact roll.keys_nodup

theorem get?_inOrder (roll : Roll) (name : String) :
    roll.inOrder.get? name = roll.lookup name := by
  apply Option.ext
  intro r
  rw [← mem_inOrder]
  constructor
  · exact Table.mem_of_get?
  · exact Table.get?_of_mem roll.nodup_keys_inOrder

theorem inOrder_insert {roll : Roll} {name : String} (h : name ∉ roll) (r : Ref) :
    inOrder (roll.insert name r) = roll.inOrder ++ [(name, r)] := by
  rw [inOrder, AList.entries_insert_of_notMem h, List.reverse_cons, List.map_append]
  rfl

theorem kerase_eq_filter {entries : List ((_ : String) × Ref)} (h : entries.NodupKeys)
    (name : String) : entries.kerase name = entries.filter (·.1 ≠ name) := by
  induction entries with
  | nil => rfl
  | cons entry rest ih =>
      obtain ⟨hnew, hrest⟩ := List.nodupKeys_cons.mp h
      by_cases hname : name = entry.1
      · -- no other entry goes by this name
        have hnone : rest.kerase name = rest :=
          List.kerase_of_notMem_keys (by rw [hname]; exact hnew)
        rw [List.kerase_cons_eq hname, List.filter_cons_of_neg (by simp [hname]), ← ih hrest, hnone]
      · rw [List.kerase_cons_ne hname, ih hrest,
          List.filter_cons_of_pos (by simpa using Ne.symm hname)]

theorem inOrder_erase (roll : Roll) (name : String) :
    inOrder (roll.erase name) = roll.inOrder.erase name := by
  show ((roll.entries.kerase name).reverse.map _ : Table Ref) = _
  rw [kerase_eq_filter roll.nodupKeys, ← List.filter_reverse, Table.erase, inOrder, List.filter_map]
  rfl

end Roll

namespace Registry

open Roll (Demand)

/-- A registry holds what is on a roll, in the same order. -/
def Enrolled (reg : Registry) (roll : Roll) : Prop := reg.metrics = roll.inOrder

/-! ## What is found in a registry -/

section Found

variable {reg : Registry} {roll : Roll}

theorem Enrolled.metrics (h : reg.Enrolled roll) : reg.metrics = roll.inOrder := h

theorem Enrolled.get? (h : reg.Enrolled roll) (name : String) :
    reg.metrics.get? name = roll.lookup name := by
  rw [h.metrics, Roll.get?_inOrder]

theorem Enrolled.contains_iff (h : reg.Enrolled roll) (name : String) :
    reg.metrics.contains name = true ↔ name ∈ roll := by
  rw [Table.contains_eq_isSome, h.get?, AList.lookup_isSome]

theorem Enrolled.get_eq (h : reg.Enrolled roll) (name : String) :
    reg.get name = match roll.lookup name with
      | some r => .ok r
      | none => .error (.unknownName name) := by
  have hheld := h.get? name
  cases hname : roll.lookup name with
  | none => simp [Registry.get, hheld, hname]
  | some r => simp [Registry.get, hheld, hname]

theorem Enrolled.keys (h : reg.Enrolled roll) : reg.metrics.keys = roll.keys.reverse := by
  rw [h.metrics, Roll.keys_inOrder]

theorem Enrolled.length (h : reg.Enrolled roll) : reg.metrics.length = roll.keys.length := by
  have hlength := congrArg List.length h.keys
  rwa [Table.keys, List.length_map, List.length_reverse] at hlength

/-- **The names are those of the roll, in increasing order.** -/
theorem Enrolled.names (h : reg.Enrolled roll) :
    reg.names.Perm roll.keys ∧ reg.names.Pairwise (· < ·) := by
  have hperm : reg.names.Perm roll.keys := by
    rw [Registry.names, h.keys]
    exact (List.mergeSort_perm _ _).trans (List.reverse_perm _)
  refine ⟨hperm, ?_⟩
  have hsorted : reg.names.Pairwise fun a b => decide (a ≤ b) = true := by
    apply List.pairwise_mergeSort
    · intro a b c hab hbc
      exact decide_eq_true (String.le_trans (of_decide_eq_true hab) (of_decide_eq_true hbc))
    · intro a b
      simpa using String.le_total a b
  have hnodup : reg.names.Nodup := hperm.nodup_iff.mpr roll.keys_nodup
  refine (hsorted.and hnodup).imp ?_
  rintro a b ⟨hle, hne⟩
  exact String.not_le.mp fun hge => hne (String.le_antisymm (of_decide_eq_true hle) hge)

end Found

/-! ## Calls as demands -/

/-- What a call demands of the names, if it has to do with names: the metric that it builds. -/
def demand? (reg : Registry) (w : World) : Call → Option Demand
  | .register name r => some (.enrol name (.ok (r, w.store)))
  | .counter name (some r) => some (.enrol name (.ok (r, w.store)))
  | .counter name none => some (.enrol name (.ok (w.store.alloc (.counter (.int 0)))))
  | .gauge name offer => some (.enrol name (w.store.gaugeOf offer))
  | .meter name counter span => some (.enrol name
      (w.store.newMeter w.host.room counter (reg.spanOf span)
        (intervalOf w.host.processInterval reg.settings.samplingInterval)))
  | .gaugeMeter name offer span => some (.enrol name (do
      let (gauge, store) ← w.store.gaugeOf offer
      store.newGaugeMeter w.host.room gauge (reg.spanOf span)
        (intervalOf w.host.processInterval reg.settings.samplingInterval)))
  | .unregister name => some (.strike name)
  | _ => none

/-- What a call that has to do with names returns. -/
def reply? (reg : Registry) (w : World) : Call → Option (Except Fault Ref)
  | .register name r => some ((reg.register name r w).1.map fun _ => r)
  | .counter name given => some (reg.counter name given w).1
  | .gauge name offer => some (reg.gauge name offer w).1
  | .meter name counter span => some (reg.meter name counter span w).1
  | .gaugeMeter name offer span => some (reg.gaugeMeter name offer span w).1
  | .unregister name => some (reg.unregister name w).1
  | _ => none

/-- A demand was answered as a roll answers it, and the registry still holds what the roll holds; if
it was refused, nothing has changed. -/
structure Answers (reg : Registry) (w : World) (roll : Roll) (demand : Demand)
    (done : Except Fault Ref × Registry × World) : Prop where
  result : done.1 = (roll.answer demand).1
  enrolled : done.2.1.Enrolled (roll.answer demand).2
  unchanged : ∀ fault, done.1 = .error fault → done.2 = (reg, w)

theorem answers_register {reg : Registry} {roll : Roll} (h : reg.Enrolled roll) (name : String)
    (r : Ref) (w : World) :
    reg.Answers w roll (.enrol name (.ok (r, w.store)))
      ((reg.register name r w).1.map fun _ => r, (reg.register name r w).2) := by
  have hmetric : ((w.store.get? r).map Metric.isMetric).getD false = w.store.isMetric r := rfl
  cases hkind : w.store.isMetric r with
  | false =>
      have hanswer : roll.answer (.enrol name (.ok (r, w.store))) =
          (.error (.notMetric (kindOf w.store r)), roll) := by simp [Roll.answer, hkind]
      have hdone : reg.register name r w = (.error (.notMetric (kindOf w.store r)), reg, w) := by
        simp [register, hmetric, hkind]
      rw [hdone]
      exact ⟨by rw [hanswer]; rfl, by rw [hanswer]; exact h, fun _ _ => rfl⟩
  | true =>
      by_cases htaken : name ∈ roll
      · have hanswer : roll.answer (.enrol name (.ok (r, w.store))) =
            (.error (.nameTaken name), roll) := by simp [Roll.answer, hkind, htaken]
        have hdone : reg.register name r w = (.error (.nameTaken name), reg, w) := by
          simp [register, hmetric, hkind, (h.contains_iff name).mpr htaken]
        rw [hdone]
        exact ⟨by rw [hanswer]; rfl, by rw [hanswer]; exact h, fun _ _ => rfl⟩
      · have hanswer : roll.answer (.enrol name (.ok (r, w.store))) =
            (.ok r, roll.insert name r) := by simp [Roll.answer, hkind, htaken]
        have hcontains : reg.metrics.contains name = false := by
          rw [← Bool.not_eq_true, h.contains_iff]
          exact htaken
        have hnew : name ∉ reg.metrics.keys := by
          rw [← Table.contains_iff_mem_keys, hcontains]
          exact Bool.false_ne_true
        obtain ⟨hresult, hafter⟩ := register_of_free (hmetric.trans hkind) hnew
        have hmetrics : (reg.register name r w).2.1.metrics = reg.metrics ++ [(name, r)] := by
          rw [hafter, track]
          split <;> rfl
        refine ⟨by rw [hanswer, hresult]; rfl, ?_, ?_⟩
        · rw [hanswer]
          show (reg.register name r w).2.1.metrics = Roll.inOrder (roll.insert name r)
          rw [hmetrics, Roll.inOrder_insert htaken, h.metrics]
        · intro fault hfault
          rw [hresult] at hfault
          cases hfault

theorem answers_registerBuilt {reg : Registry} {roll : Roll} (h : reg.Enrolled roll) (name : String)
    (built : Except Fault (Ref × Store)) (w : World) :
    reg.Answers w roll (.enrol name built) (reg.registerBuilt name built w) := by
  cases built with
  | error fault => exact ⟨rfl, h, fun _ _ => rfl⟩
  | ok made =>
      obtain ⟨r, s⟩ := made
      obtain ⟨hresult, henrolled, hunchanged⟩ := answers_register h name r { w with store := s }
      unfold registerBuilt
      dsimp only
      split
      · next after world hdone =>
        rw [hdone] at hresult henrolled
        refine ⟨hresult, henrolled, ?_⟩
        intro fault hfault
        cases hfault
      · next fault after world hdone =>
        -- the metric that was built is dropped with the store that it is in
        rw [hdone] at hresult henrolled hunchanged
        have hsame := congrArg Prod.fst (hunchanged fault rfl)
        refine ⟨hresult, ?_, fun _ _ => rfl⟩
        rw [← show after = reg from hsame]
        exact henrolled

theorem answers_unregister {reg : Registry} {roll : Roll} (h : reg.Enrolled roll) (name : String)
    (w : World) : reg.Answers w roll (.strike name) (reg.unregister name w) := by
  cases hname : roll.lookup name with
  | none =>
      have hanswer : roll.answer (.strike name) = (.error (.unknownName name), roll) := by
        simp [Roll.answer, hname]
      have hdone : reg.unregister name w = (.error (.unknownName name), reg, w) := by
        simp [unregister, h.get?, hname]
      rw [hdone]
      exact ⟨by rw [hanswer], by rw [hanswer]; exact h, fun _ _ => rfl⟩
  | some r =>
      have hanswer : roll.answer (.strike name) = (.ok r, roll.erase name) := by
        simp [Roll.answer, hname]
      have hheld : reg.metrics.get? name = some r := by rw [h.get?, hname]
      have hresult : (reg.unregister name w).1 = .ok r := by
        simp only [unregister, hheld]
      have hmetrics : (reg.unregister name w).2.1.metrics = reg.metrics.erase name := by
        simp only [unregister, hheld]
      refine ⟨by rw [hanswer, hresult], ?_, ?_⟩
      · rw [hanswer]
        show (reg.unregister name w).2.1.metrics = Roll.inOrder (roll.erase name)
        rw [hmetrics, Roll.inOrder_erase, h.metrics]
      · intro fault hfault
        rw [hresult] at hfault
        cases hfault

/-- **A call that has to do with names is answered as a roll answers it.** -/
theorem answers_call {reg : Registry} {roll : Roll} (h : reg.Enrolled roll) {w : World} {c : Call}
    {demand : Demand} (hdemand : reg.demand? w c = some demand) :
    ∃ result, reg.reply? w c = some result ∧ reg.Answers w roll demand (result, reg.call w c) := by
  cases c with
  | register name r =>
      cases hdemand
      exact ⟨_, rfl, answers_register h name r w⟩
  | counter name given =>
      cases given with
      | none | some _ =>
          cases hdemand
          exact ⟨_, rfl, answers_registerBuilt h name _ w⟩
  | gauge name | meter name | gaugeMeter name =>
      cases hdemand
      exact ⟨_, rfl, answers_registerBuilt h name _ w⟩
  | unregister name =>
      cases hdemand
      exact ⟨_, rfl, answers_unregister h name w⟩
  | updateViews | snapshot | report | start | close | assign => cases hdemand

theorem metrics_report (reg : Registry) (now : Value) (w : World) :
    (reg.report now w).2.1.metrics = reg.metrics := by
  unfold report
  dsimp only
  split <;> rfl

theorem metrics_start (reg : Registry) (w : World) :
    (reg.start w).2.1.metrics = reg.metrics := by
  unfold start
  split
  · rfl
  · split
    · rfl
    · dsimp only
      split <;> rfl

/-- A call that has nothing to do with names returns none of them and leaves them alone. -/
theorem metrics_of_demand?_eq_none {reg : Registry} {w : World} {c : Call}
    (h : reg.demand? w c = none) :
    reg.reply? w c = none ∧ (reg.call w c).1.metrics = reg.metrics := by
  cases c with
  | register | gauge | meter | gaugeMeter | unregister => cases h
  | counter name given => cases given <;> cases h
  | updateViews | snapshot | close | assign => exact ⟨rfl, rfl⟩
  | report now => exact ⟨rfl, reg.metrics_report now w⟩
  | start => exact ⟨rfl, reg.metrics_start w⟩

/-! ## Lives -/

/-- What a turn demands of the names. -/
def demandOf (reg : Registry) (w : World) : Turn → Option Demand
  | .call c => reg.demand? w c
  | .aside _ _ => none

/-- What a turn that has to do with names returns. -/
def replyOf (reg : Registry) (w : World) : Turn → Option (Except Fault Ref)
  | .call c => reg.reply? w c
  | .aside _ _ => none

/-- What a life demands of the names, in order. -/
def demands (reg : Registry) (w : World) : List Turn → List Demand
  | [] => []
  | t :: rest =>
    (reg.demandOf w t).toList ++ (reg.turn w t).1.demands (reg.turn w t).2 rest

/-- What the calls of a life that have to do with names return, in order. -/
def replies (reg : Registry) (w : World) : List Turn → List (Except Fault Ref)
  | [] => []
  | t :: rest => (reg.replyOf w t).toList ++ (reg.turn w t).1.replies (reg.turn w t).2 rest

/-- What a turn demands is answered as the roll answers it, and the registry keeps holding what the
roll holds. -/
theorem answers_turn {reg : Registry} {roll : Roll} (h : reg.Enrolled roll) (w : World) (t : Turn) :
    (reg.replyOf w t).toList = (roll.answers (reg.demandOf w t).toList).1 ∧
      (reg.turn w t).1.Enrolled (roll.answers (reg.demandOf w t).toList).2 := by
  cases t with
  | aside actions host => exact ⟨rfl, h⟩
  | call c =>
      cases hdemand : reg.demand? w c with
      | none =>
          obtain ⟨hreply, hmetrics⟩ := metrics_of_demand?_eq_none hdemand
          rw [demandOf, replyOf, hdemand, hreply]
          exact ⟨rfl, hmetrics.trans h⟩
      | some demand =>
          obtain ⟨result, hreply, hresult, henrolled, -⟩ := answers_call h hdemand
          rw [demandOf, replyOf, hdemand, hreply]
          exact ⟨congrArg ([·]) hresult, henrolled⟩

/-- **A registry answers for life as a roll does**, and holds what the roll holds. -/
theorem answers_live {reg : Registry} {roll : Roll} (h : reg.Enrolled roll) (w : World)
    (turns : List Turn) :
    reg.replies w turns = (roll.answers (reg.demands w turns)).1 ∧
      (reg.live w turns).1.Enrolled (roll.answers (reg.demands w turns)).2 := by
  induction turns generalizing reg w roll with
  | nil => exact ⟨rfl, h⟩
  | cons t rest ih =>
      obtain ⟨hreply, henrolled⟩ := answers_turn h w t
      obtain ⟨hrest, hlast⟩ := ih henrolled (reg.turn w t).2
      rw [replies, demands, Roll.answers_append, hreply, hrest, live_cons]
      exact ⟨rfl, hlast⟩

theorem enrolled_of_create {settings : Settings} {sinks : List Sink} {before after : Host}
    {reg : Registry} (h : create settings sinks before = (.ok reg, after)) : reg.Enrolled ∅ := by
  obtain ⟨hmetrics, -⟩ := created_registry h
  exact hmetrics

/-- What is found once a demand was met: the metric that was enrolled, or nothing under the name
that was struck off. -/
def Found (reg : Registry) (r : Ref) : Demand → Prop
  | .enrol name _ => reg.get name = .ok r
  | .strike name => reg.get name = .error (.unknownName name)

theorem Answers.found {reg : Registry} {w : World} {roll : Roll} {demand : Demand}
    {done : Except Fault Ref × Registry × World} (h : reg.Answers w roll demand done) {r : Ref}
    (hdone : done.1 = .ok r) : done.2.1.Found r demand := by
  have hanswer : (roll.answer demand).1 = .ok r := by rw [← h.result, hdone]
  cases demand with
  | enrol name built => rw [Found, h.enrolled.get_eq, Roll.lookup_of_enrolled hanswer]
  | strike name => rw [Found, h.enrolled.get_eq, Roll.lookup_of_struck hanswer]

/-- **The names of a registry are kept like a roll**, whatever its life. What calls returned is what
the roll answered, and what is looked up is what is on the roll. The next call that has to do with
names returns a metric exactly if its demand is granted, what was enrolled is then found and what
was struck off is not, and if it fails nothing at all has changed. A plain value is never
registered. What is to be enrolled may have to be built first; `isOk_built_iff`, with the meters of a
registry, says when it can be. -/
theorem names_of_life {settings : Settings} {sinks : List Sink} {before after : Host}
    {reg : Registry} (hcreate : create settings sinks before = (.ok reg, after)) (w : World)
    (turns : List Turn) :
    let now := (reg.live w turns).1
    let world := (reg.live w turns).2
    let roll := ((∅ : Roll).answers (reg.demands w turns)).2
    reg.replies w turns = ((∅ : Roll).answers (reg.demands w turns)).1 ∧
    now.metrics = roll.inOrder ∧
    (∀ name, now.metrics.contains name = true ↔ name ∈ roll) ∧
    (∀ name, now.get name = match roll.lookup name with
      | some r => .ok r
      | none => .error (.unknownName name)) ∧
    now.metrics.length = roll.keys.length ∧
    now.names.Perm roll.keys ∧ now.names.Pairwise (· < ·) ∧
    (∀ c demand, now.demand? world c = some demand → ∃ result,
      now.reply? world c = some result ∧
      (now.call world c).1.metrics = Roll.inOrder (roll.answer demand).2 ∧
      (∀ r, result = .ok r ↔ roll.Grants r demand) ∧
      (∀ r, result = .ok r → (now.call world c).1.Found r demand) ∧
      ∀ fault, result = .error fault → now.call world c = (now, world)) ∧
    ∀ (s : Session) (object : Ref) (i : Nat) (id : Option String) (name : String) (v : Value),
      s.onRegistry object i now (.register id name (.value v)) =
        (.error (.notMetric v.typeName), s) := by
  intro now world roll
  obtain ⟨hreplies, henrolled⟩ := answers_live (enrolled_of_create hcreate) w turns
  have hnow : now.Enrolled roll := henrolled
  obtain ⟨hperm, hincreasing⟩ := hnow.names
  refine ⟨hreplies, hnow, hnow.contains_iff, hnow.get_eq, hnow.length, hperm, hincreasing, ?_,
    fun _ _ _ _ _ _ => rfl⟩
  intro c demand hdemand
  obtain ⟨result, hreply, hanswers⟩ := answers_call hnow hdemand
  refine ⟨result, hreply, hanswers.enrolled, ?_, ?_, hanswers.unchanged⟩
  · intro r
    rw [← Roll.answer_eq_ok_iff, ← hanswers.result]
  · intro r hr
    exact hanswers.found hr

/-- A life in which names are taken, refused and given back. -/
def enrolments : List Turn :=
  [.call (.register "b" 0), .call (.counter "a" none), .call (.register "a" 1),
   .call (.meter "c" none (.str "minute")), .call (.unregister "d"), .call (.unregister "b"),
   .call (.register "b" 7)]

/-- The name that was given back is free, the metric under the other one is found. -/
theorem names_of_enrolments :
    let now := (bare.live twoViews enrolments).1
    (bare.replies twoViews enrolments).map Except.toOption =
      [some 0, some 2, none, none, none, some 0, none] ∧
    now.get "a" = .ok 2 ∧ now.get "b" = .error (.unknownName "b") ∧ now.metrics.length = 1 := by
  intro now
  obtain ⟨hreplies, -, -, hget, hlength, -⟩ := names_of_life create_bare twoViews enrolments
  refine ⟨?_, ?_, ?_, ?_⟩
  · rw [hreplies]
    decide +kernel
  · have hheld : AList.lookup "a" ((∅ : Roll).answers (bare.demands twoViews enrolments)).2 =
        some 2 := by decide +kernel
    rw [hget, hheld]
  · have hfree : AList.lookup "b" ((∅ : Roll).answers (bare.demands twoViews enrolments)).2 =
        none := by decide +kernel
    rw [hget, hfree]
  · rw [hlength]
    decide +kernel

end Registry

end Telemetry
