import Telemetry.Proofs.Registry.Hearing

/-!
# Turns that ask nothing of the sinks

Most of what may happen to a registry has nothing to do with its sinks: metrics are registered, taken
out, sampled and read, and the registry is started. In a life, only the rest of the turns counts for
the sinks, and what is noted in calls is what these turns ask.

* `requests_append_of_silent`: silent turns in front of others ask nothing.
* `notesOfAll_of_silent`: they leave it to the sinks to note what they are asked as before.
* `calls_live`: all that is noted in calls is noted by sinks.
-/

namespace Telemetry

namespace Registry

open Sink (Request)

/-- Whether a turn has nothing to do with the sinks. -/
def Turn.isSilent : Turn → Bool
  | .call (.report _) | .call .close => false
  | _ => true

/-- Whether a turn leaves the registry as it is: metrics are sampled or read, or others act. -/
def Turn.isQuiet : Turn → Bool
  | .call .updateViews | .call .snapshot | .aside _ _ => true
  | _ => false

theorem Turn.isSilent_of_isQuiet {t : Turn} (h : t.isQuiet = true) : t.isSilent = true := by
  cases t with
  | aside actions host => rfl
  | call c =>
      cases c with
      | updateViews | snapshot => rfl
      | _ => cases h

theorem Turn.closes_of_isSilent {t : Turn} (h : t.isSilent = true) : t.closes = false := by
  cases t with
  | aside actions host => rfl
  | call c =>
      cases c with
      | close => cases h
      | _ => rfl

theorem asks_of_isSilent {t : Turn} (h : t.isSilent = true) (reg : Registry) (w : World) :
    reg.asks w t = [] := by
  cases t with
  | aside actions host => rfl
  | call c =>
      cases c with
      | report now | close => cases h
      | _ => rfl

variable {turns : List Turn}

/-- Nothing is asked of the sinks in silent turns. -/
theorem requests_append_of_silent (h : ∀ t ∈ turns, t.isSilent = true) (reg : Registry) (w : World)
    (rest : List Turn) : reg.requests w (turns ++ rest) =
      (reg.live w turns).1.requests (reg.live w turns).2 rest := by
  induction turns generalizing reg w with
  | nil => rfl
  | cons t turns ih =>
      rw [List.forall_mem_cons] at h
      rw [List.cons_append, requests_cons, Turn.closes_of_isSilent h.1, asks_of_isSilent h.1,
        if_neg Bool.false_ne_true, List.nil_append, ih h.2, live_cons]

theorem requests_of_silent (h : ∀ t ∈ turns, t.isSilent = true) (reg : Registry) (w : World) :
    reg.requests w turns = [] := by
  have hall := requests_append_of_silent h reg w []
  rw [List.append_nil] at hall
  exact hall

/-- Silent turns leave it to the sinks to note what they are asked as before. -/
theorem notesOfAll_of_silent (h : ∀ t ∈ turns, t.isSilent = true) (reg : Registry) (w : World) :
    (reg.live w turns).1.notesOfAll = reg.notesOfAll := by
  induction turns generalizing reg w with
  | nil => rfl
  | cons t turns ih =>
      rw [List.forall_mem_cons] at h
      rw [live_cons, ih h.2, notesOfAll_turn (Turn.closes_of_isSilent h.1)]

/-- What is noted in calls is what they ask of the sinks. -/
theorem calls_live (h : ∀ t ∈ turns, ∃ c, t = .call c) (reg : Registry) (w : World) :
    (reg.live w turns).2.host.calls =
      w.host.calls ++ (reg.requests w turns).flatMap reg.notesOfAll := by
  rw [← hearing_eq]
  induction turns generalizing reg w with
  | nil => exact (List.append_nil _).symm
  | cons t rest ih =>
      rw [List.forall_mem_cons] at h
      obtain ⟨c, rfl⟩ := h.1
      have hcall : (reg.turn w (.call c)).2.host.calls =
          w.host.calls ++ reg.notesOf w (.call c) := by
        rw [notesOf_eq]
        exact reg.calls_call w c
      rw [live_cons, ih h.2, hcall, hearing, List.append_assoc]

end Registry

end Telemetry
