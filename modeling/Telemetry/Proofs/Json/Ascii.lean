import Telemetry.Json

/-!
# Records are printable ASCII

Whatever a value holds, its form in JSON is made of printable ASCII: texts have everything else
escaped, and numbers need no more than digits, signs, a point and an exponent. So there is no line
end in it, and a record fills one line and no more.

Main statements: `ascii_layout` (decimals as they are laid out) and `ascii_write` (all values).
-/

namespace Telemetry

/-! ## What results ensure -/

namespace Fault

variable {α β : Type} {P : α → Prop} {Q : β → Prop}

/-- If there is a result, it has the property. -/
def Ensures (P : α → Prop) (result : Except Fault α) : Prop := ∀ a, result = .ok a → P a

theorem ensures_ok {a : α} (h : P a) : Ensures P (.ok a) := by
  intro b hb
  cases hb
  exact h

theorem ensures_error (fault : Fault) : Ensures P (.error fault) := by
  intro a ha
  cases ha

theorem ensures_true (result : Except Fault α) : Ensures (fun _ => True) result :=
  fun _ _ => trivial

theorem ensures_bind {first : Except Fault α} {next : α → Except Fault β} (h : Ensures P first)
    (hnext : ∀ a, P a → Ensures Q (next a)) : Ensures Q (first >>= next) := by
  intro b hb
  obtain ⟨a, ha, hb⟩ := bind_eq_ok.mp hb
  exact hnext a (h a ha) b hb

/-- What each of the items ensures holds of all that comes of them. -/
theorem ensures_mapM {f : α → Except Fault β} {items : List α}
    (h : ∀ a ∈ items, Ensures Q (f a)) :
    Ensures (fun results => ∀ b ∈ results, Q b) (items.mapM f) := by
  induction items with
  | nil => exact ensures_ok (by simp)
  | cons a rest ih =>
      rw [List.forall_mem_cons] at h
      rw [List.mapM_cons]
      refine ensures_bind h.1 ?_
      intro b hb
      refine ensures_bind (ih h.2) ?_
      intro bs hbs
      refine ensures_ok ?_
      rw [List.forall_mem_cons]
      exact ⟨hb, hbs⟩

end Fault

/-! ## Printable ASCII -/

namespace Text

/-- Characters that are all printable ASCII. -/
def Ascii (cs : List Char) : Prop := ∀ c ∈ cs, 0x20 ≤ c.toNat ∧ c.toNat < 0x7f

instance (cs : List Char) : Decidable (Ascii cs) :=
  List.decidableBAll (fun c : Char => 0x20 ≤ c.toNat ∧ c.toNat < 0x7f) cs

@[simp] theorem ascii_nil : Ascii [] := by simp [Ascii]

@[simp] theorem ascii_cons {c : Char} {cs : List Char} :
    Ascii (c :: cs) ↔ (0x20 ≤ c.toNat ∧ c.toNat < 0x7f) ∧ Ascii cs := by simp [Ascii]

@[simp] theorem ascii_append {cs ds : List Char} : Ascii (cs ++ ds) ↔ Ascii cs ∧ Ascii ds := by
  simp only [Ascii, List.mem_append]
  constructor
  · intro h
    exact ⟨fun c hc => h c (.inl hc), fun c hc => h c (.inr hc)⟩
  · rintro ⟨hcs, hds⟩ c (hc | hc)
    · exact hcs c hc
    · exact hds c hc

theorem Ascii.subset {cs ds : List Char} (h : Ascii cs) (hsub : ds ⊆ cs) : Ascii ds :=
  fun c hc => h c (hsub hc)

/-- There is no line end in printable ASCII. -/
theorem Ascii.no_line_end {cs : List Char} (h : Ascii cs) : '\n' ∉ cs := by
  intro hmem
  exact absurd (h '\n' hmem) (by decide)

end Text

open Text

/-! ## Numbers -/

namespace Decimal

theorem ascii_of_isDigit {cs : List Char} (h : ∀ c ∈ cs, c.isDigit = true) : Ascii cs := by
  intro c hc
  have hdigit := h c hc
  simp only [Char.isDigit, Bool.and_eq_true, decide_eq_true_eq, UInt32.le_iff_toNat_le] at hdigit
  have hlow : 0x30 ≤ c.toNat := hdigit.1
  have hhigh : c.toNat ≤ 0x39 := hdigit.2
  omega

theorem ascii_digits (n : Nat) : Ascii (digits n) := ascii_of_isDigit fun _ => digits_isDigit

theorem ascii_ofInt (i : Int) : Ascii (ofInt i) := by
  rw [ofInt]
  split
  · exact ascii_cons.mpr ⟨by decide, ascii_digits _⟩
  · exact ascii_digits _

theorem ascii_zeros (n : Nat) : Ascii (List.replicate n '0') := by
  intro c hc
  rw [List.eq_of_mem_replicate hc]
  decide

theorem trimZeros_subset (ds : List Char) : trimZeros ds ⊆ ds := by
  rw [trimZeros]
  split
  · exact List.take_subset 1 ds
  · next kept _ =>
    intro c hc
    have hmem := (List.dropWhile_sublist _).subset (List.mem_reverse.mp hc)
    exact List.mem_reverse.mp hmem

theorem ascii_ofScaled (coefficient : Nat) (places : Int) :
    Ascii (Scientific.ofScaled coefficient places).digits :=
  (ascii_digits coefficient).subset (trimZeros_subset _)

theorem ascii_exponentText (exponent : Int) : Ascii (exponentText exponent) := by
  have hdigits := ascii_digits exponent.natAbs
  rw [exponentText, ascii_cons]
  constructor
  · split <;> decide
  · split
    · exact ascii_cons.mpr ⟨by decide, hdigits⟩
    · exact hdigits

theorem ascii_positional (layout : Layout) {s : Scientific} (h : Ascii s.digits) :
    Ascii (positional layout s) := by
  rw [positional]
  split
  · simp [h, ascii_zeros]
  · have hpoint : Ascii (if layout.keepsPoint then ['.', '0'] else []) := by
      split <;> decide
    dsimp only
    split
    · simp [h, ascii_zeros, hpoint]
    · simp [h.subset (List.take_subset _ _), h.subset (List.drop_subset _ _)]

theorem ascii_exponential {s : Scientific} (h : Ascii s.digits) : Ascii (exponential s) := by
  have hfraction : Ascii (if s.digits.length ≤ 1 then [] else '.' :: s.digits.drop 1) := by
    split
    · exact ascii_nil
    · exact ascii_cons.mpr ⟨by decide, h.subset (List.drop_subset _ _)⟩
  rw [exponential, ascii_append, ascii_append, ascii_cons]
  exact ⟨⟨h.subset (List.take_subset _ _), hfraction⟩, by decide, ascii_exponentText _⟩

/-- **A decimal is laid out in printable ASCII** if its digits are. -/
theorem ascii_layout (layout : Layout) {s : Scientific} (h : Ascii s.digits) :
    Ascii (layout.write s) := by
  rw [Layout.write]
  split
  · exact ascii_positional layout h
  · exact ascii_exponential h

end Decimal

namespace Json

open Fault

theorem ascii_signed {text : List Char} (h : Ascii text) (negative : Bool) :
    Ascii (Binary64.signed negative text) := by
  cases negative with
  | false => exact h
  | true => exact ascii_cons.mpr ⟨by decide, h⟩

theorem ascii_float (x : Binary64) : Ascii (float x) := by
  cases x with
  | nan => decide
  | infinite negative => exact ascii_signed (by decide) negative
  | finite negative code =>
      exact ascii_signed (Decimal.ascii_layout _ (Decimal.ascii_ofScaled _ _)) negative

theorem ascii_string (s : String) : Ascii (string s) := fun _ => string_ascii

/-! ## Values -/

theorem ascii_joined {items : List (List Char)} (h : ∀ item ∈ items, Ascii item) :
    Ascii (joined items) := by
  fun_induction joined items with
  | case1 => exact ascii_nil
  | case2 item => exact h item (List.mem_singleton_self item)
  | case3 item rest _ ih =>
      rw [List.forall_mem_cons] at h
      simp [h.1, ih h.2]

theorem ascii_integer (i : Int) : Ensures Ascii (integer i) := by
  rw [integer]
  split
  · exact ensures_ok (Decimal.ascii_ofInt i)
  · exact ensures_error _

theorem ascii_entry {key : Value} {value : Draft} (h : Ensures Ascii value) :
    Ensures Ascii (entry key value) := by
  refine ensures_bind (ensures_true _) ?_
  intro name _
  refine ensures_bind h ?_
  intro cs hcs
  refine ensures_ok ?_
  simp [ascii_string, hcs]

theorem ascii_object {entries : Entries Draft} (h : ∀ p ∈ entries, Ensures Ascii p.2) :
    Ensures Ascii (object entries) := by
  -- sorting gives the same entries in another order
  have hsorted : Ensures (fun sorted => ∀ p ∈ sorted, Ensures Ascii p.2) entries.sorted := by
    intro sorted hsorted p hp
    exact h p ((Entries.perm_sorted hsorted).subset hp)
  refine ensures_bind hsorted ?_
  intro sorted hsorted
  refine ensures_bind (ensures_mapM fun p hp => ascii_entry (hsorted p hp)) ?_
  intro written hwritten
  refine ensures_ok ?_
  simp [ascii_joined hwritten]

mutual

/-- **A value is written in printable ASCII**, whatever is in it. -/
theorem ascii_write (v : Value) : Ensures Ascii (write v) := by
  cases v with
  | null => exact ensures_ok (by decide)
  | bool b => cases b <;> exact ensures_ok (by decide)
  | int i => exact ascii_integer i
  | float x => exact ensures_ok (ascii_float x)
  | str s => exact ensures_ok (ascii_string s)
  | list items =>
      refine ensures_bind (ascii_writeItems items) ?_
      intro written hwritten
      refine ensures_ok ?_
      simp [ascii_joined hwritten]
  | dict entries => exact ascii_object (ascii_writeEntries entries)
  | assoc entries => exact ascii_object (ascii_writePairs entries)
  | bytes | subtree => exact ensures_error _

theorem ascii_writeItems : ∀ items : List Value,
    Ensures (fun written => ∀ item ∈ written, Ascii item) (writeItems items)
  | [] => ensures_ok (by simp)
  | v :: rest => by
      refine ensures_bind (ascii_write v) ?_
      intro first hfirst
      refine ensures_bind (ascii_writeItems rest) ?_
      intro others hothers
      refine ensures_ok ?_
      rw [List.forall_mem_cons]
      exact ⟨hfirst, hothers⟩

theorem ascii_writeEntries : ∀ entries : List (String × Value),
    ∀ p ∈ writeEntries entries, Ensures Ascii p.2
  | [] => by simp [writeEntries]
  | (key, v) :: rest => by
      rw [writeEntries, List.forall_mem_cons]
      exact ⟨ascii_write v, ascii_writeEntries rest⟩

theorem ascii_writePairs : ∀ entries : List (Value × Value),
    ∀ p ∈ writePairs entries, Ensures Ascii p.2
  | [] => by simp [writePairs]
  | (key, v) :: rest => by
      rw [writePairs, List.forall_mem_cons]
      exact ⟨ascii_write v, ascii_writePairs rest⟩

end

end Json

end Telemetry
