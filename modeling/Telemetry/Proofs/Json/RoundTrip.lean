import Mathlib.Data.List.Forall2
import Telemetry.Proofs.Json.Numbers
import Telemetry.Proofs.Json.Texts
import Telemetry.Proofs.Table.Sorted
import Telemetry.Proofs.Value.Same

/-!
# Records are read back

What is written of data is read back as the same data, whatever stands behind it, as long as that
cannot go on with a number or a word. Lists are read item by item and dictionaries entry by entry;
the entries are written in the order of their names, and so it is the order of entries that may
change and nothing else.

Main statements: `write_dict_eq_ok_iff` (the order of entries) and `exists_read?_of_write`.
-/

namespace Telemetry

namespace Fault

variable {α β : Type} {f : α → Except Fault β} {items : List α}

theorem mapM_eq_ok_iff {results : List β} :
    items.mapM f = .ok results ↔ List.Forall₂ (fun a b => f a = .ok b) items results := by
  induction items generalizing results with
  | nil =>
      rw [List.forall₂_nil_left_iff, List.mapM_nil]
      exact ⟨fun h => (Except.ok.inj h).symm, fun h => congrArg Except.ok h.symm⟩
  | cons a rest ih =>
      rw [List.mapM_cons, bind_eq_ok]
      constructor
      · rintro ⟨b, hb, h⟩
        obtain ⟨bs, hbs, h⟩ := bind_eq_ok.mp h
        cases h
        exact .cons hb (ih.mp hbs)
      · intro h
        cases h with
        | cons hb hbs => exact ⟨_, hb, bind_eq_ok.mpr ⟨_, ih.mpr hbs, rfl⟩⟩

end Fault

/-! ## Lists side by side -/

/-- What each of two lists' items has, a third list has of both. -/
theorem exists_forall₂ {α β γ : Type} {R : α → β → Prop} {S : α → γ → Prop} {T : β → γ → Prop}
    {as : List α} {bs : List β} (h : List.Forall₂ R as bs)
    (hR : ∀ a ∈ as, ∀ b, R a b → ∃ c, S a c ∧ T b c) :
    ∃ cs, List.Forall₂ S as cs ∧ List.Forall₂ T bs cs := by
  induction h with
  | nil => exact ⟨[], .nil, .nil⟩
  | cons hfirst _ ih =>
      rw [List.forall_mem_cons] at hR
      obtain ⟨c, hS, hT⟩ := hR.1 _ hfirst
      obtain ⟨cs, hSs, hTs⟩ := ih hR.2
      exact ⟨c :: cs, .cons hS hSs, .cons hT hTs⟩

namespace Json

open Text

/-! ## What is written -/

theorem writeItems_eq_mapM (items : List Value) : writeItems items = items.mapM write := by
  induction items with
  | nil => rfl
  | cons v rest ih => rw [writeItems, ih, List.mapM_cons]

theorem writeEntries_eq_map (entries : Table Value) :
    writeEntries entries = entries.map fun p => (.str p.1, write p.2) := by
  induction entries with
  | nil => rfl
  | cons p rest ih => rw [writeEntries, ih, List.map_cons]

theorem write_list_eq_ok_iff {items : List Value} {cs : List Char} :
    write (.list items) = .ok cs ↔
      ∃ written, List.Forall₂ (fun v item => write v = .ok item) items written ∧
        cs = '[' :: joined written ++ [']'] := by
  rw [write, writeItems_eq_mapM, Fault.bind_eq_ok]
  simp only [Fault.mapM_eq_ok_iff]
  refine exists_congr fun written => and_congr_right fun _ => ?_
  exact ⟨fun h => (Except.ok.inj h).symm, fun h => congrArg Except.ok h.symm⟩

/-- An entry in writing. -/
def WritesEntry (p : String × Value) (item : List Char) : Prop :=
  ∃ body, write p.2 = .ok body ∧ item = string p.1 ++ ':' :: ' ' :: body

theorem entry_str_eq_ok_iff {p : String × Value} {item : List Char} :
    entry (.str p.1) (write p.2) = .ok item ↔ WritesEntry p item := by
  rw [entry, keyChars, Fault.ok_bind, Fault.bind_eq_ok, String.ofList_toList]
  refine exists_congr fun body => and_congr_right fun _ => ?_
  exact ⟨fun h => (Except.ok.inj h).symm, fun h => congrArg Except.ok h.symm⟩

/-- Different keys are sorted, whatever is written under them. -/
theorem sorted_writeEntries {entries : Table Value} (hkeys : entries.keys.Nodup) :
    Entries.sorted (writeEntries entries) = .ok (writeEntries entries.sorted) := by
  let drafts : Table Draft := entries.map fun p => (p.1, write p.2)
  have hdrafts : ∀ order : Table Value,
      writeEntries order = Entries.ofTable (order.map fun p => (p.1, write p.2)) := by
    intro order
    rw [writeEntries_eq_map, Entries.ofTable, List.map_map]
    rfl
  have hnames : drafts.keys = entries.keys := List.map_map
  have horder : (entries.sorted.map fun p => (p.1, write p.2)) = drafts.sorted := by
    refine Table.eq_sorted_of_perm (hnames ▸ hkeys) (entries.perm_sorted.map _) ?_
    exact List.pairwise_map.mpr entries.pairwise_sorted
  rw [hdrafts, hdrafts, horder]
  exact Entries.sorted_ofTable (hnames ▸ hkeys)

/-- A dictionary in writing is its entries in the order of their keys. -/
theorem write_dict_eq_ok_iff {entries : Table Value} (hkeys : entries.keys.Nodup) {cs : List Char} :
    write (.dict entries) = .ok cs ↔
      ∃ written, List.Forall₂ WritesEntry entries.sorted written ∧
        cs = '\x7b' :: joined written ++ ['\x7d'] := by
  have hwritten : ∀ {written},
      (writeEntries entries.sorted).mapM (fun p => entry p.1 p.2) = .ok written ↔
        List.Forall₂ WritesEntry entries.sorted written := by
    intro written
    rw [Fault.mapM_eq_ok_iff, writeEntries_eq_map, List.forall₂_map_left_iff]
    simp only [entry_str_eq_ok_iff]
  rw [write, object, sorted_writeEntries hkeys, Fault.ok_bind, Fault.bind_eq_ok]
  simp only [hwritten]
  refine exists_congr fun written => and_congr_right fun _ => ?_
  exact ⟨fun h => (Except.ok.inj h).symm, fun h => congrArg Except.ok h.symm⟩

/-! ## Items between brackets -/

theorem skip_space (cs : List Char) : skip (' ' :: cs) = skip cs := rfl

theorem skip_of_not_blank {c : Char} (h : isBlank c = false) (rest : List Char) :
    skip (c :: rest) = c :: rest := by
  rw [skip, List.dropWhile_cons, h]
  rfl

theorem joined_cons_cons (item next : List Char) (rest : List (List Char)) :
    joined (item :: next :: rest) = item ++ ',' :: ' ' :: joined (next :: rest) := rfl

theorem length_le_joined (written : List (List Char)) :
    written.length ≤ (joined written).length + 1 := by
  induction written with
  | nil => exact Nat.zero_le _
  | cons item rest ih =>
      cases rest with
      | nil => exact Nat.le_add_left _ _
      | cons next rest =>
          rw [joined_cons_cons, List.length_append]
          simp only [List.length_cons] at ih ⊢
          omega

theorem length_le_of_mem_joined {written : List (List Char)} {item : List Char}
    (h : item ∈ written) : item.length ≤ (joined written).length := by
  induction written with
  | nil => cases h
  | cons first rest ih =>
      cases rest with
      | nil => rw [List.mem_singleton.mp h, joined]
      | cons next rest =>
          rw [joined_cons_cons, List.length_append]
          simp only [List.length_cons]
          rcases List.mem_cons.mp h with rfl | hrest
          · omega
          · have hle := ih hrest
            omega

/-- What begins neither with a blank nor with a closing bracket. -/
def Begins (cs : List Char) : Prop :=
  ∃ c rest, cs = c :: rest ∧ isBlank c = false ∧ c ≠ ']' ∧ c ≠ '\x7d'

theorem begins_joined {first : List Char} (more : List (List Char)) (h : Begins first) :
    Begins (joined (first :: more)) := by
  obtain ⟨c, rest, rfl, hc⟩ := h
  cases more with
  | nil => exact ⟨c, rest, rfl, hc⟩
  | cons second more => exact ⟨c, _, rfl, hc⟩

/-- A written part from which something is read, whatever stands behind it. -/
structure Reads {α : Type} (item : List Char → Option (α × List Char)) (cs : List Char) (a : α) :
    Prop where
  begins : Begins cs
  eq_some : ∀ rest, Stops inToken rest → item (cs ++ rest) = some (a, rest)

/-- A closing bracket. -/
def IsClosing (close : Char) : Prop := close = ']' ∨ close = '\x7d'

theorem IsClosing.facts {close : Char} (h : IsClosing close) :
    isBlank close = false ∧ inToken close = false ∧ ',' ≠ close := by
  rcases h with rfl | rfl <;> decide

section Items

variable {α : Type} {item : List Char → Option (α × List Char)} {close : Char}
  (hspace : ∀ cs, item (' ' :: cs) = item cs) (hclose : IsClosing close)

include hspace in
theorem items?_space (budget : Nat) (cs : List Char) :
    items? item close budget (' ' :: cs) = items? item close budget cs := by
  cases budget with
  | zero => rfl
  | succ budget => rw [items?, items?, hspace]

include hspace hclose

theorem items?_joined {written : List (List Char)} {as : List α}
    (h : List.Forall₂ (Reads item) written as) (hne : written ≠ []) {budget : Nat}
    (hbudget : written.length ≤ budget) (rest : List Char) :
    items? item close budget (joined written ++ close :: rest) = some (as, rest) := by
  obtain ⟨hblank, htoken, hcomma⟩ := hclose.facts
  induction h generalizing budget with
  | nil => exact absurd rfl hne
  | cons hfirst hmore ih =>
      obtain ⟨budget, rfl⟩ := Nat.exists_eq_add_one_of_ne_zero (Nat.ne_of_gt
        (Nat.lt_of_lt_of_le (Nat.succ_pos _) hbudget))
      cases hmore with
      | nil =>
          rw [joined, items?, hfirst.eq_some _ (stops_cons htoken rest)]
          simp only [Option.bind_eq_bind, Option.bind_some, skip_of_not_blank hblank, if_pos]
          rfl
      | cons hsecond hmore =>
          have hrest := ih (List.cons_ne_nil _ _) (Nat.le_of_succ_le_succ hbudget)
          have hstops : inToken ',' = false := by decide
          rw [joined_cons_cons, List.append_assoc, List.cons_append, items?,
            hfirst.eq_some _ (stops_cons hstops _)]
          simp only [List.cons_append, Option.bind_eq_bind, Option.bind_some,
            skip_of_not_blank (by decide : isBlank ',' = false), if_neg hcomma, if_pos,
            items?_space hspace, hrest]
          rfl

/-- **Items between brackets are read**, one after another. -/
theorem within?_joined {written : List (List Char)} {as : List α}
    (h : List.Forall₂ (Reads item) written as) (rest : List Char) :
    within? item close (joined written ++ close :: rest) = some (as, rest) := by
  obtain ⟨hblank, -, -⟩ := hclose.facts
  cases written with
  | nil =>
      cases h
      rw [joined, List.nil_append, within?, skip_of_not_blank hblank]
      exact if_pos rfl
  | cons first more =>
      have hbegins : Begins first := by
        cases h with
        | cons hfirst _ => exact hfirst.begins
      obtain ⟨c, tail, htail, hc, hbracket, hbrace⟩ := begins_joined more hbegins
      have hopen : c ≠ close := by
        rcases hclose with rfl | rfl
        · exact hbracket
        · exact hbrace
      have hbudget : (first :: more).length ≤ (joined (first :: more) ++ close :: rest).length := by
        have hle := length_le_joined (first :: more)
        simp only [List.length_append, List.length_cons] at hle ⊢
        omega
      have hitems := items?_joined hspace hclose h (List.cons_ne_nil _ _) hbudget rest
      rw [htail, List.cons_append] at hitems ⊢
      rw [within?, skip_of_not_blank hc]
      simp only [if_neg hopen]
      exact hitems

end Items

/-! ## Values -/

theorem value?_space (depth : Nat) (cs : List Char) :
    value? depth (' ' :: cs) = value? depth cs := by
  cases depth with
  | zero => rfl
  | succ depth => rw [value?, value?, skip_space]

theorem pair?_space (value : List Char → Option (Value × List Char)) (cs : List Char) :
    pair? value (' ' :: cs) = pair? value cs := by
  rw [pair?, pair?, skip_space]

/-- Characters of numbers and words are no blanks, brackets or quotes. -/
theorem inToken_facts {c : Char} (h : inToken c = true) :
    isBlank c = false ∧ c ≠ ']' ∧ c ≠ '\x7d' ∧ c ≠ doubleQuote ∧ c ≠ '[' ∧ c ≠ '\x7b' := by
  have hne : ∀ d, inToken d = false → c ≠ d := by
    rintro d hd rfl
    rw [h] at hd
    cases hd
  refine ⟨?_, hne _ (by decide), hne _ (by decide), hne _ (by decide), hne _ (by decide),
    hne _ (by decide)⟩
  simp [isBlank, hne ' ' (by decide), hne '\t' (by decide), hne '\n' (by decide),
    hne '\r' (by decide)]

/-- Numbers and words are read as values. -/
theorem reads_token {token : List Char} {v : Value} (h : StandsFor token v) (depth : Nat) :
    Reads (value? (depth + 1)) token v := by
  obtain ⟨c, more, rfl⟩ := List.exists_cons_of_ne_nil h.ne_nil
  obtain ⟨hblank, hbracket, hbrace, hquote, hlist, hdict⟩ :=
    inToken_facts (h.inToken c (List.mem_cons_self ..))
  refine ⟨⟨c, more, rfl, hblank, hbracket, hbrace⟩, fun rest hrest => ?_⟩
  rw [← h.scalar? hrest, List.cons_append, value?, skip_of_not_blank hblank]
  simp only [if_neg hquote, if_neg hlist, if_neg hdict]

theorem reads_string (s : String) (depth : Nat) : Reads (value? (depth + 1)) (string s) (.str s) := by
  refine ⟨⟨doubleQuote, _, rfl, by decide, by decide, by decide⟩, fun rest _ => ?_⟩
  rw [string, List.append_assoc, List.cons_append, List.singleton_append, value?,
    skip_of_not_blank (by decide)]
  simp only [if_pos, text?_string]
  rfl

theorem reads_list {written : List (List Char)} {ws : List Value} {depth : Nat}
    (h : List.Forall₂ (Reads (value? depth)) written ws) :
    Reads (value? (depth + 1)) ('[' :: joined written ++ [']']) (.list ws) := by
  refine ⟨⟨'[', _, rfl, by decide, by decide, by decide⟩, fun rest _ => ?_⟩
  have hread := within?_joined (value?_space depth) (.inl rfl) h rest
  have hquote : '[' ≠ doubleQuote := by decide
  rw [List.append_assoc, List.cons_append, List.singleton_append, value?,
    skip_of_not_blank (by decide)]
  simp only [if_neg hquote, if_pos, hread]
  rfl

theorem reads_pair {body : List Char} {w : Value} {depth : Nat} (h : Reads (value? depth) body w)
    (name : String) :
    Reads (pair? (value? depth)) (string name ++ ':' :: ' ' :: body) (name, w) := by
  refine ⟨⟨doubleQuote, _, rfl, by decide, by decide, by decide⟩, fun rest hrest => ?_⟩
  rw [string, List.append_assoc, List.append_assoc, List.cons_append, List.singleton_append,
    List.cons_append, pair?, skip_of_not_blank (by decide)]
  simp only [if_pos, text?_string, Option.bind_eq_bind, Option.bind_some, List.cons_append,
    skip_of_not_blank (by decide : isBlank ':' = false), value?_space, h.eq_some rest hrest]
  rfl

theorem reads_dict {written : List (List Char)} {entries : Table Value} {depth : Nat}
    (h : List.Forall₂ (Reads (pair? (value? depth))) written entries)
    (hkeys : entries.keys.Nodup) :
    Reads (value? (depth + 1)) ('\x7b' :: joined written ++ ['\x7d']) (.dict entries) := by
  refine ⟨⟨'\x7b', _, rfl, by decide, by decide, by decide⟩, fun rest _ => ?_⟩
  have hread := within?_joined (pair?_space _) (.inr rfl) h rest
  have hquote : '\x7b' ≠ doubleQuote := by decide
  have hlist : '\x7b' ≠ '[' := by decide
  rw [List.append_assoc, List.cons_append, List.singleton_append, value?,
    skip_of_not_blank (by decide)]
  simp only [if_neg hquote, if_neg hlist, if_pos, hread, Option.map_some,
    Table.ofPairs_of_nodup hkeys]

/-! ## Data -/

/-- A value in writing holds a character at least. -/
theorem exists_depth {cs : List Char} {depth : Nat} (hne : cs ≠ []) (h : cs.length ≤ depth) :
    ∃ below, depth = below + 1 := by
  have hpos := List.length_pos_iff.mpr hne
  exact ⟨depth - 1, by omega⟩

/-- An entry and what is read of it. -/
def SameEntry (p q : String × Value) : Prop := q.1 = p.1 ∧ Value.Same q.2 p.2

theorem keys_of_forall₂ {s t : Table Value} (h : List.Forall₂ SameEntry s t) : t.keys = s.keys := by
  induction h with
  | nil => rfl
  | cons hfirst _ ih =>
      rw [Table.keys, Table.keys, List.map_cons, List.map_cons, hfirst.1]
      exact congrArg (_ :: ·) ih

theorem exists_get?_of_forall₂ {s t : Table Value} (h : List.Forall₂ SameEntry s t) {name : String}
    {w : Value} (hw : t.get? name = some w) : ∃ v, s.get? name = some v ∧ Value.Same w v := by
  induction h with
  | nil => cases hw
  | @cons p q _ _ hfirst _ ih =>
      obtain ⟨hname, hsame⟩ := hfirst
      rw [Table.get?] at hw ⊢
      rw [hname] at hw
      split at hw
      · next heq =>
        cases hw
        rw [if_pos heq]
        exact ⟨p.2, rfl, hsame⟩
      · next hne =>
        rw [if_neg hne]
        exact ih hw

/-- Entries that are the same one by one are the same dictionary in any order. -/
theorem same_dict_of_forall₂ {entries order read : Table Value} (hkeys : entries.keys.Nodup)
    (horder : order.Perm entries) (h : List.Forall₂ SameEntry order read) :
    Value.Same (.dict read) (.dict entries) := by
  refine .dict ?_ fun name w v hw hv => ?_
  · rw [keys_of_forall₂ h]
    exact horder.map _
  · obtain ⟨u, hu, hsame⟩ := exists_get?_of_forall₂ h hw
    rw [← Table.get?_perm horder.symm hkeys, hv] at hu
    cases hu
    exact hsame

theorem same_list_of_forall₂ {items ws : List Value}
    (h : List.Forall₂ (fun v w => Value.Same w v) items ws) :
    Value.Same (.list ws) (.list items) :=
  .list h.length_eq.symm fun _ hw hv => h.get hv hw

/-- Each item is shorter than the whole, so it is read to a lesser depth. -/
theorem length_le_of_joined {written : List (List Char)} {left right : Char} {below : Nat}
    (h : (left :: joined written ++ [right]).length ≤ below + 1) :
    ∀ item ∈ written, item.length ≤ below := by
  intro item hitem
  have hle := length_le_of_mem_joined hitem
  rw [List.length_append, List.length_cons] at h
  omega

theorem reads_of_standsFor {token : List Char} {v : Value} (h : StandsFor token v) (depth : Nat)
    (hdepth : token.length ≤ depth) : Reads (value? depth) token v := by
  obtain ⟨below, rfl⟩ := exists_depth h.ne_nil hdepth
  exact reads_token h below

/-- **What is written of data is read back as the same data.** -/
theorem exists_reads_of_write {v : Value} (h : v.IsData) {cs : List Char}
    (hwrite : write v = .ok cs) :
    ∃ w, Value.Same w v ∧ ∀ depth, cs.length ≤ depth → Reads (value? depth) cs w := by
  induction h generalizing cs with
  | null =>
      cases hwrite
      exact ⟨_, .null, reads_of_standsFor ⟨by decide, List.all_eq_true.mp rfl, rfl⟩⟩
  | bool b =>
      cases b <;> cases hwrite <;>
        exact ⟨_, .bool _, reads_of_standsFor ⟨by decide, List.all_eq_true.mp rfl, rfl⟩⟩
  | int i =>
      rw [write, integer] at hwrite
      split at hwrite
      · cases hwrite
        exact ⟨_, .int i, reads_of_standsFor (standsFor_ofInt i)⟩
      · cases hwrite
  | float x =>
      cases hwrite
      exact ⟨_, .float x, reads_of_standsFor (standsFor_float x)⟩
  | str s =>
      cases hwrite
      refine ⟨_, .str s, fun depth hdepth => ?_⟩
      obtain ⟨below, rfl⟩ := exists_depth (List.cons_ne_nil _ _) hdepth
      exact reads_string s below
  | @list items _ ih =>
      obtain ⟨written, hwritten, rfl⟩ := write_list_eq_ok_iff.mp hwrite
      obtain ⟨ws, hsame, hreads⟩ := exists_forall₂ hwritten fun v hv item hitem => ih v hv hitem
      refine ⟨.list ws, same_list_of_forall₂ hsame, fun depth hdepth => ?_⟩
      obtain ⟨below, rfl⟩ := exists_depth (List.cons_ne_nil _ _) hdepth
      have hboth := (List.forall₂_and_left _ _).mpr ⟨length_le_of_joined hdepth, hreads⟩
      exact reads_list (hboth.imp fun item w hitem => hitem.2 below hitem.1)
  | @dict entries hkeys _ ih =>
      have horder := entries.perm_sorted
      obtain ⟨written, hwritten, rfl⟩ := (write_dict_eq_ok_iff hkeys).mp hwrite
      have hentry : ∀ p ∈ entries.sorted, ∀ item, WritesEntry p item → ∃ q, SameEntry p q ∧
          ∀ depth, item.length ≤ depth → Reads (pair? (value? depth)) item q := by
        rintro p hp _ ⟨body, hbody, rfl⟩
        obtain ⟨w, hsame, hreads⟩ := ih p (horder.subset hp) hbody
        refine ⟨(p.1, w), ⟨rfl, hsame⟩, fun depth hdepth => reads_pair (hreads depth ?_) p.1⟩
        simp only [List.length_append, List.length_cons] at hdepth
        omega
      obtain ⟨read, hsame, hreads⟩ := exists_forall₂ hwritten hentry
      refine ⟨.dict read, same_dict_of_forall₂ hkeys horder hsame, fun depth hdepth => ?_⟩
      obtain ⟨below, rfl⟩ := exists_depth (List.cons_ne_nil _ _) hdepth
      have hboth := (List.forall₂_and_left _ _).mpr ⟨length_le_of_joined hdepth, hreads⟩
      refine reads_dict (hboth.imp fun item q hitem => hitem.2 below hitem.1) ?_
      rw [keys_of_forall₂ hsame]
      exact (horder.map _).nodup_iff.mpr hkeys

/-- **A record is read back**, with blanks behind it. -/
theorem exists_read?_of_write {v : Value} (h : v.IsData) {cs : List Char}
    (hwrite : write v = .ok cs) :
    ∃ w, Value.Same w v ∧ ∀ blanks, (∀ c ∈ blanks, isBlank c = true) →
      read? (cs ++ blanks) = some w := by
  obtain ⟨w, hsame, hreads⟩ := exists_reads_of_write h hwrite
  refine ⟨w, hsame, fun blanks hblanks => ?_⟩
  have hstops : Stops inToken blanks := by
    intro c hc
    by_contra htoken
    have hblank := hblanks c (List.mem_of_mem_head? hc)
    rw [(inToken_facts (Bool.of_not_eq_false htoken)).1] at hblank
    cases hblank
  have hskip : skip blanks = [] := List.dropWhile_eq_nil_iff.mpr hblanks
  have hdepth : cs.length ≤ (cs ++ blanks).length := by
    rw [List.length_append]
    exact Nat.le_add_right _ _
  rw [read?, (hreads _ hdepth).eq_some blanks hstops]
  simp only [Option.bind_eq_bind, Option.bind_some, hskip, if_pos]
  rfl

end Json

end Telemetry
