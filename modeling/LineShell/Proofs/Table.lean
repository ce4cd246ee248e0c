import LineShell.Table
import Mathlib.Data.List.Induction
import Mathlib.Data.List.Sort
import Mathlib.Data.String.Basic

/-!
# Looking names up

What a table answers after entries were put into it one by one: of two entries
with one name the later one counts.  No two entries of a table share a name, so
that an entry is in it exactly when the look-up of its name gives its value.
-/

namespace LineShell
namespace Table

variable {α : Type}

theorem find?_append (k : String) (xs ys : List (String × α)) :
    find? k (xs ++ ys) = (find? k xs).or (find? k ys) := by
  induction xs with
  | nil => simp [find?]
  | cons e xs ih =>
      by_cases h : e.1 = k
      · simp [find?, h]
      · simpa [find?, h] using ih

theorem isSome_find?_iff {k : String} {es : List (String × α)} :
    (find? k es).isSome ↔ ∃ e ∈ es, e.1 = k := by
  induction es with
  | nil => simp [find?]
  | cons e es ih =>
      by_cases h : e.1 = k
      · simp [find?, h]
      · simp [find?, h, ih]

/-- Where the names differ, the look-up of a name finds its only entry. -/
theorem find?_eq_some_iff_mem {es : List (String × α)}
    (hes : es.Pairwise fun a b ↦ a.1 ≠ b.1) {k : String} {v : α} :
    find? k es = some v ↔ (k, v) ∈ es := by
  induction es with
  | nil => simp [find?]
  | cons e es ih =>
      obtain ⟨hfirst, hrest⟩ := List.pairwise_cons.mp hes
      by_cases h : e.1 = k
      · have hnot : ∀ w, (k, w) ∉ es := fun w hw ↦ hfirst (k, w) hw h
        simp [find?, h, hnot, Prod.ext_iff, eq_comm]
      · have hne : (k, v) ≠ e := fun heq ↦ h (by rw [← heq])
        simp [find?, h, ih hrest, hne]

/-- The names of a table differ. -/
theorem pairwise_ne (t : Table α) : t.entries.Pairwise fun a b ↦ a.1 ≠ b.1 :=
  t.sorted.imp fun {a b} hlt (heq : a.1 = b.1) ↦ String.lt_irrefl b.1 (heq ▸ hlt)

theorem get?_eq_some_iff_mem {t : Table α} {k : String} {v : α} :
    t.get? k = some v ↔ (k, v) ∈ t.entries :=
  find?_eq_some_iff_mem t.pairwise_ne

/-- Tables with the same look-ups are equal. -/
theorem ext_get? {t u : Table α} (h : ∀ k, t.get? k = u.get? k) : t = u := by
  have hirrefl : Std.Irrefl fun a b : String × α ↦ a.1 < b.1 := ⟨fun a ↦ lt_irrefl a.1⟩
  have hantisymm : Std.Antisymm fun a b : String × α ↦ a.1 < b.1 :=
    ⟨fun _ _ hab hba ↦ absurd hba hab.asymm⟩
  have hmem : ∀ e, e ∈ t.entries ↔ e ∈ u.entries := by
    intro e
    rw [← get?_eq_some_iff_mem, ← get?_eq_some_iff_mem, h]
  have hentries : t.entries = u.entries := t.sorted.eq_of_mem_iff u.sorted hmem
  cases t
  cases u
  cases hentries
  rfl

/-- The order of the entries does not matter to a look-up. -/
theorem find?_reverse_entries (t : Table α) (k : String) :
    find? k t.entries.reverse = t.get? k := by
  have hreverse : t.entries.reverse.Pairwise fun a b ↦ a.1 ≠ b.1 :=
    List.pairwise_reverse.mpr (t.pairwise_ne.imp Ne.symm)
  refine Option.ext fun v ↦ ?_
  rw [find?_eq_some_iff_mem hreverse, List.mem_reverse, get?_eq_some_iff_mem]

/-- The last entry with a name counts, and what the table held before counts if there is
none. -/
theorem get?_foldl_insert (es : List (String × α)) (t : Table α) (k : String) :
    (es.foldl (fun t e ↦ t.insert e.1 e.2) t).get? k = (find? k es.reverse).or (t.get? k) := by
  induction es generalizing t with
  | nil => simp [find?]
  | cons e es ih =>
      rw [List.foldl_cons, ih, List.reverse_cons, find?_append, Option.or_assoc, get?_insert]
      by_cases h : e.1 = k <;> simp [find?, h]

theorem get?_ofList (es : List (String × α)) (k : String) :
    (ofList es).get? k = find? k es.reverse := by
  rw [ofList, get?_foldl_insert]
  simp [empty, get?, find?]

/-- The last of several entries whose names lie in order is the one with the greatest
name. -/
theorem find?_map_reverse_eq_some_iff {es : List (String × α)}
    (hes : es.Pairwise fun a b ↦ a.1 < b.1) (f : String → String) {l : String} {v : α} :
    find? l (es.map fun e ↦ (f e.1, e.2)).reverse = some v ↔
      ∃ k, (k, v) ∈ es ∧ f k = l ∧ ∀ e ∈ es, f e.1 = l → e.1 ≤ k := by
  -- The induction takes the entries from the end, where the reversed list begins.
  induction es using List.reverseRecOn with
  | nil => simp [find?]
  | append_singleton es e ih =>
      obtain ⟨hinit, -, hbefore⟩ := List.pairwise_append.mp hes
      have hlt : ∀ d ∈ es, d.1 < e.1 := fun d hd ↦ hbefore d hd e (List.mem_singleton_self e)
      rw [List.map_append, List.reverse_append]
      by_cases h : f e.1 = l
      · constructor
        · intro hv
          obtain rfl : e.2 = v := by simpa [find?, h] using hv
          refine ⟨e.1, by simp, h, fun d hd _ ↦ ?_⟩
          rcases List.mem_append.mp hd with hd | hd
          · exact (hlt d hd).le
          · exact (congrArg Prod.fst (List.mem_singleton.mp hd)).le
        · rintro ⟨k, hk, -, hlast⟩
          have hek : e.1 ≤ k := hlast e (by simp) h
          rcases List.mem_append.mp hk with hk | hk
          · exact absurd (hlt _ hk) hek.not_gt
          · obtain rfl := List.mem_singleton.mp hk
            simp [find?, h]
      · have hne : ∀ k, f k = l → (k, v) ≠ e := fun k hk heq ↦ h (by rw [← heq, hk])
        simp only [List.map_cons, List.map_nil, List.reverse_singleton, List.singleton_append,
          find?, if_neg h, ih hinit, List.mem_append, List.mem_singleton]
        refine exists_congr fun k ↦ ⟨?_, ?_⟩
        · rintro ⟨hk, hl, hlast⟩
          refine ⟨.inl hk, hl, fun d hd hdl ↦ hd.elim (hlast d · hdl) ?_⟩
          rintro rfl
          exact absurd hdl h
        · rintro ⟨hk, hl, hlast⟩
          exact ⟨hk.resolve_right (hne k hl), hl, fun d hd ↦ hlast d (.inl hd)⟩

end Table
end LineShell
