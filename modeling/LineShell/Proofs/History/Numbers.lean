import Mathlib
import LineShell.Command.Lookup
import LineShell.Proofs.History.References

/-!
# Numbers of history entries

Entries are numbered from one, both where they are listed and where a reference names
them.  A reference that is a number never means anything but the entry with that number;
any other text means the last entry that begins with it.
-/

namespace LineShell

namespace Text

theorem isBlank_of_isDigit {c : Char} (h : c.isDigit = true) : isBlank c = false := by
  have hrange : 48 ≤ c.toNat ∧ c.toNat ≤ 57 := by
    simpa using Char.isDigit_iff_toNat.mp h
  by_contra hblank
  have hcode := toNat_mem_blankCodes (Bool.not_eq_false _ ▸ hblank)
  have hcodes : ∀ n ∈ blankCodes, n < 48 ∨ 57 < n := by decide
  have := hcodes c.toNat hcode
  omega

theorem isDigit_of_mem_toString {n : Nat} {c : Char} (h : c ∈ (toString n).toList) :
    c.isDigit = true := by
  rw [Nat.toString_eq_ofList_toDigits, String.toList_ofList] at h
  exact Nat.isDigit_of_mem_toDigits (by decide) (by decide) h

theorem toString_ne_empty (n : Nat) : toString n ≠ "" := by
  rw [Nat.toString_eq_ofList_toDigits]
  simp

theorem index?_of_digits {s : String} (hne : s ≠ "")
    (hdigits : ∀ c ∈ s.toList, c.isDigit = true) :
    index? s = if digitsValue s.toList < indexLimit then some (digitsValue s.toList) else none := by
  cases hs : s.toList with
  | nil => exact absurd (String.toList_eq_nil_iff.mp hs) hne
  | cons c cs =>
      rw [hs] at hdigits
      have hplus : c ≠ '+' := by
        rintro rfl
        exact absurd (hdigits '+' List.mem_cons_self) (by decide)
      have hall : (c :: cs).all Char.isDigit = true := List.all_eq_true.mpr hdigits
      simp [index?, hs, hplus, hall]

/-- A number that an index can be is read back. -/
theorem index?_toString {n : Nat} (h : n < indexLimit) : index? (toString n) = some n := by
  have hvalue : digitsValue (toString n).toList = n := by
    rw [Nat.toString_eq_ofList_toDigits, String.toList_ofList, digitsValue,
      ← Nat.ofDigitChars_eq_foldl]
    exact Nat.ofDigitChars_ten_toDigits
  rw [index?_of_digits (toString_ne_empty n) fun c hc ↦ isDigit_of_mem_toString hc, hvalue,
    if_pos h]

end Text

namespace History

/-- The place of the entry that a reference means: the last one, the one with the number,
or the last one that begins with the reference. -/
inductive Means (history : List String) (reference : String) : Nat → Prop
  | last {i : Nat} (h : reference = "!") (hlast : i + 1 = history.length) :
      Means history reference i
  | number {n : Nat} (h : reference ≠ "!") (hn : Text.index? reference = some n)
      (hfirst : 1 ≤ n) (hlast : n ≤ history.length) : Means history reference (n - 1)
  | beginning {i : Nat} (h : reference ≠ "!") (hn : Text.index? reference = none)
      (hi : IsGreatest {j : ℕ | ∃ entry, history[j]? = some entry ∧
        reference.toList <+: entry.toList} i) : Means history reference i

theorem Means.exists_entry {history : List String} {reference : String} {i : Nat}
    (h : Means history reference i) : ∃ entry, history[i]? = some entry := by
  cases h with
  | last h hlast => exact ⟨_, List.getElem?_eq_getElem (by omega)⟩
  | number h hn hfirst hlast => exact ⟨_, List.getElem?_eq_getElem (by omega)⟩
  | beginning h hn hi =>
      obtain ⟨entry, hentry, -⟩ := hi.1
      exact ⟨entry, hentry⟩

theorem getElem?_concat_eq_some_iff (front : List String) (last e : String) (j : ℕ) :
    (front ++ [last])[j]? = some e ↔ front[j]? = some e ∨ j = front.length ∧ last = e := by
  rcases Nat.lt_trichotomy j front.length with hj | rfl | hj
  · rw [List.getElem?_append_left hj]
    simp [hj.ne]
  · simp
  · rw [List.getElem?_append_right hj.le, List.getElem?_eq_none hj.le]
    simp [hj.ne', Nat.sub_eq_zero_iff_le, hj]

/-- A search from the end finds the last entry that passes. -/
theorem find?_reverse_eq_some_iff (p : String → Bool) (history : List String) (entry : String) :
    history.reverse.find? p = some entry ↔
      ∃ i, IsGreatest {j : ℕ | ∃ e, history[j]? = some e ∧ p e = true} i ∧
        history[i]? = some entry := by
  induction history using List.reverseRecOn with
  | nil => simp
  | append_singleton front last ih =>
      simp only [List.reverse_append, List.reverse_singleton, List.singleton_append,
        List.find?_cons, getElem?_concat_eq_some_iff]
      cases hp : p last with
      | true =>
          have hgreatest : IsGreatest {j : ℕ | ∃ e,
              (front[j]? = some e ∨ j = front.length ∧ last = e) ∧ p e = true} front.length := by
            refine ⟨⟨last, .inr ⟨rfl, rfl⟩, hp⟩, ?_⟩
            rintro j ⟨e, hfront | ⟨rfl, -⟩, -⟩
            · exact (List.getElem?_eq_some_iff.mp hfront).1.le
            · exact le_rfl
          constructor
          · rintro ⟨rfl⟩
            exact ⟨front.length, hgreatest, .inr ⟨rfl, rfl⟩⟩
          · rintro ⟨i, hi, hentry⟩
            rw [hi.unique hgreatest] at hentry
            simpa using hentry
      | false =>
          -- The last entry does not pass, so that the places are those of the others.
          have hplaces : {j : ℕ | ∃ e,
              (front[j]? = some e ∨ j = front.length ∧ last = e) ∧ p e = true} =
                {j : ℕ | ∃ e, front[j]? = some e ∧ p e = true} := by
            ext j
            constructor
            · rintro ⟨e, hfront | ⟨-, rfl⟩, hpe⟩
              · exact ⟨e, hfront, hpe⟩
              · simp [hp] at hpe
            · rintro ⟨e, hfront, hpe⟩
              exact ⟨e, .inl hfront, hpe⟩
          rw [hplaces, ih]
          refine exists_congr fun i ↦ and_congr_right fun hi ↦ ?_
          obtain ⟨e, he, -⟩ := hi.1
          have hlt := (List.getElem?_eq_some_iff.mp he).1
          simp [hlt.ne]

theorem find?_eq_some_iff (history : List String) (reference entry : String) :
    find? history reference = some entry ↔
      ∃ i, Means history reference i ∧ history[i]? = some entry := by
  constructor
  · intro h
    unfold find? at h
    split_ifs at h with hmark
    · rw [List.getLast?_eq_getElem?] at h
      have hlt := (List.getElem?_eq_some_iff.mp h).1
      exact ⟨history.length - 1, .last hmark (by omega), h⟩
    · split at h
      · rename_i n hn
        split_ifs at h with hzero
        have hlt := (List.getElem?_eq_some_iff.mp h).1
        exact ⟨n - 1, .number hmark hn (by omega) (by omega), h⟩
      · rename_i hn
        obtain ⟨i, hi, hentry⟩ := (find?_reverse_eq_some_iff _ history entry).mp h
        refine ⟨i, .beginning hmark hn ?_, hentry⟩
        simpa [Text.startsWith] using hi
  · rintro ⟨i, hmeans, hentry⟩
    unfold find?
    cases hmeans with
    | last h hlast =>
        obtain rfl : i = history.length - 1 := by omega
        rw [if_pos h, List.getLast?_eq_getElem?, hentry]
    | number h hn hfirst hlast =>
        rw [if_neg h, hn]
        simp only
        rw [if_neg (by omega), hentry]
    | beginning h hn hi =>
        rw [if_neg h, hn]
        simp only
        rw [find?_reverse_eq_some_iff]
        exact ⟨i, by simpa [Text.startsWith] using hi, hentry⟩

theorem find?_eq_none_iff (history : List String) (reference : String) :
    find? history reference = none ↔ ∀ i, ¬Means history reference i := by
  rw [Option.eq_none_iff_forall_ne_some]
  constructor
  · intro h i hmeans
    obtain ⟨entry, hentry⟩ := hmeans.exists_entry
    exact h entry ((find?_eq_some_iff history reference entry).mpr ⟨i, hmeans, hentry⟩)
  · intro h entry hfind
    obtain ⟨i, hmeans, -⟩ := (find?_eq_some_iff history reference entry).mp hfind
    exact h i hmeans

theorem expand_eq_eventNotFound_iff {line reference rest : String}
    (h : Refers line reference rest) (history : List String) :
    expand history line = .error .eventNotFound ↔ ∀ i, ¬Means history reference i := by
  rw [expand_of_refers h, ← find?_eq_none_iff]
  cases find? history reference <;> simp

theorem expand_of_means {line reference rest : String} (h : Refers line reference rest)
    {history : List String} {i : Nat} (hmeans : Means history reference i) :
    ∃ entry, history[i]? = some entry ∧
      expand history line = .ok (some (entry ++ rest)) := by
  obtain ⟨entry, hentry⟩ := hmeans.exists_entry
  refine ⟨entry, hentry, ?_⟩
  rw [expand_of_refers h, (find?_eq_some_iff history reference entry).mpr ⟨i, hmeans, hentry⟩]

/-- The mark and a number. -/
def numberLine (n : Nat) : String :=
  "!" ++ toString n

theorem refers_numberLine (n : Nat) : Refers (numberLine n) (toString n) "" where
  spelled := by rw [numberLine, String.append_empty]
  nonempty := Text.toString_ne_empty n
  unbroken _ hc := Text.isBlank_of_isDigit (Text.isDigit_of_mem_toString hc)
  apart := by simp

theorem means_toString {history : List String} {n : Nat} (hfirst : 1 ≤ n)
    (hlast : n ≤ history.length) (hlimit : n < Text.indexLimit) :
    Means history (toString n) (n - 1) := by
  refine .number ?_ (Text.index?_toString hlimit) hfirst hlast
  intro hmark
  have hdigit := Text.isDigit_of_mem_toString (n := n) (c := '!') (by simp [hmark])
  exact absurd hdigit (by decide)

/-- The last entries, at most as many as asked for, with their numbers from one. -/
def lastNumbered (history : List String) (count : Nat) : List (Nat × String) :=
  let shown := min count history.length
  (List.range' (history.length - shown + 1) shown).zip (history.rtake count)

theorem length_lastNumbered (history : List String) (count : Nat) :
    (lastNumbered history count).length = min count history.length := by
  simp only [lastNumbered, List.length_zip, List.length_range', List.rtake, List.length_drop]
  omega

theorem getElem_lastNumbered {history : List String} {count j : Nat}
    (hj : j < (lastNumbered history count).length)
    (hplace : history.length - count + j < history.length) :
    (lastNumbered history count)[j] =
      (history.length - count + j + 1, history[history.length - count + j]) := by
  have hskip : history.length - min count history.length = history.length - count := by omega
  simp only [lastNumbered, List.getElem_zip, List.getElem_range', List.rtake, List.getElem_drop,
    hskip, Prod.mk.injEq, and_true]
  omega

/-- Each row has the number of its entry. -/
theorem lastNumbered_row {history : List String} {count j : Nat} {row : Nat × String}
    (h : (lastNumbered history count)[j]? = some row) :
    row.1 = history.length - count + j + 1 ∧ history[row.1 - 1]? = some row.2 := by
  obtain ⟨hj, rfl⟩ := List.getElem?_eq_some_iff.mp h
  have hlength := length_lastNumbered history count
  have hplace : history.length - count + j < history.length := by omega
  rw [getElem_lastNumbered hj hplace]
  exact ⟨rfl, by simp [hplace]⟩

end History

namespace Command

theorem numberedFrom_eq (history : List String) (count : Nat) :
    numberedFrom (history.length - count) history =
      (History.lastNumbered history count).map fun row ↦ toString row.1 ++ " " ++ row.2 := by
  have hlength := History.length_lastNumbered history count
  apply List.ext_getElem
  · simp only [numberedFrom, List.length_map, List.length_drop, List.length_zipIdx, hlength]
    omega
  · intro j hleft hright
    rw [List.length_map] at hright
    have hplace : history.length - count + j < history.length := by omega
    simp [numberedFrom, History.getElem_lastNumbered hright hplace]

/-- How many entries a call of `history` asks for; none if it asks for no number. -/
def askedEntries (s : Session) (call : Invocation) : Option Nat :=
  match call.args with
  | [] => some s.history.length
  | count :: _ => Text.index? count

theorem history_eq {s : Session} {call : Invocation} {count : Nat}
    (h : askedEntries s call = some count) :
    history s call = Text.joinWith "\n"
      ((History.lastNumbered s.history count).map fun row ↦ toString row.1 ++ " " ++ row.2) := by
  rw [← numberedFrom_eq]
  cases hargs : call.args with
  | nil =>
      obtain rfl : s.history.length = count := by simpa [askedEntries, hargs] using h
      simp [history, hargs]
  | cons word rest =>
      have hcount : Text.index? word = some count := by simpa [askedEntries, hargs] using h
      simp [history, hargs, hcount]

end Command
end LineShell
