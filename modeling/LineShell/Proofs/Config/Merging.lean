import Mathlib
import LineShell.Config.Overlay
import LineShell.Proofs.Config.Interpreters

/-!
# What an overlay leaves

A table with an overlay is told by its look-ups, a list by the items that stay and those
that are new.  Laying the same overlay over the settings once more finds everything done;
only an item of a list that is removed and added at once moves to the end again.
-/

namespace LineShell
namespace Overlay

/-- The items that a list does not have, each once, in the order in which they first come. -/
def newItems (base items : List String) : List String :=
  (items.filter (· ∉ base)).eraseDups

variable {base add remove : List String}

theorem mem_newItems {item : String} : item ∈ newItems base add ↔ item ∈ add ∧ item ∉ base := by
  simp [newItems, List.mem_eraseDups]

theorem newItems_cons_of_mem {item : String} (h : item ∈ base) (items : List String) :
    newItems base (item :: items) = newItems base items := by
  simp [newItems, h]

theorem newItems_cons_of_notMem {item : String} (h : item ∉ base) (items : List String) :
    newItems base (item :: items) = item :: newItems (base ++ [item]) items := by
  have hrest : (items.filter (· ∉ base)).filter (fun other ↦ !other == item) =
      items.filter (· ∉ base ++ [item]) := by
    rw [List.filter_filter]
    refine List.filter_congr fun other _ ↦ ?_
    by_cases hother : other = item <;> simp [hother]
  rw [newItems, List.filter_cons_of_pos (by simpa using h), List.eraseDups_cons, hrest]
  rfl

theorem nodup_newItems (base items : List String) : (newItems base items).Nodup := by
  induction items generalizing base with
  | nil => simp [newItems]
  | cons item items ih =>
      by_cases h : item ∈ base
      · rw [newItems_cons_of_mem h]
        exact ih base
      · rw [newItems_cons_of_notMem h, List.nodup_cons]
        exact ⟨fun hmem ↦ (mem_newItems.mp hmem).2 (by simp), ih _⟩

theorem addMissing_eq (base items : List String) :
    addMissing base items = base ++ newItems base items := by
  induction items generalizing base with
  | nil => simp [addMissing, newItems]
  | cons item items ih =>
      have hstep : addMissing base (item :: items) =
          addMissing (if item ∈ base then base else base ++ [item]) items := rfl
      rw [hstep, ih]
      by_cases h : item ∈ base
      · rw [if_pos h, newItems_cons_of_mem h]
      · rw [if_neg h, newItems_cons_of_notMem h, List.append_assoc, List.singleton_append]

/-- The items of a list that an overlay does not remove. -/
def keptItems (base remove : List String) : List String :=
  base.filter (· ∉ remove)

theorem mem_keptItems {item : String} : item ∈ keptItems base remove ↔ item ∈ base ∧ item ∉ remove := by
  simp [keptItems]

theorem mergeList_eq (base add remove : List String) :
    mergeList base add remove false =
      keptItems base remove ++ newItems (keptItems base remove) add :=
  addMissing_eq _ _

/-- No item is there twice because of the overlay. -/
theorem count_mergeList_le (base add remove : List String) (item : String) :
    (mergeList base add remove false).count item ≤ max 1 (base.count item) := by
  rw [mergeList_eq, List.count_append]
  by_cases hkept : item ∈ keptItems base remove
  · have hnew : (newItems (keptItems base remove) add).count item = 0 :=
      List.count_eq_zero.mpr fun h ↦ (mem_newItems.mp h).2 hkept
    have hle : (keptItems base remove).count item ≤ base.count item :=
      List.Sublist.count_le item List.filter_sublist
    omega
  · have hzero : (keptItems base remove).count item = 0 := List.count_eq_zero.mpr hkept
    have hnew := List.nodup_iff_count_le_one.mp (nodup_newItems (keptItems base remove) add) item
    omega

/-- What a second merge starts from: of the items that were added, those to remove go. -/
theorem keptItems_mergeList (base add remove : List String) :
    keptItems (mergeList base add remove false) remove = keptItems base remove ++
      keptItems (newItems (keptItems base remove) add) remove := by
  rw [mergeList_eq, keptItems, List.filter_append]
  congr 1
  rw [keptItems, List.filter_filter]
  simp

/-- Merged once more, a list has the items that are both removed and added at its end. -/
theorem perm_mergeList_mergeList (base add remove : List String) (replace : Bool) :
    (mergeList (mergeList base add remove replace) add remove replace).Perm
      (mergeList base add remove replace) := by
  cases replace with
  | true => exact .refl _
  | false =>
      rw [mergeList_eq, keptItems_mergeList, mergeList_eq base, List.append_assoc]
      refine List.Perm.append_left _ ?_
      generalize hkept : keptItems base remove = kept
      -- The items that went are the ones that come again.
      have hagain : (newItems (kept ++ keptItems (newItems kept add) remove) add).Perm
          ((newItems kept add).filter fun item ↦ !decide (item ∉ remove)) := by
        rw [List.perm_ext_iff_of_nodup (nodup_newItems _ _) ((nodup_newItems _ _).filter _)]
        intro item
        simp only [mem_newItems, List.mem_append, mem_keptItems, List.mem_filter]
        by_cases hremoved : item ∈ remove
        · simp [hremoved]
        · simp [hremoved]
          tauto
      exact (hagain.append_left _).trans (List.filter_append_perm _ _)

/-- Unless an item is both removed and added, a second merge changes nothing. -/
theorem mergeList_mergeList {replace : Bool} (h : replace = true ∨ ∀ item ∈ add, item ∉ remove)
    (base : List String) :
    mergeList (mergeList base add remove replace) add remove replace =
      mergeList base add remove replace := by
  cases replace with
  | true => rfl
  | false =>
      have hadd : ∀ item ∈ add, item ∉ remove := h.resolve_left Bool.false_ne_true
      have hstays : keptItems (newItems (keptItems base remove) add) remove =
          newItems (keptItems base remove) add := by
        refine List.filter_eq_self.mpr fun item hitem ↦ ?_
        simpa using hadd item (mem_newItems.mp hitem).1
      have hnone : newItems (mergeList base add remove false) add = [] := by
        refine List.eq_nil_iff_forall_not_mem.mpr fun item hitem ↦ ?_
        obtain ⟨hmem, hmissing⟩ := mem_newItems.mp hitem
        rw [mergeList_eq, List.mem_append, mem_newItems] at hmissing
        tauto
      have hmerged : keptItems (mergeList base add remove false) remove =
          mergeList base add remove false := by
        rw [keptItems_mergeList, hstays, ← mergeList_eq]
      rw [mergeList_eq, hmerged, hnone, List.append_nil]

theorem mergeTable_mergeTable (base add : Table String) (remove : List String) (replace : Bool) :
    mergeTable (mergeTable base add remove replace) add remove replace =
      mergeTable base add remove replace := by
  cases replace with
  | true => rfl
  | false =>
      refine Table.ext_get? fun k ↦ ?_
      simp only [get?_mergeTable]
      cases add.get? k with
      | some v => rfl
      | none => split_ifs <;> rfl

theorem mergeTable_empty (base : Table String) : mergeTable base .empty [] false = base := by
  refine Table.ext_get? fun k ↦ ?_
  rw [get?_mergeTable]
  simp [Table.empty, Table.get?, Table.find?]

theorem mergeList_empty (base : List String) : mergeList base [] [] false = base := by
  rw [mergeList_eq]
  simp [newItems, keptItems]

/-- What a table with an overlay answers. -/
structure MergesTable (base add : Table String) (remove : List String) (replace : Bool)
    (merged : Table String) : Prop where
  replaced : replace = true → merged = add
  added : replace = false → ∀ k v, add.get? k = some v → merged.get? k = some v
  kept : replace = false → ∀ k, add.get? k = none → k ∉ remove → merged.get? k = base.get? k
  removed : replace = false → ∀ k, add.get? k = none → k ∈ remove → merged.get? k = none

/-- Which items a list with an overlay has, and in which order. -/
structure MergesList (base add remove : List String) (replace : Bool)
    (merged : List String) : Prop where
  replaced : replace = true → merged = add
  extended : replace = false →
    merged = base.filter (· ∉ remove) ++ newItems (base.filter (· ∉ remove)) add
  once : replace = false → ∀ item, merged.count item ≤ max 1 (base.count item)

/-- A scalar is the one of the overlay, if that has one. -/
structure MergesScalar {α : Type} (base : α) (given : Option α) (merged : α) : Prop where
  overridden : ∀ v, given = some v → merged = v
  kept : given = none → merged = base

theorem mergesTable_mergeTable (base add : Table String) (remove : List String)
    (replace : Bool) :
    MergesTable base add remove replace (mergeTable base add remove replace) where
  replaced := by
    rintro rfl
    rfl
  added := by
    rintro rfl k v hv
    simp [get?_mergeTable, hv]
  kept := by
    rintro rfl k hnone hkept
    simp [get?_mergeTable, hnone, hkept]
  removed := by
    rintro rfl k hnone hremoved
    simp [get?_mergeTable, hnone, hremoved]

theorem mergesList_mergeList (base add remove : List String) (replace : Bool) :
    MergesList base add remove replace (mergeList base add remove replace) where
  replaced := by
    rintro rfl
    rfl
  extended := by
    rintro rfl
    exact mergeList_eq base add remove
  once := by
    rintro rfl
    exact count_mergeList_le base add remove

theorem mergesScalar_getD {α : Type} (base : α) (given : Option α) :
    MergesScalar base given (given.getD base) where
  overridden := by
    rintro v rfl
    rfl
  kept := by
    rintro rfl
    rfl

theorem mergesScalar_or {α : Type} (base given : Option α) :
    MergesScalar base (given.map some) (given.or base) where
  overridden := by
    intro v hv
    obtain ⟨a, rfl, rfl⟩ := Option.map_eq_some_iff.mp hv
    rfl
  kept := by
    intro hnone
    rw [Option.map_eq_none_iff.mp hnone]
    rfl

theorem apply_empty (c : Config) : ({} : Overlay).apply c = c := by
  simp [apply, mergeTable_empty, mergeList_empty]

/-- A second time, an overlay can change the order of a list and nothing else. -/
theorem apply_apply (o : Overlay) (c : Config) :
    o.apply (o.apply c) =
      { o.apply c with
        external.suffixes := mergeList (o.apply c).external.suffixes o.external.suffixes
          o.external.removeSuffixes o.external.replace } := by
  have hgetD : ∀ {α : Type} (given : Option α) (base : α),
      given.getD (given.getD base) = given.getD base := by
    intro α given base
    cases given <;> rfl
  have hor : o.logging.file.or (o.logging.file.or c.logging.file) =
      o.logging.file.or c.logging.file := by
    cases o.logging.file <;> rfl
  simp [apply, mergeTable_mergeTable, hgetD, hor]

/-- Each section of the settings is merged by its own part of the overlay: a table by its
look-ups, a list in order and without new duplicates, a scalar as a whole.  The flag to replace
the defaults counts for its section only.  The empty overlay changes nothing, a section that an
overlay does not mention is kept, and an overlay that is laid twice does what it does once, up
to the order of the suffixes if one of them is both removed and added. -/
theorem apply_merges (o : Overlay) (c : Config) :
    let once := o.apply c
    let twice := o.apply once
    (MergesTable c.aliases o.aliases.define o.aliases.remove o.aliases.replace once.aliases ∧
      MergesTable c.external.interpreters o.external.interpreters o.external.removeInterpreters
        o.external.replace once.external.interpreters ∧
      MergesList c.external.suffixes o.external.suffixes o.external.removeSuffixes
        o.external.replace once.external.suffixes ∧
      MergesScalar c.settings.historyExpansion o.settings.historyExpansion
        once.settings.historyExpansion ∧
      MergesScalar c.settings.prompt o.settings.prompt once.settings.prompt ∧
      MergesScalar c.logging.level o.logging.level once.logging.level ∧
      MergesScalar c.logging.file (o.logging.file.map some) once.logging.file) ∧
    (∀ flag, ∃ aliases,
      ({ o with aliases.replace := flag } : Overlay).apply c = { once with aliases := aliases }) ∧
    (∀ flag, ∃ external,
      ({ o with external.replace := flag } : Overlay).apply c =
        { once with external := external }) ∧
    ({} : Overlay).apply c = c ∧
    (o.settings = {} → once.settings = c.settings) ∧
    (o.aliases = {} → once.aliases = c.aliases) ∧
    (o.external = {} → once.external = c.external) ∧
    (o.logging = {} → once.logging = c.logging) ∧
    twice = { once with external.suffixes := twice.external.suffixes } ∧
    twice.external.suffixes.Perm once.external.suffixes ∧
    (o.external.replace = true ∨
        (∀ suffix ∈ o.external.suffixes, suffix ∉ o.external.removeSuffixes) →
      twice = once) := by
  intro once twice
  refine ⟨⟨mergesTable_mergeTable .., mergesTable_mergeTable .., mergesList_mergeList ..,
    mergesScalar_getD .., mergesScalar_getD .., mergesScalar_getD .., mergesScalar_or ..⟩,
    fun flag ↦ ⟨_, rfl⟩, fun flag ↦ ⟨_, rfl⟩, apply_empty c, ?_, ?_, ?_, ?_, ?_, ?_, ?_⟩
  · intro h
    simp [once, apply, h]
  · intro h
    simp [once, apply, h, mergeTable_empty]
  · intro h
    simp [once, apply, h, mergeTable_empty, mergeList_empty]
  · intro h
    simp [once, apply, h]
  · exact apply_apply o c
  · exact perm_mergeList_mergeList ..
  · intro h
    have hsuffixes : mergeList once.external.suffixes o.external.suffixes
        o.external.removeSuffixes o.external.replace = once.external.suffixes :=
      mergeList_mergeList h c.external.suffixes
    have hagain := apply_apply o c
    rw [hsuffixes] at hagain
    exact hagain

/-- Settings that have one suffix twice. -/
def withRepeatedSuffix : Config :=
  { Config.default with external.suffixes := [".sh", ".run", ".sh"] }

/-- An overlay that both removes and adds a suffix, and takes one alias away for another. -/
def withMovedSuffix : Overlay where
  aliases := { remove := ["dir"], define := .ofList [("ll", "ls -l")] }
  external := { suffixes := [".run", ".py", ".py"], removeSuffixes := [".run"] }

theorem apply_merges_withMovedSuffix :
    let once := withMovedSuffix.apply withRepeatedSuffix
    let twice := withMovedSuffix.apply once
    (withMovedSuffix.aliases.replace = false ∧ once.aliases.get? "ll" = some "ls -l" ∧
      once.aliases.get? "dir" = none ∧ once.aliases.get? "type" = some "cat") ∧
    (withMovedSuffix.settings = {} ∧ once.settings = Config.default.settings) ∧
    (withMovedSuffix.external.replace = false ∧
      once.external.suffixes = [".sh", ".sh", ".run", ".py"] ∧
      twice.external.suffixes = [".sh", ".sh", ".py", ".run"] ∧
      twice.external.suffixes.Perm once.external.suffixes) ∧
    let overlay := withInterpreter "py" "python3"
    (∀ suffix ∈ overlay.external.suffixes, suffix ∉ overlay.external.removeSuffixes) ∧
      overlay.apply (overlay.apply .default) = overlay.apply .default := by
  intro once twice
  obtain ⟨⟨haliases, -, hsuffixes, -⟩, -, -, -, hsettings, -, -, -, -, hperm, -⟩ :=
    apply_merges withMovedSuffix withRepeatedSuffix
  obtain ⟨-, -, -, -, -, -, -, -, -, -, hsame⟩ :=
    apply_merges (withInterpreter "py" "python3") .default
  have honce : once.external.suffixes = [".sh", ".sh", ".run", ".py"] :=
    (hsuffixes.extended rfl).trans (by decide)
  refine ⟨⟨rfl, haliases.added rfl "ll" "ls -l" (by decide),
    haliases.removed rfl "dir" (by decide) (by decide), ?_⟩, ⟨rfl, hsettings rfl⟩,
    ⟨rfl, honce, by decide, hperm⟩, by decide, hsame (.inr (by decide))⟩
  exact (haliases.kept rfl "type" (by decide) (by decide)).trans (by decide)

end Overlay
end LineShell
