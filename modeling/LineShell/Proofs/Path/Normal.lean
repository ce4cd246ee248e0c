import Mathlib
import LineShell.Path
import LineShell.Proofs.Text.Parts

/-!
# Normal paths

The parts of a normal path are names, after a row of `..` if the path is
relative.  Such parts are joined to a path and found again in it, and putting
them on the stack once more changes nothing; so the normal form of a path is its
own normal form.
-/

namespace LineShell

namespace Path

/-- A part that leads somewhere else. -/
structure IsStep (part : String) : Prop where
  nonempty : part ≠ ""
  ne_dot : part ≠ "."
  noSlash : '/' ∉ part.toList

theorem isStep_of_mem_parts {path part : String} (h : part ∈ parts path) : IsStep part := by
  obtain ⟨hmem, hstep⟩ := List.mem_filter.mp h
  obtain ⟨hne, hdot⟩ : part ≠ "" ∧ part ≠ "." := by simpa using hstep
  exact ⟨hne, hdot, Text.notMem_of_mem_partsAux (by simp) part hmem⟩

/-- A row of `..`, and names after it; there is no such row below the root. -/
def IsNormal (absolute : Bool) (ps : List String) : Prop :=
  ∃ k names, ps = List.replicate k ".." ++ names ∧ ".." ∉ names ∧ (absolute = true → k = 0)

theorem pushPart_name {absolute : Bool} {part : String} (h : part ≠ "..")
    (stack : List String) : pushPart absolute stack part = part :: stack := by
  simp [pushPart, h]

theorem isNormal_pushPart {absolute : Bool} {stack : List String} (part : String)
    (h : IsNormal absolute stack.reverse) :
    IsNormal absolute (pushPart absolute stack part).reverse := by
  obtain ⟨k, names, hstack, hnames, habsolute⟩ := h
  by_cases hpart : part = ".."
  · subst hpart
    obtain rfl | ⟨front, top, rfl⟩ := List.eq_nil_or_concat names
    · -- No name to take back: the row grows, except at the root.
      obtain rfl : stack = List.replicate k ".." := by
        simpa using congrArg List.reverse hstack
      cases k with
      | zero => cases absolute with
          | true => exact ⟨0, [], rfl, by simp, fun _ ↦ rfl⟩
          | false => exact ⟨1, [], rfl, by simp, by simp⟩
      | succ k =>
          have hrelative : absolute ≠ true := fun h ↦ absurd (habsolute h) (by simp)
          refine ⟨k + 2, [], ?_, by simp, fun h ↦ absurd h hrelative⟩
          simp [pushPart, List.replicate_succ, List.reverse_cons, ← List.replicate_succ']
    · have htop : top ≠ ".." := by
        rintro rfl
        simp at hnames
      have hshape : stack = top :: (List.replicate k ".." ++ front).reverse := by
        simpa using congrArg List.reverse hstack
      refine ⟨k, front, ?_, fun h ↦ hnames (by simp [h]), habsolute⟩
      simp [hshape, pushPart, htop]
  · refine ⟨k, names ++ [part], ?_, ?_, habsolute⟩
    · rw [pushPart_name hpart, List.reverse_cons, hstack, List.append_assoc]
    · simpa [hnames] using Ne.symm hpart

theorem isNormal_normalParts (absolute : Bool) (ps : List String) :
    IsNormal absolute (normalParts absolute ps) := by
  suffices hfold : ∀ stack, IsNormal absolute stack.reverse →
      IsNormal absolute (ps.foldl (pushPart absolute) stack).reverse from
    hfold [] ⟨0, [], rfl, by simp, fun _ ↦ rfl⟩
  induction ps with
  | nil => exact fun stack h ↦ h
  | cons p ps ih => exact fun stack h ↦ ih _ (isNormal_pushPart p h)

theorem foldl_pushPart_names {absolute : Bool} {names : List String} (h : ".." ∉ names)
    (stack : List String) :
    names.foldl (pushPart absolute) stack = names.reverse ++ stack := by
  induction names generalizing stack with
  | nil => rfl
  | cons name names ih =>
      obtain ⟨hname, hnames⟩ : ".." ≠ name ∧ ".." ∉ names := by simpa using h
      rw [List.foldl_cons, pushPart_name (Ne.symm hname), ih hnames]
      simp

theorem foldl_pushPart_dotdots (k : Nat) :
    (List.replicate k "..").foldl (pushPart false) [] = List.replicate k ".." := by
  induction k with
  | zero => rfl
  | succ k ih =>
      rw [List.replicate_succ', List.foldl_append, ih]
      cases k with
      | zero => rfl
      | succ k => simp [pushPart, List.replicate_succ, ← List.replicate_succ']

theorem normalParts_of_isNormal {absolute : Bool} {ps : List String}
    (h : IsNormal absolute ps) : normalParts absolute ps = ps := by
  obtain ⟨k, names, rfl, hnames, habsolute⟩ := h
  rw [normalParts, List.foldl_append, foldl_pushPart_names hnames]
  cases absolute with
  | true =>
      obtain rfl := habsolute rfl
      simp
  | false => simp [foldl_pushPart_dotdots]

theorem mem_pushPart {absolute : Bool} {stack : List String} {part p : String}
    (h : p ∈ pushPart absolute stack part) : p = part ∨ p ∈ stack := by
  by_cases hpart : part = ".."
  · cases stack with
    | nil => cases absolute <;> simp_all [pushPart]
    | cons top rest => by_cases htop : top = ".." <;> simp_all [pushPart]
  · rw [pushPart_name hpart] at h
    exact List.mem_cons.mp h

/-- The stack holds nothing but parts of the path. -/
theorem isStep_of_mem_normalParts {absolute : Bool} {ps : List String}
    (hps : ∀ p ∈ ps, IsStep p) : ∀ p ∈ normalParts absolute ps, IsStep p := by
  suffices hfold : ∀ stack, (∀ p ∈ stack, IsStep p) →
      ∀ p ∈ ps.foldl (pushPart absolute) stack, IsStep p by
    intro p hp
    exact hfold [] (by simp) p (List.mem_reverse.mp hp)
  induction ps with
  | nil => exact fun stack h ↦ h
  | cons part ps ih =>
      intro stack hstack
      refine ih (fun p hp ↦ hps p (List.mem_cons_of_mem part hp)) _ fun p hp ↦ ?_
      rcases mem_pushPart hp with rfl | hmem
      · exact hps p List.mem_cons_self
      · exact hstack p hmem

theorem isAbsolute_iff {path : String} : isAbsolute path = true ↔ path.toList.head? = some '/' := by
  cases h : path.toList with
  | nil => simp [isAbsolute, Text.startsWith, h]
  | cons c cs =>
      have hslash : ('/' = c) ↔ c = '/' := eq_comm
      simp [isAbsolute, Text.startsWith, h, hslash]

theorem isAbsolute_ofParts {absolute : Bool} {ps : List String} (h : ∀ p ∈ ps, IsStep p) :
    isAbsolute (ofParts absolute ps) = absolute := by
  cases absolute with
  | true => simp [isAbsolute_iff, ofParts]
  | false =>
      rw [Bool.eq_false_iff, ne_eq, isAbsolute_iff]
      cases ps with
      | nil => simp [ofParts]
      | cons p ps =>
          -- The path begins as its first part does, and that holds no slash.
          have hp := h p List.mem_cons_self
          have hchars : p.toList ≠ [] := fun hnil ↦ hp.nonempty (String.toList_eq_nil_iff.mp hnil)
          have hhead : (ofParts false (p :: ps)).toList.head? = p.toList.head? := by
            cases ps with
            | nil => simp [ofParts, Text.joinWith]
            | cons q qs => simp [ofParts, Text.joinWith, List.head?_append_of_ne_nil _ hchars]
          rw [hhead]
          exact fun hslash ↦ hp.noSlash (List.mem_of_head? hslash)

theorem filter_steps {ps : List String} (h : ∀ p ∈ ps, IsStep p) :
    ps.filter (fun part ↦ part ≠ "" ∧ part ≠ ".") = ps := by
  refine List.filter_eq_self.mpr fun p hp ↦ ?_
  simpa using ⟨(h p hp).nonempty, (h p hp).ne_dot⟩

theorem parts_joinWith {ps : List String} (h : ∀ p ∈ ps, IsStep p) :
    parts (Text.joinWith "/" ps) = ps := by
  by_cases hne : ps = []
  · subst hne
    decide
  · rw [parts, Text.parts_joinWith_slash hne fun p hp ↦ (h p hp).noSlash, filter_steps h]

theorem parts_slash_append (text : String) : parts ("/" ++ text) = parts text := by
  have hparts : Text.parts '/' ("/" ++ text) = "" :: Text.parts '/' text := by
    simp [Text.parts, Text.partsAux]
  rw [parts, hparts]
  rfl

theorem parts_ofParts {absolute : Bool} {ps : List String} (h : ∀ p ∈ ps, IsStep p) :
    parts (ofParts absolute ps) = ps := by
  cases absolute with
  | true => simpa [ofParts, parts_slash_append] using parts_joinWith h
  | false =>
      by_cases hne : ps = []
      · subst hne
        decide
      · simpa [ofParts, hne] using parts_joinWith h

theorem isStep_normalParts_parts (path : String) :
    ∀ p ∈ normalParts (isAbsolute path) (parts path), IsStep p :=
  isStep_of_mem_normalParts fun _ hp ↦ isStep_of_mem_parts hp

@[simp] theorem isAbsolute_normalize (path : String) :
    isAbsolute (normalize path) = isAbsolute path :=
  isAbsolute_ofParts (isStep_normalParts_parts path)

theorem parts_normalize (path : String) :
    parts (normalize path) = normalParts (isAbsolute path) (parts path) :=
  parts_ofParts (isStep_normalParts_parts path)

@[simp] theorem normalize_normalize (path : String) :
    normalize (normalize path) = normalize path := by
  have hnormal := normalParts_of_isNormal (isNormal_normalParts (isAbsolute path) (parts path))
  rw [normalize, isAbsolute_normalize, parts_normalize, hnormal, normalize]

theorem isAbsolute_append {base : String} (hne : base ≠ "") (rest : String) :
    isAbsolute (base ++ rest) = isAbsolute base := by
  have hchars : base.toList ≠ [] := fun hnil ↦ hne (String.toList_eq_nil_iff.mp hnil)
  rw [Bool.eq_iff_iff, isAbsolute_iff, isAbsolute_iff, String.toList_append,
    List.head?_append_of_ne_nil _ hchars]

@[simp] theorem isAbsolute_join (base path : String) :
    isAbsolute (join base path) = (isAbsolute base || isAbsolute path) := by
  by_cases hpath : isAbsolute path = true
  · simp [join, hpath]
  · rw [Bool.not_eq_true] at hpath
    by_cases hbase : base = ""
    · subst hbase
      simp [join, hpath, show isAbsolute "" = false by decide]
    · have hslash : isAbsolute (base ++ "/" ++ path) = isAbsolute base := by
        rw [String.append_assoc, isAbsolute_append hbase]
      simp only [join, hpath, hbase, decide_false, Bool.or_false, Bool.false_eq_true, if_false]
      split_ifs
      · exact isAbsolute_append hbase path
      · exact hslash

/-- An absolute path in normal form. -/
structure Rooted (path : String) : Prop where
  absolute : isAbsolute path = true
  normal : normalize path = path

theorem rooted_normalize {path : String} (h : isAbsolute path = true) : Rooted (normalize path) :=
  ⟨by simpa using h, normalize_normalize path⟩

end Path
end LineShell
