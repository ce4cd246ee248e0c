import Mathlib
import LineShell.Session.Basic
import LineShell.Proofs.Path.Normal

/-!
# Normal forms and paths taken from paths

The normal forms are the texts without needless dots and slashes, whose `..` stand at
the head of a relative path.  It makes no difference whether the paths are brought to
normal form before one is taken from the other or only afterwards: the parts of the
second path act on a stack of parts as the parts of its normal form do.
-/

namespace LineShell

namespace Path

/-- The text has no `.`, no doubled slash and no slash at its end, unless it is a single
dot or slash, and `..` stands only in a row at the head of a relative path. -/
structure Tidy (path : String) : Prop where
  nonempty : path ≠ ""
  noDot : "." ∈ Text.parts '/' path → path = "."
  noDouble : ¬['/', '/'] <:+: path.toList
  noTrailing : path.toList.getLast? = some '/' → path = "/"
  leading : IsNormal (isAbsolute path) (parts path)

theorem parts_append_slash (s t : String) : parts (s ++ "/" ++ t) = parts s ++ parts t := by
  simp only [parts, Text.parts_append_slash, List.filter_append]

theorem textParts_ofParts {absolute : Bool} {ps : List String} (hne : ps ≠ [])
    (h : ∀ p ∈ ps, IsStep p) :
    Text.parts '/' (ofParts absolute ps) = (if absolute then [""] else []) ++ ps := by
  have hjoined := Text.parts_joinWith_slash hne fun p hp ↦ (h p hp).noSlash
  cases absolute with
  | true =>
      have hroot := Text.parts_append_slash "" (Text.joinWith "/" ps)
      rw [String.empty_append, hjoined] at hroot
      exact hroot
  | false => simpa [ofParts, hne] using hjoined

theorem tidy_ofParts {absolute : Bool} {ps : List String} (h : ∀ p ∈ ps, IsStep p)
    (hnormal : IsNormal absolute ps) : Tidy (ofParts absolute ps) := by
  have hleading : IsNormal (isAbsolute (ofParts absolute ps)) (parts (ofParts absolute ps)) := by
    rwa [isAbsolute_ofParts h, parts_ofParts h]
  by_cases hne : ps = []
  · subst hne
    cases absolute <;> exact ⟨by decide, by decide, by decide, by decide, hleading⟩
  · have hparts : Text.parts '/' (ofParts absolute ps) = (if absolute then [""] else []) ++ ps :=
      textParts_ofParts hne h
    have htail : "" ∉ (Text.parts '/' (ofParts absolute ps)).tail := by
      intro hmem
      rw [hparts] at hmem
      refine (h "" ?_).nonempty rfl
      cases absolute with
      | true => exact hmem
      | false => exact List.mem_of_mem_tail hmem
    rw [Text.empty_mem_tail_parts_iff, not_or] at htail
    refine ⟨?_, ?_, htail.1, fun hlast ↦ absurd hlast htail.2, hleading⟩
    · intro hempty
      have hroot : [""] = (if absolute then [""] else []) ++ ps := by
        rw [← hparts, hempty]
        decide
      cases absolute with
      | true => exact hne (by simpa using hroot)
      | false => exact (h "" (by simp [← show [""] = ps from hroot])).nonempty rfl
    · intro hdot
      rw [hparts, List.mem_append] at hdot
      rcases hdot with hroot | hstep
      · cases absolute <;> simp at hroot
      · exact absurd rfl (h "." hstep).ne_dot

theorem tidy_normalize (path : String) : Tidy (normalize path) :=
  tidy_ofParts (isStep_normalParts_parts path) (isNormal_normalParts _ _)

theorem Tidy.exists_ofParts {path : String} (h : Tidy path) :
    ∃ absolute ps, (∀ p ∈ ps, IsStep p) ∧ path = ofParts absolute ps := by
  by_cases hdot : path = "."
  · exact ⟨false, [], by simp, hdot⟩
  by_cases hslash : path = "/"
  · exact ⟨true, [], by simp, hslash⟩
  obtain ⟨p, tail, hparts⟩ := List.exists_cons_of_ne_nil (Text.parts_ne_nil '/' path)
  have htail : "" ∉ tail := by
    have hiff := Text.empty_mem_tail_parts_iff path
    rw [hparts, List.tail_cons] at hiff
    rw [hiff, not_or]
    exact ⟨h.noDouble, fun hlast ↦ hslash (h.noTrailing hlast)⟩
  have hstep : ∀ q ∈ p :: tail, q ≠ "" → IsStep q := by
    intro q hq hne
    rw [← hparts] at hq
    refine ⟨hne, ?_, Text.notMem_of_mem_partsAux (by simp) q hq⟩
    rintro rfl
    exact hdot (h.noDot hq)
  have hsteps : ∀ q ∈ tail, IsStep q := fun q hq ↦
    hstep q (List.mem_cons_of_mem p hq) fun hempty ↦ htail (hempty ▸ hq)
  have hpath := Text.joinWith_parts_slash path
  rw [hparts] at hpath
  by_cases hp : p = ""
  · subst hp
    have hne : tail ≠ [] := by
      rintro rfl
      exact h.nonempty hpath.symm
    refine ⟨true, tail, hsteps, ?_⟩
    rw [← hpath, Text.joinWith_cons hne, String.empty_append]
    rfl
  · refine ⟨false, p :: tail, ?_, by simp [ofParts, hpath]⟩
    exact List.forall_mem_cons.mpr ⟨hstep p List.mem_cons_self hp, hsteps⟩

/-- The normal forms are the paths that are their own normal form. -/
theorem normalize_eq_self_iff (path : String) : normalize path = path ↔ Tidy path := by
  constructor
  · intro h
    exact h ▸ tidy_normalize path
  · intro h
    obtain ⟨absolute, ps, hsteps, rfl⟩ := h.exists_ofParts
    have hleading := h.leading
    rw [isAbsolute_ofParts hsteps, parts_ofParts hsteps] at hleading
    rw [normalize, isAbsolute_ofParts hsteps, parts_ofParts hsteps,
      normalParts_of_isNormal hleading]

theorem join_of_absolute {path : String} (h : isAbsolute path = true) (base : String) :
    join base path = path := by
  simp [join, h]

theorem parts_join {path : String} (h : isAbsolute path = false) (base : String) :
    parts (join base path) = parts base ++ parts path := by
  unfold join
  split_ifs with hwhole hslash
  · obtain rfl : base = "" := by simpa [h] using hwhole
    rfl
  · obtain ⟨before, hbase⟩ := List.getLast?_eq_some_iff.mp hslash
    obtain rfl : base = String.ofList before ++ "/" ++ "" := by
      apply String.toList_injective
      simp [hbase]
    rw [parts_append_slash, String.append_empty, parts_append_slash]
    simp [show parts "" = [] by decide]
  · exact parts_append_slash base path

theorem normalize_join {path : String} (h : isAbsolute path = false) (base : String) :
    normalize (join base path) =
      ofParts (isAbsolute base) (normalParts (isAbsolute base) (parts base ++ parts path)) := by
  rw [normalize, isAbsolute_join, h, Bool.or_false, parts_join h]

theorem normalParts_append (absolute : Bool) (ps qs : List String) :
    normalParts absolute (ps ++ qs) =
      (qs.foldl (pushPart absolute) (normalParts absolute ps).reverse).reverse := by
  simp [normalParts, List.foldl_append]

theorem normalParts_normalParts_append (absolute : Bool) (ps qs : List String) :
    normalParts absolute (normalParts absolute ps ++ qs) = normalParts absolute (ps ++ qs) := by
  rw [normalParts_append, normalParts_append,
    normalParts_of_isNormal (isNormal_normalParts absolute ps)]

theorem pushPart_name_dotdot (absolute : Bool) {name : String} (h : name ≠ "..")
    (stack : List String) :
    pushPart absolute (pushPart absolute stack name) ".." = stack := by
  rw [pushPart_name h]
  simp [pushPart, h]

theorem foldl_reverse_pushPart (absolute : Bool) (stack front : List String) (part : String) :
    (pushPart false front part).reverse.foldl (pushPart absolute) stack =
      pushPart absolute (front.reverse.foldl (pushPart absolute) stack) part := by
  by_cases hpart : part = ".."
  · subst hpart
    cases front with
    | nil => rfl
    | cons top rest =>
        by_cases htop : top = ".."
        · subst htop
          have hrow : pushPart false (".." :: rest) ".." = ".." :: ".." :: rest := by
            simp [pushPart]
          rw [hrow, List.reverse_cons, List.foldl_append]
          rfl
        · have hback : pushPart false (top :: rest) ".." = rest := by simp [pushPart, htop]
          rw [hback, List.reverse_cons, List.foldl_append]
          exact (pushPart_name_dotdot absolute htop _).symm
  · rw [pushPart_name hpart, List.reverse_cons, List.foldl_append]
    rfl

/-- On any stack the parts of a relative path act as those of its normal form do. -/
theorem foldl_pushPart_normalParts (absolute : Bool) (stack ps : List String) :
    (normalParts false ps).foldl (pushPart absolute) stack =
      ps.foldl (pushPart absolute) stack := by
  induction ps using List.reverseRecOn with
  | nil => rfl
  | append_singleton ps part ih =>
      rw [normalParts_append, List.foldl_append, ← ih, List.foldl_cons, List.foldl_nil,
        foldl_reverse_pushPart, List.reverse_reverse]
      rfl

theorem normalParts_append_normalParts (absolute : Bool) (ps qs : List String) :
    normalParts absolute (ps ++ normalParts false qs) = normalParts absolute (ps ++ qs) := by
  rw [normalParts_append, normalParts_append, foldl_pushPart_normalParts]

theorem normalize_normalize_join (base path : String) :
    normalize (join (normalize base) path) = normalize (join base path) := by
  cases h : isAbsolute path with
  | true => rw [join_of_absolute h, join_of_absolute h]
  | false =>
      rw [normalize_join h, normalize_join h, isAbsolute_normalize, parts_normalize,
        normalParts_normalParts_append]

theorem normalize_join_normalize (base path : String) :
    normalize (join base (normalize path)) = normalize (join base path) := by
  have hnormal := isAbsolute_normalize path
  cases h : isAbsolute path with
  | true =>
      rw [join_of_absolute (hnormal.trans h), join_of_absolute h, normalize_normalize]
  | false =>
      rw [normalize_join (hnormal.trans h), normalize_join h, parts_normalize, h,
        normalParts_append_normalParts]

/-- A step down and up again leads back. -/
theorem normalize_join_name_dotdot {name : String} (hstep : IsStep name) (hname : name ≠ "..")
    (base : String) : normalize (join (join base name) "..") = normalize base := by
  have hsteps : ∀ p ∈ [name], IsStep p := by simpa using hstep
  have hrelative : isAbsolute (ofParts false [name]) = false := isAbsolute_ofParts hsteps
  change isAbsolute name = false at hrelative
  have hparts : parts name = [name] := parts_joinWith hsteps
  rw [normalize_join (by decide), isAbsolute_join, hrelative, Bool.or_false,
    parts_join hrelative, hparts, show parts ".." = [".."] by decide, normalParts_append,
    normalParts_append]
  simp only [List.foldl_cons, List.foldl_nil, List.reverse_reverse,
    pushPart_name_dotdot _ hname]
  rfl

theorem expandHome_of_absolute {path : String} (h : isAbsolute path = true) (home : String) :
    expandHome home path = path := by
  unfold expandHome
  split
  · rename_i htilde
    simp [isAbsolute_iff, htilde] at h
  · rename_i htilde
    simp [isAbsolute_iff, htilde] at h
  · rfl

end Path

namespace Session

theorem isAbsolute_resolvePath {s : Session} (h : Path.isAbsolute s.current = true)
    (path : String) : Path.isAbsolute (s.resolvePath path) = true := by
  simp [resolvePath, h]

theorem resolvePath_of_absolute (s : Session) {path : String} (h : Path.isAbsolute path = true) :
    s.resolvePath path = Path.normalize path := by
  rw [resolvePath, World.expandHome, Path.expandHome_of_absolute h, Path.join_of_absolute h]

/-- A normal form is tidy, and each tidy path is one.  Normal forms may be taken before or after
paths are put together, and a name before `..` folds away.  From an absolute directory
every path resolves to an absolute one in normal form, which resolves to itself. -/
theorem normalForm_composes :
    (∀ path, Path.Tidy (Path.normalize path) ∧ (Path.normalize path = path ↔ Path.Tidy path) ∧
      Path.isAbsolute (Path.normalize path) = Path.isAbsolute path ∧
      Path.normalize (Path.normalize path) = Path.normalize path) ∧
    (∀ base path,
      Path.normalize (Path.join base path) =
        Path.normalize (Path.join (Path.normalize base) path) ∧
      Path.normalize (Path.join base path) =
        Path.normalize (Path.join base (Path.normalize path))) ∧
    (∀ base name, Path.IsStep name → name ≠ ".." →
      Path.normalize (Path.join (Path.join base name) "..") = Path.normalize base) ∧
    ∀ s : Session, Path.isAbsolute s.current = true → ∀ path,
      Path.isAbsolute (s.resolvePath path) = true ∧ Path.Tidy (s.resolvePath path) ∧
      s.resolvePath (s.resolvePath path) = s.resolvePath path := by
  refine ⟨fun path ↦ ?_, fun base path ↦ ?_, fun base name hstep hname ↦ ?_,
    fun s hcurrent path ↦ ?_⟩
  · exact ⟨Path.tidy_normalize path, Path.normalize_eq_self_iff path,
      Path.isAbsolute_normalize path, Path.normalize_normalize path⟩
  · exact ⟨(Path.normalize_normalize_join base path).symm,
      (Path.normalize_join_normalize base path).symm⟩
  · exact Path.normalize_join_name_dotdot hstep hname base
  · have habsolute := isAbsolute_resolvePath hcurrent path
    refine ⟨habsolute, Path.tidy_normalize _, ?_⟩
    rw [resolvePath_of_absolute s habsolute]
    exact Path.normalize_normalize _

/-- A session whose home directory is given by a relative path. -/
def withRelativeHome : Session where
  world :=
    { tree := default, here := [], clock := 0, environment := .ofList [("HOME", "../h")],
      accountHome := "/" }
  current := "/srv/data"
  previous := "/"
  external := default

theorem normalForm_composes_withRelativeHome :
    (Path.IsStep "b" ∧ "b" ≠ ".." ∧
      Path.normalize (Path.join (Path.join "../a/.." "b") "..") = Path.normalize "../a/..") ∧
    Path.isAbsolute withRelativeHome.current = true ∧
      withRelativeHome.resolvePath "~/./x//y/../" = "/srv/h/x" ∧ Path.Tidy "/srv/h/x" ∧
      withRelativeHome.resolvePath "/srv/h/x" = "/srv/h/x" := by
  have hstep : Path.IsStep "b" := ⟨by decide, by decide, by decide⟩
  have hname : "b" ≠ ".." := by decide
  have hcurrent : Path.isAbsolute withRelativeHome.current = true := by decide
  have hresolved : withRelativeHome.resolvePath "~/./x//y/../" = "/srv/h/x" := by
    decide +kernel
  obtain ⟨-, -, hback, hsession⟩ := normalForm_composes
  obtain ⟨-, htidy, hfixed⟩ := hsession withRelativeHome hcurrent "~/./x//y/../"
  rw [hresolved] at htidy hfixed
  exact ⟨⟨hstep, hname, hback "../a/.." "b" hstep hname⟩, hcurrent, hresolved, htidy, hfixed⟩

end Session
end LineShell
