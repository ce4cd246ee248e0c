import LineShell.Config.Load
import LineShell.External.CommandLine
import LineShell.Proofs.Table

/-!
# Interpreters a user sets

An overlay adds its interpreters to the defaults key by key, and keys that
differ in case are different keys; a script is started by the last of the keys
that equal its extension up to case.  So a default of another spelling stays
beside the entry of the user, and it wins over that entry if it comes later in
the order of keys.
-/

namespace LineShell

namespace CommandLine

/-- The line for an extension is the value of the last key that equals it up to case. -/
theorem get?_interpretersByExtension {t : Table String} {ext line : String} :
    (interpretersByExtension t).get? ext = some line ↔
      ∃ k, t.get? k = some line ∧ Text.lower k = ext ∧
        ∀ k', (t.get? k').isSome → Text.lower k' = ext → k' ≤ k := by
  rw [interpretersByExtension, Table.get?_ofList,
    Table.find?_map_reverse_eq_some_iff t.sorted Text.lower]
  simp only [Table.get?_eq_some_iff_mem, Option.isSome_iff_exists, forall_exists_index, Prod.forall]

/-- An extension with a key in the table has a line. -/
theorem isSome_get?_interpretersByExtension {t : Table String} {k : String}
    (hk : (t.get? k).isSome) : ((interpretersByExtension t).get? (Text.lower k)).isSome := by
  obtain ⟨e, he, rfl⟩ := Table.isSome_find?_iff.mp hk
  rw [interpretersByExtension, Table.get?_ofList, Table.isSome_find?_iff]
  exact ⟨(Text.lower e.1, e.2), List.mem_reverse.mpr (List.mem_map_of_mem he), rfl⟩

/-- A file starts with the words of the line for its extension exactly when the line has
these words. -/
theorem ofPath_eq_iff {interpreters : Table String} {path line program : String}
    (hline : interpreter? interpreters path = some line) (words args : List String) :
    ofPath interpreters path args = (⟨program, words ++ path :: args⟩, []) ↔
      PosixWords.split? line = some (program :: words) := by
  simp only [ofPath, hline]
  split
  · rename_i first rest hsplit
    rw [hsplit]
    simp
  · rename_i hother
    simp only [Prod.mk.injEq, List.cons_ne_nil, and_false, false_iff]
    exact hother program words

end CommandLine

namespace Overlay

theorem get?_extend (base add : Table String) (k : String) :
    (extend base add).get? k = (add.get? k).or (base.get? k) := by
  rw [extend, Table.get?_foldl_insert, Table.find?_reverse_entries]

/-- A key that the overlay adds has the value of the overlay, any other key keeps its
default unless the overlay removes it. -/
theorem get?_mergeTable (base add : Table String) (remove : List String) (k : String) :
    (mergeTable base add remove false).get? k =
      (add.get? k).or (if k ∈ remove then none else base.get? k) := by
  simp [mergeTable, get?_extend]

/-- The default that stands for the extension in spite of the entry of the overlay: it is
kept, it differs from the key of the overlay in case only, and of these defaults it is the
last, after that key. -/
structure Overrides (o : Overlay) (c : Config) (ext k line : String) : Prop where
  default : c.external.interpreters.get? k = some line
  kept : k ∉ o.external.removeInterpreters
  same : Text.lower k = Text.lower ext
  later : ext < k
  last : ∀ k', (c.external.interpreters.get? k').isSome → k' ∉ o.external.removeInterpreters →
    Text.lower k' = Text.lower ext → k' ≤ k

variable {o : Overlay} {c : Config} {ext cmd : String}

/-- The entry of the user is the only one of the overlay for its extension. -/
structure IsOnlyEntry (o : Overlay) (ext cmd : String) : Prop where
  entry : o.external.interpreters.get? ext = some cmd
  only : ∀ k, (o.external.interpreters.get? k).isSome → Text.lower k = Text.lower ext → k = ext

theorem get?_apply_interpreters (hreplace : o.external.replace = false)
    (hentry : IsOnlyEntry o ext cmd) {k : String} (hk : Text.lower k = Text.lower ext) :
    (o.apply c).external.interpreters.get? k =
      if k = ext then some cmd
      else if k ∈ o.external.removeInterpreters then none
      else c.external.interpreters.get? k := by
  have hmerge : (o.apply c).external.interpreters.get? k = (o.external.interpreters.get? k).or
      (if k ∈ o.external.removeInterpreters then none else c.external.interpreters.get? k) := by
    rw [← get?_mergeTable, ← hreplace]
    rfl
  rw [hmerge]
  by_cases h : k = ext
  · simp [h, hentry.entry]
  · have hnone : o.external.interpreters.get? k = none :=
      Option.not_isSome_iff_eq_none.mp fun hsome ↦ h (hentry.only k hsome hk)
    simp [h, hnone]

/-- A default that overrides the entry decides about the extension. -/
theorem Overrides.get?_interpretersByExtension {k line : String}
    (h : Overrides o c ext k line) (hreplace : o.external.replace = false)
    (hentry : IsOnlyEntry o ext cmd) :
    (CommandLine.interpretersByExtension (o.apply c).external.interpreters).get?
        (Text.lower ext) = some line := by
  refine CommandLine.get?_interpretersByExtension.mpr ⟨k, ?_, h.same, fun k' hsome hk' ↦ ?_⟩
  · rw [get?_apply_interpreters hreplace hentry h.same, if_neg h.later.ne', if_neg h.kept,
      h.default]
  · rw [get?_apply_interpreters hreplace hentry hk'] at hsome
    split_ifs at hsome with heq hremoved
    · exact heq ▸ h.later.le
    · simp at hsome
    · exact h.last k' hsome hremoved hk'

/-- What decides about the extension is the entry itself, where no default overrides it, or
a default that does. -/
theorem eq_or_overrides_of_get?_interpretersByExtension (hreplace : o.external.replace = false)
    (hentry : IsOnlyEntry o ext cmd) {line : String}
    (hline : (CommandLine.interpretersByExtension (o.apply c).external.interpreters).get?
      (Text.lower ext) = some line) :
    (line = cmd ∧ ∀ k d, ¬Overrides o c ext k d) ∨ ∃ k, Overrides o c ext k line := by
  obtain ⟨k, hvalue, hsame, hlast⟩ := CommandLine.get?_interpretersByExtension.mp hline
  rw [get?_apply_interpreters hreplace hentry hsame] at hvalue
  have hbelow : ∀ k', (c.external.interpreters.get? k').isSome →
      k' ∉ o.external.removeInterpreters → Text.lower k' = Text.lower ext → k' ≤ k := by
    intro k' hsome hkept hk'
    refine hlast k' ?_ hk'
    rw [get?_apply_interpreters hreplace hentry hk', if_neg hkept]
    split <;> simp [hsome]
  by_cases heq : k = ext
  · subst heq
    rw [if_pos rfl] at hvalue
    refine .inl ⟨(Option.some.inj hvalue).symm, fun k' d h ↦ ?_⟩
    have hk' : k' ≤ k := hbelow k' (by simp [h.default]) h.kept h.same
    exact absurd h.later hk'.not_gt
  · rw [if_neg heq] at hvalue
    have hkept : k ∉ o.external.removeInterpreters := fun hmem ↦ by simp [hmem] at hvalue
    rw [if_neg hkept] at hvalue
    have hext : ext ≤ k := by
      refine hlast ext ?_ rfl
      rw [get?_apply_interpreters hreplace hentry rfl, if_pos rfl]
      rfl
    exact .inr ⟨k, hvalue, hkept, hsame, hext.lt_of_ne (Ne.symm heq), hbelow⟩

/-- The interpreter that a user sets for an extension starts the files with that extension
exactly when every default that overrides it has the same words. -/
theorem ofPath_apply_iff (hreplace : o.external.replace = false)
    (hentry : IsOnlyEntry o ext cmd) {program : String} {words : List String}
    (hsplit : PosixWords.split? cmd = some (program :: words)) {path : String}
    (hpath : (Path.extension? path).map Text.lower = some (Text.lower ext))
    (args : List String) :
    CommandLine.ofPath (o.apply c).external.interpreters path args =
        (⟨program, words ++ path :: args⟩, []) ↔
      ∀ k line, Overrides o c ext k line →
        PosixWords.split? line = some (program :: words) := by
  have hkey : ((o.apply c).external.interpreters.get? ext).isSome := by
    rw [get?_apply_interpreters hreplace hentry rfl, if_pos rfl]
    rfl
  obtain ⟨line, hline⟩ := Option.isSome_iff_exists.mp
    (CommandLine.isSome_get?_interpretersByExtension hkey)
  have hinterpreter :
      CommandLine.interpreter? (o.apply c).external.interpreters path = some line := by
    obtain ⟨found, hfound, hlower⟩ := Option.map_eq_some_iff.mp hpath
    simp [CommandLine.interpreter?, hfound, hlower, hline]
  rw [CommandLine.ofPath_eq_iff hinterpreter]
  rcases eq_or_overrides_of_get?_interpretersByExtension hreplace hentry hline with
    ⟨rfl, hnone⟩ | ⟨k, hk⟩
  · exact ⟨fun _ k d h ↦ absurd h (hnone k d), fun _ ↦ hsplit⟩
  · refine ⟨fun hwords k' d h ↦ ?_, fun h ↦ h k line hk⟩
    have hd := h.get?_interpretersByExtension hreplace hentry
    rw [hline, Option.some.injEq] at hd
    exact hd ▸ hwords

/-- An overlay that adds one interpreter. -/
def withInterpreter (ext cmd : String) : Overlay :=
  { external := { interpreters := .ofList [(ext, cmd)] } }

theorem isOnlyEntry_withInterpreter (ext cmd : String) :
    IsOnlyEntry (withInterpreter ext cmd) ext cmd where
  entry := by simp [withInterpreter, Table.get?_ofList, Table.find?]
  only k hsome _ := by
    by_contra hne
    simp [withInterpreter, Table.get?_ofList, Table.find?, Ne.symm hne] at hsome

/-- The extensions with a default. -/
theorem mem_of_default_interpreter {k line : String}
    (h : Config.default.external.interpreters.get? k = some line) :
    k ∈ ["bat", "cmd", "ps1", "sh"] := by
  have hnames : Config.default.external.interpreters.names = ["bat", "cmd", "ps1", "sh"] := by
    decide
  rw [← hnames]
  exact List.mem_map.mpr ⟨(k, line), Table.get?_eq_some_iff_mem.mp h, rfl⟩

theorem ofPath_apply_iff_python :
    (withInterpreter "Py" "python3 -u").external.replace = false ∧
      IsOnlyEntry (withInterpreter "Py" "python3 -u") "Py" "python3 -u" ∧
      PosixWords.split? "python3 -u" = some ["python3", "-u"] ∧
      (Path.extension? "tools/count.PY").map Text.lower = some (Text.lower "Py") ∧
      CommandLine.ofPath ((withInterpreter "Py" "python3 -u").apply .default).external.interpreters
        "tools/count.PY" ["7"] = (⟨"python3", ["-u", "tools/count.PY", "7"]⟩, []) := by
  have hentry := isOnlyEntry_withInterpreter "Py" "python3 -u"
  have hsplit : PosixWords.split? "python3 -u" = some ["python3", "-u"] := by decide
  have hpath : (Path.extension? "tools/count.PY").map Text.lower = some (Text.lower "Py") := by
    decide
  refine ⟨rfl, hentry, hsplit, hpath,
    (ofPath_apply_iff rfl hentry hsplit hpath ["7"]).mpr fun k line h ↦ absurd h.same ?_⟩
  have hdefault := mem_of_default_interpreter h.default
  clear h
  revert k
  decide

/-- A user writes `SH` for the scripts that the defaults know as `sh`, and the default
stays. -/
theorem ofPath_withInterpreter_SH :
    (withInterpreter "SH" "cat").external.replace = false ∧
      IsOnlyEntry (withInterpreter "SH" "cat") "SH" "cat" ∧
      PosixWords.split? "cat" = some ["cat"] ∧
      (Path.extension? "x.sh").map Text.lower = some (Text.lower "SH") ∧
      CommandLine.ofPath ((withInterpreter "SH" "cat").apply .default).external.interpreters
        "x.sh" [] ≠ (⟨"cat", ["x.sh"]⟩, []) :=
  ⟨rfl, isOnlyEntry_withInterpreter "SH" "cat", by decide, by decide, by decide⟩

end Overlay
end LineShell
