import LineShell.Proofs.Config.Interpreters

/-!
# Where programs are found

A name without a slash is looked for in the directories of the search path, in each of them
bare at first and then with each suffix, and the first program on these paths is found.  A
path is tried in the same way from the directory at hand; a file there that nobody may run
is still found if its extension has an interpreter.  The interpreter that lets a file be
found also starts it, since both are read from the same settings.
-/

namespace LineShell

namespace World

/-- The path leads to a regular file that may be run. -/
def IsProgram (w : World) (path : String) : Prop :=
  ∃ loc node, w.find .follow path = .ok (loc, node) ∧ node.isRegular = true ∧
    node.attributes.isExecutable = true

theorem isExecutable_iff {w : World} {path : String} :
    w.isExecutable path = true ↔ w.IsProgram path := by
  rw [isExecutable, holds_eq_true_iff]
  simp only [IsProgram, Node.isExecutable, Bool.and_eq_true]

/-- Of the paths, this one is the first that leads to a program. -/
structure IsFirstProgram (w : World) (paths : List String) (path : String) : Prop where
  program : w.IsProgram path
  first : ∃ before after, paths = before ++ path :: after ∧ ∀ p ∈ before, ¬w.IsProgram p

theorem find?_isExecutable_eq_some_iff {w : World} {paths : List String} {path : String} :
    paths.find? w.isExecutable = some path ↔ w.IsFirstProgram paths path := by
  have hnot : ∀ p, (!w.isExecutable p) = true ↔ ¬w.IsProgram p := by
    intro p
    rw [← isExecutable_iff, Bool.not_eq_true', Bool.not_eq_true]
  simp only [List.find?_eq_some_iff_append, hnot, isExecutable_iff]
  exact ⟨fun h ↦ ⟨h.1, h.2⟩, fun h ↦ ⟨h.program, h.first⟩⟩

end World

namespace Resolver

variable {settings : ExternalSettings} {w : World} {directory name path : String}

/-- The path leads to a regular file, and the settings have an interpreter for its
extension, up to case. -/
structure IsInterpreted (settings : ExternalSettings) (w : World) (path : String) : Prop where
  regular : ∃ loc node, w.find .follow path = .ok (loc, node) ∧ node.isRegular = true
  extension : ∃ ext key, Path.extension? path = some ext ∧
    (settings.interpreters.get? key).isSome ∧ Text.lower key = Text.lower ext

theorem isScript_iff :
    (ofSettings settings).isScript w path = true ↔ IsInterpreted settings w path := by
  have hregular : w.isRegular path = true ↔
      ∃ loc node, w.find .follow path = .ok (loc, node) ∧ node.isRegular = true :=
    World.holds_eq_true_iff
  have hkey : ∀ ext, (settings.interpreters.names.map Text.lower).contains (Text.lower ext) = true ↔
      ∃ key, (settings.interpreters.get? key).isSome ∧ Text.lower key = Text.lower ext := by
    intro ext
    simp [Table.names, Table.get?, Table.isSome_find?_iff]
  unfold isScript
  cases hext : Path.extension? path with
  | none =>
      refine iff_of_false Bool.false_ne_true ?_
      rintro ⟨-, ext, key, h, -⟩
      rw [hext] at h
      cases h
  | some ext =>
      simp only [Bool.and_eq_true]
      rw [ofSettings, hkey, hregular]
      constructor
      · rintro ⟨⟨key, hsome, hlower⟩, hfile⟩
        exact ⟨hfile, ext, key, hext, hsome, hlower⟩
      · rintro ⟨hfile, found, key, hfound, hsome, hlower⟩
        obtain rfl : ext = found := Option.some.inj (hext.symm.trans hfound)
        exact ⟨⟨key, hsome, hlower⟩, hfile⟩

theorem resolve_of_bare_name (hname : name ≠ "") (hbare : Text.hasChar name '/' = false)
    (r : Resolver) (w : World) (directory : String) :
    r.resolve w directory name = some path ↔ ∃ value, w.lookup "PATH" = some value ∧
      w.IsFirstProgram ((Text.parts ':' value).flatMap fun dir ↦
        r.candidates (Path.join dir name)) path := by
  have hresolve : r.resolve w directory name = ((searchDirectories w).flatMap fun dir ↦
      r.candidates (Path.join dir name)).find? w.isExecutable := by
    rw [resolve, if_neg hname, hbare, if_neg Bool.false_ne_true, List.find?_flatMap]
    rfl
  rw [hresolve, World.find?_isExecutable_eq_some_iff, searchDirectories]
  cases w.lookup "PATH" with
  | some value => simp
  | none =>
      simp only [List.flatMap_nil, reduceCtorEq, false_and, exists_false, iff_false]
      rintro ⟨-, before, after, hnil, -⟩
      simp at hnil

theorem resolve_of_path (hpath : Text.hasChar name '/' = true) (settings : ExternalSettings)
    (w : World) (directory : String) :
    let base := Path.join directory (w.expandHome name)
    let paths := (ofSettings settings).candidates base
    (ofSettings settings).resolve w directory name = some path ↔
      w.IsFirstProgram paths path ∨
        (∀ p ∈ paths, ¬w.IsProgram p) ∧ IsInterpreted settings w base ∧ path = base := by
  intro base paths
  have hname : name ≠ "" := by
    rintro rfl
    cases hpath
  have hresolve : (ofSettings settings).resolve w directory name =
      (paths.find? w.isExecutable).or
        (if (ofSettings settings).isScript w base then some base else none) := by
    rw [resolve, if_neg hname, if_pos hpath]
    have hfirst : paths.find? w.isExecutable = (ofSettings settings).firstMatch? w base := rfl
    rw [hfirst]
    dsimp only [base]
    cases (ofSettings settings).firstMatch? w (Path.join directory (w.expandHome name)) with
    | some found => rw [Option.some_or]
    | none => rw [Option.none_or]
  rw [hresolve, ← World.find?_isExecutable_eq_some_iff]
  cases hfirst : paths.find? w.isExecutable with
  | some found =>
      have hfound := List.mem_of_find?_eq_some hfirst
      have hprogram := World.isExecutable_iff.mp (List.find?_some hfirst)
      rw [Option.some_or]
      refine ⟨.inl, fun h ↦ h.resolve_right ?_⟩
      rintro ⟨hnone, -⟩
      exact hnone found hfound hprogram
  | none =>
      have hnone : ∀ p ∈ paths, ¬w.IsProgram p := by
        intro p hp hprogram
        exact List.find?_eq_none.mp hfirst p hp (World.isExecutable_iff.mpr hprogram)
      rw [Option.none_or, or_iff_right (by simp)]
      split_ifs with hscript
      · refine ⟨fun heq ↦ ⟨hnone, isScript_iff.mp hscript, (Option.some.inj heq).symm⟩, ?_⟩
        rintro ⟨-, -, rfl⟩
        rfl
      · refine iff_of_false (by simp) ?_
        rintro ⟨-, hinterpreted, -⟩
        exact hscript (isScript_iff.mpr hinterpreted)

end Resolver

namespace CommandLine

variable {settings : ExternalSettings} {w : World} {path : String}

/-- A file that is found for its interpreter is started by it. -/
theorem exists_line_of_isInterpreted (h : Resolver.IsInterpreted settings w path) :
    ∃ ext key line, Path.extension? path = some ext ∧
      settings.interpreters.get? key = some line ∧ Text.lower key = Text.lower ext ∧
      interpreter? settings.interpreters path = some line := by
  obtain ⟨ext, key, hext, hsome, hlower⟩ := h.extension
  have hfound := isSome_get?_interpretersByExtension hsome
  rw [hlower] at hfound
  obtain ⟨line, hline⟩ := Option.isSome_iff_exists.mp hfound
  obtain ⟨last, hvalue, hsame, -⟩ := get?_interpretersByExtension.mp hline
  refine ⟨ext, last, line, hext, hvalue, hsame, ?_⟩
  simp [interpreter?, hext, hline]

end CommandLine

namespace Resolver

/-- A bare name stands for the first program on the paths that it makes with the directories
of the search path and the suffixes, in this order, and for nothing without a search path.
A path stands for the first program among itself and its forms with a suffix, and for
itself if there is none and its extension has an interpreter.  What was found and is no
program is started by the line of such an interpreter, with the path behind its words and
then the arguments. -/
theorem resolve_in_search_order {name : String} (hname : name ≠ "")
    (settings : ExternalSettings) (w : World) (directory : String) :
    let r := ofSettings settings
    let base := Path.join directory (w.expandHome name)
    (Text.hasChar name '/' = false → ∀ path, r.resolve w directory name = some path ↔
      ∃ value, w.lookup "PATH" = some value ∧
        w.IsFirstProgram ((Text.parts ':' value).flatMap fun dir ↦
          Path.join dir name :: settings.suffixes.map (Path.join dir name ++ ·)) path) ∧
    (Text.hasChar name '/' = true → ∀ path, r.resolve w directory name = some path ↔
      w.IsFirstProgram (base :: settings.suffixes.map (base ++ ·)) path ∨
        (∀ p ∈ base :: settings.suffixes.map (base ++ ·), ¬w.IsProgram p) ∧
          IsInterpreted settings w base ∧ path = base) ∧
    ∀ path, r.resolve w directory name = some path → ¬w.IsProgram path →
      ∃ ext key line, Path.extension? path = some ext ∧
        settings.interpreters.get? key = some line ∧ Text.lower key = Text.lower ext ∧
        CommandLine.interpreter? settings.interpreters path = some line ∧
        ∀ program words, PosixWords.split? line = some (program :: words) → ∀ args,
          CommandLine.ofPath settings.interpreters path args =
            (⟨program, words ++ path :: args⟩, []) := by
  intro r base
  refine ⟨fun hbare path ↦ resolve_of_bare_name hname hbare r w directory,
    fun hpath path ↦ resolve_of_path hpath settings w directory, ?_⟩
  intro path hfound hno
  have hinterpreted : IsInterpreted settings w path := by
    by_cases hpath : Text.hasChar name '/' = true
    · rcases (resolve_of_path hpath settings w directory).mp hfound with hfirst | ⟨-, h, rfl⟩
      · exact absurd hfirst.program hno
      · exact h
    · have hbare := Bool.eq_false_of_not_eq_true hpath
      obtain ⟨value, -, hfirst⟩ := (resolve_of_bare_name hname hbare r w directory).mp hfound
      exact absurd hfirst.program hno
  obtain ⟨ext, key, line, hext, hkey, hlower, hline⟩ :=
    CommandLine.exists_line_of_isInterpreted hinterpreted
  refine ⟨ext, key, line, hext, hkey, hlower, hline, fun program words hsplit args ↦ ?_⟩
  exact (CommandLine.ofPath_eq_iff hline words args).mpr hsplit

def suffixAndScript : ExternalSettings where
  suffixes := [".run"]
  interpreters := .ofList [("Sh", "sh -e")]

/-- A world with a file `tool` that nobody may run, a program `tool.run` in a later directory
of the search path, and a script that nobody may run. -/
def withScript : World where
  tree :=
    ⟨[(["bin"], .directory ⟨0o755, 0⟩), (["bin", "tool"], .file [] ⟨0o644, 0⟩),
      (["opt"], .directory ⟨0o755, 0⟩), (["opt", "tool.run"], .file [] ⟨0o755, 0⟩),
      (["w"], .directory ⟨0o755, 0⟩), (["w", "greet.SH"], .file [] ⟨0o644, 0⟩)]⟩
  here := []
  clock := 0
  environment := .ofList [("PATH", "/bin:/opt")]
  accountHome := "/"

theorem resolve_in_search_order_withScript :
    ("tool" ≠ "" ∧ Text.hasChar "tool" '/' = false ∧
      withScript.lookup "PATH" = some "/bin:/opt" ∧
      (ofSettings suffixAndScript).resolve withScript "/w" "tool" = some "/opt/tool.run" ∧
      withScript.IsFirstProgram ["/bin/tool", "/bin/tool.run", "/opt/tool", "/opt/tool.run"]
        "/opt/tool.run") ∧
    "./greet.SH" ≠ "" ∧ Text.hasChar "./greet.SH" '/' = true ∧
      (ofSettings suffixAndScript).resolve withScript "/w" "./greet.SH" = some "/w/./greet.SH" ∧
      (∀ p ∈ ["/w/./greet.SH", "/w/./greet.SH.run"], ¬withScript.IsProgram p) ∧
      PosixWords.split? "sh -e" = some ["sh", "-e"] ∧
      CommandLine.ofPath suffixAndScript.interpreters "/w/./greet.SH" ["x"] =
        (⟨"sh", ["-e", "/w/./greet.SH", "x"]⟩, []) := by
  have hbare : (ofSettings suffixAndScript).resolve withScript "/w" "tool" =
      some "/opt/tool.run" := by decide +kernel
  have hscript : (ofSettings suffixAndScript).resolve withScript "/w" "./greet.SH" =
      some "/w/./greet.SH" := by decide +kernel
  have hno : ∀ p ∈ ["/w/./greet.SH", "/w/./greet.SH.run"], ¬withScript.IsProgram p := by
    simp only [← World.isExecutable_iff]
    decide +kernel
  have hwords : PosixWords.split? "sh -e" = some ["sh", "-e"] := by decide
  have hinterpreter : CommandLine.interpreter? suffixAndScript.interpreters "/w/./greet.SH" =
      some "sh -e" := by decide
  obtain ⟨honPath, -, -⟩ :=
    resolve_in_search_order (by decide : "tool" ≠ "") suffixAndScript withScript "/w"
  obtain ⟨-, -, hstarted⟩ :=
    resolve_in_search_order (by decide : "./greet.SH" ≠ "") suffixAndScript withScript "/w"
  refine ⟨⟨by decide, by decide, by decide, hbare, ?_⟩, by decide, by decide, hscript, hno,
    hwords, ?_⟩
  · obtain ⟨value, hvalue, hfirst⟩ := (honPath (by decide) "/opt/tool.run").mp hbare
    obtain rfl : "/bin:/opt" = value := Option.some.inj hvalue
    exact hfirst
  · obtain ⟨ext, key, line, -, -, -, hline, hstart⟩ :=
      hstarted "/w/./greet.SH" hscript (hno _ (by simp))
    obtain rfl : "sh -e" = line := Option.some.inj (hinterpreter.symm.trans hline)
    exact hstart "sh" ["-e"] hwords ["x"]

end Resolver
end LineShell
