import Mathlib
import LineShell.PosixWords
import LineShell.Proofs.Words.Reading

/-!
# Quoted words in the plain reading

Words that are quoted for a portable shell are read here by the plain reading,
which knows no escapes.  It gives the words back exactly when the quoting took no
escape.  One direction follows the chunks; for the other one, the backslashes are
counted: the plain reading keeps all of them, those of the escapes included.
-/

namespace LineShell
namespace PosixWords

theorem isBareChar_bounds {c : Char} (h : isBareChar c = true) :
    0x21 ≤ c.toNat ∧ c.toNat < 0x7f := by
  have hmem : c.isAlphanum = true ∨ c ∈ ['+', '-', '.', '/', ':', '@', ']', '_'] := by
    simpa [isBareChar] using h
  rcases hmem with halnum | hlist
  · simp only [Char.isAlphanum, Char.isAlpha, Char.isUpper, Char.isLower, Char.isDigit,
      Bool.or_eq_true, Bool.and_eq_true, decide_eq_true_eq, ge_iff_le,
      UInt32.le_iff_toNat_le] at halnum
    change ((65 ≤ c.toNat ∧ c.toNat ≤ 90) ∨ (97 ≤ c.toNat ∧ c.toNat ≤ 122)) ∨
      (48 ≤ c.toNat ∧ c.toNat ≤ 57) at halnum
    omega
  · fin_cases hlist <;> decide

/-- A bare character is read as itself. -/
theorem isBareChar_plain {c : Char} (h : isBareChar c = true) :
    c ≠ '"' ∧ c ≠ '\x27' ∧ Text.isBlank c = false := by
  obtain ⟨hlow, hhigh⟩ := isBareChar_bounds h
  refine ⟨?_, ?_, ?_⟩
  · rintro rfl
    exact absurd h (by decide)
  · rintro rfl
    exact absurd h (by decide)
  · simp only [Text.isBlank, Bool.or_eq_false_iff, Bool.and_eq_false_iff, beq_eq_false_iff_ne,
      decide_eq_false_iff_not]
    omega

/-- A style can carry a chunk: bare characters without marks, and no single quote
between single quotes. -/
def Carries : Style → String → Prop
  | .bare, chunk => chunk ≠ "" ∧ ∀ c ∈ chunk.toList, isBareChar c = true
  | .single, chunk => '\x27' ∉ chunk.toList
  | .double, _ => True

/-- Each style of a set that could be chosen carries the chunk at hand. -/
structure Admits (styles : Styles) (chunk : String) : Prop where
  nonempty : chunk ≠ ""
  bare : styles.bare = true → ∀ c ∈ chunk.toList, isBareChar c = true
  single : styles.single = true → '\x27' ∉ chunk.toList

theorem Admits.carries_best {styles : Styles} {chunk : String} (h : Admits styles chunk) :
    Carries styles.best chunk := by
  unfold Styles.best
  split_ifs with hbare hsingle
  · exact ⟨h.nonempty, h.bare hbare⟩
  · exact h.single hsingle
  · trivial

theorem stylesOf_single {c : Char} (h : (stylesOf c).single = true) : c ≠ '\x27' := by
  rintro rfl
  exact absurd h (by decide)

theorem admits_head (c : Char) : Admits (headStylesOf c) c.toString := by
  by_cases hc : c = '^'
  · subst hc
    exact ⟨by decide, by decide, by decide⟩
  · refine ⟨by simp [← String.toList_inj], ?_, ?_⟩
    · intro hbare
      simpa [headStylesOf, hc, stylesOf] using hbare
    · intro hsingle
      have hne := stylesOf_single (by simpa [headStylesOf, hc] using hsingle)
      simpa using Ne.symm hne

theorem Admits.push {styles : Styles} {chunk : String} (h : Admits styles chunk) (c : Char) :
    Admits (styles.inter (stylesOf c)) (chunk.push c) := by
  refine ⟨String.push_ne_empty, ?_, ?_⟩
  · intro hbare d hd
    obtain ⟨hstyles, hc⟩ : styles.bare = true ∧ isBareChar c = true := by
      simpa [Styles.inter, stylesOf] using hbare
    rcases List.mem_append.mp (String.toList_push c ▸ hd) with hd | hd
    · exact h.bare hstyles d hd
    · rwa [List.mem_singleton.mp hd]
  · intro hsingle hmark
    obtain ⟨hstyles, hc⟩ : styles.single = true ∧ (stylesOf c).single = true := by
      simpa [Styles.inter] using hsingle
    rcases List.mem_append.mp (String.toList_push c ▸ hmark) with hmark | hmark
    · exact h.single hstyles hmark
    · exact stylesOf_single hc (List.mem_singleton.mp hmark).symm

section

variable {P : Styles → String → Prop} {Q : Style × String → Prop}

/-- What holds of the chunk at hand and of the styles left for it, from its first character
on, decides what holds of the chunks of a word. -/
theorem forall_mem_chunksFrom (hhead : ∀ c, P (headStylesOf c) c.toString)
    (hpush : ∀ styles chunk c, P styles chunk → (styles.inter (stylesOf c)).isEmpty = false →
      P (styles.inter (stylesOf c)) (chunk.push c))
    (hbest : ∀ styles chunk, P styles chunk → Q (styles.best, chunk))
    {styles : Styles} {chunk : String} (h : P styles chunk) (cs : List Char) :
    ∀ p ∈ chunksFrom styles chunk cs, Q p := by
  induction cs generalizing styles chunk with
  | nil => simpa [chunksFrom] using hbest styles chunk h
  | cons c cs ih =>
      intro p hp
      simp only [chunksFrom] at hp
      split_ifs at hp with hcut
      · rcases List.mem_cons.mp hp with rfl | hp
        · exact hbest styles chunk h
        · exact ih (hhead c) p hp
      · exact ih (hpush styles chunk c h (by simpa using hcut)) p hp

theorem forall_mem_chunks (hhead : ∀ c, P (headStylesOf c) c.toString)
    (hpush : ∀ styles chunk c, P styles chunk → (styles.inter (stylesOf c)).isEmpty = false →
      P (styles.inter (stylesOf c)) (chunk.push c))
    (hbest : ∀ styles chunk, P styles chunk → Q (styles.best, chunk)) (hempty : Q (.single, ""))
    (word : String) : ∀ p ∈ chunks word, Q p := by
  unfold chunks
  split
  · simpa using hempty
  · exact forall_mem_chunksFrom hhead hpush hbest (hhead _) _

end

/-- The styles of the chunks of a word can carry them. -/
theorem carries_of_mem_chunks {word : String} {p : Style × String} (hp : p ∈ chunks word) :
    Carries p.1 p.2 :=
  forall_mem_chunks (P := Admits) (Q := fun p ↦ Carries p.1 p.2) admits_head
    (fun _ _ c h _ ↦ h.push c) (fun _ _ h ↦ h.carries_best) (by simp [Carries]) word p hp

theorem flatMap_chunksFrom (styles : Styles) (chunk : String) (cs : List Char) :
    (chunksFrom styles chunk cs).flatMap (·.2.toList) = chunk.toList ++ cs := by
  induction cs generalizing styles chunk with
  | nil => simp [chunksFrom]
  | cons c cs ih =>
      simp only [chunksFrom]
      split_ifs with hcut <;> simp [ih]

/-- The chunks of a word are its characters in order. -/
theorem flatMap_chunks (word : String) : (chunks word).flatMap (·.2.toList) = word.toList := by
  unfold chunks
  split
  · rename_i h
    simp [h]
  · rename_i c cs h
    rw [flatMap_chunksFrom, h]
    simp

theorem chunks_ne_nil (word : String) : chunks word ≠ [] := by
  have hfrom : ∀ styles chunk cs, chunksFrom styles chunk cs ≠ [] := by
    intro styles chunk cs
    induction cs generalizing styles chunk with
    | nil => simp [chunksFrom]
    | cons c cs ih =>
        simp only [chunksFrom]
        split_ifs with hcut
        · simp
        · exact ih _ _
  unfold chunks
  split
  · simp
  · exact hfrom _ _ _

def escape (cs : List Char) : List Char :=
  cs.flatMap fun c ↦ if isEscaped c then ['\\', c] else [c]

theorem toList_writeChunk (p : Style × String) :
    (writeChunk p).toList = match p.1 with
      | .bare => p.2.toList
      | .single => '\x27' :: p.2.toList ++ ['\x27']
      | .double => '"' :: escape p.2.toList ++ ['"'] := by
  obtain ⟨style, chunk⟩ := p
  cases style <;> simp [writeChunk, escape]

theorem toList_quote (word : String) :
    (quote word).toList = (chunks word).flatMap fun p ↦ (writeChunk p).toList := by
  rw [quote, Text.toList_joinWith_empty, List.flatMap_map]

/-- Quoting the word takes no escape: no chunk between double quotes has a character
that needs one. -/
def Unescaped (word : String) : Prop :=
  ∀ p ∈ chunks word, p.1 = .double → ∀ c ∈ p.2.toList, isEscaped c = false

instance (word : String) : Decidable (Unescaped word) :=
  inferInstanceAs (Decidable (∀ p ∈ chunks word, _))

theorem escape_eq_self {cs : List Char} (h : ∀ c ∈ cs, isEscaped c = false) : escape cs = cs := by
  induction cs with
  | nil => rfl
  | cons c cs ih =>
      have hrest : escape cs = cs := ih fun d hd ↦ h d (List.mem_cons_of_mem c hd)
      have hc := h c List.mem_cons_self
      calc
        escape (c :: cs) = c :: escape cs := by simp [escape, hc]
        _ = c :: cs := by rw [hrest]

theorem spells_writeChunk {p : Style × String} (hcarries : Carries p.1 p.2)
    (hplain : p.1 = .double → ∀ c ∈ p.2.toList, isEscaped c = false) :
    Words.Spells (writeChunk p).toList p.2 := by
  obtain ⟨style, chunk⟩ := p
  rw [toList_writeChunk]
  cases style with
  | bare =>
      have hne : chunk.toList ≠ [] := by simpa using hcarries.1
      have hspells := Words.spells_plain hne fun c hc ↦ isBareChar_plain (hcarries.2 c hc)
      rwa [String.ofList_toList] at hspells
  | single =>
      have hopen : Quotation.outside.afterMark? '\x27' = some .single := rfl
      have hspells := Words.spells_quotation hopen hcarries
      rwa [String.ofList_toList] at hspells
  | double =>
      have hplain' : ∀ c ∈ chunk.toList, isEscaped c = false := hplain rfl
      have hmark : '"' ∉ chunk.toList := fun h ↦ absurd (hplain' _ h) (by decide)
      have hopen : Quotation.outside.afterMark? '"' = some .double := rfl
      have hspells := Words.spells_quotation hopen hmark
      rw [String.ofList_toList] at hspells
      simpa [escape_eq_self hplain'] using hspells

/-- Chunks that need no escape are read as one word. -/
theorem spells_chunks {ps : List (Style × String)} (hne : ps ≠ [])
    (hcarries : ∀ p ∈ ps, Carries p.1 p.2)
    (hplain : ∀ p ∈ ps, p.1 = .double → ∀ c ∈ p.2.toList, isEscaped c = false) :
    Words.Spells (ps.flatMap fun p ↦ (writeChunk p).toList)
      (String.ofList (ps.flatMap (·.2.toList))) := by
  induction ps with
  | nil => exact absurd rfl hne
  | cons p ps ih =>
      have hp := spells_writeChunk (hcarries p List.mem_cons_self) (hplain p List.mem_cons_self)
      cases ps with
      | nil => simpa using hp
      | cons p' ps =>
          have hrest := ih (by simp) (fun r hr ↦ hcarries r (List.mem_cons_of_mem p hr))
            fun r hr ↦ hplain r (List.mem_cons_of_mem p hr)
          have happend := hp.append hrest
          rwa [← String.ofList_toList (s := p.2), ← String.ofList_append] at happend

theorem spells_quote {word : String} (h : Unescaped word) :
    Words.Spells (quote word).toList word := by
  have hspells := spells_chunks (chunks_ne_nil word) (fun _ hp ↦ carries_of_mem_chunks hp) h
  rwa [← toList_quote, flatMap_chunks, String.ofList_toList] at hspells

theorem tight_writeChunk {p : Style × String} (h : Carries p.1 p.2) :
    Text.Tight (writeChunk p).toList := by
  obtain ⟨style, chunk⟩ := p
  rw [toList_writeChunk]
  cases style with
  | bare =>
      have hblank : ∀ c ∈ chunk.toList, Text.isBlank c = false :=
        fun c hc ↦ (isBareChar_plain (h.2 c hc)).2.2
      exact ⟨by simpa using h.1, fun c hc ↦ hblank c (List.mem_of_mem_head? hc),
        fun c hc ↦ hblank c (List.mem_of_mem_getLast? hc)⟩
  | single => exact Text.tight_between (by decide) chunk.toList
  | double => exact Text.tight_between (by decide) (escape chunk.toList)

theorem tight_chunks {ps : List (Style × String)} (hne : ps ≠ [])
    (h : ∀ p ∈ ps, Carries p.1 p.2) :
    Text.Tight (ps.flatMap fun p ↦ (writeChunk p).toList) := by
  induction ps with
  | nil => exact absurd rfl hne
  | cons p ps ih =>
      have hp := tight_writeChunk (h p List.mem_cons_self)
      cases ps with
      | nil => simpa using hp
      | cons p' ps =>
          exact hp.append [] (ih (by simp) fun r hr ↦ h r (List.mem_cons_of_mem p hr))

theorem tight_quote (word : String) : Text.Tight (quote word).toList := by
  rw [toList_quote]
  exact tight_chunks (chunks_ne_nil word) fun _ hp ↦ carries_of_mem_chunks hp

def line (words : List String) : List Char :=
  (Text.joinWith " " (words.map quote)).toList

theorem line_cons_cons (word next : String) (words : List String) :
    line (word :: next :: words) = (quote word).toList ++ ' ' :: line (next :: words) := by
  simp [line, Text.joinWith]

theorem tight_line (word : String) (words : List String) : Text.Tight (line (word :: words)) := by
  induction words generalizing word with
  | nil => simpa [line, Text.joinWith] using tight_quote word
  | cons next words ih =>
      rw [line_cons_cons]
      exact (tight_quote word).append [' '] (ih next)

theorem splitFrom_line_cons {word : String} (h : Unescaped word) (next : String)
    (words : List String) :
    Words.splitFrom .outside none (line (word :: next :: words)) =
      word :: Words.splitFrom .outside none (line (next :: words)) := by
  have hspells := spells_quote h none (' ' :: line (next :: words))
  have hblank : Text.isBlank ' ' = true := by decide
  rw [line_cons_cons, hspells]
  simp [Words.splitFrom, Quotation.afterMark?, hblank]

theorem splitFrom_line {word : String} {words : List String}
    (h : ∀ w ∈ word :: words, Unescaped w) :
    Words.splitFrom .outside none (line (word :: words)) = word :: words := by
  induction words generalizing word with
  | nil =>
      have hspells := spells_quote (h word List.mem_cons_self) none []
      simpa [line, Text.joinWith, Words.splitFrom] using hspells
  | cons next words ih =>
      have hrest := ih fun w hw ↦ h w (List.mem_cons_of_mem word hw)
      rw [splitFrom_line_cons (h word List.mem_cons_self), hrest]

def escapes (p : Style × String) : Nat :=
  if p.1 = .double then p.2.toList.countP isEscaped else 0

theorem count_escape (cs : List Char) :
    (escape cs).count '\\' = cs.count '\\' + cs.countP isEscaped := by
  induction cs with
  | nil => rfl
  | cons c cs ih =>
      have hcons : escape (c :: cs) =
          (if isEscaped c then ['\\', c] else [c]) ++ escape cs := rfl
      rw [hcons, List.count_append, ih]
      by_cases hc : isEscaped c = true
      · simp [hc, List.count_cons]
        omega
      · simp [hc, List.count_cons]
        omega

theorem count_writeChunk (p : Style × String) :
    (writeChunk p).toList.count '\\' = p.2.toList.count '\\' + escapes p := by
  obtain ⟨style, chunk⟩ := p
  rw [toList_writeChunk]
  cases style <;> simp [escapes, count_escape]

theorem count_quote (word : String) :
    (quote word).toList.count '\\' =
      word.toList.count '\\' + ((chunks word).map escapes).sum := by
  rw [toList_quote, ← flatMap_chunks word]
  induction chunks word with
  | nil => rfl
  | cons p ps ih =>
      simp only [List.flatMap_cons, List.count_append, List.map_cons, List.sum_cons, ih,
        count_writeChunk]
      omega

theorem escapes_eq_zero_iff (p : Style × String) :
    escapes p = 0 ↔ (p.1 = .double → ∀ c ∈ p.2.toList, isEscaped c = false) := by
  by_cases hp : p.1 = .double <;> simp [escapes, hp]

theorem sum_escapes_eq_zero_iff (word : String) :
    ((chunks word).map escapes).sum = 0 ↔ Unescaped word := by
  rw [List.sum_eq_zero_iff, List.forall_mem_map]
  exact forall₂_congr fun p _ ↦ escapes_eq_zero_iff p

theorem count_line (word : String) (words : List String) :
    (line (word :: words)).count '\\' =
      ((word :: words).map fun w ↦ (quote w).toList.count '\\').sum := by
  induction words generalizing word with
  | nil => simp [line, Text.joinWith]
  | cons next words ih =>
      rw [line_cons_cons, List.count_append, List.count_cons_of_ne (by decide), ih]
      rfl

/-- Where the plain reading gives the words back, it has met no backslash of an
escape. -/
theorem unescaped_of_splitFrom_line {word : String} {words : List String}
    (h : Words.splitFrom .outside none (line (word :: words)) = word :: words) :
    ∀ w ∈ word :: words, Unescaped w := by
  have hread := Words.sum_count_splitFrom (a := '\\') (by decide) (by decide) (by decide)
    .outside none (line (word :: words))
  have hkept : ((word :: words).map fun w ↦ w.toList.count '\\').sum =
      ((word :: words).map fun w ↦ (quote w).toList.count '\\').sum := by
    rw [h, count_line] at hread
    simpa using hread
  -- Writing adds a backslash for each escape, and reading keeps them all.
  have hescapes : ((word :: words).map fun w ↦ ((chunks w).map escapes).sum).sum = 0 := by
    simp only [count_quote, List.sum_map_add] at hkept
    omega
  intro w hw
  exact (sum_escapes_eq_zero_iff w).mp
    (List.forall_mem_map.mp (List.sum_eq_zero_iff.mp hescapes) w hw)

/-- The plain reading gives quoted words back exactly when no word takes an escape. -/
theorem splitFrom_line_eq_self_iff (word : String) (words : List String) :
    Words.splitFrom .outside none (line (word :: words)) = word :: words ↔
      ∀ w ∈ word :: words, Unescaped w :=
  ⟨unescaped_of_splitFrom_line, splitFrom_line⟩

theorem join_eq_line {words : List String} (h : ∀ w ∈ words, Text.hasNul w = false) :
    join words = String.ofList (line words) := by
  have hany : words.any Text.hasNul = false := List.any_eq_false.mpr fun w hw ↦ by simp [h w hw]
  simp [join, join?, hany, line]

theorem split_join {word : String} {words : List String}
    (h : ∀ w ∈ word :: words, Text.hasNul w = false) :
    Words.split (join (word :: words)) =
      Words.splitFrom .outside none (line (word :: words)) := by
  have htight : Text.Tight (join (word :: words)).toList := by
    rw [join_eq_line h, String.toList_ofList]
    exact tight_line word words
  rw [Words.split, Text.trim_of_tight htight, join_eq_line h, String.toList_ofList]


end PosixWords
end LineShell
