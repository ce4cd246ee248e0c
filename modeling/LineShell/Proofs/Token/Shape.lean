import Mathlib
import LineShell.Proofs.Token.Scan

/-!
# What a scan learns from the values of variables

Two look-ups are given that agree about which of the mentioned variables are
empty.  Both scans then go through the same quotations and the same operators,
and begin and end their words at the same characters; only the texts of the
words differ.
-/

namespace LineShell

/-- A name that a text mentions: it stands after a dollar sign and goes as far as
name characters do. -/
def Mentions (text : List Char) (name : String) : Prop :=
  name ≠ "" ∧ (∀ c ∈ name.toList, Text.isNameChar c = true) ∧
    ∃ before after, text = before ++ '$' :: name.toList ++ after ∧
      ∀ c ∈ after.head?, Text.isNameChar c = false

namespace Lookup

/-- The value that is put in the place of a name. -/
def value (lookup : Lookup) (name : String) : String :=
  (lookup name).getD ""

/-- Both look-ups give an empty value, or none does. -/
def AgreeOn (L₁ L₂ : Lookup) (name : String) : Prop :=
  L₁.value name = "" ↔ L₂.value name = ""

end Lookup

namespace Token

/-- A token without the text of its word. -/
def shape : Token → Token
  | .word _ => .word ""
  | .pipe => .pipe
  | .redirect op => .redirect op

theorem eq_word_of_shape {t : Token} (h : t.shape = .word "") : ∃ text, t = .word text := by
  cases t with
  | word text => exact ⟨text, rfl⟩
  | pipe => simp [shape] at h
  | redirect op => simp [shape] at h

theorem eq_pipe_of_shape {t : Token} (h : t.shape = .pipe) : t = .pipe := by
  cases t with
  | word text => simp [shape] at h
  | pipe => rfl
  | redirect op => simp [shape] at h

theorem eq_redirect_of_shape {t : Token} {op : RedirectOp} (h : t.shape = .redirect op) :
    t = .redirect op := by
  cases t with
  | word text => simp [shape] at h
  | pipe => simp [shape] at h
  | redirect op' => simpa [shape] using h

end Token

namespace Scanner

/-- Two scanners that differ in the text of the word at hand only. -/
structure Alike (s t : Scanner) : Prop where
  quotation : s.quotation = t.quotation
  pending : s.pending = t.pending
  begun : s.word.isSome = t.word.isSome

theorem Alike.refl (s : Scanner) : Alike s s := ⟨rfl, rfl, rfl⟩

/-- Two results whose tokens have the same shapes and whose scanners are alike. -/
structure SameStep (a b : List Token × Scanner) : Prop where
  tokens : a.1.map Token.shape = b.1.map Token.shape
  next : Alike a.2 b.2

variable {L₁ L₂ : Lookup} {s t : Scanner}

theorem Alike.flush (h : Alike s t) : s.flush.map Token.shape = t.flush.map Token.shape := by
  have hbegun := h.begun
  unfold Scanner.flush
  cases hs : s.word <;> cases ht : t.word <;> simp_all [Token.shape]

theorem Alike.extend (h : Alike s t) {u v : String} (huv : u = "" ↔ v = "") :
    Alike (s.extend u) (t.extend v) := by
  by_cases hu : u = ""
  · simpa [Scanner.extend, hu, huv.mp hu] using h
  · have hv : v ≠ "" := fun hv ↦ hu (huv.mpr hv)
    simpa [Scanner.extend, hu, hv] using ⟨h.quotation, h.pending, rfl⟩

theorem Alike.settle (h : Alike s t)
    (hagree : ∀ name, name ≠ "" → s.pending = .name name → L₁.AgreeOn L₂ name) :
    SameStep (s.settle L₁) (t.settle L₂) := by
  have hcleared : Alike { s with pending := .nothing } { t with pending := .nothing } :=
    ⟨h.quotation, rfl, h.begun⟩
  have hpending := h.pending
  cases hs : s.pending with
  | nothing =>
      rw [settle_of_nothing hs, settle_of_nothing (hpending ▸ hs)]
      exact ⟨rfl, h⟩
  | name name =>
      have ht : t.pending = .name name := hpending ▸ hs
      by_cases hname : name = ""
      · subst hname
        have hdollar := hcleared.extend (show "$" = "" ↔ "$" = "" from Iff.rfl)
        simpa [Scanner.settle, hs, ht] using ⟨rfl, hdollar⟩
      · have hvalue := hagree name hname hs
        simpa [Scanner.settle, hs, ht] using ⟨rfl, hcleared.extend hvalue⟩
  | out =>
      have ht : t.pending = .out := hpending ▸ hs
      simpa [Scanner.settle, hs, ht] using ⟨rfl, hcleared⟩
  | input =>
      have ht : t.pending = .input := hpending ▸ hs
      simpa [Scanner.settle, hs, ht] using ⟨rfl, hcleared⟩

theorem Alike.read (h : Alike s t) (c : Char) : SameStep (s.read c) (t.read c) := by
  unfold Scanner.read
  rw [h.quotation]
  cases t.quotation.afterMark? c with
  | some q => exact ⟨rfl, ⟨rfl, h.pending, rfl⟩⟩
  | none =>
      simp only
      split_ifs
      · exact ⟨h.flush, Alike.refl _⟩
      · exact ⟨h.flush, Alike.refl _⟩
      · exact ⟨by simp [h.flush], Alike.refl _⟩
      · exact ⟨h.flush, Alike.refl _⟩
      · exact ⟨rfl, ⟨rfl, rfl, h.begun⟩⟩
      · exact ⟨rfl, ⟨rfl, h.pending, rfl⟩⟩

theorem Alike.settleAndRead (h : Alike s t) (c : Char)
    (hagree : ∀ name, name ≠ "" → s.pending = .name name → L₁.AgreeOn L₂ name) :
    SameStep (s.settleAndRead L₁ c) (t.settleAndRead L₂ c) := by
  have hsettled := h.settle hagree
  have hnext := hsettled.next.read c
  refine ⟨?_, hnext.next⟩
  simp [Scanner.settleAndRead, hsettled.tokens, hnext.tokens]

theorem Alike.step (h : Alike s t) (c : Char)
    (hagree : ∀ name, name ≠ "" → s.pending = .name name → Text.isNameChar c = false →
      L₁.AgreeOn L₂ name) :
    SameStep (s.step L₁ c) (t.step L₂ c) := by
  have hpending := h.pending
  unfold Scanner.step
  cases hs : s.pending with
  | nothing => simpa [← hpending, hs] using h.read c
  | name letters =>
      rw [← hpending, hs]
      by_cases hc : Text.isNameChar c = true
      · simpa [hc] using ⟨rfl, ⟨h.quotation, rfl, h.begun⟩⟩
      · have hc' : Text.isNameChar c = false := by simpa using hc
        simpa [hc'] using h.settleAndRead c fun name hname hp ↦ hagree name hname hp hc'
  | out =>
      rw [← hpending, hs]
      by_cases hc : c = '>'
      · simpa [hc] using ⟨rfl, ⟨h.quotation, rfl, h.begun⟩⟩
      · simpa [hc] using h.settleAndRead c (by simp [hs])
  | input =>
      rw [← hpending, hs]
      by_cases hc : c = '<'
      · simpa [hc] using ⟨rfl, ⟨h.quotation, rfl, h.begun⟩⟩
      · simpa [hc] using h.settleAndRead c (by simp [hs])

theorem Alike.finish (h : Alike s t)
    (hagree : ∀ name, name ≠ "" → s.pending = .name name → L₁.AgreeOn L₂ name) :
    (s.finish L₁).map Token.shape = (t.finish L₂).map Token.shape := by
  have hsettled := h.settle hagree
  simp [Scanner.finish, hsettled.tokens, hsettled.next.flush]

/-- A pending name consists of the name characters since the last dollar sign. -/
def NameRead (before : List Char) (s : Scanner) : Prop :=
  ∀ letters, s.pending = .name letters →
    (∀ c ∈ letters.toList, Text.isNameChar c = true) ∧
      ∃ pre, before = pre ++ '$' :: letters.toList

theorem pending_read (hs : s.pending = .nothing) {c : Char} {letters : String}
    (h : (s.read c).2.pending = .name letters) : c = '$' ∧ letters = "" := by
  unfold Scanner.read at h
  cases hmark : s.quotation.afterMark? c with
  | some q => simp [hmark, hs] at h
  | none =>
      simp only [hmark] at h
      split_ifs at h with _ _ _ _ hdollar
      · exact ⟨hdollar.2, by simpa using h.symm⟩
      · simp [hs] at h

theorem nameRead_settleAndRead (lookup : Lookup) (before : List Char) (s : Scanner) (c : Char) :
    NameRead (before ++ [c]) (s.settleAndRead lookup c).2 := by
  intro letters h
  obtain ⟨rfl, rfl⟩ := pending_read (settle_pending s) h
  exact ⟨by simp, before, rfl⟩

theorem NameRead.step {before : List Char} (h : NameRead before s) (lookup : Lookup) (c : Char) :
    NameRead (before ++ [c]) (s.step lookup c).2 := by
  unfold Scanner.step
  cases hs : s.pending with
  | nothing =>
      intro letters hletters
      obtain ⟨rfl, rfl⟩ := pending_read hs hletters
      exact ⟨by simp, before, rfl⟩
  | name letters =>
      by_cases hc : Text.isNameChar c = true
      · obtain ⟨hchars, pre, rfl⟩ := h letters hs
        intro letters' hletters'
        obtain rfl : letters.push c = letters' := by simpa [hc] using hletters'
        refine ⟨?_, pre, by simp⟩
        intro d hd
        rcases List.mem_append.mp (String.toList_push c ▸ hd) with hd | hd
        · exact hchars d hd
        · rwa [List.mem_singleton.mp hd]
      · simpa [hc] using nameRead_settleAndRead lookup before s c
  | out =>
      by_cases hc : c = '>'
      · simp [hc, NameRead]
      · simpa [hc] using nameRead_settleAndRead lookup before s c
  | input =>
      by_cases hc : c = '<'
      · simp [hc, NameRead]
      · simpa [hc] using nameRead_settleAndRead lookup before s c

/-- Where a pending name ends, the text mentions it. -/
theorem NameRead.mentions {before rest : List Char} (h : NameRead before s) {name : String}
    (hne : name ≠ "") (hs : s.pending = .name name)
    (hrest : ∀ c ∈ rest.head?, Text.isNameChar c = false) :
    Mentions (before ++ rest) name := by
  obtain ⟨hchars, pre, rfl⟩ := h name hs
  exact ⟨hne, hchars, pre, rest, rfl, hrest⟩

theorem Alike.scan {before rest : List Char} (h : Alike s t) (hname : NameRead before s)
    (hagree : ∀ name, Mentions (before ++ rest) name → L₁.AgreeOn L₂ name) :
    (Scanner.scan L₁ s rest).map Token.shape = (Scanner.scan L₂ t rest).map Token.shape := by
  -- The agreement is used where a name ends: at the next character, or with the text.
  induction rest generalizing s t before with
  | nil =>
      exact h.finish fun name hne hs ↦ hagree name (hname.mentions hne hs (by simp))
  | cons c rest ih =>
      have hstep : SameStep (s.step L₁ c) (t.step L₂ c) := by
        refine h.step c fun name hne hs hc ↦ hagree name (hname.mentions hne hs ?_)
        simpa using hc
      have hrest := ih hstep.next (hname.step L₁ c) (by simpa using hagree)
      simp [Scanner.scan, hstep.tokens, hrest]

end Scanner

/-- The tokens of a text keep their shape when the values of its variables change. -/
theorem Token.map_shape_tokenize {L₁ L₂ : Lookup} {text : String}
    (h : ∀ name, Mentions text.toList name → L₁.AgreeOn L₂ name) :
    (Token.tokenize L₁ text).map Token.shape = (Token.tokenize L₂ text).map Token.shape := by
  have hname : Scanner.NameRead [] {} := by simp [Scanner.NameRead]
  exact (Scanner.Alike.refl {}).scan hname (by simpa using h)

end LineShell
