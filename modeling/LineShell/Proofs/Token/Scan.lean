import Mathlib
import LineShell.Token

/-!
# Scanning a text in two parts

A scan that stops inside a text leaves a state from which the rest is scanned
as if nothing had happened.  The quotation of that state is the one that the
marks alone decide, because neither a variable name nor the second half of an
operator holds a mark.
-/

namespace LineShell

namespace Text

theorem ne_of_class {p : Char → Bool} {c d : Char} (hc : p c = true) (hd : p d = false) :
    c ≠ d :=
  ne_of_apply_ne p (by simp [hc, hd])

/-- The code points of the blanks, one by one. -/
def blankCodes : List Nat :=
  [0x9, 0xa, 0xb, 0xc, 0xd, 0x20, 0x85, 0xa0, 0x1680, 0x2000, 0x2001, 0x2002, 0x2003, 0x2004,
    0x2005, 0x2006, 0x2007, 0x2008, 0x2009, 0x200a, 0x2028, 0x2029, 0x202f, 0x205f, 0x3000]

theorem toNat_mem_blankCodes {c : Char} (h : isBlank c = true) : c.toNat ∈ blankCodes := by
  simp only [isBlank, Bool.or_eq_true, Bool.and_eq_true, beq_iff_eq, decide_eq_true_eq] at h
  simp only [blankCodes, List.mem_cons, List.not_mem_nil]
  omega

theorem isNameChar_of_isBlank {c : Char} (h : isBlank c = true) : isNameChar c = false := by
  have hcodes : ∀ n ∈ blankCodes, isNameChar (Char.ofNat n) = false := by decide +kernel
  have hc := hcodes c.toNat (toNat_mem_blankCodes h)
  rwa [Char.ofNat_toNat] at hc

theorem push_append_ofList (s : String) (c : Char) (cs : List Char) :
    s.push c ++ String.ofList cs = s ++ String.ofList (c :: cs) := by
  apply String.toList_injective
  simp

end Text

namespace Quotation

@[simp] theorem after_nil (q : Quotation) : q.after [] = q := rfl

@[simp] theorem after_cons (q : Quotation) (c : Char) (cs : List Char) :
    q.after (c :: cs) = (q.step c).after cs := rfl

@[simp] theorem after_append (q : Quotation) (cs ds : List Char) :
    q.after (cs ++ ds) = (q.after cs).after ds :=
  List.foldl_append

theorem afterMark?_eq_none {c : Char} (hdouble : c ≠ '"') (hsingle : c ≠ '\x27')
    (q : Quotation) : q.afterMark? c = none := by
  cases q <;> simp [afterMark?, hdouble, hsingle]

theorem step_eq_self {c : Char} (hdouble : c ≠ '"') (hsingle : c ≠ '\x27')
    (q : Quotation) : q.step c = q := by
  simp [step, afterMark?_eq_none hdouble hsingle]

theorem step_of_isNameChar {c : Char} (hc : Text.isNameChar c = true) (q : Quotation) :
    q.step c = q :=
  step_eq_self (Text.ne_of_class hc (by decide)) (Text.ne_of_class hc (by decide)) q

end Quotation

namespace Scanner

variable {lookup : Lookup}

@[simp] theorem extend_quotation (s : Scanner) (text : String) :
    (s.extend text).quotation = s.quotation := by
  by_cases h : text = "" <;> simp [extend, h]

@[simp] theorem extend_pending (s : Scanner) (text : String) :
    (s.extend text).pending = s.pending := by
  by_cases h : text = "" <;> simp [extend, h]

@[simp] theorem settle_quotation (s : Scanner) :
    (s.settle lookup).2.quotation = s.quotation := by
  unfold settle
  split <;> simp

@[simp] theorem settle_pending (s : Scanner) : (s.settle lookup).2.pending = .nothing := by
  unfold settle
  split <;> simp

theorem settle_of_nothing {s : Scanner} (h : s.pending = .nothing) :
    s.settle lookup = ([], s) := by
  obtain ⟨q, word, pending⟩ := s
  cases h
  rfl

/-- A character that belongs to nothing pending completes it and is read itself. -/
theorem step_of_not_name {s : Scanner} {c : Char} (hname : Text.isNameChar c = false)
    (hout : c ≠ '>') (hin : c ≠ '<') : s.step lookup c = s.settleAndRead lookup c := by
  cases h : s.pending with
  | nothing => simp [step, settleAndRead, h, settle_of_nothing h]
  | name letters => simp [step, h, hname]
  | out => simp [step, h, hout]
  | input => simp [step, h, hin]

/-- A blank outside quotations completes whatever is at hand. -/
theorem step_blank {s : Scanner} (hs : s.quotation = .outside) {c : Char}
    (hc : Text.isBlank c = true) : s.step lookup c = (s.finish lookup, {}) := by
  have hne : ∀ {d}, Text.isBlank d = false → c ≠ d := Text.ne_of_class hc
  have hmark : Quotation.outside.afterMark? c = none :=
    Quotation.afterMark?_eq_none (hne (by decide)) (hne (by decide)) _
  have hout : c ≠ '>' := hne (by decide)
  have hin : c ≠ '<' := hne (by decide)
  have hpipe : c ≠ '|' := hne (by decide)
  rw [step_of_not_name (Text.isNameChar_of_isBlank hc) hout hin]
  simp [settleAndRead, read, hs, hmark, hout, hin, hpipe, hc, finish]

theorem read_quotation (s : Scanner) (c : Char) :
    (s.read c).2.quotation = s.quotation.step c := by
  unfold read Quotation.step
  cases hq : s.quotation.afterMark? c with
  | some q => rfl
  | none =>
      simp only [Option.getD_none]
      split_ifs <;> simp_all

/-- The scan keeps the same account of quotations as the marks alone. -/
theorem step_quotation (s : Scanner) (c : Char) :
    (s.step lookup c).2.quotation = s.quotation.step c := by
  have hread : (s.settleAndRead lookup c).2.quotation = s.quotation.step c := by
    simp [settleAndRead, read_quotation]
  cases h : s.pending with
  | nothing => simpa [step, h] using read_quotation s c
  | name letters =>
      by_cases hc : Text.isNameChar c = true
      · simp [step, h, hc, Quotation.step_of_isNameChar hc]
      · simpa [step, h, hc] using hread
  | out =>
      by_cases hc : c = '>'
      · subst hc
        simp [step, h, Quotation.step_eq_self]
      · simpa [step, h, hc] using hread
  | input =>
      by_cases hc : c = '<'
      · subst hc
        simp [step, h, Quotation.step_eq_self]
      · simpa [step, h, hc] using hread

/-- The tokens that a text completes, and the state after it. -/
def run (lookup : Lookup) : Scanner → List Char → List Token × Scanner
  | s, [] => ([], s)
  | s, c :: rest =>
      let next := s.step lookup c
      let tail := run lookup next.2 rest
      (next.1 ++ tail.1, tail.2)

@[simp] theorem run_nil (s : Scanner) : s.run lookup [] = ([], s) := rfl

theorem run_append (s : Scanner) (cs ds : List Char) :
    s.run lookup (cs ++ ds) =
      ((s.run lookup cs).1 ++ ((s.run lookup cs).2.run lookup ds).1,
        ((s.run lookup cs).2.run lookup ds).2) := by
  induction cs generalizing s with
  | nil => simp
  | cons c cs ih => simp [run, ih]

theorem run_push (s : Scanner) (part : String) (c : Char) :
    s.run lookup (part.push c).toList =
      ((s.run lookup part.toList).1 ++ ((s.run lookup part.toList).2.step lookup c).1,
        ((s.run lookup part.toList).2.step lookup c).2) := by
  rw [String.toList_push, run_append]
  simp [run]

theorem scan_eq_run (s : Scanner) (cs : List Char) :
    scan lookup s cs = (s.run lookup cs).1 ++ (s.run lookup cs).2.finish lookup := by
  induction cs generalizing s with
  | nil => simp [scan]
  | cons c cs ih => simp [scan, run, ih]

theorem scan_append (s : Scanner) (cs ds : List Char) :
    scan lookup s (cs ++ ds) =
      (s.run lookup cs).1 ++ scan lookup (s.run lookup cs).2 ds := by
  simp [scan_eq_run, run_append]

theorem run_quotation (s : Scanner) (cs : List Char) :
    (s.run lookup cs).2.quotation = s.quotation.after cs := by
  induction cs generalizing s with
  | nil => rfl
  | cons c cs ih => simp [run, ih, step_quotation]

end Scanner

theorem Token.tokenize_eq_run (lookup : Lookup) (text : String) :
    Token.tokenize lookup text =
      (Scanner.run lookup {} text.toList).1 ++
        (Scanner.run lookup {} text.toList).2.finish lookup :=
  Scanner.scan_eq_run _ _

end LineShell
