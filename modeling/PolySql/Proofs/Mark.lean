import Mathlib.Data.Nat.Notation
import PolySql.Proofs.Alphabet
import PolySql.Text.Blank

/-!
Characters that mark bound positions, and the percent sign. Main statement: where the quotes of a
dialect are without such a character, all that is written of texts without it is without it.
-/

namespace PolySql

open Text

/-- The characters that no standard assigns. -/
def privateUse : Ranges := [(0xE000, 0xF8FF), (0xF0000, 0xFFFFD), (0x100000, 0x10FFFD)]

/-- A question mark, or a character for private use. -/
def IsMark (c : Char) : Prop := c = '?' ∨ privateUse.contains c

/-- Code points that no mark has: neither private nor that of the question mark. -/
def plainCode (n : ℕ) : Bool := n ≠ 0x3F && !privateUse.any fun r => r.1 ≤ n && n ≤ r.2

theorem plainCode_of_between {n : ℕ} (h : n ≠ 0x3F)
    (hn : n < 0xE000 ∨ 0xF8FF < n ∧ n < 0xF0000) : plainCode n := by
  simp only [plainCode, privateUse, List.any_cons, List.any_nil, Bool.or_false, ne_eq,
    Bool.and_eq_true, decide_eq_true_eq, Bool.not_eq_true', Bool.or_eq_false_iff,
    Bool.and_eq_false_iff, decide_eq_false_iff_not]
  omega

theorem plainCode_of_isMark {c : Char} (h : IsMark c) : plainCode c.toNat = false := by
  rcases h with rfl | h
  · decide
  · simp only [Ranges.contains] at h
    simp [plainCode, h]

theorem ne_of_plainCode {c x : Char} (h : IsMark c) (hx : plainCode x.toNat) : x ≠ c := by
  rintro rfl
  rw [plainCode_of_isMark h] at hx
  cases hx

/-- A number that is no code point stands for the character zero. -/
theorem toNat_ofNat (n : ℕ) : (Char.ofNat n).toNat = n ∨ (Char.ofNat n).toNat = 0 := by
  by_cases hvalid : n.isValidChar
  · have hchar : Char.ofNat n = Char.ofNatAux n hvalid := dif_pos hvalid
    rw [hchar]
    exact .inl rfl
  · have hchar : Char.ofNat n = '\x00' := dif_neg hvalid
    rw [hchar]
    exact .inr rfl

theorem plainCode_toNat_ofNat {n : ℕ} (hn : plainCode n) : plainCode (Char.ofNat n).toNat := by
  rcases toNat_ofNat n with h | h
  · rwa [h]
  · rw [h]
    decide

theorem ofNat_ne_of_plainCode {c : Char} {n : ℕ} (h : IsMark c) (hn : plainCode n) :
    Char.ofNat n ≠ c :=
  ne_of_plainCode h (plainCode_toNat_ofNat hn)

/-- All images of a run of case mappings are plain. -/
def Text.Run.isPlain (r : Run) : Bool :=
  let last := r.target + (r.last - r.first)
  0x3F < r.target && (last < 0xE000 || 0xF8FF < r.target && last < 0xF0000)

/-- Code points of what a character becomes in another case. -/
def imageCode (n : ℕ) : Bool := 0x3F < n && (n < 0xE000 || 0xF8FF < n && n < 0xF0000)

theorem plainCode_of_imageCode {n : ℕ} (h : imageCode n) : plainCode n := by
  simp only [imageCode, Bool.and_eq_true, Bool.or_eq_true, decide_eq_true_eq] at h
  exact plainCode_of_between (by omega) h.2

/-- Either nothing changes, or the character is an image. -/
def IsCaseOf (x y : Char) : Prop := y = x ∨ ∃ n, imageCode n ∧ y = Char.ofNat n

theorem Text.Run.image?_eq {r : Run} {x y : Char} (hr : r.isPlain) (hy : r.image? x = some y) :
    ∃ n, imageCode n ∧ y = Char.ofNat n := by
  simp only [Run.image?, Option.ite_none_right_eq_some, Option.some.injEq] at hy
  obtain ⟨⟨hfirst, hlast, -⟩, rfl⟩ := hy
  refine ⟨_, ?_, rfl⟩
  simp only [Run.isPlain, Bool.and_eq_true, Bool.or_eq_true, decide_eq_true_eq] at hr
  simp only [imageCode, Bool.and_eq_true, Bool.or_eq_true, decide_eq_true_eq]
  omega

theorem isCaseOf_runs {runs : List Run} (x : Char) (hruns : runs.all Run.isPlain) :
    IsCaseOf x ((runs.findSome? (·.image? x)).getD x) := by
  cases hfound : runs.findSome? (·.image? x) with
  | none => exact .inl rfl
  | some y =>
    obtain ⟨r, hr, hy⟩ := List.exists_of_findSome?_eq_some hfound
    exact .inr (Run.image?_eq (List.all_eq_true.mp hruns r hr) hy)

theorem isCaseOf_upper {x y : Char} (hy : y ∈ upperChar x) : IsCaseOf x y := by
  have hexpansions : upperExpansions.all fun e => e.2.all imageCode := by decide +kernel
  unfold upperChar at hy
  -- A character has an expansion of its own, or an image under some run, or stays.
  split at hy
  · next codes hcodes =>
    obtain ⟨n, hn, rfl⟩ := List.mem_map.mp hy
    have hmem : (x.toNat, codes) ∈ upperExpansions := by
      obtain ⟨l, r, hsplit, -⟩ := List.lookup_eq_some_iff.mp hcodes
      rw [hsplit]
      exact List.mem_append_right l List.mem_cons_self
    have hall := List.all_eq_true.mp hexpansions _ hmem
    exact .inr ⟨n, List.all_eq_true.mp hall n hn, rfl⟩
  · rw [List.mem_singleton] at hy
    rw [hy]
    exact isCaseOf_runs x (by decide +kernel)

theorem isCaseOf_lower {x y : Char} (hy : y ∈ lowerChar x) : IsCaseOf x y := by
  unfold lowerChar at hy
  split at hy
  · have hdots : ['i', '\u0307'].all (imageCode ·.toNat) := by decide
    exact .inr ⟨y.toNat, List.all_eq_true.mp hdots y hy, (Char.ofNat_toNat y).symm⟩
  · rw [List.mem_singleton] at hy
    rw [hy]
    exact isCaseOf_runs x (by decide +kernel)

theorem ne_of_isKeywordChar {c x : Char} (h : IsMark c) (hx : isKeywordChar x) : x ≠ c := by
  apply ne_of_plainCode h
  simp only [isKeywordChar, Bool.or_eq_true, List.contains_eq_mem, decide_eq_true_eq] at hx
  -- Letters and digits by their ranges, the signs one by one.
  rcases hx with hx | hx
  · have hcodes : 48 ≤ x.toNat ∧ x.toNat ≤ 57 ∨ 65 ≤ x.toNat ∧ x.toNat ≤ 122 := by
      delta Char.isAlphanum Char.isAlpha Char.isUpper Char.isLower Char.isDigit at hx
      simp only [Bool.or_eq_true, Bool.and_eq_true, decide_eq_true_eq, ge_iff_le,
        UInt32.le_iff_toNat_le, Char.toNat_val, Char.reduceToNat] at hx
      omega
    exact plainCode_of_between (by omega) (by omega)
  · have hall : [' ', '(', ')', ',', '.', '*', '=', '!', ':', '\'', '-', '_'].all
        (plainCode ·.toNat) := by decide
    exact List.all_eq_true.mp hall x hx

theorem isBlank_of_isMark {c : Char} (h : IsMark c) : isBlank c = false := by
  have hranges : ∀ r ∈ (0x1C, 0x1F) :: whiteSpace, r.2 < 0x3F ∨ 0x3F < r.1 ∧ r.2 < 0xE000 := by
    decide
  have hplain : ∀ r ∈ (0x1C, 0x1F) :: whiteSpace, ¬ (r.1 ≤ c.toNat ∧ c.toNat ≤ r.2) := by
    intro r hr hc
    have hrange := hranges r hr
    have hcode := plainCode_of_between (n := c.toNat) (by omega) (by omega)
    exact ne_of_plainCode h hcode rfl
  rw [Bool.eq_false_iff, ne_eq, isBlank_iff]
  rintro ⟨r, hr, hc⟩
  exact hplain r hr hc

/-- No keyword has the character, and no other character becomes it in another case. -/
structure Foreign (c : Char) : Prop where
  keyword : ∀ x, isKeywordChar x → x ≠ c
  image : ∀ n, imageCode n → Char.ofNat n ≠ c

theorem foreign_of_isMark {c : Char} (h : IsMark c) : Foreign c where
  keyword _ hx := ne_of_isKeywordChar h hx
  image _ hn := ofNat_ne_of_plainCode h (plainCode_of_imageCode hn)

/-- The percent sign is in no keyword, only in the formats of SQLite. -/
theorem foreign_percent : Foreign '%' where
  keyword x hx h := by
    rw [h] at hx
    revert hx
    decide
  image n hn h := by
    have hcode := toNat_ofNat n
    rw [h] at hcode
    have hpercent : ('%' : Char).toNat = 0x25 := rfl
    simp only [imageCode, Bool.and_eq_true, decide_eq_true_eq] at hn
    omega

theorem Foreign.ne_of_isCaseOf {c x y : Char} (h : Foreign c) (hx : x ≠ c) (hy : IsCaseOf x y) :
    y ≠ c := by
  rcases hy with rfl | ⟨n, hn, rfl⟩
  · exact hx
  · exact h.image n hn

theorem Foreign.alphabet {c : Char} {d : Dialect} (h : Foreign c)
    (hopen : Over (· ≠ c) d.openQuote) (hclose : Over (· ≠ c) d.closeQuote)
    (hpercent : d.flavor = .sqlite → '%' ≠ c) : Alphabet d (· ≠ c) where
  openQuote := hopen
  closeQuote := hclose
  keyword := h.keyword
  percent := hpercent
  upper _ hx _ hy := h.ne_of_isCaseOf hx (isCaseOf_upper hy)
  lower _ hx _ hy := h.ne_of_isCaseOf hx (isCaseOf_lower hy)
  sigma _ := ⟨h.image 0x3C3 (by decide), h.image 0x3C2 (by decide)⟩

theorem alphabet_ne {c : Char} {d : Dialect} (h : IsMark c)
    (hopen : Over (· ≠ c) d.openQuote) (hclose : Over (· ≠ c) d.closeQuote) :
    Alphabet d (· ≠ c) :=
  (foreign_of_isMark h).alphabet hopen hclose fun _ => ne_of_plainCode h (by decide)

end PolySql
