import PolySql.Proofs.Pairing
import PolySql.Proofs.Verbatim

/-!
Histories of a binder: any calls, one after the other, failed ones among them. Main statement: what
is bound are the values of the calls that succeed, in call order, and every answer is the text of
its call with each mark `?` replaced once.
-/

namespace PolySql

namespace BinderCall

/-- The positions that a call fills, in their order. -/
def positions : BinderCall → List Bound
  | .parameter b => [b]
  | .parametrize bs => bs
  | .raw _ bs => bs

/-- Verbatim SQL has a mark for every position. -/
def Fits : BinderCall → Prop
  | .raw expression bs => expression.toList.count '?' = bs.length
  | _ => True

instance (c : BinderCall) : Decidable c.Fits :=
  match c with
  | .parameter _ => isTrue trivial
  | .parametrize _ => isTrue trivial
  | .raw expression bs => inferInstanceAs (Decidable (expression.toList.count '?' = bs.length))

/-- The values that a call binds, and not its SQL text; a call that does not fit binds nothing. -/
def bound (c : BinderCall) : List Json := if c.Fits then c.positions.flatMap Bound.values else []

end BinderCall

section Pieces

/-- SQL text from what stands in front of its marks, each with the position for the mark, and from
what stands behind the last one. -/
def marked (pieces : List (String × Bound)) (last : String) : String :=
  String.join (pieces.map fun p => p.1 ++ "?") ++ last

/-- The text with what is written for its positions in place of the marks. -/
def filled (placeholder : String) (pieces : List (String × Bound)) (last : String) : String :=
  String.join (pieces.map fun p => p.1 ++ p.2.written placeholder) ++ last

variable {pieces : List (String × Bound)} {last : String}

theorem toList_marked_cons (s : String) (b : Bound) :
    (marked ((s, b) :: pieces) last).toList = s.toList ++ '?' :: (marked pieces last).toList := by
  simp [marked, String.append_assoc]

theorem count_marked (h : ∀ p ∈ pieces, '?' ∉ p.1.toList) (hlast : '?' ∉ last.toList) :
    (marked pieces last).toList.count '?' = pieces.length := by
  induction pieces with
  | nil => simpa [marked, List.count_eq_zero] using hlast
  | cons p rest ih =>
    obtain ⟨s, b⟩ := p
    have hs : s.toList.count '?' = 0 := List.count_eq_zero.mpr (h _ List.mem_cons_self)
    rw [toList_marked_cons, List.count_append, hs, List.count_cons_self,
      ih fun p hp => h p (List.mem_cons_of_mem _ hp), Nat.zero_add, List.length_cons]

/-- Every mark is replaced, and no mark in what is put in its place. -/
theorem fillMarks_marked (placeholder : String) (h : ∀ p ∈ pieces, '?' ∉ p.1.toList)
    (hlast : '?' ∉ last.toList) :
    fillMarks placeholder (marked pieces last).toList (pieces.map (·.2)) =
      ⟨filled placeholder pieces last, pieces.flatMap (·.2.values)⟩ := by
  induction pieces with
  | nil =>
    have hend : fillMarks placeholder (last.toList ++ []) [] =
        String.ofList last.toList ++ fillMarks placeholder [] [] := fillMarks_append hlast
    rw [List.append_nil, fillMarks, Fragment.append_empty] at hend
    simpa [marked, filled] using hend
  | cons p rest ih =>
    obtain ⟨s, b⟩ := p
    rw [toList_marked_cons, fillMarks_append (h _ List.mem_cons_self), List.map_cons, fillMarks,
      ih fun p hp => h p (List.mem_cons_of_mem _ hp), b.fragment_eq]
    ext1 <;> simp [filled, String.append_assoc]

theorem exists_marked {expression : String} {bs : List Bound}
    (h : expression.toList.count '?' = bs.length) :
    ∃ pieces last, (∀ p ∈ pieces, '?' ∉ p.1.toList) ∧ '?' ∉ last.toList ∧
      expression = marked pieces last ∧ bs = pieces.map (·.2) := by
  induction bs generalizing expression with
  | nil =>
    have hnone : '?' ∉ expression.toList := List.count_eq_zero.mp h
    exact ⟨[], expression, by simp, hnone, by simp [marked], rfl⟩
  | cons b rest ih =>
    have hmark : '?' ∈ expression.toList := by
      rw [← List.count_pos_iff, h, List.length_cons]
      exact Nat.succ_pos _
    -- Cut at the first mark; the rest of the text has one mark fewer.
    obtain ⟨front, back, hcut, hfront⟩ := List.eq_append_cons_of_mem hmark
    have hcount : (String.ofList back).toList.count '?' = rest.length := by
      rw [hcut, List.count_append, List.count_eq_zero.mpr hfront, List.count_cons_self] at h
      rw [String.toList_ofList]
      simpa using h
    obtain ⟨pieces, last, hpieces, hlast, hback, rfl⟩ := ih hcount
    refine ⟨(String.ofList front, b) :: pieces, last, ?_, hlast, ?_, rfl⟩
    · exact List.forall_mem_cons.mpr ⟨by rwa [String.toList_ofList], hpieces⟩
    · rw [← String.toList_inj, toList_marked_cons, String.toList_ofList, ← hback,
        String.toList_ofList, hcut]

end Pieces

namespace BinderCall

/-- What a call is answered by: the placeholder for a value, SQL text for SQL text, separated by
commas if there are several, and put in place of its marks in verbatim SQL. -/
inductive Answers (placeholder : String) : BinderCall → Except CompileError String → Prop
  | parameter (b : Bound) : Answers placeholder (.parameter b) (.ok (b.written placeholder))
  | parametrize (bs : List Bound) : Answers placeholder (.parametrize bs)
      (.ok (String.intercalate ", " (bs.map (·.written placeholder))))
  | raw {pieces : List (String × Bound)} {last : String} (h : ∀ p ∈ pieces, '?' ∉ p.1.toList)
      (hlast : '?' ∉ last.toList) :
      Answers placeholder (.raw (marked pieces last) (pieces.map (·.2)))
        (.ok (filled placeholder pieces last))
  | refused {expression : String} {bs : List Bound}
      (h : expression.toList.count '?' ≠ bs.length) :
      Answers placeholder (.raw expression bs) (.error (.bindingCount expression bs.length))

theorem not_fits_iff (c : BinderCall) :
    ¬ c.Fits ↔ ∃ expression bs, c = .raw expression bs ∧
      expression.toList.count '?' ≠ bs.length := by
  cases c <;> simp [Fits]

/-- What a call writes is its answer, and it binds the values in its positions. -/
theorem fragment_spec (placeholder : String) (c : BinderCall) :
    (¬ c.Fits ∧ ∃ e, Binder.fragment placeholder c = .error e ∧
        c.Answers placeholder (.error e)) ∨
      c.Fits ∧ ∃ text, Binder.fragment placeholder c =
          .ok ⟨text, c.positions.flatMap Bound.values⟩ ∧ c.Answers placeholder (.ok text) := by
  cases c with
  | parameter b =>
    refine .inr ⟨trivial, b.written placeholder, ?_, .parameter b⟩
    rw [Binder.fragment, b.fragment_eq, positions, List.flatMap_singleton]
  | parametrize bs =>
    refine .inr ⟨trivial, _, ?_, .parametrize bs⟩
    rw [Binder.fragment, ← Sql.text_bindAll, positions, ← bindings_bindAll placeholder]
  | raw expression bs =>
    by_cases hfits : expression.toList.count '?' = bs.length
    · obtain ⟨pieces, last, hpieces, hlast, rfl, rfl⟩ := exists_marked hfits
      refine .inr ⟨hfits, filled placeholder pieces last, ?_, .raw hpieces hlast⟩
      rw [Binder.fragment, fill, if_pos hfits, fillMarks_marked placeholder hpieces hlast,
        positions, List.flatMap_map]
    · exact .inl ⟨hfits, .bindingCount expression bs.length, if_neg hfits, .refused hfits⟩

/-- There is one answer to a call: text has only one cut at its marks. -/
theorem Answers.eq {placeholder : String} {c : BinderCall} {a : Except CompileError String}
    (h : c.Answers placeholder a) : a = (Binder.fragment placeholder c).map (·.text) := by
  cases h with
  | parameter b => rw [Binder.fragment, b.fragment_eq]; rfl
  | parametrize bs => rw [← Sql.text_bindAll]; rfl
  | @raw pieces last h hlast =>
    have hcount : (marked pieces last).toList.count '?' = (pieces.map (·.2)).length := by
      rw [count_marked h hlast, List.length_map]
    rw [Binder.fragment, fill, if_pos hcount, fillMarks_marked placeholder h hlast]
    rfl
  | refused h => rw [Binder.fragment, fill, if_neg h]; rfl

end BinderCall

namespace Binder

open BinderCall

/-- The binder behind calls. -/
def after (b : Binder) (calls : List BinderCall) : Binder := calls.foldl (fun b c => (b.call c).1) b

/-- One call leaves the placeholder alone, and what is bound stays in front of what it binds. -/
theorem call_spec (b : Binder) (c : BinderCall) :
    (b.call c).1 = ⟨b.placeholder, b.bindings ++ c.bound⟩ ∧
      (b.call c).2 = (fragment b.placeholder c).map (·.text) := by
  rcases c.fragment_spec b.placeholder with ⟨hfits, e, hfragment, -⟩ | ⟨hfits, text, hfragment, -⟩
  · simp [call, hfragment, BinderCall.bound, hfits, Except.map]
  · simp [call, hfragment, BinderCall.bound, hfits, Except.map]

theorem after_eq (b : Binder) (calls : List BinderCall) :
    b.after calls = ⟨b.placeholder, b.bindings ++ calls.flatMap BinderCall.bound⟩ := by
  induction calls generalizing b with
  | nil => simp [after]
  | cons c rest ih =>
    rw [after, List.foldl_cons, ← after, ih, (b.call_spec c).1, List.flatMap_cons,
      ← List.append_assoc]

theorem length_run (b : Binder) (calls : List BinderCall) :
    (b.run calls).length = calls.length := by
  induction calls generalizing b with
  | nil => rfl
  | cons c rest ih => rw [run, List.length_cons, ih, List.length_cons]

/-- A call is answered by the binder that the calls before it leave. -/
theorem run_append (b : Binder) (calls rest : List BinderCall) :
    b.run (calls ++ rest) = b.run calls ++ (b.after calls).run rest := by
  induction calls generalizing b with
  | nil => rfl
  | cons c calls ih => simp only [List.cons_append, run, ih, after, List.foldl_cons]

end Binder

theorem Binder.call_fails_iff (b : Binder) (c : BinderCall) :
    (∃ e, (b.call c).2 = .error e) ↔ ¬ c.Fits := by
  rw [(b.call_spec c).2]
  rcases c.fragment_spec b.placeholder with ⟨hfits, e, hfragment, -⟩ | ⟨hfits, text, hfragment, -⟩
  · simp [hfragment, hfits, Except.map]
  · simp [hfragment, hfits, Except.map]

theorem Binder.answers_iff (b : Binder) (c : BinderCall) (a : Except CompileError String) :
    c.Answers b.placeholder a ↔ a = (b.call c).2 := by
  rw [(b.call_spec c).2]
  refine ⟨BinderCall.Answers.eq, ?_⟩
  rintro rfl
  rcases c.fragment_spec b.placeholder with ⟨-, e, hfragment, hanswer⟩ | ⟨-, s, hfragment, hanswer⟩
  · rwa [hfragment]
  · rwa [hfragment]

/-- Behind any calls, successful or not, a binder holds what it held before, and then the values of
the calls that succeed, in call order. Each call of a row fails exactly if it is verbatim SQL
without a mark for every position, and then it binds nothing; it has the one answer that it has on
its own, whatever is bound. -/
theorem binder_history (b : Binder) (calls : List BinderCall) :
    (b.after calls).bindings = b.bindings ++ calls.flatMap BinderCall.bound ∧
      (b.run calls).length = calls.length ∧
      ∀ front c back, calls = front ++ c :: back →
        ∃ answer, (b.run calls)[front.length]? = some (answer, (b.after (front ++ [c])).bindings) ∧
          (∀ a, c.Answers b.placeholder a ↔ a = answer) ∧
          ((∃ e, answer = .error e) ↔
            ∃ expression bs, c = .raw expression bs ∧ expression.toList.count '?' ≠ bs.length) ∧
          ((∃ e, answer = .error e) →
            (b.after (front ++ [c])).bindings = (b.after front).bindings) := by
  refine ⟨by rw [b.after_eq], b.length_run calls, ?_⟩
  rintro front c back rfl
  have hplaceholder : (b.after front).placeholder = b.placeholder := by rw [b.after_eq]
  have hstep : b.after (front ++ [c]) = ((b.after front).call c).1 := by
    rw [Binder.after, List.foldl_append, ← Binder.after]
    rfl
  have hfails := (b.after front).call_fails_iff c
  refine ⟨((b.after front).call c).2, ?_, fun a => ?_, ?_, fun hfailed => ?_⟩
  · rw [b.run_append, Binder.run, hstep]
    simp [Binder.length_run]
  · rw [← hplaceholder]
    exact (b.after front).answers_iff c a
  · rw [hfails, BinderCall.not_fits_iff]
  · rw [hstep, ((b.after front).call_spec c).1, BinderCall.bound, if_neg (hfails.mp hfailed),
      List.append_nil]

/-- Calls with a text that itself has a mark, with a value too few, and for one value. -/
def mixedCalls : List BinderCall :=
  [.raw "a = ? OR b = ?" [.raw "c?", .value (.int 1)], .raw "d = ?" [],
    .parameter (.value (.int 2))]

theorem mixedCalls_history :
    (Binder.after ⟨"?", [.int 0]⟩ mixedCalls).bindings = [.int 0, .int 1, .int 2] ∧
      (Binder.run ⟨"?", [.int 0]⟩ mixedCalls)[0]? =
        some (.ok "a = c? OR b = ?", [.int 0, .int 1]) ∧
      (Binder.run ⟨"?", [.int 0]⟩ mixedCalls)[1]? =
        some (.error (.bindingCount "d = ?" 0), [.int 0, .int 1]) := by
  obtain ⟨hbound, -, hcalls⟩ := binder_history ⟨"?", [.int 0]⟩ mixedCalls
  refine ⟨hbound, ?_, ?_⟩
  · obtain ⟨answer, hrun, hanswer, -⟩ := hcalls [] _ _ rfl
    have hpieces : ∀ p ∈ [("a = ", Bound.raw "c?"), (" OR b = ", .value (.int 1))],
        '?' ∉ p.1.toList := by simp
    have hfilled : answer = .ok "a = c? OR b = ?" :=
      ((hanswer _).mp (.raw hpieces (show '?' ∉ "".toList by simp))).symm
    rw [hfilled] at hrun
    exact hrun
  · obtain ⟨answer, hrun, hanswer, -, hkept⟩ := hcalls [_] _ _ rfl
    have hrefused : answer = .error (.bindingCount "d = ?" 0) :=
      ((hanswer _).mp (.refused (by decide))).symm
    rw [hkept ⟨_, hrefused⟩, hrefused] at hrun
    exact hrun

end PolySql
