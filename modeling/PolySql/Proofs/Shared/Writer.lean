import PolySql.Binder
import PolySql.Proofs.Success

/-!
Runs that share one binder: they take the values bound so far and hand them on with what they bind
themselves behind. Main statement: a run in steps emits a fragment if every step does, from whatever
was bound before.
-/

namespace PolySql

/-- A run with a binder that it shares with the runs before and after it. -/
abbrev Writer := StateT (List Json) (Except CompileError)

namespace Writer

variable {α β γ : Type}

/-- A call of the binder with the values that it holds. -/
def call (placeholder : String) (c : BinderCall) : Writer String := fun bs =>
  match Binder.call ⟨placeholder, bs⟩ c with
  | (b, .ok sql) => .ok (sql, b.bindings)
  | (_, .error e) => .error e

/-- A step that leaves the binder alone. -/
def lift (x : Except CompileError α) : Writer α := fun bs => x.map fun a => (a, bs)

/-- The run that hands on `value a` and binds `bindings a` behind all that was bound before, or
fails as `x` does. -/
def emitWith (value : α → β) (bindings : α → List Json) (x : Except CompileError α) : Writer β :=
  fun bs => x.map fun a => (value a, bs ++ bindings a)

/-- The run that writes a fragment: its text, and its bindings behind those before. -/
def emit : Except CompileError Fragment → Writer String :=
  emitWith Fragment.text Fragment.bindings

def emitAll : Except CompileError (List Fragment) → Writer (List String) :=
  emitWith (List.map Fragment.text) (List.flatMap Fragment.bindings)

theorem call_eq_emit (placeholder : String) (c : BinderCall) :
    call placeholder c = emit (Binder.fragment placeholder c) := by
  funext bs
  unfold call Binder.call
  cases Binder.fragment placeholder c <;> rfl

section Emit

variable {α' β' : Type} {value : α → β} {bindings : α → List Json} {value' : α' → β'}
  {bindings' : α' → List Json}

theorem emitWith_ok {a : α} (h : bindings a = []) :
    emitWith value bindings (.ok a) = pure (value a) := by
  funext bs
  show Except.ok (value a, bs ++ bindings a) = .ok (value a, bs)
  rw [h, List.append_nil]

theorem emitWith_ok_bind {a : α} {a' : α'} {after : β → β'} (hvalue : value' a' = after (value a))
    (hbindings : bindings' a' = bindings a) :
    (emitWith value bindings (.ok a) >>= fun b => pure (after b)) =
      emitWith value' bindings' (.ok a') := by
  funext bs
  show Except.ok (after (value a), bs ++ bindings a) = .ok (value' a', bs ++ bindings' a')
  rw [hvalue, hbindings]

theorem emitWith_bind {x : Except CompileError α} {f : α → α'} {after : β → β'}
    (hvalue : ∀ a, value' (f a) = after (value a)) (hbindings : ∀ a, bindings' (f a) = bindings a) :
    (emitWith value bindings x >>= fun b => pure (after b)) =
      emitWith value' bindings' (x >>= fun a => pure (f a)) := by
  cases x with
  | error e => rfl
  | ok a => exact emitWith_ok_bind (hvalue a) (hbindings a)

theorem emitWith_map {x : Except CompileError α} {f : α → α'} {after : β → β'}
    (hvalue : ∀ a, value' (f a) = after (value a)) (hbindings : ∀ a, bindings' (f a) = bindings a) :
    after <$> emitWith value bindings x = emitWith value' bindings' (f <$> x) :=
  emitWith_bind hvalue hbindings

/-- A step that leaves the binder alone, in front of a run that emits. -/
theorem lift_bind_emitWith {x : Except CompileError γ} {write : γ → Writer β}
    {compiled : γ → Except CompileError α}
    (h : ∀ c, write c = emitWith value bindings (compiled c)) :
    lift x >>= write = emitWith value bindings (x >>= compiled) := by
  cases x with
  | error e => rfl
  | ok c => exact h c

variable {α'' β'' : Type} {value'' : α'' → β''} {bindings'' : α'' → List Json}

theorem emitWith_ok_bind₂ {a : α} {a' : α'} {a'' : α''} {after : β → β' → β''}
    (hvalue : value'' a'' = after (value a) (value' a'))
    (hbindings : bindings'' a'' = bindings a ++ bindings' a') :
    (emitWith value bindings (.ok a) >>= fun b =>
        emitWith value' bindings' (.ok a') >>= fun b' => pure (after b b')) =
      emitWith value'' bindings'' (.ok a'') := by
  funext bs
  show Except.ok (after (value a) (value' a'), bs ++ bindings a ++ bindings' a') =
    .ok (value'' a'', bs ++ bindings'' a'')
  rw [hvalue, hbindings, List.append_assoc]

theorem emitWith_ok_bind_bind {a : α} {y : Except CompileError α'} {f : α' → α''}
    {after : β → β' → β''} (hvalue : ∀ a', value'' (f a') = after (value a) (value' a'))
    (hbindings : ∀ a', bindings'' (f a') = bindings a ++ bindings' a') :
    (emitWith value bindings (.ok a) >>= fun b =>
        emitWith value' bindings' y >>= fun b' => pure (after b b')) =
      emitWith value'' bindings'' (y >>= fun a' => pure (f a')) := by
  cases y with
  | error e => rfl
  | ok a' => exact emitWith_ok_bind₂ (hvalue a') (hbindings a')

theorem emitWith_bind₂ {x : Except CompileError α} {y : Except CompileError α'}
    {f : α → α' → α''} {after : β → β' → β''}
    (hvalue : ∀ a a', value'' (f a a') = after (value a) (value' a'))
    (hbindings : ∀ a a', bindings'' (f a a') = bindings a ++ bindings' a') :
    (emitWith value bindings x >>= fun b =>
        emitWith value' bindings' y >>= fun b' => pure (after b b')) =
      emitWith value'' bindings'' (x >>= fun a => y >>= fun a' => pure (f a a')) := by
  cases x with
  | error e => rfl
  | ok a => exact emitWith_ok_bind_bind (hvalue a) (hbindings a)

theorem emitWith_mapM (f : γ → Except CompileError α) (cs : List γ) :
    (cs.mapM fun c => emitWith value bindings (f c)) =
      emitWith (List.map value) (List.flatMap bindings) (cs.mapM f) := by
  induction cs with
  | nil =>
    funext bs
    show Except.ok (([] : List β), bs) = .ok ([], bs ++ [])
    rw [List.append_nil]
  | cons c cs ih =>
    rw [List.mapM_cons, List.mapM_cons, ih]
    exact emitWith_bind₂ (fun a as => rfl) fun a as => rfl

end Emit

theorem emit_text (s : String) : emit (.ok (s : Fragment)) = pure s := emitWith_ok rfl

theorem emit_bind_throw (x : Except CompileError Fragment) (e : CompileError) :
    (emit x >>= fun _ => (throw e : Writer String)) = emit (x >>= fun _ => .error e) := by
  cases x <;> rfl

theorem text_separated (separator : String) (fs : List Fragment) :
    (Fragment.separated separator fs).text = String.intercalate separator (fs.map (·.text)) := by
  fun_induction Fragment.separated separator fs with
  | case1 => rfl
  | case2 f => simp
  | case3 f g rest ih =>
    rw [List.map_cons, List.map_cons, String.intercalate_cons_cons, Fragment.text_append, ih]
    rfl

theorem mapM_eq_emitAll {write : γ → Writer String} {compiled : γ → Except CompileError Fragment}
    (h : ∀ c, write c = emit (compiled c)) (cs : List γ) :
    cs.mapM write = emitAll (cs.mapM compiled) := by
  have hwrite : write = fun c => emit (compiled c) := funext h
  rw [hwrite]
  exact emitWith_mapM compiled cs

theorem mapM_emit (xs : List (Except CompileError Fragment)) :
    (xs.map emit).mapM id = emitAll (xs.mapM id) := by
  rw [List.mapM_map]
  exact emitWith_mapM id xs

theorem separated_eq_emit (separator : String) (x : Except CompileError (List Fragment)) :
    String.intercalate separator <$> emitAll x = emit (Fragment.separated separator <$> x) :=
  emitWith_map (text_separated separator) (Fragment.bindings_separated separator)

end Writer

end PolySql
