import Mathlib.Data.List.Induction
import PolySql.Dialect.Registry

/-!
Histories of a registry. Main statements: whatever calls failed before, a canonical name answers
with the dialect of its latest successful registration; and a call that fails moves exactly the
aliases in front of the refused one.
-/

namespace PolySql

namespace Names

variable {α : Type}

theorem lookup_erase_self (ns : Names α) (name : String) : (ns.erase name).lookup name = none := by
  rw [List.lookup_eq_none_iff]
  intro p hp
  have hne : p.1 ≠ name := by simpa using (List.mem_filter.mp hp).2
  simpa using Ne.symm hne

/-- One value under many names. -/
def putAll (ns : Names α) (names : List String) (a : α) : Names α :=
  names.foldl (fun ns name => ns.put name a) ns

theorem lookup_putAll (ns : Names α) (names : List String) (a : α) (key : String) :
    (ns.putAll names a).lookup key = if key ∈ names then some a else ns.lookup key := by
  induction names generalizing ns with
  | nil => simp [putAll]
  | cons name rest ih =>
    have hput : ns.putAll (name :: rest) a = (ns.put name a).putAll rest a := rfl
    rw [hput, ih]
    by_cases hrest : key ∈ rest
    · rw [if_pos hrest, if_pos (List.mem_cons_of_mem _ hrest)]
    · rw [if_neg hrest]
      by_cases hname : key = name
      · subst hname
        rw [if_pos List.mem_cons_self, lookup_put_self]
      · rw [if_neg (List.not_mem_cons_of_ne_of_not_mem hname hrest), lookup_put_of_ne _ _ hname]

end Names

/-- A call that registers a dialect. -/
structure Registration where
  name : String
  dialect : Dialect
  aliases : List String

namespace Registration

/-- The canonical name under which the dialect is to be found. -/
def key (c : Registration) : String := Registry.normalize c.name

def aliasKeys (c : Registration) : List String := c.aliases.map Registry.normalize

/-- The registrations that come with the library. -/
def builtin : List Registration :=
  [⟨"sqlite", .sqlite, ["sqlite3"]⟩, ⟨"postgres", .postgres, ["postgresql", "pg"]⟩,
    ⟨"mysql", .mysql, ["mariadb"]⟩, ⟨"sqlserver", .sqlServer, ["mssql"]⟩]

end Registration

namespace Registry

def apply (r : Registry) (c : Registration) : Registry × Option RegistryError :=
  r.register c.name c.dialect c.aliases

/-- The registry after calls in a row, failed ones among them. -/
def after (r : Registry) (calls : List Registration) : Registry :=
  calls.foldl (fun r c => (r.apply c).1) r

/-- The dialect of the latest call in a row that succeeds under a name. -/
def latest? (r : Registry) (n : String) : List Registration → Option Dialect
  | [] => none
  | c :: rest =>
    ((r.apply c).1.latest? n rest).or
      (if c.key = n ∧ (r.apply c).2 = none then some c.dialect else none)

/-- The key may become an alias of the name: it is no other dialect's name. -/
def Free (r : Registry) (name key : String) : Prop := r.dialects.lookup key = none ∨ key = name

section Step

variable (r : Registry)

theorem addAliases_of_free {name : String} {keys : List String}
    (h : ∀ key ∈ keys, r.Free name key) :
    r.addAliases name keys = (⟨r.dialects, r.aliases.putAll keys name⟩, none) := by
  induction keys generalizing r with
  | nil => rfl
  | cons key rest ih =>
    have hkey : ((r.dialects.lookup key).isSome && key ≠ name) = false := by
      rcases h key List.mem_cons_self with hkey | hkey <;> simp [hkey]
    rw [addAliases, if_neg (by rw [hkey]; exact Bool.false_ne_true)]
    exact ih _ fun k hk => h k (List.mem_cons_of_mem _ hk)

/-- Aliases are pointed to the name up to the first one that is not free. -/
theorem addAliases_of_taken {name a : String} {pre : List String} (post : List String)
    (h : ∀ key ∈ pre, r.Free name key) (ha : ¬ r.Free name a) :
    r.addAliases name (pre ++ a :: post) =
      (⟨r.dialects, r.aliases.putAll pre name⟩, some (.aliasTaken a)) := by
  induction pre generalizing r with
  | nil =>
    have hkey : ((r.dialects.lookup a).isSome && a ≠ name) = true := by
      simpa [Free, not_or, Option.isSome_iff_ne_none] using ha
    rw [List.nil_append, addAliases, if_pos hkey]
    rfl
  | cons key rest ih =>
    have hkey : ((r.dialects.lookup key).isSome && key ≠ name) = false := by
      rcases h key List.mem_cons_self with hkey | hkey <;> simp [hkey]
    rw [List.cons_append, addAliases, if_neg (by rw [hkey]; exact Bool.false_ne_true)]
    exact ih _ (fun k hk => h k (List.mem_cons_of_mem _ hk)) ha

theorem exists_first_taken (name : String) (keys : List String) :
    (∀ key ∈ keys, r.Free name key) ∨
      ∃ pre a post, keys = pre ++ a :: post ∧ (∀ key ∈ pre, r.Free name key) ∧ ¬ r.Free name a := by
  induction keys with
  | nil => exact .inl (by simp)
  | cons key rest ih =>
    by_cases hkey : r.Free name key
    · rcases ih with hrest | ⟨pre, a, post, rfl, hpre, ha⟩
      · exact .inl (List.forall_mem_cons.mpr ⟨hkey, hrest⟩)
      · exact .inr ⟨key :: pre, a, post, rfl, List.forall_mem_cons.mpr ⟨hkey, hpre⟩, ha⟩
    · exact .inr ⟨[], key, rest, rfl, by simp, hkey⟩

variable (c : Registration)

theorem apply_of_free (h : ∀ key ∈ c.aliasKeys, r.Free c.key key) :
    r.apply c = (⟨r.dialects.put c.key c.dialect,
      (r.aliases.putAll c.aliasKeys c.key).erase c.key⟩, none) := by
  have hadd := r.addAliases_of_free h
  rw [Registration.aliasKeys, Registration.key] at hadd
  rw [apply, register, hadd]
  rfl

theorem apply_of_taken {pre post : List String} {a : String}
    (hkeys : c.aliasKeys = pre ++ a :: post) (h : ∀ key ∈ pre, r.Free c.key key)
    (ha : ¬ r.Free c.key a) :
    r.apply c = (⟨r.dialects, r.aliases.putAll pre c.key⟩, some (.aliasTaken a)) := by
  have hadd := r.addAliases_of_taken post h ha
  rw [← hkeys, Registration.aliasKeys, Registration.key] at hadd
  rw [apply, register, hadd]
  rfl

end Step

variable {r r' : Registry} {c : Registration}

/-- All that a call does when it succeeds. -/
theorem of_apply_ok (h : r.apply c = (r', none)) :
    (∀ key ∈ c.aliasKeys, r.Free c.key key) ∧
      r' = ⟨r.dialects.put c.key c.dialect, (r.aliases.putAll c.aliasKeys c.key).erase c.key⟩ := by
  rcases r.exists_first_taken c.key c.aliasKeys with hfree | ⟨pre, a, post, hkeys, hpre, ha⟩
  · rw [r.apply_of_free c hfree] at h
    exact ⟨hfree, (Prod.mk.inj h).1.symm⟩
  · rw [r.apply_of_taken c hkeys hpre ha] at h
    cases (Prod.mk.inj h).2

/-- All that a call does when it fails. -/
theorem of_apply_error {e : RegistryError} (h : r.apply c = (r', some e)) :
    ∃ pre a post, c.aliasKeys = pre ++ a :: post ∧ (∀ key ∈ pre, r.Free c.key key) ∧
      ¬ r.Free c.key a ∧ e = .aliasTaken a ∧
        r' = ⟨r.dialects, r.aliases.putAll pre c.key⟩ := by
  rcases r.exists_first_taken c.key c.aliasKeys with hfree | ⟨pre, a, post, hkeys, hpre, ha⟩
  · rw [r.apply_of_free c hfree] at h
    cases (Prod.mk.inj h).2
  · rw [r.apply_of_taken c hkeys hpre ha] at h
    obtain ⟨hr, he⟩ := Prod.mk.inj h
    exact ⟨pre, a, post, hkeys, hpre, ha, (Option.some.inj he).symm, hr.symm⟩

theorem lookup_dialects_apply (r : Registry) (c : Registration) (n : String) :
    (r.apply c).1.dialects.lookup n =
      (if c.key = n ∧ (r.apply c).2 = none then some c.dialect else none).or
        (r.dialects.lookup n) := by
  cases h : r.apply c with
  | mk r' e =>
    cases e with
    | some e =>
      obtain ⟨pre, a, post, -, -, -, -, rfl⟩ := of_apply_error h
      simp
    | none =>
      obtain ⟨-, rfl⟩ := of_apply_ok h
      by_cases hn : c.key = n
      · subst hn
        simp [Names.lookup_put_self]
      · simp [hn, Names.lookup_put_of_ne _ _ (Ne.symm hn)]

/-- A name that is registered is no alias of another one. -/
def Unshadowed (r : Registry) : Prop :=
  ∀ n, r.dialects.lookup n ≠ none → ∀ m, r.aliases.lookup n = some m → m = n

theorem Unshadowed.canonical_eq (h : r.Unshadowed) {n : String} {d : Dialect}
    (hn : r.dialects.lookup n = some d) : r.canonical n = n := by
  rw [canonical]
  cases hm : r.aliases.lookup n with
  | none => rfl
  | some m => exact h n (by simp [hn]) m hm

/-- An alias set by a call, whether it fails later or not, was free. -/
theorem Unshadowed.putAll (h : r.Unshadowed) {name : String} {keys : List String}
    (hkeys : ∀ key ∈ keys, r.Free name key) :
    (⟨r.dialects, r.aliases.putAll keys name⟩ : Registry).Unshadowed := by
  intro n hn m hm
  rw [Names.lookup_putAll] at hm
  split at hm
  · next hmem =>
    obtain rfl := Option.some.inj hm
    exact ((hkeys n hmem).resolve_left hn).symm
  · exact h n hn m hm

theorem Unshadowed.apply (h : r.Unshadowed) (c : Registration) : (r.apply c).1.Unshadowed := by
  cases hc : r.apply c with
  | mk r' e =>
    cases e with
    | some e =>
      obtain ⟨pre, a, post, -, hpre, -, -, rfl⟩ := of_apply_error hc
      exact h.putAll hpre
    | none =>
      obtain ⟨hfree, rfl⟩ := of_apply_ok hc
      intro n hn m hm
      by_cases hkey : n = c.key
      · rw [hkey, Names.lookup_erase_self] at hm
        cases hm
      · rw [Names.lookup_put_of_ne _ _ hkey] at hn
        rw [Names.lookup_erase_of_ne _ hkey] at hm
        exact h.putAll hfree n hn m hm

theorem Unshadowed.after (h : r.Unshadowed) (calls : List Registration) :
    (r.after calls).Unshadowed := by
  induction calls generalizing r with
  | nil => exact h
  | cons c rest ih => exact ih (h.apply c)

theorem unshadowed_builtin : builtin.Unshadowed := by
  have hnames : ∀ p ∈ builtin.aliases, builtin.dialects.lookup p.1 = none := by decide
  intro n hn m hm
  obtain ⟨l, r, hsplit, -⟩ := List.lookup_eq_some_iff.mp hm
  have hmem : (n, m) ∈ builtin.aliases := by
    rw [hsplit]
    exact List.mem_append_right _ List.mem_cons_self
  exact absurd (hnames _ hmem) hn

theorem lookup_dialects_after (r : Registry) (calls : List Registration) (n : String) :
    (r.after calls).dialects.lookup n = (r.latest? n calls).or (r.dialects.lookup n) := by
  induction calls generalizing r with
  | nil => rfl
  | cons c rest ih =>
    have hafter : r.after (c :: rest) = (r.apply c).1.after rest := rfl
    rw [hafter, ih, lookup_dialects_apply, latest?, Option.or_assoc]

/-- The names and aliases at the start are those of four registrations. -/
example :
    ((⟨[], []⟩ : Registry).after Registration.builtin).dialects.Perm builtin.dialects ∧
      ((⟨[], []⟩ : Registry).after Registration.builtin).aliases.Perm builtin.aliases := by
  decide +kernel

theorem resolve_eq_ok_iff (r : Registry) (s : String) (d : Dialect) :
    r.resolve s = .ok d ↔ r.find? s = some d := by
  rw [resolve]
  cases r.find? s <;> simp

theorem find?_of_canonical {s n : String} (h : r.canonical (normalize s) = n) :
    r.find? s = r.dialects.lookup n := by
  rw [find?, h]

/-- What a key stands for once aliases are pointed to a name. -/
theorem find?_putAll (r : Registry) (keys : List String) (name s : String) :
    (⟨r.dialects, r.aliases.putAll keys name⟩ : Registry).find? s =
      if normalize s ∈ keys then r.dialects.lookup name else r.find? s := by
  simp only [find?, canonical, Names.lookup_putAll]
  split <;> rfl

/-- A call that succeeds points its name and its aliases, old ones and new ones, to its dialect, and
no other key. -/
theorem find?_of_apply_ok (h : r.apply c = (r', none)) (s : String) :
    r'.find? s =
      if normalize s = c.key ∨ normalize s ∈ c.aliasKeys ∨
          r.aliases.lookup (normalize s) = some c.key then some c.dialect
      else r.find? s := by
  obtain ⟨-, rfl⟩ := of_apply_ok h
  simp only [find?, canonical]
  by_cases hkey : normalize s = c.key
  · rw [if_pos (.inl hkey), hkey, Names.lookup_erase_self, Option.getD_none, Names.lookup_put_self]
  · rw [Names.lookup_erase_of_ne _ hkey, Names.lookup_putAll]
    by_cases hmem : normalize s ∈ c.aliasKeys
    · rw [if_pos hmem, if_pos (.inr (.inl hmem)), Option.getD_some, Names.lookup_put_self]
    · rw [if_neg hmem]
      cases hold : r.aliases.lookup (normalize s) with
      | none =>
        rw [if_neg (by simp [hkey, hmem]), Option.getD_none, Names.lookup_put_of_ne _ _ hkey]
      | some m =>
        by_cases hm : m = c.key
        · rw [if_pos (by simp [hm]), Option.getD_some, hm, Names.lookup_put_self]
        · rw [if_neg (by simp [hkey, hmem, hm]), Option.getD_some, Names.lookup_put_of_ne _ _ hm]

theorem resolve_eq_iff (hnames : r'.registered = r.registered) (s : String) :
    r'.resolve s = r.resolve s ↔ r'.find? s = r.find? s := by
  rw [resolve, resolve, hnames]
  cases r'.find? s <;> cases r.find? s <;> simp

/-- The alias was set by one of the calls that failed under the name. -/
def LeftBehind (r : Registry) (calls : List Registration) (key n : String) : Prop :=
  ∃ before c rest, calls = before ++ c :: rest ∧ c.key = n ∧ key ∈ c.aliasKeys ∧
    ((r.after before).apply c).2 ≠ none

theorem LeftBehind.append {calls : List Registration} {key n : String}
    (h : r.LeftBehind calls key n) (c : Registration) : r.LeftBehind (calls ++ [c]) key n := by
  obtain ⟨before, e, rest, rfl, he⟩ := h
  exact ⟨before, e, rest ++ [c], by simp, he⟩

theorem after_append (r : Registry) (calls : List Registration) (c : Registration) :
    r.after (calls ++ [c]) = ((r.after calls).apply c).1 := by
  simp [after]

/-- An alias stood before the call or is one of its own. -/
theorem alias_of_apply {c : Registration} {key n : String}
    (h : (r.apply c).1.aliases.lookup key = some n) :
    r.aliases.lookup key = some n ∨ n = c.key ∧ ((r.apply c).2 = none ∨ key ∈ c.aliasKeys) := by
  cases hc : r.apply c with
  | mk r' e =>
    rw [hc] at h
    cases e with
    | some e =>
      obtain ⟨pre, a, post, hkeys, -, -, -, rfl⟩ := of_apply_error hc
      rw [Names.lookup_putAll] at h
      split at h
      · next hmem =>
        refine .inr ⟨(Option.some.inj h).symm, .inr ?_⟩
        rw [hkeys]
        exact List.mem_append_left _ hmem
      · exact .inl h
    | none =>
      obtain ⟨-, rfl⟩ := of_apply_ok hc
      by_cases hkey : key = c.key
      · rw [hkey, Names.lookup_erase_self] at h
        cases h
      · rw [Names.lookup_erase_of_ne _ hkey, Names.lookup_putAll] at h
        split at h
        · exact .inr ⟨(Option.some.inj h).symm, .inl rfl⟩
        · exact .inl h

/-- An alias that points to no registered name is what a failed call left behind. -/
theorem registered_or_leftBehind (calls : List Registration) {key n : String}
    (h : (builtin.after calls).aliases.lookup key = some n) :
    (builtin.after calls).dialects.lookup n ≠ none ∨ builtin.LeftBehind calls key n := by
  induction calls using List.reverseRecOn generalizing key n with
  | nil =>
    have hnames : ∀ p ∈ builtin.aliases, builtin.dialects.lookup p.2 ≠ none := by decide
    obtain ⟨l, r, hsplit, -⟩ := List.lookup_eq_some_iff.mp h
    have hmem : (key, n) ∈ builtin.aliases := by
      show _ ∈ (builtin.after []).aliases
      rw [hsplit]
      exact List.mem_append_right _ List.mem_cons_self
    exact .inl (hnames _ hmem)
  | append_singleton calls c ih =>
    rw [after_append] at h ⊢
    rw [lookup_dialects_apply]
    rcases alias_of_apply h with hold | ⟨rfl, hown⟩
    · refine (ih hold).imp (fun hn hnone => hn ?_) fun hleft => hleft.append c
      exact (Option.or_eq_none_iff.mp hnone).2
    · by_cases hdone : ((builtin.after calls).apply c).2 = none
      · exact .inl (by simp [hdone])
      · exact .inr ⟨calls, c, [], rfl, rfl, hown.resolve_left hdone, hdone⟩

end Registry

open Registry

/-- After any calls, each name that was ever registered answers with the dialect of the latest call
that succeeded under it, since no alias shadows it. A further call that succeeds moves its name,
its aliases and the aliases that the name had, and nothing else. -/
theorem latest_registration_answers (calls : List Registration) :
    (∀ n d, (Registry.builtin.latest? n calls).or (Registry.builtin.dialects.lookup n) = some d →
      ∀ s, normalize s = n → (Registry.builtin.after calls).resolve s = .ok d) ∧
    ∀ (c : Registration) (r' : Registry), (Registry.builtin.after calls).apply c = (r', none) →
      (∀ s, normalize s = c.key ∨ normalize s ∈ c.aliasKeys ∨
          (Registry.builtin.after calls).aliases.lookup (normalize s) = some c.key →
        r'.resolve s = .ok c.dialect) ∧
      ∀ s, normalize s ≠ c.key → normalize s ∉ c.aliasKeys →
          (Registry.builtin.after calls).aliases.lookup (normalize s) ≠ some c.key →
        ∀ d, r'.resolve s = .ok d ↔ (Registry.builtin.after calls).resolve s = .ok d := by
  have hsound := unshadowed_builtin.after calls
  have hlatest := lookup_dialects_after Registry.builtin calls
  generalize Registry.builtin.after calls = r at hsound hlatest
  refine ⟨?_, fun c r' hc => ⟨fun s hs => ?_, fun s hname hmem hold d => ?_⟩⟩
  · rintro n d hn s rfl
    have hd := (hlatest _).trans hn
    rw [resolve_eq_ok_iff, find?_of_canonical (hsound.canonical_eq hd), hd]
  · rw [resolve_eq_ok_iff, find?_of_apply_ok hc, if_pos hs]
  · rw [resolve_eq_ok_iff, resolve_eq_ok_iff, find?_of_apply_ok hc, if_neg]
    simp [hname, hmem, hold]

/-- An alias that belongs to PostgreSQL, and the name of MySQL, for a dialect of the call's own. -/
def oracleAsMysql : Registration :=
  ⟨"Oracle", .custom "oracle" "<" ">" ":p", ["ora", "PG", "MySQL"]⟩

/-- The dialect without an alias. -/
def oracle : Registration := ⟨" oracle ", .custom "oracle" "<" ">" ":p", []⟩

/-- What the refused call leaves: two aliases of a name that is not registered. -/
def oracleRefused : Registry :=
  ⟨Registry.builtin.dialects, (Registry.builtin.aliases.put "ora" "oracle").put "pg" "oracle"⟩

theorem oracleAsMysql_apply :
    Registry.builtin.apply oracleAsMysql = (oracleRefused, some (.aliasTaken "mysql")) := by
  have hname : normalize "Oracle" = "oracle" := by decide +kernel
  have hkeys : ["ora", "PG", "MySQL"].map normalize = ["ora", "pg", "mysql"] := by decide +kernel
  simp only [apply, register, oracleAsMysql, hname, hkeys]
  rfl

theorem after_oracleAsMysql : Registry.builtin.after [oracleAsMysql] = oracleRefused :=
  congrArg Prod.fst oracleAsMysql_apply

theorem oracle_key : oracle.key = "oracle" := by decide +kernel

theorem oracle_apply :
    oracleRefused.apply oracle =
      (⟨oracleRefused.dialects.put "oracle" oracle.dialect, oracleRefused.aliases.erase "oracle"⟩,
        none) := by
  have hname : normalize oracle.name = "oracle" := oracle_key
  simp only [apply, register, hname]
  rfl

theorem oracle_answers :
    (Registry.builtin.latest? "oracle" [oracleAsMysql, oracle]).or
        (Registry.builtin.dialects.lookup "oracle") = some oracle.dialect ∧
      (Registry.builtin.after [oracleAsMysql, oracle]).resolve "ORACLE" = .ok oracle.dialect ∧
      ∃ r', (Registry.builtin.after [oracleAsMysql]).apply oracle = (r', none) ∧
        r'.resolve "Ora" = .ok oracle.dialect ∧ r'.resolve "postgresql" = .ok .postgres := by
  have hlatest : (Registry.builtin.latest? "oracle" [oracleAsMysql, oracle]).or
      (Registry.builtin.dialects.lookup "oracle") = some oracle.dialect := by
    simp only [latest?, oracleAsMysql_apply, oracle_apply, oracle_key]
    rfl
  have hsucceeds : ((Registry.builtin.after [oracleAsMysql]).apply oracle).2 = none := by
    rw [after_oracleAsMysql, oracle_apply]
  have hora : (Registry.builtin.after [oracleAsMysql]).aliases.lookup (normalize "Ora") =
      some oracle.key := by
    have hname : normalize "Ora" = "ora" := by decide +kernel
    rw [after_oracleAsMysql, hname, oracle_key]
    rfl
  have hname : normalize "postgresql" = "postgresql" := by decide +kernel
  have hkeeps : normalize "postgresql" ≠ oracle.key ∧ normalize "postgresql" ∉ oracle.aliasKeys ∧
      (Registry.builtin.after [oracleAsMysql]).aliases.lookup (normalize "postgresql") ≠
        some oracle.key := by
    rw [after_oracleAsMysql, hname, oracle_key]
    decide
  have hbefore : (Registry.builtin.after [oracleAsMysql]).resolve "postgresql" =
      .ok .postgres := by
    rw [resolve_eq_ok_iff, find?, after_oracleAsMysql, hname]
    rfl
  have hcase : normalize "ORACLE" = "oracle" := by decide +kernel
  obtain ⟨hmoved, hkept⟩ := (latest_registration_answers [oracleAsMysql]).2 oracle _
    (Prod.ext rfl hsucceeds)
  refine ⟨hlatest, ?_, _, Prod.ext rfl hsucceeds, hmoved _ (.inr (.inr hora)), ?_⟩
  · exact (latest_registration_answers [oracleAsMysql, oracle]).1 _ _ hlatest _ hcase
  · exact (hkept _ hkeeps.1 hkeeps.2.1 hkeeps.2.2 _).mpr hbefore

/-- A call that fails has pointed the aliases in front of the refused one to its name, so every
lookup stays as it was exactly if these answered so before. After any calls, an alias points to a
registered name, or was left behind by a call that failed. -/
theorem failed_registration_keeps_iff (calls : List Registration) :
    (∀ (c : Registration) (r' : Registry) (e : RegistryError),
      (Registry.builtin.after calls).apply c = (r', some e) →
      ∃ pre a post, c.aliasKeys = pre ++ a :: post ∧
        (∀ key ∈ pre, (Registry.builtin.after calls).Free c.key key) ∧
        ¬ (Registry.builtin.after calls).Free c.key a ∧ e = .aliasTaken a ∧
        (∀ s, r'.find? s =
          if normalize s ∈ pre then (Registry.builtin.after calls).dialects.lookup c.key
          else (Registry.builtin.after calls).find? s) ∧
        ((∀ s, r'.resolve s = (Registry.builtin.after calls).resolve s) ↔
          ∀ s, normalize s ∈ pre → (Registry.builtin.after calls).find? s =
            (Registry.builtin.after calls).dialects.lookup c.key)) ∧
    ∀ key n, (Registry.builtin.after calls).aliases.lookup key = some n →
      (Registry.builtin.after calls).dialects.lookup n ≠ none ∨
        Registry.builtin.LeftBehind calls key n := by
  refine ⟨fun c r' e hc => ?_, fun key n => registered_or_leftBehind calls⟩
  obtain ⟨pre, a, post, hkeys, hfree, htaken, he, rfl⟩ := of_apply_error hc
  have hfind := find?_putAll (Registry.builtin.after calls) pre c.key
  refine ⟨pre, a, post, hkeys, hfree, htaken, he, hfind, forall_congr' fun s => ?_⟩
  have hnames : Registry.registered ⟨(Registry.builtin.after calls).dialects,
      (Registry.builtin.after calls).aliases.putAll pre c.key⟩ =
        (Registry.builtin.after calls).registered := rfl
  rw [resolve_eq_iff hnames, hfind]
  by_cases hs : normalize s ∈ pre
  · simp [hs, eq_comm]
  · simp [hs]

theorem oracleAsMysql_leaves_aliases :
    ∃ r', Registry.builtin.apply oracleAsMysql = (r', some (.aliasTaken "mysql")) ∧
      r'.aliases.lookup "ora" = some "oracle" ∧ r'.dialects.lookup "oracle" = none ∧
      Registry.builtin.LeftBehind [oracleAsMysql] "ora" "oracle" ∧
      ∃ pre a post, oracleAsMysql.aliasKeys = pre ++ a :: post ∧
        ((∀ s, r'.resolve s = Registry.builtin.resolve s) ↔
          ∀ s, normalize s ∈ pre → Registry.builtin.find? s =
            Registry.builtin.dialects.lookup oracleAsMysql.key) := by
  have hrefused : (Registry.builtin.apply oracleAsMysql).2 = some (.aliasTaken "mysql") :=
    congrArg Prod.snd oracleAsMysql_apply
  have halias : (Registry.builtin.after [oracleAsMysql]).aliases.lookup "ora" = some "oracle" := by
    rw [after_oracleAsMysql]
    rfl
  have hnone : (Registry.builtin.after [oracleAsMysql]).dialects.lookup "oracle" = none := by
    rw [after_oracleAsMysql]
    rfl
  have hleft := ((failed_registration_keeps_iff [oracleAsMysql]).2 _ _ halias).resolve_left
    fun hsome => hsome hnone
  obtain ⟨pre, a, post, hkeys, -, -, -, -, hkeeps⟩ :=
    (failed_registration_keeps_iff []).1 oracleAsMysql _ _ (Prod.ext rfl hrefused)
  exact ⟨_, Prod.ext rfl hrefused, halias, hnone, hleft, pre, a, post, hkeys, hkeeps⟩

/-- A dialect that answered to an alias is no more found by it after a call that fails. -/
theorem alias_lost_to_refused_call :
    (Registry.builtin.apply oracleAsMysql).2 = some (.aliasTaken "mysql") ∧
      Registry.builtin.resolve "pg" = .ok .postgres ∧
      (Registry.builtin.apply oracleAsMysql).1.resolve "pg" ≠ Registry.builtin.resolve "pg" := by
  have hrefused : (Registry.builtin.apply oracleAsMysql).2 = some (.aliasTaken "mysql") :=
    congrArg Prod.snd oracleAsMysql_apply
  have hname : normalize "pg" = "pg" := by decide +kernel
  have hbefore : Registry.builtin.resolve "pg" = .ok .postgres := by
    rw [resolve_eq_ok_iff, find?, hname]
    rfl
  have hafter : (Registry.builtin.apply oracleAsMysql).1.find? "pg" = none := by
    rw [find?, oracleAsMysql_apply, hname]
    rfl
  refine ⟨hrefused, hbefore, fun h => ?_⟩
  rw [hbefore, resolve_eq_ok_iff, hafter] at h
  cases h

end PolySql
