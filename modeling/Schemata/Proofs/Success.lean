import Mathlib.Data.List.Forall2

/-!
# Computations that succeed

What it takes for a computation that may fail to succeed: each of its parts does, and the result
is put together from theirs. A proof about a definition in `do` notation takes it apart with these
statements and never unfolds the monad.

## Main statements

* `bind_eq_ok`, `mapM_eq_ok`: sequences and traversals.
* `foldlM_ok`: what every step of a fold keeps holds of its result.
* `exists_foldlM_ok`: a fold succeeds when each of its steps can be taken.
* `foldlM_filter`: steps that change nothing can be left out.
* `foldlM_mono`: a fold whose steps succeed as before does so too.
-/

namespace Schemata

variable {ε α β : Type}

theorem bind_eq_ok {x : Except ε α} {f : α → Except ε β} {b : β} :
    x >>= f = .ok b ↔ ∃ a, x = .ok a ∧ f a = .ok b := by
  cases x with
  | error e => simp [bind, Except.bind]
  | ok a => simp [bind, Except.bind]

@[simp] theorem pure_eq_ok {a b : α} : (pure a : Except ε α) = .ok b ↔ a = b := by
  simp [pure, Except.pure]

@[simp] theorem throw_ne_ok {e : ε} {a : α} : (throw e : Except ε α) ≠ .ok a := by
  intro h
  cases h

theorem mapError_eq_ok {ε' : Type} {x : Except ε α} {f : ε → ε'} {a : α} :
    x.mapError f = .ok a ↔ x = .ok a := by
  cases x <;> simp [Except.mapError]

theorem mapError_eq_error {ε' : Type} {x : Except ε α} {f : ε → ε'} {e' : ε'} :
    x.mapError f = .error e' ↔ ∃ e, x = .error e ∧ f e = e' := by
  cases x <;> simp [Except.mapError]

@[simp] theorem toOption_eq_some {x : Except ε α} {a : α} : x.toOption = some a ↔ x = .ok a := by
  cases x <;> simp [Except.toOption]

/-- A traversal succeeds when it does at every element. -/
theorem mapM_eq_ok {f : α → Except ε β} {l : List α} {bs : List β} :
    l.mapM f = .ok bs ↔ List.Forall₂ (fun a b => f a = .ok b) l bs := by
  induction l generalizing bs with
  | nil => rw [List.mapM_nil, pure_eq_ok, List.forall₂_nil_left_iff, eq_comm]
  | cons a l ih =>
    rw [List.mapM_cons, bind_eq_ok, List.forall₂_cons_left_iff]
    simp only [bind_eq_ok, pure_eq_ok, ih]
    constructor
    · rintro ⟨b, hb, bs', hbs, rfl⟩
      exact ⟨b, bs', hb, hbs, rfl⟩
    · rintro ⟨b, bs', hb, hbs, rfl⟩
      exact ⟨b, hb, bs', hbs, rfl⟩

/-- Of two lists that correspond, each element of the second has its partner in the first. -/
theorem exists_left_of_forall₂ {R : α → β → Prop} {as : List α} {bs : List β}
    (h : List.Forall₂ R as bs) {b : β} (hb : b ∈ bs) : ∃ a ∈ as, R a b := by
  induction h with
  | nil => cases hb
  | cons hr _ ih =>
    rcases List.mem_cons.1 hb with rfl | hb
    · exact ⟨_, List.mem_cons_self, hr⟩
    · obtain ⟨a, ha, hab⟩ := ih hb
      exact ⟨a, List.mem_cons_of_mem _ ha, hab⟩

/-- Where results depend on the elements alone, an element is paired with its own. -/
theorem mem_zip_of_forall₂ {f : α → Except ε β} {as : List α} {bs : List β}
    (h : List.Forall₂ (fun a b => f a = .ok b) as bs) {x : α × β} :
    x ∈ as.zip bs ↔ x.1 ∈ as ∧ f x.1 = .ok x.2 := by
  induction h with
  | nil => simp
  | @cons a b as bs hab _ ih =>
    rw [List.zip_cons_cons, List.mem_cons, List.mem_cons, ih]
    constructor
    · rintro (rfl | ⟨hmem, hok⟩)
      · exact ⟨.inl rfl, hab⟩
      · exact ⟨.inr hmem, hok⟩
    · rintro ⟨heq | hmem, hok⟩
      · rw [heq, hab] at hok
        exact .inl (Prod.ext heq (Except.ok.inj hok).symm)
      · exact .inr ⟨hmem, hok⟩

/-- Two lists that correspond by way of a third element each, which can be collected. -/
theorem forall₂_exists {γ : Type} {R : α → γ → Prop} {f : α → γ → β} {as : List α} {bs : List β}
    (h : List.Forall₂ (fun a b => ∃ c, R a c ∧ b = f a c) as bs) :
    ∃ xs : List (α × γ), xs.map (·.1) = as ∧ (∀ x ∈ xs, R x.1 x.2)
      ∧ bs = xs.map fun x => f x.1 x.2 := by
  induction h with
  | nil => exact ⟨[], rfl, by simp, rfl⟩
  | cons hr _ ih =>
    obtain ⟨c, hc, rfl⟩ := hr
    obtain ⟨xs, rfl, hxs, rfl⟩ := ih
    refine ⟨(_, c) :: xs, rfl, fun x hx => ?_, rfl⟩
    rcases List.mem_cons.1 hx with rfl | hx
    · exact hc
    · exact hxs x hx

/-- What holds at the start of a fold, and is kept by each step, holds of its result. `P` speaks of
the elements that were taken so far. -/
theorem foldlM_ok {f : β → α → Except ε β} (P : List α → β → Prop) {l : List α} {b b' : β}
    (h : l.foldlM f b = .ok b') (start : P [] b)
    (step : ∀ done a c c', a ∈ l → P done c → f c a = .ok c' → P (done ++ [a]) c') :
    P l b' := by
  suffices key : ∀ (rest done : List α) (c : β), (∀ a ∈ rest, a ∈ l) → P done c →
      rest.foldlM f c = .ok b' → P (done ++ rest) b' from
    key l [] b (fun _ ha => ha) start h
  intro rest
  induction rest with
  | nil =>
    intro done c _ hc heq
    rw [List.foldlM_nil, pure_eq_ok] at heq
    rw [List.append_nil, ← heq]
    exact hc
  | cons a rest ih =>
    intro done c hsub hc heq
    rw [List.foldlM_cons, bind_eq_ok] at heq
    obtain ⟨c', hstep, hrest⟩ := heq
    rw [List.append_cons]
    exact ih _ c' (fun x hx => hsub x (List.mem_cons_of_mem _ hx))
      (step done a c c' (hsub a List.mem_cons_self) hc hstep) hrest

/-- A fold succeeds when each step can be taken from where the steps before it lead. `P` says where
that is. -/
theorem exists_foldlM_ok {f : β → α → Except ε β} (P : List α → β → Prop) {l : List α} {b : β}
    (start : P [] b)
    (step : ∀ done a rest c, l = done ++ a :: rest → P done c →
      ∃ c', f c a = .ok c' ∧ P (done ++ [a]) c') :
    ∃ b', l.foldlM f b = .ok b' ∧ P l b' := by
  suffices key : ∀ (rest done : List α) (c : β), l = done ++ rest → P done c →
      ∃ b', rest.foldlM f c = .ok b' ∧ P l b' from
    key l [] b rfl start
  intro rest
  induction rest with
  | nil =>
    intro done c hl hc
    refine ⟨c, rfl, ?_⟩
    rw [hl, List.append_nil]
    exact hc
  | cons a rest ih =>
    intro done c hl hc
    obtain ⟨c', hstep, hc'⟩ := step done a rest c hl hc
    obtain ⟨b', hrest, hb'⟩ := ih (done ++ [a]) c' (by simpa using hl) hc'
    exact ⟨b', by rw [List.foldlM_cons, bind_eq_ok]; exact ⟨c', hstep, hrest⟩, hb'⟩

/-- Steps that change nothing can be left out of a fold. -/
theorem foldlM_filter {f : β → α → Except ε β} {p : α → Bool} {l : List α} {b b' : β}
    (h : l.foldlM f b = .ok b') (hskip : ∀ c a c', p a = false → f c a = .ok c' → c' = c) :
    (l.filter p).foldlM f b = .ok b' := by
  induction l generalizing b with
  | nil => exact h
  | cons a l ih =>
    rw [List.foldlM_cons, bind_eq_ok] at h
    obtain ⟨c, hstep, hrest⟩ := h
    by_cases ha : p a = true
    · rw [List.filter_cons_of_pos ha, List.foldlM_cons, bind_eq_ok]
      exact ⟨c, hstep, ih hrest⟩
    · rw [List.filter_cons_of_neg ha]
      obtain rfl := hskip b a c (Bool.eq_false_iff.2 ha) hstep
      exact ih hrest

/-- A fold succeeds as before when its steps do. -/
theorem foldlM_mono {f g : β → α → Except ε β} (hfg : ∀ b a b', f b a = .ok b' → g b a = .ok b')
    {l : List α} {b b' : β} (h : l.foldlM f b = .ok b') : l.foldlM g b = .ok b' := by
  induction l generalizing b with
  | nil => exact h
  | cons a l ih =>
    rw [List.foldlM_cons, bind_eq_ok] at h ⊢
    obtain ⟨c, hstep, hrest⟩ := h
    exact ⟨c, hfg b a c hstep, ih hrest⟩

end Schemata
