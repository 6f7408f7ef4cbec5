import Mathlib.Data.List.Forall2

/-! # Outcomes

What it means that a computation with a cause of failure succeeds, step by step and along a list.
-/

namespace Schedule

variable {ε ε' α β σ : Type}

theorem map_eq_ok_iff {f : α → β} {x : Except ε α} {b : β} :
    x.map f = .ok b ↔ ∃ a, x = .ok a ∧ f a = b := by
  cases x <;> simp [Except.map]

theorem bind_eq_ok_iff {x : Except ε α} {f : α → Except ε β} {b : β} :
    x >>= f = .ok b ↔ ∃ a, x = .ok a ∧ f a = .ok b := by
  cases x <;> simp [bind, Except.bind]

theorem map_eq_error_iff {f : α → β} {x : Except ε α} {e : ε} :
    x.map f = .error e ↔ x = .error e := by
  cases x <;> simp [Except.map]

theorem bind_eq_error_iff {x : Except ε α} {f : α → Except ε β} {e : ε} :
    x >>= f = .error e ↔ x = .error e ∨ ∃ a, x = .ok a ∧ f a = .error e := by
  cases x <;> simp [bind, Except.bind]

theorem mapError_eq_ok_iff {f : ε → ε'} {x : Except ε α} {a : α} :
    x.mapError f = .ok a ↔ x = .ok a := by
  cases x <;> simp [Except.mapError]

theorem mapError_eq_error_iff {f : ε → ε'} {x : Except ε α} {e : ε'} :
    x.mapError f = .error e ↔ ∃ cause, x = .error cause ∧ f cause = e := by
  cases x <;> simp [Except.mapError]

/-- A list of computations succeeds if each of them does. -/
theorem mapM_eq_ok_iff {f : α → Except ε β} {xs : List α} {ys : List β} :
    xs.mapM f = .ok ys ↔ List.Forall₂ (fun x y => f x = .ok y) xs ys := by
  induction xs generalizing ys with
  | nil => simp [pure, Except.pure, eq_comm]
  | cons x xs ih =>
    rw [List.mapM_cons, List.forall₂_cons_left_iff]
    simp only [bind_eq_ok_iff, ih]
    constructor
    · rintro ⟨y, first, ys, rest, same⟩
      cases same
      exact ⟨y, ys, first, rest, rfl⟩
    · rintro ⟨y, ys, first, rest, rfl⟩
      exact ⟨y, first, ys, rest, rfl⟩

/-- A list of computations fails with the cause of one of them. -/
theorem exists_of_mapM_eq_error {f : α → Except ε β} {xs : List α} {e : ε}
    (failed : xs.mapM f = .error e) : ∃ x ∈ xs, f x = .error e := by
  induction xs with
  | nil => contradiction
  | cons x xs ih =>
    simp only [List.mapM_cons, bind_eq_error_iff] at failed
    rcases failed with first | ⟨_, _, later | ⟨_, _, none⟩⟩
    · exact ⟨x, List.mem_cons_self, first⟩
    · obtain ⟨y, inside, found⟩ := ih later
      exact ⟨y, List.mem_cons_of_mem _ inside, found⟩
    · contradiction

/-- A list of computations fails with the cause of the first that fails. -/
theorem mapM_eq_error_iff {f : α → Except ε β} {xs : List α} {e : ε} :
    xs.mapM f = .error e ↔ ∃ before x after, xs = before ++ x :: after ∧
      (∀ y ∈ before, ∃ b, f y = .ok b) ∧ f x = .error e := by
  induction xs with
  | nil => simp [pure, Except.pure]
  | cons x xs ih =>
    simp only [List.mapM_cons, bind_eq_error_iff, ih]
    constructor
    · rintro (first | ⟨b, found, ⟨before, y, after, rfl, well, failed⟩ | ⟨_, _, none⟩⟩)
      · exact ⟨[], x, xs, rfl, by simp, first⟩
      · exact ⟨x :: before, y, after, rfl, List.forall_mem_cons.mpr ⟨⟨b, found⟩, well⟩, failed⟩
      · contradiction
    · rintro ⟨before, y, after, same, well, failed⟩
      cases before with
      | nil =>
        cases same
        exact .inl failed
      | cons _ before =>
        cases same
        obtain ⟨⟨b, found⟩, well⟩ := List.forall_mem_cons.mp well
        exact .inr ⟨b, found, .inl ⟨before, y, after, rfl, well, failed⟩⟩

/-- What a list of computations gives comes from one of them. -/
theorem exists_of_mem_right {R : α → β → Prop} {xs : List α} {ys : List β}
    (related : List.Forall₂ R xs ys) {y : β} (member : y ∈ ys) : ∃ x ∈ xs, R x y := by
  induction related with
  | nil => contradiction
  | cons first _ ih =>
    rcases List.mem_cons.mp member with rfl | later
    · exact ⟨_, List.mem_cons_self, first⟩
    · obtain ⟨x, inside, pair⟩ := ih later
      exact ⟨x, List.mem_cons_of_mem _ inside, pair⟩

/-- Each of a list of computations gives something. -/
theorem exists_of_mem_left {R : α → β → Prop} {xs : List α} {ys : List β}
    (related : List.Forall₂ R xs ys) {x : α} (member : x ∈ xs) : ∃ y ∈ ys, R x y :=
  exists_of_mem_right (R := flip R) related.flip member

/-- A list of computations gives something if each of them does. -/
theorem exists_forall₂_iff {R : α → β → Prop} {xs : List α} :
    (∃ ys, List.Forall₂ R xs ys) ↔ ∀ x ∈ xs, ∃ y, R x y := by
  induction xs with
  | nil => simp
  | cons x xs ih =>
    rw [List.forall_mem_cons, ← ih]
    constructor
    · rintro ⟨ys, related⟩
      obtain ⟨y, ys, first, rest, rfl⟩ := List.forall₂_cons_left_iff.mp related
      exact ⟨⟨y, first⟩, ys, rest⟩
    · rintro ⟨⟨y, first⟩, ys, rest⟩
      exact ⟨y :: ys, .cons first rest⟩

/-- Steps that compute something and then only act on a state can compute everything first. -/
theorem foldlM_map_eq {f : α → Except ε β} {act : σ → β → σ} (xs : List α) (s : σ) :
    xs.foldlM (fun s x => (f x).map (act s)) s = (xs.mapM f).map (List.foldl act s) := by
  induction xs generalizing s with
  | nil => rfl
  | cons x xs ih =>
    rw [List.foldlM_cons, List.mapM_cons]
    cases f x with
    | error cause => rfl
    | ok y =>
      change xs.foldlM _ (act s y) = _
      rw [ih]
      cases xs.mapM f <;> rfl

/-- Two computations succeed with the same, or fail with causes that are related. -/
inductive Agree (R : ε → ε' → Prop) : Except ε α → Except ε' α → Prop where
  | ok (a : α) : Agree R (.ok a) (.ok a)
  | error {e : ε} {e' : ε'} (related : R e e') : Agree R (.error e) (.error e')

namespace Agree

variable {R : ε → ε' → Prop} {x : Except ε α} {x' : Except ε' α}

/-- Computations that agree give the same if either gives anything. -/
theorem ok_iff (agree : Agree R x x') (a : α) : x = .ok a ↔ x' = .ok a := by
  cases agree with
  | ok => simp
  | error => simp

theorem map (agree : Agree R x x') (f : α → β) : Agree R (x.map f) (x'.map f) := by
  cases agree with
  | ok a => exact .ok (f a)
  | error related => exact .error related

theorem bind (agree : Agree R x x') {k : α → Except ε β} {k' : α → Except ε' β}
    (next : ∀ a, Agree R (k a) (k' a)) : Agree R (x >>= k) (x' >>= k') := by
  cases agree with
  | ok a => exact next a
  | error related => exact .error related

theorem mapError {η η' : Type} {S : η → η' → Prop} {g : ε → η} {g' : ε' → η'}
    (agree : Agree R x x') (carries : ∀ e e', R e e' → S (g e) (g' e')) :
    Agree S (x.mapError g) (x'.mapError g') := by
  cases agree with
  | ok a => exact .ok a
  | error related => exact .error (carries _ _ related)

/-- Lists of computations agree if each of one list agrees with its partner of the other. -/
theorem mapM {γ γ' : Type} {f : γ → Except ε α} {f' : γ' → Except ε' α} {xs : List γ}
    {xs' : List γ'} (agree : List.Forall₂ (fun x x' => Agree R (f x) (f' x')) xs xs') :
    Agree R (xs.mapM f) (xs'.mapM f') := by
  induction agree with
  | nil => exact .ok []
  | cons first _ ih =>
    rw [List.mapM_cons, List.mapM_cons]
    exact first.bind fun a => ih.bind fun as => .ok (a :: as)

end Agree

/-- If a computation fails, then with such a cause. -/
def Fails (P : ε → Prop) (x : Except ε α) : Prop :=
  ∀ cause, x = .error cause → P cause

namespace Fails

variable {P : ε → Prop} {Q : ε' → Prop} {x : Except ε α}

theorem ok (a : α) : Fails P (.ok a) := by
  rintro _ ⟨⟩

theorem error {cause : ε} (holds : P cause) : Fails P (.error cause : Except ε α) := by
  rintro _ ⟨⟩
  exact holds

theorem bind {f : α → Except ε β} (first : Fails P x) (rest : ∀ a, Fails P (f a)) :
    Fails P (x >>= f) := by
  intro cause failed
  rcases bind_eq_error_iff.mp failed with failed | ⟨a, _, failed⟩
  · exact first cause failed
  · exact rest a cause failed

theorem map (f : α → β) (fails : Fails P x) : Fails P (x.map f) := fun cause failed =>
  fails cause (map_eq_error_iff.mp failed)

theorem mapError {f : ε → ε'} (turns : ∀ cause, Q (f cause)) : Fails Q (x.mapError f) := by
  intro cause failed
  obtain ⟨before, _, rfl⟩ := mapError_eq_error_iff.mp failed
  exact turns before

theorem mapM {f : α → Except ε β} {xs : List α} (each : ∀ x ∈ xs, Fails P (f x)) :
    Fails P (xs.mapM f) := by
  intro cause failed
  obtain ⟨x, member, failed⟩ := exists_of_mapM_eq_error failed
  exact each x member cause failed

end Fails

end Schedule
