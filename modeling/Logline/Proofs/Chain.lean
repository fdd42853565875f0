/-
Chains of steps that can fail. A chain stops at its first failure, so what
is known of a chain that has a result is that each step has one, and what
is known of a failed one is that some step has failed after the others
went well. These lemmas take a chain apart from the front, one step at a
time; giving an error another type does not matter to success.

Chains that share a state are run in the same way, but a failed one has a
state as well: the one that the steps before the failure have left
(`run_bind`).
-/
namespace Logline

variable {ε ε' α β : Type}

theorem bind_eq_ok_iff {x : Except ε α} {f : α → Except ε β} {b : β} :
    (x >>= f) = .ok b ↔ ∃ a, x = .ok a ∧ f a = .ok b := by
  cases x with
  | error why => exact ⟨(nomatch ·), fun ⟨_, h, _⟩ => nomatch h⟩
  | ok a =>
      constructor
      · intro h
        exact ⟨a, rfl, h⟩
      · rintro ⟨_, heq, h⟩
        cases heq
        exact h

theorem map_eq_ok_iff {x : Except ε α} {f : α → β} {b : β} :
    x.map f = .ok b ↔ ∃ a, x = .ok a ∧ f a = b := by
  cases x with
  | error why => exact ⟨(nomatch ·), fun ⟨_, h, _⟩ => nomatch h⟩
  | ok a =>
      constructor
      · intro h
        exact ⟨a, rfl, Except.ok.inj h⟩
      · rintro ⟨_, heq, rfl⟩
        cases heq
        rfl

theorem mapError_eq_ok_iff {x : Except ε α} {f : ε → ε'} {a : α} :
    x.mapError f = .ok a ↔ x = .ok a := by
  cases x with
  | error why => exact ⟨(nomatch ·), (nomatch ·)⟩
  | ok b => exact ⟨fun h => by cases h; rfl, fun h => by cases h; rfl⟩

theorem isOk_iff {x : Except ε α} : x.isOk = true ↔ ∃ a, x = .ok a := by
  cases x with
  | error why => exact ⟨(nomatch ·), (nomatch ·)⟩
  | ok a => exact ⟨fun _ => ⟨a, rfl⟩, fun _ => rfl⟩

/-- A chain fails in its first link, or in the rest with what the link
gives. -/
theorem bind_eq_error_iff {x : Except ε α} {f : α → Except ε β} {why : ε} :
    (x >>= f) = .error why
      ↔ x = .error why ∨ ∃ a, x = .ok a ∧ f a = .error why := by
  cases x with
  | error found =>
      constructor
      · intro h
        cases h
        exact .inl rfl
      · rintro (h | ⟨_, h, -⟩)
        · cases h
          rfl
        · cases h
  | ok a =>
      constructor
      · intro h
        exact .inr ⟨a, rfl, h⟩
      · rintro (h | ⟨_, heq, h⟩)
        · cases h
        · cases heq
          exact h

theorem mapError_eq_error_iff {x : Except ε α} {f : ε → ε'} {why : ε'} :
    x.mapError f = .error why ↔ ∃ found, x = .error found ∧ f found = why := by
  cases x with
  | ok a => exact ⟨(nomatch ·), fun ⟨_, h, _⟩ => nomatch h⟩
  | error found =>
      constructor
      · intro h
        exact ⟨found, rfl, Except.error.inj h⟩
      · rintro ⟨_, heq, rfl⟩
        cases heq
        rfl

/-- A list that cannot be gone through fails at one of its members. -/
theorem exists_of_mapM_eq_error {f : α → Except ε β} {xs : List α} {why : ε}
    (h : xs.mapM f = .error why) : ∃ x ∈ xs, f x = .error why := by
  induction xs with
  | nil => cases h
  | cons x xs ih =>
      rw [List.mapM_cons] at h
      rcases bind_eq_error_iff.1 h with h | ⟨b, -, h⟩
      · exact ⟨x, List.mem_cons_self, h⟩
      · rcases bind_eq_error_iff.1 h with h | ⟨bs, -, h⟩
        · obtain ⟨y, hy, hwhy⟩ := ih h
          exact ⟨y, List.mem_cons_of_mem x hy, hwhy⟩
        · cases h

/-- Whether a chain has a result, and which, depends on the results of its
steps only. -/
theorem toOption_bind (x : Except ε α) (f : α → Except ε β) :
    (x >>= f).toOption = x.toOption.bind fun a => (f a).toOption := by
  cases x <;> rfl

/-- What each step of a chain over a list preserves holds at its end; what
has been gone through so far may be spoken of. -/
theorem foldlM_induction {step : β → α → Except ε β}
    {P : List α → β → Prop} {xs : List α} {start last : β}
    (hstep : ∀ {seen x b b'}, x ∈ xs → P seen b →
      step b x = .ok b' → P (seen ++ [x]) b')
    (hstart : P [] start) (hrun : xs.foldlM step start = .ok last) :
    P xs last := by
  -- the part gone through grows while the rest shrinks
  have hrest : ∀ (rest seen : List α) (b : β), (∀ x ∈ rest, x ∈ xs) →
      P seen b → rest.foldlM step b = .ok last → P (seen ++ rest) last := by
    intro rest
    induction rest with
    | nil =>
        intro seen b _ h hrun
        cases hrun
        rw [List.append_nil]
        exact h
    | cons x rest ih =>
        intro seen b hmem h hrun
        rw [List.foldlM_cons] at hrun
        obtain ⟨b', hb', hrun⟩ := bind_eq_ok_iff.1 hrun
        have hnext := hstep (hmem x List.mem_cons_self) h hb'
        have hmore := ih (seen ++ [x]) b'
          (fun y hy => hmem y (List.mem_cons_of_mem x hy)) hnext hrun
        rw [List.append_assoc] at hmore
        exact hmore
  exact hrest xs [] start (fun _ hx => hx) hstart hrun

-- ============================================================= in place

section InPlace

variable {σ : Type} (s : σ)

theorem run_get : (get : ExceptT ε (StateM σ) σ).run.run s = (.ok s, s) :=
  rfl

theorem run_pure (a : α) :
    (pure a : ExceptT ε (StateM σ) α).run.run s = (.ok a, s) :=
  rfl

theorem run_ofExcept (x : Except ε α) :
    (MonadExcept.ofExcept x : ExceptT ε (StateM σ) α).run.run s = (x, s) := by
  cases x <;> rfl

theorem run_bind (x : ExceptT ε (StateM σ) α)
    (f : α → ExceptT ε (StateM σ) β) :
    (x >>= f).run.run s
      = match x.run.run s with
        | (.ok a, after) => (f a).run.run after
        | (.error why, after) => (.error why, after) := by
  rw [ExceptT.run_bind, StateT.run_bind]
  rcases x.run.run s with ⟨_ | _, _⟩ <;> rfl

end InPlace

end Logline
