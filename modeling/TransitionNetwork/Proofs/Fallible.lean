import TransitionNetwork.Failure

/-!
# How fallible operations end

A fallible operation is described by what holds of its value and what holds of its failure. Loops
that can fail are described by an invariant over the items already passed.
-/

set_option autoImplicit false

namespace TransitionNetwork

theorem ok_bind {ε α β : Type} (found : α) (next : α → Except ε β) :
    ((.ok found : Except ε α) >>= next) = next found := rfl

/-- The operation ends with a value of one sort or with a failure of another. -/
def Ends {ε α : Type} (result : Except ε α) (value : α → Prop) (failure : ε → Prop) : Prop :=
  match result with
  | .ok found => value found
  | .error cause => failure cause

namespace Ends

variable {ε α β : Type} {value : α → Prop} {failure : ε → Prop}

@[simp] theorem ok_iff {found : α} : Ends (.ok found) value failure ↔ value found := Iff.rfl

@[simp] theorem error_iff {cause : ε} : Ends (.error cause) value failure ↔ failure cause := Iff.rfl

@[simp] theorem pure_iff {found : α} : Ends (pure found) value failure ↔ value found := Iff.rfl

@[simp] theorem ok_bind_iff {found : α} {next : α → Except ε β} {final : β → Prop} :
    Ends (.ok found >>= next) final failure ↔ Ends (next found) final failure := Iff.rfl

theorem imp {result : Except ε α} {weaker : α → Prop} {looser : ε → Prop}
    (ends : Ends result value failure) (onValue : ∀ found, value found → weaker found)
    (onFailure : ∀ cause, failure cause → looser cause) : Ends result weaker looser := by
  cases result with
  | ok found => exact onValue found ends
  | error cause => exact onFailure cause ends

theorem bind {result : Except ε α} {next : α → Except ε β} {final : β → Prop}
    (ends : Ends result value failure)
    (continues : ∀ found, value found → Ends (next found) final failure) :
    Ends (result >>= next) final failure := by
  cases result with
  | ok found => exact continues found ends
  | error cause => exact ends

theorem of_ok {result : Except ε α} {found : α} (ends : Ends result value failure)
    (succeeded : result = .ok found) : value found := by
  subst succeeded
  exact ends

theorem of_error {result : Except ε α} {cause : ε} (ends : Ends result value failure)
    (failed : result = .error cause) : failure cause := by
  subst failed
  exact ends

/-- What a loop keeps, and how it may fail. The invariant speaks about the items already passed. -/
theorem foldlM {step : β → α → Except ε β} {items : List α} {start : β}
    (invariant : List α → β → Prop) (initially : invariant [] start)
    (continues : ∀ seen item remaining state, items = seen ++ item :: remaining →
      invariant seen state → Ends (step state item) (invariant (seen ++ [item])) failure) :
    Ends (items.foldlM step start) (invariant items) failure := by
  -- Generalised to a loop that has passed `seen` and still has `remaining` before it.
  have loop : ∀ remaining seen state, items = seen ++ remaining → invariant seen state →
      Ends (remaining.foldlM step state) (invariant items) failure := by
    intro remaining
    induction remaining with
    | nil =>
        intro seen state split holds
        simpa [split] using holds
    | cons item remaining ih =>
        intro seen state split holds
        rw [List.foldlM_cons]
        refine (continues seen item remaining state split holds).bind ?_
        intro next kept
        exact ih (seen ++ [item]) next (by simpa using split) kept
  exact loop items [] start rfl initially

/-- A mapped list has a value for each item, at its position, or the failure of one of them. -/
theorem mapM {step : α → Except ε β} (items : List α) :
    Ends (items.mapM step)
      (fun values => values.length = items.length ∧
        ∀ (position : Nat) (item : α), items[position]? = some item →
          ∃ found, values[position]? = some found ∧ step item = .ok found)
      (fun cause => ∃ item ∈ items, step item = .error cause) := by
  induction items with
  | nil => simp
  | cons head tail ih =>
      rw [List.mapM_cons]
      cases stepped : step head with
      | error cause => exact ⟨head, List.mem_cons_self, stepped⟩
      | ok first =>
          cases mapped : tail.mapM step with
          | error cause =>
              obtain ⟨item, member, failed⟩ := ih.of_error mapped
              exact ⟨item, List.mem_cons_of_mem _ member, failed⟩
          | ok rest =>
              obtain ⟨length, pointwise⟩ := ih.of_ok mapped
              refine ⟨by simp [length], ?_⟩
              intro position item found
              cases position with
              | zero =>
                  simp only [List.getElem?_cons_zero, Option.some.injEq] at found
                  subst found
                  exact ⟨first, by simp, stepped⟩
              | succ position =>
                  simpa using pointwise position item (by simpa using found)

end Ends

/-- An entry that exists is found, also where causes other than faults are possible. -/
theorem liftM_entry {ε α : Type} {table : Array α} {index : Nat} {value : α}
    (found : table[index]? = some value) :
    (liftM (entry table index) : Except (Failure ε) α) = .ok value := by
  rw [entry_eq_ok_iff.mpr found]
  rfl

/-! ## Readers -/

section Readers

variable {σ ε α β : Type} {read : StateT σ (Except ε) α} {next : α → StateT σ (Except ε) β}
  {before after : σ} {value : α}

theorem bind_of_ok (taken : read before = .ok (value, after)) :
    (read >>= next) before = next value after := by
  change (read before >>= fun found => next found.1 found.2) = _
  rw [taken]
  rfl

theorem bind_of_error {cause : ε} (refused : read before = .error cause) :
    (read >>= next) before = .error cause := by
  change (read before >>= fun found => next found.1 found.2) = _
  rw [refused]
  rfl

end Readers

end TransitionNetwork
