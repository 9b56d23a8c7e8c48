/-!
# Work that can fail

A conversion and a command are work over a state, and a failure does not undo what was done to the
state before it.  To leave the state as it was (`IsSilent`), not to fail (`IsSafe`), and to leave
the state as it was whenever the work fails (`FailsSilently`) are properties of whole pieces of work
that follow from those of their parts: work that fails silently may come behind work that is silent.
The ways in which work can fail (`FailsOnly`) are those of its parts.
-/

namespace MarkdownDialects

namespace Effect

variable {ε σ α β : Type}

/-- Work in a row has a result if each piece of it has one. -/
theorem bind_eq_ok_iff {result : Except ε α} {next : α → Except ε β} {b : β} :
    (result >>= next) = .ok b ↔ ∃ a, result = .ok a ∧ next a = .ok b := by
  cases result <;> simp [bind, Except.bind]

/-- A failure skips what comes next and keeps the state. -/
theorem run_bind (work : ExceptT ε (StateM σ) α) (next : α → ExceptT ε (StateM σ) β) (s : σ) :
    (work >>= next).run.run s =
      match work.run.run s with
      | (.ok a, after) => (next a).run.run after
      | (.error e, after) => (.error e, after) := by
  simp only [bind, ExceptT.run, ExceptT.bind, ExceptT.mk, StateT.run, StateT.bind]
  cases work s with
  | mk result after => cases result <;> rfl

/-- Work that does not fail. -/
def IsSafe (work : ExceptT ε (StateM σ) α) : Prop := ∀ s, ∃ a, (work.run.run s).1 = .ok a

/-- Work that fails only in ways with a property. -/
def FailsOnly (p : ε → Prop) (work : ExceptT ε (StateM σ) α) : Prop :=
  ∀ s e after, work.run.run s = (.error e, after) → p e

variable {work : ExceptT ε (StateM σ) α} {next : α → ExceptT ε (StateM σ) β}

theorem isSafe_pure (a : α) : IsSafe (pure a : ExceptT ε (StateM σ) α) :=
  fun _ => ⟨a, rfl⟩

theorem isSafe_modify (change : σ → σ) : IsSafe (modify change : ExceptT ε (StateM σ) PUnit) :=
  fun _ => ⟨⟨⟩, rfl⟩

theorem IsSafe.bind (safe : IsSafe work) (later : ∀ a, IsSafe (next a)) :
    IsSafe (work >>= next) := by
  intro s
  obtain ⟨a, done⟩ := safe s
  rw [run_bind]
  split
  · exact later _ _
  · rename_i first
    rw [first] at done
    exact nomatch done

section FailsOnly

variable {p : ε → Prop}

theorem IsSafe.failsOnly (safe : IsSafe work) : FailsOnly p work := by
  intro s e after failed
  obtain ⟨a, done⟩ := safe s
  rw [failed] at done
  exact nomatch done

theorem failsOnly_throw {e : ε} (holds : p e) :
    FailsOnly p (throw e : ExceptT ε (StateM σ) α) := by
  intro s e after failed
  cases failed
  exact holds

theorem failsOnly_mk_pure {result : Except ε α} (each : ∀ e, result = .error e → p e) :
    FailsOnly p (ExceptT.mk (pure result) : ExceptT ε (StateM σ) α) :=
  fun _ e _ failed => each e (congrArg Prod.fst failed)

/-- Work in a row fails only in the ways of its pieces. -/
theorem FailsOnly.bind (first : FailsOnly p work) (later : ∀ a, FailsOnly p (next a)) :
    FailsOnly p (work >>= next) := by
  intro s e after failed
  rw [run_bind] at failed
  split at failed
  · rename_i a between _
    exact later a between e after failed
  · rename_i f between stopped
    cases failed
    exact first s e after stopped

end FailsOnly

/-- Work on each element of a list does not fail if it fails on none. -/
theorem isSafe_forM {γ : Type} {visit : γ → ExceptT ε (StateM σ) PUnit} (elements : List γ)
    (each : ∀ a ∈ elements, IsSafe (visit a)) : IsSafe (elements.forM visit) := by
  induction elements with
  | nil => exact isSafe_pure _
  | cons first rest ih =>
    refine IsSafe.bind (each first List.mem_cons_self) fun _ => ?_
    exact ih fun a member => each a (List.mem_cons_of_mem first member)

end Effect

end MarkdownDialects
