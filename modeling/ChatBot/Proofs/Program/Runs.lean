import ChatBot.Program.Basic

/-!
Runs of a program among others. Whenever the program reads the state, the others may have changed it, so a run may find any
state there. A run that ends leaves what the program did and how it ended; a turn is the first part of such a run.
-/
set_option autoImplicit false

namespace ChatBot.Program
variable {σ α β : Type}

/-- Some run of the program does this and ends so. -/
inductive Yields : Program σ α → List Output → Except Fault α → Prop
  | done (a : α) : Yields (done a) [] (.ok a)
  | raise (fault : Fault) : Yields (raise fault) [] (.error fault)
  | read {next : σ → Program σ α} {outputs : List Output} {ending : Except Fault α} (s : σ) :
      Yields (next s) outputs ending → Yields (read next) outputs ending
  | write {next : Program σ α} {outputs : List Output} {ending : Except Fault α} (s : σ) :
      Yields next outputs ending → Yields (write s next) outputs ending
  | respond {next : Program σ α} {outputs : List Output} {ending : Except Fault α} (kind : ResponseKind) (text : Text) :
      Yields next outputs ending → Yields (respond kind text next) (.response kind text :: outputs) ending
  | note {next : Program σ α} {outputs : List Output} {ending : Except Fault α} (n : Note) :
      Yields next outputs ending → Yields (note n next) (.note n :: outputs) ending
  | pause {next : Program σ α} {outputs : List Output} {ending : Except Fault α} (p : Pause) :
      Yields next outputs ending → Yields (pause p next) outputs ending
  | await {next : Program σ α} {outputs : List Output} {ending : Except Fault α} (ready : σ → Bool) :
      Yields next outputs ending → Yields (await ready next) outputs ending

/-! ## Single steps -/

theorem yields_done_iff {a : α} {outputs : List Output} {ending : Except Fault α} :
    (done a : Program σ α).Yields outputs ending ↔ outputs = [] ∧ ending = .ok a := by
  constructor
  · rintro ⟨⟩
    exact ⟨rfl, rfl⟩
  · rintro ⟨rfl, rfl⟩
    exact .done a

theorem yields_raise_iff {fault : Fault} {outputs : List Output} {ending : Except Fault α} :
    (raise fault : Program σ α).Yields outputs ending ↔ outputs = [] ∧ ending = .error fault := by
  constructor
  · rintro ⟨⟩
    exact ⟨rfl, rfl⟩
  · rintro ⟨rfl, rfl⟩
    exact .raise fault

theorem yields_respond_iff {kind : ResponseKind} {text : Text} {next : Program σ α} {outputs : List Output}
    {ending : Except Fault α} : (respond kind text next).Yields outputs ending ↔
      ∃ rest, outputs = .response kind text :: rest ∧ next.Yields rest ending := by
  constructor
  · rintro ⟨⟩
    exact ⟨_, rfl, by assumption⟩
  · rintro ⟨rest, rfl, h⟩
    exact .respond kind text h

theorem yields_note_iff {n : Note} {next : Program σ α} {outputs : List Output} {ending : Except Fault α} :
    (note n next).Yields outputs ending ↔ ∃ rest, outputs = .note n :: rest ∧ next.Yields rest ending := by
  constructor
  · rintro ⟨⟩
    exact ⟨_, rfl, by assumption⟩
  · rintro ⟨rest, rfl, h⟩
    exact .note n h

theorem yields_read_iff {next : σ → Program σ α} {outputs : List Output} {ending : Except Fault α} :
    (read next).Yields outputs ending ↔ ∃ s, (next s).Yields outputs ending := by
  constructor
  · rintro ⟨⟩
    exact ⟨_, by assumption⟩
  · rintro ⟨s, h⟩
    exact .read s h

theorem yields_write_iff {s : σ} {next : Program σ α} {outputs : List Output} {ending : Except Fault α} :
    (write s next).Yields outputs ending ↔ next.Yields outputs ending := by
  constructor
  · rintro ⟨⟩
    assumption
  · exact .write s

theorem yields_pause_iff {p : Pause} {next : Program σ α} {outputs : List Output} {ending : Except Fault α} :
    (pause p next).Yields outputs ending ↔ next.Yields outputs ending := by
  constructor
  · rintro ⟨⟩
    assumption
  · exact .pause p

theorem yields_await_iff {ready : σ → Bool} {next : Program σ α} {outputs : List Output} {ending : Except Fault α} :
    (await ready next).Yields outputs ending ↔ next.Yields outputs ending := by
  constructor
  · rintro ⟨⟩
    assumption
  · exact .await ready

theorem yields_ofExcept_iff {result : Except Fault α} {outputs : List Output} {ending : Except Fault α} :
    (ofExcept result : Program σ α).Yields outputs ending ↔ outputs = [] ∧ ending = result := by
  cases result with
  | ok a => exact yields_done_iff
  | error fault => exact yields_raise_iff

/-! ## Programs made of others -/

theorem Yields.bind {p : Program σ α} {f : α → Program σ β} {a : α} {first second : List Output} {ending : Except Fault β}
    (hp : p.Yields first (.ok a)) (hf : (f a).Yields second ending) : (p.bind f).Yields (first ++ second) ending := by
  generalize hresult : (Except.ok a : Except Fault α) = result at hp
  induction hp with
  | done b =>
    cases hresult
    exact hf
  | raise fault => cases hresult
  | read s _ ih => exact .read s (ih hresult)
  | write s _ ih => exact .write s (ih hresult)
  | respond kind text _ ih => exact .respond kind text (ih hresult)
  | note n _ ih => exact .note n (ih hresult)
  | pause p _ ih => exact .pause p (ih hresult)
  | await ready _ ih => exact .await ready (ih hresult)

theorem Yields.bind_error {p : Program σ α} (f : α → Program σ β) {fault : Fault} {outputs : List Output}
    (hp : p.Yields outputs (.error fault)) : (p.bind f).Yields outputs (.error fault) := by
  generalize hresult : (Except.error fault : Except Fault α) = result at hp
  induction hp with
  | done b => cases hresult
  | raise fault' =>
    cases hresult
    exact .raise fault
  | read s _ ih => exact .read s (ih hresult)
  | write s _ ih => exact .write s (ih hresult)
  | respond kind text _ ih => exact .respond kind text (ih hresult)
  | note n _ ih => exact .note n (ih hresult)
  | pause p _ ih => exact .pause p (ih hresult)
  | await ready _ ih => exact .await ready (ih hresult)

/-- A run of one program after the other is a run of the first and, if that ends well, one of the second. -/
theorem yields_bind_iff {p : Program σ α} {f : α → Program σ β} {outputs : List Output} {ending : Except Fault β} :
    (p.bind f).Yields outputs ending ↔
      (∃ a first second, p.Yields first (.ok a) ∧ (f a).Yields second ending ∧ outputs = first ++ second) ∨
        ∃ fault, p.Yields outputs (.error fault) ∧ ending = .error fault := by
  constructor
  · intro h
    induction p generalizing outputs with
    | done a => exact .inl ⟨a, [], outputs, .done a, h, rfl⟩
    | raise fault =>
      cases h
      exact .inr ⟨fault, .raise fault, rfl⟩
    | read next ih =>
      cases h with
      | read s h =>
        rcases ih s h with ⟨a, first, second, hp, hf, rfl⟩ | ⟨fault, hp, rfl⟩
        · exact .inl ⟨a, first, second, .read s hp, hf, rfl⟩
        · exact .inr ⟨fault, .read s hp, rfl⟩
    | write s next ih =>
      cases h with
      | write _ h =>
        rcases ih h with ⟨a, first, second, hp, hf, rfl⟩ | ⟨fault, hp, rfl⟩
        · exact .inl ⟨a, first, second, .write s hp, hf, rfl⟩
        · exact .inr ⟨fault, .write s hp, rfl⟩
    | respond kind text next ih =>
      cases h with
      | respond _ _ h =>
        rcases ih h with ⟨a, first, second, hp, hf, rfl⟩ | ⟨fault, hp, rfl⟩
        · exact .inl ⟨a, _, second, .respond kind text hp, hf, rfl⟩
        · exact .inr ⟨fault, .respond kind text hp, rfl⟩
    | note n next ih =>
      cases h with
      | note _ h =>
        rcases ih h with ⟨a, first, second, hp, hf, rfl⟩ | ⟨fault, hp, rfl⟩
        · exact .inl ⟨a, _, second, .note n hp, hf, rfl⟩
        · exact .inr ⟨fault, .note n hp, rfl⟩
    | pause p next ih =>
      cases h with
      | pause _ h =>
        rcases ih h with ⟨a, first, second, hp, hf, rfl⟩ | ⟨fault, hp, rfl⟩
        · exact .inl ⟨a, first, second, .pause p hp, hf, rfl⟩
        · exact .inr ⟨fault, .pause p hp, rfl⟩
    | await ready next ih =>
      cases h with
      | await _ h =>
        rcases ih h with ⟨a, first, second, hp, hf, rfl⟩ | ⟨fault, hp, rfl⟩
        · exact .inl ⟨a, first, second, .await ready hp, hf, rfl⟩
        · exact .inr ⟨fault, .await ready hp, rfl⟩
  · rintro (⟨a, first, second, hp, hf, rfl⟩ | ⟨fault, hp, rfl⟩)
    · exact hp.bind hf
    · exact hp.bind_error f

/-- An attempt always ends well, and its result tells how the program ended. -/
theorem yields_attempt_iff {p : Program σ α} {outputs : List Output} {ending : Except Fault (Except Fault α)} :
    p.attempt.Yields outputs ending ↔ ∃ result, ending = .ok result ∧ p.Yields outputs result := by
  constructor
  · intro h
    induction p generalizing outputs with
    | done a =>
      cases h
      exact ⟨.ok a, rfl, .done a⟩
    | raise fault =>
      cases h
      exact ⟨.error fault, rfl, .raise fault⟩
    | read next ih =>
      cases h with
      | read s h =>
        obtain ⟨result, rfl, hp⟩ := ih s h
        exact ⟨result, rfl, .read s hp⟩
    | write s next ih =>
      cases h with
      | write _ h =>
        obtain ⟨result, rfl, hp⟩ := ih h
        exact ⟨result, rfl, .write s hp⟩
    | respond kind text next ih =>
      cases h with
      | respond _ _ h =>
        obtain ⟨result, rfl, hp⟩ := ih h
        exact ⟨result, rfl, .respond kind text hp⟩
    | note n next ih =>
      cases h with
      | note _ h =>
        obtain ⟨result, rfl, hp⟩ := ih h
        exact ⟨result, rfl, .note n hp⟩
    | pause p next ih =>
      cases h with
      | pause _ h =>
        obtain ⟨result, rfl, hp⟩ := ih h
        exact ⟨result, rfl, .pause p hp⟩
    | await ready next ih =>
      cases h with
      | await _ h =>
        obtain ⟨result, rfl, hp⟩ := ih h
        exact ⟨result, rfl, .await ready hp⟩
  · rintro ⟨result, rfl, hp⟩
    induction hp with
    | done a => exact .done _
    | raise fault => exact .done _
    | read s _ ih => exact .read s ih
    | write s _ ih => exact .write s ih
    | respond kind text _ ih => exact .respond kind text ih
    | note n _ ih => exact .note n ih
    | pause p _ ih => exact .pause p ih
    | await ready _ ih => exact .await ready ih

theorem yields_during_iff {p : Program σ α} {activity : Activity} {outputs : List Output} {ending : Except Fault α} :
    (p.during activity).Yields outputs ending ↔
      ∃ result, ending = result.mapError (Fault.during activity) ∧ p.Yields outputs result := by
  rw [during, yields_bind_iff]
  simp only [yields_attempt_iff]
  constructor
  · rintro (⟨result, first, second, ⟨result', hresult, hp⟩, hend, rfl⟩ | ⟨fault, ⟨result, hresult, -⟩, -⟩)
    · cases hresult
      cases result with
      | ok a =>
        obtain ⟨rfl, rfl⟩ := yields_done_iff.mp hend
        exact ⟨.ok a, rfl, by simpa using hp⟩
      | error fault =>
        obtain ⟨rfl, rfl⟩ := yields_raise_iff.mp hend
        exact ⟨.error fault, rfl, by simpa using hp⟩
    · exact absurd hresult (by simp)
  · rintro ⟨result, rfl, hp⟩
    refine .inl ⟨result, outputs, [], ⟨result, rfl, hp⟩, ?_, (List.append_nil outputs).symm⟩
    cases result with
    | ok a => exact .done a
    | error fault => exact .raise (.during activity fault)

/-- Every program may come to an end. -/
theorem exists_yields (s : σ) (p : Program σ α) : ∃ outputs ending, p.Yields outputs ending := by
  induction p with
  | done a => exact ⟨[], .ok a, .done a⟩
  | raise fault => exact ⟨[], .error fault, .raise fault⟩
  | read next ih =>
    obtain ⟨outputs, ending, h⟩ := ih s
    exact ⟨outputs, ending, .read s h⟩
  | write s' next ih =>
    obtain ⟨outputs, ending, h⟩ := ih
    exact ⟨outputs, ending, .write s' h⟩
  | respond kind text next ih =>
    obtain ⟨outputs, ending, h⟩ := ih
    exact ⟨_, ending, .respond kind text h⟩
  | note n next ih =>
    obtain ⟨outputs, ending, h⟩ := ih
    exact ⟨_, ending, .note n h⟩
  | pause p next ih =>
    obtain ⟨outputs, ending, h⟩ := ih
    exact ⟨outputs, ending, .pause p h⟩
  | await ready next ih =>
    obtain ⟨outputs, ending, h⟩ := ih
    exact ⟨outputs, ending, .await ready h⟩

/-! ## Turns -/

/-- What a program does in one turn and then in a run of what is left of it, it does in one run. -/
theorem yields_of_slice {stops : Pause → Bool} {p : Program σ α} {s : σ} {outputs : List Output}
    {ending : Except Fault α} (h : (p.slice stops s).rest.Yields outputs ending) :
    p.Yields ((p.slice stops s).outputs ++ outputs) ending := by
  induction p generalizing s with
  | done a => exact h
  | raise fault => exact h
  | read next ih => exact .read s (ih s h)
  | write s' next ih => exact .write s' (ih h)
  | respond kind text next ih => exact .respond kind text (ih h)
  | note n next ih => exact .note n (ih h)
  | pause p next ih =>
    rw [slice] at h ⊢
    split at h
    · rename_i hstop
      rw [if_pos hstop]
      exact .pause p h
    · rename_i hstop
      rw [if_neg hstop]
      exact .pause p (ih h)
  | await ready next ih =>
    rw [slice] at h ⊢
    split at h
    · rename_i hready
      rw [if_pos hready]
      exact .await ready (ih h)
    · rename_i hready
      rw [if_neg hready]
      exact h

end ChatBot.Program
