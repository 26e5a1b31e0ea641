import ChatBot.Proofs.Program.Progress

/-!
Conditions on what a program does and how it ends, in every run, whatever it finds in the state. A condition on a program made of
others follows from conditions on these. The turns that a program has had so far are the beginning of such a run.
-/
set_option autoImplicit false

namespace ChatBot.Program
variable {σ α β : Type}

/-- Every run of the program meets the condition. -/
def Meets (p : Program σ α) (condition : List Output → Except Fault α → Prop) : Prop :=
  ∀ outputs ending, p.Yields outputs ending → condition outputs ending

variable {condition : List Output → Except Fault α → Prop} {condition' : List Output → Except Fault β → Prop}

theorem Meets.mono {weaker : List Output → Except Fault α → Prop} {p : Program σ α} (h : p.Meets condition)
    (himp : ∀ outputs ending, condition outputs ending → weaker outputs ending) : p.Meets weaker :=
  fun outputs ending hp => himp outputs ending (h outputs ending hp)

/-! ## Programs made of others -/

/-- What the second program does comes after what the first did; where the first fails, that is all. -/
theorem Meets.bind {p : Program σ α} {f : α → Program σ β} (hp : p.Meets condition)
    (hok : ∀ a first, condition first (.ok a) → (f a).Meets fun second ending => condition' (first ++ second) ending)
    (herror : ∀ outputs fault, condition outputs (.error fault) → condition' outputs (.error fault)) :
    (p >>= f).Meets condition' := by
  intro outputs ending h
  rcases yields_bind_iff.mp h with ⟨a, first, second, hfirst, hsecond, rfl⟩ | ⟨fault, hfirst, rfl⟩
  · exact hok a first (hp first _ hfirst) second ending hsecond
  · exact herror outputs fault (hp outputs _ hfirst)

theorem Meets.during {p : Program σ α} (h : p.Meets condition) (activity : Activity) :
    (p.during activity).Meets fun outputs ending =>
      ∃ result, ending = result.mapError (.during activity) ∧ condition outputs result := by
  intro outputs ending hp
  obtain ⟨result, hending, hyields⟩ := yields_during_iff.mp hp
  exact ⟨result, hending, h outputs result hyields⟩

theorem Meets.outputs_during {allowed : List Output → Prop} {p : Program σ α} (h : p.Meets fun outputs _ => allowed outputs)
    (activity : Activity) : (p.during activity).Meets fun outputs _ => allowed outputs :=
  (h.during activity).mono fun _ _ ⟨_, _, houtputs⟩ => houtputs

/-! ## Single steps -/

theorem meets_pure (a : α) : (pure a : Program σ α).Meets fun outputs ending => outputs = [] ∧ ending = .ok a :=
  fun _ _ => yields_done_iff.mp

theorem meets_ofExcept (result : Except Fault α) :
    (ofExcept result : Program σ α).Meets fun outputs ending => outputs = [] ∧ ending = result :=
  fun _ _ => yields_ofExcept_iff.mp

theorem meets_update (f : σ → α × σ) :
    (update f).Meets fun outputs ending => outputs = [] ∧ ∃ s, ending = .ok (f s).1 := by
  intro outputs ending h
  obtain ⟨s, hwrite⟩ := yields_read_iff.mp h
  obtain ⟨houtputs, hending⟩ := yields_done_iff.mp (yields_write_iff.mp hwrite)
  exact ⟨houtputs, s, hending⟩

theorem meets_get : (get : Program σ σ).Meets fun outputs ending => outputs = [] ∧ ∃ s, ending = .ok s := by
  intro outputs ending h
  obtain ⟨s, hdone⟩ := yields_read_iff.mp h
  obtain ⟨houtputs, hending⟩ := yields_done_iff.mp hdone
  exact ⟨houtputs, s, hending⟩

theorem meets_modify (f : σ → σ) : (modify f).Meets fun outputs ending => outputs = [] ∧ ending = .ok () :=
  (meets_update fun s => ((), f s)).mono fun _ _ ⟨houtputs, _, hending⟩ => ⟨houtputs, hending⟩

theorem meets_record (n : Note) : (record n : Program σ Unit).Meets fun outputs ending =>
    outputs = [.note n] ∧ ending = .ok () := by
  intro outputs ending h
  obtain ⟨rest, rfl, hdone⟩ := yields_note_iff.mp h
  obtain ⟨rfl, hending⟩ := yields_done_iff.mp hdone
  exact ⟨rfl, hending⟩

theorem meets_respond (kind : ResponseKind) (text : Text) :
    (respond kind text (done ()) : Program σ Unit).Meets fun outputs ending =>
      outputs = [.response kind text] ∧ ending = .ok () := by
  intro outputs ending h
  obtain ⟨rest, rfl, hdone⟩ := yields_respond_iff.mp h
  obtain ⟨rfl, hending⟩ := yields_done_iff.mp hdone
  exact ⟨rfl, hending⟩

theorem meets_yield (p : Pause) : (yield p : Program σ Unit).Meets fun outputs ending => outputs = [] ∧ ending = .ok () :=
  fun _ _ h => yields_done_iff.mp (yields_pause_iff.mp h)

/-! ## Turns -/

/-- What a program does in its turns, each of which finds the state as others have left it, and what is left of it. -/
def inTurns (p : Program σ α) : List ((Pause → Bool) × σ) → List Output × Program σ α
  | [] => ([], p)
  | (stops, s) :: turns =>
    let done := p.slice stops s
    (done.outputs ++ (done.rest.inTurns turns).1, (done.rest.inTurns turns).2)

theorem continues_inTurns (p : Program σ α) (turns : List ((Pause → Bool) × σ)) :
    p.Continues (p.inTurns turns).1 (p.inTurns turns).2 := by
  induction turns generalizing p with
  | nil => exact .refl p
  | cons turn turns ih => exact (continues_slice turn.1 p turn.2).trans (ih _)

/-- What holds of the beginnings of all runs holds of what the program does in any turns. -/
theorem Meets.inTurns {started : List Output → Prop} {p : Program σ α}
    (h : p.Meets fun outputs _ => ∀ begun, begun <+: outputs → started begun) (hnothing : started [])
    (turns : List ((Pause → Bool) × σ)) : started (p.inTurns turns).1 := by
  cases turns with
  | nil => exact hnothing
  | cons turn turns =>
    obtain ⟨more, ending, hrest⟩ := exists_yields turn.2 (p.inTurns (turn :: turns)).2
    have hrun := continues_inTurns p (turn :: turns) more ending hrest
    exact h _ ending hrun _ (List.prefix_append _ more)

end ChatBot.Program
