import ChatBot.Proofs.Program.Runs

/-!
The faults that may end a program, whatever it finds in the state. A program made of others fails only with their faults; an attempt
hands them on as results instead.
-/
set_option autoImplicit false

namespace ChatBot.Program
variable {σ α β : Type} {allowed : Fault → Prop}

/-- No run of the program fails but with such a fault. -/
def FailsOnly (allowed : Fault → Prop) (p : Program σ α) : Prop :=
  ∀ outputs fault, p.Yields outputs (.error fault) → allowed fault

theorem FailsOnly.mono {other : Fault → Prop} {p : Program σ α} (h : p.FailsOnly allowed)
    (himp : ∀ fault, allowed fault → other fault) : p.FailsOnly other :=
  fun outputs fault hp => himp fault (h outputs fault hp)

/-! ## Programs made of others -/

theorem FailsOnly.bind {p : Program σ α} {f : α → Program σ β} (hp : p.FailsOnly allowed)
    (hf : ∀ a, (f a).FailsOnly allowed) : (p >>= f).FailsOnly allowed := by
  intro outputs fault h
  rcases yields_bind_iff.mp h with ⟨a, first, second, -, hsecond, -⟩ | ⟨fault', hfirst, hfault⟩
  · exact hf a second fault hsecond
  · obtain rfl := Except.error.inj hfault
    exact hp outputs fault hfirst

/-- What follows an attempt fails only with faults of its own; it may be told those of the program attempted. -/
theorem FailsOnly.attempt_bind {raised : Fault → Prop} {p : Program σ α} {f : Except Fault α → Program σ β}
    (hp : p.FailsOnly raised) (hok : ∀ a, (f (.ok a)).FailsOnly allowed)
    (herror : ∀ fault, raised fault → (f (.error fault)).FailsOnly allowed) : (p.attempt >>= f).FailsOnly allowed := by
  intro outputs fault h
  rcases yields_bind_iff.mp h with ⟨result, first, second, hattempt, hsecond, -⟩ | ⟨fault', hattempt, -⟩
  · obtain ⟨ending, hending, hfirst⟩ := yields_attempt_iff.mp hattempt
    obtain rfl := Except.ok.inj hending
    cases result with
    | ok a => exact hok a second fault hsecond
    | error caught => exact herror caught (hp first caught hfirst) second fault hsecond
  · obtain ⟨ending, hending, -⟩ := yields_attempt_iff.mp hattempt
    cases hending

/-! ## Single steps -/

theorem failsOnly_pure (a : α) : (pure a : Program σ α).FailsOnly allowed := by
  rintro outputs fault ⟨⟩

theorem failsOnly_fail {fault : Fault} (h : allowed fault) : (fail fault : Program σ α).FailsOnly allowed := by
  rintro outputs fault' ⟨⟩
  exact h

theorem failsOnly_ofExcept {result : Except Fault α} (h : ∀ fault, result = .error fault → allowed fault) :
    (ofExcept result : Program σ α).FailsOnly allowed :=
  fun _ fault hyields => h fault (yields_ofExcept_iff.mp hyields).2.symm

theorem failsOnly_get : (get : Program σ σ).FailsOnly allowed := by
  intro outputs fault h
  obtain ⟨s, hdone⟩ := yields_read_iff.mp h
  cases hdone

theorem failsOnly_update (f : σ → α × σ) : (update f).FailsOnly allowed := by
  intro outputs fault h
  obtain ⟨s, hwrite⟩ := yields_read_iff.mp h
  cases yields_write_iff.mp hwrite

theorem failsOnly_modify (f : σ → σ) : (modify f).FailsOnly allowed := failsOnly_update fun s => ((), f s)

theorem failsOnly_say (text : Text) : (say text : Program σ Unit).FailsOnly allowed := by
  intro outputs fault h
  obtain ⟨_, -, hdone⟩ := yields_respond_iff.mp h
  cases hdone

theorem failsOnly_reply (text : Text) : (reply text : Program σ Unit).FailsOnly allowed := by
  intro outputs fault h
  obtain ⟨_, -, hdone⟩ := yields_respond_iff.mp h
  cases hdone

theorem failsOnly_record (n : Note) : (record n : Program σ Unit).FailsOnly allowed := by
  intro outputs fault h
  obtain ⟨_, -, hdone⟩ := yields_note_iff.mp h
  cases hdone

theorem failsOnly_yield (p : Pause) : (yield p : Program σ Unit).FailsOnly allowed := by
  intro outputs fault h
  cases yields_pause_iff.mp h

end ChatBot.Program
